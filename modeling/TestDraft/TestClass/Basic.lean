/-
Test classes, and the lines that make one up: package, imports, runner,
columns of a parameterized class, fixture of a class under test, and the
test methods with one empty line between them.
-/
import TestDraft.TestClass.Method

namespace TestDraft

open Text

-- =============================================================== columns

/-- A column of a parameterized class: a name of the constructor, and
the value that the row has for it. -/
structure Column where
  name : String
  type : TypeExpr
  value : Value
deriving DecidableEq

namespace Column

def text (c : Column) : String := "private val " ++ c.name ++ ": " ++ c.type.text

/-- The lines of the constructor, a comma after each but the last. -/
def lines : List Column → List Line
  | [] => []
  | [c] => [⟨1, c.text⟩]
  | c :: cs => ⟨1, c.text ++ ","⟩ :: lines cs

theorem lines_cons_cons (c d : Column) (cs : List Column) :
    lines (c :: d :: cs) = ⟨1, c.text ++ ","⟩ :: lines (d :: cs) := rfl

/-- The lines of the object that holds the row of values. -/
def rowLines (f : Framework) (cs : List Column) : List Line :=
  [⟨1, "companion object \x7b"⟩,
   ⟨2, "@JvmStatic"⟩,
   ⟨2, "@Parameters"⟩,
   ⟨2, "fun data(): Collection<Array<*>> = listOf("⟩,
   ⟨3, "arrayOf(" ++ commas (cs.map fun c => f.valueText c.value) ++ ")"⟩,
   ⟨2, ")"⟩,
   ⟨1, "\x7d"⟩]

end Column

-- =============================================================== fixture

/-- What surrounds the tests of a class. -/
structure Fixture where
  rule : Option String
  subject : String
  type : String
  fields : List Field
  /-- Whether the mocked fields are created before the object. -/
  initialises : Bool
  creation : Creation
deriving DecidableEq

namespace Fixture

/-- The lines of the method that runs before each test. -/
def setUpLines (f : Framework) (x : Fixture) : List Line :=
  [⟨1, "@Before"⟩, ⟨1, "fun setUp() \x7b"⟩]
    ++ (if x.initialises then [⟨2, Framework.initText⟩] else [])
    ++ [⟨2, x.subject ++ " = " ++ x.creation.head⟩]
    ++ x.creation.tail f
    ++ [⟨1, "\x7d"⟩, .blank]

def lines (f : Framework) (x : Fixture) : List Line :=
  (x.rule.toList.flatMap fun r => Framework.ruleLines r ++ [.blank])
    ++ [⟨1, "private lateinit var " ++ x.subject ++ ": " ++ x.type⟩, .blank]
    ++ x.fields.flatMap (fun d => d.lines f ++ [.blank])
    ++ x.setUpLines f

end Fixture

-- =============================================================== classes

structure TestClass where
  package : String
  /-- The imported paths, as they are listed. -/
  imports : List String
  runner : Option Runner
  /-- The name of what is tested. -/
  name : String
  /-- The columns, if the class is parameterized. -/
  columns : Option (List Column)
  /-- The fixture, if a class is tested. -/
  fixture : Option Fixture
  methods : List TestMethod
deriving DecidableEq

namespace TestClass

def importLines (t : TestClass) : List Line :=
  t.imports.map (fun i => ⟨0, "import " ++ i⟩) ++ (if t.imports.isEmpty then [] else [.blank])

/-- The lines that open the class, with its constructor. -/
def openingLines (t : TestClass) : List Line :=
  match t.columns with
  | none | some [] => [⟨0, "class " ++ t.name ++ "Test \x7b"⟩]
  | some cs => [⟨0, "class " ++ t.name ++ "Test("⟩] ++ Column.lines cs ++ [⟨0, ") \x7b"⟩]

/-- The lines in front of the test methods. -/
def headerLines (f : Framework) (t : TestClass) : List Line :=
  [⟨0, "package " ++ t.package⟩, .blank]
    ++ t.importLines
    ++ (t.runner.toList.map fun r => ⟨0, r.text⟩)
    ++ t.openingLines
    ++ (t.columns.toList.flatMap fun cs => Column.rowLines f cs ++ [.blank])
    ++ (t.fixture.toList.flatMap (Fixture.lines f))

/-- Blocks of lines with an empty line between any two of them. -/
def separated : List (List Line) → List Line
  | [] => []
  | [b] => b
  | b :: bs => b ++ .blank :: separated bs

theorem separated_cons_cons (b d : List Line) (bs : List (List Line)) :
    separated (b :: d :: bs) = b ++ .blank :: separated (d :: bs) := rfl

def lines (f : Framework) (t : TestClass) : List Line :=
  t.headerLines f ++ separated (t.methods.map (TestMethod.lines f)) ++ [⟨0, "\x7d"⟩]

end TestClass

end TestDraft
