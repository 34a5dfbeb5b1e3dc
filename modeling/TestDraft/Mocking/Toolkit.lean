/-
The means by which tests are drafted: a mocking framework, the name of
its rule, and the registry of literals. They decide how a value, a field
and an object under test are made.
-/
import TestDraft.Mocking.Facts
import TestDraft.Text.Line
import TestDraft.Value.Registry

namespace TestDraft

open Text

-- ============================================================ frameworks

namespace Framework

def mockText (f : Framework) (t : TypeExpr) : String :=
  (match f with | .mockito => "mock" | .mockk => "mockk") ++ "<" ++ t.bareText ++ ">()"

def valueText (f : Framework) : Value → String
  | .literal text => text
  | .mock t => f.mockText t

/-- The mark of a mocked field. -/
def fieldMark : Framework → String
  | .mockito => "@Mock"
  | .mockk => "@MockK"

/-- The statement that creates the mocked fields. -/
def initText : String := "MockKAnnotations.init(this, relaxUnitFun = true)"

/-- The lines that declare a mocking rule under a name. -/
def ruleLines (rule : String) : List Line :=
  [⟨1, "@get:Rule"⟩, ⟨1, "val " ++ rule ++ ": MethodRule = MockitoJUnit.rule()"⟩]

end Framework

-- =============================================================== runners

/-- What runs the tests of a class, when it is not the default. -/
inductive Runner where
  /-- Creates the mocked fields. -/
  | mocking
  /-- Runs the tests once for each row of values. -/
  | parameterized
deriving DecidableEq

/-- The line that names a runner. -/
def Runner.text : Runner → String
  | mocking => "@RunWith(MockitoJUnitRunner::class)"
  | parameterized => "@RunWith(Parameterized::class)"

/-- The runner that a framework has for mocked fields. -/
def Framework.runner? : Framework → Option Runner
  | .mockito => some .mocking
  | .mockk => none

-- ================================================================ fields

/-- A field of a test class that holds an argument of the constructor. -/
inductive Field where
  /-- A mock that the framework creates. -/
  | mock (name : String) (type : TypeExpr)
  /-- A value written down on the spot. -/
  | value (name : String) (text : String)
deriving DecidableEq

namespace Field

def name : Field → String
  | mock n _ => n
  | value n _ => n

def lines (f : Framework) : Field → List Line
  | mock n t => [⟨1, f.fieldMark⟩, ⟨1, "private lateinit var " ++ n ++ ": " ++ t.bareText⟩]
  | value n text => [⟨1, "private val " ++ n ++ " = " ++ text⟩]

end Field

-- =============================================================== objects

/-- A function given to an abstract class on the spot. -/
structure Override where
  function : FunctionDecl
  value : Value
deriving DecidableEq

def Override.text (f : Framework) (o : Override) : String :=
  let receiver := match o.function.receiver with
    | none => ""
    | some t => t.text ++ "."
  "override fun " ++ receiver ++ o.function.name ++ "("
    ++ commas (o.function.params.map fun p => p.name ++ ": " ++ p.type.text)
    ++ ") = " ++ f.valueText o.value

/-- How the object under test is made. -/
inductive Creation where
  /-- By its constructor. -/
  | construct (name : String) (args : List String)
  /-- As a mock that runs the methods it has. -/
  | partialMock (args : List String)
  /-- As an object of an unnamed class that fills in what is abstract. -/
  | anonymous (name : String) (args : List String) (overrides : List Override)
deriving DecidableEq

namespace Creation

def args : Creation → List String
  | construct _ as => as
  | partialMock as => as
  | anonymous _ as _ => as

/-- The start of the expression, up to the end of its line. -/
def head : Creation → String
  | construct n as => n ++ "(" ++ commas as ++ ")"
  | partialMock [] => "mock(defaultAnswer = Mockito.CALLS_REAL_METHODS)"
  | partialMock as =>
    "mock(defaultAnswer = Mockito.CALLS_REAL_METHODS, useConstructor = "
      ++ "UseConstructor.withArguments(" ++ commas as ++ "))"
  | anonymous n as _ => "object : " ++ n ++ "(" ++ commas as ++ ") \x7b"

def tail (f : Framework) : Creation → List Line
  | construct .. => []
  | partialMock .. => []
  | anonymous _ _ os => os.map (fun o => ⟨3, o.text f⟩) ++ [⟨2, "\x7d"⟩]

end Creation

-- =============================================================== toolkits

/-- A framework, the name of its rule, and the literals. -/
structure Toolkit where
  framework : Framework
  rule : String
  registry : Registry

namespace Toolkit

/-- Whether a value of a type has to be a mock. -/
def isMockable (k : Toolkit) (t : TypeExpr) : Bool := k.registry.isMockable t

def value (k : Toolkit) (name : String) (t : TypeExpr) : Value := k.registry.value name t

/-- The field for a parameter of the constructor. -/
def field (k : Toolkit) (p : Parameter) : Field :=
  match k.value p.name p.type with
  | .literal text => .value p.name text
  | .mock t => .mock p.name t

/-- The functions that an object of an unnamed class fills in. -/
def overrides (k : Toolkit) (c : ClassDecl) : List Override :=
  (abstracts c.functions).map fun f => ⟨f, k.value f.name f.result⟩

/-- How an object of an abstract class is made. -/
def abstractCreation (k : Toolkit) (c : ClassDecl) : Creation :=
  match k.framework with
  | .mockito => .partialMock c.paramNames
  | .mockk => .anonymous c.name c.paramNames (k.overrides c)

/-- How an object of a class is made. -/
def creation (k : Toolkit) (c : ClassDecl) : Creation :=
  if c.isAbstract then k.abstractCreation c else .construct c.name c.paramNames

/-- The name of the rule, in frameworks that know rules. -/
def rule? (k : Toolkit) : Option String :=
  match k.framework with
  | .mockito => some k.rule
  | .mockk => none

end Toolkit

end TestDraft
