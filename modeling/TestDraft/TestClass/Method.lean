/-
Test methods: what is given, what is called and what is looked at, and
the lines that say so. A method keeps what its lines declare and use as
data, so the names in it can be read without reading text.
-/
import TestDraft.Capture
import TestDraft.Mocking.Toolkit

namespace TestDraft

open Text

-- ================================================================= calls

/-- What a tested function is called on. -/
inductive Callee where
  /-- Nothing. -/
  | plain
  /-- The object under test. -/
  | subject (name : String)
  /-- The local receiver. -/
  | receiver
  /-- The local receiver, where the object under test is at hand. -/
  | receiverWithin (subject : String)
deriving DecidableEq

inductive Argument where
  /-- The value of the unit type. -/
  | unit
  | variable (name : String)
deriving DecidableEq

def Argument.text : Argument → String
  | unit => TypeExpr.unitName
  | .variable n => n

/-- A call of a tested function. -/
structure Call where
  callee : Callee
  function : String
  args : List Argument
deriving DecidableEq

def receiverName : String := "receiver"

namespace Call

/-- The call without what it is called on. -/
def bareText (c : Call) : String :=
  c.function ++ "(" ++ commas (c.args.map Argument.text) ++ ")"

/-- The lines of a call that starts at a depth; `keep` is what stands in
front of it. -/
def lines (depth : Nat) (keep : String) (c : Call) : List Line :=
  match c.callee with
  | .plain => [⟨depth, keep ++ c.bareText⟩]
  | .subject s => [⟨depth, keep ++ s ++ "." ++ c.bareText⟩]
  | .receiver => [⟨depth, keep ++ receiverName ++ "." ++ c.bareText⟩]
  | .receiverWithin s =>
    [⟨depth, keep ++ "with(" ++ s ++ ") \x7b"⟩, ⟨3, receiverName ++ "." ++ c.bareText⟩,
     ⟨2, "\x7d"⟩]

end Call

-- =============================================================== methods

/-- A variable with the value it is given. -/
structure Local where
  name : String
  value : Value
deriving DecidableEq

structure TestMethod where
  title : String
  capture : Capture
  /-- The variables given to the call. -/
  locals : List Local
  receiver : Option Value
  call : Call
  /-- The variable that keeps what the call gives. -/
  actual : Option String
  /-- The variable that holds what the call should give. -/
  expected : Option String
  /-- The statement that ends a test without exceptions. -/
  assertion : String
deriving DecidableEq

/-- The name of the exception that a test expects. -/
def expectedExceptionName : String := "expectedException"

/-- The name of the exception that a test has caught. -/
def actualExceptionName : String := "actualException"

namespace TestMethod

/-- The names that the method declares, in order. -/
def declared (m : TestMethod) : List String :=
  m.locals.map (·.name)
    ++ (m.receiver.toList.map fun _ => receiverName)
    ++ (if m.capture = .caught then [expectedExceptionName, actualExceptionName] else [])
    ++ m.actual.toList

def valLine (f : Framework) (name : String) (v : Value) : Line :=
  ⟨2, "val " ++ name ++ " = " ++ f.valueText v⟩

def givenLines (f : Framework) (m : TestMethod) : List Line :=
  [⟨2, "// Given"⟩]
    ++ m.locals.map (fun l => valLine f l.name l.value)
    ++ (match m.receiver with
      | none => []
      | some v => (if m.locals.isEmpty then [] else [.blank]) ++ [valLine f receiverName v])
    ++ (match m.capture with
      | .caught =>
        [⟨2, "val " ++ expectedExceptionName ++ " = Exception()"⟩,
         ⟨2, "lateinit var " ++ actualExceptionName ++ ": Exception"⟩]
      | _ => [])
    ++ [.blank]

/-- What stands in front of a call whose value is kept. -/
def keepText : Option String → String
  | none => ""
  | some n => "val " ++ n ++ " = "

def whenLines (m : TestMethod) : List Line :=
  [⟨2, "// When"⟩]
    ++ (match m.capture with
      | .caught =>
        [⟨2, "try \x7b"⟩]
          ++ m.call.lines 3 (keepText m.actual)
          ++ [⟨2, "\x7d catch (exception: Exception) \x7b"⟩,
              ⟨3, actualExceptionName ++ " = exception"⟩, ⟨2, "\x7d"⟩]
      | _ => m.call.lines 2 (keepText m.actual))
    ++ [.blank]

/-- The statement that compares two variables. -/
def equalityText (expected actual : String) : String :=
  "assertEquals(" ++ expected ++ ", " ++ actual ++ ")"

/-- The operands of the comparison that the method makes, if it makes one. -/
def compared (m : TestMethod) : Option (String × String) :=
  match m.capture with
  | .caught => some (expectedExceptionName, actualExceptionName)
  | .marked => none
  | .none => do return (← m.expected, ← m.actual)

def thenLines (m : TestMethod) : List Line :=
  [⟨2, "// Then"⟩]
    ++ (m.compared.toList.map fun c => ⟨2, equalityText c.1 c.2⟩)
    ++ (match m.capture with
      | .none => [⟨2, m.assertion⟩]
      | .marked => [⟨2, "// Exception is thrown"⟩]
      | .caught => [])

def markText (c : Capture) : String :=
  match c with
  | .marked => "@Test(expected = Exception::class)"
  | _ => "@Test"

def lines (f : Framework) (m : TestMethod) : List Line :=
  [⟨1, markText m.capture⟩, ⟨1, "fun `" ++ m.title ++ "`() \x7b"⟩]
    ++ m.givenLines f ++ m.whenLines ++ m.thenLines ++ [⟨1, "\x7d"⟩]

end TestMethod

end TestDraft
