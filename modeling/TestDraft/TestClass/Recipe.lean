/-
The test class of an item: one test for each function with a body, and
one more where exceptions are captured. In a parameterized class the
columns, the row and the arguments of the calls come from one list.
-/
import TestDraft.TestClass.Basic
import TestDraft.Text.Order

namespace TestDraft

open Text

/-- How tests are drafted: by what means, with which words, and what
becomes of exceptions. -/
structure Recipe where
  toolkit : Toolkit
  /-- The name of the object under test. -/
  subject : String
  /-- The name of the value that a call gives. -/
  actual : String
  /-- The statement that ends a test. -/
  assertion : String
  capture : Capture

-- =============================================================== columns

/-- The columns for one function: its parameters, and its expected value
if it has a result. -/
def FunctionDecl.entries (f : FunctionDecl) : List Parameter :=
  f.params.map (fun p => ⟨f.columnName p, p.type⟩)
    ++ (if f.hasResult then [⟨f.expectedName, f.result⟩] else [])

def Toolkit.columns (k : Toolkit) (fs : List FunctionDecl) : List Column :=
  (fs.flatMap FunctionDecl.entries).map fun e => ⟨e.name, e.type, k.value e.name e.type⟩

-- =============================================================== methods

/-- Whether several of the functions share the name and the receiver of
this one. -/
def FunctionDecl.overloaded (f : FunctionDecl) (fs : List FunctionDecl) : Bool :=
  1 < (fs.filter fun g => g.name == f.name && g.receiver == f.receiver).length

/-- The outcome that a title names. -/
def Capture.outcome : Capture → String
  | none => "_"
  | _ => "throws exception"

def FunctionDecl.title (f : FunctionDecl) (overloaded : Bool) (c : Capture) : String :=
  "Given _ when " ++ f.titleName
    ++ (if overloaded then
          "(" ++ commas (f.params.map (·.type.text)) ++ ")"
        else "")
    ++ " then " ++ c.outcome

/-- What a function is called on; `subject` names the object under test
where there is one. -/
def FunctionDecl.callee (f : FunctionDecl) : (subject : Option String) → Callee
  | none => if f.receiver.isNone then .plain else .receiver
  | some s => if f.receiver.isNone then .subject s else .receiverWithin s

def FunctionDecl.argument (f : FunctionDecl) (parameterized : Bool) (p : Parameter) : Argument :=
  if p.type.isUnit then .unit
  else if parameterized then .variable (f.columnName p)
  else .variable p.name

/-- The test of a function that deals with exceptions in the given way. -/
def Recipe.method (r : Recipe) (subject : Option String) (parameterized : Bool)
    (fs : List FunctionDecl) (f : FunctionDecl) (c : Capture) : TestMethod where
  title := f.title (f.overloaded fs) c
  capture := c
  locals :=
    if parameterized then []
    else f.params.map fun p => ⟨p.name, r.toolkit.value p.name p.type⟩
  receiver := f.receiver.map fun t => r.toolkit.value t.name t
  call := ⟨f.callee subject, f.name, f.params.map (f.argument parameterized)⟩
  actual := if c = .none && f.hasResult then some r.actual else none
  expected := if parameterized && f.hasResult then some f.expectedName else none
  assertion := r.assertion

/-- The ways of dealing with exceptions that a function gets a test for. -/
def Recipe.captures (r : Recipe) : List Capture :=
  if r.capture = .none then [.none] else [.none, r.capture]

def Recipe.methods (r : Recipe) (subject : Option String) (parameterized : Bool)
    (fs : List FunctionDecl) : List TestMethod :=
  fs.flatMap fun f => r.captures.map (r.method subject parameterized fs f)

-- =============================================================== classes

/-- What a test class takes from outside its item. -/
structure Occasion where
  /-- The paths to import, in any order. -/
  imports : List String
  parameterized : Bool
  /-- Whether some field is to be mocked. -/
  mockedFields : Bool
  /-- Whether the mocked fields are created before the object under test. -/
  initialises : Bool
deriving DecidableEq

def Recipe.runner? (r : Recipe) (o : Occasion) : Option Runner :=
  if o.parameterized then some .parameterized
  else if o.mockedFields then r.toolkit.framework.runner?
  else none

/-- The fixture of the tests of a class. -/
def Recipe.fixture (r : Recipe) (c : ClassDecl) (o : Occasion) : Fixture where
  rule := if o.parameterized && o.mockedFields then r.toolkit.rule? else none
  subject := r.subject
  type := c.name
  fields := c.params.map r.toolkit.field
  initialises := o.initialises
  creation := r.toolkit.creation c

def Recipe.classTests (r : Recipe) (c : ClassDecl) (o : Occasion) : TestClass where
  package := c.package
  imports := inOrder o.imports
  runner := r.runner? o
  name := c.name
  columns := if o.parameterized then some (r.toolkit.columns (concrete c.functions)) else none
  fixture := some (r.fixture c o)
  methods := r.methods (some r.subject) o.parameterized (concrete c.functions)

/-- The test class of the functions of a file. -/
def Recipe.fileTests (r : Recipe) (f : FileDecl) (name : String) (o : Occasion) :
    TestClass where
  package := f.package
  imports := inOrder o.imports
  runner := if o.parameterized then some .parameterized else none
  name := name
  columns := if o.parameterized then some (r.toolkit.columns (concrete f.functions)) else none
  fixture := none
  methods := r.methods none o.parameterized (concrete f.functions)

def Recipe.tests (r : Recipe) (i : Item) (o : Occasion) : TestClass :=
  match i with
  | .ofClass c => r.classTests c o
  | .ofFile f n => r.fileTests f n o

end TestDraft
