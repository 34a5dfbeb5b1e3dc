/-
The pieces that a toolkit writes, as they are appended: mocks, marks,
fields, the rule, and the object under test.
-/
import TestDraft.Fragment
import TestDraft.Mocking.Toolkit

namespace TestDraft

open Fragment

-- ============================================================ frameworks

namespace Framework

/-- The symbol that an inline mock is made with. -/
def mockSymbol : Framework → Symbol
  | .mockito => .mockCall
  | .mockk => .mockkCall

/-- The symbol that marks a mocked field. -/
def fieldSymbol : Framework → Symbol
  | .mockito => .mockField
  | .mockk => .mockkField

def mockFragments (f : Framework) (t : TypeExpr) : List Fragment :=
  [symbol f.mockSymbol, own "<", foreign t.bareText, own ">()"]

def valueFragments (f : Framework) : Value → List Fragment
  | .literal text => [foreign text]
  | .mock t => f.mockFragments t

/-- The statement that creates the mocked fields. -/
def initFragments : List Fragment :=
  [indent 2, symbol .mockkInit, own ".init(this, relaxUnitFun = true)", newline]

def initText? (unit : String) (initialises : Bool) : Option String :=
  if initialises then some (join unit initFragments) else none

/-- The declaration of a mocking rule under a name. -/
def ruleFragments (rule : String) : List Fragment :=
  [indent 1, own "@get:", symbol .rule, newline,
   indent 1, own "val ", foreign rule, own ": ", symbol .methodRule, own " = ",
   symbol .mockitoJUnit, own ".rule()"]

end Framework

def Runner.fragments : Runner → List Fragment
  | mocking => [own "@", symbol .runWith, own "(", symbol .mockitoJUnitRunner, own "::class)"]
  | parameterized => [own "@", symbol .runWith, own "(", symbol .parameterized, own "::class)"]

-- ================================================================ fields

def Field.fragments (f : Framework) : Field → List Fragment
  | mock n t =>
    [indent 1, own "@", symbol f.fieldSymbol, newline,
     indent 1, own "private lateinit var ", foreign n, own ": ", foreign t.bareText]
  | value n text => [indent 1, own "private val ", foreign n, own " = ", foreign text]

def Field.text (unit : String) (f : Framework) (d : Field) : String := join unit (d.fragments f)

-- =============================================================== objects

def Override.fragments (f : Framework) (o : Override) : List Fragment :=
  let receiver := match o.function.receiver with
    | none => []
    | some t => [foreign t.text, own "."]
  [indent 3, own "override fun "] ++ receiver ++ [foreign o.function.name, own "("]
    ++ commas (o.function.params.map fun p => [foreign p.name, own ": ", foreign p.type.text])
    ++ [own ") = "] ++ f.valueFragments o.value

namespace Creation

def arguments (names : List String) : List Fragment := commas (names.map ([foreign ·]))

/-- The arguments for the constructor of a mock, if there are some. -/
def constructorArguments (names : List String) : List Fragment :=
  if names.isEmpty then []
  else
    [own ", useConstructor = ", symbol .useConstructor, own ".withArguments("]
      ++ arguments names ++ [own ")"]

def fragments (f : Framework) : Creation → List Fragment
  | construct n as => [foreign n, own "("] ++ arguments as ++ [own ")"]
  | partialMock as =>
    [symbol .mockCall, own "(defaultAnswer = ", symbol .mockitoClass, own ".CALLS_REAL_METHODS"]
      ++ constructorArguments as ++ [own ")"]
  | anonymous n as os =>
    [newline].intercalate
      (([own "object : ", foreign n, own "("] ++ arguments as ++ [own ") \x7b"])
        :: os.map (Override.fragments f) ++ [[indent 2, own "\x7d"]])

def text (unit : String) (f : Framework) (c : Creation) : String := join unit (c.fragments f)

end Creation

-- =============================================================== toolkits

namespace Toolkit

/-- The declaration of the rule, in frameworks that know rules. -/
def ruleText? (unit : String) (k : Toolkit) : Option String :=
  k.rule?.map fun r => join unit (Framework.ruleFragments r)

/-- The statement that creates the mocked fields, where the facts ask for it. -/
def initText? (unit : String) (k : Toolkit) (facts : Facts) : Option String :=
  Framework.initText? unit (facts.initialises k.framework)

end Toolkit

end TestDraft
