/-
Test classes as they are appended, fragment by fragment. A block that is
opened inside of another one brings the unit of indentation once more, in
the middle of the text that it is put into.
-/
import TestDraft.Mocking.Snippet
import TestDraft.TestClass.Basic

namespace TestDraft

open Fragment

-- ================================================================= calls

namespace Callee

/-- What stands between the start of a statement and the called function. -/
def opening : Callee → List Fragment
  | plain => []
  | subject s => [foreign s, own "."]
  | receiver => [own receiverName, own "."]
  | receiverWithin s =>
    [own "with(", foreign s, own ") \x7b", newline, indent 3, own receiverName, own "."]

/-- What closes a block that a call stands in. -/
def closing : Callee → List Fragment
  | receiverWithin _ => [newline, indent 2, own "\x7d"]
  | _ => []

end Callee

def Argument.fragment : Argument → Fragment
  | unit => own TypeExpr.unitName
  | .variable n => foreign n

def Call.fragments (c : Call) : List Fragment :=
  c.callee.opening ++ [foreign c.function, own "("] ++ commas (c.args.map fun a => [a.fragment])
    ++ [own ")"] ++ c.callee.closing

-- =============================================================== methods

namespace TestMethod

def valFragments (f : Framework) (name : Fragment) (v : Value) : List Fragment :=
  [indent 2, own "val ", name, own " = "] ++ f.valueFragments v ++ [newline]

def givenFragments (f : Framework) (m : TestMethod) : List Fragment :=
  [indent 2, own "// Given", newline]
    ++ m.locals.flatMap (fun l => valFragments f (foreign l.name) l.value)
    ++ (match m.receiver with
      | none => []
      | some v => (if m.locals.isEmpty then [] else [newline])
        ++ valFragments f (own receiverName) v)
    ++ (if m.capture = .caught then
        [indent 2, own "val ", own expectedExceptionName, own " = Exception()", newline,
         indent 2, own "lateinit var ", own actualExceptionName, own ": Exception", newline]
      else [])
    ++ [newline]

/-- What stands in front of a call whose value is kept. -/
def keepFragments : Option String → List Fragment
  | none => []
  | some n => [own "val ", foreign n, own " = "]

/-- The opening of an attempt: the call in it is written as everywhere
else, behind one more unit of indentation. -/
def tryFragments : List Fragment := [indent 2, own "try \x7b", newline, indent 1]

def catchFragments : List Fragment :=
  [newline, indent 2, own "\x7d catch (exception: Exception) \x7b", newline,
   indent 3, own actualExceptionName, own " = exception", newline, indent 2, own "\x7d"]

def whenFragments (m : TestMethod) : List Fragment :=
  [indent 2, own "// When", newline]
    ++ (if m.capture = .caught then tryFragments else [])
    ++ [indent 2] ++ keepFragments m.actual ++ m.call.fragments
    ++ (if m.capture = .caught then catchFragments else [])
    ++ gap

def equalityFragments (expected actual : Fragment) : List Fragment :=
  [indent 2, symbol .assertEquals, own "(", expected, own ", ", actual, own ")", newline]

def thenFragments (m : TestMethod) : List Fragment :=
  [indent 2, own "// Then", newline]
    ++ (match m.capture with
      | .caught => equalityFragments (own expectedExceptionName) (own actualExceptionName)
      | .marked => [indent 2, own "// Exception is thrown", newline]
      | .none =>
        (match m.expected, m.actual with
          | some e, some a => equalityFragments (foreign e) (foreign a)
          | _, _ => [])
        ++ [indent 2, foreign m.assertion, newline])

def markFragments (c : Capture) : List Fragment :=
  [indent 1, own "@", symbol .test]
    ++ (if c = .marked then [own "(expected = Exception::class)"] else [])
    ++ [newline]

def fragments (f : Framework) (m : TestMethod) : List Fragment :=
  markFragments m.capture
    ++ [indent 1, own "fun `", foreign m.title, own "`() \x7b", newline]
    ++ m.givenFragments f ++ m.whenFragments ++ m.thenFragments
    ++ [indent 1, own "\x7d", newline]

end TestMethod

-- =============================================================== columns

namespace Column

def fragments (c : Column) : List Fragment :=
  [indent 1, own "private val ", foreign c.name, own ": ", foreign c.type.text]

/-- The constructor that takes the columns, if there are some. -/
def constructorFragments : List Column → List Fragment
  | [] => []
  | cs =>
    [own "(", newline] ++ [own ",", newline].intercalate (cs.map fragments) ++ [newline, own ")"]

/-- The object that holds the row of values. -/
def rowFragments (f : Framework) (cs : List Column) : List Fragment :=
  [indent 1, own "companion object \x7b", newline,
   indent 2, own "@JvmStatic", newline,
   indent 2, own "@", symbol .parameters, newline,
   indent 2, own "fun data(): Collection<Array<*>> = listOf(", newline,
   indent 3, own "arrayOf("]
    ++ commas (cs.map fun c => f.valueFragments c.value)
    ++ [own ")", newline, indent 2, own ")", newline, indent 1, own "\x7d"]

end Column

-- =============================================================== fixture

namespace Fixture

def fieldsFragments (f : Framework) (ds : List Field) : List Fragment :=
  if ds.isEmpty then [] else gap.intercalate (ds.map (Field.fragments f)) ++ gap

/-- The method that runs before each test. -/
def setUpFragments (f : Framework) (x : Fixture) : List Fragment :=
  [indent 1, own "@", symbol .before, newline, indent 1, own "fun setUp() \x7b", newline]
    ++ (if x.initialises then Framework.initFragments else [])
    ++ [indent 2, foreign x.subject, own " = "] ++ x.creation.fragments f ++ [newline]
    ++ [indent 1, own "\x7d"] ++ gap

def fragments (f : Framework) (x : Fixture) : List Fragment :=
  (x.rule.toList.flatMap fun r => Framework.ruleFragments r ++ gap)
    ++ [indent 1, own "private lateinit var ", foreign x.subject, own ": ", foreign x.type] ++ gap
    ++ fieldsFragments f x.fields
    ++ x.setUpFragments f

end Fixture

-- =============================================================== classes

namespace TestClass

def packageFragments (package : String) : List Fragment := [own "package ", foreign package] ++ gap

/-- The paths to import, and an empty line behind them if there are some. -/
def importFragments (paths : List String) : List Fragment :=
  paths.flatMap (fun p => [own "import ", foreign p, newline])
    ++ (if paths.isEmpty then [] else [newline])

/-- What stands behind the imports. -/
def bodyFragments (f : Framework) (t : TestClass) : List Fragment :=
  (t.runner.toList.flatMap fun r => r.fragments ++ [newline])
    ++ [own "class ", foreign (t.name ++ "Test")]
    ++ t.columns.toList.flatMap Column.constructorFragments ++ [own " \x7b", newline]
    ++ (t.columns.toList.flatMap fun cs => Column.rowFragments f cs ++ gap)
    ++ t.fixture.toList.flatMap (Fixture.fragments f)
    ++ [newline].intercalate (t.methods.map (TestMethod.fragments f))
    ++ [own "\x7d", newline]

def fragments (f : Framework) (t : TestClass) : List Fragment :=
  packageFragments t.package ++ importFragments t.imports ++ t.bodyFragments f

end TestClass

end TestDraft
