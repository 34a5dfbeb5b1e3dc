/-
A draft: the test classes written so far, and what has been noticed
since it was last cleared. Clearing forgets both.
-/
import TestDraft.TestClass.Output
import TestDraft.TestClass.Recipe

namespace TestDraft

open Text

/-- The tests drafted so far. -/
structure Draft where
  recipe : Recipe
  facts : Facts
  /-- All that has been appended. -/
  output : List Fragment

namespace Draft

def start (r : Recipe) : Draft := ⟨r, {}, []⟩

def framework (d : Draft) : Framework := d.recipe.toolkit.framework

def note (d : Draft) (n : Notice) : Draft := { d with facts := d.facts.note n }

def noteAll (d : Draft) (ns : List Notice) : Draft := { d with facts := d.facts.noteAll ns }

/-- The draft with nothing written and nothing noticed. -/
def clear (d : Draft) : Draft := start d.recipe

/-- The test class that an item gets in the draft as it stands. -/
def tests (d : Draft) (i : Item) (imports : List String) (parameterized mockedFields : Bool) :
    TestClass :=
  d.recipe.tests i
    { imports := imports
      parameterized := parameterized
      mockedFields := mockedFields
      initialises := d.facts.initialises d.framework }

/-- The draft with the test class of an item appended. -/
def add (d : Draft) (i : Item) (imports : List String) (parameterized mockedFields : Bool) :
    Draft :=
  { d with
    output :=
      d.output ++ (d.tests i imports parameterized mockedFields).fragments d.framework }

def text (unit : String) (d : Draft) : String := Fragment.join unit d.output

end Draft

end TestDraft
