/-
What a framework asks for, notice by notice. The names to import pile up
in a ledger, and it remembers of two kinds of notices that one has come.
The rule needs both; whichever of them comes second asks for its names.
-/
import TestDraft.Mocking.Facts

namespace TestDraft

/-- What a framework has asked for so far, and what it remembers. -/
structure Ledger where
  /-- The symbols to import, by their names. -/
  asked : Table Symbol := ∅
  /-- A parameter of the constructor is mocked. -/
  constructorMocks : Bool := false
  /-- The tests take their values from rows. -/
  parameterized : Bool := false
deriving DecidableEq

namespace Ledger

/-- The ledger with several symbols asked for. One that has been asked for
before is in it once only. -/
def require (l : Ledger) (xs : List Symbol) : Ledger :=
  { l with asked := xs.foldl (fun t x => t.insert x.name x) l.asked }

/-- The ledger with the symbols of the rule asked for, if they are due. -/
def requireRule (l : Ledger) : Ledger :=
  if l.parameterized && l.constructorMocks then l.require [.rule, .methodRule, .mockitoJUnit]
  else l

/-- The ledger of a framework after one more notice. -/
def note (f : Framework) (l : Ledger) (n : Notice) : Ledger :=
  match f, n with
  | .mockito, .constructorMocks =>
    requireRule { l.require [.runWith, .mockitoJUnitRunner, .mockField] with
      constructorMocks := true }
  | .mockito, .functionMocks | .mockito, .resultMocks => l.require [.mockCall]
  | .mockito, .abstractSubject c =>
    let l := l.require [.mockCall, .mockitoClass]
    if c.params.isEmpty then l else l.require [.useConstructor]
  | .mockito, .parameterized => requireRule { l with parameterized := true }
  | .mockk, .constructorMocks =>
    { l with constructorMocks := true }.require [.mockkInit, .mockkField]
  | .mockk, .functionMocks | .mockk, .resultMocks => l.require [.mockkCall]
  | .mockk, .abstractSubject _ => l
  | .mockk, .parameterized => { l with parameterized := true }

/-- The ledger of a framework after several more notices. -/
def noteAll (f : Framework) (l : Ledger) (ns : List Notice) : Ledger := ns.foldl (note f) l

/-- The symbols asked for, in the order of their names. -/
def required (l : Ledger) : List Symbol := l.asked.values

/-- Whether mocked fields have to be created before the subject is. -/
def initialises (l : Ledger) : Framework → Bool
  | .mockito => false
  | .mockk => l.constructorMocks

end Ledger

end TestDraft
