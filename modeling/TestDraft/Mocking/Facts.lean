/-
What has been noticed about the item that tests are drafted for, as far
as a mocking framework cares, and what the framework needs for it. Facts
only accumulate, so neither the order of notices nor their number matters.
-/
import TestDraft.Declaration.Item
import TestDraft.Mocking.Symbol

namespace TestDraft

-- ================================================================= facts

structure Facts where
  /-- A parameter of the constructor is mocked. -/
  constructorMocks : Bool := false
  /-- A parameter or a receiver of a tested function is mocked. -/
  functionMocks : Bool := false
  resultMocks : Bool := false
  abstractSubject : Bool := false
  /-- The class is abstract, and its constructor takes parameters. -/
  abstractArguments : Bool := false
  /-- The tests take their values from rows. -/
  parameterized : Bool := false
deriving DecidableEq

inductive Notice where
  | constructorMocks
  | functionMocks
  | resultMocks
  | abstractSubject (subject : ClassDecl)
  | parameterized

/-- The facts with one more noticed. -/
def Facts.note (k : Facts) : Notice → Facts
  | .constructorMocks => { k with constructorMocks := true }
  | .functionMocks => { k with functionMocks := true }
  | .resultMocks => { k with resultMocks := true }
  | .abstractSubject c =>
    { k with
      abstractSubject := true
      abstractArguments := k.abstractArguments || !c.params.isEmpty }
  | .parameterized => { k with parameterized := true }

/-- The facts with several more noticed. -/
def Facts.noteAll (k : Facts) (ns : List Notice) : Facts := ns.foldl Facts.note k

-- ================================================================= needs

/-- Whether a framework needs a symbol, given the facts. -/
def Facts.needs (k : Facts) : Framework → Symbol → Bool
  | .mockito, .runWith | .mockito, .mockitoJUnitRunner | .mockito, .mockField =>
    k.constructorMocks
  | .mockito, .mockCall => k.functionMocks || k.resultMocks || k.abstractSubject
  | .mockito, .mockitoClass => k.abstractSubject
  | .mockito, .useConstructor => k.abstractArguments
  | .mockito, .rule | .mockito, .methodRule | .mockito, .mockitoJUnit =>
    k.constructorMocks && k.parameterized
  | .mockk, .mockkInit | .mockk, .mockkField => k.constructorMocks
  | .mockk, .mockkCall => k.functionMocks || k.resultMocks
  | _, _ => false

/-- The symbols that a framework may need, in the order of their
spelling. -/
def Framework.vocabulary : Framework → List Symbol
  | .mockito =>
    [.methodRule, .mockField, .mockitoClass, .mockitoJUnit, .mockitoJUnitRunner, .rule,
     .runWith, .useConstructor, .mockCall]
  | .mockk => [.mockkField, .mockkInit, .mockkCall]

/-- The symbols that a framework needs, in the order of their spelling. -/
def Facts.required (k : Facts) (f : Framework) : List Symbol :=
  f.vocabulary.filter (k.needs f)

/-- A framework needs only what tests with it can import. -/
theorem Facts.known_of_mem_required {k : Facts} {f : Framework} {s : Symbol}
    (h : s ∈ k.required f) : s ∈ f.known := by
  have h' : s ∈ f.vocabulary := (List.mem_filter.1 h).1
  revert h'
  cases f <;> cases s <;> decide

/-- Whether mocked fields have to be created before the subject is. -/
def Facts.initialises (k : Facts) : Framework → Bool
  | .mockito => false
  | .mockk => k.constructorMocks

example : (Framework.vocabulary .mockito).map Symbol.name
    = ["MethodRule", "Mock", "Mockito", "MockitoJUnit", "MockitoJUnitRunner", "Rule", "RunWith",
       "UseConstructor", "mock"] := rfl

end TestDraft
