/-
The names that drafted tests use without declaring them: those of the
test framework, and those of the mocking framework at hand. A name is
known together with the path it is imported from.
-/

namespace TestDraft

inductive Framework where
  | mockito
  | mockk
deriving DecidableEq

/-- A name that can be imported. -/
inductive Symbol where
  | before
  | test
  | runWith
  | parameterized
  | parameters
  | assertEquals
  | mockitoJUnitRunner
  | mockitoJUnit
  | mockField
  | mockCall
  | mockitoClass
  | useConstructor
  | rule
  | methodRule
  | mockkInit
  | mockkField
  | mockkCall
deriving DecidableEq

namespace Symbol

/-- The name as the source uses it. -/
def name : Symbol → String
  | before => "Before"
  | test => "Test"
  | runWith => "RunWith"
  | parameterized => "Parameterized"
  | parameters => "Parameters"
  | assertEquals => "assertEquals"
  | mockitoJUnitRunner => "MockitoJUnitRunner"
  | mockitoJUnit => "MockitoJUnit"
  | mockField => "Mock"
  | mockCall => "mock"
  | mockitoClass => "Mockito"
  | useConstructor => "UseConstructor"
  | rule => "Rule"
  | methodRule => "MethodRule"
  | mockkInit => "MockKAnnotations"
  | mockkField => "MockK"
  | mockkCall => "mockk"

/-- The path that the name is imported from. -/
def path : Symbol → String
  | before => "org.junit.Before"
  | test => "org.junit.Test"
  | runWith => "org.junit.runner.RunWith"
  | parameterized => "org.junit.runners.Parameterized"
  | parameters => "org.junit.runners.Parameterized.Parameters"
  | assertEquals => "org.junit.Assert.assertEquals"
  | mockitoJUnitRunner => "org.mockito.junit.MockitoJUnitRunner"
  | mockitoJUnit => "org.mockito.junit.MockitoJUnit"
  | mockField => "org.mockito.Mock"
  | mockCall => "org.mockito.kotlin.mock"
  | mockitoClass => "org.mockito.Mockito"
  | useConstructor => "org.mockito.kotlin.UseConstructor"
  | rule => "org.junit.Rule"
  | methodRule => "org.junit.rules.MethodRule"
  | mockkInit => "io.mockk.MockKAnnotations"
  | mockkField => "io.mockk.impl.annotations.MockK"
  | mockkCall => "io.mockk.mockk"

/-- The names of the test framework. -/
def ofTests : List Symbol :=
  [before, test, runWith, parameterized, parameters, assertEquals]

end Symbol

namespace Framework

/-- The names that a framework brings along, in the order of their
spelling. -/
def symbols : Framework → List Symbol
  | .mockito =>
    [.methodRule, .mockField, .mockitoClass, .mockitoJUnit, .mockitoJUnitRunner, .rule,
     .useConstructor, .mockCall]
  | .mockk => [.mockkField, .mockkInit, .mockkCall]

/-- All names that tests with a framework can import. -/
def known (f : Framework) : List Symbol := Symbol.ofTests ++ f.symbols

/-- The symbol of a name, if tests with a framework can import it. -/
def symbol? (f : Framework) (name : String) : Option Symbol :=
  f.known.find? (·.name == name)

/-- Looking up a known symbol by its name finds it. -/
theorem symbol?_name {f : Framework} {s : Symbol} (h : s ∈ f.known) :
    f.symbol? s.name = some s := by
  revert h
  cases f <;> cases s <;> decide

/-- The framework's own word for itself. -/
def word : Framework → String
  | .mockito => "mockito"
  | .mockk => "mockk"

def ofWord? (w : String) : Option Framework :=
  if w = "mockito" then some .mockito else if w = "mockk" then some .mockk else none

theorem ofWord?_eq_some_iff {w : String} {f : Framework} :
    ofWord? w = some f ↔ w = f.word := by
  constructor
  · intro h
    unfold ofWord? at h
    split at h
    · cases h
      assumption
    · split at h
      · cases h
        assumption
      · cases h
  · rintro rfl
    cases f <;> rfl

end Framework

end TestDraft
