/-
Settings: what a session is set up with.
-/
import TestDraft.TestClass.Recipe

namespace TestDraft

/-- The settings of a session. -/
structure Settings where
  framework : Framework
  subject : String
  /-- The name of the value that a call gives. -/
  actual : String
  assertion : String
  capture : Capture
  parameterized : Bool
  rule : String
deriving DecidableEq

namespace Settings

/-- The name of the mocking rule where none is set. -/
def standardRule : String := "mockitoRule"

/-- The recipe that the settings give with a registry of literals. -/
def recipe (s : Settings) (r : Registry) : Recipe where
  toolkit := ⟨s.framework, s.rule, r⟩
  subject := s.subject
  actual := s.actual
  assertion := s.assertion
  capture := s.capture

end Settings

end TestDraft
