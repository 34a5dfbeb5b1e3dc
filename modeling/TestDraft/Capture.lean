/-
How drafted tests deal with exceptions.
-/

namespace TestDraft

/-- The way in which a test expects its call to throw. -/
inductive Capture where
  /-- It does not expect that. -/
  | none
  /-- The mark of the test says so. -/
  | marked
  /-- The test catches what is thrown and compares it. -/
  | caught
deriving DecidableEq

end TestDraft
