/-
Texts in a row, as arguments and lists of names are written.
-/

namespace TestDraft.Text

/-- Texts in a row, a comma and a blank between any two of them. -/
def commas (ts : List String) : String := ", ".intercalate ts

example : commas ["a", "b", "c"] = "a, b, c" ∧ commas [] = "" := by decide

end TestDraft.Text
