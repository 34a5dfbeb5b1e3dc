/-
Texts in the order of their code points.
-/

namespace TestDraft.Text

/-- Puts a text in front of the first one that does not precede it. -/
def insertInOrder (s : String) : List String → List String
  | [] => [s]
  | t :: ts => if t < s then t :: insertInOrder s ts else s :: t :: ts

/-- The texts in ascending order; equal ones are all kept. -/
def inOrder : List String → List String
  | [] => []
  | s :: ss => insertInOrder s (inOrder ss)

-- Upper case comes before lower case, the shorter text before its continuation.
example : inOrder ["mock", "Mock", "M", "mock"] = ["M", "Mock", "mock", "mock"] := by decide

end TestDraft.Text
