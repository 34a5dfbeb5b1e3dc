/-
Sets of code points as closed ranges, the form in which character
properties are tabulated here.
-/

namespace TestDraft.Text

/-- A set of code points, as closed ranges in ascending order. -/
abbrev Ranges := List (Nat × Nat)

namespace Ranges

/-- Whether one of the ranges holds `n`. -/
def covers (rs : Ranges) (n : Nat) : Bool :=
  rs.any fun r => r.1 ≤ n && n ≤ r.2

/-- The number of code points in the set. -/
def size : Ranges → Nat
  | [] => 0
  | r :: rs => r.2 + 1 - r.1 + size rs

/-- Whether the ranges ascend and leave a gap between neighbours. -/
def apart : Ranges → Bool
  | [] => true
  | [r] => r.1 ≤ r.2
  | r :: s :: rs => r.1 ≤ r.2 && r.2 + 1 < s.1 && apart (s :: rs)

end Ranges

end TestDraft.Text
