/-
The text of a type expression in the notation of Kotlin: `Name`,
`Name<A, B?>?`, `(A, B) -> C?`.
-/
import TestDraft.Text.Commas
import TestDraft.TypeExpr.Basic

namespace TestDraft.TypeExpr

open Text

/-- The nullable mark, where there is one. -/
def mark (nullable : Bool) : String := if nullable then "?" else ""

mutual

/-- The text of a type without its own nullable mark; the types inside
keep theirs. -/
def bareText : TypeExpr → String
  | named n _ => n
  | generic n _ args => n ++ "<" ++ commas (texts args) ++ ">"
  | function r _ params => "(" ++ commas (texts params) ++ ") -> " ++ r

/-- The texts of some types, with their marks. -/
def texts : List TypeExpr → List String
  | [] => []
  | t :: ts => (bareText t ++ mark t.nullable) :: texts ts

end

def text (t : TypeExpr) : String := t.bareText ++ mark t.nullable

theorem texts_eq_map (ts : List TypeExpr) : texts ts = ts.map text := by
  induction ts with
  | nil => simp [texts]
  | cons t ts ih => simp [texts, ih, text]

example :
    text (generic "Map" true [named "K" false, function "V" true [named "A" false]])
      = "Map<K, (A) -> V?>?" := by
  decide

end TestDraft.TypeExpr
