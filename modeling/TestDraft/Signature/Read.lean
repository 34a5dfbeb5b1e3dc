/-
Signatures of types, read as type expressions.

    Name            a type by its name
    Name?           the same, nullable
    Name<A, B?>?    type arguments, each a signature
    (A, B) -> C?    a function type; a parameter may carry a label

Blanks around names count for nothing.
-/
import TestDraft.Signature.Level

namespace TestDraft.Signature

/-- The type of a signature, or what is wrong with it. -/
def readChars (text : List Char) : Except Fault TypeExpr := do
  let (pieces, _) ← scan (.start none) [] 0 text
  let t ← rootType pieces
  if t.name = "" then .error .unparsable else return t

/-- The type of a signature, or its rejection. -/
def read (signature : String) : Except Rejection TypeExpr :=
  (readChars signature.toList).mapError (⟨·, signature⟩)

example :
    (read "Map<String, (n: Int) -> Unit ?>").toOption
      = some (.generic "Map" false
          [.named "String" false, .function "Unit" true [.named "Int" false]]) := by
  decide +kernel

end TestDraft.Signature
