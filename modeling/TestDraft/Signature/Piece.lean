/-
The pieces of a signature between its commas, brackets and arrows, and
the types they make up. Pieces that stand side by side are grouped from
the left: a piece, an arrow and a piece make a function type, any other
piece makes a type of its own.
-/
import TestDraft.Signature.Fault
import TestDraft.Text.Blank

namespace TestDraft.Signature

open Text

inductive Piece where
  | arrow
  /-- A name, which may be empty, and the pieces in its brackets. -/
  | item (name : List Char) (inner : List Piece)
deriving Inhabited

/-- A name and whether it ends in the nullable mark, which is taken off
with the blanks in front of it. -/
def splitMark (name : List Char) : List Char × Bool :=
  if name.getLast? = some '?' then (trimEnd name.dropLast, true) else (name, false)

mutual

/-- The type that a piece makes by itself. -/
def Piece.toType : Piece → Except Fault TypeExpr
  | .arrow => .error .misplacedArrow
  | .item name [] =>
    .ok (.named (String.ofList (splitMark name).1) (splitMark name).2)
  | .item name (p :: ps) => do
    let args ← group (p :: ps)
    (TypeExpr.applied (String.ofList (splitMark name).1) (splitMark name).2 args).mapError
      Fault.noArguments

/-- The types that pieces side by side make up. -/
def group : List Piece → Except Fault (List TypeExpr)
  | [] => .ok []
  | [_, .arrow] => .error .missingResult
  | .arrow :: .arrow :: _ :: _ => .error .bareParameters
  | .item name inner :: .arrow :: result :: rest => do
    if name ≠ [] then .error .bareParameters else
    let r ← result.toType
    let params ← group inner
    let types ← group rest
    return .function r.name r.nullable params :: types
  | p :: rest => do
    let t ← p.toType
    let types ← group rest
    return t :: types

end

/-- The type that the pieces at the outermost level make up: one piece
by itself, or two with an arrow between them. -/
def rootType : List Piece → Except Fault TypeExpr
  | [p] => p.toType
  | [p, .arrow, r] => do
    match ← group [p, .arrow, r] with
    | [t] => return t
    | _ => .error .unparsable
  | _ => .error .unparsable

end TestDraft.Signature
