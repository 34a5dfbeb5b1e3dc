/-
Reading a signature level by level. A level is what stands inside one
pair of brackets, or outside of all; it gathers pieces until its closer
comes. Levels that are not closed yet wait in a stack, and every
character moves the innermost level on by one step.
-/
import TestDraft.Signature.Piece

namespace TestDraft.Signature

open Text

/-- What has been read of a level. -/
structure Level where
  /-- The bracket around the level; the outermost one has none. -/
  bracket : Option Bracket
  /-- The pieces so far, the latest first. -/
  pieces : List Piece
  /-- Whether there is a piece since the last comma or arrow. -/
  filled : Bool
  /-- The characters since the last delimiter, the latest first. -/
  pending : List Char

namespace Level

/-- A level of which nothing has been read. -/
def start (bracket : Option Bracket) : Level := ⟨bracket, [], false, []⟩

/-- The text since the last delimiter. -/
def segment (l : Level) : List Char := l.pending.reverse

end Level

-- ================================================================= names

/-- The text after its last colon, or the whole text if it has none. -/
def dropLabel (text : List Char) : List Char :=
  (text.reverse.takeWhile (· ≠ ':')).reverse

/-- A name without its label and the blanks around both. -/
def cleanName (text : List Char) : List Char := trim (dropLabel (trim text))

-- ================================================================ pieces

/-- The pieces with a nullable mark on the latest one. -/
def markLatest : List Piece → List Piece
  | .item name inner :: ps => .item (name ++ ['?']) inner :: ps
  | ps => ps

/-- Takes in the text since the last delimiter: nothing but blanks
changes nothing, a mark by itself goes to the latest piece, and a name
is a new piece. -/
def Level.settle (l : Level) (segment : List Char) : Except Fault Level :=
  match trim segment with
  | [] => .ok { l with pending := [] }
  | ['?'] =>
    if l.filled then .ok { l with pieces := markLatest l.pieces, pending := [] }
    else .error .danglingMark
  | c :: cs =>
    if c = '?' then .error (.misplacedMark (String.ofList (c :: cs)))
    else if l.filled then .error (.missingDivider (String.ofList (c :: cs)))
    else .ok { l with
      pieces := .item (cleanName (c :: cs)) [] :: l.pieces, filled := true, pending := [] }

/-- Whether a closer at this place would be the head of an arrow. -/
def Level.arrowDue (l : Level) : Bool := l.pending.head? == some '-'

/-- The level after an arrow whose shaft is the latest character. -/
def Level.putArrow (l : Level) : Except Fault Level := do
  let l ← l.settle l.pending.tail.reverse
  return { l with pieces := .arrow :: l.pieces, filled := false, pending := [] }

/-- The level after a comma at a position. -/
def Level.divide (l : Level) (position : Nat) : Except Fault Level := do
  let l ← l.settle l.segment
  if l.filled then return { l with filled := false } else .error (.emptyArgument position)

/-- The pieces of a level that is closed at a position. Only round
brackets may hold nothing. -/
def Level.close (l : Level) (b : Bracket) (position : Nat) :
    Except Fault (List Piece) := do
  if l.bracket ≠ some b then .error (.unexpected b.closer position) else
  let l ← l.settle l.segment
  if !l.filled && (!l.pieces.isEmpty || b ≠ .round) then .error (.emptyArgument position)
  else return l.pieces.reverse

/-- Refuses a bracket after a piece that no comma ends. -/
def Level.admit (l : Level) : Except Fault Unit :=
  if l.filled then .error (.missingDivider (String.ofList (cleanName l.segment))) else .ok ()

/-- The level with the pieces of a bracket that was opened in it. -/
def Level.enclose (l : Level) (inner : List Piece) : Level :=
  { l with pieces := .item (cleanName l.segment) inner :: l.pieces, filled := true, pending := [] }

/-- The pieces of a level where the text ends. -/
def Level.finish (l : Level) : Except Fault (List Piece) :=
  match l.bracket with
  | some b => .error (.missingCloser b)
  | none => do
    let l ← l.settle l.segment
    if !l.pieces.isEmpty && !l.filled then .error .endsWithoutType
    else return l.pieces.reverse

-- ============================================================== scanning

/-- Where a scan stands after a character. -/
inductive Progress where
  /-- Inside a level, with the ones around it. -/
  | inside (level : Level) (around : List Level)
  /-- Past the closer of the level in which the scan began. -/
  | done (pieces : List Piece)

/-- One character at a position, read in a level with others around it. -/
def step (l : Level) (around : List Level) (position : Nat) (c : Char) :
    Except Fault Progress :=
  match opened? c with
  | some b => do
    l.admit
    return .inside (.start (some b)) (l :: around)
  | none =>
    if c = ',' then do
      return .inside (← l.divide position) around
    else
      match closed? c with
      | some b =>
        if b = .angle ∧ l.arrowDue then do
          return .inside (← l.putArrow) around
        else do
          let pieces ← l.close b position
          match around with
          | [] => return .done pieces
          | outer :: around => return .inside (outer.enclose pieces) around
      | none => .ok (.inside { l with pending := c :: l.pending } around)

/-- Reads on until the level is closed in which the scan began, or to
the end of the text: the pieces of that level, and the text left. -/
def scan (l : Level) (around : List Level) (position : Nat) :
    List Char → Except Fault (List Piece × List Char)
  | [] => do return (← l.finish, [])
  | c :: cs => do
    match ← step l around position c with
    | .inside l around => scan l around (position + 1) cs
    | .done pieces => return (pieces, cs)

end TestDraft.Signature
