/-
What can be wrong with a signature. A fault is a cause; its wording is
given in one place, and a rejection names the whole signature with it.
-/
import TestDraft.Text.Quoted
import TestDraft.TypeExpr.Basic

namespace TestDraft.Signature

open Text

-- ============================================================== brackets

/-- The two kinds of brackets in a signature. -/
inductive Bracket where
  | angle
  | round
deriving DecidableEq

def Bracket.opener : Bracket → Char
  | angle => '<'
  | round => '('

def Bracket.closer : Bracket → Char
  | angle => '>'
  | round => ')'

/-- The bracket that a character opens. -/
def opened? (c : Char) : Option Bracket :=
  if c = '<' then some .angle else if c = '(' then some .round else none

/-- The bracket that a character closes. -/
def closed? (c : Char) : Option Bracket :=
  if c = '>' then some .angle else if c = ')' then some .round else none

theorem opened?_eq_some_iff {c : Char} {b : Bracket} :
    opened? c = some b ↔ c = b.opener := by
  constructor
  · intro h
    unfold opened? at h
    split at h
    · cases h
      assumption
    · split at h
      · cases h
        assumption
      · cases h
  · rintro rfl
    cases b <;> rfl

theorem closed?_eq_some_iff {c : Char} {b : Bracket} :
    closed? c = some b ↔ c = b.closer := by
  constructor
  · intro h
    unfold closed? at h
    split at h
    · cases h
      assumption
    · split at h
      · cases h
        assumption
      · cases h
  · rintro rfl
    cases b <;> rfl

-- ================================================================ faults

/-- What is wrong with a signature. Positions count characters from the
start of the signature. -/
inductive Fault where
  /-- The pieces at the outermost level make up no type. -/
  | unparsable
  /-- A name follows another piece without a comma. -/
  | missingDivider (name : String)
  /-- A comma or a closer stands where a piece is due. -/
  | emptyArgument (position : Nat)
  /-- A closer stands where none, or one of the other kind, is due. -/
  | unexpected (closer : Char) (position : Nat)
  /-- The text ends inside a bracket. -/
  | missingCloser (bracket : Bracket)
  /-- The text ends where a piece is due. -/
  | endsWithoutType
  /-- A nullable mark follows nothing. -/
  | danglingMark
  /-- A nullable mark stands in front of a name. -/
  | misplacedMark (name : String)
  /-- An arrow stands where a type is due. -/
  | misplacedArrow
  /-- An arrow follows something other than a list of parameters. -/
  | bareParameters
  /-- An arrow is the last piece of its level. -/
  | missingResult
  /-- A name with brackets holds no type argument. -/
  | noArguments (refusal : TypeExpr.NoArguments)
deriving DecidableEq

namespace Fault

def message : Fault → String
  | unparsable => "Input could not be parsed"
  | missingDivider n => "Missing divider before " ++ quoted n
  | emptyArgument p => "Empty type argument at position " ++ toString p
  | unexpected c p =>
    "Unexpected " ++ quoted (String.singleton c) ++ " at position " ++ toString p
  | missingCloser b => "Missing closing " ++ quoted (String.singleton b.closer)
  | endsWithoutType => "Signature ends without a type"
  | danglingMark => "Dangling nullable marker"
  | misplacedMark n => "Misplaced nullable marker in " ++ quoted n
  | misplacedArrow => "Misplaced arrow"
  | bareParameters => "Lambda parameters must be parenthesised"
  | missingResult => "Lambda without return type"
  | noArguments e => e.message

end Fault

structure Rejection where
  fault : Fault
  signature : String
deriving DecidableEq

def Rejection.message (r : Rejection) : String :=
  r.fault.message ++ ": " ++ quoted r.signature

example : Rejection.message ⟨.unexpected ')' 4, "List)"⟩
    = "Unexpected \x27)\x27 at position 4: \x27List)\x27" := by
  decide +kernel

end TestDraft.Signature
