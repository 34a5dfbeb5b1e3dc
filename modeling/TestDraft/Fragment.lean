/-
What a writer appends to a text: indentation, words of its own, names
that some path has to be imported for, and words that it was given. A
text is the fragments one behind the other, so the unit of indentation
goes wherever a writer puts it, in the middle of a line as well.
-/
import TestDraft.Mocking.Symbol
import TestDraft.Text.Line

namespace TestDraft

open Text

inductive Fragment where
  /-- The unit of indentation, so many times. -/
  | indent (level : Nat)
  /-- The writer's own words. -/
  | own (text : String)
  /-- A name that has to be imported. -/
  | symbol (symbol : Symbol)
  /-- Words that come from outside. -/
  | foreign (text : String)
deriving DecidableEq

namespace Fragment

-- ================================================================ texts

def text (unit : String) : Fragment → String
  | indent n => repeated unit n
  | own s => s
  | symbol x => x.name
  | foreign s => s

/-- The text of several fragments. -/
def join (unit : String) (ps : List Fragment) : String := String.join (ps.map (text unit))

variable {unit : String}

@[simp] theorem text_indent (n : Nat) : (indent n).text unit = repeated unit n := rfl

@[simp] theorem text_own (s : String) : (own s).text unit = s := rfl

@[simp] theorem text_symbol (x : Symbol) : (symbol x).text unit = x.name := rfl

@[simp] theorem text_foreign (s : String) : (foreign s).text unit = s := rfl

@[simp] theorem join_nil : join unit [] = "" := rfl

@[simp] theorem join_cons (p : Fragment) (ps : List Fragment) :
    join unit (p :: ps) = p.text unit ++ join unit ps := String.join_cons

/-- Texts are put one behind the other. -/
@[simp] theorem join_append (ps qs : List Fragment) :
    join unit (ps ++ qs) = join unit ps ++ join unit qs := by
  rw [join, List.map_append, String.join_append]
  rfl

-- =========================================================== separators

/-- The end of a line. -/
def newline : Fragment := own "\n"

@[simp] theorem text_newline : newline.text unit = "\n" := rfl

/-- The end of a line with an empty one behind it. -/
def gap : List Fragment := [newline, newline]

/-- Fragments with commas between any two of them. -/
def commas (pss : List (List Fragment)) : List Fragment := [own ", "].intercalate pss

-- ============================================================== symbols

/-- The names among the fragments that have to be imported. -/
def symbols (ps : List Fragment) : List Symbol :=
  ps.filterMap fun
    | symbol x => some x
    | _ => none

end Fragment

end TestDraft
