/-
Lines of source text, and the text they make up. A line knows its depth
of indentation; the unit of indentation is chosen only when the text is
written, so it can touch nothing but the start of a line.
-/

namespace TestDraft.Text

-- =========================================================== indentation

/-- A text with another one behind it, `n` times over. -/
def appendTimes (text unit : String) : Nat → String
  | 0 => text
  | n + 1 => appendTimes (text ++ unit) unit n

/-- A text, `n` times over. The empty text is not counted out, so a
level of any size costs nothing where the unit is empty. -/
def repeated (unit : String) (n : Nat) : String :=
  if unit = "" then "" else appendTimes "" unit n

/-- The text in front of the first repetition is left alone. -/
theorem appendTimes_eq (text unit : String) (n : Nat) :
    appendTimes text unit n = text ++ appendTimes "" unit n := by
  induction n generalizing text with
  | zero => simp [appendTimes]
  | succ n ih =>
    rw [appendTimes, appendTimes, ih (text ++ unit), ih ("" ++ unit)]
    simp [String.append_assoc]

@[simp] theorem repeated_zero (unit : String) : repeated unit 0 = "" := by
  unfold repeated
  split <;> rfl

/-- One more time puts the text once more in front. -/
theorem repeated_succ (unit : String) (n : Nat) :
    repeated unit (n + 1) = unit ++ repeated unit n := by
  by_cases h : unit = ""
  · simp [repeated, h]
  · simp only [repeated, if_neg h]
    rw [appendTimes, appendTimes_eq]
    simp

/-- Two levels of indentation, one behind the other, are one. -/
theorem repeated_add (unit : String) (m n : Nat) :
    repeated unit (m + n) = repeated unit m ++ repeated unit n := by
  induction m with
  | zero => simp
  | succ m ih => rw [Nat.succ_add, repeated_succ, repeated_succ, ih, String.append_assoc]

/-- The indentation at a level; below level zero there is none. -/
def indentation (unit : String) (level : Int) : String :=
  repeated unit level.toNat

-- ================================================================= lines

/-- A line of source text, without its indentation and its end. -/
structure Line where
  depth : Nat
  text : String
deriving DecidableEq

namespace Line

def blank : Line := ⟨0, ""⟩

def render (unit : String) (l : Line) : String :=
  repeated unit l.depth ++ l.text

end Line

/-- The text of the lines, each with its end. -/
def sourceText (unit : String) : List Line → String
  | [] => ""
  | l :: ls => l.render unit ++ "\n" ++ sourceText unit ls

@[simp] theorem sourceText_nil (unit : String) : sourceText unit [] = "" := rfl

/-- Lines are written one by one, each with its indentation and its end. -/
theorem sourceText_cons (unit : String) (n : Nat) (s : String) (ls : List Line) :
    sourceText unit (⟨n, s⟩ :: ls) = repeated unit n ++ s ++ "\n" ++ sourceText unit ls := rfl

/-- An empty line is not indented. -/
theorem sourceText_blank (unit : String) (ls : List Line) :
    sourceText unit (.blank :: ls) = "\n" ++ sourceText unit ls := by
  rw [Line.blank, sourceText_cons, repeated_zero]
  rfl

/-- The text of more lines follows that of the first ones. -/
@[simp] theorem sourceText_append (unit : String) (ls ms : List Line) :
    sourceText unit (ls ++ ms) = sourceText unit ls ++ sourceText unit ms := by
  induction ls with
  | nil => simp [sourceText]
  | cons l ls ih => simp [sourceText, ih, String.append_assoc]

example : indentation "ab" 2 = "abab" ∧ indentation "ab" (-1) = "" := by decide

end TestDraft.Text
