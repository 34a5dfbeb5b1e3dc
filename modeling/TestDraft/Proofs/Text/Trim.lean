/-
What trimming takes off a text, and what it leaves alone: blanks put at
either end go again, and a text that has none at its ends stays as it is.
-/
import Mathlib.Data.List.DropRight
import TestDraft.Text.Blank

namespace TestDraft.Text

variable {s bs : List Char}

/-- A text that holds nothing but blanks. -/
def AllBlank (s : List Char) : Prop := ∀ c ∈ s, isBlank c = true

/-- A text without a blank at either end. -/
structure NoBlankEnds (s : List Char) : Prop where
  head : ∀ c, s.head? = some c → isBlank c = false
  last : ∀ c, s.getLast? = some c → isBlank c = false

instance : Decidable (NoBlankEnds s) :=
  decidable_of_iff
    (s.head?.all (!isBlank ·) = true ∧ s.getLast?.all (!isBlank ·) = true)
    (by
      simp only [Option.all_eq_true, Bool.not_eq_true']
      exact ⟨fun h => ⟨h.1, h.2⟩, fun h => ⟨h.head, h.last⟩⟩)

/-- Blanks are blanks from either side. -/
theorem AllBlank.reverse (h : AllBlank bs) : AllBlank bs.reverse :=
  fun c hc => h c (List.mem_reverse.1 hc)

-- ============================================================ blanks go

/-- Blanks at the end are dropped. -/
theorem trimEnd_append_blanks (h : AllBlank bs) : trimEnd (s ++ bs) = trimEnd s := by
  unfold trimEnd
  rw [List.reverse_append, List.dropWhile_append_of_pos h.reverse]

/-- Blanks in front of a text are trimmed off. -/
theorem trim_blanks_append (h : AllBlank bs) : trim (bs ++ s) = trim s := by
  unfold trim
  rw [List.dropWhile_append_of_pos h]

/-- Blanks behind a text are trimmed off. -/
theorem trim_append_blanks (h : AllBlank bs) : trim (s ++ bs) = trim s := by
  unfold trim
  rw [List.dropWhile_append]
  split
  next he =>
    have hs : s.dropWhile isBlank = [] := List.isEmpty_iff.1 he
    have hb : bs.dropWhile isBlank = [] := List.dropWhile_eq_nil_iff.2 h
    rw [hs, hb]
  next => exact trimEnd_append_blanks h

/-- Trimming leaves nothing of blanks only. -/
theorem trim_eq_nil_iff : trim s = [] ↔ AllBlank s := by
  unfold trim
  constructor
  · intro h
    have hblank := List.rdropWhile_eq_nil_iff.1 h
    refine List.dropWhile_eq_nil_iff.1 ?_
    cases hd : s.dropWhile isBlank with
    | nil => rfl
    | cons c cs =>
        have hhead := List.head?_dropWhile_not isBlank s
        rw [hd] at hhead hblank
        have hc := hblank c List.mem_cons_self
        rw [hhead] at hc
        cases hc
  · intro h
    rw [List.dropWhile_eq_nil_iff.2 h]
    rfl

-- ========================================================= names stay

/-- A text that does not end in a blank keeps its end. -/
theorem trimEnd_eq_self (h : ∀ c, s.getLast? = some c → isBlank c = false) :
    trimEnd s = s := by
  refine List.rdropWhile_eq_self_iff.2 fun hne => ?_
  have hlast := h _ (List.getLast?_eq_some_getLast hne)
  simp [hlast]

/-- A text without blanks around it is left alone. -/
theorem trim_eq_self (h : NoBlankEnds s) : trim s = s := by
  have hd : s.dropWhile isBlank = s := by
    cases s with
    | nil => rfl
    | cons c cs =>
        rw [List.dropWhile_cons, if_neg]
        simp [h.head c rfl]
  unfold trim
  rw [hd]
  exact trimEnd_eq_self h.last

/-- What is kept is a beginning. -/
theorem trimEnd_isPrefix (s : List Char) : trimEnd s <+: s := List.rdropWhile_prefix isBlank s

/-- What begins with no blank is left with a blank at neither end. -/
theorem noBlankEnds_trimEnd (h : ∀ c, s.head? = some c → isBlank c = false) :
    NoBlankEnds (trimEnd s) := by
  constructor
  · intro c hc
    obtain ⟨t, ht⟩ := trimEnd_isPrefix s
    refine h c ?_
    rw [← ht, List.head?_append, hc]
    rfl
  · intro c hc
    have hne : trimEnd s ≠ [] := by
      intro hnil
      rw [hnil] at hc
      cases hc
    have hlast := List.rdropWhile_last_not isBlank s hne
    rw [List.getLast?_eq_some_getLast hne] at hc
    cases hc
    exact Bool.eq_false_iff.2 hlast

/-- Trimming leaves no blank at either end. -/
theorem noBlankEnds_trim (s : List Char) : NoBlankEnds (trim s) := by
  refine noBlankEnds_trimEnd fun c hc => ?_
  have hnot := List.head?_dropWhile_not isBlank s
  rwa [hc] at hnot

/-- Trimming leaves a stretch of the text. -/
theorem trim_isInfix (s : List Char) : trim s <:+: s :=
  (trimEnd_isPrefix _).isInfix.trans (List.dropWhile_suffix isBlank).isInfix

/-- Trimming puts nothing into a text. -/
theorem trim_sublist (s : List Char) : (trim s).Sublist s := (trim_isInfix s).sublist

/-- Nothing is left to trim. -/
theorem trim_trim (s : List Char) : trim (trim s) = trim s :=
  trim_eq_self (noBlankEnds_trim s)

/-- Two texts without blanks around them have none together. -/
theorem NoBlankEnds.append_right {t : List Char} (hs : NoBlankEnds s) (ht : NoBlankEnds t) :
    NoBlankEnds (s ++ t) := by
  constructor
  · intro c hc
    rw [List.head?_append] at hc
    cases hh : s.head? with
    | none => exact ht.head c (by simpa [hh] using hc)
    | some d => exact hs.head c (by simpa [hh] using hc)
  · intro c hc
    rw [List.getLast?_append] at hc
    cases hl : t.getLast? with
    | none => exact hs.last c (by simpa [hl] using hc)
    | some d => exact ht.last c (by simpa [hl] using hc)

end TestDraft.Text
