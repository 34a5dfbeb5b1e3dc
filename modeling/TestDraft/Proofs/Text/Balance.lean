/-
Well-nested texts: each round and each curly bracket is closed by one of
its own kind, the innermost first. Brackets count wherever they stand,
in names and in literals too.

`closersDue` runs through a text and keeps the closers that are still
due. It does not see what is due further out (`closersDue_around`), so a
well-nested text leaves whatever is due around it
(`WellNested.closersDue`). A line that opens or closes a block moves the
closers by one; `linesDue` is the same run through lines, and indentation
is no part of it where the unit is well-nested (`closersDue_sourceText`).
-/
import TestDraft.Text.Commas
import TestDraft.Text.Line
import TestDraft.Text.UpperCase

namespace TestDraft.Text

variable {due due' due'' : List Char} {s t unit : String} {l : Line} {ls ms : List Line}

-- =============================================================== closers

/-- The closers due after a character, where some are due before it. None
if the character closes something else than what was opened last. -/
def dueAfter (due : List Char) (c : Char) : Option (List Char) :=
  if c = '(' then some (')' :: due)
  else if c = '\x7b' then some ('\x7d' :: due)
  else if c = ')' ∨ c = '\x7d' then if due.head? = some c then some due.tail else none
  else some due

/-- The closers due after a text, the innermost first. -/
def closersDue (due : List Char) (s : String) : Option (List Char) :=
  s.toList.foldlM dueAfter due

/-- Whether the round and curly brackets of a text make up a well-nested
word. -/
def WellNested (s : String) : Prop := closersDue [] s = some []

instance (s : String) : Decidable (WellNested s) :=
  inferInstanceAs (Decidable (closersDue [] s = some []))

example : WellNested "f(\x7b a -> \x7d, (b))" ∧ ¬ WellNested ")(" ∧
    ¬ WellNested "(\x7b)\x7d" := by
  decide

/-- What is due after two texts is due after the second, given what is due
after the first. -/
private theorem closersDue_append (due : List Char) (s t : String) :
    closersDue due (s ++ t) = (closersDue due s).bind (closersDue · t) := by
  simp only [closersDue, String.toList_append, List.foldlM_append]
  rfl

/-- The same, from one known list of closers to the next. -/
theorem closersDue_append_of (hs : closersDue due s = some due')
    (ht : closersDue due' t = some due'') : closersDue due (s ++ t) = some due'' := by
  rw [closersDue_append, hs]
  exact ht

/-- A character that moves the closers moves them in front of any others
just so. -/
private theorem dueAfter_around {c : Char} (h : dueAfter due c = some due')
    (around : List Char) : dueAfter (due ++ around) c = some (due' ++ around) := by
  unfold dueAfter at h ⊢
  by_cases hround : c = '('
  · rw [if_pos hround] at h ⊢
    cases h
    rfl
  rw [if_neg hround] at h ⊢
  by_cases hcurly : c = '\x7b'
  · rw [if_pos hcurly] at h ⊢
    cases h
    rfl
  rw [if_neg hcurly] at h ⊢
  by_cases hcloser : c = ')' ∨ c = '\x7d'
  · rw [if_pos hcloser] at h ⊢
    cases due with
    | nil => cases h
    | cons d due =>
        rw [List.head?_cons] at h
        by_cases hd : d = c
        · rw [if_pos (congrArg some hd)] at h
          cases h
          exact if_pos (congrArg some hd)
        · rw [if_neg fun heq => hd (Option.some.inj heq)] at h
          cases h
  · rw [if_neg hcloser] at h ⊢
    cases h
    rfl

/-- What is due around a text waits until all inside is closed. -/
theorem closersDue_around (h : closersDue due s = some due')
    (around : List Char) : closersDue (due ++ around) s = some (due' ++ around) := by
  unfold closersDue at h ⊢
  generalize s.toList = cs at h ⊢
  induction cs generalizing due with
  | nil =>
      obtain rfl : due = due' := Option.some.inj h
      rfl
  | cons c cs ih =>
      rw [List.foldlM_cons] at h ⊢
      obtain ⟨due₁, hc, hcs⟩ := Option.bind_eq_some_iff.1 h
      rw [dueAfter_around hc around]
      exact ih hcs

-- ============================================================ well-nested

/-- A well-nested text leaves what is due around it. -/
theorem WellNested.closersDue (h : WellNested s) (due : List Char) :
    closersDue due s = some due := closersDue_around h due

/-- Well-nested texts may follow each other. -/
theorem WellNested.append (hs : WellNested s) (ht : WellNested t) : WellNested (s ++ t) :=
  closersDue_append_of hs ht

/-- A well-nested opening may stand in front. -/
theorem WellNested.after (h : WellNested s) {opening : String}
    (ho : Text.closersDue [] opening = some []) : WellNested (opening ++ s) :=
  closersDue_append_of ho h

/-- A well-nested text can be put between texts that open a bracket and
close it. -/
theorem WellNested.between (h : WellNested s) {opening closing : String}
    (ho : Text.closersDue [] opening = some due) (hc : Text.closersDue due closing = some []) :
    WellNested (opening ++ s ++ closing) :=
  closersDue_append_of (closersDue_append_of ho (h.closersDue due)) hc

/-- Between two of them a separator may stand. -/
theorem WellNested.joined (hs : WellNested s) (ht : WellNested t) {separator : String}
    (h : Text.closersDue [] separator = some []) : WellNested (s ++ separator ++ t) :=
  closersDue_append_of (closersDue_append_of hs h) ht

/-- Texts in a row are well-nested if each of them is. -/
theorem wellNested_commas {ts : List String} (h : ∀ t ∈ ts, WellNested t) :
    WellNested (commas ts) := by
  induction ts with
  | nil => exact rfl
  | cons t ts ih =>
      obtain ⟨ht, hts⟩ := List.forall_mem_cons.1 h
      cases ts with
      | nil =>
          rw [commas, String.intercalate_singleton]
          exact ht
      | cons u us =>
          rw [commas, String.intercalate_cons_cons]
          exact ht.joined (ih hts) rfl

/-- A text may be repeated any number of times. -/
theorem WellNested.repeated (h : WellNested unit) (n : Nat) : WellNested (repeated unit n) := by
  induction n with
  | zero =>
      rw [repeated_zero]
      exact rfl
  | succ n ih =>
      rw [repeated_succ]
      exact h.append ih

-- ============================================================= upper case

/-- Whether a character is none of the four brackets. -/
def isPlain (c : Char) : Bool := c.toNat ∉ [0x28, 0x29, 0x7b, 0x7d]

/-- A plain character opens and closes nothing. -/
private theorem dueAfter_of_isPlain {c : Char} (h : isPlain c = true) (due : List Char) :
    dueAfter due c = some due := by
  have hne : ∀ d : Char, isPlain d = false → c ≠ d := by
    rintro d hd rfl
    rw [h] at hd
    cases hd
  rw [dueAfter, if_neg (hne '(' rfl), if_neg (hne '\x7b' rfl), if_neg]
  exact not_or.2 ⟨hne ')' rfl, hne '\x7d' rfl⟩

/-- Nor do several. -/
private theorem foldlM_of_isPlain {cs : List Char} (h : ∀ c ∈ cs, isPlain c = true)
    (due : List Char) :
    cs.foldlM dueAfter due = some due := by
  induction cs with
  | nil => rfl
  | cons c cs ih =>
      obtain ⟨hc, hcs⟩ := List.forall_mem_cons.1 h
      rw [List.foldlM_cons, dueAfter_of_isPlain hc]
      exact ih hcs

/-- The tables hold no upper case that is a bracket. -/
private theorem isPlain_expansions :
    ∀ e ∈ upperExpansions, ∀ n ∈ e.2, isPlain (Char.ofNat n) = true := by
  decide +kernel

/-- All brackets lie outside of what the runs of letters are shifted to. -/
private theorem isPlain_runs : ∀ r ∈ upperRuns,
    0x29 < r.first + r.shift ∧ r.last + r.shift < 0x7b ∨ 0x7d < r.first + r.shift := by
  decide +kernel

/-- A number that is no code point gives the null character. -/
theorem toNat_ofNat (n : Nat) : (Char.ofNat n).toNat = n ∨ (Char.ofNat n).toNat = 0 := by
  by_cases hn : n.isValidChar
  · have hchar : Char.ofNat n = Char.ofNatAux n hn := dif_pos hn
    exact .inl (congrArg Char.toNat hchar)
  · exact .inr (congrArg Char.toNat (dif_neg hn))

/-- A code point outside of the brackets is plain. -/
private theorem isPlain_ofNat {n : Nat} (h : 0x29 < n ∧ n < 0x7b ∨ 0x7d < n) :
    isPlain (Char.ofNat n) = true := by
  have hcode := toNat_ofNat n
  simp only [isPlain, List.mem_cons, List.not_mem_nil, or_false, decide_eq_true_eq]
  omega

/-- The upper case of a character without bracket has none. -/
private theorem isPlain_upper {c : Char} (h : isPlain c = true) :
    ∀ u ∈ upper c, isPlain u = true := by
  intro u hu
  unfold upper at hu
  split at hu
  next several hlookup =>
    obtain ⟨before, after, hentries, -⟩ := List.lookup_eq_some_iff.1 hlookup
    have hmem : (c.toNat, several) ∈ upperExpansions := by
      rw [hentries]
      exact List.mem_append_right _ List.mem_cons_self
    obtain ⟨n, hn, rfl⟩ := List.mem_map.1 hu
    exact isPlain_expansions _ hmem n hn
  next =>
    split at hu
    next run hfind =>
      obtain rfl := List.mem_singleton.1 hu
      have hrun := isPlain_runs run (List.mem_of_find?_eq_some hfind)
      have hcovers := List.find?_some hfind
      simp only [CaseRun.covers, Bool.and_eq_true, decide_eq_true_eq] at hcovers
      apply isPlain_ofNat
      omega
    next =>
      obtain rfl := List.mem_singleton.1 hu
      exact h

/-- A bracket is its own upper case, so the upper case of a character
moves the closers as the character does. -/
private theorem foldlM_upper (due : List Char) (c : Char) :
    (upper c).foldlM dueAfter due = dueAfter due c := by
  by_cases h : isPlain c = true
  · rw [foldlM_of_isPlain (isPlain_upper h), dueAfter_of_isPlain h]
  · have hself : upper c = [c] := by
      simp only [isPlain, List.mem_cons, List.not_mem_nil, or_false, decide_eq_true_eq,
        Decidable.not_not] at h
      rw [← Char.ofNat_toNat c]
      rcases h with h | h | h | h <;> rw [h] <;> decide +kernel
    rw [hself]
    exact bind_pure (dueAfter due c)

/-- A well-nested text stays so with its first character in upper case. -/
theorem WellNested.capitalise (h : WellNested s) : WellNested (capitalise s) := by
  unfold Text.capitalise
  unfold WellNested Text.closersDue at h
  split
  next => exact rfl
  next c cs hcs =>
    rw [hcs] at h
    unfold WellNested Text.closersDue
    rw [String.toList_ofList, List.foldlM_append, foldlM_upper]
    exact h

-- ================================================================= lines

/-- The closers due after some lines. -/
def linesDue (due : List Char) (ls : List Line) : Option (List Char) :=
  ls.foldlM (fun due l => closersDue due l.text) due

/-- Lines are read one after the other. -/
theorem linesDue_cons_of (hl : closersDue due l.text = some due')
    (hls : linesDue due' ls = some due'') : linesDue due (l :: ls) = some due'' := by
  rw [linesDue, List.foldlM_cons, hl]
  exact hls

/-- A single line leaves due what its text does. -/
theorem linesDue_singleton (hl : closersDue due l.text = some due') :
    linesDue due [l] = some due' := linesDue_cons_of hl rfl

/-- More lines go on with what the first ones leave due. -/
theorem linesDue_append_of (hls : linesDue due ls = some due')
    (hms : linesDue due' ms = some due'') : linesDue due (ls ++ ms) = some due'' := by
  rw [linesDue, List.foldlM_append]
  exact Option.bind_eq_some_iff.2 ⟨due', hls, hms⟩

/-- Parts that each leave what is due around them do so in a row. -/
theorem linesDue_flatMap {α : Type} {xs : List α} {f : α → List Line}
    (h : ∀ x ∈ xs, linesDue due (f x) = some due) : linesDue due (xs.flatMap f) = some due := by
  induction xs with
  | nil => rfl
  | cons x xs ih =>
      obtain ⟨hx, hxs⟩ := List.forall_mem_cons.1 h
      exact linesDue_append_of hx (ih hxs)

/-- The closers due after the text of some lines are those due after the
lines. -/
theorem closersDue_sourceText (h : WellNested unit) (due : List Char) (ls : List Line) :
    closersDue due (sourceText unit ls) = linesDue due ls := by
  induction ls generalizing due with
  | nil => rfl
  | cons l ls ih =>
      have hline : closersDue due (l.render unit ++ "\n") = closersDue due l.text := by
        rw [Line.render, closersDue_append, closersDue_append, (h.repeated l.depth).closersDue]
        simp only [Option.bind_some]
        cases closersDue due l.text <;> rfl
      rw [sourceText, closersDue_append, hline, linesDue, List.foldlM_cons]
      cases closersDue due l.text with
      | none => rfl
      | some due' => exact ih due'

end TestDraft.Text
