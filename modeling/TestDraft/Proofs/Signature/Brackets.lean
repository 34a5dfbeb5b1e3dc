/-
The brackets of an accepted signature are nested.

The brackets of a text are listed as marks (`marks`). The head of an
arrow is spelled like a closer, so it is told by the character in front
of it, and left out. `Nested` is the notion of a well-nested word;
`stillOpen` runs through a word and keeps the brackets that wait for
their closer, which is what the levels of a scan do. A step moves both in
the same way (`Moves.stillOpen`): the brackets of the levels are the open
ones of the text so far. At the end one level is left, and it has none.
-/
import TestDraft.Proofs.Signature.Leads

namespace TestDraft.Signature

variable {l k m : Level} {around ks waiting : List Level} {c : Char} {prev : Option Char}
  {s t : List Char} {opens : List Bracket}

-- ================================================================ words

/-- A bracket as it stands in a text. -/
inductive Mark where
  | opener (b : Bracket)
  | closer (b : Bracket)
deriving DecidableEq

/-- A word of brackets in which each is closed by its own closer. -/
inductive Nested : List Mark → Prop
  | nil : Nested []
  | group {u v : List Mark} (b : Bracket) (hu : Nested u) (hv : Nested v) :
      Nested (.opener b :: u ++ .closer b :: v)

/-- The brackets that wait for their closer after a word, the innermost
first; `opens` waited before it. None where a closer is not due. -/
def stillOpen : (opens : List Bracket) → List Mark → Option (List Bracket)
  | opens, [] => some opens
  | opens, .opener b :: ms => stillOpen (b :: opens) ms
  | [], .closer _ :: _ => none
  | d :: opens, .closer b :: ms => if b = d then stillOpen opens ms else none

/-- A closer stands where no bracket is open, or one of the other kind. -/
def Misclosed (ms : List Mark) : Prop :=
  ∃ before b after opens, ms = before ++ .closer b :: after
    ∧ stillOpen [] before = some opens ∧ opens.head? ≠ some b

/-- A bracket is opened and never closed. -/
def Unclosed (ms : List Mark) : Prop := ∃ b opens, stillOpen [] ms = some (b :: opens)

variable {ms u v : List Mark}

theorem stillOpen_append (opens : List Bracket) (u v : List Mark) :
    stillOpen opens (u ++ v) = (stillOpen opens u).bind (stillOpen · v) := by
  induction u generalizing opens with
  | nil => rfl
  | cons m ms ih =>
      cases m with
      | opener b => exact ih (b :: opens)
      | closer b =>
          cases opens with
          | nil => rfl
          | cons d opens =>
              simp only [List.cons_append, stillOpen]
              split
              next => exact ih opens
              next => rfl

/-- A nested word leaves the brackets around it as they are. -/
theorem Nested.stillOpen (h : Nested u) (opens : List Bracket) :
    stillOpen opens u = some opens := by
  induction h generalizing opens with
  | nil => rfl
  | @group u v b _ _ ihu ihv =>
      rw [List.cons_append, Signature.stillOpen, stillOpen_append, ihu (b :: opens)]
      simp only [Option.bind_some, Signature.stillOpen, if_true]
      exact ihv opens

/-- A word that closes the given brackets one after the other, with
nested words around the closers. -/
def Shuts : (opens : List Bracket) → List Mark → Prop
  | [], ms => Nested ms
  | b :: opens, ms => ∃ u v, ms = u ++ .closer b :: v ∧ Nested u ∧ Shuts opens v

/-- A group in front of a word that shuts some brackets becomes part of
its first nested word. -/
theorem Shuts.group {b : Bracket} (hu : Nested u) (h : Shuts opens v) :
    Shuts opens (.opener b :: u ++ .closer b :: v) := by
  cases opens with
  | nil => exact .group b hu h
  | cons d opens =>
      obtain ⟨u', v', rfl, hu', hv'⟩ := h
      refine ⟨.opener b :: u ++ .closer b :: u', v', ?_, .group b hu hu', hv'⟩
      simp only [List.append_assoc, List.cons_append]

/-- Marks that leave nothing open shut what was open. -/
private theorem shuts_of_stillOpen (h : stillOpen opens ms = some []) : Shuts opens ms := by
  induction ms generalizing opens with
  | nil =>
      obtain rfl : opens = [] := Option.some.inj h
      exact .nil
  | cons m ms ih =>
      cases m with
      | opener b =>
          obtain ⟨u, v, rfl, hu, hv⟩ := @ih (b :: opens) h
          exact hv.group hu
      | closer b =>
          cases opens with
          | nil => cases h
          | cons d opens =>
              simp only [stillOpen] at h
              split at h
              next hbd =>
                subst hbd
                exact ⟨[], ms, rfl, .nil, ih h⟩
              next => cases h

/-- A word is nested exactly when it leaves no bracket open. -/
private theorem nested_iff_stillOpen : Nested ms ↔ stillOpen [] ms = some [] :=
  ⟨fun h => h.stillOpen [], fun h => shuts_of_stillOpen h⟩

/-- The run through a word breaks off exactly at a closer that is not
due. -/
theorem stillOpen_eq_none_iff :
    stillOpen opens ms = none ↔
      ∃ before b after opens', ms = before ++ .closer b :: after
        ∧ stillOpen opens before = some opens' ∧ opens'.head? ≠ some b := by
  constructor
  · intro h
    induction ms generalizing opens with
    | nil => cases h
    | cons m ms ih =>
        cases m with
        | opener b =>
            obtain ⟨before, b', after, opens', rfl, hopens, hb'⟩ := ih h
            exact ⟨.opener b :: before, b', after, opens', rfl, hopens, hb'⟩
        | closer b =>
            cases opens with
            | nil => exact ⟨[], b, ms, [], rfl, rfl, nofun⟩
            | cons d opens =>
                by_cases hbd : b = d
                · simp only [stillOpen, if_pos hbd] at h
                  obtain ⟨before, b', after, opens', rfl, hopens, hb'⟩ := ih h
                  refine ⟨.closer b :: before, b', after, opens', rfl, ?_, hb'⟩
                  simp only [stillOpen, if_pos hbd, hopens]
                · refine ⟨[], b, ms, d :: opens, rfl, rfl, fun hhead => ?_⟩
                  exact hbd (Option.some.inj hhead).symm
  · rintro ⟨before, b, after, opens', rfl, hopens, hb⟩
    rw [stillOpen_append, hopens]
    cases opens' with
    | nil => rfl
    | cons d ds =>
        have hbd : b ≠ d := fun h => hb (congrArg some h.symm)
        simp only [Option.bind_some, stillOpen, if_neg hbd]

/-- A word fails to be nested by a closer that is not due or by an opener
without a closer, and in no other way. -/
private theorem not_nested_iff : ¬Nested ms ↔ Misclosed ms ∨ Unclosed ms := by
  rw [nested_iff_stillOpen, Misclosed, Unclosed, ← stillOpen_eq_none_iff]
  cases stillOpen [] ms with
  | none => simp
  | some opens => cases opens <;> simp

-- ================================================================ texts

/-- The bracket that a character is behind another one. A `>` behind a
`-` is the head of an arrow and no bracket. -/
def mark? (prev : Option Char) (c : Char) : Option Mark :=
  match opened? c, closed? c with
  | some b, _ => some (.opener b)
  | none, some b => if c = '>' ∧ prev = some '-' then none else some (.closer b)
  | none, none => none

/-- The brackets of a text that stands behind a character. -/
def marksAfter (prev : Option Char) : List Char → List Mark
  | [] => []
  | c :: cs => (mark? prev c).toList ++ marksAfter (some c) cs

/-- The brackets of a text. -/
def marks (text : List Char) : List Mark := marksAfter none text

example : marks "A<(B) -> C>".toList
    = [.opener .angle, .opener .round, .closer .round, .closer .angle] := by
  decide

theorem mark?_opener (prev : Option Char) (b : Bracket) :
    mark? prev b.opener = some (.opener b) := by
  cases b <;> rfl

/-- A closer marks, unless it ends an arrow. -/
private theorem mark?_closer {b : Bracket} (h : ¬(b = .angle ∧ prev = some '-')) :
    mark? prev b.closer = some (.closer b) := by
  cases b with
  | angle =>
      have hprev : ¬('>' = '>' ∧ prev = some '-') := fun hp => h ⟨rfl, hp.2⟩
      exact if_neg hprev
  | round => rfl

theorem mark?_plain (prev : Option Char) (h : c ∉ delimiters) : mark? prev c = none := by
  simp only [delimiters, List.mem_cons, List.not_mem_nil, or_false, not_or] at h
  simp only [mark?, opened?_eq_none_iff.2 ⟨h.1, h.2.2.1⟩,
    closed?_eq_none_iff.2 ⟨h.2.1, h.2.2.2.1⟩]

/-- The character that a text behind another one ends in. -/
theorem getLast?_cons_or (prev : Option Char) (c : Char) (s : List Char) :
    (c :: s).getLast?.or prev = s.getLast?.or (some c) := by
  rw [List.getLast?_cons]
  cases s.getLast? <;> rfl

/-- The brackets of a text in two parts: the second part stands behind
the end of the first. -/
theorem marksAfter_append (prev : Option Char) (s t : List Char) :
    marksAfter prev (s ++ t) = marksAfter prev s ++ marksAfter (s.getLast?.or prev) t := by
  induction s generalizing prev with
  | nil => rfl
  | cons c cs ih =>
      rw [getLast?_cons_or, List.cons_append, marksAfter, ih, marksAfter, List.append_assoc]

/-- Only a shaft in front of a text changes what its brackets are. -/
theorem marksAfter_eq_marks (h : prev ≠ some '-') (s : List Char) :
    marksAfter prev s = marks s := by
  cases s with
  | nil => rfl
  | cons c cs =>
      have hmark : mark? prev c = mark? none c := by simp [mark?, h]
      rw [marks, marksAfter, marksAfter, hmark]

theorem marksAfter_opener (prev : Option Char) (b : Bracket) (s : List Char) :
    marksAfter prev (b.opener :: s) = .opener b :: marks s := by
  have hopener : some b.opener ≠ some '-' := by cases b <;> decide
  rw [marksAfter, mark?_opener, marksAfter_eq_marks hopener]
  rfl

private theorem marksAfter_closer {b : Bracket} (h : ¬(b = .angle ∧ prev = some '-'))
    (s : List Char) :
    marksAfter prev (b.closer :: s) = .closer b :: marks s := by
  have hcloser : some b.closer ≠ some '-' := by cases b <;> decide
  rw [marksAfter, mark?_closer h, marksAfter_eq_marks hcloser]
  rfl

/-- Text without delimiters has no marks. -/
theorem marksAfter_plain (h : ∀ c ∈ s, c ∉ delimiters) : marksAfter prev s = [] := by
  induction s generalizing prev with
  | nil => rfl
  | cons c cs ih =>
      rw [marksAfter, mark?_plain prev (h c List.mem_cons_self),
        ih fun d hd => h d (List.mem_cons_of_mem c hd)]
      rfl

/-- A character that is a bracket wherever it stands is one of the text. -/
theorem mem_marksAfter {m : Mark} (hm : ∀ prev, mark? prev c = some m) (hc : c ∈ s)
    (prev : Option Char) : m ∈ marksAfter prev s := by
  induction s generalizing prev with
  | nil => cases hc
  | cons d ds ih =>
      rw [marksAfter, List.mem_append]
      rcases List.mem_cons.1 hc with rfl | hc
      · rw [hm]
        exact .inl (List.mem_singleton.2 rfl)
      · exact .inr (ih hc (some d))

/-- The head of an arrow is no bracket. -/
theorem marksAfter_arrow (prev : Option Char) (s : List Char) :
    marksAfter prev ('-' :: '>' :: s) = marks s := by
  have hshaft : mark? prev '-' = none := mark?_plain prev (by decide)
  have hhead : mark? (some '-') '>' = none := rfl
  rw [marksAfter, marksAfter, hshaft, hhead, marksAfter_eq_marks (by decide)]
  rfl

/-- A bracket in a text with its closer: what stands between them leaves
no bracket open, and the closer is not the head of an arrow. -/
structure Bracketed (s before : List Char) (b : Bracket) (content after : List Char) : Prop where
  text : s = before ++ b.opener :: (content ++ b.closer :: after)
  nested : Nested (marks content)
  head : b = .angle → content.getLast? ≠ some '-'

/-- The marks of a text around its bracket. -/
theorem Bracketed.marks_eq {before content after : List Char} {b : Bracket}
    (h : Bracketed s before b content after) :
    marks s = marks before ++ .opener b :: (marks content ++ .closer b :: marks after) := by
  have hhead : ¬(b = .angle ∧ content.getLast?.or none = some '-') := by
    rw [Option.or_none]
    exact fun ha => h.head ha.1 ha.2
  have hcontent : marks (content ++ b.closer :: after)
      = marks content ++ .closer b :: marks after := by
    unfold marks
    rw [marksAfter_append, marksAfter_closer hhead]
    rfl
  unfold marks
  rw [h.text, marksAfter_append, marksAfter_opener, hcontent]
  rfl

-- ================================================================ levels

/-- The brackets of the levels that have one, the innermost first. -/
def openBrackets (ls : List Level) : List Bracket := ls.filterMap (·.bracket)

private theorem openBrackets_congr (h : m.bracket = l.bracket) (ls : List Level) :
    openBrackets (m :: ls) = openBrackets (l :: ls) := by
  simp only [openBrackets, List.filterMap_cons, h]

/-- Whether an arrow is due shows in the character just read. -/
theorem Moves.arrowDue (h : Moves l around c (.inside m waiting)) :
    m.arrowDue = (some c == some '-') := by
  unfold Level.arrowDue
  rw [h.latest]
  split
  next hd =>
    have hc : c ≠ '-' := by
      rintro rfl
      revert hd
      decide
    simp [hc]
  next => rfl

/-- A character opens and closes the brackets of the levels as it opens
and closes those of the text. -/
theorem Moves.stillOpen (h : Moves l around c (.inside k ks))
    (hprev : l.arrowDue = (prev == some '-')) :
    stillOpen (openBrackets (l :: around)) (mark? prev c).toList
      = some (openBrackets (k :: ks)) := by
  cases h with
  | opens b hc hf =>
      subst hc
      rw [mark?_opener]
      rfl
  | divides n hc hs hf =>
      subst hc
      exact congrArg some (openBrackets_congr (l := n) hs.bracket.symm around)
  | points n hc ha hs =>
      subst hc
      have hdash : prev = some '-' := by
        rw [ha] at hprev
        exact beq_iff_eq.1 hprev.symm
      subst hdash
      exact congrArg some (openBrackets_congr (l := n) hs.bracket.symm around)
  | @closes outer _ _ b qs hc ha hcl =>
      subst hc
      have hopen : openBrackets (l :: outer :: ks) = b :: openBrackets (outer :: ks) := by
        simp only [openBrackets, List.filterMap_cons, hcl.1]
      rw [mark?_closer fun h => ha ⟨h.1, by rw [hprev, h.2]; rfl⟩, hopen]
      exact if_pos rfl
  | holds hc =>
      rw [mark?_plain prev hc]
      rfl

/-- Where a text leads, the brackets of the levels are those that the
text leaves open. -/
theorem Leads.stillOpen (h : Leads l around s m waiting)
    (hprev : l.arrowDue = (prev == some '-')) :
    stillOpen (openBrackets (l :: around)) (marksAfter prev s)
      = some (openBrackets (m :: waiting)) := by
  induction h generalizing prev with
  | nil => rfl
  | @cons l k m ls ks ms d ds first _ ih =>
      rw [marksAfter, stillOpen_append, first.stillOpen hprev]
      exact ih first.arrowDue

/-- The brackets of a text that leads back to the lowest level are
nested. -/
theorem nested_of_leads (h : Leads (.start none) [] s m []) : Nested (marks s) := by
  have hrooted : Rooted (.start none) [] := rfl
  have hbracket : m.bracket = none := hrooted.leads h
  have hopen : openBrackets [m] = [] := by
    simp only [openBrackets, List.filterMap_cons, hbracket, List.filterMap_nil]
  have hrun : stillOpen (openBrackets [.start none]) (marksAfter none s)
      = some (openBrackets [m]) := h.stillOpen rfl
  rw [hopen] at hrun
  exact nested_iff_stillOpen.2 hrun

/-- The brackets of a signature that is accepted are nested. -/
private theorem nested_of_readChars {e : TypeExpr} (h : readChars s = .ok e) :
    Nested (marks s) := by
  obtain ⟨g, -, hleads, -⟩ := readChars_ok_iff.1 h
  exact nested_of_leads hleads

/-- Only signatures with nested brackets are accepted: a text with a
closer that is not due, of the wrong kind or without an opener, and a
text with an opener that is never closed has no type and is rejected. -/
theorem read_nested (s : String) :
    (∀ e, read s = .ok e → Nested (marks s.toList))
      ∧ (Misclosed (marks s.toList) ∨ Unclosed (marks s.toList) →
          ∃ fault, read s = .error ⟨fault, s⟩) := by
  have hnested : ∀ e, read s = .ok e → Nested (marks s.toList) := fun e he =>
    nested_of_readChars (read_ok_iff.1 he)
  refine ⟨hnested, fun hfault => ?_⟩
  have hreject : ∀ e, readChars s.toList ≠ .ok e := fun e he =>
    not_nested_iff.2 hfault (nested_of_readChars he)
  unfold read
  cases hchars : readChars s.toList with
  | ok e => exact absurd hchars (hreject e)
  | error fault => exact ⟨fault, rfl⟩

/-- An arrow inside angle brackets closes none of them; an angle bracket
inside round ones does not close those. -/
theorem read_nested_arrow :
    read "A<(B) -> C>" = .ok (.generic "A" false [.function "C" false [.named "B" false]])
      ∧ Nested (marks "A<(B) -> C>".toList)
      ∧ Misclosed (marks "A<(B>)".toList)
      ∧ ∃ fault, read "A<(B>)" = .error ⟨fault, "A<(B>)"⟩ := by
  have hread : read "A<(B) -> C>"
      = .ok (.generic "A" false [.function "C" false [.named "B" false]]) :=
    read_ok_iff.2 (by decide +kernel)
  have hmisclosed : Misclosed (marks "A<(B>)".toList) :=
    ⟨[.opener .angle, .opener .round], .angle, [.closer .round], [.round, .angle],
      by decide, by decide, by decide⟩
  exact ⟨hread, (read_nested _).1 _ hread, hmisclosed, (read_nested _).2 (.inl hmisclosed)⟩

end TestDraft.Signature
