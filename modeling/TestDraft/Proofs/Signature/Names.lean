/-
Names as a signature can hold them, and what reading takes off the text
around one: blanks, a label in front, and a nullable mark behind.
-/
import TestDraft.Proofs.Signature.Steps
import TestDraft.Proofs.Text.Trim
import TestDraft.TypeExpr.Text

namespace TestDraft.Signature

open Text

variable {s l : List Char} {n : String}

/-- What a decidable check of all characters says about each. -/
theorem notMem_of_all {cs : List Char} (h : (s.all fun c => c ∉ cs) = true) :
    ∀ c ∈ s, c ∉ cs := fun c hc => of_decide_eq_true (List.all_eq_true.1 h c hc)

/-- Blanks delimit nothing. -/
theorem isBlank_delimiter {d : Char} (h : d ∈ delimiters) : isBlank d = false := by
  have hall : (delimiters.all fun d => !isBlank d) = true := by decide
  simpa using List.all_eq_true.1 hall d h

/-- Blanks are held like any text without delimiters. -/
theorem plain_of_allBlank {gap : List Char} (h : AllBlank gap) : ∀ c ∈ gap, c ∉ delimiters := by
  intro c hc hd
  have hblank := h c hc
  rw [isBlank_delimiter hd] at hblank
  cases hblank

/-- A name that stands in a signature as it is: it is not empty, holds
nothing that a signature gives a meaning to, and has no blank at either
end. -/
structure CleanName (n : String) : Prop where
  nonempty : n ≠ ""
  plain : ∀ c ∈ n.toList, c ∉ ['<', '>', '(', ')', ',', ':', '?']
  ends : NoBlankEnds n.toList

instance : Decidable (CleanName n) :=
  decidable_of_iff
    (n ≠ "" ∧ (n.toList.all fun c => c ∉ ['<', '>', '(', ')', ',', ':', '?']) = true
      ∧ NoBlankEnds n.toList)
    ⟨fun h => ⟨h.1, notMem_of_all h.2.1, h.2.2⟩,
      fun h => ⟨h.nonempty, List.all_eq_true.2 fun c hc => decide_eq_true (h.plain c hc), h.ends⟩⟩

/-- A clean name has no delimiter in it. -/
theorem CleanName.delimiters (h : CleanName n) : ∀ c ∈ n.toList, c ∉ delimiters := by
  intro c hc hd
  refine h.plain c hc ?_
  revert hd
  simp only [Signature.delimiters, List.mem_cons, List.not_mem_nil]
  tauto

/-- It does not look like a label either. -/
theorem CleanName.noColon (h : CleanName n) : ':' ∉ n.toList :=
  fun hc => h.plain ':' hc (by decide)

/-- Nor is it marked as nullable. -/
theorem CleanName.noMark (h : CleanName n) : '?' ∉ n.toList :=
  fun hc => h.plain '?' hc (by decide)

/-- It is not empty. -/
theorem CleanName.toList_ne_nil (h : CleanName n) : n.toList ≠ [] :=
  fun hn => h.nonempty (String.toList_inj.1 hn)

-- ================================================================ labels

/-- Without a colon there is no label to drop. -/
theorem dropLabel_eq_self (h : ':' ∉ s) : dropLabel s = s := by
  unfold dropLabel
  rw [List.takeWhile_eq_self_iff.2, List.reverse_reverse]
  intro c hc
  have hne : c ≠ ':' := fun heq => h (heq ▸ List.mem_reverse.1 hc)
  simpa using hne

/-- A label ends at the last colon. -/
theorem dropLabel_append (h : ':' ∉ s) : dropLabel (l ++ ':' :: s) = s := by
  unfold dropLabel
  rw [List.reverse_append, List.reverse_cons, List.append_assoc, List.takeWhile_append_of_pos]
  · simp
  · intro c hc
    have hne : c ≠ ':' := fun heq => h (heq ▸ List.mem_reverse.1 hc)
    simpa using hne

/-- What is left of a label is the end of the text. -/
theorem dropLabel_suffix (s : List Char) : dropLabel s <:+ s := by
  unfold dropLabel
  rw [← List.reverse_prefix, List.reverse_reverse]
  exact List.takeWhile_prefix _

/-- No colon is left, so labels are dropped once and for all. -/
theorem colon_notMem_dropLabel (s : List Char) : ':' ∉ dropLabel s := by
  intro hc
  have hkept := List.mem_takeWhile_imp (List.mem_reverse.1 hc)
  simp at hkept

/-- Trimming a labelled text touches the front of the label only. -/
private theorem trim_label (h : ∀ c, s.getLast? = some c → isBlank c = false) :
    trim (l ++ ':' :: s) = l.dropWhile isBlank ++ ':' :: s := by
  have hfront : (l ++ ':' :: s).dropWhile isBlank = l.dropWhile isBlank ++ ':' :: s := by
    rw [List.dropWhile_append]
    split
    next he =>
      rw [List.isEmpty_iff.1 he]
      rfl
    next => rfl
  unfold trim
  rw [hfront]
  refine trimEnd_eq_self fun c hc => ?_
  rw [List.getLast?_append, List.getLast?_cons] at hc
  cases hs : s.getLast? with
  | none =>
      rw [hs] at hc
      cases hc
      decide
  | some d =>
      rw [hs] at hc
      cases hc
      exact h d hs

/-- A text without blanks around it and without a label is left alone. -/
private theorem cleanName_eq_self (h : NoBlankEnds s) (hc : ':' ∉ s) : cleanName s = s := by
  unfold cleanName
  rw [trim_eq_self h, dropLabel_eq_self hc, trim_eq_self h]

/-- Blanks around a text do not show in its name. -/
theorem cleanName_trim (s : List Char) : cleanName (trim s) = cleanName s := by
  unfold cleanName
  rw [trim_trim]

/-- What may stand in front of a name or a bracket: nothing, or a label
with its colon. -/
inductive Front : List Char → Prop
  | none : Front []
  | label (l : List Char) (hd : ∀ c ∈ l, c ∉ delimiters) (hq : '?' ∉ l) : Front (l ++ [':'])

variable {f : List Char}

/-- What stands in front of a name, blanks and a label, delimits nothing. -/
theorem Front.plain (h : Front f) : ∀ c ∈ f, c ∉ delimiters := by
  cases h with
  | none => exact nofun
  | label l hd =>
      intro c hc
      rcases List.mem_append.1 hc with hc | hc
      · exact hd c hc
      · cases List.mem_singleton.1 hc
        decide

/-- A label is taken off, whatever stands in it. -/
theorem Front.cleanName (h : Front f) (hs : NoBlankEnds s) (hc : ':' ∉ s) :
    cleanName (f ++ s) = s := by
  cases h with
  | none => exact cleanName_eq_self hs hc
  | label l =>
      unfold Signature.cleanName
      rw [List.append_assoc, List.singleton_append, trim_label hs.last, dropLabel_append hc,
        trim_eq_self hs]

/-- With or without a label, the text of a name does not begin with a
mark. -/
theorem Front.trim (h : Front f) (hs : NoBlankEnds s) (hne : s ≠ [])
    (hq : s.head? ≠ some '?') : ∃ c cs, trim (f ++ s) = c :: cs ∧ c ≠ '?' := by
  cases h with
  | none =>
      rw [List.nil_append, trim_eq_self hs]
      obtain ⟨c, cs, rfl⟩ := List.exists_cons_of_ne_nil hne
      exact ⟨c, cs, rfl, fun hc => hq (congrArg some hc)⟩
  | label l hd hl =>
      rw [List.append_assoc, List.singleton_append, trim_label hs.last]
      cases hdrop : l.dropWhile isBlank with
      | nil => exact ⟨':', s, rfl, by decide⟩
      | cons c cs =>
          refine ⟨c, cs ++ ':' :: s, rfl, fun hc => hl ?_⟩
          have hmem : c ∈ l.dropWhile isBlank := hdrop ▸ List.mem_cons_self ..
          exact hc ▸ (List.dropWhile_suffix isBlank).subset hmem

-- ================================================================= marks

/-- The mark of a nullable type, as characters. -/
theorem mark_toList (q : Bool) : (TypeExpr.mark q).toList = if q then ['?'] else [] := by
  cases q <;> rfl

/-- It is no delimiter. -/
private theorem mark_plain (q : Bool) : ∀ c ∈ (TypeExpr.mark q).toList, c ∉ delimiters := by
  cases q <;> exact notMem_of_all (by decide)

/-- It has no blanks around it. -/
private theorem noBlankEnds_mark (q : Bool) : NoBlankEnds (TypeExpr.mark q).toList := by
  cases q
  · exact ⟨nofun, nofun⟩
  · constructor <;> intro c hc <;> cases hc <;> decide

/-- A name with its mark has none, either. -/
private theorem CleanName.marked_ends (h : CleanName n) (q : Bool) :
    NoBlankEnds (n.toList ++ (TypeExpr.mark q).toList) :=
  h.ends.append_right (noBlankEnds_mark q)

/-- A name with its mark delimits nothing. -/
theorem CleanName.marked_plain (h : CleanName n) (q : Bool) :
    ∀ c ∈ n.toList ++ (TypeExpr.mark q).toList, c ∉ Signature.delimiters := by
  intro c hc
  rcases List.mem_append.1 hc with hc | hc
  · exact h.delimiters c hc
  · exact mark_plain q c hc

/-- A name with its mark does not look like a label. -/
private theorem CleanName.marked_noColon (h : CleanName n) (q : Bool) :
    ':' ∉ n.toList ++ (TypeExpr.mark q).toList := by
  intro hc
  rcases List.mem_append.1 hc with hc | hc
  · exact h.noColon hc
  · revert hc
    cases q <;> decide

/-- The text of a name, with a label and a mark or without, becomes a
piece. -/
theorem settles_name {l : Level} (hfront : Front f) (h : CleanName n) (q : Bool)
    (hf : l.filled = false) :
    Settles l (f ++ (n.toList ++ (TypeExpr.mark q).toList)) { l with
      pieces := .item (n.toList ++ (TypeExpr.mark q).toList) [] :: l.pieces
      filled := true
      pending := [] } := by
  obtain ⟨d, ds, hn⟩ := List.exists_cons_of_ne_nil h.toList_ne_nil
  have hhead : (n.toList ++ (TypeExpr.mark q).toList).head? ≠ some '?' := by
    intro hd
    rw [hn] at hd
    cases hd
    exact h.noMark (hn ▸ List.mem_cons_self ..)
  have hne : n.toList ++ (TypeExpr.mark q).toList ≠ [] :=
    List.append_ne_nil_of_left_ne_nil h.toList_ne_nil _
  obtain ⟨c, cs, htrim, hc⟩ := hfront.trim (h.marked_ends q) hne hhead
  have hclean := hfront.cleanName (h.marked_ends q) (h.marked_noColon q)
  rw [← cleanName_trim, htrim] at hclean
  have hset := Settles.name c cs htrim hc hf
  rwa [hclean] at hset

/-- A marked name is split into the name and its mark. -/
theorem splitMark_append (hq : '?' ∉ s) (h : NoBlankEnds s) (q : Bool) :
    splitMark (s ++ (TypeExpr.mark q).toList) = (s, q) := by
  rw [mark_toList]
  unfold splitMark
  cases q with
  | false =>
      rw [if_neg Bool.false_ne_true, List.append_nil, if_neg]
      exact fun hl => hq (List.mem_of_getLast? hl)
  | true =>
      rw [if_pos rfl, List.getLast?_concat, if_pos rfl, List.dropLast_concat,
        trimEnd_eq_self h.last]

end TestDraft.Signature
