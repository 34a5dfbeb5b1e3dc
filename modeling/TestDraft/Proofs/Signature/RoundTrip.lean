/-
The round trip of the type language: the text of a type is a signature
of that type, and stays one when labels are put in front of any of its
nodes.

The text of a type is composed from the texts of its arguments in the
way in which signatures compose (`Nesting`), but for the blanks behind
commas and around arrows, which count for nothing (`Blanks`). The
induction is over the type; it carries the labels and the mark of the
root along, since both change from node to node.
-/
import TestDraft.Proofs.Signature.Blanks
import TestDraft.Proofs.Signature.Nesting

namespace TestDraft

open Text

-- ======================================================== labelled text

/-- A choice of labels: the label of the node that a path leads to, if
the node has one. A path counts children, from the root down. -/
abbrev Labels := List Nat → Option String

/-- The labels of a child and of what is below it. -/
def Labels.child (labels : Labels) (i : Nat) : Labels := fun path => labels (i :: path)

/-- The label of the root with its colon. -/
def Labels.root (labels : Labels) : String :=
  match labels [] with
  | none => ""
  | some l => l ++ ":"

/-- Labels that hold no bracket, comma or mark. -/
def Labels.Plain (labels : Labels) : Prop :=
  ∀ path l, labels path = some l → ∀ c ∈ l.toList, c ∉ ['<', '>', '(', ')', ',', '?']

/-- Plain labels are plain inside of a type, too. -/
private theorem Labels.Plain.child {labels : Labels} (h : labels.Plain) (i : Nat) :
    (labels.child i).Plain := fun path => h (i :: path)

/-- A plain label stands in front of a name and delimits nothing. -/
theorem Labels.Plain.front {labels : Labels} (h : labels.Plain) :
    Signature.Front labels.root.toList := by
  unfold Labels.root
  cases hl : labels [] with
  | none => exact .none
  | some l =>
      have hplain := h [] l hl
      have hfront : Signature.Front (l.toList ++ [':']) := by
        refine .label l.toList (fun c hc hd => hplain c hc ?_) fun hq => hplain '?' hq (by decide)
        revert hd
        simp only [Signature.delimiters, List.mem_cons, List.not_mem_nil]
        tauto
      show Signature.Front (l ++ ":").toList
      rwa [String.toList_append]

namespace TypeExpr

mutual

/-- The text of a type without its own mark, with the chosen labels. -/
def labelledBareText (labels : Labels) : TypeExpr → String
  | named n _ => labels.root ++ n
  | generic n _ args => labels.root ++ n ++ "<" ++ commas (labelledTexts labels 0 args) ++ ">"
  | function r _ params =>
    labels.root ++ "(" ++ commas (labelledTexts labels 0 params) ++ ") -> " ++ r

/-- The texts of the children from number `i` on, with the chosen labels. -/
def labelledTexts (labels : Labels) (i : Nat) : List TypeExpr → List String
  | [] => []
  | t :: ts =>
    (labelledBareText (labels.child i) t ++ mark t.nullable) :: labelledTexts labels (i + 1) ts

end

/-- The text of a type with the chosen labels. -/
def labelledText (labels : Labels) (t : TypeExpr) : String :=
  labelledBareText labels t ++ mark t.nullable

/-- A type with the mark it has is itself. -/
private theorem withNullable_self (t : TypeExpr) : t.withNullable t.nullable = t := by
  cases t <;> rfl

mutual

/-- Without labels this is the text of the type. -/
private theorem labelledBareText_none :
    (t : TypeExpr) → labelledBareText (fun _ => none) t = bareText t
  | named n q => String.empty_append
  | generic n q args => by
    have hroot : Labels.root (fun _ => none) = "" := rfl
    rw [labelledBareText, bareText, labelledTexts_none 0 args, hroot, String.empty_append]
  | function r q params => by
    have hroot : Labels.root (fun _ => none) = "" := rfl
    rw [labelledBareText, bareText, labelledTexts_none 0 params, hroot, String.empty_append]

/-- Without labels types are written as usual, by recursion together with
the one before. -/
private theorem labelledTexts_none (i : Nat) :
    (ts : List TypeExpr) → labelledTexts (fun _ => none) i ts = texts ts
  | [] => by rw [labelledTexts, texts]
  | t :: ts => by
    have hchild : Labels.child (fun _ => none) i = fun _ => none := rfl
    rw [labelledTexts, texts, hchild, labelledBareText_none t, labelledTexts_none (i + 1) ts]

end

/-- A type with as many arguments as it needs, of which every name stands
in a signature as it is and does not end in the shaft of an arrow. -/
inductive Spellable : TypeExpr → Prop
  | named {n : String} {q : Bool} (hn : Signature.CleanName n)
      (hs : n.toList.getLast? ≠ some '-') : Spellable (named n q)
  | generic {n : String} {q : Bool} {args : List TypeExpr} (hn : Signature.CleanName n)
      (hs : n.toList.getLast? ≠ some '-') (hne : args ≠ [])
      (hargs : ∀ t ∈ args, Spellable t) : Spellable (generic n q args)
  | function {r : String} {q : Bool} {params : List TypeExpr} (hn : Signature.CleanName r)
      (hs : r.toList.getLast? ≠ some '-') (hparams : ∀ t ∈ params, Spellable t) :
      Spellable (function r q params)

end TypeExpr

namespace Signature

open TypeExpr

variable {ss : List (List Char)} {es : List TypeExpr} {n : String} {labels : Labels}

-- =================================================== blanks of the text

/-- The texts of arguments as commas separate them: all but the first
with a blank in front. -/
def spaced : List (List Char) → List (List Char)
  | [] => []
  | s :: ss => s :: ss.map (' ' :: ·)

/-- The space behind a comma counts for the next text. -/
private theorem intercalate_spaced (ss : List (List Char)) :
    [',', ' '].intercalate ss = [','].intercalate (spaced ss) := by
  cases ss with
  | nil => rfl
  | cons s ss =>
      induction ss generalizing s with
      | nil => rw [spaced, List.map_nil, List.intercalate_singleton, List.intercalate_singleton]
      | cons t ss ih =>
          have hcons : [','].intercalate ((' ' :: t) :: ss.map (' ' :: ·))
              = ' ' :: [','].intercalate (t :: ss.map (' ' :: ·)) :=
            List.intercalate_cons_cons_left
          rw [List.intercalate_cons_cons, ih t, spaced, spaced, List.map_cons,
            List.intercalate_cons_cons, hcons, List.append_assoc, List.append_assoc]
          rfl

/-- A blank in front changes nothing. -/
private theorem readChars_blank_cons {s : List Char} {e : TypeExpr} (h : readChars s = .ok e) :
    readChars (' ' :: s) = .ok e := by
  have hblank : AllBlank [' '] := by
    intro c hc
    cases List.mem_singleton.1 hc
    decide
  exact (readChars_blanks_iff (.start s) hblank).2 h

/-- So texts are read as the same types with the spaces in front. -/
private theorem forall₂_spaced (h : List.Forall₂ (fun s e => readChars s = .ok e) ss es) :
    List.Forall₂ (fun s e => readChars s = .ok e) (spaced ss) es := by
  cases h with
  | nil => exact .nil
  | cons h hs =>
      exact .cons h (List.forall₂_map_left_iff.2 (hs.imp fun _ _ => readChars_blank_cons))

/-- The spaces do not change how a text ends. -/
private theorem last_spaced (h : ∀ s ∈ ss, s.getLast? ≠ some '-') :
    ∀ s ∈ spaced ss, s.getLast? ≠ some '-' := by
  cases ss with
  | nil => exact nofun
  | cons s ss =>
      intro t ht
      rcases List.mem_cons.1 ht with rfl | ht
      · exact h t (List.mem_cons_self ..)
      · obtain ⟨u, hu, rfl⟩ := List.mem_map.1 ht
        have hlast := h u (List.mem_cons_of_mem s hu)
        rw [List.getLast?_cons]
        cases hul : u.getLast? with
        | none => decide
        | some c =>
            rw [hul] at hlast
            exact hlast

/-- The text of a function type has a blank on either side of its arrow. -/
private theorem readChars_function_spaced {before after : List Char} {e : TypeExpr}
    (h : readChars (before ++ '-' :: '>' :: after) = .ok e) :
    readChars (before ++ ' ' :: '-' :: '>' :: ' ' :: after) = .ok e := by
  have hblank : AllBlank [' '] := by
    intro c hc
    cases List.mem_singleton.1 hc
    decide
  have hahead := (readChars_blanks_iff (.arrow before after) hblank).2 h
  have hplace : FreePlace (before ++ [' ', '-'] ++ ['>']) after :=
    .behind (before ++ [' ', '-']) '>' after (by decide)
  have hbehind : readChars ((before ++ [' ', '-'] ++ ['>']) ++ [' '] ++ after) = .ok e := by
    rw [readChars_blanks_iff hplace hblank]
    simpa using hahead
  simpa using hbehind

-- ============================================================= round trip

/-- No text of a type ends in a shaft. -/
private theorem last_labelledBareText {t : TypeExpr} (h : Spellable t) (q : Bool) :
    (labelledBareText labels t ++ mark q).toList.getLast? ≠ some '-' := by
  have hname : ∀ (s : List Char) (n : String), n.toList.getLast? ≠ some '-' →
      CleanName n → (s ++ n.toList).getLast? ≠ some '-' := by
    intro s n hs hn
    rw [List.getLast?_append_of_ne_nil _ hn.toList_ne_nil]
    exact hs
  rw [String.toList_append, mark_toList]
  cases q with
  | true =>
      rw [if_pos rfl, List.getLast?_concat]
      decide
  | false =>
      rw [if_neg Bool.false_ne_true, List.append_nil]
      cases h with
      | named hn hs =>
          rw [labelledBareText, String.toList_append]
          exact hname _ _ hs hn
      | generic hn hs =>
          rw [labelledBareText, String.toList_append]
          show (_ ++ ['>']).getLast? ≠ _
          rw [List.getLast?_concat]
          decide
      | function hn hs =>
          rw [labelledBareText, String.toList_append]
          exact hname _ _ hs hn

/-- The texts of children are signatures of them, if each text is. -/
private theorem forall₂_labelledTexts {ts : List TypeExpr}
    (h : ∀ t ∈ ts, ∀ labels : Labels, labels.Plain → ∀ q,
      readChars (labelledBareText labels t ++ mark q).toList = .ok (t.withNullable q))
    (hl : labels.Plain) (i : Nat) :
    List.Forall₂ (fun s e => readChars s = .ok e)
      ((labelledTexts labels i ts).map String.toList) ts := by
  induction ts generalizing i with
  | nil =>
      rw [labelledTexts]
      exact .nil
  | cons t ts ih =>
      rw [labelledTexts, List.map_cons]
      have hread := h t (List.mem_cons_self ..) _ (hl.child i) t.nullable
      rw [withNullable_self] at hread
      exact .cons hread (ih (fun u hu => h u (List.mem_cons_of_mem t hu)) (i + 1))

/-- No text of a list ends in a dash, so no arrow arises at a closing
bracket. -/
private theorem last_labelledTexts {ts : List TypeExpr} (h : ∀ t ∈ ts, Spellable t) (i : Nat) :
    ∀ s ∈ (labelledTexts labels i ts).map String.toList, s.getLast? ≠ some '-' := by
  induction ts generalizing i with
  | nil =>
      rw [labelledTexts]
      exact nofun
  | cons t ts ih =>
      rw [labelledTexts, List.map_cons]
      intro s hs
      rcases List.mem_cons.1 hs with rfl | hs
      · exact last_labelledBareText (h t (List.mem_cons_self ..)) t.nullable
      · exact ih (fun u hu => h u (List.mem_cons_of_mem t hu)) (i + 1) s hs

/-- The labelled text of a type, with or without a mark, is a signature
of the type that is nullable or not. -/
private theorem readChars_labelled {t : TypeExpr} (h : Spellable t) (hl : labels.Plain) (q : Bool) :
    readChars (labelledBareText labels t ++ mark q).toList = .ok (t.withNullable q) := by
  induction h generalizing labels q with
  | @named n _ hn =>
      have hread := readChars_named hl.front hn q
      simpa [labelledBareText, withNullable] using hread
  | @generic n _ args hn _ hne hargs ih =>
      have hss := forall₂_spaced (forall₂_labelledTexts (fun t ht labels => ih t ht) hl 0)
      have hargslast : ∀ s ∈ (labelledTexts labels 0 args).map String.toList,
          s.getLast? ≠ some '-' := last_labelledTexts hargs 0
      have hlast := last_spaced hargslast
      have hne' : spaced ((labelledTexts labels 0 args).map String.toList) ≠ [] := by
        intro hnil
        rw [hnil] at hss
        cases hss
        exact hne rfl
      have hread := readChars_generic hl.front hn hss hne'
        (fun s hs => hlast s (List.mem_of_getLast? hs)) q
      rw [← intercalate_spaced] at hread
      simpa [labelledBareText, commas, withNullable] using hread
  | @function r _ params hn _ hparams ih =>
      have hss := forall₂_spaced (forall₂_labelledTexts (fun t ht labels => ih t ht) hl 0)
      have htight := readChars_function hl.front hn hss q
      rw [← List.append_assoc] at htight
      have hread := readChars_function_spaced htight
      rw [← intercalate_spaced] at hread
      simpa [labelledBareText, commas, withNullable] using hread

/-- The text of a type is a signature of it, and its text without its own
mark is a signature of the type that is not nullable. Both stay so when
labels are put in front of any nodes. -/
theorem read_text {t : TypeExpr} (h : Spellable t) (hl : labels.Plain) :
    read t.text = .ok t ∧ read t.bareText = .ok (t.withNullable false)
      ∧ read (t.labelledText labels) = .ok t
      ∧ read (t.labelledBareText labels) = .ok (t.withNullable false) := by
  have hnone : Labels.Plain fun _ => none := nofun
  have hmarked : ∀ labels : Labels, labels.Plain → read (t.labelledText labels) = .ok t := by
    intro labels hl
    have hread := readChars_labelled h hl t.nullable
    rw [withNullable_self] at hread
    exact read_ok_iff.2 hread
  have hbare : ∀ labels : Labels, labels.Plain →
      read (t.labelledBareText labels) = .ok (t.withNullable false) := by
    intro labels hl
    have hread := readChars_labelled h hl false
    rw [show mark false = "" from rfl, String.append_empty] at hread
    exact read_ok_iff.2 hread
  have htext : t.labelledText (fun _ => none) = t.text := by
    rw [labelledText, text, labelledBareText_none]
  refine ⟨?_, ?_, hmarked labels hl, hbare labels hl⟩
  · rw [← htext]
    exact hmarked _ hnone
  · rw [← labelledBareText_none t]
    exact hbare _ hnone

/-- A function type with a result that is nullable as an argument, a name
with a blank in it, and labels at the root and at a parameter. -/
theorem read_text_nested :
    Spellable (.generic "Map" true [.function "B" true [.named "A" false], .named "C D" true])
      ∧ Labels.Plain (fun path =>
          if path = [] then some "-" else if path = [0, 0] then some " a:b" else none)
      ∧ read (TypeExpr.text
          (.generic "Map" true [.function "B" true [.named "A" false], .named "C D" true]))
        = .ok (.generic "Map" true [.function "B" true [.named "A" false], .named "C D" true])
      ∧ read "-:Map<( a:b:A) -> B?, C D?>?"
        = .ok (.generic "Map" true
            [.function "B" true [.named "A" false], .named "C D" true]) := by
  have hname : ∀ n ∈ ["Map", "A", "B", "C D"], CleanName n ∧ n.toList.getLast? ≠ some '-' := by
    intro n hn
    simp only [List.mem_cons, List.not_mem_nil, or_false] at hn
    rcases hn with rfl | rfl | rfl | rfl <;> decide
  have ha : Spellable (.named "A" false) := .named (hname _ (by decide)).1 (by decide)
  have hb : Spellable (.function "B" true [.named "A" false]) :=
    .function (hname _ (by decide)).1 (by decide) (List.forall_mem_singleton.2 ha)
  have hc : Spellable (.named "C D" true) := .named (hname _ (by decide)).1 (by decide)
  have h : Spellable
      (.generic "Map" true [.function "B" true [.named "A" false], .named "C D" true]) :=
    .generic (hname _ (by decide)).1 (by decide) nofun
      (List.forall_mem_cons.2 ⟨hb, List.forall_mem_singleton.2 hc⟩)
  have hl : Labels.Plain (fun path =>
      if path = [] then some "-" else if path = [0, 0] then some " a:b" else none) := by
    intro path l hl
    dsimp only at hl
    split at hl
    next =>
      cases hl
      exact notMem_of_all (by decide)
    next =>
      split at hl
      next =>
        cases hl
        exact notMem_of_all (by decide)
      next => cases hl
  obtain ⟨htext, -, hlabelled, -⟩ := read_text h hl
  exact ⟨h, hl, htext, hlabelled⟩

end Signature

end TestDraft
