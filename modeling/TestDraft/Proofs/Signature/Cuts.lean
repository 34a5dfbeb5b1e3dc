/-
The names in an accepted type are cut out of its signature.

Of the text in front of a delimiter reading takes off the blanks, a label
and a mark, so what is left is a stretch of it (`cleanName_isInfix`). A mark
behind a bracket is put at the end of the name in front of the bracket,
and is the first thing to be taken off again: the blanks in front of a
mark are those of the name, which ends in none (`Cut.group`). So the name
of a form is cut out of its text, and by induction on the form so are all
names inside, since forms stand in each other as their texts do.
-/
import TestDraft.Proofs.Signature.Losses

namespace TestDraft

namespace TypeExpr

mutual

/-- A type and the types in it, at every depth. -/
def nodes : TypeExpr → List TypeExpr
  | named n q => [named n q]
  | generic n q args => generic n q args :: allNodes args
  | function r q params => function r q params :: allNodes params

def allNodes : List TypeExpr → List TypeExpr
  | [] => []
  | t :: ts => t.nodes ++ allNodes ts

end

/-- The nodes of several types are those of each. -/
private theorem allNodes_eq_flatMap (ts : List TypeExpr) : allNodes ts = ts.flatMap nodes := by
  induction ts with
  | nil => rw [allNodes, List.flatMap_nil]
  | cons t ts ih => rw [allNodes, List.flatMap_cons, ih]

end TypeExpr

namespace Signature

open Text

variable {s t title front tail run : List Char} {e u : TypeExpr} {args : List TypeExpr}
  {f : Form} {fs : List Form}

-- ================================================================== cuts

/-- A type of which the name is cut out of a text: it holds no delimiter
and no label, and of marks and blanks at its ends at most a mark that is
followed by the one of the type. -/
structure Cut (s : List Char) (t : TypeExpr) : Prop where
  piece : t.name.toList <:+: s
  plain : ∀ c ∈ t.name.toList, c ∉ ['<', '>', '(', ')', ',', ':']
  ends : NoBlankEnds t.name.toList
  mark : t.name.toList.getLast? = some '?' → t.nullable = true
  applied : ∀ n q args, t = .generic n q args → args ≠ []

/-- What is cut out of a part is cut out of the whole. -/
theorem Cut.mono (h : Cut s u) (hst : s <:+: t) : Cut t u :=
  ⟨h.piece.trans hst, h.plain, h.ends, h.mark, h.applied⟩

/-- The name without its label and blanks is a stretch of the text. -/
theorem cleanName_isInfix (s : List Char) : cleanName s <:+: s :=
  ((trim_isInfix _).trans (dropLabel_suffix _).isInfix).trans (trim_isInfix s)

/-- A name without delimiters has no label left either. -/
private theorem cleanName_plain (h : ∀ c ∈ s, c ∉ delimiters) :
    ∀ c ∈ cleanName s, c ∉ ['<', '>', '(', ')', ',', ':'] := by
  intro c hc
  have hdelimiter : c ∉ delimiters := h c ((cleanName_isInfix s).subset hc)
  have hcolon : c ≠ ':' := by
    rintro rfl
    exact colon_notMem_dropLabel _ ((trim_isInfix _).subset hc)
  simpa [delimiters, hcolon] using hdelimiter

/-- The name in a title is its beginning. -/
private theorem splitMark_isPrefix (title : List Char) : (splitMark title).1 <+: title := by
  unfold splitMark
  split
  case isTrue => exact (trimEnd_isPrefix _).trans (List.dropLast_prefix title)
  case isFalse => exact List.prefix_rfl

/-- It has no blanks around it if the title has none. -/
private theorem noBlankEnds_splitMark (h : NoBlankEnds title) :
    NoBlankEnds (splitMark title).1 := by
  unfold splitMark
  split
  case isTrue =>
    refine noBlankEnds_trimEnd fun c hc => h.head c ?_
    obtain ⟨t, ht⟩ := List.dropLast_prefix title
    rw [← ht, List.head?_append, hc]
    rfl
  case isFalse => exact h

/-- A name from which no mark was taken does not end in one. -/
private theorem splitMark_mark (h : (splitMark title).1.getLast? = some '?') :
    (splitMark title).2 = true := by
  unfold splitMark at h ⊢
  split
  case isTrue => rfl
  case isFalse hlast =>
    rw [if_neg hlast] at h
    exact absurd h hlast

/-- A type is cut out of a text if the name in its title is. -/
theorem Cut.ofTitle (hpiece : (splitMark title).1 <:+: s)
    (hplain : ∀ c ∈ title, c ∉ ['<', '>', '(', ')', ',', ':']) (hends : NoBlankEnds title)
    (args : List TypeExpr) : Cut s (ofTitle title args) := by
  have hname : (Signature.ofTitle title args).name.toList = (splitMark title).1 := by
    rw [ofTitle_name, String.toList_ofList]
  refine ⟨?piece, ?plain, ?ends, ?mark, ?applied⟩
  case piece => rwa [hname]
  case plain =>
    rw [hname]
    exact fun c hc => hplain c ((splitMark_isPrefix title).subset hc)
  case ends =>
    rw [hname]
    exact noBlankEnds_splitMark hends
  case mark =>
    rw [hname, ofTitle_nullable]
    exact splitMark_mark
  case applied =>
    intro n q args' h
    cases args with
    | nil => cases h
    | cons a as =>
        cases h
        exact List.cons_ne_nil a as

/-- A run of characters is cut down to the name in it. -/
theorem Cut.word (h : ∀ c ∈ run, c ∉ delimiters) (args : List TypeExpr) :
    Cut run (Signature.ofTitle (cleanName run) args) :=
  .ofTitle ((splitMark_isPrefix _).isInfix.trans (cleanName_isInfix run)) (cleanName_plain h)
    (noBlankEnds_cleanName run) args

/-- A function is cut out where its result is: it goes by its name. -/
theorem Cut.function {args params : List TypeExpr} (h : Cut s (Signature.ofTitle title args)) :
    Cut s (.function (Signature.ofTitle title []).name
      (Signature.ofTitle title []).nullable params) := by
  have hname : (Signature.ofTitle title args).name = (Signature.ofTitle title []).name := by
    rw [ofTitle_name, ofTitle_name]
  have hmark : (Signature.ofTitle title args).nullable = (Signature.ofTitle title []).nullable := by
    rw [ofTitle_nullable, ofTitle_nullable]
  rw [← hname, ← hmark]
  exact ⟨h.piece, h.plain, h.ends, h.mark, nofun⟩

/-- A mark behind a bracket does not change the name in front of it. -/
theorem Cut.group (h : ∀ c ∈ front, c ∉ delimiters) (htail : TailText tail)
    (args : List TypeExpr) : Cut front (Signature.ofTitle (cleanName front ++ trim tail) args) := by
  rcases htail.mark with hblank | hmark
  · rw [hblank, List.append_nil]
    exact .word h args
  · have hends : NoBlankEnds (cleanName front ++ ['?']) :=
      (noBlankEnds_cleanName front).append_right (by decide)
    rw [hmark]
    refine .ofTitle ?_ ?_ hends args
    · rw [splitMark_concat, trimEnd_eq_self (noBlankEnds_cleanName front).last]
      exact cleanName_isInfix front
    · intro c hc
      rcases List.mem_append.1 hc with hc | hc
      · exact cleanName_plain h c hc
      · obtain rfl := List.mem_singleton.1 hc
        decide

-- ================================================================= forms

/-- A type is a node of its own, above those of its arguments. -/
private theorem nodes_ofTitle (title : List Char) (args : List TypeExpr) :
    (ofTitle title args).nodes = ofTitle title args :: TypeExpr.allNodes args := by
  cases args with
  | nil => rw [ofTitle, TypeExpr.nodes, TypeExpr.allNodes]
  | cons a as => rfl

namespace Form

/-- Each of several forms is a stretch of their text. -/
theorem source_infix_sources (h : f ∈ fs) : f.source <:+: sources fs := by
  induction fs with
  | nil => cases h
  | cons g gs ih =>
      cases gs with
      | nil =>
          obtain rfl := List.mem_singleton.1 h
          exact ⟨[], [], by simp [sources]⟩
      | cons g' gs =>
          rw [sources]
          rcases List.mem_cons.1 h with rfl | h
          · exact (List.prefix_append ..).isInfix
          · exact (ih h).trans ((List.suffix_cons ..).trans (List.suffix_append ..)).isInfix

/-- Every type that a form stands for or holds is cut out of its text. -/
theorem WellFormed.cut (h : f.WellFormed) : ∀ u ∈ f.type.nodes, Cut f.source u := by
  induction h with
  | word hrun =>
      rw [type, source, nodes_ofTitle, TypeExpr.allNodes]
      exact List.forall_mem_singleton.2 (.word hrun.plain [])
  | @group front tail b args hfront hargs hne hclose htail ih =>
      rw [type, source, nodes_ofTitle]
      refine List.forall_mem_cons.2 ⟨?_, fun u hu => ?_⟩
      · exact (Cut.group hfront htail _).mono (List.prefix_append ..).isInfix
      · rw [types_eq_map, TypeExpr.allNodes_eq_flatMap, List.flatMap_map] at hu
        obtain ⟨f, hf, hu⟩ := List.mem_flatMap.1 hu
        have hinside : sources args
            <:+: front ++ b.opener :: (sources args ++ [] ++ b.closer :: tail) :=
          ⟨front ++ [b.opener], b.closer :: tail, by simp⟩
        exact (ih f hf u hu).mono ((source_infix_sources hf).trans hinside)
  | empty hfront hgap htail =>
      rw [type, source, nodes_ofTitle, types, TypeExpr.allNodes]
      refine List.forall_mem_singleton.2 ?_
      exact (Cut.group hfront htail []).mono (List.prefix_append ..).isInfix
  | @function params result between hparams hpiece htitle hbetween hresult hpiece' ihp ihr =>
      -- A function goes by its result, and holds what its parameters hold.
      have hown : Cut result.source (ofTitle result.title result.argTypes) := by
        rw [← type_of_isPiece hpiece']
        refine ihr _ ?_
        rw [type_of_isPiece hpiece', nodes_ofTitle]
        exact List.mem_cons_self
      have hargs : ∀ u ∈ TypeExpr.allNodes params.argTypes, Cut params.source u := by
        intro u hu
        refine ihp u ?_
        rw [type_of_isPiece hpiece, nodes_ofTitle]
        exact List.mem_cons_of_mem _ hu
      have hbehind : result.source <:+: params.source ++ between ++ '-' :: '>' :: result.source :=
        ⟨params.source ++ between ++ ['-', '>'], [], by simp⟩
      have hfront : params.source <:+: params.source ++ between ++ '-' :: '>' :: result.source :=
        ⟨[], between ++ '-' :: '>' :: result.source, by simp⟩
      rw [type, source, TypeExpr.nodes]
      exact List.forall_mem_cons.2
        ⟨hown.function.mono hbehind, fun u hu => (hargs u hu).mono hfront⟩

end Form

/-- Every name in the type of an accepted signature, at any depth, is a
stretch of the signature that holds no bracket, comma or colon and has no
blank at either end. It ends in a mark only where the type is nullable,
and no list of type arguments is empty. -/
theorem read_cut {s : String} {t : TypeExpr} (h : read s = .ok t) :
    ∀ u ∈ t.nodes, Cut s.toList u := by
  obtain ⟨f, hf, hsource, rfl, -⟩ := readChars_iff_form.1 (read_ok_iff.1 h)
  rw [← hsource]
  exact hf.cut

/-- Marks in a row, of which the last one goes, and labels with several
colons. -/
theorem read_cut_odd :
    read "a:b: Map<K ? ?, (n: Int), -> :Unit ?> ?"
        = .ok (.generic "Map" true [.named "K ?" true, .function "Unit" true [.named "Int" false]])
      ∧ Cut "a:b: Map<K ? ?, (n: Int), -> :Unit ?> ?".toList (.named "K ?" true)
      ∧ Cut "a:b: Map<K ? ?, (n: Int), -> :Unit ?> ?".toList
        (.function "Unit" true [.named "Int" false]) := by
  have hread : read "a:b: Map<K ? ?, (n: Int), -> :Unit ?> ?"
      = .ok (.generic "Map" true
        [.named "K ?" true, .function "Unit" true [.named "Int" false]]) := by
    decide +kernel
  have hnodes := read_cut hread
  simp only [TypeExpr.nodes, TypeExpr.allNodes, List.forall_mem_cons, List.cons_append,
    List.nil_append] at hnodes
  exact ⟨hread, hnodes.2.1, hnodes.2.2.1⟩

end Signature

end TestDraft
