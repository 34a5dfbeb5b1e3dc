/-
Blanks between the parts of a signature count for nothing, whether the
signature is accepted or not.

Blanks change no level but in the text it holds since its last delimiter,
and that text is trimmed wherever it is used. Two levels that differ in
blanks at the ends of this text (`Alike`) settle, close and enclose in
the same way. They do not stay alike under further text, since blanks
that stood at the end now stand in the middle; levels that differ in
blanks at the front only (`FrontAlike`) do.

At every free place one of the two holds of the levels with and without
the blanks: behind a delimiter the text is empty, so blanks stand at its
front; ahead of a delimiter, an arrow or the end the text is used at
once, so they may stand at its end. Both relations are symmetric, which
makes the acceptance of either signature follow from the other's.
-/
import Mathlib.Logic.Relation
import TestDraft.Proofs.Signature.Leads
import TestDraft.Proofs.Signature.Names

namespace TestDraft.Signature

open Text

variable {l m k g : Level} {around waiting : List Level} {c : Char}
  {s before after bs : List Char} {qs : List Piece}

-- ============================================================ free places

/-- The places of a signature, given by the text before and after them,
at which blanks count for nothing. -/
inductive FreePlace : List Char → List Char → Prop
  | start (after : List Char) : FreePlace [] after
  | stop (before : List Char) : FreePlace before []
  | behind (before : List Char) (c : Char) (after : List Char) (h : c ∈ delimiters) :
      FreePlace (before ++ [c]) after
  | ahead (before : List Char) (c : Char) (after : List Char) (h : c ∈ ['<', '(', ',', ')']) :
      FreePlace before (c :: after)
  | closer (before after : List Char) (h : before.getLast? ≠ some '-') :
      FreePlace before ('>' :: after)
  | arrow (before after : List Char) : FreePlace before ('-' :: '>' :: after)

/-- A signature, and the same with blanks put in at a free place. -/
inductive Respaced : String → String → Prop
  | insert (before blanks after : String) (place : FreePlace before.toList after.toList)
      (hb : AllBlank blanks.toList) : Respaced (before ++ after) (before ++ blanks ++ after)

-- =========================================================== alike levels

/-- Levels that differ in blanks at the ends of the text since the last
delimiter only. -/
structure Alike (l m : Level) : Prop where
  bracket : m.bracket = l.bracket
  pieces : m.pieces = l.pieces
  filled : m.filled = l.filled
  text : trim m.segment = trim l.segment

/-- A level is like itself. -/
theorem Alike.refl (l : Level) : Alike l l := ⟨rfl, rfl, rfl, rfl⟩

/-- It does not matter which of two alike levels has the blanks. -/
theorem Alike.symm (h : Alike l m) : Alike m l :=
  ⟨h.bracket.symm, h.pieces.symm, h.filled.symm, h.text.symm⟩

/-- What is pending settles alike, since settling trims it. -/
theorem Alike.settles (h : Alike l m) (hs : Settles l l.segment k) : Settles m m.segment k :=
  hs.congr h.bracket h.pieces h.filled h.text

/-- So alike levels are closed with the same pieces. -/
theorem Alike.closes {b : Bracket} (h : Alike l m) (hc : Closes l b qs) : Closes m b qs := by
  obtain ⟨hb, k, hs, hk⟩ := hc
  exact ⟨h.bracket.trans hb, k, h.settles hs, hk⟩

/-- The pieces of a bracket come behind what there is, whatever is pending. -/
theorem Alike.enclose (h : Alike l m) (qs : List Piece) : l.enclose qs = m.enclose qs := by
  unfold Level.enclose cleanName
  rw [h.bracket, h.pieces, h.text]

/-- Blanks at the end of the text leave a level alike. -/
private theorem alike_of_blanks (h : AllBlank bs) :
    Alike l { l with pending := bs ++ l.pending } := by
  refine ⟨rfl, rfl, rfl, ?_⟩
  show trim (bs ++ l.pending).reverse = _
  rw [List.reverse_append]
  exact trim_append_blanks h.reverse

/-- Levels that differ in blanks at the front of that text only. Pending
text stands in reverse, so its front is the end of the list. -/
structure FrontAlike (l m : Level) : Prop where
  bracket : m.bracket = l.bracket
  pieces : m.pieces = l.pieces
  filled : m.filled = l.filled
  front : ∃ text bs bs', AllBlank bs ∧ AllBlank bs'
    ∧ l.pending = text ++ bs ∧ m.pending = text ++ bs'

/-- A level is like itself, from the front as well. -/
theorem FrontAlike.refl (l : Level) : FrontAlike l l :=
  ⟨rfl, rfl, rfl, l.pending, [], [], nofun, nofun,
    (List.append_nil _).symm, (List.append_nil _).symm⟩

/-- It does not matter which of the two has more blanks in front. -/
theorem FrontAlike.symm (h : FrontAlike l m) : FrontAlike m l := by
  obtain ⟨hb, hp, hf, text, bs, bs', hbs, hbs', hl, hm⟩ := h
  exact ⟨hb.symm, hp.symm, hf.symm, text, bs', bs, hbs', hbs, hm, hl⟩

/-- Blanks in front of a text are trimmed, few or many. -/
private theorem trim_front {text bs bs' : List Char} (h : AllBlank bs) (h' : AllBlank bs') :
    trim (text ++ bs').reverse = trim (text ++ bs).reverse := by
  rw [List.reverse_append, List.reverse_append, trim_blanks_append h.reverse,
    trim_blanks_append h'.reverse]

/-- Blanks in front are blanks. -/
private theorem FrontAlike.alike (h : FrontAlike l m) : Alike l m := by
  obtain ⟨hb, hp, hf, text, bs, bs', hbs, hbs', hl, hm⟩ := h
  refine ⟨hb, hp, hf, ?_⟩
  unfold Level.segment
  rw [hl, hm]
  exact trim_front hbs hbs'

/-- Blanks are the front of a text of which nothing else is there. -/
private theorem frontAlike_of_blanks (h : AllBlank bs) (hl : l.pending = []) :
    FrontAlike l { l with pending := bs ++ l.pending } := by
  refine ⟨rfl, rfl, rfl, [], [], bs, nofun, h, hl, ?_⟩
  rw [hl, List.append_nil]
  rfl

/-- A blank is no shaft of an arrow. -/
private theorem head?_blanks (h : AllBlank bs) : bs.head? ≠ some '-' := by
  intro hd
  have hb := h '-' (List.mem_of_mem_head? hd)
  revert hb
  decide

/-- An arrow is due after a dash, and blanks in front are not behind one. -/
theorem FrontAlike.arrowDue (h : FrontAlike l m) : m.arrowDue = l.arrowDue := by
  obtain ⟨-, -, -, text, bs, bs', hbs, hbs', hl, hm⟩ := h
  unfold Level.arrowDue
  rw [hl, hm]
  cases text with
  | nil => simp [head?_blanks hbs, head?_blanks hbs']
  | cons c cs => rfl

/-- Reading keeps levels alike up to blanks at the front, and levels that
wait alike up to blanks at either end. -/
private theorem kept_frontAlike : Kept FrontAlike Alike where
  start b := .refl _
  waits h := h.alike
  filled h := h.filled
  arrowDue h := h.arrowDue
  bracket h hb := ⟨h.bracket.trans hb, h.pieces⟩
  settle h hs := ⟨_, h.alike.settles hs, .refl _⟩
  shaft := by
    intro l m k h ha hs
    refine ⟨k, hs.congr h.bracket h.pieces h.filled ?_, .refl k⟩
    obtain ⟨-, -, -, text, bs, bs', hbs, hbs', hl, hm⟩ := h
    cases text with
    | nil =>
        -- the shaft itself would have to be a blank
        unfold Level.arrowDue at ha
        rw [hl, List.nil_append, beq_iff_eq] at ha
        exact absurd ha (head?_blanks hbs)
    | cons c cs =>
        rw [hl, hm]
        exact trim_front hbs hbs'
  unfill h := ⟨h.bracket, h.pieces, rfl, h.front⟩
  point h := by
    refine ⟨h.bracket, ?_, rfl, [], [], [], nofun, nofun, rfl, rfl⟩
    show _ :: _ = _ :: _
    rw [h.pieces]
  enclose qs h := by
    rw [h.enclose qs]
    exact .refl _
  hold c h := by
    obtain ⟨hb, hp, hf, text, bs, bs', hbs, hbs', hl, hm⟩ := h
    refine ⟨hb, hp, hf, c :: text, bs, bs', hbs, hbs', ?_, ?_⟩
    · exact congrArg (c :: ·) hl
    · exact congrArg (c :: ·) hm

-- ====================================================== the text after them

/-- The text after a place leads to the same type from `m` as it does
from `l`. -/
def Follows (l m : Level) (waiting : List Level) (after : List Char) : Prop :=
  ∀ g k, Leads l waiting after g [] → Settles g g.segment k →
    ∃ g', Leads m waiting after g' [] ∧ Settles g' g'.segment k

/-- A reading that gets to the end from one of two alike levels gets there
from the other one, and settles alike. -/
private theorem FrontAlike.resumes {ws : List Level} (h : FrontAlike l m)
    (hw : List.Forall₂ Alike waiting ws) (hl : Leads l waiting s g [])
    (hs : Settles g g.segment k) :
    ∃ g', Leads m ws s g' [] ∧ Settles g' g'.segment k := by
  obtain ⟨g', ws', hleads, hg, hnil⟩ := kept_frontAlike.leads [] h hw hl
  cases hnil
  rw [List.append_nil] at hleads
  exact ⟨g', hleads, hg.alike.settles hs⟩

/-- Levels that wait are like themselves. -/
private theorem forall₂_alike_refl (ls : List Level) : List.Forall₂ Alike ls ls := by
  induction ls with
  | nil => exact .nil
  | cons l ls ih => exact .cons (.refl l) ih

/-- Blanks in front of a name change nothing, whatever comes. -/
private theorem FrontAlike.follows (h : FrontAlike l m) : Follows l m waiting after :=
  fun _ _ hl hs => h.resumes (forall₂_alike_refl waiting) hl hs

/-- A delimiter uses the text before it at once. -/
private theorem Alike.follows_delimiter (h : Alike l m) (hd : c ∈ delimiters)
    (ha : c = '>' → l.arrowDue = false ∧ m.arrowDue = false) :
    Follows l m waiting (c :: after) := by
  intro g k hl hs
  cases hl with
  | cons first others =>
      cases first with
      | opens b hc hf =>
          obtain ⟨g', hleads, hs'⟩ := (FrontAlike.refl _).resumes
            (.cons h (forall₂_alike_refl waiting)) others hs
          exact ⟨g', .cons (.opens b hc (h.filled.trans hf)) hleads, hs'⟩
      | divides n hc hset hf =>
          exact ⟨g, .cons (.divides n hc (h.settles hset) hf) others, hs⟩
      | points n hc hdue hset => simp [(ha hc).1] at hdue
      | closes b ps hc hdue hcl =>
          refine ⟨g, .cons (.closes b ps hc ?_ (h.closes hcl)) others, hs⟩
          rintro ⟨rfl, hdue'⟩
          simp [(ha hc).2] at hdue'
      | holds hc => exact absurd hd hc

/-- Blanks in front of an arrow change nothing. -/
private theorem Alike.follows_arrow (h : Alike l m) :
    Follows l m waiting ('-' :: '>' :: after) := by
  intro g k hl hs
  obtain ⟨n, hset, hl⟩ := leads_arrow_iff.1 hl
  exact ⟨g, leads_arrow_iff.2 ⟨n, h.settles hset, hl⟩, hs⟩

/-- Blanks at the end change nothing. -/
private theorem Alike.follows_stop (h : Alike l m) : Follows l m waiting [] := by
  intro g k hl hs
  cases hl
  exact ⟨m, .nil m [], h.settles hs⟩

/-- At a free place the text after it leads to the same type with and
without the blanks. -/
private theorem FreePlace.follows (place : FreePlace before after)
    (hl : Leads (.start none) [] before l waiting) (h : AllBlank bs) :
    Follows l { l with pending := bs ++ l.pending } waiting after
      ∧ Follows { l with pending := bs ++ l.pending } l waiting after := by
  have halike : Alike l { l with pending := bs ++ l.pending } := alike_of_blanks h
  cases place with
  | start =>
      cases hl
      have hfront := frontAlike_of_blanks (l := .start none) h rfl
      exact ⟨hfront.follows, hfront.symm.follows⟩
  | stop => exact ⟨halike.follows_stop, halike.symm.follows_stop⟩
  | behind before c after hd =>
      have hpending : l.pending = [] := by
        have hlatest := hl.latest
        rw [if_pos hd] at hlatest
        exact List.head?_eq_none_iff.1 hlatest
      have hfront := frontAlike_of_blanks h hpending
      exact ⟨hfront.follows, hfront.symm.follows⟩
  | ahead before c after hd =>
      have hdel : c ∈ delimiters := by
        revert hd
        simp only [delimiters, List.mem_cons, List.not_mem_nil]
        tauto
      have hgt : c ≠ '>' := by
        rintro rfl
        revert hd
        decide
      exact ⟨halike.follows_delimiter hdel fun hc => absurd hc hgt,
        halike.symm.follows_delimiter hdel fun hc => absurd hc hgt⟩
  | closer before after hshaft =>
      have hdue : l.arrowDue = false := by
        cases hd : l.arrowDue with
        | false => rfl
        | true => exact absurd (hl.arrowDue rfl hd) hshaft
      have hdue' : Level.arrowDue { l with pending := bs ++ l.pending } = false := by
        unfold Level.arrowDue at hdue ⊢
        cases bs with
        | nil => exact hdue
        | cons c cs =>
            have hne := head?_blanks h
            rw [beq_eq_false_iff_ne]
            exact hne
      exact ⟨halike.follows_delimiter (by decide) fun _ => ⟨hdue, hdue'⟩,
        halike.symm.follows_delimiter (by decide) fun _ => ⟨hdue', hdue⟩⟩
  | arrow => exact ⟨halike.follows_arrow, halike.symm.follows_arrow⟩

-- ========================================================== whole signatures

/-- Blanks at a free place leave the type of a signature as it is. -/
theorem readChars_blanks_iff {e : TypeExpr} (place : FreePlace before after)
    (h : AllBlank bs) :
    readChars (before ++ bs ++ after) = .ok e ↔ readChars (before ++ after) = .ok e := by
  rw [readChars_ok_iff, readChars_ok_iff]
  constructor
  · rintro ⟨g, k, hl, hs, hk⟩
    rw [List.append_assoc] at hl
    obtain ⟨l, waiting, hbefore, hl⟩ := hl.split
    obtain ⟨n, ws, hblanks, hafter⟩ := hl.split
    obtain ⟨rfl, rfl⟩ := hblanks.unique (leads_plain (plain_of_allBlank h))
    obtain ⟨g', hafter', hs'⟩ := (place.follows hbefore h.reverse).2 g k hafter hs
    exact ⟨g', k, hbefore.append hafter', hs', hk⟩
  · rintro ⟨g, k, hl, hs, hk⟩
    obtain ⟨l, waiting, hbefore, hafter⟩ := hl.split
    obtain ⟨g', hafter', hs'⟩ := (place.follows hbefore h.reverse).1 g k hafter hs
    refine ⟨g', k, ?_, hs', hk⟩
    rw [List.append_assoc]
    exact hbefore.append ((leads_plain (plain_of_allBlank h)).append hafter')

/-- Signatures that are accepted alike have the same outcome. -/
private theorem toOption_read_congr {s s' : String}
    (h : ∀ e, readChars s'.toList = .ok e ↔ readChars s.toList = .ok e) :
    (read s').toOption = (read s).toOption := by
  cases hs : read s with
  | ok e =>
      have he := (h e).2 (read_ok_iff.1 hs)
      rw [read_ok_iff.2 he]
  | error f =>
      cases hs' : read s' with
      | error f' => rfl
      | ok e =>
          have he := (h e).1 (read_ok_iff.1 hs')
          rw [read_ok_iff.2 he] at hs
          cases hs

/-- Signatures that differ in blanks at free places only, put in or taken
away one run after the other, have the same outcome: both are rejected,
or both have the same type. -/
theorem outcome_of_respaced {s s' : String} (h : Relation.EqvGen Respaced s s') :
    (read s).toOption = (read s').toOption := by
  induction h with
  | rel s s' h =>
      cases h with
      | insert before blanks after place hb =>
          refine (toOption_read_congr fun e => ?_).symm
          simp only [String.toList_append]
          exact readChars_blanks_iff place hb
  | refl s => rfl
  | symm s s' _ ih => exact ih.symm
  | trans s s' s'' _ _ ih ih' => exact ih.trans ih'

/-- Blanks ahead of an arrow, behind the bracket that closes. -/
theorem outcome_of_respaced_arrow :
    Relation.EqvGen Respaced ("(A)" ++ "->B<C>") ("(A)" ++ " \t" ++ "->B<C>")
      ∧ (read ("(A)" ++ "->B<C>")).toOption = (read ("(A)" ++ " \t" ++ "->B<C>")).toOption := by
  have h : Relation.EqvGen Respaced ("(A)" ++ "->B<C>") ("(A)" ++ " \t" ++ "->B<C>") :=
    .rel _ _ (.insert "(A)" " \t" "->B<C>" (.arrow "(A)".toList "B<C>".toList)
      (List.all_eq_true.1 (by decide)))
  exact ⟨h, outcome_of_respaced h⟩

end TestDraft.Signature
