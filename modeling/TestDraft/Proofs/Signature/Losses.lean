/-
What reading a signature loses: rendering the type that has been read
gives the signature back, but for blanks, labels and four edits.

A type has no place for the kind of a bracket, for a bracket behind the
name of a result, for a mark in front of a bracket or for a comma in
front of an arrow. `Form.edited` writes a form in the one way that a type
is rendered in; that the rendering is the text of the edited form is
proved by recursion on the form (`Form.WellFormed.text_eq`). Blanks and
labels are erased on both sides: both erasures go through the brackets
and commas of a text, and on the text of a name they leave what is left
of it in the type.
-/
import TestDraft.Proofs.Signature.Rows

namespace TestDraft.Signature

open Text

variable {s x y front tail : List Char} {c d : Char} {f : Form}

-- ================================================================= blanks

/-- A text without its blanks. -/
def withoutBlanks (s : List Char) : List Char := s.filter (!isBlank ·)

private theorem withoutBlanks_append (s t : List Char) :
    withoutBlanks (s ++ t) = withoutBlanks s ++ withoutBlanks t :=
  List.filter_append s t

private theorem withoutBlanks_of_allBlank (h : AllBlank s) : withoutBlanks s = [] :=
  List.filter_eq_nil_iff.2 fun c hc => by simp [h c hc]

/-- Blanks at the ends of a text are erased with all others. -/
private theorem withoutBlanks_dropWhile (s : List Char) :
    withoutBlanks (s.dropWhile isBlank) = withoutBlanks s := by
  have hsplit := congrArg withoutBlanks (List.takeWhile_append_dropWhile (p := isBlank) (l := s))
  have hfront : AllBlank (s.takeWhile isBlank) := fun c hc => List.mem_takeWhile_imp hc
  rwa [withoutBlanks_append, withoutBlanks_of_allBlank hfront, List.nil_append] at hsplit

private theorem withoutBlanks_trimEnd (s : List Char) :
    withoutBlanks (trimEnd s) = withoutBlanks s := by
  have hfront := withoutBlanks_dropWhile s.reverse
  unfold withoutBlanks at hfront ⊢
  unfold trimEnd
  rw [List.filter_reverse, hfront, List.filter_reverse, List.reverse_reverse]

/-- Trimming takes away blanks only. -/
private theorem withoutBlanks_trim (s : List Char) : withoutBlanks (trim s) = withoutBlanks s := by
  unfold trim
  rw [withoutBlanks_trimEnd, withoutBlanks_dropWhile]

private theorem withoutBlanks_eq_self (h : ∀ c ∈ s, isBlank c = false) : withoutBlanks s = s :=
  List.filter_eq_self.2 fun c hc => by simp [h c hc]

-- ================================================================= labels

/-- A text without its labels: between any two brackets and commas, what
stands up to the last colon is erased. -/
def unlabelled : List Char → List Char
  | [] => []
  | c :: cs =>
    if c ∉ delimiters ∧ ':' ∈ (c :: cs).takeWhile (· ∉ delimiters) then unlabelled cs
    else c :: unlabelled cs

/-- Labels are erased between delimiters. -/
private theorem unlabelled_delimiter (hd : d ∈ delimiters) :
    unlabelled (x ++ d :: y) = unlabelled x ++ d :: unlabelled y := by
  induction x with
  | nil =>
      show unlabelled (d :: y) = d :: unlabelled y
      rw [unlabelled, if_neg fun h => h.1 hd]
  | cons c cs ih =>
      have htake : ((c :: cs) ++ d :: y).takeWhile (· ∉ delimiters)
          = (c :: cs).takeWhile (· ∉ delimiters) := by
        rw [List.takeWhile_append]
        split
        next h =>
          rw [List.takeWhile_cons_of_neg (by simpa using hd), List.append_nil]
          exact ((List.takeWhile_prefix _).eq_of_length h).symm
        next => rfl
      rw [List.cons_append, unlabelled, ← List.cons_append, htake, unlabelled, ih]
      split <;> rfl

/-- Blanks and labels are erased on either side of a bracket or comma. -/
private theorem withoutBlanks_delimiter (x y : List Char) (hd : d ∈ delimiters) :
    withoutBlanks (unlabelled (x ++ d :: y))
      = withoutBlanks (unlabelled x) ++ d :: withoutBlanks (unlabelled y) := by
  rw [unlabelled_delimiter hd, withoutBlanks_append]
  congr 1
  exact List.filter_cons_of_pos (by simp [isBlank_delimiter hd])

private theorem dropLabel_cons (h : ':' ∈ c :: s) : dropLabel (c :: s) = dropLabel s := by
  by_cases hs : ':' ∈ s
  · unfold dropLabel
    rw [List.reverse_cons, List.takeWhile_append, if_neg]
    intro hlen
    have hall := (List.takeWhile_prefix _).eq_of_length hlen
    rw [List.takeWhile_eq_self_iff] at hall
    have hcolon := hall ':' (List.mem_reverse.2 hs)
    simp at hcolon
  · have hc : c = ':' := by
      rcases List.mem_cons.1 h with hc | hc
      · exact hc.symm
      · exact absurd hc hs
    subst hc
    have hdrop : dropLabel ([] ++ ':' :: s) = s := dropLabel_append hs
    rw [List.nil_append] at hdrop
    rw [hdrop, dropLabel_eq_self hs]

/-- On a text without delimiters this is how a name loses its label. -/
private theorem unlabelled_plain (h : ∀ c ∈ s, c ∉ delimiters) : unlabelled s = dropLabel s := by
  induction s with
  | nil => rfl
  | cons c cs ih =>
      have htake : (c :: cs).takeWhile (· ∉ delimiters) = c :: cs := by
        rw [List.takeWhile_eq_self_iff]
        exact fun d hd => by simpa using h d hd
      have ih' := ih fun d hd => h d (List.mem_cons_of_mem c hd)
      rw [unlabelled, htake, ih']
      by_cases hcolon : ':' ∈ c :: cs
      · rw [if_pos ⟨h c List.mem_cons_self, hcolon⟩, dropLabel_cons hcolon]
      · rw [if_neg (fun hc => hcolon hc.2), dropLabel_eq_self hcolon,
          dropLabel_eq_self fun hc => hcolon (List.mem_cons_of_mem c hc)]

/-- A text without a colon keeps what stands before it. -/
private theorem dropLabel_append_right (h : ':' ∉ y) : dropLabel (x ++ y) = dropLabel x ++ y := by
  unfold dropLabel
  rw [List.reverse_append, List.takeWhile_append_of_pos, List.reverse_append, List.reverse_reverse]
  intro c hc
  have hne : c ≠ ':' := fun heq => h (heq ▸ List.mem_reverse.1 hc)
  simpa using hne

/-- Blanks and labels are erased in either order. -/
private theorem withoutBlanks_dropLabel (s : List Char) :
    withoutBlanks (dropLabel s) = dropLabel (withoutBlanks s) := by
  induction s with
  | nil => rfl
  | cons c cs ih =>
      have hmem : ':' ∈ c :: cs ↔ ':' ∈ withoutBlanks (c :: cs) := by
        have hcolon : isBlank ':' = false := by decide
        unfold withoutBlanks
        rw [List.mem_filter, hcolon]
        simp
      by_cases h : ':' ∈ c :: cs
      · rw [dropLabel_cons h, ih]
        have h' := hmem.1 h
        unfold withoutBlanks at h' ⊢
        rw [List.filter_cons] at h' ⊢
        split at h' <;> rename_i hc
        · rw [if_pos hc, dropLabel_cons h']
        · rw [if_neg hc]
      · rw [dropLabel_eq_self h, dropLabel_eq_self (mt hmem.2 h)]

/-- A cleaned name has no blanks around it. -/
theorem noBlankEnds_cleanName (s : List Char) : NoBlankEnds (cleanName s) := noBlankEnds_trim _

/-- Cleaning a name drops its label and nothing else but blanks. -/
private theorem withoutBlanks_cleanName (s : List Char) :
    withoutBlanks (cleanName s) = dropLabel (withoutBlanks s) := by
  unfold cleanName
  rw [withoutBlanks_trim, withoutBlanks_dropLabel, withoutBlanks_trim]

/-- Erasing labels and blanks leaves of the text of a name what its piece
is called. -/
private theorem withoutBlanks_unlabelled (h : ∀ c ∈ s, c ∉ delimiters) :
    withoutBlanks (unlabelled s) = withoutBlanks (cleanName s) := by
  rw [unlabelled_plain h, withoutBlanks_dropLabel, withoutBlanks_cleanName]

-- ================================================================== marks

theorem splitMark_concat (s : List Char) : splitMark (s ++ ['?']) = (trimEnd s, true) := by
  unfold splitMark
  rw [List.getLast?_concat, if_pos rfl, List.dropLast_concat]

/-- A name and its mark make up the text of both. -/
private theorem splitMark_join (n : List Char) :
    withoutBlanks (splitMark n).1 ++ (TypeExpr.mark (splitMark n).2).toList = withoutBlanks n := by
  rw [mark_toList]
  unfold splitMark
  split
  next h =>
    obtain ⟨u, rfl⟩ := List.getLast?_eq_some_iff.1 h
    rw [List.dropLast_concat, if_pos rfl, withoutBlanks_trimEnd, withoutBlanks_append]
    rfl
  next => rw [if_neg Bool.false_ne_true, List.append_nil]

/-- What a text ends in, if that is no blank, it ends in without blanks. -/
private theorem getLast?_withoutBlanks (h : ∀ c, s.getLast? = some c → isBlank c = false) :
    (withoutBlanks s).getLast? = s.getLast? := by
  rcases List.eq_nil_or_concat s with rfl | ⟨u, c, rfl⟩
  · rfl
  · rw [List.concat_eq_append] at h ⊢
    have hc := h c (List.getLast?_concat ..)
    rw [withoutBlanks_append, withoutBlanks_eq_self (s := [c]) (by simpa using hc),
      List.getLast?_concat, List.getLast?_concat]

private theorem getLast?_of_dropLabel (h : (dropLabel s).getLast? = some c) :
    s.getLast? = some c := by
  obtain ⟨t, ht⟩ := dropLabel_suffix s
  rw [← ht, List.getLast?_append, h]
  rfl

/-- The texts in front of a bracket and behind it, with a mark at the end
of the first put behind the bracket, if there is none. -/
def markBehind (front tail : List Char) : List Char × List Char :=
  if trim tail = [] ∧ (trim front).getLast? = some '?' then ((trim front).dropLast, ['?'])
  else (front, tail)

/-- A name in front of a bracket ends in a mark if its text does. -/
private theorem getLast?_cleanName (front : List Char) :
    (cleanName front).getLast? = some '?' ↔ (trim front).getLast? = some '?' := by
  have hclean : (cleanName front).getLast? = (dropLabel (withoutBlanks front)).getLast? := by
    rw [← withoutBlanks_cleanName, getLast?_withoutBlanks (noBlankEnds_cleanName front).last]
  have htrim : (trim front).getLast? = (withoutBlanks front).getLast? := by
    rw [← withoutBlanks_trim, getLast?_withoutBlanks (noBlankEnds_trim front).last]
  rw [hclean, htrim]
  constructor
  · exact getLast?_of_dropLabel
  · intro h
    obtain ⟨u, hu⟩ := List.getLast?_eq_some_iff.1 h
    rw [hu, dropLabel_append_right (by decide), List.getLast?_concat]

/-- Behind a bracket stands nothing but blanks and a mark. -/
private theorem TailText.withoutBlanks (h : TailText tail) : withoutBlanks tail = trim tail := by
  rw [← withoutBlanks_trim]
  rcases h.mark with h | h <;> rw [h] <;> rfl

/-- What may stand behind a bracket has no colon. -/
theorem TailText.noColon (h : TailText tail) : ':' ∉ trim tail := by
  rcases h.mark with h | h <;> rw [h] <;> decide

/-- The text around a bracket, without the bracket. -/
private theorem withoutBlanks_around (hfront : ∀ c ∈ front, c ∉ delimiters)
    (htail : TailText tail) :
    withoutBlanks (unlabelled (front ++ tail)) = withoutBlanks (cleanName front ++ trim tail) := by
  have hplain : ∀ c ∈ front ++ tail, c ∉ delimiters := fun c hc =>
    (List.mem_append.1 hc).elim (hfront c) (htail.plain c)
  rw [withoutBlanks_unlabelled hplain, withoutBlanks_cleanName, withoutBlanks_append,
    withoutBlanks_append, withoutBlanks_cleanName, withoutBlanks_trim, htail.withoutBlanks,
    dropLabel_append_right htail.noColon]

/-- Once its mark stands behind the bracket, the text in front of the
bracket is the name. -/
private theorem markBehind_spec (hfront : ∀ c ∈ front, c ∉ delimiters) (htail : TailText tail) :
    withoutBlanks (unlabelled (markBehind front tail).1)
        = withoutBlanks (splitMark (cleanName front ++ trim tail)).1
    ∧ withoutBlanks (unlabelled (markBehind front tail).2)
        = (TypeExpr.mark (splitMark (cleanName front ++ trim tail)).2).toList := by
  have htail' : withoutBlanks (unlabelled tail) = trim tail := by
    rw [withoutBlanks_unlabelled htail.plain, withoutBlanks_cleanName, htail.withoutBlanks,
      dropLabel_eq_self htail.noColon]
  have hjoin := splitMark_join (cleanName front ++ trim tail)
  unfold markBehind
  split
  next h =>
    obtain ⟨hblank, hlast⟩ := h
    rw [hblank, List.append_nil] at hjoin ⊢
    have hq : (splitMark (cleanName front)).2 = true := by
      unfold splitMark
      rw [if_pos ((getLast?_cleanName front).2 hlast)]
    obtain ⟨u, hu⟩ := List.getLast?_eq_some_iff.1 hlast
    rw [hu, List.dropLast_concat]
    have hplain : ∀ c ∈ u, c ∉ delimiters := by
      intro c hc
      refine hfront c ((trim_sublist front).subset ?_)
      rw [hu]
      exact List.mem_append_left _ hc
    refine ⟨?_, by rw [hq]; rfl⟩
    have hname : withoutBlanks (cleanName front) = withoutBlanks (cleanName u) ++ ['?'] := by
      rw [withoutBlanks_cleanName, ← withoutBlanks_trim front, hu, withoutBlanks_append,
        withoutBlanks_cleanName]
      exact dropLabel_append_right (by decide)
    rw [hname, hq] at hjoin
    rw [withoutBlanks_unlabelled hplain]
    exact (List.append_cancel_right hjoin).symm
  next h =>
    rw [withoutBlanks_unlabelled hfront, htail']
    rcases htail.mark with hblank | hmark
    · have hlast : (cleanName front).getLast? ≠ some '?' :=
        fun hlast => h ⟨hblank, (getLast?_cleanName front).1 hlast⟩
      rw [hblank, List.append_nil]
      unfold splitMark
      rw [if_neg hlast]
      exact ⟨rfl, rfl⟩
    · rw [hmark, splitMark_concat, trimEnd_eq_self (noBlankEnds_cleanName front).last]
      exact ⟨rfl, (mark_toList true).symm⟩

-- ========================================================== edited forms

namespace Form

/-- A result without its bracket. -/
def cut : Form → Form
  | word run => word run
  | group front _ _ _ tail => word (front ++ tail)
  | function params between result => function params between result

mutual

/-- A form as its type is rendered: brackets are angle brackets but for
those around parameters, marks stand behind them, a result has none, and
no comma stands in front of an arrow. -/
def edited : Form → Form
  | word run => word run
  | group front _ args gap tail =>
    group (markBehind front tail).1 .angle (editedAll args) gap (markBehind front tail).2
  | function params _ result => function params.editedParams [] result.cut

/-- Parameters keep their brackets. -/
def editedParams : Form → Form
  | word run => word run
  | group front b args gap tail => group front b (editedAll args) gap tail
  | function params between result => function params between result

def editedAll : List Form → List Form
  | [] => []
  | f :: fs => f.edited :: editedAll fs

end

mutual

/-- Whether round brackets stand around all parameters, and every other
bracket has a name in front of it and something in it. -/
def regular : Form → Bool
  | word _ => true
  | group front _ args _ tail =>
    (splitMark (cleanName front ++ trim tail)).1 ≠ [] && !args.isEmpty && regularAll args
  | function params _ result => params.regularParams && result.regular

def regularParams : Form → Bool
  | group _ b args _ _ => b = .round && regularAll args
  | word _ | function _ _ _ => false

def regularAll : List Form → Bool
  | [] => true
  | f :: fs => f.regular && regularAll fs

end

end Form

-- ================================================================ renderings

private theorem withoutBlanks_mark (q : Bool) :
    withoutBlanks (TypeExpr.mark q).toList = (TypeExpr.mark q).toList := by
  rw [mark_toList]
  cases q <;> rfl

/-- The text of a name and its mark. -/
private theorem withoutBlanks_named (title : List Char) :
    withoutBlanks (ofTitle title []).text.toList = withoutBlanks title := by
  rw [TypeExpr.text, ofTitle_nullable, ofTitle, TypeExpr.bareText, String.toList_append,
    String.toList_ofList, withoutBlanks_append, withoutBlanks_mark, splitMark_join]

/-- A generic type, blanks aside, is its name, its arguments and its mark. -/
private theorem withoutBlanks_generic {args : List TypeExpr} (title : List Char) (h : args ≠ []) :
    withoutBlanks (ofTitle title args).text.toList
      = withoutBlanks (splitMark title).1
        ++ '<' :: (withoutBlanks (commas (TypeExpr.texts args)).toList
          ++ '>' :: (TypeExpr.mark (splitMark title).2).toList) := by
  have hopen : withoutBlanks "<".toList = ['<'] := by decide
  have hclose : withoutBlanks ">".toList = ['>'] := by decide
  rw [TypeExpr.text, ofTitle_nullable, ofTitle.eq_2 title args fun hnil => h hnil,
    TypeExpr.bareText]
  simp only [String.toList_append, String.toList_ofList, withoutBlanks_append, withoutBlanks_mark,
    hopen, hclose, List.append_assoc, List.singleton_append]

/-- A lambda, blanks aside, is its parameters and its result. -/
private theorem withoutBlanks_function (r : String) (q : Bool) (params : List TypeExpr) :
    withoutBlanks (TypeExpr.function r q params).text.toList
      = '(' :: (withoutBlanks (commas (TypeExpr.texts params)).toList
        ++ ')' :: '-' :: '>' :: (withoutBlanks r.toList ++ (TypeExpr.mark q).toList)) := by
  have hopen : withoutBlanks "(".toList = ['('] := by decide
  have harrow : withoutBlanks ") -> ".toList = [')', '-', '>'] := by decide
  rw [TypeExpr.text, TypeExpr.bareText]
  simp only [String.toList_append, withoutBlanks_append, withoutBlanks_mark, hopen, harrow,
    List.append_assoc, List.cons_append, List.nil_append, TypeExpr.nullable]

/-- The texts of types with a comma between any two of them. -/
private theorem withoutBlanks_texts (e e' : TypeExpr) (es : List TypeExpr) :
    withoutBlanks (commas (TypeExpr.texts (e :: e' :: es))).toList
      = withoutBlanks e.text.toList
        ++ ',' :: withoutBlanks (commas (TypeExpr.texts (e' :: es))).toList := by
  have hcomma : withoutBlanks ", ".toList = [','] := by decide
  unfold commas
  rw [TypeExpr.texts_eq_map, TypeExpr.texts_eq_map]
  simp only [List.map_cons, String.toList_intercalate, List.intercalate_cons_cons,
    withoutBlanks_append, hcomma, List.append_assoc, List.singleton_append]

-- ============================================================= what is kept

namespace Form

variable {gap : List Char} {br : Bracket} {args : List Form}

/-- What stands in front of a bracket, in it and behind it. -/
theorem WellFormed.parts (h : (Form.group front br args gap tail).WellFormed) :
    (∀ c ∈ front, c ∉ delimiters) ∧ (∀ f ∈ args, f.WellFormed) ∧ AllBlank gap
      ∧ (args ≠ [] → gap = []) ∧ TailText tail := by
  cases h with
  | group hfront hargs _ _ htail =>
      exact ⟨hfront, hargs, List.forall_mem_nil _, fun _ => rfl, htail⟩
  | empty hfront hgap htail =>
      exact ⟨hfront, List.forall_mem_nil _, hgap, fun h => absurd rfl h, htail⟩

/-- The result of a function is rendered as its title. -/
private theorem withoutBlanks_cut (hwf : f.WellFormed) (h : f.isPiece = true) :
    withoutBlanks (unlabelled f.cut.source) = withoutBlanks f.title := by
  cases f with
  | word run =>
      cases hwf with
      | word hrun => rw [cut, source, title, withoutBlanks_unlabelled hrun.plain]
  | group front br args gap tail =>
      obtain ⟨hfront, -, -, -, htail⟩ := hwf.parts
      rw [cut, source, title, withoutBlanks_around hfront htail]
  | function => cases h

/-- Blanks and labels are erased in front of a bracket, in it and behind
it. -/
private theorem withoutBlanks_group (front : List Char) (br : Bracket) (args : List Form)
    (gap tail : List Char) :
    withoutBlanks (unlabelled (group front br args gap tail).source)
      = withoutBlanks (unlabelled front)
        ++ br.opener :: (withoutBlanks (unlabelled (sources args ++ gap))
          ++ br.closer :: withoutBlanks (unlabelled tail)) := by
  have hopener : br.opener ∈ delimiters := by cases br <;> decide
  have hcloser : br.closer ∈ delimiters := by cases br <;> decide
  rw [source, withoutBlanks_delimiter _ _ hopener, withoutBlanks_delimiter _ _ hcloser]

/-- Brackets without forms in them are rendered without a blank. -/
private theorem withoutBlanks_inside (hgap : AllBlank gap) (hargs : args ≠ [] → gap = [])
    (h : withoutBlanks (commas (TypeExpr.texts (types args))).toList
      = withoutBlanks (unlabelled (sources (editedAll args)))) :
    withoutBlanks (unlabelled (sources (editedAll args) ++ gap))
      = withoutBlanks (commas (TypeExpr.texts (types args))).toList := by
  cases args with
  | nil =>
      rw [h, editedAll, sources, List.nil_append, withoutBlanks_unlabelled (plain_of_allBlank hgap),
        withoutBlanks_cleanName, withoutBlanks_of_allBlank hgap]
      rfl
  | cons f fs => rw [hargs (List.cons_ne_nil f fs), List.append_nil, h]

mutual

/-- The text of the type of a form is that of the edited form. -/
theorem WellFormed.text_eq : (f : Form) → f.WellFormed → f.regular = true →
    withoutBlanks f.type.text.toList = withoutBlanks (unlabelled f.edited.source)
  | .word run, hwf, _ => by
    cases hwf with
    | word hrun =>
        rw [type, withoutBlanks_named, edited, source, withoutBlanks_unlabelled hrun.plain]
  | .group front br args gap tail, hwf, hr => by
    obtain ⟨hfront, hargs, hgap, hempty, htail⟩ := hwf.parts
    rw [regular, Bool.and_eq_true, Bool.and_eq_true] at hr
    obtain ⟨⟨-, hne⟩, hr⟩ := hr
    have htypes : types args ≠ [] := by
      rw [types_eq_map]
      simpa using hne
    have hinside := withoutBlanks_inside hgap hempty (WellFormed.texts_eq args hargs hr)
    obtain ⟨hname, hq⟩ := markBehind_spec hfront htail
    rw [type, withoutBlanks_generic _ htypes, edited, withoutBlanks_group, hinside, hname, hq]
    rfl
  | .function params between result, hwf, hr => by
    cases hwf with
    | function hparams _ htitle _ hresult hpiece =>
        rw [regular, Bool.and_eq_true] at hr
        have hsource : source (edited (.function params between result))
            = params.editedParams.source ++ ['-'] ++ '>' :: result.cut.source := by
          rw [edited, source, List.append_nil, List.append_assoc, List.singleton_append]
        rw [hsource, withoutBlanks_delimiter _ _ (by decide),
          WellFormed.params_eq params hparams htitle hr.1, withoutBlanks_cut hresult hpiece,
          ← splitMark_join result.title, type, withoutBlanks_function, ofTitle_name,
          ofTitle_nullable, String.toList_ofList]
        simp

/-- Parameters have neither a name nor a mark, so their bracket is all
that is rendered. The shaft of the arrow belongs to the text behind it. -/
private theorem WellFormed.params_eq : (f : Form) → f.WellFormed → f.title = [] →
    f.regularParams = true →
    withoutBlanks (unlabelled (f.editedParams.source ++ ['-']))
      = '(' :: (withoutBlanks (commas (TypeExpr.texts f.argTypes)).toList ++ [')', '-'])
  | .word _, _, _, hr | .function _ _ _, _, _, hr => by
    rw [regularParams] at hr
    cases hr
  | .group front br args gap tail, hwf, htitle, hr => by
    obtain ⟨hfront, hargs, hgap, hempty, htail⟩ := hwf.parts
    rw [regularParams, Bool.and_eq_true, decide_eq_true_iff] at hr
    obtain ⟨rfl, hr⟩ := hr
    rw [title, List.append_eq_nil_iff] at htitle
    have hinside := withoutBlanks_inside hgap hempty (WellFormed.texts_eq args hargs hr)
    have hname : withoutBlanks (unlabelled front) = [] := by
      rw [withoutBlanks_unlabelled hfront, htitle.1]
      rfl
    have hshaft : withoutBlanks (unlabelled (tail ++ ['-'])) = ['-'] := by
      have hplain : ∀ c ∈ tail ++ ['-'], c ∉ delimiters :=
        List.forall_mem_append.2 ⟨htail.plain, List.forall_mem_singleton.2 (by decide)⟩
      rw [withoutBlanks_unlabelled hplain, withoutBlanks_cleanName, withoutBlanks_append,
        htail.withoutBlanks, htitle.2]
      rfl
    have hsource : (editedParams (.group front .round args gap tail)).source ++ ['-']
        = source (.group front .round (editedAll args) gap (tail ++ ['-'])) := by
      rw [editedParams, source, source]
      simp
    rw [hsource, withoutBlanks_group, hinside, hname, hshaft, argTypes]
    rfl

/-- A list of forms is rendered, blanks aside, as it was written less the
labels. -/
private theorem WellFormed.texts_eq : (fs : List Form) → (∀ f ∈ fs, f.WellFormed) →
    regularAll fs = true →
    withoutBlanks (commas (TypeExpr.texts (types fs))).toList
      = withoutBlanks (unlabelled (sources (editedAll fs)))
  | [], _, _ => rfl
  | [f], hwf, hr => by
    rw [regularAll, regularAll, Bool.and_true] at hr
    have hone : commas [f.type.text] = f.type.text := String.intercalate_singleton ..
    rw [types, types, TypeExpr.texts_eq_map, List.map_cons, List.map_nil, hone, editedAll,
      editedAll, sources]
    exact WellFormed.text_eq f (hwf f List.mem_cons_self) hr
  | f :: g :: fs, hwf, hr => by
    rw [regularAll, Bool.and_eq_true] at hr
    have hf := WellFormed.text_eq f (hwf f List.mem_cons_self) hr.1
    have hfs := WellFormed.texts_eq (g :: fs) (fun f hf => hwf f (List.mem_cons_of_mem _ hf)) hr.2
    rw [types, editedAll] at hfs
    rw [types, types, withoutBlanks_texts, hf, hfs, editedAll, editedAll, sources,
      withoutBlanks_delimiter _ _ (by decide)]

end

end Form

/-- Every accepted signature has a form. If round brackets stand around
all parameters in it, and every other bracket has a name in front of it
and something in it, the text of the type is that of the signature with
the edits of the form, but for blanks and labels. -/
theorem read_keeps_text {s : String} {t : TypeExpr} (h : read s = .ok t) :
    (∃ f : Form, f.WellFormed ∧ f.source = s.toList) ∧
    ∀ f : Form, f.WellFormed → f.source = s.toList → f.regular = true →
      withoutBlanks t.text.toList = withoutBlanks (unlabelled f.edited.source) := by
  have hread := read_ok_iff.1 h
  obtain ⟨f, hf, hsource, -⟩ := readChars_iff_form.1 hread
  refine ⟨⟨f, hf, hsource⟩, fun f hf hsource hr => ?_⟩
  rw [← hsource] at hread
  rw [← hf.type_eq hread]
  exact hf.text_eq f hr

/-- Labels, blanks, a mark in front of a bracket, round brackets behind a
name, a comma in front of an arrow and a result with brackets, in one
signature. -/
theorem read_keeps_text_all_edits :
    ∃ f : Form, read "x: Map?(A, (l: B), -> C<D> ?)"
        = .ok (.generic "Map" true [.named "A" false, .function "C" true [.named "B" false]])
      ∧ f.WellFormed ∧ f.source = "x: Map?(A, (l: B), -> C<D> ?)".toList ∧ f.regular = true
      ∧ f.edited.source = "x: Map<A, (l: B)-> C ?>?".toList
      ∧ withoutBlanks "Map<A, (B) -> C?>?".toList = withoutBlanks (unlabelled f.edited.source) := by
  let params : Form := .group [' '] .round [.word "l: B".toList] [] []
  let result : Form := .group [' ', 'C'] .angle [.word ['D']] [] [' ', '?']
  let f : Form :=
    .group "x: Map?".toList .round [.word ['A'], .function params [',', ' '] result] [] []
  have hname : (Form.word "l: B".toList).WellFormed ∧ (Form.word ['D']).WellFormed
      ∧ (Form.word ['A']).WellFormed :=
    ⟨.word ⟨notMem_of_all (by decide), by decide, by decide⟩,
      .word ⟨notMem_of_all (by decide), by decide, by decide⟩,
      .word ⟨notMem_of_all (by decide), by decide, by decide⟩⟩
  have hparams : params.WellFormed :=
    .group (notMem_of_all (by decide)) (List.forall_mem_singleton.2 hname.1) (List.cons_ne_nil _ _)
      nofun ⟨List.forall_mem_nil _, .inl rfl⟩
  have hresult : result.WellFormed :=
    .group (notMem_of_all (by decide)) (List.forall_mem_singleton.2 hname.2.1)
      (List.cons_ne_nil _ _) (fun _ => by decide)
      ⟨notMem_of_all (by decide), .inr (by decide)⟩
  have hfunction : (Form.function params [',', ' '] result).WellFormed :=
    .function hparams rfl (by decide) (.inr ⟨[' '], rfl, List.forall_mem_singleton.2 rfl⟩) hresult
      rfl
  have hf : f.WellFormed :=
    .group (notMem_of_all (by decide))
      (List.forall_mem_cons.2 ⟨hname.2.2, List.forall_mem_singleton.2 hfunction⟩)
      (List.cons_ne_nil _ _) nofun ⟨List.forall_mem_nil _, .inl rfl⟩
  have hread : read "x: Map?(A, (l: B), -> C<D> ?)"
      = .ok (.generic "Map" true [.named "A" false, .function "C" true [.named "B" false]]) := by
    decide +kernel
  have hsource : f.source = "x: Map?(A, (l: B), -> C<D> ?)".toList := by decide
  have hregular : f.regular = true := by decide
  exact ⟨f, hread, hf, hsource, hregular, by decide,
    (read_keeps_text hread).2 f hf hsource hregular⟩

/-- The result of a function keeps its name and mark only. -/
theorem read_loses_result_arguments :
    ∃ t, read "(A) -> List<B>" = .ok t
      ∧ withoutBlanks t.text.toList ≠ withoutBlanks (unlabelled "(A) -> List<B>".toList) :=
  ⟨.function "List" false [.named "A" false], by decide +kernel, by decide +kernel⟩

end TestDraft.Signature
