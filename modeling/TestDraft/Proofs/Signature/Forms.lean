/-
The forms of signatures: a grammar that keeps every character.

    run                            a word: a name with label and mark
    front < form, form > tail      a group, in either kind of brackets
    form -> form                   a function

A form is spelled (`Form.source`) and stands for a type (`Form.type`).
What reading leaves out of the type is still in the form: labels, blanks,
the kind of bracket, a comma in front of an arrow, and what the brackets
behind the name of a result hold. `Form.WellFormed` says which forms
there are; each of them is taken in as the pieces of its type
(`Form.WellFormed.takenIn_and_argues`), by induction on the form, so it
is read as that type if the type has a name (`Form.WellFormed.readChars`).
-/
import TestDraft.Proofs.Signature.Nesting

namespace TestDraft.Signature

open Text

variable {n : List Char} {p : Piece} {ps : List Piece} {e : TypeExpr}
  {es : List TypeExpr}

-- ================================================================= texts

/-- The text of a name: it holds no delimiter, is not blank, and does not
begin with a mark. -/
structure NameText (run : List Char) : Prop where
  plain : ∀ c ∈ run, c ∉ delimiters
  nonblank : trim run ≠ []
  head : (trim run).head? ≠ some '?'

/-- What may stand behind a bracket: blanks, and one mark among them. -/
structure TailText (tail : List Char) : Prop where
  plain : ∀ c ∈ tail, c ∉ delimiters
  mark : trim tail = [] ∨ trim tail = ['?']

-- ================================================================= forms

inductive Form where
  /-- A name, perhaps with a label in front and a mark behind. -/
  | word (run : List Char)
  /-- Forms in brackets; `gap` is what stands in brackets without any. -/
  | group (front : List Char) (b : Bracket) (args : List Form) (gap tail : List Char)
  /-- Parameters and a result; `between` stands in front of the arrow. -/
  | function (params : Form) (between : List Char) (result : Form)

/-- The type with a title, which is a name and perhaps a mark, and with
arguments, if there are any. -/
def ofTitle (title : List Char) : List TypeExpr → TypeExpr
  | [] => .named (String.ofList (splitMark title).1) (splitMark title).2
  | args => .generic (String.ofList (splitMark title).1) (splitMark title).2 args

namespace Form

/-- The name of a form with its mark; a function goes by its result. -/
def title : Form → List Char
  | word run => cleanName run
  | group front _ _ _ tail => cleanName front ++ trim tail
  | function _ _ result => result.title

/-- Whether a form makes one piece: any but a function does. -/
def isPiece : Form → Bool
  | word _ | group _ _ _ _ _ => true
  | function _ _ _ => false

mutual

/-- The text of a form. -/
def source : Form → List Char
  | word run => run
  | group front b args gap tail =>
    front ++ b.opener :: (sources args ++ gap ++ b.closer :: tail)
  | function params between result => params.source ++ between ++ '-' :: '>' :: result.source

/-- The text of forms with a comma between any two of them. -/
def sources : List Form → List Char
  | [] => []
  | [f] => f.source
  | f :: g :: fs => f.source ++ ',' :: sources (g :: fs)

end

mutual

/-- The type that a form stands for. -/
def type : Form → TypeExpr
  | word run => ofTitle (cleanName run) []
  | group front _ args _ tail => ofTitle (cleanName front ++ trim tail) (types args)
  | function params _ result =>
    .function (ofTitle result.title []).name (ofTitle result.title []).nullable params.argTypes

/-- The types of what stands in the brackets of a form. -/
def argTypes : Form → List TypeExpr
  | word _ | function _ _ _ => []
  | group _ _ args _ _ => types args

def types : List Form → List TypeExpr
  | [] => []
  | f :: fs => f.type :: types fs

end

/-- The forms that signatures have. -/
inductive WellFormed : Form → Prop
  | word {run : List Char} (hrun : NameText run) : WellFormed (word run)
  | group {front tail : List Char} {b : Bracket} {args : List Form}
      (hfront : ∀ c ∈ front, c ∉ delimiters) (hargs : ∀ f ∈ args, WellFormed f)
      (hne : args ≠ [])
      -- the closer of an angle bracket may not look like the head of an arrow
      (hclose : b = .angle → (sources args).getLast? ≠ some '-') (htail : TailText tail) :
      WellFormed (group front b args [] tail)
  | empty {front gap tail : List Char} (hfront : ∀ c ∈ front, c ∉ delimiters)
      (hgap : AllBlank gap) (htail : TailText tail) : WellFormed (group front .round [] gap tail)
  | function {params result : Form} {between : List Char} (hparams : WellFormed params)
      (hpiece : params.isPiece = true) (htitle : params.title = [])
      (hbetween : between = [] ∨ ∃ bs, between = ',' :: bs ∧ AllBlank bs)
      (hresult : WellFormed result) (hpiece' : result.isPiece = true) :
      WellFormed (function params between result)

theorem types_eq_map (fs : List Form) : types fs = fs.map type := by
  induction fs with
  | nil => rw [types, List.map_nil]
  | cons f fs ih => rw [types, ih, List.map_cons]

/-- The forms of a list are written with dividers between them. -/
theorem sources_eq_intercalate (fs : List Form) :
    sources fs = [','].intercalate (fs.map source) := by
  induction fs with
  | nil => rfl
  | cons f fs ih =>
      cases fs with
      | nil => simp [sources]
      | cons g fs =>
          rw [sources, ih]
          simp only [List.map_cons, List.intercalate_cons_cons, List.append_assoc,
            List.singleton_append]

/-- A text with commas ends as the last of its forms does. -/
private theorem sources_concat (fs : List Form) (f : Form) :
    ∃ t, sources (fs ++ [f]) = t ++ f.source := by
  induction fs with
  | nil => exact ⟨[], by rw [List.nil_append, List.nil_append, sources]⟩
  | cons g fs ih =>
      obtain ⟨t, ht⟩ := ih
      refine ⟨g.source ++ ',' :: t, ?_⟩
      obtain ⟨g', gs, hgs⟩ := List.exists_cons_of_ne_nil (List.concat_ne_nil f fs)
      rw [hgs] at ht
      rw [List.cons_append, hgs, sources, ht, List.append_assoc, List.cons_append]

/-- A form that makes one piece has the type of its title. -/
theorem type_of_isPiece {f : Form} (h : f.isPiece = true) :
    f.type = ofTitle f.title f.argTypes := by
  cases f with
  | word run => rw [type, argTypes, title]
  | group front b args gap tail => rw [type, argTypes, title]
  | function params between result => cases h

end Form

theorem ofTitle_name (title : List Char) (args : List TypeExpr) :
    (ofTitle title args).name = String.ofList (splitMark title).1 := by
  cases args <;> rfl

theorem ofTitle_nullable (title : List Char) (args : List TypeExpr) :
    (ofTitle title args).nullable = (splitMark title).2 := by
  cases args <;> rfl

-- ================================================================ pieces

/-- A piece makes the type of its name and of what its brackets hold. -/
theorem toType_item_iff {inner : List Piece} :
    (Piece.item n inner).toType = .ok e ↔ ∃ args, group inner = .ok args ∧ e = ofTitle n args := by
  cases inner with
  | nil =>
      rw [Piece.toType, group_nil]
      constructor
      · intro h
        cases h
        exact ⟨[], rfl, rfl⟩
      · rintro ⟨args, hargs, rfl⟩
        cases hargs
        rfl
  | cons p ps =>
      rw [Piece.toType, bind_ok_iff]
      refine exists_congr fun args => and_congr_right fun hargs => ?_
      cases args with
      | nil => cases group_eq_nil_iff.1 hargs
      | cons a as =>
          constructor
          · intro h
            cases h
            rfl
          · rintro rfl
            rfl

-- ======================================================= forms are read

variable {base l : Level} {below : List Level} {run front tail gap : List Char} {f : Form}

/-- The text of a name is settled as a piece. -/
private theorem settles_word (hrun : NameText run) (hf : l.filled = false) :
    Settles l run { l with
      pieces := .item (cleanName run) [] :: l.pieces, filled := true, pending := [] } := by
  obtain ⟨c, cs, htrim⟩ := List.exists_cons_of_ne_nil hrun.nonblank
  have hc : c ≠ '?' := by
    have hhead := hrun.head
    rw [htrim] at hhead
    exact fun h => hhead (congrArg some h)
  have hset := Settles.name c cs htrim hc hf
  rwa [← htrim, cleanName_trim] at hset

/-- The text behind a bracket is settled into its piece. -/
private theorem settles_tail {inner : List Piece} (htail : TailText tail) (hf : l.filled = true)
    (hps : l.pieces = .item n inner :: ps) :
    Settles l tail { l with pieces := .item (n ++ trim tail) inner :: ps, pending := [] } := by
  obtain ⟨b, qs, f, pending⟩ := l
  cases hps
  rcases htail.mark with hblank | hmark
  · rw [hblank, List.append_nil]
    exact .blank (l := ⟨b, _, f, pending⟩) hblank
  · rw [hmark]
    exact .mark (l := ⟨b, _, f, pending⟩) hmark hf

/-- Where a form can stand: at any level with room for a piece, which
takes it in as a piece of its title. -/
def TakenIn (f : Form) : Prop :=
  ∀ (base : Level) (below : List Level), base.filled = false → base.pending = [] →
    ∃ m inner, Leads base below f.source m below
      ∧ Settles m m.segment (base.fill [.item f.title inner]) ∧ group inner = .ok f.argTypes

/-- A name is read in place. -/
private theorem takenIn_word (hrun : NameText run) : TakenIn (.word run) := by
  intro base below hf hp
  refine ⟨_, [], leads_plain hrun.plain, ?_, group_nil⟩
  refine (settles_word hrun hf).congr rfl rfl rfl ?_
  unfold Level.segment
  rw [hp, List.append_nil, List.reverse_reverse, Form.source]

/-- Brackets and the text around them are taken in, if what stands in
the brackets is. -/
private theorem takenIn_group {b : Bracket} {args : List Form}
    (hfront : ∀ c ∈ front, c ∉ delimiters)
    (htail : TailText tail)
    (hinside : ∀ (l : Level) (around : List Level), l.filled = false →
      ∃ ps, group ps = .ok (Form.types args)
        ∧ Leads l around (b.opener :: (Form.sources args ++ gap ++ [b.closer])) (l.enclose ps)
          around) :
    TakenIn (.group front b args gap tail) := by
  intro base below hf hp
  obtain ⟨ps, hps, hbracket⟩ := hinside { base with pending := front.reverse ++ base.pending }
    below hf
  have hleads := (leads_plain hfront).append (hbracket.append (leads_plain htail.plain))
  have hsource : Form.source (.group front b args gap tail)
      = front ++ ((b.opener :: (Form.sources args ++ gap ++ [b.closer])) ++ tail) := by
    simp only [Form.source, List.cons_append, List.append_assoc, List.nil_append]
  rw [← hsource] at hleads
  refine ⟨_, ps, hleads, ?_, hps⟩
  have hsegment : Level.segment { base with pending := front.reverse ++ base.pending } = front := by
    unfold Level.segment
    rw [hp, List.append_nil, List.reverse_reverse]
  have hset := settles_tail (l := Level.enclose
    { base with pending := front.reverse ++ base.pending } ps) htail rfl rfl
  rw [hsegment] at hset
  refine hset.congr rfl rfl rfl ?_
  unfold Level.segment Level.enclose
  rw [List.append_nil, List.reverse_reverse]

/-- So is a bracket with nothing in it. -/
private theorem takenIn_empty (hfront : ∀ c ∈ front, c ∉ delimiters) (hgap : AllBlank gap)
    (htail : TailText tail) : TakenIn (.group front .round [] gap tail) := by
  refine takenIn_group hfront htail fun l around hf => ⟨[], group_nil, ?_⟩
  have hopen : Moves l around '(' (.inside (.start (some .round)) (l :: around)) :=
    .opens .round rfl hf
  have hheld : Leads (.start (some .round)) (l :: around) gap _ (l :: around) :=
    leads_plain (plain_of_allBlank hgap)
  have hclose : Closes ⟨some .round, [], false, gap.reverse ++ []⟩ .round [] := by
    refine ⟨rfl, ⟨some .round, [], false, []⟩, .blank ?_, .inr ⟨rfl, rfl⟩, rfl⟩
    unfold Level.segment
    rw [List.append_nil, List.reverse_reverse]
    exact trim_eq_nil_iff.2 hgap
  exact .cons hopen (hheld.append (.single (.closes .round [] rfl nofun hclose)))

/-- A form that makes one piece can stand as an argument. -/
private theorem TakenIn.argues (h : TakenIn f) (hp : f.isPiece = true) :
    Argues f.source f.type := by
  intro base below hf hpending
  obtain ⟨m, inner, hl, hs, hinner⟩ := h base below hf hpending
  refine ⟨m, _, hl, hs, .alone ?_⟩
  exact toType_item_iff.2 ⟨f.argTypes, hinner, Form.type_of_isPiece hp⟩

/-- Parameters, an arrow and a result can stand as an argument. -/
private theorem argues_function {params result : Form} {between : List Char}
    (hparams : TakenIn params)
    (htitle : params.title = [])
    (hbetween : between = [] ∨ ∃ bs, between = ',' :: bs ∧ AllBlank bs)
    (hresult : TakenIn result) :
    Argues (Form.function params between result).source
      (Form.function params between result).type := by
  intro base below hf hpending
  obtain ⟨m, inner, hl, hs, hinner⟩ := hparams base below hf hpending
  rw [htitle] at hs
  -- What is between the parameters and the arrow makes no piece.
  have harrow : ∀ t n ks, Leads (base.fill [.item [] inner]).point below t n ks →
      Leads base below (params.source ++ between ++ '-' :: '>' :: t) n ks := by
    intro t n ks ht
    rcases hbetween with rfl | ⟨bs, rfl, hbs⟩
    · rw [List.append_nil]
      exact hl.append (leads_arrow_iff.2 ⟨_, hs, ht⟩)
    · have hcomma : Moves m below ',' (.inside { base.fill [.item [] inner] with
          filled := false } below) := .divides _ rfl hs rfl
      have hblank : Settles { base.fill [.item [] inner] with
          filled := false, pending := bs.reverse ++ [] } (bs.reverse ++ []).reverse
          { base.fill [.item [] inner] with filled := false } := by
        refine (Settles.blank (trim_eq_nil_iff.2 hbs)).congr rfl rfl rfl ?_
        rw [List.append_nil, List.reverse_reverse]
      rw [List.append_assoc]
      exact hl.append (.cons hcomma
        ((leads_plain (plain_of_allBlank hbs)).append (leads_arrow_iff.2 ⟨_, hblank, ht⟩)))
  obtain ⟨m', inner', hl', hs', hinner'⟩ := hresult (base.fill [.item [] inner]).point below rfl rfl
  have hfill : (base.fill [.item [] inner]).point.fill [.item result.title inner']
      = base.fill [.item [] inner, .arrow, .item result.title inner'] := rfl
  rw [hfill] at hs'
  have htype : (Piece.item result.title inner').toType
      = .ok (ofTitle result.title result.argTypes) :=
    toType_item_iff.2 ⟨result.argTypes, hinner', rfl⟩
  have hfunction := OneType.function htype hinner
  rw [ofTitle_name, ofTitle_nullable] at hfunction
  refine ⟨m', _, ?_, hs', ?_⟩
  · rw [Form.source]
    exact harrow _ _ _ hl'
  · rw [Form.type, ofTitle_name, ofTitle_nullable]
    exact hfunction

namespace Form

/-- A form that makes one piece is taken in, and every form can stand as
an argument. -/
theorem WellFormed.takenIn_and_argues (h : f.WellFormed) :
    (f.isPiece = true → TakenIn f) ∧ Argues f.source f.type := by
  induction h with
  | word hrun =>
      have htaken := takenIn_word hrun
      exact ⟨fun _ => htaken, htaken.argues rfl⟩
  | @group front tail b args hfront hargs hne hclose htail ih =>
      have hforall : List.Forall₂ Argues (args.map source) (args.map type) := by
        rw [List.forall₂_map_left_iff, List.forall₂_map_right_iff, List.forall₂_same]
        exact fun f hf => (ih f hf).2
      have htaken : TakenIn (.group front b args [] tail) := by
        refine takenIn_group hfront htail fun l around hf => ?_
        have hlast : b = .angle → args.map source ≠ [] ∧
            ∀ s, (args.map source).getLast? = some s → s.getLast? ≠ some '-' := by
          intro hb
          refine ⟨mt List.map_eq_nil_iff.1 hne, fun s hs hdash => hclose hb ?_⟩
          rw [List.getLast?_map] at hs
          obtain ⟨f, hf, rfl⟩ := Option.map_eq_some_iff.1 hs
          obtain ⟨fs, rfl⟩ := List.getLast?_eq_some_iff.1 hf
          obtain ⟨t, ht⟩ := sources_concat fs f
          rw [ht, List.getLast?_append, hdash]
          rfl
        rw [types_eq_map, sources_eq_intercalate, List.append_nil]
        exact leads_bracket around b hforall hlast hf
      exact ⟨fun _ => htaken, htaken.argues rfl⟩
  | empty hfront hgap htail =>
      have htaken := takenIn_empty hfront hgap htail
      exact ⟨fun _ => htaken, htaken.argues rfl⟩
  | function _ hpiece htitle hbetween _ hpiece' ihp ihr =>
      exact ⟨nofun, argues_function (ihp.1 hpiece) htitle hbetween (ihr.1 hpiece')⟩

/-- A form is read as its type, if the type has a name. -/
theorem WellFormed.readChars (h : f.WellFormed) :
    readChars f.source = if f.type.name = "" then .error .unparsable else .ok f.type := by
  obtain ⟨m, ps, hl, hs, hps⟩ := h.takenIn_and_argues.2 (.start none) [] rfl rfl
  have hscan : scan (.start none) [] 0 f.source = .ok (ps, []) := by
    have hgo := scan_eq_of_leads (t := []) hl 0
    rw [List.append_nil] at hgo
    rw [hgo, scan]
    refine bind_ok_iff.2 ⟨_, finish_ok_iff.2 ⟨hs.bracket.symm, _, hs, .inr rfl, rfl⟩, ?_⟩
    show Except.ok ((ps.reverse ++ []).reverse, []) = Except.ok (ps, [])
    rw [List.append_nil, List.reverse_reverse]
  unfold Signature.readChars
  rw [hscan]
  show (rootType ps >>= fun t => if t.name = "" then _ else _) = _
  rw [rootType_of_oneType hps]
  rfl

/-- Every form of an accepted signature has the type that is read. -/
theorem WellFormed.type_eq (h : f.WellFormed) (hread : Signature.readChars f.source = .ok e) :
    f.type = e := by
  rw [h.readChars] at hread
  split at hread
  next => cases hread
  next => exact Except.ok.inj hread

end Form

end TestDraft.Signature
