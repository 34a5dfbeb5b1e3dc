/-
Every accepted signature has a form.

What a level has read is a row: pieces with commas and arrows between
them, spelled one after the other (`Row`). Each step keeps a row at every
level (`Stacked.moves`), so a text that leads anywhere has left rows
behind (`Stacked.leads`). When a level is closed, its row may still be
nonsense, such as two arrows side by side; it is the grouping of the
pieces into types that refuses it. So the forms are read off a row from
the left, in step with `group` (`Row.formed`), by induction on the length
of its text: rows inside brackets are shorter.
-/
import TestDraft.Proofs.Signature.Forms

namespace TestDraft.Signature

open Text

variable {l m k outer : Level} {around waiting : List Level} {c : Char} {a b filled : Bool}
  {s t x n : List Char} {p : Piece} {ps qs inner : List Piece} {e : TypeExpr}
  {es args : List TypeExpr}

-- ================================================================== rows

/-- The text of pieces that stand side by side. The flags say whether
there is a piece since the last comma or arrow, before the text and
behind it. -/
inductive Row : Bool → List Char → List Piece → Bool → Prop
  | nil (a : Bool) : Row a [] [] a
  | word {run s : List Char} {ps : List Piece} {b : Bool} (hrun : NameText run)
      (rest : Row true s ps b) :
      Row false (run ++ s) (.item (cleanName run) [] :: ps) b
  | bracket {front t tail s : List Char} {br : Bracket} {inner ps : List Piece} {b : Bool}
      (hfront : ∀ c ∈ front, c ∉ delimiters) (inside : Row false t inner true)
      (hclose : br = .angle → t.getLast? ≠ some '-') (htail : TailText tail)
      (rest : Row true s ps b) :
      Row false (front ++ br.opener :: (t ++ br.closer :: tail) ++ s)
        (.item (cleanName front ++ trim tail) inner :: ps) b
  | gap {front gap tail s : List Char} {ps : List Piece} {b : Bool}
      (hfront : ∀ c ∈ front, c ∉ delimiters) (hgap : AllBlank gap) (htail : TailText tail)
      (rest : Row true s ps b) :
      Row false (front ++ '(' :: (gap ++ ')' :: tail) ++ s)
        (.item (cleanName front ++ trim tail) [] :: ps) b
  | comma {s : List Char} {ps : List Piece} {b : Bool} (rest : Row false s ps b) :
      Row true (',' :: s) ps b
  | arrow {s : List Char} {ps : List Piece} {b : Bool} (rest : Row false s ps b) :
      Row true ('-' :: '>' :: s) (.arrow :: ps) b
  /-- An arrow may follow blanks where a piece is due. -/
  | loose {pad s : List Char} {ps : List Piece} {b : Bool} (hpad : AllBlank pad)
      (rest : Row false s ps b) : Row false (pad ++ '-' :: '>' :: s) (.arrow :: ps) b

theorem Row.append (h : Row a s ps b) (h' : Row b t qs filled) :
    Row a (s ++ t) (ps ++ qs) filled := by
  induction h with
  | nil => exact h'
  | word hrun _ ih =>
      rw [List.append_assoc]
      exact .word hrun (ih h')
  | bracket hfront inside hclose htail _ _ ih =>
      rw [List.append_assoc]
      exact .bracket hfront inside hclose htail (ih h')
  | gap hfront hgap htail _ ih =>
      rw [List.append_assoc]
      exact .gap hfront hgap htail (ih h')
  | comma _ ih => exact .comma (ih h')
  | arrow _ ih => exact .arrow (ih h')
  | loose hpad _ ih =>
      rw [List.append_assoc]
      exact .loose hpad (ih h')

/-- The text of a row that begins with a name or a bracket is that of
the first piece, and then the rest. -/
private theorem Row.uncons (h : Row false s (p :: ps) b) (hp : p ≠ .arrow) :
    ∃ x t, s = x ++ t ∧ Row false x [p] true ∧ Row true t ps b := by
  cases h with
  | @word run s' _ _ hrun rest =>
      have hone := Row.word hrun (.nil true)
      rw [List.append_nil] at hone
      exact ⟨run, s', rfl, hone, rest⟩
  | bracket hfront inside hclose htail rest =>
      have hone := Row.bracket hfront inside hclose htail (.nil true)
      rw [List.append_nil] at hone
      exact ⟨_, _, rfl, hone, rest⟩
  | gap hfront hgap htail rest =>
      have hone := Row.gap hfront hgap htail (.nil true)
      rw [List.append_nil] at hone
      exact ⟨_, _, rfl, hone, rest⟩
  | loose => exact absurd rfl hp

/-- Behind a piece, a row without pieces is no text at all. -/
private theorem Row.eq_nil (h : Row true s [] true) : s = [] := by
  cases h with
  | nil => rfl
  | comma rest => cases rest

-- ===================================================== what a level has read

/-- What a level has read up to its last delimiter: a row, to which the
text that is still to come may belong. Behind a bracket, this text may
put a mark on the piece of the bracket. -/
inductive Holds : List Piece → Bool → List Char → Prop
  | unfilled {t : List Char} {ps : List Piece} (h : Row false t ps.reverse false) :
      Holds ps false t
  | filled {t x n : List Char} {ps inner : List Piece} (h : Row false t ps.reverse false)
      (hx : ∀ tail, TailText tail → Row false (x ++ tail) [.item (n ++ trim tail) inner] true) :
      Holds (.item n inner :: ps) true (t ++ x)

/-- What a level has read. -/
structure Reads (l : Level) (s : List Char) : Prop where
  plain : ∀ c ∈ l.pending, c ∉ delimiters
  row : ∃ t, s = t ++ l.segment ∧ Holds l.pieces l.filled t
    ∧ ∀ c, t.getLast? = some c → c ∈ delimiters

theorem reads_start (br : Option Bracket) : Reads (.start br) [] :=
  ⟨List.forall_mem_nil _, [], rfl, .unfilled (.nil false), nofun⟩

theorem Reads.hold (h : Reads l s) (hc : c ∉ delimiters) : Reads (l.hold c) (s ++ [c]) := by
  obtain ⟨t, rfl, hrow, hlast⟩ := h.row
  refine ⟨fun d hd => ?_, t, ?_, hrow, hlast⟩
  · rcases List.mem_cons.1 hd with rfl | hd
    · exact hc
    · exact h.plain d hd
  · unfold Level.hold Level.segment
    rw [List.reverse_cons, List.append_assoc]

/-- The level before its latest character. -/
private theorem Reads.unhold (h : Reads l s) (hc : l.pending.head? = some c) :
    ∃ t, s = t ++ [c] ∧ Reads { l with pending := l.pending.tail } t := by
  obtain ⟨cs, hcs⟩ := List.head?_eq_some_iff.1 hc
  obtain ⟨t, rfl, hrow, hlast⟩ := h.row
  refine ⟨t ++ cs.reverse, ?_, ?_, t, ?_, hrow, hlast⟩
  · unfold Level.segment
    rw [hcs, List.reverse_cons, List.append_assoc]
  · intro d hd
    exact h.plain d (List.mem_of_mem_tail hd)
  · unfold Level.segment
    rw [hcs, List.tail_cons]

/-- A level that has settled has read a row: a finished one, or one with
blanks where a piece is due. -/
theorem Reads.settles (h : Reads l s) (hs : Settles l l.segment k) :
    (k.filled = true → Row false s k.pieces.reverse true)
    ∧ (k.filled = false → ∃ t pad, s = t ++ pad ∧ AllBlank pad
        ∧ Row false t k.pieces.reverse false) := by
  obtain ⟨t, rfl, hrow, -⟩ := h.row
  have hplain : ∀ c ∈ l.segment, c ∉ delimiters := fun c hc =>
    h.plain c (List.mem_reverse.1 hc)
  obtain ⟨br, pieces, f, pending⟩ := l
  cases hs with
  | blank hblank =>
      cases hrow with
      | unfilled hrow => exact ⟨nofun, fun _ => ⟨t, _, rfl, trim_eq_nil_iff.1 hblank, hrow⟩⟩
      | filled hrow hx =>
          refine ⟨fun _ => ?_, nofun⟩
          have hpiece := hx _ ⟨hplain, .inl hblank⟩
          rw [hblank, List.append_nil] at hpiece
          rw [List.reverse_cons, List.append_assoc]
          exact hrow.append hpiece
  | mark hmark =>
      cases hrow with
      | unfilled => contradiction
      | filled hrow hx =>
          refine ⟨fun _ => ?_, nofun⟩
          have hpiece := hx _ ⟨hplain, .inr hmark⟩
          rw [hmark] at hpiece
          rw [markLatest, List.reverse_cons, List.append_assoc]
          exact hrow.append hpiece
  | name c cs htrim hc hf =>
      cases hrow with
      | filled => cases hf
      | unfilled hrow =>
          refine ⟨fun _ => ?_, nofun⟩
          have hrun : NameText (Level.segment ⟨br, pieces, false, pending⟩) := by
            refine ⟨hplain, ?_, ?_⟩
            · rw [htrim]
              exact List.cons_ne_nil c cs
            · rw [htrim]
              exact fun h => hc (Option.some.inj h)
          have hpiece := Row.word hrun (.nil true)
          rw [List.append_nil, ← cleanName_trim, htrim] at hpiece
          rw [List.reverse_cons]
          exact hrow.append hpiece

/-- A level without pieces has read nothing but blanks. -/
private theorem Reads.allBlank (h : Reads l s) (hs : Settles l l.segment k) (hk : k.pieces = []) :
    AllBlank s := by
  obtain ⟨hfilled, hloose⟩ := h.settles hs
  rw [hk, List.reverse_nil] at hfilled hloose
  cases hf : k.filled with
  | true => cases hfilled hf
  | false =>
      obtain ⟨t, pad, rfl, hpad, hrow⟩ := hloose hf
      cases hrow
      exact hpad

/-- Where the text ends in the shaft of an arrow, an arrow is due. -/
theorem Reads.arrowDue (h : Reads l s) (hdash : s.getLast? = some '-') : l.arrowDue = true := by
  obtain ⟨t, rfl, -, hlast⟩ := h.row
  rw [List.getLast?_append] at hdash
  unfold Level.segment at hdash
  rw [List.getLast?_reverse] at hdash
  unfold Level.arrowDue
  cases hp : l.pending.head? with
  | none =>
      rw [hp] at hdash
      exact absurd (hlast _ hdash) (by decide)
  | some d =>
      rw [hp] at hdash
      cases hdash
      rfl

/-- A comma behind a finished row. -/
theorem Reads.divide (h : Reads l s) (hs : Settles l l.segment k) (hk : k.filled = true) :
    Reads { k with filled := false } (s ++ [',']) := by
  have hrow := ((h.settles hs).1 hk).append (.comma (.nil false))
  rw [List.append_nil] at hrow
  have hpending := hs.pending
  obtain ⟨br, pieces, f, pending⟩ := k
  cases hpending
  refine ⟨List.forall_mem_nil _, _, (List.append_nil _).symm, .unfilled hrow, ?_⟩
  intro c hc
  rw [List.getLast?_concat] at hc
  cases hc
  decide

/-- An arrow, of which the shaft has been read as text. -/
theorem Reads.point (h : Reads l s) (ha : l.arrowDue = true)
    (hs : Settles l l.pending.tail.reverse k) : Reads k.point (s ++ ['>']) := by
  have hhead : l.pending.head? = some '-' := by simpa [Level.arrowDue] using ha
  obtain ⟨t, rfl, ht⟩ := h.unhold hhead
  obtain ⟨hfilled, hloose⟩ := ht.settles (hs.congr rfl rfl rfl rfl)
  refine ⟨List.forall_mem_nil _, t ++ ['-', '>'], by simp [Level.point, Level.segment],
    .unfilled ?_, ?_⟩
  · show Row false _ (List.reverse (.arrow :: k.pieces)) false
    rw [List.reverse_cons]
    cases hk : k.filled with
    | true => exact (hfilled hk).append (.arrow (.nil false))
    | false =>
        obtain ⟨t', pad, rfl, hpad, hrow⟩ := hloose hk
        rw [List.append_assoc]
        exact hrow.append (.loose hpad (.nil false))
  · intro c hc
    rw [List.getLast?_append] at hc
    cases hc
    decide

/-- A bracket that is closed, with the text of the level around it. -/
theorem Reads.enclose {br : Bracket} (h : Reads outer s) (hf : outer.filled = false)
    (h' : Reads l t) (ha : ¬(br = .angle ∧ l.arrowDue = true)) (hc : Closes l br ps) :
    Reads (outer.enclose ps) (s ++ br.opener :: (t ++ [br.closer])) := by
  obtain ⟨t₀, rfl, hrow, -⟩ := h.row
  have hfront : ∀ c ∈ outer.segment, c ∉ delimiters := fun c hc =>
    h.plain c (List.mem_reverse.1 hc)
  obtain ⟨-, k, hs, hk, rfl⟩ := hc
  have hfilled := (h'.settles hs).1
  refine ⟨List.forall_mem_nil _, t₀ ++ (outer.segment ++ br.opener :: (t ++ [br.closer])), ?_, ?_,
    ?_⟩
  · simp [Level.enclose, Level.segment]
  · obtain ⟨_, pieces, f, pending⟩ := outer
    cases hf
    cases hrow with
    | unfilled hrow =>
        refine .filled hrow fun tail htail => ?_
        rcases hk with hk | ⟨hnil, rfl⟩
        · have hclose : br = .angle → t.getLast? ≠ some '-' :=
            fun hbr hdash => ha ⟨hbr, h'.arrowDue hdash⟩
          have hone := Row.bracket hfront (hfilled hk) hclose htail (.nil true)
          simpa using hone
        · have hblank := h'.allBlank hs hnil
          have hone := Row.gap hfront hblank htail (.nil true)
          rw [hnil]
          simpa [Bracket.opener, Bracket.closer] using hone
  · intro c hc
    have hlast : (t₀ ++ (outer.segment ++ br.opener :: (t ++ [br.closer]))).getLast?
        = some br.closer := by
      simp [List.getLast?_append, List.getLast?_cons]
    rw [hlast] at hc
    cases hc
    cases br <;> decide

-- ========================================================== levels in levels

/-- What has been read of a signature, at a level and the ones around
it. -/
inductive Stacked : Level → List Level → List Char → Prop
  | lowest {l : Level} {s : List Char} (hb : l.bracket = none) (h : Reads l s) : Stacked l [] s
  | inside {l outer : Level} {around : List Level} {s t : List Char} {br : Bracket}
      (hb : l.bracket = some br) (h : Reads l t) (hf : outer.filled = false)
      (below : Stacked outer around s) :
      Stacked l (outer :: around) (s ++ br.opener :: t)

/-- The innermost level reads the end of the text, and may read
something else instead. -/
theorem Stacked.innermost (h : Stacked l around s) :
    ∃ before t, s = before ++ t ∧ Reads l t ∧
      ∀ m t', m.bracket = l.bracket → Reads m t' → Stacked m around (before ++ t') := by
  cases h with
  | lowest hb h => exact ⟨[], s, rfl, h, fun m t' hm h' => .lowest (hm.trans hb) h'⟩
  | @inside _ _ _ s' t br hb h hf below =>
      refine ⟨s' ++ [br.opener], t, by simp, h, fun m t' hm h' => ?_⟩
      rw [List.append_assoc]
      exact .inside (hm.trans hb) h' hf below

/-- A step keeps a row at every level. -/
theorem Stacked.moves (h : Stacked l around s) (hm : Moves l around c (.inside m waiting)) :
    Stacked m waiting (s ++ [c]) := by
  cases hm with
  | opens br hc hf =>
      subst hc
      exact .inside rfl (reads_start _) hf h
  | divides k hc hs hf =>
      subst hc
      obtain ⟨before, t, rfl, hreads, hinstead⟩ := h.innermost
      rw [List.append_assoc]
      exact hinstead _ _ hs.bracket (hreads.divide hs hf)
  | points k hc ha hs =>
      subst hc
      obtain ⟨before, t, rfl, hreads, hinstead⟩ := h.innermost
      rw [List.append_assoc]
      exact hinstead _ _ hs.bracket (hreads.point ha hs)
  | @closes outer _ _ br qs hc ha hcl =>
      subst hc
      cases h with
      | @inside _ _ _ s t br' hb h hf below =>
          have hbr := hcl.1
          rw [hb] at hbr
          cases hbr
          obtain ⟨before, t', rfl, hreads, hinstead⟩ := below.innermost
          have henclosed := hinstead (outer.enclose qs) _ rfl (hreads.enclose hf h ha hcl)
          simpa using henclosed
  | holds hc =>
      obtain ⟨before, t, rfl, hreads, hinstead⟩ := h.innermost
      rw [List.append_assoc]
      exact hinstead _ _ rfl (hreads.hold hc)

theorem Stacked.leads (h : Stacked l around s) (hl : Leads l around t m waiting) :
    Stacked m waiting (s ++ t) := by
  induction hl generalizing s with
  | nil => rwa [List.append_nil]
  | cons first _ ih =>
      have hrest := ih (h.moves first)
      rwa [List.append_assoc] at hrest

-- =========================================================== forms of a row

/-- What has a type is no arrow. -/
private theorem ne_arrow_of_toType (h : p.toType = .ok e) : p ≠ .arrow := by
  rintro rfl
  cases h

/-- A text that forms make up, with a comma between any two of them. -/
def Formed (s : List Char) (es : List TypeExpr) : Prop :=
  ∃ fs : List Form, fs ≠ [] ∧ (∀ f ∈ fs, f.WellFormed) ∧ Form.sources fs = s
    ∧ Form.types fs = es

/-- A piece by itself is a form, if what stands in its bracket is made
up of forms. -/
private theorem Row.form (h : Row false x [.item n inner] true) (hargs : group inner = .ok args)
    (ih : ∀ t, t.length < x.length → Row false t inner true → Formed t args) :
    ∃ f : Form, f.WellFormed ∧ f.isPiece = true ∧ f.source = x ∧ f.title = n
      ∧ f.argTypes = args := by
  cases h with
  | @word run _ _ _ hrun rest =>
      rw [rest.eq_nil, List.append_nil]
      rw [group_nil] at hargs
      cases hargs
      exact ⟨.word run, .word hrun, rfl, by rw [Form.source], by rw [Form.title],
        by rw [Form.argTypes]⟩
  | @bracket front t tail _ br _ _ _ hfront inside hclose htail rest =>
      have hs := rest.eq_nil
      subst hs
      obtain ⟨fs, hfs, hwf, rfl, rfl⟩ := ih t (by simp; omega) inside
      refine ⟨.group front br fs [] tail, .group hfront hwf hfs hclose htail, rfl, ?_,
        by rw [Form.title], by rw [Form.argTypes]⟩
      rw [Form.source, List.append_nil, List.append_nil]
  | @gap front gap tail _ _ _ hfront hgap htail rest =>
      rw [rest.eq_nil, List.append_nil]
      rw [group_nil] at hargs
      cases hargs
      refine ⟨.group front .round [] gap tail, .empty hfront hgap htail, rfl, ?_,
        by rw [Form.title], by rw [Form.argTypes, Form.types]⟩
      rw [Form.source, Form.sources, List.nil_append, Bracket.opener, Bracket.closer]

/-- Behind a form there is nothing more, or a comma and further forms. -/
private theorem Row.formed_cons {f : Form} (hf : f.WellFormed) (h : Row true t ps true)
    (hg : group ps = .ok es)
    (ih : ∀ s, s.length < t.length → Row false s ps true → Formed s es) :
    Formed (f.source ++ t) (f.type :: es) := by
  cases h with
  | nil =>
      rw [group_nil] at hg
      cases hg
      refine ⟨[f], List.cons_ne_nil f [], List.forall_mem_singleton.2 hf, ?_, ?_⟩
      · rw [Form.sources, List.append_nil]
      · rw [Form.types, Form.types]
  | @comma s _ _ rest =>
      obtain ⟨fs, hfs, hwf, rfl, rfl⟩ := ih s (by simp) rest
      obtain ⟨g, gs, rfl⟩ := List.exists_cons_of_ne_nil hfs
      refine ⟨f :: g :: gs, List.cons_ne_nil f _, List.forall_mem_cons.2 ⟨hf, hwf⟩, ?_, ?_⟩
      · rw [Form.sources]
      · rw [Form.types]
  | arrow => exact absurd hg (group_arrow _)

/-- The text between parameters and their result: nothing, or a comma
with blanks, and then the arrow. -/
private theorem Row.uncons_arrow (h : Row true s (.arrow :: ps) b) :
    ∃ between t, s = between ++ '-' :: '>' :: t ∧ Row false t ps b
      ∧ (between = [] ∨ ∃ bs, between = ',' :: bs ∧ AllBlank bs) := by
  cases h with
  | arrow rest => exact ⟨[], _, rfl, rest, .inl rfl⟩
  | comma rest =>
      cases rest with
      | @loose pad t _ _ hpad rest => exact ⟨',' :: pad, t, rfl, rest, .inr ⟨pad, rfl, hpad⟩⟩

/-- A row that is grouped into types is made up of forms. -/
theorem Row.formed (h : Row false s ps true) (hg : group ps = .ok es) : Formed s es := by
  induction hN : s.length using Nat.strong_induction_on generalizing s ps es with
  | h N ih =>
      subst hN
      have ih' : ∀ t qs es', t.length < s.length → group qs = .ok es' →
          Row false t qs true → Formed t es' := fun t qs es' hlt hg h => ih _ hlt h hg rfl
      cases ps with
      | nil => cases h
      | cons p ps =>
          rcases group_cons hg with ⟨e, es', hp, hps, rfl⟩ |
            ⟨inner, r, rest, e, params, es', rfl, rfl, hr, hparams, hrest, rfl⟩
          · obtain ⟨x, t, rfl, hx, ht⟩ := h.uncons (ne_arrow_of_toType hp)
            cases p with
            | arrow => cases hp
            | item n inner =>
                obtain ⟨args, hargs, rfl⟩ := toType_item_iff.1 hp
                obtain ⟨f, hf, hpiece, rfl, rfl, rfl⟩ := hx.form hargs fun t hlt =>
                  ih' t inner args (by simp; omega) hargs
                rw [← Form.type_of_isPiece hpiece]
                exact ht.formed_cons hf hps fun s hlt => ih' s ps es' (by simp; omega) hps
          · obtain ⟨x, t₁, rfl, hx, ht₁⟩ := h.uncons nofun
            obtain ⟨between, t₂, rfl, ht₂, hbetween⟩ := ht₁.uncons_arrow
            obtain ⟨y, t, rfl, hy, ht⟩ := ht₂.uncons (ne_arrow_of_toType hr)
            cases r with
            | arrow => cases hr
            | item n inner' =>
                obtain ⟨args, hargs, rfl⟩ := toType_item_iff.1 hr
                obtain ⟨f, hf, hpiece, rfl, htitle, rfl⟩ := hx.form hparams fun t hlt =>
                  ih' t inner params (by simp; omega) hparams
                obtain ⟨g, hresult, hpiece', rfl, rfl, -⟩ := hy.form hargs fun t hlt =>
                  ih' t inner' args (by simp; omega) hargs
                have hfunction := Form.WellFormed.function hf hpiece htitle hbetween hresult hpiece'
                have hformed := ht.formed_cons hfunction hrest fun s hlt =>
                  ih' s rest es' (by simp; omega) hrest
                rw [Form.source, Form.type] at hformed
                rw [ofTitle_name, ofTitle_nullable] at hformed ⊢
                simpa using hformed

/-- What is accepted as a signature: the text of a form whose type has a
name. -/
theorem readChars_iff_form :
    readChars s = .ok e ↔ ∃ f : Form, f.WellFormed ∧ f.source = s ∧ f.type = e ∧ e.name ≠ "" := by
  constructor
  · intro h
    obtain ⟨g, k, hl, hs, hk, hroot, hname⟩ := readChars_ok_iff.1 h
    have hstacked : Stacked (.start none) [] [] := .lowest rfl (reads_start none)
    have hg := hstacked.leads hl
    cases hg with
    | lowest _ hreads =>
        have hgroup := group_append (oneType_of_rootType hroot) group_nil
        rw [List.append_nil] at hgroup
        obtain ⟨fs, -, hwf, hsource, htype⟩ := ((hreads.settles hs).1 hk).formed hgroup
        match fs, hsource, htype with
        | [f], hsource, htype =>
            rw [Form.sources] at hsource
            rw [Form.types, Form.types] at htype
            cases htype
            exact ⟨f, hwf f (List.mem_singleton.2 rfl), hsource, rfl, hname⟩
  · rintro ⟨f, hf, rfl, rfl, hname⟩
    rw [hf.readChars, if_neg hname]

end TestDraft.Signature
