/-
Signatures inside signatures: a signature that is accepted by itself is
accepted as an argument, with the same type.

By itself a signature is read at the lowest level; as an argument it is
read at a level that has a bracket, pieces of earlier arguments and
levels around it. `Lifted` relates the two: only the lowest level
differs, by what the argument's level held before. The relation is kept
because an accepted signature closes no bracket that it has not opened,
and a mark in it never falls on a piece that was there before
(`argues_of_readChars`).

The pieces of all arguments of a bracket then stand side by side. They
are grouped from the left into the same types again, since the pieces of
one type never begin with an arrow (`group_append`).
-/
import TestDraft.Proofs.Signature.Leads
import TestDraft.Proofs.Signature.Names

namespace TestDraft.Signature

open Text

variable {l m k base outer : Level} {around below : List Level}
  {s seg n : List Char} {p : Piece} {ps qs : List Piece} {e : TypeExpr} {es : List TypeExpr}

-- ====================================================== pieces of one type

/-- Pieces that make up one type: a piece by itself, or a list of
parameters, an arrow and a result. -/
inductive OneType : List Piece → TypeExpr → Prop
  | alone {p : Piece} {t : TypeExpr} (h : p.toType = .ok t) : OneType [p] t
  | function {inner : List Piece} {r : Piece} {t : TypeExpr} {params : List TypeExpr}
      (hr : r.toType = .ok t) (hp : group inner = .ok params) :
      OneType [.item [] inner, .arrow, r] (.function t.name t.nullable params)

theorem group_nil : group [] = .ok [] := by rw [group]

/-- The first type that pieces make up: that of a piece by itself, or a
function type with an arrow and a result behind its parameters. -/
theorem group_cons (h : group (p :: ps) = .ok es) :
    (∃ e es', p.toType = .ok e ∧ group ps = .ok es' ∧ es = e :: es')
    ∨ ∃ inner r rest e params es', p = .item [] inner ∧ ps = .arrow :: r :: rest
        ∧ r.toType = .ok e ∧ group inner = .ok params ∧ group rest = .ok es'
        ∧ es = .function e.name e.nullable params :: es' := by
  unfold group at h
  split at h
  next heq => cases heq
  next => cases h
  next => cases h
  next name inner r rest heq =>
    cases heq
    split at h
    next => cases h
    next hname =>
      obtain ⟨e, hr, h⟩ := bind_ok_iff.1 h
      obtain ⟨params, hp, h⟩ := bind_ok_iff.1 h
      obtain ⟨es', hrest, h⟩ := bind_ok_iff.1 h
      cases h
      refine .inr ⟨inner, r, rest, e, params, es', ?_, rfl, hr, hp, hrest, rfl⟩
      rw [Classical.not_not.1 hname]
  next p rest _ _ _ heq =>
    cases heq
    obtain ⟨e, hp, h⟩ := bind_ok_iff.1 h
    obtain ⟨es', hrest, h⟩ := bind_ok_iff.1 h
    cases h
    exact .inl ⟨e, es', hp, hrest, rfl⟩

/-- Pieces make up one type at least. -/
theorem group_eq_nil_iff : group ps = .ok [] ↔ ps = [] := by
  constructor
  · intro h
    cases ps with
    | nil => rfl
    | cons p ps =>
        rcases group_cons h with ⟨e, es, -, -, hes⟩ | ⟨_, _, _, e, _, es, -, -, -, -, -, hes⟩
        · cases hes
        · cases hes
  · rintro rfl
    exact group_nil

/-- Nothing that begins with an arrow is a row of types. -/
theorem group_arrow (ps : List Piece) : group (.arrow :: ps) ≠ .ok es := by
  intro h
  rcases group_cons h with ⟨e, _, he, -, -⟩ | ⟨_, _, _, _, _, _, heq, -⟩
  · cases he
  · cases heq

/-- A piece that makes a type by itself makes it in front of others. -/
private theorem group_alone (hp : p.toType = .ok e) (hps : group ps = .ok es) :
    group (p :: ps) = .ok (e :: es) := by
  cases p with
  | arrow => cases hp
  | item name inner =>
      unfold group
      split
      next heq => cases heq
      next heq =>
        cases heq
        exact absurd hps (group_arrow [])
      next heq => cases heq
      next heq =>
        cases heq
        exact absurd hps (group_arrow _)
      next heq =>
        cases heq
        exact bind_ok_iff.2 ⟨e, hp, bind_ok_iff.2 ⟨es, hps, rfl⟩⟩

/-- A function type is folded in front of others. -/
private theorem group_function {inner : List Piece} {r : Piece} {params : List TypeExpr}
    (hr : r.toType = .ok e) (hp : group inner = .ok params) (hps : group ps = .ok es) :
    group (.item [] inner :: .arrow :: r :: ps)
      = .ok (.function e.name e.nullable params :: es) := by
  rw [group, if_neg (not_not_intro rfl)]
  exact bind_ok_iff.2 ⟨e, hr, bind_ok_iff.2 ⟨params, hp, bind_ok_iff.2 ⟨es, hps, rfl⟩⟩⟩

/-- The pieces of one type are grouped by themselves, whatever types
follow. -/
theorem group_append (h : OneType ps e) (hqs : group qs = .ok es) :
    group (ps ++ qs) = .ok (e :: es) := by
  cases h with
  | alone h => exact group_alone h hqs
  | function hr hp => exact group_function hr hp hqs

/-- The first type that pieces make up is that of a part in front. -/
theorem group_first (h : group ps = .ok (e :: es)) :
    ∃ part rest, ps = part ++ rest ∧ OneType part e ∧ group rest = .ok es := by
  cases ps with
  | nil => cases group_nil.symm.trans h
  | cons p ps =>
      rcases group_cons h with ⟨e', es', hp, hps, heq⟩ |
        ⟨inner, r, rest, e', params, es', rfl, rfl, hr, hparams, hrest, heq⟩
      · cases heq
        exact ⟨[p], ps, rfl, .alone hp, hps⟩
      · cases heq
        exact ⟨[.item [] inner, .arrow, r], rest, rfl, .function hr hparams, hrest⟩

/-- The outermost level holds the pieces of one type. -/
theorem oneType_of_rootType (h : rootType ps = .ok e) : OneType ps e := by
  unfold rootType at h
  split at h
  next p => exact .alone h
  next p r =>
    obtain ⟨ts, hgroup, h⟩ := bind_ok_iff.1 h
    match ts with
    | [] => cases h
    | [t] =>
        cases h
        obtain ⟨part, rest, hps, hpart, hrest⟩ := group_first hgroup
        rw [group_eq_nil_iff.1 hrest, List.append_nil] at hps
        rwa [hps]
    | _ :: _ :: _ => cases h
  next => cases h

theorem rootType_of_oneType (h : OneType ps e) : rootType ps = .ok e := by
  cases h with
  | alone h => exact h
  | function hr hp =>
      exact bind_ok_iff.2 ⟨_, group_function hr hp group_nil, rfl⟩

-- =========================================================== lifted levels

/-- A level with the bracket and the earlier pieces of another one. -/
def Level.onto (base l : Level) : Level :=
  { l with bracket := base.bracket, pieces := l.pieces ++ base.pieces }

/-- Levels of a signature by itself, and of the same signature read at
`base`: they differ at the lowest level. -/
inductive Lifted (base : Level) : Level → Level → Prop
  | same (l : Level) (hb : l.bracket ≠ none) : Lifted base l l
  | lowest (l : Level) (hb : l.bracket = none) (hf : l.filled = true → l.pieces ≠ []) :
      Lifted base l (base.onto l)

/-- A filled level has a piece of its own, so a mark falls on that. -/
private theorem Settles.onto (base : Level) (h : Settles l seg k)
    (hf : l.filled = true → l.pieces ≠ []) :
    Settles (base.onto l) seg (base.onto k) ∧ (k.filled = true → k.pieces ≠ []) := by
  cases h with
  | blank htrim => exact ⟨.blank (l := base.onto l) htrim, hf⟩
  | mark htrim hfilled =>
      have hmark := Settles.mark (l := base.onto l) htrim hfilled
      have hne := hf hfilled
      unfold Level.onto at hmark ⊢
      cases hp : l.pieces with
      | nil => exact absurd hp hne
      | cons p ps =>
          rw [hp] at hmark
          cases p with
          | arrow => exact ⟨hmark, nofun⟩
          | item name inner => exact ⟨hmark, nofun⟩
  | name c cs htrim hc hfilled =>
      exact ⟨.name (l := base.onto l) c cs htrim hc hfilled, nofun⟩

private theorem kept_lifted (base : Level) : Kept (Lifted base) (Lifted base) where
  start b := .same _ nofun
  waits h := h
  filled h := by cases h <;> rfl
  arrowDue h := by cases h <;> rfl
  bracket h hb := by
    cases h with
    | same => exact ⟨hb, rfl⟩
    | lowest hn =>
        rw [hn] at hb
        cases hb
  settle h hs := by
    cases h with
    | same hb => exact ⟨_, hs, .same _ (hs.bracket ▸ hb)⟩
    | lowest hb hf =>
        obtain ⟨hset, hk⟩ := hs.onto base hf
        exact ⟨_, hset, .lowest _ (hs.bracket.trans hb) hk⟩
  shaft h ha hs := by
    cases h with
    | same hb => exact ⟨_, hs, .same _ (hs.bracket ▸ hb)⟩
    | lowest hb hf =>
        obtain ⟨hset, hk⟩ := hs.onto base hf
        exact ⟨_, hset, .lowest _ (hs.bracket.trans hb) hk⟩
  unfill h := by
    cases h with
    | same hb => exact .same _ hb
    | lowest hb => exact .lowest { filled := false, .. } hb nofun
  point h := by
    cases h with
    | same hb => exact .same _ hb
    | lowest hb => exact .lowest (Level.point _) hb nofun
  enclose qs h := by
    cases h with
    | same hb => exact .same _ hb
    | lowest hb => exact .lowest (Level.enclose _ qs) hb nofun
  hold c h := by
    cases h with
    | same hb => exact .same _ hb
    | lowest hb hf => exact .lowest (Level.hold _ c) hb hf

-- ============================================================= arguments

/-- A level of which the text and the pieces so far are `l` without its
text, and then the given pieces. -/
def Level.fill (l : Level) (ps : List Piece) : Level :=
  { l with pieces := ps.reverse ++ l.pieces, filled := true, pending := [] }

/-- What can stand as an argument: a text that any level with room for a
piece takes in as the pieces of one type. -/
def Argues (s : List Char) (e : TypeExpr) : Prop :=
  ∀ (base : Level) (below : List Level), base.filled = false → base.pending = [] →
    ∃ m ps, Leads base below s m below ∧ Settles m m.segment (base.fill ps) ∧ OneType ps e

/-- A signature that is accepted by itself is read as an argument, into
the pieces of its type. -/
theorem argues_of_readChars (h : readChars s = .ok e) : Argues s e := by
  intro base below hf hp
  obtain ⟨g, k, hl, hs, hk, hroot, -⟩ := readChars_ok_iff.1 h
  have hbase : base.onto (.start none) = base := by
    obtain ⟨b, qs, f, pending⟩ := base
    cases hf
    cases hp
    rfl
  have hstart : Lifted base (.start none) (base.onto (.start none)) := .lowest _ rfl nofun
  rw [hbase] at hstart
  obtain ⟨m, ws, hleads, hm, hnil⟩ := (kept_lifted base).leads below hstart .nil hl
  cases hnil
  have hrooted : Rooted (.start none) [] := rfl
  have hg : g.bracket = none := hrooted.leads hl
  cases hm with
  | same hb => exact absurd hg hb
  | lowest _ hgf =>
      refine ⟨base.onto g, k.pieces.reverse, hleads, ?_, oneType_of_rootType hroot⟩
      have hset := (hs.onto base hgf).1
      have hfill : base.onto k = base.fill k.pieces.reverse := by
        unfold Level.onto Level.fill
        rw [hk, hs.pending, List.reverse_reverse]
      rwa [hfill] at hset

/-- Arguments with a comma between any two of them are read one by one,
and their pieces are grouped into their types. -/
theorem leads_arguments (base : Level) {ss : List (List Char)}
    (h : List.Forall₂ Argues ss es) (hne : ss ≠ [])
    (hf : base.filled = false) (hp : base.pending = []) (below : List Level) :
    ∃ m ps, Leads base below ([','].intercalate ss) m below
      ∧ Settles m m.segment (base.fill ps) ∧ group ps = .ok es
      ∧ (m.arrowDue = true → ∀ s, ss.getLast? = some s → s.getLast? = some '-') := by
  induction h generalizing base with
  | nil => exact absurd rfl hne
  | @cons s e ss es hse hss ih =>
      obtain ⟨m, ps, hl, hs, hps⟩ := hse base below hf hp
      cases ss with
      | nil =>
          cases hss
          have hgroup := group_append hps group_nil
          rw [List.append_nil] at hgroup
          rw [List.intercalate_singleton]
          refine ⟨m, ps, hl, hs, hgroup, fun ha s' hs' => ?_⟩
          cases hs'
          exact hl.arrowDue hp ha
      | cons s' ss' =>
          -- the comma leaves the level as fresh as it was, with more pieces
          have hcomma : Moves m below ',' (.inside { base.fill ps with filled := false } below) :=
            .divides _ rfl hs rfl
          obtain ⟨m', qs, hl', hs', hqs, hdue'⟩ :=
            ih { base.fill ps with filled := false } nofun rfl rfl
          have hfill : Level.fill { base.fill ps with filled := false } qs
              = base.fill (ps ++ qs) := by
            unfold Level.fill
            rw [List.reverse_append, List.append_assoc]
          rw [hfill] at hs'
          rw [List.intercalate_cons_cons, List.append_assoc]
          refine ⟨m', ps ++ qs, hl.append (.cons hcomma hl'), hs', group_append hps hqs, ?_⟩
          intro ha t ht
          rw [List.getLast?_cons_cons] at ht
          exact hdue' ha t ht

/-- A bracket with arguments in it is read into a piece that holds the
pieces of their types. Only round brackets may hold nothing,
and the last argument of angle brackets may not make an arrow of the
closer. -/
theorem leads_bracket {ss : List (List Char)} (around : List Level) (b : Bracket)
    (h : List.Forall₂ Argues ss es)
    (hb : b = .angle → ss ≠ [] ∧ ∀ s, ss.getLast? = some s → s.getLast? ≠ some '-')
    (hf : l.filled = false) :
    ∃ ps, group ps = .ok es
      ∧ Leads l around (b.opener :: ([','].intercalate ss ++ [b.closer])) (l.enclose ps)
        around := by
  have hopen : Moves l around b.opener (.inside (.start (some b)) (l :: around)) :=
    .opens b rfl hf
  by_cases hne : ss = []
  case pos =>
    subst hne
    cases h
    cases b with
    | angle => exact absurd rfl (hb rfl).1
    | round =>
        have hclose : Closes (.start (some .round)) .round [] :=
          ⟨rfl, .start (some .round), .blank rfl, .inr ⟨rfl, rfl⟩, rfl⟩
        exact ⟨[], group_nil, .cons hopen (.single (.closes .round [] rfl nofun hclose))⟩
  case neg =>
    obtain ⟨m, ps, hl, hs, hps, hdue⟩ :=
      leads_arguments (.start (some b)) h hne rfl rfl (l :: around)
    have hclose : Closes m b ps := by
      refine ⟨hs.bracket.symm, _, hs, .inl rfl, ?_⟩
      show ps = (ps.reverse ++ []).reverse
      rw [List.append_nil, List.reverse_reverse]
    have harrow : ¬(b = .angle ∧ m.arrowDue = true) := by
      rintro ⟨rfl, ha⟩
      have hlast := List.getLast?_eq_some_getLast hne
      exact (hb rfl).2 _ hlast (hdue ha _ hlast)
    exact ⟨ps, hps, .cons hopen (hl.append (.single (.closes b ps rfl harrow hclose)))⟩

-- ===================================================== composed signatures

variable {name : String} {ss : List (List Char)}

/-- A mark behind a bracket falls on the piece of that bracket. -/
private theorem leads_mark {inner : List Piece} (q : Bool) (hf : l.filled = true)
    (hp : l.pending = []) (hps : l.pieces = .item n inner :: ps) :
    ∃ m, Leads l around (TypeExpr.mark q).toList m around
      ∧ Settles m m.segment
        { l with pieces := .item (n ++ (TypeExpr.mark q).toList) inner :: ps } := by
  obtain ⟨b, qs, f, pending⟩ := l
  cases hf
  cases hp
  cases hps
  rw [mark_toList]
  cases q with
  | false =>
      refine ⟨_, .nil _ around, ?_⟩
      rw [if_neg Bool.false_ne_true, List.append_nil]
      exact .blank rfl
  | true =>
      refine ⟨_, .single (.holds (by decide)), ?_⟩
      exact .mark (l := ⟨b, _, true, ['?']⟩) rfl rfl

private theorem toType_named (h : CleanName name) (q : Bool) :
    Piece.toType (.item (name.toList ++ (TypeExpr.mark q).toList) [])
      = .ok (.named name q) := by
  rw [Piece.toType, splitMark_append h.noMark h.ends, String.ofList_toList]

private theorem toType_generic (h : CleanName name) (q : Bool) (hps : group ps = .ok es)
    (hne : es ≠ []) :
    Piece.toType (.item (name.toList ++ (TypeExpr.mark q).toList) ps)
      = .ok (.generic name q es) := by
  cases ps with
  | nil =>
      rw [group_nil] at hps
      cases hps
      exact absurd rfl hne
  | cons p ps =>
      rw [Piece.toType, splitMark_append h.noMark h.ends, String.ofList_toList]
      refine bind_ok_iff.2 ⟨es, hps, ?_⟩
      unfold TypeExpr.applied
      rw [if_neg (mt List.isEmpty_iff.1 hne)]
      rfl

/-- A name alone makes a type. -/
theorem readChars_named (hfront : Front n) (hname : CleanName name) (q : Bool) :
    readChars (n ++ (name.toList ++ (TypeExpr.mark q).toList)) = .ok (.named name q) := by
  have hplain : ∀ c ∈ n ++ (name.toList ++ (TypeExpr.mark q).toList), c ∉ delimiters := by
    intro c hc
    rcases List.mem_append.1 hc with hc | hc
    · exact hfront.plain c hc
    · exact hname.marked_plain q c hc
  refine readChars_ok_iff.2 ⟨_, ⟨none, [_], true, []⟩, leads_start hplain, ?_, rfl,
    rootType_of_oneType (.alone (toType_named hname q)), hname.nonempty⟩
  have hset := settles_name (l := .start none) hfront hname q rfl
  refine hset.congr rfl rfl rfl ?_
  unfold Level.segment
  rw [List.reverse_reverse]

/-- A name and a bracket of accepted signatures make a type with their
types as arguments. -/
theorem readChars_generic (hfront : Front n) (hname : CleanName name)
    (h : List.Forall₂ (fun s e => readChars s = .ok e) ss es) (hne : ss ≠ [])
    (hlast : ∀ s, ss.getLast? = some s → s.getLast? ≠ some '-') (q : Bool) :
    readChars (n ++ name.toList ++ ('<' :: ([','].intercalate ss ++ ['>'])
        ++ (TypeExpr.mark q).toList))
      = .ok (.generic name q es) := by
  have hes : es ≠ [] := by
    rintro rfl
    cases h
    exact hne rfl
  have hplain : ∀ c ∈ n ++ name.toList, c ∉ delimiters := by
    intro c hc
    rcases List.mem_append.1 hc with hc | hc
    · exact hfront.plain c hc
    · exact hname.delimiters c hc
  obtain ⟨ps, hps, hbracket⟩ := leads_bracket (l := ⟨none, [], false, _⟩) [] .angle
    (h.imp fun _ _ => argues_of_readChars) (fun _ => ⟨hne, hlast⟩) rfl
  have hpiece : (Level.enclose ⟨none, [], false, (n ++ name.toList).reverse⟩ ps).pieces
      = [.item name.toList ps] := by
    unfold Level.enclose Level.segment
    rw [List.reverse_reverse, hfront.cleanName hname.ends hname.noColon]
  obtain ⟨m, hmark, hs⟩ := leads_mark q rfl rfl hpiece
  refine readChars_ok_iff.2 ⟨m, _, (leads_start hplain).append (hbracket.append hmark), hs, rfl,
    ?_, hname.nonempty⟩
  exact rootType_of_oneType (.alone (toType_generic hname q hps hes))

/-- A round bracket of accepted signatures, an arrow and a name make a
function type with their types as parameters. -/
theorem readChars_function (hfront : Front n) (hname : CleanName name)
    (h : List.Forall₂ (fun s e => readChars s = .ok e) ss es) (q : Bool) :
    readChars (n ++ ('(' :: ([','].intercalate ss ++ [')'])
        ++ '-' :: '>' :: (name.toList ++ (TypeExpr.mark q).toList)))
      = .ok (.function name q es) := by
  obtain ⟨ps, hps, hbracket⟩ := leads_bracket (l := ⟨none, [], false, n.reverse⟩) [] .round
    (h.imp fun _ _ => argues_of_readChars) nofun rfl
  have hpiece : Level.enclose ⟨none, [], false, n.reverse⟩ ps
      = ⟨none, [.item [] ps], true, []⟩ := by
    have hclean := hfront.cleanName (s := []) ⟨nofun, nofun⟩ nofun
    rw [List.append_nil] at hclean
    unfold Level.enclose Level.segment
    rw [List.reverse_reverse, hclean]
  rw [hpiece] at hbracket
  have hresult : Leads ⟨none, [.arrow, .item [] ps], false, []⟩ []
      (name.toList ++ (TypeExpr.mark q).toList) _ [] := leads_plain (hname.marked_plain q)
  have hblank : Settles ⟨none, [.item [] ps], true, []⟩ [] ⟨none, [.item [] ps], true, []⟩ :=
    .blank (l := ⟨none, [.item [] ps], true, []⟩) rfl
  have harrow := leads_arrow_iff.2 ⟨_, hblank, hresult⟩
  have hset := settles_name (l := ⟨none, [.arrow, .item [] ps], false, []⟩) .none hname q rfl
  have htype := rootType_of_oneType (.function (toType_named hname q) hps)
  refine readChars_ok_iff.2 ⟨_, _, (leads_start hfront.plain).append (hbracket.append harrow),
    hset.congr rfl rfl rfl ?_, rfl, htype, hname.nonempty⟩
  unfold Level.segment
  rw [List.append_nil, List.reverse_reverse, List.nil_append]

/-- Accepted signatures compose: in angle brackets behind a name they are
its type arguments, in round brackets in front of an arrow they are the
parameters of a function type, and a mark at the end falls on the whole.
The last argument in angle brackets may not end in a shaft, since it
would make an arrow of the closer. -/
theorem read_composes {ss : List String}
    (h : List.Forall₂ (fun s e => read s = .ok e) ss es) (hname : CleanName name)
    (q : Bool) :
    (ss ≠ [] → (∀ s, ss.getLast? = some s → s.toList.getLast? ≠ some '-') →
      read (name ++ "<" ++ ",".intercalate ss ++ ">" ++ TypeExpr.mark q)
        = .ok (.generic name q es))
    ∧ read ("(" ++ ",".intercalate ss ++ ")->" ++ name ++ TypeExpr.mark q)
        = .ok (.function name q es) := by
  have hss : List.Forall₂ (fun s e => readChars s = .ok e) (ss.map String.toList) es :=
    List.forall₂_map_left_iff.2 (h.imp fun _ _ => read_ok_iff.1)
  constructor
  · intro hne hlast
    have hlast' : ∀ s, (ss.map String.toList).getLast? = some s → s.getLast? ≠ some '-' := by
      intro s hs
      rw [List.getLast?_map] at hs
      obtain ⟨t, ht, rfl⟩ := Option.map_eq_some_iff.1 hs
      exact hlast t ht
    have hne' : ss.map String.toList ≠ [] := mt List.map_eq_nil_iff.1 hne
    have hread := readChars_generic .none hname hss hne' hlast' q
    refine read_ok_iff.2 ?_
    simpa [String.toList_intercalate] using hread
  · have hread := readChars_function .none hname hss q
    refine read_ok_iff.2 ?_
    simpa [String.toList_intercalate] using hread

/-- A comma in front of an arrow and a labelled argument, side by side in
both kinds of brackets. -/
theorem read_composes_comma_label :
    List.Forall₂ (fun s e => read s = .ok e) ["(A), -> B", " l: C<D> ?"]
        [.function "B" false [.named "A" false], .generic "C" true [.named "D" false]]
      ∧ CleanName "G"
      ∧ read ("G" ++ "<" ++ ",".intercalate ["(A), -> B", " l: C<D> ?"] ++ ">" ++ "?")
        = .ok (.generic "G" true
          [.function "B" false [.named "A" false], .generic "C" true [.named "D" false]]) := by
  have hss : List.Forall₂ (fun s e => read s = .ok e) ["(A), -> B", " l: C<D> ?"]
      [.function "B" false [.named "A" false], .generic "C" true [.named "D" false]] :=
    .cons (by decide +kernel) (.cons (by decide +kernel) .nil)
  have hname : CleanName "G" := by decide
  refine ⟨hss, hname, (read_composes hss hname true).1 (by decide) ?_⟩
  intro s hs
  cases hs
  decide

end TestDraft.Signature
