/-
Grouping is a partition.

Pieces that stand side by side are cut into parts: a piece by itself, or
parameters, an arrow and a result (`OneType`). `Partition` says what such
a cut is, without an order of reading. Grouping goes from the left and
looks one piece ahead; it finds a partition wherever there is one
(`group_ok_iff`), and there is never a second one (`Partition.unique`).
Both rest on one fact, that nothing which has types begins with an arrow
(`group_arrow`): so the piece behind a first piece tells where the first
part ends. What stands in the brackets of a piece is partitioned in the
same way, so this tells which pieces have a type, at any depth.
-/
import TestDraft.Proofs.Signature.Forms

namespace TestDraft.Signature

variable {p : Piece} {ps qs rest rest' : List Piece} {parts parts' : List (List Piece)}
  {e e' : TypeExpr} {es es' : List TypeExpr}

/-- Parts that one after the other are the given pieces, each of which
makes up one type. -/
structure Partition (ps : List Piece) (parts : List (List Piece)) (es : List TypeExpr) :
    Prop where
  whole : parts.flatten = ps
  types : List.Forall₂ OneType parts es

-- ============================================================= existence

/-- Parts that make up one type each are grouped into these types. -/
private theorem group_flatten (h : List.Forall₂ OneType parts es) :
    group parts.flatten = .ok es := by
  induction h with
  | nil => exact group_nil
  | cons hpart _ ih =>
      rw [List.flatten_cons]
      exact group_append hpart ih

/-- Pieces make up types exactly if they have a partition, and then these
are the types of its parts, in order. -/
theorem group_ok_iff : group ps = .ok es ↔ ∃ parts, Partition ps parts es := by
  constructor
  · intro h
    -- There is one part for each type, so the types are what we go along.
    induction es generalizing ps with
    | nil => exact ⟨[], (group_eq_nil_iff.1 h).symm, .nil⟩
    | cons e es ih =>
        obtain ⟨part, rest, rfl, hpart, hrest⟩ := group_first h
        obtain ⟨parts, hparts⟩ := ih hrest
        refine ⟨part :: parts, ?_, .cons hpart hparts.types⟩
        rw [List.flatten_cons, hparts.whole]
  · rintro ⟨parts, rfl, h⟩
    exact group_flatten h

/-- A second arrow where a result is due leaves no partition. -/
example : ¬∃ parts es, Partition [.item [] [], .arrow, .arrow, .item ['A'] []] parts es := by
  rintro ⟨parts, es, h⟩
  cases group_ok_iff.2 ⟨parts, h⟩

-- ============================================================ uniqueness

/-- Where the first part ends is told by the pieces. -/
private theorem OneType.eq_of_append (h : OneType ps e) (h' : OneType qs e')
    (hrest : group rest = .ok es) (hrest' : group rest' = .ok es')
    (heq : ps ++ rest = qs ++ rest') : ps = qs := by
  -- Were only one of the parts a function, its arrow would begin the rest of the other.
  cases h with
  | alone =>
      cases h' with
      | alone =>
          cases heq
          rfl
      | function =>
          cases heq
          exact absurd hrest (group_arrow _)
  | function =>
      cases h' with
      | alone =>
          cases heq
          exact absurd hrest' (group_arrow _)
      | function =>
          cases heq
          rfl

/-- Parts are told by their types and by what they are one after the
other. -/
private theorem parts_unique (h : List.Forall₂ OneType parts es)
    (h' : List.Forall₂ OneType parts' es)
    (heq : parts.flatten = parts'.flatten) : parts = parts' := by
  induction h generalizing parts' with
  | nil =>
      cases h'
      rfl
  | @cons part e parts es hpart hparts ih =>
      cases h' with
      | @cons part' _ parts' _ hpart' hparts' =>
          rw [List.flatten_cons, List.flatten_cons] at heq
          have hfirst : part = part' :=
            hpart.eq_of_append hpart' (group_flatten hparts) (group_flatten hparts') heq
          subst hfirst
          rw [ih hparts' (List.append_cancel_left heq)]

/-- Pieces have one partition at most. -/
theorem Partition.unique (h : Partition ps parts es) (h' : Partition ps parts' es') :
    parts = parts' ∧ es = es' := by
  have htypes : es = es' :=
    Except.ok.inj ((group_ok_iff.2 ⟨_, h⟩).symm.trans (group_ok_iff.2 ⟨_, h'⟩))
  subst htypes
  exact ⟨parts_unique h.types h'.types (h.whole.trans h'.whole.symm), rfl⟩

-- ============================================================== counting

def Piece.isArrow : Piece → Bool
  | .arrow => true
  | .item _ _ => false

/-- What has a type is no arrow. -/
private theorem isArrow_of_toType (h : p.toType = .ok e) : p.isArrow = false := by
  cases p with
  | arrow => cases h
  | item name inner => rfl

/-- A part without an arrow is one piece, a part with one is three. -/
private theorem OneType.length_eq (h : OneType ps e) :
    1 + 2 * ps.countP Piece.isArrow = ps.length := by
  cases h with
  | @alone p _ hp =>
      have hpiece : p.isArrow = false := isArrow_of_toType hp
      simp [hpiece]
  | @function inner r _ _ hr _ =>
      have hparams : Piece.isArrow (.item [] inner) = false := rfl
      have harrow : Piece.isArrow .arrow = true := rfl
      have hresult : r.isArrow = false := isArrow_of_toType hr
      simp [hparams, harrow, hresult]

private theorem Partition.length_eq (h : Partition ps parts es) :
    es.length + 2 * ps.countP Piece.isArrow = ps.length := by
  obtain ⟨rfl, htypes⟩ := h
  induction htypes with
  | nil => rfl
  | cons hpart _ ih =>
      have hlength := hpart.length_eq
      rw [List.flatten_cons, List.countP_append, List.length_append, List.length_cons]
      omega

-- =============================================================== grouping

/-- A piece has a type exactly if it is no arrow and what stands in its
brackets has a partition. -/
private theorem toType_ok_iff :
    p.toType = .ok e ↔ ∃ name inner parts args, p = .item name inner
      ∧ Partition inner parts args ∧ e = ofTitle name args := by
  constructor
  · intro h
    cases p with
    | arrow => cases h
    | item name inner =>
        obtain ⟨args, hargs, he⟩ := toType_item_iff.1 h
        obtain ⟨parts, hparts⟩ := group_ok_iff.1 hargs
        exact ⟨name, inner, parts, args, rfl, hparts, he⟩
  · rintro ⟨name, inner, parts, args, rfl, hparts, he⟩
    exact toType_item_iff.2 ⟨args, group_ok_iff.2 ⟨parts, hparts⟩, he⟩

/-- Grouping is a partition. Pieces side by side are grouped exactly if
they are parts one after the other, each of them a piece that has a type
or a bracket without a name, an arrow and a piece that has one; the types
are those of the parts, in order. There is one such partition at most,
and two types less than there are pieces for every arrow among them. A
piece has a type exactly if it is no arrow and what stands in its
brackets has a partition, so all this holds at any depth. -/
theorem group_partitions (ps : List Piece) :
    (∀ es, group ps = .ok es ↔ ∃ parts, Partition ps parts es)
    ∧ (∀ parts parts' es es', Partition ps parts es → Partition ps parts' es' →
      parts = parts' ∧ es = es')
    ∧ (∀ es, group ps = .ok es → es.length + 2 * ps.countP Piece.isArrow = ps.length)
    ∧ ∀ (p : Piece) e, p.toType = .ok e ↔ ∃ name inner parts args, p = .item name inner
      ∧ Partition inner parts args ∧ e = ofTitle name args := by
  refine ⟨fun es => group_ok_iff, fun _ _ _ _ h h' => h.unique h', fun es h => ?_,
    fun p e => toType_ok_iff⟩
  obtain ⟨parts, hparts⟩ := group_ok_iff.1 h
  exact hparts.length_eq

/-- A function type in front of a name, which are the arguments of a
generic type. -/
theorem group_partitions_function_in_front :
    Partition [.item [] [], .arrow, .item ['A'] [], .item ['B'] []]
        [[.item [] [], .arrow, .item ['A'] []], [.item ['B'] []]]
        [.function "A" false [], .named "B" false]
      ∧ group [.item [] [], .arrow, .item ['A'] [], .item ['B'] []]
        = .ok [.function "A" false [], .named "B" false]
      ∧ (∀ parts es, Partition [.item [] [], .arrow, .item ['A'] [], .item ['B'] []] parts es →
        parts = [[.item [] [], .arrow, .item ['A'] []], [.item ['B'] []]])
      ∧ 2 + 2 * [.item [] [], .arrow, .item ['A'] [], .item ['B'] []].countP Piece.isArrow = 4
      ∧ (Piece.item ['M'] [.item [] [], .arrow, .item ['A'] [], .item ['B'] []]).toType
        = .ok (.generic "M" false [.function "A" false [], .named "B" false]) := by
  have hparts : Partition [.item [] [], .arrow, .item ['A'] [], .item ['B'] []]
      [[.item [] [], .arrow, .item ['A'] []], [.item ['B'] []]]
      [.function "A" false [], .named "B" false] :=
    ⟨rfl, .cons (.function (t := .named "A" false) rfl group_nil) (.cons (.alone rfl) .nil)⟩
  obtain ⟨hok, hunique, hcount, htype⟩ :=
    group_partitions [.item [] [], .arrow, .item ['A'] [], .item ['B'] []]
  have hgroup := (hok _).2 ⟨_, hparts⟩
  refine ⟨hparts, hgroup, fun parts es h => ?_, hcount _ hgroup, (htype _ _).2 ?_⟩
  · exact (hunique _ _ _ _ h hparts).1
  · exact ⟨['M'], _, _, _, rfl, hparts, rfl⟩

end TestDraft.Signature
