/-
Reading a signature fails in ordinary ways only.

Reading guards against three things that cannot happen: a mark that is
put on nothing or on an arrow, an arrow that ends its level, and brackets
behind a name that hold no type. The scan keeps them away long before
they are looked for. The latest piece of a filled level is no arrow
(`Holds`), and a level is closed only when it is filled or has no pieces,
so at any depth no arrow ends the pieces of a closed level (`Complete`).
Grouping follows the pieces down into their brackets, and finds every
result that it looks for there (`group_ordinary`).
-/
import TestDraft.Proofs.Signature.Rows

namespace TestDraft.Signature

open Text

variable {l m : Level} {around : List Level} {b : Bracket} {s seg : List Char}
  {ps inner : List Piece}

-- ======================================================= complete pieces

/-- Pieces that no arrow ends, nor do those in their brackets. -/
inductive Complete : List Piece → Prop
  | nil : Complete []
  | item {n : List Char} {inner ps : List Piece} (inside : Complete inner)
      (rest : Complete ps) : Complete (.item n inner :: ps)
  | arrow {ps : List Piece} (hne : ps ≠ []) (rest : Complete ps) : Complete (.arrow :: ps)

/-- A complete row does not end in an arrow. -/
theorem Complete.getLast? (h : Complete ps) : ps.getLast? ≠ some .arrow := by
  induction h with
  | nil => nofun
  | @item n inner ps _ _ _ ih =>
      cases ps with
      | nil => nofun
      | cons q qs => rwa [List.getLast?_cons_cons]
  | @arrow ps hne _ ih =>
      cases ps with
      | nil => exact absurd rfl hne
      | cons q qs => rwa [List.getLast?_cons_cons]

/-- A finished row that began with nothing has pieces. -/
theorem Row.ne_nil (h : Row false s ps true) : ps ≠ [] := by
  rintro rfl
  cases h

/-- A finished row is complete: behind an arrow there is a piece. -/
private theorem Row.complete {a : Bool} (h : Row a s ps true) : Complete ps := by
  generalize hb : true = b at h
  induction h with
  | nil => exact .nil
  | word _ _ ih => exact .item .nil (ih hb)
  | bracket _ _ _ _ _ ihi ih => exact .item (ihi rfl) (ih hb)
  | gap _ _ _ _ ih => exact .item .nil (ih hb)
  | comma _ ih => exact ih hb
  | arrow rest ih =>
      subst hb
      exact .arrow rest.ne_nil (ih rfl)
  | loose _ rest ih =>
      subst hb
      exact .arrow rest.ne_nil (ih rfl)

/-- The pieces of a level that has settled are complete if it is filled,
or if there are none. -/
private theorem Reads.complete (h : Reads l s) (hs : Settles l l.segment m)
    (hm : m.filled = true ∨ m.pieces = []) : Complete m.pieces.reverse := by
  rcases hm with hm | hm
  · exact ((h.settles hs).1 hm).complete
  · rw [hm]
    exact .nil

/-- A mark goes to a name or to a bracket, never to an arrow. -/
theorem Reads.marked (h : Reads l s) (hs : Settles l seg m) (hmark : trim seg = ['?']) :
    ∃ n inner ps, l.pieces = .item n inner :: ps
      ∧ m.pieces = .item (n ++ ['?']) inner :: ps := by
  obtain ⟨br, pieces, filled, pending⟩ := l
  obtain ⟨t, -, hrow, -⟩ := h.row
  cases hs with
  | blank hblank => rw [hmark] at hblank; cases hblank
  | name c cs htrim hc => rw [hmark] at htrim; cases htrim; exact absurd rfl hc
  | mark _ hf =>
      cases hrow with
      | unfilled => cases hf
      | filled => exact ⟨_, _, _, rfl, rfl⟩

-- ========================================================= ordinary faults

/-- Whether a fault is one that no signature has: an arrow without a
result, or brackets without a type in them. -/
def Fault.isGuard : Fault → Bool
  | missingResult | noArguments _ => true
  | _ => false

/-- An ordinary fault is neither of the two that are never reported. -/
private theorem Fault.ne_of_isGuard_eq_false {e : Fault} (h : e.isGuard = false) :
    e ≠ .missingResult ∧ ∀ r, e ≠ .noArguments r := by
  constructor
  · rintro rfl
    cases h
  · rintro r rfl
    cases h

/-- A computation that fails, if at all, with a fault of the text. -/
def Ordinary {α : Type} (x : Except Fault α) : Prop := ∀ e, x = .error e → e.isGuard = false

section

variable {α β : Type} {x : Except Fault α} {f : α → Except Fault β}

/-- A result is no fault. -/
theorem Ordinary.ok (a : α) : Ordinary (.ok a : Except Fault α) := by
  intro e h
  cases h

/-- Nor is an ordinary fault one of the two. -/
theorem Ordinary.error {e : Fault} (he : e.isGuard = false) :
    Ordinary (.error e : Except Fault α) := by
  intro e' h
  cases h
  exact he

/-- A sequence fails where its first part does, or where the second does
after it. -/
theorem Ordinary.bind (hx : Ordinary x) (hf : ∀ a, x = .ok a → Ordinary (f a)) :
    Ordinary (x >>= f) := by
  intro e h
  cases x with
  | error e' =>
      cases h
      exact hx e rfl
  | ok a => exact hf a rfl e h

/-- A branch fails as its two sides do. -/
private theorem Ordinary.ite {c : Prop} [Decidable c] {y : Except Fault α} (hx : c → Ordinary x)
    (hy : ¬c → Ordinary y) : Ordinary (if c then x else y) := by
  by_cases h : c
  · rw [if_pos h]
    exact hx h
  · rw [if_neg h]
    exact hy h

end

/-- Settling fails for what has no name. -/
private theorem settle_ordinary (l : Level) (seg : List Char) : Ordinary (l.settle seg) := by
  unfold Level.settle
  split
  next => exact .ok _
  next =>
    apply Ordinary.ite
    · exact fun _ => .ok _
    · exact fun _ => .error rfl
  next =>
    apply Ordinary.ite
    · exact fun _ => .error rfl
    · intro _
      apply Ordinary.ite
      · exact fun _ => .error rfl
      · exact fun _ => .ok _

/-- A comma fails where nothing is in front of it. -/
private theorem divide_ordinary (l : Level) (p : Nat) : Ordinary (l.divide p) := by
  apply (settle_ordinary l l.segment).bind
  intro m _
  apply Ordinary.ite
  · exact fun _ => .ok _
  · exact fun _ => .error rfl

/-- An arrow fails as settling does. -/
private theorem putArrow_ordinary (l : Level) : Ordinary l.putArrow := by
  apply (settle_ordinary l l.pending.tail.reverse).bind
  exact fun m _ => .ok _

/-- Closing fails at the wrong bracket, or at an empty one. -/
private theorem close_ordinary (l : Level) (b : Bracket) (p : Nat) : Ordinary (l.close b p) := by
  apply Ordinary.ite
  · exact fun _ => .error rfl
  · intro _
    apply (settle_ordinary l l.segment).bind
    intro m _
    apply Ordinary.ite
    · exact fun _ => .error rfl
    · exact fun _ => .ok _

/-- Another type fails behind a finished one. -/
private theorem admit_ordinary (l : Level) : Ordinary l.admit := by
  apply Ordinary.ite
  · exact fun _ => .error rfl
  · exact fun _ => .ok _

/-- The end fails inside of a bracket, or behind a comma. -/
private theorem finish_ordinary (l : Level) : Ordinary l.finish := by
  unfold Level.finish
  split
  next => exact .error rfl
  next =>
    apply (settle_ordinary l l.segment).bind
    intro m _
    apply Ordinary.ite
    · exact fun _ => .error rfl
    · exact fun _ => .ok _

/-- So does each step, as one of these. -/
private theorem step_ordinary (l : Level) (around : List Level) (p : Nat) (c : Char) :
    Ordinary (step l around p c) := by
  unfold step
  split
  next => exact (admit_ordinary l).bind fun _ _ => .ok _
  next =>
    apply Ordinary.ite
    · exact fun _ => (divide_ordinary l p).bind fun _ _ => .ok _
    · intro _
      split
      next b _ =>
        apply Ordinary.ite
        · exact fun _ => (putArrow_ordinary l).bind fun _ _ => .ok _
        · intro _
          apply (close_ordinary l b p).bind
          intro ps _
          split
          next => exact .ok _
          next => exact .ok _
      next => exact .ok _

/-- So does a scan, step by step. -/
private theorem scan_ordinary (l : Level) (around : List Level) (p : Nat) (s : List Char) :
    Ordinary (scan l around p s) := by
  induction s generalizing l around p with
  | nil => exact (finish_ordinary l).bind fun _ _ => .ok _
  | cons c cs ih =>
      rw [scan]
      apply (step_ordinary l around p c).bind
      intro x _
      cases x with
      | inside m waiting => exact ih m waiting (p + 1)
      | done ps => exact .ok _

-- =============================================================== grouping

/-- What is left of a complete row is complete. -/
theorem Complete.tail {q : Piece} (h : Complete (q :: ps)) : Complete ps := by
  cases h with
  | item _ rest => exact rest
  | arrow _ rest => exact rest

/-- What stands in the brackets of a piece is complete. -/
def Piece.Filled (q : Piece) : Prop := ∀ n inner, q = .item n inner → Complete inner

/-- Its first piece is filled. -/
theorem Complete.head {q : Piece} (h : Complete (q :: ps)) : q.Filled := by
  rintro n inner rfl
  cases h with
  | item inside _ => exact inside

/-- Brackets that hold a piece hold a type. -/
private theorem group_ne_nil {q : Piece} {args : List TypeExpr} (h : group (q :: ps) = .ok args) :
    args ≠ [] := by
  rintro rfl
  exact List.cons_ne_nil q ps (group_eq_nil_iff.1 h)

/-- A piece has a type if what stands in its brackets has types. -/
private theorem toType_ordinary (n : List Char) (h : Ordinary (group inner)) :
    Ordinary (Piece.item n inner).toType := by
  cases inner with
  | nil =>
      rw [Piece.toType]
      exact .ok _
  | cons q qs =>
      rw [Piece.toType]
      apply h.bind
      intro args hargs
      obtain ⟨a, as, rfl⟩ := List.exists_cons_of_ne_nil (group_ne_nil hargs)
      exact .ok _

/-- Complete pieces are grouped, or one of them is of no use where it
stands. -/
theorem group_ordinary (h : Complete ps) : Ordinary (group ps) := by
  induction ps using group.induct (motive_1 := fun q => q.Filled → Ordinary q.toType) with
  | case1 => exact .error rfl
  | case2 n => exact toType_ordinary n (by rw [group_nil]; exact .ok _)
  | case3 n q qs ih hq => exact toType_ordinary n (ih (hq n _ rfl))
  | case4 =>
      rw [group_nil]
      exact .ok _
  | case5 q => exact absurd rfl h.getLast?
  | case6 q qs =>
      rw [group]
      exact .error rfl
  | case7 n inner q qs hn =>
      rw [group, if_pos hn]
      exact .error rfl
  | case8 n inner q qs hn ihq ihinner ihqs =>
      rw [group, if_neg hn]
      apply (ihq h.tail.tail.head).bind
      intro r _
      apply (ihinner (h.head n inner rfl)).bind
      intro params _
      apply (ihqs h.tail.tail.tail).bind
      exact fun types _ => .ok _
  | case9 q qs hlast harrows hfunction ihq ihqs =>
      rw [group]
      · apply (ihq h.head).bind
        intro t _
        apply (ihqs h.tail).bind
        exact fun types _ => .ok _
      · exact hlast
      · exact harrows
      · exact hfunction

/-- Neither fault comes up where the row of a whole signature is put
together. -/
private theorem rootType_ordinary (h : Complete ps) : Ordinary (rootType ps) := by
  unfold rootType
  split
  next q =>
    cases h with
    | item inside _ => exact toType_ordinary _ (group_ordinary inside)
    | arrow hne => exact absurd rfl hne
  next q r =>
    apply (group_ordinary h).bind
    intro ts _
    split
    next => exact .ok _
    next => exact .error rfl
  next => exact .error rfl

-- =============================================================== signatures

/-- Every level that a signature leads to has read a row. -/
private theorem reads_of_leads (h : Leads (.start none) [] s l around) : ∃ t, Reads l t := by
  have hstacked : Stacked (.start none) [] [] := .lowest rfl (reads_start none)
  obtain ⟨-, t, -, hreads, -⟩ := (hstacked.leads h).innermost
  exact ⟨t, hreads⟩

/-- What is left of a level when its bracket is closed. -/
private theorem Reads.closed (h : Reads l s) (hc : Closes l b ps) :
    (ps = [] → b = .round) ∧ Complete ps := by
  obtain ⟨-, m, hs, hm, rfl⟩ := hc
  constructor
  · intro hnil
    rcases hm with hm | ⟨-, hround⟩
    · exact absurd hnil ((h.settles hs).1 hm).ne_nil
    · exact hround
  · rcases hm with hm | ⟨hm, -⟩
    · exact h.complete hs (.inl hm)
    · exact h.complete hs (.inr hm)

/-- What is left of a level where the signature ends. -/
private theorem Reads.finished (h : Reads l s) (hf : l.finish = .ok ps) : Complete ps := by
  obtain ⟨-, m, hs, hm, rfl⟩ := finish_ok_iff.1 hf
  exact h.complete hs hm.symm

/-- So neither of them is ever reported. -/
private theorem readChars_ordinary (s : List Char) : Ordinary (readChars s) := by
  apply (scan_ordinary (.start none) [] 0 s).bind
  intro result hscan
  obtain ⟨ps, left⟩ := result
  have hcomplete : Complete ps := by
    rw [← List.append_nil s] at hscan
    have hrooted : Rooted (.start none) [] := rfl
    obtain ⟨l, around, hleads, hfinish⟩ := leads_of_scan hrooted hscan
    obtain ⟨t, hreads⟩ := reads_of_leads hleads
    rw [scan] at hfinish
    obtain ⟨qs, hqs, hpair⟩ := bind_ok_iff.1 hfinish
    cases hpair
    exact hreads.finished hqs
  apply (rootType_ordinary hcomplete).bind
  intro t _
  apply Ordinary.ite
  · exact fun _ => .error rfl
  · exact fun _ => .ok _

/-- A signature is read as a type, or is rejected with a fault that names
it; no guard against the impossible ever fires. Wherever reading has got
to, a mark that stands by itself goes to a name or a bracket, the pieces
of a level are none only in round brackets and never end with an arrow.
Brackets with pieces in them always hold a type. -/
theorem read_fails_one_way (s : String) :
    ((∃ t, read s = .ok t)
      ∨ ∃ e, read s = .error ⟨e, s⟩ ∧ e ≠ .missingResult ∧ ∀ r, e ≠ .noArguments r)
    ∧ (∀ text rest l around, s.toList = text ++ rest → Leads (.start none) [] text l around →
      scan (.start none) [] 0 s.toList = scan l around text.length rest
      ∧ (∀ seg m, l.settle seg = .ok m → trim seg = ['?'] →
        ∃ n inner ps, l.pieces = .item n inner :: ps
          ∧ m.pieces = .item (n ++ ['?']) inner :: ps)
      ∧ (∀ b p ps, l.close b p = .ok ps →
        (ps = [] → b = .round) ∧ ps.getLast? ≠ some .arrow)
      ∧ ∀ ps, l.finish = .ok ps → ps.getLast? ≠ some .arrow)
    ∧ ∀ p ps args, group (p :: ps) = .ok args → args ≠ [] := by
  refine ⟨?ends, fun text rest l around hs hleads => ?levels, fun p ps args => group_ne_nil⟩
  case ends =>
    unfold read
    cases hread : readChars s.toList with
    | ok t => exact .inl ⟨t, rfl⟩
    | error e =>
        have hguard := readChars_ordinary s.toList e hread
        exact .inr ⟨e, rfl, Fault.ne_of_isGuard_eq_false hguard⟩
  case levels =>
    obtain ⟨t, hreads⟩ := reads_of_leads hleads
    refine ⟨?scan, ?mark, ?close, ?finish⟩
    case scan =>
      rw [hs, scan_eq_of_leads hleads, Nat.zero_add]
    case mark =>
      intro seg m hsettle hmark
      exact hreads.marked (settle_ok_iff.1 hsettle) hmark
    case close =>
      intro b p ps hclose
      obtain ⟨hround, hcomplete⟩ := hreads.closed (close_ok_iff.1 hclose)
      exact ⟨hround, hcomplete.getLast?⟩
    case finish =>
      intro ps hfinish
      exact (hreads.finished hfinish).getLast?

/-- A mark that goes to a bracket, and a closer of which the bracket has
been closed before. -/
theorem read_fails_one_way_stray_closer :
    read "A<B>?>" = .error ⟨.unexpected '>' 5, "A<B>?>"⟩
      ∧ Level.settle ⟨none, [.item ['A'] [.item ['B'] []]], true, []⟩ ['?']
        = .ok ⟨none, [.item ['A', '?'] [.item ['B'] []]], true, []⟩
      ∧ (∃ e, read "A<B>?>" = .error ⟨e, "A<B>?>"⟩ ∧ e ≠ .missingResult
        ∧ ∀ r, e ≠ .noArguments r)
      ∧ ∃ n inner ps, [Piece.item ['A'] [.item ['B'] []]] = .item n inner :: ps
        ∧ [Piece.item ['A', '?'] [.item ['B'] []]] = .item (n ++ ['?']) inner :: ps := by
  have hread : read "A<B>?>" = .error ⟨.unexpected '>' 5, "A<B>?>"⟩ := by decide +kernel
  have hsettle : Level.settle ⟨none, [.item ['A'] [.item ['B'] []]], true, []⟩ ['?']
      = .ok ⟨none, [.item ['A', '?'] [.item ['B'] []]], true, []⟩ := rfl
  have hleads : Leads (.start none) [] ['A', '<', 'B', '>']
      ⟨none, [.item ['A'] [.item ['B'] []]], true, []⟩ [] :=
    .cons (step_ok_iff (p := 0).1 rfl) (.cons (step_ok_iff (p := 1).1 rfl)
      (.cons (step_ok_iff (p := 2).1 rfl) (.cons (step_ok_iff (p := 3).1 rfl) (.nil _ _))))
  obtain ⟨hends, hlevels, -⟩ := read_fails_one_way "A<B>?>"
  obtain ⟨-, hmark, -⟩ := hlevels ['A', '<', 'B', '>'] ['?', '>'] _ _ rfl hleads
  refine ⟨hread, hsettle, ?_, hmark ['?'] _ hsettle rfl⟩
  rcases hends with ⟨t, ht⟩ | hfault
  · rw [hread] at ht
    cases ht
  · exact hfault

end TestDraft.Signature
