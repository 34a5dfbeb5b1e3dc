/-
What one character can do to the levels of a scan, said once.

`Settles` lists the three ways in which a level takes in the text since
its last delimiter, `Closes` the way in which it is closed, and `Moves`
the six things that a character can do. None of them knows a position:
positions stand in faults only, so a step that finds no fault can be
taken anywhere (`step_ok_iff`). What holds of every step is proved by
cases over `Moves`, never by opening `step` again.
-/
import TestDraft.Signature.Read

namespace TestDraft.Signature

open Text

variable {l m n : Level} {around waiting rest : List Level} {c : Char}
  {s t seg : List Char} {ps : List Piece}

-- ============================================================= sequence

/-- A sequence finds no fault when neither of its two parts does. -/
theorem bind_ok_iff {ε α β : Type} {x : Except ε α} {f : α → Except ε β} {r : β} :
    (x >>= f) = .ok r ↔ ∃ a, x = .ok a ∧ f a = .ok r := by
  cases x with
  | error e =>
      constructor
      · intro h
        cases h
      · rintro ⟨a, h, -⟩
        cases h
  | ok a =>
      constructor
      · intro h
        exact ⟨a, rfl, h⟩
      · rintro ⟨a', h, h'⟩
        cases h
        exact h'

-- ========================================================== one segment

/-- What a level becomes that takes in the text since its last
delimiter. -/
inductive Settles (l : Level) (seg : List Char) : Level → Prop
  | blank (h : trim seg = []) : Settles l seg { l with pending := [] }
  | mark (h : trim seg = ['?']) (hf : l.filled = true) :
      Settles l seg { l with pieces := markLatest l.pieces, pending := [] }
  | name (c : Char) (cs : List Char) (h : trim seg = c :: cs) (hc : c ≠ '?')
      (hf : l.filled = false) :
      Settles l seg { l with
        pieces := .item (cleanName (c :: cs)) [] :: l.pieces, filled := true, pending := [] }

/-- Settling finds no fault exactly in the three listed ways. -/
theorem settle_ok_iff : l.settle seg = .ok m ↔ Settles l seg m := by
  constructor
  · intro h
    unfold Level.settle at h
    split at h
    next htrim =>
      cases h
      exact .blank htrim
    next htrim =>
      split at h
      next hf =>
        cases h
        exact .mark htrim hf
      next => cases h
    next c cs _ htrim =>
      split at h
      next => cases h
      next hc =>
        split at h
        next => cases h
        next hf =>
          cases h
          exact .name c cs htrim hc (by simpa using hf)
  · intro h
    unfold Level.settle
    cases h with
    | blank htrim => rw [htrim]
    | mark htrim hf =>
        rw [htrim]
        exact if_pos hf
    | name c cs htrim hc hf =>
        rw [htrim]
        split
        next heq => cases heq
        next heq =>
          cases heq
          exact absurd rfl hc
        next heq =>
          cases heq
          rw [if_neg hc, hf]
          rfl

/-- A level that has settled waits for text. -/
theorem Settles.pending (h : Settles l seg m) : m.pending = [] := by
  cases h <;> rfl

/-- Settling does not touch the bracket. -/
theorem Settles.bracket (h : Settles l seg m) : m.bracket = l.bracket := by
  cases h <;> rfl

/-- Settling reads nothing of a level but its pieces and whether it is
filled, and nothing of a text but what trimming leaves. -/
theorem Settles.congr {l' : Level} {seg' : List Char} (h : Settles l seg m)
    (hb : l'.bracket = l.bracket) (hp : l'.pieces = l.pieces) (hf : l'.filled = l.filled)
    (ht : trim seg' = trim seg) : Settles l' seg' m := by
  obtain ⟨b, qs, f, pending⟩ := l
  obtain ⟨b', qs', f', pending'⟩ := l'
  cases hb
  cases hp
  cases hf
  cases h with
  | blank htrim => exact .blank (l := ⟨_, _, _, _⟩) (ht.trans htrim)
  | mark htrim hf => exact .mark (l := ⟨_, _, _, _⟩) (ht.trans htrim) hf
  | name c cs htrim hc hf => exact .name (l := ⟨_, _, _, _⟩) c cs (ht.trans htrim) hc hf

-- ============================================================ one level

/-- What closes a level: its own closer, at a place where a type may
end. -/
def Closes (l : Level) (b : Bracket) (ps : List Piece) : Prop :=
  l.bracket = some b ∧ ∃ m, Settles l l.segment m
    ∧ (m.filled = true ∨ m.pieces = [] ∧ b = .round) ∧ ps = m.pieces.reverse

/-- A bracket closes with the pieces inside of it. -/
theorem close_ok_iff {b : Bracket} {p : Nat} : l.close b p = .ok ps ↔ Closes l b ps := by
  unfold Level.close Closes
  by_cases hb : l.bracket = some b
  case neg => simp only [ne_eq, hb, not_false_eq_true, if_true, false_and, reduceCtorEq]
  case pos =>
    rw [if_neg (not_not_intro hb), bind_ok_iff]
    simp only [hb, true_and, ← settle_ok_iff]
    refine exists_congr fun m => and_congr_right fun _ => ?_
    have hif : (!m.filled && (!m.pieces.isEmpty || decide (b ≠ .round))) = true
        ↔ ¬(m.filled = true ∨ m.pieces = [] ∧ b = .round) := by
      cases m.filled <;> cases m.pieces <;> cases b <;> simp
    constructor
    · intro h
      split at h
      next => cases h
      next hn =>
        cases h
        exact ⟨Classical.not_not.1 (mt hif.2 hn), rfl⟩
    · rintro ⟨hm, rfl⟩
      rw [if_neg (mt hif.1 (not_not_intro hm))]
      rfl

/-- A comma settles what is pending, and needs a type in front of it. -/
private theorem divide_ok_iff {p : Nat} :
    l.divide p = .ok n ↔
      ∃ m, Settles l l.segment m ∧ m.filled = true ∧ n = { m with filled := false } := by
  unfold Level.divide
  rw [bind_ok_iff]
  simp only [← settle_ok_iff]
  refine exists_congr fun m => and_congr_right fun _ => ?_
  cases hf : m.filled with
  | false => simp
  | true =>
      simp only [if_true, true_and]
      exact ⟨fun h => (Except.ok.inj h).symm, fun h => congrArg Except.ok h.symm⟩

/-- The level with an arrow behind its pieces. -/
def Level.point (l : Level) : Level :=
  { l with pieces := .arrow :: l.pieces, filled := false, pending := [] }

/-- An arrow settles what is pending in front of its dash. -/
private theorem putArrow_ok_iff :
    l.putArrow = .ok n ↔ ∃ m, Settles l l.pending.tail.reverse m ∧ n = m.point := by
  unfold Level.putArrow
  rw [bind_ok_iff]
  simp only [← settle_ok_iff]
  refine exists_congr fun m => and_congr_right fun _ => ?_
  exact ⟨fun h => (Except.ok.inj h).symm, fun h => congrArg Except.ok h.symm⟩

/-- A type is let in where none has been finished. -/
theorem admit_ok_iff : l.admit = .ok () ↔ l.filled = false := by
  unfold Level.admit
  cases l.filled <;> simp

/-- At the end no bracket is open, and a type is finished unless there is
none at all. -/
theorem finish_ok_iff :
    l.finish = .ok ps ↔
      l.bracket = none ∧ ∃ m, Settles l l.segment m
        ∧ (m.pieces = [] ∨ m.filled = true) ∧ ps = m.pieces.reverse := by
  unfold Level.finish
  cases hb : l.bracket with
  | some b => simp
  | none =>
      simp only [true_and, ← settle_ok_iff]
      rw [bind_ok_iff]
      refine exists_congr fun m => and_congr_right fun _ => ?_
      have hif : (!m.pieces.isEmpty && !m.filled) = true
          ↔ ¬(m.pieces = [] ∨ m.filled = true) := by
        cases m.filled <;> cases m.pieces <;> simp
      constructor
      · intro h
        split at h
        next => cases h
        next hn =>
          cases h
          exact ⟨Classical.not_not.1 (mt hif.2 hn), rfl⟩
      · rintro ⟨hm, rfl⟩
        rw [if_neg (mt hif.1 (not_not_intro hm))]
        rfl

/-- The level with one more character that no delimiter is. -/
def Level.hold (l : Level) (c : Char) : Level := { l with pending := c :: l.pending }

-- ======================================================== one character

/-- The characters that end the text of a name. -/
def delimiters : List Char := ['<', '>', '(', ')', ',']

/-- What a character can do to a level and the ones around it. -/
inductive Moves (l : Level) : List Level → Char → Progress → Prop
  | opens {ls : List Level} {d : Char} (b : Bracket) (hc : d = b.opener)
      (hf : l.filled = false) : Moves l ls d (.inside (.start (some b)) (l :: ls))
  | divides {ls : List Level} {d : Char} (k : Level) (hc : d = ',')
      (hs : Settles l l.segment k) (hf : k.filled = true) :
      Moves l ls d (.inside { k with filled := false } ls)
  | points {ls : List Level} {d : Char} (k : Level) (hc : d = '>')
      (ha : l.arrowDue = true) (hs : Settles l l.pending.tail.reverse k) :
      Moves l ls d (.inside k.point ls)
  | closes {outer : Level} {ls : List Level} {d : Char} (b : Bracket) (qs : List Piece)
      (hc : d = b.closer) (ha : ¬(b = .angle ∧ l.arrowDue = true)) (h : Closes l b qs) :
      Moves l (outer :: ls) d (.inside (outer.enclose qs) ls)
  | ends {d : Char} (b : Bracket) (qs : List Piece) (hc : d = b.closer)
      (ha : ¬(b = .angle ∧ l.arrowDue = true)) (h : Closes l b qs) :
      Moves l [] d (.done qs)
  | holds {ls : List Level} {d : Char} (hc : d ∉ delimiters) :
      Moves l ls d (.inside (l.hold d) ls)

/-- Only two characters open a bracket. -/
theorem opened?_eq_none_iff : opened? c = none ↔ c ≠ '<' ∧ c ≠ '(' := by
  unfold opened?
  by_cases h : c = '<' <;> by_cases h' : c = '(' <;> simp [h, h']

/-- Only two characters close one. -/
theorem closed?_eq_none_iff : closed? c = none ↔ c ≠ '>' ∧ c ≠ ')' := by
  unfold closed?
  by_cases h : c = '>' <;> by_cases h' : c = ')' <;> simp [h, h']

/-- A step finds no fault exactly in the listed ways, at any position. -/
theorem step_ok_iff {p : Nat} {x : Progress} :
    step l around p c = .ok x ↔ Moves l around c x := by
  constructor
  · intro h
    unfold step at h
    split at h
    next b hb =>
      obtain ⟨u, hadmit, h⟩ := bind_ok_iff.1 h
      cases h
      exact .opens b (opened?_eq_some_iff.1 hb) (admit_ok_iff.1 hadmit)
    next hopen =>
      split at h
      next hc =>
        obtain ⟨k, hdiv, h⟩ := bind_ok_iff.1 h
        obtain ⟨m, hs, hf, rfl⟩ := divide_ok_iff.1 hdiv
        cases h
        exact .divides m hc hs hf
      next hcomma =>
        split at h
        next b hb =>
          have hc := closed?_eq_some_iff.1 hb
          split at h
          next ha =>
            obtain ⟨k, hput, h⟩ := bind_ok_iff.1 h
            obtain ⟨m, hs, rfl⟩ := putArrow_ok_iff.1 hput
            cases h
            rw [ha.1] at hc
            exact .points m hc ha.2 hs
          next ha =>
            obtain ⟨qs, hclose, h⟩ := bind_ok_iff.1 h
            cases around with
            | nil =>
                cases h
                exact .ends b qs hc ha (close_ok_iff.1 hclose)
            | cons outer ls =>
                cases h
                exact .closes b qs hc ha (close_ok_iff.1 hclose)
        next hclosed =>
          cases h
          have ho := opened?_eq_none_iff.1 hopen
          have hcl := closed?_eq_none_iff.1 hclosed
          refine .holds ?_
          simp [delimiters, ho, hcl, hcomma]
  · intro h
    unfold step
    cases h with
    | opens b hc hf =>
        rw [opened?_eq_some_iff.2 hc]
        exact bind_ok_iff.2 ⟨(), admit_ok_iff.2 hf, rfl⟩
    | divides k hc hs hf =>
        subst hc
        exact bind_ok_iff.2 ⟨_, divide_ok_iff.2 ⟨k, hs, hf, rfl⟩, rfl⟩
    | points k hc ha hs =>
        subst hc
        show (if Bracket.angle = .angle ∧ l.arrowDue = true then _ else _) = _
        rw [if_pos ⟨rfl, ha⟩]
        exact bind_ok_iff.2 ⟨_, putArrow_ok_iff.2 ⟨k, hs, rfl⟩, rfl⟩
    | closes b qs hc ha hcl =>
        have hopen : opened? c = none := by cases b <;> subst hc <;> rfl
        have hcomma : c ≠ ',' := by cases b <;> subst hc <;> decide
        rw [hopen, closed?_eq_some_iff.2 hc]
        simp only [if_neg hcomma, if_neg ha]
        exact bind_ok_iff.2 ⟨qs, close_ok_iff.2 hcl, rfl⟩
    | ends b qs hc ha hcl =>
        have hopen : opened? c = none := by cases b <;> subst hc <;> rfl
        have hcomma : c ≠ ',' := by cases b <;> subst hc <;> decide
        rw [hopen, closed?_eq_some_iff.2 hc]
        simp only [if_neg hcomma, if_neg ha]
        exact bind_ok_iff.2 ⟨qs, close_ok_iff.2 hcl, rfl⟩
    | holds hc =>
        simp only [delimiters, List.mem_cons, List.not_mem_nil, or_false, not_or] at hc
        rw [opened?_eq_none_iff.2 ⟨hc.1, hc.2.2.1⟩]
        simp only [if_neg hc.2.2.2.2]
        rw [closed?_eq_none_iff.2 ⟨hc.2.1, hc.2.2.2.1⟩]
        rfl

end TestDraft.Signature
