/-
Texts that are read character by character: where they lead, and what
stays the same when they are read elsewhere.

`Leads` is the chain of `Moves` over a text. A signature is read from a
level without a bracket; nothing can close that level, so it stays at
the bottom of the stack (`Rooted`) and the scan ends with the text only
(`leads_of_scan`). `readChars_ok_iff` puts this together: a signature is
accepted exactly when it leads to one level whose pieces make up a type.

A relation between levels that no operation on them breaks (`Kept`) is
kept by every text (`Kept.leads`). The second run may have further
levels below: what is read of a level depends on nothing under it.
-/
import Mathlib.Data.List.Forall2
import TestDraft.Proofs.Signature.Steps

namespace TestDraft.Signature

open Text

variable {l m n : Level} {around waiting rest : List Level} {c : Char}
  {s t : List Char} {ps : List Piece}

-- ================================================================ texts

/-- Where a text leads that is read without a fault and without closing
the lowest level. -/
inductive Leads : Level → List Level → List Char → Level → List Level → Prop
  | nil (l : Level) (ls : List Level) : Leads l ls [] l ls
  | cons {l k m : Level} {ls ks ms : List Level} {d : Char} {ds : List Char}
      (first : Moves l ls d (.inside k ks)) (others : Leads k ks ds m ms) :
      Leads l ls (d :: ds) m ms

/-- Scans compose. -/
theorem Leads.append (h : Leads l around s m waiting) (h' : Leads m waiting t n rest) :
    Leads l around (s ++ t) n rest := by
  induction h with
  | nil => exact h'
  | cons first _ ih => exact .cons first (ih h')

theorem Leads.single (h : Moves l around c (.inside m waiting)) :
    Leads l around [c] m waiting :=
  .cons h (.nil m waiting)

/-- A text in two parts is read by reading one after the other. -/
theorem Leads.split (h : Leads l around (s ++ t) n rest) :
    ∃ m waiting, Leads l around s m waiting ∧ Leads m waiting t n rest := by
  induction s generalizing l around with
  | nil => exact ⟨l, around, .nil l around, h⟩
  | cons c cs ih =>
      cases h with
      | cons first others =>
          obtain ⟨m, waiting, hcs, ht⟩ := ih others
          exact ⟨m, waiting, .cons first hcs, ht⟩

/-- A text leads to one place only. -/
theorem Leads.unique {m' : Level} {waiting' : List Level} (h : Leads l around s m waiting)
    (h' : Leads l around s m' waiting') : m' = m ∧ waiting' = waiting := by
  induction h with
  | nil =>
      cases h'
      exact ⟨rfl, rfl⟩
  | cons first _ ih =>
      cases h' with
      | cons first' others =>
          have hsame := (step_ok_iff (p := 0)).2 first
          rw [(step_ok_iff (p := 0)).2 first'] at hsame
          cases hsame
          exact ih others

/-- What a level holds of the text since its last delimiter ends in the
character just read, unless that is a delimiter. -/
theorem Moves.latest (h : Moves l around c (.inside m waiting)) :
    m.pending.head? = if c ∈ delimiters then none else some c := by
  cases h with
  | opens b hc => cases b <;> subst hc <;> rfl
  | divides k hc hs =>
      subst hc
      rw [if_pos (by decide)]
      show k.pending.head? = none
      rw [hs.pending]
      rfl
  | points k hc => subst hc; rfl
  | closes b qs hc => cases b <;> subst hc <;> rfl
  | holds hc => rw [if_neg hc]; rfl

/-- The last character pending is the last one read, unless it is a
delimiter. -/
theorem Leads.latest (h : Leads l around (s ++ [c]) m waiting) :
    m.pending.head? = if c ∈ delimiters then none else some c := by
  obtain ⟨k, ks, -, hc⟩ := h.split
  cases hc with
  | cons first others =>
      cases others
      exact first.latest

/-- Where an arrow is due, the text so far ends in its shaft. -/
theorem Leads.arrowDue (h : Leads l around s m waiting) (hl : l.pending = [])
    (ha : m.arrowDue = true) : s.getLast? = some '-' := by
  have hhead : m.pending.head? = some '-' := by simpa [Level.arrowDue] using ha
  rcases List.eq_nil_or_concat s with rfl | ⟨s, c, rfl⟩
  · cases h
    rw [hl] at hhead
    cases hhead
  · rw [List.concat_eq_append] at h ⊢
    rw [h.latest] at hhead
    split at hhead
    next => cases hhead
    next => rw [List.getLast?_concat, hhead]

/-- A text without delimiters is held as it stands. -/
theorem leads_plain (h : ∀ c ∈ s, c ∉ delimiters) :
    Leads l around s { l with pending := s.reverse ++ l.pending } around := by
  induction s generalizing l with
  | nil => exact .nil l around
  | cons c cs ih =>
      have hrest := ih (l := l.hold c) fun d hd => h d (List.mem_cons_of_mem c hd)
      rw [List.reverse_cons, List.append_assoc]
      exact .cons (.holds (h c (List.mem_cons_self ..))) hrest

/-- A scan over text without delimiters keeps all of it pending. -/
theorem leads_start (h : ∀ c ∈ s, c ∉ delimiters) :
    Leads (.start none) [] s ⟨none, [], false, s.reverse⟩ [] := by
  have hplain : Leads (.start none) [] s { Level.start none with pending := s.reverse ++ [] }
      [] := leads_plain h
  rwa [List.append_nil] at hplain

/-- An arrow settles the text before it. -/
theorem leads_arrow_iff :
    Leads l around ('-' :: '>' :: s) m waiting ↔
      ∃ k, Settles l l.segment k ∧ Leads k.point around s m waiting := by
  constructor
  · intro h
    cases h with
    | cons first others =>
        cases first with
        | opens b hc => cases b <;> cases hc
        | divides n hc => cases hc
        | points n hc => cases hc
        | closes b ps hc => cases b <;> cases hc
        | holds hc =>
            cases others with
            | cons second others =>
                cases second with
                | opens b hc => cases b <;> cases hc
                | divides n hc => cases hc
                | points n hc ha hs => exact ⟨n, hs.congr rfl rfl rfl rfl, others⟩
                | closes b ps hc ha =>
                    cases b with
                    | angle => exact absurd ⟨rfl, rfl⟩ ha
                    | round => cases hc
                | holds hc => exact absurd (by decide) hc
  · rintro ⟨k, hs, hl⟩
    have hshaft : Moves l around '-' (.inside (l.hold '-') around) := .holds (by decide)
    have hhead : Moves (l.hold '-') around '>' (.inside k.point around) :=
      .points k rfl rfl (hs.congr rfl rfl rfl rfl)
    exact .cons hshaft (.cons hhead hl)

/-- A scan goes on from where a text leads. -/
theorem scan_eq_of_leads (h : Leads l around s m waiting) (p : Nat) :
    scan l around p (s ++ t) = scan m waiting (p + s.length) t := by
  induction h generalizing p with
  | nil => rfl
  | @cons l k m ls ks ms d ds first _ ih =>
      have hstep : step l ls p d = .ok (.inside k ks) := step_ok_iff.2 first
      rw [List.cons_append, scan, hstep]
      show scan k ks (p + 1) (ds ++ t) = _
      rw [ih, List.length_cons, Nat.add_assoc, Nat.add_comm 1]

-- ========================================================== the lowest level

/-- The lowest of some levels has no bracket, and all others have one. -/
def Rooted (l : Level) : List Level → Prop
  | [] => l.bracket = none
  | m :: ms => l.bracket ≠ none ∧ Rooted m ms

theorem Rooted.congr (h : Rooted l around) (hb : m.bracket = l.bracket) :
    Rooted m around := by
  cases around with
  | nil => exact hb.trans h
  | cons k ks => exact ⟨hb ▸ h.1, h.2⟩

/-- A level without a bracket has no level around it. -/
theorem Rooted.around_eq_nil (h : Rooted l around) (hb : l.bracket = none) :
    around = [] := by
  cases around with
  | nil => rfl
  | cons k ks => exact absurd hb h.1

/-- A step never leaves the lowest level, and keeps it at the bottom. -/
theorem Rooted.moves (h : Rooted l around) {x : Progress} (hx : Moves l around c x) :
    ∃ m waiting, x = .inside m waiting ∧ Rooted m waiting := by
  cases hx with
  | opens b => exact ⟨_, _, rfl, nofun, h⟩
  | divides k hc hs hf => exact ⟨_, _, rfl, h.congr hs.bracket⟩
  | points k hc ha hs => exact ⟨_, _, rfl, h.congr hs.bracket⟩
  | closes b qs hc ha hcl => exact ⟨_, _, rfl, h.2.congr rfl⟩
  | ends b qs hc ha hcl =>
      have hb := hcl.1
      rw [show l.bracket = none from h] at hb
      cases hb
  | holds hc => exact ⟨_, _, rfl, h.congr rfl⟩

theorem Rooted.leads (hr : Rooted l around) (h : Leads l around s m waiting) :
    Rooted m waiting := by
  induction h with
  | nil => exact hr
  | cons first _ ih =>
      obtain ⟨k, ks, hx, hk⟩ := hr.moves first
      cases hx
      exact ih hk

/-- The scan of a text in two parts gets through the first part. -/
theorem leads_of_scan {p : Nat} {r : List Piece × List Char} (hr : Rooted l around)
    (h : scan l around p (s ++ t) = .ok r) :
    ∃ m waiting, Leads l around s m waiting
      ∧ scan m waiting (p + s.length) t = .ok r := by
  induction s generalizing l around p with
  | nil => exact ⟨l, around, .nil l around, h⟩
  | cons c cs ih =>
      rw [List.cons_append, scan] at h
      obtain ⟨x, hx, h⟩ := bind_ok_iff.1 h
      have hmoves := step_ok_iff.1 hx
      obtain ⟨k, ks, rfl, hk⟩ := hr.moves hmoves
      obtain ⟨m, waiting, hleads, hscan⟩ := ih hk h
      refine ⟨m, waiting, .cons hmoves hleads, ?_⟩
      rw [List.length_cons, Nat.add_comm cs.length, ← Nat.add_assoc]
      exact hscan

/-- What is accepted as a signature: a text that leads to the lowest
level alone, which then holds the pieces of one type. -/
theorem readChars_ok_iff {e : TypeExpr} :
    readChars s = .ok e ↔
      ∃ g k, Leads (.start none) [] s g [] ∧ Settles g g.segment k ∧ k.filled = true
        ∧ rootType k.pieces.reverse = .ok e ∧ e.name ≠ "" := by
  unfold readChars
  constructor
  · intro h
    obtain ⟨⟨ps, left⟩, hscan, htype⟩ := bind_ok_iff.1 h
    obtain ⟨e', hroot, hname⟩ := bind_ok_iff.1 htype
    rw [← List.append_nil s] at hscan
    have hrooted : Rooted (.start none) [] := rfl
    obtain ⟨g, waiting, hleads, hfinish⟩ := leads_of_scan hrooted hscan
    rw [scan] at hfinish
    obtain ⟨qs, hqs, hpair⟩ := bind_ok_iff.1 hfinish
    cases hpair
    obtain ⟨hb, k, hs, hk, rfl⟩ := finish_ok_iff.1 hqs
    have hnil : waiting = [] := (hrooted.leads hleads).around_eq_nil hb
    subst hnil
    split at hname
    next => cases hname
    next hne =>
      cases hname
      refine ⟨g, k, hleads, hs, ?_, hroot, hne⟩
      rcases hk with hk | hk
      · rw [hk] at hroot
        cases hroot
      · exact hk
  · rintro ⟨g, k, hleads, hs, hk, hroot, hname⟩
    have hrooted : Rooted (.start none) [] := rfl
    have hb : g.bracket = none := hrooted.leads hleads
    have hscan : scan (.start none) [] 0 s = .ok (k.pieces.reverse, []) := by
      have hgo := scan_eq_of_leads (t := []) hleads 0
      rw [List.append_nil] at hgo
      rw [hgo, scan]
      exact bind_ok_iff.2 ⟨_, finish_ok_iff.2 ⟨hb, k, hs, .inr hk, rfl⟩, rfl⟩
    refine bind_ok_iff.2 ⟨_, hscan, bind_ok_iff.2 ⟨e, hroot, ?_⟩⟩
    rw [if_neg hname]
    rfl

/-- A string is read as its characters are. -/
theorem read_ok_iff {s : String} {e : TypeExpr} :
    read s = .ok e ↔ readChars s.toList = .ok e := by
  unfold read
  cases readChars s.toList with
  | error f => simp [Except.mapError]
  | ok e' => simp [Except.mapError]

-- ============================================================ simulation

/-- A pair of relations between levels that no operation of a step
breaks: `R` between the levels that are read in, `W` between levels that
wait for a bracket to close. -/
structure Kept (R W : Level → Level → Prop) : Prop where
  start (b : Bracket) : R (.start (some b)) (.start (some b))
  waits {l m : Level} (h : R l m) : W l m
  filled {l m : Level} (h : R l m) : m.filled = l.filled
  arrowDue {l m : Level} (h : R l m) : m.arrowDue = l.arrowDue
  -- a level that will be closed holds the same pieces in both runs
  bracket {l m : Level} {b : Bracket} (h : R l m) (hb : l.bracket = some b) :
    m.bracket = some b ∧ m.pieces = l.pieces
  settle {l m k : Level} (h : R l m) (hs : Settles l l.segment k) :
    ∃ k', Settles m m.segment k' ∧ R k k'
  shaft {l m k : Level} (h : R l m) (ha : l.arrowDue = true)
    (hs : Settles l l.pending.tail.reverse k) :
    ∃ k', Settles m m.pending.tail.reverse k' ∧ R k k'
  unfill {l m : Level} (h : R l m) : R { l with filled := false } { m with filled := false }
  point {l m : Level} (h : R l m) : R l.point m.point
  enclose {l m : Level} (qs : List Piece) (h : W l m) : R (l.enclose qs) (m.enclose qs)
  hold {l m : Level} (c : Char) (h : R l m) : R (l.hold c) (m.hold c)

variable {R W : Level → Level → Prop}

/-- Related levels are closed alike. -/
theorem Kept.closes (k : Kept R W) {b : Bracket} (h : R l m) (hc : Closes l b ps) :
    Closes m b ps := by
  obtain ⟨hb, n, hs, hn, rfl⟩ := hc
  obtain ⟨n', hs', hr⟩ := k.settle h hs
  obtain ⟨-, hpieces⟩ := k.bracket hr (hs.bracket.trans hb)
  refine ⟨(k.bracket h hb).1, n', hs', ?_, by rw [hpieces]⟩
  rw [k.filled hr, hpieces]
  exact hn

/-- One step of the first run is one step of the second, which may have
further levels below. -/
theorem Kept.moves (k : Kept R W) (below : List Level) {around' : List Level} {l' : Level}
    (h : R l m) (hw : List.Forall₂ W around waiting)
    (hm : Moves l around c (.inside l' around')) :
    ∃ m' waiting', Moves m (waiting ++ below) c (.inside m' (waiting' ++ below))
      ∧ R l' m' ∧ List.Forall₂ W around' waiting' := by
  cases hm with
  | opens b hc hf =>
      refine ⟨_, m :: waiting, .opens b hc ?_, k.start b, .cons (k.waits h) hw⟩
      rw [k.filled h, hf]
  | divides n hc hset hf =>
      obtain ⟨n', hset', hr⟩ := k.settle h hset
      refine ⟨_, waiting, .divides n' hc hset' ?_, k.unfill hr, hw⟩
      rw [k.filled hr, hf]
  | points n hc ha hset =>
      obtain ⟨n', hset', hr⟩ := k.shaft h ha hset
      refine ⟨_, waiting, .points n' hc ?_ hset', k.point hr, hw⟩
      rw [k.arrowDue h, ha]
  | closes b qs hc ha hcl =>
      cases hw with
      | @cons outer outer' ls ls' hout hw =>
          refine ⟨_, ls', .closes b qs hc ?_ (k.closes h hcl), k.enclose qs hout, hw⟩
          rw [k.arrowDue h]
          exact ha
  | holds hc => exact ⟨_, waiting, .holds hc, k.hold c h, hw⟩

/-- Where a text leads in the first run, it leads in the second. -/
theorem Kept.leads (k : Kept R W) (below : List Level) (h : R l m)
    (hw : List.Forall₂ W around waiting) {l' : Level} {around' : List Level}
    (hl : Leads l around s l' around') :
    ∃ m' waiting', Leads m (waiting ++ below) s m' (waiting' ++ below)
      ∧ R l' m' ∧ List.Forall₂ W around' waiting' := by
  induction hl generalizing m waiting with
  | nil => exact ⟨m, waiting, .nil m _, h, hw⟩
  | cons first _ ih =>
      obtain ⟨n, ws, hmoves, hr, hws⟩ := k.moves below h hw first
      obtain ⟨m', ws', hleads, hr', hws'⟩ := ih hr hws
      exact ⟨m', ws', .cons hmoves hleads, hr', hws'⟩

end TestDraft.Signature
