/-
What a bracket is read into depends on the text up to its closer only.

A scan keeps the levels that wait in a stack. Put otherwise, the level
inside a bracket is read by itself, and then the level around it goes on
behind the closer (`scan_over`): the levels of a scan could as well read
each other by recursion. `turn` is one turn of that recursion, which is
either one character or one whole bracket, and `readFrom_eq_turn` says that
turn after turn reads what the scan reads. Every turn goes on behind the
place where it began.

So the text of a bracket is put together turn by turn, by induction on
its length (`fills_of_scan`): nested brackets up to the first closer
that is due. Nothing behind that closer is looked at, and nothing in
front of the bracket.
-/
import TestDraft.Proofs.Signature.Brackets

namespace TestDraft.Signature

variable {l m outer : Level} {around waiting below : List Level} {c : Char}
  {prev : Option Char} {b : Bracket} {s rest : List Char} {ps : List Piece} {p : Nat}

-- ============================================================ levels below

/-- What a step comes to with further levels below: where the step is
past the lowest level on top, the next one below takes its pieces in. -/
def Progress.over (outer : Level) (below : List Level) : Progress → Progress
  | .inside m waiting => .inside m (waiting ++ outer :: below)
  | .done ps => .inside (outer.enclose ps) below

/-- A step looks no further out than the levels that are open. -/
private theorem step_over (l : Level) (around : List Level) (outer : Level) (below : List Level)
    (p : Nat) (c : Char) :
    step l (around ++ outer :: below) p c
      = (step l around p c).map (Progress.over outer below) := by
  unfold step
  split
  case h_1 b hb => cases l.admit <;> rfl
  case h_2 hopen =>
    by_cases hc : c = ','
    · rw [if_pos hc, if_pos hc]
      cases l.divide p <;> rfl
    · rw [if_neg hc, if_neg hc]
      split
      case h_1 b hb =>
        by_cases ha : b = .angle ∧ l.arrowDue = true
        · rw [if_pos ha, if_pos ha]
          cases l.putArrow <;> rfl
        · rw [if_neg ha, if_neg ha]
          cases l.close b p with
          | error e => rfl
          | ok ps => cases around <;> rfl
      case h_2 => rfl

/-- Levels that all have a bracket. -/
def Enclosed (ls : List Level) : Prop := ∀ k ∈ ls, k.bracket ≠ none

theorem Enclosed.congr (h : Enclosed (l :: around)) (hb : m.bracket = l.bracket) :
    Enclosed (m :: around) := by
  intro k hk
  rcases List.mem_cons.1 hk with rfl | hk
  · rw [hb]
    exact h l List.mem_cons_self
  · exact h k (List.mem_cons_of_mem l hk)

/-- Closing a level leaves the others enclosed. -/
theorem Enclosed.tail (h : Enclosed (l :: around)) : Enclosed around :=
  fun k hk => h k (List.mem_cons_of_mem l hk)

/-- A step opens levels with brackets only. -/
theorem Enclosed.moves (h : Enclosed (l :: around)) (hm : Moves l around c (.inside m waiting)) :
    Enclosed (m :: waiting) := by
  cases hm with
  | opens b =>
      intro k hk
      rcases List.mem_cons.1 hk with rfl | hk
      · exact Option.some_ne_none b
      · exact h k hk
  | divides k hc hs => exact h.congr hs.bracket
  | points k hc ha hs => exact h.congr hs.bracket
  | closes b qs => exact h.tail.congr rfl
  | holds => exact h.congr rfl

/-- A level with a bracket cannot be finished at the end of the text. -/
theorem Enclosed.finish (h : Enclosed (l :: around)) : ∃ e, l.finish = .error e := by
  cases hb : l.bracket with
  | none => exact absurd hb (h l List.mem_cons_self)
  | some b =>
      refine ⟨.missingCloser b, ?_⟩
      unfold Level.finish
      rw [hb]

/-- What a scan leaves is the end of what it was given. -/
private theorem suffix_of_scan {r : List Piece × List Char} (h : scan l around p s = .ok r) :
    r.2 <:+ s := by
  induction s generalizing l around p with
  | nil =>
      obtain ⟨ps, -, hr⟩ := bind_ok_iff.1 h
      cases hr
      exact List.suffix_rfl
  | cons c cs ih =>
      obtain ⟨x, -, h⟩ := bind_ok_iff.1 h
      cases x with
      | inside m waiting => exact (ih h).trans (List.suffix_cons c cs)
      | done ps =>
          cases h
          exact List.suffix_cons c cs

/-- Levels on top of another one are read first; then that one goes on
where they have been closed. -/
theorem scan_over (h : Enclosed (l :: around)) (outer : Level) (below : List Level) (p : Nat)
    (s : List Char) :
    scan l (around ++ outer :: below) p s
      = scan l around p s >>= fun r =>
          scan (outer.enclose r.1) below (p + (s.length - r.2.length)) r.2 := by
  induction s generalizing l around p with
  | nil =>
      obtain ⟨e, he⟩ := h.finish
      rw [scan, scan, he]
      rfl
  | cons c cs ih =>
      rw [scan, scan, step_over]
      cases hstep : step l around p c with
      | error e => rfl
      | ok x =>
          cases x with
          | done ps =>
              show scan (outer.enclose ps) below (p + 1) cs
                = scan (outer.enclose ps) below (p + (cs.length + 1 - cs.length)) cs
              rw [Nat.add_sub_cancel_left]
          | inside m waiting =>
              show scan m (waiting ++ outer :: below) (p + 1) cs
                = scan m waiting (p + 1) cs >>= fun r =>
                    scan (outer.enclose r.1) below (p + (cs.length + 1 - r.2.length)) r.2
              rw [ih (h.moves (step_ok_iff.1 hstep))]
              cases hscan : scan m waiting (p + 1) cs with
              | error e => rfl
              | ok r =>
                  have hle : r.2.length ≤ cs.length := (suffix_of_scan hscan).length_le
                  have hposition : p + 1 + (cs.length - r.2.length)
                      = p + (cs.length + 1 - r.2.length) := by omega
                  show scan (outer.enclose r.1) below (p + 1 + (cs.length - r.2.length)) r.2 = _
                  rw [hposition]
                  rfl

/-- A bracket is read by itself, and then the level around it goes on
behind the closer. -/
private theorem scan_opener (h : opened? c = some b) (l : Level) (p : Nat) (s : List Char) :
    scan l [] p (c :: s) = l.admit >>= fun _ => scan (.start (some b)) [] (p + 1) s >>= fun r =>
      scan (l.enclose r.1) [] (p + 1 + (s.length - r.2.length)) r.2 := by
  have henclosed : Enclosed [.start (some b)] := by
    intro k hk
    obtain rfl := List.mem_singleton.1 hk
    exact Option.some_ne_none b
  have hover := scan_over henclosed l [] (p + 1) s
  have hstep : step l [] p c = l.admit >>= fun _ => .ok (.inside (.start (some b)) [l]) := by
    unfold step
    rw [h]
    rfl
  rw [scan, hstep]
  cases l.admit with
  | error e => rfl
  | ok u => exact hover

-- ============================================================ turn by turn

/-- Reads on in a level from a position: its pieces, and the position
behind its closer. -/
def readFrom (source : List Char) (l : Level) (p : Nat) : Except Fault (List Piece × Nat) := do
  let (pieces, rest) ← scan l [] p (source.drop p)
  return (pieces, source.length - rest.length)

/-- Reads what stands in a bracket, from the position behind its opener. -/
def readInside (source : List Char) (b : Bracket) (p : Nat) : Except Fault (List Piece × Nat) :=
  readFrom source (.start (some b)) p

/-- Where one turn of reading a level leaves off. -/
inductive Turn where
  | goesOn (level : Level) (position : Nat)
  | returns (pieces : List Piece) (position : Nat)

/-- One turn of reading a level: a whole bracket where one is opened, and
one character elsewhere. -/
def turn (source : List Char) (l : Level) (p : Nat) : Except Fault Turn :=
  match source[p]? with
  | none => do return .returns (← l.finish) p
  | some c =>
    match opened? c with
    | some b => do
      l.admit
      let (inner, q) ← readInside source b (p + 1)
      return .goesOn (l.enclose inner) q
    | none => do
      match ← step l [] p c with
      | .inside m _ => return .goesOn m (p + 1)
      | .done pieces => return .returns pieces (p + 1)

variable {source : List Char} {q : Nat}

/-- Reading from a place is scanning what stands behind it. -/
private theorem readFrom_ok_iff :
    readFrom source l p = .ok (ps, q)
      ↔ scan l [] p (source.drop p) = .ok (ps, source.drop q) ∧ q ≤ source.length := by
  unfold readFrom
  rw [bind_ok_iff]
  constructor
  · rintro ⟨⟨ps', rest⟩, hscan, hr⟩
    cases hr
    have hrest : rest <:+ source := (suffix_of_scan hscan).trans (List.drop_suffix p source)
    refine ⟨?_, Nat.sub_le ..⟩
    rw [hscan, ← List.suffix_iff_eq_drop.1 hrest]
  · rintro ⟨hscan, hq⟩
    refine ⟨_, hscan, ?_⟩
    show Except.ok (ps, source.length - (source.drop q).length) = Except.ok (ps, q)
    rw [List.length_drop, Nat.sub_sub_self hq]

/-- Only an opener leaves the level. -/
private theorem Moves.waiting_eq_nil (h : Moves l [] c (.inside m waiting))
    (hc : opened? c = none) :
    waiting = [] := by
  cases h with
  | opens b hb =>
      rw [opened?_eq_some_iff.2 hb] at hc
      cases hc
  | divides => rfl
  | points => rfl
  | holds => rfl

private theorem drop_eq_cons (h : source[p]? = some c) :
    p < source.length ∧ source.drop p = c :: source.drop (p + 1) := by
  obtain ⟨hlt, hget⟩ := List.getElem?_eq_some_iff.1 h
  rw [List.drop_eq_getElem_cons hlt, hget]
  exact ⟨hlt, rfl⟩

/-- At the end of the text, a level is finished. -/
private theorem readFrom_length (source : List Char) (l : Level) :
    readFrom source l source.length = l.finish >>= fun ps => .ok (ps, source.length) := by
  unfold readFrom
  rw [List.drop_length, scan]
  cases l.finish <;> rfl

/-- At an opener, the bracket is read by itself. -/
private theorem readFrom_opener (hc : source[p]? = some c) (hb : opened? c = some b) (l : Level) :
    readFrom source l p = l.admit >>= fun _ => readInside source b (p + 1) >>= fun r =>
      readFrom source (l.enclose r.1) r.2 := by
  obtain ⟨hlt, hdrop⟩ := drop_eq_cons hc
  unfold readInside readFrom
  rw [hdrop, scan_opener hb]
  cases l.admit with
  | error e => rfl
  | ok u =>
      cases hscan : scan (.start (some b)) [] (p + 1) (source.drop (p + 1)) with
      | error e => rfl
      | ok r =>
          have hsuffix : r.2 <:+ source.drop (p + 1) := suffix_of_scan hscan
          have hle : r.2.length ≤ source.length - (p + 1) := by
            rw [← List.length_drop]
            exact hsuffix.length_le
          -- what is left stands where the level goes on
          have hleft : source.drop (source.length - r.2.length) = r.2 :=
            (List.suffix_iff_eq_drop.1 (hsuffix.trans (List.drop_suffix (p + 1) source))).symm
          have hposition : p + 1 + ((source.drop (p + 1)).length - r.2.length)
              = source.length - r.2.length := by
            rw [List.length_drop]
            omega
          show scan (l.enclose r.1) [] (p + 1 + ((source.drop (p + 1)).length - r.2.length)) r.2
              >>= _
            = scan (l.enclose r.1) [] (source.length - r.2.length)
              (source.drop (source.length - r.2.length)) >>= _
          rw [hposition, hleft]

/-- Elsewhere, one character is read. -/
private theorem readFrom_char (hc : source[p]? = some c) (hopen : opened? c = none) (l : Level) :
    readFrom source l p = step l [] p c >>= fun
      | .inside m _ => readFrom source m (p + 1)
      | .done ps => .ok (ps, p + 1) := by
  obtain ⟨hlt, hdrop⟩ := drop_eq_cons hc
  unfold readFrom
  rw [hdrop, scan]
  cases hstep : step l [] p c with
  | error e => rfl
  | ok x =>
      cases x with
      | inside m waiting =>
          have hnil := (step_ok_iff.1 hstep).waiting_eq_nil hopen
          subst hnil
          rfl
      | done ps =>
          show Except.ok (ps, source.length - (source.drop (p + 1)).length)
            = Except.ok (ps, p + 1)
          rw [List.length_drop, Nat.sub_sub_self hlt]

/-- Turn after turn reads what the scan reads. -/
theorem readFrom_eq_turn (source : List Char) (l : Level) (hp : p ≤ source.length) :
    readFrom source l p = turn source l p >>= fun
      | .goesOn m q => readFrom source m q
      | .returns ps q => .ok (ps, q) := by
  unfold turn
  cases hc : source[p]? with
  | none =>
      obtain rfl : p = source.length := Nat.le_antisymm hp (List.getElem?_eq_none_iff.1 hc)
      rw [readFrom_length]
      cases l.finish <;> rfl
  | some c =>
      simp only
      split
      case h_1 b hb =>
        rw [readFrom_opener hc hb]
        cases l.admit with
        | error e => rfl
        | ok u => cases readInside source b (p + 1) <;> rfl
      case h_2 hopen =>
        rw [readFrom_char hc hopen]
        cases step l [] p c with
        | error e => rfl
        | ok x => cases x <;> rfl

/-- A bracket is read forward and inside the source. -/
private theorem lt_of_readInside (hp : p ≤ source.length)
    (h : readInside source b p = .ok (ps, q)) :
    p ≤ q ∧ q ≤ source.length := by
  obtain ⟨hscan, hq⟩ := readFrom_ok_iff.1 h
  have hle : (source.drop q).length ≤ (source.drop p).length := (suffix_of_scan hscan).length_le
  rw [List.length_drop, List.length_drop] at hle
  exact ⟨by omega, hq⟩

/-- Every turn goes on behind the place where it began. -/
private theorem lt_of_turn (h : turn source l p = .ok (.goesOn m q)) :
    p < q ∧ q ≤ source.length := by
  unfold turn at h
  cases hc : source[p]? with
  | none =>
      rw [hc] at h
      obtain ⟨ps, -, h⟩ := bind_ok_iff.1 h
      cases h
  | some c =>
      obtain ⟨hlt, -⟩ := List.getElem?_eq_some_iff.1 hc
      rw [hc] at h
      simp only at h
      split at h
      case h_1 b hb =>
        obtain ⟨-, -, h⟩ := bind_ok_iff.1 h
        obtain ⟨⟨inner, stop⟩, hinside, h⟩ := bind_ok_iff.1 h
        cases h
        exact lt_of_readInside hlt hinside
      case h_2 hopen =>
        obtain ⟨x, -, h⟩ := bind_ok_iff.1 h
        cases x with
        | done ps => cases h
        | inside k waiting =>
            cases h
            exact ⟨Nat.lt_succ_self p, hlt⟩

-- =============================================================== extents

/-- A text that fills a level up to its closer, wherever it stands and
whatever follows. -/
structure Fills (l : Level) (prev : Option Char) (b : Bracket) (content : List Char)
    (ps : List Piece) : Prop where
  nested : Nested (marksAfter prev content)
  head : ¬(b = .angle ∧ content.getLast?.or prev = some '-')
  reads : ∀ p rest, scan l [] p (content ++ b.closer :: rest) = .ok (ps, rest)

variable {content inner : List Char} {qs : List Piece} {b' : Bracket}

/-- A level is closed by the closer of its bracket. -/
private theorem Moves.eq_closer (h : Moves l [] c (.done ps)) (hb : l.bracket = some b) :
    c = b.closer := by
  cases h with
  | ends b' qs hc ha hcloses =>
      have hsame := hcloses.1
      rw [hb] at hsame
      cases hsame
      exact hc

/-- A character that leaves the level as the only one is no bracket. -/
private theorem Moves.stays (h : Moves l [] c (.inside m []))
    (hprev : l.arrowDue = (prev == some '-')) :
    m.bracket = l.bracket ∧ mark? prev c = none := by
  cases h with
  | divides k hc hs =>
      subst hc
      exact ⟨hs.bracket, rfl⟩
  | points k hc ha hs =>
      subst hc
      have hdash : prev = some '-' := by
        rw [ha] at hprev
        exact beq_iff_eq.1 hprev.symm
      subst hdash
      exact ⟨hs.bracket, rfl⟩
  | holds hc => exact ⟨rfl, mark?_plain prev hc⟩

private theorem fills_nil (hm : Moves l [] b.closer (.done ps))
    (hprev : l.arrowDue = (prev == some '-')) : Fills l prev b [] ps := by
  refine ⟨.nil, ?_, fun p rest => ?_⟩
  · rintro ⟨rfl, hdash⟩
    have hdue : l.arrowDue = true := by
      rw [hprev]
      exact beq_iff_eq.2 hdash
    cases hm with
    | ends b' qs hc ha =>
        cases b' with
        | angle => exact ha ⟨rfl, hdue⟩
        | round => cases hc
  · rw [List.nil_append, scan, step_ok_iff.2 hm]
    rfl

/-- A character that is no bracket, in front of a text that fills the
level after it. -/
private theorem Fills.char (h : Fills m (some c) b content ps) (hm : Moves l [] c (.inside m []))
    (hmark : mark? prev c = none) : Fills l prev b (c :: content) ps := by
  refine ⟨?_, ?_, fun p rest => ?_⟩
  · rw [marksAfter, hmark]
    exact h.nested
  · rw [getLast?_cons_or]
    exact h.head
  · rw [List.cons_append, scan, step_ok_iff.2 hm]
    exact h.reads (p + 1) rest

/-- A bracket in front of a text that fills the level around it. -/
theorem Fills.bracket (hinner : Fills (.start (some b')) none b' inner qs)
    (h : Fills (l.enclose qs) (some b'.closer) b content ps) (hf : l.filled = false)
    (prev : Option Char) :
    Fills l prev b (b'.opener :: (inner ++ b'.closer :: content)) ps := by
  have hhead : b' = .angle → inner.getLast? ≠ some '-' := by
    intro hb hdash
    refine hinner.head ⟨hb, ?_⟩
    rw [hdash]
    rfl
  have hcloser : some b'.closer ≠ some '-' := by cases b' <;> decide
  have hbracketed : Bracketed (b'.opener :: (inner ++ b'.closer :: content)) [] b' inner content :=
    ⟨rfl, hinner.nested, hhead⟩
  refine ⟨?_, ?_, fun p rest => ?_⟩
  · have hmarks : marksAfter prev (b'.opener :: (inner ++ b'.closer :: content))
        = .opener b' :: marks inner ++ .closer b' :: marks content := by
      rw [marksAfter_opener, ← marksAfter_opener none]
      exact hbracketed.marks_eq
    have hcontent : Nested (marks content) := by
      rw [← marksAfter_eq_marks hcloser]
      exact h.nested
    rw [hmarks]
    exact .group b' hinner.nested hcontent
  · have hlast : (inner ++ b'.closer :: content).getLast?.or (some b'.opener)
        = content.getLast?.or (some b'.closer) := by
      rw [List.getLast?_append, List.getLast?_cons]
      cases content.getLast? <;> rfl
    rw [getLast?_cons_or, hlast]
    exact h.head
  · rw [List.cons_append, List.append_assoc, List.cons_append,
      scan_opener (opened?_eq_some_iff.2 rfl)]
    refine bind_ok_iff.2 ⟨(), admit_ok_iff.2 hf, ?_⟩
    refine bind_ok_iff.2 ⟨_, hinner.reads (p + 1) _, ?_⟩
    exact h.reads _ rest

/-- What a level has been read from is a text that fills it, with its
closer. -/
theorem fills_of_scan (hb : l.bracket = some b) (hprev : l.arrowDue = (prev == some '-'))
    (h : scan l [] p s = .ok (ps, rest)) :
    ∃ content, s = content ++ b.closer :: rest ∧ Fills l prev b content ps := by
  induction hN : s.length using Nat.strongRecOn generalizing l prev b s p ps rest with
  | ind N ih =>
      subst hN
      cases s with
      | nil =>
          obtain ⟨qs, hfinish, -⟩ := bind_ok_iff.1 h
          obtain ⟨hnone, -⟩ := finish_ok_iff.1 hfinish
          rw [hb] at hnone
          cases hnone
      | cons c cs =>
          cases hopen : opened? c with
          | some b' =>
              rw [scan_opener hopen] at h
              obtain ⟨u, hadmit, h⟩ := bind_ok_iff.1 h
              obtain ⟨⟨qs, left⟩, hinside, h⟩ := bind_ok_iff.1 h
              obtain ⟨inner, rfl, hinner⟩ := ih cs.length (by simp) rfl rfl hinside rfl
              have hlt : left.length < (c :: (inner ++ b'.closer :: left)).length := by
                simp only [List.length_cons, List.length_append]
                omega
              have hdue : (l.enclose qs).arrowDue = (some b'.closer == some '-') := by
                cases b' <;> rfl
              obtain ⟨content, rfl, hcontent⟩ :=
                ih left.length hlt (l := l.enclose qs) hb hdue h rfl
              refine ⟨c :: (inner ++ b'.closer :: content), by simp, ?_⟩
              rw [opened?_eq_some_iff.1 hopen]
              exact hinner.bracket hcontent (admit_ok_iff.1 hadmit) prev
          | none =>
              obtain ⟨x, hstep, h⟩ := bind_ok_iff.1 h
              have hm := step_ok_iff.1 hstep
              cases x with
              | done qs =>
                  cases h
                  obtain rfl := hm.eq_closer hb
                  exact ⟨[], rfl, fills_nil hm hprev⟩
              | inside m waiting =>
                  have hnil := hm.waiting_eq_nil hopen
                  subst hnil
                  obtain ⟨hbracket, hmark⟩ := hm.stays hprev
                  obtain ⟨content, rfl, hcontent⟩ :=
                    ih cs.length (by simp) (hbracket.trans hb) hm.arrowDue h rfl
                  exact ⟨c :: content, rfl, hcontent.char hm hmark⟩

/-- Angle brackets with nothing in them are not read. -/
theorem Fills.ne_nil (h : Fills (.start (some .angle)) none .angle content ps) : content ≠ [] := by
  rintro rfl
  have hread := h.reads 0 []
  cases hread

-- ============================================================= positions

variable {start stop : Nat} {before after : List Char}

private theorem take_between (before content rest : List Char) :
    (before ++ (content ++ rest)).take (before.length + content.length) = before ++ content := by
  rw [← List.append_assoc, ← List.length_append, List.take_left]

private theorem drop_between (before content after : List Char) (c : Char) :
    (before ++ (content ++ c :: after)).drop (before.length + content.length + 1) = after := by
  rw [← List.append_assoc, ← List.length_append, ← List.drop_drop, List.drop_left]
  rfl

/-- A bracket is read exactly where a text that fills it stands, with its
closer behind it. -/
private theorem readInside_ok_iff :
    readInside source b start = .ok (ps, stop) ↔
      ∃ before content after, source = before ++ (content ++ b.closer :: after)
        ∧ start = before.length ∧ stop = before.length + content.length + 1
        ∧ Fills (.start (some b)) none b content ps := by
  unfold readInside
  rw [readFrom_ok_iff]
  constructor
  · rintro ⟨hscan, hstop⟩
    have hb : (Level.start (some b)).bracket = some b := rfl
    have hdue : (Level.start (some b)).arrowDue = ((none : Option Char) == some '-') := rfl
    obtain ⟨content, hdrop, hfills⟩ := fills_of_scan hb hdue hscan
    have hlength := congrArg List.length hdrop
    simp only [List.length_drop, List.length_append, List.length_cons] at hlength
    have hstart : (source.take start).length = start := List.length_take_of_le (by omega)
    refine ⟨source.take start, content, source.drop stop, ?_, hstart.symm, ?_, hfills⟩
    · rw [← hdrop, List.take_append_drop]
    · rw [hstart]
      omega
  · rintro ⟨before, content, after, rfl, rfl, rfl, hfills⟩
    rw [List.drop_left, drop_between]
    refine ⟨hfills.reads before.length after, ?_⟩
    simp only [List.length_append, List.length_cons]
    omega

/-- The stretch of a text between two positions. -/
def stretch (source : List Char) (start stop : Nat) : List Char := (source.take stop).drop start

/-- What is read inside a bracket is read of the text up to its closer:
the closer stands right in front of `stop`, it is no head of an arrow, and
it matches the opener in front of `start`. Wherever the same text stands
again, it is read into the same pieces. -/
structure ReadsOwnText (source : List Char) (b : Bracket) (start : Nat) (ps : List Piece)
    (stop : Nat) : Prop where
  forward : start < stop
  within : stop ≤ source.length
  closer : source[stop - 1]? = some b.closer
  head : b = .angle → (source.take (stop - 1)).getLast? ≠ some '-'
  nested : Nested (marks (stretch source start (stop - 1)))
  matched : ∀ before, source.take start = before ++ [b.opener] →
    Bracketed source before b (stretch source start (stop - 1)) (source.drop stop)
  elsewhere : ∀ other offset,
    (other.drop offset).take (stop - start) = (source.drop start).take (stop - start) →
      readInside other b offset = .ok (ps, offset + (stop - start))

/-- What a bracket reads is decided by its own text. -/
private theorem readsOwnText (h : readInside source b start = .ok (ps, stop)) :
    ReadsOwnText source b start ps stop := by
  obtain ⟨before, content, after, rfl, rfl, rfl, hfills⟩ := readInside_ok_iff.1 h
  have hhead : b = .angle → content.getLast? ≠ some '-' := by
    intro hangle hdash
    refine hfills.head ⟨hangle, ?_⟩
    rw [hdash]
    rfl
  have hstretch : stretch (before ++ (content ++ b.closer :: after)) before.length
      (before.length + content.length) = content := by
    unfold stretch
    rw [take_between, List.drop_left]
  refine ⟨by omega, ?within, ?closer, ?head, ?nested, ?matched, ?elsewhere⟩
  case within =>
    simp only [List.length_append, List.length_cons]
    omega
  case closer =>
    rw [Nat.add_sub_cancel, List.getElem?_append_right (Nat.le_add_right ..),
      Nat.add_sub_cancel_left, List.getElem?_append_right (Nat.le_refl _), Nat.sub_self]
    rfl
  case head =>
    intro hangle
    subst hangle
    rw [Nat.add_sub_cancel, take_between, List.getLast?_append_of_ne_nil _ hfills.ne_nil]
    exact hhead rfl
  case nested =>
    rw [Nat.add_sub_cancel, hstretch]
    exact hfills.nested
  case matched =>
    intro before' hbefore
    rw [List.take_left] at hbefore
    rw [Nat.add_sub_cancel, hstretch, drop_between]
    refine ⟨?_, hfills.nested, hhead⟩
    rw [hbefore, List.append_assoc, List.singleton_append]
  case elsewhere =>
    intro other offset hsame
    have hlength : before.length + content.length + 1 - before.length
        = (content ++ [b.closer]).length := by
      rw [List.length_append, List.length_singleton]
      omega
    have hown : content ++ [b.closer] <+: content ++ b.closer :: after := ⟨after, by simp⟩
    rw [List.drop_left, hlength, ← List.prefix_iff_eq_take.1 hown] at hsame
    obtain ⟨rest, hrest⟩ := List.prefix_iff_eq_take.2 hsame.symm
    have hstands : other.drop offset = content ++ b.closer :: rest := by
      rw [← hrest, List.append_assoc, List.singleton_append]
    have hfits := congrArg List.length hstands
    simp only [List.length_drop, List.length_append, List.length_cons] at hfits
    have hoffset : (other.take offset).length = offset := List.length_take_of_le (by omega)
    refine readInside_ok_iff.2 ⟨other.take offset, content, rest, ?_, hoffset.symm, ?_, hfills⟩
    · rw [← hstands, List.take_append_drop]
    · omega

-- =========================================================== termination

/-- What is read next, given a level and a position: the level that a
turn goes on with, or the one that it begins to read. -/
inductive Next (source : List Char) : Level × Nat → Level × Nat → Prop
  | turn {l m : Level} {p q : Nat} (h : turn source l p = .ok (.goesOn m q)) :
      Next source (l, p) (m, q)
  | bracket {l : Level} {p : Nat} {b : Bracket} (h : source[p]? = some b.opener) :
      Next source (l, p) (.start (some b), p + 1)

/-- Every position read after another lies further on. -/
private theorem Next.lt {x y : Level × Nat} (h : Next source x y) :
    x.2 < y.2 ∧ y.2 ≤ source.length := by
  cases h with
  | turn h => exact lt_of_turn h
  | bracket h =>
      obtain ⟨hlt, -⟩ := List.getElem?_eq_some_iff.1 h
      exact ⟨Nat.lt_succ_self _, hlt⟩

/-- Reading comes to an end: positions only grow, up to the end of the
text. -/
private theorem wellFounded_next (source : List Char) :
    WellFounded (fun y x => Next source x y) := by
  apply Subrelation.wf (r := InvImage (· < ·) fun x : Level × Nat => source.length - x.2)
  · intro y x h
    obtain ⟨hlt, hle⟩ := h.lt
    show source.length - y.2 < source.length - x.2
    omega
  · exact InvImage.wf _ Nat.lt_wfRel.wf

/-- A signature is read from the level that has no bracket. -/
private theorem readChars_eq_readFrom (source : List Char) :
    readChars source = readFrom source (.start none) 0 >>= fun r => rootType r.1 >>= fun t =>
      if t.name = "" then .error .unparsable else .ok t := by
  unfold readChars readFrom
  rw [List.drop_zero]
  cases scan (.start none) [] 0 source with
  | error e => rfl
  | ok r => rfl

/-- What stands in a bracket is read of its own text: up to the closer
that matches it and no further, and alike wherever that text stands. A
signature is read turn by turn, a turn being one character or one bracket
that is read by itself, and every turn leads on. -/
theorem bracket_reads_own_text (source : List Char) :
    (∀ b start ps stop, readInside source b start = .ok (ps, stop) →
      ReadsOwnText source b start ps stop)
    ∧ (readChars source = readFrom source (.start none) 0 >>= fun r => rootType r.1 >>= fun t =>
      if t.name = "" then .error .unparsable else .ok t)
    ∧ (∀ l p, p ≤ source.length → readFrom source l p = turn source l p >>= fun
      | .goesOn m q => readFrom source m q
      | .returns ps q => .ok (ps, q))
    ∧ (∀ x y, Next source x y → x.2 < y.2 ∧ y.2 ≤ source.length)
    ∧ WellFounded (fun y x => Next source x y) := by
  refine ⟨?extent, readChars_eq_readFrom source, ?turns, ?forward, wellFounded_next source⟩
  case extent =>
    intro b start ps stop h
    exact readsOwnText h
  case turns =>
    intro l p hp
    exact readFrom_eq_turn source l hp
  case forward =>
    intro x y h
    exact h.lt

/-- An arrow in a bracket, and the same bracket behind another arrow. -/
theorem bracket_reads_own_text_arrow :
    readInside ['A', '<', '(', 'B', ')', '-', '>', 'C', '>', '?'] .angle 2
        = .ok ([.item [] [.item ['B'] []], .arrow, .item ['C'] []], 9)
      ∧ ReadsOwnText ['A', '<', '(', 'B', ')', '-', '>', 'C', '>', '?'] .angle 2
        [.item [] [.item ['B'] []], .arrow, .item ['C'] []] 9
      ∧ readInside ['-', '>', 'D', '<', '(', 'B', ')', '-', '>', 'C', '>'] .angle 4
        = .ok ([.item [] [.item ['B'] []], .arrow, .item ['C'] []], 11) := by
  have hread : readInside ['A', '<', '(', 'B', ')', '-', '>', 'C', '>', '?'] .angle 2
      = .ok ([.item [] [.item ['B'] []], .arrow, .item ['C'] []], 9) := rfl
  have hown := (bracket_reads_own_text _).1 _ _ _ _ hread
  exact ⟨hread, hown, hown.elsewhere _ 4 rfl⟩

end TestDraft.Signature
