/-
Where a rejected signature goes wrong.

Three kinds of faults have a place: a closer that is not due, a comma or
closer where a piece is due, and a closer that never comes. The first two
are found in a step, with nothing behind their position looked at, so the
fault stays whatever follows (`readChars_of_step`). The levels at that
moment tell about the text so far: their brackets are the ones that it
leaves open (`Leads.innermost`), and a level without a piece since its last
delimiter stands behind a comma, an opener or an arrow (`Gap.leads`).
-/
import TestDraft.Proofs.Signature.Brackets
import TestDraft.Proofs.Signature.Forms

namespace TestDraft.Signature

open Text

variable {l m k : Level} {around waiting : List Level} {c : Char} {b : Bracket}
  {s t seg before after : List Char} {ps : List Piece} {p : Nat} {e : Fault}

-- ================================================================== texts

/-- The innermost bracket that a text leaves open, if it leaves one open;
every closer in the text is due. -/
def Innermost (text : List Char) (o : Option Bracket) : Prop :=
  ∃ opens, stillOpen [] (marks text) = some opens ∧ opens.head? = o

/-- Text with an innermost open bracket closed every bracket by its own
closer. -/
private theorem Innermost.not_misclosed {o : Option Bracket} (h : Innermost s o) :
    ¬Misclosed (marks s) := by
  obtain ⟨opens, hopens, -⟩ := h
  rw [Misclosed, ← stillOpen_eq_none_iff, hopens]
  exact Option.some_ne_none opens

/-- A text that is empty, or ends in a comma, an opener or the head of an
arrow. -/
def EndsOpen (text : List Char) : Prop :=
  text = [] ∨ ∃ front c, text = front ++ [c]
    ∧ (c = ',' ∨ (∃ b : Bracket, c = b.opener) ∨ c = '>' ∧ front.getLast? = some '-')

/-- Such a text ends in no blank. -/
theorem EndsOpen.trimEnd (h : EndsOpen t) : trimEnd t = t := by
  rcases h with rfl | ⟨front, c, rfl, hc⟩
  · rfl
  · have hdelimiter : c ∈ delimiters := by
      rcases hc with rfl | ⟨b, rfl⟩ | ⟨rfl, -⟩
      · decide
      · cases b <;> decide
      · decide
    refine trimEnd_eq_self fun d hd => ?_
    rw [List.getLast?_concat] at hd
    cases hd
    exact isBlank_delimiter hdelimiter

-- ================================================================= levels

/-- The innermost level has the innermost bracket that is open. -/
theorem Leads.innermost (h : Leads (.start none) [] s m waiting) : Innermost s m.bracket := by
  have hrooted : Rooted (.start none) [] := rfl
  refine ⟨openBrackets (m :: waiting), h.stillOpen rfl, ?_⟩
  cases hb : m.bracket with
  | none =>
      rw [(hrooted.leads h).around_eq_nil hb]
      simp only [openBrackets, List.filterMap_cons, hb, List.filterMap_nil, List.head?_nil]
  | some b => simp only [openBrackets, List.filterMap_cons, hb, List.head?_cons]

/-- Behind a shaft, an arrow is due. -/
private theorem Leads.arrowDue_of_getLast? (h : Leads l around s m waiting)
    (hs : s.getLast? = some '-') : m.arrowDue = true := by
  obtain ⟨front, rfl⟩ := List.getLast?_eq_some_iff.1 hs
  unfold Level.arrowDue
  rw [h.latest]
  rfl

/-- What a level has read since its last delimiter, and where it stands
if that makes no piece. -/
def Gap (l : Level) (text : List Char) : Prop :=
  ∃ front, text = front ++ l.segment ∧ (l.filled = false → EndsOpen front)

/-- A gap moves on with the scan. -/
theorem Gap.moves (h : Gap l s) (hm : Moves l around c (.inside m waiting)) :
    Gap m (s ++ [c]) := by
  obtain ⟨front, rfl, hopen⟩ := h
  cases hm with
  | opens b hc =>
      refine ⟨_, (List.append_nil _).symm, fun _ => .inr ⟨_, c, rfl, .inr (.inl ⟨b, hc⟩)⟩⟩
  | divides k hc hs =>
      have hsegment : Level.segment { k with filled := false } = [] := by
        unfold Level.segment
        rw [hs.pending, List.reverse_nil]
      refine ⟨front ++ l.segment ++ [c], ?_, fun _ => .inr ⟨_, c, rfl, .inl hc⟩⟩
      rw [hsegment, List.append_nil]
  | points k hc ha =>
      have hdash : (front ++ l.segment).getLast? = some '-' := by
        have hhead : l.pending.head? = some '-' := by simpa [Level.arrowDue] using ha
        unfold Level.segment
        rw [List.getLast?_append, List.getLast?_reverse, hhead]
        rfl
      exact ⟨_, (List.append_nil _).symm, fun _ => .inr ⟨_, c, rfl, .inr (.inr ⟨hc, hdash⟩)⟩⟩
  | closes b qs =>
      refine ⟨_, (List.append_nil _).symm, ?_⟩
      intro hf
      cases hf
  | holds hc =>
      refine ⟨front, ?_, hopen⟩
      unfold Level.hold Level.segment
      rw [List.reverse_cons, List.append_assoc]

/-- A gap moves on over a whole text. -/
theorem Gap.leads (h : Gap l s) (hl : Leads l around t m waiting) : Gap m (s ++ t) := by
  induction hl generalizing s with
  | nil => rwa [List.append_nil]
  | cons first _ ih =>
      have hrest := ih (h.moves first)
      rwa [List.append_assoc] at hrest

/-- A level that has settled and still lacks a piece has read blanks
since its last delimiter. -/
theorem Settles.blanks (h : Settles l seg m) (hm : m.filled = false) :
    AllBlank seg ∧ l.filled = false := by
  cases h with
  | blank hblank => exact ⟨trim_eq_nil_iff.1 hblank, hm⟩
  | mark hmark hf =>
      have hunfilled : l.filled = false := hm
      rw [hf] at hunfilled
      cases hunfilled
  | name => cases hm

/-- Where a level lacks a piece, a piece is due in the text. -/
private theorem Leads.endsOpen (h : Leads (.start none) [] s m waiting) (hs : Settles m m.segment k)
    (hk : k.filled = false) : EndsOpen (trimEnd s) := by
  have hstart : Gap (.start none) [] := ⟨[], rfl, fun _ => .inl rfl⟩
  obtain ⟨front, rfl, hopen⟩ := hstart.leads h
  obtain ⟨hblank, hf⟩ := hs.blanks hk
  rw [trimEnd_append_blanks hblank, (hopen hf).trimEnd]
  exact hopen hf

-- ================================================================= faults

/-- A sequence fails where its first part does, or where the second does
after it. -/
private theorem bind_error_iff {ε α β : Type} {x : Except ε α} {f : α → Except ε β} {e : ε} :
    (x >>= f) = .error e ↔ x = .error e ∨ ∃ a, x = .ok a ∧ f a = .error e := by
  cases x with
  | error e' =>
      constructor
      · intro h
        cases h
        exact .inl rfl
      · rintro (h | ⟨a, h, -⟩)
        · cases h
          rfl
        · cases h
  | ok a =>
      constructor
      · intro h
        exact .inr ⟨a, rfl, h⟩
      · rintro (h | ⟨a', h, h'⟩)
        · cases h
        · cases h
          exact h'

/-- Whether a fault has a place in the text. -/
def Fault.isLocated : Fault → Bool
  | emptyArgument _ | unexpected _ _ | missingCloser _ => true
  | _ => false

/-- What is wrong with a name is not said to be at a place. -/
private theorem isLocated_settle (h : l.settle seg = .error e) : e.isLocated = false := by
  unfold Level.settle at h
  split at h
  case h_1 => cases h
  case h_2 =>
    split at h
    case isTrue => cases h
    case isFalse =>
      cases h
      rfl
  case h_3 =>
    split at h
    case isTrue =>
      cases h
      rfl
    case isFalse =>
      split at h
      case isTrue =>
        cases h
        rfl
      case isFalse => cases h

/-- A fault with a place is found behind the settling of a level, if the
level settles first. -/
private theorem error_behind_settle {α : Type} {f : Level → Except Fault α}
    (h : (l.settle seg >>= f) = .error e) (he : e.isLocated = true) :
    ∃ k, Settles l seg k ∧ f k = .error e := by
  rcases bind_error_iff.1 h with h | ⟨k, hs, h⟩
  · rw [isLocated_settle h] at he
    cases he
  · exact ⟨k, settle_ok_iff.1 hs, h⟩

private theorem isLocated_item {n : List Char} {inner : List Piece}
    (hinner : ∀ e, group inner = .error e → e.isLocated = false)
    (h : (Piece.item n inner).toType = .error e) : e.isLocated = false := by
  cases inner with
  | nil =>
      rw [Piece.toType] at h
      cases h
  | cons q qs =>
      rw [Piece.toType] at h
      rcases bind_error_iff.1 h with h | ⟨args, -, h⟩
      · exact hinner e h
      · unfold TypeExpr.applied at h
        split at h
        case isTrue =>
          cases h
          rfl
        case isFalse => cases h

/-- Pieces know no places, so grouping them finds no fault with one. -/
private theorem isLocated_group (h : group ps = .error e) : e.isLocated = false := by
  induction ps using group.induct
    (motive_1 := fun q => ∀ e, q.toType = .error e → e.isLocated = false) generalizing e with
  | case1 e h =>
      cases h
      rfl
  | case2 n e h => exact isLocated_item (by rw [group_nil]; exact nofun) h
  | case3 n q qs ih e h => exact isLocated_item (fun e => ih) h
  | case4 =>
      rw [group_nil] at h
      cases h
  | case5 q =>
      rw [group] at h
      cases h
      rfl
  | case6 q qs =>
      rw [group] at h
      cases h
      rfl
  | case7 n inner q qs hn =>
      rw [group, if_pos hn] at h
      cases h
      rfl
  | case8 n inner q qs hn ihq ihinner ihqs =>
      rw [group, if_neg hn] at h
      rcases bind_error_iff.1 h with h | ⟨r, -, h⟩
      · exact ihq e h
      rcases bind_error_iff.1 h with h | ⟨params, -, h⟩
      · exact ihinner h
      rcases bind_error_iff.1 h with h | ⟨types, -, h⟩
      · exact ihqs h
      · cases h
  | case9 q qs hlast harrows hfunction ihq ihqs =>
      rw [group] at h
      · rcases bind_error_iff.1 h with h | ⟨t, -, h⟩
        · exact ihq e h
        rcases bind_error_iff.1 h with h | ⟨types, -, h⟩
        · exact ihqs h
        · cases h
      · exact hlast
      · exact harrows
      · exact hfunction

/-- A root that is no type is not said to be at a place. -/
private theorem isLocated_rootType (h : rootType ps = .error e) : e.isLocated = false := by
  unfold rootType at h
  split at h
  case h_1 q =>
    cases q with
    | arrow =>
        cases h
        rfl
    | item n inner => exact isLocated_item (fun e => isLocated_group) h
  case h_2 q r =>
    rcases bind_error_iff.1 h with h | ⟨types, -, h⟩
    · exact isLocated_group h
    · split at h
      case h_1 => cases h
      case h_2 =>
        cases h
        rfl
  case h_3 =>
    cases h
    rfl

/-- How a step comes to a fault with a place. -/
inductive Fails (l : Level) (p : Nat) : Char → Fault → Prop
  | unexpected (b : Bracket) (ha : ¬(b = .angle ∧ l.arrowDue = true)) (hb : l.bracket ≠ some b) :
      Fails l p b.closer (.unexpected b.closer p)
  | comma (k : Level) (hs : Settles l l.segment k) (hk : k.filled = false) :
      Fails l p ',' (.emptyArgument p)
  | closer (b : Bracket) (k : Level) (hb : l.bracket = some b) (hs : Settles l l.segment k)
      (hk : k.filled = false) : Fails l p b.closer (.emptyArgument p)

/-- A divider is refused where it stands. -/
private theorem fails_of_divide (h : l.divide p = .error e) (he : e.isLocated = true) :
    Fails l p ',' e := by
  obtain ⟨k, hs, h⟩ := error_behind_settle h he
  split at h
  case isTrue => cases h
  case isFalse hk =>
    cases h
    exact .comma k hs (Bool.eq_false_iff.2 hk)

/-- A closer is refused where it stands. -/
private theorem fails_of_close (ha : ¬(b = .angle ∧ l.arrowDue = true)) (h : l.close b p = .error e)
    (he : e.isLocated = true) : Fails l p b.closer e := by
  unfold Level.close at h
  split at h
  case isTrue hb =>
    cases h
    exact .unexpected b ha hb
  case isFalse hb =>
    obtain ⟨k, hs, h⟩ := error_behind_settle h he
    split at h
    case isTrue hk =>
      cases h
      refine .closer b k (Classical.not_not.1 hb) hs ?_
      simp only [Bool.and_eq_true, Bool.not_eq_true'] at hk
      exact hk.1
    case isFalse => cases h

/-- A character is refused where it stands. -/
private theorem fails_of_step (h : step l around p c = .error e) (he : e.isLocated = true) :
    Fails l p c e := by
  unfold step at h
  split at h
  case h_1 b hb =>
    rcases bind_error_iff.1 h with h | ⟨u, -, h⟩
    · unfold Level.admit at h
      split at h
      case isTrue =>
        cases h
        cases he
      case isFalse => cases h
    · cases h
  case h_2 =>
    split at h
    case isTrue hc =>
      subst hc
      rcases bind_error_iff.1 h with h | ⟨k, -, h⟩
      · exact fails_of_divide h he
      · cases h
    case isFalse =>
      split at h
      case h_1 b hb =>
        obtain rfl := closed?_eq_some_iff.1 hb
        split at h
        case isTrue =>
          rcases bind_error_iff.1 h with h | ⟨k, -, h⟩
          · obtain ⟨k, -, h⟩ := error_behind_settle h he
            cases h
          · cases h
        case isFalse ha =>
          rcases bind_error_iff.1 h with h | ⟨qs, -, h⟩
          · exact fails_of_close ha h he
          · cases around with
            | nil => cases h
            | cons outer ls => cases h
      case h_2 => cases h

/-- A scan fails in one of its steps or at the end of the text. -/
private theorem error_of_scan (h : scan l around p s = .error e) :
    (∃ before c after m waiting, s = before ++ c :: after ∧ Leads l around before m waiting
      ∧ step m waiting (p + before.length) c = .error e)
    ∨ ∃ m waiting, Leads l around s m waiting ∧ m.finish = .error e := by
  induction s generalizing l around p with
  | nil =>
      rcases bind_error_iff.1 h with h | ⟨qs, -, h⟩
      · exact .inr ⟨l, around, .nil l around, h⟩
      · cases h
  | cons c cs ih =>
      rcases bind_error_iff.1 h with h | ⟨x, hx, h⟩
      · exact .inl ⟨[], c, cs, l, around, rfl, .nil l around, h⟩
      cases x with
      | done qs => cases h
      | inside k ks =>
          have first := step_ok_iff.1 hx
          rcases ih h with ⟨before, d, after, m, waiting, rfl, hleads, hstep⟩ |
            ⟨m, waiting, hleads, he⟩
          · refine .inl ⟨c :: before, d, after, m, waiting, rfl, .cons first hleads, ?_⟩
            rwa [List.length_cons, Nat.add_comm before.length, ← Nat.add_assoc]
          · exact .inr ⟨m, waiting, .cons first hleads, he⟩

/-- A fault with a place is one of the scan. -/
private theorem scan_of_readChars (h : readChars s = .error e) (he : e.isLocated = true) :
    scan (.start none) [] 0 s = .error e := by
  rcases bind_error_iff.1 h with h | ⟨r, -, h⟩
  · exact h
  rcases bind_error_iff.1 h with h | ⟨t, -, h⟩
  · rw [isLocated_rootType h] at he
    cases he
  · split at h
    case isTrue =>
      cases h
      cases he
    case isFalse => cases h

/-- The fault of a step stays, whatever follows. -/
theorem readChars_of_step (hleads : Leads (.start none) [] before m waiting)
    (hstep : step m waiting before.length c = .error e) (after : List Char) :
    readChars (before ++ c :: after) = .error e := by
  have hscan : scan (.start none) [] 0 (before ++ c :: after) = .error e := by
    rw [scan_eq_of_leads hleads, Nat.zero_add]
    exact bind_error_iff.2 (.inl hstep)
  exact bind_error_iff.2 (.inl hscan)

/-- Where a level is finished with a fault that has a place, its bracket
lacks its closer. -/
private theorem missingCloser_of_finish (h : l.finish = .error e) (he : e.isLocated = true) :
    ∃ b, l.bracket = some b ∧ e = .missingCloser b := by
  unfold Level.finish at h
  split at h
  case h_1 b hb =>
    cases h
    exact ⟨b, hb, rfl⟩
  case h_2 =>
    obtain ⟨k, -, h⟩ := error_behind_settle h he
    split at h
    case isTrue =>
      cases h
      cases he
    case isFalse => cases h

-- ============================================================= signatures

private theorem read_error_iff {s : String} :
    read s = .error ⟨e, s⟩ ↔ readChars s.toList = .error e := by
  unfold read
  cases readChars s.toList with
  | ok t =>
      constructor
      · intro h
        cases h
      · intro h
        cases h
  | error f =>
      constructor
      · intro h
        cases h
        rfl
      · intro h
        cases h
        rfl

/-- A fault that every text has which begins in the same way, up to and
with a position. -/
def Final (s : List Char) (p : Nat) (e : Fault) : Prop :=
  ∀ t : String, t.toList.take (p + 1) = s.take (p + 1) → read t = .error ⟨e, t⟩

/-- A refused character is refused whatever follows it. -/
private theorem final_of_step (hleads : Leads (.start none) [] before m waiting)
    (hstep : step m waiting before.length c = .error e) (after : List Char) :
    Final (before ++ c :: after) before.length e := by
  intro t ht
  have hown : before ++ [c] <+: before ++ c :: after := ⟨after, by simp⟩
  have hlength : before.length + 1 = (before ++ [c]).length := by
    rw [List.length_append, List.length_singleton]
  rw [hlength, ← List.prefix_iff_eq_take.1 hown] at ht
  obtain ⟨rest, hrest⟩ := List.prefix_iff_eq_take.2 ht.symm
  rw [read_error_iff, ← hrest, List.append_assoc]
  exact readChars_of_step hleads hstep rest

/-- A rejection with a place is due to one character, or to the end of
the text. -/
private theorem located_of_readChars (h : readChars s = .error e) (he : e.isLocated = true) :
    (∃ before c after m waiting, s = before ++ c :: after
      ∧ Leads (.start none) [] before m waiting ∧ Fails m before.length c e
      ∧ Final s before.length e)
    ∨ ∃ m waiting b, Leads (.start none) [] s m waiting ∧ m.bracket = some b
      ∧ e = .missingCloser b := by
  rcases error_of_scan (scan_of_readChars h he) with
    ⟨before, c, after, m, waiting, rfl, hleads, hstep⟩ | ⟨m, waiting, hleads, hfinish⟩
  · rw [Nat.zero_add] at hstep
    exact .inl ⟨before, c, after, m, waiting, rfl, hleads, fails_of_step hstep he,
      final_of_step hleads hstep after⟩
  · obtain ⟨b, hb, rfl⟩ := missingCloser_of_finish hfinish he
    exact .inr ⟨m, waiting, b, hleads, hb, rfl⟩

/-- The place of a fault shows what is wrong. A closer that is not due
stands there, behind a text in which every closer was due and no bracket
or one of the other kind is open; or a comma or the closer that is due
stands where a piece is due. Both are final. Where a closer is missing, it
is that of the innermost bracket which the text leaves open. -/
theorem read_points_at_fault (s : String) :
    (∀ c p, read s = .error ⟨.unexpected c p, s⟩ →
      ∃ before after b o, s.toList = before ++ c :: after ∧ before.length = p
        ∧ c = Bracket.closer b ∧ ¬(c = '>' ∧ before.getLast? = some '-')
        ∧ ¬Misclosed (marks before) ∧ Innermost before o ∧ o ≠ some b
        ∧ Final s.toList p (.unexpected c p))
    ∧ (∀ p, read s = .error ⟨.emptyArgument p, s⟩ →
      ∃ before c after, s.toList = before ++ c :: after ∧ before.length = p
        ∧ (c = ',' ∨ ∃ b, c = Bracket.closer b ∧ Innermost before (some b))
        ∧ EndsOpen (trimEnd before)
        ∧ Final s.toList p (.emptyArgument p))
    ∧ (∀ b, read s = .error ⟨.missingCloser b, s⟩ →
      ¬Misclosed (marks s.toList) ∧ Innermost s.toList (some b)) := by
  refine ⟨?unexpected, ?empty, ?missing⟩
  case unexpected =>
    intro c p h
    rcases located_of_readChars (read_error_iff.1 h) rfl with
      ⟨before, d, after, m, waiting, hs, hleads, hfails, hfinal⟩ | ⟨m, waiting, b, -, -, he⟩
    · cases hfails with
      | unexpected b ha hb =>
          refine ⟨before, after, b, m.bracket, hs, rfl, rfl, ?_, hleads.innermost.not_misclosed,
            hleads.innermost, hb, hfinal⟩
          rintro ⟨hc, hdash⟩
          refine ha ⟨?_, hleads.arrowDue_of_getLast? hdash⟩
          cases b with
          | angle => rfl
          | round => cases hc
    · cases he
  case empty =>
    intro p h
    rcases located_of_readChars (read_error_iff.1 h) rfl with
      ⟨before, d, after, m, waiting, hs, hleads, hfails, hfinal⟩ | ⟨m, waiting, b, -, -, he⟩
    · cases hfails with
      | comma k hk hf =>
          exact ⟨before, ',', after, hs, rfl, .inl rfl, hleads.endsOpen hk hf, hfinal⟩
      | closer b k hb hk hf =>
          refine ⟨before, b.closer, after, hs, rfl, .inr ⟨b, rfl, ?_⟩, hleads.endsOpen hk hf,
            hfinal⟩
          rw [← hb]
          exact hleads.innermost
    · cases he
  case missing =>
    intro b h
    rcases located_of_readChars (read_error_iff.1 h) rfl with
      ⟨before, d, after, m, waiting, hs, hleads, hfails, hfinal⟩ | ⟨m, waiting, b', hleads, hb, he⟩
    · cases hfails
    · cases he
      have hinner := hleads.innermost
      rw [hb] at hinner
      exact ⟨hinner.not_misclosed, hinner⟩

/-- A closer of the wrong kind, a comma behind an arrow, and a bracket
that stays open inside another one. -/
theorem read_points_at_fault_kinds :
    (read "A<(B>)" = .error ⟨.unexpected '>' 4, "A<(B>)"⟩
      ∧ Final "A<(B>)".toList 4 (.unexpected '>' 4))
    ∧ (read "(A) -> ,B" = .error ⟨.emptyArgument 7, "(A) -> ,B"⟩
      ∧ Final "(A) -> ,B".toList 7 (.emptyArgument 7))
    ∧ (read "A<(B" = .error ⟨.missingCloser .round, "A<(B"⟩
      ∧ Innermost "A<(B".toList (some .round)) := by
  have hkind : read "A<(B>)" = .error ⟨.unexpected '>' 4, "A<(B>)"⟩ := by decide +kernel
  have hcomma : read "(A) -> ,B" = .error ⟨.emptyArgument 7, "(A) -> ,B"⟩ := by decide +kernel
  have hopen : read "A<(B" = .error ⟨.missingCloser .round, "A<(B"⟩ := by decide +kernel
  obtain ⟨_, _, _, _, -, -, -, -, -, -, -, hkind'⟩ := (read_points_at_fault _).1 _ _ hkind
  obtain ⟨_, _, _, -, -, -, -, hcomma'⟩ := (read_points_at_fault _).2.1 _ hcomma
  exact ⟨⟨hkind, hkind'⟩, ⟨hcomma, hcomma'⟩, hopen, ((read_points_at_fault _).2.2 _ hopen).2⟩

end TestDraft.Signature
