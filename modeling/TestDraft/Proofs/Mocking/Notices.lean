/-
What a notice leaves behind. Facts only accumulate: a notice holds once
it is taken, and no later notice takes it back. A framework's needs are
read off the facts, so what holds is all that the needs of a test class
have to be argued from.
-/
import TestDraft.Mocking.Facts

namespace TestDraft

-- ================================================ what a notice leaves

/-- That the facts say what a notice says. -/
def Notice.Holds (k : Facts) : Notice → Prop
  | .constructorMocks => k.constructorMocks = true
  | .functionMocks => k.functionMocks = true
  | .resultMocks => k.resultMocks = true
  | .abstractSubject c =>
    k.abstractSubject = true ∧ (c.params ≠ [] → k.abstractArguments = true)
  | .parameterized => k.parameterized = true

namespace Facts

/-- What is noted holds. -/
private theorem holds_note (k : Facts) (n : Notice) : n.Holds (k.note n) := by
  cases n with
  | abstractSubject c =>
      refine ⟨rfl, fun hparams => ?_⟩
      simp [note, hparams]
  | _ => rfl

/-- Another notice takes nothing back. -/
private theorem holds_note_of_holds {k : Facts} {n : Notice} (h : n.Holds k) (m : Notice) :
    n.Holds (k.note m) := by
  cases n with
  | abstractSubject c =>
      obtain ⟨hsubject, harguments⟩ := h
      cases m with
      | abstractSubject d =>
          refine ⟨rfl, fun hparams => ?_⟩
          simp [note, harguments hparams]
      | _ => exact ⟨hsubject, harguments⟩
  | _ => cases m <;> first | rfl | exact h

/-- Later notices take nothing back. -/
private theorem holds_noteAll_of_holds {k : Facts} {n : Notice} (h : n.Holds k) (ms : List Notice) :
    n.Holds (k.noteAll ms) := by
  induction ms generalizing k with
  | nil => exact h
  | cons m ms ih => exact ih (holds_note_of_holds h m)

/-- All that is noticed holds in the end. -/
theorem holds_noteAll (k : Facts) {n : Notice} {ns : List Notice} (h : n ∈ ns) :
    n.Holds (k.noteAll ns) := by
  induction ns generalizing k with
  | nil => cases h
  | cons m ns ih =>
      rcases List.mem_cons.1 h with rfl | h
      · exact holds_noteAll_of_holds (holds_note k n) ns
      · exact ih (k.note m) h

/-- What is noticed about the fields is all that makes mocked fields a
fact. -/
theorem constructorMocks_noteAll (k : Facts) (ns : List Notice) :
    (k.noteAll ns).constructorMocks = true
      ↔ k.constructorMocks = true ∨ .constructorMocks ∈ ns := by
  induction ns generalizing k with
  | nil => simp [noteAll]
  | cons n ns ih =>
      have hnote : (k.note n).constructorMocks = true
          ↔ k.constructorMocks = true ∨ .constructorMocks = n := by
        cases n <;> simp [note]
      show ((k.note n).noteAll ns).constructorMocks = true ↔ _
      rw [ih (k.note n), hnote, List.mem_cons, or_assoc]

-- ============================================================= more facts

/-- That whatever one says, the other says too. -/
structure Within (k k' : Facts) : Prop where
  constructorMocks : k.constructorMocks = true → k'.constructorMocks = true
  functionMocks : k.functionMocks = true → k'.functionMocks = true
  resultMocks : k.resultMocks = true → k'.resultMocks = true
  abstractSubject : k.abstractSubject = true → k'.abstractSubject = true
  abstractArguments : k.abstractArguments = true → k'.abstractArguments = true
  parameterized : k.parameterized = true → k'.parameterized = true

variable {k k' : Facts}

/-- Nothing is noticed at the start. -/
theorem within_of_start (k : Facts) : Within {} k := ⟨nofun, nofun, nofun, nofun, nofun, nofun⟩

theorem Within.note (h : Within k k') (n : Notice) : Within (k.note n) (k'.note n) := by
  cases n with
  | constructorMocks => exact { h with constructorMocks := id }
  | functionMocks => exact { h with functionMocks := id }
  | resultMocks => exact { h with resultMocks := id }
  | abstractSubject c =>
      refine { h with abstractSubject := id, abstractArguments := fun ha => ?_ }
      rcases Bool.or_eq_true_iff.1 ha with ha | ha
      · exact Bool.or_eq_true_iff.2 (.inl (h.abstractArguments ha))
      · exact Bool.or_eq_true_iff.2 (.inr ha)
  | parameterized => exact { h with parameterized := id }

/-- More facts stay more facts under the same notices. -/
theorem Within.noteAll (h : Within k k') (ns : List Notice) :
    Within (k.noteAll ns) (k'.noteAll ns) := by
  induction ns generalizing k k' with
  | nil => exact h
  | cons n ns ih => exact ih (h.note n)

/-- More facts bring more needs. -/
theorem Within.needs {f : Framework} {x : Symbol} (h : Within k k')
    (hx : k.needs f x = true) : k'.needs f x = true := by
  cases f with
  | mockito =>
      cases x with
      | runWith | mockitoJUnitRunner | mockField => exact h.constructorMocks hx
      | mockCall =>
          simp only [Facts.needs, Bool.or_eq_true] at hx ⊢
          exact hx.imp (Or.imp h.functionMocks h.resultMocks) h.abstractSubject
      | mockitoClass => exact h.abstractSubject hx
      | useConstructor => exact h.abstractArguments hx
      | rule | methodRule | mockitoJUnit =>
          simp only [Facts.needs, Bool.and_eq_true] at hx ⊢
          exact hx.imp h.constructorMocks h.parameterized
      | _ => cases hx
  | mockk =>
      cases x with
      | mockkInit | mockkField => exact h.constructorMocks hx
      | mockkCall =>
          simp only [Facts.needs, Bool.or_eq_true] at hx ⊢
          exact hx.imp h.functionMocks h.resultMocks
      | _ => cases hx

-- ============================================================== needs

/-- A framework's vocabulary holds whatever the facts may ask for. -/
theorem mem_required_iff {k : Facts} {f : Framework} {x : Symbol} :
    x ∈ k.required f ↔ k.needs f x = true := by
  constructor
  · exact fun h => (List.mem_filter.1 h).2
  · intro h
    have hvocabulary : x ∈ f.vocabulary := by
      cases f <;> cases x <;> first | decide | cases h
    exact List.mem_filter.2 ⟨hvocabulary, h⟩

end Facts

end TestDraft
