/-
What a session keeps from step to step. Its settings never change; what
it has noticed goes back to the items added since the last reset.
-/
import Mathlib.Data.List.DropRight
import TestDraft.Proofs.Mocking.Notices
import TestDraft.Proofs.Session.Needs

namespace TestDraft

def Step.isReset : Step → Bool
  | .reset => true
  | _ => false

/-- The steps after the last reset, or all of them if there is none. -/
def sinceReset (steps : List Step) : List Step := steps.rtakeWhile (!·.isReset)

/-- A reset leaves nothing before it. -/
theorem sinceReset_reset (steps : List Step) : sinceReset (steps ++ [.reset]) = [] :=
  List.rtakeWhile_concat_neg _ _ _ (by decide)

private theorem Toolkit.constructorMocks_mem_notices {k : Toolkit} {p : Bool} {i : Item} :
    .constructorMocks ∈ k.notices p i ↔ k.mocksFields i = true := by
  have hfunctions : ∀ fs, .constructorMocks ∉ k.functionNotices p fs := by
    intro fs
    simp [functionNotices]
  cases i with
  | ofClass c => simp [notices, classNotices, mocksFields, hfunctions]
  | ofFile f n => simp [notices, mocksFields, hfunctions]

namespace Session

-- ================================================================= frame

/-- Adding an item keeps the recipe, and notices what there is to be
noticed about it. -/
theorem add_frame (s : Session) (i : Item) :
    (s.add i).1.draft.recipe = s.draft.recipe
      ∧ (s.add i).1.parameterized = s.parameterized
      ∧ (s.add i).1.draft.facts
        = s.draft.facts.noteAll (s.toolkit.notices s.parameterized i) := by
  obtain ⟨hdraft, hparameterized⟩ := gather_frame (s.notice i) i
  refine ⟨?_, hparameterized, ?_⟩
  · show ((s.notice i).gather i).1.draft.recipe = s.draft.recipe
    rw [hdraft]
    rfl
  · show ((s.notice i).gather i).1.draft.facts = _
    rw [hdraft]
    rfl

/-- A step keeps the recipe. -/
theorem step_recipe (s : Session) (x : Step) : (s.step x).1.draft.recipe = s.draft.recipe := by
  cases x with
  | add i => exact (add_frame s i).1
  | addImport n => exact congrArg Draft.recipe (addImports_frame s [n]).1
  | reset => rfl
  | read => rfl

/-- No step changes the recipe. -/
theorem run_recipe (s : Session) (steps : List Step) :
    (s.run steps).draft.recipe = s.draft.recipe := by
  induction steps generalizing s with
  | nil => rfl
  | cons x xs ih => exact (ih (s.step x).1).trans (step_recipe s x)

/-- A step keeps to rows of values, or to none. -/
theorem step_parameterized (s : Session) (x : Step) :
    (s.step x).1.parameterized = s.parameterized := by
  cases x with
  | add i => exact (add_frame s i).2.1
  | addImport n => exact (addImports_frame s [n]).2
  | reset => rfl
  | read => rfl

theorem run_parameterized (s : Session) (steps : List Step) :
    (s.run steps).parameterized = s.parameterized := by
  induction steps generalizing s with
  | nil => rfl
  | cons x xs ih => exact (ih (s.step x).1).trans (step_parameterized s x)

/-- The means to draft with stay those of the settings. -/
theorem run_toolkit (settings : Settings) (registry : Registry) (steps : List Step) :
    ((start settings registry).1.run steps).toolkit = (settings.recipe registry).toolkit :=
  congrArg Recipe.toolkit (run_recipe (start settings registry).1 steps)

/-- The framework stays the one of the settings. -/
theorem run_framework (settings : Settings) (registry : Registry) (steps : List Step) :
    ((start settings registry).1.run steps).draft.framework = settings.framework :=
  congrArg Toolkit.framework (run_toolkit settings registry steps)

-- =============================================================== history

/-- Mocked fields are a fact exactly when an item with some was added
since the last reset. -/
theorem constructorMocks_run (settings : Settings) (registry : Registry) (steps : List Step) :
    ((start settings registry).1.run steps).draft.facts.constructorMocks = true
      ↔ ∃ i, .add i ∈ sinceReset steps
        ∧ (settings.recipe registry).toolkit.mocksFields i = true := by
  induction steps using List.reverseRecOn with
  | nil => simp [sinceReset, run, start, Draft.start]
  | append_singleton steps x ih =>
      let s := (start settings registry).1.run steps
      have htoolkit : s.toolkit = (settings.recipe registry).toolkit := run_toolkit ..
      have hrun : (start settings registry).1.run (steps ++ [x]) = (s.step x).1 :=
        run_append ..
      rw [hrun, sinceReset, List.rtakeWhile_concat]
      cases x with
      | add i =>
          show (s.add i).1.draft.facts.constructorMocks = true ↔ _
          rw [(add_frame s i).2.2, Facts.constructorMocks_noteAll,
            Toolkit.constructorMocks_mem_notices, htoolkit, ih]
          simp [Step.isReset, sinceReset, or_and_right, exists_or]
      | addImport n =>
          have hfacts : (s.addImports [n]).1.draft = s.draft := (addImports_frame s [n]).1
          show (s.addImports [n]).1.draft.facts.constructorMocks = true ↔ _
          rw [hfacts, ih]
          simp [Step.isReset, sinceReset]
      | reset => simp [Step.isReset, step, reset, Draft.clear, Draft.start]
      | read =>
          show s.draft.facts.constructorMocks = true ↔ _
          rw [ih]
          simp [Step.isReset, sinceReset]

/-- Mocked fields are created in `setUp` exactly where the framework asks
for it and the item, or one added since the last reset, has some. -/
theorem initialises_notice {s : Session} {i : Item} {f : Framework} :
    (s.notice i).draft.facts.initialises f = true
      ↔ f = .mockk
        ∧ (s.draft.facts.constructorMocks = true ∨ s.toolkit.mocksFields i = true) := by
  cases f with
  | mockito => simp [Facts.initialises]
  | mockk =>
      show (s.draft.facts.noteAll _).constructorMocks = true ↔ _
      rw [Facts.constructorMocks_noteAll, Toolkit.constructorMocks_mem_notices]
      simp

end Session

end TestDraft
