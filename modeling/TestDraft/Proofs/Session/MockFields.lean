/-
Mocked fields and what creates them. A field is mocked or given a literal
parameter by parameter; the runner, the rule and the line in `setUp` go
by one question asked of all parameters, and the last of them also by
what earlier classes have left. All agree because both sides come down to
`mocksParams`: a field is mocked exactly where the question is answered
yes.
-/
import TestDraft.Proofs.Session.Imports
import TestDraft.Proofs.TestClass.Tags

namespace TestDraft

open Text TestClass

-- ================================================================ fields

/-- A field is mocked exactly when the type of its parameter has to be. -/
private theorem Toolkit.field_mock_iff {k : Toolkit} {p : Parameter} :
    (∃ name type, k.field p = .mock name type) ↔ k.isMockable p.type = true := by
  unfold field value Registry.value isMockable Registry.isMockable
  cases k.registry.find? p.type <;> simp

/-- Some field is mocked exactly when some parameter has to be. -/
private theorem Toolkit.mock_mem_fields_iff {k : Toolkit} {ps : List Parameter} :
    (∃ name type, .mock name type ∈ ps.map k.field) ↔ k.mocksParams ps = true := by
  simp only [mocksParams, List.any_eq_true, List.mem_map, ← field_mock_iff]
  constructor
  · rintro ⟨name, type, p, hp, h⟩
    exact ⟨p, hp, name, type, h⟩
  · rintro ⟨p, hp, name, type, h⟩
    exact ⟨name, type, p, hp, h⟩

namespace Recipe

variable {r : Recipe} {c : ClassDecl} {o : Occasion} {f : Framework}

private theorem declaresMock_classTests :
    DeclaresMock f ((r.classTests c o).lines f) ↔ r.toolkit.mocksParams c.params = true := by
  rw [declaresMock_iff, ← Toolkit.mock_mem_fields_iff]
  simp [classTests, fixture]

/-- The runner for mocked fields gives way to the one for rows. -/
private theorem hasRunner_classTests (h : r.toolkit.framework = .mockito) :
    HasRunner ((r.classTests c o).lines f) ↔ o.parameterized = false ∧ o.mockedFields = true := by
  rw [hasRunner_iff]
  show r.runner? o = _ ↔ _
  cases hp : o.parameterized <;> cases hm : o.mockedFields <;>
    simp [runner?, hp, hm, h, Framework.runner?]

/-- The rule takes the place of the runner. -/
private theorem hasRule_classTests (h : r.toolkit.framework = .mockito) :
    HasRule ((r.classTests c o).lines f) ↔ o.parameterized = true ∧ o.mockedFields = true := by
  rw [hasRule_iff]
  cases hp : o.parameterized <;> cases hm : o.mockedFields <;>
    simp [classTests, fixture, hp, hm, h, Toolkit.rule?]

/-- In a fixture's `setUp` the mocked fields are created right in front of
the object under test. -/
private theorem lines_classTests (r : Recipe) (f : Framework) (c : ClassDecl) (o : Occasion) :
    ∃ upper lower, (r.classTests c o).lines f
      = upper ++ Fixture.setUpOpening
        ++ (if o.initialises then [Fixture.initLine] else [])
        ++ ⟨2, r.subject ++ " = " ++ (r.toolkit.creation c).head⟩ :: (r.toolkit.creation c).tail f
        ++ Fixture.setUpClosing ++ lower := by
  have hfixture : (r.classTests c o).fixture = some (r.fixture c o) := rfl
  rw [lines_of_fixture f hfixture]
  refine ⟨packageLines c.package ++ importBlock (inOrder o.imports)
    ++ ((r.classTests c o).frontLines f ++ (r.fixture c o).declarationLines f),
    (r.classTests c o).backLines f, ?_⟩
  simp only [List.append_assoc, List.cons_append]
  rfl

end Recipe

namespace Session

/-- The test class that a class under test gets after some steps. Mocked
fields are created in `setUp` exactly where the framework asks for it and
the class, or an item added since the last reset, has some. -/
private theorem written_class (settings : Settings) (registry : Registry) (steps : List Step)
    (c : ClassDecl) :
    let s := (start settings registry).1.run steps
    let r := settings.recipe registry
    ∃ o : Occasion, s.written (.ofClass c) = r.classTests c o
      ∧ o.parameterized = settings.parameterized
      ∧ o.mockedFields = r.toolkit.mocksParams c.params
      ∧ (o.initialises = true ↔ settings.framework = .mockk
          ∧ ((∃ i, .add i ∈ sinceReset steps ∧ r.toolkit.mocksFields i = true)
            ∨ r.toolkit.mocksParams c.params = true)) := by
  intro s r
  have hrecipe : s.draft.recipe = r := run_recipe (start settings registry).1 steps
  have hparameterized : s.parameterized = settings.parameterized :=
    run_parameterized (start settings registry).1 steps
  have htoolkit : s.toolkit = r.toolkit := run_toolkit ..
  have hframework : s.draft.framework = settings.framework := run_framework ..
  have hwritten := written_eq s (.ofClass c)
  rw [hrecipe] at hwritten
  refine ⟨_, hwritten, ?_, ?_, ?_⟩
  · exact hparameterized
  · rw [htoolkit]
    rfl
  · rw [hframework, initialises_notice, constructorMocks_run, htoolkit]
    rfl

/-- Mocked fields are always created. With one framework a class that
declares some has the runner that creates them, or the rule where rows
are run, and never both; with the other `setUp` creates them before the
object under test, and at the start and right after a reset it does so
for no other class. -/
theorem mock_fields_created (unit : String) (settings : Settings) (registry : Registry)
    (steps : List Step) (c : ClassDecl) :
    let s := (start settings registry).1.run steps
    let ls := (s.written (.ofClass c)).lines settings.framework
    let creation := (settings.recipe registry).toolkit.creation c
    (s.step (.add (.ofClass c))).1.text unit = s.text unit ++ sourceText unit ls
      ∧ (settings.framework = .mockito →
          (DeclaresMock .mockito ls ↔ HasRunner ls ∨ HasRule ls)
            ∧ (HasRunner ls → settings.parameterized = false)
            ∧ (HasRule ls → settings.parameterized = true)
            ∧ ¬(HasRunner ls ∧ HasRule ls))
      ∧ (settings.framework = .mockk →
          ∃ (created : Bool) (upper lower : List Line),
            ls = upper ++ Fixture.setUpOpening
                ++ (if created then [Fixture.initLine] else [])
                ++ ⟨2, settings.subject ++ " = " ++ creation.head⟩ :: creation.tail .mockk
                ++ Fixture.setUpClosing ++ lower
              ∧ (DeclaresMock .mockk ls → created = true)
              ∧ ((steps = [] ∨ ∃ xs, steps = xs ++ [.reset]) → created = true →
                  DeclaresMock .mockk ls)) := by
  intro s ls creation
  obtain ⟨o, hclass, hparameterized, hfields, hinit⟩ := written_class settings registry steps c
  have hls : ∀ f, settings.framework = f →
      ls = ((settings.recipe registry).classTests c o).lines f := by
    rintro f rfl
    exact congrArg (TestClass.lines _) hclass
  refine ⟨text_step_add unit settings registry steps (.ofClass c), fun hmockito => ?_,
    fun hmockk => ?_⟩
  · rw [hls _ hmockito, Recipe.declaresMock_classTests, Recipe.hasRunner_classTests hmockito,
      Recipe.hasRule_classTests hmockito, hparameterized, hfields]
    cases settings.parameterized <;> simp
  · obtain ⟨upper, lower, hsetUp⟩ := (settings.recipe registry).lines_classTests .mockk c o
    rw [hls _ hmockk, Recipe.declaresMock_classTests]
    refine ⟨o.initialises, upper, lower, hsetUp, fun h => hinit.2 ⟨hmockk, .inr h⟩,
      fun hfresh h => ?_⟩
    have hsince : sinceReset steps = [] := by
      rcases hfresh with rfl | ⟨xs, rfl⟩
      · rfl
      · exact sinceReset_reset xs
    refine (hinit.1 h).2.resolve_left ?_
    rintro ⟨i, hi, -⟩
    rw [hsince] at hi
    cases hi

/-- A class with a mocked field, whose tests take rows: one framework
declares a rule for it and names no runner, the other creates it in
`setUp`. -/
theorem mock_fields_created_rows :
    let settings (f : Framework) : Settings :=
      ⟨f, "store", "actual", "TODO()", .none, true, "rule"⟩
    let store : ClassDecl :=
      { package := "app"
        imports := ∅
        name := "Store"
        isAbstract := true
        params := [⟨"rows", .named "Rows" false⟩]
        functions := [] }
    let ls (f : Framework) := (((start (settings f) Registry.standard).1.run [.reset]).written
      (.ofClass store)).lines f
    (HasRule (ls .mockito) ∧ ¬HasRunner (ls .mockito))
      ∧ ∃ upper lower,
        ls .mockk = upper ++ Fixture.setUpOpening ++ [Fixture.initLine] ++ lower := by
  intro settings store ls
  have hmockito := mock_fields_created "    " (settings .mockito) Registry.standard [.reset] store
  have hmockk := mock_fields_created "    " (settings .mockk) Registry.standard [.reset] store
  have hdeclares : ∀ f, DeclaresMock f (ls f) := fun f =>
    ⟨"rows", .named "Rows" false, by cases f <;> decide +kernel⟩
  obtain ⟨hiff, hrunner, -, -⟩ := hmockito.2.1 rfl
  have hnone : ¬HasRunner (ls .mockito) := fun h => Bool.false_ne_true (hrunner h).symm
  obtain ⟨created, upper, lower, hls, hcreated, -⟩ := hmockk.2.2 rfl
  obtain rfl : created = true := hcreated (hdeclares .mockk)
  rw [List.append_assoc, List.append_assoc] at hls
  exact ⟨⟨(hiff.1 (hdeclares .mockito)).resolve_left hnone, hnone⟩, upper, _, hls⟩

end Session

end TestDraft
