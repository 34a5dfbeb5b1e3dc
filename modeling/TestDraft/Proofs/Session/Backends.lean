/-
Runs under different mocking frameworks. As long as nothing is to be
mocked, a session is the same under any framework and any name of a rule,
but for these two: whatever a step does, it does it alike, whether they
are exchanged before it or after it (`Session.step_withFramework`). What
carries this along a run is that no notice about mocks is ever taken, so
the framework needs nothing, and that each written class is free of mocks.
-/
import TestDraft.Proofs.Session.Gathering
import TestDraft.Proofs.Session.History
import TestDraft.Proofs.TestClass.Literals

namespace TestDraft

open Text

-- ================================================================= facts

/-- The facts of sessions that have noticed nothing about mocks. -/
def Facts.Mockless (k : Facts) : Prop := k = { parameterized := k.parameterized }

namespace Facts

variable {k : Facts}

/-- Without mocks nothing of a mocking framework is needed. -/
theorem Mockless.required (h : k.Mockless) (f : Framework) : k.required f = [] := by
  rw [h]
  cases f <;> cases k.parameterized <;> rfl

/-- Without mocks no field has to be initialised. -/
theorem Mockless.initialises (h : k.Mockless) (f : Framework) : k.initialises f = false := by
  rw [h]
  cases f <;> rfl

end Facts

private theorem Toolkit.mocksParams_eq_false {k : Toolkit} {ps : List Parameter}
    (h : ∀ p ∈ ps, k.registry.isMockable p.type = false) : k.mocksParams ps = false :=
  List.any_eq_false.2 fun p hp => by simp [isMockable, h p hp]

/-- Of an item without anything to be mocked nothing is noticed but that
its tests take rows of values. -/
private theorem Toolkit.notices_unmocked {k : Toolkit} {rows : Bool} {i : Item}
    (h : i.Unmocked k.registry rows) :
    k.notices rows i = if rows then [.parameterized] else [] := by
  have hfunctions : ∀ fs : List FunctionDecl, (∀ f ∈ fs, f.Unmocked k.registry rows) →
      k.functionNotices rows fs = if rows then [.parameterized] else [] := by
    intro fs hfs
    have hgiven : k.mocksFunctions fs = false := by
      refine Bool.or_eq_false_iff.2 ⟨List.any_eq_false.2 fun f hf => ?_,
        List.any_eq_false.2 fun f hf => ?_⟩
      · simp [mocksParams_eq_false (hfs f hf).1]
      · cases hreceiver : f.receiver with
        | none => simp
        | some t => simp [isMockable, (hfs f hf).2.1 t hreceiver]
    have hresults : (rows && k.mocksResults fs) = false := by
      cases rows with
      | false => rfl
      | true => exact List.any_eq_false.2 fun f hf => by simp [isMockable, (hfs f hf).2.2 rfl]
    rw [functionNotices, hgiven, hresults]
    simp
  cases i with
  | ofFile d name => exact hfunctions _ h
  | ofClass c =>
      rw [notices, hfunctions _ h.2, classNotices, mocksParams_eq_false h.1.2, h.1.1]
      simp

namespace Session

variable {s : Session} {i : Item}

/-- The session with another framework, and another name for its rule. -/
def withFramework (f : Framework) (rule : String) (s : Session) : Session :=
  { s with draft := { s.draft with recipe := s.draft.recipe.withFramework f rule } }

/-- What is noticed about such an item says nothing about mocks. -/
private theorem mockless_notice (hs : s.draft.facts.Mockless)
    (hi : i.Unmocked s.toolkit.registry s.parameterized) :
    (s.notice i).draft.facts.Mockless := by
  show (s.draft.facts.noteAll (s.toolkit.notices s.parameterized i)).Mockless
  rw [Toolkit.notices_unmocked hi, hs]
  split <;> rfl

/-- Where nothing about mocks has been noticed, an item needs the same
symbols under any framework. -/
private theorem needs_withFramework (hs : s.draft.facts.Mockless) (f : Framework) (rule : String) :
    (s.withFramework f rule).needs i = s.needs i := by
  have hrequired : (s.withFramework f rule).draft.facts.required
      (s.withFramework f rule).draft.framework = s.draft.facts.required s.draft.framework :=
    (hs.required f).trans (hs.required s.draft.framework).symm
  unfold needs
  rw [hrequired]
  rfl

/-- Gathering changes nothing but the imports. -/
private theorem gather_eq (s : Session) (i : Item) :
    (s.gather i).1 = { s with imports := (s.gather i).1.imports } := by
  have hframe := gather_frame s i
  generalize (s.gather i).1 = gathered at hframe ⊢
  obtain ⟨draft, parameterized, imports⟩ := gathered
  obtain ⟨rfl, rfl⟩ := hframe
  rfl

/-- Gathering an item whose notices name no mocks takes no account of the
framework. -/
private theorem gather_withFramework (hs : s.draft.facts.Mockless) (f : Framework) (rule : String) :
    ((s.withFramework f rule).gather i).1 = (s.gather i).1.withFramework f rule := by
  have himports : ((s.withFramework f rule).gather i).1.imports = (s.gather i).1.imports := by
    -- The two frameworks know different symbols, but nothing is needed of either.
    refine Table.eq_of_get?_eq fun name => ?_
    rw [(get?_gather (s.withFramework f rule) i).2, (get?_gather s i).2,
      needs_withFramework hs f rule]
    rfl
  rw [gather_eq (s.withFramework f rule), gather_eq s, himports]
  rfl

/-- A test class without mocks is written alike under any framework. -/
private theorem write_withFramework (hs : s.draft.facts.Mockless)
    (hi : i.Unmocked s.toolkit.registry s.parameterized) (f : Framework) (rule : String) :
    (s.withFramework f rule).write i = (s.write i).withFramework f rule := by
  have hfields : s.toolkit.mocksFields i = false := by
    cases i with
    | ofFile d name => rfl
    | ofClass c => exact Toolkit.mocksParams_eq_false hi.1.2
  have htests : (s.withFramework f rule).draft.tests i s.paths s.parameterized false
      = s.draft.tests i s.paths s.parameterized false := by
    have hinitialises : (s.withFramework f rule).draft.facts.initialises
        (s.withFramework f rule).draft.framework
          = s.draft.facts.initialises s.draft.framework :=
      (hs.initialises f).trans (hs.initialises s.draft.framework).symm
    unfold Draft.tests
    rw [hinitialises]
    exact Recipe.tests_withFramework hi rfl f rule
  have hfragments : ((s.withFramework f rule).draft.tests i s.paths s.parameterized
        (s.toolkit.mocksFields i)).fragments f
      = (s.draft.tests i s.paths s.parameterized (s.toolkit.mocksFields i)).fragments
        s.draft.framework := by
    rw [hfields, htests]
    exact (Recipe.literal_tests hi).fragments_eq f s.draft.framework
  exact congrArg (fun fragments => (⟨⟨s.draft.recipe.withFramework f rule, s.draft.facts,
    s.draft.output ++ fragments⟩, s.parameterized, s.imports⟩ : Session)) hfragments

end Session

-- ================================================================= steps

/-- Whether a step needs no mock: it resets, it reads, or it adds an item
that needs none. -/
def Step.Unmocked (r : Registry) (rows : Bool) : Step → Prop
  | .add i => i.Unmocked r rows
  | .addImport _ => False
  | .reset => True
  | .read => True

instance (r : Registry) (rows : Bool) (x : Step) : Decidable (x.Unmocked r rows) :=
  match x with
  | .add i => inferInstanceAs (Decidable (i.Unmocked r rows))
  | .addImport _ => .isFalse id
  | .reset => .isTrue trivial
  | .read => .isTrue trivial

namespace Session

variable {s : Session} {x : Step} {steps : List Step}

/-- A step that meets no mockable type leaves a draft without mocks. -/
private theorem mockless_step (hs : s.draft.facts.Mockless)
    (hx : x.Unmocked s.toolkit.registry s.parameterized) : (s.step x).1.draft.facts.Mockless := by
  cases x with
  | add i =>
      have hfacts : (s.step (.add i)).1.draft.facts = (s.notice i).draft.facts :=
        (add_frame s i).2.2
      rw [hfacts]
      exact mockless_notice hs hx
  | addImport n => cases hx
  | reset => rfl
  | read => exact hs

/-- A step without mocks is the same before and after an exchange of the
framework. -/
theorem step_withFramework (hs : s.draft.facts.Mockless)
    (hx : x.Unmocked s.toolkit.registry s.parameterized) (f : Framework) (rule : String) :
    ((s.withFramework f rule).step x).1 = (s.step x).1.withFramework f rule := by
  cases x with
  | add i =>
      have hnotice : (s.withFramework f rule).notice i = (s.notice i).withFramework f rule := rfl
      have hwrite : (((s.notice i).gather i).1.withFramework f rule).write i
          = (((s.notice i).gather i).1.write i).withFramework f rule := by
        obtain ⟨hdraft, hparameterized⟩ := gather_frame (s.notice i) i
        refine write_withFramework ?_ ?_ f rule
        · rw [hdraft]
          exact mockless_notice hs hx
        · rw [toolkit, hdraft, hparameterized]
          exact hx
      show (((s.withFramework f rule).notice i).gather i).1.write i
        = (((s.notice i).gather i).1.write i).withFramework f rule
      rw [hnotice, gather_withFramework (mockless_notice hs hx), hwrite]
  | addImport n => cases hx
  | reset => rfl
  | read => rfl

/-- A run that meets no mockable type is the same run under every framework. -/
private theorem run_withFramework (hs : s.draft.facts.Mockless)
    (hsteps : ∀ x ∈ steps, x.Unmocked s.toolkit.registry s.parameterized) (f : Framework)
    (rule : String) : (s.withFramework f rule).run steps = (s.run steps).withFramework f rule := by
  induction steps generalizing s with
  | nil => rfl
  | cons x xs ih =>
      obtain ⟨hx, hxs⟩ := List.forall_mem_cons.1 hsteps
      have hregistry : (s.step x).1.toolkit.registry = s.toolkit.registry :=
        congrArg (fun r => r.toolkit.registry) (step_recipe s x)
      have hnext : ∀ y ∈ xs,
          y.Unmocked (s.step x).1.toolkit.registry (s.step x).1.parameterized := by
        rw [hregistry, step_parameterized]
        exact hxs
      show ((s.withFramework f rule).step x).1.run xs = ((s.step x).1.run xs).withFramework f rule
      rw [step_withFramework hs hx, ih (mockless_step hs hx) hnext]

/-- As long as nothing is to be mocked, sessions that differ in nothing but
the framework and the name of its rule have the same text after each step. -/
theorem text_run_withFramework (settings : Settings) (registry : Registry) (f : Framework)
    (rule unit : String) (steps : List Step)
    (hsteps : ∀ x ∈ steps, x.Unmocked registry settings.parameterized) :
    ∀ done, done <+: steps →
      ((start { settings with framework := f, rule := rule } registry).1.run done).text unit
        = ((start settings registry).1.run done).text unit := by
  intro done hdone
  have hstart : (start { settings with framework := f, rule := rule } registry).1
      = (start settings registry).1.withFramework f rule := rfl
  have hunmocked : ∀ x ∈ done, x.Unmocked registry settings.parameterized :=
    fun x hx => hsteps x (hdone.subset hx)
  rw [hstart, run_withFramework (s := (start settings registry).1) rfl hunmocked f rule]
  rfl

/-- A class and two functions of a file, tested by rows of values with both
frameworks. -/
theorem text_run_withFramework_rows :
    let settings : Settings :=
      { framework := .mockito
        subject := "subject"
        actual := "actual"
        assertion := "TODO()"
        capture := .caught
        parameterized := true
        rule := Settings.standardRule }
    let text : TypeExpr := .named "String" false
    let texts : TypeExpr := .generic "List" false [text]
    let mark : FunctionDecl := ⟨"mark", false, [⟨"with", .function "Unit" false []⟩], none, text⟩
    let fresh : FunctionDecl := ⟨"fresh", true, [⟨"store", .named "Store" false⟩], none, text⟩
    let first : FunctionDecl := ⟨"first", false, [], some texts, text⟩
    let steps : List Step :=
      [.add (.ofClass ⟨"app", ∅, "Shelf", false, [⟨"label", text⟩], [mark, fresh]⟩),
       .read, .reset, .add (.ofFile ⟨"app", ∅, [first, mark]⟩ "Texts"), .read]
    (∀ x ∈ steps, x.Unmocked Registry.standard settings.parameterized)
      ∧ ∀ done, done <+: steps →
        ((start { settings with framework := .mockk, rule := "rule" } Registry.standard).1.run
            done).text "    "
          = ((start settings Registry.standard).1.run done).text "    " := by
  intro settings text texts mark fresh first steps
  have hsteps : ∀ x ∈ steps, x.Unmocked Registry.standard settings.parameterized := by
    decide +kernel
  exact ⟨hsteps,
    text_run_withFramework settings Registry.standard .mockk "rule" "    " steps hsteps⟩

end Session

end TestDraft
