/-
What a session lets through from one item to the next when it is not
reset. Earlier steps reach the test class of an item by two ways only
(`written_eq`): the table of imports, and the fact that some fields are
mocked. The table of a session at its start is part of the table after
any steps, since whatever counts in it is written anew for each item
(`paths_mono`); the fact adds one line to `setUp`, and only with a
framework that has such a line.
-/
import TestDraft.Proofs.Session.Imports
import TestDraft.Proofs.TestClass.Layout
import TestDraft.Proofs.Text.Order

namespace TestDraft

open Text

namespace Session

-- =============================================================== imports

section Imports

/- Two sessions with the same settings, of which the second has noticed
whatever the first has. -/
variable {s s' : Session} (hrecipe : s'.draft.recipe = s.draft.recipe)
  (hparameterized : s'.parameterized = s.parameterized)

include hrecipe hparameterized

/-- More facts bring more needs. -/
private theorem needs_mono (h : s.draft.facts.Within s'.draft.facts) (i : Item) {x : Symbol}
    (hx : x ∈ s.needs i) : x ∈ s'.needs i := by
  obtain ⟨⟨recipe, facts, output⟩, parameterized, imports⟩ := s
  obtain ⟨⟨recipe', facts', output'⟩, parameterized', imports'⟩ := s'
  obtain rfl : recipe' = recipe := hrecipe
  obtain rfl : parameterized' = parameterized := hparameterized
  simp only [needs, List.mem_append] at hx ⊢
  -- Of the four kinds of needs only those of the framework look at the facts.
  refine hx.imp_left (Or.imp_left (Or.imp_left fun hrequired => ?_))
  exact Facts.mem_required_iff.2 (h.needs (Facts.mem_required_iff.1 hrequired))

/-- What is imported for an item at the start is imported after any
steps. -/
theorem paths_mono (h : s.draft.facts.Within s'.draft.facts) (hs : s.imports = ∅) (i : Item)
    {path : String} (hpath : path ∈ (s.gather i).1.paths) : path ∈ (s'.gather i).1.paths := by
  obtain ⟨name, hname⟩ := mem_paths_iff.1 hpath
  refine mem_paths_iff.2 ⟨name, ?_⟩
  have hempty : s.imports.get? name = none := by
    rw [hs]
    rfl
  rw [(get?_gather s i).2, hempty, Option.or_none] at hname
  rw [(get?_gather s' i).2]
  cases hown : i.imports.get? name with
  | some own =>
      rw [hown] at hname
      exact hname
  | none =>
      rw [hown, Option.none_or] at hname
      obtain ⟨x, hx, hxname, hxpath⟩ :=
        (Symbol.pathIn?_eq_some_iff fun x hx => known_of_mem_needs hx).1 hname
      have hneeded : Symbol.pathIn? (s'.needs i) name = some path :=
        (Symbol.pathIn?_eq_some_iff fun x hx => known_of_mem_needs hx).2
          ⟨x, needs_mono hrecipe hparameterized h i hx, hxname, hxpath⟩
      rw [hneeded]
      rfl

end Imports

end Session

-- ======================================================= written classes

/-- A class for the same item on another occasion has its own imports,
and its own way to treat mocked fields. -/
private theorem Recipe.tests_occasion (r : Recipe) (i : Item) (o o' : Occasion)
    (hparameterized : o'.parameterized = o.parameterized)
    (hfields : o'.mockedFields = o.mockedFields) :
    r.tests i o' = { r.tests i o with
      imports := inOrder o'.imports
      fixture := (r.tests i o).fixture.map fun x =>
        { x with initialises := o'.initialises } } := by
  obtain ⟨imports, p, m, b⟩ := o
  obtain ⟨imports', p', m', b'⟩ := o'
  obtain rfl : p' = p := hparameterized
  obtain rfl : m' = m := hfields
  cases i <;> rfl

/-- That `setUp` for an item creates mocked fields though only an earlier
class has some. -/
def InitLeaks (k : Toolkit) (steps : List Step) (i : Item) : Prop :=
  k.framework = .mockk
    ∧ (∃ c, i = .ofClass c ∧ k.mocksParams c.params = false)
    ∧ ∃ d, .add (.ofClass d) ∈ sinceReset steps ∧ k.mocksParams d.params = true

namespace Session

variable {settings : Settings} {registry : Registry} {steps : List Step} {i : Item}

/-- The imports of a class that is written at the start are among those
of the same class after any steps. -/
private theorem written_imports_sublist (settings : Settings) (registry : Registry)
    (steps : List Step) (i : Item) :
    ((start settings registry).1.written i).imports.Sublist
      (((start settings registry).1.run steps).written i).imports := by
  let fresh := (start settings registry).1
  let s := fresh.run steps
  have hrecipe : (s.notice i).draft.recipe = (fresh.notice i).draft.recipe :=
    run_recipe fresh steps
  have hparameterized : (s.notice i).parameterized = (fresh.notice i).parameterized :=
    run_parameterized fresh steps
  have hnotices : s.toolkit.notices s.parameterized i
      = fresh.toolkit.notices fresh.parameterized i :=
    congrArg₂ (fun (r : Recipe) p => r.toolkit.notices p i) hrecipe hparameterized
  have hwithin : (fresh.notice i).draft.facts.Within (s.notice i).draft.facts := by
    show (Facts.noteAll {} _).Within (s.draft.facts.noteAll _)
    rw [hnotices]
    exact (Facts.within_of_start s.draft.facts).noteAll _
  rw [written_imports, written_imports]
  exact inOrder_sublist (paths_nodup _) (paths_nodup _) fun path hpath =>
    paths_mono hrecipe hparameterized hwithin rfl i hpath

/-- Earlier steps reach a written class through its imports and the
creation of its fields only. -/
private theorem written_run (settings : Settings) (registry : Registry) (steps : List Step)
    (i : Item) :
    let fresh := (start settings registry).1
    let s := fresh.run steps
    s.written i = { fresh.written i with
      imports := (s.written i).imports
      fixture := (fresh.written i).fixture.map fun x =>
        { x with initialises := (s.notice i).draft.facts.initialises settings.framework } } := by
  intro fresh s
  have hrecipe : s.draft.recipe = fresh.draft.recipe := run_recipe fresh steps
  have hparameterized : s.parameterized = fresh.parameterized := run_parameterized fresh steps
  have hfields : s.toolkit.mocksFields i = fresh.toolkit.mocksFields i :=
    congrArg (fun r : Recipe => r.toolkit.mocksFields i) hrecipe
  have hframework : s.draft.framework = settings.framework := run_framework ..
  rw [written_imports, written_eq, written_eq, hrecipe, hframework]
  exact Recipe.tests_occasion _ i _ _ hparameterized hfields

/-- An earlier class with mocked fields is what `InitLeaks` asks for. -/
private theorem initLeaks_iff (settings : Settings) (registry : Registry) (steps : List Step)
    (c : ClassDecl) :
    InitLeaks (settings.recipe registry).toolkit steps (.ofClass c)
      ↔ settings.framework = .mockk
        ∧ (settings.recipe registry).toolkit.mocksFields (.ofClass c) = false
        ∧ ((start settings registry).1.run steps).draft.facts.constructorMocks = true := by
  have hearlier : (∃ d, .add (.ofClass d) ∈ sinceReset steps
        ∧ (settings.recipe registry).toolkit.mocksParams d.params = true)
      ↔ ((start settings registry).1.run steps).draft.facts.constructorMocks = true := by
    rw [constructorMocks_run]
    constructor
    · rintro ⟨d, hd, hmocks⟩
      exact ⟨.ofClass d, hd, hmocks⟩
    · rintro ⟨i, hi, hmocks⟩
      cases i with
      | ofClass d => exact ⟨d, hi, hmocks⟩
      | ofFile f n => cases hmocks
  rw [← hearlier]
  refine and_congr_right fun _ => and_congr_left fun _ => ?_
  constructor
  · rintro ⟨d, hd, hmocks⟩
    cases hd
    exact hmocks
  · exact fun hmocks => ⟨c, rfl, hmocks⟩

/-- After any steps the mocked fields are created where they are at the
start, and besides where this leaks from an earlier class. -/
private theorem initialises_run (settings : Settings) (registry : Registry) (steps : List Step)
    (c : ClassDecl) :
    let fresh := (start settings registry).1
    let b := (fresh.notice (.ofClass c)).draft.facts.initialises settings.framework
    let b' := ((fresh.run steps).notice (.ofClass c)).draft.facts.initialises
      settings.framework
    (¬InitLeaks (settings.recipe registry).toolkit steps (.ofClass c) → b' = b)
      ∧ (InitLeaks (settings.recipe registry).toolkit steps (.ofClass c) →
        b = false ∧ b' = true) := by
  intro fresh b b'
  have hb : b = true ↔ settings.framework = .mockk
      ∧ (settings.recipe registry).toolkit.mocksFields (.ofClass c) = true := by
    rw [initialises_notice]
    exact and_congr_right fun _ => or_iff_right Bool.false_ne_true
  have hb' : b' = true ↔ settings.framework = .mockk
      ∧ ((fresh.run steps).draft.facts.constructorMocks = true
        ∨ (settings.recipe registry).toolkit.mocksFields (.ofClass c) = true) := by
    have htoolkit : (fresh.run steps).toolkit = (settings.recipe registry).toolkit :=
      run_toolkit ..
    rw [initialises_notice, htoolkit]
  rw [initLeaks_iff]
  constructor
  · intro hnone
    rw [Bool.eq_iff_iff, hb, hb']
    refine and_congr_right fun hf => ⟨fun h => ?_, .inr⟩
    cases hmocks : (settings.recipe registry).toolkit.mocksFields (.ofClass c) with
    | true => rfl
    | false =>
        -- Only an earlier class can have asked for it, and that would be a leak.
        rw [hmocks] at h
        exact absurd ⟨hf, hmocks, h.resolve_right Bool.false_ne_true⟩ hnone
  · rintro ⟨hf, hmocks, hearlier⟩
    refine ⟨?_, hb'.2 ⟨hf, .inl hearlier⟩⟩
    rw [Bool.eq_false_iff, ne_eq, hb, hmocks]
    exact fun h => Bool.false_ne_true h.2

/-- What is written behind the imports is the same after any steps as at
the start, up to the creation of mocked fields that only an earlier class
has. -/
private theorem restLines_run (settings : Settings) (registry : Registry) (steps : List Step)
    (i : Item) :
    let fresh := (start settings registry).1
    let rest := (fresh.written i).restLines settings.framework
    let rest' := ((fresh.run steps).written i).restLines settings.framework
    let leaks := InitLeaks (settings.recipe registry).toolkit steps i
    (¬leaks → rest' = rest)
      ∧ (leaks → ∃ upper lower, rest = upper ++ Fixture.setUpOpening ++ lower
          ∧ rest' = upper ++ Fixture.setUpOpening ++ [Fixture.initLine] ++ lower) := by
  intro fresh rest rest' leaks
  have hwritten := written_run settings registry steps i
  cases i with
  | ofFile f n =>
      have hrest : rest' = rest := by
        show TestClass.restLines _ ((fresh.run steps).written _) = _
        rw [hwritten]
        rfl
      refine ⟨fun _ => hrest, ?_⟩
      rintro ⟨-, ⟨c, hc, -⟩, -⟩
      cases hc
  | ofClass c =>
      obtain ⟨x, hx, hinit⟩ := written_fixture fresh c
      -- The same lines with and without earlier steps, but for one that hangs on a flag.
      obtain ⟨upper, lower, hrest, hrest'⟩ := TestClass.restLines_initialises
        settings.framework hx ((fresh.run steps).written (.ofClass c)).imports
        (((fresh.run steps).notice (.ofClass c)).draft.facts.initialises settings.framework)
      rw [← hwritten] at hrest'
      obtain ⟨hsame, hleaks⟩ := initialises_run settings registry steps c
      constructor
      · intro hnone
        rw [hsame hnone] at hrest'
        rw [hinit] at hrest
        exact hrest'.trans hrest.symm
      · intro hl
        obtain ⟨hb, hb'⟩ := hleaks hl
        have hx : x.initialises = false := hinit.trans hb
        rw [hx, if_neg Bool.false_ne_true, List.append_nil] at hrest
        rw [hb', if_pos rfl] at hrest'
        exact ⟨upper, lower, hrest, hrest'⟩

/-- Whatever was done before, adding an item writes behind the text there
is what it writes at the start, but for two things: there may be further
lines in the block of imports, and where an earlier class has mocked
fields and this one has none, `setUp` creates them with one line more.
-/
theorem text_add_run (unit : String) (settings : Settings) (registry : Registry)
    (steps : List Step) (i : Item) :
    let fresh := (start settings registry).1
    let s := fresh.run steps
    let leaks := InitLeaks (settings.recipe registry).toolkit steps i
    ∃ (paths paths' : List String) (rest rest' : List Line),
      (fresh.step (.add i)).1.text unit
          = sourceText unit (TestClass.packageLines i.package
              ++ TestClass.importBlock paths ++ rest)
        ∧ (s.step (.add i)).1.text unit
          = s.text unit ++ sourceText unit (TestClass.packageLines i.package
              ++ TestClass.importBlock paths' ++ rest')
        ∧ paths.Sublist paths'
        ∧ (¬leaks → rest' = rest)
        ∧ (leaks → ∃ upper lower, rest = upper ++ Fixture.setUpOpening ++ lower
            ∧ rest' = upper ++ Fixture.setUpOpening ++ [Fixture.initLine] ++ lower) := by
  intro fresh s leaks
  have hlines : ∀ s : Session, (s.written i).lines settings.framework
      = TestClass.packageLines i.package ++ TestClass.importBlock (s.written i).imports
        ++ (s.written i).restLines settings.framework := by
    intro s
    have hpackage : (s.written i).package = i.package := by
      rw [written_eq]
      cases i <;> rfl
    rw [TestClass.lines_eq, hpackage]
  refine ⟨(fresh.written i).imports, (s.written i).imports,
    (fresh.written i).restLines settings.framework,
    (s.written i).restLines settings.framework, ?_, ?_,
    written_imports_sublist settings registry steps i,
    restLines_run settings registry steps i⟩
  · rw [← hlines]
    exact (text_add unit fresh i).trans (String.empty_append ..)
  · rw [← hlines]
    exact text_step_add unit settings registry steps i

/-- A class without parameters after one with a mocked field: `setUp`
creates fields that the class does not have. -/
theorem text_add_run_leak :
    let settings : Settings := ⟨.mockk, "subject", "actual", "TODO()", .none, false, "rule"⟩
    let store : ClassDecl :=
      { package := "app"
        imports := ∅
        name := "Store"
        isAbstract := false
        params := [⟨"rows", .named "Rows" false⟩]
        functions := [] }
    let clock : ClassDecl := { store with name := "Clock", params := [] }
    let fresh := (start settings Registry.standard).1
    let s := fresh.run [.add (.ofClass store)]
    ∃ above above' lower,
      (fresh.step (.add (.ofClass clock))).1.text ""
          = sourceText "" (above ++ Fixture.setUpOpening ++ lower)
        ∧ (s.step (.add (.ofClass clock))).1.text "" = s.text ""
          ++ sourceText "" (above' ++ Fixture.setUpOpening ++ [Fixture.initLine] ++ lower) := by
  intro settings store clock fresh s
  have hleaks : InitLeaks (settings.recipe Registry.standard).toolkit
      [.add (.ofClass store)] (.ofClass clock) :=
    ⟨rfl, ⟨clock, rfl, rfl⟩, store, List.mem_singleton.2 rfl, by decide +kernel⟩
  obtain ⟨paths, paths', rest, rest', htext, htext', -, -, hrest⟩ :=
    text_add_run "" settings Registry.standard [.add (.ofClass store)] (.ofClass clock)
  obtain ⟨upper, lower, rfl, rfl⟩ := hrest hleaks
  simp only [← List.append_assoc] at htext htext'
  exact ⟨_, _, lower, htext, htext'⟩

end Session

end TestDraft
