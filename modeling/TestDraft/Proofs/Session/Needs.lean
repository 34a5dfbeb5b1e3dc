/-
The needs of an item cover what its test class uses. Two walks over the
item have to agree: the one that notices, with a scan for each kind of
mock, and the one that writes, which decides value by value. They agree
because both ask the same question, `isMockable`, of the same types, so
a symbol in the class always goes back to a notice, and the notice, once
taken, still holds when the needs are read off.

Nothing here looks at the state of the session: what was noticed before
can only add to the needs.
-/
import TestDraft.Proofs.Mocking.Notices
import TestDraft.Proofs.TestClass.Symbols
import TestDraft.Session.Run

namespace TestDraft

-- ================================================================= values

/-- A value uses a symbol only where its type has to be mocked. -/
private theorem Toolkit.mem_symbols_value {k : Toolkit} {f : Framework} {n : String} {t : TypeExpr}
    {x : Symbol} (h : x ∈ (k.value n t).symbols f) :
    k.isMockable t = true ∧ x = f.mockSymbol := by
  cases hv : k.value n t with
  | literal text =>
      rw [hv] at h
      cases h
  | mock u =>
      rw [hv] at h
      refine ⟨?_, List.mem_singleton.1 h⟩
      unfold Toolkit.value Registry.value at hv
      unfold Toolkit.isMockable Registry.isMockable
      split at hv
      · cases hv
      · simp [*]

/-- A field uses a symbol only where its type has to be mocked. -/
private theorem Toolkit.mem_symbols_field {k : Toolkit} {f : Framework} {p : Parameter} {x : Symbol}
    (h : x ∈ (k.field p).symbols f) : k.isMockable p.type = true ∧ x = f.fieldSymbol := by
  unfold Toolkit.field at h
  cases hv : k.value p.name p.type with
  | literal text =>
      rw [hv] at h
      cases h
  | mock t =>
      have hvalue : f.mockSymbol ∈ (k.value p.name p.type).symbols f := by
        rw [hv]
        exact List.mem_singleton.2 rfl
      rw [hv] at h
      exact ⟨(mem_symbols_value hvalue).1, List.mem_singleton.1 h⟩

namespace Facts

variable {k : Facts} {f : Framework}

/-- Whatever is mocked inline, the framework brings the means. -/
private theorem mockSymbol_mem_required (h : k.functionMocks = true ∨ k.resultMocks = true) :
    f.mockSymbol ∈ k.required f := by
  rw [mem_required_iff]
  rcases h with h | h <;> cases f <;> simp [Framework.mockSymbol, needs, h]

/-- Mocked fields need their mark. -/
private theorem fieldSymbol_mem_required (h : k.constructorMocks = true) :
    f.fieldSymbol ∈ k.required f := by
  rw [mem_required_iff]
  cases f <;> exact h

/-- A framework that knows rules brings what declares one. -/
private theorem mem_required_of_mem_ruleSymbols {t : Toolkit} {rule : String} {x : Symbol}
    (hmocks : k.constructorMocks = true) (hparam : k.parameterized = true)
    (hrule : t.rule? = some rule) (h : x ∈ Framework.ruleSymbols) :
    x ∈ k.required t.framework := by
  unfold Toolkit.rule? at hrule
  cases hf : t.framework with
  | mockk =>
      rw [hf] at hrule
      cases hrule
  | mockito =>
      rw [mem_required_iff]
      simp only [Framework.ruleSymbols, List.mem_cons, List.not_mem_nil, or_false] at h
      rcases h with rfl | rfl | rfl <;> simp [needs, hmocks, hparam]

end Facts

/-- A test compares what it caught, or what a row expects. -/
private theorem Recipe.compares_of_compared {r : Recipe} {subject : Option String}
    {parameterized : Bool} {fs : List FunctionDecl} {d : FunctionDecl} {c : Capture}
    {e : String × String} (hc : c ∈ r.captures)
    (h : (r.method subject parameterized fs d c).compared = some e) :
    r.capture = .caught ∨ parameterized = true ∧ d.hasResult = true := by
  simp only [method, TestMethod.compared] at h
  cases c with
  | none =>
      right
      by_cases hrow : (parameterized && d.hasResult) = true
      · exact Bool.and_eq_true_iff.1 hrow
      · rw [if_neg hrow] at h
        cases h
  | marked => cases h
  | caught =>
      left
      unfold captures at hc
      split at hc
      · cases List.mem_singleton.1 hc
      · rcases List.mem_cons.1 hc with hc | hc
        · cases hc
        · exact (List.mem_singleton.1 hc).symm

-- ============================================================== functions

section Functions

/- What was noticed about some functions under test. -/
variable {k : Toolkit} {parameterized : Bool} {fs : List FunctionDecl} {facts : Facts}
  (noticed : ∀ n ∈ k.functionNotices parameterized fs, n.Holds facts)

include noticed

/-- The scan for mocked arguments leaves a fact. -/
private theorem functionMocks_of_mocksFunctions (h : k.mocksFunctions fs = true) :
    facts.functionMocks = true :=
  noticed .functionMocks (by simp [Toolkit.functionNotices, h])

/-- A single mocked parameter is enough for it. -/
private theorem functionMocks_of_param {d : FunctionDecl} {p : Parameter} (hd : d ∈ fs)
    (hp : p ∈ d.params) (h : k.isMockable p.type = true) : facts.functionMocks = true := by
  have hparams : k.mocksParams d.params = true := List.any_eq_true.2 ⟨p, hp, h⟩
  have hfunctions : (fs.any fun d => k.mocksParams d.params) = true :=
    List.any_eq_true.2 ⟨d, hd, hparams⟩
  exact functionMocks_of_mocksFunctions noticed (by simp [Toolkit.mocksFunctions, hfunctions])

/-- So is a single mocked receiver. -/
private theorem functionMocks_of_receiver {d : FunctionDecl} {t : TypeExpr} (hd : d ∈ fs)
    (ht : d.receiver = some t) (h : k.isMockable t = true) : facts.functionMocks = true := by
  have hreceivers : (fs.any fun d => d.receiver.any k.isMockable) = true :=
    List.any_eq_true.2 ⟨d, hd, by simp [ht, h]⟩
  exact functionMocks_of_mocksFunctions noticed (by simp [Toolkit.mocksFunctions, hreceivers])

/-- In a parameterized class a mocked result leaves another one. -/
private theorem resultMocks_of_result {d : FunctionDecl} (hparam : parameterized = true)
    (hd : d ∈ fs)
    (h : k.isMockable d.result = true) : facts.resultMocks = true := by
  have hresults : k.mocksResults fs = true := List.any_eq_true.2 ⟨d, hd, h⟩
  exact noticed .resultMocks (by simp [Toolkit.functionNotices, hparam, hresults])

/-- Rows of values leave one of their own. -/
private theorem parameterized_of_parameterized (hparam : parameterized = true) :
    facts.parameterized = true :=
  noticed .parameterized (by simp [Toolkit.functionNotices, hparam])

/-- The row of values uses its own mark, and mocks that were noticed. -/
private theorem mem_required_of_mem_rowSymbols {f : Framework} {x : Symbol}
    (hparam : parameterized = true) (h : x ∈ Column.rowSymbols f (k.columns fs)) :
    x = .parameters ∨ x ∈ facts.required f := by
  rcases List.mem_cons.1 h with rfl | h
  · exact Or.inl rfl
  · right
    obtain ⟨c, hc, hx⟩ := List.mem_flatMap.1 h
    obtain ⟨e, he, rfl⟩ := List.mem_map.1 hc
    obtain ⟨d, hd, he⟩ := List.mem_flatMap.1 he
    obtain ⟨hmockable, rfl⟩ := Toolkit.mem_symbols_value hx
    apply Facts.mockSymbol_mem_required
    -- A column holds a parameter of a function or its expected value.
    rcases List.mem_append.1 he with he | he
    · obtain ⟨p, hp, rfl⟩ := List.mem_map.1 he
      exact Or.inl (functionMocks_of_param noticed hd hp hmockable)
    · split at he
      case isTrue =>
        obtain rfl := List.mem_singleton.1 he
        exact Or.inr (resultMocks_of_result noticed hparam hd hmockable)
      case isFalse => cases he

/-- A test uses its own mark, the comparison if it makes one, and mocks
that were noticed. -/
private theorem mem_required_of_mem_methods {r : Recipe} {subject : Option String} {m : TestMethod}
    {x : Symbol} (hk : r.toolkit = k) (hm : m ∈ r.methods subject parameterized fs)
    (h : x ∈ m.symbols k.framework) :
    x = .test
      ∨ x = .assertEquals ∧ (r.capture = .caught ∨ parameterized = true ∧ fs.any (·.hasResult))
      ∨ x ∈ facts.required k.framework := by
  obtain ⟨d, hd, hm⟩ := List.mem_flatMap.1 hm
  obtain ⟨c, hc, rfl⟩ := List.mem_map.1 hm
  simp only [TestMethod.symbols, List.mem_append] at h
  -- the mark, the locals, the receiver, the comparison
  rcases h with ((h | h) | h) | h
  · exact Or.inl (List.mem_singleton.1 h)
  · right; right
    obtain ⟨l, hl, hx⟩ := List.mem_flatMap.1 h
    simp only [Recipe.method] at hl
    split at hl
    case isTrue => cases hl
    case isFalse =>
      obtain ⟨p, hp, rfl⟩ := List.mem_map.1 hl
      rw [hk] at hx
      obtain ⟨hmockable, rfl⟩ := Toolkit.mem_symbols_value hx
      exact Facts.mockSymbol_mem_required
        (Or.inl (functionMocks_of_param noticed hd hp hmockable))
  · right; right
    obtain ⟨v, hv, hx⟩ := List.mem_flatMap.1 h
    simp only [Recipe.method, Option.mem_toList, Option.map_eq_some_iff] at hv
    obtain ⟨t, ht, rfl⟩ := hv
    rw [hk] at hx
    obtain ⟨hmockable, rfl⟩ := Toolkit.mem_symbols_value hx
    exact Facts.mockSymbol_mem_required
      (Or.inl (functionMocks_of_receiver noticed hd ht hmockable))
  · right; left
    obtain ⟨e, he, rfl⟩ := List.mem_map.1 h
    refine ⟨rfl, ?_⟩
    rcases Recipe.compares_of_compared hc (Option.mem_toList.1 he) with hcaught | ⟨hparam, hresult⟩
    · exact Or.inl hcaught
    · exact Or.inr ⟨hparam, List.any_eq_true.2 ⟨d, hd, hresult⟩⟩

end Functions

-- =============================================================== fixtures

section Fixtures

/- What was noticed about a class under test, and an occasion for its
tests in step with it. -/
variable {k : Toolkit} {c : ClassDecl} {facts : Facts} {o : Occasion} {r : Recipe}
  (noticed : ∀ n ∈ k.classNotices c, n.Holds facts)
  (hk : r.toolkit = k) (hfields : o.mockedFields = k.mocksParams c.params)
  (hinit : o.initialises = facts.initialises k.framework)
  (hparam : o.parameterized = true → facts.parameterized = true)

include noticed

/-- The scan of the constructor leaves the fact that fields are mocked. -/
private theorem constructorMocks_of_mocksParams (h : k.mocksParams c.params = true) :
    facts.constructorMocks = true :=
  noticed .constructorMocks (by simp [Toolkit.classNotices, h])

/-- The object under test uses what was noticed about an abstract class. -/
private theorem mem_required_of_mem_creation {x : Symbol}
    (h : x ∈ (k.creation c).symbols k.framework) : x ∈ facts.required k.framework := by
  unfold Toolkit.creation at h
  split at h
  case isFalse => cases h
  case isTrue habstract =>
    have hsubject : Notice.Holds facts (.abstractSubject c) :=
      noticed (.abstractSubject c) (by simp [Toolkit.classNotices, habstract])
    unfold Toolkit.abstractCreation at h
    cases hf : k.framework with
    | mockito =>
        rw [hf] at h
        rw [Facts.mem_required_iff]
        simp only [Creation.symbols, List.mem_append, List.mem_cons, List.not_mem_nil,
          or_false] at h
        rcases h with (rfl | rfl) | h
        · simp [Facts.needs, hsubject.1]
        · exact hsubject.1
        · split at h
          case isTrue => cases h
          case isFalse hargs =>
            obtain rfl := List.mem_singleton.1 h
            apply hsubject.2
            simpa [ClassDecl.paramNames] using hargs
    | mockk =>
        rw [hf] at h
        obtain ⟨v, hv, hx⟩ := List.mem_flatMap.1 h
        obtain ⟨d, hd, rfl⟩ := List.mem_map.1 hv
        obtain ⟨hmockable, rfl⟩ := Toolkit.mem_symbols_value hx
        have hresults : k.mocksResults (abstracts c.functions) = true :=
          List.any_eq_true.2 ⟨d, hd, hmockable⟩
        have hnoticed : facts.resultMocks = true :=
          noticed .resultMocks (by simp [Toolkit.classNotices, habstract, hresults])
        exact Facts.mockSymbol_mem_required (Or.inr hnoticed)

include hk hfields

/-- A runner is the one for rows, or one that the framework brings. -/
private theorem mem_required_of_mem_runner {x : Symbol} {p : Runner} (hp : r.runner? o = some p)
    (h : x ∈ p.symbols) :
    o.parameterized = true ∧ (x = .runWith ∨ x = .parameterized)
      ∨ x ∈ facts.required k.framework := by
  unfold Recipe.runner? at hp
  split at hp
  case isTrue hparam =>
    cases hp
    left
    exact ⟨hparam, by simpa [Runner.symbols] using h⟩
  case isFalse =>
    right
    split at hp
    case isFalse => cases hp
    case isTrue hmocked =>
      rw [hk] at hp
      rw [hfields] at hmocked
      have hnoticed := constructorMocks_of_mocksParams noticed hmocked
      cases hf : k.framework with
      | mockk =>
          rw [hf] at hp
          cases hp
      | mockito =>
          rw [hf] at hp
          cases hp
          rw [Facts.mem_required_iff]
          simp only [Runner.symbols, List.mem_cons, List.not_mem_nil, or_false] at h
          rcases h with rfl | rfl <;> exact hnoticed

include hinit hparam

/-- The fixture uses the mark of `setUp`, and what was noticed. -/
private theorem mem_required_of_mem_fixture {x : Symbol}
    (h : x ∈ (r.fixture c o).symbols k.framework) :
    x = .before ∨ x ∈ facts.required k.framework := by
  simp only [Fixture.symbols, Recipe.fixture, hk, hfields, hinit, List.mem_append] at h
  -- the rule, the fields, the mark, the creation of the fields, the object
  rcases h with (((h | h) | h) | h) | h
  · right
    obtain ⟨rule, hrule, hx⟩ := List.mem_flatMap.1 h
    rw [Option.mem_toList] at hrule
    split at hrule
    case isFalse => cases hrule
    case isTrue hruled =>
      obtain ⟨hparameterized, hmocked⟩ := Bool.and_eq_true_iff.1 hruled
      have hnoticed := constructorMocks_of_mocksParams noticed hmocked
      exact Facts.mem_required_of_mem_ruleSymbols hnoticed (hparam hparameterized) hrule hx
  · right
    obtain ⟨d, hd, hx⟩ := List.mem_flatMap.1 h
    obtain ⟨p, hp, rfl⟩ := List.mem_map.1 hd
    obtain ⟨hmockable, rfl⟩ := Toolkit.mem_symbols_field hx
    apply Facts.fieldSymbol_mem_required
    exact constructorMocks_of_mocksParams noticed (List.any_eq_true.2 ⟨p, hp, hmockable⟩)
  · exact Or.inl (List.mem_singleton.1 h)
  · right
    split at h
    case isFalse => cases h
    case isTrue hinitialises =>
      obtain rfl := List.mem_singleton.1 h
      rw [Facts.mem_required_iff]
      cases hf : k.framework with
      | mockito =>
          rw [hf] at hinitialises
          cases hinitialises
      | mockk =>
          rw [hf] at hinitialises
          exact hinitialises
  · exact Or.inr (mem_required_of_mem_creation noticed h)

end Fixtures

-- ================================================================= items

namespace Session

/-- The test class that adding an item writes. -/
def written (s : Session) (i : Item) : TestClass :=
  let s := ((s.notice i).gather i).1
  s.draft.tests i s.paths s.parameterized (s.toolkit.mocksFields i)

/-- Importing names changes nothing but the table of imports. -/
theorem addImports_frame (s : Session) (ns : List String) :
    (s.addImports ns).1.draft = s.draft
      ∧ (s.addImports ns).1.parameterized = s.parameterized := by
  induction ns generalizing s with
  | nil => exact ⟨rfl, rfl⟩
  | cons n ns ih =>
      have hfirst : (s.addImport n).1.draft = s.draft
          ∧ (s.addImport n).1.parameterized = s.parameterized := by
        unfold addImport
        split <;> exact ⟨rfl, rfl⟩
      obtain ⟨hdraft, hparameterized⟩ := ih (s.addImport n).1
      exact ⟨hdraft.trans hfirst.1, hparameterized.trans hfirst.2⟩

/-- Gathering imports changes nothing else. -/
theorem gather_frame (s : Session) (i : Item) :
    (s.gather i).1.draft = s.draft ∧ (s.gather i).1.parameterized = s.parameterized :=
  addImports_frame s _

/-- What has been noticed about an item holds when its needs are read off. -/
theorem holds_of_mem_notices {s : Session} {i : Item} {n : Notice}
    (h : n ∈ s.toolkit.notices s.parameterized i) : n.Holds (s.notice i).draft.facts :=
  Facts.holds_noteAll _ h

/-- What is noticed and gathered reaches the class through its imports
and the creation of its fields only. -/
theorem written_eq (s : Session) (i : Item) :
    s.written i = s.draft.recipe.tests i
      { imports := ((s.notice i).gather i).1.paths
        parameterized := s.parameterized
        mockedFields := s.toolkit.mocksFields i
        initialises := (s.notice i).draft.facts.initialises s.draft.framework } := by
  obtain ⟨hdraft, hparameterized⟩ := gather_frame (s.notice i) i
  simp only [written, Draft.tests, toolkit, hdraft, hparameterized]
  rfl

/-- A written class for a class under test has a fixture, which treats
mocked fields as the facts ask for. -/
theorem written_fixture (s : Session) (c : ClassDecl) :
    ∃ x, (s.written (.ofClass c)).fixture = some x
      ∧ x.initialises
        = (s.notice (.ofClass c)).draft.facts.initialises s.draft.framework := by
  rw [written_eq]
  exact ⟨_, rfl, rfl⟩

/-- What the framework needs, the item needs. -/
theorem mem_needs_of_mem_required {s : Session} {i : Item} {x : Symbol}
    (h : x ∈ s.draft.facts.required s.draft.framework) : x ∈ s.needs i :=
  List.mem_append_left _ (List.mem_append_left _ (List.mem_append_left _ h))

/-- Rows of values need their runner and their mark. -/
theorem mem_needs_of_parameterized {s : Session} {i : Item} {x : Symbol}
    (hparam : s.parameterized = true) (h : x ∈ [.runWith, .parameterized, .parameters]) :
    x ∈ (s.notice i).needs i := by
  have hrow : x ∈ (s.notice i).rowNeeds := by
    unfold rowNeeds
    rw [if_pos (show (s.notice i).parameterized = true from hparam)]
    exact h
  exact List.mem_append_left _ (List.mem_append_right _ hrow)

/-- So does the item need what its tests need. -/
theorem mem_needs_of_mem_functionNeeds {s : Session} {i : Item} {x : Symbol}
    (h : x ∈ s.functionNeeds i.tested) : x ∈ s.needs i :=
  List.mem_append_right _ h

section Shared

/- What both kinds of test classes have: a row of values, and tests. -/
variable {s : Session} {i : Item} {fs : List FunctionDecl} {x : Symbol}
  (noticed : ∀ n ∈ s.toolkit.functionNotices s.parameterized fs,
    n.Holds (s.notice i).draft.facts)

include noticed

/-- The row of values uses its mark and what mocks in it use. -/
private theorem mem_needs_of_mem_columns
    (h : x ∈ (if s.parameterized then some (s.toolkit.columns fs) else none).toList.flatMap
      (Column.rowSymbols s.draft.framework)) :
    x ∈ (s.notice i).needs i := by
  obtain ⟨cs, hcs, hx⟩ := List.mem_flatMap.1 h
  rw [Option.mem_toList] at hcs
  split at hcs
  case isFalse => cases hcs
  case isTrue hparam =>
    cases hcs
    rcases mem_required_of_mem_rowSymbols noticed hparam hx with rfl | hx
    · exact mem_needs_of_parameterized hparam (by decide)
    · exact mem_needs_of_mem_required hx

/-- A test uses its mark, the comparison and what mocks in it use. -/
private theorem mem_needs_of_mem_methods {subject : Option String} (hfs : i.tested = fs)
    (h : x ∈ (s.draft.recipe.methods subject s.parameterized fs).flatMap
      (TestMethod.symbols s.draft.framework)) :
    x ∈ (s.notice i).needs i := by
  obtain ⟨m, hm, hx⟩ := List.mem_flatMap.1 h
  have hfs' : fs.isEmpty = false := by
    cases fs with
    | nil => cases hm
    | cons d ds => rfl
  rcases mem_required_of_mem_methods noticed rfl hm hx with rfl | ⟨rfl, hcompares⟩ | hx
  · apply mem_needs_of_mem_functionNeeds
    simp [functionNeeds, hfs, hfs']
  · apply mem_needs_of_mem_functionNeeds
    have hvalues : (s.notice i).comparesValues fs = true := by
      simpa [comparesValues, notice, Draft.noteAll] using hcompares
    simp [functionNeeds, hfs, hfs', hvalues]
  · exact mem_needs_of_mem_required hx

end Shared

/-- The needs of an item cover what its test class uses. -/
theorem mem_needs_of_mem_symbols {s : Session} {i : Item} {x : Symbol}
    (h : x ∈ (s.written i).symbols s.draft.framework) : x ∈ (s.notice i).needs i := by
  rw [written_eq] at h
  cases i with
  | ofClass c =>
      have hfunctions : ∀ n ∈ s.toolkit.functionNotices s.parameterized (concrete c.functions),
          n.Holds (s.notice (.ofClass c)).draft.facts := fun n hn =>
        holds_of_mem_notices (List.mem_append_left _ hn)
      have hclass : ∀ n ∈ s.toolkit.classNotices c,
          n.Holds (s.notice (.ofClass c)).draft.facts := fun n hn =>
        holds_of_mem_notices (List.mem_append_right _ hn)
      simp only [TestClass.symbols, Recipe.tests, Recipe.classTests, List.mem_append] at h
      -- the runner, the row, the fixture, the tests
      rcases h with ((h | h) | h) | h
      · obtain ⟨p, hp, hx⟩ := List.mem_flatMap.1 h
        rw [Option.mem_toList] at hp
        rcases mem_required_of_mem_runner hclass rfl rfl hp hx with ⟨hparam, hx⟩ | hx
        · apply mem_needs_of_parameterized hparam
          rcases hx with rfl | rfl <;> decide
        · exact mem_needs_of_mem_required hx
      · exact mem_needs_of_mem_columns hfunctions h
      · obtain ⟨d, hd, hx⟩ := List.mem_flatMap.1 h
        obtain rfl := Option.some.inj (Option.mem_toList.1 hd)
        rcases mem_required_of_mem_fixture hclass rfl rfl rfl
          (fun hparam => parameterized_of_parameterized hfunctions hparam) hx with rfl | hx
        · simp [needs]
        · exact mem_needs_of_mem_required hx
      · exact mem_needs_of_mem_methods hfunctions rfl h
  | ofFile f n =>
      have hfunctions : ∀ n' ∈ s.toolkit.functionNotices s.parameterized (concrete f.functions),
          n'.Holds (s.notice (.ofFile f n)).draft.facts := fun n' hn =>
        holds_of_mem_notices hn
      simp only [TestClass.symbols, Recipe.tests, Recipe.fileTests, List.mem_append] at h
      rcases h with ((h | h) | h) | h
      · obtain ⟨p, hp, hx⟩ := List.mem_flatMap.1 h
        rw [Option.mem_toList] at hp
        split at hp
        case isFalse => cases hp
        case isTrue hparam =>
          cases hp
          apply mem_needs_of_parameterized hparam
          simp only [Runner.symbols, List.mem_cons, List.not_mem_nil, or_false] at hx
          rcases hx with rfl | rfl <;> decide
      · exact mem_needs_of_mem_columns hfunctions h
      · cases h
      · exact mem_needs_of_mem_methods hfunctions rfl h

end Session

end TestDraft
