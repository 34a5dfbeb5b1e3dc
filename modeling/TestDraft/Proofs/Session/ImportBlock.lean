/-
The imports of an item that is added to a session that has done nothing
yet, or nothing since its last reset. What an item is like says what its
tests need (`Needed`), and the scans of its declarations find exactly that
(`Session.needed_of_mem_needs`, `Session.mem_needs_of_needed`): each scan
brings one kind of notice, and what the framework asks for goes back to
the notices. The names lead to paths through two tables, the item's own
over the known one. Two names may share a path, so the paths are told as a
set; put in order they are the import lines of the class, and the only
ones (`TestClass.filter_isImport`).
-/
import TestDraft.Proofs.Mocking.Accumulation
import TestDraft.Proofs.Session.Imports
import TestDraft.Proofs.Session.Resets
import TestDraft.Proofs.TestClass.Statements
import TestDraft.Proofs.Text.Order

namespace TestDraft

open Text

-- ================================================================= items

/-- What there is to be noticed about an item, whose tests take their
values from rows or do not. -/
inductive Item.Bears (r : Registry) (rows : Bool) : Item → Notice → Prop where
  | constructorMocks {c : ClassDecl} {p : Parameter} (hp : p ∈ c.params)
      (h : r.isMockable p.type = true) : Bears r rows (.ofClass c) .constructorMocks
  | paramMocks {i : Item} {f : FunctionDecl} {p : Parameter} (hf : f ∈ i.tested)
      (hp : p ∈ f.params) (h : r.isMockable p.type = true) : Bears r rows i .functionMocks
  | receiverMocks {i : Item} {f : FunctionDecl} {t : TypeExpr} (hf : f ∈ i.tested)
      (ht : f.receiver = some t) (h : r.isMockable t = true) : Bears r rows i .functionMocks
  | resultMocks {i : Item} {f : FunctionDecl} (hrows : rows = true) (hf : f ∈ i.tested)
      (h : r.isMockable f.result = true) : Bears r rows i .resultMocks
  | overrideMocks {c : ClassDecl} {f : FunctionDecl} (hc : c.isAbstract = true)
      (hf : f ∈ abstracts c.functions) (h : r.isMockable f.result = true) :
      Bears r rows (.ofClass c) .resultMocks
  | abstractSubject {c : ClassDecl} (hc : c.isAbstract = true) :
      Bears r rows (.ofClass c) (.abstractSubject c)
  | parameterized {i : Item} (hrows : rows = true) : Bears r rows i .parameterized

/-- The names that the tests of an item need. -/
inductive Needed (s : Settings) (r : Registry) (i : Item) : String → Prop where
  | before {c : ClassDecl} (hi : i = .ofClass c) : Needed s r i "Before"
  | test {f : FunctionDecl} (hf : f ∈ i.tested) : Needed s r i "Test"
  | thrown {f : FunctionDecl} (hf : f ∈ i.tested) (h : s.capture = .caught) :
      Needed s r i "assertEquals"
  | expected {f : FunctionDecl} (hf : f ∈ i.tested) (hrows : s.parameterized = true)
      (h : f.hasResult = true) : Needed s r i "assertEquals"
  | rows {name : String} (hrows : s.parameterized = true)
      (hname : name ∈ ["RunWith", "Parameterized", "Parameters"]) : Needed s r i name
  | framework {name : String} {ns : List Notice} (h : Asked ns s.framework name)
      (hns : ∀ n ∈ ns, i.Bears r s.parameterized n) : Needed s r i name

/-- The item with other imports. -/
def Item.importing (imports : Table String) : Item → Item
  | ofClass c => .ofClass { c with imports := imports }
  | ofFile f n => .ofFile { f with imports := imports } n

namespace Toolkit

variable {k : Toolkit} {rows : Bool}

private theorem mocksParams_iff {ps : List Parameter} :
    k.mocksParams ps = true ↔ ∃ p ∈ ps, k.registry.isMockable p.type = true := List.any_eq_true

private theorem mocksResults_iff {fs : List FunctionDecl} :
    k.mocksResults fs = true ↔ ∃ f ∈ fs, k.registry.isMockable f.result = true := List.any_eq_true

/-- A group of functions has mocks where a parameter or a receiver of one of
them is mockable. -/
private theorem mocksFunctions_iff {fs : List FunctionDecl} :
    k.mocksFunctions fs = true
      ↔ (∃ f ∈ fs, ∃ p ∈ f.params, k.registry.isMockable p.type = true)
        ∨ ∃ f ∈ fs, ∃ t, f.receiver = some t ∧ k.registry.isMockable t = true := by
  simp only [mocksFunctions, Bool.or_eq_true, List.any_eq_true, mocksParams_iff,
    Option.any_eq_true, isMockable]

/-- What is noticed about the tested functions of an item. -/
private theorem bears_of_mem_functionNotices {i : Item} {n : Notice}
    (h : n ∈ k.functionNotices rows i.tested) : i.Bears k.registry rows n := by
  simp only [functionNotices, List.mem_append, List.mem_ite_nil_right, List.mem_singleton,
    Bool.and_eq_true, mocksResults_iff, mocksFunctions_iff] at h
  obtain (⟨hrows, rfl⟩ | ⟨⟨hrows, f, hf, hmock⟩, rfl⟩) | ⟨h, rfl⟩ := h
  · exact .parameterized hrows
  · exact .resultMocks hrows hf hmock
  · obtain ⟨f, hf, p, hp, hmock⟩ | ⟨f, hf, t, ht, hmock⟩ := h
    · exact .paramMocks hf hp hmock
    · exact .receiverMocks hf ht hmock

/-- What a class is noticed for is a reason the class bears. -/
private theorem bears_of_mem_classNotices {c : ClassDecl} {n : Notice} (h : n ∈ k.classNotices c) :
    (Item.ofClass c).Bears k.registry rows n := by
  simp only [classNotices, List.mem_append, List.mem_ite_nil_right, List.mem_singleton,
    Bool.and_eq_true, mocksParams_iff, mocksResults_iff] at h
  obtain (⟨⟨p, hp, hmock⟩, rfl⟩ | ⟨hc, rfl⟩) | ⟨⟨hc, f, hf, hmock⟩, rfl⟩ := h
  · exact .constructorMocks hp hmock
  · exact .abstractSubject hc
  · exact .overrideMocks hc hf hmock

/-- What is noticed about an item is what there is to be noticed. -/
private theorem mem_notices_iff {i : Item} {n : Notice} :
    n ∈ k.notices rows i ↔ i.Bears k.registry rows n := by
  have hfunctions : n ∈ k.functionNotices rows i.tested → n ∈ k.notices rows i := by
    intro h
    cases i with
    | ofClass c => exact List.mem_append_left _ h
    | ofFile f name => exact h
  constructor
  · intro h
    cases i with
    | ofClass c =>
        rcases List.mem_append.1 h with h | h
        · exact bears_of_mem_functionNotices h
        · exact bears_of_mem_classNotices h
    | ofFile f name => exact bears_of_mem_functionNotices h
  · intro h
    cases h with
    | constructorMocks hp hmock =>
        have hmocks := mocksParams_iff.2 ⟨_, hp, hmock⟩
        exact List.mem_append_right _ (by simp [classNotices, hmocks])
    | paramMocks hf hp hmock =>
        have hmocks := mocksFunctions_iff.2 (.inl ⟨_, hf, _, hp, hmock⟩)
        exact hfunctions (by simp [functionNotices, hmocks])
    | receiverMocks hf ht hmock =>
        have hmocks := mocksFunctions_iff.2 (.inr ⟨_, hf, _, ht, hmock⟩)
        exact hfunctions (by simp [functionNotices, hmocks])
    | resultMocks hrows hf hmock =>
        have hmocks := mocksResults_iff.2 ⟨_, hf, hmock⟩
        exact hfunctions (by simp [functionNotices, hrows, hmocks])
    | overrideMocks hc hf hmock =>
        have hmocks := mocksResults_iff.2 ⟨_, hf, hmock⟩
        exact List.mem_append_right _ (by simp [classNotices, hc, hmocks])
    | abstractSubject hc => exact List.mem_append_right _ (by simp [classNotices, hc])
    | parameterized hrows => exact hfunctions (by simp [functionNotices, hrows])

end Toolkit

-- ================================================================= lines

/-- Whether a line imports something. -/
def Text.Line.isImport (l : Line) : Bool :=
  l.depth == 0 && "import ".toList.isPrefixOf l.text.toList

/-- Only an unindented line can be an import line. -/
@[simp] private theorem isImport_mk (depth : Nat) (text : String) :
    Line.isImport ⟨depth, text⟩ = (depth == 0 && "import ".toList.isPrefixOf text.toList) := rfl

@[simp] private theorem isImport_blank : Line.blank.isImport = false := rfl

/-- Nothing is imported inside a class. -/
private theorem isImport_inside {l : Line} (h : l = .blank ∨ 1 ≤ l.depth) : l.isImport = false := by
  rcases h with rfl | h
  · rfl
  · have hdepth : (l.depth == 0) = false := beq_false_of_ne (by omega)
    rw [Line.isImport, hdepth, Bool.false_and]

/-- The annotations above a class import nothing. -/
private theorem isImport_frontLines (f : Framework) (t : TestClass) :
    ∀ l ∈ t.frontLines f, l.isImport = false := by
  unfold TestClass.frontLines TestClass.openingLines
  simp only [List.forall_mem_append, List.forall_mem_map, List.forall_mem_flatMap]
  refine ⟨⟨?runner, ?opening⟩, ?rows⟩
  case runner =>
    intro r _
    cases r <;> decide
  case opening =>
    split
    · simp [List.isPrefixOf]
    · simp [List.isPrefixOf]
    · simp only [List.forall_mem_append]
      refine ⟨⟨by simp [List.isPrefixOf], fun l hl => ?_⟩, by simp [List.isPrefixOf]⟩
      exact isImport_inside (.inr (Column.inside _ l hl))
  case rows => exact fun cs _ => ⟨by simp [Column.rowLines], by simp⟩

/-- The lines of a class that import something are those of its imports. -/
theorem TestClass.filter_isImport (f : Framework) (t : TestClass) :
    (t.lines f).filter Line.isImport = t.imports.map importLine := by
  have hpackage : (packageLines t.package).filter Line.isImport = [] := by
    simp [packageLines, List.isPrefixOf]
  have himports : (importBlock t.imports).filter Line.isImport = t.imports.map importLine := by
    have hline : ∀ l ∈ t.imports.map importLine, l.isImport = true := by
      simp [importLine]
    rw [importBlock, List.filter_append, List.filter_eq_self.2 hline]
    split <;> simp
  have hfront : (t.frontLines f).filter Line.isImport = [] :=
    List.filter_eq_nil_iff.2 fun l hl => by simp [isImport_frontLines f t l hl]
  have hfixture : ∀ x : Fixture, (x.lines f).filter Line.isImport = [] := fun x =>
    List.filter_eq_nil_iff.2 fun l hl => by simp [isImport_inside (x.inside f l hl)]
  have hmethod : ∀ m : TestMethod, (m.lines f).filter Line.isImport = [] := fun m =>
    List.filter_eq_nil_iff.2 fun l hl => by simp [isImport_inside (m.inside f l hl)]
  have hrest : (t.restLines f).filter Line.isImport = [] := by
    rw [restLines, backLines]
    simp only [List.filter_append, List.filter_flatMap, filter_separated isImport_blank,
      List.flatMap_map, hfront, hfixture, hmethod]
    simp
  rw [lines_eq, List.filter_append, List.filter_append, hpackage, himports, hrest]
  simp

-- ================================================================= needs

/-- More notices ask for more. -/
theorem Asked.mono {ns ns' : List Notice} {f : Framework} {name : String} (h : Asked ns f name)
    (hsub : ns ⊆ ns') : Asked ns' f name := by
  cases h with
  | mockedFields h hname => exact .mockedFields (hsub h) hname
  | inlineMocks h => exact .inlineMocks (h.imp (hsub ·) (hsub ·))
  | partialMock h hname => exact .partialMock (hsub h) hname
  | arguments h hparams => exact .arguments (hsub h) hparams
  | rule h hrows hname => exact .rule (hsub h) (hsub hrows) hname
  | createdFields h hname => exact .createdFields (hsub h) hname
  | createdMocks h => exact .createdMocks (h.imp (hsub ·) (hsub ·))

namespace Session

/-- What the rows of a parameterized class need. -/
private theorem mem_rowNeeds_iff {s : Session} {x : Symbol} :
    x ∈ s.rowNeeds ↔ s.parameterized = true ∧ x ∈ [.runWith, .parameterized, .parameters] := by
  simp only [rowNeeds, List.mem_ite_nil_right]

/-- Tests that compare values are about exceptions, or rows expect
something of them. -/
theorem comparesValues_iff {s : Session} {fs : List FunctionDecl} :
    s.comparesValues fs = true
      ↔ s.draft.recipe.capture = .caught
        ∨ s.parameterized = true ∧ ∃ f ∈ fs, f.hasResult = true := by
  simp [comparesValues]

/-- What the test methods need: the annotation, and the comparison where
values are compared. -/
theorem mem_functionNeeds_iff {s : Session} {fs : List FunctionDecl} {x : Symbol} :
    x ∈ s.functionNeeds fs
      ↔ fs ≠ [] ∧ (x = .test ∨ x = .assertEquals ∧ s.comparesValues fs = true) := by
  unfold functionNeeds
  cases fs with
  | nil => simp
  | cons f fs => simp [and_comm]

/-- A session that has just started needs for an item only what the tests
of the item need. -/
theorem needed_of_mem_needs {settings : Settings} {registry : Registry} {i : Item} {x : Symbol}
    (h : x ∈ ((start settings registry).1.notice i).needs i) :
    Needed settings registry i x.name := by
  let s := (start settings registry).1.notice i
  simp only [needs, List.mem_append] at h
  -- the framework, `setUp`, the rows, the tests
  rcases h with ((h | h) | h) | h
  · have hasked : Asked ((settings.recipe registry).toolkit.notices settings.parameterized i)
        settings.framework x.name :=
      (Facts.tells_noteAll _).mem_names_iff.1 (List.mem_map_of_mem h)
    exact .framework hasked fun n hn => Toolkit.mem_notices_iff.1 hn
  · cases i with
    | ofClass c =>
        obtain rfl := List.mem_singleton.1 h
        exact .before rfl
    | ofFile f n => cases h
  · obtain ⟨hrows, hx⟩ := mem_rowNeeds_iff.1 h
    exact .rows hrows (List.mem_map_of_mem (f := Symbol.name) hx)
  · obtain ⟨hne, hx⟩ := mem_functionNeeds_iff.1 h
    obtain ⟨f, hf⟩ := List.exists_mem_of_ne_nil _ hne
    obtain rfl | ⟨rfl, hcompares⟩ := hx
    · exact .test hf
    · obtain hcaught | ⟨hrows, g, hg, hresult⟩ := comparesValues_iff.1 hcompares
      · exact .thrown hf hcaught
      · exact .expected hg hrows hresult

/-- A session that has just started needs for an item all that the tests
of the item need. -/
theorem mem_needs_of_needed {settings : Settings} {registry : Registry} {i : Item} {name : String}
    (h : Needed settings registry i name) :
    ∃ x ∈ ((start settings registry).1.notice i).needs i, x.name = name := by
  let s := (start settings registry).1.notice i
  have hfunctions : ∀ {f x}, f ∈ i.tested →
      (x = .test ∨ x = .assertEquals ∧ s.comparesValues i.tested = true) → x ∈ s.needs i :=
    fun hf hx => mem_needs_of_mem_functionNeeds
      (mem_functionNeeds_iff.2 ⟨List.ne_nil_of_mem hf, hx⟩)
  cases h with
  | before hi =>
      subst hi
      refine ⟨.before, ?_, rfl⟩
      simp [needs]
  | test hf => exact ⟨.test, hfunctions hf (.inl rfl), rfl⟩
  | thrown hf hcaught =>
      have hcompares : s.comparesValues i.tested = true := comparesValues_iff.2 (.inl hcaught)
      exact ⟨.assertEquals, hfunctions hf (.inr ⟨rfl, hcompares⟩), rfl⟩
  | expected hf hrows hresult =>
      have hcompares : s.comparesValues i.tested = true :=
        comparesValues_iff.2 (.inr ⟨hrows, _, hf, hresult⟩)
      exact ⟨.assertEquals, hfunctions hf (.inr ⟨rfl, hcompares⟩), rfl⟩
  | rows hrows hname =>
      obtain ⟨x, hx, rfl⟩ : ∃ x ∈ [Symbol.runWith, .parameterized, .parameters], x.name = name :=
        List.mem_map.1 hname
      exact ⟨x, mem_needs_of_parameterized hrows hx, rfl⟩
  | framework hasked hns =>
      have hnoticed := hasked.mono fun n hn =>
        Toolkit.mem_notices_iff (k := (settings.recipe registry).toolkit).2 (hns n hn)
      obtain ⟨x, hx, rfl⟩ := (Facts.tells_noteAll _).needs_of_asked hnoticed
      exact ⟨x, mem_needs_of_mem_required (Facts.mem_required_iff.2 hx), rfl⟩

-- ================================================================= paths

/-- What is needed is known, under the paths that are found for it, and
the item's own paths are written over those. -/
private theorem exists_known (settings : Settings) (registry : Registry) (i : Item) :
    ∃ known : Table String,
      (∀ name, (∃ path, known.get? name = some path) ↔ Needed settings registry i name)
        ∧ (∀ name path, known.get? name = some path →
            ∃ x ∈ settings.framework.known, x.name = name ∧ x.path = path)
        ∧ (((start settings registry).1.notice i).gather i).1.imports
          = known.override i.imports := by
  let s := (start settings registry).1.notice i
  have hknown : ∀ x ∈ s.needs i, x ∈ settings.framework.known := fun x hx => known_of_mem_needs hx
  obtain ⟨known, hadd, hget⟩ := addImports_known (s := s) hknown
  have hfound : ∀ name path, known.get? name = some path
      ↔ ∃ x ∈ s.needs i, x.name = name ∧ x.path = path := by
    intro name path
    -- Nothing has been imported yet, so whatever is found has just been needed.
    have hempty : s.imports.get? name = none := rfl
    rw [hget, hempty, Option.or_none, Symbol.pathIn?_eq_some_iff hknown]
  refine ⟨known, fun name => ?_, fun name path h => ?_, ?_⟩
  · simp only [hfound]
    constructor
    · rintro ⟨path, x, hx, rfl, -⟩
      exact needed_of_mem_needs hx
    · intro h
      obtain ⟨x, hx, hname⟩ := mem_needs_of_needed h
      exact ⟨x.path, x, hx, hname, rfl⟩
  · obtain ⟨x, hx, hpath⟩ := (hfound name path).1 h
    exact ⟨x, hknown x hx, hpath⟩
  · show (s.gather i).1.imports = _
    rw [gather, hadd]

/-- The imports of an item that is added to a session that has done
nothing since its start or its last reset are all the lines of its class
that import something, and they ascend strictly. Their paths are those of
a table with a known path for each name that the tests of the item need,
and for no other, over which the imports of the item are written; in which
order these are listed does not matter. -/
theorem imports_determined (unit : String) (settings : Settings) (registry : Registry)
    (steps : List Step) (i : Item) (hfresh : lasting steps = []) :
    let s := (start settings registry).1.run steps
    let t := s.written i
    (s.step (.add i)).1.text unit
        = s.text unit ++ sourceText unit (t.lines settings.framework)
      ∧ (t.lines settings.framework).filter Line.isImport
        = t.imports.map (fun path => (⟨0, "import " ++ path⟩ : Line))
      ∧ t.imports.Pairwise (· < ·)
      ∧ (∃ known : Table String,
          (∀ name, (∃ path, known.get? name = some path) ↔ Needed settings registry i name)
            ∧ (∀ name path, known.get? name = some path →
                ∃ x ∈ settings.framework.known, x.name = name ∧ x.path = path)
            ∧ ∀ path, path ∈ t.imports ↔ path ∈ (known.override i.imports).values)
      ∧ ∀ es ds : List (String × String), es.Perm ds → (es.map Prod.fst).Nodup →
          (s.step (.add (i.importing (Table.ofList es)))).1
            = (s.step (.add (i.importing (Table.ofList ds)))).1 := by
  intro s t
  have hstart : s = (start settings registry).1 := by
    show (start settings registry).1.run steps = _
    rw [← run_lasting, hfresh]
    rfl
  have himports : t.imports = inOrder ((s.notice i).gather i).1.paths := written_imports s i
  refine ⟨text_step_add unit settings registry steps i, t.filter_isImport _, ?_, ?_,
    fun es ds hperm hes => ?_⟩
  · rw [himports]
    exact inOrder_ascending (paths_nodup _)
  · obtain ⟨known, hneeded, hpath, hgather⟩ := exists_known settings registry i
    refine ⟨known, hneeded, hpath, fun path => ?_⟩
    rw [himports, (inOrder_perm _).mem_iff, paths, List.mem_eraseDups, hstart, hgather]
  · rw [Table.ofList_perm hperm hes]

/-- A class with a path of its own for `Test` and one path for two names
that its tests do not need, behind a reset. -/
theorem imports_determined_own_paths :
    let settings : Settings := ⟨.mockito, "cut", "actual", "TODO()", .none, true, "rule"⟩
    let own : List (String × String) :=
      [("Test", "own.Test"), ("Row", "rows.*"), ("Column", "rows.*")]
    let find : FunctionDecl :=
      ⟨"find", false, [⟨"key", .named "Int" false⟩], none, .named "Row" false⟩
    let store : Item := .ofClass ⟨"app", Table.ofList own, "Store", true, [], [find]⟩
    let util : Item := .ofFile ⟨"app", Table.ofList [("Util", "own.Util")], [find]⟩ "Util"
    let steps : List Step := [.add util, .addImport "MockK", .reset, .read]
    let s := (start settings Registry.standard).1.run steps
    lasting steps = []
      ∧ ((s.written store).lines .mockito).filter Line.isImport
        = [⟨0, "import org.junit.Assert.assertEquals"⟩,
           ⟨0, "import org.junit.Before"⟩,
           ⟨0, "import org.junit.runner.RunWith"⟩,
           ⟨0, "import org.junit.runners.Parameterized"⟩,
           ⟨0, "import org.junit.runners.Parameterized.Parameters"⟩,
           ⟨0, "import org.mockito.Mockito"⟩,
           ⟨0, "import org.mockito.kotlin.mock"⟩,
           ⟨0, "import own.Test"⟩,
           ⟨0, "import rows.*"⟩]
      ∧ (s.step (.add (store.importing (Table.ofList own)))).1
        = (s.step (.add (store.importing (Table.ofList own.reverse)))).1 := by
  intro settings own find store util steps s
  obtain ⟨-, hlines, -, -, horder⟩ :=
    imports_determined "    " settings Registry.standard steps store rfl
  refine ⟨rfl, hlines.trans (by decide +kernel), horder own own.reverse ?_ (by decide)⟩
  exact (List.reverse_perm own).symm

end Session

end TestDraft
