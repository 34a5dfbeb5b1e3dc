/-
What the abstract functions of an item do to its tests. Tests are
drafted for the functions with a body; the others count only where an
object of an abstract class fills them in on the spot. There each one
gets a line of its own, and where a result has to be mocked, so has the
name for it to be imported. Without an abstract class, or with partial
mocks, items that differ in abstract functions get the same text.
-/
import TestDraft.Proofs.Session.Imports
import TestDraft.Proofs.TestClass.Layout
import TestDraft.Proofs.Text.Order

namespace TestDraft

open Text

-- ================================================================= items

private theorem concrete_concrete (fs : List FunctionDecl) :
    concrete (concrete fs) = concrete fs := by
  simp [concrete]

/-- Nothing abstract is left among the concrete functions. -/
private theorem abstracts_concrete (fs : List FunctionDecl) : abstracts (concrete fs) = [] := by
  simp [abstracts, concrete]

namespace Item

/-- The item without its abstract functions. Items that differ in
abstract functions only are those that agree in this. -/
def withoutAbstracts : Item → Item
  | ofClass c => .ofClass { c with functions := concrete c.functions }
  | ofFile f n => .ofFile { f with functions := concrete f.functions } n

def isAbstract : Item → Bool
  | ofClass c => c.isAbstract
  | ofFile _ _ => false

/-- Abstract functions are not tested. -/
private theorem tested_withoutAbstracts (i : Item) : i.withoutAbstracts.tested = i.tested := by
  cases i <;> exact concrete_concrete _

private theorem imports_withoutAbstracts (i : Item) : i.withoutAbstracts.imports = i.imports := by
  cases i <;> rfl

private theorem isAbstract_withoutAbstracts (i : Item) :
    i.withoutAbstracts.isAbstract = i.isAbstract := by
  cases i <;> rfl

end Item

/-- Classes that differ in abstract functions only are the same but for
their functions. -/
private theorem ClassDecl.eq_of_withoutAbstracts_eq {c d : ClassDecl}
    (h : (Item.ofClass d).withoutAbstracts = (Item.ofClass c).withoutAbstracts) :
    ∃ fs, d = { c with functions := fs } :=
  ⟨d.functions, congrArg (fun e : ClassDecl => { e with functions := d.functions })
    (Item.ofClass.inj h)⟩

/-- Whether filling in the abstract functions of an item takes a mock. -/
def Toolkit.mocksOverrides (k : Toolkit) : Item → Bool
  | .ofClass c => c.isAbstract && k.mocksResults (abstracts c.functions)
  | .ofFile _ _ => false

private theorem Toolkit.mocksOverrides_of_abstract {k : Toolkit} {c : ClassDecl}
    (h : c.isAbstract = true) :
    k.mocksOverrides (.ofClass c) = k.mocksResults (abstracts c.functions) := by
  rw [mocksOverrides, h, Bool.true_and]

namespace Session

variable {s : Session} {i : Item}

-- ================================================================= facts

/-- Of the abstract functions of a class only mocked results are
noticed. -/
private theorem noteAll_classNotices (k : Toolkit) (x : Facts) (c : ClassDecl) :
    x.noteAll (k.classNotices c)
      = (x.noteAll (k.classNotices { c with functions := concrete c.functions })).noteAll
        (if k.mocksOverrides (.ofClass c) then [.resultMocks] else []) := by
  obtain ⟨package, imports, name, isAbstract, params, fs⟩ := c
  have hresults : k.mocksResults [] = false := rfl
  simp only [Toolkit.classNotices, Toolkit.mocksOverrides, abstracts_concrete, hresults,
    Facts.noteAll, List.foldl_append]
  -- The notice of an abstract class looks at its parameters, not at its functions.
  cases isAbstract <;> rfl

/-- What is noticed about an item is what is noticed without its abstract
functions, and a mocked result if filling them in takes one. -/
private theorem facts_notice (s : Session) (i : Item) :
    (s.notice i).draft.facts
      = (s.notice i.withoutAbstracts).draft.facts.noteAll
        (if s.toolkit.mocksOverrides i then [.resultMocks] else []) := by
  cases i with
  | ofFile f n =>
      simp only [notice, Toolkit.notices, Item.withoutAbstracts, concrete_concrete]
      rfl
  | ofClass c =>
      have hfunctions : ∀ ns, s.draft.facts.noteAll
          (s.toolkit.functionNotices s.parameterized (concrete c.functions) ++ ns)
          = (s.draft.facts.noteAll
              (s.toolkit.functionNotices s.parameterized (concrete c.functions))).noteAll ns :=
        fun ns => List.foldl_append
      simp only [notice, Draft.noteAll, Toolkit.notices, Item.withoutAbstracts,
        concrete_concrete, hfunctions]
      exact noteAll_classNotices _ _ c

-- ================================================================= needs

/-- A mocked result brings the means to mock it, and nothing else. -/
private theorem mem_required_resultMocks {k : Facts} {f : Framework} {b : Bool} {x : Symbol} :
    x ∈ (k.noteAll (if b then [.resultMocks] else [])).required f
      ↔ x ∈ k.required f ∨ b = true ∧ x = f.mockSymbol := by
  simp only [Facts.mem_required_iff]
  cases b with
  | false => simp [Facts.noteAll]
  | true =>
      show (k.note .resultMocks).needs f x = true ↔ _
      cases f <;> cases x <;> simp [Facts.needs, Facts.note, Framework.mockSymbol]

/-- An item with its abstract functions needs at most the mock symbol
besides. -/
private theorem mem_needs_withoutAbstracts {x : Symbol} :
    x ∈ (s.notice i).needs i
      ↔ x ∈ (s.notice i.withoutAbstracts).needs i.withoutAbstracts
        ∨ s.toolkit.mocksOverrides i = true ∧ x = s.draft.framework.mockSymbol := by
  have hrequired : x ∈ (s.notice i).draft.facts.required s.draft.framework
      ↔ x ∈ (s.notice i.withoutAbstracts).draft.facts.required s.draft.framework
        ∨ s.toolkit.mocksOverrides i = true ∧ x = s.draft.framework.mockSymbol := by
    rw [facts_notice, mem_required_resultMocks]
  have hframework : ∀ i, (s.notice i).draft.framework = s.draft.framework := fun _ => rfl
  have hrest : ∀ i, (s.notice i).functionNeeds = s.functionNeeds
      ∧ (s.notice i).rowNeeds = s.rowNeeds := fun _ => ⟨rfl, rfl⟩
  simp only [needs, List.mem_append, hframework, hrequired, hrest, i.tested_withoutAbstracts]
  -- All other kinds of needs are the same on both sides.
  cases i <;> simp only [Item.withoutAbstracts, or_assoc, or_left_comm, or_comm]

/-- With partial mocks, and where no abstract class is at hand, abstract
functions bring no needs of their own. -/
private theorem mem_needs_of_unfilled (h : i.isAbstract = false ∨ s.draft.framework = .mockito)
    {x : Symbol} :
    x ∈ (s.notice i).needs i
      ↔ x ∈ (s.notice i.withoutAbstracts).needs i.withoutAbstracts := by
  rw [mem_needs_withoutAbstracts]
  refine or_iff_left_of_imp ?_
  rintro ⟨hmocks, rfl⟩
  cases i with
  | ofFile f n => cases hmocks
  | ofClass c =>
      obtain ⟨habstract, -⟩ := Bool.and_eq_true_iff.1 hmocks
      have hmockito : s.draft.framework = .mockito :=
        h.resolve_left fun hfalse => Bool.false_ne_true (hfalse.symm.trans habstract)
      -- The partial mock itself needs what a mocked result would need.
      have hnotice : .abstractSubject { c with functions := concrete c.functions }
          ∈ s.toolkit.notices s.parameterized (Item.ofClass c).withoutAbstracts := by
        simp [Toolkit.notices, Toolkit.classNotices, Item.withoutAbstracts, habstract]
      obtain ⟨hsubject, -⟩ := holds_of_mem_notices hnotice
      refine mem_needs_of_mem_required (Facts.mem_required_iff.2 ?_)
      show Facts.needs _ s.draft.framework s.draft.framework.mockSymbol = true
      rw [hmockito]
      simp [Framework.mockSymbol, Facts.needs, hsubject]

-- =============================================================== imports

/-- What is found under a name depends on the needs of that name only. -/
private theorem get?_withoutAbstracts {name : String}
    (h : ∀ x, x.name = name → (x ∈ (s.notice i).needs i
      ↔ x ∈ (s.notice i.withoutAbstracts).needs i.withoutAbstracts)) :
    ((s.notice i).gather i).1.imports.get? name
      = ((s.notice i.withoutAbstracts).gather i.withoutAbstracts).1.imports.get? name := by
  have hpath : Symbol.pathIn? ((s.notice i).needs i) name
      = Symbol.pathIn? ((s.notice i.withoutAbstracts).needs i.withoutAbstracts) name :=
    Symbol.pathIn?_congr (f := s.draft.framework) (fun _ => known_of_mem_notice_needs)
      (fun _ => known_of_mem_notice_needs) h
  rw [(get?_gather _ _).2, (get?_gather _ _).2, hpath, i.imports_withoutAbstracts]
  rfl

/-- Where no override is written the imports are those without abstract
functions. -/
private theorem paths_of_unfilled (h : i.isAbstract = false ∨ s.draft.framework = .mockito) :
    ((s.notice i).gather i).1.paths
      = ((s.notice i.withoutAbstracts).gather i.withoutAbstracts).1.paths := by
  have htable : ((s.notice i).gather i).1.imports
      = ((s.notice i.withoutAbstracts).gather i.withoutAbstracts).1.imports :=
    Table.eq_of_get?_eq fun name => get?_withoutAbstracts fun x _ => mem_needs_of_unfilled h
  rw [paths, htable, paths]

/-- The path that `mockk` is imported from: the one of the item's own
source, else the known one if it is needed, else the one that is left
from earlier steps. -/
def mockPath? (own left : Option String) (needed : Bool) : Option String :=
  own.or (if needed then some "io.mockk.mockk" else left)

section Filled

/- Objects of unnamed classes are those of the one framework. -/
variable (h : s.draft.framework = .mockk)

include h

/-- Under any other name abstract functions change nothing. -/
private theorem get?_of_ne_mockk {name : String} (hname : name ≠ "mockk") :
    ((s.notice i).gather i).1.imports.get? name
      = ((s.notice i.withoutAbstracts).gather i.withoutAbstracts).1.imports.get? name := by
  refine get?_withoutAbstracts fun x hx => ?_
  rw [mem_needs_withoutAbstracts, h]
  refine or_iff_left fun hmock => hname ?_
  rw [← hx, hmock.2]
  rfl

/-- Under its own name the known path is found if it is needed without
the abstract functions, or to fill them in. -/
private theorem get?_mockk :
    ((s.notice i).gather i).1.imports.get? "mockk"
      = mockPath? (i.imports.get? "mockk") (s.imports.get? "mockk")
        (decide (.mockkCall ∈ (s.notice i.withoutAbstracts).needs i.withoutAbstracts)
          || s.toolkit.mocksOverrides i) := by
  have hneeded : .mockkCall ∈ (s.notice i).needs i
      ↔ (decide (.mockkCall ∈ (s.notice i.withoutAbstracts).needs i.withoutAbstracts)
        || s.toolkit.mocksOverrides i) = true := by
    rw [mem_needs_withoutAbstracts, h, Bool.or_eq_true_iff, decide_eq_true_iff]
    exact or_congr_right (and_iff_left rfl)
  have hpath : Symbol.pathIn? ((s.notice i).needs i) "mockk" = _ :=
    Symbol.pathIn?_name (f := s.draft.framework) (x := .mockkCall)
      (fun _ => known_of_mem_notice_needs) (by rw [h]; decide)
  rw [(get?_gather _ _).2, hpath, mockPath?, if_congr hneeded rfl rfl]
  split <;> rfl

private theorem mem_paths_withoutAbstracts {path : String} :
    path ∈ ((s.notice i).gather i).1.paths
      ↔ (∃ name, name ≠ "mockk" ∧ ((s.notice i.withoutAbstracts).gather
            i.withoutAbstracts).1.imports.get? name = some path)
        ∨ mockPath? (i.imports.get? "mockk") (s.imports.get? "mockk")
            (decide (.mockkCall ∈ (s.notice i.withoutAbstracts).needs i.withoutAbstracts)
              || s.toolkit.mocksOverrides i) = some path := by
  rw [mem_paths_iff, ← get?_mockk h]
  constructor
  · rintro ⟨name, hname⟩
    by_cases hmockk : name = "mockk"
    · subst hmockk
      exact .inr hname
    · rw [get?_of_ne_mockk h hmockk] at hname
      exact .inl ⟨name, hmockk, hname⟩
  · rintro (⟨name, hmockk, hname⟩ | hname)
    · exact ⟨name, (get?_of_ne_mockk h hmockk).trans hname⟩
    · exact ⟨"mockk", hname⟩

end Filled

end Session

/-- The tests of an item do not look at its abstract functions, but for
those that an object of an unnamed class fills in. -/
private theorem Recipe.tests_withoutAbstracts {r : Recipe} {i : Item} {o : Occasion}
    (h : i.isAbstract = false ∨ r.toolkit.framework = .mockito) :
    r.tests i.withoutAbstracts o = r.tests i o := by
  cases i with
  | ofFile f n => simp only [tests, fileTests, Item.withoutAbstracts, concrete_concrete]
  | ofClass c =>
      have hcreation : r.toolkit.creation { c with functions := concrete c.functions }
          = r.toolkit.creation c := by
        rcases h with h | h
        · simp only [Toolkit.creation, show c.isAbstract = false from h]
          rfl
        · simp only [Toolkit.creation, Toolkit.abstractCreation, h]
          rfl
      simp only [tests, classTests, Item.withoutAbstracts, concrete_concrete, fixture, hcreation]

namespace Session

variable {s : Session} {i : Item}

/-- Besides imports, what is noticed about abstract functions reaches no
class. -/
private theorem occasion_withoutAbstracts (s : Session) (i : Item) (f : Framework) :
    (s.notice i).draft.facts.initialises f
        = (s.notice i.withoutAbstracts).draft.facts.initialises f
      ∧ s.toolkit.mocksFields i = s.toolkit.mocksFields i.withoutAbstracts := by
  constructor
  · rw [facts_notice]
    cases s.toolkit.mocksOverrides i <;> cases f <;> rfl
  · cases i <;> rfl

/-- Where no override is written the class is that without abstract
functions. -/
private theorem written_of_unfilled (h : i.isAbstract = false ∨ s.draft.framework = .mockito) :
    s.written i = s.written i.withoutAbstracts := by
  obtain ⟨hinit, hfields⟩ := occasion_withoutAbstracts s i s.draft.framework
  rw [written_eq, written_eq, paths_of_unfilled h, hinit, hfields]
  exact (Recipe.tests_withoutAbstracts h).symm

/-- Abstract functions reach the test class of a class through its imports
and the creation of the object under test only. -/
private theorem written_withoutAbstracts (s : Session) (c : ClassDecl) :
    s.written (.ofClass c) = { s.written (Item.ofClass c).withoutAbstracts with
      imports := (s.written (.ofClass c)).imports
      fixture := (s.written (Item.ofClass c).withoutAbstracts).fixture.map fun x =>
        { x with creation := s.toolkit.creation c } } := by
  obtain ⟨hinit, hfields⟩ := occasion_withoutAbstracts s (.ofClass c) s.draft.framework
  rw [written_imports, written_eq, written_eq, hinit, hfields]
  simp only [Recipe.tests, Recipe.classTests, Item.withoutAbstracts, concrete_concrete]
  rfl

/-- Where an object of an unnamed class is under test, classes that differ
in abstract functions only get the same lines but for the imports and for
the lines of the object's functions. -/
private theorem lines_of_filled {c : ClassDecl} (h : s.draft.framework = .mockk)
    (habstract : c.isAbstract = true) :
    ∃ upper lower, ∀ d, (Item.ofClass d).withoutAbstracts = (Item.ofClass c).withoutAbstracts →
      (s.written (.ofClass d)).lines .mockk
        = TestClass.packageLines c.package
          ++ TestClass.importBlock (s.written (.ofClass d)).imports ++ upper
          ++ [⟨2, s.draft.recipe.subject ++ " = "
            ++ ("object : " ++ c.name ++ "(" ++ commas c.paramNames ++ ") \x7b")⟩]
          ++ (s.toolkit.overrides d).map (fun o => ⟨3, o.text .mockk⟩)
          ++ [⟨2, "\x7d"⟩] ++ lower := by
  obtain ⟨x, hx, hsubject⟩ : ∃ x, (s.written (Item.ofClass c).withoutAbstracts).fixture = some x
      ∧ x.subject = s.draft.recipe.subject := by
    rw [written_eq]
    exact ⟨_, rfl, rfl⟩
  obtain ⟨upper, lower, hrest⟩ := TestClass.restLines_creation .mockk hx
  refine ⟨upper, lower, fun d hd => ?_⟩
  have hwritten := written_withoutAbstracts s d
  rw [hd] at hwritten
  have hrest' : (s.written (.ofClass d)).restLines .mockk = _ :=
    (congrArg (TestClass.restLines .mockk) hwritten).trans (hrest _ _)
  obtain ⟨fs, rfl⟩ := ClassDecl.eq_of_withoutAbstracts_eq hd
  have hcreation : s.toolkit.creation { c with functions := fs }
      = .anonymous c.name c.paramNames (s.toolkit.overrides { c with functions := fs }) := by
    rw [Toolkit.creation, habstract, if_pos rfl, Toolkit.abstractCreation,
      show s.toolkit.framework = .mockk from h]
    rfl
  have hpackage : (s.written (.ofClass { c with functions := fs })).package = c.package := by
    rw [written_eq]
    rfl
  rw [TestClass.lines_eq, hpackage, hrest', hcreation, hsubject]
  simp only [Creation.head, Creation.tail, List.append_assoc]

-- ================================================================== runs

/-- Abstract functions do not reach the tests, except through the object
of an unnamed class that fills them in. Items that differ in abstract
functions only get the same text where there is no such object. Where
there is one, the text differs in the lines of the object's functions
and in what is imported under the name `mockk`. -/
theorem text_add_abstracts (unit : String) (settings : Settings) (registry : Registry)
    (steps : List Step) (i : Item) :
    let s := (start settings registry).1.run steps
    let k := (settings.recipe registry).toolkit
    (i.isAbstract = false ∨ settings.framework = .mockito →
        ∃ chunk, ∀ j, j.withoutAbstracts = i.withoutAbstracts →
          (s.step (.add j)).1.text unit = s.text unit ++ chunk)
      ∧ ∀ c, i = .ofClass c → c.isAbstract = true → settings.framework = .mockk →
        ∃ (others : String → Prop) (base : Bool) (upper lower : List Line),
          ∀ d, (Item.ofClass d).withoutAbstracts = i.withoutAbstracts → ∃ imports,
            (s.step (.add (.ofClass d))).1.text unit = s.text unit ++ sourceText unit
                (TestClass.packageLines c.package ++ TestClass.importBlock imports ++ upper
                  ++ [⟨2, settings.subject ++ " = "
                    ++ ("object : " ++ c.name ++ "(" ++ commas c.paramNames ++ ") \x7b")⟩]
                  ++ (k.overrides d).map (fun o => ⟨3, o.text .mockk⟩)
                  ++ [⟨2, "\x7d"⟩] ++ lower)
              ∧ imports.Pairwise (· < ·)
              ∧ ∀ path, path ∈ imports ↔ others path
                ∨ mockPath? (c.imports.get? "mockk") (s.imports.get? "mockk")
                  (base || k.mocksResults (abstracts d.functions)) = some path := by
  intro s k
  have hframework : s.draft.framework = settings.framework := run_framework ..
  constructor
  · intro h
    refine ⟨sourceText unit ((s.written i.withoutAbstracts).lines settings.framework),
      fun j hj => ?_⟩
    have hunfilled : j.isAbstract = false ∨ s.draft.framework = .mockito := by
      rwa [hframework, ← j.isAbstract_withoutAbstracts, hj, i.isAbstract_withoutAbstracts]
    have hwritten : s.written j = s.written i.withoutAbstracts := by
      rw [written_of_unfilled hunfilled, hj]
    rw [← hwritten]
    exact text_step_add unit settings registry steps j
  · rintro c rfl habstract hmockk
    have hrecipe : s.draft.recipe = settings.recipe registry :=
      run_recipe (start settings registry).1 steps
    have htoolkit : s.toolkit = k := run_toolkit ..
    obtain ⟨upper, lower, hlines⟩ := lines_of_filled (hframework.trans hmockk) habstract
    let e := (Item.ofClass c).withoutAbstracts
    refine ⟨fun path => ∃ name, name ≠ "mockk"
      ∧ ((s.notice e).gather e).1.imports.get? name = some path,
      decide (.mockkCall ∈ (s.notice e).needs e), upper, lower, fun d hd => ?_⟩
    refine ⟨(s.written (.ofClass d)).imports, ?_, ?_, fun path => ?_⟩
    · rw [text_step_add, hmockk, hlines d hd, hrecipe, htoolkit]
      rfl
    · rw [written_imports]
      exact inOrder_ascending (paths_nodup _)
    · rw [written_imports, (inOrder_perm _).mem_iff,
        mem_paths_withoutAbstracts (hframework.trans hmockk), htoolkit, hd]
      obtain ⟨fs, rfl⟩ := ClassDecl.eq_of_withoutAbstracts_eq hd
      have habstract' : ({ c with functions := fs } : ClassDecl).isAbstract = true := habstract
      rw [Toolkit.mocksOverrides_of_abstract habstract']
      rfl

/-- A partial mock of a class does not show which functions it leaves
abstract, not even one with a result to be mocked. -/
theorem text_add_abstracts_partial_mock :
    let settings : Settings := ⟨.mockito, "subject", "actual", "TODO()", .none, true, "rule"⟩
    let store (fs : List FunctionDecl) : Item := .ofClass
      { package := "app"
        imports := ∅
        name := "Store"
        isAbstract := true
        params := []
        functions := fs }
    let size : FunctionDecl := ⟨"size", false, [], none, .named "Int" false⟩
    let find : FunctionDecl := ⟨"find", true, [], none, .named "Row" false⟩
    let s := (start settings Registry.standard).1
    (s.step (.add (store [find, size]))).1.text "" = (s.step (.add (store [size]))).1.text "" := by
  intro settings store size find s
  obtain ⟨chunk, hchunk⟩ :=
    (text_add_abstracts "" settings Registry.standard [] (store [size])).1 (.inr rfl)
  exact (hchunk (store [find, size]) rfl).trans (hchunk (store [size]) rfl).symm

/-- More than the presence of one import can change: a path that the
imports of an earlier file have left for `mockk` stays where nothing is
mocked, and gives way to the known one where an abstract function has a
result to be mocked. -/
theorem left_path_gives_way :
    let settings : Settings := ⟨.mockk, "subject", "actual", "TODO()", .none, false, "rule"⟩
    let util : Item := .ofFile ⟨"app", Table.ofList [("mockk", "own.mockk")], []⟩ "Util"
    let store (fs : List FunctionDecl) : Item := .ofClass
      { package := "app"
        imports := ∅
        name := "Store"
        isAbstract := true
        params := []
        functions := fs }
    let find : FunctionDecl := ⟨"find", true, [], none, .named "Row" false⟩
    let s := (start settings Registry.standard).1.run [.add util]
    (store [find]).withoutAbstracts = (store []).withoutAbstracts
      ∧ TestClass.importLine "own.mockk" ∈ (s.written (store [])).lines .mockk
      ∧ TestClass.importLine "own.mockk" ∉ (s.written (store [find])).lines .mockk := by
  refine ⟨rfl, ?_, ?_⟩ <;> decide +kernel

end Session

end TestDraft
