/-
The brackets of all that a session writes. A recipe puts together words
of its own and words of its item only (`Recipe.allNested_tests`), and a
session adds paths that the items bring or that are known beforehand. So
every step keeps the text well-nested, as long as the words from outside
are (`Session.Balanced.step`); whether a block is opened and whether it
is closed is never decided apart.
-/
import TestDraft.Proofs.Session.Imports
import TestDraft.Proofs.TestClass.Balance

namespace TestDraft

open Text

-- =============================================================== recipes

namespace Recipe

/-- That all that a recipe puts into tests is well-nested. -/
structure Nested (r : Recipe) : Prop where
  subject : WellNested r.subject
  actual : WellNested r.actual
  assertion : WellNested r.assertion
  rule : WellNested r.toolkit.rule
  registry : r.toolkit.registry.KeepsNesting

variable {r : Recipe} {f : FunctionDecl} {fs : List FunctionDecl}

/-- A title has the name of its function, and the types of overloads in
brackets that are closed again. -/
private theorem wellNested_title (hf : AllNested f.words) (overloaded : Bool) (c : Capture) :
    WellNested (f.title overloaded c) := by
  have hsignature : WellNested
      (if overloaded then "(" ++ commas (f.params.map (·.type.text)) ++ ")" else "") := by
    cases overloaded with
    | false => exact (rfl : WellNested "")
    | true =>
        have htypes : WellNested (commas (f.params.map (·.type.text))) := by
          refine wellNested_commas (List.forall_mem_map.2 fun p hp => ?_)
          have hp := FunctionDecl.allNested_param hf hp
          exact TypeExpr.wellNested_text (Parameter.allNested_type hp)
        exact htypes.between rfl rfl
  have houtcome : WellNested c.outcome := by cases c <;> decide
  have hgiven : WellNested ("Given _ when " ++ f.titleName) :=
    (FunctionDecl.wellNested_titleName hf).after rfl
  exact (hgiven.append hsignature).joined houtcome rfl

/-- What a function is called on has no words besides the name of the
object under test. -/
private theorem words_callee (f : FunctionDecl) (subject : Option String) :
    (f.callee subject).words = subject.toList := by
  unfold FunctionDecl.callee
  cases subject <;> cases f.receiver.isNone <;> rfl

/-- A call has no words but the subject, the name of its function, and
columns or parameters. -/
private theorem allNested_call {subject : Option String} (hsubject : AllNested subject.toList)
    (hf : AllNested f.words) (parameterized : Bool) :
    AllNested (Call.words ⟨f.callee subject, f.name, f.params.map (f.argument parameterized)⟩) := by
  have hargs : AllNested ((f.params.map (f.argument parameterized)).map Argument.text) := by
    refine List.forall_mem_map.2 (List.forall_mem_map.2 fun p hp => ?_)
    unfold FunctionDecl.argument
    by_cases hunit : p.type.isUnit = true
    · rw [if_pos hunit]
      decide
    rw [if_neg hunit]
    cases parameterized with
    | true => exact FunctionDecl.wellNested_columnName hf hp
    | false => exact Parameter.wellNested_name (FunctionDecl.allNested_param hf hp)
  have hnames : AllNested (f.name :: (f.callee subject).words) := by
    rw [words_callee]
    exact allNested_cons.2 ⟨FunctionDecl.wellNested_name hf, hsubject⟩
  exact allNested_append.2 ⟨hnames, hargs⟩

/-- All words of a test come from the recipe and its function. -/
private theorem allNested_method {subject : Option String} (hr : r.Nested)
    (hsubject : AllNested subject.toList) (hf : AllNested f.words) (parameterized : Bool)
    (c : Capture) : AllNested (r.method subject parameterized fs f c).words := by
  refine TestMethod.allNested_words_iff.2 ⟨wellNested_title hf _ c, hr.assertion, ?locals,
    ?receiver, allNested_call hsubject hf parameterized, ?actual, ?expected⟩
  case locals =>
    show ∀ l ∈ (if parameterized then [] else
      f.params.map fun p => (⟨p.name, r.toolkit.value p.name p.type⟩ : Local)), _
    cases parameterized with
    | true => nofun
    | false =>
        refine List.forall_mem_map.2 fun p hp => ?_
        have hp := FunctionDecl.allNested_param hf hp
        have hname := Parameter.wellNested_name hp
        have hvalue := Registry.allNested_value hr.registry hname (Parameter.allNested_type hp)
        exact allNested_cons.2 ⟨hname, hvalue⟩
  case receiver =>
    intro v hv
    obtain ⟨t, ht, rfl⟩ := Option.map_eq_some_iff.1 hv
    have ht := FunctionDecl.allNested_receiver hf ht
    exact Registry.allNested_value hr.registry (TypeExpr.wellNested_name ht) ht
  case actual =>
    show AllNested (if c = .none && f.hasResult then some r.actual else none).toList
    split
    next => exact allNested_cons.2 ⟨hr.actual, allNested_nil⟩
    next => exact allNested_nil
  case expected =>
    show AllNested (if parameterized && f.hasResult then some f.expectedName else none).toList
    split
    next => exact allNested_cons.2 ⟨FunctionDecl.wellNested_expectedName hf, allNested_nil⟩
    next => exact allNested_nil

/-- Columns are named after functions and parameters. -/
private theorem allNested_columns (hr : r.Nested) (hfs : ∀ f ∈ fs, AllNested f.words) :
    ∀ c ∈ r.toolkit.columns fs, AllNested c.words := by
  have hentries : ∀ f ∈ fs, ∀ e ∈ f.entries, AllNested e.words := by
    intro f hf
    have hf := hfs f hf
    unfold FunctionDecl.entries
    refine List.forall_mem_append.2 ⟨List.forall_mem_map.2 fun p hp => ?_, ?_⟩
    · have htype := Parameter.allNested_type (FunctionDecl.allNested_param hf hp)
      exact allNested_cons.2 ⟨FunctionDecl.wellNested_columnName hf hp, htype⟩
    · split
      next =>
        exact List.forall_mem_singleton.2 (allNested_cons.2
          ⟨FunctionDecl.wellNested_expectedName hf, FunctionDecl.allNested_result hf⟩)
      next => nofun
  refine List.forall_mem_map.2 fun e he => ?_
  obtain ⟨f, hf, he⟩ := List.mem_flatMap.1 he
  have he := hentries f hf e he
  have hname := Parameter.wellNested_name he
  have htype := Parameter.allNested_type he
  exact allNested_append.2 ⟨allNested_cons.2 ⟨hname, htype⟩,
    Registry.allNested_value hr.registry hname htype⟩

/-- A field has the name of its parameter, and its type or a literal. -/
private theorem allNested_field {p : Parameter} (hr : r.Nested) (hp : AllNested p.words) :
    AllNested (r.toolkit.field p).words := by
  have hname := Parameter.wellNested_name hp
  have hvalue := Registry.allNested_value hr.registry hname
    (Parameter.allNested_type hp)
  change AllNested (r.toolkit.value p.name p.type).words at hvalue
  unfold Toolkit.field
  cases hv : r.toolkit.value p.name p.type with
  | literal text | mock t =>
      rw [hv] at hvalue
      exact allNested_cons.2 ⟨hname, hvalue⟩

/-- An object has the name of its class, those of the parameters, and what
abstract functions bring along. -/
private theorem allNested_creation {c : ClassDecl} (hr : r.Nested) (hc : AllNested c.words) :
    AllNested (r.toolkit.creation c).words := by
  obtain ⟨-, hname, -, hparams, hfunctions⟩ := ClassDecl.allNested_words_iff.1 hc
  have hargs : AllNested c.paramNames :=
    List.forall_mem_map.2 fun p hp => Parameter.wellNested_name (hparams p hp)
  have hoverrides : AllNested ((r.toolkit.overrides c).flatMap Override.words) := by
    refine allNested_flatMap.2 (List.forall_mem_map.2 fun f hf => ?_)
    have hf := hfunctions f (List.mem_filter.1 hf).1
    have hvalue := Registry.allNested_value hr.registry
      (FunctionDecl.wellNested_name hf) (FunctionDecl.allNested_result hf)
    exact allNested_append.2 ⟨hf, hvalue⟩
  unfold Toolkit.creation
  cases c.isAbstract with
  | false => exact allNested_cons.2 ⟨hname, hargs⟩
  | true =>
      show AllNested (r.toolkit.abstractCreation c).words
      unfold Toolkit.abstractCreation
      cases r.toolkit.framework with
      | mockito => exact hargs
      | mockk => exact allNested_append.2 ⟨allNested_cons.2 ⟨hname, hargs⟩, hoverrides⟩

/-- Rule and subject come from the recipe, all else in a fixture from the
class. -/
private theorem allNested_fixture {c : ClassDecl} (hr : r.Nested) (hc : AllNested c.words)
    (o : Occasion) : AllNested (r.fixture c o).words := by
  obtain ⟨-, hname, -, hparams, -⟩ := ClassDecl.allNested_words_iff.1 hc
  have hrules : AllNested (r.fixture c o).rule.toList := by
    show AllNested (if o.parameterized && o.mockedFields then r.toolkit.rule? else none).toList
    split
    next =>
      unfold Toolkit.rule?
      cases r.toolkit.framework with
      | mockito => exact allNested_cons.2 ⟨hr.rule, allNested_nil⟩
      | mockk => exact allNested_nil
    next => exact allNested_nil
  have hfields : AllNested ((c.params.map r.toolkit.field).flatMap Field.words) :=
    allNested_flatMap.2 (List.forall_mem_map.2 fun p hp => allNested_field hr (hparams p hp))
  have hleft := allNested_cons.2 ⟨hr.subject, allNested_cons.2 ⟨hname, hrules⟩⟩
  exact allNested_append.2 ⟨allNested_append.2 ⟨hleft, hfields⟩, allNested_creation hr hc⟩

/-- All tests of some functions are made of such words. -/
private theorem allNested_methods {subject : Option String} (hr : r.Nested)
    (hsubject : AllNested subject.toList) (hfs : ∀ f ∈ fs, AllNested f.words)
    (parameterized : Bool) : ∀ m ∈ r.methods subject parameterized fs, AllNested m.words := by
  intro m hm
  obtain ⟨f, hf, hm⟩ := List.mem_flatMap.1 hm
  obtain ⟨c, -, rfl⟩ := List.mem_map.1 hm
  exact allNested_method hr hsubject (hfs f hf) parameterized c

/-- The words of a test class come from the recipe, the item and the
imports. -/
theorem allNested_tests {i : Item} {o : Occasion} (hr : r.Nested)
    (hi : AllNested i.words) (ho : AllNested o.imports) : AllNested (r.tests i o).words := by
  have hsorted : AllNested (inOrder o.imports) := fun p hp =>
    ho p ((inOrder_perm o.imports).mem_iff.1 hp)
  have hcolumns : ∀ fs : List FunctionDecl, (∀ f ∈ fs, AllNested f.words) →
      ∀ cs, (if o.parameterized then some (r.toolkit.columns fs) else none) = some cs →
        ∀ c ∈ cs, AllNested c.words := by
    intro fs hfs cs hcs
    cases hp : o.parameterized with
    | false => simp [hp] at hcs
    | true =>
        obtain rfl : r.toolkit.columns fs = cs := by simpa [hp] using hcs
        exact allNested_columns hr hfs
  cases i with
  | ofClass c =>
      obtain ⟨hpackage, hname, -, -, hfunctions⟩ := ClassDecl.allNested_words_iff.1 hi
      have htested : ∀ f ∈ concrete c.functions, AllNested f.words :=
        fun f hf => hfunctions f (List.mem_filter.1 hf).1
      have hsubject : AllNested (some r.subject).toList :=
        allNested_cons.2 ⟨hr.subject, allNested_nil⟩
      refine TestClass.allNested_words_iff.2 ⟨hpackage, hname, hsorted, hcolumns _ htested, ?_,
        allNested_methods hr hsubject htested o.parameterized⟩
      intro x hx
      obtain rfl : r.fixture c o = x := Option.some.inj hx
      exact allNested_fixture hr hi o
  | ofFile f n =>
      obtain ⟨hname, hf⟩ := allNested_cons.1 hi
      obtain ⟨hpackage, -, hfunctions⟩ := FileDecl.allNested_words_iff.1 hf
      have htested : ∀ g ∈ concrete f.functions, AllNested g.words :=
        fun g hg => hfunctions g (List.mem_filter.1 hg).1
      have hnone : AllNested (none : Option String).toList := allNested_nil
      exact TestClass.allNested_words_iff.2 ⟨hpackage, hname, hsorted, hcolumns _ htested, nofun,
        allNested_methods hr hnone htested o.parameterized⟩

end Recipe

-- ================================================================= steps

/-- The words that settings bring along. -/
def Settings.words (s : Settings) : List String := [s.subject, s.actual, s.assertion, s.rule]

/-- The words of settings, one by one. -/
theorem Settings.allNested_words_iff {s : Settings} :
    AllNested s.words ↔ WellNested s.subject ∧ WellNested s.actual ∧ WellNested s.assertion
      ∧ WellNested s.rule := by
  simp only [words, allNested_cons, allNested_nil, and_true]

/-- The words that a step brings along. A name to import is only looked
up, so no text shows it. -/
def Step.words : Step → List String
  | .add i => i.words
  | .addImport _ | .reset | .read => []

/-- The known paths are plain. -/
private theorem Symbol.wellNested_path (x : Symbol) : WellNested x.path := by
  cases x <;> decide

namespace Session

/-- What steps keep: the words at hand are well-nested, and so is the
text written so far. -/
structure Balanced (s : Session) : Prop where
  recipe : s.draft.recipe.Nested
  imports : AllNested s.imports.values
  text : ∀ unit, WellNested unit → WellNested (s.text unit)

variable {s : Session}

/-- At the start nothing has been written. -/
private theorem balanced_start {settings : Settings} {registry : Registry}
    (hsettings : AllNested settings.words) (hregistry : registry.KeepsNesting) :
    Balanced (start settings registry).1 where
  recipe := by
    obtain ⟨hsubject, hactual, hassertion, hrule⟩ := Settings.allNested_words_iff.1 hsettings
    exact ⟨hsubject, hactual, hassertion, hrule, hregistry⟩
  imports := allNested_nil
  text := fun _ _ => rfl

/-- A name to import brings in a known path, or nothing. -/
theorem Balanced.addImport (h : s.Balanced) (name : String) :
    AllNested (s.addImport name).1.imports.values := by
  unfold Session.addImport
  cases s.draft.framework.symbol? name with
  | none => exact h.imports
  | some x =>
      intro path hpath
      rcases Table.mem_values_insert hpath with rfl | hpath
      · exact x.wellNested_path
      · exact h.imports path hpath

/-- The paths gathered for an item are its own, known ones, or paths
gathered before. -/
theorem Balanced.gather (h : s.Balanced) {i : Item} (hi : AllNested i.words) :
    AllNested (s.gather i).1.imports.values := by
  intro path hpath
  obtain ⟨name, hget⟩ := Table.mem_values_iff.1 hpath
  rw [(get?_gather s i).2 name] at hget
  rcases Option.or_eq_some_iff.1 hget with hown | ⟨-, hget⟩
  · exact Item.allNested_imports hi path (Table.mem_values_of_get? hown)
  rcases Option.or_eq_some_iff.1 hget with hknown | ⟨-, hleft⟩
  · obtain ⟨x, -, rfl⟩ := Option.map_eq_some_iff.1 hknown
    exact x.wellNested_path
  · exact h.imports path (Table.mem_values_of_get? hleft)

/-- The words of the test class that adding an item writes. -/
theorem Balanced.written (h : s.Balanced) {i : Item} (hi : AllNested i.words) :
    AllNested (s.written i).words := by
  have hnoticed : (s.notice i).Balanced := ⟨h.recipe, h.imports, h.text⟩
  have hpaths : AllNested ((s.notice i).gather i).1.paths :=
    fun path hpath => hnoticed.gather hi path (List.mem_eraseDups.1 hpath)
  rw [written_eq]
  exact Recipe.allNested_tests h.recipe hi hpaths

/-- An item puts the lines of its test class behind the text, and these
leave nothing open. -/
theorem Balanced.add (h : s.Balanced) {i : Item} (hi : AllNested i.words) :
    Balanced (s.add i).1 where
  recipe := by
    rw [(add_frame s i).1]
    exact h.recipe
  imports :=
    have hnoticed : (s.notice i).Balanced := ⟨h.recipe, h.imports, h.text⟩
    hnoticed.gather hi
  text := by
    intro unit hunit
    rw [text_add]
    apply (h.text unit hunit).append
    rw [WellNested, closersDue_sourceText hunit]
    exact TestClass.linesDue_lines s.draft.framework (h.written hi) []

/-- Each step keeps the text well-nested. -/
theorem Balanced.step (h : s.Balanced) {x : Step} (hx : AllNested x.words) :
    Balanced (s.step x).1 := by
  cases x with
  | add i => exact h.add hx
  | addImport n =>
      have hdraft : (s.addImport n).1.draft = s.draft := (addImports_frame s [n]).1
      refine ⟨?_, h.addImport n, fun unit hunit => ?_⟩
      · show (s.addImport n).1.draft.recipe.Nested
        rw [hdraft]
        exact h.recipe
      · show WellNested ((s.addImport n).1.draft.text unit)
        rw [hdraft]
        exact h.text unit hunit
  | reset => exact ⟨h.recipe, allNested_nil, fun _ _ => rfl⟩
  | read => exact h

/-- So do several steps. -/
theorem Balanced.run (h : s.Balanced) {steps : List Step}
    (hsteps : ∀ x ∈ steps, AllNested x.words) : Balanced (s.run steps) := by
  induction steps generalizing s with
  | nil => exact h
  | cons x xs ih =>
      obtain ⟨hx, hxs⟩ := List.forall_mem_cons.1 hsteps
      exact ih (h.step hx) hxs

/-- After any steps the text is well-nested in round and curly brackets,
if the words of the settings and of the added items are, the literals of
the registry too, and the unit of indentation. Nothing else is asked of
any word, the names of parameters included. -/
theorem brackets_nested {unit : String} {settings : Settings} {registry : Registry}
    {steps : List Step} (hunit : WellNested unit) (hsettings : AllNested settings.words)
    (hregistry : registry.KeepsNesting) (hsteps : ∀ x ∈ steps, AllNested x.words) :
    WellNested (((start settings registry).1.run steps).text unit) :=
  ((balanced_start hsettings hregistry).run hsteps).text unit hunit

/-- Names, an assertion and an indentation with brackets of their own,
an unnamed class, an attempt within the object under test, a function
literal and a row of values. -/
theorem brackets_nested_unnamed_class :
    let settings : Settings :=
      ⟨.mockk, "store", "actual", "check \x7b (it) \x7d", .caught, true, "rule"⟩
    let visit : TypeExpr := .function "Unit" false [.named "Row()" true]
    let store : Item := .ofClass
      { package := "app"
        imports := Table.ofList [("Row", "own.(Row)")]
        name := "Store\x7b\x7d"
        isAbstract := true
        params := [⟨"rows", .named "Rows" false⟩]
        functions :=
          [⟨"each", false, [⟨"visit", visit⟩], some (.named "Key" false), .named "Int" true⟩,
           ⟨"size", true, [], none, .named "Int" false⟩] }
    let steps : List Step :=
      [.add store, .read, .addImport "Row", .add (.ofFile ⟨"app", ∅, []⟩ "Util")]
    (WellNested "()" ∧ AllNested settings.words ∧ Registry.standard.KeepsNesting
        ∧ ∀ x ∈ steps, AllNested x.words)
      ∧ WellNested (((start settings Registry.standard).1.run steps).text "()") := by
  intro settings visit store steps
  have hunit : WellNested "()" := by decide
  have hsettings : AllNested settings.words := by decide
  have hregistry := Registry.keepsNesting_standard
  have hsteps : ∀ x ∈ steps, AllNested x.words := by decide +kernel
  exact ⟨⟨hunit, hsettings, hregistry, hsteps⟩,
    brackets_nested hunit hsettings hregistry hsteps⟩

end Session

end TestDraft
