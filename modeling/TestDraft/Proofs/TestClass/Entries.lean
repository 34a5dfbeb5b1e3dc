/-
What a row of a parameterized class feeds to its tests. The constructor
takes the values of a row by their places, so a value reaches the test
that it is meant for only if the columns and the row are listed alike.
Both are lists of the same entries: those of one function after those of
another, and of each function its parameters and then its expected value.
So the entries of a function stand side by side behind those of the
functions in front of it (`FunctionDecl.getElem?_entries`), and its tests
name them in their order (`Recipe.takesFrom_of_mem_testsOf`).
-/
import TestDraft.Proofs.TestClass.Columns
import TestDraft.Proofs.TestClass.Locals

namespace TestDraft

open Text

-- =============================================================== columns

namespace FunctionDecl

variable {f : FunctionDecl} {fs before behind : List FunctionDecl}

private theorem entries_eq (f : FunctionDecl) :
    f.entries = f.params.map (fun p => (⟨f.columnName p, p.type⟩ : Parameter))
      ++ if f.result.isUnit then [] else [⟨f.expectedName, f.result⟩] := by
  unfold entries hasResult
  cases f.result.isUnit <;> rfl

/-- The entries of a function stand side by side, behind those of the
functions in front of it. -/
theorem getElem?_entries (hfs : fs = before ++ f :: behind) {n : Nat}
    (hn : n < f.entries.length) :
    (fs.flatMap entries)[(before.flatMap entries).length + n]? = f.entries[n]? := by
  subst hfs
  rw [List.flatMap_append, List.flatMap_cons, List.getElem?_append_right (Nat.le_add_right ..),
    Nat.add_sub_cancel_left, List.getElem?_append_left hn]

private theorem getElem?_param (hfs : fs = before ++ f :: behind) {n : Nat} {p : Parameter}
    (hp : f.params[n]? = some p) :
    (fs.flatMap entries)[(before.flatMap entries).length + n]?
      = some ⟨f.columnName p, p.type⟩ := by
  have hlength : n < f.params.length := (List.getElem?_eq_some_iff.1 hp).1
  have hentry : f.entries[n]? = some ⟨f.columnName p, p.type⟩ := by
    rw [entries_eq, List.getElem?_append_left (by rwa [List.length_map]), List.getElem?_map, hp]
    rfl
  rw [getElem?_entries hfs (List.getElem?_eq_some_iff.1 hentry).1, hentry]

private theorem getElem?_expected (hfs : fs = before ++ f :: behind)
    (hresult : f.result.isUnit = false) :
    (fs.flatMap entries)[(before.flatMap entries).length + f.params.length]?
      = some ⟨f.expectedName, f.result⟩ := by
  have hentry : f.entries[f.params.length]? = some ⟨f.expectedName, f.result⟩ := by
    rw [entries_eq, List.getElem?_append_right (Nat.le_of_eq (List.length_map _)),
      List.length_map, Nat.sub_self, hresult]
    rfl
  rw [getElem?_entries hfs (List.getElem?_eq_some_iff.1 hentry).1, hentry]

end FunctionDecl

/-- The lines of the constructor: each entry in its place, with a comma
behind it unless it is the last one. -/
private theorem Column.lines_map (es : List Parameter) (value : Parameter → Value) :
    lines (es.map fun e => ⟨e.name, e.type, value e⟩) = es.mapIdx fun n e =>
      ⟨1, "private val " ++ e.name ++ ": " ++ e.type.text
        ++ if n + 1 < es.length then "," else ""⟩ := by
  induction es with
  | nil => rfl
  | cons e es ih =>
      rw [List.mapIdx_cons]
      cases es with
      | nil => simp [lines, text]
      | cons e' es =>
          rw [List.map_cons] at ih
          rw [List.map_cons, List.map_cons, lines_cons_cons, ih]
          simp [text]

/-- The lines of the row stand together in the class. -/
private theorem TestClass.infix_lines_rowLines {f : Framework} {t : TestClass} {cs : List Column}
    (h : t.columns = some cs) : Column.rowLines f cs <:+: t.lines f := by
  have hfront : Column.rowLines f cs <:+: t.frontLines f := by
    unfold frontLines
    rw [h]
    exact ⟨(t.runner.toList.map fun r => ⟨0, r.text⟩) ++ t.openingLines, [.blank], by simp⟩
  have hrest : t.frontLines f <:+: t.restLines f := by
    unfold restLines
    rw [List.append_assoc]
    exact (List.prefix_append ..).isInfix
  rw [lines_eq]
  exact (hfront.trans hrest).trans (List.suffix_append ..).isInfix

-- =============================================================== methods

namespace Statement

/-- The call that a statement makes. -/
def call? : Statement → Option Call
  | call _ c | attempt _ c _ => some c
  | _ => none

/-- The operands that a statement compares. -/
def operands? : Statement → Option (String × String)
  | sameValue expected actual | sameException expected actual => some (expected, actual)
  | _ => none

end Statement

namespace TestMethod

/-- A test makes one call. -/
private theorem filterMap_call? (m : TestMethod) :
    m.statements.filterMap Statement.call? = [m.call] := by
  have hlocals : (m.locals.map fun l => Statement.value l.name l.value).filterMap Statement.call?
      = [] := by
    rw [List.filterMap_map]
    exact List.filterMap_eq_nil_iff.2 fun _ _ => rfl
  unfold statements given called checked
  simp only [List.filterMap_append, hlocals]
  cases m.receiver <;> cases m.locals <;> cases m.capture <;> cases m.expected <;>
    cases m.actual <;> rfl

/-- A test makes the comparison that is on record, and no other. -/
private theorem filterMap_operands? (m : TestMethod) :
    m.statements.filterMap Statement.operands? = m.compared.toList := by
  have hlocals : (m.locals.map fun l => Statement.value l.name l.value).filterMap
      Statement.operands? = [] := by
    rw [List.filterMap_map]
    exact List.filterMap_eq_nil_iff.2 fun _ _ => rfl
  unfold statements given called checked compared
  simp only [List.filterMap_append, hlocals]
  cases m.receiver <;> cases m.locals <;> cases m.capture <;> cases m.expected <;>
    cases m.actual <;> rfl

/-- That a test takes what it calls its function with, and what it
compares the outcome with, from some entries, of which those of the
function begin at a place. A test that catches an exception compares
nothing but that. -/
structure TakesFrom (es : List Parameter) (first : Nat) (f : FunctionDecl) (actual : String)
    (m : TestMethod) : Prop where
  args : ∃ callee args, m.statements.filterMap Statement.call? = [⟨callee, f.name, args⟩]
    ∧ args.length = f.params.length
    ∧ ∀ n p, f.params[n]? = some p → ∃ e, es[first + n]? = some e ∧ e.type = p.type
      ∧ args[n]? = some (if p.type.isUnit then .unit else .variable e.name)
  expected : m.capture = .none → f.result.isUnit = false →
    ∃ e, es[first + f.params.length]? = some e ∧ e.type = f.result
      ∧ m.statements.filterMap Statement.operands? = [(e.name, actual)]
  unit : m.capture = .none → f.result.isUnit = true →
    m.statements.filterMap Statement.operands? = []
  marked : m.capture = .marked → m.statements.filterMap Statement.operands? = []
  caught : m.capture = .caught →
    m.statements.filterMap Statement.operands? = [(expectedExceptionName, actualExceptionName)]

end TestMethod

/-- The tests of a function take its own entries, in their order. -/
theorem Recipe.takesFrom_of_mem_testsOf {r : Recipe} {i : Item} {before behind : List FunctionDecl}
    {f : FunctionDecl} {m : TestMethod} (hfs : i.tested = before ++ f :: behind)
    (hm : m ∈ r.testsOf i true f) :
    m.TakesFrom (i.tested.flatMap FunctionDecl.entries)
      (before.flatMap FunctionDecl.entries).length f r.actual := by
  obtain ⟨c, -, rfl⟩ := List.mem_map.1 hm
  refine ⟨⟨f.callee (r.subject? i), f.params.map (f.argument true), ?call, List.length_map ..,
    fun n p hp => ?arg⟩, fun hc hresult => ?expected, fun hc hresult => ?unit, fun hc => ?marked,
    fun hc => ?caught⟩
  case call => exact TestMethod.filterMap_call? _
  case arg =>
    refine ⟨_, FunctionDecl.getElem?_param hfs hp, rfl, ?_⟩
    rw [List.getElem?_map, hp]
    rfl
  case expected =>
    refine ⟨_, FunctionDecl.getElem?_expected hfs hresult, rfl, ?_⟩
    rw [TestMethod.filterMap_operands?]
    cases hc
    simp [TestMethod.compared, method, FunctionDecl.hasResult, hresult]
  case unit =>
    rw [TestMethod.filterMap_operands?]
    cases hc
    simp [TestMethod.compared, method, FunctionDecl.hasResult, hresult]
  case marked =>
    rw [TestMethod.filterMap_operands?]
    cases hc
    rfl
  case caught =>
    rw [TestMethod.filterMap_operands?]
    cases hc
    rfl

namespace Draft

/-- The constructor and the row of a parameterized class list the same
entries: for each function in turn its parameters, and its expected value
unless it gives the unit type. Each test of a function calls it with the
names of its entries, or with the unit value, and compares the outcome
with its expected value; only a test that catches an exception compares
something else. -/
theorem rows_feed_tests (d : Draft) (i : Item) (imports : List String) (mockedFields : Bool)
    (unit : String) :
    let t := d.tests i imports true mockedFields
    let es : List Parameter := i.tested.flatMap fun f =>
      f.params.map (fun p => ⟨f.columnName p, p.type⟩)
        ++ if f.result.isUnit then [] else [⟨f.expectedName, f.result⟩]
    let values := es.map fun e => d.framework.valueText (d.recipe.toolkit.value e.name e.type)
    (d.add i imports true mockedFields).text unit
        = d.text unit ++ sourceText unit (t.lines d.framework)
      ∧ t.openingLines <:+: t.lines d.framework
      ∧ (es = [] → t.openingLines = [⟨0, "class " ++ t.name ++ "Test \x7b"⟩]
          ∧ "arrayOf(" ++ commas values ++ ")" = "arrayOf()")
      ∧ (es ≠ [] → t.openingLines = [⟨0, "class " ++ t.name ++ "Test("⟩]
          ++ es.mapIdx (fun n e => ⟨1, "private val " ++ e.name ++ ": " ++ e.type.text
            ++ if n + 1 < es.length then "," else ""⟩)
          ++ [⟨0, ") \x7b"⟩])
      ∧ [⟨2, "@Parameters"⟩, ⟨2, "fun data(): Collection<Array<*>> = listOf("⟩,
          ⟨3, "arrayOf(" ++ commas values ++ ")"⟩, ⟨2, ")"⟩] <:+: t.lines d.framework
      ∧ t.methods = i.tested.flatMap (d.recipe.testsOf i true)
      ∧ ∀ before f behind, i.tested = before ++ f :: behind →
          ∀ m ∈ d.recipe.testsOf i true f,
            m.lines d.framework <:+: t.lines d.framework
              ∧ m.lines d.framework
                = [⟨1, TestMethod.markText m.capture⟩, ⟨1, "fun `" ++ m.title ++ "`() \x7b"⟩]
                  ++ m.statements.flatMap (Statement.lines d.framework) ++ [⟨1, "\x7d"⟩]
              ∧ m.TakesFrom es (before.flatMap FunctionDecl.entries).length f d.recipe.actual := by
  intro t es values
  have hentries : es = i.tested.flatMap FunctionDecl.entries :=
    congrArg (List.flatMap · i.tested) (funext fun f => f.entries_eq.symm)
  have hcolumns : t.columns = some (es.map fun e =>
      ⟨e.name, e.type, d.recipe.toolkit.value e.name e.type⟩) := by
    rw [hentries]
    exact d.columns_tests i imports mockedFields
  have hmethods : t.methods = i.tested.flatMap (d.recipe.testsOf i true) :=
    d.recipe.methods_tests i _
  refine ⟨d.text_add unit i imports true mockedFields, TestClass.infix_lines_openingLines,
    fun hes => ?bare, fun hes => ?opening, ?row, hmethods, fun before f behind hfs m hm =>
      ⟨?method, m.lines_eq _, ?takes⟩⟩
  case bare =>
    have hvalues : values = [] := List.map_eq_nil_iff.2 hes
    rw [TestClass.openingLines, hcolumns, hes, hvalues]
    exact ⟨rfl, by decide⟩
  case opening =>
    rw [TestClass.openingLines_of_columns hcolumns (mt List.map_eq_nil_iff.1 hes),
      Column.lines_map es fun e => d.recipe.toolkit.value e.name e.type]
  case row =>
    have hrow := TestClass.infix_lines_rowLines (f := d.framework) hcolumns
    refine List.IsInfix.trans ?_ hrow
    have hvalues : (es.map fun e => (⟨e.name, e.type, d.recipe.toolkit.value e.name e.type⟩ :
        Column)).map (fun c => d.framework.valueText c.value) = values := by
      rw [List.map_map]
      rfl
    unfold Column.rowLines
    rw [hvalues]
    exact ⟨[⟨1, "companion object \x7b"⟩, ⟨2, "@JvmStatic"⟩], [⟨1, "\x7d"⟩], rfl⟩
  case method =>
    have hf : f ∈ i.tested := by
      rw [hfs]
      exact List.mem_append_right _ List.mem_cons_self
    apply TestClass.infix_lines_of_mem_methods
    rw [hmethods]
    exact List.mem_flatMap.2 ⟨f, hf, hm⟩
  case takes =>
    rw [hentries]
    exact Recipe.takesFrom_of_mem_testsOf hfs hm

/-- The entries of a function that logs a text are in front of the one of
a function that counts: its value comes third in the row. -/
theorem rows_feed_tests_third :
    let recipe : Recipe :=
      ⟨⟨.mockito, "rule", Registry.standard⟩, "cut", "actual", "TODO()", .marked⟩
    let log : FunctionDecl :=
      { name := "log"
        isAbstract := false
        params := [⟨"done", .named "Unit" false⟩, ⟨"text", .named "String" false⟩]
        receiver := none
        result := .named "Unit" false }
    let count : FunctionDecl :=
      { name := "count"
        isAbstract := false
        params := []
        receiver := none
        result := .named "Int" false }
    let journal : Item := .ofFile { package := "app", imports := ∅, functions := [log, count] }
      "Journal"
    let t := (Draft.start recipe).tests journal [] true false
    let m := recipe.method none true [log, count] count .none
    t.openingLines = [⟨0, "class JournalTest("⟩, ⟨1, "private val logDone: Unit,"⟩,
        ⟨1, "private val logText: String,"⟩, ⟨1, "private val countExpected: Int"⟩, ⟨0, ") \x7b"⟩]
      ∧ [⟨2, "@Parameters"⟩, ⟨2, "fun data(): Collection<Array<*>> = listOf("⟩,
        ⟨3, "arrayOf(Unit, \"logText\", 0)"⟩, ⟨2, ")"⟩] <:+: t.lines .mockito
      ∧ ∃ e, [(⟨"logDone", .named "Unit" false⟩ : Parameter), ⟨"logText", .named "String" false⟩,
          ⟨"countExpected", .named "Int" false⟩][2 + 0]? = some e ∧ e.type = .named "Int" false
        ∧ m.statements.filterMap Statement.operands? = [(e.name, "actual")] := by
  intro recipe log count journal t m
  obtain ⟨-, -, -, hopening, hrow, -, htests⟩ :=
    rows_feed_tests (.start recipe) journal [] false "    "
  obtain ⟨-, -, htakes⟩ := htests [log] count [] rfl m (by decide +kernel)
  exact ⟨(hopening (by decide +kernel)).trans (by decide +kernel), hrow, htakes.expected rfl rfl⟩

/-- The test that catches what a function throws: what it compares with is
the exception, not the expected value of the function. -/
theorem row_not_compared_where_caught :
    let recipe : Recipe :=
      ⟨⟨.mockito, "rule", Registry.standard⟩, "cut", "actual", "TODO()", .caught⟩
    let size : FunctionDecl :=
      { name := "size"
        isAbstract := false
        params := []
        receiver := none
        result := .named "Int" false }
    let box : Item := .ofFile { package := "app", imports := ∅, functions := [size] } "Box"
    let t := (Draft.start recipe).tests box [] true false
    size.entries = [⟨"sizeExpected", .named "Int" false⟩]
      ∧ ∃ m ∈ t.methods,
        m.statements.filterMap Statement.operands? = [("expectedException", "actualException")]
          ∧ (⟨2, "assertEquals(expectedException, actualException)"⟩ : Line) ∈ m.lines .mockito
          ∧ ¬ ∀ o ∈ m.statements.filterMap Statement.operands?, o.1 = "sizeExpected" := by
  intro recipe size box t
  refine ⟨by decide, recipe.method none true [size] size .caught, ?_, ?_, ?_, ?_⟩ <;>
    decide +kernel

end Draft

end TestDraft
