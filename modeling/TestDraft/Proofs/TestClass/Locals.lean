/-
The variables that a test method declares. Each statement declares a few
names, in a line of its own for each of them, so what a method declares is
read off its statements (`TestMethod.flatMap_declares`): the parameters of
the function where they have no columns, and the names that every test
brings along. The latter never meet each other, and a parameter is spelled
as its function has it. So whether a name is declared twice hangs on the
parameters alone (`Recipe.declared_nodup_iff`): a parameter may take the
name of the receiver, of the value that the call gives or of one of the
exceptions, and nothing renames it.

That no other line declares a variable hangs on the words from outside
that a line may start with: the name of a function, of the object under
test, or an assertion. Only words like `val x` could pass for one.
-/
import Mathlib.Data.List.Nodup
import TestDraft.Proofs.TestClass.Scopes

namespace TestDraft

open Text

-- ================================================================= lines

/-- Whether a text starts like a declaration. -/
def startsDeclaration (text : String) : Bool :=
  "val ".toList.isPrefixOf text.toList || "lateinit var ".toList.isPrefixOf text.toList

/-- What stands behind a character that is not looked for does not matter. -/
private theorem isPrefixOf_append_cons {c : Char} {pre : List Char} (h : c ∉ pre)
    (xs ys : List Char) :
    pre.isPrefixOf (xs ++ c :: ys) = pre.isPrefixOf xs := by
  induction pre generalizing xs with
  | nil => rfl
  | cons d ds ih =>
      obtain ⟨hd, hds⟩ := not_or.1 (mt List.mem_cons.2 h)
      cases xs with
      | nil => simp [List.isPrefixOf, beq_false_of_ne (Ne.symm hd)]
      | cons x xs =>
          rw [List.cons_append, List.isPrefixOf_cons_cons, List.isPrefixOf_cons_cons, ih hds]

/-- Text behind a line that is not part of a declaration word changes
nothing. -/
private theorem startsDeclaration_append {text rest : String} {c : Char} {cs : List Char}
    (hrest : rest.toList = c :: cs) (hval : c ∉ "val ".toList)
    (hvar : c ∉ "lateinit var ".toList) :
    startsDeclaration (text ++ rest) = startsDeclaration text := by
  unfold startsDeclaration
  rw [String.toList_append, hrest, isPrefixOf_append_cons hval, isPrefixOf_append_cons hvar]

/-- Whether a line declares a variable of a test method. -/
def DeclaresLocal (l : Line) (name : String) : Prop :=
  (∃ value, l.text = "val " ++ name ++ " = " ++ value)
    ∨ l.text = "lateinit var " ++ name ++ ": Exception"

private theorem DeclaresLocal.startsDeclaration {l : Line} {name : String}
    (h : DeclaresLocal l name) :
    startsDeclaration l.text = true := by
  rcases h with ⟨value, h⟩ | h <;> rw [h] <;> simp [TestDraft.startsDeclaration, List.isPrefixOf]

/-- That some lines declare some variables, in their order, and where
nothing from outside looks like a declaration they declare no others. -/
def DeclaresLocals (plain : Prop) (ls : List Line) (names : List String) : Prop :=
  ∃ ds, ds.Sublist ls ∧ List.Forall₂ DeclaresLocal ds names
    ∧ (plain → ls.filter (startsDeclaration ·.text) = ds)

private theorem declaresLocals_nil {plain : Prop} {ls : List Line}
    (h : plain → ∀ l ∈ ls, startsDeclaration l.text = false) : DeclaresLocals plain ls [] := by
  refine ⟨[], List.nil_sublist ls, .nil, fun hplain => List.filter_eq_nil_iff.2 fun l hl => ?_⟩
  simp [h hplain l hl]

namespace DeclaresLocals

variable {plain plain' : Prop} {l : Line} {ls ms : List Line} {names others : List String}

/-- A single declaration. -/
private theorem of_line {name : String} (h : DeclaresLocal l name) :
    DeclaresLocals plain [l] [name] := by
  refine ⟨[l], List.Sublist.refl _, .cons h .nil, fun _ => ?_⟩
  simp [h.startsDeclaration]

/-- Lines in sequence declare their names in sequence. -/
theorem append (h : DeclaresLocals plain ls names) (h' : DeclaresLocals plain ms others) :
    DeclaresLocals plain (ls ++ ms) (names ++ others) := by
  obtain ⟨ds, hds, hnames, hall⟩ := h
  obtain ⟨es, hes, hothers, hall'⟩ := h'
  refine ⟨ds ++ es, hds.append hes, List.rel_append hnames hothers, fun hplain => ?_⟩
  rw [List.filter_append, hall hplain, hall' hplain]

theorem imp (h : DeclaresLocals plain ls names) (hplain : plain' → plain) :
    DeclaresLocals plain' ls names := by
  obtain ⟨ds, hds, hnames, hall⟩ := h
  exact ⟨ds, hds, hnames, fun h' => hall (hplain h')⟩

end DeclaresLocals

-- ============================================================ statements

/-- That what a call starts with, if nothing stands in front of it, does
not look like a declaration. -/
def Call.Plain (c : Call) : Prop :=
  match c.callee with
  | .plain => startsDeclaration c.function = false
  | .subject s => startsDeclaration s = false
  | .receiver | .receiverWithin _ => True

/-- The lines of a call are one that starts with what stands in front of
it, and others that declare nothing. -/
private theorem Call.lines_eq_cons (c : Call) : ∃ head rest,
    (∀ depth keep, c.lines depth keep = ⟨depth, keep ++ head⟩ :: rest)
      ∧ (c.Plain → startsDeclaration head = false)
      ∧ ∀ l ∈ rest, startsDeclaration l.text = false := by
  unfold lines Plain bareText
  cases c.callee with
  | plain =>
      refine ⟨_, [], fun depth keep => rfl, fun hplain => ?_, nofun⟩
      rw [String.append_assoc, String.append_assoc]
      exact (startsDeclaration_append (String.toList_append ..) (by decide) (by decide)).trans
        hplain
  | subject s =>
      refine ⟨s ++ ("." ++ c.bareText), [], fun depth keep => ?_, fun hplain => ?_, nofun⟩
      · simp only [String.append_assoc, bareText]
      · exact (startsDeclaration_append (String.toList_append ..) (by decide) (by decide)).trans
          hplain
  | receiver =>
      refine ⟨receiverName ++ ("." ++ c.bareText), [], fun depth keep => ?_, fun _ => ?_, nofun⟩
      · simp only [String.append_assoc, bareText]
      · simp [startsDeclaration, receiverName, List.isPrefixOf]
  | receiverWithin s =>
      -- The only call of several lines: the first one opens a block for it.
      refine ⟨"with(" ++ (s ++ ") \x7b"), [⟨3, receiverName ++ "." ++ c.bareText⟩, ⟨2, "\x7d"⟩],
        fun depth keep => ?_, fun _ => ?_, ?_⟩
      · simp only [String.append_assoc, bareText]
      · simp [startsDeclaration, List.isPrefixOf]
      · simp [startsDeclaration, receiverName, List.isPrefixOf]

/-- A call declares the variable that keeps what it gives. -/
private theorem Call.declaresLocals (depth : Nat) (keep : Option String) (c : Call) :
    DeclaresLocals c.Plain (c.lines depth (TestMethod.keepText keep)) keep.toList := by
  obtain ⟨head, rest, hlines, hhead, hrest⟩ := c.lines_eq_cons
  rw [hlines]
  cases keep with
  | none =>
      have hkeep : TestMethod.keepText none ++ head = head := String.empty_append
      rw [hkeep]
      exact declaresLocals_nil fun hplain => List.forall_mem_cons.2 ⟨hhead hplain, hrest⟩
  | some n =>
      exact (DeclaresLocals.of_line (.inl ⟨head, rfl⟩)).append (declaresLocals_nil fun _ => hrest)

namespace Statement

/-- The names that a statement declares. -/
def declares : Statement → List String
  | value n _ => [n]
  | exception n => [n]
  | lateException n => [n]
  | call keep _ => keep.toList
  | attempt keep _ _ => keep.toList
  | verbatim _ | gap | sameValue .. | sameException .. => []

/-- That nothing from outside in a statement looks like a declaration. -/
def Plain : Statement → Prop
  | verbatim text => startsDeclaration text = false
  | call _ c => c.Plain
  | attempt _ c caught => c.Plain ∧ startsDeclaration (caught ++ " = exception") = false
  | _ => True

/-- A comparison declares nothing. -/
private theorem startsDeclaration_equalityText (expected actual : String) :
    startsDeclaration (TestMethod.equalityText expected actual) = false := by
  simp [TestMethod.equalityText, startsDeclaration, List.isPrefixOf]

/-- The lines of a statement declare its names. -/
private theorem declaresLocals (f : Framework) (st : Statement) :
    DeclaresLocals st.Plain (st.lines f) st.declares := by
  cases st with
  | value n v => exact .of_line (.inl ⟨f.valueText v, rfl⟩)
  | exception n =>
      refine .of_line (.inl ⟨"Exception()", ?_⟩)
      simp only [String.append_assoc]
      rfl
  | lateException n => exact .of_line (.inr rfl)
  | call keep c => exact c.declaresLocals 2 keep
  | attempt keep c caught =>
      have hcall : DeclaresLocals (attempt keep c caught).Plain
          (c.lines 3 (TestMethod.keepText keep)) keep.toList :=
        (c.declaresLocals 3 keep).imp And.left
      have hopening : DeclaresLocals (attempt keep c caught).Plain [⟨2, "try \x7b"⟩] [] :=
        declaresLocals_nil fun _ => by decide
      have hclosing : DeclaresLocals (attempt keep c caught).Plain
          [⟨2, "\x7d catch (exception: Exception) \x7b"⟩, ⟨3, caught ++ " = exception"⟩,
            ⟨2, "\x7d"⟩] [] := by
        refine declaresLocals_nil fun hplain =>
          List.forall_mem_cons.2 ⟨?_, List.forall_mem_cons.2 ⟨hplain.2, ?_⟩⟩ <;> decide
      have hall := (hopening.append hcall).append hclosing
      rwa [List.nil_append, List.append_nil] at hall
  | verbatim text => exact declaresLocals_nil fun hplain => List.forall_mem_singleton.2 hplain
  | gap => exact declaresLocals_nil fun _ => List.forall_mem_singleton.2 (by decide)
  | sameValue expected actual =>
      exact declaresLocals_nil fun _ =>
        List.forall_mem_singleton.2 (startsDeclaration_equalityText expected actual)
  | sameException expected actual =>
      exact declaresLocals_nil fun _ =>
        List.forall_mem_singleton.2 (startsDeclaration_equalityText expected actual)

/-- Statements in a row declare their names in a row. -/
private theorem declaresLocals_flatMap (f : Framework) (sts : List Statement) :
    DeclaresLocals (∀ st ∈ sts, st.Plain) (sts.flatMap (lines f)) (sts.flatMap declares) := by
  induction sts with
  | nil => exact declaresLocals_nil fun _ => nofun
  | cons st sts ih =>
      exact ((st.declaresLocals f).imp fun hplain => hplain st List.mem_cons_self).append
        (ih.imp fun hplain st' hst' => hplain st' (List.mem_cons_of_mem st hst'))

end Statement

-- =============================================================== methods

namespace TestMethod

/-- A method declares what its statements declare. -/
theorem flatMap_declares (m : TestMethod) :
    m.statements.flatMap Statement.declares = m.declared := by
  have hlocals : (m.locals.map fun l => Statement.value l.name l.value).flatMap Statement.declares
      = m.locals.map (·.name) := by
    rw [List.flatMap_map, List.map_eq_flatMap]
    rfl
  have hgiven : m.given.flatMap Statement.declares
      = m.locals.map (·.name) ++ (m.receiver.toList.map fun _ => receiverName)
        ++ (if m.capture = .caught then [expectedExceptionName, actualExceptionName] else []) := by
    unfold given
    simp only [List.flatMap_append, hlocals]
    cases m.receiver <;> cases m.capture <;> cases m.locals <;> simp [Statement.declares]
  have hcalled : m.called.flatMap Statement.declares = m.actual.toList := by
    unfold called
    cases m.capture <;> simp [Statement.declares]
  have hchecked : m.checked.flatMap Statement.declares = [] := by
    unfold checked
    cases m.capture with
    | none => cases m.expected <;> cases m.actual <;> rfl
    | marked => rfl
    | caught => rfl
  rw [statements, List.flatMap_append, List.flatMap_append, hgiven, hcalled, hchecked,
    List.append_nil]
  rfl

/-- Where the call and the assertion of a method do not look like
declarations, none of its statements does. -/
private theorem plain_of_mem_statements {m : TestMethod} (hcall : m.call.Plain)
    (hassertion : startsDeclaration m.assertion = false) : ∀ st ∈ m.statements, st.Plain := by
  have hgiven : ∀ st ∈ m.given, st.Plain := by
    unfold given
    simp only [List.forall_mem_append, List.forall_mem_map]
    refine ⟨⟨⟨⟨?comment, fun l _ => trivial⟩, ?receiver⟩, ?exceptions⟩, ?gap⟩
    case comment =>
      exact List.forall_mem_singleton.2 (show startsDeclaration "// Given" = false by decide)
    case receiver => cases m.receiver <;> cases m.locals <;> simp [Statement.Plain]
    case exceptions => cases m.capture <;> simp [Statement.Plain]
    case gap => exact List.forall_mem_singleton.2 trivial
  have hcalled : ∀ st ∈ m.called, st.Plain := by
    unfold called
    refine List.forall_mem_cons.2 ⟨show startsDeclaration "// When" = false by decide, ?_⟩
    refine List.forall_mem_cons.2 ⟨?_, List.forall_mem_singleton.2 trivial⟩
    cases m.capture with
    | none => exact hcall
    | marked => exact hcall
    | caught => exact ⟨hcall, by decide⟩
  have hchecked : ∀ st ∈ m.checked, st.Plain := by
    have hcomment : (Statement.verbatim "// Then").Plain :=
      show startsDeclaration "// Then" = false by decide
    unfold checked
    cases m.capture with
    | none =>
        simp only [List.forall_mem_append, List.forall_mem_singleton]
        refine ⟨hcomment, ?_, hassertion⟩
        cases m.expected <;> cases m.actual <;> simp [Statement.Plain]
    | marked =>
        have hthrown : (Statement.verbatim "// Exception is thrown").Plain :=
          show startsDeclaration "// Exception is thrown" = false by decide
        exact List.forall_mem_cons.2 ⟨hcomment, List.forall_mem_singleton.2 hthrown⟩
    | caught => exact List.forall_mem_cons.2 ⟨hcomment, List.forall_mem_singleton.2 trivial⟩
  exact List.forall_mem_append.2 ⟨List.forall_mem_append.2 ⟨hgiven, hcalled⟩, hchecked⟩

/-- The lines of a method declare its names. -/
private theorem declaresLocals (f : Framework) (m : TestMethod) :
    DeclaresLocals (m.call.Plain ∧ startsDeclaration m.assertion = false) (m.lines f)
      m.declared := by
  have hopening : DeclaresLocals (m.call.Plain ∧ startsDeclaration m.assertion = false)
      [⟨1, markText m.capture⟩, ⟨1, "fun `" ++ m.title ++ "`() \x7b"⟩] [] := by
    refine declaresLocals_nil fun _ => List.forall_mem_cons.2 ⟨?_, List.forall_mem_singleton.2 ?_⟩
    · cases m.capture <;> decide
    · simp [startsDeclaration, List.isPrefixOf]
  have hstatements := (Statement.declaresLocals_flatMap f m.statements).imp
    fun hplain : m.call.Plain ∧ startsDeclaration m.assertion = false =>
      plain_of_mem_statements hplain.1 hplain.2
  have hclosing : DeclaresLocals (m.call.Plain ∧ startsDeclaration m.assertion = false)
      [⟨1, "\x7d"⟩] [] := declaresLocals_nil fun _ => by decide
  have hall := (hopening.append hstatements).append hclosing
  rwa [List.nil_append, List.append_nil, flatMap_declares, ← lines_eq] at hall

end TestMethod

/-- The names that a test of a function declares besides its parameters,
where the value that a call gives is called `actual`. -/
def FunctionDecl.invented (f : FunctionDecl) (c : Capture) : List String :=
  (if f.receiver.isSome then ["receiver"] else [])
    ++ match c with
      | .none => if f.hasResult then ["actual"] else []
      | .marked => []
      | .caught => ["expectedException", "actualException"]

/-- The names that a test brings along never meet. -/
private theorem FunctionDecl.invented_nodup (f : FunctionDecl) (c : Capture) :
    (f.invented c).Nodup := by
  unfold invented
  cases f.receiver.isSome <;> cases f.hasResult <;> cases c <;> decide

namespace Recipe

/-- The object under test, where there is one. -/
def subject? (r : Recipe) : Item → Option String
  | .ofClass _ => some r.subject
  | .ofFile _ _ => none

/-- The tests of one of the functions of an item. -/
def testsOf (r : Recipe) (i : Item) (parameterized : Bool) (f : FunctionDecl) : List TestMethod :=
  r.captures.map (r.method (r.subject? i) parameterized i.tested f)

/-- The methods of a class are those of its tested functions, in order. -/
theorem methods_tests (r : Recipe) (i : Item) (o : Occasion) :
    (r.tests i o).methods = i.tested.flatMap (r.testsOf i o.parameterized) := by
  cases i <;> rfl

variable {r : Recipe} {i : Item} {parameterized : Bool} {f : FunctionDecl} {m : TestMethod}

/-- The call of a test starts with the function, the object under test or
a word of its own. -/
private theorem plain_call_of_mem_testsOf (hname : startsDeclaration f.name = false)
    (hsubject : startsDeclaration r.subject = false) (hm : m ∈ r.testsOf i parameterized f) :
    m.call.Plain := by
  obtain ⟨c, -, rfl⟩ := List.mem_map.1 hm
  unfold Call.Plain method FunctionDecl.callee
  cases i <;> cases f.receiver <;> simp [subject?, hname, hsubject]

/-- A test of a function declares its parameters, where they have no
columns, and the names that it brings along. -/
private theorem declared_of_mem_testsOf (hactual : r.actual = "actual")
    (hm : m ∈ r.testsOf i parameterized f) :
    m.declared
      = (if parameterized then [] else f.params.map (·.name)) ++ f.invented m.capture := by
  obtain ⟨c, -, rfl⟩ := List.mem_map.1 hm
  have hlocals : (r.method (r.subject? i) parameterized i.tested f c).locals.map (·.name)
      = if parameterized then [] else f.params.map (·.name) := by
    cases parameterized with
    | true => rfl
    | false => simp [method]
  rw [TestMethod.declared, hlocals]
  simp only [method, hactual, FunctionDecl.invented]
  cases f.receiver <;> cases c <;> cases f.hasResult <;>
    simp [receiverName, expectedExceptionName, actualExceptionName]

/-- No name is declared twice exactly where the parameters have columns,
or have different names of which the test brings along none. -/
theorem declared_nodup_iff (hactual : r.actual = "actual")
    (hm : m ∈ r.testsOf i parameterized f) :
    m.declared.Nodup
      ↔ parameterized = true
        ∨ (f.params.map (·.name)).Nodup
          ∧ ∀ p ∈ f.params, p.name ∉ f.invented m.capture := by
  rw [declared_of_mem_testsOf hactual hm]
  have hinvented := f.invented_nodup m.capture
  cases parameterized with
  | true => simpa using hinvented
  | false =>
      -- What the test brings along has no repetitions, so only the parameters matter.
      rw [if_neg Bool.false_ne_true, List.nodup_append', or_iff_right Bool.false_ne_true,
        and_iff_right hinvented]
      exact and_congr_right fun _ => List.forall_mem_map

end Recipe

namespace Draft

/-- A test method declares a name for each parameter of its function, if
it is not parameterized, and those of its receiver, of the value that the
call gives and of the exceptions it is about, each in a line of its own;
no other line starts like a declaration, unless it is with a function, an
object under test or an assertion that does. In a parameterized test the
names are distinct. In any other one they are exactly if the parameters
have distinct names, and none of them is called `receiver` where the
function has one, `actual` where the test keeps the value of the call, or
`expectedException` or `actualException` where it catches what is
thrown. -/
theorem locals_distinct_iff (d : Draft) (i : Item) (imports : List String)
    (parameterized mockedFields : Bool) (unit : String) (hactual : d.recipe.actual = "actual") :
    let t := d.tests i imports parameterized mockedFields
    (d.add i imports parameterized mockedFields).text unit
        = d.text unit ++ sourceText unit (t.lines d.framework)
      ∧ t.methods = i.tested.flatMap (d.recipe.testsOf i parameterized)
      ∧ ∀ f ∈ i.tested, ∀ m ∈ d.recipe.testsOf i parameterized f,
          m.lines d.framework <:+: t.lines d.framework
            ∧ DeclaresLocals (∀ text ∈ [f.name, d.recipe.subject, d.recipe.assertion],
                startsDeclaration text = false) (m.lines d.framework) m.declared
            ∧ m.declared = (if parameterized then [] else f.params.map (·.name))
              ++ f.invented m.capture
            ∧ (m.declared.Nodup ↔ parameterized = true
                ∨ (f.params.map (·.name)).Nodup
                  ∧ ∀ p ∈ f.params, p.name ∉ f.invented m.capture) := by
  intro t
  have hmethods : t.methods = i.tested.flatMap (d.recipe.testsOf i parameterized) :=
    d.recipe.methods_tests i _
  refine ⟨d.text_add unit i imports parameterized mockedFields, hmethods, fun f hf m hm => ?_⟩
  have hmem : m ∈ t.methods := hmethods ▸ List.mem_flatMap.2 ⟨f, hf, hm⟩
  refine ⟨TestClass.infix_lines_of_mem_methods hmem,
    (m.declaresLocals d.framework).imp fun hplain => ?_,
    Recipe.declared_of_mem_testsOf hactual hm, Recipe.declared_nodup_iff hactual hm⟩
  obtain ⟨hname, hsubject, hassertion⟩ : startsDeclaration f.name = false
      ∧ startsDeclaration d.recipe.subject = false
      ∧ startsDeclaration d.recipe.assertion = false := by simpa using hplain
  refine ⟨Recipe.plain_call_of_mem_testsOf hname hsubject hm, ?_⟩
  obtain ⟨c, -, rfl⟩ := List.mem_map.1 hm
  exact hassertion

/-- Both tests of an extension that is called with a key. -/
theorem locals_distinct_of_extension :
    let recipe : Recipe :=
      ⟨⟨.mockk, "rule", Registry.standard⟩, "cut", "actual", "TODO()", .caught⟩
    let find : FunctionDecl :=
      { name := "find"
        isAbstract := false
        params := [⟨"key", .named "String" false⟩, ⟨"deep", .named "Boolean" false⟩]
        receiver := some (.named "Row" false)
        result := .named "Int" false }
    let store : Item := .ofClass
      { package := "app"
        imports := ∅
        name := "Store"
        isAbstract := false
        params := [⟨"actual", .named "Rows" false⟩]
        functions := [find] }
    (recipe.testsOf store false find).map (·.declared)
        = [["key", "deep", "receiver", "actual"],
           ["key", "deep", "receiver", "expectedException", "actualException"]]
      ∧ ∀ m ∈ recipe.testsOf store false find,
          List.Forall₂ DeclaresLocal ((m.lines .mockk).filter (startsDeclaration ·.text)) m.declared
            ∧ m.declared.Nodup := by
  intro recipe find store
  obtain ⟨-, -, htests⟩ :=
    locals_distinct_iff (.start recipe) store [] false true "    " rfl
  refine ⟨by decide +kernel, fun m hm => ?_⟩
  obtain ⟨-, ⟨ds, -, hnames, hall⟩, -, hdistinct⟩ := htests find (by decide) m hm
  have hlines : (m.lines .mockk).filter (startsDeclaration ·.text) = ds := hall (by decide)
  have hparams : (find.params.map (·.name)).Nodup := by decide
  have hown : ∀ c, ∀ p ∈ find.params, p.name ∉ find.invented c := by
    intro c
    cases c <;> decide
  exact ⟨hlines ▸ hnames, hdistinct.2 (.inr ⟨hparams, hown m.capture⟩)⟩

/-- A function that waits some time, the name of which its test gives to
the value of the call, too. -/
theorem local_declared_twice_by_parameter :
    let recipe : Recipe :=
      ⟨⟨.mockito, "rule", Registry.standard⟩, "cut", "actual", "TODO()", .none⟩
    let wait : FunctionDecl :=
      { name := "wait"
        isAbstract := false
        params := [⟨"actual", .named "Int" false⟩]
        receiver := none
        result := .named "Int" false }
    let clock : Item := .ofFile { package := "app", imports := ∅, functions := [wait] } "Clock"
    let t := (Draft.start recipe).tests clock [] false false
    wait ∈ clock.tested
      ∧ (wait.params.map (·.name)).Nodup
      ∧ ∃ m, t.methods = [m]
        ∧ [⟨2, "val actual = 0"⟩, ⟨2, "val actual = wait(actual)"⟩].Sublist (m.lines .mockito)
        ∧ m.declared = ["actual", "actual"]
        ∧ ¬ m.declared.Nodup := by
  intro recipe wait clock t
  refine ⟨by decide, by decide, recipe.method none false [wait] wait .none, ?_, ?_, ?_, ?_⟩ <;>
    decide +kernel

end Draft

end TestDraft
