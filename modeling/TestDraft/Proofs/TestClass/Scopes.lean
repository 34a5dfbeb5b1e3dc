/-
The variables of a test class: what declares them, and where they are at
hand.

A statement of a test method declares variables and has others declared
for it: `Scoped` asks for them in the place where they belong, so an
argument is looked for in the constructor of a parameterized class and
among the values of the method itself otherwise. What is at hand grows
statement by statement; that nothing is missing is then one fact for each
statement (`TestMethod.Coherent.statements`).
-/
import TestDraft.Proofs.TestClass.Output
import TestDraft.Proofs.TestClass.Statements

namespace TestDraft

open Text

-- ================================================================ scopes

/-- The variables at hand in a test class. -/
structure Scope where
  /-- The object under test, if there is one. -/
  subject : Option String
  /-- The variables of the constructor, if the class is parameterized. -/
  columns : Option (List String)
  /-- The variables of the method that have a value. -/
  values : List String
  /-- The variables of the method that get their value later. -/
  late : List String

namespace Scope

/-- Where the arguments of a call have to come from. -/
def arguments (s : Scope) : List String := s.columns.getD s.values

/-- What is at hand behind a statement. -/
def after (s : Scope) : Statement → Scope
  | .value n _ => { s with values := s.values ++ [n] }
  | .exception n => { s with values := s.values ++ [n] }
  | .lateException n => { s with late := s.late ++ [n] }
  | .call keep _ => { s with values := s.values ++ keep.toList }
  | .attempt keep _ _ => { s with values := s.values ++ keep.toList }
  | _ => s

def afterAll (s : Scope) (sts : List Statement) : Scope := sts.foldl after s

end Scope

/-- What a call is made on is at hand. -/
def Callee.Scoped (s : Scope) : Callee → Prop
  | plain => True
  | subject n => s.subject = some n
  | receiver => receiverName ∈ s.values
  | receiverWithin n => s.subject = some n ∧ receiverName ∈ s.values

/-- What a call is made on is at hand, and each argument is the unit
value or a variable that arguments may be. -/
def Call.Scoped (s : Scope) (c : Call) : Prop :=
  c.callee.Scoped s ∧ ∀ a ∈ c.args, a = .unit ∨ ∃ n ∈ s.arguments, a = .variable n

/-- All variables of a statement are at hand, each where it belongs. -/
def Statement.Scoped (s : Scope) : Statement → Prop
  | call _ c => c.Scoped s
  | attempt _ c caught => c.Scoped s ∧ caught ∈ s.late
  | sameValue expected actual => expected ∈ s.columns.getD [] ∧ actual ∈ s.values
  | sameException expected actual => expected ∈ s.values ∧ actual ∈ s.late
  | _ => True

/-- All variables of some statements are at hand where they stand. -/
def ScopedAll : (s : Scope) → List Statement → Prop
  | _, [] => True
  | s, st :: sts => st.Scoped s ∧ ScopedAll (s.after st) sts

/-- Statements are in scope one part after the other. -/
private theorem scopedAll_append (s : Scope) (sts others : List Statement) :
    ScopedAll s (sts ++ others) ↔ ScopedAll s sts ∧ ScopedAll (s.afterAll sts) others := by
  induction sts generalizing s with
  | nil => exact (iff_of_eq (true_and _)).symm
  | cons st sts ih =>
      show st.Scoped s ∧ ScopedAll (s.after st) (sts ++ others) ↔ _
      rw [ih, ← and_assoc]
      rfl

private theorem afterAll_append (s : Scope) (sts others : List Statement) :
    s.afterAll (sts ++ others) = (s.afterAll sts).afterAll others := List.foldl_append ..

-- =============================================================== methods

namespace TestMethod

variable {m : TestMethod} {s : Scope}

/-- What is at hand behind the given part of a method: its parameters,
its receiver, and the exceptions that a test is about which catches one. -/
private theorem afterAll_given (m : TestMethod) (s : Scope) :
    s.afterAll m.given = { s with
      values := s.values ++ m.locals.map (·.name) ++ (m.receiver.toList.map fun _ => receiverName)
        ++ (if m.capture = .caught then [expectedExceptionName] else [])
      late := s.late ++ (if m.capture = .caught then [actualExceptionName] else []) } := by
  have hlocals : ∀ (ls : List Local) (s : Scope),
      s.afterAll (ls.map fun l => .value l.name l.value)
        = { s with values := s.values ++ ls.map (·.name) } := by
    intro ls
    induction ls with
    | nil => intro s; simp [Scope.afterAll]
    | cons l ls ih =>
        intro s
        refine (ih _).trans ?_
        simp [Scope.after, List.append_assoc]
  unfold given
  simp only [afterAll_append, hlocals]
  cases m.receiver <;> cases m.capture <;> cases m.locals <;>
    simp [Scope.afterAll, Scope.after]

/-- The given part of a method refers to no variable. -/
private theorem scopedAll_given (m : TestMethod) (s : Scope) : ScopedAll s m.given := by
  have hlocals : ∀ (ls : List Local) (s : Scope),
      ScopedAll s (ls.map fun l => .value l.name l.value) := by
    intro ls
    induction ls with
    | nil => exact fun _ => trivial
    | cons l ls ih => exact fun s => ⟨trivial, ih _⟩
  unfold given
  simp only [scopedAll_append, hlocals]
  cases m.receiver <;> cases m.capture <;> cases m.locals <;>
    simp [ScopedAll, Statement.Scoped]

/-- That what a method is made from goes together: its arguments are
columns or parameters, it has a receiver where it calls one, and what it
compares with is a column. -/
structure Coherent (s : Scope) (m : TestMethod) : Prop where
  args : ∀ a ∈ m.call.args,
    a = .unit ∨ ∃ n ∈ s.columns.getD (m.locals.map (·.name)), a = .variable n
  subject : ∀ n, m.call.callee = .subject n ∨ m.call.callee = .receiverWithin n →
    s.subject = some n
  receiver : m.call.callee = .receiver ∨ (∃ n, m.call.callee = .receiverWithin n) →
    m.receiver.isSome = true
  expected : ∀ n, m.expected = some n → n ∈ s.columns.getD []

/-- The call under test uses what was declared before it. -/
theorem Coherent.call (h : Coherent s m) : m.call.Scoped (s.afterAll m.given) := by
  rw [afterAll_given]
  constructor
  · have hreceiver : m.receiver.isSome = true → receiverName ∈
        s.values ++ m.locals.map (·.name) ++ (m.receiver.toList.map fun _ => receiverName)
          ++ (if m.capture = .caught then [expectedExceptionName] else []) := by
      intro hsome
      obtain ⟨v, hv⟩ := Option.isSome_iff_exists.1 hsome
      rw [hv]
      exact List.mem_append_left _ (List.mem_append_right _ List.mem_cons_self)
    cases hcallee : m.call.callee with
    | plain => trivial
    | subject n => exact h.subject n (.inl hcallee)
    | receiver => exact hreceiver (h.receiver (.inl hcallee))
    | receiverWithin n =>
        exact ⟨h.subject n (.inr hcallee), hreceiver (h.receiver (.inr ⟨n, hcallee⟩))⟩
  · intro a ha
    refine (h.args a ha).imp_right ?_
    rintro ⟨n, hn, rfl⟩
    refine ⟨n, ?_, rfl⟩
    unfold Scope.arguments
    cases hcolumns : s.columns with
    | none =>
        rw [hcolumns] at hn
        simp only [Option.getD_none] at hn ⊢
        simp [hn]
    | some names =>
        rw [hcolumns] at hn
        exact hn

/-- The calls use what was given. -/
theorem Coherent.called (h : Coherent s m) : ScopedAll (s.afterAll m.given) m.called := by
  have hcall := h.call
  unfold TestMethod.called
  cases hcapture : m.capture with
  | none => exact ⟨trivial, hcall, trivial, trivial⟩
  | marked => exact ⟨trivial, hcall, trivial, trivial⟩
  | caught =>
      refine ⟨trivial, ⟨hcall, ?_⟩, trivial, trivial⟩
      rw [afterAll_given, hcapture]
      exact List.mem_append_right _ List.mem_cons_self

/-- The comparisons use what was given and what the calls returned. -/
theorem Coherent.checked (h : Coherent s m) :
    ScopedAll ((s.afterAll m.given).afterAll m.called) m.checked := by
  rw [afterAll_given]
  unfold TestMethod.checked TestMethod.called
  cases m.capture with
  | marked => exact ⟨trivial, trivial, trivial⟩
  | caught => simp [ScopedAll, Statement.Scoped, Scope.afterAll, Scope.after]
  | none =>
      cases hexpected : m.expected with
      | none => exact ⟨trivial, trivial, trivial⟩
      | some e =>
          cases hactual : m.actual with
          | none => exact ⟨trivial, trivial, trivial⟩
          | some a =>
              refine ⟨trivial, ⟨h.expected e hexpected, ?_⟩, trivial, trivial⟩
              simp [Scope.afterAll, Scope.after]

/-- Where its parts go together, a method has all its variables at hand. -/
theorem Coherent.statements (h : Coherent s m) : ScopedAll s m.statements := by
  unfold TestMethod.statements
  rw [scopedAll_append, scopedAll_append, afterAll_append]
  exact ⟨⟨m.scopedAll_given s, h.called⟩, h.checked⟩

end TestMethod

namespace Recipe

variable {fs : List FunctionDecl} {f : FunctionDecl}

/-- Each function of a parameterized class has a column for each of its
parameters. -/
private theorem columnName_mem_columns (k : Toolkit) (hf : f ∈ fs) {p : Parameter}
    (hp : p ∈ f.params) :
    f.columnName p ∈ (k.columns fs).map (·.name) := by
  have hentry : ⟨f.columnName p, p.type⟩ ∈ f.entries :=
    List.mem_append_left _
      (List.mem_map_of_mem (f := fun p => (⟨f.columnName p, p.type⟩ : Parameter)) hp)
  simp only [Toolkit.columns, List.map_map, List.mem_map, List.mem_flatMap]
  exact ⟨_, ⟨f, hf, hentry⟩, rfl⟩

/-- Each function with a result has a column for the expected one. -/
private theorem expectedName_mem_columns (k : Toolkit) (hf : f ∈ fs)
    (hresult : f.hasResult = true) :
    f.expectedName ∈ (k.columns fs).map (·.name) := by
  have hentry : ⟨f.expectedName, f.result⟩ ∈ f.entries := by
    simp [FunctionDecl.entries, hresult]
  simp only [Toolkit.columns, List.map_map, List.mem_map, List.mem_flatMap]
  exact ⟨_, ⟨f, hf, hentry⟩, rfl⟩

/-- The parts of a test method go together. -/
private theorem coherent_method (r : Recipe) (subject : Option String) (parameterized : Bool)
    (hf : f ∈ fs) (c : Capture) :
    (r.method subject parameterized fs f c).Coherent
      { subject := subject
        columns := if parameterized then some ((r.toolkit.columns fs).map (·.name)) else none
        values := []
        late := [] } where
  args := by
    intro a ha
    obtain ⟨p, hp, rfl⟩ := List.mem_map.1 ha
    unfold FunctionDecl.argument
    split
    case isTrue => exact .inl rfl
    case isFalse =>
      cases parameterized with
      | true => exact .inr ⟨_, columnName_mem_columns r.toolkit hf hp, rfl⟩
      | false =>
          refine .inr ⟨p.name, ?_, rfl⟩
          simp only [method, Bool.false_eq_true, if_false, Option.getD_none, List.map_map,
            List.mem_map]
          exact ⟨p, hp, rfl⟩
  subject := by
    intro n hn
    cases subject with
    | none => cases hreceiver : f.receiver <;> simp [method, FunctionDecl.callee, hreceiver] at hn
    | some x =>
        cases hreceiver : f.receiver <;>
          simpa [method, FunctionDecl.callee, hreceiver] using hn
  receiver := by
    intro h
    cases hreceiver : f.receiver with
    | some t => simp [method, hreceiver]
    | none => cases subject <;> simp [method, FunctionDecl.callee, hreceiver] at h
  expected := by
    intro n hn
    cases parameterized with
    | false => simp [method] at hn
    | true =>
        cases hresult : f.hasResult with
        | false => simp [method, hresult] at hn
        | true =>
            have hname : f.expectedName = n := by simpa [method, hresult] using hn
            rw [← hname]
            exact expectedName_mem_columns r.toolkit hf hresult

end Recipe

-- =============================================================== classes

namespace TestClass

variable {f : Framework} {t : TestClass}

/-- What is at hand at the start of each test method of a class. -/
def scope (t : TestClass) : Scope where
  subject := t.fixture.map (·.subject)
  columns := t.columns.map fun cs => cs.map (·.name)
  values := []
  late := []

/-- That a variable is declared as one of the constructor. -/
def DeclaresColumn (name : String) (ls : List Line) : Prop :=
  ∃ type, ⟨1, "private val " ++ name ++ ": " ++ type⟩ ∈ ls

/-- That a variable is declared as a field of the class. -/
def DeclaresField (name : String) (ls : List Line) : Prop :=
  (∃ type, ⟨1, "private lateinit var " ++ name ++ ": " ++ type⟩ ∈ ls)
    ∨ ∃ value, ⟨1, "private val " ++ name ++ " = " ++ value⟩ ∈ ls

/-- Every column is declared by its line of the constructor. -/
private theorem declaresColumn_of_mem {c : Column} {cs : List Column} (h : c ∈ cs) :
    DeclaresColumn c.name (Column.lines cs) := by
  induction cs with
  | nil => cases h
  | cons d ds ih =>
      cases ds with
      | nil =>
          obtain rfl := List.mem_singleton.1 h
          exact ⟨c.type.text, List.mem_cons_self⟩
      | cons e es =>
          rw [Column.lines_cons_cons]
          rcases List.mem_cons.1 h with rfl | h
          · refine ⟨c.type.text ++ ",", ?_⟩
            simp only [Column.text, String.append_assoc]
            exact List.mem_cons_self
          · obtain ⟨type, htype⟩ := ih h
            exact ⟨type, List.mem_cons_of_mem _ htype⟩

/-- The variables of the constructor are declared where the class opens. -/
private theorem declaresColumn_openingLines {n : String} (h : n ∈ t.scope.columns.getD []) :
    DeclaresColumn n t.openingLines := by
  unfold scope at h
  cases hcolumns : t.columns with
  | none => rw [hcolumns] at h; cases h
  | some cs =>
      rw [hcolumns] at h
      obtain ⟨c, hc, rfl⟩ := List.mem_map.1 h
      obtain ⟨type, htype⟩ := declaresColumn_of_mem hc
      refine ⟨type, ?_⟩
      cases cs with
      | nil => cases hc
      | cons d ds => simp [openingLines, hcolumns, htype]

/-- The lines that open a class stand together in it. -/
theorem infix_lines_openingLines : t.openingLines <:+: t.lines f := by
  have hheader : t.openingLines <:+: t.headerLines f := by
    unfold headerLines
    rw [List.append_assoc]
    exact List.infix_append ..
  unfold lines
  rw [List.append_assoc]
  exact hheader.trans (List.prefix_append ..).isInfix

/-- The lines of a test method stand together in the class. -/
theorem infix_lines_of_mem_methods {m : TestMethod} (h : m ∈ t.methods) :
    m.lines f <:+: t.lines f := by
  have hmethods : m.lines f <:+: separated (t.methods.map (TestMethod.lines f)) :=
    infix_separated (List.mem_map_of_mem h)
  unfold lines
  exact hmethods.trans ⟨t.headerLines f, [⟨0, "\x7d"⟩], rfl⟩

end TestClass

namespace Recipe

variable {r : Recipe} {i : Item} {o : Occasion} {m : TestMethod}

/-- All variables of the tests of an item are at hand where they are
used. -/
private theorem scopedAll_tests (h : m ∈ (r.tests i o).methods) :
    ScopedAll (r.tests i o).scope m.statements := by
  have hmethods : ∀ subject fs, m ∈ r.methods subject o.parameterized fs →
      ScopedAll
        { subject := subject
          columns := if o.parameterized then some ((r.toolkit.columns fs).map (·.name)) else none
          values := []
          late := [] } m.statements := by
    intro subject fs hm
    obtain ⟨f, hf, hm⟩ := List.mem_flatMap.1 hm
    obtain ⟨c, -, rfl⟩ := List.mem_map.1 hm
    exact (coherent_method r subject o.parameterized hf c).statements
  cases i with
  | ofClass c =>
      have hscope := hmethods (some r.subject) (concrete c.functions) h
      cases hp : o.parameterized <;>
        simpa [tests, classTests, TestClass.scope, fixture, hp] using hscope
  | ofFile d n =>
      have hscope := hmethods none (concrete d.functions) h
      cases hp : o.parameterized <;> simpa [tests, fileTests, TestClass.scope, hp] using hscope

end Recipe

-- ================================================================ setUp

/-- The field of a parameter declares its name. -/
private theorem Toolkit.declaresField_field (k : Toolkit) (f : Framework) (p : Parameter) :
    TestClass.DeclaresField p.name ((k.field p).lines f) := by
  unfold field
  cases k.value p.name p.type with
  | literal text => exact .inr ⟨text, List.mem_cons_self⟩
  | mock t => exact .inl ⟨t.bareText, List.mem_cons_of_mem _ List.mem_cons_self⟩

theorem TestClass.DeclaresField.mono {n : String} {ls ms : List Line} (h : DeclaresField n ls)
    (hsub : ls ⊆ ms) : DeclaresField n ms :=
  h.imp (fun ⟨type, htype⟩ => ⟨type, hsub htype⟩) fun ⟨value, hvalue⟩ => ⟨value, hsub hvalue⟩

namespace Recipe

variable (r : Recipe) (c : ClassDecl) (o : Occasion) (f : Framework)

/-- The instance under test is a field of its fixture. -/
private theorem declaresField_subject :
    TestClass.DeclaresField r.subject ((r.fixture c o).declarationLines f) := by
  refine .inl ⟨c.name, ?_⟩
  simp [Fixture.declarationLines, fixture]

/-- Every constructor parameter is a field of the fixture. -/
private theorem declaresField_param {n : String} (h : n ∈ c.paramNames) :
    TestClass.DeclaresField n ((r.fixture c o).declarationLines f) := by
  obtain ⟨p, hp, rfl⟩ := List.mem_map.1 h
  refine (r.toolkit.declaresField_field f p).mono fun l hl => ?_
  have hfields : l ∈ (r.fixture c o).fields.flatMap fun d => d.lines f ++ [.blank] :=
    List.mem_flatMap.2 ⟨_, List.mem_map_of_mem hp, List.mem_append_left _ hl⟩
  exact List.mem_append_right _ hfields

/-- The start of the expression that makes an object of a class from the
parameters of its constructor, by name and in order. -/
def creationText (f : Framework) (c : ClassDecl) : String :=
  if c.isAbstract then
    match f with
    | .mockito =>
      "mock(defaultAnswer = Mockito.CALLS_REAL_METHODS"
        ++ (if c.params.isEmpty then ""
          else ", useConstructor = UseConstructor.withArguments(" ++ commas c.paramNames ++ ")")
        ++ ")"
    | .mockk => "object : " ++ c.name ++ "(" ++ commas c.paramNames ++ ") \x7b"
  else c.name ++ "(" ++ commas c.paramNames ++ ")"

/-- A creation statement starts as the form of creation writes it. -/
private theorem creation_head :
    (r.toolkit.creation c).head = creationText r.toolkit.framework c := by
  unfold Toolkit.creation creationText
  split
  case isFalse => rfl
  case isTrue =>
    unfold Toolkit.abstractCreation
    cases r.toolkit.framework with
    | mockk => rfl
    | mockito =>
        unfold ClassDecl.paramNames
        cases c.params with
        | nil => rfl
        | cons p ps =>
            have hopening : "mock(defaultAnswer = Mockito.CALLS_REAL_METHODS, useConstructor = "
                  ++ "UseConstructor.withArguments("
                = "mock(defaultAnswer = Mockito.CALLS_REAL_METHODS"
                  ++ ", useConstructor = UseConstructor.withArguments(" := rfl
            have hclosing : "))" = ")" ++ ")" := rfl
            simp only [List.map_cons, Creation.head]
            rw [hopening, hclosing]
            simp only [List.isEmpty_cons, Bool.false_eq_true, if_false, String.append_assoc,
              -String.reduceAppend]

/-- `setUp` makes the object under test from its parameters, and all of
them are fields that are declared in front of it. -/
private theorem lines_setUp :
    ∃ upper created below, (r.classTests c o).lines r.toolkit.framework
        = upper ++ Fixture.setUpOpening ++ created
          ++ ⟨2, r.subject ++ " = " ++ creationText r.toolkit.framework c⟩ :: below
      ∧ created ⊆ [Fixture.initLine]
      ∧ TestClass.DeclaresField r.subject upper
      ∧ ∀ n ∈ c.paramNames, TestClass.DeclaresField n upper := by
  let f := r.toolkit.framework
  have hfixture : (r.classTests c o).fixture = some (r.fixture c o) := rfl
  have hcreated : (if o.initialises then [Fixture.initLine] else []) ⊆ [Fixture.initLine] := by
    split
    · exact List.Subset.refl _
    · exact List.nil_subset _
  have hsub : (r.fixture c o).declarationLines f
      ⊆ TestClass.packageLines c.package ++ TestClass.importBlock (inOrder o.imports)
        ++ ((r.classTests c o).frontLines f ++ (r.fixture c o).declarationLines f) :=
    fun l hl => List.mem_append_right _ (List.mem_append_right _ hl)
  refine ⟨_, _, (r.toolkit.creation c).tail f
    ++ (Fixture.setUpClosing ++ (r.classTests c o).backLines f), ?_, hcreated,
    (r.declaresField_subject c o f).mono hsub,
    fun n hn => (r.declaresField_param c o f hn).mono hsub⟩
  rw [TestClass.lines_of_fixture f hfixture, ← creation_head]
  simp only [List.append_assoc]
  rfl

end Recipe

namespace Draft

/-- Every variable that the tests of an item refer to is declared. Those
of the constructor are the columns of a parameterized class, and a method
has no others but its own. Whatever a statement of a method uses is at
hand there, each in the place where it belongs, and `setUp` makes the
object under test from fields, the parameters of its constructor in
order, that are declared in front of it. -/
theorem variables_declared (d : Draft) (i : Item) (imports : List String)
    (parameterized mockedFields : Bool) (unit : String) :
    let f := d.framework
    let t := d.tests i imports parameterized mockedFields
    (d.add i imports parameterized mockedFields).text unit
        = d.text unit ++ sourceText unit (t.lines f)
      ∧ t.scope.columns.isSome = parameterized
      ∧ (∀ n ∈ t.scope.columns.getD [], TestClass.DeclaresColumn n t.openingLines)
      ∧ t.openingLines <:+: t.lines f
      ∧ (∀ m ∈ t.methods, m.lines f <:+: t.lines f
          ∧ m.lines f
            = [⟨1, TestMethod.markText m.capture⟩, ⟨1, "fun `" ++ m.title ++ "`() \x7b"⟩]
              ++ (m.given ++ m.called ++ m.checked).flatMap (Statement.lines f)
              ++ [⟨1, "\x7d"⟩]
          ∧ ScopedAll t.scope (m.given ++ m.called ++ m.checked))
      ∧ ∀ c, i = .ofClass c →
          t.scope.subject = some d.recipe.subject
            ∧ ∃ upper created below, t.lines f
                = upper ++ Fixture.setUpOpening ++ created
                  ++ ⟨2, d.recipe.subject ++ " = " ++ Recipe.creationText f c⟩ :: below
              ∧ created ⊆ [Fixture.initLine]
              ∧ TestClass.DeclaresField d.recipe.subject upper
              ∧ ∀ n ∈ c.paramNames, TestClass.DeclaresField n upper := by
  intro f t
  refine ⟨d.text_add unit i imports parameterized mockedFields, ?_,
    fun n hn => TestClass.declaresColumn_openingLines hn, ?_, fun m hm =>
      ⟨TestClass.infix_lines_of_mem_methods hm, m.lines_eq f, Recipe.scopedAll_tests hm⟩, ?_⟩
  · cases i <;> cases parameterized <;> rfl
  · exact TestClass.infix_lines_openingLines
  · intro c hc
    subst hc
    exact ⟨rfl, d.recipe.lines_setUp c _⟩

/-- The test of an extension that takes rows and catches what is thrown:
its call is made on a variable of the method inside the object under
test, and its arguments are one variable of the constructor and the unit
value. -/
theorem variables_declared_extension :
    let recipe : Recipe :=
      ⟨⟨.mockk, "rule", Registry.standard⟩, "store", "actual", "TODO()", .caught⟩
    let find : FunctionDecl :=
      { name := "find"
        isAbstract := false
        params := [⟨"key", .named "String" false⟩, ⟨"done", .named "Unit" false⟩]
        receiver := some (.named "Row" false)
        result := .named "Int" false }
    let store : ClassDecl :=
      { package := "app"
        imports := ∅
        name := "Store"
        isAbstract := true
        params := [⟨"rows", .named "Rows" false⟩]
        functions := [find] }
    let t := (Draft.start recipe).tests (.ofClass store) [] true true
    let m := recipe.method (some "store") true [find] find .caught
    t.scope.columns = some ["findKey", "findDone", "findExpected"]
      ∧ TestClass.DeclaresColumn "findKey" t.openingLines
      ∧ m.call = ⟨.receiverWithin "store", "find", [.variable "findKey", .unit]⟩
      ∧ m.lines .mockk <:+: t.lines .mockk
      ∧ ScopedAll t.scope (m.given ++ m.called ++ m.checked)
      ∧ ∃ upper below, TestClass.DeclaresField "rows" upper
        ∧ t.lines .mockk = upper ++ ⟨2, "store = object : Store(rows) \x7b"⟩ :: below := by
  intro recipe find store t m
  obtain ⟨-, -, hcolumns, -, hmethods, hsetUp⟩ :=
    variables_declared (.start recipe) (.ofClass store) [] true true "    "
  have hm : m ∈ t.methods := by decide +kernel
  obtain ⟨hlines, -, hscoped⟩ := hmethods m hm
  obtain ⟨-, upper, created, below, hls, -, -, hfields⟩ := hsetUp store rfl
  refine ⟨by decide +kernel, hcolumns _ (by decide +kernel), by decide +kernel, hlines, hscoped,
    upper ++ Fixture.setUpOpening ++ created, below, ?_, hls⟩
  exact (hfields "rows" (by decide)).mono fun l hl =>
    List.mem_append_left _ (List.mem_append_left _ hl)

end Draft

end TestDraft
