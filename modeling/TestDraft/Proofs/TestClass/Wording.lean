/-
The words of a test class. Whatever is appended for it is indentation, a
word of the writer's own, a symbol, or a word from outside. None of the
writers' own words spells a symbol (`Clean`), so a symbol gets into a
class as a symbol only; and a word from outside is one that the recipe,
the item or the registry gives (`Recipe.Gives`).

That a part of a class holds given words only is a predicate on the part
(`GivenBy`). For each kind of part there is one lemma that takes it to
what is appended for the part (`AllWorded`), and one that finds it in the
part that a recipe makes.
-/
import Mathlib.Data.List.Infix
import TestDraft.TestClass.Output
import TestDraft.TestClass.Recipe

namespace TestDraft

open Fragment

-- =========================================================== clean words

/-- All symbols there are. -/
def Symbol.all : List Symbol :=
  [before, test, runWith, parameterized, parameters, assertEquals, mockitoJUnitRunner,
   mockitoJUnit, mockField, mockCall, mockitoClass, useConstructor, rule, methodRule, mockkInit,
   mockkField, mockkCall]

theorem Symbol.mem_all (x : Symbol) : x ∈ all := by
  cases x <;> decide

/-- That the name of no symbol stands in a text, not even inside of a
longer word. -/
def Clean (text : String) : Prop := ∀ x : Symbol, ¬x.name.toList <:+: text.toList

instance (text : String) : Decidable (Clean text) :=
  decidable_of_iff (∀ x ∈ Symbol.all, ¬x.name.toList <:+: text.toList)
    ⟨fun h x => h x x.mem_all, fun h x _ => h x⟩

/- The writers' own words, each once: those of single expressions and
declarations, those of a test, and those of what surrounds the tests. -/

@[simp] private theorem clean_pieces :
    Clean "\n" ∧ Clean "@" ∧ Clean "." ∧ Clean ", " ∧ Clean ": " ∧ Clean " = " ∧ Clean "("
      ∧ Clean ")" ∧ Clean "<" ∧ Clean ">()" ∧ Clean ") = " ∧ Clean ") \x7b" ∧ Clean "\x7d"
      ∧ Clean "val " ∧ Clean "private val " ∧ Clean "private lateinit var "
      ∧ Clean "override fun " ∧ Clean "object : " ∧ Clean "::class)" ∧ Clean "@get:"
      ∧ Clean ".rule()" ∧ Clean ".init(this, relaxUnitFun = true)" ∧ Clean "(defaultAnswer = "
      ∧ Clean ".CALLS_REAL_METHODS" ∧ Clean ", useConstructor = " ∧ Clean ".withArguments(" := by
  decide +kernel

@[simp] private theorem clean_methods :
    Clean receiverName ∧ Clean expectedExceptionName ∧ Clean actualExceptionName
      ∧ Clean TypeExpr.unitName ∧ Clean "// Given" ∧ Clean "// When" ∧ Clean "// Then"
      ∧ Clean "// Exception is thrown" ∧ Clean "lateinit var " ∧ Clean ": Exception"
      ∧ Clean " = Exception()" ∧ Clean " = exception" ∧ Clean "try \x7b"
      ∧ Clean "\x7d catch (exception: Exception) \x7b" ∧ Clean "with("
      ∧ Clean "(expected = Exception::class)" ∧ Clean "fun `" ∧ Clean "`() \x7b" := by
  decide +kernel

@[simp] private theorem clean_classes :
    Clean "class " ∧ Clean " \x7b" ∧ Clean "," ∧ Clean "companion object \x7b"
      ∧ Clean "@JvmStatic" ∧ Clean "fun data(): Collection<Array<*>> = listOf("
      ∧ Clean "arrayOf(" ∧ Clean "fun setUp() \x7b" := by
  decide +kernel

namespace Fragment

variable {P : String → Prop} {ps qs : List Fragment}

/-- That a fragment spells no symbol in the writer's own words, and that
its other words are given. -/
def Worded (P : String → Prop) : Fragment → Prop
  | indent _ => True
  | own text => Clean text
  | symbol _ => True
  | foreign text => P text

def AllWorded (P : String → Prop) (ps : List Fragment) : Prop := ∀ p ∈ ps, p.Worded P

@[simp] private theorem worded_indent (n : Nat) : (indent n).Worded P := trivial

@[simp] private theorem worded_symbol (x : Symbol) : (symbol x).Worded P := trivial

/-- A word of the writer has to be clean. -/
@[simp] private theorem worded_own (text : String) : (own text).Worded P ↔ Clean text := Iff.rfl

/-- Any other word has to be given. -/
@[simp] private theorem worded_foreign (text : String) : (foreign text).Worded P ↔ P text := Iff.rfl

@[simp] private theorem worded_newline : newline.Worded P := clean_pieces.1

@[simp] private theorem allWorded_nil : AllWorded P [] := nofun

/-- Fragments are checked one by one. -/
@[simp] private theorem allWorded_cons {p : Fragment} :
    AllWorded P (p :: ps) ↔ p.Worded P ∧ AllWorded P ps := List.forall_mem_cons

/-- Two lists of fragments are checked one behind the other. -/
@[simp] private theorem allWorded_append :
    AllWorded P (ps ++ qs) ↔ AllWorded P ps ∧ AllWorded P qs := List.forall_mem_append

/-- Parts that are appended in turn are checked in turn. -/
@[simp] private theorem allWorded_flatMap {α : Type} {xs : List α} {g : α → List Fragment} :
    AllWorded P (xs.flatMap g) ↔ ∀ x ∈ xs, AllWorded P (g x) := List.forall_mem_flatMap

@[simp] private theorem allWorded_gap : AllWorded P gap := by
  simp [gap]

/-- So are parts with a separator between any two of them. -/
private theorem allWorded_intercalate {sep : List Fragment} {pss : List (List Fragment)}
    (hsep : AllWorded P sep) (h : ∀ ps ∈ pss, AllWorded P ps) :
    AllWorded P (sep.intercalate pss) := by
  induction pss with
  | nil => exact allWorded_nil
  | cons ps pss ih =>
      obtain ⟨hps, hpss⟩ := List.forall_mem_cons.1 h
      cases pss with
      | nil =>
          rw [List.intercalate_singleton]
          exact hps
      | cons qs pss =>
          rw [List.intercalate_cons_cons, allWorded_append, allWorded_append]
          exact ⟨⟨hps, hsep⟩, ih hpss⟩

/-- Commas are clean. -/
private theorem allWorded_commas {pss : List (List Fragment)} (h : ∀ ps ∈ pss, AllWorded P ps) :
    AllWorded P (commas pss) := by
  refine allWorded_intercalate ?_ h
  simp

end Fragment

-- =========================================================== given words

section GivenBy

variable (P : String → Prop)

def Value.GivenBy : Value → Prop
  | .literal text => P text
  | .mock t => P t.bareText

def Field.GivenBy : Field → Prop
  | .mock n t => P n ∧ P t.bareText
  | .value n text => P n ∧ P text

structure Override.GivenBy (o : Override) : Prop where
  name : P o.function.name
  receiver : ∀ t ∈ o.function.receiver, P t.text
  params : ∀ p ∈ o.function.params, P p.name ∧ P p.type.text
  value : o.value.GivenBy P

def Creation.GivenBy : Creation → Prop
  | construct n as => P n ∧ ∀ a ∈ as, P a
  | partialMock as => ∀ a ∈ as, P a
  | anonymous n as os => P n ∧ (∀ a ∈ as, P a) ∧ ∀ o ∈ os, o.GivenBy P

structure Fixture.GivenBy (x : Fixture) : Prop where
  rule : ∀ r ∈ x.rule, P r
  subject : P x.subject
  type : P x.type
  fields : ∀ d ∈ x.fields, d.GivenBy P
  creation : x.creation.GivenBy P

structure Column.GivenBy (c : Column) : Prop where
  name : P c.name
  type : P c.type.text
  value : c.value.GivenBy P

def Callee.GivenBy : Callee → Prop
  | .plain | .receiver => True
  | .subject s | .receiverWithin s => P s

def Argument.GivenBy : Argument → Prop
  | unit => True
  | .variable n => P n

structure Call.GivenBy (c : Call) : Prop where
  callee : c.callee.GivenBy P
  function : P c.function
  args : ∀ a ∈ c.args, a.GivenBy P

structure TestMethod.GivenBy (m : TestMethod) : Prop where
  title : P m.title
  locals : ∀ l ∈ m.locals, P l.name ∧ l.value.GivenBy P
  receiver : ∀ v ∈ m.receiver, v.GivenBy P
  call : m.call.GivenBy P
  actual : ∀ n ∈ m.actual, P n
  expected : ∀ n ∈ m.expected, P n
  assertion : P m.assertion

/-- That the words of a test class behind its imports are given. -/
structure TestClass.GivenBy (t : TestClass) : Prop where
  name : P (t.name ++ "Test")
  columns : ∀ cs ∈ t.columns, ∀ c ∈ cs, c.GivenBy P
  fixture : ∀ x ∈ t.fixture, x.GivenBy P
  methods : ∀ m ∈ t.methods, m.GivenBy P

end GivenBy

-- ================================================================ pieces

section Pieces

variable {P : String → Prop} (f : Framework)

/-- A value is a given literal, or a mock of a given type. -/
private theorem Framework.worded_valueFragments {v : Value} (h : v.GivenBy P) :
    AllWorded P (f.valueFragments v) := by
  cases v with
  | literal text => simpa [valueFragments, Value.GivenBy] using h
  | mock t => simpa [valueFragments, mockFragments, Value.GivenBy] using h

/-- The statement that creates the mocked fields has no foreign words. -/
private theorem Framework.worded_initFragments : AllWorded P initFragments := by
  simp [initFragments]

/-- The rule has one, its name. -/
private theorem Framework.worded_ruleFragments {rule : String} (h : P rule) :
    AllWorded P (ruleFragments rule) := by
  simp [ruleFragments, h]

/-- A runner has none. -/
private theorem Runner.worded_fragments (r : Runner) : AllWorded P r.fragments := by
  cases r <;> simp [fragments]

/-- A field has its name, and its type or its literal. -/
private theorem Field.worded_fragments {d : Field} (h : d.GivenBy P) :
    AllWorded P (d.fragments f) := by
  cases d with
  | mock n t => simpa [fragments, GivenBy] using h
  | value n text => simpa [fragments, GivenBy] using h

/-- A function that is filled in has those of its signature and of its
value. -/
private theorem Override.worded_fragments {o : Override} (h : o.GivenBy P) :
    AllWorded P (o.fragments f) := by
  have hparams : AllWorded P
      (commas (o.function.params.map fun p => [foreign p.name, own ": ", foreign p.type.text])) :=
    allWorded_commas (List.forall_mem_map.2 fun p hp => by simpa using h.params p hp)
  unfold fragments
  cases hreceiver : o.function.receiver with
  | none => simp [hparams, h.name, f.worded_valueFragments h.value]
  | some t =>
      have htype := h.receiver t hreceiver
      simp [hparams, htype, h.name, f.worded_valueFragments h.value]

/-- Arguments have nothing but their names. -/
private theorem Creation.worded_arguments {names : List String} (h : ∀ n ∈ names, P n) :
    AllWorded P (arguments names) :=
  allWorded_commas (List.forall_mem_map.2 fun n hn => by simpa using h n hn)

/-- An object has the name of its class, its arguments, and what the
functions filled in have. -/
private theorem Creation.worded_fragments {c : Creation} (h : c.GivenBy P) :
    AllWorded P (c.fragments f) := by
  cases c with
  | construct n as =>
      obtain ⟨hname, hargs⟩ := h
      simp [fragments, hname, worded_arguments hargs]
  | partialMock as =>
      have hargs : AllWorded P (constructorArguments as) := by
        unfold constructorArguments
        split
        · exact allWorded_nil
        · simp [worded_arguments h]
      simp [fragments, hargs]
  | anonymous n as os =>
      obtain ⟨hname, hargs, hoverrides⟩ := h
      refine allWorded_intercalate (by simp) ?_
      simp only [List.forall_mem_append, List.forall_mem_cons, List.forall_mem_map]
      refine ⟨⟨?opening, fun o ho => o.worded_fragments f (hoverrides o ho)⟩, ?closing⟩
      case opening => simp [hname, worded_arguments hargs]
      case closing => simp

-- =============================================================== columns

/-- A constructor has the names and the types of its columns. -/
private theorem Column.worded_constructorFragments {cs : List Column}
    (h : ∀ c ∈ cs, c.GivenBy P) : AllWorded P (constructorFragments cs) := by
  have hcolumns : AllWorded P ([own ",", newline].intercalate (cs.map fragments)) := by
    refine allWorded_intercalate (by simp) (List.forall_mem_map.2 fun c hc => ?_)
    simp [fragments, (h c hc).name, (h c hc).type]
  unfold constructorFragments
  split
  · exact allWorded_nil
  · simp [hcolumns]

/-- The row has their values. -/
private theorem Column.worded_rowFragments {cs : List Column} (h : ∀ c ∈ cs, c.GivenBy P) :
    AllWorded P (rowFragments f cs) := by
  have hvalues : AllWorded P (commas (cs.map fun c => f.valueFragments c.value)) :=
    allWorded_commas (List.forall_mem_map.2 fun c hc => f.worded_valueFragments (h c hc).value)
  simp [rowFragments, hvalues]

-- =============================================================== fixture

/-- A fixture has what its rule, its subject, its fields and its object
have. -/
private theorem Fixture.worded_fragments {x : Fixture} (h : x.GivenBy P) :
    AllWorded P (x.fragments f) := by
  have hrule : AllWorded P (x.rule.toList.flatMap fun r => Framework.ruleFragments r ++ gap) := by
    refine allWorded_flatMap.2 fun r hr => ?_
    simp [Framework.worded_ruleFragments (h.rule r (Option.mem_toList.1 hr))]
  have hfields : AllWorded P (fieldsFragments f x.fields) := by
    unfold fieldsFragments
    split
    · exact allWorded_nil
    · refine allWorded_append.2 ⟨allWorded_intercalate allWorded_gap ?_, allWorded_gap⟩
      exact List.forall_mem_map.2 fun d hd => d.worded_fragments f (h.fields d hd)
  have hinit : AllWorded P (if x.initialises then Framework.initFragments else []) := by
    split
    · exact Framework.worded_initFragments
    · exact allWorded_nil
  simp [fragments, setUpFragments, hrule, hfields, hinit, h.subject, h.type,
    x.creation.worded_fragments f h.creation]

-- =============================================================== methods

/-- A call has the name of its function, what it is called on, and its
arguments. -/
private theorem Call.worded_fragments {c : Call} (h : c.GivenBy P) : AllWorded P c.fragments := by
  have hcallee : AllWorded P c.callee.opening ∧ AllWorded P c.callee.closing := by
    have hgiven := h.callee
    cases hcallee : c.callee with
    | plain | receiver => simp [Callee.opening, Callee.closing]
    | subject s | receiverWithin s =>
        rw [hcallee] at hgiven
        have hs : P s := hgiven
        simp [Callee.opening, Callee.closing, hs]
  have hargs : AllWorded P (commas (c.args.map fun a => [a.fragment])) := by
    refine allWorded_commas (List.forall_mem_map.2 fun a ha => ?_)
    have hgiven := h.args a ha
    cases a with
    | unit => simp [Argument.fragment]
    | «variable» n => simpa [Argument.fragment, Argument.GivenBy] using hgiven
  simp [fragments, hcallee, hargs, h.function]

/-- Variables have their names and their values. The names of the receiver
and of the exceptions are the writer's own. -/
private theorem TestMethod.worded_givenFragments {m : TestMethod} (h : m.GivenBy P) :
    AllWorded P (m.givenFragments f) := by
  have hval : ∀ name : Fragment, name.Worded P → ∀ v : Value, v.GivenBy P →
      AllWorded P (valFragments f name v) := by
    intro name hname v hv
    simp [valFragments, hname, f.worded_valueFragments hv]
  have hlocals : AllWorded P (m.locals.flatMap fun l => valFragments f (foreign l.name) l.value) :=
    allWorded_flatMap.2 fun l hl =>
      hval (foreign l.name) (h.locals l hl).1 l.value (h.locals l hl).2
  have hexceptions : AllWorded P (if m.capture = .caught then
      [indent 2, own "val ", own expectedExceptionName, own " = Exception()", newline,
       indent 2, own "lateinit var ", own actualExceptionName, own ": Exception", newline]
      else []) := by
    split
    · simp
    · exact allWorded_nil
  unfold givenFragments
  cases hreceiver : m.receiver with
  | none => simp [hlocals, hexceptions]
  | some v =>
      have hvalue := hval (own receiverName) clean_methods.1 v (h.receiver v hreceiver)
      have hgap : AllWorded P (if m.locals.isEmpty then [] else [newline]) := by
        split <;> simp
      simp only [allWorded_append]
      refine ⟨⟨⟨⟨?_, hlocals⟩, hgap, hvalue⟩, hexceptions⟩, ?_⟩ <;> simp

/-- What is done in a test has what its call has, and the name of the
variable that keeps the result. -/
private theorem TestMethod.worded_whenFragments {m : TestMethod} (h : m.GivenBy P) :
    AllWorded P m.whenFragments := by
  have hkeep : AllWorded P (keepFragments m.actual) := by
    cases hactual : m.actual with
    | none => exact allWorded_nil
    | some n => simp [keepFragments, h.actual n hactual]
  unfold whenFragments
  cases m.capture <;>
    simp [tryFragments, catchFragments, hkeep, Call.worded_fragments h.call]

/-- What is checked has the names compared and the assertion. -/
private theorem TestMethod.worded_thenFragments {m : TestMethod} (h : m.GivenBy P) :
    AllWorded P m.thenFragments := by
  unfold thenFragments
  cases m.capture with
  | none =>
      cases hexpected : m.expected with
      | none => simp [h.assertion]
      | some e =>
          cases hactual : m.actual with
          | none => simp [h.assertion]
          | some a =>
              have he := h.expected e hexpected
              have ha := h.actual a hactual
              simp [equalityFragments, he, ha, h.assertion]
  | marked => simp
  | caught => simp [equalityFragments]

/-- A test has its title, and what its three parts have. -/
private theorem TestMethod.worded_fragments {m : TestMethod} (h : m.GivenBy P) :
    AllWorded P (m.fragments f) := by
  have hmark : AllWorded P (markFragments m.capture) := by
    unfold markFragments
    split <;> simp
  simp [fragments, hmark, h.title, worded_givenFragments f h, worded_whenFragments h,
    worded_thenFragments h]

-- =============================================================== classes

/-- A class whose words are given has no other words but clean ones. -/
theorem TestClass.worded_bodyFragments {t : TestClass} (h : t.GivenBy P) :
    AllWorded P (t.bodyFragments f) := by
  have hrunner : AllWorded P (t.runner.toList.flatMap fun r => r.fragments ++ [newline]) :=
    allWorded_flatMap.2 fun r _ => by simp [r.worded_fragments]
  have hconstructor : AllWorded P (t.columns.toList.flatMap Column.constructorFragments) :=
    allWorded_flatMap.2 fun cs hcs =>
      Column.worded_constructorFragments (h.columns cs (Option.mem_toList.1 hcs))
  have hrows : AllWorded P
      (t.columns.toList.flatMap fun cs => Column.rowFragments f cs ++ gap) := by
    refine allWorded_flatMap.2 fun cs hcs => ?_
    simp [Column.worded_rowFragments f (h.columns cs (Option.mem_toList.1 hcs))]
  have hfixture : AllWorded P (t.fixture.toList.flatMap (Fixture.fragments f)) :=
    allWorded_flatMap.2 fun x hx => x.worded_fragments f (h.fixture x (Option.mem_toList.1 hx))
  have hmethods : AllWorded P ([newline].intercalate (t.methods.map (TestMethod.fragments f))) :=
    allWorded_intercalate (by simp) (List.forall_mem_map.2 fun m hm =>
      m.worded_fragments f (h.methods m hm))
  simp only [bodyFragments, allWorded_append]
  refine ⟨⟨⟨⟨⟨⟨⟨hrunner, ?name⟩, hconstructor⟩, ?opening⟩, hrows⟩, hfixture⟩, hmethods⟩, ?closing⟩
  case name => simp [h.name]
  case opening => simp
  case closing => simp

end Pieces

-- ================================================================= items

/-- The functions of an item, tested or not. -/
def Item.functions : Item → List FunctionDecl
  | ofClass c => c.functions
  | ofFile d _ => d.functions

/-- The parameters in an item: those of its constructor, and those of its
functions. -/
def Item.params (i : Item) : List Parameter :=
  (match i with | ofClass c => c.params | ofFile _ _ => [])
    ++ i.functions.flatMap (·.params)

/-- The types in an item, as they are declared. -/
def Item.types (i : Item) : List TypeExpr :=
  i.params.map (·.type) ++ i.functions.flatMap fun f => f.result :: f.receiver.toList

/-- The words that a recipe has for the tests of an item: its own, those
of the item, titles and names made from these, and literals of the item's
types. -/
inductive Recipe.Gives (r : Recipe) (i : Item) : String → Prop where
  | own {text : String} (h : text ∈ [r.subject, r.actual, r.assertion, r.toolkit.rule]) :
      Gives r i text
  | name : Gives r i i.name
  | testName : Gives r i (i.name ++ "Test")
  | param {p : Parameter} (h : p ∈ i.params) : Gives r i p.name
  | type {t : TypeExpr} {text : String} (ht : t ∈ i.types) (h : text ∈ [t.text, t.bareText]) :
      Gives r i text
  | function {f : FunctionDecl} (hf : f ∈ i.functions) : Gives r i f.name
  | title {f : FunctionDecl} (hf : f ∈ i.functions) (overloaded : Bool) (c : Capture) :
      Gives r i (f.title overloaded c)
  | column {f : FunctionDecl} {p : Parameter} (hf : f ∈ i.functions) (hp : p ∈ f.params) :
      Gives r i (f.columnName p)
  | expected {f : FunctionDecl} (hf : f ∈ i.functions) : Gives r i f.expectedName
  | literal {name : String} {t : TypeExpr} {text : String} (ht : t ∈ i.types)
      (h : r.toolkit.value name t = .literal text) : Gives r i text

namespace Recipe

variable {r : Recipe} {i : Item} {f : FunctionDecl} {fs : List FunctionDecl}

/-- A parameter of a function is one of its item. -/
private theorem param_mem_params (hf : f ∈ i.functions) {p : Parameter} (hp : p ∈ f.params) :
    p ∈ i.params :=
  List.mem_append_right _ (List.mem_flatMap.2 ⟨f, hf, hp⟩)

/-- The type of a parameter is one of its item. -/
private theorem type_mem_types {p : Parameter} (hp : p ∈ i.params) : p.type ∈ i.types :=
  List.mem_append_left _ (List.mem_map_of_mem hp)

/-- So is the type that a function extends. -/
private theorem receiver_mem_types (hf : f ∈ i.functions) {t : TypeExpr} (ht : t ∈ f.receiver) :
    t ∈ i.types :=
  List.mem_append_right _
    (List.mem_flatMap.2 ⟨f, hf, List.mem_cons_of_mem _ (Option.mem_toList.2 ht)⟩)

/-- So is the type of its result. -/
private theorem result_mem_types (hf : f ∈ i.functions) : f.result ∈ i.types :=
  List.mem_append_right _ (List.mem_flatMap.2 ⟨f, hf, List.mem_cons_self⟩)

/-- A type in the item may be written as it is declared. -/
private theorem gives_text {t : TypeExpr} (ht : t ∈ i.types) : r.Gives i t.text :=
  .type ht List.mem_cons_self

/-- It may be written without its mark as well. -/
private theorem gives_bareText {t : TypeExpr} (ht : t ∈ i.types) : r.Gives i t.bareText :=
  .type ht (List.mem_cons_of_mem _ List.mem_cons_self)

/-- A value is a literal or a mock of its type. -/
private theorem givenBy_value (name : String) {t : TypeExpr} (ht : t ∈ i.types) :
    (r.toolkit.value name t).GivenBy (r.Gives i) := by
  cases hv : r.toolkit.value name t with
  | literal text => exact .literal ht hv
  | mock u =>
      obtain rfl : u = t := by
        unfold Toolkit.value Registry.value at hv
        split at hv
        · cases hv
        · cases hv
          rfl
      exact gives_bareText ht

/-- Columns are named after functions and parameters, and typed like these. -/
private theorem givenBy_columns (hfs : ∀ f ∈ fs, f ∈ i.functions) :
    ∀ c ∈ r.toolkit.columns fs, c.GivenBy (r.Gives i) := by
  refine List.forall_mem_map.2 fun e he => ?_
  obtain ⟨f, hf, he⟩ := List.mem_flatMap.1 he
  have hf := hfs f hf
  obtain ⟨hname, htype⟩ : r.Gives i e.name ∧ e.type ∈ i.types := by
    rcases List.mem_append.1 he with he | he
    · obtain ⟨p, hp, rfl⟩ := List.mem_map.1 he
      have htype : p.type ∈ i.types := type_mem_types (param_mem_params hf hp)
      exact ⟨.column hf hp, htype⟩
    · split at he
      · obtain rfl := List.mem_singleton.1 he
        exact ⟨.expected hf, result_mem_types hf⟩
      · cases he
  exact ⟨hname, gives_text htype, givenBy_value e.name htype⟩

/-- A field is named after its parameter. -/
private theorem givenBy_field {p : Parameter} (hp : p ∈ i.params) :
    (r.toolkit.field p).GivenBy (r.Gives i) := by
  have hvalue := givenBy_value (r := r) p.name (type_mem_types hp)
  unfold Toolkit.field
  split
  next text hv =>
    rw [hv] at hvalue
    exact ⟨.param hp, hvalue⟩
  next t hv =>
    rw [hv] at hvalue
    exact ⟨.param hp, hvalue⟩

/-- A function is filled in under its own signature. -/
private theorem givenBy_override (hf : f ∈ i.functions) :
    Override.GivenBy (r.Gives i) ⟨f, r.toolkit.value f.name f.result⟩ where
  name := .function hf
  receiver := fun _ ht => gives_text (receiver_mem_types hf ht)
  params := fun _ hp =>
    ⟨.param (param_mem_params hf hp), gives_text (type_mem_types (param_mem_params hf hp))⟩
  value := givenBy_value f.name (result_mem_types hf)

/-- An object is made from the name of its class and from the names of its
parameters, and abstract functions are filled in if need be. -/
private theorem givenBy_creation (c : ClassDecl) :
    (r.toolkit.creation c).GivenBy (r.Gives (.ofClass c)) := by
  have hargs : ∀ a ∈ c.paramNames, r.Gives (.ofClass c) a :=
    List.forall_mem_map.2 fun p hp => .param (List.mem_append_left _ hp)
  have hoverrides : ∀ o ∈ r.toolkit.overrides c, o.GivenBy (r.Gives (.ofClass c)) :=
    List.forall_mem_map.2 fun f hf => givenBy_override (List.mem_filter.1 hf).1
  unfold Toolkit.creation Toolkit.abstractCreation
  cases c.isAbstract with
  | false => exact ⟨.name, hargs⟩
  | true =>
      cases r.toolkit.framework with
      | mockito => exact hargs
      | mockk => exact ⟨.name, hargs, hoverrides⟩

/-- Rule and subject are words of the recipe, all else in a fixture is about
the class. -/
private theorem givenBy_fixture (c : ClassDecl) (o : Occasion) :
    (r.fixture c o).GivenBy (r.Gives (.ofClass c)) where
  rule := by
    intro rule hrule
    have hknown : r.toolkit.rule? = some rule := by
      change rule ∈ (if o.parameterized && o.mockedFields then r.toolkit.rule? else none) at hrule
      split at hrule
      · exact hrule
      · cases hrule
    have hown : rule = r.toolkit.rule := by
      unfold Toolkit.rule? at hknown
      split at hknown
      · exact (Option.some.inj hknown).symm
      · cases hknown
    exact .own (by simp [hown])
  subject := .own List.mem_cons_self
  type := .name
  fields := List.forall_mem_map.2 fun _ hp => givenBy_field (List.mem_append_left _ hp)
  creation := givenBy_creation c

/-- A function is called under its name on the subject of the recipe, if on
any, with columns or parameters for arguments. -/
private theorem givenBy_call {subject : Option String} (hsubject : ∀ s ∈ subject, s = r.subject)
    (hf : f ∈ i.functions) (parameterized : Bool) :
    Call.GivenBy (r.Gives i) ⟨f.callee subject, f.name, f.params.map (f.argument parameterized)⟩
    where
  callee := by
    have hgiven : ∀ s ∈ subject, r.Gives i s := by
      intro s hs
      rw [hsubject s hs]
      exact .own List.mem_cons_self
    unfold FunctionDecl.callee
    cases subject with
    | none => cases f.receiver.isNone <;> trivial
    | some s => cases f.receiver.isNone <;> exact hgiven s rfl
  function := .function hf
  args := by
    refine List.forall_mem_map.2 fun p hp => ?_
    unfold FunctionDecl.argument
    split
    · trivial
    split
    · exact .column hf hp
    · exact .param (param_mem_params hf hp)

/-- A test is titled after its function, and its variables are named after
parameters or by the recipe. -/
private theorem givenBy_method {subject : Option String} (hsubject : ∀ s ∈ subject, s = r.subject)
    (hf : f ∈ i.functions) (parameterized : Bool) (c : Capture) :
    (r.method subject parameterized fs f c).GivenBy (r.Gives i) where
  title := .title hf _ c
  locals := by
    intro l hl
    change l ∈ (if parameterized then [] else
      f.params.map fun p => (⟨p.name, r.toolkit.value p.name p.type⟩ : Local)) at hl
    split at hl
    · cases hl
    · obtain ⟨p, hp, rfl⟩ := List.mem_map.1 hl
      have hparam := param_mem_params hf hp
      exact ⟨.param hparam, givenBy_value p.name (type_mem_types hparam)⟩
  receiver := by
    intro v hv
    obtain ⟨t, ht, rfl⟩ := Option.map_eq_some_iff.1 hv
    exact givenBy_value t.name (receiver_mem_types hf ht)
  call := givenBy_call hsubject hf parameterized
  actual := by
    intro n hn
    obtain ⟨-, hname⟩ := Option.ite_none_right_eq_some.1 hn
    obtain rfl := Option.some.inj hname
    exact .own (List.mem_cons_of_mem _ List.mem_cons_self)
  expected := by
    intro n hn
    obtain ⟨-, hname⟩ := Option.ite_none_right_eq_some.1 hn
    obtain rfl := Option.some.inj hname
    exact .expected hf
  assertion := .own (by simp [method])

/-- All tests of some functions are made that way. -/
private theorem givenBy_methods {subject : Option String} (hsubject : ∀ s ∈ subject, s = r.subject)
    (hfs : ∀ f ∈ fs, f ∈ i.functions) (parameterized : Bool) :
    ∀ m ∈ r.methods subject parameterized fs, m.GivenBy (r.Gives i) := by
  intro m hm
  obtain ⟨f, hf, hm⟩ := List.mem_flatMap.1 hm
  obtain ⟨c, -, rfl⟩ := List.mem_map.1 hm
  exact givenBy_method hsubject (hfs f hf) parameterized c

/-- All words that a recipe puts into a test class are its own, those of
the item, or literals. -/
theorem givenBy_tests (r : Recipe) (i : Item) (o : Occasion) :
    (r.tests i o).GivenBy (r.Gives i) := by
  have hcolumns : ∀ fs : List FunctionDecl, (∀ f ∈ fs, f ∈ i.functions) →
      ∀ cs ∈ (if o.parameterized then some (r.toolkit.columns fs) else none),
        ∀ c ∈ cs, c.GivenBy (r.Gives i) := by
    intro fs hfs cs hcs
    obtain ⟨-, hcs⟩ := Option.ite_none_right_eq_some.1 hcs
    obtain rfl := Option.some.inj hcs
    exact givenBy_columns hfs
  cases i with
  | ofClass c =>
      have htested : ∀ f ∈ concrete c.functions, f ∈ c.functions :=
        fun f hf => (List.mem_filter.1 hf).1
      refine ⟨.testName, hcolumns _ htested, fun x hx => ?_, givenBy_methods ?_ htested _⟩
      · obtain rfl := Option.some.inj hx
        exact givenBy_fixture c o
      · exact fun s hs => (Option.some.inj hs).symm
  | ofFile d n =>
      have htested : ∀ f ∈ concrete d.functions, f ∈ d.functions :=
        fun f hf => (List.mem_filter.1 hf).1
      have hnone : ∀ s ∈ (none : Option String), s = r.subject := fun s hs => by cases hs
      refine ⟨.testName, hcolumns _ htested, fun x hx => ?_, givenBy_methods hnone htested _⟩
      cases hx

end Recipe

end TestDraft
