/-
The symbols that a test class uses: the names in it that have to be
imported. They are listed structure by structure, so a place that writes
a mock, a mark or a runner counts for itself, whatever made it.

# What counts as a use

An inline mock and a mocked field use a symbol of the framework, the
runner and the row of values those of the runner's package, `setUp` the
mark in front of it, and so on. `TestClass.symbols_bodyFragments` keeps
the list honest: it is exactly what is appended as a symbol, place by
place, so nothing is listed that is not written, and nothing written is
missing.
-/
import TestDraft.TestClass.Output

namespace TestDraft

-- =============================================================== symbols

/-- The symbols that declare a mocking rule. -/
def Framework.ruleSymbols : List Symbol := [.rule, .methodRule, .mockitoJUnit]

/-- The symbols of an expression. -/
def Value.symbols (f : Framework) : Value → List Symbol
  | .literal _ => []
  | .mock _ => [f.mockSymbol]

/-- The symbols of a field. -/
def Field.symbols (f : Framework) : Field → List Symbol
  | .mock _ _ => [f.fieldSymbol]
  | .value _ _ => []

/-- The symbols that name a runner. -/
def Runner.symbols : Runner → List Symbol
  | .mocking => [.runWith, .mockitoJUnitRunner]
  | .parameterized => [.runWith, .parameterized]

/-- The symbols of the object under test. -/
def Creation.symbols (f : Framework) : Creation → List Symbol
  | .construct _ _ => []
  | .partialMock args =>
    [.mockCall, .mockitoClass] ++ (if args.isEmpty then [] else [.useConstructor])
  | .anonymous _ _ overrides => overrides.flatMap fun o => o.value.symbols f

/-- The symbols of the object that holds the row of values. -/
def Column.rowSymbols (f : Framework) (cs : List Column) : List Symbol :=
  .parameters :: cs.flatMap fun c => c.value.symbols f

/-- The symbols of a fixture. -/
def Fixture.symbols (f : Framework) (x : Fixture) : List Symbol :=
  (x.rule.toList.flatMap fun _ => Framework.ruleSymbols)
    ++ x.fields.flatMap (Field.symbols f)
    ++ [.before]
    ++ (if x.initialises then [.mockkInit] else [])
    ++ x.creation.symbols f

/-- The symbols of a test method. -/
def TestMethod.symbols (f : Framework) (m : TestMethod) : List Symbol :=
  [.test]
    ++ (m.locals.flatMap fun l => l.value.symbols f)
    ++ m.receiver.toList.flatMap (Value.symbols f)
    ++ (m.compared.toList.map fun _ => .assertEquals)

/-- The symbols of a test class. -/
def TestClass.symbols (f : Framework) (t : TestClass) : List Symbol :=
  t.runner.toList.flatMap Runner.symbols
    ++ t.columns.toList.flatMap (Column.rowSymbols f)
    ++ t.fixture.toList.flatMap (Fixture.symbols f)
    ++ t.methods.flatMap (TestMethod.symbols f)

-- ============================================== symbols of fragments

namespace Fragment

@[simp] private theorem symbols_nil : symbols [] = [] := rfl

@[simp] private theorem symbols_cons_indent (n : Nat) (ps : List Fragment) :
    symbols (indent n :: ps) = symbols ps := rfl

@[simp] private theorem symbols_cons_own (text : String) (ps : List Fragment) :
    symbols (own text :: ps) = symbols ps := rfl

@[simp] private theorem symbols_cons_foreign (text : String) (ps : List Fragment) :
    symbols (foreign text :: ps) = symbols ps := rfl

@[simp] private theorem symbols_cons_newline (ps : List Fragment) :
    symbols (newline :: ps) = symbols ps := rfl

/-- Only symbols count. -/
@[simp] private theorem symbols_cons_symbol (x : Symbol) (ps : List Fragment) :
    symbols (symbol x :: ps) = x :: symbols ps := rfl

@[simp] private theorem symbols_gap : symbols gap = [] := rfl

/-- Symbols come in the order in which they are appended. -/
@[simp] private theorem symbols_append (ps qs : List Fragment) :
    symbols (ps ++ qs) = symbols ps ++ symbols qs := List.filterMap_append

/-- Parts that are appended one by one bring theirs in turn. -/
@[simp] private theorem symbols_flatMap {α : Type} (xs : List α) (g : α → List Fragment) :
    symbols (xs.flatMap g) = xs.flatMap fun x => symbols (g x) := List.filterMap_flatMap

/-- A separator without symbols does not show in them. -/
private theorem symbols_intercalate {sep : List Fragment} (h : symbols sep = [])
    (pss : List (List Fragment)) : symbols (sep.intercalate pss) = pss.flatMap symbols := by
  induction pss with
  | nil => rfl
  | cons ps pss ih =>
      cases pss with
      | nil => simp
      | cons qs pss =>
          rw [List.intercalate_cons_cons, symbols_append, symbols_append, h, ih, List.append_nil,
            ← List.flatMap_cons]

/-- Commas are no symbols. -/
@[simp] private theorem symbols_commas (pss : List (List Fragment)) :
    symbols (commas pss) = pss.flatMap symbols := symbols_intercalate rfl pss

/-- A symbol is used if it is one of the fragments. -/
theorem mem_symbols_iff {x : Symbol} {ps : List Fragment} : x ∈ symbols ps ↔ symbol x ∈ ps := by
  unfold symbols
  rw [List.mem_filterMap]
  constructor
  · rintro ⟨p, hp, hx⟩
    cases p with
    | symbol y =>
        obtain rfl := Option.some.inj hx
        exact hp
    | _ => cases hx
  · exact fun h => ⟨symbol x, h, rfl⟩

end Fragment

-- =============================================================== pieces

section Pieces

variable (f : Framework)

open Fragment

/-- A value uses the symbol of a mock, or nothing. -/
private theorem Framework.symbols_valueFragments (v : Value) :
    Fragment.symbols (f.valueFragments v) = v.symbols f := by
  cases v <;> rfl

/-- A rule uses the three symbols that declare it. -/
private theorem Framework.symbols_ruleFragments (rule : String) :
    Fragment.symbols (ruleFragments rule) = ruleSymbols := rfl

/-- A runner uses the mark and its own name. -/
private theorem Runner.symbols_fragments (r : Runner) :
    Fragment.symbols r.fragments = r.symbols := by
  cases r <;> rfl

/-- A field uses the mark of a mock, or nothing. -/
private theorem Field.symbols_fragments (d : Field) :
    Fragment.symbols (d.fragments f) = d.symbols f := by
  cases d <;> rfl

/-- A function that is filled in uses what its value uses. -/
private theorem Override.symbols_fragments (o : Override) :
    Fragment.symbols (o.fragments f) = o.value.symbols f := by
  unfold fragments
  cases o.function.receiver <;>
    simp [Framework.symbols_valueFragments, List.flatMap_map]

/-- Names of arguments are no symbols. -/
private theorem Creation.symbols_arguments (names : List String) :
    Fragment.symbols (arguments names) = [] := by
  simp [arguments, List.flatMap_map]

/-- An object uses what the functions filled in use, or what makes a mock
that runs the methods it has. -/
private theorem Creation.symbols_fragments (c : Creation) :
    Fragment.symbols (c.fragments f) = c.symbols f := by
  cases c with
  | construct n as => simp [fragments, symbols, symbols_arguments]
  | partialMock as =>
      cases as with
      | nil => rfl
      | cons a as => simp [fragments, symbols, constructorArguments, symbols_arguments]
  | anonymous n as os =>
      rw [fragments, symbols_intercalate rfl]
      simp [symbols, symbols_arguments, List.flatMap_map, Override.symbols_fragments]

/-- A constructor only declares its columns. -/
private theorem Column.symbols_constructorFragments (cs : List Column) :
    Fragment.symbols (constructorFragments cs) = [] := by
  cases cs with
  | nil => rfl
  | cons c cs =>
      have hcolumns : Fragment.symbols ([own ",", newline].intercalate ((c :: cs).map fragments))
          = [] := by
        rw [symbols_intercalate rfl]
        simp [fragments, List.flatMap_map]
      rw [constructorFragments, symbols_append, symbols_append, hcolumns]
      · rfl
      · nofun

/-- The row uses its mark, and what its values use. -/
private theorem Column.symbols_rowFragments (cs : List Column) :
    Fragment.symbols (rowFragments f cs) = rowSymbols f cs := by
  simp [rowFragments, rowSymbols, List.flatMap_map, Framework.symbols_valueFragments]

-- =============================================================== fixture

/-- The gaps between fields are empty lines. -/
private theorem Fixture.symbols_fieldsFragments (ds : List Field) :
    Fragment.symbols (fieldsFragments f ds) = ds.flatMap (Field.symbols f) := by
  unfold fieldsFragments
  cases ds with
  | nil => rfl
  | cons d ds =>
      rw [List.isEmpty_cons, if_neg Bool.false_ne_true, symbols_append,
        symbols_intercalate symbols_gap]
      simp [List.flatMap_map, Field.symbols_fragments]

/-- A fixture uses what its rule, its fields, its `setUp` and its object
use, in this order. -/
private theorem Fixture.symbols_fragments (x : Fixture) :
    Fragment.symbols (x.fragments f) = x.symbols f := by
  have hinit : Fragment.symbols (if x.initialises then Framework.initFragments else [])
      = if x.initialises then [.mockkInit] else [] := by
    cases x.initialises <;> rfl
  simp [fragments, symbols, setUpFragments, hinit, symbols_fieldsFragments,
    Framework.symbols_ruleFragments, Creation.symbols_fragments]

-- =============================================================== methods

/-- Variables and receiver use what their values use; the exceptions in
front of an attempt use nothing. -/
private theorem TestMethod.symbols_givenFragments (m : TestMethod) :
    Fragment.symbols (m.givenFragments f)
      = m.locals.flatMap (fun l => l.value.symbols f)
        ++ m.receiver.toList.flatMap (Value.symbols f) := by
  have hexceptions : Fragment.symbols (if m.capture = .caught then
      [indent 2, own "val ", own expectedExceptionName, own " = Exception()", newline,
       indent 2, own "lateinit var ", own actualExceptionName, own ": Exception", newline]
      else []) = [] := by
    split <;> rfl
  unfold givenFragments
  cases m.receiver <;> cases m.locals <;>
    simp [valFragments, Framework.symbols_valueFragments, hexceptions]

/-- A call uses nothing that has to be imported. -/
private theorem Call.symbols_fragments (c : Call) : Fragment.symbols c.fragments = [] := by
  have hargument : ∀ a : Argument, Fragment.symbols [a.fragment] = [] := by
    intro a
    cases a <;> rfl
  unfold fragments
  cases c.callee <;>
    simp [Callee.opening, Callee.closing, List.flatMap_map, hargument]

/-- So what is done in a test uses nothing, tried or not. -/
private theorem TestMethod.symbols_whenFragments (m : TestMethod) :
    Fragment.symbols m.whenFragments = [] := by
  have hkeep : Fragment.symbols (keepFragments m.actual) = [] := by cases m.actual <;> rfl
  unfold whenFragments
  cases m.capture <;>
    simp [tryFragments, catchFragments, hkeep, Call.symbols_fragments]

/-- A test uses `assertEquals` where it compares, and only there. -/
private theorem TestMethod.symbols_thenFragments (m : TestMethod) :
    Fragment.symbols m.thenFragments = m.compared.toList.map fun _ => .assertEquals := by
  unfold thenFragments compared
  cases m.capture with
  | none => cases m.expected <;> cases m.actual <;> rfl
  | marked => rfl
  | caught => rfl

/-- A test uses its mark, what its values use, and the comparison. -/
private theorem TestMethod.symbols_fragments (m : TestMethod) :
    Fragment.symbols (m.fragments f) = m.symbols f := by
  have hmark : Fragment.symbols (markFragments m.capture) = [.test] := by
    cases m.capture <;> rfl
  simp [fragments, symbols, hmark, symbols_givenFragments, symbols_whenFragments,
    symbols_thenFragments]

-- =============================================================== classes

/-- The symbols of a class are those that are appended for it, in order. -/
theorem TestClass.symbols_bodyFragments (t : TestClass) :
    Fragment.symbols (t.bodyFragments f) = t.symbols f := by
  have hmethods : Fragment.symbols ([newline].intercalate (t.methods.map (TestMethod.fragments f)))
      = t.methods.flatMap (TestMethod.symbols f) := by
    rw [symbols_intercalate rfl]
    simp only [List.flatMap_map, TestMethod.symbols_fragments]
  simp [bodyFragments, symbols, hmethods, Runner.symbols_fragments,
    Column.symbols_constructorFragments, Column.symbols_rowFragments, Fixture.symbols_fragments]

end Pieces

end TestDraft
