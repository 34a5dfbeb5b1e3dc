/-
Test classes that mock nothing. The mocking framework shows in a class
through the mocks in it only: where every value is a literal, the same is
appended with any framework (`TestClass.Literal.fragments_eq`). Items
without anything to be mocked get such classes, whatever the recipe, and
neither the framework of the recipe nor its rule plays a part in them
(`Recipe.literal_tests`, `Recipe.tests_withFramework`).
-/
import Mathlib.Data.List.Basic
import TestDraft.TestClass.Output
import TestDraft.TestClass.Recipe

namespace TestDraft

open Text

-- ============================================================== literals

def Value.IsLiteral : Value → Prop
  | .literal _ => True
  | .mock _ => False

def Field.IsLiteral : Field → Prop
  | .value _ _ => True
  | .mock _ _ => False

/-- Whether the object under test is made by its constructor. -/
def Creation.IsPlain : Creation → Prop
  | construct _ _ => True
  | partialMock _ => False
  | anonymous _ _ _ => False

structure Fixture.Literal (x : Fixture) : Prop where
  fields : ∀ d ∈ x.fields, d.IsLiteral
  creation : x.creation.IsPlain

structure TestMethod.Literal (m : TestMethod) : Prop where
  locals : ∀ l ∈ m.locals, l.value.IsLiteral
  receiver : ∀ v ∈ m.receiver, v.IsLiteral

structure TestClass.Literal (t : TestClass) : Prop where
  columns : ∀ cs ∈ t.columns, ∀ c ∈ cs, c.value.IsLiteral
  fixture : ∀ x ∈ t.fixture, x.Literal
  methods : ∀ m ∈ t.methods, m.Literal

-- ============================================================= fragments

/-- What is appended for a literal is its text. -/
private theorem Value.IsLiteral.valueFragments_eq {v : Value} (h : v.IsLiteral) (f g : Framework) :
    f.valueFragments v = g.valueFragments v := by
  cases v with
  | literal text => rfl
  | mock t => cases h

/-- The row shows the framework in its values only. -/
private theorem Column.rowFragments_eq {cs : List Column} (h : ∀ c ∈ cs, c.value.IsLiteral)
    (f g : Framework) : rowFragments f cs = rowFragments g cs := by
  have hvalues : cs.map (fun c => f.valueFragments c.value)
      = cs.map fun c => g.valueFragments c.value :=
    List.map_congr_left fun c hc => (h c hc).valueFragments_eq f g
  rw [rowFragments, rowFragments, hvalues]

/-- A field with a literal does not show it. -/
theorem Field.IsLiteral.fragments_eq {d : Field} (h : d.IsLiteral) (f g : Framework) :
    d.fragments f = d.fragments g := by
  cases d with
  | value name text => rfl
  | mock name type => cases h

/-- A fixture shows the framework in its fields and its object only. -/
theorem Fixture.Literal.fragments_eq {x : Fixture} (h : x.Literal) (f g : Framework) :
    x.fragments f = x.fragments g := by
  have hfields : x.fields.map (Field.fragments f) = x.fields.map (Field.fragments g) :=
    List.map_congr_left fun d hd => (h.fields d hd).fragments_eq f g
  have hcreation : x.creation.fragments f = x.creation.fragments g := by
    have hplain := h.creation
    revert hplain
    cases x.creation with
    | construct name args => exact fun _ => rfl
    | partialMock args => exact False.elim
    | anonymous name args overrides => exact False.elim
  rw [fragments, fragments, fieldsFragments, fieldsFragments, setUpFragments, setUpFragments,
    hfields, hcreation]

/-- A test shows it in its variables and its receiver only. -/
theorem TestMethod.Literal.fragments_eq {m : TestMethod} (h : m.Literal) (f g : Framework) :
    m.fragments f = m.fragments g := by
  have hval : ∀ name {v : Value}, v.IsLiteral → valFragments f name v = valFragments g name v := by
    intro name v hv
    rw [valFragments, valFragments, hv.valueFragments_eq f g]
  have hlocals : m.locals.flatMap (fun l => valFragments f (.foreign l.name) l.value)
      = m.locals.flatMap fun l => valFragments g (.foreign l.name) l.value :=
    List.flatMap_congr fun l hl => hval (.foreign l.name) (h.locals l hl)
  have hgiven : m.givenFragments f = m.givenFragments g := by
    unfold givenFragments
    rw [hlocals]
    cases hreceiver : m.receiver with
    | none => rfl
    | some v => simp only [hval _ (h.receiver v hreceiver)]
  rw [fragments, fragments, hgiven]

/-- What is appended for a class without mocks is the same with any
framework. -/
theorem TestClass.Literal.fragments_eq {t : TestClass} (h : t.Literal) (f g : Framework) :
    t.fragments f = t.fragments g := by
  have hrows : (t.columns.toList.flatMap fun cs => Column.rowFragments f cs ++ Fragment.gap)
      = t.columns.toList.flatMap fun cs => Column.rowFragments g cs ++ Fragment.gap :=
    List.flatMap_congr fun cs hcs => by
      rw [Column.rowFragments_eq (h.columns cs (Option.mem_toList.1 hcs)) f g]
  have hfixture : t.fixture.toList.flatMap (Fixture.fragments f)
      = t.fixture.toList.flatMap (Fixture.fragments g) :=
    List.flatMap_congr fun x hx => (h.fixture x (Option.mem_toList.1 hx)).fragments_eq f g
  have hmethods : t.methods.map (TestMethod.fragments f)
      = t.methods.map (TestMethod.fragments g) :=
    List.map_congr_left fun m hm => (h.methods m hm).fragments_eq f g
  rw [fragments, fragments, bodyFragments, bodyFragments, hrows, hfixture, hmethods]

-- ================================================================= items

/-- Whether a test of the function needs no mock; results count where
tests take rows of values. -/
def FunctionDecl.Unmocked (r : Registry) (rows : Bool) (f : FunctionDecl) : Prop :=
  (∀ p ∈ f.params, r.isMockable p.type = false)
    ∧ (∀ t ∈ f.receiver, r.isMockable t = false)
    ∧ (rows = true → r.isMockable f.result = false)

/-- Whether an object of the class is made without mocks. -/
def ClassDecl.Unmocked (r : Registry) (c : ClassDecl) : Prop :=
  c.isAbstract = false ∧ ∀ p ∈ c.params, r.isMockable p.type = false

/-- Whether the tests of an item need no mock. -/
def Item.Unmocked (r : Registry) (rows : Bool) : Item → Prop
  | ofClass c => c.Unmocked r ∧ ∀ f ∈ concrete c.functions, f.Unmocked r rows
  | ofFile d _ => ∀ f ∈ concrete d.functions, f.Unmocked r rows

instance (r : Registry) (rows : Bool) (f : FunctionDecl) : Decidable (f.Unmocked r rows) :=
  inferInstanceAs (Decidable (_ ∧ _ ∧ _))

instance (r : Registry) (rows : Bool) (i : Item) : Decidable (i.Unmocked r rows) :=
  match i with
  | .ofClass _ => inferInstanceAs (Decidable ((_ ∧ _) ∧ _))
  | .ofFile _ _ => inferInstanceAs (Decidable (∀ f ∈ _, _))

/-- A type that needs no mock has a literal under any name. -/
private theorem Registry.isLiteral_value {r : Registry} {t : TypeExpr} (h : r.isMockable t = false)
    (name : String) : (r.value name t).IsLiteral := by
  unfold isMockable at h
  unfold value
  cases hrule : r.find? t with
  | some rule => trivial
  | none =>
      rw [hrule] at h
      cases h

section Toolkit

variable {k : Toolkit} {fs : List FunctionDecl}

/-- A parameter whose type needs no mock gets such a field. -/
private theorem Toolkit.isLiteral_field {p : Parameter} (h : k.isMockable p.type = false) :
    (k.field p).IsLiteral := by
  have hvalue : (k.value p.name p.type).IsLiteral := Registry.isLiteral_value h p.name
  unfold field
  split
  next => trivial
  next t hmock =>
    rw [hmock] at hvalue
    cases hvalue

/-- The row of values of unmocked functions is one of literals. -/
private theorem Toolkit.isLiteral_columns (h : ∀ f ∈ fs, f.Unmocked k.registry true) :
    ∀ c ∈ k.columns fs, c.value.IsLiteral := by
  intro c hc
  obtain ⟨e, he, rfl⟩ := List.mem_map.1 hc
  obtain ⟨f, hf, he⟩ := List.mem_flatMap.1 he
  obtain ⟨hparams, -, hresult⟩ := h f hf
  rcases List.mem_append.1 he with he | he
  · obtain ⟨p, hp, rfl⟩ := List.mem_map.1 he
    exact Registry.isLiteral_value (hparams p hp) _
  · split at he
    case isTrue =>
      obtain rfl := List.mem_singleton.1 he
      exact Registry.isLiteral_value (hresult rfl) _
    case isFalse => cases he

end Toolkit

namespace Recipe

variable {r : Recipe} {i : Item} {o : Occasion}

/-- A test of an unmocked function is free of mocks. -/
private theorem literal_method {f : FunctionDecl} {rows : Bool}
    (h : f.Unmocked r.toolkit.registry rows) (subject : Option String) (fs : List FunctionDecl)
    (c : Capture) : (r.method subject rows fs f c).Literal where
  locals := by
    intro l hl
    simp only [method] at hl
    split at hl
    case isTrue => cases hl
    case isFalse =>
      obtain ⟨p, hp, rfl⟩ := List.mem_map.1 hl
      exact Registry.isLiteral_value (h.1 p hp) _
  receiver := by
    intro v hv
    obtain ⟨t, ht, rfl⟩ := Option.map_eq_some_iff.1 hv
    exact Registry.isLiteral_value (h.2.1 t ht) _

/-- So are all tests of a class. -/
private theorem literal_methods {fs : List FunctionDecl} {rows : Bool}
    (h : ∀ f ∈ fs, f.Unmocked r.toolkit.registry rows) (subject : Option String) :
    ∀ m ∈ r.methods subject rows fs, m.Literal := by
  intro m hm
  obtain ⟨f, hf, hm⟩ := List.mem_flatMap.1 hm
  obtain ⟨c, -, rfl⟩ := List.mem_map.1 hm
  exact literal_method (h f hf) subject fs c

/-- The test class of an item without anything to be mocked has no mocks. -/
theorem literal_tests (h : i.Unmocked r.toolkit.registry o.parameterized) :
    (r.tests i o).Literal := by
  have hcolumns : ∀ fs : List FunctionDecl,
      (∀ f ∈ fs, f.Unmocked r.toolkit.registry o.parameterized) →
      ∀ cs ∈ (if o.parameterized then some (r.toolkit.columns fs) else none),
        ∀ c ∈ cs, c.value.IsLiteral := by
    intro fs hfs cs hcs
    split at hcs
    case isTrue hrows =>
      rw [hrows] at hfs
      obtain rfl := Option.some.inj hcs
      exact Toolkit.isLiteral_columns hfs
    case isFalse => cases hcs
  cases i with
  | ofFile d name =>
      exact ⟨hcolumns _ h, nofun, literal_methods h none⟩
  | ofClass c =>
      obtain ⟨⟨hconcrete, hparams⟩, hfunctions⟩ := h
      refine ⟨hcolumns _ hfunctions, fun x hx => ?_, literal_methods hfunctions _⟩
      obtain rfl := Option.some.inj hx
      refine ⟨fun d hd => ?_, ?_⟩
      · obtain ⟨p, hp, rfl⟩ := List.mem_map.1 hd
        exact Toolkit.isLiteral_field (hparams p hp)
      · simp [fixture, Toolkit.creation, hconcrete, Creation.IsPlain]

-- ============================================================ frameworks

/-- The recipe with another framework, and another name for its rule. -/
def withFramework (f : Framework) (rule : String) (r : Recipe) : Recipe :=
  { r with toolkit := { r.toolkit with framework := f, rule := rule } }

/-- Where nothing is mocked, the test class is the same with any framework
and any rule. -/
theorem tests_withFramework (h : i.Unmocked r.toolkit.registry o.parameterized)
    (hfields : o.mockedFields = false) (f : Framework) (rule : String) :
    (r.withFramework f rule).tests i o = r.tests i o := by
  cases i with
  | ofFile d name => rfl
  | ofClass c =>
      have hcreation : (r.withFramework f rule).toolkit.creation c = r.toolkit.creation c := by
        simp only [Toolkit.creation, h.1.1]
        rfl
      have hrunner : (r.withFramework f rule).runner? o = r.runner? o := by
        simp only [runner?, hfields]
        rfl
      have hrule : (r.withFramework f rule).fixture c o = r.fixture c o := by
        simp only [fixture, hcreation, hfields, Bool.and_false]
        rfl
      show (r.withFramework f rule).classTests c o = r.classTests c o
      rw [classTests, classTests, hrunner, hrule]
      rfl

end Recipe

end TestDraft
