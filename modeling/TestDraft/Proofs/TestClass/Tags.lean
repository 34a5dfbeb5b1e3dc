/-
The tags of a test class: what annotates it and its members, in lines
outside of methods that start with an `@`. They are listed structure by
structure; the list is exactly what a look at the lines finds
(`filter_lines`), so a tag that stands among the lines goes back to the
runner, the rule, a mocked field or a test, whatever names and texts the
class is made from.
-/
import Mathlib.Data.List.Nodup
import TestDraft.Proofs.TestClass.Layout
import TestDraft.Proofs.TestClass.Statements

namespace TestDraft

open Text

/-- Whether a line outside of methods starts with an `@`. -/
def Text.Line.isTag (l : Line) : Bool :=
  l.depth ≤ 1 && l.text.toList.head? == some '@'

-- ================================================================== tags

/-- What annotates a test class or one of its members. -/
inductive Tag where
  | runner (r : Runner)
  /-- Marks a mocking rule. -/
  | rule
  /-- Marks a mocked field. -/
  | mockField
  | setUp
  | test
  /-- Marks a test that expects an exception. -/
  | throwingTest
deriving DecidableEq

def Tag.line (f : Framework) : Tag → Line
  | runner r => ⟨0, r.text⟩
  | rule => ⟨1, "@get:Rule"⟩
  | mockField => ⟨1, f.fieldMark⟩
  | setUp => ⟨1, "@Before"⟩
  | test => ⟨1, "@Test"⟩
  | throwingTest => ⟨1, "@Test(expected = Exception::class)"⟩

def Field.tags : Field → List Tag
  | .mock _ _ => [.mockField]
  | .value _ _ => []

def Fixture.tags (x : Fixture) : List Tag :=
  x.rule.toList.map (fun _ => .rule) ++ x.fields.flatMap Field.tags ++ [.setUp]

def TestMethod.tag (m : TestMethod) : Tag :=
  if m.capture = .marked then .throwingTest else .test

def TestClass.tags (t : TestClass) : List Tag :=
  t.runner.toList.map .runner
    ++ t.fixture.toList.flatMap Fixture.tags
    ++ t.methods.map TestMethod.tag

namespace Tag

def all : List Tag :=
  [runner .mocking, runner .parameterized, rule, mockField, setUp, test, throwingTest]

/-- There are no other tags. -/
theorem mem_all (a : Tag) : a ∈ all := by
  rcases a with ⟨⟨⟩⟩ | _ | _ | _ | _ | _ <;> decide

/-- A tag is known by its line. -/
private theorem line_injective (f : Framework) : Function.Injective (line f) := by
  have hnodup : (all.map (line f)).Nodup := by cases f <;> decide
  exact fun a b h => List.inj_on_of_nodup_map hnodup a.mem_all b.mem_all h

/-- The line of a tag is recognised. -/
private theorem isTag_line (f : Framework) (a : Tag) :
    (a.line f).isTag = true := by
  have hall : ∀ a ∈ all, (a.line f).isTag = true := by cases f <;> decide
  exact hall a a.mem_all

end Tag

-- ================================================================= lines

/-- A line at a depth is a tag by the start of its text, and only
outside of methods. -/
@[simp] private theorem isTag_mk (depth : Nat) (text : String) :
    Line.isTag ⟨depth, text⟩ = (depth ≤ 1 && text.toList.head? == some '@') := rfl

/-- An empty line is none. -/
@[simp] private theorem isTag_blank : Line.blank.isTag = false := rfl

/-- No statement is one, whatever it says. -/
private theorem isTag_deep (l : Line) (h : 2 ≤ l.depth) : l.isTag = false := by
  rw [Line.isTag, decide_eq_false (Nat.not_le.2 h), Bool.false_and]

section Parts

variable {f : Framework}

/-- The package is no tag. -/
private theorem filter_packageLines (p : String) :
    (TestClass.packageLines p).filter Line.isTag = [] := by
  simp [TestClass.packageLines]

/-- Nor are the imports. -/
private theorem filter_importBlock (paths : List String) :
    (TestClass.importBlock paths).filter Line.isTag = [] := by
  have hline : ∀ p, (TestClass.importLine p).isTag = false := fun p => by
    simp [TestClass.importLine]
  rw [TestClass.importBlock, List.filter_append, List.filter_map]
  split <;> simp [Function.comp_def, hline]

/-- Nor are the columns of the constructor. -/
private theorem filter_columnLines (cs : List Column) :
    (Column.lines cs).filter Line.isTag = [] := by
  induction cs with
  | nil => rfl
  | cons c cs ih =>
      cases cs with
      | nil => simp [Column.lines, Column.text]
      | cons d ds =>
          rw [Column.lines_cons_cons, List.filter_cons, ih]
          simp [Column.text]

/-- Nor is what opens the class. -/
private theorem filter_openingLines (t : TestClass) : t.openingLines.filter Line.isTag = [] := by
  unfold TestClass.openingLines
  split <;> simp [filter_columnLines]

/-- The row is marked inside of its object, deeper than tags are. -/
private theorem filter_rowLines (cs : List Column) :
    (Column.rowLines f cs).filter Line.isTag = [] := by
  simp [Column.rowLines]

/-- In front of the fixture only the runner is one. -/
private theorem filter_frontLines (t : TestClass) :
    (t.frontLines f).filter Line.isTag
      = (t.runner.toList.map .runner).map (Tag.line f) := by
  have hrow : (t.columns.toList.flatMap fun cs => Column.rowLines f cs ++ [Line.blank]).filter
      Line.isTag = [] := by
    simp [List.filter_flatMap, List.filter_append, filter_rowLines]
  rw [TestClass.frontLines, List.filter_append, List.filter_append, hrow, filter_openingLines]
  cases t.runner with
  | none => rfl
  | some r => cases r <;> simp [Tag.line, Runner.text]

/-- A field with a mock is marked, another one is not. -/
private theorem filter_field (d : Field) :
    (d.lines f).filter Line.isTag = d.tags.map (Tag.line f) := by
  cases d with
  | mock name type =>
      cases f <;>
        simp [Field.lines, Field.tags, Tag.line, Framework.fieldMark]
  | value name text => simp [Field.lines, Field.tags]

/-- The tags of a fixture are those of its rule, its fields and its `setUp`. -/
private theorem filter_fixture (x : Fixture) :
    (x.lines f).filter Line.isTag = x.tags.map (Tag.line f) := by
  have hrule : (x.rule.toList.flatMap fun r => Framework.ruleLines r ++ [Line.blank]).filter
      Line.isTag = (x.rule.toList.map fun _ => .rule).map (Tag.line f) := by
    cases x.rule <;> simp [Framework.ruleLines, Tag.line]
  have hfields : (x.fields.flatMap fun d => d.lines f ++ [Line.blank]).filter
      Line.isTag = (x.fields.flatMap Field.tags).map (Tag.line f) := by
    simp [List.filter_flatMap, List.filter_append, filter_field, List.map_flatMap]
  have htail : (x.creation.tail f).filter Line.isTag = [] := by
    cases x.creation <;> simp [Creation.tail]
  rw [Fixture.lines_eq]
  simp only [Fixture.declarationLines, List.filter_append, hrule, hfields, htail,
    Fixture.tags, List.map_append]
  cases x.initialises <;>
    simp [Fixture.setUpOpening, Fixture.initLine, Fixture.creationLine, Fixture.setUpClosing,
      Tag.line]

/-- A test has one tag, that of its mark. -/
private theorem filter_method (m : TestMethod) :
    (m.lines f).filter Line.isTag = [m.tag.line f] := by
  rw [m.filter_lines isTag_blank isTag_deep, TestMethod.tag]
  cases m.capture <;> simp [TestMethod.markText, Tag.line]

end Parts

namespace TestClass

variable {f : Framework} {t : TestClass}

/-- The lines of a class that start with an `@` outside of methods are
those of its tags. -/
theorem filter_lines (f : Framework) (t : TestClass) :
    (t.lines f).filter Line.isTag = t.tags.map (Tag.line f) := by
  have hfixture : (t.fixture.toList.flatMap (Fixture.lines f)).filter Line.isTag
      = (t.fixture.toList.flatMap Fixture.tags).map (Tag.line f) := by
    simp only [List.filter_flatMap, List.map_flatMap, filter_fixture]
  have htests : (separated (t.methods.map (TestMethod.lines f))).filter Line.isTag
      = (t.methods.map TestMethod.tag).map (Tag.line f) := by
    rw [filter_separated isTag_blank]
    simp [List.flatMap_map, filter_method, ← List.map_eq_flatMap]
  rw [lines_eq, restLines, backLines]
  simp only [List.filter_append, filter_packageLines, filter_importBlock, filter_frontLines,
    hfixture, htests, tags, List.map_append]
  simp

/-- The line of a tag stands in a class exactly when the class has the
tag. -/
private theorem line_mem_lines_iff {a : Tag} : a.line f ∈ t.lines f ↔ a ∈ t.tags := by
  rw [← List.mem_map_of_injective (Tag.line_injective f), ← filter_lines,
    List.mem_filter]
  exact (and_iff_left (a.isTag_line f)).symm

/-- Which tags a class has beside those of its tests, part by part. -/
private theorem mem_tags_iff (a : Tag) (htest : a ≠ .test)
    (hthrowing : a ≠ .throwingTest) :
    a ∈ t.tags
      ↔ (∃ r, t.runner = some r ∧ a = .runner r)
        ∨ ∃ x, t.fixture = some x ∧ a ∈ x.tags := by
  have hmethod : ∀ m : TestMethod, m.tag ≠ a := fun m => by
    unfold TestMethod.tag
    split
    · exact hthrowing.symm
    · exact htest.symm
  simp only [tags, List.mem_append, List.mem_map, List.mem_flatMap, Option.mem_toList,
    hmethod, and_false, exists_false, or_false, eq_comm (a := a)]

-- ========================================================== mocked fields

/-- That a mocked field is declared in some lines. -/
def DeclaresMock (f : Framework) (ls : List Line) : Prop :=
  ∃ name type, (Field.mock name type).lines f <:+: ls

/-- That some lines name the runner that creates mocked fields. -/
def HasRunner (ls : List Line) : Prop := ⟨0, Runner.mocking.text⟩ ∈ ls

/-- That a mocking rule is declared in some lines. -/
def HasRule (ls : List Line) : Prop := ∃ rule, Framework.ruleLines rule <:+: ls

/-- What is declared in front of `setUp` stands in the lines of the class. -/
private theorem infix_lines {x : Fixture} {ls : List Line} (h : t.fixture = some x)
    (hls : ls <:+: x.declarationLines f) : ls <:+: t.lines f := by
  have hrest : x.declarationLines f <:+: t.restLines f := by
    rw [restLines_of_fixture f h]
    simp only [List.append_assoc]
    exact ⟨t.frontLines f, _, List.append_assoc ..⟩
  rw [lines_eq]
  exact (hls.trans hrest).trans (List.suffix_append ..).isInfix

/-- A mocked field stands in the lines exactly when the fixture has one. -/
theorem declaresMock_iff :
    DeclaresMock f (t.lines f)
      ↔ ∃ x, t.fixture = some x ∧ ∃ name type, .mock name type ∈ x.fields := by
  constructor
  · rintro ⟨name, type, hlines⟩
    have hmark : Tag.mockField ∈ t.tags :=
      line_mem_lines_iff.1 (hlines.subset List.mem_cons_self)
    rw [mem_tags_iff .mockField nofun nofun] at hmark
    obtain ⟨r, -, hr⟩ | ⟨x, hx, hmark⟩ := hmark
    · cases hr
    · obtain ⟨d, hd, hmark⟩ : ∃ d ∈ x.fields, .mockField ∈ d.tags := by
        simpa [Fixture.tags] using hmark
      cases d with
      | mock name type => exact ⟨x, hx, name, type, hd⟩
      | value name text => cases hmark
  · rintro ⟨x, hx, name, type, hfield⟩
    refine ⟨name, type, infix_lines hx ?_⟩
    have hfields : (Field.mock name type).lines f ++ [.blank]
        <:+: x.fields.flatMap fun d => d.lines f ++ [.blank] := by
      rw [List.flatMap_def]
      exact List.infix_of_mem_flatten (List.mem_map_of_mem hfield)
    exact ((List.prefix_append ..).isInfix.trans hfields).trans (List.suffix_append ..).isInfix

/-- The lines name the runner exactly when it is the one of the class. -/
theorem hasRunner_iff : HasRunner (t.lines f) ↔ t.runner = some .mocking := by
  have hline : HasRunner (t.lines f) ↔ .runner .mocking ∈ t.tags :=
    line_mem_lines_iff (a := .runner .mocking)
  have hfield : ∀ d : Field, .runner .mocking ∉ d.tags := fun d => by
    cases d <;> simp [Field.tags]
  rw [hline, mem_tags_iff (.runner .mocking) nofun nofun]
  simp [Fixture.tags, hfield]

/-- A rule stands in the lines exactly when the fixture has one. -/
theorem hasRule_iff :
    HasRule (t.lines f) ↔ ∃ x rule, t.fixture = some x ∧ x.rule = some rule := by
  constructor
  · rintro ⟨rule, hlines⟩
    have hmark : Tag.rule ∈ t.tags :=
      line_mem_lines_iff.1 (hlines.subset List.mem_cons_self)
    have hfield : ∀ d : Field, .rule ∉ d.tags := fun d => by
      cases d <;> simp [Field.tags]
    rw [mem_tags_iff .rule nofun nofun] at hmark
    simpa [Fixture.tags, hfield, Option.ne_none_iff_exists'] using hmark
  · rintro ⟨x, rule, hx, hrule⟩
    refine ⟨rule, infix_lines hx ?_⟩
    have hrules : Framework.ruleLines rule
        <:+: x.rule.toList.flatMap fun r => Framework.ruleLines r ++ [.blank] := by
      rw [hrule]
      exact ⟨[], [.blank], by simp⟩
    rw [Fixture.declarationLines, List.append_assoc]
    exact hrules.trans (List.prefix_append ..).isInfix

end TestClass

end TestDraft
