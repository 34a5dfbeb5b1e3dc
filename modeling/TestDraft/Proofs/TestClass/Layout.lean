/-
The lines of a test class in the order in which they stand: package,
imports, what opens the class, the fixture with its `setUp`, the tests.
Each part is a function of a few fields only, so a change of one field
shows in one place of the lines.
-/
import TestDraft.TestClass.Basic

namespace TestDraft

open Text

-- =============================================================== fixture

namespace Fixture

/-- The lines in front of `setUp`: the rule, the subject and the fields. -/
def declarationLines (f : Framework) (x : Fixture) : List Line :=
  (x.rule.toList.flatMap fun r => Framework.ruleLines r ++ [.blank])
    ++ [⟨1, "private lateinit var " ++ x.subject ++ ": " ++ x.type⟩, .blank]
    ++ x.fields.flatMap fun d => d.lines f ++ [.blank]

/-- The lines that open `setUp`. -/
def setUpOpening : List Line := [⟨1, "@Before"⟩, ⟨1, "fun setUp() \x7b"⟩]

/-- The line that creates the mocked fields. -/
def initLine : Line := ⟨2, Framework.initText⟩

/-- The line in which the creation of the subject starts. -/
def creationLine (x : Fixture) : Line := ⟨2, x.subject ++ " = " ++ x.creation.head⟩

/-- The lines that close `setUp`. -/
def setUpClosing : List Line := [⟨1, "\x7d"⟩, .blank]

/-- A fixture is its declarations and its set up. -/
theorem lines_eq (f : Framework) (x : Fixture) :
    x.lines f = x.declarationLines f ++ setUpOpening
      ++ (if x.initialises then [initLine] else [])
      ++ ([x.creationLine] ++ x.creation.tail f ++ setUpClosing) := by
  simp only [lines, setUpLines, declarationLines, setUpOpening, initLine, creationLine,
    setUpClosing, List.append_assoc]

/-- A fixture stands inside its class. -/
theorem inside (f : Framework) (x : Fixture) :
    ∀ l ∈ x.lines f, l = .blank ∨ 1 ≤ l.depth := by
  rw [lines_eq]
  simp only [declarationLines, List.forall_mem_append, List.forall_mem_flatMap]
  refine ⟨⟨⟨⟨⟨?rule, ?subject⟩, ?fields⟩, ?opening⟩, ?init⟩, ⟨?creation, ?tail⟩, ?closing⟩
  case rule => exact fun r _ => ⟨by simp [Framework.ruleLines], by simp⟩
  case subject => simp
  case fields => exact fun d _ => ⟨by cases d <;> simp [Field.lines], by simp⟩
  case opening => simp [setUpOpening]
  case init => split <;> simp [initLine]
  case creation => simp [creationLine]
  case tail => cases x.creation <;> simp [Creation.tail, or_imp, forall_and]
  case closing => simp [setUpClosing]

end Fixture

/-- The columns of a class stand inside it. -/
theorem Column.inside (cs : List Column) : ∀ l ∈ Column.lines cs, 1 ≤ l.depth := by
  induction cs with
  | nil => nofun
  | cons c cs ih =>
      cases cs with
      | nil => simp [Column.lines]
      | cons d ds =>
          rw [Column.lines_cons_cons]
          exact List.forall_mem_cons.2 ⟨Nat.le_refl 1, ih⟩

-- =============================================================== classes

namespace TestClass

/-- The line that imports a path. -/
def importLine (path : String) : Line := ⟨0, "import " ++ path⟩

/-- The lines of some imports, and the empty line that ends them. -/
def importBlock (paths : List String) : List Line :=
  paths.map importLine ++ (if paths.isEmpty then [] else [.blank])

theorem importBlock_of_ne_nil {paths : List String} (h : paths ≠ []) :
    importBlock paths = paths.map importLine ++ [.blank] := by
  rw [importBlock, if_neg (mt List.isEmpty_iff.1 h)]

def packageLines (package : String) : List Line := [⟨0, "package " ++ package⟩, .blank]

/-- The lines between the imports and the fixture. -/
def frontLines (f : Framework) (t : TestClass) : List Line :=
  (t.runner.toList.map fun r => ⟨0, r.text⟩)
    ++ t.openingLines
    ++ (t.columns.toList.flatMap fun cs => Column.rowLines f cs ++ [.blank])

/-- The lines behind the fixture. -/
def backLines (f : Framework) (t : TestClass) : List Line :=
  separated (t.methods.map (TestMethod.lines f)) ++ [⟨0, "\x7d"⟩]

/-- The lines behind the imports. -/
def restLines (f : Framework) (t : TestClass) : List Line :=
  t.frontLines f ++ t.fixture.toList.flatMap (Fixture.lines f) ++ t.backLines f

/-- A class is its package, its imports and the rest. -/
theorem lines_eq (f : Framework) (t : TestClass) :
    t.lines f = packageLines t.package ++ importBlock t.imports ++ t.restLines f := by
  simp only [lines, headerLines, packageLines, restLines, frontLines, backLines,
    List.append_assoc]
  rfl

/-- The lines in front of the tests are those of the imports, and others
that the imports do not show in. -/
theorem headerLines_eq (f : Framework) (t : TestClass) :
    t.headerLines f = packageLines t.package ++ importBlock t.imports
      ++ (t.frontLines f ++ t.fixture.toList.flatMap (Fixture.lines f)) := by
  simp only [headerLines, packageLines, frontLines, List.append_assoc]
  rfl

/-- The text of blocks with empty lines between them. -/
theorem sourceText_separated (unit : String) (bs : List (List Line)) :
    sourceText unit (separated bs) = "\n".intercalate (bs.map (sourceText unit)) := by
  induction bs with
  | nil => rfl
  | cons b bs ih =>
      cases bs with
      | nil => rw [separated, List.map_singleton, String.intercalate_singleton]
      | cons d ds =>
          have hblank : sourceText unit [.blank] = "\n" := by
            simp [sourceText, Line.render, Line.blank]
          rw [separated_cons_cons, List.map_cons, List.map_cons, String.intercalate_cons_cons,
            ← List.map_cons, ← ih, ← List.singleton_append, sourceText_append, sourceText_append,
            hblank, String.append_assoc]

/-- What is looked for in blocks with empty lines between them is found
block by block. -/
theorem filter_separated {p : Line → Bool} (hblank : p .blank = false)
    (bs : List (List Line)) : (separated bs).filter p = bs.flatMap (List.filter p) := by
  induction bs with
  | nil => rfl
  | cons b bs ih =>
      cases bs with
      | nil => simp [separated]
      | cons d ds =>
          rw [separated_cons_cons, List.filter_append, List.filter_cons, ih]
          simp [hblank]

/-- Each of some blocks stands among all of them. -/
theorem infix_separated {b : List Line} {bs : List (List Line)} (h : b ∈ bs) :
    b <:+: separated bs := by
  induction bs with
  | nil => cases h
  | cons d ds ih =>
      cases ds with
      | nil =>
          obtain rfl := List.mem_singleton.1 h
          exact List.infix_rfl
      | cons e es =>
          rw [separated_cons_cons]
          rcases List.mem_cons.1 h with rfl | h
          · exact (List.prefix_append ..).isInfix
          · exact (ih h).trans ((List.suffix_cons ..).trans (List.suffix_append ..)).isInfix

theorem restLines_of_fixture (f : Framework) {t : TestClass} {x : Fixture}
    (h : t.fixture = some x) :
    t.restLines f = (t.frontLines f ++ x.declarationLines f) ++ Fixture.setUpOpening
      ++ (if x.initialises then [Fixture.initLine] else [])
      ++ ([x.creationLine] ++ x.creation.tail f ++ Fixture.setUpClosing ++ t.backLines f) := by
  rw [restLines, h]
  simp only [Option.toList_some, List.flatMap_cons, List.flatMap_nil, List.append_nil,
    Fixture.lines_eq, List.append_assoc]

/-- The lines of a class with a fixture, seen from its `setUp`. -/
theorem lines_of_fixture (f : Framework) {t : TestClass} {x : Fixture} (h : t.fixture = some x) :
    t.lines f = packageLines t.package ++ importBlock t.imports
        ++ (t.frontLines f ++ x.declarationLines f) ++ Fixture.setUpOpening
      ++ (if x.initialises then [Fixture.initLine] else [])
      ++ ([x.creationLine] ++ x.creation.tail f ++ Fixture.setUpClosing ++ t.backLines f) := by
  rw [lines_eq, restLines_of_fixture f h]
  simp only [List.append_assoc]

/-- Whether the mocked fields are created shows in one place, right where
`setUp` opens; the imports show nowhere behind them. -/
theorem restLines_initialises (f : Framework) {t : TestClass} {x : Fixture}
    (h : t.fixture = some x) (imports : List String) (b : Bool) :
    ∃ upper lower,
      t.restLines f = upper ++ Fixture.setUpOpening
          ++ (if x.initialises then [Fixture.initLine] else []) ++ lower
        ∧ restLines f { t with
            imports := imports
            fixture := t.fixture.map fun x => { x with initialises := b } }
          = upper ++ Fixture.setUpOpening ++ (if b then [Fixture.initLine] else [])
            ++ lower := by
  refine ⟨_, _, restLines_of_fixture f h, ?_⟩
  rw [h]
  exact restLines_of_fixture f (t := { t with
    imports := imports, fixture := some { x with initialises := b } }) rfl

/-- How the object under test is made shows in one place, too. -/
theorem restLines_creation (f : Framework) {t : TestClass} {x : Fixture}
    (h : t.fixture = some x) :
    ∃ upper lower, ∀ imports creation,
      restLines f { t with
          imports := imports
          fixture := t.fixture.map fun x => { x with creation := creation } }
        = upper ++ [⟨2, x.subject ++ " = " ++ creation.head⟩] ++ creation.tail f ++ lower := by
  refine ⟨(t.frontLines f ++ x.declarationLines f) ++ Fixture.setUpOpening
    ++ (if x.initialises then [Fixture.initLine] else []),
    Fixture.setUpClosing ++ t.backLines f, fun imports creation => ?_⟩
  rw [h]
  refine (restLines_of_fixture f (t := { t with
    imports := imports, fixture := some { x with creation := creation } }) rfl).trans ?_
  simp only [List.append_assoc]
  rfl

end TestClass

end TestDraft
