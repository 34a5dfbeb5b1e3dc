/-
What is appended for a test class is the text of its lines, under any
unit of indentation (`TestClass.join_fragments`).

An attempt and a `with` block are put into a statement that has begun, an
unnamed class into an assignment: there the unit is appended in the middle
of a text. Each time what stands in front of it ends a line, or is itself
indentation, and then two levels add up to one (`repeated_add`).
-/
import TestDraft.Draft
import TestDraft.Proofs.TestClass.Layout

namespace TestDraft

open Text Fragment

variable {unit : String}

-- ============================================================= fragments

namespace Fragment

/-- A separator between fragments is one between their texts. -/
private theorem join_intercalate (sep : List Fragment) (pss : List (List Fragment)) :
    join unit (sep.intercalate pss) = (join unit sep).intercalate (pss.map (join unit)) := by
  induction pss with
  | nil => rfl
  | cons ps pss ih =>
      cases pss with
      | nil => rw [List.intercalate_singleton, List.map_singleton, String.intercalate_singleton]
      | cons qs pss =>
          rw [List.intercalate_cons_cons, join_append, join_append, ih]
          exact String.intercalate_cons_cons.symm

/-- So commas stand between texts. -/
private theorem join_commas (pss : List (List Fragment)) :
    join unit (Fragment.commas pss) = Text.commas (pss.map (join unit)) :=
  join_intercalate ..

/-- Parts that are appended one after the other, each the text of lines of
its own. -/
private theorem join_flatMap {α : Type} {xs : List α} {g : α → List Fragment} {h : α → List Line}
    (heq : ∀ x ∈ xs, join unit (g x) = sourceText unit (h x)) :
    join unit (xs.flatMap g) = sourceText unit (xs.flatMap h) := by
  induction xs with
  | nil => rfl
  | cons x xs ih =>
      obtain ⟨hx, hxs⟩ := List.forall_mem_cons.1 heq
      rw [List.flatMap_cons, List.flatMap_cons, join_append, sourceText_append, hx, ih hxs]

/-- A separator between any two parts and behind the last one is one
behind each part. -/
private theorem intercalate_append (sep : List Fragment) {pss : List (List Fragment)}
    (h : pss ≠ []) :
    sep.intercalate pss ++ sep = pss.flatMap (· ++ sep) := by
  induction pss with
  | nil => exact absurd rfl h
  | cons ps pss ih =>
      cases pss with
      | nil => rw [List.intercalate_singleton, List.flatMap_singleton]
      | cons qs pss =>
          rw [List.intercalate_cons_cons, List.append_assoc, ih (List.cons_ne_nil qs pss)]
          rfl

end Fragment

-- ================================================================ pieces

namespace Framework

/-- A value is written as its text. -/
private theorem join_valueFragments (f : Framework) (v : Value) :
    join unit (f.valueFragments v) = f.valueText v := by
  cases v with
  | literal text => simp [valueFragments, valueText]
  | mock t =>
      have hcall : f.mockText t = f.mockSymbol.name ++ "<" ++ t.bareText ++ ">()" := by
        cases f <;> rfl
      simp [valueFragments, mockFragments, valueText, hcall, String.append_assoc]

/-- The statement that creates the mocked fields is a line of its own. -/
theorem join_initFragments : join unit initFragments = sourceText unit [⟨2, initText⟩] := by
  have hcall : initText = Symbol.mockkInit.name ++ ".init(this, relaxUnitFun = true)" := rfl
  simp [initFragments, sourceText_cons, hcall, String.append_assoc]

/-- A rule takes two lines, and an empty one behind it. -/
private theorem join_ruleFragments (rule : String) :
    join unit (ruleFragments rule ++ gap) = sourceText unit (ruleLines rule ++ [.blank]) := by
  have hmark : "@get:Rule" = "@get:" ++ Symbol.rule.name := rfl
  have hvalue : ": MethodRule = MockitoJUnit.rule()"
      = ": " ++ Symbol.methodRule.name ++ " = " ++ Symbol.mockitoJUnit.name ++ ".rule()" := rfl
  simp [ruleFragments, ruleLines, gap, sourceText_cons, sourceText_blank, hmark, hvalue,
    String.append_assoc, -String.reduceAppend]

end Framework

/-- A runner takes the line in front of the class. -/
theorem Runner.join_fragments (r : Runner) :
    join unit (r.fragments ++ [newline]) = sourceText unit [⟨0, r.text⟩] := by
  have htext : join unit r.fragments = r.text := by cases r <;> rfl
  simp [htext, sourceText_cons]

/-- A field takes its lines, and an empty one behind it. -/
theorem Field.join_fragments (f : Framework) (d : Field) :
    join unit (d.fragments f ++ gap) = sourceText unit (d.lines f ++ [.blank]) := by
  cases d with
  | mock n t =>
      have hmark : f.fieldMark = "@" ++ f.fieldSymbol.name := by cases f <;> rfl
      simp [Field.fragments, Field.lines, gap, sourceText_cons, sourceText_blank, hmark,
        String.append_assoc, -String.reduceAppend]
  | value n text =>
      simp [Field.fragments, Field.lines, gap, sourceText_cons, sourceText_blank,
        String.append_assoc, -String.reduceAppend]

/-- A function that is filled in brings the indentation of its line along,
since it is put into a text that has begun. -/
theorem Override.join_fragments (f : Framework) (o : Override) :
    join unit (o.fragments f) = repeated unit 3 ++ o.text f := by
  unfold Override.fragments Override.text
  cases o.function.receiver <;>
    simp [join_commas, Framework.join_valueFragments, Function.comp_def, String.append_assoc,
      -String.reduceAppend]

namespace Creation

/-- Arguments are names with commas between them. -/
private theorem join_arguments (names : List String) :
    join unit (arguments names) = Text.commas names := by
  simp [arguments, join_commas, Function.comp_def]

/-- The creation of an object, in the middle of an assignment. -/
theorem join_fragments (f : Framework) (c : Creation) :
    join unit (c.fragments f ++ [newline]) = c.head ++ "\n" ++ sourceText unit (c.tail f) := by
  cases c with
  | construct n as => simp [fragments, head, tail, join_arguments, String.append_assoc]
  | partialMock as =>
      cases as with
      | nil => rfl
      | cons a as =>
          have hopening : "mock(defaultAnswer = Mockito.CALLS_REAL_METHODS, useConstructor = "
              ++ "UseConstructor.withArguments("
              = Symbol.mockCall.name ++ "(defaultAnswer = " ++ Symbol.mockitoClass.name
                ++ ".CALLS_REAL_METHODS" ++ ", useConstructor = " ++ Symbol.useConstructor.name
                ++ ".withArguments(" := by decide +kernel
          have hclosing : "))" = ")" ++ ")" := rfl
          simp only [head, hopening, hclosing]
          simp [fragments, constructorArguments, tail, join_arguments, String.append_assoc,
            -String.reduceAppend]
  | anonymous n as os =>
      have hoverrides : join unit ((os.map (Override.fragments f)).flatMap (· ++ [newline]))
          = sourceText unit (os.map fun o => ⟨3, o.text f⟩) := by
        rw [List.flatMap_map, List.map_eq_flatMap]
        refine join_flatMap fun o _ => ?_
        simp [Override.join_fragments, sourceText_cons]
      -- The opening, each function and the closing end a line of their own.
      have hparts := intercalate_append [newline] (List.cons_ne_nil
        ([own "object : ", foreign n, own "("] ++ arguments as ++ [own ") \x7b"])
        (os.map (Override.fragments f) ++ [[indent 2, own "\x7d"]]))
      rw [fragments, List.cons_append, hparts, List.flatMap_cons, List.flatMap_append,
        join_append, join_append (List.flatMap _ _), hoverrides]
      simp [head, tail, join_arguments, sourceText_cons, String.append_assoc,
        -String.reduceAppend]

end Creation

-- =============================================================== columns

namespace Column

/-- A column is an indented line, without its end. -/
theorem join_fragments (c : Column) : join unit c.fragments = repeated unit 1 ++ c.text := by
  simp [fragments, text, String.append_assoc]

/-- Columns end their lines with commas, but for the last one. -/
private theorem join_constructor {cs : List Column} (h : cs ≠ []) :
    join unit ([own ",", newline].intercalate (cs.map fragments) ++ [newline])
      = sourceText unit (lines cs) := by
  induction cs with
  | nil => exact absurd rfl h
  | cons c cs ih =>
      cases cs with
      | nil => simp [join_fragments, lines, sourceText_cons]
      | cons d ds =>
          have hrest := ih (List.cons_ne_nil d ds)
          rw [List.map_cons] at hrest
          rw [List.map_cons, List.map_cons, List.intercalate_cons_cons, List.append_assoc,
            join_append, hrest, lines_cons_cons, sourceText_cons]
          simp [join_fragments, String.append_assoc, -String.reduceAppend]

/-- The row of values takes its lines, and an empty one behind them. -/
private theorem join_rowFragments (f : Framework) (cs : List Column) :
    join unit (rowFragments f cs ++ gap) = sourceText unit (rowLines f cs ++ [.blank]) := by
  have hmark : "@Parameters" = "@" ++ Symbol.parameters.name := rfl
  simp [rowFragments, rowLines, gap, sourceText_cons, sourceText_blank, join_commas,
    Function.comp_def, Framework.join_valueFragments, hmark, String.append_assoc,
    -String.reduceAppend]

end Column

-- =============================================================== fixture

namespace Fixture

/-- Gaps between the fields and behind the last one are an empty line behind
each. -/
private theorem join_fieldsFragments (f : Framework) (ds : List Field) :
    join unit (fieldsFragments f ds)
      = sourceText unit (ds.flatMap fun d => d.lines f ++ [.blank]) := by
  unfold fieldsFragments
  cases ds with
  | nil => rfl
  | cons d ds =>
      rw [List.isEmpty_cons, if_neg Bool.false_ne_true, List.map_cons,
        intercalate_append _ (List.cons_ne_nil _ _), ← List.map_cons, List.flatMap_map]
      exact join_flatMap fun e _ => e.join_fragments f

/-- The object under test is made in the middle of `setUp`: what the
creation needs in lines of its own follows the line in which it starts. -/
private theorem join_setUpFragments (f : Framework) (x : Fixture) :
    join unit (x.setUpFragments f) = sourceText unit (x.setUpLines f) := by
  have hmark : "@Before" = "@" ++ Symbol.before.name := rfl
  have hinit : join unit (if x.initialises then Framework.initFragments else [])
      = sourceText unit (if x.initialises then [⟨2, Framework.initText⟩] else []) := by
    cases x.initialises
    · rfl
    · exact Framework.join_initFragments
  -- `setUp` ends the line that the creation leaves open, so they go together.
  have hcreation : ∀ s, join unit (x.creation.fragments f) ++ ("\n" ++ s)
      = x.creation.head ++ ("\n" ++ (sourceText unit (x.creation.tail f) ++ s)) := by
    intro s
    have h : join unit (x.creation.fragments f ++ [newline])
        = x.creation.head ++ "\n" ++ sourceText unit (x.creation.tail f) :=
      Creation.join_fragments f x.creation
    simp only [join_append, join_cons, join_nil, text_newline, String.append_empty] at h
    rw [← String.append_assoc, h]
    simp only [String.append_assoc]
  simp [setUpFragments, setUpLines, gap, hinit, hcreation, sourceText_cons, sourceText_blank, hmark,
    String.append_assoc, -String.reduceAppend]

/-- A fixture is the text of its lines. -/
theorem join_fragments (f : Framework) (x : Fixture) :
    join unit (x.fragments f) = sourceText unit (x.lines f) := by
  have hrule : join unit (x.rule.toList.flatMap fun r => Framework.ruleFragments r ++ gap)
      = sourceText unit (x.rule.toList.flatMap fun r => Framework.ruleLines r ++ [.blank]) :=
    join_flatMap fun r _ => Framework.join_ruleFragments r
  simp only [fragments, lines, join_append, sourceText_append, hrule, join_fieldsFragments,
    join_setUpFragments]
  simp [gap, sourceText_cons, sourceText_blank, String.append_assoc, -String.reduceAppend]

end Fixture

-- ================================================================= calls

/-- An argument is written as its text. -/
private theorem Argument.text_fragment (a : Argument) : a.fragment.text unit = a.text := by
  cases a <;> rfl

/-- What stands in front of a call is written as its text. -/
private theorem TestMethod.join_keepFragments (name : Option String) :
    join unit (keepFragments name) = keepText name := by
  cases name <;> simp [keepFragments, keepText, String.append_assoc]

/-- A call behind indentation of any depth: it brings the end of its first
line along, and that of its block. -/
theorem Call.join_fragments (depth : Nat) (keep : String) (c : Call) :
    repeated unit depth ++ (keep ++ join unit (c.fragments ++ [newline]))
      = sourceText unit (c.lines depth keep) := by
  have hbare : c.function ++ ("(" ++ (Text.commas (c.args.map Argument.text) ++ ")"))
      = c.bareText := by
    simp [bareText, String.append_assoc]
  unfold fragments lines
  cases c.callee <;>
    simp [Callee.opening, Callee.closing, join_commas, Argument.text_fragment, sourceText_cons,
      Function.comp_def, ← hbare, String.append_assoc, -String.reduceAppend]

-- =============================================================== methods

namespace TestMethod

/-- A variable is declared in a line of its own. -/
private theorem join_valFragments (f : Framework) (name : Fragment) (v : Value) :
    join unit (valFragments f name v) = sourceText unit [valLine f (name.text unit) v] := by
  simp [valFragments, valLine, Framework.join_valueFragments, sourceText_cons, String.append_assoc]

/-- What a test is given is the text of its lines. An empty line stands in
front of the receiver where there are other variables. -/
private theorem join_givenFragments (f : Framework) (m : TestMethod) :
    join unit (m.givenFragments f) = sourceText unit (m.givenLines f) := by
  have hlocals : join unit (m.locals.flatMap fun l => valFragments f (foreign l.name) l.value)
      = sourceText unit (m.locals.map fun l => valLine f l.name l.value) := by
    rw [List.map_eq_flatMap]
    exact join_flatMap fun l _ => join_valFragments f (foreign l.name) l.value
  unfold givenFragments givenLines
  simp only [join_append, sourceText_append, hlocals]
  cases m.receiver <;> cases m.capture <;> cases m.locals <;>
    simp [join_valFragments, sourceText_cons, sourceText_blank, String.append_assoc,
      -String.reduceAppend]

/-- An attempt brings its own unit along: with it, the call stands one
level deeper. -/
private theorem join_whenFragments (m : TestMethod) :
    join unit m.whenFragments = sourceText unit m.whenLines := by
  have hcall : ∀ depth s, sourceText unit (m.call.lines depth (keepText m.actual)) ++ s
      = repeated unit depth
        ++ (keepText m.actual ++ (join unit m.call.fragments ++ ("\n" ++ s))) := by
    intro depth s
    rw [← Call.join_fragments]
    simp [String.append_assoc]
  -- The attempt puts one level in front of the two that the call has anyway.
  have hdeeper : ∀ s, repeated unit 1 ++ (repeated unit 2 ++ s) = repeated unit 3 ++ s := by
    intro s
    rw [← String.append_assoc, ← repeated_add]
  unfold whenFragments whenLines
  cases m.capture <;>
    simp [tryFragments, catchFragments, gap, join_keepFragments, hdeeper, hcall, sourceText_cons,
      sourceText_blank, String.append_assoc, -String.reduceAppend]

/-- A comparison is a line of its own. -/
private theorem join_equalityFragments (expected actual : Fragment) :
    join unit (equalityFragments expected actual)
      = sourceText unit [⟨2, equalityText (expected.text unit) (actual.text unit)⟩] := by
  have hcall : "assertEquals(" = Symbol.assertEquals.name ++ "(" := rfl
  simp [equalityFragments, equalityText, sourceText_cons, hcall, String.append_assoc,
    -String.reduceAppend]

/-- What a test checks is the text of its lines. -/
private theorem join_thenFragments (m : TestMethod) :
    join unit m.thenFragments = sourceText unit m.thenLines := by
  unfold thenFragments thenLines compared
  cases m.capture with
  | none =>
      cases m.expected <;> cases m.actual <;>
        simp [join_equalityFragments, sourceText_cons, String.append_assoc, -String.reduceAppend]
  | marked => simp [sourceText_cons, String.append_assoc, -String.reduceAppend]
  | caught =>
      simp [join_equalityFragments, sourceText_cons, String.append_assoc, -String.reduceAppend]

/-- The mark of a test is a line of its own. -/
private theorem join_markFragments (c : Capture) :
    join unit (markFragments c) = sourceText unit [⟨1, markText c⟩] := by
  have hmark : "@Test" = "@" ++ Symbol.test.name := rfl
  have hmarked : "@Test(expected = Exception::class)"
      = "@" ++ Symbol.test.name ++ "(expected = Exception::class)" := by decide
  cases c <;>
    simp [markFragments, markText, hmark, hmarked, sourceText_cons, String.append_assoc,
      -String.reduceAppend]

/-- A test is the text of its lines. -/
theorem join_fragments (f : Framework) (m : TestMethod) :
    join unit (m.fragments f) = sourceText unit (m.lines f) := by
  have hlines : m.lines f = [⟨1, markText m.capture⟩]
      ++ [⟨1, "fun `" ++ m.title ++ "`() \x7b"⟩] ++ m.givenLines f ++ m.whenLines ++ m.thenLines
      ++ [⟨1, "\x7d"⟩] := rfl
  simp only [fragments, hlines, join_append, sourceText_append, join_markFragments,
    join_givenFragments, join_whenFragments, join_thenFragments]
  simp [sourceText_cons, String.append_assoc, -String.reduceAppend]

end TestMethod

-- =============================================================== classes

namespace TestClass

/-- The package takes a line, and an empty one behind it. -/
private theorem join_packageFragments (package : String) :
    join unit (packageFragments package) = sourceText unit (packageLines package) := by
  simp [packageFragments, packageLines, gap, sourceText_cons, sourceText_blank,
    String.append_assoc, -String.reduceAppend]

/-- Imports take a line each, with an empty one behind them if there are
some. -/
private theorem join_importFragments (paths : List String) :
    join unit (importFragments paths) = sourceText unit (importBlock paths) := by
  have hlisted : join unit (paths.flatMap fun p => [own "import ", foreign p, newline])
      = sourceText unit (paths.map importLine) := by
    rw [List.map_eq_flatMap]
    refine join_flatMap fun p _ => ?_
    simp [importLine, sourceText_cons, String.append_assoc]
  rw [importFragments, importBlock, join_append, sourceText_append, hlisted]
  cases paths.isEmpty
  · simp [sourceText_blank]
  · rfl

/-- The line or the lines that open a class. -/
private theorem join_opening (t : TestClass) :
    join unit ([own "class ", foreign (t.name ++ "Test")]
        ++ t.columns.toList.flatMap Column.constructorFragments ++ [own " \x7b", newline])
      = sourceText unit t.openingLines := by
  have hplain : "Test \x7b" = "Test" ++ " \x7b" := rfl
  have hcolumns : "Test(" = "Test" ++ "(" := rfl
  have hclosing : ") \x7b" = ")" ++ " \x7b" := rfl
  unfold openingLines
  split
  next h => simp [h, hplain, sourceText_cons, String.append_assoc, -String.reduceAppend]
  next h =>
    simp [h, Column.constructorFragments, hplain, sourceText_cons, String.append_assoc,
      -String.reduceAppend]
  next cs hne h =>
    have hcs : cs ≠ [] := by
      rintro rfl
      exact hne rfl
    have hconstructor : ∀ s, join unit ([own ",", newline].intercalate (cs.map Column.fragments))
        ++ ("\n" ++ s) = sourceText unit (Column.lines cs) ++ s := by
      intro s
      rw [← Column.join_constructor hcs]
      simp [String.append_assoc]
    have hfragments : Column.constructorFragments cs
        = [own "(", newline] ++ [own ",", newline].intercalate (cs.map Column.fragments)
          ++ [newline, own ")"] := by
      cases cs with
      | nil => exact absurd rfl hcs
      | cons c cs => rfl
    simp [h, hfragments, hconstructor, hcolumns, hclosing, sourceText_cons, String.append_assoc,
      -String.reduceAppend]

/-- What stands behind the imports is the text of its lines, part by part. -/
private theorem join_bodyFragments (f : Framework) (t : TestClass) :
    join unit (t.bodyFragments f) = sourceText unit (t.restLines f) := by
  have hrunner : join unit (t.runner.toList.flatMap fun r => r.fragments ++ [newline])
      = sourceText unit (t.runner.toList.map fun r => ⟨0, r.text⟩) := by
    rw [List.map_eq_flatMap]
    exact join_flatMap fun r _ => r.join_fragments
  have hrows : join unit (t.columns.toList.flatMap fun cs => Column.rowFragments f cs ++ gap)
      = sourceText unit (t.columns.toList.flatMap fun cs => Column.rowLines f cs ++ [.blank]) :=
    join_flatMap fun cs _ => Column.join_rowFragments f cs
  have hfixture : join unit (t.fixture.toList.flatMap (Fixture.fragments f))
      = sourceText unit (t.fixture.toList.flatMap (Fixture.lines f)) :=
    join_flatMap fun x _ => x.join_fragments f
  have hmethods : join unit ([newline].intercalate (t.methods.map (TestMethod.fragments f)))
      = sourceText unit (separated (t.methods.map (TestMethod.lines f))) := by
    have hparts : (t.methods.map (TestMethod.fragments f)).map (join unit)
        = (t.methods.map (TestMethod.lines f)).map (sourceText unit) := by
      rw [List.map_map, List.map_map]
      exact List.map_congr_left fun m _ => m.join_fragments f
    rw [join_intercalate, sourceText_separated, hparts]
    rfl
  have hopening : join unit ([own "class ", foreign (t.name ++ "Test")]
      ++ t.columns.toList.flatMap Column.constructorFragments ++ [own " \x7b", newline])
        = sourceText unit t.openingLines := t.join_opening
  simp only [join_append] at hopening
  simp only [bodyFragments, restLines, frontLines, backLines, join_append, sourceText_append,
    hrunner, hrows, hfixture, hmethods, ← hopening]
  simp [sourceText_cons, String.append_assoc]

/-- What is appended for a test class is the text of its lines. -/
theorem join_fragments (unit : String) (f : Framework) (t : TestClass) :
    join unit (t.fragments f) = sourceText unit (t.lines f) := by
  rw [fragments, lines_eq, join_append, join_append, sourceText_append, sourceText_append,
    join_packageFragments, join_importFragments, join_bodyFragments]

/-- What is appended for a test class, from its package to its end. -/
theorem join_appended (unit : String) (f : Framework) (t : TestClass) :
    join unit (t.fragments f) = ("package " ++ t.package ++ "\n\n")
      ++ (String.join (t.imports.map fun p => "import " ++ p ++ "\n")
        ++ if t.imports = [] then "" else "\n")
      ++ join unit (t.bodyFragments f) := by
  have hpackage : join unit (packageFragments t.package) = "package " ++ t.package ++ "\n\n" := by
    simp [packageFragments, gap, String.append_assoc]
  have hlisted : ∀ paths : List String,
      join unit (paths.flatMap fun p => [own "import ", foreign p, newline])
        = String.join (paths.map fun p => "import " ++ p ++ "\n") := by
    intro paths
    induction paths with
    | nil => rfl
    | cons p ps ih => simp [String.join_cons, ih, String.append_assoc]
  have himports : join unit (importFragments t.imports)
      = String.join (t.imports.map fun p => "import " ++ p ++ "\n")
        ++ if t.imports = [] then "" else "\n" := by
    rw [importFragments, join_append, hlisted]
    cases t.imports <;> rfl
  rw [fragments, join_append, join_append, hpackage, himports]

end TestClass

/-- Adding an item puts the text of its lines behind the text there is. -/
theorem Draft.text_add (unit : String) (d : Draft) (i : Item) (imports : List String)
    (p m : Bool) :
    (d.add i imports p m).text unit
      = d.text unit ++ sourceText unit ((d.tests i imports p m).lines d.framework) := by
  rw [← TestClass.join_fragments]
  exact join_append ..

end TestDraft
