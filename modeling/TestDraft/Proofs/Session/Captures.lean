/-
Sessions that differ in how they deal with exceptions only. The choice
shows in two places. A function gets one test more where exceptions are
captured, behind the one it gets anyway, which does not look at the
choice. And a test that catches an exception compares two of them, so its
class needs `assertEquals` even where no values are compared
(`Session.mem_needs_withCapture`); all else that an item needs stays, and
so do the paths under all other names. So the import lines of two such
sessions are the same but for one, that may be put in somewhere.
-/
import TestDraft.Proofs.Session.ImportBlock
import TestDraft.Proofs.TestClass.Locals
import TestDraft.Proofs.Text.Order

namespace TestDraft

open Text

/-- The class with the tests only that are not about exceptions. -/
def TestClass.regular (t : TestClass) : TestClass :=
  { t with methods := t.methods.filter fun m => m.capture = .none }

namespace Recipe

variable {r : Recipe} {i : Item} {rows : Bool} {f : FunctionDecl} {c : Capture}

/-- The recipe with another way of dealing with exceptions. -/
def withCapture (c : Capture) (r : Recipe) : Recipe := { r with capture := c }

/-- A function has its regular test, and behind it one about exceptions
if they are captured. -/
private theorem testsOf_withCapture (r : Recipe) (c : Capture) (i : Item) (rows : Bool)
    (f : FunctionDecl) :
    (r.withCapture c).testsOf i rows f
      = r.method (r.subject? i) rows i.tested f .none
        :: if c = .none then [] else [r.method (r.subject? i) rows i.tested f c] := by
  have hsubject : (r.withCapture c).subject? i = r.subject? i := by cases i <;> rfl
  rw [testsOf, hsubject, captures]
  by_cases hc : c = .none
  · rw [if_pos hc, if_pos (show (r.withCapture c).capture = .none from hc)]
    rfl
  · rw [if_neg hc, if_neg (show (r.withCapture c).capture ≠ .none from hc)]
    rfl

/-- The tests that are not about exceptions are the regular ones. -/
private theorem filter_testsOf_withCapture (r : Recipe) (c : Capture) (i : Item) (rows : Bool)
    (f : FunctionDecl) :
    ((r.withCapture c).testsOf i rows f).filter (fun m => m.capture = .none)
      = (r.withCapture .none).testsOf i rows f := by
  rw [testsOf_withCapture, testsOf_withCapture]
  cases c <;> rfl

end Recipe

namespace Session

variable {s : Session} {i : Item} {c : Capture}

/-- The session with another way of dealing with exceptions. -/
def withCapture (c : Capture) (s : Session) : Session :=
  { s with draft := { s.draft with recipe := s.draft.recipe.withCapture c } }

-- ================================================================= needs

/-- All that the choice adds to the needs of an item is `assertEquals`. -/
theorem mem_needs_withCapture {x : Symbol} :
    x ∈ ((s.withCapture c).notice i).needs i
      ↔ x ∈ ((s.withCapture .none).notice i).needs i
        ∨ (c = .caught ∧ i.tested ≠ []) ∧ x = .assertEquals := by
  have hcompares : ((s.withCapture c).notice i).comparesValues i.tested = true
      ↔ c = .caught ∨ ((s.withCapture .none).notice i).comparesValues i.tested = true := by
    rw [comparesValues_iff, comparesValues_iff]
    have hnone : ¬ ((s.withCapture .none).notice i).draft.recipe.capture = .caught := nofun
    rw [or_iff_right hnone]
    rfl
  have hfunctions : x ∈ ((s.withCapture c).notice i).functionNeeds i.tested
      ↔ x ∈ ((s.withCapture .none).notice i).functionNeeds i.tested
        ∨ (c = .caught ∧ i.tested ≠ []) ∧ x = .assertEquals := by
    rw [mem_functionNeeds_iff, mem_functionNeeds_iff, hcompares]
    tauto
  simp only [needs, List.mem_append, hfunctions]
  -- All other needs come from notices, the kind of item and the choice for rows.
  rw [← or_assoc]
  exact Iff.rfl

-- ================================================================= paths

section Fresh

/- Nothing has been imported under the name that the choice is about. -/
variable (hleft : s.imports.get? "assertEquals" = none)

include hleft

/-- What is found under a name is what is found where nothing is captured,
but for `assertEquals` where something has to be compared that would not
be otherwise, and the item has no path of its own for it. -/
private theorem get?_withCapture_iff {name path : String} :
    (((s.withCapture c).notice i).gather i).1.imports.get? name = some path
      ↔ (((s.withCapture .none).notice i).gather i).1.imports.get? name = some path
        ∨ (c = .caught ∧ i.tested ≠ []) ∧ i.imports.get? "assertEquals" = none
          ∧ name = "assertEquals" ∧ path = Symbol.assertEquals.path := by
  have hknown : ∀ c, ∀ x ∈ ((s.withCapture c).notice i).needs i, x ∈ s.draft.framework.known :=
    fun c _ hx => known_of_mem_notice_needs (s := s.withCapture c) hx
  have himports : ∀ c, ((s.withCapture c).notice i).imports = s.imports := fun _ => rfl
  rw [(get?_gather _ _).2, (get?_gather _ _).2, himports, himports]
  by_cases hname : name = "assertEquals"
  case neg =>
    have hpath : Symbol.pathIn? (((s.withCapture c).notice i).needs i) name
        = Symbol.pathIn? (((s.withCapture .none).notice i).needs i) name := by
      refine Symbol.pathIn?_congr (hknown c) (hknown .none) fun x hx => ?_
      rw [mem_needs_withCapture, or_iff_left]
      rintro ⟨-, rfl⟩
      exact hname hx.symm
    rw [hpath, or_iff_left]
    exact fun h => hname h.2.2.1
  case pos =>
    subst hname
    have hpath : ∀ c, Symbol.pathIn? (((s.withCapture c).notice i).needs i) "assertEquals"
        = if .assertEquals ∈ ((s.withCapture c).notice i).needs i then
            some Symbol.assertEquals.path else none := fun c =>
      Symbol.pathIn?_name (x := .assertEquals) (hknown c) (List.mem_append_left _ (by decide))
    rw [hpath, hpath, hleft, Option.or_none, Option.or_none]
    cases i.imports.get? "assertEquals" with
    | some own => simp
    | none =>
        have hsymm : Symbol.assertEquals.path = path ↔ path = Symbol.assertEquals.path := eq_comm
        by_cases hneeded : .assertEquals ∈ ((s.withCapture .none).notice i).needs i
        · simp [mem_needs_withCapture, hneeded, hsymm]
        · simpa [mem_needs_withCapture, hneeded] using fun _ _ => hsymm

/-- The imports of a class are those where nothing is captured, and that
of `assertEquals` may be put in somewhere. -/
private theorem imports_withCapture (c : Capture) (i : Item) :
    ∃ above below extra,
      (extra = [] ∨ extra = [Symbol.assertEquals.path] ∧ c = .caught ∧ i.tested ≠ [])
        ∧ ((s.withCapture .none).written i).imports = above ++ below
        ∧ ((s.withCapture c).written i).imports = above ++ extra ++ below := by
  have hmem : ∀ c path, path ∈ ((s.withCapture c).written i).imports
      ↔ ∃ name, (((s.withCapture c).notice i).gather i).1.imports.get? name = some path := by
    intro c path
    rw [written_imports, (inOrder_perm _).mem_iff]
    exact mem_paths_iff
  have hascending : ∀ c, ((s.withCapture c).written i).imports.Pairwise (· < ·) := by
    intro c
    rw [written_imports]
    exact inOrder_ascending (paths_nodup _)
  have hsub :
      ((s.withCapture .none).written i).imports ⊆ ((s.withCapture c).written i).imports := by
    intro path hpath
    obtain ⟨name, hname⟩ := (hmem .none path).1 hpath
    exact (hmem c path).2 ⟨name, (get?_withCapture_iff hleft).2 (.inl hname)⟩
  have hnew : ∀ path ∈ ((s.withCapture c).written i).imports,
      path ∈ ((s.withCapture .none).written i).imports
        ∨ path = Symbol.assertEquals.path ∧ c = .caught ∧ i.tested ≠ [] := by
    intro path hpath
    obtain ⟨name, hname⟩ := (hmem c path).1 hpath
    rcases (get?_withCapture_iff hleft).1 hname with hname | ⟨hcaught, -, -, hassert⟩
    · exact .inl ((hmem .none path).2 ⟨name, hname⟩)
    · exact .inr ⟨hassert, hcaught⟩
  obtain ⟨above, below, extra, hextra, hnone, hc⟩ := exists_split_of_ascending
    (hascending .none) (hascending c) hsub fun path hpath => (hnew path hpath).imp_right And.left
  refine ⟨above, below, extra, hextra.imp_right ?_, hnone, hc⟩
  rintro ⟨hextra, hmem, hnot⟩
  exact ⟨hextra, ((hnew _ hmem).resolve_left hnot).2⟩

end Fresh

-- ================================================================ classes

/-- The choice shows in the imports and in the tests of a class only. -/
private theorem written_withCapture (s : Session) (c : Capture) (i : Item) :
    (s.withCapture c).written i = { (s.withCapture .none).written i with
      imports := ((s.withCapture c).written i).imports
      methods := i.tested.flatMap
        ((s.draft.recipe.withCapture c).testsOf i s.parameterized) } := by
  rw [written_eq, written_eq]
  cases i <;> rfl

/-- Without the tests about exceptions, and but for the imports, a class
is the one where nothing is captured. -/
private theorem regular_written_withCapture (s : Session) (c : Capture) (i : Item) :
    { ((s.withCapture c).written i).regular with
        imports := ((s.withCapture .none).written i).imports }
      = (s.withCapture .none).written i := by
  have hmethods : ((s.withCapture .none).written i).methods
      = i.tested.flatMap ((s.draft.recipe.withCapture .none).testsOf i s.parameterized) := by
    rw [written_withCapture]
  rw [written_withCapture s c i, TestClass.regular, List.filter_flatMap]
  simp only [Recipe.filter_testsOf_withCapture]
  rw [← hmethods]

/-- The lines in front of the tests are the same under any choice, but for
the import of `assertEquals`. -/
private theorem headerLines_withCapture (hleft : s.imports.get? "assertEquals" = none) (c : Capture)
    (i : Item) (f : Framework) :
    ∃ above below extra, extra.Sublist [TestClass.importLine Symbol.assertEquals.path]
      ∧ (c ≠ .caught → extra = [])
      ∧ ((s.withCapture .none).written i).headerLines f = above ++ below
      ∧ ((s.withCapture c).written i).headerLines f = above ++ extra ++ below := by
  let t := (s.withCapture .none).written i
  let rest := t.frontLines f ++ t.fixture.toList.flatMap (Fixture.lines f)
  have hheader : ((s.withCapture c).written i).headerLines f
      = TestClass.packageLines t.package
        ++ TestClass.importBlock ((s.withCapture c).written i).imports ++ rest := by
    have hwritten := written_withCapture s c i
    have hpackage := congrArg TestClass.package hwritten
    have hrest := congrArg
      (fun t => TestClass.frontLines f t ++ t.fixture.toList.flatMap (Fixture.lines f)) hwritten
    rw [TestClass.headerLines_eq, hpackage]
    exact congrArg _ hrest
  obtain ⟨above, below, extra, hextra, hnone, hc⟩ := imports_withCapture hleft c i
  rw [hheader, TestClass.headerLines_eq, hc, hnone]
  rcases hextra with rfl | ⟨rfl, hcaught⟩
  · refine ⟨_, [], [], List.nil_sublist _, fun _ => rfl, (List.append_nil _).symm, ?_⟩
    simp only [List.append_nil]
    rfl
  · -- There are tests, so `Test` is imported anyway: the block is not empty.
    have hne : above ++ below ≠ [] := by
      have htest : .test ∈ ((s.withCapture .none).notice i).needs i :=
        mem_needs_of_mem_functionNeeds (mem_functionNeeds_iff.2 ⟨hcaught.2, .inl rfl⟩)
      have hpath := (gather_known ((s.withCapture .none).notice i) i).2 .test htest
      rw [← hnone, written_imports]
      exact List.ne_nil_of_mem ((inOrder_perm _).mem_iff.2 hpath)
    refine ⟨TestClass.packageLines t.package ++ above.map TestClass.importLine,
      below.map TestClass.importLine ++ [.blank] ++ rest, [TestClass.importLine
        Symbol.assertEquals.path], List.Sublist.refl _, fun h => absurd hcaught.1 h, ?_, ?_⟩
    · rw [TestClass.importBlock_of_ne_nil hne]
      simp only [List.map_append, List.append_assoc]
      rfl
    · rw [TestClass.importBlock_of_ne_nil (by simp)]
      simp only [List.map_append, List.append_assoc, List.map_singleton]

-- =================================================================== texts

/-- The text of a class: what is in front of the tests, and the tests of
one function after those of another. -/
private theorem sourceText_written_withCapture (unit : String) (s : Session) (c : Capture)
    (i : Item) (f : Framework) :
    let r := s.draft.recipe
    let test (g : FunctionDecl) (c : Capture) :=
      sourceText unit ((r.method (r.subject? i) s.parameterized i.tested g c).lines f)
    sourceText unit (((s.withCapture c).written i).lines f)
      = sourceText unit (((s.withCapture c).written i).headerLines f)
        ++ "\n".intercalate
          (i.tested.flatMap fun g => test g .none :: if c = .none then [] else [test g c])
        ++ "\x7d\n" := by
  intro r test
  have hclosing : sourceText unit [⟨0, "\x7d"⟩] = "\x7d\n" := by
    simp [sourceText, Line.render]
  have hmethods : ((s.withCapture c).written i).methods
      = i.tested.flatMap ((r.withCapture c).testsOf i s.parameterized) := by
    rw [written_withCapture]
  have htests : (((s.withCapture c).written i).methods.map (TestMethod.lines f)).map
        (sourceText unit)
      = i.tested.flatMap fun g => test g .none :: if c = .none then [] else [test g c] := by
    rw [hmethods, List.map_map, List.map_flatMap]
    congr 1
    funext g
    rw [Recipe.testsOf_withCapture]
    by_cases hc : c = .none
    · rw [if_pos hc, if_pos hc]
      rfl
    · rw [if_neg hc, if_neg hc]
      rfl
  rw [TestClass.lines, sourceText_append, sourceText_append, TestClass.sourceText_separated,
    htests, hclosing]

/-- The text of a test: its mark, its title, what it does, and the line
that closes it. -/
private theorem sourceText_test (unit : String) (f : Framework) (m : TestMethod) :
    sourceText unit (m.lines f)
      = repeated unit 1 ++ TestMethod.markText m.capture ++ "\n"
        ++ (repeated unit 1 ++ "fun `" ++ m.title ++ "`() \x7b\n")
        ++ sourceText unit (m.givenLines f ++ m.whenLines ++ m.thenLines)
        ++ (repeated unit 1 ++ "\x7d\n") := by
  have hlines : m.lines f = ⟨1, TestMethod.markText m.capture⟩
      :: ⟨1, "fun `" ++ m.title ++ "`() \x7b"⟩
      :: (m.givenLines f ++ m.whenLines ++ m.thenLines ++ [⟨1, "\x7d"⟩]) := by
    simp [TestMethod.lines]
  have hopened : "`() \x7b\n" = "`() \x7b" ++ "\n" := rfl
  have hclosed : "\x7d\n" = "\x7d" ++ "\n" := rfl
  rw [hlines, sourceText_cons, sourceText_cons, sourceText_append, sourceText_cons, hopened,
    hclosed]
  simp [String.append_assoc, -String.reduceAppend]

/-- The text of an item that is added to a session that has done nothing
since its start or its last reset: what is in front of the tests, then for
each function its regular test and, where exceptions are captured, one
more, with an empty line between any two tests, and the line that closes
the class. A test is a block under a mark and a title that say how it
deals with exceptions. A regular test does not depend on how exceptions
are captured; what is in front of the tests depends on it by one import at
most, where they are caught. Without the tests about exceptions and but
for that import, a class is the one where nothing is captured. -/
theorem text_add_captures (unit : String) (settings : Settings) (registry : Registry) (i : Item)
    (steps : Capture → List Step) (hfresh : ∀ c, lasting (steps c) = []) :
    let r := settings.recipe registry
    let f := settings.framework
    let s (c : Capture) := (start { settings with capture := c } registry).1.run (steps c)
    let t (c : Capture) := (s c).written i
    let test (g : FunctionDecl) (c : Capture) :=
      sourceText unit ((r.method (r.subject? i) settings.parameterized i.tested g c).lines f)
    (∀ c, ((s c).step (.add i)).1.text unit
        = sourceText unit ((t c).headerLines f)
          ++ "\n".intercalate
            (i.tested.flatMap fun g => test g .none :: if c = .none then [] else [test g c])
          ++ "\x7d\n")
      ∧ (∀ g c, ∃ does, test g c
        = repeated unit 1
          ++ (if c = .marked then "@Test(expected = Exception::class)" else "@Test") ++ "\n"
          ++ (repeated unit 1 ++ "fun `" ++ g.title (g.overloaded i.tested) c ++ "`() \x7b\n")
          ++ does ++ (repeated unit 1 ++ "\x7d\n"))
      ∧ (∀ c, ∃ above below extra,
          extra.Sublist [(⟨0, "import org.junit.Assert.assertEquals"⟩ : Line)]
            ∧ (c ≠ .caught → extra = [])
            ∧ (t .none).headerLines f = above ++ below
            ∧ (t c).headerLines f = above ++ extra ++ below)
      ∧ ∀ c, { (t c).regular with imports := (t .none).imports } = t .none := by
  intro r f s t test
  let s₀ := (start settings registry).1
  have hs : ∀ c, s c = s₀.withCapture c := by
    intro c
    show (start { settings with capture := c } registry).1.run (steps c) = _
    rw [← run_lasting, hfresh]
    rfl
  have ht : ∀ c, t c = (s₀.withCapture c).written i := fun c => congrArg (written · i) (hs c)
  have hleft : s₀.imports.get? "assertEquals" = none := rfl
  refine ⟨fun c => ?text, fun g c => ?block, fun c => ?header, fun c => ?regular⟩
  case text =>
    have hempty : (s c).text unit = "" := by
      rw [hs]
      rfl
    have htext : ((s c).step (.add i)).1.text unit
        = (s c).text unit ++ sourceText unit ((t c).lines f) :=
      text_step_add unit { settings with capture := c } registry (steps c) i
    rw [htext, hempty, String.empty_append, ht]
    exact sourceText_written_withCapture unit s₀ c i f
  case block =>
    have hmark : TestMethod.markText c
        = if c = .marked then "@Test(expected = Exception::class)" else "@Test" := by
      cases c <;> rfl
    rw [← hmark]
    exact ⟨_, sourceText_test unit f (r.method (r.subject? i) settings.parameterized i.tested g c)⟩
  case header =>
    rw [ht, ht]
    exact headerLines_withCapture hleft c i f
  case regular =>
    rw [ht, ht]
    exact regular_written_withCapture s₀ c i

/-- A file with a function that logs, behind a reset where its exceptions
are caught: its test compares nothing, so `assertEquals` is imported for
the other one. -/
theorem text_add_captures_caught :
    let settings : Settings := ⟨.mockito, "cut", "actual", "TODO()", .none, false, "rule"⟩
    let log : FunctionDecl :=
      ⟨"log", false, [⟨"text", .named "String" false⟩], none, .named "Unit" false⟩
    let journal : Item := .ofFile ⟨"app", ∅, [log]⟩ "Journal"
    let steps (c : Capture) : List Step :=
      if c = .caught then [.add journal, .addImport "MockK", .reset, .read] else []
    let s (c : Capture) :=
      (start { settings with capture := c } Registry.standard).1.run (steps c)
    let t (c : Capture) := (s c).written journal
    (∀ c, lasting (steps c) = [])
      ∧ (t .none).headerLines .mockito ≠ (t .caught).headerLines .mockito
      ∧ (∃ above below extra,
          extra.Sublist [(⟨0, "import org.junit.Assert.assertEquals"⟩ : Line)]
            ∧ (t .none).headerLines .mockito = above ++ below
            ∧ (t .caught).headerLines .mockito = above ++ extra ++ below)
      ∧ (t .caught).methods.length = 2
      ∧ { (t .caught).regular with imports := (t .none).imports } = t .none := by
  intro settings log journal steps s t
  have hfresh : ∀ c, lasting (steps c) = [] := by
    intro c
    cases c <;> rfl
  obtain ⟨-, -, hheader, hregular⟩ :=
    text_add_captures "    " settings Registry.standard journal steps hfresh
  obtain ⟨above, below, extra, hextra, -, hnone, hcaught⟩ := hheader .caught
  exact ⟨hfresh, by decide +kernel, ⟨above, below, extra, hextra, hnone, hcaught⟩,
    by decide +kernel, hregular .caught⟩

end Session

end TestDraft
