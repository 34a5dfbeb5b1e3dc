/-
No name that a test class uses is left without an import. What an item
needs is known to the framework at hand, so gathering drops nothing and
finds each needed name under one path: that of the item's own source
where the source has one, the known one elsewhere. A path found in
earlier steps is never the one that counts, since each step gathers all
that it needs anew.

What a class uses is read off what is appended for it, fragment by
fragment (`TestClass.symbols_bodyFragments`), and its other words spell no
name that would have to be imported, unless they come from outside
(`TestClass.worded_bodyFragments`).
-/
import TestDraft.Proofs.Session.Gathering
import TestDraft.Proofs.Session.History
import TestDraft.Proofs.TestClass.Output
import TestDraft.Proofs.TestClass.Wording
import TestDraft.Proofs.Text.Order

namespace TestDraft

open Text

/-- The path under which an item's tests import a symbol. -/
def Item.pathOf (i : Item) (x : Symbol) : String := (i.imports.get? x.name).getD x.path

namespace Session

-- ============================================================= gathering

/-- The paths of what an item needs are gathered, and nothing is
dropped. -/
theorem gather_known (s : Session) (i : Item) :
    (s.gather i).2 = [] ∧ ∀ x ∈ s.needs i, i.pathOf x ∈ (s.gather i).1.paths := by
  obtain ⟨hevents, hget⟩ := get?_gather s i
  refine ⟨hevents, fun x hx => mem_paths_iff.2 ⟨x.name, ?_⟩⟩
  have hneeded : Symbol.pathIn? (s.needs i) x.name = some x.path :=
    (Symbol.pathIn?_eq_some_iff fun y hy => known_of_mem_needs hy).2 ⟨x, hx, rfl, rfl⟩
  rw [hget, hneeded, Item.pathOf]
  cases i.imports.get? x.name <;> rfl

-- =============================================================== writing

/-- A written class lists the gathered paths in order. -/
theorem written_imports (s : Session) (i : Item) :
    (s.written i).imports = inOrder ((s.notice i).gather i).1.paths := by
  rw [written_eq]
  cases i <;> rfl

/-- Every symbol that a written class uses is imported by it. -/
private theorem path_mem_imports {s : Session} {i : Item} {x : Symbol}
    (h : x ∈ (s.written i).symbols s.draft.framework) :
    i.pathOf x ∈ (s.written i).imports := by
  have hpaths : i.pathOf x ∈ ((s.notice i).gather i).1.paths :=
    (gather_known (s.notice i) i).2 x (mem_needs_of_mem_symbols h)
  rw [written_imports]
  exact (inOrder_perm _).mem_iff.2 hpaths

/-- The words of a written class are those of the recipe and the item. -/
private theorem givenBy_written (s : Session) (i : Item) :
    (s.written i).GivenBy (s.draft.recipe.Gives i) := by
  rw [written_eq]
  exact s.draft.recipe.givenBy_tests i _

private theorem written_package (s : Session) (i : Item) : (s.written i).package = i.package := by
  rw [written_eq]
  cases i <;> rfl

/-- Adding an item writes its test class behind the text there is. -/
theorem text_add (unit : String) (s : Session) (i : Item) :
    (s.add i).1.text unit
      = s.text unit ++ sourceText unit ((s.written i).lines s.draft.framework) := by
  let g := ((s.notice i).gather i).1
  have hdraft : g.draft = (s.notice i).draft := (gather_frame (s.notice i) i).1
  have htext : g.draft.text unit = s.text unit := by
    rw [hdraft]
    rfl
  have hframework : g.draft.framework = s.draft.framework := by
    rw [hdraft]
    rfl
  have hadd : (s.add i).1.text unit
      = (g.draft.add i g.paths g.parameterized (g.toolkit.mocksFields i)).text unit := rfl
  rw [hadd, Draft.text_add, htext, hframework]
  rfl

-- ================================================================== runs

/-- Adding an item after any steps writes its test class behind the text
there is. -/
theorem text_step_add (unit : String) (settings : Settings) (registry : Registry)
    (steps : List Step) (i : Item) :
    let s := (start settings registry).1.run steps
    (s.step (.add i)).1.text unit
      = s.text unit ++ sourceText unit ((s.written i).lines settings.framework) := by
  intro s
  rw [← run_framework settings registry steps]
  exact text_add unit s i

/-- After any steps, adding an item writes its package, an import block and
the body of a test class behind the text there is, and drops no name as
unknown. Whatever is written as a symbol in the body is imported in the
block: under the path that the item's own source gives to its name if it
gives one, and under the known path otherwise. These symbols are those of
the class, part by part. All else in the body is indentation, words of
the writers' own that spell no symbol, and words that the settings, the
item or the registry give. -/
theorem used_symbols_imported (unit : String) (settings : Settings) (registry : Registry)
    (steps : List Step) (i : Item) :
    let s := (start settings registry).1.run steps
    let imports := (s.written i).imports
    let body := (s.written i).bodyFragments settings.framework
    (s.step (.add i)).1.text unit
        = s.text unit ++ ("package " ++ i.package ++ "\n\n")
          ++ (String.join (imports.map fun p => "import " ++ p ++ "\n")
            ++ if imports = [] then "" else "\n")
          ++ Fragment.join unit body
      ∧ (∀ x, .symbol x ∈ body → (i.imports.get? x.name).getD x.path ∈ imports)
      ∧ Fragment.symbols body = (s.written i).symbols settings.framework
      ∧ (∀ text, .own text ∈ body → ∀ x : Symbol, ¬x.name.toList <:+: text.toList)
      ∧ (∀ text, .foreign text ∈ body → (settings.recipe registry).Gives i text)
      ∧ ∀ n, Event.unknownImport n ∉ (s.step (.add i)).2 := by
  intro s imports body
  have hrecipe : s.draft.recipe = settings.recipe registry :=
    run_recipe (start settings registry).1 steps
  have hframework : s.draft.framework = settings.framework :=
    congrArg (·.toolkit.framework) hrecipe
  have hsymbols : Fragment.symbols body = (s.written i).symbols settings.framework :=
    TestClass.symbols_bodyFragments settings.framework (s.written i)
  have hworded : Fragment.AllWorded ((settings.recipe registry).Gives i) body := by
    rw [← hrecipe]
    exact TestClass.worded_bodyFragments settings.framework (givenBy_written s i)
  obtain ⟨hevents, -⟩ := gather_known (s.notice i) i
  refine ⟨?text, fun x hx => ?imported, hsymbols, fun text h => hworded _ h,
    fun text h => hworded _ h, fun n hn => ?dropped⟩
  case text =>
    show (s.add i).1.text unit = _
    rw [text_add, ← TestClass.join_fragments, hframework, TestClass.join_appended,
      written_package]
    simp only [String.append_assoc]
    rfl
  case imported =>
    have hused : x ∈ (s.written i).symbols s.draft.framework := by
      rw [hframework, ← hsymbols]
      exact Fragment.mem_symbols_iff.2 hx
    exact path_mem_imports hused
  case dropped =>
    have hstep : (s.step (.add i)).2 = ((s.notice i).gather i).2 ++ [.adding i] := rfl
    rw [hstep, hevents] at hn
    cases List.mem_singleton.1 hn

/-- An earlier item has a path of its own for `Test`, this one for
`Mock`: only the latter counts. -/
theorem used_symbols_imported_own_path :
    let settings : Settings := ⟨.mockito, "store", "actual", "TODO()", .caught, true, "rule"⟩
    let earlier : Item := .ofFile ⟨"app", Table.ofList [("Test", "own.Test")], []⟩ "Util"
    let store : Item := .ofClass
      { package := "app"
        imports := Table.ofList [("Mock", "own.Mock")]
        name := "Store"
        isAbstract := true
        params := [⟨"rows", .named "Rows" false⟩]
        functions := [⟨"find", false, [⟨"key", .named "Key" false⟩], none, .named "Row" true⟩] }
    let s := (start settings Registry.standard).1.run [.add earlier, .addImport "Row"]
    let body := (s.written store).bodyFragments .mockito
    (.symbol .mockField ∈ body ∧ .symbol .test ∈ body)
      ∧ ("own.Mock" ∈ (s.written store).imports ∧ "org.junit.Test" ∈ (s.written store).imports)
      ∧ ∀ n, Event.unknownImport n ∉ (s.step (.add store)).2 := by
  intro settings earlier store s body
  obtain ⟨-, himported, -, -, -, hevents⟩ := used_symbols_imported "    " settings
    Registry.standard [.add earlier, .addImport "Row"] store
  have hmock : .symbol .mockField ∈ body := by decide +kernel
  have htest : .symbol .test ∈ body := by decide +kernel
  exact ⟨⟨hmock, htest⟩, ⟨himported .mockField hmock, himported .test htest⟩, hevents⟩

end Session

end TestDraft
