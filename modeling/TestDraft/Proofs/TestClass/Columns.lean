/-
The names that the constructor of a parameterized class declares, and
when it declares one twice. A name is that of a function with a tail
behind it: the name of a parameter with its first letter in upper case,
or `Expected`. All functions share one scope, and nothing stands between
a name and its tail, so a function whose name goes on where another one's
ends can compete with it for a name (`FunctionDecl.Competes`), and so can
overloads, whose names end together. The names are distinct exactly when
no two functions compete and no function has one tail twice
(`columns_distinct_iff`).
-/
import Mathlib.Data.List.Nodup
import TestDraft.Proofs.TestClass.Scopes
import TestDraft.Proofs.Text.Balance

namespace TestDraft

open Text

-- ============================================================ upper case

namespace Text

/-- The tables hold no upper case that starts with an `E` but that of `e`. -/
private theorem head?_expansions :
    ∀ e ∈ upperExpansions, (e.2.head?.any fun n => Char.ofNat n != 'E') = true := by
  decide +kernel

/-- A run that takes a letter to `E` shifts it as it does ASCII letters. -/
private theorem shift_of_runs : ∀ r ∈ upperRuns,
    r.first + r.shift ≤ 0x45 → 0x45 ≤ r.last + r.shift → r.shift = -32 := by
  decide +kernel

/-- Only `e` and `E` are written `E` in upper case. -/
private theorem eq_of_upper_append {c : Char} {r r' : List Char} (h : upper c ++ r = 'E' :: r') :
    c = 'e' ∨ c = 'E' := by
  unfold upper at h
  split at h
  next several hlookup =>
    obtain ⟨before, after, hentries, -⟩ := List.lookup_eq_some_iff.1 hlookup
    have hmem : (c.toNat, several) ∈ upperExpansions := by
      rw [hentries]
      exact List.mem_append_right _ List.mem_cons_self
    have hhead := head?_expansions _ hmem
    cases several with
    | nil => cases hhead
    | cons n ns => exact absurd (List.cons.inj h).1 (bne_iff_ne.1 hhead)
  next =>
    split at h
    next run hfind =>
      have hchar : Char.ofNat (c.toNat + run.shift).toNat = 'E' := (List.cons.inj h).1
      have hcode := toNat_ofNat (c.toNat + run.shift).toNat
      rw [hchar, show 'E'.toNat = 0x45 from rfl] at hcode
      have hshift := shift_of_runs run (List.mem_of_find?_eq_some hfind)
      have hcovers := List.find?_some hfind
      simp only [CaseRun.covers, Bool.and_eq_true, decide_eq_true_eq] at hcovers
      have hlower : c.toNat = 0x65 := by omega
      exact .inl (by rw [← Char.ofNat_toNat c, hlower])
    next => exact .inr (List.cons.inj h).1

/-- Two texts are `Expected` with their first letter in upper case. -/
private theorem capitalise_eq_expected_iff {s : String} :
    capitalise s = "Expected" ↔ s = "expected" ∨ s = "Expected" := by
  constructor
  · intro h
    have hletters := congrArg String.toList h
    unfold capitalise at hletters
    split at hletters
    next => cases hletters
    next c rest hs =>
      rw [String.toList_ofList] at hletters
      have hstart : upper 'e' = ['E'] ∧ upper 'E' = ['E'] := by decide +kernel
      rcases eq_of_upper_append hletters with rfl | rfl
      · rw [hstart.1] at hletters
        left
        rw [← String.toList_inj, hs]
        exact congrArg (fun letters => 'e' :: letters.tail) hletters
      · rw [hstart.2] at hletters
        right
        rw [← String.toList_inj, hs]
        exact hletters
  · rintro (rfl | rfl) <;> decide +kernel

end Text

-- ================================================================= tails

namespace FunctionDecl

variable {f g : FunctionDecl} {fs : List FunctionDecl}

/-- What stands behind the name of the function in the names of its columns. -/
def columnTails (f : FunctionDecl) : List String :=
  f.params.map (fun p => capitalise p.name) ++ (if f.hasResult then ["Expected"] else [])

def columnNames (f : FunctionDecl) : List String := f.columnTails.map (f.name ++ ·)

/-- Whether the name of the second function goes on where that of the
first one ends, and a tail of its own goes on to one of the first. -/
def Competes (f g : FunctionDecl) : Prop :=
  ∃ more, g.name = f.name ++ more ∧ ∃ tail ∈ g.columnTails, more ++ tail ∈ f.columnTails

private theorem map_name_entries (f : FunctionDecl) : f.entries.map (·.name) = f.columnNames := by
  unfold entries columnNames columnTails
  cases f.hasResult <;> simp [Function.comp_def, columnName, expectedName]

/-- The names for one function are distinct if its parameters are, with
their first letters in upper case, and none of them takes the name of the
expected value. -/
private theorem columnNames_nodup_iff :
    f.columnNames.Nodup
      ↔ (f.params.map fun p => capitalise p.name).Nodup
        ∧ (f.hasResult = true → ∀ p ∈ f.params, p.name ≠ "expected" ∧ p.name ≠ "Expected") := by
  have hinjective : Function.Injective (f.name ++ ·) := fun s t h =>
    (String.append_right_inj f.name).1 h
  have htails : ∀ p : Parameter,
      capitalise p.name ≠ "Expected" ↔ p.name ≠ "expected" ∧ p.name ≠ "Expected" := by
    intro p
    rw [ne_eq, capitalise_eq_expected_iff, not_or]
  rw [columnNames, List.nodup_map_iff hinjective, columnTails]
  cases f.hasResult with
  | false => simp
  | true => simp [List.nodup_append, htails]

/-- Two functions have a name in common exactly when one of them competes
with the other. -/
private theorem columnNames_disjoint_iff :
    f.columnNames.Disjoint g.columnNames ↔ ¬ f.Competes g ∧ ¬ g.Competes f := by
  have hcommon : ∀ {f g : FunctionDecl}, f.Competes g →
      ∃ n, n ∈ f.columnNames ∧ n ∈ g.columnNames := by
    rintro f g ⟨more, hname, tail, hg, hf⟩
    refine ⟨g.name ++ tail, ?_, List.mem_map_of_mem hg⟩
    rw [hname, String.append_assoc]
    exact List.mem_map_of_mem hf
  have hcompetes : ∀ {f g : FunctionDecl} {x y : String} (more : List Char),
      x ∈ f.columnTails → y ∈ g.columnTails → g.name.toList = f.name.toList ++ more →
      x.toList = more ++ y.toList → f.Competes g := by
    intro f g x y more hx hy hname htail
    rw [← String.toList_ofList (l := more), ← String.toList_append] at hname htail
    rw [String.toList_inj] at hname htail
    exact ⟨String.ofList more, hname, y, hy, htail ▸ hx⟩
  constructor
  · intro hdisjoint
    constructor
    · intro h
      obtain ⟨n, hf, hg⟩ := hcommon h
      exact hdisjoint hf hg
    · intro h
      obtain ⟨n, hg, hf⟩ := hcommon h
      exact hdisjoint hf hg
  · rintro ⟨hfg, hgf⟩ n hf hg
    obtain ⟨x, hx, rfl⟩ := List.mem_map.1 hf
    obtain ⟨y, hy, heq⟩ := List.mem_map.1 hg
    have hletters := congrArg String.toList heq
    rw [String.toList_append, String.toList_append, List.append_eq_append_iff] at hletters
    -- The name of one of them ends first, and the other one goes on from there.
    obtain ⟨more, hname, htail⟩ | ⟨more, hname, htail⟩ := hletters
    · exact hgf (hcompetes more hy hx hname htail)
    · exact hfg (hcompetes more hx hy hname htail)

/-- Functions of one name that both have a result compete for the name of
the expected value. -/
private theorem competes_of_results (hname : f.name = g.name) (hf : f.hasResult = true)
    (hg : g.hasResult = true) : f.Competes g := by
  have hexpected : ∀ {k : FunctionDecl}, k.hasResult = true → "Expected" ∈ k.columnTails := by
    intro k hk
    rw [columnTails, if_pos hk]
    exact List.mem_append_right _ List.mem_cons_self
  exact ⟨"", by rw [hname, String.append_empty], "Expected", hexpected hg, hexpected hf⟩

end FunctionDecl

-- =========================================================== constructor

namespace Column

/-- Whether a line of the constructor declares a column. -/
def Declares (l : Line) (c : Column) : Prop := l = ⟨1, c.text⟩ ∨ l = ⟨1, c.text ++ ","⟩

/-- The constructor declares the columns line by line. -/
private theorem forall₂_lines (cs : List Column) : List.Forall₂ Declares (lines cs) cs := by
  induction cs with
  | nil => exact .nil
  | cons c cs ih =>
      cases cs with
      | nil => exact .cons (.inl rfl) .nil
      | cons d ds =>
          rw [lines_cons_cons]
          exact .cons (.inr rfl) ih

end Column

/-- A class with columns opens with its constructor. -/
theorem TestClass.openingLines_of_columns {t : TestClass} {cs : List Column}
    (h : t.columns = some cs) (hne : cs ≠ []) :
    t.openingLines
      = [⟨0, "class " ++ t.name ++ "Test("⟩] ++ Column.lines cs ++ [⟨0, ") \x7b"⟩] := by
  unfold openingLines
  split
  next hnone => exact absurd (h.symm.trans hnone) nofun
  next hempty => exact absurd (Option.some.inj (h.symm.trans hempty)) hne
  next cs' _ hsome => rw [Option.some.inj (h.symm.trans hsome)]

/-- The columns of a group of functions, function by function. -/
private theorem Toolkit.names_columns (k : Toolkit) (fs : List FunctionDecl) :
    (k.columns fs).map (·.name) = fs.flatMap FunctionDecl.columnNames := by
  rw [columns, List.map_map, List.map_flatMap]
  congr 1
  funext f
  exact f.map_name_entries

namespace Draft

theorem columns_tests (d : Draft) (i : Item) (imports : List String) (m : Bool) :
    (d.tests i imports true m).columns = some (d.recipe.toolkit.columns i.tested) := by
  cases i <;> rfl

/-- The constructor of a parameterized class declares its columns line by
line, in the order of the functions. Their names are distinct exactly when
the names of the parameters are distinct within each function, whatever
the case of their first letters, no parameter takes the name of the
expected value of its function, and no two functions compete for a name.
So each two functions of one name that have results make it declare a name
twice. -/
theorem columns_distinct_iff (d : Draft) (i : Item) (imports : List String)
    (mockedFields : Bool) (unit : String) :
    let t := d.tests i imports true mockedFields
    let cs := d.recipe.toolkit.columns i.tested
    let names := cs.map (·.name)
    (d.add i imports true mockedFields).text unit
        = d.text unit ++ sourceText unit (t.lines d.framework)
      ∧ t.columns = some cs
      ∧ t.openingLines <:+: t.lines d.framework
      ∧ (cs ≠ [] → t.openingLines
          = [⟨0, "class " ++ t.name ++ "Test("⟩] ++ Column.lines cs ++ [⟨0, ") \x7b"⟩])
      ∧ List.Forall₂ Column.Declares (Column.lines cs) cs
      ∧ names = i.tested.flatMap FunctionDecl.columnNames
      ∧ (names.Nodup
          ↔ (∀ f ∈ i.tested,
              (f.params.map fun p => capitalise p.name).Nodup
                ∧ (f.hasResult = true →
                    ∀ p ∈ f.params, p.name ≠ "expected" ∧ p.name ≠ "Expected"))
            ∧ i.tested.Pairwise fun f g => ¬ f.Competes g ∧ ¬ g.Competes f)
      ∧ ∀ f g, [f, g].Sublist i.tested → f.name = g.name → f.hasResult = true →
          g.hasResult = true → ¬ names.Nodup := by
  intro t cs names
  have hnames : names = i.tested.flatMap FunctionDecl.columnNames :=
    d.recipe.toolkit.names_columns i.tested
  have hdistinct : names.Nodup
      ↔ (∀ f ∈ i.tested, f.columnNames.Nodup)
        ∧ i.tested.Pairwise fun f g => ¬ f.Competes g ∧ ¬ g.Competes f := by
    rw [hnames, List.nodup_flatMap]
    exact and_congr_right fun _ =>
      List.Pairwise.iff fun f g => FunctionDecl.columnNames_disjoint_iff
  refine ⟨d.text_add unit i imports true mockedFields, d.columns_tests i imports mockedFields,
    TestClass.infix_lines_openingLines,
    TestClass.openingLines_of_columns (d.columns_tests i imports mockedFields),
    Column.forall₂_lines cs, hnames, ?_, fun f g hfg hname hf hg hnodup => ?_⟩
  · rw [hdistinct]
    simp only [FunctionDecl.columnNames_nodup_iff]
  · exact (List.pairwise_iff_forall_sublist.1 (hdistinct.1 hnodup).2 hfg).1
      (FunctionDecl.competes_of_results hname hf hg)

/-- Two overloads that look up rows: each of them declares both of its
names once more. -/
theorem columns_declared_twice_by_overloads :
    let recipe : Recipe :=
      ⟨⟨.mockito, "rule", Registry.standard⟩, "subject", "actual", "TODO()", .none⟩
    let find (id : String) : FunctionDecl :=
      { name := "find"
        isAbstract := false
        params := [⟨"id", .named id false⟩]
        receiver := none
        result := .named "Boolean" false }
    let rows : FileDecl :=
      { package := "app", imports := ∅, functions := [find "Int", find "String"] }
    let t := (Draft.start recipe).tests (.ofFile rows "Rows") [] true false
    let cs := recipe.toolkit.columns rows.functions
    find "Int" ≠ find "String"
      ∧ t.openingLines
        = [⟨0, "class RowsTest("⟩] ++ Column.lines cs ++ [⟨0, ") \x7b"⟩]
      ∧ cs.map (·.name) = ["findId", "findExpected", "findId", "findExpected"]
      ∧ ¬ (cs.map (·.name)).Nodup := by
  intro recipe find rows t cs
  obtain ⟨-, -, -, hopening, -, hnames, -, htwice⟩ :=
    columns_distinct_iff (.start recipe) (.ofFile rows "Rows") [] false "    "
  exact ⟨by decide, hopening (by decide +kernel), hnames.trans (by decide +kernel),
    htwice (find "Int") (find "String") (List.Sublist.refl _) rfl (by decide) (by decide)⟩

end Draft

end TestDraft
