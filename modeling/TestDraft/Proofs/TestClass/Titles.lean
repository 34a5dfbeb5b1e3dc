/-
Titles of tests, and when two tests share one. A title speaks of a
function by its name, by the bare name of the type that it extends, and
where it is overloaded by the types of its parameters. What counts as
overloaded depends on the whole type that is extended, so functions that
extend different types of one name share their titles
(`titles_distinct_iff`); where such types have different names, and all
types have one, functions of different signatures get different titles.

The lines of a class that open a test are found by their start
(`TestClass.filter_opensTest`), so the titles are those of the text.
-/
import Mathlib.Data.List.Nodup
import TestDraft.Proofs.TestClass.Output
import TestDraft.Proofs.TestClass.Statements
import TestDraft.Proofs.TypeExpr.Shown

namespace TestDraft

open Text

-- ======================================================= lines of titles

/-- Whether a line opens a test: its name stands between backticks. -/
def Text.Line.opensTest (l : Line) : Bool :=
  l.depth == 1 && "fun `".toList.isPrefixOf l.text.toList

/-- The line that opens a test with a title. -/
def titleLine (title : String) : Line := ⟨1, "fun `" ++ title ++ "`() \x7b"⟩

def TestClass.titles (t : TestClass) : List String := t.methods.map (·.title)

/-- A test is opened by the depth of its line and the word it starts with. -/
@[simp] private theorem opensTest_mk (depth : Nat) (text : String) :
    Line.opensTest ⟨depth, text⟩ = (depth == 1 && "fun `".toList.isPrefixOf text.toList) := rfl

/-- An empty line opens none. -/
@[simp] private theorem opensTest_blank : Line.blank.opensTest = false := rfl

/-- No statement opens one, whatever it says. -/
private theorem opensTest_deep (l : Line) (h : 2 ≤ l.depth) : l.opensTest = false := by
  have hdepth : (l.depth == 1) = false := beq_false_of_ne (by omega)
  rw [Line.opensTest, hdepth, Bool.false_and]

section Parts

variable {f : Framework}

/-- Columns are declared by another word. -/
private theorem opensTest_columnLines (cs : List Column) :
    ∀ l ∈ Column.lines cs, l.opensTest = false := by
  induction cs with
  | nil => nofun
  | cons c cs ih =>
      cases cs with
      | nil => simp [Column.lines, Column.text, List.isPrefixOf]
      | cons d ds =>
          rw [Column.lines_cons_cons]
          exact List.forall_mem_cons.2 ⟨by simp [Column.text, List.isPrefixOf], ih⟩

/-- The class itself stands at another depth. -/
private theorem opensTest_openingLines (t : TestClass) :
    ∀ l ∈ t.openingLines, l.opensTest = false := by
  unfold TestClass.openingLines
  split
  · simp
  · simp
  · simp only [List.forall_mem_append]
    exact ⟨⟨by simp, opensTest_columnLines _⟩, by simp⟩

/-- Fields are marked, or private. -/
private theorem opensTest_field (d : Field) : ∀ l ∈ d.lines f, l.opensTest = false := by
  cases d <;> cases f <;> simp [Field.lines, Framework.fieldMark, List.isPrefixOf]

/-- The name of `setUp` is not in quotes. -/
private theorem opensTest_fixture (x : Fixture) : ∀ l ∈ x.lines f, l.opensTest = false := by
  rw [Fixture.lines_eq]
  simp only [Fixture.declarationLines, List.forall_mem_append, List.forall_mem_flatMap]
  refine ⟨⟨⟨⟨⟨?rule, ?subject⟩, ?fields⟩, ?opening⟩, ?init⟩, ⟨?creation, ?tail⟩, ?closing⟩
  case rule => exact fun r _ => ⟨by simp [Framework.ruleLines, List.isPrefixOf], by simp⟩
  case subject => simp [List.isPrefixOf]
  case fields => exact fun d _ => ⟨opensTest_field d, by simp⟩
  case opening => simp [Fixture.setUpOpening, List.isPrefixOf]
  case init => split <;> simp [Fixture.initLine]
  case creation => simp [Fixture.creationLine]
  case tail => cases x.creation <;> simp [Creation.tail, or_imp, forall_and]
  case closing => simp [Fixture.setUpClosing, List.isPrefixOf]

/-- So no line in front of the tests opens one. -/
private theorem opensTest_headerLines (t : TestClass) :
    ∀ l ∈ t.headerLines f, l.opensTest = false := by
  unfold TestClass.headerLines TestClass.importLines
  simp only [List.forall_mem_append, List.forall_mem_flatMap, List.forall_mem_map]
  refine ⟨⟨⟨⟨⟨?package, ?imports, ?gap⟩, ?runner⟩, ?opening⟩, ?rows⟩, ?fixture⟩
  case package => simp
  case imports => simp
  case gap => split <;> simp
  case runner => simp
  case opening => exact opensTest_openingLines t
  case rows => exact fun cs _ => ⟨by simp [Column.rowLines, List.isPrefixOf], by simp⟩
  case fixture => exact fun x _ => opensTest_fixture x

/-- The lines of a class that open a test are those of its titles. -/
theorem TestClass.filter_opensTest (t : TestClass) :
    (t.lines f).filter Line.opensTest = t.titles.map titleLine := by
  have hheader : (t.headerLines f).filter Line.opensTest = [] :=
    List.filter_eq_nil_iff.2 fun l hl => by simp [opensTest_headerLines t l hl]
  have hmethod : ∀ m : TestMethod, (m.lines f).filter Line.opensTest = [titleLine m.title] := by
    intro m
    rw [m.filter_lines opensTest_blank opensTest_deep]
    cases m.capture <;> simp [TestMethod.markText, titleLine, List.isPrefixOf]
  rw [lines, List.filter_append, List.filter_append, hheader, filter_separated opensTest_blank,
    List.flatMap_map, titles, List.map_map, List.map_eq_flatMap]
  simp [hmethod, List.isPrefixOf]

end Parts

-- ================================================================ titles

namespace FunctionDecl

variable {f g : FunctionDecl} {fs : List FunctionDecl} {b b' : Bool} {c c' : Capture}

def paramTypes (f : FunctionDecl) : List TypeExpr := f.params.map (·.type)

/-- What tells functions apart. -/
def signature (f : FunctionDecl) : String × Option TypeExpr × List TypeExpr :=
  (f.name, f.receiver, f.paramTypes)

/-- The names that a title can hold. -/
def titleWords (f : FunctionDecl) : List String :=
  f.name :: f.receiver.toList.map TypeExpr.name ++ TypeExpr.allWords f.paramTypes

/-- What a title shows of the types of the parameters. -/
def titleTypes (f : FunctionDecl) (overloaded : Bool) : Option (List TypeExpr) :=
  if overloaded then some (TypeExpr.shownAll f.paramTypes) else none

/-- Whether the tests of two among some functions share their titles. -/
def SharesTitle (fs : List FunctionDecl) (f g : FunctionDecl) : Prop :=
  f.name = g.name
    ∧ f.receiver.map TypeExpr.name = g.receiver.map TypeExpr.name
    ∧ f.titleTypes (f.overloaded fs) = g.titleTypes (g.overloaded fs)

instance (fs : List FunctionDecl) (f g : FunctionDecl) : Decidable (f.SharesTitle fs g) :=
  inferInstanceAs (Decidable (_ ∧ _ ∧ _))

/-- The name of a function is one of its words in titles. -/
private theorem plain_name (h : AllPlain f.titleWords) : ∀ ch ∈ f.name.toList, ch ∉ separators :=
  h f.name List.mem_cons_self

/-- So is that of the type it extends. -/
private theorem plain_receiver (h : AllPlain f.titleWords) {t : TypeExpr}
    (ht : f.receiver = some t) :
    ∀ ch ∈ t.name.toList, ch ∉ separators :=
  h t.name (by simp [titleWords, ht])

/-- So are the names in the types of its parameters. -/
private theorem plain_paramTypes (h : AllPlain f.titleWords) :
    AllPlain (TypeExpr.allWords f.paramTypes) :=
  (allPlain_append.1 h).2

/-- What stands behind the name of a function tells it from one that is
extended, since a title goes on with a bracket or a blank. -/
private theorem titleName_eq_of_append (hf : AllPlain f.titleWords) (hg : AllPlain g.titleWords)
    {r r' : List Char} (hr : Separate r) (hr' : Separate r') (hmark : r.head? ≠ some '#')
    (hmark' : r'.head? ≠ some '#')
    (h : f.titleName.toList ++ r = g.titleName.toList ++ r') :
    f.name = g.name ∧ f.receiver.map TypeExpr.name = g.receiver.map TypeExpr.name ∧ r = r' := by
  have hextended : ∀ (t : TypeExpr) (n : String) (s : List Char),
      (t.name ++ "#" ++ n).toList ++ s = t.name.toList ++ '#' :: (n.toList ++ s) := by
    simp [String.toList_append]
  have hhash : ∀ s : List Char, Separate ('#' :: s) := fun s => separate_cons (by decide)
  unfold titleName at h
  cases hrec : f.receiver with
  | none =>
      cases hrec' : g.receiver with
      | none =>
          rw [hrec, hrec'] at h
          obtain ⟨hname, hrest⟩ := name_eq_of_append (plain_name hf) (plain_name hg) hr hr' h
          exact ⟨hname, rfl, hrest⟩
      | some u =>
          simp only [hrec, hrec', hextended] at h
          obtain ⟨-, rfl⟩ :=
            name_eq_of_append (plain_name hf) (plain_receiver hg hrec') hr (hhash _) h
          exact absurd rfl hmark
  | some t =>
      cases hrec' : g.receiver with
      | none =>
          simp only [hrec, hrec', hextended] at h
          obtain ⟨-, rfl⟩ :=
            name_eq_of_append (plain_receiver hf hrec) (plain_name hg) (hhash _) hr' h
          exact absurd rfl hmark'
      | some u =>
          simp only [hrec, hrec', hextended] at h
          obtain ⟨ht, hbehind⟩ := name_eq_of_append (plain_receiver hf hrec)
            (plain_receiver hg hrec') (hhash _) (hhash _) h
          obtain ⟨hname, hrest⟩ := name_eq_of_append (plain_name hf) (plain_name hg) hr hr'
            (List.cons.inj hbehind).2
          exact ⟨hname, congrArg some ht, hrest⟩

/-- What a title says behind the name of the function. -/
def titleRest (f : FunctionDecl) (overloaded : Bool) (c : Capture) : List Char :=
  (if overloaded then
      '(' :: (commas (TypeExpr.texts f.paramTypes)).toList ++ [')']
    else [])
    ++ " then ".toList ++ c.outcome.toList

/-- A title, cut behind the name in it. -/
private theorem toList_title (f : FunctionDecl) (b : Bool) (c : Capture) :
    (f.title b c).toList
      = "Given _ when ".toList ++ (f.titleName.toList ++ f.titleRest b c) := by
  have htexts : f.params.map (·.type.text) = TypeExpr.texts f.paramTypes := by
    rw [TypeExpr.texts_eq_map, paramTypes, List.map_map]
    rfl
  rw [title, titleRest, htexts]
  cases b <;>
    simp only [if_true, Bool.false_eq_true, if_false, String.toList_append, List.append_assoc] <;>
    rfl

/-- Behind the name a bracket opens for an overload, and a space follows for
all others. -/
private theorem head?_titleRest (f : FunctionDecl) (b : Bool) (c : Capture) :
    (f.titleRest b c).head? = some (if b then '(' else ' ') := by
  cases b <;> rfl

/-- So the name ends there. -/
private theorem separate_titleRest (f : FunctionDecl) (b : Bool) (c : Capture) :
    Separate (f.titleRest b c) := by
  intro ch hch
  rw [head?_titleRest] at hch
  obtain rfl := Option.some.inj hch
  cases b <;> decide

/-- The sign of an extension does not follow. -/
private theorem head?_titleRest_ne (f : FunctionDecl) (b : Bool) (c : Capture) :
    (f.titleRest b c).head? ≠ some '#' := by
  rw [head?_titleRest]
  cases b <;> decide

/-- The rest of a title tells which types are listed, and the outcome. -/
private theorem titleRest_eq_iff (hf : AllPlain f.titleWords) (hg : AllPlain g.titleWords) :
    f.titleRest b c = g.titleRest b' c'
      ↔ f.titleTypes b = g.titleTypes b' ∧ c.outcome = c'.outcome := by
  have hhead : f.titleRest b c = g.titleRest b' c' → b = b' := by
    intro h
    have hfirst := congrArg List.head? h
    rw [head?_titleRest, head?_titleRest] at hfirst
    revert hfirst
    cases b <;> cases b' <;> simp
  constructor
  · intro h
    obtain rfl := hhead h
    cases b with
    | false =>
        refine ⟨rfl, String.toList_inj.1 ?_⟩
        exact List.append_cancel_left h
    | true =>
        simp only [titleRest, if_true, List.cons_append, List.append_assoc, List.cons.injEq,
          true_and] at h
        obtain ⟨htypes, hrest⟩ := TypeExpr.shownAll_eq_of_commas _ _ (plain_paramTypes hf)
          (plain_paramTypes hg) ⟨')', _, rfl, by decide⟩ ⟨')', _, rfl, by decide⟩ h
        refine ⟨congrArg some htypes, String.toList_inj.1 ?_⟩
        exact List.append_cancel_left (List.cons.inj hrest).2
  · rintro ⟨htypes, houtcome⟩
    unfold titleRest
    cases b <;> cases b'
    case false.false =>
        rw [houtcome]
        rfl
    case true.true =>
        have hshown : TypeExpr.shownAll f.paramTypes = TypeExpr.shownAll g.paramTypes :=
          Option.some.inj htypes
        rw [← TypeExpr.texts_shownAll f.paramTypes, ← TypeExpr.texts_shownAll g.paramTypes,
          hshown, houtcome]
    all_goals cases htypes

/-- When two titles are the same. -/
private theorem title_eq_iff (hf : AllPlain f.titleWords) (hg : AllPlain g.titleWords) :
    f.title b c = g.title b' c'
      ↔ f.name = g.name ∧ f.receiver.map TypeExpr.name = g.receiver.map TypeExpr.name
        ∧ f.titleTypes b = g.titleTypes b' ∧ c.outcome = c'.outcome := by
  rw [← String.toList_inj, toList_title, toList_title, List.append_cancel_left_eq,
    ← titleRest_eq_iff hf hg]
  constructor
  · exact titleName_eq_of_append hf hg (f.separate_titleRest b c) (g.separate_titleRest b' c')
      (f.head?_titleRest_ne b c) (g.head?_titleRest_ne b' c')
  · rintro ⟨hname, hreceiver, hrest⟩
    have htitle : f.titleName = g.titleName := by
      unfold titleName
      revert hreceiver
      cases f.receiver <;> cases g.receiver <;> simp [hname]
    rw [htitle, hrest]

-- ======================================================= distinct titles

/-- Functions of one name that extend the same type are overloaded. -/
private theorem overloaded_of_sublist (h : [f, g].Sublist fs) (hname : f.name = g.name)
    (hreceiver : f.receiver = g.receiver) :
    f.overloaded fs = true ∧ g.overloaded fs = true := by
  have hpair : ∀ k ∈ [f, g], k.overloaded fs = true := by
    intro k hk
    have hsame : ∀ x ∈ [f, g], (x.name == k.name && x.receiver == k.receiver) = true := by
      simp only [List.mem_cons, List.not_mem_nil, or_false] at hk
      rcases hk with rfl | rfl <;> simp [hname, hreceiver]
    have hfilter := h.filter fun x => x.name == k.name && x.receiver == k.receiver
    rw [List.filter_eq_self.2 hsame] at hfilter
    exact decide_eq_true hfilter.length_le
  exact ⟨hpair f List.mem_cons_self, hpair g (List.mem_cons_of_mem _ List.mem_cons_self)⟩

/-- Where what is extended goes by its name, and all types have one,
functions of different signatures have titles of their own. -/
private theorem pairwise_not_sharesTitle (hsignature : (fs.map signature).Nodup)
    (hreceiver : ∀ f ∈ fs, ∀ g ∈ fs, f.name = g.name →
      f.receiver.map TypeExpr.name = g.receiver.map TypeExpr.name → f.receiver = g.receiver)
    (hnamed : ∀ f ∈ fs, "" ∉ TypeExpr.allWords f.paramTypes) :
    fs.Pairwise fun f g => ¬ f.SharesTitle fs g := by
  refine List.pairwise_iff_forall_sublist.2 fun {f g} hfg hshare => ?_
  obtain ⟨hname, hreceivers, htypes⟩ := hshare
  have hf : f ∈ fs := hfg.subset List.mem_cons_self
  have hg : g ∈ fs := hfg.subset (List.mem_cons_of_mem _ List.mem_cons_self)
  have hsame : f.receiver = g.receiver := hreceiver f hf g hg hname hreceivers
  -- With one receiver they are overloads, so their titles list the types.
  obtain ⟨hover, hover'⟩ := overloaded_of_sublist hfg hname hsame
  have hparams : f.paramTypes = g.paramTypes := by
    have hshown : TypeExpr.shownAll f.paramTypes = TypeExpr.shownAll g.paramTypes := by
      rw [hover, hover'] at htypes
      exact Option.some.inj htypes
    rwa [TypeExpr.shownAll, TypeExpr.shownAll, TypeExpr.shownAll_eq_self _ (hnamed f hf),
      TypeExpr.shownAll_eq_self _ (hnamed g hg)] at hshown
  have hdiffer : f.signature ≠ g.signature :=
    List.pairwise_iff_forall_sublist.1 (List.pairwise_map.1 hsignature) hfg
  exact hdiffer (by rw [signature, signature, hname, hsame, hparams])

end FunctionDecl

namespace Recipe

/-- The tests of a function name different outcomes. -/
private theorem outcomes_nodup (r : Recipe) : (r.captures.map Capture.outcome).Nodup := by
  unfold captures
  cases r.capture <;> decide

/-- Each function has its regular test. -/
private theorem none_mem_captures (r : Recipe) : Capture.none ∈ r.captures := by
  unfold captures
  split <;> exact List.mem_cons_self

/-- The titles of the tests of some functions are distinct exactly when no
two of the functions share theirs. -/
private theorem titles_nodup_iff (r : Recipe) {fs : List FunctionDecl}
    (hplain : ∀ f ∈ fs, AllPlain f.titleWords) :
    (fs.flatMap fun f => r.captures.map (f.title (f.overloaded fs))).Nodup
      ↔ fs.Pairwise fun f g => ¬ f.SharesTitle fs g := by
  have hown : ∀ f ∈ fs, (r.captures.map (f.title (f.overloaded fs))).Nodup := by
    intro f hf
    refine (List.Nodup.of_map _ r.outcomes_nodup).map_on fun c hc c' hc' h => ?_
    have houtcome := ((FunctionDecl.title_eq_iff (hplain f hf) (hplain f hf)).1 h).2.2.2
    exact List.inj_on_of_nodup_map r.outcomes_nodup hc hc' houtcome
  rw [List.nodup_flatMap, and_iff_right hown]
  refine List.Pairwise.iff_of_mem fun {f g} hf hg => ?_
  constructor
  · rintro hdisjoint ⟨hname, hreceiver, htypes⟩
    have htitle : f.title (f.overloaded fs) .none = g.title (g.overloaded fs) .none :=
      (FunctionDecl.title_eq_iff (hplain f hf) (hplain g hg)).2 ⟨hname, hreceiver, htypes, rfl⟩
    exact hdisjoint (List.mem_map_of_mem r.none_mem_captures)
      (htitle ▸ List.mem_map_of_mem r.none_mem_captures)
  · intro hshare title hf' hg'
    obtain ⟨c, -, hc⟩ := List.mem_map.1 hf'
    obtain ⟨c', -, hc'⟩ := List.mem_map.1 hg'
    obtain ⟨hname, hreceiver, htypes, -⟩ :=
      (FunctionDecl.title_eq_iff (hplain f hf) (hplain g hg)).1 (hc.trans hc'.symm)
    exact hshare ⟨hname, hreceiver, htypes⟩

end Recipe

namespace Draft

/-- The titles of a class, function by function. -/
private theorem titles_tests (d : Draft) (i : Item) (imports : List String) (p m : Bool) :
    (d.tests i imports p m).titles
      = i.tested.flatMap fun f => d.recipe.captures.map (f.title (f.overloaded i.tested)) := by
  have hmethods : ∃ subject,
      (d.tests i imports p m).methods = d.recipe.methods subject p i.tested := by
    cases i with
    | ofClass c => exact ⟨some d.recipe.subject, rfl⟩
    | ofFile f n => exact ⟨none, rfl⟩
  obtain ⟨subject, hmethods⟩ := hmethods
  rw [TestClass.titles, hmethods, Recipe.methods, List.map_flatMap]
  simp only [List.map_map]
  rfl

/-- The lines that open the tests of an item, in the text that is written
for it, are those of the titles of its test class. With names that hold no
character of those that keep names apart, they are distinct exactly when
no two of the functions share their titles: when no two of them have the
same name, extend types of the same name, and are both listed with
parameters that show the same, or both without. For functions of
different signatures that is so if types of one name that functions of one
name extend are equal, and the types of the parameters are named. -/
theorem titles_distinct_iff (d : Draft) (i : Item) (imports : List String)
    (parameterized mockedFields : Bool) (unit : String)
    (hplain : ∀ f ∈ i.tested, AllPlain f.titleWords) :
    let t := d.tests i imports parameterized mockedFields
    (d.add i imports parameterized mockedFields).text unit
        = d.text unit ++ sourceText unit (t.lines d.framework)
      ∧ (t.lines d.framework).filter Line.opensTest = t.titles.map titleLine
      ∧ (t.titles.Nodup ↔ i.tested.Pairwise fun f g => ¬ f.SharesTitle i.tested g)
      ∧ ((i.tested.map FunctionDecl.signature).Nodup →
          (∀ f ∈ i.tested, ∀ g ∈ i.tested, f.name = g.name →
            f.receiver.map TypeExpr.name = g.receiver.map TypeExpr.name →
              f.receiver = g.receiver) →
          (∀ f ∈ i.tested, "" ∉ TypeExpr.allWords f.paramTypes) → t.titles.Nodup) := by
  intro t
  have hdistinct : t.titles.Nodup ↔ i.tested.Pairwise fun f g => ¬ f.SharesTitle i.tested g := by
    rw [titles_tests]
    exact d.recipe.titles_nodup_iff hplain
  exact ⟨d.text_add unit i imports parameterized mockedFields, t.filter_opensTest, hdistinct,
    fun hsignature hreceiver hnamed =>
      hdistinct.2 (FunctionDecl.pairwise_not_sharesTitle hsignature hreceiver hnamed)⟩

/-- Two functions that extend lists of different things have different
signatures, and one title between their two tests. -/
theorem titles_shared_by_extensions :
    let recipe : Recipe :=
      ⟨⟨.mockito, "rule", Registry.standard⟩, "subject", "actual", "TODO()", .none⟩
    let total (item : String) : FunctionDecl :=
      { name := "total"
        isAbstract := false
        params := []
        receiver := some (.generic "List" false [.named item false])
        result := .named "Unit" false }
    let sums : FileDecl :=
      { package := "app", imports := ∅, functions := [total "Int", total "Long"] }
    let t := (Draft.start recipe).tests (.ofFile sums "Sums") [] false false
    (∀ f ∈ sums.functions, AllPlain f.titleWords)
      ∧ (sums.functions.map FunctionDecl.signature).Nodup
      ∧ (total "Int").SharesTitle sums.functions (total "Long")
      ∧ ¬ t.titles.Nodup
      ∧ (t.lines .mockito).filter Line.opensTest
        = [titleLine "Given _ when List#total then _",
           titleLine "Given _ when List#total then _"] := by
  intro recipe total sums t
  have hplain : ∀ f ∈ sums.functions, AllPlain f.titleWords := by decide
  have hshare : (total "Int").SharesTitle sums.functions (total "Long") := by decide
  obtain ⟨-, hlines, hdistinct, -⟩ :=
    titles_distinct_iff (.start recipe) (.ofFile sums "Sums") [] false false "    " hplain
  have htwice : ¬ t.titles.Nodup := by
    intro hnodup
    exact List.rel_of_pairwise_cons (hdistinct.1 hnodup) List.mem_cons_self hshare
  exact ⟨hplain, by decide, hshare, htwice, hlines.trans (by decide)⟩

end Draft

end TestDraft
