/-
The words that a declaration is made of, and the texts that are made out
of them: types, names of columns, titles, literals and mocks. Where the
words are well-nested, so are the texts.
-/
import TestDraft.Mocking.Toolkit
import TestDraft.Proofs.Table
import TestDraft.Proofs.Text.Balance

namespace TestDraft

open Text

variable {ws vs : List String}

-- ================================================================= words

/-- Whether each of some words is well-nested. -/
def AllNested (ws : List String) : Prop := ∀ w ∈ ws, WellNested w

instance (ws : List String) : Decidable (AllNested ws) :=
  inferInstanceAs (Decidable (∀ w ∈ ws, WellNested w))

theorem allNested_nil : AllNested [] := nofun

/-- Words are nested if the first one is, and all others. -/
theorem allNested_cons {w : String} : AllNested (w :: ws) ↔ WellNested w ∧ AllNested ws :=
  List.forall_mem_cons

/-- Two lists of words are nested together if each is. -/
theorem allNested_append : AllNested (vs ++ ws) ↔ AllNested vs ∧ AllNested ws :=
  List.forall_mem_append

/-- Words that come part by part are nested if those of each part are. -/
theorem allNested_flatMap {α : Type} {xs : List α} {f : α → List String} :
    AllNested (xs.flatMap f) ↔ ∀ x ∈ xs, AllNested (f x) :=
  List.forall_mem_flatMap

mutual

/-- The names in a type, at every depth. -/
def TypeExpr.words : TypeExpr → List String
  | .named n _ => [n]
  | .generic n _ args => n :: TypeExpr.allWords args
  | .function r _ params => r :: TypeExpr.allWords params

/-- The names in some types. -/
def TypeExpr.allWords : List TypeExpr → List String
  | [] => []
  | t :: ts => t.words ++ TypeExpr.allWords ts

end

def Parameter.words (p : Parameter) : List String := p.name :: p.type.words

def FunctionDecl.words (f : FunctionDecl) : List String :=
  f.name :: f.params.flatMap Parameter.words ++ f.receiver.toList.flatMap TypeExpr.words
    ++ f.result.words

def ClassDecl.words (c : ClassDecl) : List String :=
  c.package :: c.name :: c.imports.values ++ c.params.flatMap Parameter.words
    ++ c.functions.flatMap FunctionDecl.words

def FileDecl.words (f : FileDecl) : List String :=
  f.package :: f.imports.values ++ f.functions.flatMap FunctionDecl.words

def Item.words : Item → List String
  | .ofClass c => c.words
  | .ofFile f n => n :: f.words

def Value.words : Value → List String
  | .literal text => [text]
  | .mock t => t.words

-- ================================================================= types

namespace TypeExpr

/-- A type is named by one of its words. -/
private theorem name_mem_words (t : TypeExpr) : t.name ∈ t.words := by
  cases t <;> exact List.mem_cons_self

/-- So its name is nested where its words are. -/
theorem wellNested_name {t : TypeExpr} (h : AllNested t.words) : WellNested t.name :=
  h t.name t.name_mem_words

/-- The mark of a nullable type opens and closes nothing. -/
private theorem wellNested_mark (q : Bool) : WellNested (mark q) := by
  cases q <;> decide

mutual

/-- A type brings brackets of its own around the types inside, and closes
each of them. By recursion on the type, together with the types inside. -/
theorem wellNested_bareText : (t : TypeExpr) → AllNested t.words → WellNested t.bareText
  | named n _, h => h n List.mem_cons_self
  | generic n _ args, h => by
      obtain ⟨hn, hargs⟩ := allNested_cons.1 h
      have hlist := wellNested_commas (wellNested_texts args hargs)
      exact hlist.between (closersDue_append_of hn rfl) rfl
  | function r _ params, h => by
      obtain ⟨hr, hparams⟩ := allNested_cons.1 h
      have hlist := wellNested_commas (wellNested_texts params hparams)
      exact (hlist.between rfl rfl).append hr

/-- The same for each type of a list. -/
private theorem wellNested_texts : (ts : List TypeExpr) → AllNested (allWords ts) →
    ∀ s ∈ texts ts, WellNested s
  | [], _ => nofun
  | t :: ts, h => by
      obtain ⟨ht, hts⟩ := allNested_append.1 h
      exact List.forall_mem_cons.2
        ⟨(wellNested_bareText t ht).append (wellNested_mark t.nullable), wellNested_texts ts hts⟩

end

/-- A type is written without brackets of its words left open. -/
theorem wellNested_text {t : TypeExpr} (h : AllNested t.words) : WellNested t.text :=
  (wellNested_bareText t h).append (wellNested_mark t.nullable)

/-- The words of a list of types are those of each. -/
private theorem allNested_of_mem_allWords {ts : List TypeExpr} (h : AllNested (allWords ts)) :
    ∀ t ∈ ts, AllNested t.words := by
  induction ts with
  | nil => nofun
  | cons t ts ih =>
      obtain ⟨ht, hts⟩ := allNested_append.1 h
      exact List.forall_mem_cons.2 ⟨ht, ih hts⟩

end TypeExpr

-- ============================================================= functions

namespace Parameter

/-- The name of a parameter is one of its words. -/
theorem wellNested_name {p : Parameter} (h : AllNested p.words) : WellNested p.name :=
  (allNested_cons.1 h).1

/-- The words of its type are words of the parameter. -/
theorem allNested_type {p : Parameter} (h : AllNested p.words) : AllNested p.type.words :=
  (allNested_cons.1 h).2

end Parameter

namespace FunctionDecl

variable {f : FunctionDecl}

/-- The words of a function, part by part. -/
theorem allNested_words_iff :
    AllNested f.words ↔ WellNested f.name ∧ (∀ p ∈ f.params, AllNested p.words)
      ∧ (∀ t, f.receiver = some t → AllNested t.words) ∧ AllNested f.result.words := by
  simp only [words, allNested_append, allNested_cons, allNested_flatMap, Option.mem_toList,
    and_assoc]

/-- The name of a function is one of its words. -/
theorem wellNested_name (h : AllNested f.words) : WellNested f.name :=
  (allNested_words_iff.1 h).1

/-- The words of a parameter are words of its function. -/
theorem allNested_param (h : AllNested f.words) {p : Parameter} (hp : p ∈ f.params) :
    AllNested p.words := (allNested_words_iff.1 h).2.1 p hp

/-- So are those of the type that the function extends. -/
theorem allNested_receiver (h : AllNested f.words) {t : TypeExpr} (ht : f.receiver = some t) :
    AllNested t.words := (allNested_words_iff.1 h).2.2.1 t ht

/-- So are those of its result. -/
theorem allNested_result (h : AllNested f.words) : AllNested f.result.words :=
  (allNested_words_iff.1 h).2.2.2

/-- A suffix is put behind the name of the function. -/
theorem wellNested_expectedName (h : AllNested f.words) : WellNested f.expectedName :=
  (wellNested_name h).append rfl

/-- A column is named after function and parameter. Capitals bring no
brackets along, whatever letter the parameter starts with. -/
theorem wellNested_columnName (h : AllNested f.words) {p : Parameter} (hp : p ∈ f.params) :
    WellNested (f.columnName p) :=
  (wellNested_name h).append (Parameter.wellNested_name (allNested_param h hp)).capitalise

/-- The name in a title is put together from that of the extended type and
that of the function. -/
theorem wellNested_titleName (h : AllNested f.words) : WellNested f.titleName := by
  unfold titleName
  split
  next => exact wellNested_name h
  next t ht =>
    have hname := TypeExpr.wellNested_name (allNested_receiver h ht)
    exact hname.joined (wellNested_name h) rfl

end FunctionDecl

-- =============================================================== items

/-- The words of a class, part by part. -/
theorem ClassDecl.allNested_words_iff {c : ClassDecl} :
    AllNested c.words ↔ WellNested c.package ∧ WellNested c.name ∧ AllNested c.imports.values
      ∧ (∀ p ∈ c.params, AllNested p.words) ∧ ∀ f ∈ c.functions, AllNested f.words := by
  simp only [words, allNested_append, allNested_cons, allNested_flatMap, and_assoc]

/-- The words of a file, part by part. -/
theorem FileDecl.allNested_words_iff {f : FileDecl} :
    AllNested f.words ↔ WellNested f.package ∧ AllNested f.imports.values
      ∧ ∀ g ∈ f.functions, AllNested g.words := by
  simp only [words, allNested_append, allNested_cons, allNested_flatMap, and_assoc]

/-- The paths that an item imports are among its words. -/
theorem Item.allNested_imports {i : Item} (h : AllNested i.words) : AllNested i.imports.values := by
  cases i with
  | ofClass c => exact (ClassDecl.allNested_words_iff.1 h).2.2.1
  | ofFile f n => exact (FileDecl.allNested_words_iff.1 (allNested_cons.1 h).2).2.1

-- ================================================================ values

/-- That a rule writes well-nested literals for well-nested words. -/
def LiteralRule.KeepsNesting (rule : LiteralRule) : Prop :=
  ∀ name t, WellNested name → AllNested t.words → WellNested (rule.literal name t)

/-- That all rules of a registry write well-nested literals for well-nested
words. The names that they are found under do not count, since no text
shows them. -/
def Registry.KeepsNesting (r : Registry) : Prop := ∀ rule ∈ r.rules.values, rule.KeepsNesting

namespace LiteralRule

/-- A constant is written as it is. -/
private theorem keepsNesting_constant {text : String} (h : WellNested text) :
    (constant text).KeepsNesting := fun _ _ _ _ => h

/-- The name of a variable is put in quotes. -/
private theorem keepsNesting_variableName : variableName.KeepsNesting :=
  fun _ _ hname _ => hname.between rfl rfl

/-- An empty collection has its element types between brackets. -/
private theorem keepsNesting_collection {maker : String} (h : WellNested maker) :
    (collection maker).KeepsNesting := by
  intro name t _ ht
  have helements : WellNested (elements t) := by
    cases t with
    | generic n q args =>
        exact wellNested_commas (TypeExpr.wellNested_texts args (allNested_cons.1 ht).2)
    | named n q | function r q params => exact (by decide : WellNested anyName)
  exact helements.between (closersDue_append_of h rfl) rfl

/-- A function literal names the types of its parameters between braces. -/
private theorem keepsNesting_lambda : lambda.KeepsNesting := by
  intro name t _ ht
  have hnames : WellNested (paramNames t) := by
    cases t with
    | function r q params =>
        refine wellNested_commas (List.forall_mem_map.2 fun u hu => ?_)
        have hparams := TypeExpr.allNested_of_mem_allWords (allNested_cons.1 ht).2
        exact TypeExpr.wellNested_name (hparams u hu)
    | named n q | generic n q args => exact (rfl : WellNested "")
  by_cases h : paramNames t = ""
  · have hempty : lambda.literal name t = "\x7b\x7d" := if_pos h
    rw [hempty]
    decide
  · have harrow : lambda.literal name t = "\x7b " ++ paramNames t ++ " -> \x7d" := if_neg h
    rw [harrow]
    exact hnames.between rfl rfl

end LiteralRule

namespace Registry

variable {r : Registry}

/-- The rule of a type is one of the registry's, or that of all function
types. -/
private theorem keepsNesting_rule {t : TypeExpr} {e : String × LiteralRule} (hr : r.KeepsNesting)
    (he : r.find? t = some e) : e.2.KeepsNesting := by
  have hlisted : ∀ name, (r.rules.get? name).map (name, ·) = some e → e.2.KeepsNesting := by
    intro name hget
    obtain ⟨rule, hrule, rfl⟩ := Option.map_eq_some_iff.1 hget
    exact hr rule (Table.mem_values_of_get? hrule)
  cases t with
  | named n q => exact hlisted n he
  | generic n q args => exact hlisted n he
  | function res q params =>
      obtain rfl : (functionTag, LiteralRule.lambda) = e := Option.some.inj he
      exact LiteralRule.keepsNesting_lambda

/-- A value has well-nested words: those of a literal, or those of the
type that is mocked. -/
theorem allNested_value {name : String} {t : TypeExpr} (hr : r.KeepsNesting)
    (hname : WellNested name) (ht : AllNested t.words) : AllNested (r.value name t).words := by
  unfold value
  split
  next tag rule hfind =>
    exact allNested_cons.2 ⟨keepsNesting_rule hr hfind name t hname ht, nofun⟩
  next => exact ht

/-- The literals of the language's own library are well-nested. -/
theorem keepsNesting_standard : standard.KeepsNesting := by
  intro rule hrule
  unfold standard at hrule
  have hwritten := Table.mem_of_mem_values_ofList hrule
  clear hrule
  simp only [List.map_cons, List.map_nil, List.mem_cons, List.not_mem_nil, or_false] at hwritten
  rcases hwritten with rfl | rfl | rfl | rfl | rfl | rfl | rfl | rfl | rfl | rfl | rfl | rfl | rfl
    | rfl | rfl | rfl | rfl | rfl
  -- Constants, the name of the variable, empty collections, and the unit value.
  iterate 9 next => exact LiteralRule.keepsNesting_constant (by decide)
  next => exact LiteralRule.keepsNesting_variableName
  iterate 7 next => exact LiteralRule.keepsNesting_collection (by decide)
  next => exact LiteralRule.keepsNesting_constant (by decide)

end Registry

/-- A value is a literal, or a call that mocks a type. -/
theorem Framework.wellNested_valueText (f : Framework) {v : Value} (h : AllNested v.words) :
    WellNested (f.valueText v) := by
  cases v with
  | literal text => exact h text List.mem_cons_self
  | mock t =>
      have ht := TypeExpr.wellNested_bareText t h
      have hcall : ∀ call, WellNested call → WellNested (call ++ "<" ++ t.bareText ++ ">()") :=
        fun call hcall => ht.between (closersDue_append_of hcall rfl) rfl
      cases f with
      | mockito => exact hcall "mock" (by decide)
      | mockk => exact hcall "mockk" (by decide)

end TestDraft
