/-
What the text of a type shows. Where names hold none of the characters
that keep names apart, a text can be read in one way only, but for one
thing: a lone type in brackets that has no name and no mark leaves no
trace, so its list reads like an empty one. `TypeExpr.shown` is the type
without such lists, and types that differ in it differ in their texts
(`shown_eq_of_text`).

The recursion carries what stands behind the two texts along: behind the
text of a type there is nothing, or a comma or a closing bracket, and so
the first separator tells where a name ends and what kind of type it is
the name of.
-/
import TestDraft.Proofs.Declaration.Balance

namespace TestDraft

open Text

-- ============================================================ separators

/-- The characters that keep names apart in types and titles. -/
def separators : List Char := ['#', '(', ')', ',', '<', '>', '?', ' ']

/-- Whether a text without other names starts at a separator, if it
starts at all. -/
def Separate (r : List Char) : Prop := ∀ c, r.head? = some c → c ∈ separators

/-- Whether each of some names is free of separators. -/
def AllPlain (names : List String) : Prop := ∀ n ∈ names, ∀ c ∈ n.toList, c ∉ separators

instance (names : List String) : Decidable (AllPlain names) :=
  decidable_of_iff (names.all fun n => n.toList.all (· ∉ separators)) (by simp [AllPlain])

variable {r r' : List Char} {n m : String}

/-- Names are plain if the first one is, and all others. -/
private theorem allPlain_cons {names : List String} :
    AllPlain (n :: names) ↔ (∀ c ∈ n.toList, c ∉ separators) ∧ AllPlain names :=
  List.forall_mem_cons

/-- Two lists of names are plain together if each is. -/
theorem allPlain_append {names names' : List String} :
    AllPlain (names ++ names') ↔ AllPlain names ∧ AllPlain names' :=
  List.forall_mem_append

/-- A text that starts with a separator ends a name. -/
theorem separate_cons {c : Char} {cs : List Char} (h : c ∈ separators) : Separate (c :: cs) := by
  rintro d hd
  obtain rfl := Option.some.inj hd
  exact h

/-- A name ends at the first separator. -/
theorem name_eq_of_append (hn : ∀ c ∈ n.toList, c ∉ separators)
    (hm : ∀ c ∈ m.toList, c ∉ separators) (hr : Separate r) (hr' : Separate r')
    (h : n.toList ++ r = m.toList ++ r') : n = m ∧ r = r' := by
  have hspan : ∀ {cs s : List Char}, (∀ c ∈ cs, c ∉ separators) → Separate s →
      (cs ++ s).takeWhile (fun c => decide (c ∉ separators)) = cs := by
    intro cs s hcs hs
    have hnone : s.takeWhile (fun c => decide (c ∉ separators)) = [] := by
      cases s with
      | nil => rfl
      | cons c s => exact List.takeWhile_cons_of_neg (by simpa using hs c rfl)
    rw [List.takeWhile_append_of_pos fun c hc => decide_eq_true (hcs c hc), hnone,
      List.append_nil]
  have hname : n.toList = m.toList := by
    rw [← hspan hn hr, h, hspan hm hr']
  rw [hname] at h
  exact ⟨String.toList_inj.1 hname, List.append_cancel_left h⟩

namespace TypeExpr

-- ================================================================= shown

/-- Types in brackets without a lone one that has no name and no mark. -/
def visible (ts : List TypeExpr) : List TypeExpr := if ts = [named "" false] then [] else ts

mutual

/-- The type without what its text does not show. -/
def shown : TypeExpr → TypeExpr
  | named n q => named n q
  | generic n q args => generic n q (visible (shownEach args))
  | function r q params => function r q (visible (shownEach params))

/-- Each of some types without what its text does not show. -/
def shownEach : List TypeExpr → List TypeExpr
  | [] => []
  | t :: ts => shown t :: shownEach ts

end

/-- What the text of types in brackets shows of them. -/
def shownAll (ts : List TypeExpr) : List TypeExpr := visible (shownEach ts)

/-- A type that is shown as nothing, alone in a list, shows no more than the
empty list. -/
private theorem text_visible (ts : List TypeExpr) :
    commas (texts (visible ts)) = commas (texts ts) := by
  unfold visible
  split
  next h =>
    rw [h]
    rfl
  next => rfl

mutual

/-- What is not shown does not matter to the text. -/
private theorem text_shown : (t : TypeExpr) → t.shown.text = t.text
  | named n q => by rw [shown]
  | generic n q args => by
    have hargs : commas (texts (visible (shownEach args))) = commas (texts args) := by
      rw [text_visible, texts_shownEach args]
    rw [shown, text, text, bareText, bareText, hargs, nullable, nullable]
  | function r q params => by
    have hparams : commas (texts (visible (shownEach params))) = commas (texts params) := by
      rw [text_visible, texts_shownEach params]
    rw [shown, text, text, bareText, bareText, hparams, nullable, nullable]

/-- A type and what it shows have one text. -/
private theorem texts_shownEach : (ts : List TypeExpr) → texts (shownEach ts) = texts ts
  | [] => by rw [shownEach]
  | t :: ts => by
    have ht : t.shown.bareText ++ mark t.shown.nullable = t.bareText ++ mark t.nullable :=
      text_shown t
    rw [shownEach, texts, texts, ht, texts_shownEach ts]

end

/-- So have lists of them. -/
theorem texts_shownAll (ts : List TypeExpr) :
    commas (texts (shownAll ts)) = commas (texts ts) := by
  rw [shownAll, text_visible, texts_shownEach]

mutual

/-- A type is shown as it is if it has all its names. -/
private theorem shown_eq_self : (t : TypeExpr) → "" ∉ t.words → t.shown = t
  | named n q, _ => by rw [shown]
  | generic n q args, h => by
    rw [words, List.mem_cons, not_or] at h
    have hargs : visible (shownEach args) = args := shownAll_eq_self args h.2
    rw [shown, hargs]
  | function r q params, h => by
    rw [words, List.mem_cons, not_or] at h
    have hparams : visible (shownEach params) = params := shownAll_eq_self params h.2
    rw [shown, hparams]

/-- Where all names can be seen, types show themselves. -/
private theorem shownEach_eq_self : (ts : List TypeExpr) → "" ∉ allWords ts → shownEach ts = ts
  | [], _ => by rw [shownEach]
  | t :: ts, h => by
    rw [allWords, List.mem_append, not_or] at h
    rw [shownEach, shown_eq_self t h.1, shownEach_eq_self ts h.2]

/-- So does a list of them, since none of it is invisible. -/
theorem shownAll_eq_self : (ts : List TypeExpr) → "" ∉ allWords ts →
    visible (shownEach ts) = ts
  | ts, h => by
    rw [shownEach_eq_self ts h, visible, if_neg]
    rintro rfl
    exact h List.mem_cons_self

end

-- ================================================================ reading

/-- The name that a text starts with. -/
def lead : TypeExpr → String
  | named n _ => n
  | generic n _ _ => n
  | function _ _ _ => ""

/-- What stands in the text behind the name it starts with. -/
def afterLead : TypeExpr → List Char
  | named _ q => (mark q).toList
  | generic _ q args => '<' :: (commas (texts args)).toList ++ '>' :: (mark q).toList
  | function r q params =>
    '(' :: (commas (texts params)).toList ++ ')' :: ' ' :: '-' :: '>' :: ' ' :: r.toList
      ++ (mark q).toList

/-- The text of a type is its lead, and what follows it. -/
private theorem toList_text (t : TypeExpr) : t.text.toList = t.lead.toList ++ t.afterLead := by
  cases t <;>
    simp [text, bareText, lead, afterLead, nullable, String.toList_append, List.append_assoc]

/-- What may stand behind the text of a type. -/
def Ends (r : List Char) : Prop := ∀ c, r.head? = some c → c ∈ [',', ')', '>']

/-- What stands behind the last of some types in brackets. -/
def Closes (r : List Char) : Prop := ∃ c cs, r = c :: cs ∧ c ∈ [')', '>']

/-- What ends a type ends its name. -/
private theorem Ends.separate (h : Ends r) : Separate r := by
  have hlisted : ∀ c ∈ [',', ')', '>'], c ∈ separators := by simp [separators]
  exact fun c hc => hlisted c (h c hc)

/-- What closes a list ends its last type. -/
theorem Closes.ends (h : Closes r) : Ends r := by
  obtain ⟨c, cs, rfl, hc⟩ := h
  rintro d hd
  obtain rfl := Option.some.inj hd
  exact List.mem_cons_of_mem _ hc

/-- The lead of a type is a name, or empty. -/
private theorem plain_lead {t : TypeExpr} (h : AllPlain t.words) :
    ∀ c ∈ t.lead.toList, c ∉ separators := by
  cases t with
  | named n q => exact h n List.mem_cons_self
  | generic n q args => exact h n List.mem_cons_self
  | function res q params => nofun

/-- A mark ends a name, and without one the rest has to. -/
private theorem separate_mark (q : Bool) (hr : Separate r) : Separate ((mark q).toList ++ r) := by
  cases q with
  | false => exact hr
  | true => exact separate_cons (by decide)

/-- Behind the lead a separator follows, if it is not all. -/
private theorem separate_afterLead (t : TypeExpr) (hr : Separate r) :
    Separate (t.afterLead ++ r) := by
  cases t with
  | named n q => exact separate_mark q hr
  | generic n q args => exact separate_cons (by decide)
  | function res q params => exact separate_cons (by decide)

/-- A mark belongs to the type in front of it. -/
private theorem mark_eq_of_append {q q' : Bool} (hr : Ends r) (hr' : Ends r')
    (h : (mark q).toList ++ r = (mark q').toList ++ r') : q = q' ∧ r = r' := by
  have hnone : ∀ {s s' : List Char}, Ends s → s ≠ '?' :: s' := by
    rintro s s' hs rfl
    exact absurd (hs '?' rfl) (by decide)
  cases q <;> cases q'
  case false.false => exact ⟨rfl, h⟩
  case true.true => exact ⟨rfl, List.append_cancel_left h⟩
  case false.true => exact absurd h (hnone hr)
  case true.false => exact absurd h.symm (hnone hr')

/-- Equal texts start with equal names, and go on equally. -/
private theorem lead_eq_of_text {t u : TypeExpr} (ht : AllPlain t.words) (hu : AllPlain u.words)
    (hr : Ends r) (hr' : Ends r') (h : t.text.toList ++ r = u.text.toList ++ r') :
    t.lead = u.lead ∧ t.afterLead ++ r = u.afterLead ++ r' := by
  rw [toList_text, toList_text, List.append_assoc, List.append_assoc] at h
  exact name_eq_of_append (plain_lead ht) (plain_lead hu) (t.separate_afterLead hr.separate)
    (u.separate_afterLead hr'.separate) h

/-- The text of a name without arguments is the text of nothing else. -/
private theorem eq_of_text_named {q : Bool} {u : TypeExpr} (hn : AllPlain (named n q).words)
    (hu : AllPlain u.words) (hr : Ends r) (hr' : Ends r')
    (h : (named n q).text.toList ++ r = u.text.toList ++ r') : named n q = u ∧ r = r' := by
  obtain ⟨hlead, hafter⟩ := lead_eq_of_text hn hu hr hr' h
  have hopening : ∀ {c : Char} {cs : List Char}, c ∉ ['?', ',', ')', '>'] →
      (mark q).toList ++ r ≠ c :: cs := by
    rintro c cs hc heq
    cases q with
    | false => exact hc (List.mem_cons_of_mem _ (hr c (congrArg List.head? heq)))
    | true => exact hc ((List.cons.inj heq).1 ▸ List.mem_cons_self)
  cases u with
  | named m q' =>
      obtain rfl : n = m := hlead
      obtain ⟨rfl, rfl⟩ := mark_eq_of_append hr hr' hafter
      exact ⟨rfl, rfl⟩
  | generic m q' args => exact absurd hafter (hopening (by decide))
  | function res q' params => exact absurd hafter (hopening (by decide))

/-- Texts behind the first of some types in brackets. -/
def laterText (ts : List TypeExpr) : List Char := ts.flatMap fun t => ',' :: ' ' :: t.text.toList

/-- The types behind the first one are led in by commas. -/
private theorem laterText_append (t : TypeExpr) (ts : List TypeExpr) (r : List Char) :
    laterText (t :: ts) ++ r = ',' :: ' ' :: (t.text.toList ++ (laterText ts ++ r)) := by
  rw [laterText, List.flatMap_cons, List.append_assoc]
  rfl

/-- Types with commas between them are the first one, and the later ones
with a comma in front of each. -/
private theorem toList_commas (t : TypeExpr) (ts : List TypeExpr) :
    (commas (texts (t :: ts))).toList = t.text.toList ++ laterText ts := by
  rw [texts_eq_map, commas, laterText]
  induction ts generalizing t with
  | nil => simp
  | cons u us ih =>
      rw [List.map_cons, List.map_cons, String.intercalate_cons_cons, String.toList_append,
        String.toList_append, ← List.map_cons, ih u, List.flatMap_cons, List.append_assoc]
      rfl

/-- What follows a type in a list ends it: a comma, or what closes the list. -/
private theorem ends_later (ts : List TypeExpr) (hr : Closes r) : Ends (laterText ts ++ r) := by
  cases ts with
  | nil => exact hr.ends
  | cons t ts =>
      rintro c hc
      obtain rfl := Option.some.inj hc
      decide

/-- A bracket that closes a list is no comma. -/
private theorem ne_comma_of_closes {cs : List Char} (hr : Closes r) : r ≠ ',' :: cs := by
  rintro rfl
  obtain ⟨c, cs', heq, hc⟩ := hr
  obtain rfl := (List.cons.inj heq).1
  revert hc
  decide

/-- Behind a text in brackets that starts with no name at all there is at
most a lone type without name and mark. -/
private theorem visible_of_text {u : TypeExpr} {us : List TypeExpr} (hu : AllPlain u.words)
    (hr : Closes r) (hr' : Closes r') (h : r = u.text.toList ++ (laterText us ++ r')) :
    visible (shownEach (u :: us)) = [] ∧ r = r' := by
  have hnone : AllPlain (named "" false).words := by decide
  obtain ⟨rfl, hrest⟩ := eq_of_text_named hnone hu hr.ends (ends_later us hr') h
  cases us with
  | nil => exact ⟨if_pos rfl, hrest⟩
  | cons v vs => exact absurd hrest (ne_comma_of_closes hr)

mutual

/-- Equal texts, whatever stands behind them, are texts of types that show
the same. -/
theorem shown_eq_of_text : (t u : TypeExpr) → AllPlain t.words → AllPlain u.words →
    ∀ {r r' : List Char}, Ends r → Ends r' → t.text.toList ++ r = u.text.toList ++ r' →
      t.shown = u.shown ∧ r = r'
  | named n q, u, ht, hu, r, r', hr, hr', h => by
    obtain ⟨rfl, hrest⟩ := eq_of_text_named ht hu hr hr' h
    exact ⟨rfl, hrest⟩
  | generic n q args, u, ht, hu, r, r', hr, hr', h => by
    obtain ⟨hlead, hafter⟩ := lead_eq_of_text ht hu hr hr' h
    cases u with
    | named m q' => cases (eq_of_text_named hu ht hr' hr h.symm).1
    | function res q' params => cases (List.cons.inj hafter).1
    | generic m q' args' =>
        obtain rfl : n = m := hlead
        simp only [afterLead, List.cons_append, List.append_assoc] at hafter
        have hinside := (List.cons.inj hafter).2
        obtain ⟨hargs, hbehind⟩ := shownAll_eq_of_commas args args' (allPlain_cons.1 ht).2
          (allPlain_cons.1 hu).2 ⟨'>', _, rfl, by decide⟩ ⟨'>', _, rfl, by decide⟩ hinside
        obtain ⟨rfl, hrest⟩ := mark_eq_of_append hr hr' (List.cons.inj hbehind).2
        rw [shown, shown, hargs]
        exact ⟨rfl, hrest⟩
  | function res q params, u, ht, hu, r, r', hr, hr', h => by
    obtain ⟨-, hafter⟩ := lead_eq_of_text ht hu hr hr' h
    cases u with
    | named m q' => cases (eq_of_text_named hu ht hr' hr h.symm).1
    | generic m q' args => cases (List.cons.inj hafter).1
    | function res' q' params' =>
        simp only [afterLead, List.cons_append, List.append_assoc] at hafter
        have hinside := (List.cons.inj hafter).2
        obtain ⟨hparams, hbehind⟩ := shownAll_eq_of_commas params params' (allPlain_cons.1 ht).2
          (allPlain_cons.1 hu).2 ⟨')', _, rfl, by decide⟩ ⟨')', _, rfl, by decide⟩ hinside
        simp only [List.cons.injEq, true_and] at hbehind
        obtain ⟨rfl, hmark⟩ := name_eq_of_append (allPlain_cons.1 ht).1 (allPlain_cons.1 hu).1
          (separate_mark q hr.separate) (separate_mark q' hr'.separate) hbehind
        obtain ⟨rfl, hrest⟩ := mark_eq_of_append hr hr' hmark
        rw [shown, shown, hparams]
        exact ⟨rfl, hrest⟩

/-- Equal texts in brackets are texts of types that show the same. -/
theorem shownAll_eq_of_commas : (ts us : List TypeExpr) → AllPlain (allWords ts) →
    AllPlain (allWords us) → ∀ {r r' : List Char}, Closes r → Closes r' →
    (commas (texts ts)).toList ++ r = (commas (texts us)).toList ++ r' →
      visible (shownEach ts) = visible (shownEach us) ∧ r = r'
  | [], [], _, _, r, r', _, _, h => ⟨rfl, h⟩
  | [], u :: us, _, hus, r, r', hr, hr', h => by
    rw [toList_commas, List.append_assoc] at h
    obtain ⟨hnone, hrest⟩ := visible_of_text (allPlain_append.1 hus).1 hr hr' h
    exact ⟨hnone.symm, hrest⟩
  | t :: ts, [], hts, _, r, r', hr, hr', h => by
    rw [toList_commas, List.append_assoc] at h
    obtain ⟨hnone, hrest⟩ := visible_of_text (allPlain_append.1 hts).1 hr' hr h.symm
    exact ⟨hnone, hrest.symm⟩
  | t :: ts, u :: us, hts, hus, r, r', hr, hr', h => by
    rw [toList_commas, toList_commas, List.append_assoc, List.append_assoc] at h
    obtain ⟨ht, hlater⟩ := shown_eq_of_text t u (allPlain_append.1 hts).1 (allPlain_append.1 hus).1
      (ends_later ts hr) (ends_later us hr') h
    obtain ⟨hts', hrest⟩ := shownEach_eq_of_later ts us (allPlain_append.1 hts).2
      (allPlain_append.1 hus).2 hr hr' hlater
    rw [shownEach, shownEach, ht, hts']
    exact ⟨rfl, hrest⟩

/-- The later types of two lists agree one by one, by recursion together
with the types inside. -/
private theorem shownEach_eq_of_later : (ts us : List TypeExpr) → AllPlain (allWords ts) →
    AllPlain (allWords us) → ∀ {r r' : List Char}, Closes r → Closes r' →
    laterText ts ++ r = laterText us ++ r' → shownEach ts = shownEach us ∧ r = r'
  | [], [], _, _, r, r', _, _, h => ⟨rfl, h⟩
  | [], u :: us, _, _, r, r', hr, _, h => absurd h (ne_comma_of_closes hr)
  | t :: ts, [], _, _, r, r', _, hr', h => absurd h.symm (ne_comma_of_closes hr')
  | t :: ts, u :: us, hts, hus, r, r', hr, hr', h => by
    rw [laterText_append, laterText_append] at h
    obtain ⟨ht, hlater⟩ := shown_eq_of_text t u (allPlain_append.1 hts).1 (allPlain_append.1 hus).1
      (ends_later ts hr) (ends_later us hr') (List.cons.inj (List.cons.inj h).2).2
    obtain ⟨hts', hrest⟩ := shownEach_eq_of_later ts us (allPlain_append.1 hts).2
      (allPlain_append.1 hus).2 hr hr' hlater
    rw [shownEach, shownEach, ht, hts']
    exact ⟨rfl, hrest⟩

end

end TypeExpr

end TestDraft
