/-
What a workbench asks for depends on the set of notices it has taken since
the last reset, and on nothing else.

The names pile up in a ledger, and what the rule needs is asked for by
whichever of two notices comes second. What carries this along a run is
that the ledger agrees with the facts (`Ledger.Agrees`): its flags are
facts, and a symbol has been asked for exactly if the facts need it. One
more notice keeps this up (`Ledger.Agrees.note`), whatever has come before
it. And each fact stands for some notices (`Facts.Tells`), so after any
requests the facts tell of the notices since the last reset, however often
and in whatever order they came. A question leaves no trace in the ledger.
-/
import Mathlib.Data.List.DropRight
import Mathlib.Data.List.Sort
import TestDraft.Mocking.Workbench
import TestDraft.Proofs.Mocking.Notices
import TestDraft.Proofs.Session.Gathering
import TestDraft.Proofs.TestClass.Output

namespace TestDraft

open Text

-- ================================================================= facts

/-- That the facts say what has been noticed, and no more. -/
structure Facts.Tells (k : Facts) (ns : List Notice) : Prop where
  constructorMocks : k.constructorMocks = true ↔ .constructorMocks ∈ ns
  functionMocks : k.functionMocks = true ↔ .functionMocks ∈ ns
  resultMocks : k.resultMocks = true ↔ .resultMocks ∈ ns
  abstractSubject : k.abstractSubject = true ↔ ∃ c, .abstractSubject c ∈ ns
  abstractArguments :
    k.abstractArguments = true ↔ ∃ c, .abstractSubject c ∈ ns ∧ c.params ≠ []
  parameterized : k.parameterized = true ↔ .parameterized ∈ ns

/-- That what has been noticed asks a framework for a name. -/
inductive Asked (ns : List Notice) : Framework → String → Prop where
  | mockedFields {name : String} (h : .constructorMocks ∈ ns)
      (hname : name ∈ ["RunWith", "MockitoJUnitRunner", "Mock"]) : Asked ns .mockito name
  | inlineMocks (h : .functionMocks ∈ ns ∨ .resultMocks ∈ ns) : Asked ns .mockito "mock"
  | partialMock {name : String} {c : ClassDecl} (h : .abstractSubject c ∈ ns)
      (hname : name ∈ ["mock", "Mockito"]) : Asked ns .mockito name
  | arguments {c : ClassDecl} (h : .abstractSubject c ∈ ns) (hparams : c.params ≠ []) :
      Asked ns .mockito "UseConstructor"
  | rule {name : String} (h : .constructorMocks ∈ ns) (hrows : .parameterized ∈ ns)
      (hname : name ∈ ["Rule", "MethodRule", "MockitoJUnit"]) : Asked ns .mockito name
  | createdFields {name : String} (h : .constructorMocks ∈ ns)
      (hname : name ∈ ["MockKAnnotations", "MockK"]) : Asked ns .mockk name
  | createdMocks (h : .functionMocks ∈ ns ∨ .resultMocks ∈ ns) : Asked ns .mockk "mockk"

namespace Facts

variable {k k' : Facts} {ns ns' : List Notice}

/-- At the start nothing has been noticed. -/
private theorem tells_start : Tells {} [] := by
  constructor <;> simp

theorem Tells.note (h : k.Tells ns) (n : Notice) : (k.note n).Tells (ns ++ [n]) := by
  obtain ⟨hconstructor, hfunction, hresult, hsubject, harguments, hparameterized⟩ := h
  cases n with
  | abstractSubject c =>
      -- The only notice that two facts stand for.
      refine ⟨?_, ?_, ?_, ?_, ?_, ?_⟩ <;>
        simp [Facts.note, hconstructor, hfunction, hresult, hparameterized,
          harguments, or_and_right, exists_or]
  | _ =>
      refine ⟨?_, ?_, ?_, ?_, ?_, ?_⟩ <;>
        simp [Facts.note, hconstructor, hfunction, hresult, hsubject, harguments, hparameterized]

theorem tells_noteAll (ns : List Notice) : Tells (({} : Facts).noteAll ns) ns := by
  induction ns using List.reverseRecOn with
  | nil => exact tells_start
  | append_singleton ns n ih =>
      rw [noteAll, List.foldl_concat]
      exact ih.note n

/-- Facts that tell of the same notices are the same. -/
private theorem Tells.eq (h : k.Tells ns) (h' : k'.Tells ns') (hsame : ∀ n, n ∈ ns ↔ n ∈ ns') :
    k = k' := by
  have hconstructor := h.constructorMocks.trans ((hsame _).trans h'.constructorMocks.symm)
  have hfunction := h.functionMocks.trans ((hsame _).trans h'.functionMocks.symm)
  have hresult := h.resultMocks.trans ((hsame _).trans h'.resultMocks.symm)
  have hsubject := h.abstractSubject.trans
    ((exists_congr fun _ => hsame _).trans h'.abstractSubject.symm)
  have harguments := h.abstractArguments.trans
    ((exists_congr fun _ => and_congr_left' (hsame _)).trans h'.abstractArguments.symm)
  have hparameterized := h.parameterized.trans ((hsame _).trans h'.parameterized.symm)
  cases k
  cases k'
  simp only [Facts.mk.injEq]
  exact ⟨Bool.eq_iff_iff.2 hconstructor, Bool.eq_iff_iff.2 hfunction, Bool.eq_iff_iff.2 hresult,
    Bool.eq_iff_iff.2 hsubject, Bool.eq_iff_iff.2 harguments, Bool.eq_iff_iff.2 hparameterized⟩

-- ================================================================= needs

/-- A need goes back to notices that ask for it. -/
private theorem Tells.asked_of_needs {f : Framework} {x : Symbol} (h : k.Tells ns)
    (hx : k.needs f x = true) : Asked ns f x.name := by
  cases f with
  | mockito =>
      cases x with
      | runWith | mockitoJUnitRunner | mockField =>
          exact .mockedFields (h.constructorMocks.1 hx) (by decide)
      | mockCall =>
          simp only [needs, Bool.or_eq_true] at hx
          obtain (hfunction | hresult) | hsubject := hx
          · exact .inlineMocks (.inl (h.functionMocks.1 hfunction))
          · exact .inlineMocks (.inr (h.resultMocks.1 hresult))
          · obtain ⟨c, hc⟩ := h.abstractSubject.1 hsubject
            exact .partialMock hc (by decide)
      | mockitoClass =>
          obtain ⟨c, hc⟩ := h.abstractSubject.1 hx
          exact .partialMock hc (by decide)
      | useConstructor =>
          obtain ⟨c, hc, hparams⟩ := h.abstractArguments.1 hx
          exact .arguments hc hparams
      | rule | methodRule | mockitoJUnit =>
          obtain ⟨hconstructor, hrows⟩ := Bool.and_eq_true_iff.1 hx
          exact .rule (h.constructorMocks.1 hconstructor) (h.parameterized.1 hrows) (by decide)
      | _ => cases hx
  | mockk =>
      cases x with
      | mockkInit | mockkField => exact .createdFields (h.constructorMocks.1 hx) (by decide)
      | mockkCall =>
          simp only [needs, Bool.or_eq_true] at hx
          obtain hfunction | hresult := hx
          · exact .createdMocks (.inl (h.functionMocks.1 hfunction))
          · exact .createdMocks (.inr (h.resultMocks.1 hresult))
      | _ => cases hx

/-- What is asked for is needed. -/
theorem Tells.needs_of_asked {f : Framework} {name : String} (h : k.Tells ns)
    (hname : Asked ns f name) : ∃ x, k.needs f x = true ∧ x.name = name := by
  cases hname with
  | mockedFields hmem hname =>
      have hfields := h.constructorMocks.2 hmem
      simp only [List.mem_cons, List.not_mem_nil, or_false] at hname
      obtain rfl | rfl | rfl := hname
      · exact ⟨.runWith, hfields, rfl⟩
      · exact ⟨.mockitoJUnitRunner, hfields, rfl⟩
      · exact ⟨.mockField, hfields, rfl⟩
  | inlineMocks hmem =>
      have hmocks := hmem.imp h.functionMocks.2 h.resultMocks.2
      exact ⟨.mockCall, by simp [needs, hmocks], rfl⟩
  | partialMock hmem hname =>
      have hsubject := h.abstractSubject.2 ⟨_, hmem⟩
      simp only [List.mem_cons, List.not_mem_nil, or_false] at hname
      obtain rfl | rfl := hname
      · exact ⟨.mockCall, by simp [needs, hsubject], rfl⟩
      · exact ⟨.mockitoClass, hsubject, rfl⟩
  | arguments hmem hparams =>
      exact ⟨.useConstructor, h.abstractArguments.2 ⟨_, hmem, hparams⟩, rfl⟩
  | rule hmem hrows hname =>
      have hrule := Bool.and_eq_true_iff.2 ⟨h.constructorMocks.2 hmem, h.parameterized.2 hrows⟩
      simp only [List.mem_cons, List.not_mem_nil, or_false] at hname
      obtain rfl | rfl | rfl := hname
      · exact ⟨.rule, hrule, rfl⟩
      · exact ⟨.methodRule, hrule, rfl⟩
      · exact ⟨.mockitoJUnit, hrule, rfl⟩
  | createdFields hmem hname =>
      have hfields := h.constructorMocks.2 hmem
      simp only [List.mem_cons, List.not_mem_nil, or_false] at hname
      obtain rfl | rfl := hname
      · exact ⟨.mockkInit, hfields, rfl⟩
      · exact ⟨.mockkField, hfields, rfl⟩
  | createdMocks hmem =>
      have hmocks := hmem.imp h.functionMocks.2 h.resultMocks.2
      exact ⟨.mockkCall, by simp [needs, hmocks], rfl⟩

/-- The names of what a framework needs are those it is asked for. -/
theorem Tells.mem_names_iff {f : Framework} {name : String} (h : k.Tells ns) :
    name ∈ (k.required f).map Symbol.name ↔ Asked ns f name := by
  simp only [List.mem_map, mem_required_iff]
  constructor
  · rintro ⟨x, hx, rfl⟩
    exact h.asked_of_needs hx
  · exact h.needs_of_asked

/-- What a framework needs is listed in the order of the names, each one
once. -/
private theorem names_ascending (k : Facts) (f : Framework) :
    ((k.required f).map Symbol.name).Pairwise (· < ·) := by
  have hvocabulary : (f.vocabulary.map Symbol.name).Pairwise (· < ·) := by cases f <;> decide
  exact hvocabulary.sublist (List.filter_sublist.map _)

end Facts

-- ================================================================ ledgers

namespace Ledger

variable {f : Framework} {k k' : Facts} {l l' : Ledger}

/-- That a ledger has in it what follows from the facts: the flags, and
under its own name each symbol that is needed. -/
structure Agrees (f : Framework) (l : Ledger) (k : Facts) : Prop where
  constructorMocks : l.constructorMocks = k.constructorMocks
  parameterized : l.parameterized = k.parameterized
  asked : ∀ name x, l.asked.get? name = some x ↔ k.needs f x = true ∧ x.name = name

/-- Nothing has been asked for at the start, and nothing is needed. -/
private theorem agrees_start (f : Framework) : Agrees f {} {} where
  constructorMocks := rfl
  parameterized := rfl
  asked := by
    intro name x
    have hnone : ({} : Ledger).asked.get? name = none := rfl
    have hneeds : ({} : Facts).needs f x = false := by cases f <;> cases x <;> rfl
    simp [hnone, hneeds]

/-- Symbols that are asked for join those in the ledger, since no two of a
framework share a name. -/
private theorem get?_require {xs : List Symbol} (hxs : ∀ x ∈ xs, x ∈ f.known)
    (hl : ∀ name x, l.asked.get? name = some x → x ∈ f.known ∧ x.name = name)
    (name : String) (x : Symbol) :
    (l.require xs).asked.get? name = some x
      ↔ l.asked.get? name = some x ∨ x ∈ xs ∧ x.name = name := by
  induction xs generalizing l with
  | nil => simp [require]
  | cons y ys ih =>
      obtain ⟨hy, hys⟩ := List.forall_mem_cons.1 hxs
      let l' : Ledger := { l with asked := l.asked.insert y.name y }
      have hget : ∀ key, l'.asked.get? key = if key = y.name then some y else l.asked.get? key :=
        fun key => Table.get?_insert l.asked y.name key y
      have hl' : ∀ key z, l'.asked.get? key = some z → z ∈ f.known ∧ z.name = key := by
        intro key z hz
        rw [hget] at hz
        split at hz
        case isTrue hkey =>
          obtain rfl := Option.some.inj hz
          exact ⟨hy, hkey.symm⟩
        case isFalse => exact hl key z hz
      have hrest : l.require (y :: ys) = l'.require ys := rfl
      rw [hrest, ih hys hl', hget, List.mem_cons]
      -- Under its name the new symbol replaces at most itself.
      by_cases hname : name = y.name
      · subst hname
        have hold : l.asked.get? y.name = some x → x = y := fun hx =>
          Framework.eq_of_name_eq (hl _ x hx).1 hy (hl _ x hx).2
        have hsame : x.name = y.name → x ∈ ys → x = y := fun hx hmem =>
          Framework.eq_of_name_eq (hys x hmem) hy hx
        rw [if_pos rfl, Option.some.injEq, eq_comm (a := y)]
        constructor
        · rintro (rfl | ⟨hmem, hx⟩)
          · exact .inr ⟨.inl rfl, rfl⟩
          · exact .inr ⟨.inr hmem, hx⟩
        · rintro (hx | ⟨rfl | hmem, hx⟩)
          · exact .inl (hold hx)
          · exact .inl rfl
          · exact .inl (hsame hx hmem)
      · have hne : x = y → x.name ≠ name := by
          rintro rfl
          exact Ne.symm hname
        rw [if_neg hname]
        constructor
        · exact Or.imp_right fun h => ⟨.inr h.1, h.2⟩
        · rintro (hx | ⟨rfl | hmem, hx⟩)
          · exact .inl hx
          · exact absurd hx (hne rfl)
          · exact .inr ⟨hmem, hx⟩

/-- A ledger that is asked for what new facts need agrees with them. -/
theorem Agrees.require (h : l.Agrees f k) (xs : List Symbol)
    (hconstructor : l'.constructorMocks = k'.constructorMocks)
    (hparameterized : l'.parameterized = k'.parameterized)
    (hasked : l'.asked = (l.require xs).asked)
    (hneeds : ∀ x, k'.needs f x = true ↔ k.needs f x = true ∨ x ∈ xs) : l'.Agrees f k' := by
  have hknown : ∀ {k : Facts} {x : Symbol}, k.needs f x = true → x ∈ f.known := fun hx =>
    Facts.known_of_mem_required (Facts.mem_required_iff.2 hx)
  refine ⟨hconstructor, hparameterized, fun name x => ?_⟩
  have hxs : ∀ x ∈ xs, x ∈ f.known := fun x hx => hknown ((hneeds x).2 (.inr hx))
  have hl : ∀ name x, l.asked.get? name = some x → x ∈ f.known ∧ x.name = name :=
    fun name x hx => ((h.asked name x).1 hx).imp_left hknown
  rw [hasked, get?_require hxs hl, h.asked, hneeds, or_and_right]

/-- What the rule needs, if both of its conditions hold. -/
def ruleSymbols (l : Ledger) : List Symbol :=
  if l.parameterized && l.constructorMocks then [.rule, .methodRule, .mockitoJUnit] else []

/-- Asking for the rule asks for what it needs at that moment. -/
private theorem requireRule_eq (l : Ledger) : l.requireRule = l.require l.ruleSymbols := by
  unfold requireRule ruleSymbols
  split <;> rfl

/-- One more notice leaves a ledger that agrees with one more fact. -/
theorem Agrees.note (h : l.Agrees f k) (n : Notice) : (l.note f n).Agrees f (k.note n) := by
  obtain ⟨hconstructor, hparameterized, -⟩ := id h
  cases f with
  | mockk =>
      cases n with
      | constructorMocks =>
          refine h.require [.mockkInit, .mockkField] rfl hparameterized rfl fun x => ?_
          cases x <;> simp [Facts.needs, Facts.note]
      | functionMocks | resultMocks =>
          refine h.require [.mockkCall] hconstructor hparameterized rfl fun x => ?_
          cases x <;> simp [Facts.needs, Facts.note]
      | abstractSubject c =>
          refine h.require [] hconstructor hparameterized rfl fun x => ?_
          cases x <;> simp [Facts.needs, Facts.note]
      | parameterized =>
          refine h.require [] hconstructor rfl rfl fun x => ?_
          cases x <;> simp [Facts.needs, Facts.note]
  | mockito =>
      cases n with
      | constructorMocks =>
          -- The rule is due if rows have been noticed before.
          refine h.require ([.runWith, .mockitoJUnitRunner, .mockField]
            ++ if k.parameterized then [.rule, .methodRule, .mockitoJUnit] else [])
            ?_ ?_ ?_ fun x => ?_
          · simp [Ledger.note, requireRule_eq, Ledger.require, Facts.note]
          · simp [Ledger.note, requireRule_eq, Ledger.require, Facts.note, hparameterized]
          · simp [Ledger.note, requireRule_eq, Ledger.require, ruleSymbols, hparameterized]
          · cases hrows : k.parameterized <;> cases x <;> simp [Facts.needs, Facts.note, hrows]
      | functionMocks | resultMocks =>
          refine h.require [.mockCall] hconstructor hparameterized rfl fun x => ?_
          cases x <;> simp [Facts.needs, Facts.note]
      | abstractSubject c =>
          have hnote : l.note .mockito (.abstractSubject c)
              = l.require ([.mockCall, .mockitoClass]
                ++ if c.params.isEmpty then [] else [.useConstructor]) := by
            show (if c.params.isEmpty then l.require [.mockCall, .mockitoClass]
              else (l.require [.mockCall, .mockitoClass]).require [.useConstructor]) = _
            cases c.params.isEmpty <;> rfl
          rw [hnote]
          refine h.require _ hconstructor hparameterized rfl fun x => ?_
          cases hparams : c.params.isEmpty <;> cases x <;>
            simp [Facts.needs, Facts.note, hparams]
      | parameterized =>
          -- It is due as well if the fields have been noticed before.
          refine h.require (if k.constructorMocks then [.rule, .methodRule, .mockitoJUnit] else [])
            ?_ ?_ ?_ fun x => ?_
          · simp [Ledger.note, requireRule_eq, Ledger.require, Facts.note, hconstructor]
          · simp [Ledger.note, requireRule_eq, Ledger.require, Facts.note]
          · simp [Ledger.note, requireRule_eq, Ledger.require, ruleSymbols, hconstructor]
          · cases hfields : k.constructorMocks <;> cases x <;>
              simp [Facts.needs, Facts.note, hfields]

/-- After any notices a ledger agrees with the facts noticed. -/
private theorem agrees_noteAll (f : Framework) (ns : List Notice) :
    (({} : Ledger).noteAll f ns).Agrees f (({} : Facts).noteAll ns) := by
  induction ns using List.reverseRecOn with
  | nil => exact agrees_start f
  | append_singleton ns n ih =>
      rw [noteAll, Facts.noteAll, List.foldl_concat, List.foldl_concat]
      exact ih.note n

/-- The symbols in a ledger are those that the facts need, in the same
order. -/
private theorem Agrees.required_eq (h : l.Agrees f k) : l.required = k.required f := by
  have hnames : l.required.map Symbol.name = l.asked.entries.map Prod.fst := by
    rw [required, Table.values, List.map_map]
    refine List.map_congr_left fun e he => ?_
    have hget := (Table.lookup_eq_some_iff_mem l.asked.names_nodup).2 he
    exact ((h.asked e.1 e.2).1 hget).2
  have hascending : (l.required.map Symbol.name).Pairwise (· < ·) := by
    rw [hnames]
    exact List.pairwise_map.2 l.asked.ascending
  have hmem : ∀ x, x ∈ l.required ↔ x ∈ k.required f := by
    intro x
    rw [Facts.mem_required_iff, required, Table.mem_values_iff]
    simp only [h.asked, exists_and_left, exists_eq', and_true]
  exact (List.pairwise_map.1 hascending).eq_of_mem_iff
    (List.pairwise_map.1 (Facts.names_ascending k f)) hmem

/-- The ledger knows of mocked fields what the facts know. -/
private theorem Agrees.initialises_eq (h : l.Agrees f k) : l.initialises f = k.initialises f := by
  cases f with
  | mockito => rfl
  | mockk => exact h.constructorMocks

/-- Ledgers that agree with the same facts are the same. -/
private theorem Agrees.eq (h : l.Agrees f k) (h' : l'.Agrees f k) : l = l' := by
  have hasked : l.asked = l'.asked := Table.eq_of_get?_eq fun name =>
    Option.ext fun x => (h.asked name x).trans (h'.asked name x).symm
  have hconstructor := h.constructorMocks.trans h'.constructorMocks.symm
  have hparameterized := h.parameterized.trans h'.parameterized.symm
  cases l
  cases l'
  simp only [Ledger.mk.injEq]
  exact ⟨hasked, hconstructor, hparameterized⟩

end Ledger

-- ============================================================= requests

def Request.isReset : Request → Bool
  | .reset => true
  | _ => false

def Request.notice? : Request → Option Notice
  | .notice n => some n
  | _ => none

/-- What has been noticed since the last reset. -/
def noticedIn (rs : List Request) : List Notice :=
  (rs.rtakeWhile (!·.isReset)).filterMap Request.notice?

namespace Workbench

variable (unit : String) (k : Toolkit)

/-- A request keeps the unit and the toolkit. -/
private theorem step_frame (w : Workbench) (r : Request) :
    (w.step r).1.unit = w.unit ∧ (w.step r).1.toolkit = w.toolkit := by
  cases r <;> exact ⟨rfl, rfl⟩

private theorem run_frame (w : Workbench) (rs : List Request) :
    (w.run rs).unit = w.unit ∧ (w.run rs).toolkit = w.toolkit := by
  induction rs generalizing w with
  | nil => exact ⟨rfl, rfl⟩
  | cons r rs ih =>
      obtain ⟨hunit, htoolkit⟩ := ih (w.step r).1
      exact ⟨hunit.trans (step_frame w r).1, htoolkit.trans (step_frame w r).2⟩

/-- After any requests the ledger is the one of the notices since the last
reset. -/
private theorem ledger_run (rs : List Request) :
    ((start unit k).run rs).ledger = ({} : Ledger).noteAll k.framework (noticedIn rs) := by
  -- From the end: a notice comes last on both sides, a reset leaves nothing on either.
  induction rs using List.reverseRecOn with
  | nil => rfl
  | append_singleton rs r ih =>
      rw [run_append]
      cases r with
      | notice n =>
          have hnoticed : noticedIn (rs ++ [.notice n]) = noticedIn rs ++ [n] := by
            rw [noticedIn, List.rtakeWhile_concat_pos _ _ _ rfl, List.filterMap_append]
            rfl
          have htoolkit : ((start unit k).run rs).toolkit = k := (run_frame _ rs).2
          show ((start unit k).run rs).ledger.note ((start unit k).run rs).toolkit.framework n = _
          rw [hnoticed, ih, htoolkit, Ledger.noteAll, Ledger.noteAll, List.foldl_concat]
      | ask q =>
          have hnoticed : noticedIn (rs ++ [.ask q]) = noticedIn rs := by
            rw [noticedIn, List.rtakeWhile_concat_pos _ _ _ rfl, List.filterMap_append]
            exact List.append_nil _
          rw [hnoticed]
          exact ih
      | reset =>
          have hnoticed : noticedIn (rs ++ [.reset]) = [] := by
            rw [noticedIn, List.rtakeWhile_concat_neg _ _ _ (by decide)]
            rfl
          rw [hnoticed]
          rfl

/-- The mocked fields are created where the framework asks for it and
some have been noticed. -/
private theorem initText?_eq_some_iff {w : Workbench} {ns : List Notice} {x : Facts} {f : Framework}
    (hf : w.toolkit.framework = f) (h : w.ledger.Agrees f x) (hx : x.Tells ns) (text : String) :
    w.initText? = some text ↔ f = .mockk ∧ .constructorMocks ∈ ns
      ∧ text = sourceText w.unit [⟨2, Framework.initText⟩] := by
  rw [← hx.constructorMocks, initText?, hf, h.initialises_eq, Framework.initText?,
    Framework.join_initFragments]
  cases f with
  | mockito => simp [Facts.initialises]
  | mockk =>
      have hquestion : x.initialises .mockk = x.constructorMocks := rfl
      rw [hquestion, Option.ite_none_right_eq_some, Option.some.injEq, eq_comm (a := text)]
      exact (and_iff_right rfl).symm

/-- What a framework asks for depends on the set of notices since the last
reset only. The names in its ledger are those that the notices ask for,
each listed once, and they are those of the symbols that the facts noticed
need. The statement that creates mocked fields is there exactly if one of
the notices was about such fields. Requests with the same notices since
their last reset, in any order and number, leave the same workbench. A
question leaves it as it is, and gets the answer it gets at the start. -/
theorem required_run (rs : List Request) :
    let w := (start unit k).run rs
    let ns := noticedIn rs
    (∀ name, name ∈ w.required.map Symbol.name ↔ Asked ns k.framework name)
      ∧ (w.required.map Symbol.name).Pairwise (· < ·)
      ∧ w.required = (({} : Facts).noteAll ns).required k.framework
      ∧ (∀ text, w.initText? = some text ↔ k.framework = .mockk ∧ .constructorMocks ∈ ns
          ∧ text = sourceText unit [⟨2, "MockKAnnotations.init(this, relaxUnitFun = true)"⟩])
      ∧ (∀ qs, (∀ n, n ∈ noticedIn qs ↔ n ∈ ns) → (start unit k).run qs = w)
      ∧ ∀ q, w.step (.ask q) = (w, ((start unit k).step (.ask q)).2) := by
  intro w ns
  have hagrees : ∀ rs, ((start unit k).run rs).ledger.Agrees k.framework
      (({} : Facts).noteAll (noticedIn rs)) := by
    intro rs
    rw [ledger_run]
    exact Ledger.agrees_noteAll k.framework (noticedIn rs)
  have htells : ∀ ns, Facts.Tells (({} : Facts).noteAll ns) ns := Facts.tells_noteAll
  have hrequired : w.required = (({} : Facts).noteAll ns).required k.framework :=
    (hagrees rs).required_eq
  obtain ⟨hunit, htoolkit⟩ : w.unit = unit ∧ w.toolkit = k := run_frame (start unit k) rs
  refine ⟨fun name => ?names, ?ascending, hrequired, fun text => ?created, fun qs hqs => ?same,
    fun q => ?question⟩
  case names =>
    rw [hrequired]
    exact (htells ns).mem_names_iff
  case ascending =>
    rw [hrequired]
    exact Facts.names_ascending _ _
  case created =>
    rw [initText?_eq_some_iff (congrArg Toolkit.framework htoolkit) (hagrees rs) (htells ns), hunit]
    rfl
  case same =>
    obtain ⟨hunit', htoolkit'⟩ := run_frame (start unit k) qs
    have hfacts : ({} : Facts).noteAll (noticedIn qs) = ({} : Facts).noteAll ns :=
      (htells _).eq (htells ns) hqs
    have hledger : ((start unit k).run qs).ledger = w.ledger :=
      (hfacts ▸ hagrees qs).eq (hagrees rs)
    rw [Workbench.mk.injEq]
    exact ⟨hunit'.trans hunit.symm, htoolkit'.trans htoolkit.symm, hledger⟩
  case question => simp only [step, hunit, htoolkit, start]

/-- The same notices twice: once behind a reset and in between a question,
and once in another order and with one of them repeated. -/
theorem required_run_repeated :
    let k : Toolkit := ⟨.mockito, "rule", Registry.standard⟩
    let rows : TypeExpr := .named "Rows" true
    let store : ClassDecl := ⟨"app", ∅, "Store", true, [⟨"rows", rows⟩], []⟩
    let rs : List Request :=
      [.notice .functionMocks, .reset, .notice .parameterized, .ask (.mockCall rows),
       .notice .constructorMocks, .notice (.abstractSubject store)]
    let qs : List Request :=
      [.notice .constructorMocks, .notice (.abstractSubject store), .notice .constructorMocks,
       .notice .parameterized]
    let w := (start "  " k).run rs
    (∀ n, n ∈ noticedIn qs ↔ n ∈ noticedIn rs)
      ∧ (start "  " k).run qs = w
      ∧ w.required.map Symbol.name
        = ["MethodRule", "Mock", "Mockito", "MockitoJUnit", "MockitoJUnitRunner", "Rule",
           "RunWith", "UseConstructor", "mock"]
      ∧ w.step (.ask (.mockCall rows)) = (w, some (.text "mock<Rows>()")) := by
  intro k rows store rs qs w
  obtain ⟨-, -, -, -, hsame, hask⟩ := required_run "  " k rs
  have hnoticed : ∀ n, n ∈ noticedIn qs ↔ n ∈ noticedIn rs := by
    intro n
    show n ∈ [.constructorMocks, .abstractSubject store, .constructorMocks, .parameterized]
      ↔ n ∈ [.parameterized, .constructorMocks, .abstractSubject store]
    simp only [List.mem_cons, List.not_mem_nil, or_false]
    tauto
  have hanswer : ((start "  " k).step (.ask (.mockCall rows))).2 = some (.text "mock<Rows>()") := by
    decide
  exact ⟨hnoticed, hsame qs hnoticed, by decide, (hask (.mockCall rows)).trans
    (congrArg (Prod.mk w) hanswer)⟩

end Workbench

end TestDraft
