/-
What resets and reads do to a session. A reset brings back the start,
whatever came before (`Session.reset_run`), and a read leaves no trace
(`Session.run_lasting`), so a session is known by what it was told to add
and to import since the last reset: runs that agree in that end in the
same session, and whoever asks gets the same answers (`Session.report_run`).
-/
import TestDraft.Proofs.Session.History

namespace TestDraft

open Text

/-- Whether a step does something to a session. -/
def Step.lasts : Step → Bool
  | .read => false
  | _ => true

/-- The steps that a session is known by. -/
def lasting (steps : List Step) : List Step := (sinceReset steps).filter Step.lasts

namespace Session

/-- The answers that a session gives: its text, the names of the symbols
that the framework needs, the statement that creates the mocked fields
and the mocking rule. -/
def report (unit : String) (s : Session) :
    String × List String × Option String × Option String :=
  (s.text unit, (s.draft.facts.required s.draft.framework).map Symbol.name,
    s.toolkit.initText? unit s.draft.facts, s.toolkit.ruleText? unit)

-- ================================================================ resets

/-- A reset leaves nothing but the recipe and the choice for rows. -/
private theorem reset_eq (s : Session) :
    s.reset = ⟨Draft.start s.draft.recipe, s.parameterized, ∅⟩ := rfl

/-- A session that is reset is as it was at its start. -/
theorem reset_run (settings : Settings) (registry : Registry) (steps : List Step) :
    ((start settings registry).1.run steps).reset = (start settings registry).1 := by
  rw [reset_eq, run_recipe, run_parameterized]
  rfl

/-- Only the steps after the last reset count. -/
private theorem run_sinceReset (settings : Settings) (registry : Registry) (steps : List Step) :
    (start settings registry).1.run (sinceReset steps)
      = (start settings registry).1.run steps := by
  -- From the end of the run: the last step is a reset, or counts on both sides.
  induction steps using List.reverseRecOn with
  | nil => rfl
  | append_singleton steps x ih =>
      cases hreset : x.isReset with
      | true =>
          obtain rfl : x = .reset := by
            cases x with
            | reset => rfl
            | _ => cases hreset
          rw [sinceReset_reset, run_append]
          exact (reset_run settings registry steps).symm
      | false =>
          have hlast : sinceReset (steps ++ [x]) = sinceReset steps ++ [x] :=
            List.rtakeWhile_concat_pos _ _ _ (by rw [hreset]; rfl)
          rw [hlast, run_append, run_append, ih]

-- ================================================================= reads

/-- A read changes nothing. -/
private theorem step_of_not_lasts (s : Session) {x : Step} (h : x.lasts = false) :
    (s.step x).1 = s := by
  cases x with
  | read => rfl
  | _ => cases h

/-- Reads can be left out of a run. -/
private theorem run_filter_lasts (s : Session) (steps : List Step) :
    s.run (steps.filter Step.lasts) = s.run steps := by
  induction steps generalizing s with
  | nil => rfl
  | cons x xs ih =>
      cases hx : x.lasts with
      | true =>
          rw [List.filter_cons_of_pos hx]
          exact ih (s.step x).1
      | false =>
          have hnext : s.run (x :: xs) = s.run xs :=
            congrArg (fun s => Session.run s xs) (step_of_not_lasts s hx)
          rw [List.filter_cons_of_neg (by rw [hx]; decide), ih s, hnext]

/-- A session is known by what it was told to do since the last reset. -/
theorem run_lasting (settings : Settings) (registry : Registry) (steps : List Step) :
    (start settings registry).1.run (lasting steps)
      = (start settings registry).1.run steps := by
  rw [lasting, run_filter_lasts, run_sinceReset]

/-- Runs with the same steps since the last reset give the same answers,
whatever came before it and wherever they are read in between. A run that
is reset and goes on gives the answers of a session that starts there. -/
theorem report_run (settings : Settings) (registry : Registry) (unit : String) :
    let s := (start settings registry).1
    (∀ xs ys, lasting xs = lasting ys → (s.run xs).report unit = (s.run ys).report unit)
      ∧ (∀ before steps,
          (s.run (before ++ .reset :: steps)).report unit = (s.run steps).report unit)
      ∧ ∀ before after, s.run (before ++ .read :: after) = s.run (before ++ after) := by
  intro s
  refine ⟨fun xs ys h => ?_, fun before steps => ?_, fun before after => ?_⟩
  · have hsession : s.run xs = s.run ys := by
      rw [← run_lasting settings registry xs, h, run_lasting settings registry ys]
    rw [hsession]
  · have hreset : s.run (before ++ .reset :: steps) = s.run steps := by
      rw [run_append]
      exact congrArg (fun s => Session.run s steps) (reset_run settings registry before)
    rw [hreset]
  · rw [run_append, run_append]
    rfl

/-- A class with mocks and an import, forgotten by a reset, and a file
that is added after it and without it. -/
theorem report_run_forgotten_mocks :
    let settings : Settings :=
      { framework := .mockk
        subject := "subject"
        actual := "actual"
        assertion := "TODO()"
        capture := .marked
        parameterized := true
        rule := Settings.standardRule }
    let text : TypeExpr := .named "String" false
    let store : Parameter := ⟨"store", .named "Store" false⟩
    let forget : FunctionDecl := ⟨"forget", false, [store], none, text⟩
    let shout : FunctionDecl := ⟨"shout", false, [⟨"word", text⟩], some text, text⟩
    let words : Step := .add (.ofFile ⟨"app", ∅, [shout]⟩ "Words")
    let xs : List Step :=
      [.add (.ofClass ⟨"app", ∅, "Shelf", true, [store], [forget]⟩), .addImport "MockK", .reset,
       .read, words, .read]
    let s := (start settings Registry.standard).1
    lasting xs = lasting [words]
      ∧ (s.run xs).report "    " = (s.run [words]).report "    "
      ∧ (s.run (xs.take 2)).report "    " ≠ (s.run []).report "    " := by
  intro settings text store forget shout words xs s
  have hlasting : lasting xs = lasting [words] := rfl
  exact ⟨hlasting, (report_run settings Registry.standard "    ").1 xs [words] hlasting,
    by decide +kernel⟩

end Session

end TestDraft
