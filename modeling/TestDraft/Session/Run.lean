/-
Runs of a session, step by step.
-/
import TestDraft.Session.Basic

namespace TestDraft

/-- A step of a session. -/
inductive Step where
  | add (item : Item)
  /-- Imports a name, if it is known. -/
  | addImport (name : String)
  /-- Forgets all that came before. -/
  | reset
  | read

namespace Session

/-- The session after a step, and what the step reports. -/
def step (s : Session) : Step → Session × List Event
  | .add i => s.add i
  | .addImport n => s.addImport n
  | .reset => (s.reset, [])
  | .read => (s, [])

/-- The session after several steps. -/
def run (s : Session) (steps : List Step) : Session :=
  steps.foldl (fun s x => (s.step x).1) s

theorem run_append (s : Session) (xs ys : List Step) :
    s.run (xs ++ ys) = (s.run xs).run ys := List.foldl_append ..

end Session

end TestDraft
