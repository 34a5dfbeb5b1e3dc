/-
Work with properties, step by step: values are set one at a time or
several in a row, and settings are made of those that have been accepted.
-/
import TestDraft.Settings.Properties

namespace TestDraft

inductive PropertyStep where
  | set (key : String) (value : PropertyValue)
  /-- Sets several values in order, up to the first one that is refused. -/
  | setAll (entries : List (String × PropertyValue))
  /-- Makes settings. -/
  | settings

namespace Properties

/-- The properties after a step, and what the step gives: the settings,
where they are asked for, or a fault. -/
def step (p : Properties) : PropertyStep → Properties × Except SettingFault (Option Settings)
  | .set key v =>
    match p.set key v with
    | .ok q => (q, .ok none)
    | .error e => (p, .error e)
  | .setAll es =>
    match p.setAll es with
    | (q, none) => (q, .ok none)
    | (q, some e) => (q, .error e)
  | .settings => (p, p.settings.map some)

/-- The properties after several steps. -/
def run (p : Properties) (steps : List PropertyStep) : Properties :=
  steps.foldl (fun p x => (p.step x).1) p

end Properties

end TestDraft
