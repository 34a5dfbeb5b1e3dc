/-
Test methods as rows of statements. The lines of a method are those of
its statements, between the line that names it and the one that closes
it (`TestMethod.lines_eq`), so what is to be shown of all methods is
shown once for each kind of statement.
-/
import TestDraft.TestClass.Method

namespace TestDraft

open Text

-- ============================================================ statements

/-- A statement of a test method. -/
inductive Statement where
  /-- A comment, or an assertion from outside. -/
  | verbatim (text : String)
  | gap
  /-- A variable with a value. -/
  | value (name : String) (value : Value)
  /-- A variable with a new exception. -/
  | exception (name : String)
  /-- A variable that gets an exception later. -/
  | lateException (name : String)
  /-- A call, and the variable that keeps what it gives. -/
  | call (keep : Option String) (call : Call)
  /-- A call, and the variable that gets what it throws. -/
  | attempt (keep : Option String) (call : Call) (caught : String)
  /-- The comparison of an expected value with the one a call gives. -/
  | sameValue (expected actual : String)
  | sameException (expected actual : String)

namespace Statement

def lines (f : Framework) : Statement → List Line
  | verbatim text => [⟨2, text⟩]
  | gap => [.blank]
  | value n v => [TestMethod.valLine f n v]
  | exception n => [⟨2, "val " ++ n ++ " = Exception()"⟩]
  | lateException n => [⟨2, "lateinit var " ++ n ++ ": Exception"⟩]
  | call keep c => c.lines 2 (TestMethod.keepText keep)
  | attempt keep c caught =>
    [⟨2, "try \x7b"⟩]
      ++ c.lines 3 (TestMethod.keepText keep)
      ++ [⟨2, "\x7d catch (exception: Exception) \x7b"⟩, ⟨3, caught ++ " = exception"⟩,
        ⟨2, "\x7d"⟩]
  | sameValue expected actual => [⟨2, TestMethod.equalityText expected actual⟩]
  | sameException expected actual => [⟨2, TestMethod.equalityText expected actual⟩]

/-- A statement stands deeper than the line that names its method. -/
theorem deep (f : Framework) (st : Statement) : ∀ l ∈ st.lines f, l = .blank ∨ 2 ≤ l.depth := by
  have hcall : ∀ {depth keep} {c : Call}, 2 ≤ depth → ∀ l ∈ c.lines depth keep, 2 ≤ l.depth := by
    intro depth keep c hdepth
    unfold Call.lines
    split <;> simp [hdepth]
  cases st with
  | call keep c => exact fun l hl => Or.inr (hcall (by decide) l hl)
  | attempt keep c caught =>
      simp only [lines, List.forall_mem_append]
      exact ⟨⟨by simp, fun l hl => Or.inr (hcall (by decide) l hl)⟩, by simp⟩
  | verbatim | gap | value | exception | lateException | sameValue | sameException =>
      simp [lines, TestMethod.valLine]

end Statement

namespace TestMethod

variable (m : TestMethod)

/-- What is given to the call. -/
def given : List Statement :=
  [.verbatim "// Given"]
    ++ m.locals.map (fun l => .value l.name l.value)
    ++ (match m.receiver with
      | none => []
      | some v => (if m.locals.isEmpty then [] else [.gap]) ++ [.value receiverName v])
    ++ (match m.capture with
      | .caught => [.exception expectedExceptionName, .lateException actualExceptionName]
      | _ => [])
    ++ [.gap]

/-- The call. -/
def called : List Statement :=
  [.verbatim "// When",
   match m.capture with
   | .caught => .attempt m.actual m.call actualExceptionName
   | _ => .call m.actual m.call,
   .gap]

/-- What is looked at in the end. -/
def checked : List Statement :=
  [.verbatim "// Then"]
    ++ (match m.capture with
      | .none =>
        (match m.expected, m.actual with
          | some e, some a => [.sameValue e a]
          | _, _ => []) ++ [.verbatim m.assertion]
      | .marked => [.verbatim "// Exception is thrown"]
      | .caught => [.sameException expectedExceptionName actualExceptionName])

def statements : List Statement := m.given ++ m.called ++ m.checked

/-- What a test method writes first are its given statements. -/
private theorem givenLines_eq (f : Framework) :
    m.givenLines f = m.given.flatMap (Statement.lines f) := by
  have hlocals : m.locals.map (fun l => valLine f l.name l.value)
      = (m.locals.map fun l => Statement.value l.name l.value).flatMap (Statement.lines f) := by
    rw [List.flatMap_map, List.map_eq_flatMap]
    rfl
  unfold givenLines given
  simp only [List.flatMap_append, hlocals]
  congr 2
  · congr 1
    cases m.receiver with
    | none => rfl
    | some v => cases m.locals <;> rfl
  · cases m.capture <;> rfl

/-- Then come its calls. -/
private theorem whenLines_eq (f : Framework) :
    m.whenLines = m.called.flatMap (Statement.lines f) := by
  unfold whenLines called
  cases m.capture <;> simp [Statement.lines]

/-- Its comparisons come last. -/
private theorem thenLines_eq (f : Framework) :
    m.thenLines = m.checked.flatMap (Statement.lines f) := by
  unfold thenLines checked compared
  cases m.capture with
  | none => cases m.expected <;> cases m.actual <;> rfl
  | marked => rfl
  | caught => rfl

/-- The lines of a method are those of its statements, between the line
that names it and the one that closes it. -/
theorem lines_eq (f : Framework) :
    m.lines f = [⟨1, markText m.capture⟩, ⟨1, "fun `" ++ m.title ++ "`() \x7b"⟩]
      ++ m.statements.flatMap (Statement.lines f) ++ [⟨1, "\x7d"⟩] := by
  unfold lines statements
  rw [givenLines_eq, whenLines_eq m f, thenLines_eq m f, List.flatMap_append, List.flatMap_append]
  simp only [List.append_assoc]

/-- A method stands inside its class. -/
theorem inside (f : Framework) : ∀ l ∈ m.lines f, l = .blank ∨ 1 ≤ l.depth := by
  rw [lines_eq]
  simp only [List.forall_mem_append, List.forall_mem_flatMap]
  refine ⟨⟨by simp, fun st _ l hl => ?_⟩, by simp⟩
  exact (st.deep f l hl).imp_right fun h => Nat.le_of_succ_le h

/-- Of what is looked for outside of methods, a method has only the lines
that name and close it. -/
theorem filter_lines {p : Line → Bool} (hblank : p .blank = false)
    (hdeep : ∀ l : Line, 2 ≤ l.depth → p l = false) (f : Framework) :
    (m.lines f).filter p
      = [⟨1, markText m.capture⟩, ⟨1, "fun `" ++ m.title ++ "`() \x7b"⟩, ⟨1, "\x7d"⟩].filter p := by
  have hinside : (m.statements.flatMap (Statement.lines f)).filter p = [] := by
    refine List.filter_eq_nil_iff.2 fun l hl => ?_
    obtain ⟨st, -, hl⟩ := List.mem_flatMap.1 hl
    obtain rfl | h := st.deep f l hl
    · simp [hblank]
    · simp [hdeep l h]
  rw [lines_eq, List.filter_append, List.filter_append, hinside, List.append_nil,
    ← List.filter_append]
  rfl

end TestMethod

end TestDraft
