/-
What a unit of indentation does to a text: it changes how rows begin, and
nothing else.

Writers put the unit wherever they like, also in the middle of what they
write. That it lands in front of lines only is what `lines_run` says: what
a session has appended is, under any unit, the text of the same lines.

A line may hold line breaks of its own, so it makes one row of the text or
several, of which only the first is indented (`Line.parts`). The parts of
all lines know no unit. A text is their rows one under the other, for any
unit that breaks no line (`rows_sourceText`).
-/
import TestDraft.Proofs.Session.Imports

namespace TestDraft

namespace Text

variable {s t : List Char} {unit : String} {l : Line} {ls : List Line} {c : Char}

-- ================================================================== rows

/-- The rows of a text: what stands between its line breaks. -/
def rows (text : String) : List (List Char) := text.toList.splitOn '\n'

/-- A text without a line break belongs to the first row of what follows. -/
private theorem splitOn_append (h : '\n' ∉ s) (t : List Char) :
    (s ++ t).splitOn '\n' = (t.splitOn '\n').modifyHead (s ++ ·) := by
  induction s with
  | nil => exact (congrFun List.modifyHead_id _).symm
  | cons c cs ih =>
      rw [List.mem_cons, not_or] at h
      have hc : ¬(c == '\n') = true := fun heq => h.1 (beq_iff_eq.1 heq).symm
      rw [List.cons_append, List.splitOn_cons_eq_if_modifyHead, if_neg hc, ih h.2,
        List.modifyHead_modifyHead]
      rfl

private theorem rows_break (text rest : String) :
    rows (text ++ "\n" ++ rest) = rows text ++ rows rest := by
  have hbreak : (text ++ "\n" ++ rest).toList = text.toList ++ '\n' :: rest.toList := by simp
  rw [rows, hbreak]
  exact List.splitOn_append_cons_self text.toList rest.toList

/-- A text over and over holds no other characters. -/
private theorem mem_repeated {n : Nat} (h : c ∈ (repeated unit n).toList) : c ∈ unit.toList := by
  induction n with
  | zero =>
      rw [repeated_zero] at h
      cases h
  | succ n ih =>
      rw [repeated_succ, String.toList_append] at h
      rcases List.mem_append.1 h with h | h
      · exact h
      · exact ih h

-- ================================================================= lines

/-- What a line looks like in a text, without its end. -/
def Line.row (unit : String) (l : Line) : List Char := (l.render unit).toList

/-- The rows that a line makes: only the first of them is indented. -/
def Line.parts (l : Line) : List Line :=
  match rows l.text with
  | [] => []
  | r :: rs => ⟨l.depth, String.ofList r⟩ :: rs.map fun r => ⟨0, String.ofList r⟩

private theorem Line.row_eq (unit : String) (l : Line) :
    l.row unit = (repeated unit l.depth).toList ++ l.text.toList := by
  rw [row, render, String.toList_append]

/-- A rendered line is its parts, row by row. -/
private theorem Line.rows_render (h : '\n' ∉ unit.toList) (l : Line) :
    rows (l.render unit) = l.parts.map (·.row unit) := by
  have hunit : '\n' ∉ (repeated unit l.depth).toList := fun hmem => h (mem_repeated hmem)
  rw [rows, render, String.toList_append, splitOn_append hunit, parts, rows]
  cases l.text.toList.splitOn '\n' with
  | nil => rfl
  | cons r rs => simp [row_eq, Function.comp_def]

/-- The rows of a text are those of its lines, and an empty one behind
the last of them. -/
theorem rows_sourceText (h : '\n' ∉ unit.toList) (ls : List Line) :
    rows (sourceText unit ls) = (ls.flatMap Line.parts ++ [Line.blank]).map (·.row unit) := by
  induction ls with
  | nil =>
      show [[]] = [Line.blank.row unit]
      rw [Line.row_eq, Line.blank, repeated_zero]
      rfl
  | cons l ls ih =>
      rw [sourceText, rows_break, Line.rows_render h, ih, ← List.map_append, List.flatMap_cons,
        List.append_assoc]

-- =========================================================== indentation

/-- Whether a character serves to indent: a space or a tab. -/
def isIndent (c : Char) : Bool := c == ' ' || c == '\t'

/-- A row without the spaces and tabs that it begins with. -/
def unindented (row : List Char) : List Char := row.dropWhile isIndent

/-- An indentation unit breaks no line. -/
private theorem not_break_of_indents (h : ∀ c ∈ unit.toList, isIndent c = true) :
    '\n' ∉ unit.toList :=
  fun hmem => absurd (h _ hmem) (by decide)

/-- Of a row, a unit of spaces and tabs changes nothing but these. -/
private theorem Line.unindented_row (h : ∀ c ∈ unit.toList, isIndent c = true) (l : Line) :
    unindented (l.row unit) = unindented l.text.toList := by
  rw [row_eq, unindented, List.dropWhile_append_of_pos fun c hc => h c (mem_repeated hc)]
  rfl

/-- What a text is apart from its indentation does not depend on the
unit. -/
private theorem unindented_sourceText (h : ∀ c ∈ unit.toList, isIndent c = true) (ls : List Line) :
    (rows (sourceText unit ls)).map unindented
      = (ls.flatMap Line.parts ++ [Line.blank]).map fun l => unindented l.text.toList := by
  rw [rows_sourceText (not_break_of_indents h), List.map_map]
  exact List.map_congr_left fun l _ => l.unindented_row h

end Text

namespace Session

open Text

-- ================================================================== runs

/-- A step puts lines behind what has been written, or leaves nothing of
it. -/
private theorem lines_step {s : Session} {ls : List Line}
    (h : ∀ unit, s.text unit = sourceText unit ls)
    (x : Step) : ∃ ms, ∀ unit, (s.step x).1.text unit = sourceText unit ms := by
  cases x with
  | add i =>
      refine ⟨ls ++ (s.written i).lines s.draft.framework, fun unit => ?_⟩
      show (s.add i).1.text unit = _
      rw [text_add, h, sourceText_append]
  | addImport n =>
      have hdraft : (s.addImports [n]).1.draft = s.draft := (addImports_frame s [n]).1
      refine ⟨ls, fun unit => ?_⟩
      show (s.addImports [n]).1.draft.text unit = _
      rw [hdraft]
      exact h unit
  | reset => exact ⟨[], fun unit => rfl⟩
  | read => exact ⟨ls, h⟩

/-- What a session has appended after any steps is the text of some lines,
which do not depend on the unit. -/
theorem lines_run (settings : Settings) (r : Registry) (steps : List Step) :
    ∃ ls, ∀ unit, ((start settings r).1.run steps).text unit = sourceText unit ls := by
  induction steps using List.reverseRecOn with
  | nil => exact ⟨[], fun unit => rfl⟩
  | append_singleton steps x ih =>
      obtain ⟨ls, hls⟩ := ih
      rw [run_append]
      exact lines_step hls x

/-- The unit of indentation changes only how lines begin: with two units
of spaces and tabs, a session gives two texts with the same number of
rows, and the same rows but for the spaces and tabs in front. -/
theorem text_unit (settings : Settings) (r : Registry) (steps : List Step) {u v : String}
    (hu : ∀ c ∈ u.toList, isIndent c = true) (hv : ∀ c ∈ v.toList, isIndent c = true) :
    let s := (start settings r).1.run steps
    (rows (s.text u)).length = (rows (s.text v)).length
      ∧ (rows (s.text u)).map unindented = (rows (s.text v)).map unindented := by
  intro s
  obtain ⟨ls, hls⟩ : ∃ ls, ∀ unit, s.text unit = sourceText unit ls :=
    lines_run settings r steps
  have hrows : (rows (s.text u)).map unindented = (rows (s.text v)).map unindented := by
    rw [hls, hls, unindented_sourceText hu, unindented_sourceText hv]
  have hlength := congrArg List.length hrows
  rw [List.length_map, List.length_map] at hlength
  exact ⟨hlength, hrows⟩

/-- A file with a function, in tabs and without any indentation. The
assertion that stands in its test breaks the line and brings spaces of its
own. -/
theorem text_unit_tabs :
    let settings : Settings :=
      ⟨.mockito, "cut", "actual", "check(\n    actual)", .none, false, "rule"⟩
    let log : FunctionDecl :=
      ⟨"log", false, [⟨"text", .named "String" false⟩], none, .named "Unit" false⟩
    let steps : List Step := [.addImport "Test", .add (.ofFile ⟨"app", ∅, [log]⟩ "Journal")]
    let s := (start settings Registry.standard).1.run steps
    s.text "\t" ≠ s.text ""
      ∧ (rows (s.text "\t")).length = (rows (s.text "")).length
      ∧ (rows (s.text "\t")).map unindented = (rows (s.text "")).map unindented := by
  intro settings log steps s
  have htab : "\t".toList.all isIndent = true := by decide
  have hnone : "".toList.all isIndent = true := by decide
  exact ⟨by decide +kernel, text_unit settings Registry.standard steps
    (List.all_eq_true.1 htab) (List.all_eq_true.1 hnone)⟩

end Session

end TestDraft
