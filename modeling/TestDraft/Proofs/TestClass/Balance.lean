/-
The brackets of a test class. Each part of its lines leaves what is due
around it, or moves it by the brackets that the part is there to open or
to close: the class, its constructor, `setUp`, the row of values and each
test are blocks, and so are an attempt, a `with` and an unnamed class
inside of them. A class whose words are well-nested leaves nothing open
(`TestClass.linesDue_lines`).
-/
import TestDraft.Proofs.Declaration.Balance
import TestDraft.Proofs.TestClass.Layout
import TestDraft.Proofs.TestClass.Statements

namespace TestDraft

open Text

variable {due due' due'' : List Char}

-- ================================================================= calls

def Callee.words : Callee → List String
  | .plain | .receiver => []
  | .subject s | .receiverWithin s => [s]

def Call.words (c : Call) : List String :=
  c.function :: c.callee.words ++ c.args.map Argument.text

namespace Call

variable {c : Call}

/-- A call opens and closes the bracket around its arguments. -/
theorem wellNested_bareText (h : AllNested c.words) : WellNested c.bareText := by
  obtain ⟨⟨hfunction, -⟩, hargs⟩ :
      (WellNested c.function ∧ AllNested c.callee.words)
        ∧ AllNested (c.args.map Argument.text) := by
    simpa only [words, allNested_append, allNested_cons] using h
  exact (wellNested_commas hargs).between (closersDue_append_of hfunction rfl) rfl

/-- A call leaves what is due around it; within the object under test it
stands in a block of its own. -/
theorem linesDue_lines {keep : String} (h : AllNested c.words) (hkeep : WellNested keep)
    (depth : Nat) (due : List Char) : linesDue due (c.lines depth keep) = some due := by
  have hbare := wellNested_bareText h
  have hcallee : AllNested c.callee.words := fun w hw =>
    h w (List.mem_append_left _ (List.mem_cons_of_mem _ hw))
  unfold lines
  cases hc : c.callee with
  | plain => exact linesDue_singleton ((hkeep.append hbare).closersDue due)
  | subject s =>
      have hs : WellNested s := hcallee s (hc ▸ List.mem_cons_self)
      exact linesDue_singleton
        (((hkeep.append hs).joined hbare rfl).closersDue due)
  | receiver =>
      have hreceiver : WellNested (keep ++ receiverName) := hkeep.append rfl
      exact linesDue_singleton ((hreceiver.joined hbare rfl).closersDue due)
  | receiverWithin s =>
      have hs : WellNested s := hcallee s (hc ▸ List.mem_cons_self)
      have hopening : closersDue due (keep ++ "with(" ++ s ++ ") \x7b") = some ('\x7d' :: due) := by
        have hwith : closersDue due (keep ++ "with(") = some (')' :: due) :=
          closersDue_append_of (hkeep.closersDue due) rfl
        exact closersDue_append_of (closersDue_append_of hwith (hs.closersDue _)) rfl
      have hcall : WellNested (receiverName ++ "." ++ c.bareText) :=
        WellNested.joined (s := receiverName) rfl hbare rfl
      exact linesDue_cons_of hopening
        (linesDue_cons_of (hcall.closersDue _) (linesDue_singleton rfl))

end Call

-- ============================================================ statements

namespace Statement

def words : Statement → List String
  | verbatim text => [text]
  | gap => []
  | value n v => n :: v.words
  | exception n | lateException n => [n]
  | call keep c => keep.toList ++ c.words
  | attempt keep c caught => caught :: keep.toList ++ c.words
  | sameValue expected actual | sameException expected actual => [expected, actual]

/-- The variable in front of a call has no brackets. -/
private theorem wellNested_keepText {keep : Option String} (h : AllNested keep.toList) :
    WellNested (TestMethod.keepText keep) := by
  cases keep with
  | none => exact rfl
  | some n =>
      have hn : WellNested n := h n List.mem_cons_self
      exact hn.between rfl rfl

/-- A comparison closes its bracket behind the second name. -/
private theorem wellNested_equalityText {expected actual : String}
    (h : AllNested [expected, actual]) :
    WellNested (TestMethod.equalityText expected actual) := by
  have hexpected : WellNested expected := h expected List.mem_cons_self
  have hactual : WellNested actual := h actual (List.mem_cons_of_mem _ List.mem_cons_self)
  have hopening : closersDue [] ("assertEquals(" ++ expected ++ ", ") = some [')'] :=
    closersDue_append_of (closersDue_append_of rfl (hexpected.closersDue _)) rfl
  exact hactual.between hopening rfl

/-- A statement leaves what is due around it. -/
theorem linesDue_lines (f : Framework) {st : Statement} (h : AllNested st.words)
    (due : List Char) : linesDue due (st.lines f) = some due := by
  cases st with
  | verbatim text => exact linesDue_singleton ((h text List.mem_cons_self).closersDue due)
  | gap => rfl
  | value n v =>
      obtain ⟨hn, hv⟩ := allNested_cons.1 h
      have hval : WellNested ("val " ++ n ++ " = ") :=
        hn.between rfl rfl
      exact linesDue_singleton ((hval.append (f.wellNested_valueText hv)).closersDue due)
  | exception n =>
      have hn : WellNested n := h n List.mem_cons_self
      have hval : WellNested ("val " ++ n ++ " = Exception()") :=
        hn.between rfl rfl
      exact linesDue_singleton (hval.closersDue due)
  | lateException n =>
      have hn : WellNested n := h n List.mem_cons_self
      have hvar : WellNested ("lateinit var " ++ n ++ ": Exception") :=
        hn.between rfl rfl
      exact linesDue_singleton (hvar.closersDue due)
  | call keep c =>
      obtain ⟨hkeep, hc⟩ := allNested_append.1 h
      exact c.linesDue_lines hc (wellNested_keepText hkeep) 2 due
  | attempt keep c caught =>
      obtain ⟨hleft, hc⟩ := allNested_append.1 h
      obtain ⟨hcaught, hkeep⟩ := allNested_cons.1 hleft
      have hcall := Call.linesDue_lines hc (wellNested_keepText hkeep) 3 ('\x7d' :: due)
      have hline : WellNested (caught ++ " = exception") := hcaught.append rfl
      have hhandler : linesDue ('\x7d' :: due)
          [⟨2, "\x7d catch (exception: Exception) \x7b"⟩, ⟨3, caught ++ " = exception"⟩,
            ⟨2, "\x7d"⟩] = some due :=
        linesDue_cons_of rfl (linesDue_cons_of (hline.closersDue _) (linesDue_singleton rfl))
      exact linesDue_append_of (linesDue_append_of (linesDue_singleton rfl) hcall) hhandler
  | sameValue expected actual =>
      exact linesDue_singleton ((wellNested_equalityText h).closersDue due)
  | sameException expected actual =>
      exact linesDue_singleton ((wellNested_equalityText h).closersDue due)

end Statement

-- =============================================================== methods

namespace TestMethod

def words (m : TestMethod) : List String :=
  [m.title, m.assertion] ++ m.locals.flatMap (fun l => l.name :: l.value.words)
    ++ m.receiver.toList.flatMap Value.words ++ m.call.words ++ m.actual.toList ++ m.expected.toList

variable {m : TestMethod}

/-- The words of a method, part by part. -/
theorem allNested_words_iff :
    AllNested m.words ↔ WellNested m.title ∧ WellNested m.assertion
      ∧ (∀ l ∈ m.locals, AllNested (l.name :: l.value.words))
      ∧ (∀ v, m.receiver = some v → AllNested v.words) ∧ AllNested m.call.words
      ∧ AllNested m.actual.toList ∧ AllNested m.expected.toList := by
  simp only [words, allNested_append, allNested_cons, allNested_flatMap, Option.mem_toList,
    and_assoc, allNested_nil, true_and]

/-- The words of what a test is given are words of the test. -/
private theorem allNested_given (h : AllNested m.words) : ∀ st ∈ m.given, AllNested st.words := by
  obtain ⟨-, -, hlocals, hreceiver, -, -, -⟩ := allNested_words_iff.1 h
  unfold given
  simp only [List.forall_mem_append, List.forall_mem_map, List.forall_mem_singleton]
  refine ⟨⟨⟨⟨?comment, hlocals⟩, ?receiver⟩, ?exceptions⟩, nofun⟩
  case comment =>
    show AllNested ["// Given"]
    decide
  case receiver =>
    cases hv : m.receiver with
    | none => nofun
    | some v =>
        have hvalue : AllNested (Statement.value receiverName v).words :=
          allNested_cons.2 ⟨rfl, hreceiver v hv⟩
        refine List.forall_mem_append.2 ⟨?_, List.forall_mem_singleton.2 hvalue⟩
        by_cases hnone : m.locals.isEmpty = true
        · rw [if_pos hnone]
          nofun
        · rw [if_neg hnone]
          exact List.forall_mem_singleton.2 nofun
  case exceptions =>
    cases m.capture with
    | none | marked => nofun
    | caught =>
        show ∀ st ∈ [Statement.exception expectedExceptionName,
          .lateException actualExceptionName], AllNested st.words
        decide

/-- So are those of what it calls. -/
private theorem allNested_called (h : AllNested m.words) : ∀ st ∈ m.called, AllNested st.words := by
  obtain ⟨-, -, -, -, hcall, hactual, -⟩ := allNested_words_iff.1 h
  unfold called
  refine List.forall_mem_cons.2 ⟨?comment, List.forall_mem_cons.2 ⟨?call, ?gap⟩⟩
  case comment =>
    show AllNested ["// When"]
    decide
  case call =>
    have hkept : AllNested (m.actual.toList ++ m.call.words) :=
      allNested_append.2 ⟨hactual, hcall⟩
    cases m.capture with
    | none | marked => exact hkept
    | caught => exact allNested_cons.2 ⟨rfl, hkept⟩
  case gap => exact List.forall_mem_singleton.2 nofun

/-- So are those of what it checks. -/
private theorem allNested_checked (h : AllNested m.words) :
    ∀ st ∈ m.checked, AllNested st.words := by
  obtain ⟨-, hassertion, -, -, -, hactual, hexpected⟩ := allNested_words_iff.1 h
  unfold checked
  refine List.forall_mem_append.2 ⟨List.forall_mem_singleton.2 ?comment, ?check⟩
  case comment =>
    show AllNested ["// Then"]
    decide
  case check =>
    cases m.capture with
    | none =>
        have hlast : AllNested [m.assertion] := allNested_cons.2 ⟨hassertion, nofun⟩
        refine List.forall_mem_append.2 ⟨?_, List.forall_mem_singleton.2 hlast⟩
        cases he : m.expected with
        | none => nofun
        | some e =>
            cases ha : m.actual with
            | none => nofun
            | some a =>
                rw [he] at hexpected
                rw [ha] at hactual
                exact List.forall_mem_singleton.2
                  (allNested_cons.2 ⟨hexpected e List.mem_cons_self, hactual⟩)
    | marked =>
        show ∀ st ∈ [Statement.verbatim "// Exception is thrown"], AllNested st.words
        decide
    | caught =>
        show ∀ st ∈ [Statement.sameException expectedExceptionName actualExceptionName],
          AllNested st.words
        decide

/-- A mark closes its own bracket, if it has one. -/
private theorem wellNested_markText (c : Capture) : WellNested (markText c) := by
  cases c <;> decide

/-- A test is a block with statements inside. -/
theorem linesDue_lines (f : Framework) (h : AllNested m.words) (due : List Char) :
    linesDue due (m.lines f) = some due := by
  have hstatements : ∀ st ∈ m.statements, AllNested st.words := by
    intro st hst
    rcases List.mem_append.1 hst with hst | hst
    · rcases List.mem_append.1 hst with hst | hst
      · exact allNested_given h st hst
      · exact allNested_called h st hst
    · exact allNested_checked h st hst
  have htitle : WellNested m.title := h m.title List.mem_cons_self
  have hopening : closersDue due ("fun `" ++ m.title ++ "`() \x7b") = some ('\x7d' :: due) :=
    closersDue_append_of (closersDue_append_of rfl (htitle.closersDue due)) rfl
  have hbody : linesDue ('\x7d' :: due) (m.statements.flatMap (Statement.lines f))
      = some ('\x7d' :: due) :=
    linesDue_flatMap fun st hst => Statement.linesDue_lines f (hstatements st hst) _
  rw [lines_eq]
  have hmark := (wellNested_markText m.capture).closersDue due
  exact linesDue_append_of
    (linesDue_append_of (linesDue_cons_of hmark (linesDue_singleton hopening)) hbody)
    (linesDue_singleton rfl)

end TestMethod

-- =============================================================== columns

namespace Column

def words (c : Column) : List String := c.name :: c.type.words ++ c.value.words

/-- A column has a name and a type. -/
theorem wellNested_text {c : Column} (h : AllNested c.words) : WellNested c.text := by
  obtain ⟨hleft, -⟩ := allNested_append.1 h
  obtain ⟨hname, htype⟩ := allNested_cons.1 hleft
  have hval : WellNested ("private val " ++ c.name ++ ": ") :=
    hname.between rfl rfl
  exact hval.append (TypeExpr.wellNested_text htype)

/-- Several columns stand side by side. -/
theorem linesDue_lines {cs : List Column} (h : ∀ c ∈ cs, AllNested c.words) (due : List Char) :
    linesDue due (lines cs) = some due := by
  induction cs with
  | nil => rfl
  | cons c cs ih =>
      obtain ⟨hc, hcs⟩ := List.forall_mem_cons.1 h
      have htext := wellNested_text hc
      cases cs with
      | nil => exact linesDue_singleton (htext.closersDue due)
      | cons d ds =>
          have hcomma : WellNested (c.text ++ ",") := htext.append rfl
          exact linesDue_cons_of (hcomma.closersDue due) (ih hcs)

/-- The row of values is an object with a call of its own inside. -/
private theorem linesDue_rowLines (f : Framework) {cs : List Column}
    (h : ∀ c ∈ cs, AllNested c.words)
    (due : List Char) : linesDue due (rowLines f cs) = some due := by
  have hvalues : WellNested (commas (cs.map fun c => f.valueText c.value)) := by
    refine wellNested_commas (List.forall_mem_map.2 fun c hc => ?_)
    exact f.wellNested_valueText (allNested_append.1 (h c hc)).2
  have harray : WellNested
      ("arrayOf(" ++ commas (cs.map fun c => f.valueText c.value) ++ ")") :=
    hvalues.between rfl rfl
  have hrow := harray.closersDue (')' :: '\x7d' :: due)
  have hclosing : linesDue (')' :: '\x7d' :: due) [⟨2, ")"⟩, ⟨1, "\x7d"⟩] = some due := rfl
  have hopening : linesDue due
      [⟨1, "companion object \x7b"⟩, ⟨2, "@JvmStatic"⟩, ⟨2, "@Parameters"⟩,
        ⟨2, "fun data(): Collection<Array<*>> = listOf("⟩] = some (')' :: '\x7d' :: due) := rfl
  exact linesDue_append_of hopening (linesDue_cons_of hrow hclosing)

end Column

-- =============================================================== fixture

def Field.words : Field → List String
  | .mock n t => n :: t.words
  | .value n text => [n, text]

/-- A field leaves what is due around it. -/
theorem Field.linesDue_lines (f : Framework) {d : Field} (h : AllNested d.words)
    (due : List Char) : linesDue due (d.lines f) = some due := by
  cases d with
  | mock n t =>
      obtain ⟨hn, ht⟩ := allNested_cons.1 h
      have hvar : WellNested ("private lateinit var " ++ n ++ ": ") :=
        hn.between rfl rfl
      have hmark : WellNested f.fieldMark := by cases f <;> decide
      exact linesDue_cons_of (hmark.closersDue due)
        (linesDue_singleton ((hvar.append (TypeExpr.wellNested_bareText t ht)).closersDue due))
  | value n text =>
      obtain ⟨hn, htext⟩ := allNested_cons.1 h
      have hval : WellNested ("private val " ++ n ++ " = ") :=
        hn.between rfl rfl
      exact linesDue_singleton ((hval.append (htext text List.mem_cons_self)).closersDue due)

def Override.words (o : Override) : List String := o.function.words ++ o.value.words

/-- A function that is filled in closes the bracket around its parameters. -/
theorem Override.wellNested_text (f : Framework) {o : Override} (h : AllNested o.words) :
    WellNested (o.text f) := by
  obtain ⟨hfunction, hvalue⟩ := allNested_append.1 h
  have hparams : WellNested
      (commas (o.function.params.map fun p => p.name ++ ": " ++ p.type.text)) := by
    refine wellNested_commas (List.forall_mem_map.2 fun p hp => ?_)
    have hp := FunctionDecl.allNested_param hfunction hp
    have htype := TypeExpr.wellNested_text (Parameter.allNested_type hp)
    exact (Parameter.wellNested_name hp).joined htype rfl
  have htext : ∀ receiver, WellNested receiver →
      WellNested ("override fun " ++ receiver ++ o.function.name ++ "("
        ++ commas (o.function.params.map fun p => p.name ++ ": " ++ p.type.text)
        ++ ") = " ++ f.valueText o.value) := by
    intro receiver hreceiver
    have hname : WellNested ("override fun " ++ receiver ++ o.function.name) :=
      (hreceiver.after rfl).append (FunctionDecl.wellNested_name hfunction)
    have hsignature : WellNested (_ ++ "(" ++ commas _ ++ ") = ") :=
      hparams.between (closersDue_append_of hname rfl) rfl
    exact hsignature.append (f.wellNested_valueText hvalue)
  unfold text
  cases ht : o.function.receiver with
  | none => exact htext "" rfl
  | some t =>
      have ht := FunctionDecl.allNested_receiver hfunction ht
      exact htext (t.text ++ ".") ((TypeExpr.wellNested_text ht).append rfl)

namespace Creation

def words : Creation → List String
  | construct n as => n :: as
  | partialMock as => as
  | anonymous n as os => n :: as ++ os.flatMap Override.words

/-- The creation of an object leaves what is due around it: an unnamed
class is opened in its first line and closed in its last. -/
private theorem linesDue_creation (f : Framework) {c : Creation} {before : String}
    (h : AllNested c.words) (hbefore : WellNested before) (depth : Nat) (due : List Char) :
    linesDue due (⟨depth, before ++ c.head⟩ :: c.tail f) = some due := by
  cases c with
  | construct n as =>
      obtain ⟨hn, has⟩ := allNested_cons.1 h
      have hhead : WellNested (head (construct n as)) :=
        (wellNested_commas has).between (closersDue_append_of hn rfl) rfl
      exact linesDue_singleton ((hbefore.append hhead).closersDue due)
  | partialMock as =>
      have hhead : WellNested (head (partialMock as)) := by
        cases as with
        | nil => decide
        | cons a as =>
            have hopening : closersDue []
                ("mock(defaultAnswer = Mockito.CALLS_REAL_METHODS, useConstructor = "
                  ++ "UseConstructor.withArguments(") = some [')', ')'] := by decide +kernel
            exact (wellNested_commas h).between hopening rfl
      exact linesDue_singleton ((hbefore.append hhead).closersDue due)
  | anonymous n as os =>
      obtain ⟨hleft, hoverrides⟩ := allNested_append.1 h
      obtain ⟨hn, has⟩ := allNested_cons.1 hleft
      have hhead : closersDue [] (head (anonymous n as os)) = some ['\x7d'] := by
        have hopening : closersDue [] ("object : " ++ n ++ "(") = some [')'] :=
          closersDue_append_of (hn.after rfl) rfl
        exact closersDue_append_of
          (closersDue_append_of hopening ((wellNested_commas has).closersDue _)) rfl
      have hopening : closersDue due (before ++ head (anonymous n as os)) = some ('\x7d' :: due) :=
        closersDue_append_of (hbefore.closersDue due) (closersDue_around hhead due)
      have hbody : linesDue ('\x7d' :: due) (os.map fun o => ⟨3, o.text f⟩)
          = some ('\x7d' :: due) := by
        rw [List.map_eq_flatMap]
        refine linesDue_flatMap fun o ho => linesDue_singleton ?_
        exact (o.wellNested_text f (allNested_flatMap.1 hoverrides o ho)).closersDue _
      exact linesDue_cons_of hopening (linesDue_append_of hbody (linesDue_singleton rfl))

end Creation

namespace Fixture

def words (x : Fixture) : List String :=
  x.subject :: x.type :: x.rule.toList ++ x.fields.flatMap Field.words ++ x.creation.words

/-- `setUp` is a block around the creation of the object under test. -/
theorem linesDue_lines (f : Framework) {x : Fixture} (h : AllNested x.words) (due : List Char) :
    linesDue due (x.lines f) = some due := by
  obtain ⟨hleft, hcreation⟩ := allNested_append.1 h
  obtain ⟨hnames, hfields⟩ := allNested_append.1 hleft
  obtain ⟨hsubject, htyped⟩ := allNested_cons.1 hnames
  obtain ⟨htype, hrule⟩ := allNested_cons.1 htyped
  have hrules : linesDue due (x.rule.toList.flatMap fun r => Framework.ruleLines r ++ [.blank])
      = some due := by
    refine linesDue_flatMap fun r hr => ?_
    have hval : WellNested ("val " ++ r ++ ": MethodRule = MockitoJUnit.rule()") :=
      (hrule r hr).between rfl rfl
    exact linesDue_cons_of rfl (linesDue_cons_of (hval.closersDue due) (linesDue_singleton rfl))
  have hdeclared : linesDue due
      [⟨1, "private lateinit var " ++ x.subject ++ ": " ++ x.type⟩, .blank] = some due := by
    have hvar : WellNested ("private lateinit var " ++ x.subject ++ ": ") :=
      hsubject.between rfl rfl
    exact linesDue_cons_of ((hvar.append htype).closersDue due) (linesDue_singleton rfl)
  have hfields : linesDue due (x.fields.flatMap fun d => d.lines f ++ [.blank]) = some due := by
    refine linesDue_flatMap fun d hd => ?_
    have hd := d.linesDue_lines f (allNested_flatMap.1 hfields d hd) due
    exact linesDue_append_of hd (linesDue_singleton rfl)
  have hinit : linesDue ('\x7d' :: due) (if x.initialises then [initLine] else [])
      = some ('\x7d' :: due) := by
    cases x.initialises <;> rfl
  have hassigned : WellNested (x.subject ++ " = ") := hsubject.append rfl
  have hcreated := Creation.linesDue_creation f hcreation hassigned 2 ('\x7d' :: due)
  rw [lines_eq]
  exact linesDue_append_of
    (linesDue_append_of
      (linesDue_append_of (linesDue_append_of (linesDue_append_of hrules hdeclared) hfields)
        (rfl : linesDue due setUpOpening = some ('\x7d' :: due)))
      hinit)
    (linesDue_append_of hcreated (rfl : linesDue ('\x7d' :: due) setUpClosing = some due))

end Fixture

-- =============================================================== classes

namespace TestClass

def words (t : TestClass) : List String :=
  t.package :: t.name :: t.imports
    ++ t.columns.toList.flatMap (fun cs => cs.flatMap Column.words)
    ++ t.fixture.toList.flatMap Fixture.words ++ t.methods.flatMap TestMethod.words

variable {t : TestClass}

/-- The words of a test class, part by part. -/
theorem allNested_words_iff :
    AllNested t.words ↔ WellNested t.package ∧ WellNested t.name ∧ AllNested t.imports
      ∧ (∀ cs, t.columns = some cs → ∀ c ∈ cs, AllNested c.words)
      ∧ (∀ x, t.fixture = some x → AllNested x.words)
      ∧ ∀ m ∈ t.methods, AllNested m.words := by
  simp only [words, allNested_append, allNested_cons, allNested_flatMap, Option.mem_toList,
    and_assoc]

/-- The lines that open a class open one block. -/
private theorem linesDue_openingLines (hname : WellNested t.name)
    (hcolumns : ∀ cs, t.columns = some cs → ∀ c ∈ cs, AllNested c.words) (due : List Char) :
    linesDue due t.openingLines = some ('\x7d' :: due) := by
  have hclass : WellNested ("class " ++ t.name) := hname.after rfl
  have hplain : linesDue due [⟨0, "class " ++ t.name ++ "Test \x7b"⟩] = some ('\x7d' :: due) :=
    linesDue_singleton (closersDue_append_of (hclass.closersDue due) rfl)
  unfold openingLines
  split
  next => exact hplain
  next => exact hplain
  next cs _ hcs =>
    have hopening : linesDue due [⟨0, "class " ++ t.name ++ "Test("⟩] = some (')' :: due) :=
      linesDue_singleton (closersDue_append_of (hclass.closersDue due) rfl)
    have hparams := Column.linesDue_lines (hcolumns cs hcs) (')' :: due)
    exact linesDue_append_of (linesDue_append_of hopening hparams) (linesDue_singleton rfl)

/-- Blocks with empty lines between them are read block by block. -/
private theorem linesDue_separated {bs : List (List Line)}
    (h : ∀ b ∈ bs, linesDue due b = some due) :
    linesDue due (separated bs) = some due := by
  induction bs with
  | nil => rfl
  | cons b bs ih =>
      obtain ⟨hb, hbs⟩ := List.forall_mem_cons.1 h
      cases bs with
      | nil => exact hb
      | cons d ds => exact linesDue_append_of hb (linesDue_cons_of rfl (ih hbs))

/-- A test class whose words are well-nested is one block with nested
blocks inside. -/
theorem linesDue_lines (f : Framework) (h : AllNested t.words) (due : List Char) :
    linesDue due (t.lines f) = some due := by
  obtain ⟨hpackage, hname, himports, hcolumns, hfixture, hmethods⟩ := allNested_words_iff.1 h
  have hpackaged : linesDue due (packageLines t.package) = some due := by
    have hline : WellNested ("package " ++ t.package) := hpackage.after rfl
    exact linesDue_cons_of (hline.closersDue due) (linesDue_singleton rfl)
  have himported : linesDue due (importBlock t.imports) = some due := by
    have hlisted : linesDue due (t.imports.map importLine) = some due := by
      rw [List.map_eq_flatMap]
      refine linesDue_flatMap fun i hi => linesDue_singleton ?_
      have hline : WellNested ("import " ++ i) := (himports i hi).after rfl
      exact hline.closersDue due
    have hgap : linesDue due (if t.imports.isEmpty then [] else [.blank]) = some due := by
      cases t.imports.isEmpty <;> rfl
    exact linesDue_append_of hlisted hgap
  have hrunner : linesDue due (t.runner.toList.map fun r => ⟨0, r.text⟩) = some due := by
    cases t.runner with
    | none => rfl
    | some r => cases r <;> rfl
  have hrows : linesDue ('\x7d' :: due)
      (t.columns.toList.flatMap fun cs => Column.rowLines f cs ++ [.blank])
        = some ('\x7d' :: due) := by
    refine linesDue_flatMap fun cs hcs => ?_
    have hrow := Column.linesDue_rowLines f (hcolumns cs (Option.mem_toList.1 hcs)) ('\x7d' :: due)
    exact linesDue_append_of hrow (linesDue_singleton rfl)
  have hfixed : linesDue ('\x7d' :: due) (t.fixture.toList.flatMap (Fixture.lines f))
      = some ('\x7d' :: due) :=
    linesDue_flatMap fun x hx => Fixture.linesDue_lines f (hfixture x (Option.mem_toList.1 hx)) _
  have htests : linesDue ('\x7d' :: due) (separated (t.methods.map (TestMethod.lines f)))
      = some ('\x7d' :: due) := by
    refine linesDue_separated (List.forall_mem_map.2 fun m hm => ?_)
    exact TestMethod.linesDue_lines f (hmethods m hm) _
  rw [lines_eq]
  exact linesDue_append_of (linesDue_append_of hpackaged himported)
    (linesDue_append_of
      (linesDue_append_of
        (linesDue_append_of
          (linesDue_append_of hrunner (linesDue_openingLines hname hcolumns due)) hrows)
        hfixed)
      (linesDue_append_of htests (linesDue_singleton rfl)))

end TestClass

end TestDraft
