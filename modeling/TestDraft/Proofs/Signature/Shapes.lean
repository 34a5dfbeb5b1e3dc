/-
The shape of an accepted signature shows in its outermost delimiters.

A form that makes one piece is a name, or one bracket with no delimiter
around it (`PieceText`). So an arrow in it stands inside that bracket,
where the depth is not zero (`PieceText.depth_pos`), and whether it has
type arguments shows in what the bracket holds. A function is two such
forms with an arrow between them: this arrow stands at depth zero, and no
other does (`topArrow_iff`).
-/
import TestDraft.Proofs.Signature.Brackets
import TestDraft.Proofs.Signature.Cuts

namespace TestDraft

/-- What kind of type an expression writes. -/
inductive Shape where
  | named
  | generic
  | function
deriving DecidableEq

def TypeExpr.shape : TypeExpr → Shape
  | named _ _ => .named
  | generic _ _ _ => .generic
  | function _ _ _ => .function

end TestDraft

namespace TestDraft.Signature

open Text

variable {s t params between result before after rest front content tail gap : List Char}
  {before' content' after' : List Char} {b b' : Bracket}
  {u v : List Mark} {args : List TypeExpr} {fs : List Form} {f : Form}

-- ================================================================= depth

/-- How many brackets a word opens more than it closes. -/
def depth : List Mark → Int
  | [] => 0
  | .opener _ :: ms => depth ms + 1
  | .closer _ :: ms => depth ms - 1

private theorem depth_append (u v : List Mark) : depth (u ++ v) = depth u + depth v := by
  induction u with
  | nil => simp [depth]
  | cons m ms ih =>
      cases m with
      | opener b =>
          simp only [List.cons_append, depth, ih]
          omega
      | closer b =>
          simp only [List.cons_append, depth, ih]
          omega

/-- The depth is the number of brackets that wait for their closer. -/
private theorem depth_of_stillOpen {opens opens' : List Bracket}
    (h : stillOpen opens u = some opens') :
    opens.length + depth u = opens'.length := by
  induction u generalizing opens with
  | nil =>
      cases h
      simp [depth]
  | cons m ms ih =>
      cases m with
      | opener b =>
          have hrest := @ih (b :: opens) h
          rw [List.length_cons] at hrest
          rw [depth]
          omega
      | closer b =>
          cases opens with
          | nil => cases h
          | cons d opens =>
              rw [stillOpen] at h
              split at h
              case isTrue =>
                have hrest := ih h
                rw [List.length_cons, depth]
                omega
              case isFalse => cases h

/-- Nested marks end at the depth they started from. -/
private theorem Nested.depth_eq_zero (h : Nested u) : depth u = 0 := by
  have hopens := depth_of_stillOpen (h.stillOpen [])
  rw [List.length_nil] at hopens
  omega

/-- Nowhere in a nested word are more brackets closed than opened. -/
private theorem Nested.depth_nonneg (h : Nested (u ++ v)) : 0 ≤ depth u := by
  have hrun := h.stillOpen []
  rw [stillOpen_append] at hrun
  obtain ⟨opens, hopens, -⟩ := Option.bind_eq_some_iff.1 hrun
  have hdepth := depth_of_stillOpen hopens
  rw [List.length_nil] at hdepth
  omega

-- ================================================================ arrows

/-- An arrow in a text, with no bracket open in front of it. -/
structure TopArrow (s before after : List Char) : Prop where
  text : s = before ++ '-' :: '>' :: after
  top : depth (marks before) = 0

/-- Where an arrow stands in a text of two parts: in the first, across
the border, or in the second. -/
private theorem arrow_cases (h : s ++ t = before ++ '-' :: '>' :: rest) :
    (∃ x, s = before ++ '-' :: '>' :: x ∧ rest = x ++ t)
    ∨ s = before ++ ['-'] ∧ t = '>' :: rest
    ∨ ∃ x, before = s ++ x ∧ t = x ++ '-' :: '>' :: rest := by
  rcases List.append_eq_append_iff.1 h with ⟨x, hbefore, ht⟩ | ⟨x, hs, harrow⟩
  · exact .inr (.inr ⟨x, hbefore, ht⟩)
  · cases x with
    | nil =>
        rw [List.append_nil] at hs
        exact .inr (.inr ⟨[], by rw [hs, List.append_nil], harrow.symm⟩)
    | cons c cs =>
        obtain ⟨rfl, hcs⟩ := List.cons.inj harrow
        cases cs with
        | nil => exact .inr (.inl ⟨hs, hcs.symm⟩)
        | cons d ds =>
            obtain ⟨rfl, hds⟩ := List.cons.inj hcs
            exact .inl ⟨ds, hs, hds⟩

/-- Where an arrow stands in a text that begins with one: it is that one,
or stands behind it. -/
private theorem arrow_behind {x : List Char} (h : '-' :: '>' :: t = x ++ '-' :: '>' :: rest) :
    x = [] ∧ rest = t ∨ ∃ y, x = '-' :: '>' :: y ∧ t = y ++ '-' :: '>' :: rest := by
  cases x with
  | nil =>
      cases h
      exact .inl ⟨rfl, rfl⟩
  | cons c cs =>
      obtain ⟨rfl, hcs⟩ := List.cons.inj h
      cases cs with
      | nil => cases hcs
      | cons d ds =>
          obtain ⟨rfl, hds⟩ := List.cons.inj hcs
          exact .inr ⟨ds, rfl, hds⟩

/-- An arrow leaves the depth as it is. -/
private theorem depth_arrow (s t : List Char) :
    depth (marks (s ++ '-' :: '>' :: t)) = depth (marks s) + depth (marks t) := by
  rw [marks, marksAfter_append, marksAfter_arrow, depth_append]
  rfl

/-- The head of an arrow in a text is one of its characters. -/
private theorem arrow_head_mem (h : s = before ++ '-' :: '>' :: rest) : '>' ∈ s := by
  rw [h]
  exact List.mem_append_right _ (List.mem_cons_of_mem _ List.mem_cons_self)

/-- In a bracket with no delimiter around it, arrows stand inside. -/
private theorem Bracketed.depth_pos (h : Bracketed s front b content tail)
    (hfront : ∀ c ∈ front, c ∉ delimiters) (htail : ∀ c ∈ tail, c ∉ delimiters)
    (harrow : s = before ++ '-' :: '>' :: rest) : 0 < depth (marks before) := by
  have hhead : '>' ∈ delimiters := by decide
  have hinside : ∀ x y, content = x ++ y → 0 < depth (marks (front ++ b.opener :: x)) := by
    intro x y hxy
    have hnested := h.nested
    rw [hxy, marks, marksAfter_append] at hnested
    have hx : 0 ≤ depth (marks x) := hnested.depth_nonneg
    rw [marks, marksAfter_append, marksAfter_plain hfront, marksAfter_opener, List.nil_append,
      depth]
    omega
  rw [h.text] at harrow
  rcases arrow_cases harrow with ⟨x, hx, -⟩ | ⟨-, hopener⟩ | ⟨x, rfl, hx⟩
  · exact absurd hhead (hfront _ (arrow_head_mem hx))
  · cases b <;> cases hopener
  · cases x with
    | nil => cases b <;> cases hx
    | cons d ds =>
        obtain ⟨rfl, hds⟩ := List.cons.inj hx
        rcases arrow_cases hds with ⟨y, hy, -⟩ | ⟨hy, -⟩ | ⟨y, rfl, hy⟩
        · exact hinside ds _ hy
        · exact hinside ds _ hy
        · cases y with
          | nil => cases b <;> cases hy
          | cons e es =>
              obtain ⟨rfl, hes⟩ := List.cons.inj hy
              exact absurd hhead (htail _ (arrow_head_mem hes))

-- ================================================================ pieces

/-- The text of one piece, and the arguments of its type: a name, or one
bracket with no delimiter around it. -/
inductive PieceText (s : List Char) (args : List TypeExpr) : Prop
  | name (hs : ∀ c ∈ s, c ∉ delimiters) (hargs : args = [])
  | blank {front gap tail : List Char} (h : Bracketed s front .round gap tail)
      (hfront : ∀ c ∈ front, c ∉ delimiters) (htail : ∀ c ∈ tail, c ∉ delimiters)
      (hgap : AllBlank gap) (hargs : args = [])
  | filled {front content tail : List Char} {b : Bracket} (h : Bracketed s front b content tail)
      (hfront : ∀ c ∈ front, c ∉ delimiters) (htail : ∀ c ∈ tail, c ∉ delimiters)
      (hcontent : ¬AllBlank content) (hargs : args ≠ [])

/-- Every arrow in the text of a piece stands inside its bracket. -/
theorem PieceText.depth_pos (h : PieceText s args) (harrow : s = before ++ '-' :: '>' :: rest) :
    0 < depth (marks before) := by
  cases h with
  | name hs => exact absurd (by decide) (hs _ (arrow_head_mem harrow))
  | blank h hfront htail => exact h.depth_pos hfront htail harrow
  | filled h hfront htail => exact h.depth_pos hfront htail harrow

/-- The only bracket of a text is a round one that holds blanks. -/
def OnlyBlankGroup (s : List Char) : Prop :=
  marks s = [.opener .round, .closer .round]
    ∧ ∃ before gap after, Bracketed s before .round gap after ∧ AllBlank gap

/-- A text with a single round pair has nothing inside the pair or around
it. -/
theorem Bracketed.alone (h : Bracketed s before b content after)
    (hs : marks s = [.opener .round, .closer .round]) :
    b = .round ∧ marks before = [] ∧ marks content = [] ∧ marks after = [] := by
  rw [h.marks_eq] at hs
  have hlength := congrArg List.length hs
  simp only [List.length_append, List.length_cons, List.length_nil] at hlength
  have hbefore : marks before = [] := List.eq_nil_of_length_eq_zero (by omega)
  have hcontent : marks content = [] := List.eq_nil_of_length_eq_zero (by omega)
  have hafter : marks after = [] := List.eq_nil_of_length_eq_zero (by omega)
  rw [hbefore, hcontent, hafter] at hs
  cases hs
  exact ⟨rfl, hbefore, hcontent, hafter⟩

/-- In a text with one bracket there is only one place for it. -/
private theorem Bracketed.content_eq (hs : marks s = [.opener .round, .closer .round])
    (h : Bracketed s before b content after) (h' : Bracketed s before' b' content' after') :
    content' = content := by
  obtain ⟨rfl, hbefore, hcontent, hafter⟩ := h.alone hs
  obtain ⟨rfl, -, -, -⟩ := h'.alone hs
  have hopener : ∀ x, marks x = [] → '(' ∉ x := by
    intro x hx hmem
    have hmark := mem_marksAfter (mark?_opener · .round) hmem none
    rw [← marks, hx] at hmark
    cases hmark
  have hcloser : ∀ x, marks x = [] → ')' ∉ x := by
    intro x hx hmem
    have hmark := mem_marksAfter (m := .closer .round) (fun _ => rfl) hmem none
    rw [← marks, hx] at hmark
    cases hmark
  have hinside : '(' ∉ content ++ ')' :: after := by
    intro hmem
    rcases List.mem_append.1 hmem with hmem | hmem
    · exact hopener _ hcontent hmem
    · rcases List.mem_cons.1 hmem with heq | hmem
      · cases heq
      · exact hopener _ hafter hmem
  have htext := h.text.symm.trans h'.text
  obtain ⟨-, -, hrest⟩ :=
    (List.append_cons_inj_of_notMem (hopener _ hbefore) hinside).1 htext
  obtain ⟨rfl, -, -⟩ :=
    (List.append_cons_inj_of_notMem (hcloser _ hcontent) (hcloser _ hafter)).1 hrest
  rfl

private theorem Bracketed.marks_ne_nil (h : Bracketed s before b content after) : marks s ≠ [] := by
  rw [h.marks_eq]
  exact List.append_ne_nil_of_right_ne_nil _ (List.cons_ne_nil _ _)

/-- Around a bracket without brackets in it, there is no other one. -/
private theorem Bracketed.marks_pair (h : Bracketed s front b gap tail)
    (hfront : ∀ c ∈ front, c ∉ delimiters) (htail : ∀ c ∈ tail, c ∉ delimiters)
    (hgap : AllBlank gap) : marks s = [.opener b, .closer b] := by
  have hnone : ∀ x, (∀ c ∈ x, c ∉ delimiters) → marks x = [] := fun _ => marksAfter_plain
  rw [h.marks_eq, hnone _ hfront, hnone _ htail, hnone _ (plain_of_allBlank hgap)]
  rfl

/-- A piece has arguments exactly if some bracket in its text holds more
than blanks. -/
private theorem PieceText.args_ne_nil_iff (h : PieceText s args) :
    args ≠ [] ↔
      ∃ before b content after, Bracketed s before b content after ∧ ¬AllBlank content := by
  cases h with
  | name hs hargs =>
      refine iff_of_false (not_not_intro hargs) ?_
      rintro ⟨before, b, content, after, h, -⟩
      exact h.marks_ne_nil (marksAfter_plain hs)
  | blank h hfront htail hgap hargs =>
      refine iff_of_false (not_not_intro hargs) ?_
      rintro ⟨before, b, content, after, h', hcontent⟩
      rw [h.content_eq (h.marks_pair hfront htail hgap) h'] at hcontent
      exact hcontent hgap
  | filled h hfront htail hcontent hargs => exact iff_of_true hargs ⟨_, _, _, _, h, hcontent⟩

/-- A piece has no arguments exactly if its text has no bracket, or only
one that holds blanks. -/
private theorem PieceText.args_eq_nil_iff (h : PieceText s args) :
    args = [] ↔ marks s = [] ∨ OnlyBlankGroup s := by
  cases h with
  | name hs hargs => exact iff_of_true hargs (.inl (marksAfter_plain hs))
  | blank h hfront htail hgap hargs =>
      exact iff_of_true hargs (.inr ⟨h.marks_pair hfront htail hgap, _, _, _, h, hgap⟩)
  | filled h hfront htail hcontent hargs =>
      apply iff_of_false hargs
      rintro (hmarks | ⟨hmarks, before, gap, after, h', hgap⟩)
      · exact h.marks_ne_nil hmarks
      · rw [h.content_eq hmarks h'] at hgap
        exact hcontent hgap

-- ============================================================= functions

/-- Between parameters and their arrow there is no bracket, and no head
of another arrow. -/
private theorem plain_between (prev : Option Char)
    (h : between = [] ∨ ∃ bs, between = ',' :: bs ∧ AllBlank bs) :
    marksAfter prev between = [] ∧ '>' ∉ between := by
  rcases h with rfl | ⟨bs, rfl, hbs⟩
  · exact ⟨rfl, List.not_mem_nil⟩
  · have hplain := plain_of_allBlank hbs
    constructor
    · rw [marksAfter, marksAfter_plain hplain]
      rfl
    · intro hmem
      have hhead : '>' ∈ bs := (List.mem_cons.1 hmem).resolve_left (by decide)
      exact absurd (by decide) (hplain _ hhead)

/-- The arrow between parameters and a result is the one at depth zero. -/
theorem topArrow_iff {as : List TypeExpr} (hparams : PieceText params args)
    (hnested : Nested (marks params)) (hresult : PieceText result as)
    (hbetween : between = [] ∨ ∃ bs, between = ',' :: bs ∧ AllBlank bs) :
    TopArrow (params ++ between ++ '-' :: '>' :: result) before after ↔
      before = params ++ between ∧ after = result := by
  have htop : depth (marks (params ++ between)) = 0 := by
    rw [marks, marksAfter_append, (plain_between _ hbetween).1, List.append_nil, ← marks]
    exact hnested.depth_eq_zero
  have hhead : '>' ∉ between := (plain_between none hbetween).2
  constructor
  · intro h
    have hdepth := h.top
    rcases arrow_cases h.text with ⟨x, hx, -⟩ | ⟨hx, hbad⟩ | ⟨x, rfl, hx⟩
    · -- in the parameters or behind them
      rcases arrow_cases hx with ⟨y, hy, -⟩ | ⟨-, hy⟩ | ⟨y, -, hy⟩
      · have hpos := hparams.depth_pos hy
        omega
      · exact absurd (hy ▸ List.mem_cons_self) hhead
      · exact absurd (arrow_head_mem hy) hhead
    · cases hbad
    · -- the arrow between the two, or one in the result
      rcases arrow_behind hx with ⟨rfl, rfl⟩ | ⟨y, rfl, hy⟩
      · exact ⟨List.append_nil _, rfl⟩
      · have hpos := hresult.depth_pos hy
        rw [depth_arrow] at hdepth
        omega
  · rintro ⟨rfl, rfl⟩
    exact ⟨rfl, htop⟩

-- ================================================================= forms

namespace Form

/-- A well-formed form is written with something. -/
private theorem WellFormed.not_allBlank (h : f.WellFormed) : ¬AllBlank f.source := by
  intro hblank
  have hplain := plain_of_allBlank hblank
  cases h with
  | word hrun => exact hrun.nonblank (trim_eq_nil_iff.2 hblank)
  | @group _ _ b => exact hplain b.opener (by simp [source]) (by cases b <;> decide)
  | empty => exact hplain '(' (by simp [source, Bracket.opener]) (by decide)
  | function => exact hplain '>' (by simp [source]) (by decide)

theorem WellFormed.nested (h : f.WellFormed) : Nested (marks f.source) := by
  obtain ⟨m, ps, hleads, -⟩ := h.takenIn_and_argues.2 (.start none) [] rfl rfl
  exact nested_of_leads hleads

/-- A list of well-formed forms is nested as a whole. -/
private theorem nested_sources (h : ∀ f ∈ fs, f.WellFormed) (hne : fs ≠ []) :
    Nested (marks (sources fs)) := by
  have hargues : List.Forall₂ Argues (fs.map source) (fs.map type) := by
    rw [List.forall₂_map_left_iff, List.forall₂_map_right_iff, List.forall₂_same]
    exact fun f hf => (h f hf).takenIn_and_argues.2
  obtain ⟨m, ps, hleads, -⟩ :=
    leads_arguments (.start none) hargues (mt List.map_eq_nil_iff.1 hne) rfl rfl []
  rw [sources_eq_intercalate]
  exact nested_of_leads hleads

private theorem WellFormed.pieceText (h : f.WellFormed) (hp : f.isPiece = true) :
    PieceText f.source f.argTypes := by
  cases h with
  | word hrun =>
      rw [source, argTypes]
      exact .name hrun.plain rfl
  | @group front tail b fs hfront hargs hne hclose htail =>
      rw [source, argTypes, List.append_nil]
      refine .filled ⟨rfl, nested_sources hargs hne, hclose⟩ hfront htail.plain ?_ ?_
      · intro hblank
        obtain ⟨f, hf⟩ := List.exists_mem_of_ne_nil fs hne
        exact (hargs f hf).not_allBlank fun c hc => hblank c ((source_infix_sources hf).mem hc)
      · rw [types_eq_map]
        exact mt List.map_eq_nil_iff.1 hne
  | @empty front gap tail hfront hgap htail =>
      rw [source, argTypes, types, sources, List.nil_append]
      have hnested : Nested (marks gap) := by
        rw [marks, marksAfter_plain (plain_of_allBlank hgap)]
        exact .nil
      have hround : Bracket.round = .angle → gap.getLast? ≠ some '-' := by
        intro hb
        cases hb
      exact .blank ⟨rfl, hnested, hround⟩ hfront htail.plain hgap rfl
  | function => cases hp

end Form

-- ============================================================ signatures

/-- A title with arguments is generic, one without is named. -/
private theorem ofTitle_shape (title : List Char) (args : List TypeExpr) :
    (ofTitle title args).shape = if args = [] then .named else .generic := by
  cases args with
  | nil => rfl
  | cons t ts => rfl

/-- No arrow in the text of a piece stands at depth zero, and the kind of
its type shows in its brackets. -/
private theorem PieceText.shape (h : PieceText s args) (title : List Char) :
    (ofTitle title args).shape ≠ .function
    ∧ (¬∃ before after, TopArrow s before after)
    ∧ ((ofTitle title args).shape = .generic ↔
        ∃ before b content after, Bracketed s before b content after ∧ ¬AllBlank content)
    ∧ ((ofTitle title args).shape = .named ↔ marks s = [] ∨ OnlyBlankGroup s) := by
  have htop : ¬∃ before after, TopArrow s before after := by
    rintro ⟨before, after, harrow⟩
    have hpos := h.depth_pos harrow.text
    have hzero := harrow.top
    omega
  rw [← h.args_ne_nil_iff, ← h.args_eq_nil_iff, ofTitle_shape]
  by_cases hargs : args = []
  · simp [hargs, htop]
  · simp [hargs, htop]

/-- A function has one arrow at depth zero, and what stands behind it
reads as its result. -/
private theorem Form.WellFormed.topArrow {g : Form} (h : (Form.function f between g).WellFormed)
    (hname : (Form.function f between g).type.name ≠ "") :
    (∀ before after, TopArrow (Form.function f between g).source before after ↔
      before = f.source ++ between ∧ after = g.source)
    ∧ ∃ r, Signature.readChars g.source = .ok r
      ∧ (Form.function f between g).type.name = r.name
      ∧ (Form.function f between g).type.nullable = r.nullable := by
  cases h with
  | function hparams hpiece htitle hbetween hresult hpiece' =>
      constructor
      · intro before after
        rw [Form.source]
        exact topArrow_iff (hparams.pieceText hpiece) hparams.nested (hresult.pieceText hpiece')
          hbetween
      · have htype := Form.type_of_isPiece hpiece'
        have hresultName : (Form.function f between g).type.name = g.type.name := by
          rw [Form.type, TypeExpr.name, htype, ofTitle_name, ofTitle_name]
        refine ⟨g.type, ?_, hresultName, ?_⟩
        · rw [hresult.readChars, if_neg (hresultName ▸ hname)]
        · rw [Form.type, TypeExpr.nullable, htype, ofTitle_nullable, ofTitle_nullable]

/-- The type of a signature is told by its outermost delimiters. It is a
function type exactly if an arrow stands at depth zero. There is one such
arrow then, and the text behind it reads as the type by which the
function goes. Without such an arrow the type is generic exactly if some
bracket holds more than blanks, and it is a name alone exactly if there
is no bracket, or only a round one that holds blanks. -/
theorem read_shape {s : String} {t : TypeExpr} (h : read s = .ok t) :
    (t.shape = .function ↔ ∃ before after, TopArrow s.toList before after)
    ∧ (∀ before after, TopArrow s.toList before after →
        (∀ before' after', TopArrow s.toList before' after' → before' = before ∧ after' = after)
        ∧ ∃ r, read (String.ofList after) = .ok r ∧ t.name = r.name ∧ t.nullable = r.nullable)
    ∧ ((¬∃ before after, TopArrow s.toList before after) →
        (t.shape = .generic ↔ ∃ before b content after,
          Bracketed s.toList before b content after ∧ ¬AllBlank content)
        ∧ (t.shape = .named ↔ marks s.toList = [] ∨ OnlyBlankGroup s.toList)) := by
  obtain ⟨f, hwf, hsource, rfl, hname⟩ := readChars_iff_form.1 (read_ok_iff.1 h)
  rw [← hsource]
  by_cases hpiece : f.isPiece = true
  case pos =>
    obtain ⟨hshape, htop, hgeneric, hnamed⟩ := (hwf.pieceText hpiece).shape f.title
    rw [← Form.type_of_isPiece hpiece] at hshape hgeneric hnamed
    refine ⟨iff_of_false hshape htop, ?_, fun _ => ⟨hgeneric, hnamed⟩⟩
    intro before after harrow
    exact absurd ⟨before, after, harrow⟩ htop
  case neg =>
    cases f with
    | word run => exact absurd rfl hpiece
    | group front b args gap tail => exact absurd rfl hpiece
    | function params between result =>
        obtain ⟨htop, r, hr, hrname, hrnullable⟩ := hwf.topArrow hname
        have hexists : ∃ before after,
            TopArrow (Form.function params between result).source before after :=
          ⟨_, _, (htop _ _).2 ⟨rfl, rfl⟩⟩
        refine ⟨iff_of_true (by rw [Form.type, TypeExpr.shape]) hexists, ?_, ?_⟩
        · intro before after harrow
          obtain ⟨rfl, rfl⟩ := (htop _ _).1 harrow
          refine ⟨fun _ _ harrow' => (htop _ _).1 harrow', r, ?_, hrname, hrnullable⟩
          rw [read_ok_iff, String.toList_ofList]
          exact hr
        · intro hnone
          exact absurd hexists hnone

/-- A function among the parameters of another, one in round brackets
behind a name, and round brackets that hold a blank. -/
theorem read_shape_arrows :
    (read "(a: A, (B) -> C), -> D<E> ?"
        = .ok (.function "D" true [.named "A" false, .function "C" false [.named "B" false]])
      ∧ ∃ before after, TopArrow "(a: A, (B) -> C), -> D<E> ?".toList before after)
    ∧ (read "A((B) -> C)" = .ok (.generic "A" false [.function "C" false [.named "B" false]])
      ∧ ∃ before b content after,
        Bracketed "A((B) -> C)".toList before b content after ∧ ¬AllBlank content)
    ∧ (read "A( )?" = .ok (.named "A" true) ∧ OnlyBlankGroup "A( )?".toList) := by
  have hfunction : read "(a: A, (B) -> C), -> D<E> ?"
      = .ok (.function "D" true [.named "A" false, .function "C" false [.named "B" false]]) := by
    decide +kernel
  have hgeneric : read "A((B) -> C)"
      = .ok (.generic "A" false [.function "C" false [.named "B" false]]) := by
    decide +kernel
  have hnamed : read "A( )?" = .ok (.named "A" true) := by decide +kernel
  refine ⟨⟨hfunction, (read_shape hfunction).1.1 rfl⟩, ⟨hgeneric, ?_⟩, hnamed, ?_⟩
  · have htop := mt (read_shape hgeneric).1.2 nofun
    exact ((read_shape hgeneric).2.2 htop).1.1 rfl
  · have htop := mt (read_shape hnamed).1.2 nofun
    exact (((read_shape hnamed).2.2 htop).2.1 rfl).resolve_left (by decide)

end TestDraft.Signature
