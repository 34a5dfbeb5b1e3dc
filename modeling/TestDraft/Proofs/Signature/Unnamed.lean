/-
Which accepted signatures yield types without a name.

Reading checks the name of the outermost type only. Further inside a
name is empty wherever the text of a form is a label, a mark or a
bracket and nothing else: `Form.titled` tells from a form whether this
happens, and the equivalence is proved by recursion on the form, in step
with `Form.type`. What no signature yields is a name with an empty list
of type arguments; only a list of parameters may be empty.
-/
import TestDraft.Proofs.Declaration.Balance
import TestDraft.Proofs.Signature.Rows

namespace TestDraft

namespace TypeExpr

mutual

/-- Whether every list of type arguments in a type has a member. -/
def applies : TypeExpr → Bool
  | named _ _ => true
  | generic _ _ args => !args.isEmpty && appliesAll args
  | function _ _ params => appliesAll params

def appliesAll : List TypeExpr → Bool
  | [] => true
  | t :: ts => t.applies && appliesAll ts

end

end TypeExpr

namespace Signature

open Text

/-- The words of a type are the one in its title, and those of its
arguments. -/
private theorem words_ofTitle (title : List Char) (args : List TypeExpr) :
    (ofTitle title args).words
      = String.ofList (splitMark title).1 :: TypeExpr.allWords args := by
  cases args with
  | nil => rw [ofTitle, TypeExpr.words, TypeExpr.allWords]
  | cons a as => rw [ofTitle, TypeExpr.words]; exact nofun

/-- Its arguments apply if they do by themselves. -/
private theorem applies_ofTitle (title : List Char) (args : List TypeExpr) :
    (ofTitle title args).applies = TypeExpr.appliesAll args := by
  cases args with
  | nil => rw [ofTitle, TypeExpr.applies, TypeExpr.appliesAll]
  | cons a as =>
      rw [ofTitle, TypeExpr.applies, List.isEmpty_cons, Bool.not_false, Bool.true_and]
      exact nofun

namespace Form

mutual

/-- Whether every form that stands for a type has a name, which is more
than a label and a mark. -/
def titled : Form → Bool
  | word run => (splitMark (cleanName run)).1 ≠ []
  | group front _ args _ tail =>
    (splitMark (cleanName front ++ trim tail)).1 ≠ [] && titledAll args
  | function params _ result => (splitMark result.title).1 ≠ [] && params.titledArgs

/-- Whether what stands in the brackets of a form has names. -/
def titledArgs : Form → Bool
  | word _ | function _ _ _ => true
  | group _ _ args _ _ => titledAll args

def titledAll : List Form → Bool
  | [] => true
  | f :: fs => f.titled && titledAll fs

end

/-- A type has all its names if its own is there, and those in it are. -/
private theorem notMem_words_iff {name : List Char} {ws : List String} {b : Bool}
    (h : "" ∉ ws ↔ b = true) :
    "" ∉ String.ofList name :: ws ↔ (decide (name ≠ []) && b) = true := by
  rw [List.mem_cons, not_or, h, Bool.and_eq_true, decide_eq_true_iff, eq_comm, ne_eq,
    String.ofList_eq_empty_iff]

private theorem notMem_allWords_nil : "" ∉ TypeExpr.allWords [] ↔ true = true := by
  rw [TypeExpr.allWords]
  exact ⟨fun _ => rfl, fun _ => List.not_mem_nil⟩

mutual

/-- The types of a form have the names that the form has. -/
private theorem words_iff_titled : (f : Form) → ("" ∉ f.type.words ↔ f.titled = true)
  | word run => by
    rw [type, words_ofTitle, titled, ← Bool.and_true (decide _)]
    exact notMem_words_iff notMem_allWords_nil
  | group _ _ args _ _ => by
    rw [type, words_ofTitle, titled]
    exact notMem_words_iff (allWords_iff_titled args)
  | function params _ result => by
    rw [type, TypeExpr.words, ofTitle_name, titled]
    exact notMem_words_iff (argWords_iff_titled params)

/-- The arguments of a form have no empty name if what they come from has
titles. By recursion on forms, together with the next one. -/
private theorem argWords_iff_titled :
    (f : Form) → ("" ∉ TypeExpr.allWords f.argTypes ↔ f.titledArgs = true)
  | word _ | function _ _ _ => by
    rw [argTypes, titledArgs]
    exact notMem_allWords_nil
  | group _ _ args _ _ => by
    rw [argTypes, titledArgs]
    exact allWords_iff_titled args

/-- The same for the types of several forms. -/
private theorem allWords_iff_titled :
    (fs : List Form) → ("" ∉ TypeExpr.allWords (types fs) ↔ titledAll fs = true)
  | [] => by
    rw [types, titledAll]
    exact notMem_allWords_nil
  | f :: fs => by
    rw [types, TypeExpr.allWords, titledAll, List.mem_append, not_or, words_iff_titled f,
      allWords_iff_titled fs, Bool.and_eq_true]

end

mutual

/-- No list of type arguments in the type of a form is empty. -/
private theorem applies_type : (f : Form) → f.type.applies = true
  | word run => by rw [type, applies_ofTitle, TypeExpr.appliesAll]
  | group _ _ args _ _ => by rw [type, applies_ofTitle, appliesAll_types args]
  | function params _ _ => by rw [type, TypeExpr.applies, appliesAll_argTypes params]

/-- No form makes a generic type without arguments. By recursion on forms,
together with the next one. -/
private theorem appliesAll_argTypes : (f : Form) → TypeExpr.appliesAll f.argTypes = true
  | word _ | function _ _ _ => by rw [argTypes, TypeExpr.appliesAll]
  | group _ _ args _ _ => by rw [argTypes, appliesAll_types args]

/-- The same for the types of several forms. -/
private theorem appliesAll_types : (fs : List Form) → TypeExpr.appliesAll (types fs) = true
  | [] => by rw [types, TypeExpr.appliesAll]
  | f :: fs => by
    rw [types, TypeExpr.appliesAll, applies_type f, appliesAll_types fs, Bool.and_true]

end

end Form

/-- The outermost type of an accepted signature has a name, and no list
of type arguments is empty. All types in it have names exactly if all
forms in the signature have them. -/
theorem read_names {s : String} {t : TypeExpr} (h : read s = .ok t) :
    t.name ≠ "" ∧ t.applies = true ∧ (∃ f : Form, f.WellFormed ∧ f.source = s.toList) ∧
    ∀ f : Form, f.WellFormed → f.source = s.toList → ("" ∉ t.words ↔ f.titled = true) := by
  have hread := read_ok_iff.1 h
  obtain ⟨f, hf, hsource, rfl, hname⟩ := readChars_iff_form.1 hread
  refine ⟨hname, f.applies_type, ⟨f, hf, hsource⟩, fun g hg hsource' => ?_⟩
  rw [← hsource'] at hread
  rw [← hg.type_eq hread]
  exact g.words_iff_titled

/-- A nullable function type in brackets of its own is read as a type
without a name. -/
theorem read_names_bracketed_function :
    ∃ f : Form, read "List<((Int) -> Unit)?>"
        = .ok (.generic "List" false
          [.generic "" true [.function "Unit" false [.named "Int" false]]])
      ∧ f.WellFormed ∧ f.source = "List<((Int) -> Unit)?>".toList ∧ f.titled = false
      ∧ ("" ∉ TypeExpr.words
          (.generic "List" false [.generic "" true [.function "Unit" false [.named "Int" false]]])
        ↔ f.titled = true) := by
  let params : Form := .group [] .round [.word "Int".toList] [] [' ']
  let inner : Form := .group [] .round [.function params [] (.word " Unit".toList)] [] ['?']
  let f : Form := .group "List".toList .angle [inner] [] []
  have hname : (Form.word "Int".toList).WellFormed ∧ (Form.word " Unit".toList).WellFormed :=
    ⟨.word ⟨notMem_of_all (by decide), by decide, by decide⟩,
      .word ⟨notMem_of_all (by decide), by decide, by decide⟩⟩
  have hparams : params.WellFormed :=
    .group (List.forall_mem_nil _) (List.forall_mem_singleton.2 hname.1) (List.cons_ne_nil _ _)
      nofun ⟨notMem_of_all (by decide), .inl rfl⟩
  have hfunction : (Form.function params [] (.word " Unit".toList)).WellFormed :=
    .function hparams rfl rfl (.inl rfl) hname.2 rfl
  have hinner : inner.WellFormed :=
    .group (List.forall_mem_nil _) (List.forall_mem_singleton.2 hfunction) (List.cons_ne_nil _ _)
      nofun ⟨notMem_of_all (by decide), .inr rfl⟩
  have hf : f.WellFormed :=
    .group (notMem_of_all (by decide)) (List.forall_mem_singleton.2 hinner) (List.cons_ne_nil _ _)
      (fun _ => by decide) ⟨List.forall_mem_nil _, .inl rfl⟩
  have hread : read "List<((Int) -> Unit)?>"
      = .ok (.generic "List" false
        [.generic "" true [.function "Unit" false [.named "Int" false]]]) := by
    decide +kernel
  have hsource : f.source = "List<((Int) -> Unit)?>".toList := by decide
  exact ⟨f, hread, hf, hsource, by decide, (read_names hread).2.2.2 f hf hsource⟩

end Signature

end TestDraft
