/-
What is imported after an item's imports have been gathered, name by
name: the path of the item's own source first, then the known path of
what its tests need, then whatever earlier steps have left
(`get?_gather`). The paths listed are those found under some name, each
once.
-/
import TestDraft.Proofs.Table
import TestDraft.Session.Basic

namespace TestDraft

open Text

/-- A framework knows no two symbols by one name. -/
theorem Framework.eq_of_name_eq {f : Framework} {x y : Symbol} (hx : x ∈ f.known)
    (hy : y ∈ f.known) (h : x.name = y.name) : x = y := by
  have hsome : some x = some y := by
    rw [← symbol?_name hx, ← symbol?_name hy, h]
  exact Option.some.inj hsome

/-- The known path of a name, if one of the symbols goes by it. -/
def Symbol.pathIn? (xs : List Symbol) (name : String) : Option String :=
  (xs.find? (·.name == name)).map Symbol.path

/-- Among symbols of one framework a name stands for one path. -/
theorem Symbol.pathIn?_eq_some_iff {f : Framework} {xs : List Symbol} {name path : String}
    (h : ∀ x ∈ xs, x ∈ f.known) :
    pathIn? xs name = some path ↔ ∃ x ∈ xs, x.name = name ∧ x.path = path := by
  unfold pathIn?
  constructor
  · intro hpath
    obtain ⟨x, hx, rfl⟩ := Option.map_eq_some_iff.1 hpath
    have hname := List.find?_some hx
    exact ⟨x, List.mem_of_find?_eq_some hx, beq_iff_eq.1 hname, rfl⟩
  · rintro ⟨x, hx, rfl, rfl⟩
    obtain ⟨y, hy⟩ : ∃ y, xs.find? (·.name == x.name) = some y :=
      Option.isSome_iff_exists.1 (List.find?_isSome.2 ⟨x, hx, beq_self_eq_true _⟩)
    have hname := List.find?_some hy
    have heq : y = x := Framework.eq_of_name_eq (h y (List.mem_of_find?_eq_some hy)) (h x hx)
      (beq_iff_eq.1 hname)
    rw [hy, heq]
    rfl

private theorem Symbol.pathIn?_eq_none_iff {xs : List Symbol} {name : String} :
    pathIn? xs name = none ↔ ∀ x ∈ xs, x.name ≠ name := by
  simp [pathIn?, List.find?_eq_none]

/-- Symbols that differ in one only know the same paths under all other
names. -/
theorem Symbol.pathIn?_congr {f : Framework} {xs ys : List Symbol} {name : String}
    (hxs : ∀ x ∈ xs, x ∈ f.known) (hys : ∀ y ∈ ys, y ∈ f.known)
    (h : ∀ x, x.name = name → (x ∈ xs ↔ x ∈ ys)) : pathIn? xs name = pathIn? ys name := by
  refine Option.ext fun path => ?_
  rw [pathIn?_eq_some_iff hxs, pathIn?_eq_some_iff hys]
  constructor
  · rintro ⟨x, hx, hname, hpath⟩
    exact ⟨x, (h x hname).1 hx, hname, hpath⟩
  · rintro ⟨x, hx, hname, hpath⟩
    exact ⟨x, (h x hname).2 hx, hname, hpath⟩

/-- The name of a symbol stands for its path wherever the symbol is at
hand. -/
theorem Symbol.pathIn?_name {f : Framework} {xs : List Symbol} {x : Symbol}
    (h : ∀ y ∈ xs, y ∈ f.known) (hx : x ∈ f.known) :
    pathIn? xs x.name = if x ∈ xs then some x.path else none := by
  split
  case isTrue hmem => exact (pathIn?_eq_some_iff h).2 ⟨x, hmem, rfl, rfl⟩
  case isFalse hmem =>
    refine pathIn?_eq_none_iff.2 fun y hy hname => hmem ?_
    exact Framework.eq_of_name_eq (h y hy) hx hname ▸ hy

/-- A list from which repetitions are erased has none. -/
private theorem nodup_eraseDups {α : Type} [BEq α] [LawfulBEq α] (xs : List α) :
    xs.eraseDups.Nodup := by
  match xs with
  | [] => exact List.nodup_nil
  | x :: xs =>
      have hshorter := List.length_filter_le (fun y => !y == x) xs
      rw [List.eraseDups_cons]
      refine List.nodup_cons.2 ⟨fun hmem => ?_, nodup_eraseDups (xs.filter fun y => !y == x)⟩
      have hkept := (List.mem_filter.1 (List.mem_eraseDups.1 hmem)).2
      simp at hkept
termination_by xs.length
decreasing_by
  simp only [List.length_cons]
  omega

namespace Session

-- ============================================================= gathering

/-- Importing known names reports nothing, and finds each of them under
its known path; all other names stay as they are. -/
theorem addImports_known {s : Session} {xs : List Symbol}
    (h : ∀ x ∈ xs, x ∈ s.draft.framework.known) :
    ∃ t, s.addImports (xs.map Symbol.name) = ({ s with imports := t }, [])
      ∧ ∀ name, t.get? name = (Symbol.pathIn? xs name).or (s.imports.get? name) := by
  induction xs generalizing s with
  | nil => exact ⟨s.imports, rfl, fun name => rfl⟩
  | cons y ys ih =>
      have hy : y ∈ s.draft.framework.known := h y List.mem_cons_self
      have hys : ∀ x ∈ ys, x ∈ s.draft.framework.known := fun x hx =>
        h x (List.mem_cons_of_mem y hx)
      have hfirst : s.addImport y.name
          = ({ s with imports := s.imports.insert y.name y.path }, []) := by
        simp only [addImport, Framework.symbol?_name hy]
      obtain ⟨t, ht, hget⟩ := @ih { s with imports := s.imports.insert y.name y.path } hys
      refine ⟨t, ?_, fun name => ?_⟩
      · rw [List.map_cons, addImports, hfirst]
        simp only [ht, List.nil_append]
      · rw [hget name, Table.get?_insert]
        by_cases hname : name = y.name
        · -- A later symbol of this name has the same path.
          subst hname
          rw [if_pos rfl, (Symbol.pathIn?_eq_some_iff h).2 ⟨y, List.mem_cons_self, rfl, rfl⟩]
          cases hlater : Symbol.pathIn? ys y.name with
          | none => rfl
          | some path =>
              obtain ⟨x, hx, hxy, rfl⟩ := (Symbol.pathIn?_eq_some_iff hys).1 hlater
              rw [Framework.eq_of_name_eq (hys x hx) hy hxy]
              rfl
        · have hskip : Symbol.pathIn? (y :: ys) name = Symbol.pathIn? ys name := by
            have hne : (y.name == name) = false := beq_false_of_ne (Ne.symm hname)
            simp only [Symbol.pathIn?, List.find?_cons, hne]
          rw [if_neg hname, hskip]

/-- What an item needs can be imported with the framework at hand. -/
theorem known_of_mem_needs {s : Session} {i : Item} {x : Symbol} (h : x ∈ s.needs i) :
    x ∈ s.draft.framework.known := by
  have htests : x ∈ Symbol.ofTests → x ∈ s.draft.framework.known := List.mem_append_left _
  simp only [needs, List.mem_append] at h
  rcases h with ((h | h) | h) | h
  · exact Facts.known_of_mem_required h
  · apply htests
    cases i with
    | ofClass c =>
        obtain rfl := List.mem_singleton.1 h
        decide
    | ofFile f n => cases h
  · apply htests
    unfold rowNeeds at h
    split at h
    · simp only [List.mem_cons, List.not_mem_nil, or_false] at h
      rcases h with rfl | rfl | rfl <;> decide
    · cases h
  · apply htests
    unfold functionNeeds at h
    split at h
    · cases h
    · rcases List.mem_cons.1 h with rfl | h
      · decide
      · split at h
        · obtain rfl := List.mem_singleton.1 h
          decide
        · cases h

theorem known_of_mem_notice_needs {s : Session} {i : Item} {x : Symbol}
    (h : x ∈ (s.notice i).needs i) : x ∈ s.draft.framework.known :=
  known_of_mem_needs (s := s.notice i) h

/-- Gathering drops nothing, and a name is found under the path of the
item's own source, else under the known one if it is needed, else where
it was. -/
theorem get?_gather (s : Session) (i : Item) :
    (s.gather i).2 = [] ∧ ∀ name, (s.gather i).1.imports.get? name
      = (i.imports.get? name).or
          ((Symbol.pathIn? (s.needs i) name).or (s.imports.get? name)) := by
  have hknown : ∀ x ∈ s.needs i, x ∈ s.draft.framework.known := fun x hx =>
    known_of_mem_needs hx
  obtain ⟨t, ht, hget⟩ := addImports_known hknown
  have hgather : s.gather i = ({ s with imports := t.override i.imports }, []) := by
    simp only [gather, ht]
  rw [hgather]
  refine ⟨rfl, fun name => ?_⟩
  rw [Table.get?_override, hget]

/-- No path is imported twice. -/
theorem paths_nodup (s : Session) : s.paths.Nodup := nodup_eraseDups _

/-- The paths to import are those found under some name. -/
theorem mem_paths_iff {s : Session} {path : String} :
    path ∈ s.paths ↔ ∃ name, s.imports.get? name = some path :=
  List.mem_eraseDups.trans Table.mem_values_iff

end Session

end TestDraft
