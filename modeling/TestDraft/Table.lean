/-
Tables from names to values. The last value written under a name is the
one that counts, and the names are kept in order, so two tables that
give every name the same value are equal.
-/

namespace TestDraft

/-- A finite map from names to values. -/
structure Table (α : Type) where
  entries : List (String × α)
  /-- The names ascend, so none of them occurs twice. -/
  ascending : entries.Pairwise (fun a b => a.1 < b.1)
deriving DecidableEq

namespace Table

variable {α : Type}

-- =============================================================== writing

/-- Puts a value under a name into entries with ascending names. -/
def place (name : String) (value : α) : List (String × α) → List (String × α)
  | [] => [(name, value)]
  | e :: es =>
    if e.1 < name then e :: place name value es
    else if e.1 = name then (name, value) :: es
    else (name, value) :: e :: es

/-- An entry is the one just written, or an old one. -/
theorem mem_place {name : String} {value : α} {es : List (String × α)}
    {e : String × α} (h : e ∈ place name value es) : e = (name, value) ∨ e ∈ es := by
  induction es with
  | nil => simpa [place] using h
  | cons d ds ih =>
    simp only [place] at h
    split at h
    · rcases List.mem_cons.1 h with rfl | h
      · simp
      · rcases ih h with rfl | h <;> simp [*]
    · split at h
      · rcases List.mem_cons.1 h with rfl | h <;> simp [*]
      · rcases List.mem_cons.1 h with rfl | h
        · simp
        · exact Or.inr h

/-- Writing keeps the names in order. -/
theorem ascending_place (name : String) (value : α) {es : List (String × α)}
    (h : es.Pairwise (fun a b => a.1 < b.1)) :
    (place name value es).Pairwise (fun a b => a.1 < b.1) := by
  induction es with
  | nil => simp [place]
  | cons e es ih =>
    obtain ⟨he, hes⟩ := List.pairwise_cons.1 h
    simp only [place]
    split
    case isTrue hlt =>
      refine List.pairwise_cons.2 ⟨fun d hd => ?_, ih hes⟩
      rcases mem_place hd with rfl | hd
      · exact hlt
      · exact he d hd
    case isFalse hnlt =>
      split
      case isTrue heq => exact List.pairwise_cons.2 ⟨fun d hd => heq ▸ he d hd, hes⟩
      case isFalse hne =>
        have hlt : name < e.1 := by
          rcases Std.lt_trichotomy name e.1 with h' | h' | h'
          · exact h'
          · exact absurd h'.symm hne
          · exact absurd h' hnlt
        refine List.pairwise_cons.2 ⟨fun d hd => ?_, h⟩
        rcases List.mem_cons.1 hd with rfl | hd
        · exact hlt
        · exact String.lt_trans hlt (he d hd)

def empty : Table α := ⟨[], List.Pairwise.nil⟩

instance : EmptyCollection (Table α) := ⟨empty⟩

/-- The table with a value written under a name. -/
def insert (t : Table α) (name : String) (value : α) : Table α :=
  ⟨place name value t.entries, ascending_place name value t.ascending⟩

/-- The table with all entries of another one written over it. -/
def override (t u : Table α) : Table α :=
  u.entries.foldl (fun t e => t.insert e.1 e.2) t

/-- The table of a list of entries, the last one under a name counting. -/
def ofList (es : List (String × α)) : Table α :=
  es.foldl (fun t e => t.insert e.1 e.2) empty

-- =============================================================== reading

def get? (t : Table α) (name : String) : Option α := t.entries.lookup name

/-- The values, in the order of their names. -/
def values (t : Table α) : List α := t.entries.map Prod.snd

/-- Looking up a name looks at the first entry first. -/
theorem lookup_entry (key name : String) (value : α) (es : List (String × α)) :
    ((name, value) :: es).lookup key = if key = name then some value else es.lookup key := by
  by_cases h : key = name
  · simp [h]
  · simp [List.lookup_cons, h, beq_false_of_ne h]

/-- Looking up a name after writing, entry by entry. -/
theorem lookup_place (name key : String) (value : α) (es : List (String × α)) :
    (place name value es).lookup key = if key = name then some value else es.lookup key := by
  induction es with
  | nil => rw [place, lookup_entry]
  | cons e es ih =>
    obtain ⟨n, v⟩ := e
    by_cases hlt : n < name
    · have hne : n ≠ name := by rintro rfl; exact String.lt_irrefl _ hlt
      simp only [place, hlt, if_true, lookup_entry, ih]
      by_cases h : key = n
      · simp [h, hne]
      · simp [h]
    · by_cases heq : n = name
      · subst heq
        simp only [place, hlt, if_false, if_true, lookup_entry]
        split <;> rfl
      · simp only [place, hlt, heq, if_false, lookup_entry]

/-- What was written last is read back, and nothing else changes. -/
theorem get?_insert (t : Table α) (name key : String) (value : α) :
    (t.insert name value).get? key = if key = name then some value else t.get? key :=
  lookup_place name key value t.entries

-- ============================================================== equality

/-- A name in front of all others has no entry. -/
theorem lookup_eq_none_of_lt {key : String} {es : List (String × α)}
    (h : ∀ e ∈ es, key < e.1) : es.lookup key = none := by
  induction es with
  | nil => rfl
  | cons e es ih =>
    obtain ⟨n, v⟩ := e
    have hne : key ≠ n := fun heq =>
      String.lt_irrefl n (heq ▸ h (n, v) (List.mem_cons_self ..))
    rw [lookup_entry, if_neg hne]
    exact ih fun e he => h e (List.mem_cons_of_mem _ he)

/-- Entries with ascending names are settled by what is found in them. -/
theorem entries_eq_of_lookup_eq {es ds : List (String × α)}
    (hes : es.Pairwise (fun a b => a.1 < b.1)) (hds : ds.Pairwise (fun a b => a.1 < b.1))
    (h : ∀ key, es.lookup key = ds.lookup key) : es = ds := by
  induction es generalizing ds with
  | nil =>
    cases ds with
    | nil => rfl
    | cons d ds =>
      have hd := h d.1
      rw [lookup_entry, if_pos rfl] at hd
      cases hd
  | cons e es ih =>
    cases ds with
    | nil =>
      have he := h e.1
      rw [lookup_entry, if_pos rfl] at he
      cases he
    | cons d ds =>
      obtain ⟨n, v⟩ := e
      obtain ⟨m, w⟩ := d
      obtain ⟨hn, hes'⟩ := List.pairwise_cons.1 hes
      obtain ⟨hm, hds'⟩ := List.pairwise_cons.1 hds
      have heq : n = m := by
        rcases Std.lt_trichotomy n m with hlt | heq | hlt
        · have hnone : ((m, w) :: ds).lookup n = none := by
            apply lookup_eq_none_of_lt
            intro e he
            rcases List.mem_cons.1 he with rfl | he
            · exact hlt
            · exact String.lt_trans hlt (hm e he)
          have hsome := h n
          rw [hnone, lookup_entry, if_pos rfl] at hsome
          cases hsome
        · exact heq
        · have hnone : ((n, v) :: es).lookup m = none := by
            apply lookup_eq_none_of_lt
            intro e he
            rcases List.mem_cons.1 he with rfl | he
            · exact hlt
            · exact String.lt_trans hlt (hn e he)
          have hsome := h m
          rw [hnone, lookup_entry, if_pos rfl] at hsome
          cases hsome
      subst heq
      have hvw : v = w := by
        have hval := h n
        rw [lookup_entry, lookup_entry, if_pos rfl, if_pos rfl] at hval
        exact Option.some.inj hval
      subst hvw
      have htail : ∀ key, es.lookup key = ds.lookup key := by
        intro key
        by_cases hkey : key = n
        · subst hkey
          rw [lookup_eq_none_of_lt hn, lookup_eq_none_of_lt hm]
        · have hk := h key
          rwa [lookup_entry, lookup_entry, if_neg hkey, if_neg hkey] at hk
      rw [ih hes' hds' htail]

/-- Tables that give every name the same value are equal. -/
theorem eq_of_get?_eq {t u : Table α} (h : ∀ key, t.get? key = u.get? key) : t = u := by
  obtain ⟨es, hes⟩ := t
  obtain ⟨ds, hds⟩ := u
  have heq : es = ds := entries_eq_of_lookup_eq hes hds h
  subst heq
  rfl

example : (ofList [("b", 1), ("a", 2), ("b", 3)]).entries = [("a", 2), ("b", 3)] := by decide

end Table

end TestDraft
