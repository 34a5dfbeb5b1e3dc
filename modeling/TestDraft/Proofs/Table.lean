/-
Reading a table that another one has been written over, and reading
through the list of values: what is found under a name is what the upper
table has there, else what the lower one has, and it is listed.
-/
import Mathlib.Data.List.Nodup
import TestDraft.Table

namespace TestDraft.Table

variable {α : Type}

/-- No name of a table occurs twice. -/
theorem names_nodup (t : Table α) : (t.entries.map Prod.fst).Nodup := by
  refine List.pairwise_map.2 (t.ascending.imp fun {a b} hlt heq => ?_)
  exact String.lt_irrefl b.1 (heq ▸ hlt)

private theorem lookup_eq_none_of_not_mem {es : List (String × α)} {key : String}
    (h : key ∉ es.map Prod.fst) : es.lookup key = none := by
  refine List.lookup_eq_none_iff.2 fun e he => bne_iff_ne.2 ?_
  rintro rfl
  exact h (List.mem_map_of_mem he)

/-- An entry is found under its name, since no other one has it. -/
theorem lookup_eq_some_iff_mem {es : List (String × α)} {key : String} {value : α}
    (h : (es.map Prod.fst).Nodup) : es.lookup key = some value ↔ (key, value) ∈ es := by
  induction es with
  | nil => simp
  | cons e es ih =>
      obtain ⟨name, other⟩ := e
      obtain ⟨hname, hes⟩ := List.nodup_cons.1 h
      rw [lookup_entry, List.mem_cons, Prod.mk.injEq]
      by_cases hkey : key = name
      · subst hkey
        have habsent : (key, value) ∉ es := fun hmem =>
          hname (List.mem_map.2 ⟨(key, value), hmem, rfl⟩)
        simp [habsent, eq_comm]
      · simp [hkey, ih hes]

/-- Entries with distinct names hide what they are written over, name by
name. -/
private theorem get?_foldl_insert {es : List (String × α)} (t : Table α) (key : String)
    (h : (es.map Prod.fst).Nodup) :
    (es.foldl (fun t e => t.insert e.1 e.2) t).get? key
      = (es.lookup key).or (t.get? key) := by
  induction es generalizing t with
  | nil => simp
  | cons e es ih =>
      obtain ⟨name, value⟩ := e
      obtain ⟨hname, hes⟩ := List.nodup_cons.1 h
      rw [List.foldl_cons, ih (t.insert name value) hes, get?_insert, lookup_entry]
      by_cases hkey : key = name
      · subst hkey
        -- The value just written is the one that counts: nothing later can hide it.
        simp [lookup_eq_none_of_not_mem hname]
      · simp [hkey]

theorem get?_override (t u : Table α) (key : String) :
    (t.override u).get? key = (u.get? key).or (t.get? key) :=
  get?_foldl_insert t key u.names_nodup

/-- Entries with distinct names make one table in whatever order they are
written. -/
theorem ofList_perm {es ds : List (String × α)} (h : es.Perm ds)
    (hes : (es.map Prod.fst).Nodup) : ofList es = ofList ds := by
  have hds : (ds.map Prod.fst).Nodup := (h.map Prod.fst).nodup_iff.1 hes
  have hlookup : ∀ key, es.lookup key = ds.lookup key := fun key => Option.ext fun value => by
    rw [lookup_eq_some_iff_mem hes, lookup_eq_some_iff_mem hds, h.mem_iff]
  refine eq_of_get?_eq fun key => ?_
  rw [ofList, ofList, get?_foldl_insert empty key hes, get?_foldl_insert empty key hds, hlookup]

/-- What is found is listed among the values. -/
theorem mem_values_of_get? {t : Table α} {key : String} {value : α}
    (h : t.get? key = some value) : value ∈ t.values := by
  have hmem : (key, value) ∈ t.entries := (lookup_eq_some_iff_mem t.names_nodup).1 h
  exact List.mem_map_of_mem hmem

/-- The values are what is found under some name. -/
theorem mem_values_iff {t : Table α} {value : α} :
    value ∈ t.values ↔ ∃ key, t.get? key = some value := by
  constructor
  · intro h
    obtain ⟨e, he, rfl⟩ := List.mem_map.1 h
    exact ⟨e.1, (lookup_eq_some_iff_mem t.names_nodup).2 he⟩
  · rintro ⟨key, h⟩
    exact mem_values_of_get? h

theorem mem_values_insert {t : Table α} {name : String} {value other : α}
    (h : other ∈ (t.insert name value).values) : other = value ∨ other ∈ t.values := by
  obtain ⟨key, hget⟩ := mem_values_iff.1 h
  rw [get?_insert] at hget
  split at hget
  · exact .inl (Option.some.inj hget).symm
  · exact .inr (mem_values_of_get? hget)

/-- The values of a table are among those that were written. -/
theorem mem_of_mem_values_ofList {es : List (String × α)} {value : α}
    (h : value ∈ (ofList es).values) : value ∈ es.map Prod.snd := by
  have hwritten : ∀ t : Table α, value ∈ (es.foldl (fun t e => t.insert e.1 e.2) t).values →
      value ∈ t.values ∨ value ∈ es.map Prod.snd := by
    clear h
    induction es with
    | nil => exact fun t h => .inl h
    | cons e es ih =>
        intro t h
        rw [List.map_cons, List.mem_cons]
        rcases ih (t.insert e.1 e.2) h with h | h
        · exact (mem_values_insert h).elim (fun h => .inr (.inl h)) .inl
        · exact .inr (.inr h)
  exact (hwritten empty h).resolve_left List.not_mem_nil

end TestDraft.Table
