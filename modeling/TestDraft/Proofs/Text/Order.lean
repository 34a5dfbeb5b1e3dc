/-
Texts in order: where none stands twice, they ascend strictly, and a
list of them is then settled by what it holds.
-/
import Mathlib.Data.List.Sort
import TestDraft.Text.Order

namespace TestDraft.Text

variable {s : String} {ss ts : List String}

/-- Texts are put in order by sorting them one by one. -/
private theorem inOrder_eq (ss : List String) : inOrder ss = ss.insertionSort (· ≤ ·) := by
  have hinsert : ∀ s ts, insertInOrder s ts = ts.orderedInsert (· ≤ ·) s := by
    intro s ts
    induction ts with
    | nil => rfl
    | cons t ts ih =>
        rw [insertInOrder, List.orderedInsert_cons, ih]
        by_cases h : t < s
        · rw [if_pos h, if_neg (String.not_le.2 h)]
        · rw [if_neg h, if_pos (String.not_lt.1 h)]
  induction ss with
  | nil => rfl
  | cons s ss ih => rw [inOrder, hinsert, ih, List.insertionSort_cons]

/-- Nothing is lost and nothing is added. -/
theorem inOrder_perm (ss : List String) : (inOrder ss).Perm ss := by
  rw [inOrder_eq]
  exact List.perm_insertionSort _ ss

/-- Texts of which none stands twice ascend strictly in their order. -/
theorem inOrder_ascending (h : ss.Nodup) : (inOrder ss).Pairwise (· < ·) := by
  have hsorted : (inOrder ss).Pairwise (· ≤ ·) := by
    rw [inOrder_eq]
    exact List.pairwise_insertionSort _ ss
  have hdistinct : (inOrder ss).Pairwise (· ≠ ·) := (inOrder_perm ss).nodup_iff.2 h
  refine (hsorted.and hdistinct).imp fun {s t} hst => ?_
  rcases Std.lt_trichotomy s t with hlt | heq | hgt
  · exact hlt
  · exact absurd heq hst.2
  · exact absurd hgt hst.1

/-- More texts in order are the same ones in order with others between
them. -/
theorem inOrder_sublist (hs : ss.Nodup) (ht : ts.Nodup) (h : ss ⊆ ts) :
    (inOrder ss).Sublist (inOrder ts) := by
  have hsub : inOrder ss ⊆ inOrder ts := fun s hmem =>
    (inOrder_perm ts).mem_iff.2 (h ((inOrder_perm ss).mem_iff.1 hmem))
  have hnodup : (inOrder ss).Nodup := (inOrder_perm ss).nodup_iff.2 hs
  exact List.sublist_of_subperm_of_pairwise (List.subperm_of_subset hnodup hsub)
    (inOrder_ascending hs) (inOrder_ascending ht)

/-- Where one list in order holds at most one text more than another, it
is the other one with that text put in somewhere. -/
theorem exists_split_of_ascending (hss : ss.Pairwise (· < ·)) (hts : ts.Pairwise (· < ·))
    (hsub : ss ⊆ ts) (hnew : ∀ t ∈ ts, t ∈ ss ∨ t = s) :
    ∃ above below extra, (extra = [] ∨ extra = [s] ∧ s ∈ ts ∧ s ∉ ss)
      ∧ ss = above ++ below ∧ ts = above ++ extra ++ below := by
  by_cases hs : s ∈ ts ∧ s ∉ ss
  case neg =>
    have hmem : ∀ t, t ∈ ss ↔ t ∈ ts := by
      intro t
      refine ⟨fun ht => hsub ht, fun ht => ?_⟩
      rcases hnew t ht with ht | rfl
      · exact ht
      · exact Classical.byContradiction fun hnot => hs ⟨ht, hnot⟩
    refine ⟨ss, [], [], .inl rfl, (List.append_nil ss).symm, ?_⟩
    rw [List.append_nil, List.append_nil]
    exact (hss.eq_of_mem_iff hts hmem).symm
  case pos =>
    obtain ⟨above, below, rfl⟩ := List.append_of_mem hs.1
    have hrest : (above ++ below).Sublist (above ++ s :: below) :=
      (List.sublist_cons_self s below).append_left above
    have hnodup : s ∉ above ++ below := by
      have hdistinct : (above ++ s :: below).Nodup := hts.imp fun hlt => String.ne_of_lt hlt
      exact (List.nodup_middle.1 hdistinct).notMem
    have hmem : ∀ t, t ∈ ss ↔ t ∈ above ++ below := by
      intro t
      constructor
      · intro ht
        have hne : t ≠ s := fun heq => hs.2 (heq ▸ ht)
        simpa [hne] using hsub ht
      · intro ht
        exact (hnew t (hrest.subset ht)).resolve_right fun heq => hnodup (heq ▸ ht)
    refine ⟨above, below, [s], .inr ⟨rfl, hs⟩, ?_, ?_⟩
    · exact hss.eq_of_mem_iff (hts.sublist hrest) hmem
    · rw [List.append_assoc, List.singleton_append]

end TestDraft.Text
