/-
  VirtioWddm.Lib.StableSort

  Stable sorts by a key.

  An insertion sort that takes its input from the front and looks for the place of each
  element from the back of what it has sorted is the library's sort of the reversed
  input, reversed.
-/

import Mathlib.Data.List.Sort

namespace Lib

variable {α β : Type*} [LinearOrder β] {key : α → β} {l l' : List α}

/-- `l'` is `l` in the order of the keys, elements with one key in their old order. -/
structure StableSort (key : α → β) (l l' : List α) : Prop where
  perm : l'.Perm l
  sorted : l'.Pairwise fun a b => key a ≤ key b
  stable : ∀ k, (l'.filter fun a => decide (key a = k)) = l.filter fun a => decide (key a = k)

/-- Later keys first. -/
def KeyGE (key : α → β) (a b : α) : Prop := key b ≤ key a

instance (key : α → β) : DecidableRel (KeyGE key) :=
  fun a b => inferInstanceAs (Decidable (key b ≤ key a))

instance (key : α → β) : Std.Total (KeyGE key) :=
  ⟨fun a b => le_total (key b) (key a)⟩

instance (key : α → β) : IsTrans α (KeyGE key) :=
  ⟨fun _ _ _ hab hbc => le_trans hbc hab⟩

/-- Elements with one key are a sorted part of the list. -/
theorem pairwise_filter_key (l : List α) (k : β) :
    (l.filter fun a => decide (key a = k)).Pairwise (KeyGE key) := by
  rw [List.pairwise_filter]
  apply List.pairwise_of_forall
  intro a b ha hb
  rw [decide_eq_true_eq] at ha hb
  exact (hb.trans ha.symm).le

/-- The library's sort by descending keys keeps the order within a key. -/
theorem filter_insertionSort (l : List α) (k : β) :
    ((l.insertionSort (KeyGE key)).filter fun a => decide (key a = k)) =
      l.filter fun a => decide (key a = k) := by
  have hsub : (l.filter fun a => decide (key a = k)).Sublist (l.insertionSort (KeyGE key)) :=
    List.sublist_insertionSort (pairwise_filter_key l k) List.filter_sublist
  have hfiltered := hsub.filter fun a => decide (key a = k)
  rw [List.filter_filter] at hfiltered
  simp only [Bool.and_self] at hfiltered
  exact (hfiltered.eq_of_length
    ((List.perm_insertionSort (KeyGE key) l).symm.filter _).length_eq).symm

/-- The sort from the back. -/
theorem stableSort_insertionSort (key : α → β) (l : List α) :
    StableSort key l (l.reverse.insertionSort (KeyGE key)).reverse where
  perm :=
    (List.reverse_perm _).trans ((List.perm_insertionSort _ _).trans (List.reverse_perm _))
  sorted := List.pairwise_reverse.mpr (List.pairwise_insertionSort (KeyGE key) l.reverse)
  stable := by
    intro k
    rw [List.filter_reverse, filter_insertionSort, List.filter_reverse, List.reverse_reverse]

theorem StableSort.mem_iff (h : StableSort key l l') {a : α} : a ∈ l' ↔ a ∈ l :=
  h.perm.mem_iff

end Lib
