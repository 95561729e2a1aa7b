/-
  VirtioWddm.Lib.Pointwise

  Lists that are related element by element.
-/

import Mathlib.Data.List.Forall2
import Mathlib.Tactic.Common

namespace Lib

variable {α β : Type} {R S : α → β → Prop} {as : List α} {bs : List β}

/-- Each element on the left is related to one on the right. -/
theorem exists_of_mem_left (h : List.Forall₂ R as bs) {a : α} (ha : a ∈ as) : ∃ b ∈ bs, R a b := by
  induction h with
  | nil => exact absurd ha List.not_mem_nil
  | @cons a' b' as bs hfirst _ ih =>
      rcases List.mem_cons.mp ha with rfl | ha
      · exact ⟨b', List.mem_cons_self, hfirst⟩
      · obtain ⟨b, hb, hrel⟩ := ih ha
        exact ⟨b, List.mem_cons_of_mem b' hb, hrel⟩

theorem exists_of_mem_right (h : List.Forall₂ R as bs) {b : β} (hb : b ∈ bs) : ∃ a ∈ as, R a b :=
  exists_of_mem_left (List.Forall₂.flip (R := flip R) h) hb

/-- Two relations between the same lists meet in every element. -/
theorem exists_of_forall₂ (hR : List.Forall₂ R as bs) (hS : List.Forall₂ S as bs) {a : α}
    (ha : a ∈ as) : ∃ b, R a b ∧ S a b := by
  induction hR with
  | nil => exact absurd ha List.not_mem_nil
  | @cons a' b' as bs hr _ ih =>
      obtain ⟨hs, hrest⟩ := List.forall₂_cons.mp hS
      rcases List.mem_cons.mp ha with rfl | ha
      · exact ⟨b', hr, hs⟩
      · exact ih hrest ha

end Lib
