/-
  VirtioWddm.Lib.Greedy

  Requests that are served one after the other from free resources.

  Each request takes the first free resource of the kind it wishes for, or else the
  first free one.  It always takes one while there is one, and where enough of every
  kind are free every request gets its own kind: an earlier request has only taken
  from the kind it wished for.
-/

import Mathlib.Data.List.Basic
import Mathlib.Data.List.Perm.Basic

namespace Lib

variable {ρ κ : Type*} [DecidableEq κ] {kind : ρ → κ}
  {wish : Option κ} {wishes : List (Option κ)} {free : List ρ} {r : ρ}

/-- A resource is of the kind a request wishes for; `none` is any kind. -/
def suits (kind : ρ → κ) (wish : Option κ) (r : ρ) : Bool :=
  wish.all fun k => k == kind r

/-- What a request takes. -/
def serve (kind : ρ → κ) (wish : Option κ) (free : List ρ) : Option ρ :=
  (free.find? (suits kind wish)).or free.head?

theorem serve_mem (h : serve kind wish free = some r) : r ∈ free := by
  rw [serve, Option.or_eq_some_iff] at h
  rcases h with hfound | ⟨-, hfirst⟩
  · exact List.mem_of_find?_eq_some hfound
  · exact List.mem_of_head? hfirst

theorem exists_serve (kind : ρ → κ) (wish : Option κ) (hfree : free ≠ []) :
    ∃ r, serve kind wish free = some r := by
  cases free with
  | nil => exact absurd rfl hfree
  | cons q free =>
      rw [serve]
      cases (q :: free).find? (suits kind wish) with
      | none => exact ⟨q, rfl⟩
      | some r => exact ⟨r, rfl⟩

/-- A request takes what suits it, if anything does. -/
theorem serve_suits (h : serve kind wish free = some r) {q : ρ} (hq : q ∈ free)
    (hsuits : suits kind wish q = true) : suits kind wish r = true := by
  rw [serve, Option.or_eq_some_iff] at h
  rcases h with hfound | ⟨hnone, -⟩
  · exact List.find?_some hfound
  · exact absurd hsuits (List.find?_eq_none.mp hnone q hq)

/-- All requests wish for a kind, and enough of every kind are free. -/
structure Enough (kind : ρ → κ) (wishes : List (Option κ)) (free : List ρ) : Prop where
  known : none ∉ wishes
  count : ∀ k, wishes.count (some k) ≤ free.countP fun r => kind r == k

/-- Then the next request gets its own kind, and enough are left for the others. -/
theorem Enough.serve [BEq ρ] [LawfulBEq ρ] (h : Enough kind (wish :: wishes) free)
    (hr : Lib.serve kind wish free = some r) :
    wish = some (kind r) ∧ Enough kind wishes (free.erase r) := by
  cases wish with
  | none => exact absurd List.mem_cons_self h.known
  | some k =>
      have hpos : 0 < free.countP fun r => kind r == k := by
        have hcount := h.count k
        rw [List.count_cons_self] at hcount
        omega
      obtain ⟨q, hq, hkind⟩ := List.countP_pos_iff.mp hpos
      have hsuits : suits kind (some k) q = true := by
        rw [suits, Option.all_some, beq_iff_eq]
        exact (beq_iff_eq.mp hkind).symm
      have hk : k = kind r := beq_iff_eq.mp (serve_suits hr hq hsuits)
      refine ⟨congrArg some hk, fun hnone => h.known (List.mem_cons_of_mem _ hnone), fun k' => ?_⟩
      have hcount := h.count k'
      have htaken := (List.perm_cons_erase (serve_mem hr)).countP_eq fun r => kind r == k'
      rw [htaken, List.countP_cons, List.count_cons, ← hk] at hcount
      simp only [Option.some_beq_some] at hcount
      exact Nat.le_of_add_le_add_right hcount

end Lib
