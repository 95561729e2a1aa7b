/-
  VirtioWddm.Lib.ExceptRules

  Sequences and loops of computations that return or end in an error.
-/

import Mathlib.Data.List.Forall2
import Mathlib.Tactic.Common

namespace Lib

variable {ε α β : Type}

-- ============================================================================
-- Sequences
-- ============================================================================

theorem ok_bind (a : α) (f : α → Except ε β) : (Except.ok a : Except ε α) >>= f = f a :=
  rfl

/-- A sequence returns when both parts do. -/
theorem exists_ok_bind {x : Except ε α} {f : α → Except ε β} (hx : ∃ a, x = .ok a)
    (hf : ∀ a, x = .ok a → ∃ b, f a = .ok b) : ∃ b, x >>= f = .ok b := by
  obtain ⟨a, ha⟩ := hx
  obtain ⟨b, hb⟩ := hf a ha
  refine ⟨b, ?_⟩
  rw [ha]
  exact hb

/-- A sequence that returns has returned from both parts. -/
theorem bind_eq_ok {x : Except ε α} {f : α → Except ε β} {b : β} (h : x >>= f = .ok b) :
    ∃ a, x = .ok a ∧ f a = .ok b := by
  cases x with
  | error e => cases h
  | ok a => exact ⟨a, rfl, h⟩

theorem map_eq_ok {x : Except ε α} {f : α → β} {b : β} (h : x.map f = .ok b) :
    ∃ a, x = .ok a ∧ f a = b := by
  cases x with
  | error e => cases h
  | ok a => exact ⟨a, rfl, Except.ok.inj h⟩

-- ============================================================================
-- Loops
-- ============================================================================

section Loops

variable {f g : α → Except ε β} {l : List α}

/-- A loop returns when every step does. -/
theorem exists_mapM (h : ∀ a ∈ l, ∃ r, f a = .ok r) : ∃ rs, l.mapM f = .ok rs := by
  induction l with
  | nil => exact ⟨[], rfl⟩
  | cons a l ih =>
      obtain ⟨r, hr⟩ := h a List.mem_cons_self
      obtain ⟨rs, hrs⟩ := ih fun b hb => h b (List.mem_cons_of_mem a hb)
      refine ⟨r :: rs, ?_⟩
      rw [List.mapM_cons, hr, hrs]
      rfl

/-- A loop that returns has returned from every step. -/
theorem forall₂_of_mapM {rs : List β} (h : l.mapM f = .ok rs) :
    List.Forall₂ (fun a r => f a = .ok r) l rs := by
  induction l generalizing rs with
  | nil =>
      cases h
      exact .nil
  | cons a l ih =>
      rw [List.mapM_cons] at h
      obtain ⟨r, hr, h⟩ := bind_eq_ok h
      obtain ⟨rest, hrest, h⟩ := bind_eq_ok h
      cases h
      exact .cons hr (ih hrest)

theorem mapM_congr (h : ∀ a ∈ l, f a = g a) : l.mapM f = l.mapM g := by
  induction l with
  | nil => rfl
  | cons a l ih =>
      rw [List.mapM_cons, List.mapM_cons, h a List.mem_cons_self,
        ih fun b hb => h b (List.mem_cons_of_mem a hb)]

end Loops

end Lib
