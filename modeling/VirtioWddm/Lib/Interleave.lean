/-
  VirtioWddm.Lib.Interleave

  Threads that take atomic steps in any order.

  An outline says what holds of the shared state, of the shared state and one thread,
  and of any two threads.  It holds of every interleaving once a step keeps what it says
  of the thread that takes it and does not disturb what it says of another one.  A duty
  is something that a shared state leaves to be done; it is met as long as some thread
  is about to do it.
-/

import VirtioWddm.Lib.Runs
import Mathlib.Logic.Function.Basic

namespace Lib

variable {ι σ π κ : Type} [DecidableEq ι]

-- ============================================================================
-- Threads
-- ============================================================================

/-- The shared state and each thread's own. -/
structure Threads (ι σ π : Type) where
  shared : σ
  own : ι → π

/-- One thread takes a step. -/
inductive Threads.Step (act : σ → π → σ → π → Prop) : Threads ι σ π → Threads ι σ π → Prop where
  | move {w : Threads ι σ π} (i : ι) {s' : σ} {p' : π} (h : act w.shared (w.own i) s' p') :
      Step act w { shared := s', own := Function.update w.own i p' }

-- ============================================================================
-- Outlines
-- ============================================================================

structure Outline (σ π : Type) where
  shared : σ → Prop
  own : σ → π → Prop
  /-- of two different threads -/
  apart : π → π → Prop

namespace Outline

variable {O : Outline σ π} {act : σ → π → σ → π → Prop} {w w' : Threads ι σ π}

/-- The outline holds of a world. -/
structure Holds (O : Outline σ π) (w : Threads ι σ π) : Prop where
  shared : O.shared w.shared
  own : ∀ i, O.own w.shared (w.own i)
  apart : ∀ i j, i ≠ j → O.apart (w.own i) (w.own j)

/-- What is to be shown of a step: it keeps what the outline says of its own thread, and
    does not interfere with another one. -/
structure Sound (O : Outline σ π) (act : σ → π → σ → π → Prop) : Prop where
  symm : ∀ {p q}, O.apart p q → O.apart q p
  step : ∀ {s p s' p'}, O.shared s → O.own s p → act s p s' p' → O.shared s' ∧ O.own s' p'
  others : ∀ {s p s' p' q}, O.shared s → O.own s p → O.own s q → O.apart p q →
    act s p s' p' → O.own s' q ∧ O.apart p' q

theorem Holds.step (h : O.Holds w) (hsound : O.Sound act) (hstep : Threads.Step act w w') :
    O.Holds w' := by
  cases hstep with
  | @move i s' p' hact =>
      have hothers : ∀ j, j ≠ i → O.own s' (w.own j) ∧ O.apart p' (w.own j) := fun j hne =>
        hsound.others h.shared (h.own i) (h.own j) (h.apart i j hne.symm) hact
      obtain ⟨hshared, hown⟩ := hsound.step h.shared (h.own i) hact
      refine ⟨hshared, fun j => ?_, fun j k hne => ?_⟩
      · show O.own s' (Function.update w.own i p' j)
        by_cases hj : j = i
        · rw [hj, Function.update_self]
          exact hown
        · rw [Function.update_of_ne hj]
          exact (hothers j hj).1
      · show O.apart (Function.update w.own i p' j) (Function.update w.own i p' k)
        by_cases hj : j = i
        · have hk : k ≠ i := fun hk => hne (hj.trans hk.symm)
          rw [hj, Function.update_self, Function.update_of_ne hk]
          exact (hothers k hk).2
        · rw [Function.update_of_ne hj]
          by_cases hk : k = i
          · rw [hk, Function.update_self]
            exact hsound.symm (hothers j hj).2
          · rw [Function.update_of_ne hk]
            exact h.apart j k hne

end Outline

-- ============================================================================
-- Duties
-- ============================================================================

structure Duties (σ π κ : Type) where
  due : σ → κ → Prop
  /-- the thread is about to do it -/
  taken : π → κ → Prop

namespace Duties

variable {D : Duties σ π κ} {O : Outline σ π} {act : σ → π → σ → π → Prop}
  {w w' : Threads ι σ π}

/-- For whatever is to be done there is a thread that will. -/
def Met (D : Duties σ π κ) (w : Threads ι σ π) : Prop :=
  ∀ k, D.due w.shared k → ∃ i, D.taken (w.own i) k

/-- What is to be shown of a step: a duty it leaves is its own or was not its to do. -/
def Kept (D : Duties σ π κ) (O : Outline σ π) (act : σ → π → σ → π → Prop) : Prop :=
  ∀ {s p s' p' k}, O.shared s → O.own s p → act s p s' p' → D.due s' k →
    D.taken p' k ∨ (D.due s k ∧ ¬D.taken p k)

theorem Met.step (h : D.Met w) (hkept : D.Kept O act) (hO : O.Holds w)
    (hstep : Threads.Step act w w') : D.Met w' := by
  cases hstep with
  | @move i s' p' hact =>
      intro k hdue
      rcases hkept hO.shared (hO.own i) hact hdue with htaken | ⟨hdue, hnot⟩
      · refine ⟨i, ?_⟩
        show D.taken (Function.update w.own i p' i) k
        rw [Function.update_self]
        exact htaken
      · obtain ⟨j, htaken⟩ := h k hdue
        have hne : j ≠ i := by
          intro heq
          rw [heq] at htaken
          exact hnot htaken
        refine ⟨j, ?_⟩
        show D.taken (Function.update w.own i p' j) k
        rw [Function.update_of_ne hne]
        exact htaken

end Duties

-- ============================================================================
-- Runs
-- ============================================================================

/-- Over every interleaving a sound outline holds and the duties are met. -/
theorem Outline.holds_met {O : Outline σ π} {D : Duties σ π κ} {act : σ → π → σ → π → Prop}
    {init : Threads ι σ π → Prop} (hsound : O.Sound act) (hkept : D.Kept O act)
    (hinit : ∀ w, init w → O.Holds w ∧ D.Met w) {w : Threads ι σ π}
    (h : Reach init (Threads.Step act) w) : O.Holds w ∧ D.Met w :=
  h.invariant (fun w => O.Holds w ∧ D.Met w) hinit fun _ _ hw hstep =>
    ⟨hw.1.step hsound hstep, hw.2.step hkept hw.1 hstep⟩

/-- A relation that every step puts between the shared states holds from one world to
    every later one. -/
theorem Outline.later {O : Outline σ π} {act : σ → π → σ → π → Prop} {R : σ → σ → Prop}
    (hsound : O.Sound act) (hrefl : ∀ s, R s s)
    (htrans : ∀ {s s' s''}, R s s' → R s' s'' → R s s'')
    (hstep : ∀ {s p s' p'}, O.shared s → O.own s p → act s p s' p' → R s s')
    {w w' : Threads ι σ π} (hw : O.Holds w) (h : Reach (· = w) (Threads.Step act) w') :
    R w.shared w'.shared := by
  refine (h.invariant (fun v => O.Holds v ∧ R w.shared v.shared) ?_ fun v v' hv hmove => ?_).2
  · rintro v rfl
    exact ⟨hw, hrefl _⟩
  · refine ⟨hv.1.step hsound hmove, ?_⟩
    cases hmove with
    | move i hact => exact htrans hv.2 (hstep hv.1.shared (hv.1.own i) hact)

end Lib
