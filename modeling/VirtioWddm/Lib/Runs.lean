/-
  VirtioWddm.Lib.Runs

  Runs of computations that thread a state and may end in a fault.

  `Runs m s a s'` says that `m`, started in `s`, returns `a` and leaves `s'`.  The
  inversion rules take a run of a composed computation apart into runs of its
  steps, so that a proof follows the text of the program; the rules for `Total`
  put such steps together again where no fault can occur.  `Reach` is about runs of
  another kind, those of a system that takes step after step.
-/

import Mathlib.Tactic.Common

namespace Lib

variable {φ σ α β γ : Type}

/-- Computations over a state `σ` that may end in a fault `φ`. -/
abbrev Comp (φ σ : Type) := StateT σ (Except φ)

/-- End the computation with a fault. -/
def Comp.fault (f : φ) : Comp φ σ α := fun _ => .error f

/-- `m` started in `s` returns `a` and leaves `s'`. -/
def Runs (m : Comp φ σ α) (s : σ) (a : α) (s' : σ) : Prop :=
  m s = .ok (a, s')

-- ============================================================================
-- Inversion rules
-- ============================================================================

@[simp] theorem runs_pure {a b : α} {s s' : σ} :
    Runs (pure a : Comp φ σ α) s b s' ↔ b = a ∧ s' = s := by
  constructor
  · intro h
    cases h
    exact ⟨rfl, rfl⟩
  · rintro ⟨rfl, rfl⟩
    rfl

@[simp] theorem runs_bind {m : Comp φ σ α} {f : α → Comp φ σ β} {s s'' : σ} {b : β} :
    Runs (m >>= f) s b s'' ↔ ∃ a s', Runs m s a s' ∧ Runs (f a) s' b s'' := by
  unfold Runs
  show (m s >>= fun p => f p.1 p.2) = _ ↔ _
  cases hm : m s with
  | error e => simp [bind, Except.bind]
  | ok p => simp [bind, Except.bind, Prod.ext_iff]

@[simp] theorem runs_map {m : Comp φ σ α} {f : α → β} {s s' : σ} {b : β} :
    Runs (f <$> m) s b s' ↔ ∃ a, b = f a ∧ Runs m s a s' := by
  rw [map_eq_pure_bind, runs_bind]
  constructor
  · rintro ⟨a, s₁, hm, hp⟩
    obtain ⟨rfl, rfl⟩ := runs_pure.mp hp
    exact ⟨a, rfl, hm⟩
  · rintro ⟨a, rfl, hm⟩
    exact ⟨a, s', hm, runs_pure.mpr ⟨rfl, rfl⟩⟩

@[simp] theorem runs_get {s a s' : σ} :
    Runs (get : Comp φ σ σ) s a s' ↔ a = s ∧ s' = s := by
  constructor
  · intro h
    cases h
    exact ⟨rfl, rfl⟩
  · rintro ⟨rfl, rfl⟩
    rfl

@[simp] theorem runs_modify {f : σ → σ} {s s' : σ} {u : PUnit} :
    Runs (modify f : Comp φ σ PUnit) s u s' ↔ s' = f s := by
  constructor
  · intro h
    cases h
    rfl
  · rintro rfl
    rfl

@[simp] theorem runs_fault {f : φ} {s s' : σ} {a : α} :
    Runs (Comp.fault f : Comp φ σ α) s a s' ↔ False := by
  simp [Runs, Comp.fault]

@[simp] theorem runs_ite {c : Prop} [Decidable c] {m n : Comp φ σ α} {s s' : σ} {a : α} :
    Runs (if c then m else n) s a s' ↔ if c then Runs m s a s' else Runs n s a s' := by
  split <;> rfl

-- ============================================================================
-- Totality
-- ============================================================================

/-- `m` returns from every state: no run of it ends in a fault. -/
def Total (m : Comp φ σ α) : Prop :=
  ∀ s, ∃ a s', Runs m s a s'

theorem Total.pure (a : α) : Total (Pure.pure a : Comp φ σ α) :=
  fun s => ⟨a, s, rfl⟩

theorem Total.modify (f : σ → σ) : Total (modify f : Comp φ σ PUnit) :=
  fun s => ⟨⟨⟩, f s, rfl⟩

theorem total_get : Total (get : Comp φ σ σ) :=
  fun s => ⟨s, s, runs_get.mpr ⟨rfl, rfl⟩⟩

theorem Total.bind {m : Comp φ σ α} {f : α → Comp φ σ β} (hm : Total m)
    (hf : ∀ a, Total (f a)) : Total (m >>= f) := by
  intro s
  obtain ⟨a, s₁, h₁⟩ := hm s
  obtain ⟨b, s₂, h₂⟩ := hf a s₁
  exact ⟨b, s₂, runs_bind.mpr ⟨a, s₁, h₁, h₂⟩⟩

theorem Total.ite {c : Prop} [Decidable c] {m n : Comp φ σ α} (hm : c → Total m)
    (hn : ¬c → Total n) : Total (if c then m else n) := by
  split
  case isTrue h => exact hm h
  case isFalse h => exact hn h

-- ============================================================================
-- Runs of a system
-- ============================================================================

/-- The states a system reaches step after step from an initial one. -/
inductive Reach (init : σ → Prop) (step : σ → σ → Prop) : σ → Prop where
  | init {s : σ} (h : init s) : Reach init step s
  | step {s s' : σ} (hreach : Reach init step s) (h : step s s') : Reach init step s'

/-- What holds at first and is preserved by every step holds in every reachable
    state. -/
theorem Reach.invariant (inv : σ → Prop) {init : σ → Prop} {step : σ → σ → Prop}
    (hinit : ∀ s, init s → inv s) (hstep : ∀ s s', inv s → step s s' → inv s') {s : σ}
    (h : Reach init step s) : inv s := by
  induction h with
  | init h => exact hinit _ h
  | step _ h ih => exact hstep _ _ ih h

end Lib
