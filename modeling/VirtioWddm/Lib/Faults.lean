/-
  VirtioWddm.Lib.Faults

  Which fault a computation ends in.

  `Faults m s f` is the counterpart of `Runs`: its inversion rules say at which step of
  a composed computation the fault `f` occurs, after the steps before it have returned.
  `Avoids P m` rules out the faults with property `P`, step by step.
-/

import VirtioWddm.Lib.Runs

namespace Lib

variable {φ σ α β : Type}

/-- `m` started in `s` ends in the fault `f`. -/
def Faults (m : Comp φ σ α) (s : σ) (f : φ) : Prop :=
  m s = .error f

/-- A computation returns or ends in a fault. -/
theorem runs_or_faults (m : Comp φ σ α) (s : σ) :
    (∃ a s', Runs m s a s') ∨ ∃ f, Faults m s f := by
  cases hm : m s with
  | error f => exact .inr ⟨f, hm⟩
  | ok p => exact .inl ⟨p.1, p.2, hm⟩

theorem Runs.not_faults {m : Comp φ σ α} {s s' : σ} {a : α} (h : Runs m s a s') (f : φ) :
    ¬ Faults m s f := by
  intro hf
  rw [Faults, h] at hf
  cases hf

-- ============================================================================
-- Inversion rules
-- ============================================================================

@[simp] theorem faults_pure {a : α} {s : σ} {f : φ} :
    Faults (pure a : Comp φ σ α) s f ↔ False :=
  iff_false_intro ((runs_pure.mpr ⟨rfl, rfl⟩ : Runs (pure a) s a s).not_faults f)

@[simp] theorem faults_bind {m : Comp φ σ α} {k : α → Comp φ σ β} {s : σ} {f : φ} :
    Faults (m >>= k) s f ↔ Faults m s f ∨ ∃ a s', Runs m s a s' ∧ Faults (k a) s' f := by
  unfold Faults Runs
  show (m s >>= fun p => k p.1 p.2) = _ ↔ _
  cases hm : m s with
  | error e => simp [bind, Except.bind]
  | ok p => simp [bind, Except.bind, Prod.ext_iff]

@[simp] theorem faults_fault {f f' : φ} {s : σ} :
    Faults (Comp.fault f : Comp φ σ α) s f' ↔ f = f' := by
  constructor
  · intro h
    cases h
    rfl
  · rintro rfl
    rfl

@[simp] theorem faults_ite {c : Prop} [Decidable c] {m n : Comp φ σ α} {s : σ} {f : φ} :
    Faults (if c then m else n) s f ↔ if c then Faults m s f else Faults n s f := by
  split <;> rfl

-- ============================================================================
-- Faults that do not occur
-- ============================================================================

/-- No run of `m` ends in a fault with property `P`. -/
def Avoids (P : φ → Prop) (m : Comp φ σ α) : Prop :=
  ∀ s f, Faults m s f → ¬ P f

section Avoids

variable {P : φ → Prop} {m : Comp φ σ α}

theorem Total.not_faults (h : Total m) (s : σ) (f : φ) : ¬ Faults m s f := by
  obtain ⟨a, s', hrun⟩ := h s
  exact hrun.not_faults f

theorem Total.avoids (h : Total m) : Avoids P m :=
  fun s f hf => absurd hf (h.not_faults s f)

/-- After a step that returns, the faults are those of the rest of the run. -/
theorem Total.faults_bind {k : α → Comp φ σ β} (h : Total m) {s : σ} {f : φ} :
    Faults (m >>= k) s f ↔ ∃ a s', Runs m s a s' ∧ Faults (k a) s' f :=
  Lib.faults_bind.trans (or_iff_right (h.not_faults s f))

theorem Avoids.pure (a : α) : Avoids P (Pure.pure a : Comp φ σ α) :=
  (Total.pure a).avoids

theorem Avoids.fault {f : φ} (hf : ¬ P f) : Avoids P (Comp.fault f : Comp φ σ α) := by
  intro s f' h
  rw [← faults_fault.mp h]
  exact hf

theorem Avoids.bind {k : α → Comp φ σ β} (hm : Avoids P m) (hk : ∀ a, Avoids P (k a)) :
    Avoids P (m >>= k) := by
  intro s f h
  cases faults_bind.mp h with
  | inl h => exact hm s f h
  | inr h =>
      obtain ⟨a, s', -, h⟩ := h
      exact hk a s' f h

theorem Avoids.ite {c : Prop} [Decidable c] {n : Comp φ σ α} (hm : c → Avoids P m)
    (hn : ¬ c → Avoids P n) : Avoids P (if c then m else n) := by
  split
  case isTrue h => exact hm h
  case isFalse h => exact hn h

end Avoids

end Lib
