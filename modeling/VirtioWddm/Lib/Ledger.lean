/-
  VirtioWddm.Lib.Ledger

  What a trace of events still holds.

  A ledger says which events acquire something and which release it; replaying a
  trace against it gives the list of what is held at the end.  `mem_heldFrom`
  reads that list back as a statement about the trace: the last acquisition and
  the absence of a release after it.
-/

import Mathlib.Data.List.Basic

namespace Lib

/-- Which events of type `ε` acquire or release something of type `ρ`. -/
structure Ledger (ε ρ : Type) where
  acquires : ε → Option ρ
  releases : ε → ρ → Bool

namespace Ledger

variable {ε ρ : Type} (L : Ledger ε ρ)

/-- One event: drop what it releases, then add what it acquires. -/
def step (held : List ρ) (e : ε) : List ρ :=
  held.filter (fun r => !L.releases e r) ++ (L.acquires e).toList

/-- Replay a trace from what is already held. -/
def heldFrom (held : List ρ) (trace : List ε) : List ρ :=
  trace.foldl L.step held

/-- What a whole trace holds at its end. -/
def held (trace : List ε) : List ρ :=
  L.heldFrom [] trace

@[simp] theorem heldFrom_nil (h : List ρ) : L.heldFrom h [] = h := rfl

@[simp] theorem heldFrom_cons (h : List ρ) (e : ε) (tr : List ε) :
    L.heldFrom h (e :: tr) = L.heldFrom (L.step h e) tr := rfl

theorem heldFrom_append (h : List ρ) (tr₁ tr₂ : List ε) :
    L.heldFrom h (tr₁ ++ tr₂) = L.heldFrom (L.heldFrom h tr₁) tr₂ :=
  List.foldl_append

theorem held_append (tr₁ tr₂ : List ε) :
    L.held (tr₁ ++ tr₂) = L.heldFrom (L.held tr₁) tr₂ :=
  L.heldFrom_append [] tr₁ tr₂

theorem mem_step {h : List ρ} {e : ε} {r : ρ} :
    r ∈ L.step h e ↔ (r ∈ h ∧ L.releases e r = false) ∨ L.acquires e = some r := by
  simp [step, List.mem_append, List.mem_filter, Option.mem_toList]

/-- Something is held at the end of a trace when it was held before and no event
    released it, or some event acquired it and none released it afterwards. -/
theorem mem_heldFrom {h : List ρ} {tr : List ε} {r : ρ} :
    r ∈ L.heldFrom h tr ↔
      (r ∈ h ∧ ∀ e ∈ tr, L.releases e r = false) ∨
      ∃ pre e post, tr = pre ++ e :: post ∧ L.acquires e = some r ∧
        ∀ e' ∈ post, L.releases e' r = false := by
  induction tr generalizing h with
  | nil => simp
  | cons e tr ih =>
      rw [heldFrom_cons, ih, mem_step]
      constructor
      · rintro (⟨⟨hr, he⟩ | hacq, htr⟩ | ⟨pre, e', post, rfl, hacq, hpost⟩)
        · refine .inl ⟨hr, ?_⟩
          intro e' he'
          rcases List.mem_cons.mp he' with rfl | hmem
          · exact he
          · exact htr e' hmem
        · exact .inr ⟨[], e, tr, rfl, hacq, htr⟩
        · exact .inr ⟨e :: pre, e', post, rfl, hacq, hpost⟩
      · rintro (⟨hr, htr⟩ | ⟨pre, e', post, heq, hacq, hpost⟩)
        · exact .inl ⟨.inl ⟨hr, htr e List.mem_cons_self⟩,
            fun e' he' => htr e' (List.mem_cons_of_mem _ he')⟩
        · cases pre with
          | nil =>
              obtain ⟨rfl, rfl⟩ := List.cons.inj heq
              exact .inl ⟨.inr hacq, hpost⟩
          | cons p pre =>
              obtain ⟨rfl, rfl⟩ := List.cons.inj heq
              exact .inr ⟨pre, e', post, rfl, hacq, hpost⟩

/-- An event the ledger does not see. -/
def Neutral (e : ε) : Prop :=
  L.acquires e = none ∧ ∀ r, L.releases e r = false

theorem step_neutral {h : List ρ} {e : ε} (he : L.Neutral e) : L.step h e = h := by
  simp [step, he.1, he.2]

/-- Events the ledger does not see leave it unchanged. -/
theorem heldFrom_neutral {h : List ρ} {tr : List ε} (htr : ∀ e ∈ tr, L.Neutral e) :
    L.heldFrom h tr = h := by
  induction tr with
  | nil => rfl
  | cons e tr ih =>
      rw [heldFrom_cons, L.step_neutral (htr e List.mem_cons_self)]
      exact ih fun e' he' => htr e' (List.mem_cons_of_mem _ he')

-- ============================================================================
-- Permitted releases
-- ============================================================================

/-- Every event of the trace releases only what `permitted` allows it to. -/
def ReleasesOnly (permitted : ε → ρ → Prop) : List ρ → List ε → Prop
  | _, [] => True
  | held, e :: tr =>
      (∀ r ∈ held, L.releases e r = true → permitted e r) ∧
        ReleasesOnly permitted (L.step held e) tr

variable {L} {permitted : ε → ρ → Prop}

theorem ReleasesOnly.append {held : List ρ} {tr₁ tr₂ : List ε} :
    L.ReleasesOnly permitted held (tr₁ ++ tr₂) ↔
      L.ReleasesOnly permitted held tr₁ ∧
        L.ReleasesOnly permitted (L.heldFrom held tr₁) tr₂ := by
  induction tr₁ generalizing held with
  | nil => simp [ReleasesOnly]
  | cons e tr₁ ih => simp only [List.cons_append, ReleasesOnly, ih, heldFrom_cons, and_assoc]

theorem ReleasesOnly.of_forall {held : List ρ} {tr : List ε}
    (h : ∀ e ∈ tr, ∀ r, L.releases e r = true → permitted e r) :
    L.ReleasesOnly permitted held tr := by
  induction tr generalizing held with
  | nil => trivial
  | cons e tr ih =>
      refine ⟨fun r _ => h e List.mem_cons_self r, ih fun e' he' => ?_⟩
      exact h e' (List.mem_cons_of_mem _ he')

/-- What no event may release is still held at the end. -/
theorem ReleasesOnly.mem_heldFrom {held : List ρ} {tr : List ε} {r : ρ}
    (h : L.ReleasesOnly permitted held tr) (hr : r ∈ held) (hnot : ∀ e ∈ tr, ¬permitted e r) :
    r ∈ L.heldFrom held tr := by
  induction tr generalizing held with
  | nil => exact hr
  | cons e tr ih =>
      obtain ⟨hhead, htail⟩ := h
      have hkeep : L.releases e r = false := by
        by_contra hrel
        exact hnot e List.mem_cons_self (hhead r hr (by simpa using hrel))
      exact ih htail (L.mem_step.mpr (.inl ⟨hr, hkeep⟩))
        fun e' he' => hnot e' (List.mem_cons_of_mem _ he')

end Ledger

end Lib
