/-
  VirtioWddm.Lib.Scope

  Functions that may be left early, with cleanups at the exits of their scopes.

  `Ends P m Q E` says that `m`, started where `P` holds, ends where `Q` holds of what it
  returns, or is left where `E` holds of what it is left with.  There is one rule for
  each way to put a function together, so that a proof follows the text.
-/

import Mathlib.Tactic.Common

namespace Lib

variable {ε σ α β : Type}

/-- Computations over a state `σ` that may leave their function with an `ε`. -/
abbrev Exiting (ε σ : Type) := ExceptT ε (StateM σ)

/-- Leave the function. -/
def leave (e : ε) : Exiting ε σ α := fun s => (.error e, s)

/-- A scope with a cleanup that runs however the scope is left. -/
def atExit (cleanup : σ → σ) (body : Exiting ε σ α) : Exiting ε σ α := fun s =>
  ((body s).1, cleanup (body s).2)

/-- What a whole function returns, early or at its end. -/
def returned (m : Exiting ε σ ε) (s : σ) : ε × σ :=
  match m s with
  | (.ok e, s') => (e, s')
  | (.error e, s') => (e, s')

/-- How `m` ends. -/
def Ends (P : σ → Prop) (m : Exiting ε σ α) (Q : α → σ → Prop) (E : ε → σ → Prop) : Prop :=
  ∀ s, P s →
    match m s with
    | (.ok a, s') => Q a s'
    | (.error e, s') => E e s'

section Rules

variable {P P' : σ → Prop} {Q Q' : α → σ → Prop} {R : β → σ → Prop} {E E' : ε → σ → Prop}
  {m : Exiting ε σ α}

theorem Ends.pure {a : α} (h : ∀ s, P s → Q a s) :
    Ends P (Pure.pure a : Exiting ε σ α) Q E := by
  intro s hs
  exact h s hs

theorem Ends.leave {e : ε} (h : ∀ s, P s → E e s) : Ends P (leave e : Exiting ε σ α) Q E := by
  intro s hs
  exact h s hs

theorem Ends.modify {f : σ → σ} {Q : Unit → σ → Prop} (h : ∀ s, P s → Q () (f s)) :
    Ends P (modify f : Exiting ε σ Unit) Q E := by
  intro s hs
  exact h s hs

theorem Ends.get {Q : σ → σ → Prop} (h : ∀ s, P s → Q s s) :
    Ends P (get : Exiting ε σ σ) Q E := by
  intro s hs
  exact h s hs

theorem Ends.bind {f : α → Exiting ε σ β} (hm : Ends P m Q E) (hf : ∀ a, Ends (Q a) (f a) R E) :
    Ends P (m >>= f) R E := by
  intro s hs
  have hmid := hm s hs
  show match ExceptT.bindCont f (m s).1 (m s).2 with
    | (.ok b, s') => R b s'
    | (.error e, s') => E e s'
  cases hres : m s with
  | mk result s' =>
      rw [hres] at hmid
      cases result with
      | ok a => exact hf a s' hmid
      | error e => exact hmid

theorem Ends.ite {c : Prop} [Decidable c] {m' : Exiting ε σ α} (hm : c → Ends P m Q E)
    (hm' : ¬c → Ends P m' Q E) : Ends P (if c then m else m') Q E := by
  split
  case isTrue h => exact hm h
  case isFalse h => exact hm' h

theorem Ends.conseq (h : Ends P m Q E) (hP : ∀ s, P' s → P s) (hQ : ∀ a s, Q a s → Q' a s)
    (hE : ∀ e s, E e s → E' e s) : Ends P' m Q' E' := by
  intro s hs
  have hend := h s (hP s hs)
  cases hres : m s with
  | mk result s' =>
      rw [hres] at hend
      cases result with
      | ok a => exact hQ a s' hend
      | error e => exact hE e s' hend

/-- The cleanup leads from the scope's assertions to the outer ones. -/
theorem Ends.atExit {cleanup : σ → σ} (h : Ends P m Q E) (hQ : ∀ a s, Q a s → Q' a (cleanup s))
    (hE : ∀ e s, E e s → E' e (cleanup s)) : Ends P (atExit cleanup m) Q' E' := by
  intro s hs
  have hend := h s hs
  show match ((m s).1, cleanup (m s).2) with
    | (.ok a, s') => Q' a s'
    | (.error e, s') => E' e s'
  cases hres : m s with
  | mk result s' =>
      rw [hres] at hend
      cases result with
      | ok a => exact hQ a s' hend
      | error e => exact hE e s' hend

/-- What holds of a whole function when it returns. -/
theorem Ends.returned {m : Exiting ε σ ε} {Q : ε → σ → Prop} (h : Ends P m Q E) {s : σ} (hs : P s) :
    Q (returned m s).1 (returned m s).2 ∨ E (returned m s).1 (returned m s).2 := by
  have hend := h s hs
  unfold Lib.returned
  cases hres : m s with
  | mk result s' =>
      rw [hres] at hend
      cases result with
      | ok e => exact .inl hend
      | error e => exact .inr hend

end Rules

end Lib
