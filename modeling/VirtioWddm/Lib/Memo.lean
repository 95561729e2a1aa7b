/-
  VirtioWddm.Lib.Memo

  Tables of remembered answers.

  A table is coherent with a function when it remembers nothing but that function's
  values.  Recording more of them keeps it so and never changes an entry, whatever
  is recorded and however often.
-/

import Mathlib.Tactic.Common

namespace Lib

variable {κ α : Type*}

/-- Every remembered answer is the function's. -/
def Coherent (spec : κ → α) (memo : κ → Option α) : Prop :=
  ∀ k v, memo k = some v → v = spec k

/-- What `memo` remembers, `memo'` remembers as well. -/
def Extends (memo memo' : κ → Option α) : Prop :=
  ∀ k v, memo k = some v → memo' k = some v

/-- `memo'` is `memo` with the function's values recorded at `keys`. -/
def Recorded (spec : κ → α) (keys : κ → Prop) (memo memo' : κ → Option α) : Prop :=
  ∀ k, keys k ∧ memo' k = some (spec k) ∨ ¬keys k ∧ memo' k = memo k

theorem Extends.refl (memo : κ → Option α) : Extends memo memo :=
  fun _ _ h => h

theorem Extends.trans {memo memo' memo'' : κ → Option α} (h : Extends memo memo')
    (h' : Extends memo' memo'') : Extends memo memo'' :=
  fun k v hk => h' k v (h k v hk)

theorem coherent_empty (spec : κ → α) : Coherent spec fun _ => none :=
  fun _ _ h => nomatch h

namespace Recorded

variable {spec : κ → α} {keys : κ → Prop} {memo memo' : κ → Option α}

theorem coherent (h : Recorded spec keys memo memo') (hmemo : Coherent spec memo) :
    Coherent spec memo' := by
  intro k v hk
  rcases h k with ⟨-, hnew⟩ | ⟨-, hold⟩
  · exact Option.some.inj (hk.symm.trans hnew)
  · exact hmemo k v (hold.symm.trans hk)

theorem keeps (h : Recorded spec keys memo memo') (hmemo : Coherent spec memo) :
    Extends memo memo' := by
  intro k v hk
  rcases h k with ⟨-, hnew⟩ | ⟨-, hold⟩
  · rw [hnew, hmemo k v hk]
  · exact hold.trans hk

/-- A remembered answer was remembered before or has just been recorded. -/
theorem eq_some (h : Recorded spec keys memo memo') {k : κ} {v : α} (hk : memo' k = some v) :
    keys k ∨ memo k = some v := by
  rcases h k with ⟨hkey, -⟩ | ⟨-, hold⟩
  · exact .inl hkey
  · exact .inr (hold.symm.trans hk)

end Recorded

end Lib
