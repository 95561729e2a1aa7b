/-
  VirtioWddm.Lib.Tags

  Values tagged by a counter of machine words.

  A counter gives each new value the next tag.  `hist` is what the values were, by
  the number of the draw, from one on; a tag stands for the value of some draw so far.
  The word wraps, so a tag stands for one value only as long as at most `2 ^ w` are
  drawn.
-/

import Mathlib.Algebra.Group.Nat.Defs
import Mathlib.Data.BitVec
import Mathlib.Logic.Function.Basic

namespace Lib

variable {β : Type*} {w : Nat}

/-- `tag` is that of a draw among the first `n`, whose value is `b`. -/
def TagOf (hist : Nat → β) (n : Nat) (tag : BitVec w) (b : β) : Prop :=
  ∃ k, 0 < k ∧ k ≤ n ∧ tag = BitVec.ofNat w k ∧ hist k = b

section

variable {hist : Nat → β} {n : Nat} {tag : BitVec w} {b b' : β}

/-- The next draw. -/
theorem TagOf.draw (hist : Nat → β) (n : Nat) (b : β) :
    TagOf (Function.update hist (n + 1) b) (n + 1) (BitVec.ofNat w (n + 1)) b :=
  ⟨n + 1, Nat.succ_pos n, Nat.le_refl _, rfl, Function.update_self (n + 1) b hist⟩

/-- Earlier tags stand for what they stood for. -/
theorem TagOf.mono (h : TagOf hist n tag b) (b' : β) :
    TagOf (Function.update hist (n + 1) b') (n + 1) tag b := by
  obtain ⟨k, hpos, hk, htag, hb⟩ := h
  refine ⟨k, hpos, Nat.le_succ_of_le hk, htag, ?_⟩
  rw [Function.update_of_ne (by omega), hb]

/-- The numbers from one to `m` have different remainders. -/
theorem draw_unique {k k' m : Nat} (hpos : 0 < k) (hle : k ≤ m) (hpos' : 0 < k') (hle' : k' ≤ m)
    (h : k % m = k' % m) : k = k' := by
  rcases Nat.lt_or_eq_of_le hle with hlt | rfl
  · rw [Nat.mod_eq_of_lt hlt] at h
    rcases Nat.lt_or_eq_of_le hle' with hlt' | rfl
    · rwa [Nat.mod_eq_of_lt hlt'] at h
    · rw [Nat.mod_self] at h
      omega
  · rw [Nat.mod_self] at h
    rcases Nat.lt_or_eq_of_le hle' with hlt' | heq
    · rw [Nat.mod_eq_of_lt hlt'] at h
      omega
    · exact heq.symm

/-- While the counter has not come round, a tag stands for one value. -/
theorem TagOf.agree (hle : n ≤ 2 ^ w) (h : TagOf hist n tag b) (h' : TagOf hist n tag b') :
    b = b' := by
  obtain ⟨k, hpos, hk, htag, hb⟩ := h
  obtain ⟨k', hpos', hk', htag', hb'⟩ := h'
  have hnat := congrArg BitVec.toNat (htag.symm.trans htag')
  rw [BitVec.toNat_ofNat, BitVec.toNat_ofNat] at hnat
  have hsame := draw_unique hpos (Nat.le_trans hk hle) hpos' (Nat.le_trans hk' hle) hnat
  rw [← hb, ← hb', hsame]

end

end Lib
