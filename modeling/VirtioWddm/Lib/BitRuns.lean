/-
  VirtioWddm.Lib.BitRuns

  Words whose set bits are consecutive.

  `IsRun m first count` says that the set bits of `m` are the `count` ones from `first`
  on.  The loops that look for the lowest bit of a word and count its bits find the two
  numbers.
-/

import VirtioWddm.Lib.Flags

namespace Lib

variable {w : Nat}

/-- The set bits of `m` are `first, .., first + count - 1`. -/
def IsRun (m : BitVec w) (first count : Nat) : Prop :=
  ∀ i, m.getLsbD i = true ↔ first ≤ i ∧ i < first + count

/-- `while (i < n && !(m & (1 << i))) ++i`, with `n` steps left. -/
def lowestBitFrom (m : BitVec w) : Nat → Nat → Nat
  | 0, i => i
  | n + 1, i => if hasFlag m (1#w <<< i) then i else lowestBitFrom m n (i + 1)

/-- `for (b = m; b; b >>= 1) count += b & 1`, with at most `n` iterations left. -/
def countBits : Nat → BitVec w → BitVec w → BitVec w
  | 0, _, count => count
  | n + 1, b, count => if b = 0 then count else countBits n (b >>> 1) (count + (b &&& 1))

section Runs

variable {m : BitVec w} {first count : Nat}

/-- Only the bits of the word need a look. -/
theorem isRun_of_lt (hle : first + count ≤ w)
    (h : ∀ i < w, (m.getLsbD i = true ↔ first ≤ i ∧ i < first + count)) :
    IsRun m first count := by
  intro i
  by_cases hi : i < w
  · exact h i hi
  · rw [BitVec.getLsbD_of_ge m i (Nat.le_of_not_lt hi)]
    exact iff_of_false Bool.false_ne_true fun hrun => by omega

theorem IsRun.getLsbD (h : IsRun m first count) (hpos : 0 < count) : m.getLsbD first = true :=
  (h first).mpr ⟨Nat.le_refl _, by omega⟩

/-- Where the bits of a run are. -/
theorem IsRun.bounds (h : IsRun m first count) {i : Nat} (hi : m.getLsbD i = true) :
    first ≤ i ∧ i < first + count :=
  (h i).mp hi

/-- A non-empty run within another one. -/
theorem IsRun.within {m' : BitVec w'} {first' count' : Nat} (h : IsRun m first count)
    (h' : IsRun m' first' count') (hpos : 0 < count)
    (hsub : ∀ i, m.getLsbD i = true → m'.getLsbD i = true) :
    first' ≤ first ∧ first + count ≤ first' + count' := by
  have hlow := h'.bounds (hsub first (h.getLsbD hpos))
  have hlast : m.getLsbD (first + count - 1) = true := (h _).mpr ⟨by omega, by omega⟩
  have hhigh := h'.bounds (hsub _ hlast)
  omega

/-- The search stops at the first bit of the run. -/
theorem IsRun.lowestBitFrom_eq (h : IsRun m first count) (hpos : 0 < count) {n i : Nat}
    (hi : i ≤ first) (hn : first < i + n) : lowestBitFrom m n i = first := by
  induction n generalizing i with
  | zero => omega
  | succ n ih =>
      rw [lowestBitFrom, hasFlag_one_shiftLeft]
      split
      case isTrue hbit =>
        have hbounds := h.bounds hbit
        omega
      case isFalse hbit =>
        have hne : i ≠ first := fun heq => hbit (heq ▸ h.getLsbD hpos)
        exact ih (by omega) (by omega)

theorem and_one_eq (b : BitVec w) : b &&& 1#w = if b.getLsbD 0 then 1#w else 0#w := by
  have hone : 1#w = BitVec.twoPow w 0 := (BitVec.shiftLeft_zero 1#w).symm
  rw [hone, BitVec.and_twoPow]

/-- Shifting a run that starts at bit 0 drops one bit of it. -/
theorem IsRun.shift_zero (h : IsRun m 0 (count + 1)) : IsRun (m >>> 1) 0 count := by
  intro i
  rw [BitVec.getLsbD_ushiftRight, h]
  omega

theorem IsRun.shift_succ (h : IsRun m (first + 1) count) : IsRun (m >>> 1) first count := by
  intro i
  rw [BitVec.getLsbD_ushiftRight, h]
  omega

/-- The loop counts the bits of the run. -/
theorem IsRun.countBits_eq (h : IsRun m first count) {n : Nat} (hn : first + count ≤ n)
    (c : BitVec w) : countBits n m c = c + BitVec.ofNat w count := by
  induction n generalizing m first count c with
  | zero =>
      obtain rfl : count = 0 := by omega
      exact (BitVec.add_zero c).symm
  | succ n ih =>
      rw [countBits]
      split
      case isTrue hzero =>
        obtain rfl : count = 0 := by
          by_contra hne
          have hbit := h.getLsbD (by omega)
          rw [hzero] at hbit
          simp at hbit
        exact (BitVec.add_zero c).symm
      case isFalse hne =>
        show countBits n (m >>> 1) (c + (m &&& 1#w)) = _
        rw [and_one_eq]
        cases first with
        | zero =>
            cases count with
            | zero =>
                refine absurd (BitVec.eq_of_getLsbD_eq fun i _ => ?_) hne
                have hnot : ¬ m.getLsbD i = true := fun hbit => by
                  have hbounds := h.bounds hbit
                  omega
                simpa using hnot
            | succ count =>
                rw [if_pos (h.getLsbD (Nat.succ_pos _)), ih h.shift_zero (by omega)]
                rw [BitVec.add_assoc, BitVec.ofNat_add, BitVec.add_comm 1#w]
        | succ first =>
            have hlow : ¬ m.getLsbD 0 = true := fun hbit => by
              have hbounds := h.bounds hbit
              omega
            rw [if_neg hlow, BitVec.add_zero, ih h.shift_succ (by omega)]

end Runs

end Lib
