/-
  VirtioWddm.Lib.Flags

  Words of flags, and values that share a word with a tag.

  `hasFlag flags m` is the C condition `flags & m`; it distributes over `|`, and a
  mask cleared with `& ~m` is invisible to every mask disjoint from it.  A value
  none of whose bits are in `tag` is stored as `value | tag` and read back with
  `& ~tag`.
-/

import Mathlib.Algebra.Group.Nat.Defs
import Mathlib.Tactic.Common

namespace Lib

variable {w : Nat}

/-- `flags & bit` as a condition. -/
def hasFlag (flags bit : BitVec w) : Bool :=
  flags &&& bit != 0

/-- `flags & (1 << i)` tests bit `i`. -/
theorem hasFlag_one_shiftLeft (flags : BitVec w) (i : Nat) :
    hasFlag flags (1#w <<< i) = flags.getLsbD i := by
  show (flags &&& BitVec.twoPow w i != 0) = _
  rw [BitVec.and_twoPow]
  cases hbit : flags.getLsbD i with
  | false => exact bne_self_eq_false 0#w
  | true =>
      have hlt : i < w := BitVec.lt_of_getLsbD hbit
      have hne : BitVec.twoPow w i ≠ 0#w := by
        intro hzero
        have hlsb := congrArg (fun x : BitVec w => x.getLsbD i) hzero
        simp [hlt] at hlsb
      exact bne_iff_ne.mpr hne

/-- A run of lines `if (from & a) to |= b;`, folded over the table of the `(a, b)`
    pairs. -/
def translateFlags (table : List (BitVec w × BitVec w)) (flags : BitVec w) : BitVec w :=
  table.foldl (fun acc p => if hasFlag flags p.1 then acc ||| p.2 else acc) 0#w

-- ============================================================================
-- Conditions on combined words
-- ============================================================================

theorem hasFlag_eq_false {flags m : BitVec w} : hasFlag flags m = false ↔ flags &&& m = 0#w := by
  simp [hasFlag]

theorem hasFlag_or (a b m : BitVec w) : hasFlag (a ||| b) m = (hasFlag a m || hasFlag b m) := by
  have hdistrib : (a ||| b) &&& m = a &&& m ||| b &&& m := by
    apply BitVec.eq_of_getLsbD_eq
    intro i _
    simp only [BitVec.getLsbD_and, BitVec.getLsbD_or]
    cases m.getLsbD i <;> simp
  rw [Bool.eq_iff_iff]
  simp only [hasFlag, hdistrib, Bool.or_eq_true, bne_iff_ne, ne_eq, BitVec.ofNat_eq_ofNat]
  rw [BitVec.or_eq_zero_iff, not_and_or]

theorem hasFlag_comm (a m : BitVec w) : hasFlag a m = hasFlag m a := by
  rw [hasFlag, BitVec.and_comm, ← hasFlag]

theorem hasFlag_or_mask (a m m' : BitVec w) :
    hasFlag a (m ||| m') = (hasFlag a m || hasFlag a m') := by
  rw [hasFlag_comm, hasFlag_or, hasFlag_comm m, hasFlag_comm m']

/-- Adding a mask is invisible to every mask disjoint from it. -/
theorem hasFlag_or_disjoint {a m m' : BitVec w} (h : m &&& m' = 0#w) :
    hasFlag (a ||| m) m' = hasFlag a m' := by
  have hm : hasFlag m m' = false := hasFlag_eq_false.mpr h
  rw [hasFlag_or, hm, Bool.or_false]

theorem hasFlag_and_not_self (a m : BitVec w) : hasFlag (a &&& ~~~m) m = false := by
  have hself : ~~~m &&& m = 0#w := by simp
  rw [hasFlag_eq_false, BitVec.and_assoc, hself, BitVec.and_zero]

/-- Clearing a mask is invisible to every mask disjoint from it. -/
theorem hasFlag_and_not {a m m' : BitVec w} (h : m &&& m' = 0#w) :
    hasFlag (a &&& ~~~m) m' = hasFlag a m' := by
  have hkeep : a &&& ~~~m &&& m' = a &&& m' := by
    apply BitVec.eq_of_getLsbD_eq
    intro i hi
    have hbit : (m.getLsbD i && m'.getLsbD i) = false := by
      rw [← BitVec.getLsbD_and, h, BitVec.getLsbD_zero]
    simp only [BitVec.getLsbD_and, BitVec.getLsbD_not, hi, decide_true, Bool.true_and]
    cases hm : m.getLsbD i <;> cases hm' : m'.getLsbD i <;> simp_all
  simp only [hasFlag, hkeep]

theorem hasFlag_zero (m : BitVec w) : hasFlag 0#w m = false := by
  rw [hasFlag_eq_false, BitVec.zero_and]

/-- A translated word has a flag when some line of the table contributes to it. -/
theorem hasFlag_translateFlags (table : List (BitVec w × BitVec w)) (flags m : BitVec w) :
    hasFlag (translateFlags table flags) m =
      table.any fun p => hasFlag flags p.1 && hasFlag p.2 m := by
  suffices hfold : ∀ acc, hasFlag
      (table.foldl (fun acc p => if hasFlag flags p.1 then acc ||| p.2 else acc) acc) m =
        (hasFlag acc m || table.any fun p => hasFlag flags p.1 && hasFlag p.2 m) by
    rw [translateFlags, hfold, hasFlag_zero, Bool.false_or]
  induction table with
  | nil => simp
  | cons p table ih =>
      intro acc
      rw [List.foldl_cons, ih, List.any_cons, ← Bool.or_assoc]
      congr 1
      split
      case isTrue hp => rw [hasFlag_or, hp, Bool.true_and]
      case isFalse hp => simp [hp]

/-- No line of the table contributes to the flag. -/
theorem hasFlag_translateFlags_none {table : List (BitVec w × BitVec w)} {m : BitVec w}
    (h : (table.any fun p => hasFlag p.2 m) = false) (flags : BitVec w) :
    hasFlag (translateFlags table flags) m = false := by
  rw [hasFlag_translateFlags, List.any_eq_false]
  intro p hp hboth
  have hline := (Bool.and_eq_true_iff.mp hboth).2
  exact List.any_eq_false.mp h p hp hline

/-- Exactly one line of the table contributes to the flag. -/
theorem hasFlag_translateFlags_line {table : List (BitVec w × BitVec w)} {a b m : BitVec w}
    (hmem : (a, b) ∈ table) (hb : hasFlag b m = true)
    (honly : (table.all fun p => !hasFlag p.2 m || p.1 == a) = true) (flags : BitVec w) :
    hasFlag (translateFlags table flags) m = hasFlag flags a := by
  rw [hasFlag_translateFlags, Bool.eq_iff_iff, List.any_eq_true]
  constructor
  · rintro ⟨p, hp, hboth⟩
    obtain ⟨hflag, hline⟩ := Bool.and_eq_true_iff.mp hboth
    have hsame := List.all_eq_true.mp honly p hp
    rw [hline, Bool.not_true, Bool.false_or, beq_iff_eq] at hsame
    rw [← hsame]
    exact hflag
  · intro hflag
    exact ⟨(a, b), hmem, Bool.and_eq_true_iff.mpr ⟨hflag, hb⟩⟩

-- ============================================================================
-- Tagged values
-- ============================================================================

theorem hasFlag_or_self {v tag : BitVec w} (h : tag ≠ 0#w) : hasFlag (v ||| tag) tag = true := by
  have hself : hasFlag tag tag = true := by simpa [hasFlag] using h
  rw [hasFlag_or, hself, Bool.or_true]

/-- A tagged value is read back as it was stored. -/
theorem or_and_not {v tag : BitVec w} (h : v &&& tag = 0#w) : (v ||| tag) &&& ~~~tag = v := by
  apply BitVec.eq_of_getLsbD_eq
  intro i hi
  have hbit : (v.getLsbD i && tag.getLsbD i) = false := by
    rw [← BitVec.getLsbD_and, h, BitVec.getLsbD_zero]
  simp only [BitVec.getLsbD_and, BitVec.getLsbD_or, BitVec.getLsbD_not, hi, decide_true,
    Bool.true_and]
  cases hv : v.getLsbD i <;> cases ht : tag.getLsbD i <;> simp_all

/-- A value below the top bit leaves that bit free. -/
theorem and_topBit_eq_zero {v : BitVec (w + 1)} (h : v.toNat < 2 ^ w) :
    v &&& BitVec.twoPow (w + 1) w = 0#(w + 1) := by
  have hmsb : v.getLsbD w = false := by
    have hv := BitVec.msb_eq_decide v
    rw [BitVec.msb_eq_getLsbD_last] at hv
    simp only [Nat.add_sub_cancel] at hv
    rw [hv, decide_eq_false_iff_not]
    omega
  rw [BitVec.and_twoPow, hmsb]
  rfl

end Lib
