/-
  VirtioWddm.Lib.BitFields

  Words made of fields.

  A word is given by the widths and values of its fields, from the lowest on.  Shifted
  by what is below a field and masked to its width, the word is the field's value.
-/

import Mathlib.Algebra.Group.Nat.Defs

namespace Lib

/-- Widths and values, from the lowest field on. -/
abbrev BitFields := List (Nat × Nat)

namespace BitFields

def width : BitFields → Nat
  | [] => 0
  | (w, _) :: fs => w + width fs

/-- The number with these fields; a value is cut to its width. -/
def pack : BitFields → Nat
  | [] => 0
  | (w, v) :: fs => v % 2 ^ w + 2 ^ w * pack fs

theorem pack_lt (fs : BitFields) : pack fs < 2 ^ width fs := by
  induction fs with
  | nil => exact Nat.one_pos
  | cons f fs ih =>
      have hlow : f.2 % 2 ^ f.1 < 2 ^ f.1 := Nat.mod_lt _ (Nat.two_pow_pos f.1)
      have hhigh : 2 ^ f.1 * (pack fs + 1) ≤ 2 ^ f.1 * 2 ^ width fs :=
        Nat.mul_le_mul_left _ ih
      rw [Nat.mul_succ] at hhigh
      show f.2 % 2 ^ f.1 + 2 ^ f.1 * pack fs < 2 ^ (f.1 + width fs)
      rw [Nat.pow_add]
      omega

/-- The fields above the first ones. -/
theorem pack_append_div (fs gs : BitFields) : pack (fs ++ gs) / 2 ^ width fs = pack gs := by
  induction fs with
  | nil => exact Nat.div_one _
  | cons f fs ih =>
      show (f.2 % 2 ^ f.1 + 2 ^ f.1 * pack (fs ++ gs)) / 2 ^ (f.1 + width fs) = _
      rw [Nat.pow_add, ← Nat.div_div_eq_div_mul, Nat.add_mul_div_left _ _ (Nat.two_pow_pos f.1),
        Nat.mod_div_self, Nat.zero_add]
      exact ih

theorem pack_cons_mod (w v : Nat) (fs : BitFields) : pack ((w, v) :: fs) % 2 ^ w = v % 2 ^ w := by
  show (v % 2 ^ w + 2 ^ w * pack fs) % 2 ^ w = _
  rw [Nat.add_mul_mod_self_left, Nat.mod_mod]

end BitFields

variable {n : Nat}

/-- A shift and a mask of the low bits. -/
theorem toNat_shiftRight_and_mask (x : BitVec n) (k : Nat) {m : Nat} (hm : m ≤ n) :
    ((x >>> k) &&& BitVec.ofNat n (2 ^ m - 1)).toNat = x.toNat / 2 ^ k % 2 ^ m := by
  have hle : 2 ^ m ≤ 2 ^ n := Nat.pow_le_pow_right (by omega) hm
  have hpos := Nat.two_pow_pos m
  rw [BitVec.toNat_and, BitVec.toNat_ushiftRight, BitVec.toNat_ofNat,
    Nat.mod_eq_of_lt (by omega), Nat.and_two_pow_sub_one_eq_mod, Nat.shiftRight_eq_div_pow]

/-- The word with these fields. -/
def wordOfFields (n : Nat) (fs : BitFields) : BitVec n := BitVec.ofNat n fs.pack

theorem toNat_wordOfFields {fs : BitFields} (h : fs.width ≤ n) :
    (wordOfFields n fs).toNat = fs.pack := by
  rw [wordOfFields, BitVec.toNat_ofNat]
  exact Nat.mod_eq_of_lt (Nat.lt_of_lt_of_le fs.pack_lt (Nat.pow_le_pow_right (by omega) h))

/-- A field, read with a shift and a mask. -/
theorem wordOfFields_field {fs : BitFields} (pre post : BitFields) {w v k : Nat}
    (hfs : fs = pre ++ (w, v) :: post) (hk : pre.width = k) (hwidth : fs.width ≤ n) (hw : w ≤ n)
    (hv : v < 2 ^ w) :
    (wordOfFields n fs >>> k) &&& BitVec.ofNat n (2 ^ w - 1) = BitVec.ofNat n v := by
  apply BitVec.eq_of_toNat_eq
  have hle : 2 ^ w ≤ 2 ^ n := Nat.pow_le_pow_right (by omega) hw
  rw [toNat_shiftRight_and_mask _ _ hw, toNat_wordOfFields hwidth, hfs, ← hk,
    BitFields.pack_append_div, BitFields.pack_cons_mod, Nat.mod_eq_of_lt hv, BitVec.toNat_ofNat,
    Nat.mod_eq_of_lt (by omega)]

/-- The lowest field needs no shift. -/
theorem wordOfFields_low {fs : BitFields} (post : BitFields) {w v : Nat}
    (hfs : fs = (w, v) :: post) (hwidth : fs.width ≤ n) (hw : w ≤ n) (hv : v < 2 ^ w) :
    wordOfFields n fs &&& BitVec.ofNat n (2 ^ w - 1) = BitVec.ofNat n v := by
  have h := wordOfFields_field (k := 0) [] post hfs rfl hwidth hw hv
  rw [BitVec.ushiftRight_zero] at h
  exact h

/-- A field of one bit on top, tested with a mask. -/
theorem wordOfFields_top (fs : BitFields) (b : Bool) (h : fs.width = n) :
    (wordOfFields (n + 1) (fs ++ [(1, b.toNat)]) &&& BitVec.twoPow (n + 1) n ≠ 0) ↔ b = true := by
  have hwidth : BitFields.width (fs ++ [(1, b.toNat)]) ≤ n + 1 := by
    subst h
    induction fs with
    | nil => exact Nat.le_refl _
    | cons f fs ih =>
        show f.1 + BitFields.width (fs ++ _) ≤ f.1 + BitFields.width fs + 1
        omega
  have hbit : (wordOfFields (n + 1) (fs ++ [(1, b.toNat)])).getLsbD n = b := by
    rw [BitVec.getLsbD, toNat_wordOfFields hwidth, Nat.testBit_eq_decide_div_mod_eq, ← h,
      BitFields.pack_append_div]
    cases b with
    | false => rfl
    | true => rfl
  rw [BitVec.and_twoPow, hbit]
  cases b with
  | false => exact iff_of_false (fun hne => hne rfl) Bool.false_ne_true
  | true =>
      refine iff_of_true (fun heq => ?_) rfl
      rw [if_pos rfl] at heq
      have hpos := congrArg BitVec.toNat heq
      rw [BitVec.toNat_twoPow,
        Nat.mod_eq_of_lt (Nat.pow_lt_pow_right (by omega) (by omega))] at hpos
      exact absurd hpos (Nat.ne_of_gt (Nat.two_pow_pos n))

end Lib
