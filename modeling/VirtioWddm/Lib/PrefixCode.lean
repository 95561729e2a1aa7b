/-
  VirtioWddm.Lib.PrefixCode

  Codes that can be read off the front of whatever follows them.

  `PrefixFreeOn P code` says that of a code word followed by anything, both the value
  and what follows are determined, for the values with property `P`.  Such codes can be
  put one after the other, and a list of code words that are not empty is determined by
  their concatenation without its length.
-/

import Mathlib.Algebra.Group.Nat.Defs
import Mathlib.Data.List.Basic
import Mathlib.Tactic.Common
import VirtioWddm.Lib.Bytes

namespace Lib

variable {α β γ : Type}

/-- A code word and what follows it are determined. -/
def PrefixFreeOn (P : α → Prop) (code : α → List γ) : Prop :=
  ∀ ⦃a b : α⦄, P a → P b → ∀ ⦃s t : List γ⦄, code a ++ s = code b ++ t → a = b ∧ s = t

section Codes

variable {P : α → Prop} {Q : β → Prop} {code : α → List γ} {code' : β → List γ}

/-- Code words of one length. -/
theorem PrefixFreeOn.of_length {w : Nat} (hlen : ∀ a, (code a).length = w)
    (hinj : ∀ a b, P a → P b → code a = code b → a = b) : PrefixFreeOn P code := by
  intro a b ha hb s t h
  obtain ⟨hcode, hrest⟩ := List.append_inj h (by rw [hlen, hlen])
  exact ⟨hinj a b ha hb hcode, hrest⟩

/-- Lists without `z`, each followed by one. -/
theorem PrefixFreeOn.terminated (z : γ) : PrefixFreeOn (fun xs => z ∉ xs) (· ++ [z]) := by
  intro xs ys hx hy s t h
  induction xs generalizing ys with
  | nil =>
      cases ys with
      | nil => exact ⟨rfl, List.cons.inj h |>.2⟩
      | cons y ys => exact absurd (List.cons.inj h).1 (List.ne_of_not_mem_cons hy)
  | cons x xs ih =>
      cases ys with
      | nil => exact absurd (List.cons.inj h).1.symm (List.ne_of_not_mem_cons hx)
      | cons y ys =>
          obtain ⟨hhead, htail⟩ := List.cons.inj h
          obtain ⟨hxs, hrest⟩ :=
            ih (List.not_mem_of_not_mem_cons hx) (List.not_mem_of_not_mem_cons hy) htail
          exact ⟨by rw [hhead, hxs], hrest⟩

/-- One code after the other. -/
theorem PrefixFreeOn.pair (h : PrefixFreeOn P code) (h' : PrefixFreeOn Q code') :
    PrefixFreeOn (fun x : α × β => P x.1 ∧ Q x.2) fun x => code x.1 ++ code' x.2 := by
  intro x y hx hy s t heq
  rw [List.append_assoc, List.append_assoc] at heq
  obtain ⟨hfst, hrest⟩ := h hx.1 hy.1 heq
  obtain ⟨hsnd, hrest⟩ := h' hx.2 hy.2 hrest
  exact ⟨Prod.ext hfst hsnd, hrest⟩

/-- Lists after a code of their length. -/
theorem PrefixFreeOn.counted {P : Nat → Prop} {code : Nat → List γ} (h : PrefixFreeOn P code) :
    PrefixFreeOn (fun xs => P xs.length) fun xs : List γ => code xs.length ++ xs := by
  intro xs ys hx hy s t heq
  rw [List.append_assoc, List.append_assoc] at heq
  obtain ⟨hlen, hrest⟩ := h hx hy heq
  exact List.append_inj hrest hlen

/-- A list of code words is determined by their concatenation. -/
theorem PrefixFreeOn.flatMap_injOn (h : PrefixFreeOn P code) (hne : ∀ a, P a → code a ≠ [])
    {as bs : List α} (has : ∀ a ∈ as, P a) (hbs : ∀ b ∈ bs, P b)
    (heq : as.flatMap code = bs.flatMap code) : as = bs := by
  induction as generalizing bs with
  | nil =>
      cases bs with
      | nil => rfl
      | cons b bs =>
          rw [List.flatMap_nil, List.flatMap_cons] at heq
          exact absurd (List.append_eq_nil_iff.mp heq.symm).1 (hne b (hbs b List.mem_cons_self))
  | cons a as ih =>
      cases bs with
      | nil =>
          rw [List.flatMap_nil, List.flatMap_cons] at heq
          exact absurd (List.append_eq_nil_iff.mp heq).1 (hne a (has a List.mem_cons_self))
      | cons b bs =>
          rw [List.flatMap_cons, List.flatMap_cons] at heq
          obtain ⟨hhead, hrest⟩ :=
            h (has a List.mem_cons_self) (hbs b List.mem_cons_self) heq
          rw [hhead, ih (fun x hx => has x (List.mem_cons_of_mem a hx))
            (fun x hx => hbs x (List.mem_cons_of_mem b hx)) hrest]

/-- As many code words, and what follows them. -/
theorem PrefixFreeOn.flatMap_append_inj (h : PrefixFreeOn P code) {as bs : List α}
    (hlen : as.length = bs.length) (has : ∀ a ∈ as, P a) (hbs : ∀ b ∈ bs, P b) {s t : List γ}
    (heq : as.flatMap code ++ s = bs.flatMap code ++ t) : as = bs ∧ s = t := by
  induction as generalizing bs with
  | nil =>
      obtain rfl : bs = [] := List.length_eq_zero_iff.mp hlen.symm
      exact ⟨rfl, heq⟩
  | cons a as ih =>
      obtain ⟨b, bs, rfl⟩ : ∃ b rest, bs = b :: rest :=
        List.exists_cons_of_length_eq_add_one hlen.symm
      rw [List.flatMap_cons, List.flatMap_cons, List.append_assoc, List.append_assoc] at heq
      obtain ⟨hhead, hrest⟩ := h (has a List.mem_cons_self) (hbs b List.mem_cons_self) heq
      obtain ⟨htail, hrest⟩ := ih (Nat.succ.inj hlen)
        (fun x hx => has x (List.mem_cons_of_mem a hx))
        (fun x hx => hbs x (List.mem_cons_of_mem b hx)) hrest
      exact ⟨by rw [hhead, htail], hrest⟩

end Codes

-- ============================================================================
-- Numbers
-- ============================================================================

/-- The `w` lowest bytes of a number, lowest first. -/
def leDigits : Nat → Nat → List Byte
  | 0, _ => []
  | w + 1, n => BitVec.ofNat 8 n :: leDigits w (n / 256)

@[simp] theorem length_leDigits (w n : Nat) : (leDigits w n).length = w := by
  induction w generalizing n with
  | zero => rfl
  | succ w ih => rw [leDigits, List.length_cons, ih]

theorem leDigits_inj {w m n : Nat} (hm : m < 256 ^ w) (hn : n < 256 ^ w)
    (h : leDigits w m = leDigits w n) : m = n := by
  induction w generalizing m n with
  | zero =>
      rw [Nat.pow_zero] at hm hn
      omega
  | succ w ih =>
      rw [Nat.pow_succ] at hm hn
      obtain ⟨hlow, hhigh⟩ := List.cons.inj h
      have hdiv := ih (Nat.div_lt_of_lt_mul (by omega)) (Nat.div_lt_of_lt_mul (by omega)) hhigh
      have hmod := congrArg BitVec.toNat hlow
      rw [BitVec.toNat_ofNat, BitVec.toNat_ofNat] at hmod
      omega

/-- The numbers that fit. -/
theorem prefixFreeOn_leDigits (w : Nat) : PrefixFreeOn (· < 256 ^ w) (leDigits w) :=
  .of_length (length_leDigits w) fun _ _ hm hn h => leDigits_inj hm hn h

end Lib
