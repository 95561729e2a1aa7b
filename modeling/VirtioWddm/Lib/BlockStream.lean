/-
  VirtioWddm.Lib.BlockStream

  A value folded over the blocks of a stream that arrives in pieces.

  `feed` takes one element: it waits until a block is full and then folds it in.  All
  else is a fold of `feed`, so that how a stream is cut into pieces cannot matter; the
  rules say what `absorb` does with a piece that leaves the block open, with one that
  fills it and with a whole stream.
-/

import Mathlib.Data.List.Basic
import Mathlib.Tactic.Common

namespace Lib

variable {σ β : Type}

/-- What has been folded so far, and the block that is not full yet. -/
structure BlockStream (σ β : Type) where
  value : σ
  pending : List β
deriving DecidableEq

section Absorb

variable (f : σ → List β → σ) (m : Nat)

/-- One more element. -/
def feed (st : BlockStream σ β) (b : β) : BlockStream σ β :=
  if st.pending.length + 1 = m then ⟨f st.value (st.pending ++ [b]), []⟩
  else ⟨st.value, st.pending ++ [b]⟩

/-- One more piece. -/
def absorb (st : BlockStream σ β) (bs : List β) : BlockStream σ β :=
  bs.foldl (feed f m) st

/-- Pieces one after the other are one piece. -/
theorem absorb_append (st : BlockStream σ β) (bs cs : List β) :
    absorb f m st (bs ++ cs) = absorb f m (absorb f m st bs) cs :=
  List.foldl_append

end Absorb

-- ============================================================================
-- Pieces
-- ============================================================================

section Pieces

variable {f : σ → List β → σ} {m : Nat} {s : σ} {pend bs : List β}

/-- A piece that leaves the block open. -/
theorem absorb_of_lt (h : pend.length + bs.length < m) :
    absorb f m ⟨s, pend⟩ bs = ⟨s, pend ++ bs⟩ := by
  induction bs generalizing pend with
  | nil => rw [List.append_nil, absorb, List.foldl_nil]
  | cons b bs ih =>
      rw [List.length_cons] at h
      have hopen : feed f m ⟨s, pend⟩ b = ⟨s, pend ++ [b]⟩ := if_neg (by dsimp only; omega)
      have hlen : (pend ++ [b]).length + bs.length < m := by
        rw [List.length_append, List.length_singleton]
        omega
      rw [absorb, List.foldl_cons, hopen, ← absorb, ih hlen, List.append_assoc]
      rfl

/-- A piece that fills the block. -/
theorem absorb_of_eq (h : pend.length + bs.length = m) (hne : bs ≠ []) :
    absorb f m ⟨s, pend⟩ bs = ⟨f s (pend ++ bs), []⟩ := by
  obtain ⟨init, last, rfl⟩ : ∃ init last, bs = init ++ [last] :=
    ⟨_, _, (List.dropLast_concat_getLast hne).symm⟩
  rw [List.length_append, List.length_singleton] at h
  have hfull : feed f m ⟨s, pend ++ init⟩ last = ⟨f s (pend ++ init ++ [last]), []⟩ :=
    if_pos (by dsimp only; rw [List.length_append]; omega)
  have hinit : absorb f m ⟨s, pend⟩ init = ⟨s, pend ++ init⟩ := absorb_of_lt (by omega)
  rw [absorb_append, hinit, ← List.append_assoc]
  exact hfull

/-- A piece that fills the block and goes on. -/
theorem absorb_of_le (h : m ≤ pend.length + bs.length) (hpend : pend.length < m) :
    absorb f m ⟨s, pend⟩ bs =
      absorb f m ⟨f s (pend ++ bs.take (m - pend.length)), []⟩ (bs.drop (m - pend.length)) := by
  have hlen : (bs.take (m - pend.length)).length = m - pend.length := by
    rw [List.length_take]
    omega
  have hne : bs.take (m - pend.length) ≠ [] := List.ne_nil_of_length_pos (by omega)
  conv_lhs => rw [← List.take_append_drop (m - pend.length) bs, absorb_append]
  rw [absorb_of_eq (by omega) hne]

end Pieces

-- ============================================================================
-- Whole streams
-- ============================================================================

/-- The first `k` blocks of length `m`. -/
def blocks (m : Nat) : Nat → List β → List (List β)
  | 0, _ => []
  | k + 1, bs => bs.take m :: blocks m k (bs.drop m)

/-- All complete blocks of a stream. -/
def completeBlocks (m : Nat) (bs : List β) : List (List β) :=
  blocks m (bs.length / m) bs

/-- What follows the complete blocks. -/
def blockTail (m : Nat) (bs : List β) : List β :=
  bs.drop (bs.length / m * m)

section Whole

variable {f : σ → List β → σ} {m : Nat}

/-- The blocks do not depend on what follows them. -/
theorem blocks_take (k : Nat) (bs : List β) : blocks m k (bs.take (k * m)) = blocks m k bs := by
  induction k generalizing bs with
  | zero => rfl
  | succ k ih =>
      rw [blocks, blocks, Nat.succ_mul, List.take_take, Nat.min_eq_left (Nat.le_add_left m _),
        List.drop_take, Nat.add_sub_cancel, ih]

theorem absorb_blocks {k : Nat} {s : σ} {bs : List β} (hm : 0 < m) (h : k * m ≤ bs.length) :
    absorb f m ⟨s, []⟩ bs = absorb f m ⟨(blocks m k bs).foldl f s, []⟩ (bs.drop (k * m)) := by
  induction k generalizing s bs with
  | zero => rw [Nat.zero_mul, List.drop_zero, blocks, List.foldl_nil]
  | succ k ih =>
      rw [Nat.succ_mul] at h
      have hfirst : absorb f m ⟨s, []⟩ bs = absorb f m ⟨f s (bs.take m), []⟩ (bs.drop m) :=
        absorb_of_le (by rw [List.length_nil]; omega) hm
      rw [hfirst, ih (by rw [List.length_drop]; omega), List.drop_drop, blocks, List.foldl_cons,
        Nat.succ_mul, Nat.add_comm m]

/-- A stream from its beginning: the complete blocks are folded, the rest is pending. -/
theorem absorb_eq (hm : 0 < m) (s : σ) (bs : List β) :
    absorb f m ⟨s, []⟩ bs = ⟨(completeBlocks m bs).foldl f s, blockTail m bs⟩ := by
  have hlen : (blockTail m bs).length < m := by
    rw [blockTail, List.length_drop, Nat.mul_comm]
    have hdiv := Nat.div_add_mod bs.length m
    have hmod := Nat.mod_lt bs.length hm
    omega
  rw [absorb_blocks hm (Nat.div_mul_le_self bs.length m), ← completeBlocks, ← blockTail,
    absorb_of_lt (by rw [List.length_nil, Nat.zero_add]; exact hlen), List.nil_append]

end Whole

end Lib
