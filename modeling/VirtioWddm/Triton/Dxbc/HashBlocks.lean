/-
  VirtioWddm.Triton.Dxbc.HashBlocks

  What the container hash computes, as a fold over the blocks of a padded message.

  Between calls the array of the context holds what has not been transformed yet, as
  far as the bit count says, and older bytes behind it.  `DxbcMd5Ctx.view` forgets
  these; under it one call of `md5Update` absorbs its bytes into a block stream,
  whichever of its paths it takes.  The trailer blocks of `dxbcHash` are then one more
  piece of the stream.
-/

import Mathlib.Algebra.Group.Nat.Defs
import VirtioWddm.Lib.BlockStream
import VirtioWddm.Triton.Dxbc.Md5

namespace VirtioWddm

open Lib

-- ============================================================================
-- The view
-- ============================================================================

/-- `md5Transform` of 64 bytes. -/
def md5Block (buf : Md5Buf) (block : List Byte) : Md5Buf :=
  md5Transform buf (blockWords block)

/-- How many bytes of the array are in use. -/
def DxbcMd5Ctx.filled (ctx : DxbcMd5Ctx) : Nat :=
  ((ctx.bits₀ >>> 3) &&& 0x3F#32).toNat

/-- The bytes that have not been transformed yet. -/
def DxbcMd5Ctx.pendingBytes (ctx : DxbcMd5Ctx) : List Byte :=
  ctx.pending.take ctx.filled

/-- Both words of the bit count. -/
def DxbcMd5Ctx.bitCount (ctx : DxbcMd5Ctx) : UINT64 :=
  ctx.bits₁ ++ ctx.bits₀

/-- The part of a context that the following calls depend on. -/
structure Md5View where
  stream : BlockStream Md5Buf Byte
  bitCount : UINT64
deriving DecidableEq

def DxbcMd5Ctx.view (ctx : DxbcMd5Ctx) : Md5View where
  stream := ⟨ctx.buf, ctx.pendingBytes⟩
  bitCount := ctx.bitCount

/-- The bytes are absorbed and counted. -/
def Md5View.update (v : Md5View) (bs : List Byte) : Md5View where
  stream := absorb md5Block 64 v.stream bs
  bitCount := v.bitCount + BitVec.ofNat 64 (8 * bs.length)

theorem Md5View.update_append (v : Md5View) (bs cs : List Byte) :
    v.update (bs ++ cs) = (v.update bs).update cs := by
  rw [update, update, update, absorb_append, List.length_append, Nat.mul_add, BitVec.ofNat_add,
    BitVec.add_assoc]

-- ============================================================================
-- The bit count
-- ============================================================================

section Count

variable (ctx : DxbcMd5Ctx) (len : Nat)

theorem filled_eq : ctx.filled = ctx.bits₀.toNat / 8 % 64 := by
  rw [DxbcMd5Ctx.filled, BitVec.toNat_and, BitVec.toNat_ushiftRight, Nat.shiftRight_eq_div_pow]
  exact Nat.and_two_pow_sub_one_eq_mod _ 6

theorem filled_lt : ctx.filled < 64 := by
  rw [filled_eq]
  exact Nat.mod_lt _ (by decide)

/-- Eight times a length, in the lower word. -/
theorem toNat_shiftLeft_ofNat :
    (BitVec.ofNat 32 len <<< 3).toNat = 8 * len % 2 ^ 32 := by
  rw [BitVec.toNat_shiftLeft, BitVec.toNat_ofNat, Nat.shiftLeft_eq]
  omega

theorem toNat_count_bits₀ :
    (ctx.count len).bits₀.toNat = (ctx.bits₀.toNat + 8 * len) % 2 ^ 32 := by
  rw [DxbcMd5Ctx.count, BitVec.toNat_add, toNat_shiftLeft_ofNat]
  omega

theorem toNat_count_bits₁ :
    (ctx.count len).bits₁.toNat =
      (ctx.bits₁.toNat + (ctx.bits₀.toNat + 8 * len) / 2 ^ 32) % 2 ^ 32 := by
  have hbits₀ := toNat_count_bits₀ ctx len
  have hlt := ctx.bits₀.isLt
  -- the carry is the comparison of the sum with one of its summands
  have hcarry : (if (ctx.count len).bits₀ < ctx.bits₀ then ctx.bits₁ + 1#32
      else ctx.bits₁).toNat =
        (ctx.bits₁.toNat + (ctx.bits₀.toNat + 8 * len % 2 ^ 32) / 2 ^ 32) % 2 ^ 32 := by
    split
    case isTrue hover =>
      have hover := BitVec.lt_def.mp hover
      rw [BitVec.toNat_add]
      show (ctx.bits₁.toNat + 1) % 2 ^ 32 = _
      omega
    case isFalse hfits =>
      have hfits := BitVec.le_def.mp (BitVec.not_lt.mp hfits)
      have hbits₁ := ctx.bits₁.isLt
      omega
  show ((if (ctx.count len).bits₀ < ctx.bits₀ then ctx.bits₁ + 1#32 else ctx.bits₁) +
    BitVec.ofNat 32 (len / 536870912)).toNat = _
  rw [BitVec.toNat_add, hcarry, BitVec.toNat_ofNat]
  omega

theorem filled_count : (ctx.count len).filled = (ctx.filled + len) % 64 := by
  rw [filled_eq, filled_eq, toNat_count_bits₀]
  omega

theorem toNat_bitCount :
    ctx.bitCount.toNat = ctx.bits₁.toNat * 2 ^ 32 + ctx.bits₀.toNat := by
  rw [DxbcMd5Ctx.bitCount, BitVec.toNat_append, ← Nat.shiftLeft_add_eq_or_of_lt ctx.bits₀.isLt,
    Nat.shiftLeft_eq]

/-- The two words count in one. -/
theorem bitCount_count :
    (ctx.count len).bitCount = ctx.bitCount + BitVec.ofNat 64 (8 * len) := by
  apply BitVec.eq_of_toNat_eq
  have hbits₁ := ctx.bits₁.isLt
  have hbits₀ := ctx.bits₀.isLt
  rw [toNat_bitCount, toNat_count_bits₀, toNat_count_bits₁, BitVec.toNat_add, toNat_bitCount,
    BitVec.toNat_ofNat]
  omega

end Count

-- ============================================================================
-- One call
-- ============================================================================

section Update

variable {ctx : DxbcMd5Ctx} {bs : List Byte}

/-- A block is read from the first 64 bytes. -/
theorem blockWords_take (h : 64 ≤ bs.length) : blockWords (bs.take 64) = blockWords bs := by
  rw [blockWords, blockWords]
  apply List.map_congr_left
  intro i hi
  have hi : i < 16 := List.mem_range.mp hi
  have hlen : (bs.take 64).length = 64 := by
    rw [List.length_take]
    omega
  have hword : wordAt? (bs.take 64) (4 * i) = wordAt? bs (4 * i) := by
    conv_rhs => rw [← List.take_append_drop 64 bs]
    exact (wordAt?_append_left (by omega)).symm
  rw [hword]

/-- The loops over the blocks: both transform the same blocks, and they leave an array
    and the rest. -/
theorem md5Blocks_eq (aligned : Bool) (n : Nat) (ctx : DxbcMd5Ctx) (bs : List Byte)
    (harray : ctx.pending.length = 64)
    (h : n * 64 ≤ bs.length) :
    ∃ array, array.length = 64 ∧ md5Blocks aligned n ctx bs =
      ({ ctx with buf := (blocks 64 n bs).foldl md5Block ctx.buf, pending := array },
        bs.drop (n * 64)) := by
  induction n generalizing ctx bs with
  | zero => exact ⟨ctx.pending, harray, rfl⟩
  | succ n ih =>
      rw [Nat.succ_mul] at h
      have hlen : (bs.take 64).length = 64 := by
        rw [List.length_take]
        omega
      have hfirst : md5Transform ctx.buf (blockWords bs) = md5Block ctx.buf (bs.take 64) := by
        rw [md5Block, blockWords_take (by omega)]
      have hpatch : (patch ctx.pending 0 (bs.take 64)).length = 64 := by
        rw [length_patch (by omega), harray]
      have hrest : n * 64 ≤ (bs.drop 64).length := by
        rw [List.length_drop]
        omega
      rw [md5Blocks, blocks, List.foldl_cons, Nat.succ_mul, Nat.add_comm (n * 64),
        ← List.drop_drop]
      cases aligned with
      | true =>
          obtain ⟨array, harray', heq⟩ :=
            ih { ctx with buf := md5Block ctx.buf (bs.take 64) } _ harray hrest
          refine ⟨array, harray', ?_⟩
          rw [← heq, ← hfirst]
          rfl
      | false =>
          obtain ⟨array, harray', heq⟩ :=
            ih { ctx with
              buf := md5Block ctx.buf (bs.take 64)
              pending := patch ctx.pending 0 (bs.take 64) } _ hpatch hrest
          refine ⟨array, harray', ?_⟩
          rw [← heq, ← hfirst]
          rfl

/-- The rest of a call, from an empty array on. -/
theorem md5Rest_eq (addr : Nat) (ctx : DxbcMd5Ctx) (bs : List Byte)
    (harray : ctx.pending.length = 64) :
    ∃ array, array.length = 64 ∧
      array.take (bs.length % 64) = (absorb md5Block 64 ⟨ctx.buf, []⟩ bs).pending ∧
      md5Rest addr ctx bs =
        { ctx with
          buf := (absorb md5Block 64 ⟨ctx.buf, []⟩ bs).value
          pending := array } := by
  obtain ⟨array, harray', heq⟩ :=
    md5Blocks_eq (decide (addr % 4 = 0)) _ ctx bs harray (Nat.div_mul_le_self bs.length 64)
  have htail : (blockTail 64 bs).length = bs.length % 64 := by
    rw [blockTail, List.length_drop]
    omega
  rw [absorb_eq (by decide)]
  refine ⟨patch array 0 (blockTail 64 bs), ?_, ?_, ?_⟩
  · rw [length_patch (by omega), harray']
  · have htake := take_patch array (blockTail 64 bs) (Nat.zero_le _)
    rw [htail, Nat.zero_add] at htake
    exact htake
  · rw [md5Rest, heq]
    rfl

/-- A context that has been counted up by `len` bytes, whatever became of its value and
    its array. -/
theorem view_counted (ctx : DxbcMd5Ctx) (len : Nat) (buf : Md5Buf) (array : List Byte) :
    ({ ctx.count len with buf := buf, pending := array } : DxbcMd5Ctx).view =
      ⟨⟨buf, array.take ((ctx.filled + len) % 64)⟩,
        ctx.bitCount + BitVec.ofNat 64 (8 * len)⟩ := by
  rw [← filled_count, ← bitCount_count]
  rfl

theorem length_pendingBytes (harray : ctx.pending.length = 64) :
    ctx.pendingBytes.length = ctx.filled := by
  have hlt := filled_lt ctx
  rw [DxbcMd5Ctx.pendingBytes, List.length_take]
  omega

/-- The bytes fit the array. -/
theorem md5Update_short (addr : Nat) (harray : ctx.pending.length = 64) (hne : ctx.filled ≠ 0)
    (h : bs.length < 64 - ctx.filled) :
    (md5Update ctx addr bs).pending.length = 64 ∧
      (md5Update ctx addr bs).view = ctx.view.update bs := by
  have heq : md5Update ctx addr bs =
      { ctx.count bs.length with
        buf := ctx.buf
        pending := patch ctx.pending ctx.filled bs } := by
    rw [md5Update]
    exact (if_pos hne).trans (if_pos h)
  have hlen := length_pendingBytes harray
  rw [heq]
  refine ⟨by rw [length_patch (by omega), harray], ?_⟩
  rw [view_counted, Md5View.update, DxbcMd5Ctx.view, absorb_of_lt (by omega),
    Nat.mod_eq_of_lt (by omega), take_patch _ _ (by omega), DxbcMd5Ctx.pendingBytes]

/-- The array is filled up and transformed. -/
theorem md5Update_fill (addr : Nat) (harray : ctx.pending.length = 64) (hne : ctx.filled ≠ 0)
    (h : ¬bs.length < 64 - ctx.filled) :
    md5Update ctx addr bs =
      md5Rest (addr + (64 - ctx.filled))
        { ctx.count bs.length with
          pending := ctx.pendingBytes ++ bs.take (64 - ctx.filled)
          buf := md5Block ctx.buf (ctx.pendingBytes ++ bs.take (64 - ctx.filled)) }
        (bs.drop (64 - ctx.filled)) := by
  have htake : (bs.take (64 - ctx.filled)).length = 64 - ctx.filled := by
    rw [List.length_take]
    omega
  have hblock : patch ctx.pending ctx.filled (bs.take (64 - ctx.filled)) =
      ctx.pendingBytes ++ bs.take (64 - ctx.filled) := by
    rw [patch, List.drop_of_length_le (by omega), List.append_nil, DxbcMd5Ctx.pendingBytes]
  rw [md5Update, ← hblock]
  exact (if_pos hne).trans (if_neg h)

/-- Then the rest follows from an empty array. -/
theorem md5Update_long (addr : Nat) (harray : ctx.pending.length = 64) (hne : ctx.filled ≠ 0)
    (h : ¬bs.length < 64 - ctx.filled) :
    (md5Update ctx addr bs).pending.length = 64 ∧
      (md5Update ctx addr bs).view = ctx.view.update bs := by
  have hlt := filled_lt ctx
  have hlen := length_pendingBytes harray
  have hfull : (ctx.pendingBytes ++ bs.take (64 - ctx.filled)).length = 64 := by
    rw [List.length_append, List.length_take]
    omega
  obtain ⟨array, harray', hpending, heq⟩ := md5Rest_eq (addr + (64 - ctx.filled))
    { ctx.count bs.length with
      pending := ctx.pendingBytes ++ bs.take (64 - ctx.filled)
      buf := md5Block ctx.buf (ctx.pendingBytes ++ bs.take (64 - ctx.filled)) }
    (bs.drop (64 - ctx.filled)) hfull
  have hleft : (bs.drop (64 - ctx.filled)).length % 64 = (ctx.filled + bs.length) % 64 := by
    rw [List.length_drop]
    omega
  have habsorb : absorb md5Block 64 ⟨ctx.buf, ctx.pendingBytes⟩ bs =
      absorb md5Block 64
        ⟨md5Block ctx.buf (ctx.pendingBytes ++ bs.take (64 - ctx.filled)), []⟩
        (bs.drop (64 - ctx.filled)) := by
    rw [absorb_of_le (by omega) (by omega), hlen]
  rw [md5Update_fill addr harray hne h, heq]
  refine ⟨harray', ?_⟩
  rw [hleft] at hpending
  dsimp only at hpending ⊢
  rw [view_counted, Md5View.update, DxbcMd5Ctx.view, habsorb, hpending]

/-- The array is empty. -/
theorem md5Update_empty (addr : Nat) (harray : ctx.pending.length = 64) (hzero : ctx.filled = 0) :
    (md5Update ctx addr bs).pending.length = 64 ∧
      (md5Update ctx addr bs).view = ctx.view.update bs := by
  obtain ⟨array, harray', hpending, heq⟩ :=
    md5Rest_eq addr (ctx.count bs.length) bs harray
  have hstep : md5Update ctx addr bs = md5Rest addr (ctx.count bs.length) bs := by
    rw [md5Update]
    exact if_neg fun hne => hne hzero
  have hnone : ctx.pendingBytes = [] := by
    rw [DxbcMd5Ctx.pendingBytes, hzero, List.take_zero]
  have hbuf : (ctx.count bs.length).buf = ctx.buf := rfl
  rw [hstep, heq]
  refine ⟨harray', ?_⟩
  rw [hbuf] at hpending ⊢
  rw [view_counted, Md5View.update, DxbcMd5Ctx.view, hnone, hzero, Nat.zero_add, hpending]

/-- One call absorbs and counts its bytes, at any address. -/
theorem md5Update_view (addr : Nat) (bs : List Byte) (harray : ctx.pending.length = 64) :
    (md5Update ctx addr bs).pending.length = 64 ∧
      (md5Update ctx addr bs).view = ctx.view.update bs := by
  by_cases hzero : ctx.filled = 0
  · exact md5Update_empty addr harray hzero
  · by_cases hshort : bs.length < 64 - ctx.filled
    · exact md5Update_short addr harray hzero hshort
    · exact md5Update_long addr harray hzero hshort

end Update

-- ============================================================================
-- Runs of calls
-- ============================================================================

/-- Calls one after the other, each with the bytes at its address. -/
def md5Updates (ctx : DxbcMd5Ctx) (pieces : List (Nat × List Byte)) : DxbcMd5Ctx :=
  pieces.foldl (fun ctx piece => md5Update ctx piece.1 piece.2) ctx

theorem md5Updates_view {ctx : DxbcMd5Ctx} (pieces : List (Nat × List Byte))
    (harray : ctx.pending.length = 64) :
    (md5Updates ctx pieces).view = ctx.view.update (pieces.flatMap Prod.snd) := by
  induction pieces generalizing ctx with
  | nil =>
      rw [List.flatMap_nil, Md5View.update, absorb, List.foldl_nil, List.length_nil]
      exact congrArg (Md5View.mk _) (BitVec.add_zero _).symm
  | cons piece pieces ih =>
      obtain ⟨harray', hview⟩ := md5Update_view piece.1 piece.2 harray
      rw [md5Updates, List.foldl_cons, ← md5Updates, ih harray', hview, List.flatMap_cons,
        Md5View.update_append]

-- ============================================================================
-- The padding
-- ============================================================================

/-- The blocks behind the complete ones: `B` is the length in bits and `E` the closing
    word. -/
def dxbcTrailer (bs : List Byte) : List (List Byte) :=
  let r := bs.length % 64
  let tail := blockTail 64 bs
  let B := leBytes (BitVec.ofNat 32 (8 * bs.length))
  let E := leBytes (BitVec.ofNat 32 (2 * bs.length) ||| 1#32)
  if r < 56 then [B ++ tail ++ [0x80#8] ++ List.replicate (55 - r) 0 ++ E]
  else [tail ++ [0x80#8] ++ List.replicate (63 - r) 0, B ++ List.replicate 56 0 ++ E]

/-- The blocks of the padded message. -/
def dxbcBlocks (bs : List Byte) : List (List Byte) :=
  completeBlocks 64 bs ++ dxbcTrailer bs

/-- `buf` has been reached and the array is empty. -/
structure AtBlock (ctx : DxbcMd5Ctx) (buf : Md5Buf) : Prop where
  array : ctx.pending.length = 64
  stream : ctx.view.stream = ⟨buf, []⟩

section Blocks

variable {ctx : DxbcMd5Ctx} {buf : Md5Buf}

theorem AtBlock.buf_eq (h : AtBlock ctx buf) : ctx.buf = buf :=
  congrArg BlockStream.value h.stream

theorem AtBlock.update (h : AtBlock ctx buf) (addr : Nat) (block : List Byte)
    (hlen : block.length = 64) : AtBlock (md5Update ctx addr block) (md5Block buf block) := by
  obtain ⟨harray, hview⟩ := md5Update_view addr block h.array
  have hne : block ≠ [] := List.ne_nil_of_length_pos (by omega)
  refine ⟨harray, ?_⟩
  rw [hview, Md5View.update, h.stream, absorb_of_eq (by rw [List.length_nil]; omega) hne,
    List.nil_append]

theorem length_pending_md5Init : md5Init.pending.length = 64 := rfl

/-- The first call of the hash. -/
theorem atBlock_complete (addr : Nat) (bs : List Byte) :
    AtBlock (md5Update md5Init addr (bs.take (bs.length / 64 * 64)))
      ((completeBlocks 64 bs).foldl md5Block md5Init.buf) := by
  obtain ⟨harray, hview⟩ :=
    md5Update_view addr (bs.take (bs.length / 64 * 64)) length_pending_md5Init
  have hinit : md5Init.view.stream = ⟨md5Init.buf, []⟩ := rfl
  have hlen : (bs.take (bs.length / 64 * 64)).length = bs.length / 64 * 64 := by
    rw [List.length_take]
    omega
  refine ⟨harray, ?_⟩
  rw [hview, Md5View.update, hinit, absorb_blocks (by decide) (Nat.le_of_eq hlen.symm), blocks_take,
    List.drop_of_length_le (Nat.le_of_eq hlen)]
  rfl

end Blocks

theorem take_md5Padding {k : Nat} (h : k ≤ 63) :
    md5Padding.take (k + 1) = [0x80#8] ++ List.replicate k 0 := by
  rw [md5Padding, List.take_succ_cons, List.take_replicate, Nat.min_eq_left h]
  rfl

/-- The two words over the block buffer. -/
theorem patch_words (B E : UINT) {lo hi mid : List Byte} (hlo : lo.length = 4)
    (hhi : hi.length = 4) (hmid : mid.length = 56) :
    patch (patch (lo ++ mid ++ hi) 0 (leBytes B)) 60 (leBytes E) =
      leBytes B ++ mid ++ leBytes E := by
  have hlow : patch (lo ++ mid ++ hi) 0 (leBytes B) = leBytes B ++ mid ++ hi := by
    have hmiddle := patch_middle [] lo (mid ++ hi) (leBytes B) hlo.symm
    rw [List.append_assoc, List.append_assoc]
    exact hmiddle
  have hlen : (leBytes B ++ mid).length = 60 := by
    rw [List.length_append, length_leBytes, hmid]
  have hhigh := patch_middle (leBytes B ++ mid) hi [] (leBytes E) hhi.symm
  rw [hlen, List.append_nil, List.append_nil] at hhigh
  rw [hlow, hhigh]

/-- The single trailer block. -/
theorem trailer_short (B E : UINT) {tail : List Byte} (h : tail.length < 56) :
    patch (patch (List.replicate 4 0 ++ tail ++ md5Padding.take (64 - tail.length - 8) ++
        List.replicate 4 0) 0 (leBytes B)) 60 (leBytes E) =
      leBytes B ++ tail ++ [0x80#8] ++ List.replicate (55 - tail.length) 0 ++ leBytes E := by
  have hpadding : md5Padding.take (64 - tail.length - 8) =
      [0x80#8] ++ List.replicate (55 - tail.length) 0 := by
    rw [← take_md5Padding (by omega)]
    congr 1
    omega
  have hmid : (tail ++ ([0x80#8] ++ List.replicate (55 - tail.length) 0)).length = 56 := by
    rw [List.length_append, List.length_append, List.length_replicate, List.length_singleton]
    omega
  have hfour : (List.replicate 4 (0 : Byte)).length = 4 := rfl
  have hwords := patch_words B E hfour hfour hmid
  simp only [List.append_assoc] at hwords ⊢
  rw [hpadding, List.append_assoc, hwords]

theorem length_trailer_short (B E : UINT) {tail : List Byte} (h : tail.length < 56) :
    (leBytes B ++ tail ++ [0x80#8] ++ List.replicate (55 - tail.length) 0 ++
      leBytes E).length = 64 := by
  simp only [List.length_append, length_leBytes, List.length_replicate, List.length_singleton]
  omega

/-- The first of two trailer blocks. -/
theorem trailer_first {tail : List Byte} (hlt : tail.length < 64) :
    tail ++ md5Padding.take (64 - tail.length) =
      tail ++ [0x80#8] ++ List.replicate (63 - tail.length) 0 := by
  have hpadding : md5Padding.take (64 - tail.length) =
      [0x80#8] ++ List.replicate (63 - tail.length) 0 := by
    rw [← take_md5Padding (by omega)]
    congr 1
    omega
  rw [hpadding, List.append_assoc]

theorem length_trailer_first {tail : List Byte} (h : tail.length < 64) :
    (tail ++ [0x80#8] ++ List.replicate (63 - tail.length) 0).length = 64 := by
  simp only [List.length_append, List.length_replicate, List.length_singleton]
  omega

/-- The second one, in the buffer of the first. -/
theorem trailer_second (B E : UINT) {block : List Byte} (h : block.length = 64) :
    patch (patch (patch block 4 (List.replicate 56 0)) 0 (leBytes B)) 60 (leBytes E) =
      leBytes B ++ List.replicate 56 0 ++ leBytes E := by
  have hlo : (block.take 4).length = 4 := by
    rw [List.length_take, h]
    rfl
  have hhi : (block.drop 60).length = 4 := by
    rw [List.length_drop, h]
  exact patch_words B E hlo hhi List.length_replicate

theorem shiftLeft_one_ofNat (n : Nat) : BitVec.ofNat 32 n <<< 1 = BitVec.ofNat 32 (2 * n) := by
  apply BitVec.eq_of_toNat_eq
  rw [BitVec.toNat_shiftLeft, BitVec.toNat_ofNat, BitVec.toNat_ofNat, Nat.shiftLeft_eq]
  omega

theorem shiftLeft_three_ofNat (n : Nat) : BitVec.ofNat 32 n <<< 3 = BitVec.ofNat 32 (8 * n) := by
  apply BitVec.eq_of_toNat_eq
  rw [toNat_shiftLeft_ofNat, BitVec.toNat_ofNat]

-- ============================================================================
-- The hash
-- ============================================================================

/-- The digest: the words of the value. -/
def md5Digest (buf : Md5Buf) : List Byte :=
  wordBytes [buf.a, buf.b, buf.c, buf.d]

section Hash

variable (addr stack : Nat) {data : List Byte}

theorem length_blockTail (data : List Byte) : (blockTail 64 data).length = data.length % 64 := by
  rw [blockTail, List.length_drop]
  omega

/-- The hash of a whole string, by the number of its trailer blocks. -/
theorem dxbcHash_eq (hlen : data.length < 2 ^ 32) :
    dxbcHash addr stack data (BitVec.ofNat 32 data.length) =
      md5Digest ((dxbcBlocks data).foldl md5Block md5Init.buf) := by
  have hcb : (BitVec.ofNat 32 data.length).toNat = data.length := by
    rw [BitVec.toNat_ofNat, Nat.mod_eq_of_lt hlen]
  have htail := length_blockTail data
  have hremaining : data.length - data.length / 64 * 64 = (blockTail 64 data).length := by omega
  have hcomplete := atBlock_complete addr data
  rw [dxbcBlocks, List.foldl_append, dxbcTrailer, ← htail, dxbcHash]
  dsimp only
  rw [hcb, List.take_length, hremaining, shiftLeft_one_ofNat, shiftLeft_three_ofNat, ← blockTail]
  by_cases hr : (blockTail 64 data).length < 56
  · rw [if_pos hr, if_neg (by omega)]
    dsimp only
    rw [trailer_short _ _ hr]
    have hlast := hcomplete.update stack _ (length_trailer_short
      (BitVec.ofNat 32 (8 * data.length)) (BitVec.ofNat 32 (2 * data.length) ||| 1#32) hr)
    rw [hlast.buf_eq]
    rfl
  · rw [if_neg hr, if_pos (by omega)]
    dsimp only
    have hlt : (blockTail 64 data).length < 64 := by omega
    have hfirst := length_trailer_first hlt
    rw [trailer_first hlt, trailer_second _ _ hfirst]
    have hlast := (hcomplete.update stack _ hfirst).update stack
      (leBytes (BitVec.ofNat 32 (8 * data.length)) ++ List.replicate 56 0 ++
        leBytes (BitVec.ofNat 32 (2 * data.length) ||| 1#32)) rfl
    rw [hlast.buf_eq]
    rfl

end Hash

/-- Contexts with one view agree in all but the unused bytes of the array. -/
theorem eq_of_view {c c' : DxbcMd5Ctx} (h : c.view = c'.view) :
    c.buf = c'.buf ∧ c.bits₀ = c'.bits₀ ∧ c.bits₁ = c'.bits₁ ∧
      c.pendingBytes = c'.pendingBytes := by
  have hstream := congrArg Md5View.stream h
  have hcount := congrArg BitVec.toNat (congrArg Md5View.bitCount h)
  change c.bitCount.toNat = c'.bitCount.toNat at hcount
  rw [toNat_bitCount, toNat_bitCount] at hcount
  have hlt := c.bits₀.isLt
  have hlt' := c'.bits₀.isLt
  exact ⟨congrArg BlockStream.value hstream, BitVec.eq_of_toNat_eq (by omega),
    BitVec.eq_of_toNat_eq (by omega), congrArg BlockStream.pending hstream⟩

/-- `dxbcHash` of a string of less than `2 ^ 32` bytes, at any addresses, is the fold of
    `md5Transform` over the blocks of its padding; and from any context calls of
    `md5Update` at any addresses reach what one call with all their bytes reaches. -/
theorem dxbcHash_blocks :
    (∀ (addr stack : Nat) (data : List Byte), data.length < 2 ^ 32 →
      dxbcHash addr stack data (BitVec.ofNat 32 data.length) =
        md5Digest ((dxbcBlocks data).foldl md5Block md5Init.buf)) ∧
    ∀ (ctx : DxbcMd5Ctx) (pieces : List (Nat × List Byte)) (addr : Nat), ctx.pending.length = 64 →
      (md5Updates ctx pieces).buf = (md5Update ctx addr (pieces.flatMap Prod.snd)).buf ∧
      (md5Updates ctx pieces).bits₀ = (md5Update ctx addr (pieces.flatMap Prod.snd)).bits₀ ∧
      (md5Updates ctx pieces).bits₁ = (md5Update ctx addr (pieces.flatMap Prod.snd)).bits₁ ∧
      (md5Updates ctx pieces).pendingBytes =
        (md5Update ctx addr (pieces.flatMap Prod.snd)).pendingBytes := by
  refine ⟨fun addr stack data hlen => dxbcHash_eq addr stack hlen, fun ctx pieces addr harray => ?_⟩
  apply eq_of_view
  rw [md5Updates_view pieces harray, (md5Update_view addr _ harray).2]

/-- A tail that leaves no room for the closing word, at an odd address, and a string in
    two pieces the first of which leaves the array open. -/
theorem dxbcHash_blocks_two :
    dxbcHash 1 2 (List.replicate 56 7) 56 =
        md5Digest (md5Block
          (md5Block md5Init.buf (List.replicate 56 7 ++ 0x80#8 :: List.replicate 7 0))
          (leBytes 448 ++ List.replicate 56 0 ++ leBytes 113)) ∧
      (md5Updates md5Init [(1, List.replicate 60 1), (4, List.replicate 70 2)]).buf =
        (md5Update md5Init 0 (List.replicate 60 1 ++ List.replicate 70 2)).buf := by
  have hblocks : dxbcBlocks (List.replicate 56 7) =
      [List.replicate 56 7 ++ 0x80#8 :: List.replicate 7 0,
        leBytes 448 ++ List.replicate 56 0 ++ leBytes 113] := by decide
  have hhash := dxbcHash_blocks.1 1 2 (List.replicate 56 7) (by decide)
  rw [hblocks] at hhash
  exact ⟨hhash, (dxbcHash_blocks.2 md5Init [(1, List.replicate 60 1), (4, List.replicate 70 2)] 0
    rfl).1⟩

end VirtioWddm
