/-
  VirtioWddm.Triton.Dxbc.Md5

  The container hash: MD5's block function under a closing block of its own.

  The byte buffers are lists, and an address goes with each because `md5Update`
  takes another path for one that is not aligned.
-/

import VirtioWddm.Ddi.Basic
import VirtioWddm.Lib.Bytes

namespace VirtioWddm

open Lib

-- ============================================================================
-- The block function
-- ============================================================================

def md5F1 (x y z : UINT) : UINT := z ^^^ (x &&& (y ^^^ z))
def md5F2 (x y z : UINT) : UINT := md5F1 z x y
def md5F3 (x y z : UINT) : UINT := x ^^^ y ^^^ z
def md5F4 (x y z : UINT) : UINT := y ^^^ (x ||| ~~~z)

/-- `MD5STEP`. -/
def md5Step (f : UINT → UINT → UINT → UINT) (w x y z data : UINT) (s : Nat) : UINT :=
  let w := w + (f x y z + data)
  (w <<< s ||| w >>> (32 - s)) + x

/-- The variable part of a step: the word of the block, the constant added to it and
    the rotation. -/
structure Md5Round where
  word : Nat
  const : UINT
  shift : Nat

/-- The steps with `F1`. -/
def md5Rounds1 : List Md5Round :=
  [⟨0, 0xd76aa478, 7⟩, ⟨1, 0xe8c7b756, 12⟩, ⟨2, 0x242070db, 17⟩, ⟨3, 0xc1bdceee, 22⟩,
    ⟨4, 0xf57c0faf, 7⟩, ⟨5, 0x4787c62a, 12⟩, ⟨6, 0xa8304613, 17⟩, ⟨7, 0xfd469501, 22⟩,
    ⟨8, 0x698098d8, 7⟩, ⟨9, 0x8b44f7af, 12⟩, ⟨10, 0xffff5bb1, 17⟩, ⟨11, 0x895cd7be, 22⟩,
    ⟨12, 0x6b901122, 7⟩, ⟨13, 0xfd987193, 12⟩, ⟨14, 0xa679438e, 17⟩, ⟨15, 0x49b40821, 22⟩]

/-- The steps with `F2`. -/
def md5Rounds2 : List Md5Round :=
  [⟨1, 0xf61e2562, 5⟩, ⟨6, 0xc040b340, 9⟩, ⟨11, 0x265e5a51, 14⟩, ⟨0, 0xe9b6c7aa, 20⟩,
    ⟨5, 0xd62f105d, 5⟩, ⟨10, 0x02441453, 9⟩, ⟨15, 0xd8a1e681, 14⟩, ⟨4, 0xe7d3fbc8, 20⟩,
    ⟨9, 0x21e1cde6, 5⟩, ⟨14, 0xc33707d6, 9⟩, ⟨3, 0xf4d50d87, 14⟩, ⟨8, 0x455a14ed, 20⟩,
    ⟨13, 0xa9e3e905, 5⟩, ⟨2, 0xfcefa3f8, 9⟩, ⟨7, 0x676f02d9, 14⟩, ⟨12, 0x8d2a4c8a, 20⟩]

/-- The steps with `F3`. -/
def md5Rounds3 : List Md5Round :=
  [⟨5, 0xfffa3942, 4⟩, ⟨8, 0x8771f681, 11⟩, ⟨11, 0x6d9d6122, 16⟩, ⟨14, 0xfde5380c, 23⟩,
    ⟨1, 0xa4beea44, 4⟩, ⟨4, 0x4bdecfa9, 11⟩, ⟨7, 0xf6bb4b60, 16⟩, ⟨10, 0xbebfbc70, 23⟩,
    ⟨13, 0x289b7ec6, 4⟩, ⟨0, 0xeaa127fa, 11⟩, ⟨3, 0xd4ef3085, 16⟩, ⟨6, 0x04881d05, 23⟩,
    ⟨9, 0xd9d4d039, 4⟩, ⟨12, 0xe6db99e5, 11⟩, ⟨15, 0x1fa27cf8, 16⟩, ⟨2, 0xc4ac5665, 23⟩]

/-- The steps with `F4`. -/
def md5Rounds4 : List Md5Round :=
  [⟨0, 0xf4292244, 6⟩, ⟨7, 0x432aff97, 10⟩, ⟨14, 0xab9423a7, 15⟩, ⟨5, 0xfc93a039, 21⟩,
    ⟨12, 0x655b59c3, 6⟩, ⟨3, 0x8f0ccc92, 10⟩, ⟨10, 0xffeff47d, 15⟩, ⟨1, 0x85845dd1, 21⟩,
    ⟨8, 0x6fa87e4f, 6⟩, ⟨15, 0xfe2ce6e0, 10⟩, ⟨6, 0xa3014314, 15⟩, ⟨13, 0x4e0811a1, 21⟩,
    ⟨4, 0xf7537e82, 6⟩, ⟨11, 0xbd3af235, 10⟩, ⟨2, 0x2ad7d2bb, 15⟩, ⟨9, 0xeb86d391, 21⟩]

/-- The chaining value. -/
structure Md5Buf where
  a : UINT
  b : UINT
  c : UINT
  d : UINT
deriving DecidableEq

/-- Consecutive steps of one kind.  Each updates the first variable and hands the
    last one to the next step, so that after four all are back in place. -/
def md5Steps (f : UINT → UINT → UINT → UINT) (block : List UINT) (rounds : List Md5Round)
    (buf : Md5Buf) : Md5Buf :=
  rounds.foldl
    (fun v round =>
      { a := v.d
        b := md5Step f v.a v.b v.c v.d (block.getD round.word 0 + round.const) round.shift
        c := v.b
        d := v.c })
    buf

/-- `md5Transform`. -/
def md5Transform (buf : Md5Buf) (block : List UINT) : Md5Buf :=
  let v := md5Steps md5F1 block md5Rounds1 buf
  let v := md5Steps md5F2 block md5Rounds2 v
  let v := md5Steps md5F3 block md5Rounds3 v
  let v := md5Steps md5F4 block md5Rounds4 v
  { a := buf.a + v.a, b := buf.b + v.b, c := buf.c + v.c, d := buf.d + v.d }

-- ============================================================================
-- The stream
-- ============================================================================

/-- `DxbcMd5Ctx`; `pending` is its array `in`. -/
structure DxbcMd5Ctx where
  buf : Md5Buf
  bits₀ : UINT
  bits₁ : UINT
  pending : List Byte
deriving DecidableEq

/-- `md5Init`.  It does not set the array, whose bytes are all written before they
    are read. -/
def md5Init : DxbcMd5Ctx where
  buf := { a := 0x67452301, b := 0xefcdab89, c := 0x98badcfe, d := 0x10325476 }
  bits₀ := 0
  bits₁ := 0
  pending := List.replicate 64 0

/-- A block of 64 bytes as words. -/
def blockWords (bs : List Byte) : List UINT :=
  (List.range 16).map fun i => (wordAt? bs (4 * i)).getD 0

/-- The bit count after `len` more bytes. -/
def DxbcMd5Ctx.count (ctx : DxbcMd5Ctx) (len : Nat) : DxbcMd5Ctx :=
  let t := ctx.bits₀
  let bits₀ := t + (BitVec.ofNat 32 len <<< 3)
  let bits₁ := if bits₀ < t then ctx.bits₁ + 1#32 else ctx.bits₁
  { ctx with bits₀ := bits₀, bits₁ := bits₁ + BitVec.ofNat 32 (len / 536870912) }

/-- The loops over `n` whole blocks; the one for unaligned data goes through the
    array. -/
def md5Blocks (aligned : Bool) : Nat → DxbcMd5Ctx → List Byte → DxbcMd5Ctx × List Byte
  | 0, ctx, bs => (ctx, bs)
  | n + 1, ctx, bs =>
      let ctx := if aligned then ctx else { ctx with pending := patch ctx.pending 0 (bs.take 64) }
      let ctx := { ctx with buf := md5Transform ctx.buf (blockWords bs) }
      md5Blocks aligned n ctx (bs.drop 64)

/-- The rest of `md5Update` once the array is empty: the whole blocks, and what is
    left over. -/
def md5Rest (addr : Nat) (ctx : DxbcMd5Ctx) (bs : List Byte) : DxbcMd5Ctx :=
  let (ctx, bs) := md5Blocks (addr % 4 = 0) (bs.length / 64) ctx bs
  { ctx with pending := patch ctx.pending 0 bs }

/-- `md5Update` on the bytes `bs` at address `addr`. -/
def md5Update (ctx : DxbcMd5Ctx) (addr : Nat) (bs : List Byte) : DxbcMd5Ctx :=
  let t := ((ctx.bits₀ >>> 3) &&& 0x3F#32).toNat
  let ctx := ctx.count bs.length
  if t ≠ 0 then
    let room := 64 - t
    if bs.length < room then
      { ctx with pending := patch ctx.pending t bs }
    else
      let pending := patch ctx.pending t (bs.take room)
      let ctx := { ctx with pending := pending, buf := md5Transform ctx.buf (blockWords pending) }
      md5Rest (addr + room) ctx (bs.drop room)
  else md5Rest addr ctx bs

-- ============================================================================
-- The hash
-- ============================================================================

/-- `s_au8Padding`. -/
def md5Padding : List Byte :=
  0x80#8 :: List.replicate 63 0

/-- `dxbcHash` of the first `cbData` bytes of `data`, which is at address `addr`;
    `stack` is the address of its block buffer. -/
def dxbcHash (addr stack : Nat) (data : List Byte) (cbData : UINT) : List Byte :=
  let data := data.take cbData.toNat
  let cbComplete := cbData.toNat / 64 * 64
  let ctx := md5Update md5Init addr (data.take cbComplete)
  let tail := data.drop cbComplete
  let cbRemaining := cbData.toNat - cbComplete
  let (ctx, block) :=
    if 64 - 8 ≤ cbRemaining then
      -- two trailer blocks
      let block := tail ++ md5Padding.take (64 - cbRemaining)
      (md5Update ctx stack block, patch block 4 (List.replicate 56 0))
    else
      -- one trailer block
      (ctx, List.replicate 4 0 ++ tail ++ md5Padding.take (64 - cbRemaining - 8) ++
        List.replicate 4 0)
  let block := patch block 0 (leBytes (cbData <<< 3))
  let block := patch block 60 (leBytes ((cbData <<< 1) ||| 1#32))
  let ctx := md5Update ctx stack block
  wordBytes [ctx.buf.a, ctx.buf.b, ctx.buf.c, ctx.buf.d]

theorem length_dxbcHash (addr stack : Nat) (data : List Byte) (cbData : UINT) :
    (dxbcHash addr stack data cbData).length = 16 :=
  rfl

end VirtioWddm
