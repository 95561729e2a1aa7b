/-
  VirtioWddm.Triton.Dxbc.Container

  The containers that `tritonBuildDxbc` and `tritonBuildInputSigDxbc` return are well
  formed, and the buffer they size in advance is always large enough.

  `DxbcContainer` reads a container as a consumer does: the header's words, the chunks
  at the offsets it gives, one behind the other to the end, and the hash.
  `NamedElements` reads the body of a signature chunk.
-/

import VirtioWddm.Triton.Dxbc.Chunks
import VirtioWddm.Triton.Dxbc.Plan

namespace VirtioWddm

open Lib

-- ============================================================================
-- What a consumer finds
-- ============================================================================

/-- The chunks of a container from one on, which starts at `off` and whose offset is
    kept at `slot`: aligned, one behind the other, to the end of the container. -/
def ChunksFrom (bytes : List Byte) : Nat → Nat → List DxbcChunk → Prop
  | _, off, [] => off = bytes.length
  | slot, off, c :: cs =>
      wordAt? bytes slot = some (BitVec.ofNat 32 off) ∧ off % 4 = 0 ∧
        bytesAt bytes off c.bytes.length = some c.bytes ∧
        ChunksFrom bytes (slot + 4) (off + c.bytes.length) cs

/-- A container of the given chunks in a buffer at `addr`. -/
structure DxbcContainer (addr stack : Nat) (chunks : List DxbcChunk) (bytes : List Byte)
    (cbOut : UINT) : Prop where
  magic : wordAt? bytes 0 = some DXBC_MAGIC
  hash : bytesAt bytes 4 16 =
    some (dxbcHash (addr + 0x14) stack (bytes.drop 0x14) (cbOut - 0x14#32))
  version : wordAt? bytes 0x14 = some 1
  total : wordAt? bytes 0x18 = some cbOut
  length : cbOut.toNat = bytes.length
  count : wordAt? bytes 0x1C = some (BitVec.ofNat 32 chunks.length)
  chunks : ChunksFrom bytes 0x20 (0x20 + 4 * chunks.length) chunks

/-- The body of a chunk of named elements: their number, the offset of the first, and
    of each element its DWORDs and the name at its name offset. -/
structure NamedElements {α : Type} (xs : List α) (name : α → CString)
    (element : α → UINT → List UINT) (cbEntry : Nat) (body : List Byte) : Prop where
  count : wordAt? body 0 = some (BitVec.ofNat 32 xs.length)
  first : wordAt? body 4 = some 8
  elementAt : ∀ (i : Nat) x, xs[i]? = some x → ∃ offName : UINT,
    bytesAt body (8 + i * cbEntry) cbEntry = some (wordBytes (element x offName)) ∧
      bytesAt body offName.toNat ((name x).length + 1) = some (name x ++ [0])

/-- The length of a signature chunk of `entries`, each name counted once. -/
def sigChunkLength (fourcc : UINT) (entries : List TritonSigEntry) : Nat :=
  let n := 8 + entries.length * (tritonSigBlobLayout fourcc).cbEntry +
    (nameText (entries.map TritonSigEntry.name)).length
  8 + (n + padLength n)

/-- A signature chunk of `entries`. -/
structure SigChunk (fourcc blobClass progType : UINT) (entries : List TritonSigEntry)
    (c : DxbcChunk) : Prop where
  tag : c.fourcc = fourcc
  elements : NamedElements entries TritonSigEntry.name
    (sigElement (tritonSigBlobLayout fourcc) blobClass progType)
    (tritonSigBlobLayout fourcc).cbEntry c.body
  length : c.bytes.length = sigChunkLength fourcc entries

/-- The chunks of a shader's container: the signatures of the plan and the code. -/
inductive ShaderChunks (plan : DxbcPlan) (code : List Byte) : List DxbcChunk → Prop
  | noPatch {cIn cOut : DxbcChunk} (hhull : plan.hullDomain = false)
      (hin : SigChunk plan.fccIn DXBC_BLOB_TYPE_ISGN plan.progType plan.aIn cIn)
      (hout : SigChunk plan.fccOut DXBC_BLOB_TYPE_OSGN plan.progType plan.aOut cOut) :
      ShaderChunks plan code [cIn, cOut, { fourcc := plan.fccShdr, body := code }]
  | patch {cIn cOut cPatch : DxbcChunk} (hhull : plan.hullDomain = true)
      (hin : SigChunk plan.fccIn DXBC_BLOB_TYPE_ISGN plan.progType plan.aIn cIn)
      (hout : SigChunk plan.fccOut DXBC_BLOB_TYPE_OSGN plan.progType plan.aOut cOut)
      (hpatch : SigChunk plan.fccPatch DXBC_BLOB_TYPE_PCSG plan.progType plan.aPatch cPatch) :
      ShaderChunks plan code [cIn, cOut, cPatch, { fourcc := plan.fccShdr, body := code }]

-- ============================================================================
-- Elements
-- ============================================================================

section Elements

variable {α : Type} {xs : List α} {name : α → CString} {element : α → UINT → List UINT}
  {cbEntry : Nat}

theorem length_wordBytes_of_mem_zipWith
    (hlen : ∀ x offName, (wordBytes (element x offName)).length = cbEntry) {slots : List UINT}
    {p : List Byte} (hp : p ∈ (List.zipWith element xs slots).map wordBytes) :
    p.length = cbEntry := by
  obtain ⟨ws, hws, rfl⟩ := List.mem_map.mp hp
  obtain ⟨i, hi⟩ := List.mem_iff_getElem?.mp hws
  obtain ⟨x, s, -, -, rfl⟩ := List.getElem?_zipWith_eq_some.mp hi
  exact hlen x s

theorem elementsOf_zipWith (xs : List α) (name : α → CString)
    (hlen : ∀ x offName, (wordBytes (element x offName)).length = cbEntry) :
    ElementsOf (xs.map name) cbEntry (List.zipWith element xs) := by
  intro slots hslots
  rw [List.length_map] at hslots ⊢
  rw [wordBytes_flatten, length_flatten_of_length
    (fun p hp => length_wordBytes_of_mem_zipWith hlen hp), List.length_map,
    List.length_zipWith, hslots, Nat.min_self]

/-- What the writer leaves is what a reader finds. -/
theorem NamedBody.namedElements {slots : List UINT} {body : List Byte}
    (hlen : ∀ x offName, (wordBytes (element x offName)).length = cbEntry)
    (h : NamedBody (xs.map name) (List.zipWith element xs) slots body) :
    NamedElements xs name element cbEntry body := by
  have hbytes := h.bytes
  have hslots : slots.length = xs.length := by
    rw [h.length_slots, List.length_map]
  have hflat := elementsOf_zipWith xs name hlen slots h.length_slots
  rw [List.length_map] at hflat
  rw [padded, namedFront, List.append_assoc, List.append_assoc, List.length_map] at hbytes
  refine ⟨?_, ?_, fun i x hx => ?_⟩
  · rw [hbytes]
    exact wordAt?_wordBytes [BitVec.ofNat 32 xs.length, 8] _ (i := 0) Nat.zero_lt_two
  · rw [hbytes]
    exact wordAt?_wordBytes [BitVec.ofNat 32 xs.length, 8] _ (i := 1) Nat.one_lt_two
  · have hi : i < xs.length := (List.getElem?_eq_some_iff.mp hx).1
    obtain ⟨slot, hslot⟩ : ∃ slot, slots[i]? = some slot :=
      ⟨_, List.getElem?_eq_getElem (hslots ▸ hi)⟩
    refine ⟨slot, ?_, ?_⟩
    · have hget : ((List.zipWith element xs slots).map wordBytes)[i]? =
          some (wordBytes (element x slot)) := by
        rw [List.getElem?_map, List.getElem?_zipWith, hx, hslot]
        rfl
      have hpiece := bytesAt_flatten
        (fun p hp => length_wordBytes_of_mem_zipWith hlen hp) hget
      have hin := (bytesAt_eq_some_iff.mp hpiece).1
      rw [← wordBytes_flatten] at hpiece hin
      rw [hbytes, bytesAt_append_right (by rw [length_wordBytes]; exact Nat.le_add_right _ _),
        length_wordBytes]
      show bytesAt _ (8 + i * cbEntry - 8) cbEntry = _
      rw [Nat.add_sub_cancel_left, bytesAt_append_left hin]
      exact hpiece
    · apply h.nameAt i (name x) slot _ hslot
      rw [List.getElem?_map, hx]
      rfl

end Elements

theorem length_sigElement (fourcc blobClass progType : UINT) (s : TritonSigEntry) (offName : UINT) :
    (wordBytes (sigElement (tritonSigBlobLayout fourcc) blobClass progType s offName)).length =
      (tritonSigBlobLayout fourcc).cbEntry := by
  rw [length_wordBytes, tritonSigBlobLayout]
  split
  case isTrue => rfl
  case isFalse =>
    split
    case isTrue => rfl
    case isFalse => rfl

theorem length_inputElement (e : InputSigEntry) (offName : UINT) :
    (wordBytes (e.element offName)).length = 24 := by
  rw [length_wordBytes]
  rfl

theorem cbEntry_le (fourcc : UINT) : (tritonSigBlobLayout fourcc).cbEntry ≤ 32 := by
  rw [tritonSigBlobLayout]
  split
  case isTrue => decide
  case isFalse =>
    split
    case isTrue => decide
    case isFalse => decide

theorem sigChunkLength_mod (fourcc : UINT) (entries : List TritonSigEntry) :
    sigChunkLength fourcc entries % 4 = 0 := by
  have hmod := add_padLength_mod (8 + entries.length * (tritonSigBlobLayout fourcc).cbEntry +
    (nameText (entries.map TritonSigEntry.name)).length)
  rw [sigChunkLength]
  omega

/-- The text of the names fits 32 bytes for each. -/
theorem SigEntries.length_nameText_le {entries : List TritonSigEntry} (h : SigEntries entries) :
    (nameText (entries.map TritonSigEntry.name)).length ≤ entries.length * 32 := by
  have hle := VirtioWddm.length_nameText_le (entries.map TritonSigEntry.name) (by
    intro name hname
    obtain ⟨e, he, rfl⟩ := List.mem_map.mp hname
    exact (h.shortNames e he).length_le)
  rw [List.length_map] at hle
  exact hle

/-- The builder's estimate for a signature chunk. -/
theorem SigEntries.sigChunkLength_le {entries : List TritonSigEntry} (h : SigEntries entries)
    (fourcc : UINT) : sigChunkLength fourcc entries ≤ entries.length * 64 + 20 := by
  have hentry := Nat.mul_le_mul_left entries.length (cbEntry_le fourcc)
  have hnames := h.length_nameText_le
  have hpad := padLength_lt (8 + entries.length * (tritonSigBlobLayout fourcc).cbEntry +
    (nameText (entries.map TritonSigEntry.name)).length)
  rw [sigChunkLength]
  omega

-- ============================================================================
-- The chunks are written
-- ============================================================================

theorem writeSigBlob_append {w : DxbcWriter} {entries : List TritonSigEntry}
    (h : SigEntries entries) (fourcc blobClass progType : UINT)
    (hcap : w.size + entries.length * 64 + 20 ≤ w.cbAlloc) :
    ∃ c, writeSigBlob w fourcc blobClass progType entries = some (w.push c.bytes) ∧
      SigChunk fourcc blobClass progType entries c ∧ c.bytes.length ≤ entries.length * 64 + 20 := by
  have hle := h.length_le
  have hmax : TRITON_DXBC_MAX_SIG_ENTRIES = 128 := rfl
  have hentry := Nat.mul_le_mul_left entries.length (cbEntry_le fourcc)
  have hnames := h.length_nameText_le
  have hlen := length_sigElement fourcc blobClass progType
  have helems := elementsOf_zipWith entries TritonSigEntry.name hlen
  obtain ⟨slots, body, hwrite, hbody⟩ :=
    writeNamedBlob_append (w := w) fourcc helems (by rw [List.length_map]; omega)
      (by rw [List.length_map]; omega)
  have hlength : (DxbcChunk.bytes { fourcc := fourcc, body := body }).length =
      sigChunkLength fourcc entries := by
    have hfront := length_namedFront (helems slots hbody.length_slots)
    rw [List.length_map] at hfront
    rw [DxbcChunk.length_bytes, hbody.bytes, length_padded, hfront]
    rfl
  refine ⟨{ fourcc := fourcc, body := body }, ?_, ⟨rfl, hbody.namedElements hlen, hlength⟩, ?_⟩
  · rw [writeSigBlob, if_neg (by omega)]
    exact hwrite
  · rw [hlength]
    exact h.sigChunkLength_le fourcc

/-- A signature chunk behind what was written already. -/
theorem writeSigBlob_behind {w : DxbcWriter} (front : List Byte) {entries : List TritonSigEntry}
    (h : SigEntries entries) (fourcc blobClass progType : UINT)
    (hcap : w.size + front.length + entries.length * 64 + 20 ≤ w.cbAlloc) :
    ∃ c, writeSigBlob (w.push front) fourcc blobClass progType entries =
        some (w.push (front ++ c.bytes)) ∧
      SigChunk fourcc blobClass progType entries c ∧ c.bytes.length ≤ entries.length * 64 + 20 := by
  rw [← DxbcWriter.push_size (p := front), ← DxbcWriter.push_cbAlloc (p := front)] at hcap
  obtain ⟨c, hwrite, hsig, hle⟩ := writeSigBlob_append h fourcc blobClass progType hcap
  rw [DxbcWriter.push_push] at hwrite
  exact ⟨c, hwrite, hsig, hle⟩

/-- The offsets of chunks, the first at `off`. -/
def chunkOffsets : Nat → List DxbcChunk → List UINT
  | _, [] => []
  | off, c :: cs => BitVec.ofNat 32 off :: chunkOffsets (off + c.bytes.length) cs

theorem length_chunkOffsets (off : Nat) (chunks : List DxbcChunk) :
    (chunkOffsets off chunks).length = chunks.length := by
  induction chunks generalizing off with
  | nil => rfl
  | cons c cs ih => rw [chunkOffsets, List.length_cons, ih, List.length_cons]

/-- Chunks that end where a chunk may start. -/
def Aligned (chunks : List DxbcChunk) : Prop :=
  ∀ c ∈ chunks, c.bytes.length % 4 = 0

theorem writeChunks_append {plan : DxbcPlan} (code : List Byte) {w : DxbcWriter}
    (hplan : plan.Writable)
    (hcap : w.size + (plan.aIn.length + plan.aOut.length + plan.aPatch.length) * 64 +
      plan.cBlob * 20 + 8 + code.length + 3 ≤ w.cbAlloc) :
    ∃ chunks, writeChunks plan code w =
        some (chunkOffsets w.size chunks, w.push (chunks.flatMap DxbcChunk.bytes)) ∧
      ShaderChunks plan (padded code) chunks := by
  have hblob : 3 ≤ plan.cBlob := by
    rw [DxbcPlan.cBlob]
    split
    case isTrue => decide
    case isFalse => decide
  obtain ⟨cIn, hin, sigIn, lenIn⟩ := writeSigBlob_append (w := w) hplan.aIn plan.fccIn
    DXBC_BLOB_TYPE_ISGN plan.progType (by omega)
  obtain ⟨cOut, hout, sigOut, lenOut⟩ := writeSigBlob_behind (w := w) cIn.bytes hplan.aOut
    plan.fccOut DXBC_BLOB_TYPE_OSGN plan.progType (by omega)
  have lenFront : (cIn.bytes ++ cOut.bytes).length = cIn.bytes.length + cOut.bytes.length :=
    List.length_append
  let shdr : DxbcChunk := { fourcc := plan.fccShdr, body := padded code }
  unfold writeChunks
  rw [hin]
  dsimp only [bind, Option.bind]
  rw [hout]
  dsimp only
  by_cases hhull : plan.hullDomain = true
  · have hfour : plan.cBlob = 4 := if_pos hhull
    obtain ⟨cPatch, hpatch, sigPatch, lenPatch⟩ := writeSigBlob_behind (w := w)
      (cIn.bytes ++ cOut.bytes) hplan.aPatch plan.fccPatch DXBC_BLOB_TYPE_PCSG plan.progType
      (by omega)
    have sizePatch : (w.push (cIn.bytes ++ cOut.bytes ++ cPatch.bytes)).size =
        w.size + (cIn.bytes.length + cOut.bytes.length + cPatch.bytes.length) := by
      rw [DxbcWriter.push_size, List.length_append, List.length_append]
    have hroom : (w.push (cIn.bytes ++ cOut.bytes ++ cPatch.bytes)).size + 8 + code.length + 3 ≤
        w.cbAlloc := by omega
    refine ⟨[cIn, cOut, cPatch, shdr], ?_, .patch hhull sigIn sigOut sigPatch⟩
    rw [if_pos hhull, hpatch]
    dsimp only
    rw [writeSHDRBlob_append plan.fccShdr hroom, DxbcWriter.push_push]
    simp only [chunkOffsets, List.flatMap_cons, List.flatMap_nil, List.append_assoc,
      List.append_nil, DxbcWriter.push_size, List.length_append, Nat.add_assoc]
    rfl
  · refine ⟨[cIn, cOut, shdr], ?_, .noPatch (Bool.not_eq_true _ ▸ hhull) sigIn sigOut⟩
    rw [if_neg hhull, writeSHDRBlob_append plan.fccShdr (by
      rw [DxbcWriter.push_size, DxbcWriter.push_cbAlloc]
      omega), DxbcWriter.push_push]
    simp only [chunkOffsets, List.flatMap_cons, List.flatMap_nil, List.append_assoc,
      List.append_nil, DxbcWriter.push_size, List.length_append, Nat.add_assoc]
    rfl

theorem SigChunk.aligned {fourcc blobClass progType : UINT} {entries : List TritonSigEntry}
    {c : DxbcChunk} (h : SigChunk fourcc blobClass progType entries c) :
    c.bytes.length % 4 = 0 := by
  rw [h.length]
  exact sigChunkLength_mod fourcc entries

theorem codeChunk_aligned (fourcc : UINT) (code : List Byte) :
    (DxbcChunk.bytes { fourcc := fourcc, body := padded code }).length % 4 = 0 := by
  have hmod := length_padded_mod code
  rw [DxbcChunk.length_bytes]
  dsimp only
  omega

theorem ShaderChunks.aligned {plan : DxbcPlan} {code : List Byte} {chunks : List DxbcChunk}
    (h : ShaderChunks plan (padded code) chunks) : Aligned chunks := by
  have hcode := codeChunk_aligned plan.fccShdr code
  cases h with
  | noPatch hhull hin hout =>
      simp only [Aligned, List.forall_mem_cons]
      exact ⟨hin.aligned, hout.aligned, hcode, fun _ h => absurd h List.not_mem_nil⟩
  | patch hhull hin hout hpatch =>
      simp only [Aligned, List.forall_mem_cons]
      exact ⟨hin.aligned, hout.aligned, hpatch.aligned, hcode,
        fun _ h => absurd h List.not_mem_nil⟩

theorem ShaderChunks.length_eq {plan : DxbcPlan} {code : List Byte} {chunks : List DxbcChunk}
    (h : ShaderChunks plan code chunks) : chunks.length = plan.cBlob := by
  cases h with
  | noPatch hhull hin hout => exact (if_neg (Bool.not_eq_true _ ▸ hhull)).symm
  | patch hhull hin hout hpatch => exact (if_pos hhull).symm

-- ============================================================================
-- The header
-- ============================================================================

/-- What the hash covers: the header from its version on, and the chunks. -/
def hashedPart (chunks : List DxbcChunk) (cbTotal : UINT) : List Byte :=
  wordBytes ([1, cbTotal, BitVec.ofNat 32 chunks.length] ++
    chunkOffsets (0x20 + 4 * chunks.length) chunks) ++ chunks.flatMap DxbcChunk.bytes

/-- The container in memory. -/
def containerBytes (addr stack : Nat) (chunks : List DxbcChunk) (cbTotal : UINT) : List Byte :=
  leBytes DXBC_MAGIC ++ (dxbcHash (addr + 0x14) stack (hashedPart chunks cbTotal)
    (cbTotal - 0x14#32) ++ hashedPart chunks cbTotal)

theorem length_containerBytes (addr stack : Nat) (chunks : List DxbcChunk) (cbTotal : UINT) :
    (containerBytes addr stack chunks cbTotal).length =
      0x20 + 4 * chunks.length + (chunks.flatMap DxbcChunk.bytes).length := by
  rw [containerBytes, hashedPart, List.length_append, List.length_append, List.length_append,
    length_dxbcHash, length_leBytes, length_wordBytes, List.length_append, length_chunkOffsets]
  show 4 + (16 + (4 * (3 + chunks.length) + _)) = _
  omega

/-- The header is filled in over zeros, and then the hash of what follows it. -/
theorem finalize_eq {w : DxbcWriter} {chunks : List DxbcChunk} (addr stack : Nat)
    (hbytes : w.bytes = List.replicate (0x20 + 4 * chunks.length) 0 ++
      chunks.flatMap DxbcChunk.bytes) :
    finalize w addr stack (chunkOffsets (0x20 + 4 * chunks.length) chunks) =
      (containerBytes addr stack chunks (BitVec.ofNat 32 w.size), BitVec.ofNat 32 w.size) := by
  generalize hcb : BitVec.ofNat 32 w.size = cbTotal
  have hlen : (leBytes DXBC_MAGIC ++ (List.replicate 16 (0 : Byte) ++
      wordBytes ([1, cbTotal, BitVec.ofNat 32 chunks.length] ++
        chunkOffsets (0x20 + 4 * chunks.length) chunks))).length = 0x20 + 4 * chunks.length := by
    rw [List.length_append, List.length_append, length_wordBytes, List.length_append,
      length_chunkOffsets, length_leBytes, List.length_replicate]
    show 4 + (16 + 4 * (3 + chunks.length)) = _
    omega
  have hheader : patch w.bytes 0
      (DXBCHeader.bytes
        { au8Hash := List.replicate 16 0, cbTotal := cbTotal,
          aBlobOffset := chunkOffsets (0x20 + 4 * chunks.length) chunks }) =
      leBytes DXBC_MAGIC ++ (List.replicate 16 0 ++ hashedPart chunks cbTotal) := by
    have hpatch := patch_middle [] (List.replicate (0x20 + 4 * chunks.length) (0 : Byte))
      (chunks.flatMap DxbcChunk.bytes) (leBytes DXBC_MAGIC ++ (List.replicate 16 (0 : Byte) ++
        wordBytes ([1, cbTotal, BitVec.ofNat 32 chunks.length] ++
          chunkOffsets (0x20 + 4 * chunks.length) chunks)))
      (by rw [hlen, List.length_replicate])
    rw [List.nil_append, List.nil_append, ← hbytes] at hpatch
    rw [DXBCHeader.bytes, length_chunkOffsets, hashedPart, List.append_assoc]
    rw [List.append_assoc, List.append_assoc] at hpatch
    exact hpatch
  have hdrop : (leBytes DXBC_MAGIC ++ (List.replicate 16 (0 : Byte) ++
      hashedPart chunks cbTotal)).drop 0x14 = hashedPart chunks cbTotal := rfl
  have hpatch := patch_middle (leBytes DXBC_MAGIC) (List.replicate 16 0)
    (hashedPart chunks cbTotal)
    (dxbcHash (addr + 0x14) stack (hashedPart chunks cbTotal) (cbTotal - 0x14#32))
    (length_dxbcHash _ _ _ _)
  rw [finalize, hcb]
  dsimp only [DxbcWriter.fill]
  rw [hheader, hdrop]
  exact congrArg (·, cbTotal) hpatch

/-- A word of the part behind the hash. -/
theorem wordAt?_hashedPart {addr stack : Nat} {chunks : List DxbcChunk} {cbTotal : UINT} {i : Nat}
    {v : UINT}
    (hi : ([1, cbTotal, BitVec.ofNat 32 chunks.length] ++
      chunkOffsets (0x20 + 4 * chunks.length) chunks)[i]? = some v) :
    wordAt? (containerBytes addr stack chunks cbTotal) (0x14 + 4 * i) = some v := by
  obtain ⟨hlt, hv⟩ := List.getElem?_eq_some_iff.mp hi
  have hhash := length_dxbcHash (addr + 0x14) stack (hashedPart chunks cbTotal) (cbTotal - 0x14#32)
  rw [containerBytes, wordAt?_append_right (by rw [length_leBytes]; omega), length_leBytes,
    wordAt?_append_right (by omega), hhash, show 0x14 + 4 * i - 4 - 16 = 4 * i by omega,
    hashedPart, wordAt?_wordBytes _ _ hlt, hv]

/-- The chunks are found at their offsets.  The induction is on the chunks behind
    `front`. -/
theorem chunksFrom_of_offsets {bytes : List Byte} (front : List Byte) {chunks : List DxbcChunk}
    {slot off : Nat}
    (hbytes : bytes = front ++ chunks.flatMap DxbcChunk.bytes) (hoff : front.length = off)
    (hslots : ∀ i v, (chunkOffsets off chunks)[i]? = some v → wordAt? bytes (slot + 4 * i) = some v)
    (halign : Aligned chunks) (hstart : off % 4 = 0) : ChunksFrom bytes slot off chunks := by
  induction chunks generalizing front slot off with
  | nil =>
      rw [List.flatMap_nil, List.append_nil] at hbytes
      rw [ChunksFrom, hbytes, hoff]
  | cons c cs ih =>
      have hc := halign c List.mem_cons_self
      rw [List.flatMap_cons] at hbytes
      refine ⟨hslots 0 _ rfl, hstart, ?_, ?_⟩
      · rw [hbytes, ← hoff]
        exact bytesAt_middle front c.bytes _
      · refine ih (front ++ c.bytes) ?_ ?_ ?_ ?_ ?_
        · rw [hbytes, List.append_assoc]
        · rw [List.length_append, hoff]
        · intro i v hv
          rw [show slot + 4 + 4 * i = slot + 4 * (i + 1) by omega]
          exact hslots (i + 1) v hv
        · exact fun d hd => halign d (List.mem_cons_of_mem c hd)
        · omega

/-- The chunks stand at the offsets of the header, whatever the length field says. -/
theorem containerBytes_chunks (addr stack : Nat) {chunks : List DxbcChunk} (cbTotal : UINT)
    (halign : Aligned chunks) :
    ChunksFrom (containerBytes addr stack chunks cbTotal) 0x20 (0x20 + 4 * chunks.length)
      chunks := by
  have hhash := length_dxbcHash (addr + 0x14) stack (hashedPart chunks cbTotal) (cbTotal - 0x14#32)
  refine chunksFrom_of_offsets (leBytes DXBC_MAGIC ++
    (dxbcHash (addr + 0x14) stack (hashedPart chunks cbTotal) (cbTotal - 0x14#32) ++
      wordBytes ([1, cbTotal, BitVec.ofNat 32 chunks.length] ++
        chunkOffsets (0x20 + 4 * chunks.length) chunks))) ?_ ?_ ?_ halign (by omega)
  · rw [containerBytes, List.append_assoc, List.append_assoc]
    rfl
  · rw [List.length_append, List.length_append, hhash, length_leBytes, length_wordBytes,
      List.length_append, length_chunkOffsets]
    show 4 + (16 + 4 * (3 + chunks.length)) = _
    omega
  · intro i v hv
    have hword : wordAt? (containerBytes addr stack chunks cbTotal) (0x14 + 4 * (i + 3)) =
        some v := wordAt?_hashedPart (i := i + 3) hv
    rw [show 0x20 + 4 * i = 0x14 + 4 * (i + 3) by omega]
    exact hword

/-- The bytes in memory are a container, as long as their number is a DWORD. -/
theorem containerBytes_container (addr stack : Nat) {chunks : List DxbcChunk} {cbTotal : UINT}
    (halign : Aligned chunks)
    (hcb : cbTotal.toNat = (containerBytes addr stack chunks cbTotal).length) :
    DxbcContainer addr stack chunks (containerBytes addr stack chunks cbTotal) cbTotal := by
  have hhash := length_dxbcHash (addr + 0x14) stack (hashedPart chunks cbTotal) (cbTotal - 0x14#32)
  refine ⟨?_, ?_, ?_, ?_, hcb, ?_, containerBytes_chunks addr stack cbTotal halign⟩
  · exact wordAt?_leBytes DXBC_MAGIC _
  · have hmid := bytesAt_middle (leBytes DXBC_MAGIC)
      (dxbcHash (addr + 0x14) stack (hashedPart chunks cbTotal) (cbTotal - 0x14#32))
      (hashedPart chunks cbTotal)
    rw [hhash] at hmid
    have hdrop : (containerBytes addr stack chunks cbTotal).drop 0x14 =
        hashedPart chunks cbTotal := rfl
    rw [hdrop]
    exact hmid
  · exact wordAt?_hashedPart (i := 0) rfl
  · exact wordAt?_hashedPart (i := 1) rfl
  · exact wordAt?_hashedPart (i := 2) rfl

-- ============================================================================
-- The builders
-- ============================================================================

/-- The length of the container of some chunks. -/
def containerLength (chunks : List DxbcChunk) : Nat :=
  0x20 + 4 * chunks.length + (chunks.flatMap DxbcChunk.bytes).length

/-- The writer behind the header's zeros and the chunks. -/
theorem finalize_pushed (chunks : List DxbcChunk) (addr stack cbAlloc : Nat) {w : DxbcWriter}
    (hw : w = (DxbcWriter.push { bytes := [], cbAlloc := cbAlloc }
      (List.replicate (0x20 + 4 * chunks.length) 0)).push (chunks.flatMap DxbcChunk.bytes)) :
    finalize w addr stack (chunkOffsets (0x20 + 4 * chunks.length) chunks) =
      (containerBytes addr stack chunks (BitVec.ofNat 32 (containerLength chunks)),
        BitVec.ofNat 32 (containerLength chunks)) := by
  have hbytes : w.bytes =
      List.replicate (0x20 + 4 * chunks.length) 0 ++ chunks.flatMap DxbcChunk.bytes := by
    rw [hw]
    rfl
  have hsize : w.size = containerLength chunks := by
    rw [DxbcWriter.size, hbytes, List.length_append, List.length_replicate, containerLength]
  rw [finalize_eq addr stack hbytes, hsize]

/-- The buffer is large enough for every plan, and what it holds in the end is the
    container of the plan's chunks. -/
theorem assembleDxbc_eq {heap : DxbcHeap} {addr : Nat} {plan : DxbcPlan} (code : List Byte)
    (hbuffer : heap.buffer = some addr) (hplan : plan.Writable) :
    ∃ chunks, ShaderChunks plan (padded code) chunks ∧
      assembleDxbc heap plan code =
        some (containerBytes addr heap.stack chunks (BitVec.ofNat 32 (containerLength chunks)),
          BitVec.ofNat 32 (containerLength chunks)) := by
  have hblob : 3 ≤ plan.cBlob := by
    rw [DxbcPlan.cBlob]
    split
    case isTrue => decide
    case isFalse => decide
  have hhdr : plan.cbHdr = 0x20 + 4 * plan.cBlob := by
    rw [DxbcPlan.cbHdr]
    omega
  let w₀ : DxbcWriter := { bytes := [], cbAlloc := plan.cbInit code.length }
  have hinit : w₀.cbAlloc = plan.cbHdr +
      (plan.aIn.length + plan.aOut.length + plan.aPatch.length) * (32 + 32) +
        plan.cBlob * (8 + 8 + 4) + (8 + code.length + 4) := rfl
  have hsize₀ : w₀.size = 0 := rfl
  have hsize : (w₀.push (List.replicate plan.cbHdr 0)).size = plan.cbHdr := by
    rw [DxbcWriter.push_size, List.length_replicate, hsize₀, Nat.zero_add]
  obtain ⟨chunks, hwrite, hchunks⟩ :=
    writeChunks_append code (w := w₀.push (List.replicate plan.cbHdr 0)) hplan
      (by rw [hsize, DxbcWriter.push_cbAlloc]; omega)
  refine ⟨chunks, hchunks, ?_⟩
  have hlen := hchunks.length_eq
  unfold assembleDxbc
  rw [hbuffer]
  dsimp only [bind, Option.bind]
  rw [DxbcWriter.appendZeros_eq (w := w₀) (by omega)]
  dsimp only
  rw [hwrite]
  dsimp only
  rw [hsize, hhdr, ← hlen, finalize_pushed chunks addr heap.stack _ rfl]
  rfl

/-- What `tritonBuildDxbc` returns when its arguments are valid and the heap has room. -/
theorem tritonBuildDxbc_eq {heap : DxbcHeap} {tokens : List UINT} {cbTokens : Nat}
    {entryStride : UINT} {pIn pOut pPatch : List DdiEntry} {plan : DxbcPlan}
    (hmin : 8 ≤ cbTokens) (hmem : cbTokens ≤ 4 * tokens.length)
    (hstride : entryStride = 12 ∨ entryStride = 20) (hscratch : heap.scratch = true)
    (hplan : dxbcPlan tokens cbTokens pIn pOut pPatch entryStride = .ok plan) :
    tritonBuildDxbc heap tokens cbTokens pIn pOut pPatch entryStride =
      .ok (assembleDxbc heap plan ((wordBytes tokens).take cbTokens)) := by
  have hnot : ¬(entryStride ≠ 12 ∧ entryStride ≠ 20) := fun h => hstride.elim h.1 h.2
  rw [tritonBuildDxbc, if_neg (by omega), if_neg hnot, if_neg (by rw [hscratch]; decide), hplan,
    readTokenBytes, if_pos hmem]
  rfl

/-- A container whose length is a DWORD. -/
theorem container_of_length_lt (addr stack : Nat) {chunks : List DxbcChunk}
    (halign : Aligned chunks) (hlt : containerLength chunks < 2 ^ 32) :
    DxbcContainer addr stack chunks
      (containerBytes addr stack chunks (BitVec.ofNat 32 (containerLength chunks)))
      (BitVec.ofNat 32 (containerLength chunks)) := by
  apply containerBytes_container addr stack halign
  rw [length_containerBytes, BitVec.toNat_ofNat, Nat.mod_eq_of_lt hlt]
  rfl

/-- `tritonBuildDxbc` on a stream of whole DWORDs returns the container of the shader. -/
theorem tritonBuildDxbc_returns (tokens : List UINT) (cTokens cbTokens : Nat)
    (hcb : cbTokens = 4 * cTokens) (hmin : 8 ≤ cbTokens)
    (hmem : cbTokens ≤ 4 * tokens.length) (pIn pOut pPatch : List DdiEntry) {entryStride : UINT}
    (hstride : entryStride = 12 ∨ entryStride = 20) (heap : DxbcHeap)
    (hscratch : heap.scratch = true) {addr : Nat} (hbuffer : heap.buffer = some addr) :
    ∃ plan bytes cbOut chunks,
      dxbcPlan tokens cbTokens pIn pOut pPatch entryStride = .ok plan ∧
      tritonBuildDxbc heap tokens cbTokens pIn pOut pPatch entryStride =
        .ok (some (bytes, cbOut)) ∧
      ShaderChunks plan (wordBytes (tokens.take cTokens)) chunks ∧
      bytes.length = containerLength chunks ∧
      (bytes.length < 2 ^ 32 → DxbcContainer addr heap.stack chunks bytes cbOut) := by
  obtain ⟨plan, hplan⟩ := dxbcPlan_returns hmin hmem pIn pOut pPatch entryStride
  have hbuild := tritonBuildDxbc_eq hmin hmem hstride hscratch hplan
  have hcode : (wordBytes tokens).take cbTokens = wordBytes (tokens.take cTokens) := by
    rw [hcb, take_wordBytes]
  have hpad : padded (wordBytes (tokens.take cTokens)) =
      wordBytes (tokens.take cTokens) := by
    apply padded_of_aligned
    rw [length_wordBytes]
    omega
  rw [hcode] at hbuild
  obtain ⟨chunks, hchunks, hassemble⟩ :=
    assembleDxbc_eq (wordBytes (tokens.take cTokens)) hbuffer (dxbcPlan_writable hplan)
  rw [hassemble] at hbuild
  have hlength := length_containerBytes addr heap.stack chunks
    (BitVec.ofNat 32 (containerLength chunks))
  refine ⟨plan, _, _, chunks, hplan, hbuild, hpad ▸ hchunks, hlength, fun hlt => ?_⟩
  rw [hlength] at hlt
  exact container_of_length_lt addr heap.stack hchunks.aligned hlt

/-- `tritonBuildInputSigDxbc` returns the container of its entries. -/
theorem tritonBuildInputSigDxbc_returns {entries : List InputSigEntry} (hpos : 0 < entries.length)
    (hle : entries.length ≤ 128) (hshort : ∀ e ∈ entries, e.nameOrAttrib.length ≤ 31)
    {heap : DxbcHeap} {addr : Nat} (hbuffer : heap.buffer = some addr) :
    ∃ bytes cbOut c,
      tritonBuildInputSigDxbc heap entries = some (bytes, cbOut) ∧
      c.fourcc = DXBC_BLOB_TYPE_ISGN ∧
      NamedElements entries InputSigEntry.nameOrAttrib InputSigEntry.element 24 c.body ∧
      DxbcContainer addr heap.stack [c] bytes cbOut := by
  let w₀ : DxbcWriter := { bytes := [], cbAlloc := 36 + 8 + 8 + entries.length * (24 + 32) + 16 }
  have halloc : w₀.cbAlloc = 36 + 8 + 8 + entries.length * (24 + 32) + 16 := rfl
  have hsize₀ : w₀.size = 0 := rfl
  have hsize : (w₀.push (List.replicate 36 0)).size = 36 := rfl
  have hnames := length_nameText_le (entries.map InputSigEntry.nameOrAttrib) (by
    intro name hname
    obtain ⟨e, he, rfl⟩ := List.mem_map.mp hname
    exact hshort e he)
  rw [List.length_map] at hnames
  have helems := elementsOf_zipWith entries InputSigEntry.nameOrAttrib length_inputElement
  obtain ⟨slots, body, hwrite, hbody⟩ :=
    writeNamedBlob_append (w := w₀.push (List.replicate 36 0)) DXBC_BLOB_TYPE_ISGN helems
      (by rw [List.length_map, hsize, DxbcWriter.push_cbAlloc]; omega)
      (by rw [List.length_map]; omega)
  let c : DxbcChunk := { fourcc := DXBC_BLOB_TYPE_ISGN, body := body }
  have hfront := length_namedFront (helems slots hbody.length_slots)
  rw [List.length_map] at hfront
  have hpad := padLength_lt (namedFront (entries.map InputSigEntry.nameOrAttrib)
    (List.zipWith InputSigEntry.element entries) slots).length
  have hlen : c.bytes.length ≤ 8 + (8 + entries.length * 24 + entries.length * 32 + 3) := by
    rw [DxbcChunk.length_bytes]
    show 8 + body.length ≤ _
    rw [hbody.bytes, length_padded]
    omega
  have halign : Aligned [c] := by
    have hbody_aligned := hbody.aligned
    intro d hd
    rw [List.mem_singleton.mp hd, DxbcChunk.length_bytes]
    show (8 + body.length) % 4 = 0
    omega
  have htotal : containerLength [c] = 36 + c.bytes.length := by
    rw [containerLength, List.flatMap_singleton, List.length_singleton]
  refine ⟨_, _, c, ?_, rfl, hbody.namedElements length_inputElement,
    container_of_length_lt addr heap.stack halign (by omega)⟩
  have hmax : TRITON_DXBC_MAX_SIG_ENTRIES = 128 := rfl
  rw [tritonBuildInputSigDxbc, if_neg (by omega), hbuffer]
  dsimp only [bind, Option.bind]
  rw [DxbcWriter.appendZeros_eq (w := w₀) (by omega)]
  dsimp only
  rw [writeInputSigBlob, hwrite]
  exact congrArg some (finalize_pushed [c] addr heap.stack w₀.cbAlloc
    (by rw [List.flatMap_singleton]; rfl))

theorem ShaderChunks.length_three_or_four {plan : DxbcPlan} {code : List Byte}
    {chunks : List DxbcChunk} (h : ShaderChunks plan code chunks) :
    chunks.length = 3 ∨ chunks.length = 4 := by
  cases h with
  | noPatch hhull hin hout => exact .inl rfl
  | patch hhull hin hout hpatch => exact .inr rfl

-- ============================================================================
-- A vertex shader that declares nothing
-- ============================================================================

/-- The plan of a vertex shader with the given signatures. -/
def vsPlan (aIn aOut : List TritonSigEntry) : DxbcPlan where
  progType := PROG_VS
  verMajor := 4
  aIn := aIn
  aOut := aOut
  aPatch := []

/-- A vertex shader whose first instruction has no length: its signatures are those of the
    DDI entries. -/
theorem dxbcPlan_undeclared (declared : UINT) (rest : List UINT) (cbTokens : Nat)
    (pIn pOut : List DdiEntry) (entryStride : UINT) :
    dxbcPlan (0x00010040 :: declared :: 0 :: 0 :: rest) cbTokens pIn pOut [] entryStride =
      .ok (vsPlan
        (tritonAssignSemantics (tritonCollectSigEntries pIn entryStride [] 1)
          DXBC_BLOB_TYPE_ISGN PROG_VS {})
        (tritonAssignSemantics (tritonCollectSigEntries pOut entryStride [] 1)
          DXBC_BLOB_TYPE_OSGN PROG_VS {})) := by
  rw [dxbcPlan, tritonScanShdrDecls_stops]
  rfl

/-- A DDI input in `v0` without a system value. -/
def attributeIn : DdiEntry where
  systemValue := 0
  registerIdx := 0
  mask := 0xF

/-- Its entry in the input signature. -/
def attributeSig : TritonSigEntry where
  sysval := 0
  reg := 0
  mask := 0xF
  compType := COMP_FLOAT32
  minPrec := 0
  stream := 0
  name := attribName
  dxSysValue := 0
  semIdx := 0

theorem vsPlan_attribute :
    dxbcPlan [0x00010040, 4, 0, 0] 16 [attributeIn] [] [] 12 = .ok (vsPlan [attributeSig] []) := by
  rw [dxbcPlan_undeclared]
  rfl

/-- Two DDI inputs packed in `v0`, one of them of minimum precision, and one in `v1`. -/
def packedIn : List DdiEntry :=
  [{ systemValue := 0, registerIdx := 1, mask := 0x7 },
    { systemValue := 0, registerIdx := 0, mask := 0xC },
    { systemValue := 0, registerIdx := 0, mask := 0x3, minPrecision := 1 }]

/-- The position in `o0`, and two DDI outputs packed in `o1`, one of them of integers. -/
def packedOut : List DdiEntry :=
  [{ systemValue := 0, registerIdx := 1, mask := 0xC },
    { systemValue := 1, registerIdx := 0, mask := 0xF },
    { systemValue := 0, registerIdx := 1, mask := 0x3, componentType := 1 }]

/-- Their signatures: sorted by register and component, most entries of one name. -/
def packedPlan : DxbcPlan :=
  vsPlan
    [{ sysval := 0, reg := 0, mask := 0x3, compType := COMP_FLOAT32, minPrec := 1, stream := 0,
       name := attribName, dxSysValue := 0, semIdx := 0 },
      { sysval := 0, reg := 0, mask := 0xC, compType := COMP_FLOAT32, minPrec := 0, stream := 0,
        name := attribName, dxSysValue := 0, semIdx := 2 },
      { sysval := 0, reg := 1, mask := 0x7, compType := COMP_FLOAT32, minPrec := 0, stream := 0,
        name := attribName, dxSysValue := 0, semIdx := 4 }]
    [{ sysval := 1, reg := 0, mask := 0xF, compType := COMP_FLOAT32, minPrec := 0, stream := 0,
       name := cstr "SV_Position", dxSysValue := 1, semIdx := 0 },
      { sysval := 0, reg := 1, mask := 0x3, compType := COMP_UINT32, minPrec := 0, stream := 0,
        name := attribName, dxSysValue := 0, semIdx := 4 },
      { sysval := 0, reg := 1, mask := 0xC, compType := COMP_FLOAT32, minPrec := 0, stream := 0,
        name := attribName, dxSysValue := 0, semIdx := 6 }]

theorem packedPlan_eq (declared : UINT) (rest : List UINT) (cbTokens : Nat) :
    dxbcPlan (0x00010040 :: declared :: 0 :: 0 :: rest) cbTokens packedIn packedOut [] 20 =
      .ok packedPlan := by
  rw [dxbcPlan_undeclared]
  rfl

/-- Four names, the second one twice and the last one left out. -/
def namedInputs : List InputSigEntry :=
  [{ name := some (cstr "POSITION"), semanticIndex := 0, register := 0 },
    { name := some (cstr "TEXCOORD"), semanticIndex := 0, register := 1 },
    { name := some (cstr "TEXCOORD"), semanticIndex := 1, register := 2 },
    { name := none, semanticIndex := 12, register := 3 }]

/-- Both builders return well-formed containers: that of the plan's signatures and the
    token stream, and that of one signature for the entries.  The stream is `cTokens`
    DWORDs long, as many as its second one says when it comes from the DDI. -/
theorem dxbc_containers (tokens : List UINT) (cTokens cbTokens : Nat)
    (hcb : cbTokens = 4 * cTokens) (hmin : 8 ≤ cbTokens)
    (hmem : cbTokens ≤ 4 * tokens.length) (pIn pOut pPatch : List DdiEntry) {entryStride : UINT}
    (hstride : entryStride = 12 ∨ entryStride = 20) (entries : List InputSigEntry)
    (hpos : 0 < entries.length) (hle : entries.length ≤ 128)
    (hshort : ∀ e ∈ entries, e.nameOrAttrib.length ≤ 31)
    (heap : DxbcHeap) (hscratch : heap.scratch = true) {addr : Nat}
    (hbuffer : heap.buffer = some addr) :
    (∃ plan bytes cbOut chunks,
      dxbcPlan tokens cbTokens pIn pOut pPatch entryStride = .ok plan ∧
      tritonBuildDxbc heap tokens cbTokens pIn pOut pPatch entryStride =
        .ok (some (bytes, cbOut)) ∧
      (chunks.length = 3 ∨ chunks.length = 4) ∧
      ShaderChunks plan (wordBytes (tokens.take cTokens)) chunks ∧
      bytes.length = containerLength chunks ∧
      (bytes.length < 2 ^ 32 → DxbcContainer addr heap.stack chunks bytes cbOut)) ∧
    (∃ bytes cbOut c,
      tritonBuildInputSigDxbc heap entries = some (bytes, cbOut) ∧
      c.fourcc = DXBC_BLOB_TYPE_ISGN ∧
      NamedElements entries InputSigEntry.nameOrAttrib InputSigEntry.element 24 c.body ∧
      DxbcContainer addr heap.stack [c] bytes cbOut) := by
  obtain ⟨plan, bytes, cbOut, chunks, hplan, hbuild, hchunks, hcontainer⟩ :=
    tritonBuildDxbc_returns tokens cTokens cbTokens hcb hmin hmem pIn pOut pPatch hstride heap
      hscratch hbuffer
  exact ⟨⟨plan, bytes, cbOut, chunks, hplan, hbuild, hchunks.length_three_or_four, hchunks,
    hcontainer⟩, tritonBuildInputSigDxbc_returns hpos hle hshort hbuffer⟩

/-- A shader with packed registers, minimum precision and names that several entries
    share, and an input signature with such names; the texts end unaligned. -/
theorem dxbc_containers_vertexShader :
    (∃ bytes cbOut cIn cOut,
      tritonBuildDxbc { scratch := true, buffer := some 64 } [0x00010040, 4, 0, 0] 16 packedIn
        packedOut [] 20 = .ok (some (bytes, cbOut)) ∧
      SigChunk DXBC_BLOB_TYPE_ISG1 DXBC_BLOB_TYPE_ISGN PROG_VS packedPlan.aIn cIn ∧
      SigChunk DXBC_BLOB_TYPE_OSG1 DXBC_BLOB_TYPE_OSGN PROG_VS packedPlan.aOut cOut ∧
      bytes.length = 320 ∧
      DxbcContainer 64 0
        [cIn, cOut, { fourcc := DXBC_BLOB_TYPE_SHDR, body := wordBytes [0x00010040, 4, 0, 0] }]
        bytes cbOut) ∧
    (∃ bytes cbOut c,
      tritonBuildInputSigDxbc { scratch := true, buffer := some 64 } namedInputs =
        some (bytes, cbOut) ∧
      c.fourcc = DXBC_BLOB_TYPE_ISGN ∧
      NamedElements namedInputs InputSigEntry.nameOrAttrib InputSigEntry.element 24 c.body ∧
      DxbcContainer 64 0 [c] bytes cbOut) := by
  obtain ⟨⟨plan, bytes, cbOut, chunks, hplan, hbuild, -, hchunks, hlength, hcontainer⟩, hsig⟩ :=
    dxbc_containers [0x00010040, 4, 0, 0] 4 16 rfl (by decide) (by decide) packedIn packedOut []
      (.inr rfl) namedInputs (by decide) (by decide) (by decide)
      { scratch := true, buffer := some 64 } rfl rfl
  obtain rfl : plan = packedPlan := Except.ok.inj (hplan.symm.trans (packedPlan_eq 4 [] 16))
  refine ⟨?_, hsig⟩
  cases hchunks with
  | patch hhull => cases hhull
  | noPatch hhull hin hout =>
      have hbytes : bytes.length = 320 := by
        rw [hlength, containerLength, List.flatMap_cons, List.flatMap_cons, List.flatMap_singleton,
          List.length_append, List.length_append, hin.length, hout.length, DxbcChunk.length_bytes]
        rfl
      exact ⟨bytes, cbOut, _, _, hbuild, hin, hout, hbytes,
        hcontainer (by rw [hbytes]; decide)⟩

/-- The guard of `tritonBuildInputSigDxbc` rejects a signature without entries. -/
theorem inputSig_noEntries :
    ¬∃ bytes cbOut,
      tritonBuildInputSigDxbc { scratch := true, buffer := some 64 } [] = some (bytes, cbOut) := by
  rintro ⟨bytes, cbOut, h⟩
  cases h

end VirtioWddm
