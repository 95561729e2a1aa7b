/-
  VirtioWddm.Triton.Dxbc.Parse

  `tritonDxbcParseSig`: the reader of the signature chunks of a container.

  A read outside the container's memory is `none`; where the code returns no entries
  the result is `some []`.
-/

import VirtioWddm.Triton.Dxbc.Semantics

namespace VirtioWddm

open Lib

def TRITON_DXBC_MAGIC : UINT := 0x43425844
def TRITON_TAG_OSGN : UINT := 0x4E47534F
def TRITON_TAG_OSG5 : UINT := 0x3547534F
def TRITON_TAG_OSG1 : UINT := 0x3147534F
def TRITON_TAG_ISGN : UINT := 0x4E475349
def TRITON_TAG_ISG1 : UINT := 0x31475349

/-- `TritonDxbcSig`. -/
structure TritonDxbcSig where
  stream : UINT
  register : UINT
  semanticIndex : UINT
  mask : UINT
  name : CString
deriving DecidableEq

-- ============================================================================
-- The chunk
-- ============================================================================

/-- The variables the search for a chunk sets. -/
structure SigData where
  dataOff : UINT := 0
  dataLen : UINT := 0
  entrySize : UINT := 0
  fHasStream : Bool := false
deriving DecidableEq

def tagPrefer (fInput : Bool) : UINT :=
  if fInput then TRITON_TAG_ISG1 else TRITON_TAG_OSG1

def tagMid (fInput : Bool) : UINT :=
  if fInput then TRITON_TAG_ISG1 else TRITON_TAG_OSG5

def tagBasic (fInput : Bool) : UINT :=
  if fInput then TRITON_TAG_ISGN else TRITON_TAG_OSGN

/-- The loop over the chunks, with `n` chunks left from the `i`-th on. -/
def findSigChunk (p : List Byte) (fInput : Bool) (fileSize : UINT) :
    Nat → Nat → SigData → Option SigData
  | 0, _, d => some d
  | n + 1, i, d => do
      let off ← wordAt? p (32 + 4 * i)
      if fileSize - 8#32 < off then findSigChunk p fInput fileSize n (i + 1) d
      else do
        let tag ← wordAt? p off.toNat
        let len ← wordAt? p (off.toNat + 4)
        if fileSize - off - 8#32 < len then findSigChunk p fInput fileSize n (i + 1) d
        else if tag = tagPrefer fInput then
          some { dataOff := off + 8#32, dataLen := len, entrySize := 32, fHasStream := true }
        else if tag = tagMid fInput ∧ fInput = false then
          some { dataOff := off + 8#32, dataLen := len, entrySize := 28, fHasStream := true }
        else if tag = tagBasic fInput ∧ d.dataOff = 0 then
          findSigChunk p fInput fileSize n (i + 1)
            { dataOff := off + 8#32, dataLen := len, entrySize := 24, fHasStream := false }
        else findSigChunk p fInput fileSize n (i + 1) d

-- ============================================================================
-- The entries
-- ============================================================================

/-- `sizeof(out->Name) - 1`. -/
def maxNameLength : Nat := 63

/-- The loop that copies a name of at most `n` characters. -/
def readName (p : List Byte) : Nat → Nat → Option CString
  | 0, _ => some []
  | n + 1, pos => do
      let c ← p[pos]?
      if c = 0 then some []
      else do
        let rest ← readName p n (pos + 1)
        return c :: rest

/-- The entry at `pe` of the chunk's data; `some none` is one that is skipped. -/
def readSigEntry (p : List Byte) (d : SigData) (pe : Nat) : Option (Option TritonDxbcSig) := do
  let base := if d.fHasStream then pe + 4 else pe
  let stream ← if d.fHasStream then wordAt? p pe else some 0
  let off ← wordAt? p base
  let semIdx ← wordAt? p (base + 4)
  let reg ← wordAt? p (base + 16)
  let mask ← p[base + 20]?
  if d.dataLen ≤ off then return none
  else do
    let avail := d.dataLen - off
    let name ← readName p (min maxNameLength avail.toNat) (d.dataOff.toNat + off.toNat)
    return some {
      stream := stream
      register := reg
      semanticIndex := semIdx
      mask := mask.setWidth 32 &&& 0xF#32
      name := name }

/-- The loop over the entries: `n` are left from the `i`-th on, and `room` more may be
    written. -/
def readSigEntries (p : List Byte) (d : SigData) : Nat → Nat → Nat → Option (List TritonDxbcSig)
  | 0, _, _ => some []
  | _ + 1, _, 0 => some []
  | n + 1, i, room + 1 => do
      match ← readSigEntry p d (d.dataOff.toNat + 8 + i * d.entrySize.toNat) with
      | none => readSigEntries p d n (i + 1) (room + 1)
      | some sig =>
          let sigs ← readSigEntries p d n (i + 1) room
          return sig :: sigs

/-- The entries of the chunk that was found. -/
def readSigData (p : List Byte) (d : SigData) (maxEntries : UINT) : Option (List TritonDxbcSig) :=
  if d.dataOff = 0 ∨ d.dataLen < 8#32 ∨ d.entrySize = 0 then some []
  else do
    let cElem ← wordAt? p d.dataOff.toNat
    if cElem = 0 ∨ 256#32 < cElem then some []
    else if d.dataLen < 8#32 + cElem * d.entrySize then some []
    else readSigEntries p d cElem.toNat 0 maxEntries.toNat

/-- `tritonDxbcParseSig`. -/
def tritonDxbcParseSig (p : List Byte) (cbBytecode : Nat) (fInput : Bool) (maxEntries : UINT) :
    Option (List TritonDxbcSig) :=
  if cbBytecode < 32 ∨ maxEntries = 0 then some []
  else do
    let magic ← wordAt? p 0
    if magic ≠ TRITON_DXBC_MAGIC then some []
    else do
      let size ← wordAt? p 24
      let cChunks ← wordAt? p 28
      let fileSize := if cbBytecode < size.toNat then BitVec.ofNat 32 cbBytecode else size
      if cChunks = 0 ∨ 256#32 < cChunks then some []
      else if fileSize < 32#32 + cChunks * 4#32 then some []
      else do
        let d ← findSigChunk p fInput fileSize cChunks.toNat 0 {}
        readSigData p d maxEntries

end VirtioWddm
