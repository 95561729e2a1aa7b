/-
  VirtioWddm.Triton.Dxbc.Writer

  The container builder: the append-only byte writer, the signature and code chunks,
  `tritonBuildDxbc` and `tritonBuildInputSigDxbc`.

  A pointer into the buffer is an offset.  What the code fills in after appending
  zeros (headers, element arrays) is kept beside the writer and patched into the
  buffer where the code is done with it.
-/

import VirtioWddm.Triton.Dxbc.Md5
import VirtioWddm.Triton.Dxbc.Semantics

namespace VirtioWddm

open Lib

-- ============================================================================
-- The writer
-- ============================================================================

/-- `DxbcWriter`: the bytes up to `pPtr`, and `cbAlloc`. -/
structure DxbcWriter where
  bytes : List Byte
  cbAlloc : Nat
deriving DecidableEq

namespace DxbcWriter

/-- `writerSize`. -/
def size (w : DxbcWriter) : Nat :=
  w.bytes.length

/-- `writerReserve`. -/
def reserve (w : DxbcWriter) (cb : Nat) : Bool :=
  w.size + cb ≤ w.cbAlloc

/-- `writerAppend`; `none` is NULL. -/
def append (w : DxbcWriter) (p : List Byte) : Option DxbcWriter :=
  if w.reserve p.length then some { w with bytes := w.bytes ++ p } else none

/-- `writerAppend(w, NULL, cb)`. -/
def appendZeros (w : DxbcWriter) (cb : Nat) : Option DxbcWriter :=
  w.append (List.replicate cb 0)

/-- Bytes filled in at `off`. -/
def fill (w : DxbcWriter) (off : Nat) (p : List Byte) : DxbcWriter :=
  { w with bytes := patch w.bytes off p }

end DxbcWriter

-- ============================================================================
-- Signature chunks
-- ============================================================================

/-- What `tritonSigBlobLayout` returns. -/
structure SigBlobLayout where
  cbEntry : Nat
  fStream : Bool
  fMinPrec : Bool
deriving DecidableEq

/-- `tritonSigBlobLayout`. -/
def tritonSigBlobLayout (fourcc : UINT) : SigBlobLayout :=
  if fourcc = DXBC_BLOB_TYPE_OSG5 then
    { cbEntry := 28, fStream := true, fMinPrec := false }
  else if fourcc = DXBC_BLOB_TYPE_ISG1 ∨ fourcc = DXBC_BLOB_TYPE_OSG1 ∨
      fourcc = DXBC_BLOB_TYPE_PSG1 then
    { cbEntry := 32, fStream := true, fMinPrec := true }
  else
    { cbEntry := 24, fStream := false, fMinPrec := false }

/-- The used-component mask of an element. -/
def usedMask (blobClass progType m : UINT) : UINT :=
  if blobClass = DXBC_BLOB_TYPE_ISGN then m
  else if blobClass = DXBC_BLOB_TYPE_OSGN then ~~~m &&& 0x0F#32
  else if progType = PROG_HS then ~~~m &&& 0x0F#32
  else m

/-- The DWORDs of an element, in the order of their offsets. -/
def sigElement (layout : SigBlobLayout) (blobClass progType : UINT) (s : TritonSigEntry)
    (offName : UINT) : List UINT :=
  let m := s.mask &&& 0x0F#32
  let used := usedMask blobClass progType m
  (if layout.fStream then [s.stream] else []) ++
    [offName, s.semIdx, s.dxSysValue, s.compType, s.reg,
      (m &&& 0xFF#32) ||| ((used &&& 0xFF#32) <<< 8)] ++
    (if layout.fMinPrec then [s.minPrec] else [])

/-- The loop that emits the names, from some element on: `names` are the names of the
    elements and `slots` their name offsets so far, where `0` is none.  A name that is
    emitted becomes the offset of all later elements of that name. -/
def emitNames (pIosgn : Nat) :
    List CString → List UINT → DxbcWriter → Option (List UINT × DxbcWriter)
  | name :: names, slot :: slots, w =>
      if slot ≠ 0 then do
        let (slots, w) ← emitNames pIosgn names slots w
        return (slot :: slots, w)
      else do
        let off := BitVec.ofNat 32 (w.size - pIosgn)
        let w ← w.append (name ++ [0])
        let slots := List.zipWith (fun n s => if s = 0 ∧ n = name then off else s) names slots
        let (slots, w) ← emitNames pIosgn names slots w
        return (off :: slots, w)
  | _, _, w => some ([], w)

/-- The padding to the next multiple of four. -/
def padLength (cbBody : Nat) : Nat :=
  (4 - cbBody % 4) % 4

/-- Pad the body that starts at `pIosgn`. -/
def DxbcWriter.pad (w : DxbcWriter) (pIosgn : Nat) : Option DxbcWriter :=
  let pad := padLength (w.size - pIosgn)
  if pad = 0 then some w else w.appendZeros pad

/-- A chunk of elements with names, as both builders write it: the blob header, the
    number of elements and the offset of the first, the elements, the names, padding.
    `elems` makes the elements from their name offsets. -/
def writeNamedBlob (w : DxbcWriter) (fourcc : UINT) (cbEntry : Nat) (names : List CString)
    (elems : List UINT → List (List UINT)) : Option DxbcWriter := do
  let pHdr := w.size
  let w ← w.appendZeros 8
  let pIosgn := w.size
  let w ← w.appendZeros 8
  let pElems := w.size
  let w ← w.appendZeros (names.length * cbEntry)
  let (slots, w) ← emitNames pIosgn names (List.replicate names.length 0) w
  let w ← w.pad pIosgn
  let cbBody := w.size - pIosgn
  return ((w.fill pElems (wordBytes (elems slots).flatten)).fill pIosgn
      (wordBytes [BitVec.ofNat 32 names.length, 8])).fill pHdr
    (wordBytes [fourcc, BitVec.ofNat 32 cbBody])

/-- `writeSigBlob`. -/
def writeSigBlob (w : DxbcWriter) (fourcc blobClass progType : UINT)
    (entries : List TritonSigEntry) : Option DxbcWriter :=
  if TRITON_DXBC_MAX_SIG_ENTRIES < entries.length then none
  else
    let layout := tritonSigBlobLayout fourcc
    writeNamedBlob w fourcc layout.cbEntry (entries.map TritonSigEntry.name)
      (List.zipWith (sigElement layout blobClass progType) entries)

-- ============================================================================
-- The code chunk
-- ============================================================================

/-- The first `cbTokens` bytes behind `pTokens`. -/
def readTokenBytes (tokens : List UINT) (cbTokens : Nat) : Except TokenFault (List Byte) :=
  if cbTokens ≤ 4 * tokens.length then return (wordBytes tokens).take cbTokens
  else .error (.readPastEnd tokens.length)

/-- `writeSHDRBlob` for the bytes of the token stream. -/
def writeSHDRBlob (w : DxbcWriter) (fourcc : UINT) (code : List Byte) : Option DxbcWriter := do
  let pHdr := w.size
  let w ← w.appendZeros 8
  let pStart := w.size
  let w ← w.append code
  let pad := padLength code.length
  let w ← if pad = 0 then some w else w.appendZeros pad
  let cbBlob := w.size - pStart
  return w.fill pHdr (wordBytes [fourcc, BitVec.ofNat 32 cbBlob])

-- ============================================================================
-- The container
-- ============================================================================

def DXBC_MAGIC : UINT := 0x43425844

/-- `DXBCHeader` with its blob offsets. -/
structure DXBCHeader where
  au8Hash : List Byte
  cbTotal : UINT
  aBlobOffset : List UINT
deriving DecidableEq

/-- The header in memory: magic, hash, version, size, number of blobs, offsets. -/
def DXBCHeader.bytes (h : DXBCHeader) : List Byte :=
  leBytes DXBC_MAGIC ++ h.au8Hash ++
    wordBytes ([1, h.cbTotal, BitVec.ofNat 32 h.aBlobOffset.length] ++ h.aBlobOffset)

/-- The end of both builders: the header with its size, and the hash of what follows
    it.  `addr` is the address of the buffer. -/
def finalize (w : DxbcWriter) (addr stack : Nat) (aBlobOffset : List UINT) :
    List Byte × UINT :=
  let cbTotal := BitVec.ofNat 32 w.size
  let w :=
    w.fill 0
      (DXBCHeader.bytes
        { au8Hash := List.replicate 16 0, cbTotal := cbTotal, aBlobOffset := aBlobOffset })
  let hash := dxbcHash (addr + 0x14) stack (w.bytes.drop 0x14) (cbTotal - 0x14#32)
  ((w.fill 4 hash).bytes, cbTotal)

/-- The heap's answers in a call: whether the scratch block is there, where the buffer
    is; `stack` is the address of the hash's block buffer. -/
structure DxbcHeap where
  scratch : Bool
  buffer : Option Nat
  stack : Nat := 0
deriving DecidableEq

/-- What the container is built from: the program type and version of the shader, and
    the final entries of its signatures. -/
structure DxbcPlan where
  progType : UINT
  verMajor : UINT
  aIn : List TritonSigEntry
  aOut : List TritonSigEntry
  aPatch : List TritonSigEntry
deriving DecidableEq

namespace DxbcPlan

/-- `fHullDomain`. -/
def hullDomain (plan : DxbcPlan) : Bool :=
  plan.progType = PROG_HS || plan.progType = PROG_DS

/-- `cBlob`. -/
def cBlob (plan : DxbcPlan) : Nat :=
  if plan.hullDomain then 4 else 3

/-- `fMinPrec`. -/
def minPrec (plan : DxbcPlan) : Bool :=
  (plan.aIn ++ plan.aOut ++ plan.aPatch).any fun e => e.minPrec != 0

def fccIn (plan : DxbcPlan) : UINT :=
  if plan.minPrec then DXBC_BLOB_TYPE_ISG1 else DXBC_BLOB_TYPE_ISGN

def fccOut (plan : DxbcPlan) : UINT :=
  if plan.minPrec then DXBC_BLOB_TYPE_OSG1
  else if plan.progType = PROG_GS ∧ 5#32 ≤ plan.verMajor then DXBC_BLOB_TYPE_OSG5
  else DXBC_BLOB_TYPE_OSGN

def fccPatch (plan : DxbcPlan) : UINT :=
  if plan.minPrec then DXBC_BLOB_TYPE_PSG1 else DXBC_BLOB_TYPE_PCSG

def fccShdr (plan : DxbcPlan) : UINT :=
  if 5#32 ≤ plan.verMajor then DXBC_BLOB_TYPE_SHEX else DXBC_BLOB_TYPE_SHDR

/-- `cbHdr`. -/
def cbHdr (plan : DxbcPlan) : Nat :=
  36 + (plan.cBlob - 1) * 4

/-- `cbInit`: 64 bytes for each entry, 20 for each blob. -/
def cbInit (plan : DxbcPlan) (cbTokens : Nat) : Nat :=
  plan.cbHdr + (plan.aIn.length + plan.aOut.length + plan.aPatch.length) * (32 + 32) +
    plan.cBlob * (8 + 8 + 4) + (8 + cbTokens + 4)

end DxbcPlan

/-- The first part of `tritonBuildDxbc`: the scan, and the three entry sets. -/
def dxbcPlan (tokens : List UINT) (cbTokens : Nat) (pIn pOut pPatch : List DdiEntry)
    (entryStride : UINT) : Except TokenFault DxbcPlan := do
  let progType ← programType tokens
  let scan ← tritonScanShdrDecls tokens cbTokens
  let fHullDomain := progType = PROG_HS ∨ progType = PROG_DS
  let aIn := tritonCollectSigEntries pIn entryStride scan.aIn 1
  let aOut :=
    tritonCollectSigEntries pOut entryStride scan.aOut
      (if progType = PROG_GS then scan.cStream else 1)
  let aPatch :=
    if fHullDomain then tritonCollectSigEntries pPatch entryStride scan.aPatch 1 else []
  let ver ← readToken tokens 0
  return {
    progType := progType
    verMajor := (ver >>> 4) &&& 0xF#32
    aIn := tritonAssignSemantics aIn DXBC_BLOB_TYPE_ISGN progType scan
    aOut := tritonAssignSemantics aOut DXBC_BLOB_TYPE_OSGN progType scan
    aPatch :=
      if fHullDomain then tritonAssignSemantics aPatch DXBC_BLOB_TYPE_PCSG progType scan else [] }

/-- The chunks of the container, with the offset of each. -/
def writeChunks (plan : DxbcPlan) (code : List Byte) (w : DxbcWriter) :
    Option (List UINT × DxbcWriter) := do
  let offIn := BitVec.ofNat 32 w.size
  let w ← writeSigBlob w plan.fccIn DXBC_BLOB_TYPE_ISGN plan.progType plan.aIn
  let offOut := BitVec.ofNat 32 w.size
  let w ← writeSigBlob w plan.fccOut DXBC_BLOB_TYPE_OSGN plan.progType plan.aOut
  if plan.hullDomain then
    let offPatch := BitVec.ofNat 32 w.size
    let w ← writeSigBlob w plan.fccPatch DXBC_BLOB_TYPE_PCSG plan.progType plan.aPatch
    let offShdr := BitVec.ofNat 32 w.size
    let w ← writeSHDRBlob w plan.fccShdr code
    return ([offIn, offOut, offPatch, offShdr], w)
  else
    let offShdr := BitVec.ofNat 32 w.size
    let w ← writeSHDRBlob w plan.fccShdr code
    return ([offIn, offOut, offShdr], w)

/-- The second part of `tritonBuildDxbc`: the buffer is allocated and filled. -/
def assembleDxbc (heap : DxbcHeap) (plan : DxbcPlan) (code : List Byte) :
    Option (List Byte × UINT) := do
  let addr ← heap.buffer
  let w ← DxbcWriter.appendZeros { bytes := [], cbAlloc := plan.cbInit code.length } plan.cbHdr
  let (aBlobOffset, w) ← writeChunks plan code w
  return finalize w addr heap.stack aBlobOffset

/-- `tritonBuildDxbc`: the container and `*pcbOut`, or `none` for NULL. -/
def tritonBuildDxbc (heap : DxbcHeap) (tokens : List UINT) (cbTokens : Nat)
    (pIn pOut pPatch : List DdiEntry) (entryStride : UINT) :
    Except TokenFault (Option (List Byte × UINT)) :=
  if cbTokens < 8 then return none
  else if entryStride ≠ 12 ∧ entryStride ≠ 20 then return none
  else if heap.scratch = false then return none
  else do
    let plan ← dxbcPlan tokens cbTokens pIn pOut pPatch entryStride
    let code ← readTokenBytes tokens cbTokens
    return assembleDxbc heap plan code

-- ============================================================================
-- The input-signature container
-- ============================================================================

/-- One entry of the arrays `tritonBuildInputSigDxbc` takes; a NULL name is
    `none`. -/
structure InputSigEntry where
  name : Option CString
  semanticIndex : UINT
  register : UINT
deriving DecidableEq

/-- `pNames[i] ? pNames[i] : "ATTRIB"`. -/
def InputSigEntry.nameOrAttrib (e : InputSigEntry) : CString :=
  e.name.getD attribName

/-- An element: four float components, all used. -/
def InputSigEntry.element (e : InputSigEntry) (offName : UINT) : List UINT :=
  [offName, e.semanticIndex, 0, 3, e.register, 0x0F#32 ||| (0x0F#32 <<< 8)]

/-- The chunk of `tritonBuildInputSigDxbc`. -/
def writeInputSigBlob (w : DxbcWriter) (entries : List InputSigEntry) : Option DxbcWriter :=
  writeNamedBlob w DXBC_BLOB_TYPE_ISGN 24 (entries.map InputSigEntry.nameOrAttrib)
    (List.zipWith InputSigEntry.element entries)

/-- `tritonBuildInputSigDxbc`. -/
def tritonBuildInputSigDxbc (heap : DxbcHeap) (entries : List InputSigEntry) :
    Option (List Byte × UINT) :=
  if entries.length = 0 ∨ TRITON_DXBC_MAX_SIG_ENTRIES < entries.length then
    none
  else do
    let cbHdr := 36
    let cbInit := cbHdr + 8 + 8 + entries.length * (24 + 32) + 16
    let addr ← heap.buffer
    let w ← DxbcWriter.appendZeros { bytes := [], cbAlloc := cbInit } cbHdr
    let offset := BitVec.ofNat 32 w.size
    let w ← writeInputSigBlob w entries
    return finalize w addr heap.stack [offset]

end VirtioWddm
