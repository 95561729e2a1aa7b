/-
  VirtioWddm.Triton.Dxbc.Semantics

  The entries of a signature chunk: collected from the DDI's array and the shader's
  declarations, sorted, and given their semantic names and indices.
-/

import VirtioWddm.Lib.Bytes
import VirtioWddm.Triton.Dxbc.Decls

namespace VirtioWddm

open Lib

-- ============================================================================
-- Semantic names
-- ============================================================================

/-- A C string, without its terminator. -/
abbrev CString := List Byte

/-- The ASCII bytes of a literal. -/
def cstr (s : String) : CString :=
  s.toList.map fun c => BitVec.ofNat 8 c.toNat

def DXBC_BLOB_TYPE_ISGN : UINT := 0x4E475349
def DXBC_BLOB_TYPE_ISG1 : UINT := 0x31475349
def DXBC_BLOB_TYPE_OSGN : UINT := 0x4E47534F
def DXBC_BLOB_TYPE_OSG5 : UINT := 0x3547534F
def DXBC_BLOB_TYPE_OSG1 : UINT := 0x3147534F
def DXBC_BLOB_TYPE_PCSG : UINT := 0x47534350
def DXBC_BLOB_TYPE_PSG1 : UINT := 0x31475350
def DXBC_BLOB_TYPE_SHDR : UINT := 0x52444853
def DXBC_BLOB_TYPE_SHEX : UINT := 0x58454853

/-- `SemanticInfo`. -/
structure SemanticInfo where
  name : CString
  compType : UINT
  dxSysValue : UINT
deriving DecidableEq

def COMP_UINT32 : UINT := 1
def COMP_FLOAT32 : UINT := 3

def attribName : CString := cstr "ATTRIB"

/-- `g_semInfo`, indexed by `D3D10_SB_NAME`. -/
def g_semInfo : List SemanticInfo :=
  [{ name := attribName, compType := COMP_FLOAT32, dxSysValue := 0 },
    { name := cstr "SV_Position", compType := COMP_FLOAT32, dxSysValue := 1 },
    { name := cstr "SV_ClipDistance", compType := COMP_FLOAT32, dxSysValue := 2 },
    { name := cstr "SV_CullDistance", compType := COMP_FLOAT32, dxSysValue := 3 },
    { name := cstr "SV_RenderTargetArrayIndex", compType := COMP_UINT32, dxSysValue := 4 },
    { name := cstr "SV_ViewportArrayIndex", compType := COMP_UINT32, dxSysValue := 5 },
    { name := cstr "SV_VertexID", compType := COMP_UINT32, dxSysValue := 6 },
    { name := cstr "SV_PrimitiveID", compType := COMP_UINT32, dxSysValue := 7 },
    { name := cstr "SV_InstanceID", compType := COMP_UINT32, dxSysValue := 8 },
    { name := cstr "SV_IsFrontFace", compType := COMP_UINT32, dxSysValue := 9 },
    { name := cstr "SV_SampleIndex", compType := COMP_UINT32, dxSysValue := 10 },
    -- the four edges of a quad, its two insides
    { name := cstr "SV_TessFactor", compType := COMP_FLOAT32, dxSysValue := 11 },
    { name := cstr "SV_TessFactor", compType := COMP_FLOAT32, dxSysValue := 11 },
    { name := cstr "SV_TessFactor", compType := COMP_FLOAT32, dxSysValue := 11 },
    { name := cstr "SV_TessFactor", compType := COMP_FLOAT32, dxSysValue := 11 },
    { name := cstr "SV_InsideTessFactor", compType := COMP_FLOAT32, dxSysValue := 12 },
    { name := cstr "SV_InsideTessFactor", compType := COMP_FLOAT32, dxSysValue := 12 },
    -- the three edges of a triangle, its inside
    { name := cstr "SV_TessFactor", compType := COMP_FLOAT32, dxSysValue := 13 },
    { name := cstr "SV_TessFactor", compType := COMP_FLOAT32, dxSysValue := 13 },
    { name := cstr "SV_TessFactor", compType := COMP_FLOAT32, dxSysValue := 13 },
    { name := cstr "SV_InsideTessFactor", compType := COMP_FLOAT32, dxSysValue := 14 },
    -- detail and density of a line
    { name := cstr "SV_TessFactor", compType := COMP_FLOAT32, dxSysValue := 15 },
    { name := cstr "SV_TessFactor", compType := COMP_FLOAT32, dxSysValue := 16 }]

/-- `g_semPSOutput`. -/
def g_semPSOutput : SemanticInfo where
  name := cstr "SV_Target"
  compType := COMP_FLOAT32
  dxSysValue := 0

/-- `pickSemanticInfo`; an unknown system value is an ATTRIB. -/
def pickSemanticInfo (systemValue blobType progType : UINT) : SemanticInfo :=
  if systemValue = 0 ∧ blobType = DXBC_BLOB_TYPE_OSGN ∧ progType = PROG_PS then
    g_semPSOutput
  else
    g_semInfo.getD systemValue.toNat
      { name := attribName, compType := COMP_FLOAT32, dxSysValue := 0 }

-- ============================================================================
-- DDI entries
-- ============================================================================

/-- An element of the DDI's array in memory; those of a 12-byte stride end after the
    mask and its padding. -/
structure DdiEntry where
  systemValue : UINT
  registerIdx : UINT
  mask : Byte
  /-- the byte at offset 9: a stream, or padding -/
  pad : Byte := 0
  componentType : UINT := 0
  minPrecision : UINT := 0
deriving DecidableEq

/-- `DdiSig`. -/
structure DdiSig where
  systemValue : UINT
  registerIdx : UINT
  mask : Byte
  stream : Byte
  componentType : UINT
  minPrecision : UINT
deriving DecidableEq

/-- `readDdiSig`. -/
def readDdiSig (stride : UINT) (entry : DdiEntry) : DdiSig where
  systemValue := entry.systemValue
  registerIdx := entry.registerIdx
  mask := entry.mask
  stream := if 20#32 ≤ stride then entry.pad else 0
  componentType := if 20#32 ≤ stride then entry.componentType else 0
  minPrecision := if 20#32 ≤ stride then entry.minPrecision else 0

/-- `d.mask & 0x0F`. -/
def DdiSig.mask4 (d : DdiSig) : UINT :=
  d.mask.setWidth 32 &&& 0x0F#32

-- ============================================================================
-- Collection
-- ============================================================================

/-- `TritonSigEntry`; `name` is empty until it is resolved. -/
structure TritonSigEntry where
  sysval : UINT
  reg : UINT
  mask : UINT
  compType : UINT
  minPrec : UINT
  stream : UINT
  name : CString := []
  dxSysValue : UINT := 0
  semIdx : UINT := 0xFFFFFFFF#32
deriving DecidableEq

/-- `tritonFirstComp`. -/
def tritonFirstComp (mask : UINT) : UINT :=
  if mask &&& 1#32 ≠ 0 then 0
  else if mask &&& 2#32 ≠ 0 then 1
  else if mask &&& 4#32 ≠ 0 then 2
  else if mask &&& 8#32 ≠ 0 then 3
  else 0

/-- `tritonSigOrderBefore`. -/
def tritonSigOrderBefore (a b : TritonSigEntry) : Bool :=
  if a.stream ≠ b.stream then a.stream < b.stream
  else if a.reg ≠ b.reg then a.reg < b.reg
  else tritonFirstComp a.mask < tritonFirstComp b.mask

/-- The entry of a DDI element, before streams. -/
def DdiSig.entry (d : DdiSig) : TritonSigEntry where
  sysval := d.systemValue
  reg := d.registerIdx
  mask := d.mask4
  compType := d.componentType
  minPrec := d.minPrecision
  stream := 0

/-- One iteration of the loop over the DDI array.  With several streams an element is
    kept only when a declaration has its stream and register, and only once for
    overlapping masks. -/
def addDdiEntry (pDecl : List TritonDeclSig) (cStream : UINT) (out : List TritonSigEntry)
    (d : DdiSig) : List TritonSigEntry :=
  if 1#32 < cStream then
    let stream := d.stream.setWidth 32
    let e := { d.entry with stream := stream }
    let fCorroborated := decide (stream < cStream) &&
      pDecl.any fun decl => decl.stream == stream && decl.reg == d.registerIdx
    let fDup := out.any fun o => o.stream == stream && o.reg == e.reg && o.mask &&& e.mask != 0
    if fCorroborated && !fDup then out ++ [e] else out
  else out ++ [d.entry]

/-- An entry stands for a declared element. -/
def TritonSigEntry.covers (e : TritonSigEntry) (decl : TritonDeclSig) : Bool :=
  e.reg == decl.reg && e.stream == decl.stream &&
    (e.mask &&& decl.mask != 0 || decl.mask == 0 || e.mask == 0)

/-- A DDI element from which the types of a synthesised entry are taken. -/
def DdiSig.types (d : DdiSig) (decl : TritonDeclSig) : Bool :=
  d.registerIdx == decl.reg &&
    !(decl.mask != 0 && d.mask4 != 0 && d.mask4 &&& decl.mask == 0)

/-- One iteration of the loop over the declarations. -/
def addDeclEntry (ddi : List DdiSig) (out : List TritonSigEntry) (decl : TritonDeclSig) :
    List TritonSigEntry :=
  if out.length < TRITON_DXBC_MAX_SIG_ENTRIES then
    if out.any fun e => e.covers decl then out
    else
      let from? := ddi.find? fun d => d.types decl
      out ++
        [{ sysval := decl.sysval
           reg := decl.reg
           mask := decl.mask &&& 0x0F#32
           compType := from?.elim 0 DdiSig.componentType
           minPrec := from?.elim 0 DdiSig.minPrecision
           stream := decl.stream }]
  else out

/-- The inner loop of the insertion sort, on the entries before `key`, last one
    first. -/
def insertSigEntry (key : TritonSigEntry) : List TritonSigEntry → List TritonSigEntry
  | [] => [key]
  | p :: ps => if tritonSigOrderBefore key p then p :: insertSigEntry key ps else key :: p :: ps

/-- The insertion sort. -/
def sortSigEntries (entries : List TritonSigEntry) : List TritonSigEntry :=
  (entries.foldl (fun sorted key => insertSigEntry key sorted) []).reverse

/-- `tritonCollectSigEntries`. -/
def tritonCollectSigEntries (pDdi : List DdiEntry) (stride : UINT) (pDecl : List TritonDeclSig)
    (cStream : UINT) : List TritonSigEntry :=
  let ddi := (pDdi.take TRITON_DXBC_MAX_SIG_ENTRIES).map (readDdiSig stride)
  let fromDdi := ddi.foldl (addDdiEntry pDecl cStream) []
  let all := pDecl.foldl (addDeclEntry ddi) fromDdi
  sortSigEntries all

-- ============================================================================
-- Semantic resolution
-- ============================================================================

/-- `tritonSysOutName`. -/
def tritonSysOutName : SysOut → CString
  | .depth => cstr "SV_Depth"
  | .coverage => cstr "SV_Coverage"
  | .depthGE => cstr "SV_DepthGreaterEqual"
  | .depthLE => cstr "SV_DepthLessEqual"
  | .stencilRef => cstr "SV_StencilRef"

/-- `tritonSysOutCompType`. -/
def tritonSysOutCompType : SysOut → UINT
  | .coverage | .stencilRef => COMP_UINT32
  | .depth | .depthGE | .depthLE => COMP_FLOAT32

/-- `claimed & (1u << j)`. -/
def isClaimed (claimed : UINT) (j : Nat) : Bool :=
  claimed.getLsbD j

/-- The loop that picks a system output: the first unclaimed one of the wanted kind,
    or else the first unclaimed one. -/
def pickSysOut (claimed : UINT) (wantUint : Option Bool) :
    List SysOut → Nat → Option Nat → Option Nat
  | [], _, pick => pick
  | out :: outs, j, pick =>
      if isClaimed claimed j then pickSysOut claimed wantUint outs (j + 1) pick
      else
        let fUint := tritonSysOutCompType out == COMP_UINT32
        if wantUint = none ∨ wantUint = some fUint then some j
        else pickSysOut claimed wantUint outs (j + 1) (pick.or (some j))

/-- `wantUint`; `none` is -1. -/
def wantUintOf (compType : UINT) : Option Bool :=
  if compType = COMP_UINT32 ∨ compType = 2 then some true
  else if compType = COMP_FLOAT32 then some false
  else none

/-- A pixel shader's output without system value: its semantic index is its register,
    and one without a register is named after a system output. -/
def resolvePSOutput (aSysOut : List SysOut) (e : TritonSigEntry) (claimed : UINT) :
    TritonSigEntry × UINT :=
  if e.reg ≠ 0xFFFFFFFF#32 then
    ({ e with semIdx := e.reg }, claimed)
  else
    match pickSysOut claimed (wantUintOf e.compType) aSysOut 0 none with
    | none => (e, claimed)
    | some pick =>
        match aSysOut[pick]? with
        | none => (e, claimed)
        | some out =>
            ({ e with
                name := tritonSysOutName out
                compType := tritonSysOutCompType out
                mask := if e.mask = 0 then 0x1#32 else e.mask
                semIdx := 0 },
              claimed ||| (1#32 <<< pick))

/-- One iteration of the loop that names the entries. -/
def nameEntry (blobType progType : UINT) (aSysOut : List SysOut) (e : TritonSigEntry)
    (claimed : UINT) : TritonSigEntry × UINT :=
  let info := pickSemanticInfo e.sysval blobType progType
  let e := { e with name := info.name, dxSysValue := info.dxSysValue }
  let (e, claimed) :=
    if info = g_semPSOutput then resolvePSOutput aSysOut e claimed else (e, claimed)
  ({ e with compType := if e.compType = 0 then info.compType else e.compType }, claimed)

/-- The loop that names the entries. -/
def nameEntries (blobType progType : UINT) (aSysOut : List SysOut) :
    List TritonSigEntry → UINT → List TritonSigEntry × UINT
  | [], claimed => ([], claimed)
  | e :: es, claimed =>
      let (e, claimed) := nameEntry blobType progType aSysOut e claimed
      let (es, claimed) := nameEntries blobType progType aSysOut es claimed
      (e :: es, claimed)

/-- The loop that appends the system outputs no entry has claimed. -/
def appendSysOuts (claimed : UINT) : List SysOut → Nat → List TritonSigEntry → List TritonSigEntry
  | [], _, entries => entries
  | out :: outs, j, entries =>
      if entries.length < TRITON_DXBC_MAX_SIG_ENTRIES then
        if isClaimed claimed j then appendSysOuts claimed outs (j + 1) entries
        else
          appendSysOuts claimed outs (j + 1)
            (entries ++
              [{ sysval := 0
                 reg := 0xFFFFFFFF#32
                 mask := 0x1#32
                 compType := tritonSysOutCompType out
                 minPrec := 0
                 stream := 0
                 name := tritonSysOutName out
                 semIdx := 0 }])
      else entries

/-- The semantic index of an entry after `before`: fixed already, derived from the
    location, or the number of entries of its name and stream before it. -/
def entryIndex (before : List TritonSigEntry) (e : TritonSigEntry) : UINT :=
  if e.semIdx ≠ 0xFFFFFFFF#32 then e.semIdx
  else if e.reg ≠ 0xFFFFFFFF#32 ∧ e.name = attribName then
    e.reg * 4#32 + tritonFirstComp e.mask
  else BitVec.ofNat 32 (before.countP fun o => o.stream == e.stream && o.name == e.name)

/-- The loop that numbers the entries. -/
def numberEntries : List TritonSigEntry → List TritonSigEntry → List TritonSigEntry
  | _, [] => []
  | before, e :: es =>
      let e := { e with semIdx := entryIndex before e }
      e :: numberEntries (before ++ [e]) es

/-- `tritonAssignSemantics`. -/
def tritonAssignSemantics (entries : List TritonSigEntry) (blobType progType : UINT)
    (scan : TritonShdrScan) : List TritonSigEntry :=
  let fPSOut := blobType = DXBC_BLOB_TYPE_OSGN ∧ progType = PROG_PS
  let (named, claimed) := nameEntries blobType progType scan.aSysOut entries 0
  let all := if fPSOut then appendSysOuts claimed scan.aSysOut 0 named else named
  numberEntries [] all

-- ============================================================================
-- What the loops do to one entry
-- ============================================================================

/-- The index depends on the names and streams of the entries before only. -/
theorem entryIndex_congr (before before' : List TritonSigEntry)
    (h : before.map (fun e => (e.stream, e.name)) = before'.map fun e => (e.stream, e.name))
    (e : TritonSigEntry) : entryIndex before e = entryIndex before' e := by
  have hcount : ∀ l : List TritonSigEntry,
      l.countP (fun o => o.stream == e.stream && o.name == e.name) =
        (l.map fun e => (e.stream, e.name)).countP fun o => o.1 == e.stream && o.2 == e.name := by
    intro l
    rw [List.countP_map]
    rfl
  rw [entryIndex, entryIndex, hcount, hcount, h]

theorem numberEntries_getElem? (before es : List TritonSigEntry) (i : Nat) :
    (numberEntries before es)[i]? =
      es[i]?.map fun e => { e with semIdx := entryIndex (before ++ es.take i) e } := by
  induction es generalizing before i with
  | nil => rfl
  | cons e es ih =>
      cases i with
      | zero =>
          rw [List.take_zero, List.append_nil]
          rfl
      | succ i =>
          rw [numberEntries, List.getElem?_cons_succ, ih, List.getElem?_cons_succ]
          cases es[i]? with
          | none => rfl
          | some o =>
              have hsame := entryIndex_congr
                (before ++ [{ e with semIdx := entryIndex before e }] ++ es.take i)
                (before ++ (e :: es).take (i + 1)) (by simp) o
              rw [Option.map_some, Option.map_some, hsame]

theorem length_numberEntries (before es : List TritonSigEntry) :
    (numberEntries before es).length = es.length := by
  induction es generalizing before with
  | nil => rfl
  | cons e es ih => rw [numberEntries, List.length_cons, ih, List.length_cons]

/-- The system values of a signature other than a pixel shader's output are named by
    the table. -/
theorem pickSemanticInfo_table {blobType progType : UINT}
    (h : ¬(blobType = DXBC_BLOB_TYPE_OSGN ∧ progType = PROG_PS)) (systemValue : UINT) :
    pickSemanticInfo systemValue blobType progType =
      g_semInfo.getD systemValue.toNat
        { name := attribName, compType := COMP_FLOAT32, dxSysValue := 0 } :=
  if_neg fun hps => h hps.2

theorem g_semInfo_ne_psOutput : ∀ info ∈ g_semInfo, info ≠ g_semPSOutput := by
  decide

theorem pickSemanticInfo_ne_psOutput {blobType progType : UINT}
    (h : ¬(blobType = DXBC_BLOB_TYPE_OSGN ∧ progType = PROG_PS)) (systemValue : UINT) :
    pickSemanticInfo systemValue blobType progType ≠ g_semPSOutput := by
  rw [pickSemanticInfo_table h, List.getD_eq_getElem?_getD]
  cases hget : g_semInfo[systemValue.toNat]? with
  | none => decide
  | some info => exact g_semInfo_ne_psOutput info (List.mem_of_getElem? hget)

/-- An entry with its name, system value and component type. -/
def namedEntry (blobType progType : UINT) (e : TritonSigEntry) : TritonSigEntry :=
  let info := pickSemanticInfo e.sysval blobType progType
  { e with
    name := info.name
    dxSysValue := info.dxSysValue
    compType := if e.compType = 0 then info.compType else e.compType }

theorem nameEntries_table {blobType progType : UINT}
    (h : ¬(blobType = DXBC_BLOB_TYPE_OSGN ∧ progType = PROG_PS)) (aSysOut : List SysOut)
    (es : List TritonSigEntry) (claimed : UINT) :
    nameEntries blobType progType aSysOut es claimed =
      (es.map (namedEntry blobType progType), claimed) := by
  induction es with
  | nil => rfl
  | cons e es ih =>
      have hname : nameEntry blobType progType aSysOut e claimed =
          (namedEntry blobType progType e, claimed) := by
        rw [nameEntry]
        simp only [if_neg (pickSemanticInfo_ne_psOutput h e.sysval)]
        rfl
      rw [nameEntries, hname]
      simp only [ih]
      rfl

/-- Outside pixel-shader outputs every entry keeps its place. -/
theorem tritonAssignSemantics_table {blobType progType : UINT}
    (h : ¬(blobType = DXBC_BLOB_TYPE_OSGN ∧ progType = PROG_PS)) (entries : List TritonSigEntry)
    (scan : TritonShdrScan) :
    tritonAssignSemantics entries blobType progType scan =
      numberEntries [] (entries.map (namedEntry blobType progType)) := by
  rw [tritonAssignSemantics]
  simp only [nameEntries_table h, if_neg h]

end VirtioWddm
