/-
  VirtioWddm.Triton.Dxbc.Decls

  The token stream of a shader as `tritonDxbc.c` reads it: the iterator over its
  instructions and the scan for the registers it declares.

  The stream is the list of DWORDs in the caller's memory.  A read outside it is a
  fault, so a scan that returns has stayed inside.
-/

import VirtioWddm.Ddi.Basic
import VirtioWddm.Lib.ExceptRules

namespace VirtioWddm

open Lib

-- ============================================================================
-- Token memory
-- ============================================================================

/-- How a walk over token memory can end without a result. -/
inductive TokenFault where
  | readPastEnd (index : Nat)
  | outOfFuel
deriving DecidableEq

/-- `pTokens[i]`. -/
def readToken (tokens : List UINT) (i : Nat) : Except TokenFault UINT :=
  match tokens[i]? with
  | some tok => .ok tok
  | none => .error (.readPastEnd i)

theorem readToken_ok {tokens : List UINT} {i : Nat} (hi : i < tokens.length) :
    readToken tokens i = .ok tokens[i] := by
  rw [readToken, List.getElem?_eq_getElem hi]

-- ============================================================================
-- Program types
-- ============================================================================

def PROG_PS : UINT := 0
def PROG_VS : UINT := 1
def PROG_GS : UINT := 2
def PROG_HS : UINT := 3
def PROG_DS : UINT := 4
def PROG_CS : UINT := 5

/-- `programType`. -/
def programType (tokens : List UINT) : Except TokenFault UINT := do
  let tok ← readToken tokens 0
  return (tok >>> 16) &&& 0xFFFF#32

-- ============================================================================
-- The iterator
-- ============================================================================

/-- `TritonTokIter`; the pointers are indices into the stream. -/
structure TritonTokIter where
  p : Nat
  pEnd : Nat
deriving DecidableEq

/-- An instruction: where it starts and how many DWORDs it spans. -/
structure TokenSpan where
  opcode : UINT
  ins : Nat
  cTok : Nat
deriving DecidableEq

/-- `tritonTokIterInit`. -/
def tritonTokIterInit (tokens : List UINT) (cbTokens : Nat) :
    Except TokenFault (Option TritonTokIter) :=
  if cbTokens < 12 then
    return none
  else do
    let declared ← readToken tokens 1
    let cap := cbTokens / 4
    return some { p := 2, pEnd := if cap < declared.toNat then cap else declared.toNat }

/-- `tritonTokIterNext`. -/
def tritonTokIterNext (tokens : List UINT) (it : TritonTokIter) :
    Except TokenFault (Option (TokenSpan × TritonTokIter)) :=
  if it.pEnd ≤ it.p then
    return none
  else do
    let tok ← readToken tokens it.p
    let short := (tok >>> 24) &&& 0x7F#32
    if short = 0 then
      -- the length is in the DWORD after the opcode
      if it.pEnd - it.p < 2 then
        return none
      else do
        let cTok ← readToken tokens (it.p + 1)
        if cTok < 2 then return none
        else if it.pEnd - it.p < cTok.toNat then return none
        else
          return some ({ opcode := tok &&& 0x7FF#32, ins := it.p, cTok := cTok.toNat },
            { it with p := it.p + cTok.toNat })
    else if it.pEnd - it.p < short.toNat then
      return none
    else
      return some ({ opcode := tok &&& 0x7FF#32, ins := it.p, cTok := short.toNat },
        { it with p := it.p + short.toNat })

-- ============================================================================
-- Operands
-- ============================================================================

/-- What `tritonDecodeDeclOperand` returns and fills. -/
structure DeclOperand where
  len : Nat
  reg : UINT
  mask : UINT
  optype : UINT
deriving DecidableEq

/-- The extended-operand chain: `len` grows while the token before has bit 31.  The
    first argument bounds the tokens left before `pEnd`. -/
def extendedLen (tokens : List UINT) (op pEnd : Nat) : Nat → Nat → Except TokenFault Nat
  | 0, len => return len
  | fuel + 1, len =>
      if op + len ≤ pEnd then do
        let tok ← readToken tokens (op + len - 1)
        if tok &&& 0x80000000#32 ≠ 0 then extendedLen tokens op pEnd fuel (len + 1)
        else return len
      else return len

/-- The length of an operand before its index DWORDs. -/
def operandLen (tokens : List UINT) (op pEnd : Nat) (ot : UINT) : Except TokenFault Nat :=
  if ot &&& 0x80000000#32 ≠ 0 then extendedLen tokens op pEnd (pEnd - op) 1 else return 1

/-- The walk over the index DWORDs of operand token `ot`; `none` is an index form
    declarations do not use, or one past the end. -/
def decodeIndices (tokens : List UINT) (op pEnd : Nat) (ot : UINT) :
    List Nat → Nat → UINT → Except TokenFault (Option (Nat × UINT))
  | [], len, reg => return some (len, reg)
  | d :: ds, len, _ =>
      let rep := (ot >>> (22 + 3 * d)) &&& 0x7#32
      if pEnd ≤ op + len then
        return none
      else if rep = 0 then do
        -- IMMEDIATE32
        let reg ← readToken tokens (op + len)
        decodeIndices tokens op pEnd ot ds (len + 1) reg
      else if rep = 1 then
        -- IMMEDIATE64
        if pEnd ≤ op + len + 1 then
          return none
        else do
          let reg ← readToken tokens (op + len)
          decodeIndices tokens op pEnd ot ds (len + 2) reg
      else return none

/-- `tritonDecodeDeclOperand`; `none` is its result `0`. -/
def tritonDecodeDeclOperand (tokens : List UINT) (op pEnd : Nat) :
    Except TokenFault (Option DeclOperand) :=
  if pEnd < op + 1 then
    return none
  else do
    let ot ← readToken tokens op
    let len ← operandLen tokens op pEnd ot
    -- a write mask only in mask-selection mode
    let mask :=
      if ot &&& 0x3#32 = 2 ∧ (ot >>> 2) &&& 0x3#32 = 0 then (ot >>> 4) &&& 0xF#32 else 0xF#32
    let dim := (ot >>> 20) &&& 0x3#32
    match ← decodeIndices tokens op pEnd ot (List.range dim.toNat) len 0 with
    | none => return none
    | some (len, reg) =>
        return some { len := len, reg := reg, mask := mask, optype := (ot >>> 12) &&& 0xFF#32 }

-- ============================================================================
-- Declarations
-- ============================================================================

def TRITON_DXBC_MAX_SIG_ENTRIES : Nat := 128

/-- `TritonDeclSig`. -/
structure TritonDeclSig where
  reg : UINT
  mask : UINT
  sysval : UINT
  stream : UINT
deriving DecidableEq

/-- The pixel-shader outputs without an o# register, by operand type. -/
inductive SysOut where
  | depth
  | coverage
  | depthGE
  | depthLE
  | stencilRef
deriving DecidableEq

/-- `TritonShdrScan`. -/
structure TritonShdrScan where
  aIn : List TritonDeclSig := []
  aOut : List TritonDeclSig := []
  aPatch : List TritonDeclSig := []
  aSysOut : List SysOut := []
  cStream : UINT := 1
deriving DecidableEq

/-- The condition under which `tritonDeclAdd` merges a declaration into `d`. -/
def TritonDeclSig.merges (d : TritonDeclSig) (reg mask stream : UINT) : Bool :=
  d.reg == reg && d.stream == stream && (d.mask &&& mask != 0 || mask == 0 || d.mask == 0)

/-- `tritonDeclAdd`. -/
def tritonDeclAdd (pa : List TritonDeclSig) (reg mask sysval stream : UINT) :
    List TritonDeclSig :=
  match pa.findIdx? fun d => d.merges reg mask stream with
  | some i =>
      pa.modify i fun d =>
        { d with
          mask := d.mask ||| mask
          sysval := if sysval ≠ 0 ∧ d.sysval = 0 then sysval else d.sysval }
  | none =>
      if pa.length < TRITON_DXBC_MAX_SIG_ENTRIES then
        pa ++ [{ reg := reg, mask := mask, sysval := sysval, stream := stream }]
      else pa

-- ============================================================================
-- The scan
-- ============================================================================

def SM4_OP_DCL_INPUT : UINT := 0x5F
def SM4_OP_DCL_INPUT_SGV : UINT := 0x60
def SM4_OP_DCL_INPUT_SIV : UINT := 0x61
def SM4_OP_DCL_INPUT_PS : UINT := 0x62
def SM4_OP_DCL_INPUT_PS_SGV : UINT := 0x63
def SM4_OP_DCL_INPUT_PS_SIV : UINT := 0x64
def SM4_OP_DCL_OUTPUT : UINT := 0x65
def SM4_OP_DCL_OUTPUT_SGV : UINT := 0x66
def SM4_OP_DCL_OUTPUT_SIV : UINT := 0x67
def SM5_OP_HS_CONTROL_POINT_PHASE : UINT := 0x72
def SM5_OP_HS_FORK_PHASE : UINT := 0x73
def SM5_OP_HS_JOIN_PHASE : UINT := 0x74
def SM5_OP_DCL_STREAM : UINT := 0x8F

def SM4_OPTYPE_INPUT : UINT := 1
def SM4_OPTYPE_OUTPUT : UINT := 2
def SM4_OPTYPE_INPUT_PRIMITIVEID : UINT := 11
def SM4_OPTYPE_OUTPUT_DEPTH : UINT := 12
def SM4_OPTYPE_OUTPUT_COVERAGE : UINT := 15
def SM4_OPTYPE_STREAM : UINT := 16
def SM4_OPTYPE_INPUT_CONTROL_POINT : UINT := 25
def SM4_OPTYPE_INPUT_PATCH_CONST : UINT := 27
def SM4_OPTYPE_OUTPUT_DEPTH_GE : UINT := 38
def SM4_OPTYPE_OUTPUT_DEPTH_LE : UINT := 39
def SM4_OPTYPE_OUTPUT_STENCIL_REF : UINT := 41

/-- The system output an operand type stands for. -/
def sysOutOf (optype : UINT) : Option SysOut :=
  if optype = SM4_OPTYPE_OUTPUT_DEPTH then some .depth
  else if optype = SM4_OPTYPE_OUTPUT_COVERAGE then some .coverage
  else if optype = SM4_OPTYPE_OUTPUT_DEPTH_GE then some .depthGE
  else if optype = SM4_OPTYPE_OUTPUT_DEPTH_LE then some .depthLE
  else if optype = SM4_OPTYPE_OUTPUT_STENCIL_REF then some .stencilRef
  else none

/-- `fCarriesName`. -/
def carriesName (opcode : UINT) : Bool :=
  opcode = SM4_OP_DCL_INPUT_SGV || opcode = SM4_OP_DCL_INPUT_SIV ||
    opcode = SM4_OP_DCL_INPUT_PS_SGV || opcode = SM4_OP_DCL_INPUT_PS_SIV ||
    opcode = SM4_OP_DCL_OUTPUT_SGV || opcode = SM4_OP_DCL_OUTPUT_SIV

/-- `aSysOut` has four elements. -/
def maxSysOut : Nat := 4

/-- The local variables of `tritonScanShdrDecls`. -/
structure ScanState where
  scan : TritonShdrScan := {}
  stream : UINT := 0
  fPatchPhase : Bool := false
deriving DecidableEq

/-- An input declaration: `v#`, `vicp#`, `vpc#`, and the primitive ID of a geometry
    shader, whose register is `0xFFFFFFFF`. -/
def TritonShdrScan.addInput (s : TritonShdrScan) (progType optype reg mask sysval : UINT) :
    TritonShdrScan :=
  if optype = SM4_OPTYPE_INPUT ∨ optype = SM4_OPTYPE_INPUT_CONTROL_POINT then
    { s with aIn := tritonDeclAdd s.aIn reg mask sysval 0 }
  else if optype = SM4_OPTYPE_INPUT_PATCH_CONST then
    { s with aPatch := tritonDeclAdd s.aPatch reg mask sysval 0 }
  else if optype = SM4_OPTYPE_INPUT_PRIMITIVEID ∧ progType = PROG_GS then
    { s with aIn := tritonDeclAdd s.aIn 0xFFFFFFFF#32 0x1#32 7 0 }
  else s

/-- An output declaration. -/
def ScanState.addOutput (st : ScanState) (progType optype reg mask sysval : UINT) : ScanState :=
  let s := st.scan
  if optype = SM4_OPTYPE_OUTPUT then
    if st.fPatchPhase then
      { st with scan := { s with aPatch := tritonDeclAdd s.aPatch reg mask sysval 0 } }
    else
      { st with
        scan :=
          { s with
            aOut := tritonDeclAdd s.aOut reg mask sysval
              (if progType = PROG_GS then st.stream else 0) } }
  else
    match sysOutOf optype with
    | some out =>
        if progType = PROG_PS ∧ s.aSysOut.length < maxSysOut then
          { st with scan := { s with aSysOut := s.aSysOut ++ [out] } }
        else st
    | none => st

/-- A `dcl_stream`. -/
def ScanState.setStream (st : ScanState) (operand : DeclOperand) : ScanState :=
  if operand.optype = SM4_OPTYPE_STREAM ∧ operand.reg < 4 then
    { st with
      stream := operand.reg
      scan :=
        { st.scan with
          cStream :=
            if st.scan.cStream < operand.reg + 1 then operand.reg + 1 else st.scan.cStream } }
  else st

/-- The system value of a declaration, from its trailing D3D_NAME token. -/
def declSysval (tokens : List UINT) (span : TokenSpan) (operand : DeclOperand) :
    Except TokenFault UINT :=
  if carriesName span.opcode ∧ 1 + operand.len < span.cTok then do
    let name ← readToken tokens (span.ins + 1 + operand.len)
    return name &&& 0xFFFF#32
  else return 0

/-- A `dcl_input*` or `dcl_output*`. -/
def ScanState.addDecl (st : ScanState) (progType opcode : UINT) (operand : DeclOperand)
    (sysval : UINT) : ScanState :=
  if opcode ≤ SM4_OP_DCL_INPUT_PS_SIV then
    { st with
      scan := st.scan.addInput progType operand.optype operand.reg operand.mask sysval }
  else st.addOutput progType operand.optype operand.reg operand.mask sysval

/-- One iteration of `tritonScanShdrDecls`. -/
def scanInstruction (tokens : List UINT) (progType : UINT) (span : TokenSpan) (st : ScanState) :
    Except TokenFault ScanState :=
  if span.opcode = SM5_OP_HS_CONTROL_POINT_PHASE then
    return { st with fPatchPhase := false }
  else if span.opcode = SM5_OP_HS_FORK_PHASE ∨ span.opcode = SM5_OP_HS_JOIN_PHASE then
    return { st with fPatchPhase := true }
  else if span.opcode = SM5_OP_DCL_STREAM then do
    match ← tritonDecodeDeclOperand tokens (span.ins + 1) (span.ins + span.cTok) with
    | some operand => return st.setStream operand
    | none => return st
  else if span.opcode < SM4_OP_DCL_INPUT ∨ SM4_OP_DCL_OUTPUT_SIV < span.opcode then
    return st
  else do
    match ← tritonDecodeDeclOperand tokens (span.ins + 1) (span.ins + span.cTok) with
    | none => return st
    | some operand =>
        let sysval ← declSysval tokens span operand
        return st.addDecl progType span.opcode operand sysval

/-- The loop of `tritonScanShdrDecls`, with at most `fuel` instructions. -/
def scanLoop (tokens : List UINT) (progType : UINT) :
    Nat → TritonTokIter → ScanState → Except TokenFault ScanState
  | 0, _, _ => .error .outOfFuel
  | fuel + 1, it, st => do
      match ← tritonTokIterNext tokens it with
      | none => return st
      | some (span, it) =>
          let st ← scanInstruction tokens progType span st
          scanLoop tokens progType fuel it st

/-- `tritonScanShdrDecls`. -/
def tritonScanShdrDecls (tokens : List UINT) (cbTokens : Nat) :
    Except TokenFault TritonShdrScan := do
  match ← tritonTokIterInit tokens cbTokens with
  | none => return {}
  | some it =>
      let progType ← programType tokens
      let st ← scanLoop tokens progType (it.pEnd + 1) it {}
      return st.scan

-- ============================================================================
-- The scan returns
-- ============================================================================

section Safety

variable {tokens : List UINT} {pEnd : Nat}

theorem readToken_returns (hend : pEnd ≤ tokens.length) {i : Nat} (hi : i < pEnd) :
    ∃ tok, readToken tokens i = .ok tok :=
  ⟨_, readToken_ok (by omega)⟩

/-- What one step of the iterator does. -/
structure TokenStep (it : TritonTokIter) (span : TokenSpan) (it' : TritonTokIter) : Prop where
  ins : span.ins = it.p
  pos : 0 < span.cTok
  fits : it.p + span.cTok ≤ it.pEnd
  next : it'.p = it.p + span.cTok
  pEnd : it'.pEnd = it.pEnd

theorem tritonTokIterNext_returns {it : TritonTokIter} (hend : it.pEnd ≤ tokens.length) :
    ∃ r, tritonTokIterNext tokens it = .ok r := by
  unfold tritonTokIterNext
  split
  case isTrue => exact ⟨none, rfl⟩
  case isFalse hp =>
    refine exists_ok_bind (readToken_returns hend (by omega)) fun tok _ => ?_
    dsimp only
    split
    case isTrue =>
      split
      case isTrue => exact ⟨none, rfl⟩
      case isFalse hleft =>
        refine exists_ok_bind (readToken_returns hend (by omega)) fun cTok _ => ?_
        split
        case isTrue => exact ⟨none, rfl⟩
        case isFalse =>
          split
          case isTrue => exact ⟨none, rfl⟩
          case isFalse => exact ⟨_, rfl⟩
    case isFalse =>
      split
      case isTrue => exact ⟨none, rfl⟩
      case isFalse => exact ⟨_, rfl⟩

theorem tritonTokIterNext_step {it it' : TritonTokIter} {span : TokenSpan}
    (h : tritonTokIterNext tokens it = .ok (some (span, it'))) : TokenStep it span it' := by
  unfold tritonTokIterNext at h
  split at h
  case isTrue => cases h
  case isFalse hp =>
    cases htok : readToken tokens it.p with
    | error e =>
        rw [htok] at h
        cases h
    | ok tok =>
        rw [htok] at h
        dsimp only [bind, Except.bind] at h
        split at h
        case isTrue =>
          split at h
          case isTrue => cases h
          case isFalse hleft =>
            cases hlen : readToken tokens (it.p + 1) with
            | error e =>
                rw [hlen] at h
                cases h
            | ok cTok =>
                rw [hlen] at h
                dsimp only at h
                split at h
                case isTrue => cases h
                case isFalse htwo =>
                  split at h
                  case isTrue => cases h
                  case isFalse hfits =>
                    cases h
                    have htwo : 2 ≤ cTok.toNat := BitVec.le_def.mp (BitVec.not_lt.mp htwo)
                    have hpos : 0 < cTok.toNat := by omega
                    exact ⟨rfl, hpos, by dsimp only; omega, rfl, rfl⟩
        case isFalse hshort =>
          split at h
          case isTrue => cases h
          case isFalse hfits =>
            cases h
            have hpos : 0 < ((tok >>> 24) &&& 0x7F#32).toNat := by
              rw [Nat.pos_iff_ne_zero]
              exact fun hzero => hshort (BitVec.eq_of_toNat_eq hzero)
            exact ⟨rfl, hpos, by dsimp only; omega, rfl, rfl⟩

theorem extendedLen_returns (hend : pEnd ≤ tokens.length) (op fuel len : Nat) (hlen : 0 < len) :
    ∃ r, extendedLen tokens op pEnd fuel len = .ok r := by
  induction fuel generalizing len with
  | zero => exact ⟨len, rfl⟩
  | succ fuel ih =>
      unfold extendedLen
      split
      case isTrue hle =>
        refine exists_ok_bind (readToken_returns hend (by omega)) fun tok _ => ?_
        split
        case isTrue => exact ih (len + 1) (by omega)
        case isFalse => exact ⟨len, rfl⟩
      case isFalse => exact ⟨len, rfl⟩

theorem decodeIndices_returns (hend : pEnd ≤ tokens.length) (op : Nat) (ot : UINT) (ds : List Nat)
    (len : Nat) (reg : UINT) : ∃ r, decodeIndices tokens op pEnd ot ds len reg = .ok r := by
  induction ds generalizing len reg with
  | nil => exact ⟨_, rfl⟩
  | cons d ds ih =>
      unfold decodeIndices
      dsimp only
      split
      case isTrue => exact ⟨none, rfl⟩
      case isFalse hin =>
        split
        case isTrue =>
          exact exists_ok_bind (readToken_returns hend (by omega)) fun reg _ => ih (len + 1) reg
        case isFalse =>
          split
          case isTrue =>
            split
            case isTrue => exact ⟨none, rfl⟩
            case isFalse =>
              exact exists_ok_bind (readToken_returns hend (by omega)) fun reg _ => ih (len + 2) reg
          case isFalse => exact ⟨none, rfl⟩

theorem tritonDecodeDeclOperand_returns (hend : pEnd ≤ tokens.length) (op : Nat) :
    ∃ r, tritonDecodeDeclOperand tokens op pEnd = .ok r := by
  unfold tritonDecodeDeclOperand
  split
  case isTrue => exact ⟨none, rfl⟩
  case isFalse hop =>
    refine exists_ok_bind (readToken_returns hend (by omega)) fun ot _ => ?_
    refine exists_ok_bind ?_ fun len _ => ?_
    · unfold operandLen
      split
      case isTrue => exact extendedLen_returns hend op _ 1 (by omega)
      case isFalse => exact ⟨1, rfl⟩
    · refine exists_ok_bind (decodeIndices_returns hend op ot _ len 0) fun r _ => ?_
      cases r with
      | none => exact ⟨none, rfl⟩
      | some r => exact ⟨_, rfl⟩

theorem scanInstruction_returns {span : TokenSpan} (hend : span.ins + span.cTok ≤ tokens.length)
    (progType : UINT) (st : ScanState) :
    ∃ st', scanInstruction tokens progType span st = .ok st' := by
  have hoperand := tritonDecodeDeclOperand_returns hend (span.ins + 1)
  unfold scanInstruction
  split
  case isTrue => exact ⟨_, rfl⟩
  case isFalse =>
    split
    case isTrue => exact ⟨_, rfl⟩
    case isFalse =>
      split
      case isTrue =>
        refine exists_ok_bind hoperand fun r _ => ?_
        cases r with
        | none => exact ⟨st, rfl⟩
        | some operand => exact ⟨_, rfl⟩
      case isFalse =>
        split
        case isTrue => exact ⟨st, rfl⟩
        case isFalse =>
          refine exists_ok_bind hoperand fun r _ => ?_
          cases r with
          | none => exact ⟨st, rfl⟩
          | some operand =>
              refine exists_ok_bind ?_ fun sysval _ => ⟨_, rfl⟩
              unfold declSysval
              split
              case isTrue hname =>
                exact exists_ok_bind (readToken_returns hend (by omega)) fun name _ => ⟨_, rfl⟩
              case isFalse => exact ⟨0, rfl⟩

/-- Each instruction takes at least one DWORD, so as much fuel as there are DWORDs
    left, and one, is enough. -/
theorem scanLoop_returns (progType : UINT) {fuel : Nat} {it : TritonTokIter}
    (hend : it.pEnd ≤ tokens.length) (hfuel : it.pEnd - it.p < fuel) (st : ScanState) :
    ∃ st', scanLoop tokens progType fuel it st = .ok st' := by
  induction fuel generalizing it st with
  | zero => omega
  | succ fuel ih =>
      unfold scanLoop
      refine exists_ok_bind (tritonTokIterNext_returns hend) fun r hr => ?_
      cases r with
      | none => exact ⟨st, rfl⟩
      | some r =>
          obtain ⟨span, it'⟩ := r
          have hstep := tritonTokIterNext_step hr
          have hins := hstep.ins
          have hfits := hstep.fits
          have hpos := hstep.pos
          refine exists_ok_bind (scanInstruction_returns (by omega) progType st) fun st' _ => ?_
          refine ih ?_ ?_ st'
          · rw [hstep.pEnd]
            exact hend
          · rw [hstep.pEnd, hstep.next]
            omega

theorem tritonTokIterInit_returns {cbTokens : Nat} (hmem : cbTokens ≤ 4 * tokens.length) :
    ∃ r, tritonTokIterInit tokens cbTokens = .ok r ∧
      ∀ it, r = some it → it.p = 2 ∧ it.pEnd ≤ tokens.length ∧ 12 ≤ cbTokens := by
  unfold tritonTokIterInit
  split
  case isTrue =>
    refine ⟨none, rfl, fun it hit => ?_⟩
    cases hit
  case isFalse hlong =>
    refine ⟨_, by rw [readToken_ok (show 1 < tokens.length by omega)]; rfl, fun it hit => ?_⟩
    cases hit
    refine ⟨rfl, ?_, by omega⟩
    dsimp only
    split
    case isTrue => omega
    case isFalse => omega

/-- The scan of a stream that is in memory returns. -/
theorem tritonScanShdrDecls_returns {cbTokens : Nat} (hmem : cbTokens ≤ 4 * tokens.length) :
    ∃ s, tritonScanShdrDecls tokens cbTokens = .ok s := by
  obtain ⟨r, hr, hit⟩ := tritonTokIterInit_returns hmem
  unfold tritonScanShdrDecls
  refine exists_ok_bind ⟨r, hr⟩ fun r' hr' => ?_
  obtain rfl : r = r' := Except.ok.inj (hr.symm.trans hr')
  cases r with
  | none => exact ⟨{}, rfl⟩
  | some it =>
      obtain ⟨-, hend, hlong⟩ := hit it rfl
      refine exists_ok_bind ?_ fun progType _ => ?_
      · exact exists_ok_bind ⟨_, readToken_ok (show 0 < tokens.length by omega)⟩
          fun tok _ => ⟨_, rfl⟩
      · exact exists_ok_bind (scanLoop_returns progType hend (by omega) {}) fun st _ => ⟨_, rfl⟩

end Safety

/-- A stream whose first instruction has no length declares nothing. -/
theorem tritonScanShdrDecls_stops (version declared : UINT) (rest : List UINT) (cbTokens : Nat) :
    tritonScanShdrDecls (version :: declared :: 0 :: 0 :: rest) cbTokens = .ok {} := by
  have hinit : tritonTokIterInit (version :: declared :: 0 :: 0 :: rest) cbTokens = .ok none ∨
      ∃ pEnd, tritonTokIterInit (version :: declared :: 0 :: 0 :: rest) cbTokens =
        .ok (some { p := 2, pEnd := pEnd }) := by
    rw [tritonTokIterInit]
    split
    case isTrue => exact .inl rfl
    case isFalse => exact .inr ⟨_, rfl⟩
  have hnext : ∀ pEnd, tritonTokIterNext (version :: declared :: 0 :: 0 :: rest)
      { p := 2, pEnd := pEnd } = .ok none := by
    intro pEnd
    rw [tritonTokIterNext]
    split
    case isTrue => rfl
    case isFalse =>
      show (if pEnd - 2 < 2 then _ else _) = _
      split
      case isTrue => rfl
      case isFalse => rfl
  rw [tritonScanShdrDecls]
  rcases hinit with hnone | ⟨pEnd, hsome⟩
  · rw [hnone]
    rfl
  · rw [hsome]
    show (do
      let st ← scanLoop (version :: declared :: 0 :: 0 :: rest) _ (pEnd + 1)
        { p := 2, pEnd := pEnd } {}
      pure st.scan : Except TokenFault TritonShdrScan) = _
    rw [scanLoop, hnext]
    rfl

end VirtioWddm
