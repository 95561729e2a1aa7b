/-
  VirtioWddm.Triton.StreamOutput

  Geometry shaders with stream output.

  The DDI names the streamed components by register and mask, the host API by the
  semantic of an output element and a component offset in it.  The driver looks the
  elements up in the output signature it has just written itself.
-/

import Mathlib.Data.List.Pairwise
import VirtioWddm.Lib.BitRuns
import VirtioWddm.Triton.Dxbc.RoundTrip
import VirtioWddm.Triton.Shader

namespace VirtioWddm

open Lib

-- ============================================================================
-- Declarations
-- ============================================================================

/-- `D3D11DDIARG_STREAM_OUTPUT_DECLARATION_ENTRY`. -/
structure StreamOutputEntry where
  stream : UINT
  outputSlot : UINT
  registerIndex : UINT
  registerMask : Byte
deriving DecidableEq

/-- `D3D11_SO_DECLARATION_ENTRY`; a NULL name is a gap. -/
structure SoDeclarationEntry where
  stream : UINT
  semanticName : Option CString
  semanticIndex : UINT
  startComponent : Byte
  componentCount : Byte
  outputSlot : Byte
deriving DecidableEq

/-- The loop of `tritonDxbcFindSig`. -/
def tritonDxbcFindSigFrom (stream reg : UINT) (comp : Nat) (fallback : Option TritonDxbcSig) :
    List TritonDxbcSig → Option TritonDxbcSig
  | [] => fallback
  | sig :: p =>
      if sig.stream ≠ stream ∨ sig.register ≠ reg then
        tritonDxbcFindSigFrom stream reg comp fallback p
      else if comp < 4 ∧ hasFlag sig.mask (1#32 <<< comp) = true then some sig
      else tritonDxbcFindSigFrom stream reg comp (fallback.or (some sig)) p

/-- `tritonDxbcFindSig`. -/
def tritonDxbcFindSig (p : List TritonDxbcSig) (stream reg : UINT) (comp : Nat) :
    Option TritonDxbcSig :=
  tritonDxbcFindSigFrom stream reg comp none p

/-- The `elemBase` of an entry that starts at component `start`. -/
def elemBase (sig : TritonDxbcSig) (start : Nat) : Nat :=
  let elemBase := lowestBitFrom sig.mask 4 0
  if start < elemBase then start else elemBase

/-- The body of the loop over the entries. -/
def soDeclaration (dxsigs : List TritonDxbcSig) (src : StreamOutputEntry) : SoDeclarationEntry :=
  let m := src.registerMask &&& 0xF
  let start := lowestBitFrom m 4 0
  let count := countBits 8 m 0
  let sig := tritonDxbcFindSig dxsigs src.stream src.registerIndex start
  { stream := src.stream
    semanticName := sig.map TritonDxbcSig.name
    semanticIndex := sig.elim 0 TritonDxbcSig.semanticIndex
    startComponent := BitVec.ofNat 8 (start - sig.elim 0 fun sig => elemBase sig start)
    componentCount := count
    outputSlot := src.outputSlot.setWidth 8 }

-- ============================================================================
-- Creation
-- ============================================================================

/-- `D3D11_SO_STREAM_COUNT * D3D11_SO_OUTPUT_COMPONENT_COUNT`. -/
def maxSoEntries : Nat := 512

/-- The room for parsed output entries. -/
def maxSoSigs : UINT := 128

/-- `D3D11DDIARG_CREATEGEOMETRYSHADERWITHSTREAMOUTPUT`. -/
structure CreateGsWithSoArgs where
  pShaderCode : Option (List UINT)
  pOutputStreamDecl : List StreamOutputEntry
  bufferStridesInBytes : List UINT
  rasterizedStream : UINT
deriving DecidableEq

/-- The answers of the heap, for the container and for a long list of declarations, and
    of the host. -/
structure GsWithSoAnswers where
  heap : DxbcHeap
  soHeap : Bool
  created : Except HRESULT HostShader

/-- The arguments of `CreateGeometryShaderWithStreamOutput`. -/
structure GsWithSoRequest where
  pBytecode : List Byte
  cbBytecode : Nat
  pSODeclaration : List SoDeclarationEntry
  pBufferStrides : List UINT
  rasterizedStream : UINT
deriving DecidableEq

/-- What a call leaves: the error it reports, and what it asked the host for. -/
structure GsWithSoResult where
  pD : TritonDevice
  error : Option HRESULT
  request : Option GsWithSoRequest := none

/-- `tritonCreateGSWithSO_11`; `none` is a read outside the shader's tokens or the
    container. -/
def tritonCreateGSWithSO_11 (pD : TritonDevice) (a : PrivateAddr) (args : CreateGsWithSoArgs)
    (pSigsRaw : TritonStageSigs) (answers : GsWithSoAnswers) : Option GsWithSoResult :=
  let cookie := pD.nextShaderCookie + 1
  let s : TritonShader :=
    { kind := .gs, pBytecode := none, cbBytecode := 0, pDeviceChild := none, cookie := cookie }
  let pD := { pD with nextShaderCookie := cookie }
  match args.pShaderCode with
  | none => some { pD := pD.write a (.shader s), error := some E_NOTIMPL }
  | some pShaderCode =>
      if maxSoEntries < args.pOutputStreamDecl.length then
        some { pD := pD.write a (.shader s), error := some E_INVALIDARG }
      else do
        let cbTokens ← (tritonShaderTokenBytes pShaderCode).toOption
        let sigs := tritonUnpackSigs pSigsRaw false
        if 4096 < sigs.pIn.length ∨ 4096 < sigs.pOut.length then
          return { pD := pD.write a (.shader s), error := some E_INVALIDARG }
        else do
          let pDxbc ←
            (tritonBuildDxbc answers.heap pShaderCode cbTokens sigs.pIn sigs.pOut []
              pD.tritonSigStride).toOption
          match pDxbc with
          | none => return { pD := pD.write a (.shader s), error := some E_OUTOFMEMORY }
          | some (bytes, cbDxbc) => do
              let dxsigs ← tritonDxbcParseSig bytes cbDxbc.toNat false maxSoSigs
              if maxSoEntries < args.pOutputStreamDecl.length ∧ answers.soHeap = false then
                return { pD := pD.write a (.shader s), error := some E_OUTOFMEMORY }
              else
                let request : GsWithSoRequest :=
                  { pBytecode := bytes
                    cbBytecode := cbDxbc.toNat
                    pSODeclaration := args.pOutputStreamDecl.map (soDeclaration dxsigs)
                    pBufferStrides := args.bufferStridesInBytes
                    rasterizedStream := args.rasterizedStream }
                match answers.created with
                | .ok child =>
                    return {
                      pD := pD.write a (.shader { s with
                        pBytecode := some bytes, cbBytecode := cbDxbc.toNat,
                        pDeviceChild := some child })
                      error := none
                      request := some request }
                | .error hr =>
                    -- the container is freed again
                    return {
                      pD := pD.write a (.shader s), error := some hr, request := some request }

/-- `D3D10DDIARG_STREAM_OUTPUT_DECLARATION_ENTRY`. -/
structure StreamOutputEntry10 where
  outputSlot : UINT
  registerIndex : UINT
  registerMask : Byte
deriving DecidableEq

/-- `D3D10DDIARG_CREATEGEOMETRYSHADERWITHSTREAMOUTPUT`. -/
structure CreateGsWithSo10Args where
  pShaderCode : Option (List UINT)
  pOutputStreamDecl : List StreamOutputEntry10
  streamOutputStrideInBytes : UINT
deriving DecidableEq

/-- The entry of the 11.x list for one of the 10.x list. -/
def upgradeEntry (src : StreamOutputEntry10) : StreamOutputEntry where
  stream := 0
  outputSlot := src.outputSlot
  registerIndex := src.registerIndex
  registerMask := src.registerMask

/-- `tritonCreateGSWithSO_10`; `upHeap` is the heap's answer for a long list. -/
def tritonCreateGSWithSO_10 (pD : TritonDevice) (a : PrivateAddr) (args : CreateGsWithSo10Args)
    (pSigs : TritonStageSigs) (upHeap : Bool) (answers : GsWithSoAnswers) :
    Option GsWithSoResult :=
  if maxSoEntries < args.pOutputStreamDecl.length ∧ upHeap = false then
    some { pD := pD, error := some E_OUTOFMEMORY }
  else
    tritonCreateGSWithSO_11 pD a
      { pShaderCode := args.pShaderCode
        pOutputStreamDecl := args.pOutputStreamDecl.map upgradeEntry
        bufferStridesInBytes := [args.streamOutputStrideInBytes]
        rasterizedStream := 0 } pSigs answers

-- ============================================================================
-- The element an entry is in
-- ============================================================================

/-- The components of an output element. -/
def TritonSigEntry.components (e : TritonSigEntry) : UINT :=
  e.mask &&& 0xF#32

/-- The stream the reader finds for an output element: zero where the signature has no
    streams. -/
def DxbcPlan.parsedStream (plan : DxbcPlan) (e : TritonSigEntry) : UINT :=
  (parsedSig (tritonSigBlobLayout (plan.sigFourcc false)).fStream e).stream

/-- The output element is in this register of this stream. -/
def DxbcPlan.Places (plan : DxbcPlan) (stream reg : UINT) (e : TritonSigEntry) : Prop :=
  plan.parsedStream e = stream ∧ e.reg = reg

/-- The elements of one stream and register have disjoint contiguous masks. -/
structure DxbcPlan.PackedRuns (plan : DxbcPlan) (stream reg : UINT) : Prop where
  contiguous : ∀ e ∈ plan.aOut, plan.Places stream reg e →
    ∃ first count, IsRun e.components first count
  disjoint : plan.aOut.Pairwise fun e e' =>
    plan.Places stream reg e → plan.Places stream reg e' → e.components &&& e'.components = 0#32

/-- An entry for the `count` components from `first` on, all of them in the final
    output element `e`. -/
structure DxbcPlan.Covers (plan : DxbcPlan) (e : TritonSigEntry) (src : StreamOutputEntry)
    (first count : Nat) : Prop where
  mem : e ∈ plan.aOut
  places : plan.Places src.stream src.registerIndex e
  packed : plan.PackedRuns src.stream src.registerIndex
  run : IsRun src.registerMask first count
  nonempty : 0 < count
  within : ∀ i, src.registerMask.getLsbD i = true → e.components.getLsbD i = true

/-- The declaration names the element, and its components counted from the element's
    first one. -/
structure DeclaresExactly (e : TritonSigEntry) (src : StreamOutputEntry) (first count : Nat)
    (decl : SoDeclarationEntry) : Prop where
  stream : decl.stream = src.stream
  semanticName : decl.semanticName = some e.name
  semanticIndex : decl.semanticIndex = e.semIdx
  componentCount : decl.componentCount.toNat = count
  startComponent : ∀ elemFirst elemCount, IsRun e.components elemFirst elemCount →
    elemFirst + decl.startComponent.toNat = first ∧
      decl.startComponent.toNat + decl.componentCount.toNat ≤ elemCount

/-- Every entry that lies in an element is declared exactly. -/
structure SoExact (plan : DxbcPlan) (entries : List StreamOutputEntry)
    (decls : List SoDeclarationEntry) : Prop where
  length : decls.length = entries.length
  exact : ∀ (i : Nat) (src : StreamOutputEntry) (e : TritonSigEntry) (first count : Nat),
    entries[i]? = some src → plan.Covers e src first count →
    ∃ decl, decls[i]? = some decl ∧ DeclaresExactly e src first count decl

-- ============================================================================
-- The search
-- ============================================================================

/-- The search takes the first element that covers the component, or else the first
    one of the register. -/
theorem tritonDxbcFindSigFrom_eq {stream reg : UINT} {comp : Nat} {p : List TritonDxbcSig}
    {fallback : Option TritonDxbcSig} (hcomp : comp < 4) :
    tritonDxbcFindSigFrom stream reg comp fallback p =
      (p.find? fun sig => sig.stream == stream && sig.register == reg &&
        sig.mask.getLsbD comp).or
        (fallback.or (p.find? fun sig => sig.stream == stream && sig.register == reg)) := by
  induction p generalizing fallback with
  | nil => cases fallback <;> rfl
  | cons sig p ih =>
      rw [tritonDxbcFindSigFrom, hasFlag_one_shiftLeft, List.find?_cons, List.find?_cons]
      by_cases hplace : sig.stream = stream ∧ sig.register = reg
      · have hbeq : (sig.stream == stream && sig.register == reg) = true := by
          simp [hplace.1, hplace.2]
        rw [if_neg fun h => h.elim (absurd hplace.1) (absurd hplace.2), hbeq]
        cases hbit : sig.mask.getLsbD comp with
        | true =>
            rw [if_pos ⟨hcomp, rfl⟩]
            rfl
        | false =>
            rw [if_neg fun h => absurd h.2 (by decide), ih]
            cases fallback <;> rfl
      · have hbeq : (sig.stream == stream && sig.register == reg) = false := by
          simpa using hplace
        rw [if_pos (not_and_or.mp hplace), hbeq, ih]
        rfl

/-- What the reader makes of an output element. -/
def DxbcPlan.parsedOut (plan : DxbcPlan) : TritonSigEntry → TritonDxbcSig :=
  parsedSig (tritonSigBlobLayout (plan.sigFourcc false)).fStream

section Search

variable {plan : DxbcPlan} {e e' : TritonSigEntry} {stream reg : UINT} {comp : Nat}

theorem components_lt_four (hbit : e.components.getLsbD comp = true) : comp < 4 := by
  rw [TritonSigEntry.components, BitVec.getLsbD_and, getLsbD_fifteen] at hbit
  exact of_decide_eq_true (Bool.and_eq_true_iff.mp hbit).2

/-- Two elements of one register with a common component are the same. -/
theorem DxbcPlan.PackedRuns.eq_of_common (hpacked : plan.PackedRuns stream reg)
    (hmem : e ∈ plan.aOut) (hmem' : e' ∈ plan.aOut) (hplaces : plan.Places stream reg e)
    (hplaces' : plan.Places stream reg e') (hbit : e.components.getLsbD comp = true)
    (hbit' : e'.components.getLsbD comp = true) : e = e' := by
  have hsymm : Std.Symm fun e e' : TritonSigEntry => plan.Places stream reg e →
      plan.Places stream reg e' → e.components &&& e'.components = 0#32 :=
    ⟨fun a b h hb ha => (BitVec.and_comm _ _).trans (h ha hb)⟩
  by_contra hne
  have hzero := hpacked.disjoint.forall hmem hmem' hne hplaces hplaces'
  have hboth : (e.components &&& e'.components).getLsbD comp = true := by
    rw [BitVec.getLsbD_and, hbit, hbit']
    rfl
  rw [hzero, BitVec.getLsbD_zero] at hboth
  cases hboth

/-- Among elements with disjoint masks the search finds the one that covers the
    component. -/
theorem tritonDxbcFindSig_covers (hmem : e ∈ plan.aOut) (hplaces : plan.Places stream reg e)
    (hpacked : plan.PackedRuns stream reg) (hbit : e.components.getLsbD comp = true) :
    tritonDxbcFindSig (plan.aOut.map plan.parsedOut) stream reg comp =
      some (plan.parsedOut e) := by
  rw [tritonDxbcFindSig, tritonDxbcFindSigFrom_eq (components_lt_four hbit), List.find?_map]
  have hkey : ((fun sig : TritonDxbcSig => sig.stream == stream && sig.register == reg &&
      sig.mask.getLsbD comp) ∘ plan.parsedOut) e = true := by
    have hstream : (plan.parsedOut e).stream = stream := hplaces.1
    have hreg : (plan.parsedOut e).register = reg := hplaces.2
    have hmask : (plan.parsedOut e).mask.getLsbD comp = true := hbit
    simp [hstream, hreg, hmask]
  cases hfound : plan.aOut.find? _ with
  | none => exact absurd hkey (List.find?_eq_none.mp hfound e hmem)
  | some found =>
      have hfound_mem := List.mem_of_find?_eq_some hfound
      have hfound_key := List.find?_some hfound
      simp only [Function.comp_apply, Bool.and_eq_true, beq_iff_eq] at hfound_key
      obtain ⟨⟨hstream, hreg⟩, hmask⟩ := hfound_key
      rw [hpacked.eq_of_common hmem hfound_mem hplaces ⟨hstream, hreg⟩ hbit hmask]
      rfl

end Search

-- ============================================================================
-- One entry
-- ============================================================================

theorem getLsbD_nibble {m : Byte} (h : ∀ i, m.getLsbD i = true → i < 4) : m &&& 0xF = m := by
  apply BitVec.eq_of_getLsbD_eq
  intro i hi
  rw [BitVec.getLsbD_and]
  cases hbit : m.getLsbD i with
  | false => rfl
  | true =>
      match i, h i hbit with
      | 0, _ | 1, _ | 2, _ | 3, _ => rfl

section Entry

variable {plan : DxbcPlan} {e : TritonSigEntry} {src : StreamOutputEntry} {first count : Nat}

/-- The entry's components are components of a register. -/
theorem DxbcPlan.Covers.last_lt (hcovers : plan.Covers e src first count) : first + count ≤ 4 := by
  have hpos := hcovers.nonempty
  have hlast := components_lt_four
    (hcovers.within (first + count - 1) ((hcovers.run _).mpr ⟨by omega, by omega⟩))
  omega

/-- The scans of the entry's mask find its components. -/
theorem DxbcPlan.Covers.scans (hcovers : plan.Covers e src first count) :
    lowestBitFrom (src.registerMask &&& 0xF) 4 0 = first ∧
      (countBits 8 (src.registerMask &&& 0xF) 0).toNat = count := by
  have hlast := hcovers.last_lt
  have hpos := hcovers.nonempty
  rw [getLsbD_nibble fun i hi => components_lt_four (hcovers.within i hi)]
  refine ⟨hcovers.run.lowestBitFrom_eq hpos (Nat.zero_le _) (by omega), ?_⟩
  rw [hcovers.run.countBits_eq (by omega)]
  show (0#8 + BitVec.ofNat 8 count).toNat = count
  rw [BitVec.zero_add, BitVec.toNat_ofNat]
  exact Nat.mod_eq_of_lt (by omega)

/-- The base of an entry in the element is the element's first component. -/
theorem DxbcPlan.Covers.elemBase_eq (hcovers : plan.Covers e src first count)
    {elemFirst elemCount : Nat} (hrun : IsRun e.components elemFirst elemCount) :
    elemBase (plan.parsedOut e) first = elemFirst ∧ elemFirst ≤ first ∧
      first + count ≤ elemFirst + elemCount := by
  have hwithin := hcovers.run.within hrun hcovers.nonempty hcovers.within
  have hpos := hcovers.nonempty
  have hlast := hcovers.last_lt
  have hbase : lowestBitFrom (plan.parsedOut e).mask 4 0 = elemFirst :=
    hrun.lowestBitFrom_eq (by omega) (Nat.zero_le _) (by omega)
  refine ⟨?_, hwithin⟩
  rw [elemBase, hbase]
  exact if_neg (by omega)

/-- The declaration of an entry that lies in an element. -/
theorem soDeclaration_exact (hcovers : plan.Covers e src first count) :
    DeclaresExactly e src first count
      (soDeclaration (plan.aOut.map plan.parsedOut) src) := by
  obtain ⟨hstart, hcount⟩ := hcovers.scans
  have hbit := hcovers.within first (hcovers.run.getLsbD hcovers.nonempty)
  have hfind := tritonDxbcFindSig_covers hcovers.mem hcovers.places hcovers.packed hbit
  have hlast := hcovers.last_lt
  refine ⟨rfl, ?_, ?_, hcount, ?_⟩
  · rw [soDeclaration, hstart, hfind]
    rfl
  · rw [soDeclaration, hstart, hfind]
    rfl
  · intro elemFirst elemCount hrun
    obtain ⟨hbase, hle, hend⟩ := hcovers.elemBase_eq hrun
    have hcomponent :
        (soDeclaration (plan.aOut.map plan.parsedOut) src).startComponent.toNat =
          first - elemFirst := by
      rw [soDeclaration, hstart, hfind]
      show (BitVec.ofNat 8 (first - elemBase (plan.parsedOut e) first)).toNat = _
      rw [hbase, BitVec.toNat_ofNat]
      exact Nat.mod_eq_of_lt (by omega)
    have hwidth :
        (soDeclaration (plan.aOut.map plan.parsedOut) src).componentCount.toNat = count := hcount
    rw [hcomponent, hwidth]
    omega

end Entry

-- ============================================================================
-- The list of declarations
-- ============================================================================

/-- Some entry lies in an output element. -/
def SomeCovered (plan : DxbcPlan) (entries : List StreamOutputEntry) : Prop :=
  ∃ src ∈ entries, ∃ e first count, plan.Covers e src first count

section Declarations

variable {plan : DxbcPlan} {entries : List StreamOutputEntry}

theorem soExact_parsed (plan : DxbcPlan) (entries : List StreamOutputEntry) :
    SoExact plan entries (entries.map (soDeclaration (plan.aOut.map plan.parsedOut))) := by
  refine ⟨List.length_map _, fun i src e first count hsrc hcovers => ?_⟩
  refine ⟨_, ?_, soDeclaration_exact hcovers⟩
  rw [List.getElem?_map, hsrc]
  rfl

/-- Where no signature was read every declaration is a gap. -/
theorem soExact_nil_iff :
    SoExact plan entries (entries.map (soDeclaration [])) ↔ ¬SomeCovered plan entries := by
  constructor
  · rintro hexact ⟨src, hsrc, e, first, count, hcovers⟩
    obtain ⟨i, hi⟩ := List.mem_iff_getElem?.mp hsrc
    obtain ⟨decl, hdecl, hdeclares⟩ := hexact.exact i src e first count hi hcovers
    rw [List.getElem?_map, hi] at hdecl
    obtain rfl : soDeclaration [] src = decl := Option.some.inj hdecl
    have hgap : (soDeclaration [] src).semanticName = none := rfl
    rw [hdeclares.semanticName] at hgap
    cases hgap
  · intro hnone
    refine ⟨List.length_map _, fun i src e first count hsrc hcovers => ?_⟩
    exact absurd ⟨src, List.mem_of_getElem? hsrc, e, first, count, hcovers⟩ hnone

end Declarations

-- ============================================================================
-- The calls
-- ============================================================================

/-- The container of the shader builds, by this plan. -/
structure GsBuilds (pD : TritonDevice) (pShaderCode : List UINT) (pSigsRaw : TritonStageSigs)
    (heap : DxbcHeap) (cbTokens : Nat) (plan : DxbcPlan) : Prop where
  tokenBytes : tritonShaderTokenBytes pShaderCode = .ok cbTokens
  cIn : pSigsRaw.pIn.length ≤ 4096
  cOut : pSigsRaw.pOut.length ≤ 4096
  plans : dxbcPlan pShaderCode cbTokens pSigsRaw.pIn pSigsRaw.pOut [] pD.tritonSigStride = .ok plan
  built : ∃ bytes cbDxbc,
    tritonBuildDxbc heap pShaderCode cbTokens pSigsRaw.pIn pSigsRaw.pOut [] pD.tritonSigStride =
      .ok (some (bytes, cbDxbc))

/-- The signature the call reads back from the container. -/
def DxbcPlan.readBack (plan : DxbcPlan) (cbTokens : Nat) : List TritonDxbcSig :=
  if plan.sigEnd false ≤ plan.containerSize cbTokens % 2 ^ 32 then plan.aOut.map plan.parsedOut
  else []

/-- The call asks the host for a shader, with exact declarations. -/
def RequestsExactly (plan : DxbcPlan) (entries : List StreamOutputEntry)
    (call : Option GsWithSoResult) : Prop :=
  ∃ result request, call = some result ∧ result.request = some request ∧
    SoExact plan entries request.pSODeclaration

section Calls

variable {pD : TritonDevice} {pShaderCode : List UINT} {pSigsRaw : TritonStageSigs}
  {cbTokens : Nat} {plan : DxbcPlan} {answers : GsWithSoAnswers}

/-- There is room for every output element. -/
theorem parse_outputs {heap : DxbcHeap} {bytes : List Byte} {cbDxbc entryStride : UINT}
    {pIn pOut : List DdiEntry}
    (hbuild : tritonBuildDxbc heap pShaderCode cbTokens pIn pOut [] entryStride =
      .ok (some (bytes, cbDxbc)))
    (hplan : dxbcPlan pShaderCode cbTokens pIn pOut [] entryStride = .ok plan) :
    tritonDxbcParseSig bytes cbDxbc.toNat false maxSoSigs = some (plan.readBack cbTokens) := by
  have hall : plan.aOut.take maxSoSigs.toNat = plan.aOut :=
    List.take_of_length_le (dxbcPlan_writable hplan).aOut.length_le
  rw [parse_build hbuild hplan]
  show some (if _ then (plan.aOut.take maxSoSigs.toNat).map plan.parsedOut else []) = _
  rw [hall]
  rfl

/-- An accepted call asks the host for the declarations of the signature it read. -/
theorem tritonCreateGSWithSO_11_requests
    (hbuilds : GsBuilds pD pShaderCode pSigsRaw answers.heap cbTokens plan) (a : PrivateAddr)
    {args : CreateGsWithSoArgs} (hcode : args.pShaderCode = some pShaderCode)
    (hentries : args.pOutputStreamDecl.length ≤ maxSoEntries) :
    ∃ result request, tritonCreateGSWithSO_11 pD a args pSigsRaw answers = some result ∧
      result.request = some request ∧
      request.pSODeclaration =
        args.pOutputStreamDecl.map (soDeclaration (plan.readBack cbTokens)) := by
  obtain ⟨bytes, cbDxbc, hbuild⟩ := hbuilds.built
  have hparse := parse_outputs hbuild hbuilds.plans
  have hbuild' : tritonBuildDxbc answers.heap pShaderCode cbTokens
      (tritonUnpackSigs pSigsRaw false).pIn (tritonUnpackSigs pSigsRaw false).pOut []
      { pD with nextShaderCookie := pD.nextShaderCookie + 1 }.tritonSigStride =
        .ok (some (bytes, cbDxbc)) := hbuild
  have hcounts : ¬(4096 < (tritonUnpackSigs pSigsRaw false).pIn.length ∨
      4096 < (tritonUnpackSigs pSigsRaw false).pOut.length) := fun h =>
    h.elim (Nat.not_lt.mpr hbuilds.cIn) (Nat.not_lt.mpr hbuilds.cOut)
  have hshort : ¬maxSoEntries < args.pOutputStreamDecl.length := Nat.not_lt.mpr hentries
  unfold tritonCreateGSWithSO_11
  simp only [hcode, if_neg hshort, hbuilds.tokenBytes, hcounts, hbuild', hparse, Except.toOption,
    Option.bind_eq_bind, Option.bind_some, if_false]
  rw [if_neg fun h => hshort h.1]
  cases answers.created with
  | ok child => exact ⟨_, _, rfl, rfl, rfl⟩
  | error hr => exact ⟨_, _, rfl, rfl, rfl⟩

/-- Its declarations are exact when the signature is read back, or no entry lies in an
    output element. -/
theorem tritonCreateGSWithSO_11_exact_iff
    (hbuilds : GsBuilds pD pShaderCode pSigsRaw answers.heap cbTokens plan) (a : PrivateAddr)
    {args : CreateGsWithSoArgs} (hcode : args.pShaderCode = some pShaderCode)
    (hentries : args.pOutputStreamDecl.length ≤ maxSoEntries) :
    RequestsExactly plan args.pOutputStreamDecl
        (tritonCreateGSWithSO_11 pD a args pSigsRaw answers) ↔
      (SomeCovered plan args.pOutputStreamDecl →
        plan.sigEnd false ≤ plan.containerSize cbTokens % 2 ^ 32) := by
  obtain ⟨result, request, hcall, hrequest, hdecls⟩ :=
    tritonCreateGSWithSO_11_requests hbuilds a hcode hentries
  have hiff : RequestsExactly plan args.pOutputStreamDecl
      (tritonCreateGSWithSO_11 pD a args pSigsRaw answers) ↔
        SoExact plan args.pOutputStreamDecl
          (args.pOutputStreamDecl.map (soDeclaration (plan.readBack cbTokens))) := by
    constructor
    · rintro ⟨result', request', hcall', hrequest', hexact⟩
      obtain rfl := Option.some.inj (hcall.symm.trans hcall')
      obtain rfl := Option.some.inj (hrequest.symm.trans hrequest')
      exact hdecls ▸ hexact
    · intro hexact
      exact ⟨result, request, hcall, hrequest, hdecls.symm ▸ hexact⟩
  rw [hiff, DxbcPlan.readBack]
  split
  case isTrue hend => exact iff_of_true (soExact_parsed plan _) fun _ => hend
  case isFalse hend => rw [soExact_nil_iff, not_imp_not.symm, imp_iff_right hend]

/-- The declarations of both versions of the call are exact when the signature is read
    back, or no entry lies in an output element. -/
theorem createGsWithSo_exact_iff
    (hbuilds : GsBuilds pD pShaderCode pSigsRaw answers.heap cbTokens plan) (a : PrivateAddr) :
    (∀ args : CreateGsWithSoArgs, args.pShaderCode = some pShaderCode →
      args.pOutputStreamDecl.length ≤ maxSoEntries →
      (RequestsExactly plan args.pOutputStreamDecl
          (tritonCreateGSWithSO_11 pD a args pSigsRaw answers) ↔
        (SomeCovered plan args.pOutputStreamDecl →
          plan.sigEnd false ≤ plan.containerSize cbTokens % 2 ^ 32))) ∧
    ∀ (args : CreateGsWithSo10Args) (upHeap : Bool), args.pShaderCode = some pShaderCode →
      args.pOutputStreamDecl.length ≤ maxSoEntries →
      (RequestsExactly plan (args.pOutputStreamDecl.map upgradeEntry)
          (tritonCreateGSWithSO_10 pD a args pSigsRaw upHeap answers) ↔
        (SomeCovered plan (args.pOutputStreamDecl.map upgradeEntry) →
          plan.sigEnd false ≤ plan.containerSize cbTokens % 2 ^ 32)) := by
  refine ⟨fun args hcode hentries => tritonCreateGSWithSO_11_exact_iff hbuilds a hcode hentries,
    fun args upHeap hcode hentries => ?_⟩
  have hentries' : (args.pOutputStreamDecl.map upgradeEntry).length ≤ maxSoEntries := by
    rw [List.length_map]
    exact hentries
  rw [tritonCreateGSWithSO_10, if_neg fun h => Nat.not_lt.mpr hentries h.1]
  exact tritonCreateGSWithSO_11_exact_iff hbuilds a hcode hentries'

end Calls

-- ============================================================================
-- Geometry shaders that declare nothing
-- ============================================================================

/-- An entry in an element with contiguous components lies between its ends. -/
theorem DxbcPlan.Covers.of_runs {plan : DxbcPlan} {e : TritonSigEntry} {src : StreamOutputEntry}
    {first count elemFirst elemCount : Nat} (hmem : e ∈ plan.aOut)
    (hplaces : plan.Places src.stream src.registerIndex e)
    (hpacked : plan.PackedRuns src.stream src.registerIndex)
    (hrun : IsRun src.registerMask first count) (hpos : 0 < count)
    (helem : IsRun e.components elemFirst elemCount) (hfirst : elemFirst ≤ first)
    (hlast : first + count ≤ elemFirst + elemCount) : plan.Covers e src first count := by
  refine ⟨hmem, hplaces, hpacked, hrun, hpos, fun i hi => ?_⟩
  have hbounds := hrun.bounds hi
  exact (helem i).mpr ⟨by omega, by omega⟩

def gsAnswers : GsWithSoAnswers where
  heap := { scratch := true, buffer := some 64 }
  soHeap := true
  created := .ok { id := 1 }

theorem gsBuilds_of_plan {pD : TritonDevice} {sigs : TritonStageSigs} {plan : DxbcPlan}
    (declared : UINT) {rest : List UINT} (hin : sigs.pIn.length ≤ 4096)
    (hout : sigs.pOut.length ≤ 4096)
    (hstride : pD.tritonSigStride = 12 ∨ pD.tritonSigStride = 20)
    (hplan : dxbcPlan (0x00020040 :: declared :: 0 :: 0 :: rest) (declared.toNat * 4) sigs.pIn
      sigs.pOut [] pD.tritonSigStride = .ok plan)
    (hmin : 8 ≤ declared.toNat * 4) (hmem : declared.toNat * 4 ≤ 4 * (rest.length + 4)) :
    GsBuilds pD (0x00020040 :: declared :: 0 :: 0 :: rest) sigs gsAnswers.heap
      (declared.toNat * 4) plan := by
  obtain ⟨plan', bytes, cbOut, chunks, -, hbuild, -⟩ :=
    tritonBuildDxbc_returns (0x00020040 :: declared :: 0 :: 0 :: rest) declared.toNat
      (declared.toNat * 4) (Nat.mul_comm _ _) hmin hmem sigs.pIn sigs.pOut [] hstride
      gsAnswers.heap rfl rfl
  exact ⟨rfl, hin, hout, hplan, bytes, cbOut, hbuild⟩

/-- Outputs packed in `o1`, the position in `o0`, by the same plan as a vertex shader's. -/
def gsPackedPlan : DxbcPlan :=
  { packedPlan with aIn := [], progType := PROG_GS }

def gsPackedSigs : TritonStageSigs where
  pOut := packedOut

def gsDevice11_1 : TritonDevice where
  fDdi11_1 := true

/-- The last component of `o1`, its second one, and the last two of the position. -/
def soPacked : List StreamOutputEntry :=
  [{ stream := 0, outputSlot := 0, registerIndex := 1, registerMask := 0x8 },
    { stream := 0, outputSlot := 1, registerIndex := 1, registerMask := 0x2 },
    { stream := 0, outputSlot := 0, registerIndex := 0, registerMask := 0xC }]

def gsPackedArgs : CreateGsWithSoArgs where
  pShaderCode := some [0x00020040, 4, 0, 0]
  pOutputStreamDecl := soPacked
  bufferStridesInBytes := [12, 4]
  rasterizedStream := 0

theorem gsPacked_position : IsRun gsPackedPlan.aOut[0].components 0 4 :=
  isRun_of_lt (by decide) (by decide)

theorem gsPacked_lower : IsRun gsPackedPlan.aOut[1].components 0 2 :=
  isRun_of_lt (by decide) (by decide)

theorem gsPacked_upper : IsRun gsPackedPlan.aOut[2].components 2 2 :=
  isRun_of_lt (by decide) (by decide)

theorem gsPacked_packed (stream reg : UINT) : gsPackedPlan.PackedRuns stream reg := by
  constructor
  · intro e he _
    rcases he with _ | ⟨_, _ | ⟨_, _ | ⟨_, he⟩⟩⟩
    · exact ⟨0, 4, gsPacked_position⟩
    · exact ⟨0, 2, gsPacked_lower⟩
    · exact ⟨2, 2, gsPacked_upper⟩
    · cases he
  · have hother : ∀ {e e' : TritonSigEntry}, e.reg ≠ e'.reg → gsPackedPlan.Places stream reg e →
        gsPackedPlan.Places stream reg e' → e.components &&& e'.components = 0#32 :=
      fun hne h h' => absurd (h.2.trans h'.2.symm) hne
    refine .cons ?_ (.cons ?_ (List.pairwise_singleton _ _))
    · rintro e' (_ | ⟨_, _ | ⟨_, he'⟩⟩)
      · exact hother (by decide)
      · exact hother (by decide)
      · cases he'
    · rintro e' (_ | ⟨_, he'⟩)
      · exact fun _ _ => by decide
      · cases he'

/-- In the element of `o1` that starts at its third component the entry starts at the
    second; the names and indices are those of the elements. -/
theorem createGsWithSo_exact_packed :
    GsBuilds gsDevice11_1 [0x00020040, 4, 0, 0] gsPackedSigs gsAnswers.heap 16 gsPackedPlan ∧
      (∀ src ∈ soPacked, ∃ e first count, gsPackedPlan.Covers e src first count) ∧
      RequestsExactly gsPackedPlan soPacked
        (tritonCreateGSWithSO_11 gsDevice11_1 0 gsPackedArgs gsPackedSigs gsAnswers) ∧
      ∃ result request,
        tritonCreateGSWithSO_11 gsDevice11_1 0 gsPackedArgs gsPackedSigs gsAnswers =
          some result ∧
        result.request = some request ∧
        request.pSODeclaration =
          [{ stream := 0, semanticName := some attribName, semanticIndex := 6,
             startComponent := 1, componentCount := 1, outputSlot := 0 },
            { stream := 0, semanticName := some attribName, semanticIndex := 4,
              startComponent := 1, componentCount := 1, outputSlot := 1 },
            { stream := 0, semanticName := some (cstr "SV_Position"), semanticIndex := 0,
              startComponent := 2, componentCount := 2, outputSlot := 0 }] := by
  have hbuilds : GsBuilds gsDevice11_1 [0x00020040, 4, 0, 0] gsPackedSigs gsAnswers.heap 16
      gsPackedPlan := by
    refine gsBuilds_of_plan 4 (by decide) (by decide) (.inr rfl) ?_ (by decide)
      (by decide)
    rw [dxbcPlan, tritonScanShdrDecls_stops]
    rfl
  have hcovers : ∀ src ∈ soPacked, ∃ e first count, gsPackedPlan.Covers e src first count := by
    intro src hsrc
    rcases hsrc with _ | ⟨_, _ | ⟨_, _ | ⟨_, hsrc⟩⟩⟩
    · exact ⟨gsPackedPlan.aOut[2], 3, 1, .of_runs (List.getElem_mem _) ⟨rfl, rfl⟩
        (gsPacked_packed _ _) (isRun_of_lt (by decide) (by decide)) (by decide) gsPacked_upper
        (by decide) (by decide)⟩
    · exact ⟨gsPackedPlan.aOut[1], 1, 1, .of_runs (List.getElem_mem _) ⟨rfl, rfl⟩
        (gsPacked_packed _ _) (isRun_of_lt (by decide) (by decide)) (by decide) gsPacked_lower
        (by decide) (by decide)⟩
    · exact ⟨gsPackedPlan.aOut[0], 2, 2, .of_runs (List.getElem_mem _) ⟨rfl, rfl⟩
        (gsPacked_packed _ _) (isRun_of_lt (by decide) (by decide)) (by decide) gsPacked_position
        (by decide) (by decide)⟩
    · cases hsrc
  have hexact := ((createGsWithSo_exact_iff hbuilds 0).1 gsPackedArgs rfl (by decide)).mpr
    fun _ => by decide
  refine ⟨hbuilds, hcovers, hexact, ?_⟩
  obtain ⟨result, request, hcall, hrequest, hdecls⟩ :=
    tritonCreateGSWithSO_11_requests hbuilds 0 (show gsPackedArgs.pShaderCode = some _ from rfl)
      (by decide)
  refine ⟨result, request, hcall, hrequest, ?_⟩
  rw [hdecls]
  rfl

/-- The plan of a geometry shader that declares nothing and has the position in `o0`. -/
def gsPositionPlan : DxbcPlan :=
  { positionPlan with progType := PROG_GS }

def gsSigs : TritonStageSigs where
  pOut := [positionOut]

def gsDevice : TritonDevice where
  fDdi11_1 := false

/-- The entry for the last two components. -/
def soPosition : StreamOutputEntry where
  stream := 0
  outputSlot := 0
  registerIndex := 0
  registerMask := 0xC

def gsArgs (pShaderCode : List UINT) : CreateGsWithSoArgs where
  pShaderCode := some pShaderCode
  pOutputStreamDecl := [soPosition]
  bufferStridesInBytes := [8]
  rasterizedStream := 0

theorem gsPosition_covered : SomeCovered gsPositionPlan [soPosition] := by
  have hrun : ∀ e ∈ gsPositionPlan.aOut, IsRun e.components 0 4 := by
    intro e he
    obtain rfl := List.mem_singleton.mp he
    exact isRun_of_lt (by decide) (by decide)
  have hpacked : gsPositionPlan.PackedRuns 0 0 :=
    ⟨fun e he _ => ⟨0, 4, hrun e he⟩, List.pairwise_singleton _ _⟩
  have hmask : IsRun soPosition.registerMask 2 2 := isRun_of_lt (by decide) (by decide)
  have hmem := List.mem_singleton_self (a := gsPositionPlan.aOut.head (by decide))
  exact ⟨soPosition, List.mem_singleton_self _, _, 2, 2,
    .of_runs hmem ⟨rfl, rfl⟩ hpacked hmask (by decide) (hrun _ hmem) (by decide) (by decide)⟩

/-- For a shader of `2 ^ 30 - 3` DWORDs the length of the container is cut to a DWORD that
    ends before the output signature, and the entry becomes a gap. -/
theorem createGsWithSo_wrapped :
    GsBuilds gsDevice (0x00020040 :: 0x3FFFFFFD :: 0 :: 0 :: List.replicate 0x3FFFFFF9 0) gsSigs
        gsAnswers.heap 0xFFFFFFF4 gsPositionPlan ∧
      SomeCovered gsPositionPlan [soPosition] ∧
      ¬RequestsExactly gsPositionPlan [soPosition]
        (tritonCreateGSWithSO_11 gsDevice 0
          (gsArgs (0x00020040 :: 0x3FFFFFFD :: 0 :: 0 :: List.replicate 0x3FFFFFF9 0)) gsSigs
          gsAnswers) := by
  generalize hrest : List.replicate 0x3FFFFFF9 (0 : UINT) = rest
  have hlen : rest.length = 0x3FFFFFF9 := by
    rw [← hrest, List.length_replicate]
  have hbuilds : GsBuilds gsDevice (0x00020040 :: 0x3FFFFFFD :: 0 :: 0 :: rest) gsSigs
      gsAnswers.heap 0xFFFFFFF4 gsPositionPlan := by
    refine gsBuilds_of_plan 0x3FFFFFFD (Nat.zero_le _) (by decide) (.inl rfl) ?_
      (by decide) ?_
    · rw [dxbcPlan, tritonScanShdrDecls_stops]
      rfl
    · show 0xFFFFFFF4 ≤ _
      omega
  refine ⟨hbuilds, gsPosition_covered, fun hexact => ?_⟩
  have hentries : (gsArgs (0x00020040 :: 0x3FFFFFFD :: 0 :: 0 :: rest)).pOutputStreamDecl.length ≤
      maxSoEntries := Nat.le_of_ble_eq_true rfl
  have hend := (tritonCreateGSWithSO_11_exact_iff hbuilds 0 rfl hentries).mp hexact
    gsPosition_covered
  have hshort : ¬gsPositionPlan.sigEnd false ≤
      gsPositionPlan.containerSize 0xFFFFFFF4 % 2 ^ 32 := by decide
  exact hshort hend

end VirtioWddm
