/-
  VirtioWddm.Triton.Shader

  Shaders, element layouts and the input layouts resolved from them.

  Both kinds of objects live in private memory that the runtime hands to the create
  calls and may hand out again later.  Such memory is a cell here: it holds whatever
  was last written to it, and a read of an object through a pointer to a cell that
  holds something else is a fault (`none`).
-/

import Mathlib.Logic.Function.Basic
import VirtioWddm.Triton.InputLayout

namespace VirtioWddm

open Lib

-- ============================================================================
-- Objects
-- ============================================================================

/-- `TRITON_SHADER_KIND`. -/
inductive TritonShaderKind where
  | vs
  | ps
  | gs
  | hs
  | ds
  | cs
deriving DecidableEq

/-- A non-NULL `ID3D11DeviceChild` of the host stack that is a shader. -/
structure HostShader where
  id : Nat
deriving DecidableEq

/-- A non-NULL `ID3D11InputLayout` of the host stack: what it was created from is part
    of what it is. -/
structure HostInputLayout where
  id : Nat
  request : InputLayoutRequest
deriving DecidableEq

/-- `TRITON_SHADER`. -/
structure TritonShader where
  kind : TritonShaderKind
  pBytecode : Option (List Byte)
  cbBytecode : Nat
  /-- `u.pDeviceChild`, `u.pVS` and so on: one pointer. -/
  pDeviceChild : Option HostShader
  cookie : UINT64
deriving DecidableEq

/-- `TRITON_ELEMENTLAYOUT`. -/
structure TritonElementLayout where
  pElements : Option (List DdiElementDesc)
  numElements : Nat
  pLayout : Option HostInputLayout
  layoutVsCookie : UINT64
  pReconVS : Option HostShader
deriving DecidableEq

/-- The address of a private block (`pDrvPrivate`). -/
abbrev PrivateAddr := Nat

/-- What a private block holds. -/
inductive PrivateCell where
  | raw
  | shader (s : TritonShader)
  | layout (e : TritonElementLayout)
deriving DecidableEq

/-- The fields of `TRITON_DEVICE` that shaders and layouts use, the private memory, and
    what the host context has bound. -/
structure TritonDevice where
  /-- the interface version is at least `D3D11_1_DDI_INTERFACE_VERSION` -/
  fDdi11_1 : Bool
  pCurrentVS : Option PrivateAddr := none
  pCurrentLayout : Option PrivateAddr := none
  pBoundReconVS : Option HostShader := none
  nextShaderCookie : UINT64 := 0
  mem : PrivateAddr → PrivateCell := fun _ => .raw
  hostVS : Option HostShader := none
  hostLayout : Option HostInputLayout := none

namespace TritonDevice

/-- The shader behind a pointer. -/
def shaderAt (pD : TritonDevice) (a : PrivateAddr) : Option TritonShader :=
  match pD.mem a with
  | .shader s => some s
  | _ => none

/-- The element layout behind a pointer. -/
def layoutAt (pD : TritonDevice) (a : PrivateAddr) : Option TritonElementLayout :=
  match pD.mem a with
  | .layout e => some e
  | _ => none

/-- A write to a private block. -/
def write (pD : TritonDevice) (a : PrivateAddr) (c : PrivateCell) : TritonDevice :=
  { pD with mem := Function.update pD.mem a c }

theorem mem_write_self (pD : TritonDevice) (a : PrivateAddr) (c : PrivateCell) :
    (pD.write a c).mem a = c := by
  show Function.update pD.mem a c a = c
  rw [Function.update_self]

theorem mem_write_of_ne (pD : TritonDevice) {a a' : PrivateAddr} (h : a' ≠ a) (c : PrivateCell) :
    (pD.write a c).mem a' = pD.mem a' := by
  show Function.update pD.mem a c a' = pD.mem a'
  rw [Function.update_of_ne h]

/-- `tritonSigStride`. -/
def tritonSigStride (pD : TritonDevice) : UINT :=
  if pD.fDdi11_1 then 20 else 12

end TritonDevice

-- ============================================================================
-- Shaders
-- ============================================================================

/-- `tritonShaderTokenBytes`. -/
def tritonShaderTokenBytes (pShaderCode : List UINT) : Except TokenFault Nat := do
  let declared ← readToken pShaderCode 1
  return declared.toNat * 4

/-- `TritonStageSigs`; a NULL array has no entries. -/
structure TritonStageSigs where
  pIn : List DdiEntry := []
  pOut : List DdiEntry := []
  pPatch : List DdiEntry := []
deriving DecidableEq

/-- `tritonUnpackSigs`: the third array is read for hull and domain shaders only. -/
def tritonUnpackSigs (pRaw : TritonStageSigs) (fTess : Bool) : TritonStageSigs :=
  { pRaw with pPatch := if fTess then pRaw.pPatch else [] }

/-- The arguments of a shader's create call, and the answers of the heap and the
    host. -/
structure CreateShaderArgs where
  kind : TritonShaderKind
  pShaderCode : List UINT
  pSigsRaw : TritonStageSigs
  heap : DxbcHeap
  /-- the answer of `tritonShaderCreateNative` -/
  native : Except HRESULT HostShader

/-- `tritonCreateShaderCommon` with the error it reports to the runtime. -/
def tritonCreateShaderCommon (pD : TritonDevice) (a : PrivateAddr) (args : CreateShaderArgs) :
    Except TokenFault (TritonDevice × Option HRESULT) := do
  let cookie := pD.nextShaderCookie + 1
  let s : TritonShader :=
    { kind := args.kind, pBytecode := none, cbBytecode := 0, pDeviceChild := none,
      cookie := cookie }
  let pD := { pD with nextShaderCookie := cookie }
  let cbTokens ← tritonShaderTokenBytes args.pShaderCode
  let sigs := tritonUnpackSigs args.pSigsRaw (args.kind = .hs || args.kind = .ds)
  if 4096 < sigs.pIn.length ∨ 4096 < sigs.pOut.length ∨ 4096 < sigs.pPatch.length then
    return (pD.write a (.shader s), some E_INVALIDARG)
  else do
    let pDxbc ←
      tritonBuildDxbc args.heap args.pShaderCode cbTokens sigs.pIn sigs.pOut sigs.pPatch
        pD.tritonSigStride
    match pDxbc with
    | none => return (pD.write a (.shader s), some E_OUTOFMEMORY)
    | some (bytes, cbDxbc) =>
        match args.native with
        | .ok child =>
            return (pD.write a (.shader { s with
              pBytecode := some bytes, cbBytecode := cbDxbc.toNat, pDeviceChild := some child }),
              none)
        | .error hr =>
            -- the container is freed again
            return (pD.write a (.shader s), some hr)

/-- `tritonDestroyShader`. -/
def tritonDestroyShader (pD : TritonDevice) (a : PrivateAddr) : Option TritonDevice := do
  let s ← pD.shaderAt a
  let pD := { pD with pCurrentVS := if pD.pCurrentVS = some a then none else pD.pCurrentVS }
  return pD.write a (.shader { s with pDeviceChild := none, pBytecode := none, cbBytecode := 0 })

-- ============================================================================
-- Element layouts
-- ============================================================================

/-- `tritonCreateElementLayout`; `fAlloc` is the answer of the heap. -/
def tritonCreateElementLayout (pD : TritonDevice) (a : PrivateAddr)
    (pVertexElements : List DdiElementDesc) (fAlloc : Bool) : TritonDevice × Option HRESULT :=
  let e : TritonElementLayout :=
    { pElements := none, numElements := pVertexElements.length, pLayout := none,
      layoutVsCookie := 0, pReconVS := none }
  if fAlloc then
    (pD.write a (.layout { e with pElements := some pVertexElements }), none)
  else (pD.write a (.layout { e with numElements := 0 }), some E_OUTOFMEMORY)

/-- `tritonDestroyElementLayout`. -/
def tritonDestroyElementLayout (pD : TritonDevice) (a : PrivateAddr) : Option TritonDevice := do
  let _ ← pD.layoutAt a
  let pD :=
    { pD with pCurrentLayout := if pD.pCurrentLayout = some a then none else pD.pCurrentLayout }
  return pD.write a (.layout
    { pElements := none, numElements := 0, pLayout := none, layoutVsCookie := 0, pReconVS := none })

-- ============================================================================
-- Resolution
-- ============================================================================

/-- `tritonUnbindReconVs`. -/
def tritonUnbindReconVs (pD : TritonDevice) : Option TritonDevice :=
  match pD.pBoundReconVS with
  | none => some pD
  | some _ =>
      let pD := { pD with pBoundReconVS := none }
      match pD.pCurrentVS with
      | none => some { pD with hostVS := none }
      | some va => do
          let vs ← pD.shaderAt va
          return { pD with hostVS := vs.pDeviceChild }

/-- The answers a resolution gets: the heap's, and the host's to `CreateInputLayout`. -/
structure ResolveAnswers where
  heap : DxbcHeap
  created : Option Nat
deriving DecidableEq

/-- Bind a layout, and its reconciled shader or else the application's. -/
def bindLayout (pD : TritonDevice) (e : TritonElementLayout) (vs : TritonShader) : TritonDevice :=
  { pD with
    hostLayout := e.pLayout
    hostVS := e.pReconVS.or vs.pDeviceChild
    pBoundReconVS := e.pReconVS }

/-- The condition of the cached path for a layout and a vertex shader. -/
def isCached (e : TritonElementLayout) (vs : TritonShader) : Bool :=
  e.pLayout.isSome && e.layoutVsCookie == vs.cookie

/-- The layout whose host object has been released. -/
def releasedLayout (e : TritonElementLayout) : TritonElementLayout :=
  { e with
    pLayout := none
    layoutVsCookie := if e.pLayout.isSome then 0 else e.layoutVsCookie
    pReconVS := none }

/-- The part of `tritonResolveInputLayout` behind the cached path, for the layout at
    `ea`. -/
def createLayout (pD : TritonDevice) (ea : PrivateAddr) (e : TritonElementLayout)
    (vs : TritonShader) (pElements : List DdiElementDesc) (pBytecode : List Byte)
    (answers : ResolveAnswers) : Option TritonDevice := do
  let e := releasedLayout e
  match ← inputLayoutRequest answers.heap pElements pBytecode vs.cbBytecode with
  | none => tritonUnbindReconVs (pD.write ea (.layout e))
  | some request =>
      match answers.created with
      | none =>
          tritonUnbindReconVs (pD.write ea (.layout { e with layoutVsCookie := 0 }))
      | some id =>
          let e :=
            { e with
              pLayout := some { id := id, request := request }
              layoutVsCookie := vs.cookie }
          return bindLayout (pD.write ea (.layout e)) e vs

/-- `tritonResolveInputLayout`. -/
def tritonResolveInputLayout (pD : TritonDevice) (answers : ResolveAnswers) :
    Option TritonDevice :=
  match pD.pCurrentLayout, pD.pCurrentVS with
  | some ea, some va => do
      let vs ← pD.shaderAt va
      match vs.pBytecode with
      | none => tritonUnbindReconVs pD
      | some pBytecode => do
          let e ← pD.layoutAt ea
          match e.pElements with
          | none => tritonUnbindReconVs pD
          | some pElements =>
              if e.numElements = 0 then tritonUnbindReconVs pD
              else if isCached e vs then some (bindLayout pD e vs)
              else createLayout pD ea e vs pElements pBytecode answers
  | _, _ => tritonUnbindReconVs pD

/-- The assignments of `tritonVsSetShader` before it resolves. -/
def setCurrentVS (pD : TritonDevice) (hShader : Option PrivateAddr) : Option TritonDevice := do
  let child ←
    match hShader with
    | none => some none
    | some a => (pD.shaderAt a).map TritonShader.pDeviceChild
  return { pD with hostVS := child, pBoundReconVS := none, pCurrentVS := hShader }

/-- `tritonVsSetShader`. -/
def tritonVsSetShader (pD : TritonDevice) (hShader : Option PrivateAddr)
    (answers : ResolveAnswers) : Option TritonDevice := do
  let pD ← setCurrentVS pD hShader
  tritonResolveInputLayout pD answers

/-- `tritonIaSetInputLayout`. -/
def tritonIaSetInputLayout (pD : TritonDevice) (hLayout : Option PrivateAddr)
    (answers : ResolveAnswers) : Option TritonDevice :=
  let pD := { pD with pCurrentLayout := hLayout }
  if hLayout.isSome && pD.pCurrentVS.isSome then tritonResolveInputLayout pD answers
  else tritonUnbindReconVs { pD with hostLayout := none }

end VirtioWddm
