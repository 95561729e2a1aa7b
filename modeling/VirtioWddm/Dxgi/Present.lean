/-
  VirtioWddm.Dxgi.Present

  The entry points of `dxgi.c` that put a resource on the screen: Present, Blt and
  SetDisplayMode, with the fence synchronisation the first two share.
-/

import VirtioWddm.Ddi.Types
import VirtioWddm.Lib.Runs

namespace VirtioWddm

open Lib

-- ============================================================================
-- What a call sees
-- ============================================================================

/-- `HRESULT_FROM_WIN32`. -/
def hresultFromWin32 (error : UINT) : HRESULT :=
  if error = 0 ∨ error.msb = true then error
  else error &&& 0x0000FFFF#32 ||| 0x80070000#32

def WAIT_OBJECT_0 : UINT := 0#32

/-- The answers one call gets from the host context, the operating system and the
    runtime; `createEvent` is the code of `GetLastError` when there is no event. -/
structure DxgiEnv where
  signalHr : HRESULT
  createEvent : Except UINT Unit
  setEventHr : HRESULT
  wait : UINT
  presentHr : HRESULT
  setDisplayModeHr : HRESULT

/-- `D3D11_BOX`. -/
structure D3D11Box where
  left : UINT
  top : UINT
  front : UINT
  right : UINT
  bottom : UINT
  back : UINT
deriving DecidableEq

/-- One interaction of a call with the outside world. -/
inductive DxgiEvent where
  | resolveSubresource (dst : Option HostResource) (dstSubresource : UINT)
      (src : Option HostResource) (srcSubresource : UINT) (format : DxgiFormat)
  | copySubresourceRegion (dst : Option HostResource) (dstSubresource dstX dstY : UINT)
      (src : Option HostResource) (srcSubresource : UINT) (box : D3D11Box)
  | signal (value : UINT64) (hr : HRESULT)
  | flush
  | createEvent (result : Except UINT Unit)
  | setEventOnCompletion (value : UINT64) (hr : HRESULT)
  | waitForSingleObject (milliseconds : UINT) (result : UINT)
  | closeHandle
  | presentCb (hSrcAllocation : D3DKMT_HANDLE) (hr : HRESULT)
  | setDisplayModeCb (hPrimaryAllocation : D3DKMT_HANDLE) (hr : HRESULT)

/-- The member of the device a call changes, and the events of the call so far. -/
structure DxgiState where
  presentFenceValue : UINT64
  trace : List DxgiEvent := []

abbrev DxgiCall := Comp Fault DxgiState

def emitDxgi (e : DxgiEvent) : DxgiCall Unit :=
  modify fun s => { s with trace := s.trace ++ [e] }

/-- `ASSERT(expr)`. -/
def assertDxgi (cond : Bool) (expr : String) : DxgiCall Unit :=
  if cond then pure () else Comp.fault (.assertFailed expr)

-- ============================================================================
-- The entry points
-- ============================================================================

/-- `virtio_wddm_sync_with_present_context`. -/
def virtioWddmSyncWithPresentContext (env : DxgiEnv) : DxgiCall HRESULT := do
  let value := (← get).presentFenceValue
  modify fun s => { s with presentFenceValue := s.presentFenceValue + 1 }
  emitDxgi (.signal value env.signalHr)
  if failed env.signalHr then
    return env.signalHr
  emitDxgi .flush
  emitDxgi (.createEvent env.createEvent)
  match env.createEvent with
  | .error lastError => return hresultFromWin32 lastError
  | .ok _ => do
      emitDxgi (.setEventOnCompletion value env.setEventHr)
      if failed env.setEventHr then do
        emitDxgi .closeHandle
        return env.setEventHr
      emitDxgi (.waitForSingleObject 10000 env.wait)
      emitDxgi .closeHandle
      if env.wait ≠ WAIT_OBJECT_0 then
        return E_FAIL
      return S_OK

/-- `virtio_wddm_present`; `src` is `hSurfaceToPresent`. -/
def virtioWddmPresent (env : DxgiEnv) (src : VirtioWddmResource) (hDstResource : HANDLE) :
    DxgiCall HRESULT := do
  assertDxgi (hDstResource == 0) "pArgs->hDstResource == 0"
  assertDxgi (src.base.hKMAllocation != 0) "src->base.hKMAllocation != 0"
  let hr ← virtioWddmSyncWithPresentContext env
  if failed hr then
    return hr
  emitDxgi (.presentCb src.base.hKMAllocation env.presentHr)
  if failed env.presentHr then
    return env.presentHr
  return S_OK

/-- `virtio_wddm_set_display_mode`. -/
def virtioWddmSetDisplayMode (env : DxgiEnv) (resource : VirtioWddmResource) :
    DxgiCall HRESULT := do
  assertDxgi (resource.base.hKMAllocation != 0) "resource->base.hKMAllocation != 0"
  assertDxgi resource.base.isPresentable "resource->base.IsPresentable"
  emitDxgi (.setDisplayModeCb resource.base.hKMAllocation env.setDisplayModeHr)
  if failed env.setDisplayModeHr then
    return env.setDisplayModeHr
  return S_OK

/-- `DXGI_DDI_ARG_BLT1` with its flags. -/
structure Blt1Args where
  dstSubresource : UINT
  dstLeft : UINT
  dstTop : UINT
  srcSubresource : UINT
  srcLeft : UINT
  srcTop : UINT
  srcRight : UINT
  srcBottom : UINT
  flagResolve : Bool
  flagConvert : Bool
  flagStretch : Bool
  flagPresent : Bool
  rotateIdentity : Bool

/-- `virtio_wddm_blt1`; the `TODO` of its third branch aborts as an assertion
    does. -/
def virtioWddmBlt1 (env : DxgiEnv) (pArgs : Blt1Args) (dst src : VirtioWddmResource) :
    DxgiCall HRESULT := do
  assertDxgi pArgs.rotateIdentity "pArgs->Rotate == DXGI_DDI_MODE_ROTATION_IDENTITY"
  if pArgs.flagResolve then
    emitDxgi (.resolveSubresource dst.base.pResource pArgs.dstSubresource src.base.pResource
      pArgs.srcSubresource dst.base.format)
  if pArgs.flagStretch || pArgs.flagConvert then
    Comp.fault (.assertFailed "Stretch/shrink or convert format")
  else
    emitDxgi (.copySubresourceRegion dst.base.pResource pArgs.dstSubresource pArgs.dstLeft
      pArgs.dstTop src.base.pResource pArgs.srcSubresource
      { left := pArgs.srcLeft
        top := pArgs.srcTop
        front := 0
        right := pArgs.srcRight
        bottom := pArgs.srcBottom
        back := 1 })
  if pArgs.flagPresent then do
    let hr ← virtioWddmSyncWithPresentContext env
    if failed hr then
      return hr
  return S_OK

/-- `virtio_wddm_blt`: `virtio_wddm_blt1` on the whole source. -/
def virtioWddmBlt (env : DxgiEnv) (pArgs : Blt1Args) (dst src : VirtioWddmResource) :
    DxgiCall HRESULT :=
  virtioWddmBlt1 env
    { pArgs with
      srcLeft := 0
      srcTop := 0
      srcRight := src.base.width
      srcBottom := src.base.height } dst src

-- ============================================================================
-- Calls that return
-- ============================================================================

theorem total_emitDxgi (e : DxgiEvent) : Total (emitDxgi e) :=
  Total.modify _

theorem total_assertDxgi {cond : Bool} (expr : String) (h : cond = true) :
    Total (assertDxgi cond expr) := by
  rw [assertDxgi, if_pos h]
  exact .pure ()

/-- The synchronisation returns, whatever the host answers. -/
theorem total_virtioWddmSyncWithPresentContext (env : DxgiEnv) :
    Total (virtioWddmSyncWithPresentContext env) := by
  refine total_get.bind fun s => (Total.modify _).bind fun _ => (total_emitDxgi _).bind fun _ => ?_
  refine .ite (fun _ => .pure _) fun _ => ?_
  refine (total_emitDxgi _).bind fun _ => (total_emitDxgi _).bind fun _ => ?_
  cases env.createEvent with
  | error lastError => exact .pure _
  | ok _ =>
      refine (total_emitDxgi _).bind fun _ => .ite (fun _ => ?_) fun _ => ?_
      · exact (total_emitDxgi _).bind fun _ => .pure _
      · refine (total_emitDxgi _).bind fun _ => (total_emitDxgi _).bind fun _ => ?_
        exact .ite (fun _ => .pure _) fun _ => .pure _

/-- Neither assertion of Present fires on a resource that records an
    allocation. -/
theorem total_virtioWddmPresent (env : DxgiEnv) {src : VirtioWddmResource}
    (hsrc : src.base.hKMAllocation ≠ 0) : Total (virtioWddmPresent env src 0) := by
  refine (total_assertDxgi _ rfl).bind fun _ => ?_
  refine (total_assertDxgi _ (by simpa using hsrc)).bind fun _ => ?_
  refine (total_virtioWddmSyncWithPresentContext env).bind fun hr => .ite (fun _ => .pure _) ?_
  intro _
  exact (total_emitDxgi _).bind fun _ => .ite (fun _ => .pure _) fun _ => .pure _

/-- SetDisplayMode on a presentable resource with an allocation hands that
    allocation to the kernel, once. -/
theorem runs_virtioWddmSetDisplayMode {env : DxgiEnv} {resource : VirtioWddmResource}
    {s s' : DxgiState} {hr : HRESULT} :
    Runs (virtioWddmSetDisplayMode env resource) s hr s' ↔
      resource.base.hKMAllocation ≠ 0 ∧ resource.base.isPresentable = true ∧
      hr = (if failed env.setDisplayModeHr then env.setDisplayModeHr else S_OK) ∧
      s' = { s with
        trace := s.trace ++
          [.setDisplayModeCb resource.base.hKMAllocation env.setDisplayModeHr] } := by
  by_cases hne : resource.base.hKMAllocation = 0 <;>
    cases hp : resource.base.isPresentable <;>
      by_cases hf : failed env.setDisplayModeHr = true <;>
        simp [virtioWddmSetDisplayMode, assertDxgi, emitDxgi, hne, hp, hf]

end VirtioWddm
