/-
  VirtioWddm.Device.Env

  What the outside world answers during one resource call, and the small helpers
  of `resource.c` and `tritonResource.c` that only relay those answers.
-/

import VirtioWddm.Resource.SharedImage

namespace VirtioWddm

open Lib

/-- What `pfnEscapeCb` answers to a RESOURCE_INFO escape. -/
structure ResourceInfoReply where
  hr : HRESULT
  id : UINT
  info : AllocationInfo
deriving DecidableEq

/-- The answers one CreateResource, OpenResource or DestroyResource call gets from
    the kernel callbacks, Vulkan, the host and the heap, with the capset mask of
    its adapter.  Each callback is made at most once in such a call. -/
structure DeviceEnv where
  supportedCapsets : UINT64
  heapOk : Bool
  allocate : AllocateReply
  resourceInfo : ResourceInfoReply
  deallocateHr : HRESULT
  makeResidentHr : HRESULT
  waitHr : HRESULT
  blobInfoHr : HRESULT
  vk : VkEnv
  importTexture : HostReply
  createHostResource : HostReply

/-- `query_resource_info`: the id and the info of the reply, or the failing
    code. -/
def queryResourceInfo (env : DeviceEnv) (alloc : D3DKMT_HANDLE) :
    Call (Except HRESULT (UINT × AllocationInfo)) := do
  emit (.resourceInfoEscape alloc env.resourceInfo.hr)
  if failed env.resourceInfo.hr then
    return .error env.resourceInfo.hr
  return .ok (env.resourceInfo.id, env.resourceInfo.info)

/-- `make_resource_resident`. -/
def makeResourceResident (env : DeviceEnv) (allocation : D3DKMT_HANDLE) : Call HRESULT := do
  emit (.makeResidentCb allocation env.makeResidentHr)
  if env.makeResidentHr = E_PENDING then do
    emit (.waitForFence env.waitHr)
    return env.waitHr
  return env.makeResidentHr

/-- The loop that fills `VkSubresourceLayout planes[4]` from index `i` on, `n`
    entries still to go. -/
def fillPlanes (offsets : Vector UINT64 4) (strides : Vector UINT 4) :
    Nat → Nat → Call (List VkSubresourceLayout)
  | 0, _ => pure []
  | n + 1, i =>
      if h : i < 4 then do
        let rest ← fillPlanes offsets strides n (i + 1)
        return { offset := offsets[i], rowPitch := strides[i].zeroExtend 64 } :: rest
      else
        Comp.fault (.indexOutOfBounds "planes" i)

/-- With at most four planes the loop stays inside its arrays and touches nothing
    else. -/
theorem runs_fillPlanes {offsets : Vector UINT64 4} {strides : Vector UINT 4} {n i : Nat}
    {s : CallState} (h : i + n ≤ 4) :
    ∃ planes, Runs (fillPlanes offsets strides n i) s planes s := by
  induction n generalizing i with
  | zero => exact ⟨[], rfl⟩
  | succ n ih =>
      have hlt : (i + 1) + n ≤ 4 := by omega
      obtain ⟨rest, hrest⟩ := ih hlt
      refine ⟨{ offset := offsets[i], rowPitch := strides[i].zeroExtend 64 } :: rest, ?_⟩
      rw [fillPlanes, dif_pos (by omega)]
      exact runs_bind.mpr ⟨rest, s, hrest, rfl⟩

/-- The loop never changes the state of the call. -/
theorem runs_fillPlanes_state {offsets : Vector UINT64 4} {strides : Vector UINT 4} {n i : Nat}
    {s s' : CallState} {planes : List VkSubresourceLayout}
    (h : Runs (fillPlanes offsets strides n i) s planes s') : s' = s := by
  induction n generalizing i planes with
  | zero => exact (runs_pure.mp h).2
  | succ n ih =>
      rw [fillPlanes] at h
      split at h
      · obtain ⟨rest, s₁, hrest, hpure⟩ := runs_bind.mp h
        obtain ⟨-, rfl⟩ := runs_pure.mp hpure
        exact ih hrest
      · exact (runs_fault.mp h).elim

-- ============================================================================
-- A device that answers every call
-- ============================================================================

/-- A Vulkan device on which every call succeeds and `vkAllocateMemory` calls
    `hooks`. -/
def VkEnv.allOk (hooks : List HookCall) : VkEnv :=
  { createImage := .ok ⟨1⟩
    memoryRequirements := { size := 0x10000#64, memoryTypeBits := 1#32 }
    memoryTypes := [0#32]
    allocateMemory := .ok ⟨1⟩
    bindImageMemory := .ok ()
    getMemoryWin32Handle := none
    subresourceLayout := { offset := 0#64, rowPitch := 0x1000#64 }
    hooks := fun site => if site = .allocateMemory then hooks else [] }

/-- A device on which every call succeeds, with a native-context adapter when
    `drm` is set. -/
def DeviceEnv.allOk (drm : Bool) (info : AllocationInfo) (hooks : List HookCall) : DeviceEnv :=
  { supportedCapsets := if drm then 0x40#64 else 0#64
    heapOk := true
    allocate := { hr := S_OK, hKMResource := 0x20#32, hAllocation := 0x21#32 }
    resourceInfo := { hr := S_OK, id := 7#32, info := info }
    deallocateHr := S_OK
    makeResidentHr := S_OK
    waitHr := S_OK
    blobInfoHr := S_OK
    vk := .allOk hooks
    importTexture := { hr := S_OK, object := some ⟨1⟩ }
    createHostResource := { hr := S_OK, object := some ⟨1⟩ } }

end VirtioWddm
