/-
  VirtioWddm.Device.Trace

  What a driver call does to the outside world, and the state it runs in.

  Every callback, Vulkan call and host call a modelled function makes leaves one
  event with its arguments and its outcome.  The state of a call is the part of
  the thread's storage it can see: the two thread-local slots of the runtime
  allocator, and the events so far.
-/

import VirtioWddm.Ddi.Types
import VirtioWddm.Lib.Runs
import VirtioWddm.Lib.Ledger
import Mathlib.Control.Monad.Basic

namespace VirtioWddm

-- ============================================================================
-- Kernel callbacks
-- ============================================================================

/-- `D3DDDICB_ALLOCATE` with its single `D3DDDI_ALLOCATIONINFO2`. -/
structure AllocateArgs where
  hResource : HANDLE
  payload : AllocationPayload
  primary : Bool
deriving DecidableEq

/-- What `pfnAllocateCb` answers: the result code and the two handles it fills
    in. -/
structure AllocateReply where
  hr : HRESULT := S_OK
  hKMResource : D3DKMT_HANDLE := 0
  hAllocation : D3DKMT_HANDLE := 0
deriving DecidableEq

/-- `D3DDDICB_DEALLOCATE`: with `NumAllocations = 0` every allocation of
    `hResource`, otherwise the one in `HandleList`. -/
inductive DeallocateTarget where
  | resource (hResource : HANDLE)
  | allocation (hAllocation : D3DKMT_HANDLE)
deriving DecidableEq

-- ============================================================================
-- Runtime allocator interface
-- ============================================================================

/-- `VIRTIO_WDDM_RuntimeAllocRequest`. -/
structure RuntimeAllocRequest where
  blobId : UINT64 := 0
  size : UINT64 := 0
  mem : UINT := 0
  flags : UINT := 0
  hRTResource : HANDLE := 0
  sourceAllocation : D3DKMT_HANDLE := 0
deriving DecidableEq

/-- `VIRTIO_WDDM_RuntimeAllocResult`. -/
structure RuntimeAllocResult where
  hAllocation : D3DKMT_HANDLE := 0
  hKMResource : D3DKMT_HANDLE := 0
deriving DecidableEq

/-- `VIRTIO_WDDM_RuntimeAllocRecord`; all zero when cleared. -/
structure RuntimeAllocRecord where
  hRTResource : HANDLE := 0
  hAllocation : D3DKMT_HANDLE := 0
  hKMResource : D3DKMT_HANDLE := 0
deriving DecidableEq

/-- `VIRTIO_WDDM_RuntimeAllocScope`. -/
structure RuntimeAllocScope where
  hRTResource : HANDLE := 0
  primary : Bool := false
  primaryDesc : PrimaryDesc := {}
deriving DecidableEq

-- ============================================================================
-- Events
-- ============================================================================

/-- The description a host creation call receives on the plain path. -/
inductive HostResourceDesc where
  | texture1d (width mipLevels arraySize : UINT) (format : DxgiFormat) (usage : D3D11Usage)
      (bindFlags cpuAccessFlags miscFlags : UINT)
  | texture2d (desc : Texture2DDesc1)
  | texture3d (width height depth mipLevels : UINT) (format : DxgiFormat) (usage : D3D11Usage)
      (bindFlags cpuAccessFlags miscFlags : UINT)
  | buffer (byteWidth : UINT) (usage : D3D11Usage) (bindFlags cpuAccessFlags miscFlags : UINT)
      (structureByteStride : UINT)
deriving DecidableEq

/-- What a host creation or import call answers: the result code and the object
    pointer it leaves. -/
structure HostReply where
  hr : HRESULT := S_OK
  object : Option HostResource := none
deriving DecidableEq

/-- One interaction of a driver call with the outside world. -/
inductive Event where
  | initDataAllocated (data : List SubresourceData)
  | initDataFreed
  | allocateCb (args : AllocateArgs) (reply : AllocateReply)
  | deallocateCb (target : DeallocateTarget) (hr : HRESULT)
  | resourceInfoEscape (handle : D3DKMT_HANDLE) (hr : HRESULT)
  | blobInfoEscape (set : BlobInfoSet) (hr : HRESULT)
  | makeResidentCb (allocation : D3DKMT_HANDLE) (hr : HRESULT)
  | waitForFence (hr : HRESULT)
  | runtimeAlloc (req : Option RuntimeAllocRequest) (result : Except Int RuntimeAllocResult)
  | runtimeFree (alloc : Option RuntimeAllocResult) (result : Int)
  | createImage (info : VkImageCreateInfo) (result : Except VkError VkImage)
  | destroyImage (image : VkImage)
  | allocateMemory (info : VkMemoryAllocateInfo) (result : Except VkError VkDeviceMemory)
  | freeMemory (memory : VkDeviceMemory)
  | bindImageMemory (image : VkImage) (memory : VkDeviceMemory) (result : Except VkError Unit)
  | getMemoryWin32Handle (memory : VkDeviceMemory) (result : Except VkError D3DKMT_HANDLE)
  | importTexture (desc : Texture2DDesc1) (image : Option VkImage) (reply : HostReply)
  | createHostResource (desc : HostResourceDesc) (init : Option (List SubresourceData))
      (reply : HostReply)
  | updateSubresource (resource : HostResource) (index : Nat) (data : SubresourceData)
  | releaseHostResource (resource : HostResource)
  | setError (hr : HRESULT)
deriving DecidableEq

-- ============================================================================
-- The state of a call
-- ============================================================================

/-- The thread-local slots `virtio_wddm_last_runtime_alloc` and
    `virtio_wddm_runtime_alloc_scope`, and the events of the call so far. -/
structure CallState where
  lastRuntimeAlloc : RuntimeAllocRecord := {}
  runtimeAllocScope : RuntimeAllocScope := {}
  trace : List Event := []
deriving DecidableEq

/-- A driver call, or a part of one. -/
abbrev Call := Lib.Comp Fault CallState

/-- The state after events that leave the thread-local slots alone. -/
def CallState.log (s : CallState) (events : List Event) : CallState :=
  { s with trace := s.trace ++ events }

@[simp] theorem CallState.log_lastRuntimeAlloc (s : CallState) (evs : List Event) :
    (s.log evs).lastRuntimeAlloc = s.lastRuntimeAlloc := rfl

@[simp] theorem CallState.log_runtimeAllocScope (s : CallState) (evs : List Event) :
    (s.log evs).runtimeAllocScope = s.runtimeAllocScope := rfl

@[simp] theorem CallState.log_trace (s : CallState) (evs : List Event) :
    (s.log evs).trace = s.trace ++ evs := rfl

@[simp] theorem CallState.log_nil (s : CallState) : s.log [] = s := by
  simp [CallState.log]

@[simp] theorem CallState.log_log (s : CallState) (evs evs' : List Event) :
    (s.log evs).log evs' = s.log (evs ++ evs') := by
  simp [CallState.log, List.append_assoc]

/-- Only events with property `P` were added between the two states. -/
def Grows (P : Event → Prop) (s s' : CallState) : Prop :=
  ∃ evs, s'.trace = s.trace ++ evs ∧ ∀ e ∈ evs, P e

section Grows

variable {P : Event → Prop}

theorem Grows.refl (s : CallState) : Grows P s s :=
  ⟨[], by simp, by simp⟩

theorem Grows.trans {s t u : CallState} (h₁ : Grows P s t) (h₂ : Grows P t u) :
    Grows P s u := by
  obtain ⟨evs₁, ht, h₁⟩ := h₁
  obtain ⟨evs₂, hu, h₂⟩ := h₂
  refine ⟨evs₁ ++ evs₂, by rw [hu, ht, List.append_assoc], ?_⟩
  intro e he
  exact (List.mem_append.mp he).elim (h₁ e) (h₂ e)

theorem Grows.log {s : CallState} {evs : List Event} (h : ∀ e ∈ evs, P e) :
    Grows P s (s.log evs) :=
  ⟨evs, rfl, h⟩

theorem Grows.mono {Q : Event → Prop} {s s' : CallState} (h : Grows P s s')
    (hPQ : ∀ e, P e → Q e) : Grows Q s s' := by
  obtain ⟨evs, heq, hevs⟩ := h
  exact ⟨evs, heq, fun e he => hPQ e (hevs e he)⟩

/-- An event the growth rules out was there before. -/
theorem Grows.mem_iff {s s' : CallState} (h : Grows P s s') {e : Event} (he : ¬P e) :
    e ∈ s'.trace ↔ e ∈ s.trace := by
  obtain ⟨evs, heq, hevs⟩ := h
  rw [heq, List.mem_append]
  exact ⟨fun hmem => hmem.resolve_right fun hnew => he (hevs e hnew), .inl⟩

/-- A projection the growth is blind to does not change. -/
theorem Grows.filterMap_eq {β : Type} {f : Event → Option β} {s s' : CallState}
    (h : Grows P s s') (hf : ∀ e, P e → f e = none) :
    s'.trace.filterMap f = s.trace.filterMap f := by
  obtain ⟨evs, heq, hevs⟩ := h
  rw [heq, List.filterMap_append,
    List.filterMap_eq_nil_iff.mpr fun e he => hf e (hevs e he), List.append_nil]

end Grows

/-- The events between two states of a call. -/
def callEvents (s s' : CallState) : List Event :=
  s'.trace.drop s.trace.length

theorem callEvents_eq {s s' : CallState} {evs : List Event} (h : s'.trace = s.trace ++ evs) :
    callEvents s s' = evs := by
  rw [callEvents, h, List.drop_left]

theorem Grows.callEvents {P : Event → Prop} {s s' : CallState} (h : Grows P s s') :
    s'.trace = s.trace ++ callEvents s s' ∧ ∀ e ∈ callEvents s s', P e := by
  obtain ⟨evs, heq, hevs⟩ := h
  rw [callEvents_eq heq]
  exact ⟨heq, hevs⟩

/-- Record one event. -/
def emit (e : Event) : Call Unit :=
  modify fun s => s.log [e]

/-- `tritonSetError`: report an error to the runtime. -/
def tritonSetError (hr : HRESULT) : Call Unit :=
  emit (.setError hr)

/-- `ASSERT(expr)` inside a call. -/
def assertCall (cond : Bool) (expr : String) : Call Unit :=
  if cond then pure () else Lib.Comp.fault (.assertFailed expr)

/-- The event reports an error to the runtime. -/
def Event.isSetError : Event → Bool
  | .setError _ => true
  | _ => false

/-- A trace without reports, checked event by event. -/
theorem no_error_of_all {trace : List Event} (h : (trace.all fun e => !e.isSetError) = true)
    (hr : HRESULT) : .setError hr ∉ trace := by
  intro hmem
  have := List.all_eq_true.mp h _ hmem
  simp [Event.isSetError] at this

section Runs

open Lib

@[simp] theorem runs_emit {e : Event} {s s' : CallState} {u : Unit} :
    Runs (emit e) s u s' ↔ s' = s.log [e] :=
  runs_modify

@[simp] theorem runs_tritonSetError {hr : HRESULT} {s s' : CallState} {u : Unit} :
    Runs (tritonSetError hr) s u s' ↔ s' = s.log [.setError hr] :=
  runs_emit

@[simp] theorem runs_assertCall {cond : Bool} {expr : String} {s s' : CallState} {u : Unit} :
    Runs (assertCall cond expr) s u s' ↔ cond = true ∧ s' = s := by
  unfold assertCall
  cases cond <;> simp

theorem total_emit (e : Event) : Total (emit e) :=
  Total.modify _

end Runs

end VirtioWddm
