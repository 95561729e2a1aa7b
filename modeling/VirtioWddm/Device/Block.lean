/-
  VirtioWddm.Device.Block

  The device block with the objects it owns, and `virtio_wddm_destroy_device`.

  An owning pointer or handle is a `DeviceVar`: a field of the block or a local of
  CreateDevice.  Each acquisition and release of an object is recorded under the
  variable it goes through.
-/

import Mathlib.Logic.Function.Basic
import VirtioWddm.Ddi.Basic
import VirtioWddm.Lib.Account

namespace VirtioWddm

open Lib

-- ============================================================================
-- Variables and objects
-- ============================================================================

/-- The pointers and handles that own an object, in the order in which CreateDevice
    sets them. -/
inductive DeviceVar where
  | vulkan
  | icd
  | extensionProps
  | extensionNames
  | vkInst
  | factory
  | adapter
  | d3d11Device
  | d3d11Context
  | pDev1
  | pDev2
  | pDev3
  | pDev5
  | pCtx1
  | pCtx2
  | pCtx3
  | pCtx4
  | pPresentFence
  | presentContext
  | pagingQueue
deriving DecidableEq

/-- The locals of CreateDevice; every other variable is a field of the block. -/
def DeviceVar.isLocal : DeviceVar → Bool
  | .extensionProps | .extensionNames | .factory | .d3d11Device | .d3d11Context => true
  | _ => false

/-- The place in the order of release: what needs the instance, the instance, and the
    libraries it is in. -/
def DeviceVar.rank : DeviceVar → Nat
  | .vkInst => 1
  | .vulkan | .icd => 2
  | _ => 0

/-- An object, or a reference to one, acquired through a variable. -/
structure DeviceObject where
  var : DeviceVar
  id : Nat
deriving DecidableEq

/-- The Vulkan functions of the block. -/
inductive VkProc where
  | getPhysicalDeviceMemoryProperties2
  | destroyInstance
  | allocateMemory
  | freeMemory
  | createImage
  | destroyImage
  | bindImageMemory2
  | getImageMemoryRequirements2
  | getImageSubresourceLayout
  | getMemoryWin32HandleKHR
deriving DecidableEq

/-- The other fields of `VIRTIO_WDDM_Device` that CreateDevice sets; all zero after
    `memset`. -/
structure DeviceBlock where
  featureLevel : UINT := 0
  /-- which of the function pointers are not NULL -/
  procs : VkProc → Bool := fun _ => false
  vkPhys : Option Nat := none
  vk : Option Nat := none
  presentFenceValue : UINT64 := 0
  pagingSyncObject : D3DKMT_HANDLE := 0
  pagingFenceValue : UINT64 := 0

-- ============================================================================
-- The state
-- ============================================================================

/-- One interaction with the libraries, the host stack, the kernel or the heap. -/
inductive DeviceEvent where
  | acquired (o : DeviceObject)
  | released (o : DeviceObject)
  | flushed (pCtx1 : Nat)
deriving DecidableEq

/-- What an event does to objects. -/
def DeviceEvent.action : DeviceEvent → Option (Action DeviceObject)
  | .acquired o => some (.acquire o)
  | .released o => some (.release o)
  | .flushed _ => none

/-- The variables (NULL is `none`), the rest of the block, and the events so far. -/
structure DeviceState where
  vars : DeviceVar → Option Nat := fun _ => none
  block : DeviceBlock := {}
  /-- `failed_device` is not NULL -/
  failedDevice : Bool := false
  trace : List DeviceEvent := []

namespace DeviceState

/-- The objects acquired and released so far. -/
def actions (s : DeviceState) : List (Action DeviceObject) :=
  s.trace.filterMap DeviceEvent.action

/-- How often an object is owned. -/
def held (s : DeviceState) (o : DeviceObject) : Nat :=
  if s.vars o.var = some o.id then 1 else 0

/-- An object was acquired and is stored in a variable. -/
def acquire (s : DeviceState) (x : DeviceVar) (id : Nat) : DeviceState :=
  { s with
    vars := Function.update s.vars x (some id)
    trace := s.trace ++ [.acquired ⟨x, id⟩] }

/-- The object of a variable is released unless the variable is NULL, which it is
    afterwards. -/
def release (s : DeviceState) (x : DeviceVar) : DeviceState :=
  match s.vars x with
  | none => s
  | some id =>
      { s with
        vars := Function.update s.vars x none
        trace := s.trace ++ [.released ⟨x, id⟩] }

/-- `memset(device, 0, sizeof(*device))`. -/
def memset (s : DeviceState) : DeviceState :=
  { s with
    vars := fun x => if x.isLocal then s.vars x else none
    block := {} }

/-- Every field of the block is zero. -/
def Zeroed (s : DeviceState) : Prop :=
  (∀ x, x.isLocal = false → s.vars x = none) ∧ s.block = {}

end DeviceState

-- ============================================================================
-- DestroyDevice
-- ============================================================================

/-- `ID3D11DeviceContext1_Flush` on the context, if there is one. -/
def flushContext1 (s : DeviceState) : DeviceState :=
  match s.vars .pCtx1 with
  | none => s
  | some id => { s with trace := s.trace ++ [.flushed id] }

/-- `RELEASE_CONTEXT` for the four versions. -/
def releaseContexts (s : DeviceState) : DeviceState :=
  (((s.release .pCtx1).release .pCtx2).release .pCtx3).release .pCtx4

/-- `RELEASE_DEVICE` for the four versions. -/
def releaseDevices (s : DeviceState) : DeviceState :=
  (((s.release .pDev1).release .pDev2).release .pDev3).release .pDev5

/-- `vkDestroyInstance`, if there is an instance and the function was resolved. -/
def destroyInstance (s : DeviceState) : DeviceState :=
  if s.block.procs .destroyInstance then s.release .vkInst else s

/-- `virtio_wddm_destroy_device`. -/
def virtioWddmDestroyDevice (s : DeviceState) : DeviceState :=
  let s := s.release .pPresentFence
  let s := flushContext1 s
  let s := releaseContexts s
  let s := releaseDevices s
  let s := s.release .pagingQueue
  let s := s.release .presentContext
  let s := s.release .adapter
  let s := destroyInstance s
  let s := s.release .vulkan
  let s := s.release .icd
  s.memset

/-- `cleanup_failed_device`. -/
def cleanupFailedDevice (s : DeviceState) : DeviceState :=
  if s.failedDevice then virtioWddmDestroyDevice s else s

-- ============================================================================
-- Simple facts
-- ============================================================================

namespace DeviceState

@[simp] theorem actions_acquire (s : DeviceState) (x : DeviceVar) (id : Nat) :
    (s.acquire x id).actions = s.actions ++ [.acquire ⟨x, id⟩] :=
  List.filterMap_append ..

@[simp] theorem vars_acquire_self (s : DeviceState) (x : DeviceVar) (id : Nat) :
    (s.acquire x id).vars x = some id := by
  show Function.update s.vars x (some id) x = some id
  rw [Function.update_self]

theorem vars_acquire_of_ne (s : DeviceState) {x y : DeviceVar} (h : y ≠ x) (id : Nat) :
    (s.acquire x id).vars y = s.vars y := by
  show Function.update s.vars x (some id) y = s.vars y
  rw [Function.update_of_ne h]

theorem release_none {s : DeviceState} {x : DeviceVar} (h : s.vars x = none) :
    s.release x = s := by
  rw [release, h]

theorem actions_release {s : DeviceState} {x : DeviceVar} {id : Nat} (h : s.vars x = some id) :
    (s.release x).actions = s.actions ++ [.release ⟨x, id⟩] := by
  rw [release, h]
  exact List.filterMap_append ..

@[simp] theorem vars_release_self (s : DeviceState) (x : DeviceVar) :
    (s.release x).vars x = none := by
  rw [release]
  split
  case h_1 hnone => exact hnone
  case h_2 id hsome =>
    show Function.update s.vars x none x = none
    rw [Function.update_self]

theorem vars_release_of_ne (s : DeviceState) {x y : DeviceVar} (h : y ≠ x) :
    (s.release x).vars y = s.vars y := by
  rw [release]
  split
  case h_1 => rfl
  case h_2 id hsome =>
    show Function.update s.vars x none y = s.vars y
    rw [Function.update_of_ne h]

/-- What a release leaves was there before. -/
theorem vars_of_release {s : DeviceState} {x y : DeviceVar} {id : Nat}
    (h : (s.release x).vars y = some id) : y ≠ x ∧ s.vars y = some id := by
  have hne : y ≠ x := by
    rintro rfl
    rw [vars_release_self] at h
    cases h
  exact ⟨hne, by rw [← vars_release_of_ne s hne]; exact h⟩

@[simp] theorem block_release (s : DeviceState) (x : DeviceVar) :
    (s.release x).block = s.block := by
  rw [release]
  split
  case h_1 => rfl
  case h_2 => rfl

@[simp] theorem failedDevice_release (s : DeviceState) (x : DeviceVar) :
    (s.release x).failedDevice = s.failedDevice := by
  rw [release]
  split
  case h_1 => rfl
  case h_2 => rfl

end DeviceState

end VirtioWddm
