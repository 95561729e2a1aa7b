/-
  VirtioWddm.Device.CreateDevice

  `virtio_wddm_create_device`: its exits, its scopes and the answers it gets.

  The function is cut here into the stretches between its comments, in their order; an
  early `return` leaves all of it.  A scope with a `cleanup` attribute is an `atExit`.
-/

import VirtioWddm.Device.Block
import VirtioWddm.Lib.Flags
import VirtioWddm.Lib.Scope

namespace VirtioWddm

open Lib

-- ============================================================================
-- Answers
-- ============================================================================

/-- A code with `FAILED(hr)`. -/
abbrev FailedHr := { hr : HRESULT // failed hr = true }

/-- What a COM or kernel call answers; one that fails sets no out-object. -/
abbrev Answer (α : Type) := Except FailedHr α

/-- The steps of `load_icd`: the module of the driver, its path, the new path, and the
    load. -/
structure LoaderAnswers where
  umdModule : Bool
  lastSlash : Bool
  copied : String → Bool
  loadLibrary : String → Option Nat

/-- The values of `D3D11DDI_3DPIPELINELEVEL` that the code tells apart. -/
inductive PipelineLevel where
  | level10_0
  | level10_1
  | level11_0
  | level11_1
  | other
deriving DecidableEq

/-- The values of `pArgs->Interface` that the code tells apart. -/
inductive DdiInterface where
  | d3d11_0
  | d3d11_1
  | wddm1_3
  | wddm2_0
  | wddm2_1
  | other
deriving DecidableEq

/-- What `D3D11CreateDevice` sets. -/
structure CreatedDevice where
  device : Nat
  context : Nat
  featureLevel : UINT

/-- What `GetVulkanHandles` sets. -/
structure VulkanHandles where
  vkInst : Option Nat
  vkPhys : Option Nat
  vk : Option Nat

/-- What `pfnCreatePagingQueueCb` sets. -/
structure PagingQueue where
  queue : Nat
  syncObject : D3DKMT_HANDLE
  fenceValue : UINT64

/-- The arguments of CreateDevice that it branches on, and the answers to its calls.
    Each call is made at most once; `LoadLibrary` once for each name. -/
structure CreateDeviceEnv where
  supportedCapsets : UINT64
  pipelineLevel : PipelineLevel
  interface : DdiInterface
  loader : LoaderAnswers
  drmContextType : Answer UINT
  icdGetInstanceProcAddr : Bool
  vkGetInstanceProcAddr : Bool
  vkGetDeviceProcAddr : Bool
  vkCreateInstance : Bool
  vkEnumerateInstanceExtensionProperties : Bool
  extensionCount : Except VkError Nat
  callocProps : Option Nat
  callocNames : Option Nat
  extensions : Except VkError (List String)
  createInstance : Except VkError Nat
  /-- `vkDestroyInstance` as resolved right after the instance was created -/
  vkDestroyInstance : Bool
  createFactory : Answer Nat
  enumAdapterByLuid : Answer Nat
  createD3d11Device : UINT → Answer CreatedDevice
  queryInterface : DeviceVar → Answer Nat
  getVulkanHandles : Answer VulkanHandles
  /-- the function pointers as resolved from the instance and the device -/
  procs : VkProc → Bool
  createFence : Answer Nat
  createContext : Answer Nat
  contextInit : Answer Unit
  createPagingQueue : Answer PagingQueue

/-- A stretch of CreateDevice. -/
abbrev CreateDevice := Exiting HRESULT DeviceState

/-- `if (FAILED(hr)) return hr;` -/
def returnFailed {α : Type} : Answer α → CreateDevice α
  | .ok a => pure a
  | .error hr => leave hr.val

/-- `if (res != VK_SUCCESS) return E_FAIL;` -/
def returnNoSuccess {α : Type} : Except VkError α → CreateDevice α
  | .ok a => pure a
  | .error _ => leave E_FAIL

/-- `if (!cond) return hr;` -/
def returnUnless (cond : Bool) (hr : HRESULT) : CreateDevice Unit :=
  if cond then pure () else leave hr

-- ============================================================================
-- Libraries
-- ============================================================================

/-- `load_icd`. -/
def loadIcd (loader : LoaderAnswers) (icdName : String) : Option Nat :=
  if loader.umdModule && loader.lastSlash && loader.copied icdName then loader.loadLibrary icdName
  else none

/-- `get_drm_context_type_icd_name`. -/
def getDrmContextTypeIcdName (drmContextType : UINT) : Option String :=
  if drmContextType = 1 then some "vulkan_freedreno.dll"
  else if drmContextType = 6 then some "vulkan_intel.dll"
  else none

/-- The ICD of the native context, where there is one. -/
def loadVdrmIcd (env : CreateDeviceEnv) : Option Nat :=
  if hasFlag env.supportedCapsets VIRTIO_WDDM_CAPSET_MASK_DRM then
    match env.drmContextType with
    | .error _ => none
    | .ok drmContextType =>
        (getDrmContextTypeIcdName drmContextType).bind (loadIcd env.loader)
  else none

/-- The Vulkan loader, and an ICD for it. -/
def loadLibraries (env : CreateDeviceEnv) : CreateDevice Unit := do
  match loadIcd env.loader "droidvm_vulkan.dll" with
  | none => leave E_FAIL
  | some vulkan =>
      modify fun s => s.acquire .vulkan vulkan
      match (loadVdrmIcd env).or (loadIcd env.loader "vulkan_virtio.dll") with
      | none => do
          modify fun s => s.release .vulkan
          leave E_FAIL
      | some icd => modify fun s => s.acquire .icd icd

/-- `vk_icdGetInstanceProcAddr`. -/
def resolveIcdEntryPoint (env : CreateDeviceEnv) : CreateDevice Unit :=
  if env.icdGetInstanceProcAddr then pure ()
  else do
    modify fun s => s.release .icd
    modify fun s => s.release .vulkan
    leave E_FAIL

/-- The entry points of the two libraries. -/
def resolveEntryPoints (env : CreateDeviceEnv) : CreateDevice Unit := do
  resolveIcdEntryPoint env
  returnUnless (env.vkGetInstanceProcAddr && env.vkGetDeviceProcAddr) E_FAIL
  returnUnless (env.vkCreateInstance && env.vkEnumerateInstanceExtensionProperties) E_FAIL

-- ============================================================================
-- The instance
-- ============================================================================

/-- A `calloc` into a variable. -/
def callocInto (x : DeviceVar) (p : Option Nat) : CreateDevice Unit :=
  match p with
  | none => pure ()
  | some id => modify fun s => s.acquire x id

/-- The properties are read and searched for the extension that the driver needs; at
    most as many are returned as there is room for. -/
def enumerateExtensions (env : CreateDeviceEnv) (extensionCount : Nat) : CreateDevice Unit := do
  returnUnless (extensionCount = 0 || (env.callocProps.isSome && env.callocNames.isSome))
    E_OUTOFMEMORY
  let names ← returnNoSuccess env.extensions
  returnUnless ((names.take extensionCount).contains "VK_LUNARG_direct_driver_loading") E_FAIL

/-- The Vulkan instance, and the function that destroys it. -/
def createInstance (env : CreateDeviceEnv) : CreateDevice Unit := do
  let vkInst ← returnNoSuccess env.createInstance
  modify fun s =>
    { s.acquire .vkInst vkInst with
      block.procs := fun proc =>
        if proc = .destroyInstance then env.vkDestroyInstance else s.block.procs proc }

-- ============================================================================
-- The device and its interfaces
-- ============================================================================

/-- The adapter, through a factory that is released again. -/
def createAdapter (env : CreateDeviceEnv) : CreateDevice Unit := do
  let factory ← returnFailed env.createFactory
  modify fun s => s.acquire .factory factory
  match env.enumAdapterByLuid with
  | .error hr => do
      modify fun s => s.release .factory
      leave hr.val
  | .ok adapter => do
      modify fun s => s.acquire .adapter adapter
      modify fun s => s.release .factory

/-- The feature level of a pipeline level (`D3D_FEATURE_LEVEL`). -/
def featureLevelOf : PipelineLevel → Option UINT
  | .level10_0 => some 0xA000
  | .level10_1 => some 0xA100
  | .level11_0 => some 0xB000
  | .level11_1 => some 0xB100
  | .other => none

/-- `D3D11CreateDevice` into the two locals. -/
def createD3d11Device (env : CreateDeviceEnv) (featureLevel : UINT) : CreateDevice Unit := do
  let created ← returnFailed (env.createD3d11Device featureLevel)
  modify fun s => s.acquire .d3d11Device created.device
  modify fun s => s.acquire .d3d11Context created.context
  modify fun s => { s with block.featureLevel := created.featureLevel }

/-- `QueryInterface` into a field. -/
def queryInterface (env : CreateDeviceEnv) (x : DeviceVar) : CreateDevice Unit := do
  let id ← returnFailed (env.queryInterface x)
  modify fun s => s.acquire x id

/-- The eight interfaces. -/
def queryInterfaces (env : CreateDeviceEnv) : CreateDevice Unit := do
  queryInterface env .pDev1
  queryInterface env .pDev2
  queryInterface env .pDev3
  queryInterface env .pDev5
  queryInterface env .pCtx1
  queryInterface env .pCtx2
  queryInterface env .pCtx3
  queryInterface env .pCtx4

/-- `VK_INSTANCE_FUNCTION_LIST` and `VK_DEVICE_FUNCTION_LIST`. -/
def requiredProcs : List VkProc :=
  [.getPhysicalDeviceMemoryProperties2, .destroyInstance, .allocateMemory, .freeMemory,
   .createImage, .destroyImage, .bindImageMemory2, .getImageMemoryRequirements2,
   .getImageSubresourceLayout]

/-- The Vulkan handles of the device, and the functions resolved for them. -/
def importVulkan (env : CreateDeviceEnv) : CreateDevice Unit := do
  let handles ← returnFailed env.getVulkanHandles
  modify fun s =>
    { s with
      block.vkPhys := handles.vkPhys
      block.vk := handles.vk }
  let s ← get
  returnUnless (handles.vkInst = s.vars .vkInst) E_FAIL
  modify fun s => { s with block.procs := env.procs }
  returnUnless (requiredProcs.all env.procs) E_FAIL

-- ============================================================================
-- Presentation
-- ============================================================================

def createPresentFence (env : CreateDeviceEnv) : CreateDevice Unit := do
  let fence ← returnFailed env.createFence
  modify fun s => s.acquire .pPresentFence fence
  modify fun s => { s with block.presentFenceValue := 1 }

/-- `create_present_context`. -/
def createPresentContext (env : CreateDeviceEnv) : CreateDevice Unit := do
  let context ← returnFailed env.createContext
  modify fun s => s.acquire .presentContext context

/-- The escape that initialises the context of the runtime's device. -/
def initContext (env : CreateDeviceEnv) : CreateDevice Unit :=
  if hasFlag env.supportedCapsets VIRTIO_WDDM_CAPSET_MASK_DRM then returnFailed env.contextInit
  else pure ()

/-- `create_paging_queue`. -/
def createPagingQueue (env : CreateDeviceEnv) : CreateDevice Unit := do
  let paging ← returnFailed env.createPagingQueue
  modify fun s => s.acquire .pagingQueue paging.queue
  modify fun s =>
    { s with
      block.pagingSyncObject := paging.syncObject
      block.pagingFenceValue := paging.fenceValue }

/-- The function tables are filled for the interfaces there are tables for. -/
def fillDeviceFuncs (env : CreateDeviceEnv) : CreateDevice Unit :=
  returnUnless (env.interface ≠ .other) E_FAIL

-- ============================================================================
-- CreateDevice
-- ============================================================================

/-- From `D3D11CreateDevice` to the end, inside the scope of the two locals. -/
def setUpDevice (env : CreateDeviceEnv) (featureLevel : UINT) : CreateDevice HRESULT := do
  createD3d11Device env featureLevel
  queryInterfaces env
  importVulkan env
  createPresentFence env
  createPresentContext env
  initContext env
  createPagingQueue env
  fillDeviceFuncs env
  modify fun s => { s with failedDevice := false }
  return S_OK

/-- From the instance to the end, inside the scope of the extension arrays. -/
def setUpInstance (env : CreateDeviceEnv) : CreateDevice HRESULT := do
  createInstance env
  createAdapter env
  match featureLevelOf env.pipelineLevel with
  | none => leave E_FAIL
  | some featureLevel =>
      atExit (·.release .d3d11Device) (atExit (·.release .d3d11Context)
        (setUpDevice env featureLevel))

/-- The function's body; the array declared last is freed first. -/
def createDeviceBody (env : CreateDeviceEnv) : CreateDevice HRESULT := do
  loadLibraries env
  resolveEntryPoints env
  let extensionCount ← returnNoSuccess env.extensionCount
  atExit (·.release .extensionProps) do
    callocInto .extensionProps env.callocProps
    atExit (·.release .extensionNames) do
      callocInto .extensionNames env.callocNames
      enumerateExtensions env extensionCount
      setUpInstance env

/-- On entry the block may hold anything, and no local exists. -/
def DeviceState.onEntry (memory : DeviceState) : DeviceState where
  vars := fun x => if x.isLocal then none else memory.vars x
  block := memory.block

/-- `virtio_wddm_create_device` on a block that holds what it does in `memory`. -/
def virtioWddmCreateDevice (env : CreateDeviceEnv) (memory : DeviceState) :
    HRESULT × DeviceState :=
  returned (atExit cleanupFailedDevice (createDeviceBody env))
    { memory.onEntry.memset with
      failedDevice := true
      block.featureLevel := 0xB000 }

end VirtioWddm
