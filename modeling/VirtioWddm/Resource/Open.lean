/-
  VirtioWddm.Resource.Open

  `virtio_wddm_open_resource` and `virtio_wddm_destroy_resource` of `resource.c`.

  OpenResource rebuilds a texture from what the kernel driver stored with the
  allocation: the 3D private data, or the blob information the creator published.
-/

import VirtioWddm.Resource.Create

namespace VirtioWddm

open Lib

/-- `D3D10DDIARG_OPENRESOURCE` with its first `D3DDDI_OPENALLOCATIONINFO2`. -/
structure OpenResourceArgs where
  numAllocations : UINT
  hAllocation : D3DKMT_HANDLE
  hKMResource : D3DKMT_HANDLE
deriving DecidableEq

/-- The private block once the kernel has answered. -/
def openedResource (pArgs : OpenResourceArgs) (hRTResource : HANDLE) : VirtioWddmResource :=
  { base :=
      { hRTResource := hRTResource
        dimension := .texture2d
        bindFlags :=
          D3D10_DDI_BIND_RENDER_TARGET ||| D3D10_DDI_BIND_PRESENT |||
            D3D10_DDI_BIND_SHADER_RESOURCE
        miscFlags := D3D10_DDI_RESOURCE_MISC_SHARED
        hKMResource := pArgs.hKMResource
        hKMAllocation := pArgs.hAllocation } }

/-- The description both branches hand to Vulkan and to the host device. -/
def openedDesc (resource : VirtioWddmResource) : Texture2DDesc1 :=
  { width := resource.base.width
    height := resource.base.height
    mipLevels := resource.base.mipLevels
    arraySize := resource.base.arraySize
    format := resource.base.format
    sampleDesc := resource.base.sampleDesc
    usage := .default
    bindFlags := D3D11_BIND_RENDER_TARGET ||| D3D11_BIND_SHADER_RESOURCE
    cpuAccessFlags := 0
    miscFlags := D3D11_RESOURCE_MISC_SHARED }

/-- The private block of an opened 3D allocation. -/
def opened3dResource (resource : VirtioWddmResource) (alloc : Allocate3d) : VirtioWddmResource :=
  { resource with
    base := { resource.base with
      format := virglToDxgiFormat alloc.format
      width := alloc.width
      height := alloc.height
      depth := alloc.depth
      mipLevels := alloc.lastLevel + 1
      arraySize := alloc.arraySize
      sampleDesc := { count := alloc.nrSamples, quality := 0 } } }

/-- The private block of an opened blob allocation. -/
def openedBlobResource (resource : VirtioWddmResource) (info : BlobInfo) : VirtioWddmResource :=
  { resource with
    base := { resource.base with
      format :=
        if info.dxgiFormat ≠ DxgiFormat.UNKNOWN then info.dxgiFormat
        else virglToDxgiFormat info.format
      width := info.width
      height := info.height
      depth := 1
      mipLevels := 1
      arraySize := 1
      sampleDesc := { count := 1, quality := 0 } } }

/-- What both branches do once the plane layouts are known: import the memory and
    wrap the image. -/
def importOpened (env : DeviceEnv) (hRTResource : HANDLE) (id : UINT) (info : AllocationInfo)
    (tiling : VkImageTiling) (modifierInfo : Option DrmFormatModifierInfo)
    (resource : VirtioWddmResource) : Call VirtioWddmResource := do
  let desc := openedDesc resource
  let img ← createSharedVkImage env.vk desc tiling modifierInfo
    (.importHandle hRTResource resource.base.hKMAllocation id info) false
  let resource := { resource with image := img.image, memory := img.memory }
  if failed img.hr then do
    tritonSetError img.hr
    return resource
  importSharedTexture env desc resource none

/-- The `VIRTIO_WDDM_ALLOCATE_3D_TAG` branch. -/
def open3d (env : DeviceEnv) (hRTResource : HANDLE) (id : UINT) (info : Allocate3dFull)
    (resource : VirtioWddmResource) : Call VirtioWddmResource := do
  let resource := opened3dResource resource info.alloc
  let planes ← fillPlanes info.offsets info.strides info.numPlanes.toNat 0
  let modifierInfo : DrmFormatModifierInfo :=
    { drmFormatModifier := info.modifier
      planeCount := info.numPlanes
      planeLayouts := planes }
  importOpened env hRTResource id (.alloc3d info) .drmFormatModifier (some modifierInfo) resource

/-- The four plane layouts of a published blob. -/
def blobPlanes (info : BlobInfo) : List VkSubresourceLayout :=
  (List.finRange 4).map fun i =>
    { offset := (info.offsets.get i).zeroExtend 64
      rowPitch := (info.strides.get i).zeroExtend 64 }

/-- The `VIRTIO_WDDM_ALLOCATE_BLOB_TAG` branch. -/
def openBlob (env : DeviceEnv) (hRTResource : HANDLE) (id : UINT) (info : AllocateBlobFull)
    (resource : VirtioWddmResource) : Call VirtioWddmResource := do
  if info.infoValid = false ∨ info.created = false then do
    tritonSetError E_INVALIDARG
    return resource
  let resource := openedBlobResource resource info.info
  let modifierInfo : DrmFormatModifierInfo :=
    { drmFormatModifier := info.info.modifier
      planeCount := 1
      planeLayouts := blobPlanes info.info }
  if info.info.modifier ≠ DRM_MODIFIER_INVALID then
    importOpened env hRTResource id (.blob info) .drmFormatModifier (some modifierInfo) resource
  else
    importOpened env hRTResource id (.blob info) .optimal none resource

/-- `virtio_wddm_open_resource`. -/
def virtioWddmOpenResource (env : DeviceEnv) (pArgs : OpenResourceArgs) (hRTResource : HANDLE) :
    Call VirtioWddmResource := do
  assertCall (pArgs.numAllocations == 1) "pArgs->NumAllocations == 1"
  let res ← queryResourceInfo env pArgs.hAllocation
  match res with
  | .error hr => do
      tritonSetError hr
      return {}
  | .ok (id, info) => do
      let resource := openedResource pArgs hRTResource
      match info with
      | .alloc3d alloc => open3d env hRTResource id alloc resource
      | .blob blob => openBlob env hRTResource id blob resource
      | .other _ => do
          tritonSetError E_INVALIDARG
          return resource

/-- `if (ptr) release(ptr)`. -/
def releaseIfSet {α : Type} (ptr : Option α) (release : α → Call Unit) : Call Unit :=
  match ptr with
  | none => pure ()
  | some a => release a

/-- `virtio_wddm_destroy_resource`: the host texture, the image, the memory, and
    last every kernel allocation of the runtime resource. -/
def virtioWddmDestroyResource (env : DeviceEnv) (resource : VirtioWddmResource) :
    Call VirtioWddmResource := do
  releaseIfSet resource.base.pResource fun tex => emit (.releaseHostResource tex)
  releaseIfSet resource.image fun image =>
    vkCall env.vk .destroyImage (.destroyImage image)
  releaseIfSet resource.memory fun memory =>
    vkCall env.vk .freeMemory (.freeMemory memory)
  if resource.base.hKMAllocation ≠ 0 then do
    emit (.deallocateCb (.resource resource.base.hRTResource) env.deallocateHr)
    return {}
  return {}

end VirtioWddm
