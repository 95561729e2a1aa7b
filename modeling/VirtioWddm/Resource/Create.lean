/-
  VirtioWddm.Resource.Create

  `virtio_wddm_create_resource` of `resource.c` with what it calls: the
  translation of the runtime's flags, the kernel-allocated 3D path, the
  Vulkan-allocated blob path and the plain path through the host device.

  Every exit returns the private block as the C code leaves it, failed calls
  included.
-/

import VirtioWddm.Device.Env
import VirtioWddm.Lib.Flags

namespace VirtioWddm

open Lib

-- ============================================================================
-- Flags
-- ============================================================================

def D3D10_DDI_BIND_VERTEX_BUFFER : UINT := 0x00000001#32
def D3D10_DDI_BIND_INDEX_BUFFER : UINT := 0x00000002#32
def D3D10_DDI_BIND_CONSTANT_BUFFER : UINT := 0x00000004#32
def D3D10_DDI_BIND_SHADER_RESOURCE : UINT := 0x00000008#32
def D3D10_DDI_BIND_STREAM_OUTPUT : UINT := 0x00000010#32
def D3D10_DDI_BIND_RENDER_TARGET : UINT := 0x00000020#32
def D3D10_DDI_BIND_DEPTH_STENCIL : UINT := 0x00000040#32
def D3D10_DDI_BIND_PRESENT : UINT := 0x00000080#32
def D3D11_DDI_BIND_UNORDERED_ACCESS : UINT := 0x00000100#32
def D3D11_DDI_BIND_DECODER : UINT := 0x00000200#32
def D3D11_DDI_BIND_VIDEO_ENCODER : UINT := 0x00000400#32

def D3D11_BIND_VERTEX_BUFFER : UINT := 0x00000001#32
def D3D11_BIND_INDEX_BUFFER : UINT := 0x00000002#32
def D3D11_BIND_CONSTANT_BUFFER : UINT := 0x00000004#32
def D3D11_BIND_SHADER_RESOURCE : UINT := 0x00000008#32
def D3D11_BIND_STREAM_OUTPUT : UINT := 0x00000010#32
def D3D11_BIND_RENDER_TARGET : UINT := 0x00000020#32
def D3D11_BIND_DEPTH_STENCIL : UINT := 0x00000040#32
def D3D11_BIND_UNORDERED_ACCESS : UINT := 0x00000080#32
def D3D11_BIND_DECODER : UINT := 0x00000200#32
def D3D11_BIND_VIDEO_ENCODER : UINT := 0x00000400#32

def D3D10_DDI_RESOURCE_AUTO_GEN_MIP_MAP : UINT := 0x00000001#32
def D3D10_DDI_RESOURCE_MISC_SHARED : UINT := 0x00000002#32
def D3D11_DDI_RESOURCE_MISC_DRAWINDIRECT_ARGS : UINT := 0x00000010#32
def D3D11_DDI_RESOURCE_MISC_BUFFER_ALLOW_RAW_VIEWS : UINT := 0x00000020#32
def D3D11_DDI_RESOURCE_MISC_BUFFER_STRUCTURED : UINT := 0x00000040#32
def D3D11_DDI_RESOURCE_MISC_RESOURCE_CLAMP : UINT := 0x00000080#32

def D3D11_RESOURCE_MISC_GENERATE_MIPS : UINT := 0x00000001#32
def D3D11_RESOURCE_MISC_SHARED : UINT := 0x00000002#32
def D3D11_RESOURCE_MISC_TEXTURECUBE : UINT := 0x00000004#32
def D3D11_RESOURCE_MISC_DRAWINDIRECT_ARGS : UINT := 0x00000010#32
def D3D11_RESOURCE_MISC_BUFFER_ALLOW_RAW_VIEWS : UINT := 0x00000020#32
def D3D11_RESOURCE_MISC_BUFFER_STRUCTURED : UINT := 0x00000040#32
def D3D11_RESOURCE_MISC_RESOURCE_CLAMP : UINT := 0x00000080#32

def D3D10_DDI_CPU_ACCESS_WRITE : UINT := 0x00000001#32
def D3D10_DDI_CPU_ACCESS_READ : UINT := 0x00000002#32
def D3D11_CPU_ACCESS_WRITE : UINT := 0x00010000#32
def D3D11_CPU_ACCESS_READ : UINT := 0x00020000#32

def D3D10_DDI_USAGE_DEFAULT : UINT := 0#32
def D3D10_DDI_USAGE_IMMUTABLE : UINT := 1#32
def D3D10_DDI_USAGE_DYNAMIC : UINT := 2#32
def D3D10_DDI_USAGE_STAGING : UINT := 3#32

def VIRGL_BIND_RENDER_TARGET : UINT := 0x00000002#32
def VIRGL_BIND_SAMPLER_VIEW : UINT := 0x00000008#32
def VIRGL_BIND_DISPLAY_TARGET : UINT := 0x00000080#32
def VIRGL_BIND_SCANOUT : UINT := 0x00040000#32

/-- The modifier value of an allocation whose layout is not described. -/
def DRM_MODIFIER_INVALID : UINT64 := 0x00FFFFFFFFFFFFFF#64

def UINT32_MAX : UINT64 := 0x00000000FFFFFFFF#64

/-- The out-parameters of `tritonTranslateUsage`. -/
structure TranslatedUsage where
  usage : D3D11Usage
  cpuAccess : UINT
  bind : UINT
  misc : UINT
deriving DecidableEq

def cpuAccessTable : List (UINT × UINT) :=
  [(D3D10_DDI_CPU_ACCESS_READ, D3D11_CPU_ACCESS_READ),
   (D3D10_DDI_CPU_ACCESS_WRITE, D3D11_CPU_ACCESS_WRITE)]

def bindFlagTable : List (UINT × UINT) :=
  [(D3D10_DDI_BIND_VERTEX_BUFFER, D3D11_BIND_VERTEX_BUFFER),
   (D3D10_DDI_BIND_INDEX_BUFFER, D3D11_BIND_INDEX_BUFFER),
   (D3D10_DDI_BIND_CONSTANT_BUFFER, D3D11_BIND_CONSTANT_BUFFER),
   (D3D10_DDI_BIND_SHADER_RESOURCE, D3D11_BIND_SHADER_RESOURCE),
   (D3D10_DDI_BIND_STREAM_OUTPUT, D3D11_BIND_STREAM_OUTPUT),
   (D3D10_DDI_BIND_RENDER_TARGET, D3D11_BIND_RENDER_TARGET),
   (D3D10_DDI_BIND_DEPTH_STENCIL, D3D11_BIND_DEPTH_STENCIL),
   (D3D11_DDI_BIND_UNORDERED_ACCESS, D3D11_BIND_UNORDERED_ACCESS),
   (D3D11_DDI_BIND_DECODER, D3D11_BIND_DECODER),
   (D3D11_DDI_BIND_VIDEO_ENCODER, D3D11_BIND_VIDEO_ENCODER)]

def miscFlagTable : List (UINT × UINT) :=
  [(D3D10_DDI_RESOURCE_AUTO_GEN_MIP_MAP, D3D11_RESOURCE_MISC_GENERATE_MIPS),
   (D3D10_DDI_RESOURCE_MISC_SHARED, D3D11_RESOURCE_MISC_SHARED),
   (D3D11_DDI_RESOURCE_MISC_DRAWINDIRECT_ARGS, D3D11_RESOURCE_MISC_DRAWINDIRECT_ARGS),
   (D3D11_DDI_RESOURCE_MISC_BUFFER_ALLOW_RAW_VIEWS, D3D11_RESOURCE_MISC_BUFFER_ALLOW_RAW_VIEWS),
   (D3D11_DDI_RESOURCE_MISC_BUFFER_STRUCTURED, D3D11_RESOURCE_MISC_BUFFER_STRUCTURED),
   (D3D11_DDI_RESOURCE_MISC_RESOURCE_CLAMP, D3D11_RESOURCE_MISC_RESOURCE_CLAMP)]

/-- `tritonTranslateUsage`. -/
def tritonTranslateUsage (a : CreateResourceArgs) : TranslatedUsage :=
  { usage :=
      switchOn
        [(D3D10_DDI_USAGE_DEFAULT, .default), (D3D10_DDI_USAGE_IMMUTABLE, .immutable),
         (D3D10_DDI_USAGE_DYNAMIC, .dynamic), (D3D10_DDI_USAGE_STAGING, .staging)]
        .default a.usage
    cpuAccess := translateFlags cpuAccessTable a.mapFlags
    bind := translateFlags bindFlagTable a.bindFlags
    misc := translateFlags miscFlagTable a.miscFlags }

-- ============================================================================
-- Initial data
-- ============================================================================

/-- The number of entries `tritonBuildInitData` allocates; a cube of array size
    zero counts as six faces. -/
def initDataCount (a : CreateResourceArgs) : UINT :=
  let arraySize :=
    if a.resourceDimension = .texturecube ∧ a.arraySize = 0#32 then 6#32 else a.arraySize
  a.mipLevels * arraySize

/-- `tritonBuildInitData`: `none` is a NULL result. -/
def tritonBuildInitData (env : DeviceEnv) (a : CreateResourceArgs) :
    Call (Option (List SubresourceData)) :=
  match a.pInitialDataUP with
  | none => return none
  | some initialData => do
      let count := initDataCount a
      if count = 0#32 then
        return none
      if env.heapOk = false then
        return none
      let data := (List.range count.toNat).map initialData
      emit (.initDataAllocated data)
      return some data

/-- The loop of `update_subresource` from index `i` on; the `count` its callers
    pass is the length of the array. -/
def updateSubresource (resource : HostResource) : Nat → List SubresourceData → Call Unit
  | _, [] => pure ()
  | i, data :: rest => do
      emit (.updateSubresource resource i data)
      updateSubresource resource (i + 1) rest

/-- The `if (subresource_data)` block after a successful import. -/
def uploadInitData (resource : HostResource) (subresourceData : Option (List SubresourceData)) :
    Call Unit :=
  match subresourceData with
  | none => pure ()
  | some data => do
      updateSubresource resource 0 data
      emit .initDataFreed

/-- The end of both texture paths: import the Vulkan image into the host device
    and upload the initial data. -/
def importSharedTexture (env : DeviceEnv) (desc : Texture2DDesc1) (resource : VirtioWddmResource)
    (subresourceData : Option (List SubresourceData)) : Call VirtioWddmResource := do
  emit (.importTexture desc resource.image env.importTexture)
  if failed env.importTexture.hr then do
    tritonSetError env.importTexture.hr
    return resource
  match env.importTexture.object with
  | none => Comp.fault (.assertFailed "tex != NULL")
  | some tex => do
      uploadInitData tex subresourceData
      return { resource with base := { resource.base with pResource := some tex } }

-- ============================================================================
-- The 3D path
-- ============================================================================

/-- The `nr_samples` of the virgl protocol: zero is a normal texture, a positive
    value a multisampled one. -/
def virglNrSamples (count : UINT) : UINT :=
  if 1#32 < count then count else 0#32

/-- The private allocation data `create_shared_3d_resource` writes.  The size is
    a product of 32-bit words, widened afterwards. -/
def allocate3dPriv (desc : Texture2DDesc1) : Allocate3d :=
  { target := 2
    format := dxgiToVirglFormat desc.format
    bind :=
      VIRGL_BIND_RENDER_TARGET ||| VIRGL_BIND_DISPLAY_TARGET ||| VIRGL_BIND_SAMPLER_VIEW |||
        VIRGL_BIND_SCANOUT
    width := desc.width
    height := desc.height
    depth := 1
    arraySize := desc.arraySize
    lastLevel := desc.mipLevels - 1
    nrSamples := virglNrSamples desc.sampleDesc.count
    flags := 0
    size := (desc.width * desc.height * dxgiFormatBytesPerPixel desc.format).zeroExtend 64 }

/-- `pPrivateDriverData` of the 3D allocation. -/
def allocate3dPayload (allocPriv : Allocate3d) : Option PrimaryDesc → AllocationPayload
  | none => .plain (.alloc3d allocPriv)
  | some primaryDesc =>
      .primary
        { base := { allocation := .alloc3d allocPriv }
          refreshNumerator := primaryDesc.refreshNumerator
          refreshDenominator := primaryDesc.refreshDenominator
          vidpnSource := primaryDesc.vidPnSourceId }

/-- The result code of `create_shared_3d_resource` with its out-parameters; `info`
    is set on the paths that reach residency. -/
structure Shared3dResource where
  hr : HRESULT
  hKMResource : D3DKMT_HANDLE := 0
  hAllocation : D3DKMT_HANDLE := 0
  id : UINT := 0
  info : Option Allocate3dFull := none
deriving DecidableEq

/-- The check at the head of `create_shared_3d_resource`. -/
def allocate3dSupported (desc : Texture2DDesc1) : Bool :=
  (allocate3dPriv desc).format != .NONE && (allocate3dPriv desc).size != 0

/-- `create_shared_3d_resource`. -/
def createShared3dResource (env : DeviceEnv) (desc : Texture2DDesc1)
    (primaryDesc : Option PrimaryDesc) (hRTResource : HANDLE) : Call Shared3dResource := do
  if allocate3dSupported desc = false then
    return { hr := E_OUTOFMEMORY }
  emit (.allocateCb
    { hResource := hRTResource
      payload := allocate3dPayload (allocate3dPriv desc) primaryDesc
      primary := primaryDesc.isSome } env.allocate)
  if failed env.allocate.hr then
    return { hr := env.allocate.hr }
  let res ← queryResourceInfo env env.allocate.hAllocation
  match res with
  | .error hr => do
      emit (.deallocateCb (.resource hRTResource) env.deallocateHr)
      if succeeded env.deallocateHr then
        return { hr := hr }
      -- kept for DestroyResource, should it come
      return { hr := hr, hKMResource := env.allocate.hKMResource,
               hAllocation := env.allocate.hAllocation }
  | .ok (_, .blob _) => Comp.fault (.assertFailed "res_info.tag == VIRTIO_WDDM_ALLOCATE_3D_TAG")
  | .ok (_, .other _) => Comp.fault (.assertFailed "res_info.tag == VIRTIO_WDDM_ALLOCATE_3D_TAG")
  | .ok (id, .alloc3d info) => do
      let hr ← makeResourceResident env env.allocate.hAllocation
      return { hr := hr, hKMResource := env.allocate.hKMResource,
               hAllocation := env.allocate.hAllocation, id := id, info := some info }

/-- The `allocate_3d` branch of `virtio_wddm_create_resource`. -/
def createPresent3d (env : DeviceEnv) (pArgs : CreateResourceArgs) (isPrimary : Bool)
    (desc : Texture2DDesc1) (hRTResource : HANDLE) (resource : VirtioWddmResource)
    (subresourceData : Option (List SubresourceData)) : Call VirtioWddmResource := do
  assertCall (pArgs.resourceDimension == .texture2d)
    "pArgs->ResourceDimension == D3D10DDIRESOURCE_TEXTURE2D"
  let shared ← createShared3dResource env desc (if isPrimary then pArgs.pPrimaryDesc else none)
    hRTResource
  let resource :=
    { resource with
      base := { resource.base with
        hKMResource := shared.hKMResource
        hKMAllocation := shared.hAllocation } }
  if failed shared.hr then do
    tritonSetError shared.hr
    return resource
  match shared.info with
  | none => Comp.fault (.uninitialisedRead "alloc_info")
  | some allocInfo => do
      let planes ← fillPlanes allocInfo.offsets allocInfo.strides allocInfo.numPlanes.toNat 0
      let modifierInfo : DrmFormatModifierInfo :=
        { drmFormatModifier := allocInfo.modifier
          planeCount := allocInfo.numPlanes
          planeLayouts := planes }
      let img ← createSharedVkImage env.vk desc .drmFormatModifier (some modifierInfo)
        (.importHandle hRTResource resource.base.hKMAllocation shared.id (.alloc3d allocInfo))
        false
      let resource := { resource with image := img.image, memory := img.memory }
      if failed img.hr then do
        tritonSetError img.hr
        return resource
      importSharedTexture env desc resource subresourceData

-- ============================================================================
-- The blob path
-- ============================================================================

/-- Run `m` under another runtime-allocation scope and put the previous one
    back. -/
def withRuntimeAllocScope {α : Type} (scope : RuntimeAllocScope) (m : Call α) : Call α := do
  let previousScope := (← get).runtimeAllocScope
  modify fun s => { s with runtimeAllocScope := scope }
  let a ← m
  modify fun s => { s with runtimeAllocScope := previousScope }
  return a

/-- The blob information an optimally tiled image is published with. -/
def optimalBlobInfo (desc : Texture2DDesc1) : BlobInfo :=
  { width := desc.width
    height := desc.height
    format :=
      if desc.format = .R32G32B32A32_FLOAT then .R32G32B32A32_FLOAT
      else dxgiToVirglFormat desc.format
    bind := 0
    modifier := DRM_MODIFIER_INVALID
    strides := Vector.replicate 4 0
    offsets := Vector.replicate 4 0
    dxgiFormat := desc.format }

/-- The blob information of a linear image: the same with the first plane Vulkan
    reports, narrowed to the 32-bit fields. -/
def linearBlobInfo (desc : Texture2DDesc1) (layout : VkSubresourceLayout) : BlobInfo :=
  let info := optimalBlobInfo desc
  { info with
    modifier := 0
    strides := info.strides.set 0 (layout.rowPitch.truncate 32)
    offsets := info.offsets.set 0 (layout.offset.truncate 32)
    bind :=
      VIRGL_BIND_RENDER_TARGET ||| VIRGL_BIND_SAMPLER_VIEW ||| VIRGL_BIND_DISPLAY_TARGET |||
        VIRGL_BIND_SCANOUT }

/-- The layouts the 32-bit fields of the blob information cannot hold. -/
def layoutRejected (layout : VkSubresourceLayout) : Bool :=
  layout.rowPitch == 0 || UINT32_MAX < layout.rowPitch || UINT32_MAX < layout.offset

/-- The end of the blob path: publish the layout, then import the image. -/
def publishBlob (env : DeviceEnv) (linearPresent : Bool) (desc : Texture2DDesc1)
    (resource : VirtioWddmResource) (subresourceData : Option (List SubresourceData)) :
    Call VirtioWddmResource := do
  if linearPresent && layoutRejected env.vk.subresourceLayout then do
    tritonSetError E_INVALIDARG
    return resource
  let blobInfo :=
    if linearPresent then linearBlobInfo desc env.vk.subresourceLayout else optimalBlobInfo desc
  emit (.blobInfoEscape { handle := resource.base.hKMAllocation, blobInfo := blobInfo }
    env.blobInfoHr)
  if failed env.blobInfoHr then do
    tritonSetError env.blobInfoHr
    return resource
  importSharedTexture env desc resource subresourceData

/-- The residency step of the blob path; only a linear present buffer takes it. -/
def makeLinearResident (env : DeviceEnv) (linearPresent : Bool) (allocation : D3DKMT_HANDLE) :
    Call HRESULT :=
  if linearPresent then makeResourceResident env allocation else return S_OK

/-- The `is_shared || linear_present` branch of `virtio_wddm_create_resource`. -/
def createSharedBlob (env : DeviceEnv) (pArgs : CreateResourceArgs)
    (isPrimary linearPresent : Bool) (desc : Texture2DDesc1) (hRTResource : HANDLE)
    (resource : VirtioWddmResource) (subresourceData : Option (List SubresourceData)) :
    Call VirtioWddmResource := do
  assertCall (pArgs.resourceDimension == .texture2d)
    "pArgs->ResourceDimension == D3D10DDIRESOURCE_TEXTURE2D"
  if linearPresent = true ∧
      (pArgs.mipLevels ≠ 1 ∨ pArgs.arraySize ≠ 1 ∨ pArgs.sampleDesc.count ≠ 1) then do
    tritonSetError E_INVALIDARG
    return resource
  -- clear first: the check below must only trust a record of this call
  modify fun s => { s with lastRuntimeAlloc := {} }
  let img ← withRuntimeAllocScope
    { hRTResource := hRTResource
      primary := isPrimary
      primaryDesc := if isPrimary then pArgs.pPrimaryDesc.getD {} else {} }
    (createSharedVkImage env.vk desc (if linearPresent then .linear else .optimal) none
      (.createResource hRTResource) false)
  let resource := { resource with image := img.image, memory := img.memory }
  if failed img.hr then do
    tritonSetError img.hr
    return resource
  let record := (← get).lastRuntimeAlloc
  if record.hAllocation = 0 ∨ record.hRTResource ≠ hRTResource then do
    tritonSetError E_FAIL
    return resource
  let resource :=
    { resource with
      base := { resource.base with
        hKMAllocation := record.hAllocation
        hKMResource := record.hKMResource } }
  let hr ← makeLinearResident env linearPresent resource.base.hKMAllocation
  if failed hr then do
    tritonSetError hr
    return resource
  publishBlob env linearPresent desc resource subresourceData

-- ============================================================================
-- The plain path
-- ============================================================================

/-- The description the final `switch` hands to the host device; `none` is its
    `default` branch. -/
def plainResourceDesc (pArgs : CreateResourceArgs) (desc : Texture2DDesc1)
    (resource : VirtioWddmResource) : Option HostResourceDesc :=
  match pArgs.resourceDimension with
  | .texture2d => some (.texture2d desc)
  | .buffer | .bufferex =>
      some (.buffer resource.base.width desc.usage desc.bindFlags desc.cpuAccessFlags
        desc.miscFlags resource.base.byteStride)
  | .texture1d =>
      some (.texture1d resource.base.width resource.base.mipLevels resource.base.arraySize
        resource.base.format desc.usage desc.bindFlags desc.cpuAccessFlags desc.miscFlags)
  | .texture3d =>
      some (.texture3d resource.base.width resource.base.height resource.base.depth
        resource.base.mipLevels resource.base.format desc.usage desc.bindFlags
        desc.cpuAccessFlags desc.miscFlags)
  | .texturecube =>
      some (.texture2d
        { desc with
          arraySize := if resource.base.arraySize = 0 then 6 else resource.base.arraySize
          miscFlags := desc.miscFlags ||| D3D11_RESOURCE_MISC_TEXTURECUBE })
  | .other _ => none

/-- `free(subresource_data)` when there is an array to free. -/
def freeInitData (subresourceData : Option (List SubresourceData)) : Call Unit :=
  match subresourceData with
  | none => pure ()
  | some _ => emit .initDataFreed

/-- The assertion on the object a successful host call leaves. -/
def createdObjectCheck : HostResourceDesc → String
  | .buffer .. => "buf != NULL"
  | _ => "tex != NULL"

/-- The final `switch` of `virtio_wddm_create_resource` and what follows it. -/
def createPlain (env : DeviceEnv) (pArgs : CreateResourceArgs) (desc : Texture2DDesc1)
    (resource : VirtioWddmResource) (subresourceData : Option (List SubresourceData)) :
    Call VirtioWddmResource :=
  match plainResourceDesc pArgs desc resource with
  | none => do
      tritonSetError E_INVALIDARG
      return resource
  | some hostDesc => do
      emit (.createHostResource hostDesc subresourceData env.createHostResource)
      if failed env.createHostResource.hr then do
        tritonSetError env.createHostResource.hr
        return resource
      match env.createHostResource.object with
      | none => Comp.fault (.assertFailed (createdObjectCheck hostDesc))
      | some object => do
          freeInitData subresourceData
          return { resource with base := { resource.base with pResource := some object } }

-- ============================================================================
-- virtio_wddm_create_resource
-- ============================================================================

/-- The private block after the assignments at the head of
    `virtio_wddm_create_resource`. -/
def initialResource (pArgs : CreateResourceArgs) (hRTResource : HANDLE)
    (isPrimary isShared : Bool) : VirtioWddmResource :=
  { base :=
      { hRTResource := hRTResource
        dimension := pArgs.resourceDimension
        format := pArgs.format
        mipLevels := pArgs.mipLevels
        arraySize := pArgs.arraySize
        bindFlags := pArgs.bindFlags
        miscFlags := pArgs.miscFlags
        mapFlags := pArgs.mapFlags
        usage := pArgs.usage
        sampleDesc := pArgs.sampleDesc
        byteStride := pArgs.byteStride
        isPresentable := isPrimary
        isShared := isShared
        width := (pArgs.pMipInfoList.map MipInfo.texelWidth).getD 0
        height := (pArgs.pMipInfoList.map MipInfo.texelHeight).getD 0
        depth := (pArgs.pMipInfoList.map MipInfo.texelDepth).getD 0 } }

/-- The texture description all three paths start from. -/
def resourceDesc (pArgs : CreateResourceArgs) (resource : VirtioWddmResource)
    (bindPresent : Bool) : Texture2DDesc1 :=
  let t := tritonTranslateUsage pArgs
  { width := resource.base.width
    height := resource.base.height
    mipLevels := resource.base.mipLevels
    arraySize := resource.base.arraySize
    format := resource.base.format
    sampleDesc := resource.base.sampleDesc
    usage := t.usage
    bindFlags :=
      if bindPresent = true ∧ t.usage ≠ .staging then t.bind ||| D3D11_BIND_SHADER_RESOURCE
      else t.bind
    cpuAccessFlags := t.cpuAccess
    miscFlags := if bindPresent then t.misc ||| D3D11_RESOURCE_MISC_SHARED else t.misc }

/-- `bind_present`. -/
def CreateResourceArgs.bindPresent (pArgs : CreateResourceArgs) : Bool :=
  hasFlag pArgs.bindFlags D3D10_DDI_BIND_PRESENT

/-- `is_primary`. -/
def CreateResourceArgs.isPrimary (pArgs : CreateResourceArgs) : Bool :=
  pArgs.bindPresent && pArgs.pPrimaryDesc.isSome

/-- `is_shared`. -/
def CreateResourceArgs.isShared (pArgs : CreateResourceArgs) : Bool :=
  hasFlag pArgs.miscFlags D3D10_DDI_RESOURCE_MISC_SHARED

/-- `linear_present`. -/
def linearPresent (env : DeviceEnv) (pArgs : CreateResourceArgs) : Bool :=
  pArgs.bindPresent && hasFlag env.supportedCapsets VIRTIO_WDDM_CAPSET_MASK_DRM

/-- `allocate_3d`, that is `(is_primary || is_present) && !linear_present`, where
    one of the first two holds exactly when `bind_present` does. -/
def allocate3d (env : DeviceEnv) (pArgs : CreateResourceArgs) : Bool :=
  let isPresent := pArgs.bindPresent && !pArgs.isPrimary
  (pArgs.isPrimary || isPresent) && !linearPresent env pArgs

/-- `virtio_wddm_create_resource`. -/
def virtioWddmCreateResource (env : DeviceEnv) (pArgs : CreateResourceArgs)
    (hRTResource : HANDLE) : Call VirtioWddmResource := do
  let resource := initialResource pArgs hRTResource pArgs.isPrimary pArgs.isShared
  let desc := resourceDesc pArgs resource pArgs.bindPresent
  let subresourceData ← tritonBuildInitData env pArgs
  if allocate3d env pArgs then
    createPresent3d env pArgs pArgs.isPrimary desc hRTResource resource subresourceData
  else if pArgs.isShared || linearPresent env pArgs then
    createSharedBlob env pArgs pArgs.isPrimary (linearPresent env pArgs) desc hRTResource
      resource subresourceData
  else
    createPlain env pArgs desc resource subresourceData

end VirtioWddm
