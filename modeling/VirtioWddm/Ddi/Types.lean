/-
  VirtioWddm.Ddi.Types

  The records the driver exchanges with the D3D runtime, the kernel driver and
  Vulkan, and the private resource block it keeps behind every resource handle.

  Field names are the source's.  A packed union is an inductive type with one
  constructor per tag: the code reads a member only after comparing the tag.
-/

import VirtioWddm.Ddi.Format

namespace VirtioWddm

-- ============================================================================
-- Resource descriptions
-- ============================================================================

/-- `D3D10DDIRESOURCE_TYPE`; `other` covers codes the driver has no case for
    (the zero of a cleared block among them). -/
inductive ResourceType where
  | buffer
  | texture1d
  | texture2d
  | texture3d
  | texturecube
  | bufferex
  | other (code : UINT)
deriving DecidableEq

/-- `DXGI_SAMPLE_DESC`. -/
structure SampleDesc where
  count : UINT := 0
  quality : UINT := 0
deriving DecidableEq

/-- The first entry of `D3D11DDIARG_CREATERESOURCE::pMipInfoList`. -/
structure MipInfo where
  texelWidth : UINT
  texelHeight : UINT
  texelDepth : UINT
deriving DecidableEq

/-- `DXGI_DDI_PRIMARY_DESC`: the refresh rate of its mode and its VidPn source. -/
structure PrimaryDesc where
  vidPnSourceId : UINT := 0
  refreshNumerator : UINT := 0
  refreshDenominator : UINT := 0
deriving DecidableEq

/-- `D3D11_SUBRESOURCE_DATA`. -/
structure SubresourceData where
  pSysMem : HANDLE := 0
  sysMemPitch : UINT := 0
  sysMemSlicePitch : UINT := 0
deriving DecidableEq

/-- `D3D11DDIARG_CREATERESOURCE`; `pInitialDataUP` is indexed by subresource. -/
structure CreateResourceArgs where
  pMipInfoList : Option MipInfo := none
  pInitialDataUP : Option (Nat → SubresourceData) := none
  resourceDimension : ResourceType := .texture2d
  usage : UINT := 0
  bindFlags : UINT := 0
  mapFlags : UINT := 0
  miscFlags : UINT := 0
  format : DxgiFormat := .UNKNOWN
  sampleDesc : SampleDesc := {}
  mipLevels : UINT := 0
  arraySize : UINT := 0
  pPrimaryDesc : Option PrimaryDesc := none
  byteStride : UINT := 0

/-- `D3D11_USAGE`. -/
inductive D3D11Usage where
  | default
  | immutable
  | dynamic
  | staging
deriving DecidableEq

/-- `D3D11_TEXTURE2D_DESC1`; the driver always leaves `TextureLayout` undefined. -/
structure Texture2DDesc1 where
  width : UINT
  height : UINT
  mipLevels : UINT
  arraySize : UINT
  format : DxgiFormat
  sampleDesc : SampleDesc
  usage : D3D11Usage
  bindFlags : UINT
  cpuAccessFlags : UINT
  miscFlags : UINT
deriving DecidableEq

-- ============================================================================
-- The private resource block
-- ============================================================================

/-- Where the runtime placed a resource's private block (`PTRITON_RESOURCE`). -/
abbrev ResourceAddr := Nat

/-- Where the runtime placed a view's private block; a view's `link` member is
    named by the address of the view (`CONTAINING_RECORD`). -/
abbrev ViewAddr := Nat

/-- `TRITON_RESOURCE`. -/
structure TritonResource where
  hRTResource : HANDLE := 0
  dimension : ResourceType := .other 0
  format : DxgiFormat := .UNKNOWN
  width : UINT := 0
  height : UINT := 0
  depth : UINT := 0
  mipLevels : UINT := 0
  arraySize : UINT := 0
  bindFlags : UINT := 0
  miscFlags : UINT := 0
  mapFlags : UINT := 0
  usage : UINT := 0
  sampleDesc : SampleDesc := {}
  byteStride : UINT := 0
  isPresentable : Bool := false
  hKMAllocation : D3DKMT_HANDLE := 0
  hKMResource : D3DKMT_HANDLE := 0
  isShared : Bool := false
  hImportAlloc : D3DKMT_HANDLE := 0
  hImportResKmt : D3DKMT_HANDLE := 0
  pResource : Option HostResource := none
  pViewList : Option ViewAddr := none
deriving DecidableEq

/-- `VIRTIO_WDDM_Resource`.  The default value is the block after
    `memset(resource, 0, sizeof(*resource))`. -/
structure VirtioWddmResource where
  base : TritonResource := {}
  memory : Option VkDeviceMemory := none
  image : Option VkImage := none
deriving DecidableEq

-- ============================================================================
-- Kernel-driver protocol
-- ============================================================================

/-- `VIRTIO_WDDM_Allocate3d`. -/
structure Allocate3d where
  target : UINT
  format : VirglFormat
  bind : UINT
  width : UINT
  height : UINT
  depth : UINT
  arraySize : UINT
  lastLevel : UINT
  nrSamples : UINT
  flags : UINT
  size : UINT64
deriving DecidableEq

/-- `VIRTIO_WDDM_AllocateBlob`. -/
structure AllocateBlob where
  id : UINT64 := 0
  mem : UINT := 0
  flags : UINT := 0
  size : UINT64 := 0
deriving DecidableEq

/-- `VIRTIO_WDDM_CreateAllocation`. -/
inductive CreateAllocation where
  | alloc3d (alloc : Allocate3d)
  | blob (alloc : AllocateBlob)
deriving DecidableEq

/-- `VIRTIO_WDDM_ReuseBlobAllocation`. -/
structure ReuseBlobAllocation where
  allocation : CreateAllocation
  source : D3DKMT_HANDLE := 0
deriving DecidableEq

/-- `VIRTIO_WDDM_PrimaryAllocation`. -/
structure PrimaryAllocation where
  base : ReuseBlobAllocation
  refreshNumerator : UINT
  refreshDenominator : UINT
  vidpnSource : UINT
deriving DecidableEq

/-- What `D3DDDI_ALLOCATIONINFO2::pPrivateDriverData` points to. -/
inductive AllocationPayload where
  | plain (alloc : CreateAllocation)
  | reuse (alloc : ReuseBlobAllocation)
  | primary (alloc : PrimaryAllocation)
deriving DecidableEq

/-- The allocation data inside a payload, whatever wraps it. -/
def AllocationPayload.allocation : AllocationPayload → CreateAllocation
  | .plain alloc => alloc
  | .reuse alloc => alloc.allocation
  | .primary alloc => alloc.base.allocation

/-- `VIRTIO_WDDM_Allocate3dFull`. -/
structure Allocate3dFull where
  alloc : Allocate3d
  modifier : UINT64
  offsets : Vector UINT64 4
  strides : Vector UINT 4
  sizes : Vector UINT 4
  numPlanes : UINT
deriving DecidableEq

/-- `VIRTIO_WDDM_BlobInfo`. -/
structure BlobInfo where
  width : UINT
  height : UINT
  format : VirglFormat
  bind : UINT
  modifier : UINT64
  strides : Vector UINT 4
  offsets : Vector UINT 4
  dxgiFormat : UINT
deriving DecidableEq

/-- `VIRTIO_WDDM_AllocateBlobFull`. -/
structure AllocateBlobFull where
  blob : AllocateBlob := {}
  info : BlobInfo
  infoValid : Bool
  created : Bool
deriving DecidableEq

/-- `VIRTIO_WDDM_AllocationInfo`; `other` is a reply with an unknown tag. -/
inductive AllocationInfo where
  | alloc3d (info : Allocate3dFull)
  | blob (info : AllocateBlobFull)
  | other (tag : UINT64)
deriving DecidableEq

/-- `VIRTIO_WDDM_BlobInfoSet`. -/
structure BlobInfoSet where
  handle : D3DKMT_HANDLE
  blobInfo : BlobInfo
deriving DecidableEq

-- ============================================================================
-- Vulkan
-- ============================================================================

/-- `VkImageTiling`, the values the driver uses. -/
inductive VkImageTiling where
  | optimal
  | linear
  | drmFormatModifier
deriving DecidableEq

/-- `VkSubresourceLayout`, the members the driver reads or sets. -/
structure VkSubresourceLayout where
  offset : UINT64
  rowPitch : UINT64
deriving DecidableEq

/-- `VkImageDrmFormatModifierExplicitCreateInfoEXT`; `planeLayouts` is the filled
    part of the four-entry array `pPlaneLayouts` points to. -/
structure DrmFormatModifierInfo where
  drmFormatModifier : UINT64
  planeCount : UINT
  planeLayouts : List VkSubresourceLayout
deriving DecidableEq

/-- `VkImageCreateInfo` with the parts of its `pNext` chain that vary. -/
structure VkImageCreateInfo where
  viewFormats : List VkFormat
  modifierInfo : Option DrmFormatModifierInfo
  flags : UINT
  format : VkFormat
  extentWidth : UINT
  extentHeight : UINT
  extentDepth : UINT
  mipLevels : UINT
  arrayLayers : UINT
  samples : UINT
  tiling : VkImageTiling
  usage : UINT
deriving DecidableEq

/-- What `create_shared_vk_image` chains behind its allocation
    (`VkImportMemoryWin32HandleInfoKHR` with `VkD3DDDIOpenResource`, or
    `VkD3DDDICreateResource`). -/
inductive AllocNext where
  | importHandle (hRTResource : HANDLE) (handle : D3DKMT_HANDLE) (id : UINT)
      (info : AllocationInfo)
  | createResource (hRTResource : HANDLE)
deriving DecidableEq

/-- `VkMemoryAllocateInfo` with its chain. -/
structure VkMemoryAllocateInfo where
  allocationSize : UINT64
  memoryTypeIndex : Nat
  dedicatedImage : VkImage
  next : AllocNext
deriving DecidableEq

/-- `VkMemoryRequirements`. -/
structure VkMemoryRequirements where
  size : UINT64
  memoryTypeBits : UINT
deriving DecidableEq

end VirtioWddm
