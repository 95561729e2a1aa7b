/-
  VirtioWddm.Resource.SharedImage

  `create_shared_vk_image` of `resource.c`: create a Vulkan image whose memory can
  cross process boundaries, allocate the memory, bind the two.

  `SharedImageRun` lists every way a run can end, one constructor per exit of the
  C function; `runs_createSharedVkImage` is the only place that follows its text.
-/

import VirtioWddm.Device.RuntimeAlloc
import VirtioWddm.Resource.FormatTables

namespace VirtioWddm

open Lib

-- ============================================================================
-- Vulkan as seen by one call
-- ============================================================================

/-- The Vulkan calls an ICD may call the runtime-allocator hooks from. -/
inductive VkSite where
  | createImage
  | getImageMemoryRequirements2
  | getPhysicalDeviceMemoryProperties2
  | allocateMemory
  | bindImageMemory2
  | getMemoryWin32HandleKHR
  | destroyImage
  | freeMemory
deriving DecidableEq

/-- What Vulkan answers during one driver call, in which each of these is called
    at most once, and which hooks it calls meanwhile.  `getMemoryWin32Handle` is
    `none` when the device has no `vkGetMemoryWin32HandleKHR`. -/
structure VkEnv where
  createImage : Except VkError VkImage
  memoryRequirements : VkMemoryRequirements
  memoryTypes : List UINT
  allocateMemory : Except VkError VkDeviceMemory
  bindImageMemory : Except VkError Unit
  getMemoryWin32Handle : Option (Except VkError D3DKMT_HANDLE)
  subresourceLayout : VkSubresourceLayout
  hooks : VkSite → List HookCall

/-- A Vulkan call with an effect: the hooks it calls, then the event of its
    return. -/
def vkCall (env : VkEnv) (site : VkSite) (e : Event) : Call Unit := do
  runHooks (env.hooks site)
  emit e

/-- The state after a Vulkan call. -/
def CallState.vk (s : CallState) (env : VkEnv) (site : VkSite) (e : Event) : CallState :=
  (s.hooks (env.hooks site)).log [e]

@[simp] theorem runs_vkCall {env : VkEnv} {site : VkSite} {e : Event} {s s' : CallState}
    {u : Unit} : Runs (vkCall env site e) s u s' ↔ s' = s.vk env site e := by
  simp [vkCall, CallState.vk]

theorem total_vkCall (env : VkEnv) (site : VkSite) (e : Event) : Total (vkCall env site e) :=
  fun s => ⟨(), s.vk env site e, runs_vkCall.mpr rfl⟩

-- ============================================================================
-- vulkan_find_mem_type
-- ============================================================================

/-- The loop of `vulkan_find_mem_type`, from memory type `i` on. -/
def vulkanFindMemTypeFrom (flags reqBits : UINT) : Nat → List UINT → Option Nat
  | _, [] => none
  | i, propertyFlags :: rest =>
      if reqBits &&& (1#32 <<< i) ≠ 0#32 ∧ propertyFlags &&& flags = flags then
        some i
      else
        vulkanFindMemTypeFrom flags reqBits (i + 1) rest

/-- `vulkan_find_mem_type`: `none` is the `-1` of the C function. -/
def vulkanFindMemType (env : VkEnv) (flags reqBits : UINT) : Option Nat :=
  vulkanFindMemTypeFrom flags reqBits 0 env.memoryTypes

-- ============================================================================
-- create_shared_vk_image
-- ============================================================================

def VK_IMAGE_CREATE_MUTABLE_FORMAT_BIT : UINT := 0x00000008#32
def VK_IMAGE_CREATE_EXTENDED_USAGE_BIT : UINT := 0x00000100#32

def VK_IMAGE_USAGE_TRANSFER_SRC_BIT : UINT := 0x00000001#32
def VK_IMAGE_USAGE_TRANSFER_DST_BIT : UINT := 0x00000002#32
def VK_IMAGE_USAGE_SAMPLED_BIT : UINT := 0x00000004#32
def VK_IMAGE_USAGE_STORAGE_BIT : UINT := 0x00000008#32
def VK_IMAGE_USAGE_COLOR_ATTACHMENT_BIT : UINT := 0x00000010#32

/-- The `image_create_info` of `create_shared_vk_image`. -/
def sharedImageCreateInfo (desc : Texture2DDesc1) (tiling : VkImageTiling)
    (imageNext : Option DrmFormatModifierInfo) : VkImageCreateInfo :=
  let family := dxgiToVkFormatFamily desc.format
  { viewFormats := family.getD []
    modifierInfo := imageNext
    flags :=
      if family.isSome then
        VK_IMAGE_CREATE_EXTENDED_USAGE_BIT ||| VK_IMAGE_CREATE_MUTABLE_FORMAT_BIT
      else
        VK_IMAGE_CREATE_EXTENDED_USAGE_BIT
    format := dxgiToVkFormat desc.format
    extentWidth := desc.width
    extentHeight := desc.height
    extentDepth := 1
    mipLevels := desc.mipLevels
    arrayLayers := desc.arraySize
    samples := dxgiToVkSampleCount desc.sampleDesc.count
    tiling := tiling
    usage :=
      VK_IMAGE_USAGE_TRANSFER_SRC_BIT ||| VK_IMAGE_USAGE_TRANSFER_DST_BIT |||
        VK_IMAGE_USAGE_SAMPLED_BIT ||| VK_IMAGE_USAGE_STORAGE_BIT |||
        VK_IMAGE_USAGE_COLOR_ATTACHMENT_BIT }

/-- The `memory_alloc_info` of `create_shared_vk_image`. -/
def sharedMemoryAllocateInfo (env : VkEnv) (image : VkImage) (mem : Nat)
    (allocNext : AllocNext) : VkMemoryAllocateInfo :=
  { allocationSize := env.memoryRequirements.size
    memoryTypeIndex := mem
    dedicatedImage := image
    next := allocNext }

/-- The result code of `create_shared_vk_image` with its out-parameters `*image`,
    `*memory` and `*alloc`. -/
structure SharedImage where
  hr : HRESULT := S_OK
  image : Option VkImage := none
  memory : Option VkDeviceMemory := none
  alloc : D3DKMT_HANDLE := 0
deriving DecidableEq

/-- The `vkDestroyImage`, `vkFreeMemory` pair of the later error exits. -/
def releaseImageAndMemory (env : VkEnv) (image : VkImage) (memory : VkDeviceMemory) :
    Call Unit := do
  vkCall env .destroyImage (.destroyImage image)
  vkCall env .freeMemory (.freeMemory memory)

/-- The tail of `create_shared_vk_image` for `alloc != NULL`: export the memory
    handle. -/
def exportSharedMemory (env : VkEnv) (image : VkImage) (memory : VkDeviceMemory) :
    Call SharedImage :=
  match env.getMemoryWin32Handle with
  | none => do
      releaseImageAndMemory env image memory
      return { hr := E_NOTIMPL }
  | some result => do
      vkCall env .getMemoryWin32HandleKHR (.getMemoryWin32Handle memory result)
      match result with
      | .error _ => do
          releaseImageAndMemory env image memory
          return { hr := E_OUTOFMEMORY }
      | .ok h => return { image := some image, memory := some memory, alloc := h }

/-- The middle of `create_shared_vk_image`: allocate memory of type `mem` for the
    image and bind it. -/
def backSharedImage (env : VkEnv) (image : VkImage) (mem : Nat) (allocNext : AllocNext)
    (wantAlloc : Bool) : Call SharedImage := do
  let memoryAllocInfo := sharedMemoryAllocateInfo env image mem allocNext
  vkCall env .allocateMemory (.allocateMemory memoryAllocInfo env.allocateMemory)
  match env.allocateMemory with
  | .error _ => do
      vkCall env .destroyImage (.destroyImage image)
      return { hr := E_OUTOFMEMORY }
  | .ok memory => do
      vkCall env .bindImageMemory2 (.bindImageMemory image memory env.bindImageMemory)
      match env.bindImageMemory with
      | .error _ => do
          releaseImageAndMemory env image memory
          return { hr := E_OUTOFMEMORY }
      | .ok _ =>
          if wantAlloc then
            exportSharedMemory env image memory
          else
            return { image := some image, memory := some memory }

/-- `create_shared_vk_image`; `wantAlloc` is `alloc != NULL`. -/
def createSharedVkImage (env : VkEnv) (desc : Texture2DDesc1) (tiling : VkImageTiling)
    (imageNext : Option DrmFormatModifierInfo) (allocNext : AllocNext) (wantAlloc : Bool) :
    Call SharedImage := do
  let imageCreateInfo := sharedImageCreateInfo desc tiling imageNext
  if imageCreateInfo.format = .UNDEFINED then
    return { hr := E_OUTOFMEMORY }
  if imageCreateInfo.samples = 0#32 then
    return { hr := E_OUTOFMEMORY }
  vkCall env .createImage (.createImage imageCreateInfo env.createImage)
  match env.createImage with
  | .error _ => return { hr := E_OUTOFMEMORY }
  | .ok image => do
      runHooks (env.hooks .getImageMemoryRequirements2)
      runHooks (env.hooks .getPhysicalDeviceMemoryProperties2)
      match vulkanFindMemType env 0#32 env.memoryRequirements.memoryTypeBits with
      -- this exit alone leaves the new image in `*image`
      | none => return { hr := E_OUTOFMEMORY, image := some image }
      | some mem => backSharedImage env image mem allocNext wantAlloc

-- ============================================================================
-- How a run can end
-- ============================================================================

/-- The state once the image exists and its requirements have been read. -/
def CallState.imageCreated (s : CallState) (env : VkEnv) (info : VkImageCreateInfo)
    (image : VkImage) : CallState :=
  ((s.vk env .createImage (.createImage info (.ok image))).hooks
    (env.hooks .getImageMemoryRequirements2)).hooks
      (env.hooks .getPhysicalDeviceMemoryProperties2)

/-- The state once image and memory exist and `vkBindImageMemory2` has
    returned. -/
def CallState.imageBacked (s : CallState) (env : VkEnv) (info : VkImageCreateInfo)
    (allocNext : AllocNext) (image : VkImage) (mem : Nat) (memory : VkDeviceMemory) :
    CallState :=
  ((s.imageCreated env info image).vk env .allocateMemory
    (.allocateMemory (sharedMemoryAllocateInfo env image mem allocNext) (.ok memory))).vk
      env .bindImageMemory2 (.bindImageMemory image memory env.bindImageMemory)

/-- The state after the `vkDestroyImage`, `vkFreeMemory` pair. -/
def CallState.imageReleased (s : CallState) (env : VkEnv) (image : VkImage)
    (memory : VkDeviceMemory) : CallState :=
  (s.vk env .destroyImage (.destroyImage image)).vk env .freeMemory (.freeMemory memory)

/-- The description passed both checks: Vulkan knows its format and its sample
    count. -/
structure ImageSupported (info : VkImageCreateInfo) : Prop where
  format : info.format ≠ .UNDEFINED
  samples : info.samples ≠ 0#32

/-- The image exists and memory type `mem` fits it. -/
structure ImageReady (env : VkEnv) (info : VkImageCreateInfo) (image : VkImage) (mem : Nat) :
    Prop extends ImageSupported info where
  created : env.createImage = .ok image
  memType : vulkanFindMemType env 0#32 env.memoryRequirements.memoryTypeBits = some mem

/-- Image and memory exist and are bound. -/
structure ImageBound (env : VkEnv) (info : VkImageCreateInfo) (image : VkImage) (mem : Nat)
    (memory : VkDeviceMemory) : Prop extends ImageReady env info image mem where
  allocated : env.allocateMemory = .ok memory
  bound : env.bindImageMemory = .ok ()

/-- The exits of `create_shared_vk_image` from state `s`. -/
inductive SharedImageRun (env : VkEnv) (info : VkImageCreateInfo) (allocNext : AllocNext)
    (wantAlloc : Bool) (s : CallState) : SharedImage → CallState → Prop where
  | unsupported (h : info.format = .UNDEFINED ∨ info.samples = 0#32) :
      SharedImageRun env info allocNext wantAlloc s { hr := E_OUTOFMEMORY } s
  | createFailed (h : ImageSupported info) (e : VkError) (hc : env.createImage = .error e) :
      SharedImageRun env info allocNext wantAlloc s { hr := E_OUTOFMEMORY }
        (s.vk env .createImage (.createImage info (.error e)))
  | noMemoryType (h : ImageSupported info) (image : VkImage) (hc : env.createImage = .ok image)
      (hm : vulkanFindMemType env 0#32 env.memoryRequirements.memoryTypeBits = none) :
      SharedImageRun env info allocNext wantAlloc s
        { hr := E_OUTOFMEMORY, image := some image } (s.imageCreated env info image)
  | allocateFailed (image : VkImage) (mem : Nat) (h : ImageReady env info image mem)
      (e : VkError) (ha : env.allocateMemory = .error e) :
      SharedImageRun env info allocNext wantAlloc s { hr := E_OUTOFMEMORY }
        (((s.imageCreated env info image).vk env .allocateMemory
          (.allocateMemory (sharedMemoryAllocateInfo env image mem allocNext) (.error e))).vk
            env .destroyImage (.destroyImage image))
  | bindFailed (image : VkImage) (mem : Nat) (h : ImageReady env info image mem)
      (memory : VkDeviceMemory) (ha : env.allocateMemory = .ok memory)
      (e : VkError) (hb : env.bindImageMemory = .error e) :
      SharedImageRun env info allocNext wantAlloc s { hr := E_OUTOFMEMORY }
        ((s.imageBacked env info allocNext image mem memory).imageReleased env image memory)
  | created (image : VkImage) (mem : Nat) (memory : VkDeviceMemory)
      (h : ImageBound env info image mem memory) (hw : wantAlloc = false) :
      SharedImageRun env info allocNext wantAlloc s
        { image := some image, memory := some memory }
        (s.imageBacked env info allocNext image mem memory)
  | exportUnavailable (image : VkImage) (mem : Nat) (memory : VkDeviceMemory)
      (h : ImageBound env info image mem memory) (hw : wantAlloc = true)
      (hx : env.getMemoryWin32Handle = none) :
      SharedImageRun env info allocNext wantAlloc s { hr := E_NOTIMPL }
        ((s.imageBacked env info allocNext image mem memory).imageReleased env image memory)
  | exportFailed (image : VkImage) (mem : Nat) (memory : VkDeviceMemory)
      (h : ImageBound env info image mem memory) (hw : wantAlloc = true)
      (e : VkError) (hx : env.getMemoryWin32Handle = some (.error e)) :
      SharedImageRun env info allocNext wantAlloc s { hr := E_OUTOFMEMORY }
        (((s.imageBacked env info allocNext image mem memory).vk env .getMemoryWin32HandleKHR
          (.getMemoryWin32Handle memory (.error e))).imageReleased env image memory)
  | exported (image : VkImage) (mem : Nat) (memory : VkDeviceMemory)
      (h : ImageBound env info image mem memory) (hw : wantAlloc = true)
      (handle : D3DKMT_HANDLE) (hx : env.getMemoryWin32Handle = some (.ok handle)) :
      SharedImageRun env info allocNext wantAlloc s
        { image := some image, memory := some memory, alloc := handle }
        ((s.imageBacked env info allocNext image mem memory).vk env .getMemoryWin32HandleKHR
          (.getMemoryWin32Handle memory (.ok handle)))

/-- The exits after a successful bind. -/
theorem runs_exportSharedMemory {env : VkEnv} {info : VkImageCreateInfo}
    {allocNext : AllocNext} {image : VkImage} {mem : Nat} {memory : VkDeviceMemory}
    {s s' : CallState} {r : SharedImage} (hbound : ImageBound env info image mem memory)
    (h : Runs (exportSharedMemory env image memory)
      (s.imageBacked env info allocNext image mem memory) r s') :
    SharedImageRun env info allocNext true s r s' := by
  unfold exportSharedMemory at h
  cases hx : env.getMemoryWin32Handle with
  | none =>
      simp only [hx, releaseImageAndMemory, runs_bind, runs_vkCall, runs_pure] at h
      obtain ⟨u₁, s₁, ⟨u₂, s₂, rfl, rfl⟩, rfl, rfl⟩ := h
      exact .exportUnavailable image mem memory hbound rfl hx
  | some result =>
      simp only [hx, runs_bind, runs_vkCall] at h
      obtain ⟨u₁, s₁, rfl, h⟩ := h
      cases result with
      | error e =>
          simp only [releaseImageAndMemory, runs_bind, runs_vkCall, runs_pure] at h
          obtain ⟨u₂, s₂, ⟨u₃, s₃, rfl, rfl⟩, rfl, rfl⟩ := h
          exact .exportFailed image mem memory hbound rfl e hx
      | ok handle =>
          obtain ⟨rfl, rfl⟩ := runs_pure.mp h
          exact .exported image mem memory hbound rfl handle hx

/-- The exits once the image and a memory type for it are there. -/
theorem runs_backSharedImage {env : VkEnv} {info : VkImageCreateInfo} {allocNext : AllocNext}
    {wantAlloc : Bool} {image : VkImage} {mem : Nat} {s s' : CallState} {r : SharedImage}
    (hready : ImageReady env info image mem)
    (h : Runs (backSharedImage env image mem allocNext wantAlloc) (s.imageCreated env info image)
      r s') :
    SharedImageRun env info allocNext wantAlloc s r s' := by
  simp only [backSharedImage, runs_bind, runs_vkCall] at h
  obtain ⟨u₁, s₁, rfl, h⟩ := h
  cases ha : env.allocateMemory with
  | error e =>
      simp only [ha, runs_bind, runs_vkCall, runs_pure] at h
      obtain ⟨u₂, s₂, rfl, rfl, rfl⟩ := h
      exact .allocateFailed image mem hready e ha
  | ok memory =>
      simp only [ha, runs_bind, runs_vkCall] at h
      obtain ⟨u₂, s₂, rfl, h⟩ := h
      cases hb : env.bindImageMemory with
      | error e =>
          simp only [hb, releaseImageAndMemory, runs_bind, runs_vkCall, runs_pure] at h
          obtain ⟨u₃, s₃, ⟨u₄, s₄, rfl, rfl⟩, rfl, rfl⟩ := h
          rw [← hb]
          exact .bindFailed image mem hready memory ha e hb
      | ok v =>
          have hbound : ImageBound env info image mem memory :=
            { hready with allocated := ha, bound := hb }
          simp only [hb, runs_ite] at h
          rw [← hb] at h
          split at h
          case isTrue hw =>
            rw [hw]
            exact runs_exportSharedMemory hbound h
          case isFalse hw =>
            obtain ⟨rfl, rfl⟩ := runs_pure.mp h
            exact .created image mem memory hbound (by simpa using hw)

/-- Every run of `create_shared_vk_image` ends at one of the listed exits. -/
theorem runs_createSharedVkImage {env : VkEnv} {desc : Texture2DDesc1} {tiling : VkImageTiling}
    {imageNext : Option DrmFormatModifierInfo} {allocNext : AllocNext} {wantAlloc : Bool}
    {s s' : CallState} {r : SharedImage}
    (h : Runs (createSharedVkImage env desc tiling imageNext allocNext wantAlloc) s r s') :
    SharedImageRun env (sharedImageCreateInfo desc tiling imageNext) allocNext wantAlloc
      s r s' := by
  simp only [createSharedVkImage, runs_ite] at h
  generalize sharedImageCreateInfo desc tiling imageNext = info at h ⊢
  split at h
  case isTrue hf =>
    obtain ⟨rfl, rfl⟩ := runs_pure.mp h
    exact .unsupported (.inl hf)
  case isFalse hf =>
  split at h
  case isTrue hs =>
    obtain ⟨rfl, rfl⟩ := runs_pure.mp h
    exact .unsupported (.inr hs)
  case isFalse hs =>
  simp only [runs_bind, runs_vkCall] at h
  obtain ⟨u₁, s₁, rfl, h⟩ := h
  cases hc : env.createImage with
  | error e =>
      simp only [hc, runs_pure] at h
      obtain ⟨rfl, rfl⟩ := h
      exact .createFailed ⟨hf, hs⟩ e hc
  | ok image =>
      simp only [hc, runs_bind, runs_runHooks] at h
      obtain ⟨u₂, s₂, rfl, u₃, s₃, rfl, h⟩ := h
      cases hm : vulkanFindMemType env 0#32 env.memoryRequirements.memoryTypeBits with
      | none =>
          simp only [hm, runs_pure] at h
          obtain ⟨rfl, rfl⟩ := h
          exact .noMemoryType ⟨hf, hs⟩ image hc hm
      | some mem =>
          simp only [hm] at h
          exact runs_backSharedImage ⟨⟨hf, hs⟩, hc, hm⟩ h

/-- The events of `create_shared_vk_image`: its own Vulkan calls and what hooks
    leave meanwhile. -/
def Event.isVulkan : Event → Bool
  | .createImage _ _ => true
  | .destroyImage _ => true
  | .allocateMemory _ _ => true
  | .freeMemory _ => true
  | .bindImageMemory _ _ _ => true
  | .getMemoryWin32Handle _ _ => true
  | e => e.isHookTraffic

theorem isVulkan_of_isHookTraffic {e : Event} (h : e.isHookTraffic = true) :
    e.isVulkan = true := by
  cases e <;> first
    | exact h
    | simp [Event.isHookTraffic] at h

theorem Grows.vk {P : Event → Prop} (hP : ∀ e, e.isHookTraffic = true → P e) {s : CallState}
    {env : VkEnv} {site : VkSite} {e : Event} (he : P e) : Grows P s (s.vk env site e) :=
  (Grows.hooks hP s _).trans (.log (by simpa using he))

section Grows

variable {P : Event → Prop} (hP : ∀ e, e.isHookTraffic = true → P e)
include hP

theorem Grows.imageReady {s : CallState} {env : VkEnv} {info : VkImageCreateInfo}
    {image : VkImage} :
    Grows P (s.vk env .createImage (.createImage info (.ok image)))
      (s.imageCreated env info image) :=
  (Grows.hooks hP _ _).trans (.hooks hP _ _)

theorem Grows.imageBound {s : CallState} {env : VkEnv} {info : VkImageCreateInfo}
    {allocNext : AllocNext} {image : VkImage} {mem : Nat} {memory : VkDeviceMemory}
    (ha : ∀ i r, P (.allocateMemory i r)) (hb : ∀ i m r, P (.bindImageMemory i m r)) :
    Grows P (s.imageCreated env info image)
      (s.imageBacked env info allocNext image mem memory) :=
  (Grows.vk hP (ha _ _)).trans (.vk hP (hb _ _ _))

theorem Grows.imageReleased {s : CallState} {env : VkEnv} {image : VkImage}
    {memory : VkDeviceMemory} (hd : ∀ i, P (.destroyImage i)) (hf : ∀ m, P (.freeMemory m)) :
    Grows P s (s.imageReleased env image memory) :=
  (Grows.vk hP (hd _)).trans (.vk hP (hf _))

/-- Before `vkCreateImage` nothing happens; after it, only events with any
    property that the hook events and the later Vulkan calls have. -/
theorem SharedImageRun.after_create {env : VkEnv} {info : VkImageCreateInfo}
    {allocNext : AllocNext} {wantAlloc : Bool} {s s' : CallState} {r : SharedImage}
    (h : SharedImageRun env info allocNext wantAlloc s r s')
    (ha : ∀ i r, P (.allocateMemory i r)) (hb : ∀ i m r, P (.bindImageMemory i m r))
    (hd : ∀ i, P (.destroyImage i)) (hf : ∀ m, P (.freeMemory m))
    (hg : ∀ m r, P (.getMemoryWin32Handle m r)) :
    ((info.format = .UNDEFINED ∨ info.samples = 0#32) ∧ s' = s) ∨
    (ImageSupported info ∧
      Grows P (s.vk env .createImage (.createImage info env.createImage)) s') := by
  have hbacked : ∀ image mem memory,
      Grows P (s.vk env .createImage (.createImage info (.ok image)))
        (s.imageBacked env info allocNext image mem memory) :=
    fun image mem memory => (Grows.imageReady hP).trans (.imageBound hP ha hb)
  have hreleased : ∀ t image memory, Grows P t (CallState.imageReleased t env image memory) :=
    fun t image memory => .imageReleased hP hd hf
  cases h with
  | unsupported h => exact .inl ⟨h, rfl⟩
  | createFailed h e hc => exact .inr ⟨h, hc ▸ .refl _⟩
  | noMemoryType h image hc hm => exact .inr ⟨h, hc ▸ .imageReady hP⟩
  | allocateFailed image mem h e he =>
      refine .inr ⟨h.toImageSupported, h.created ▸ ?_⟩
      exact (Grows.imageReady hP).trans ((Grows.vk hP (ha _ _)).trans (.vk hP (hd _)))
  | bindFailed image mem h memory he e hbe =>
      exact .inr ⟨h.toImageSupported, h.created ▸ (hbacked ..).trans (hreleased ..)⟩
  | created image mem memory h hw =>
      exact .inr ⟨h.toImageSupported, h.created ▸ hbacked ..⟩
  | exportUnavailable image mem memory h hw hx =>
      exact .inr ⟨h.toImageSupported, h.created ▸ (hbacked ..).trans (hreleased ..)⟩
  | exportFailed image mem memory h hw e hx =>
      exact .inr ⟨h.toImageSupported,
        h.created ▸ ((hbacked ..).trans (.vk hP (hg _ _))).trans (hreleased ..)⟩
  | exported image mem memory h hw handle hx =>
      exact .inr ⟨h.toImageSupported, h.created ▸ (hbacked ..).trans (.vk hP (hg _ _))⟩

end Grows

/-- Every event of `create_shared_vk_image` is a Vulkan call or hook traffic. -/
theorem SharedImageRun.grows {env : VkEnv} {info : VkImageCreateInfo} {allocNext : AllocNext}
    {wantAlloc : Bool} {s s' : CallState} {r : SharedImage}
    (h : SharedImageRun env info allocNext wantAlloc s r s') :
    Grows (fun e => e.isVulkan = true) s s' := by
  have hhooks : ∀ e : Event, e.isHookTraffic = true → e.isVulkan = true :=
    fun _ => isVulkan_of_isHookTraffic
  rcases h.after_create hhooks (fun _ _ => rfl) (fun _ _ _ => rfl) (fun _ => rfl) (fun _ => rfl)
    (fun _ _ => rfl) with ⟨-, rfl⟩ | ⟨-, hgrows⟩
  · exact .refl _
  · exact (Grows.vk hhooks rfl).trans hgrows

/-- An invariant of the hooks and of the Vulkan calls themselves is one of
    `create_shared_vk_image`. -/
theorem SharedImageRun.preserves {I : CallState → Prop} {env : VkEnv} {info : VkImageCreateInfo}
    {allocNext : AllocNext} {wantAlloc : Bool} {s s' : CallState} {r : SharedImage}
    (h : SharedImageRun env info allocNext wantAlloc s r s')
    (hhooks : ∀ t cs, I t → I (t.hooks cs))
    (hcall : ∀ t e, e.isVulkan = true → e.isHookTraffic = false → I t → I (t.log [e]))
    (hs : I s) : I s' := by
  have hvk : ∀ {t site e}, e.isVulkan = true → e.isHookTraffic = false → I t →
      I (t.vk env site e) := fun he hno ht => hcall _ _ he hno (hhooks _ _ ht)
  have hcreated : ∀ image, I (s.imageCreated env info image) :=
    fun image => hhooks _ _ (hhooks _ _ (hvk rfl rfl hs))
  have hbacked : ∀ image mem memory, I (s.imageBacked env info allocNext image mem memory) :=
    fun image mem memory => hvk rfl rfl (hvk rfl rfl (hcreated image))
  have hreleased : ∀ {t} image memory, I t → I (t.imageReleased env image memory) :=
    fun image memory ht => hvk rfl rfl (hvk rfl rfl ht)
  cases h with
  | unsupported => exact hs
  | createFailed => exact hvk rfl rfl hs
  | noMemoryType => exact hcreated _
  | allocateFailed => exact hvk rfl rfl (hvk rfl rfl (hcreated _))
  | bindFailed => exact hreleased _ _ (hbacked ..)
  | created => exact hbacked ..
  | exportUnavailable => exact hreleased _ _ (hbacked ..)
  | exportFailed => exact hreleased _ _ (hvk rfl rfl (hbacked ..))
  | exported => exact hvk rfl rfl (hbacked ..)

/-- What a successful run of `create_shared_vk_image` went through. -/
theorem SharedImageRun.bound_of_ok {env : VkEnv} {info : VkImageCreateInfo}
    {allocNext : AllocNext} {wantAlloc : Bool} {s s' : CallState} {r : SharedImage}
    (h : SharedImageRun env info allocNext wantAlloc s r s') (hok : failed r.hr = false) :
    ∃ image mem memory, ImageBound env info image mem memory ∧ r.image = some image ∧
      r.memory = some memory := by
  cases h with
  | unsupported => simp at hok
  | createFailed => simp at hok
  | noMemoryType => simp at hok
  | allocateFailed => simp at hok
  | bindFailed => simp at hok
  | created image mem memory h hw => exact ⟨image, mem, memory, h, rfl, rfl⟩
  | exportUnavailable => simp at hok
  | exportFailed => simp at hok
  | exported image mem memory h hw handle hx => exact ⟨image, mem, memory, h, rfl, rfl⟩

/-- The images a trace created or tried to create. -/
def imageInfos (trace : List Event) : List VkImageCreateInfo :=
  trace.filterMap fun
    | .createImage info _ => some info
    | _ => none

/-- `create_shared_vk_image` calls `vkCreateImage` once, for a description Vulkan
    has a format and a sample count for. -/
theorem SharedImageRun.imageInfos_eq {env : VkEnv} {info : VkImageCreateInfo}
    {allocNext : AllocNext} {wantAlloc : Bool} {s s' : CallState} {r : SharedImage}
    (h : SharedImageRun env info allocNext wantAlloc s r s') :
    ((info.format = .UNDEFINED ∨ info.samples = 0#32) ∧ imageInfos s'.trace = imageInfos s.trace) ∨
    (ImageSupported info ∧ imageInfos s'.trace = imageInfos s.trace ++ [info]) := by
  let P : Event → Prop := fun e => ∀ i r, e ≠ .createImage i r
  have hblind : ∀ e, P e → (match e with
      | Event.createImage info _ => some info
      | _ => none) = none := by
    intro e he
    cases e <;> first
      | rfl
      | exact absurd rfl (he _ _)
  have hhooks : ∀ e : Event, e.isHookTraffic = true → P e := by
    rintro e he i r rfl
    simp [Event.isHookTraffic] at he
  rcases h.after_create hhooks (fun _ _ _ _ h => nomatch h) (fun _ _ _ _ _ h => nomatch h)
    (fun _ _ _ h => nomatch h) (fun _ _ _ h => nomatch h) (fun _ _ _ _ h => nomatch h)
    with ⟨hun, rfl⟩ | ⟨hsup, hgrows⟩
  · exact .inl ⟨hun, rfl⟩
  · refine .inr ⟨hsup, ?_⟩
    unfold imageInfos
    rw [hgrows.filterMap_eq hblind, CallState.vk, CallState.log_trace, List.filterMap_append,
      (Grows.hooks hhooks s _).filterMap_eq hblind]
    rfl

theorem total_releaseImageAndMemory (env : VkEnv) (image : VkImage) (memory : VkDeviceMemory) :
    Total (releaseImageAndMemory env image memory) :=
  (total_vkCall _ _ _).bind fun _ => total_vkCall _ _ _

/-- `create_shared_vk_image` returns whatever Vulkan answers. -/
theorem total_createSharedVkImage (env : VkEnv) (desc : Texture2DDesc1) (tiling : VkImageTiling)
    (imageNext : Option DrmFormatModifierInfo) (allocNext : AllocNext) (wantAlloc : Bool) :
    Total (createSharedVkImage env desc tiling imageNext allocNext wantAlloc) := by
  have hexport : ∀ image memory, Total (exportSharedMemory env image memory) := by
    intro image memory
    unfold exportSharedMemory
    cases env.getMemoryWin32Handle with
    | none => exact (total_releaseImageAndMemory _ _ _).bind fun _ => .pure _
    | some result =>
        refine (total_vkCall _ _ _).bind fun _ => ?_
        cases result with
        | error e => exact (total_releaseImageAndMemory _ _ _).bind fun _ => .pure _
        | ok h => exact .pure _
  have hback : ∀ image mem, Total (backSharedImage env image mem allocNext wantAlloc) := by
    intro image mem
    refine (total_vkCall _ _ _).bind fun _ => ?_
    cases env.allocateMemory with
    | error e => exact (total_vkCall _ _ _).bind fun _ => .pure _
    | ok memory =>
        refine (total_vkCall _ _ _).bind fun _ => ?_
        cases env.bindImageMemory with
        | error e => exact (total_releaseImageAndMemory _ _ _).bind fun _ => .pure _
        | ok v => exact .ite (fun _ => hexport image memory) fun _ => .pure _
  refine .ite (fun _ => .pure _) fun _ => .ite (fun _ => .pure _) fun _ => ?_
  refine (total_vkCall _ _ _).bind fun _ => ?_
  cases env.createImage with
  | error e => exact .pure _
  | ok image =>
      refine (total_runHooks _).bind fun _ => (total_runHooks _).bind fun _ => ?_
      cases vulkanFindMemType env 0#32 env.memoryRequirements.memoryTypeBits with
      | none => exact .pure _
      | some mem => exact hback image mem

end VirtioWddm
