/-
  VirtioWddm.Resource.Failure

  Which failing CreateResource and OpenResource calls give back what they took.

  `CleanExit` is a condition on the arguments of a call and the outcomes it meets;
  it names the exits that undo everything, and the theorem says there are no
  others.  `Holds` tracks the four ledgers through the parts of a call.
-/

import VirtioWddm.Resource.Holdings
import VirtioWddm.Resource.ShareRoundTrip

namespace VirtioWddm

open Lib

-- ============================================================================
-- create_shared_vk_image
-- ============================================================================

/-- Vulkan has a format and a sample count for the description. -/
def DescSupported (desc : Texture2DDesc1) : Prop :=
  dxgiToVkFormat desc.format ≠ .UNDEFINED ∧ dxgiToVkSampleCount desc.sampleDesc.count ≠ 0#32

instance (desc : Texture2DDesc1) : Decidable (DescSupported desc) :=
  inferInstanceAs (Decidable (_ ∧ _))

theorem imageSupported_iff {desc : Texture2DDesc1} {tiling : VkImageTiling}
    {imageNext : Option DrmFormatModifierInfo} :
    ImageSupported (sharedImageCreateInfo desc tiling imageNext) ↔ DescSupported desc :=
  ⟨fun h => ⟨h.format, h.samples⟩, fun h => ⟨h.1, h.2⟩⟩

/-- The hook calls made while `create_shared_vk_image` runs, in order. -/
def imageHooks (env : VkEnv) (desc : Texture2DDesc1) : List HookCall :=
  if DescSupported desc then
    env.hooks .createImage ++
    match env.createImage with
    | .error _ => []
    | .ok _ =>
        env.hooks .getImageMemoryRequirements2 ++ env.hooks .getPhysicalDeviceMemoryProperties2 ++
        match vulkanFindMemType env 0#32 env.memoryRequirements.memoryTypeBits with
        | none => []
        | some _ =>
            env.hooks .allocateMemory ++
            match env.allocateMemory with
            | .error _ => env.hooks .destroyImage
            | .ok _ =>
                env.hooks .bindImageMemory2 ++
                match env.bindImageMemory with
                | .error _ => env.hooks .destroyImage ++ env.hooks .freeMemory
                | .ok _ => []
  else
    []

/-- `create_shared_vk_image` fails and destroys what it created: the description is
    unsupported, the image cannot be created, or a memory type is found and
    allocating or binding fails. -/
def ImageUndone (env : VkEnv) (desc : Texture2DDesc1) : Prop :=
  ¬DescSupported desc ∨ (∃ e, env.createImage = .error e) ∨
    ((vulkanFindMemType env 0#32 env.memoryRequirements.memoryTypeBits).isSome = true ∧
      ((∃ e, env.allocateMemory = .error e) ∨ ∃ e, env.bindImageMemory = .error e))

/-- What is held at some point of a call. -/
structure Holds (trace : List Event) (initData : List Unit) (kernel : List KernelAllocation)
    (images : List VkImage) (memories : List VkDeviceMemory) : Prop where
  initData : initDataLedger.held trace = initData
  kernel : kernelLedger.held trace = kernel
  images : imageLedger.held trace = images
  memories : memoryLedger.held trace = memories

theorem Holds.nothing_iff {trace : List Event} {i : List Unit} {k : List KernelAllocation}
    {im : List VkImage} {m : List VkDeviceMemory} (h : Holds trace i k im m) :
    NothingHeld trace ↔ i = [] ∧ k = [] ∧ im = [] ∧ m = [] := by
  constructor
  · intro hn
    exact ⟨h.initData ▸ hn.initData, h.kernel ▸ hn.kernel, h.images ▸ hn.images,
      h.memories ▸ hn.memories⟩
  · rintro ⟨rfl, rfl, rfl, rfl⟩
    exact ⟨h.initData, h.kernel, h.images, h.memories⟩

/-- What is held after more events. -/
theorem Holds.events {s : CallState} {i : List Unit} {k : List KernelAllocation}
    {im : List VkImage} {m : List VkDeviceMemory} (h : Holds s.trace i k im m)
    (evs : List Event) :
    Holds (s.log evs).trace (initDataLedger.heldFrom i evs) (kernelLedger.heldFrom k evs)
      (imageLedger.heldFrom im evs) (memoryLedger.heldFrom m evs) :=
  { initData := by rw [held_log, h.initData]
    kernel := by rw [held_log, h.kernel]
    images := by rw [held_log, h.images]
    memories := by rw [held_log, h.memories] }

/-- Events none of the four ledgers sees. -/
theorem Holds.log {s : CallState} {evs : List Event} {i : List Unit} {k : List KernelAllocation}
    {im : List VkImage} {m : List VkDeviceMemory} (h : Holds s.trace i k im m)
    (hevs : ∀ e ∈ evs, e.isTail = true ∧ initDataLedger.Neutral e) :
    Holds (s.log evs).trace i k im m := by
  have hlog := h.events evs
  rwa [initDataLedger.heldFrom_neutral fun e he => (hevs e he).2,
    kernelLedger.heldFrom_neutral fun e he => (neutral_of_isTail (hevs e he).1).1,
    imageLedger.heldFrom_neutral fun e he => (neutral_of_isTail (hevs e he).1).2.1,
    memoryLedger.heldFrom_neutral fun e he => (neutral_of_isTail (hevs e he).1).2.2] at hlog

/-- The error report that ends a failing call. -/
theorem Holds.setError {s : CallState} {i : List Unit} {k : List KernelAllocation}
    {im : List VkImage} {m : List VkDeviceMemory} (h : Holds s.trace i k im m) (hr : HRESULT) :
    Holds (s.log [.setError hr]).trace i k im m :=
  h.log (List.forall_mem_singleton.mpr ⟨rfl, rfl, fun _ => rfl⟩)

/-- The kernel allocations held after `create_shared_vk_image`. -/
theorem SharedImageRun.held_kernel {env : VkEnv} {desc : Texture2DDesc1}
    {tiling : VkImageTiling} {imageNext : Option DrmFormatModifierInfo} {allocNext : AllocNext}
    {s s' : CallState} {r : SharedImage}
    (h : SharedImageRun env (sharedImageCreateInfo desc tiling imageNext) allocNext false s r s') :
    kernelLedger.held s'.trace =
      hookAllocations.heldFrom (kernelLedger.held s.trace) (imageHooks env desc) := by
  have hvk : ∀ (t : CallState) (site : VkSite) (e : Event), kernelLedger.Neutral e →
      kernelLedger.held (t.vk env site e).trace =
        hookAllocations.heldFrom (kernelLedger.held t.trace) (env.hooks site) :=
    fun t site e he => kernelLedger_vk t env site he
  have hcreate : ∀ i r, kernelLedger.Neutral (.createImage i r) := fun _ _ => ⟨rfl, fun _ => rfl⟩
  have halloc : ∀ i r, kernelLedger.Neutral (.allocateMemory i r) :=
    fun _ _ => ⟨rfl, fun _ => rfl⟩
  have hbind : ∀ i m r, kernelLedger.Neutral (.bindImageMemory i m r) :=
    fun _ _ _ => ⟨rfl, fun _ => rfl⟩
  have hdestroy : ∀ i, kernelLedger.Neutral (.destroyImage i) := fun _ => ⟨rfl, fun _ => rfl⟩
  have hfree : ∀ m, kernelLedger.Neutral (.freeMemory m) := fun _ => ⟨rfl, fun _ => rfl⟩
  cases h with
  | unsupported h =>
      have hun : ¬DescSupported desc := fun hd => h.elim hd.1 hd.2
      simp [imageHooks, hun]
  | createFailed h e hc =>
      simp [imageHooks, imageSupported_iff.mp h, hc, hvk, hcreate]
  | noMemoryType h image hc hm =>
      simp only [imageHooks, imageSupported_iff.mp h, hc, hm, CallState.imageCreated,
        kernelLedger_hooks, hvk _ _ _ (hcreate _ _), Ledger.heldFrom_append, if_true,
        List.append_nil]
  | allocateFailed image mem h e ha =>
      simp only [imageHooks, imageSupported_iff.mp h.toImageSupported, h.created, h.memType, ha,
        CallState.imageCreated, kernelLedger_hooks, hvk _ _ _ (hcreate _ _),
        hvk _ _ _ (halloc _ _), hvk _ _ _ (hdestroy _), Ledger.heldFrom_append, if_true]
  | bindFailed image mem h memory ha e hb =>
      simp only [imageHooks, imageSupported_iff.mp h.toImageSupported, h.created, h.memType, ha,
        hb, CallState.imageCreated, CallState.imageBacked, CallState.imageReleased,
        kernelLedger_hooks, hvk _ _ _ (hcreate _ _), hvk _ _ _ (halloc _ _),
        hvk _ _ _ (hbind _ _ _), hvk _ _ _ (hdestroy _), hvk _ _ _ (hfree _),
        Ledger.heldFrom_append, if_true]
  | created image mem memory h hw =>
      simp only [imageHooks, imageSupported_iff.mp h.toImageSupported, h.created, h.memType,
        h.allocated, h.bound, CallState.imageCreated, CallState.imageBacked,
        kernelLedger_hooks, hvk _ _ _ (hcreate _ _), hvk _ _ _ (halloc _ _),
        hvk _ _ _ (hbind _ _ _), Ledger.heldFrom_append, if_true, List.append_nil]
  | exportUnavailable image mem memory h hw => simp at hw
  | exportFailed image mem memory h hw => simp at hw
  | exported image mem memory h hw => simp at hw

/-- `create_shared_vk_image` hands out no image exactly when it undid everything,
    and then no memory either. -/
theorem SharedImageRun.image_none_iff {env : VkEnv} {desc : Texture2DDesc1}
    {tiling : VkImageTiling} {imageNext : Option DrmFormatModifierInfo} {allocNext : AllocNext}
    {s s' : CallState} {r : SharedImage}
    (h : SharedImageRun env (sharedImageCreateInfo desc tiling imageNext) allocNext false s r s') :
    (r.image = none ↔ ImageUndone env desc) ∧ (r.image = none → r.memory = none) := by
  cases h with
  | unsupported h =>
      have hun : ¬DescSupported desc := fun hd => h.elim hd.1 hd.2
      exact ⟨⟨fun _ => .inl hun, fun _ => rfl⟩, fun _ => rfl⟩
  | createFailed h e hc => exact ⟨⟨fun _ => .inr (.inl ⟨e, hc⟩), fun _ => rfl⟩, fun _ => rfl⟩
  | noMemoryType h image hc hm => simp [ImageUndone, imageSupported_iff.mp h, hc, hm]
  | allocateFailed image mem h e ha =>
      refine ⟨⟨fun _ => .inr (.inr ⟨?_, .inl ⟨e, ha⟩⟩), fun _ => rfl⟩, fun _ => rfl⟩
      rw [h.memType]
      rfl
  | bindFailed image mem h memory ha e hb =>
      refine ⟨⟨fun _ => .inr (.inr ⟨?_, .inr ⟨e, hb⟩⟩), fun _ => rfl⟩, fun _ => rfl⟩
      rw [h.memType]
      rfl
  | created image mem memory h hw =>
      simp [ImageUndone, imageSupported_iff.mp h.toImageSupported, h.created, h.allocated, h.bound]
  | exportUnavailable image mem memory h hw => simp at hw
  | exportFailed image mem memory h hw => simp at hw
  | exported image mem memory h hw => simp at hw

/-- What is held after `create_shared_vk_image`. -/
theorem SharedImageRun.holds {env : VkEnv} {desc : Texture2DDesc1} {tiling : VkImageTiling}
    {imageNext : Option DrmFormatModifierInfo} {allocNext : AllocNext} {s s' : CallState}
    {r : SharedImage} {i : List Unit} {k : List KernelAllocation}
    (h : SharedImageRun env (sharedImageCreateInfo desc tiling imageNext) allocNext false s r s')
    (hs : Holds s.trace i k [] []) :
    Holds s'.trace i (hookAllocations.heldFrom k (imageHooks env desc)) r.image.toList
      r.memory.toList :=
  { initData := (h.grows.held_eq fun _ he => initDataLedger_neutral_isVulkan he).trans hs.initData
    kernel := h.held_kernel.trans (by rw [hs.kernel])
    images := h.held_image hs.images
    memories := h.held_memory hs.memories }

/-- The image step undoes everything, and its hooks leave no kernel allocation of
    theirs or of the call behind. -/
def ImageClean (env : VkEnv) (desc : Texture2DDesc1) (k : List KernelAllocation) : Prop :=
  ImageUndone env desc ∧ hookAllocations.heldFrom k (imageHooks env desc) = []

/-- An exit right after a failing image step is clean when the step is. -/
theorem SharedImageRun.nothingHeld_iff {env : VkEnv} {desc : Texture2DDesc1}
    {tiling : VkImageTiling} {imageNext : Option DrmFormatModifierInfo} {allocNext : AllocNext}
    {s s₁ : CallState} {r : SharedImage} {i : List Unit} {k : List KernelAllocation}
    {scope : RuntimeAllocScope} {hr : HRESULT}
    (h : SharedImageRun env (sharedImageCreateInfo desc tiling imageNext) allocNext false s r s₁)
    (hs : Holds s.trace i k [] []) :
    NothingHeld ((s₁.leaveScope scope).log [.setError hr]).trace ↔
      i = [] ∧ ImageClean env desc k := by
  have hend : Holds ((s₁.leaveScope scope).log [.setError hr]).trace i
      (hookAllocations.heldFrom k (imageHooks env desc)) r.image.toList r.memory.toList :=
    Holds.setError (h.holds hs) hr
  obtain ⟨hiff, hmem⟩ := h.image_none_iff
  rw [hend.nothing_iff, ImageClean, Option.toList_eq_nil_iff, Option.toList_eq_nil_iff, hiff]
  constructor
  · rintro ⟨hi, hk, hun, -⟩
    exact ⟨hi, hun, hk⟩
  · rintro ⟨hi, hun, hk⟩
    exact ⟨hi, hk, hun, hmem (hiff.mpr hun)⟩

/-- Once the image step has succeeded, the image stays held to the end of the
    call, whatever ends it. -/
theorem SharedImageRun.kept {env : VkEnv} {desc : Texture2DDesc1} {tiling : VkImageTiling}
    {imageNext : Option DrmFormatModifierInfo} {allocNext : AllocNext} {s s₁ s' : CallState}
    {r : SharedImage}
    (h : SharedImageRun env (sharedImageCreateInfo desc tiling imageNext) allocNext false s r s₁)
    (h0 : imageLedger.held s.trace = []) (hok : failed r.hr = false)
    (htail : Grows (fun e => e.isTail = true) s₁ s') :
    ¬NothingHeld s'.trace ∧ ¬ImageUndone env desc := by
  obtain ⟨image, mem, memory, -, himage, -⟩ := h.bound_of_ok hok
  refine ⟨fun hn => ?_, fun hun => ?_⟩
  · have hheld : imageLedger.held s'.trace = [image] := by
      rw [htail.held_eq fun e he => (neutral_of_isTail he).2.1, h.held_image h0, himage]
      rfl
    simp [hn.images] at hheld
  · have hnone := h.image_none_iff.1.mpr hun
    simp [hnone] at himage

-- ============================================================================
-- The calls
-- ============================================================================

/-- A CreateResource or an OpenResource call. -/
inductive ResourceCall where
  | create (pArgs : CreateResourceArgs)
  | openShared (pArgs : OpenResourceArgs)

def ResourceCall.run (env : DeviceEnv) (hRTResource : HANDLE) :
    ResourceCall → Call VirtioWddmResource
  | .create pArgs => virtioWddmCreateResource env pArgs hRTResource
  | .openShared pArgs => virtioWddmOpenResource env pArgs hRTResource

/-- `create_shared_3d_resource` fails before its allocation, or by the query whose
    failure frees it. -/
def Allocate3dClean (env : DeviceEnv) (desc : Texture2DDesc1) : Prop :=
  allocate3dSupported desc = false ∨ failed env.allocate.hr = true ∨
    failed env.resourceInfo.hr = true

/-- The 3D path fails cleanly: in `create_shared_3d_resource`, or at an image step
    that leaves neither image nor allocation. -/
def Present3dClean (env : DeviceEnv) (desc : Texture2DDesc1) (hRTResource : HANDLE) : Prop :=
  Allocate3dClean env desc ∨
    (failed (residentHr env) = false ∧
      ImageClean env.vk desc
        [{ hAllocation := env.allocate.hAllocation, hResource := hRTResource }])

/-- A failing CreateResource is clean: no initial data was passed, and its path
    fails cleanly. -/
def CreateClean (env : DeviceEnv) (pArgs : CreateResourceArgs) (hRTResource : HANDLE) : Prop :=
  initData env pArgs = none ∧
    if allocate3d env pArgs then
      Present3dClean env (createdDesc pArgs hRTResource) hRTResource
    else if pArgs.isShared || linearPresent env pArgs then
      LinearGuard pArgs (linearPresent env pArgs) ∨
        ImageClean env.vk (createdDesc pArgs hRTResource) []
    else
      True

/-- The description OpenResource creates an image for, `none` when it fails
    before that. -/
def openedImageDesc (env : DeviceEnv) (pArgs : OpenResourceArgs) (hRTResource : HANDLE) :
    Option Texture2DDesc1 :=
  if failed env.resourceInfo.hr then
    none
  else
    match env.resourceInfo.info with
    | .alloc3d info =>
        some (openedDesc (opened3dResource (openedResource pArgs hRTResource) info.alloc))
    | .blob info =>
        if info.infoValid = false ∨ info.created = false then
          none
        else
          some (openedDesc (openedBlobResource (openedResource pArgs hRTResource) info.info))
    | .other _ => none

/-- A failing OpenResource is clean: it fails before its image step, or that step
    does. -/
def OpenClean (env : DeviceEnv) (pArgs : OpenResourceArgs) (hRTResource : HANDLE) : Prop :=
  ∀ desc ∈ openedImageDesc env pArgs hRTResource, ImageClean env.vk desc []

def ResourceCall.CleanExit (env : DeviceEnv) (hRTResource : HANDLE) : ResourceCall → Prop
  | .create pArgs => CreateClean env pArgs hRTResource
  | .openShared pArgs => OpenClean env pArgs hRTResource

-- ============================================================================
-- The exits of CreateResource
-- ============================================================================

/-- After `tritonBuildInitData` only the array is held. -/
theorem holds_initDataBuilt {env : DeviceEnv} {pArgs : CreateResourceArgs} {s : CallState}
    (hs : s.trace = []) :
    Holds (s.initDataBuilt env pArgs).trace ((initData env pArgs).toList.map fun _ => ()) [] []
      [] := by
  rw [CallState.initDataBuilt, CallState.log_trace, hs, List.nil_append]
  cases initData env pArgs <;> exact ⟨rfl, rfl, rfl, rfl⟩

theorem initData_eq_none_iff {data : Option (List SubresourceData)} :
    (data.toList.map fun _ => ()) = [] ↔ data = none := by
  cases data <;> simp

/-- The events of the 3D allocation, read by the kernel ledger. -/
theorem Holds.allocated3d {s : CallState} {i : List Unit} (h : Holds s.trace i [] [] [])
    (env : DeviceEnv) (desc : Texture2DDesc1) (primaryDesc : Option PrimaryDesc)
    (hRTResource : HANDLE) :
    Holds (s.allocated3d env desc primaryDesc hRTResource).trace i
      (if failed env.allocate.hr then []
        else [{ hAllocation := env.allocate.hAllocation, hResource := hRTResource }]) [] [] := by
  have hevs := h.events [.allocateCb
    { hResource := hRTResource
      payload := allocate3dPayload (allocate3dPriv desc) primaryDesc
      primary := primaryDesc.isSome } env.allocate]
  cases hf : failed env.allocate.hr <;>
    simpa [CallState.allocated3d, Ledger.step, succeeded, hf] using hevs

theorem Holds.queried3d {env : DeviceEnv} {s : CallState} {i : List Unit}
    (h : Holds s.trace i [] [] []) (ha : failed env.allocate.hr = false) (desc : Texture2DDesc1)
    (primaryDesc : Option PrimaryDesc) (hRTResource : HANDLE) :
    Holds (s.queried3d env desc primaryDesc hRTResource).trace i
      [{ hAllocation := env.allocate.hAllocation, hResource := hRTResource }] [] [] := by
  have hevs := (h.allocated3d env desc primaryDesc hRTResource).events
    [.resourceInfoEscape env.allocate.hAllocation env.resourceInfo.hr]
  simpa [CallState.queried3d, Ledger.step, ha] using hevs

/-- What `create_shared_3d_resource` leaves held when deallocation works: its
    allocation, once it got past the query. -/
theorem Shared3dRun.holds {env : DeviceEnv} {desc : Texture2DDesc1}
    {primaryDesc : Option PrimaryDesc} {hRTResource : HANDLE} {s s' : CallState}
    {shared : Shared3dResource} {i : List Unit}
    (h : Shared3dRun env desc primaryDesc hRTResource s shared s') (hs : Holds s.trace i [] [] [])
    (hd : succeeded env.deallocateHr = true) :
    (Allocate3dClean env desc ∧ failed shared.hr = true ∧ Holds s'.trace i [] [] []) ∨
    (¬Allocate3dClean env desc ∧ shared.hr = residentHr env ∧
      Holds s'.trace i
        [{ hAllocation := env.allocate.hAllocation, hResource := hRTResource }] [] []) := by
  cases h with
  | unsupported hsup => exact .inl ⟨.inl hsup, rfl, hs⟩
  | allocateFailed hsup ha =>
      have hs₁ := hs.allocated3d env desc primaryDesc hRTResource
      exact .inl ⟨.inr (.inl ha), ha, by simpa [ha] using hs₁⟩
  | queryFailed hsup ha hq hd' =>
      refine .inl ⟨.inr (.inr hq), hq, ?_⟩
      have hevs := (hs.queried3d ha desc primaryDesc hRTResource).events
        [.deallocateCb (.resource hRTResource) env.deallocateHr]
      simpa [Ledger.step, hd] using hevs
  | cleanupFailed hsup ha hq hd' => simp [hd] at hd'
  | allocated hsup ha hq info hi =>
      refine .inr ⟨by simp [Allocate3dClean, hsup, ha, hq], rfl, (hs.queried3d ha ..).log ?_⟩
      intro e he
      rcases mem_residentEvents he with rfl | rfl <;> exact ⟨rfl, rfl, fun _ => rfl⟩

/-- A 3D call that reports an error, or holds its image to the end. -/
theorem Present3dRun.nothingHeld_iff {env : DeviceEnv} {primaryDesc : Option PrimaryDesc}
    {desc : Texture2DDesc1} {hRTResource : HANDLE} {resource r : VirtioWddmResource}
    {data : Option (List SubresourceData)} {s s' : CallState} {i : List Unit}
    (h : Present3dRun env primaryDesc desc hRTResource resource data s r s')
    (hs : Holds s.trace i [] [] []) (hd : succeeded env.deallocateHr = true) :
    NothingHeld s'.trace ↔ i = [] ∧ Present3dClean env desc hRTResource := by
  cases h with
  | notAllocated shared s₁ hsh hf =>
      rcases hsh.holds hs hd with ⟨hclean, -, hs₁⟩ | ⟨hkept, hhr, hs₁⟩
      · rw [(hs₁.setError _).nothing_iff]
        simp [Present3dClean, hclean]
      · rw [(hs₁.setError _).nothing_iff]
        rw [hhr] at hf
        simp [Present3dClean, hkept, hf]
  | imageFailed shared s₁ hsh hok info hinfo planes hplanes img s₂ himg hf =>
      rcases hsh.holds hs hd with ⟨-, hf', -⟩ | ⟨hkept, hhr, hs₁⟩
      · simp [hok] at hf'
      · rw [hhr] at hok
        refine (himg.nothingHeld_iff hs₁).trans ?_
        simp [Present3dClean, hkept, hok]
  | imported shared s₁ hsh hok info hinfo planes hplanes img s₂ himg himgok r s' himp =>
      rcases hsh.holds hs hd with ⟨-, hf', -⟩ | ⟨hkept, hhr, hs₁⟩
      · simp [hok] at hf'
      · obtain ⟨hheld, hun⟩ := himg.kept hs₁.images himgok himp.quiet.grows
        simp [Present3dClean, hkept, ImageClean, hheld, hun]

theorem BlobRun.nothingHeld_iff {env : DeviceEnv} {pArgs : CreateResourceArgs}
    {isPrimary linearPresent : Bool} {desc : Texture2DDesc1} {hRTResource : HANDLE}
    {resource r : VirtioWddmResource} {data : Option (List SubresourceData)} {s s' : CallState}
    {i : List Unit}
    (h : BlobRun env pArgs isPrimary linearPresent desc hRTResource resource data s r s')
    (hs : Holds s.trace i [] [] []) :
    NothingHeld s'.trace ↔
      i = [] ∧ (LinearGuard pArgs linearPresent ∨ ImageClean env.vk desc []) := by
  -- an exit after a successful image step
  have hkept : ∀ (img : SharedImage) (s₁ s₂ : CallState), ¬LinearGuard pArgs linearPresent →
      SharedImageRun env.vk (blobImageInfo linearPresent desc) (.createResource hRTResource) false
        (s.enterScope (blobScope pArgs isPrimary hRTResource)) img s₁ →
      failed img.hr = false → Grows (fun e => e.isTail = true) s₁ s₂ →
      (NothingHeld s₂.trace ↔
        i = [] ∧ (LinearGuard pArgs linearPresent ∨ ImageClean env.vk desc [])) := by
    intro img s₁ s₂ hg himg hok htail
    obtain ⟨hheld, hun⟩ := himg.kept hs.images hok htail
    simp [ImageClean, hg, hheld, hun]
  cases h with
  | guarded hg =>
      rw [(hs.setError _).nothing_iff]
      simp [hg]
  | imageFailed hg img s₁ himg hf =>
      refine (himg.nothingHeld_iff (s := s.enterScope _) hs).trans ?_
      simp [hg]
  | notAttributed hg img s₁ himg hok hattr =>
      exact hkept img s₁ _ hg himg hok (.log (List.forall_mem_singleton.mpr rfl))
  | notResident hg img s₁ himg hok hattr hl hres =>
      exact hkept img s₁ _ hg himg hok (.log fun e he => residentFailed_isTail he)
  | accepted hg img s₁ himg hok hattr hres r s' hpub =>
      exact hkept img s₁ _ hg himg hok
        (Grows.trans (t := (s₁.leaveScope _).log _) (Grows.log fun e he => residentIf_isTail he)
          hpub.quiet.grows)

/-- On the plain path a call that reports an error holds its array and nothing
    else. -/
theorem PlainRun.nothingHeld_iff {env : DeviceEnv} {pArgs : CreateResourceArgs}
    {desc : Texture2DDesc1} {resource r : VirtioWddmResource}
    {data : Option (List SubresourceData)} {s s' : CallState} {i : List Unit}
    (h : PlainRun env pArgs desc resource data s r s') (hs : Holds s.trace i [] [] [])
    (hquiet : ∀ hr, .setError hr ∉ s.trace) (herr : ∃ hr, .setError hr ∈ s'.trace) :
    NothingHeld s'.trace ↔ i = [] := by
  cases h with
  | unsupported hd =>
      rw [(hs.setError _).nothing_iff]
      simp
  | failed hostDesc hd hf =>
      have hevs := hs.events [.createHostResource hostDesc data env.createHostResource,
        .setError env.createHostResource.hr]
      rw [hevs.nothing_iff]
      simp [Ledger.step]
  | created hostDesc hd hf object hobj =>
      obtain ⟨hr, hmem⟩ := herr
      simp [hquiet hr] at hmem

-- ============================================================================
-- OpenResource
-- ============================================================================

theorem OpenImportRun.nothingHeld_iff {env : DeviceEnv} {hRTResource : HANDLE} {id : UINT}
    {info : AllocationInfo} {tiling : VkImageTiling}
    {modifierInfo : Option DrmFormatModifierInfo} {resource r : VirtioWddmResource}
    {s s' : CallState}
    (h : OpenImportRun env hRTResource id info tiling modifierInfo resource s r s')
    (hs : Holds s.trace [] [] [] []) :
    NothingHeld s'.trace ↔ ImageClean env.vk (openedDesc resource) [] := by
  cases h with
  | imageFailed img s₁ himg hf => exact (himg.nothingHeld_iff hs).trans (by simp)
  | imported img s₁ himg hok r s' himp =>
      obtain ⟨hheld, hun⟩ := himg.kept hs.images hok himp.quiet.grows
      simp [ImageClean, hheld, hun]

theorem OpenRun.nothingHeld_iff {env : DeviceEnv} {pArgs : OpenResourceArgs}
    {hRTResource : HANDLE} {s s' : CallState} {r : VirtioWddmResource}
    (h : OpenRun env pArgs hRTResource s r s') (hs : s.trace = []) :
    NothingHeld s'.trace ↔ OpenClean env pArgs hRTResource := by
  have hqueried : Holds (s.openQueried env pArgs).trace [] [] [] [] := by
    rw [CallState.openQueried, CallState.log_trace, hs]
    exact ⟨rfl, rfl, rfl, rfl⟩
  cases h with
  | queryFailed hq =>
      rw [(hqueried.setError _).nothing_iff]
      simp [OpenClean, openedImageDesc, hq]
  | unknownTag hq tag hi =>
      rw [(hqueried.setError _).nothing_iff]
      simp [OpenClean, openedImageDesc, hq, hi]
  | blobInvalid hq info hi hv =>
      rw [(hqueried.setError _).nothing_iff]
      simp [OpenClean, openedImageDesc, hq, hi, hv]
  | blob hq info hi hv hc r s' h =>
      rw [h.nothingHeld_iff hqueried]
      simp [OpenClean, openedImageDesc, hq, hi, hv, hc]
  | alloc3d hq info hi planes hplanes r s' h =>
      rw [h.nothingHeld_iff hqueried]
      simp [OpenClean, openedImageDesc, hq, hi]

-- ============================================================================
-- Failed calls
-- ============================================================================

/-- A CreateResource or OpenResource call that reports an error holds nothing any
    more exactly when it took a clean exit, provided `pfnDeallocateCb` works. -/
theorem failed_call_releases_iff {env : DeviceEnv} {hRTResource : HANDLE} {call : ResourceCall}
    {record : RuntimeAllocRecord} {scope : RuntimeAllocScope} {r : VirtioWddmResource}
    {s' : CallState} (hd : succeeded env.deallocateHr = true)
    (h : Runs (call.run env hRTResource)
      { lastRuntimeAlloc := record, runtimeAllocScope := scope, trace := [] } r s')
    (herr : ∃ hr, .setError hr ∈ s'.trace) :
    NothingHeld s'.trace ↔ call.CleanExit env hRTResource := by
  cases call with
  | openShared pArgs => exact (runs_virtioWddmOpenResource h).nothingHeld_iff rfl
  | create pArgs =>
      show _ ↔ CreateClean env pArgs hRTResource
      rw [CreateClean, ← initData_eq_none_iff]
      cases runs_virtioWddmCreateResource h with
      | present3d h3 hdim r s' hrun =>
          rw [hrun.nothingHeld_iff (holds_initDataBuilt rfl) hd, if_pos h3]
      | blob h3 hb hdim r s' hrun =>
          rw [hrun.nothingHeld_iff (holds_initDataBuilt rfl), if_neg (by simp [h3]), if_pos hb]
      | plain h3 hb r s' hrun =>
          have hquiet : ∀ hr, .setError hr ∉ (CallState.initDataBuilt
              { lastRuntimeAlloc := record, runtimeAllocScope := scope, trace := [] } env
              pArgs).trace := by
            intro hr
            cases hdata : initData env pArgs <;>
              simp [CallState.initDataBuilt, initDataEvents, hdata]
          rw [hrun.nothingHeld_iff (holds_initDataBuilt rfl) hquiet herr,
            if_neg (by simp [h3]), if_neg (by simp [hb])]
          simp

/-- A device whose RESOURCE_INFO query fails. -/
def failingQuery : DeviceEnv :=
  { DeviceEnv.allOk false (.other 0) [] with
    resourceInfo := { hr := E_FAIL, id := 0, info := .other 0 } }

/-- The present buffer of `presentArgs`, with a size. -/
def sizedPresentArgs : CreateResourceArgs :=
  { presentArgs with
    pMipInfoList := some { texelWidth := 64, texelHeight := 64, texelDepth := 1 } }

/-- The 3D path frees its allocation when that query fails. -/
theorem failed_call_releases_query :
    ∃ r s', Runs ((ResourceCall.create sizedPresentArgs).run failingQuery 5) {} r s' ∧
      .setError E_FAIL ∈ s'.trace ∧ NothingHeld s'.trace := by
  have hrun : Runs ((ResourceCall.create sizedPresentArgs).run failingQuery 5)
      { lastRuntimeAlloc := {}, runtimeAllocScope := {}, trace := [] } _ _ := rfl
  have hiff := failed_call_releases_iff rfl hrun ⟨E_FAIL, by decide⟩
  exact ⟨_, _, hrun, by decide, hiff.mpr ⟨rfl, .inl (.inr (.inr rfl))⟩⟩

/-- A device whose host refuses the texture. -/
def failingImport : DeviceEnv :=
  { DeviceEnv.allOk false (.other 0) ownAllocation with
    importTexture := { hr := E_FAIL, object := none } }

/-- A shared texture the host refuses: the call reports the error, and the kernel
    allocation, the image and its memory stay behind. -/
theorem failed_import_keeps_all :
    ∃ r s', Runs ((ResourceCall.create (sharedArgs 1)).run failingImport 5) {} r s' ∧
      .setError E_FAIL ∈ s'.trace ∧
      kernelLedger.held s'.trace = [{ hAllocation := 0x30, hResource := 5 }] ∧
      imageLedger.held s'.trace = [⟨1⟩] ∧ memoryLedger.held s'.trace = [⟨1⟩] ∧
      ¬NothingHeld s'.trace := by
  refine ⟨_, _, rfl, by decide, by decide, by decide, by decide, ?_⟩
  intro hn
  exact absurd hn.images (by decide)

end VirtioWddm
