/-
  VirtioWddm.Resource.ShareRoundTrip

  What survives when one process creates a shared texture and another opens it.

  The creator writes a small record (the 3D private data, or the blob information)
  and the opener rebuilds a description from it.  Each section says for which
  descriptions the rebuilt one is the original.
-/

import VirtioWddm.Resource.Attribution

namespace VirtioWddm

open Lib

-- ============================================================================
-- What the creator writes
-- ============================================================================

@[simp] theorem allocation_allocate3dPayload (alloc : Allocate3d)
    (primaryDesc : Option PrimaryDesc) :
    (allocate3dPayload alloc primaryDesc).allocation = .alloc3d alloc := by
  cases primaryDesc <;> rfl

/-- Among the calls of `create_shared_3d_resource` one asks the kernel for an
    allocation: it succeeds and hands over the private data `alloc`. -/
structure Written3dOnce (s' : CallState) (args : AllocateArgs) (reply : AllocateReply)
    (alloc : Allocate3d) : Prop where
  allocated : .allocateCb args reply ∈ s'.trace
  succeeded : failed reply.hr = false
  payload : args.payload.allocation = .alloc3d alloc
  once : ∀ args' reply', .allocateCb args' reply' ∈ s'.trace → args' = args ∧ reply' = reply

/-- A successful `create_shared_3d_resource` has written `allocate3dPriv`. -/
theorem createShared3dResource_writes {env : DeviceEnv} {desc : Texture2DDesc1}
    {primaryDesc : Option PrimaryDesc} {hRTResource : HANDLE} {record : RuntimeAllocRecord}
    {scope : RuntimeAllocScope} {s' : CallState} {shared : Shared3dResource}
    (h : Runs (createShared3dResource env desc primaryDesc hRTResource)
      { lastRuntimeAlloc := record, runtimeAllocScope := scope, trace := [] } shared s')
    (hok : failed shared.hr = false) :
    allocate3dSupported desc = true ∧
      ∃ args reply, Written3dOnce s' args reply (allocate3dPriv desc) := by
  cases runs_createShared3dResource h with
  | unsupported hsup => simp at hok
  | allocateFailed hsup ha => simp [ha] at hok
  | queryFailed hsup ha hq hd => simp [hq] at hok
  | cleanupFailed hsup ha hq hd => simp [hq] at hok
  | allocated hsup ha hq info hi =>
      refine ⟨hsup,
        { hResource := hRTResource
          payload := allocate3dPayload (allocate3dPriv desc) primaryDesc
          primary := primaryDesc.isSome }, env.allocate, ?_⟩
      exact
        { allocated := List.mem_append_left _ (List.mem_cons_self ..)
          succeeded := ha
          payload := allocation_allocate3dPayload ..
          once := by
            intro args' reply' hmem
            rcases List.mem_append.mp hmem with hmem | hmem
            · simpa only [CallState.queried3d, CallState.allocated3d, CallState.log_trace,
                List.nil_append, List.mem_append, List.mem_singleton, Event.allocateCb.injEq,
                reduceCtorEq, or_false] using hmem
            · rcases mem_residentEvents hmem with h | h <;> cases h }

-- ============================================================================
-- The 3D path
-- ============================================================================

/-- Every call OpenResource makes succeeds. -/
structure OpenSucceeds (env : DeviceEnv) : Prop where
  query : failed env.resourceInfo.hr = false
  image : ∃ image, env.vk.createImage = .ok image
  memType : ∃ mem,
    vulkanFindMemType env.vk 0#32 env.vk.memoryRequirements.memoryTypeBits = some mem
  memory : ∃ memory, env.vk.allocateMemory = .ok memory
  bind : env.vk.bindImageMemory = .ok ()
  import_hr : failed env.importTexture.hr = false
  texture : env.importTexture.object.isSome = true

/-- When every Vulkan call succeeds, `create_shared_vk_image` fails only for a
    description Vulkan has no format or sample count for. -/
theorem OpenSucceeds.sharedImage {env : DeviceEnv} (henv : OpenSucceeds env)
    {info : VkImageCreateInfo} {allocNext : AllocNext} {s s' : CallState} {img : SharedImage}
    (h : SharedImageRun env.vk info allocNext false s img s') :
    failed img.hr = true ↔ info.format = .UNDEFINED ∨ info.samples = 0#32 := by
  obtain ⟨image, himage⟩ := henv.image
  obtain ⟨mem, hmem⟩ := henv.memType
  obtain ⟨memory, hmemory⟩ := henv.memory
  cases h with
  | unsupported h => simpa using h
  | createFailed h e hc => simp [himage] at hc
  | noMemoryType h image hc hm => simp [hmem] at hm
  | allocateFailed image mem h e ha => simp [hmemory] at ha
  | bindFailed image mem h memory ha e hb => simp [henv.bind] at hb
  | created image mem memory h hw => simpa using ⟨h.format, h.samples⟩
  | exportUnavailable image mem memory h hw hx => simp at hw
  | exportFailed image mem memory h hw e hx => simp at hw
  | exported image mem memory h hw handle hx => simp at hw

/-- The opened texture is the created one as far as the description goes. -/
structure Reopened3d (desc : Texture2DDesc1) (r : VirtioWddmResource) (s' : CallState) :
    Prop where
  accepted : ∀ hr, .setError hr ∉ s'.trace
  texture : r.base.pResource.isSome = true
  width : r.base.width = desc.width
  height : r.base.height = desc.height
  mipLevels : r.base.mipLevels = desc.mipLevels
  arraySize : r.base.arraySize = desc.arraySize
  sampleCount : r.base.sampleDesc.count = desc.sampleDesc.count
  layout : channelLayout r.base.format = channelLayout desc.format

/-- The descriptions that survive the 3D private data: multisampled ones with a
    count Vulkan knows, and any accepted format but `R8G8B8A8_UNORM_SRGB`. -/
def Shareable3d (desc : Texture2DDesc1) : Prop :=
  (desc.sampleDesc.count = 2 ∨ desc.sampleDesc.count = 4 ∨ desc.sampleDesc.count = 8 ∨
    desc.sampleDesc.count = 16) ∧ desc.format ≠ .R8G8B8A8_UNORM_SRGB

instance (desc : Texture2DDesc1) : Decidable (Shareable3d desc) :=
  inferInstanceAs (Decidable (_ ∧ _))

/-- The opener finds a Vulkan sample count exactly for the multisampled counts:
    the encoder's zero of a single-sampled texture has none. -/
theorem sampleCount_nrSamples_iff (count : UINT) :
    dxgiToVkSampleCount (virglNrSamples count) ≠ 0#32 ↔
      count = 2 ∨ count = 4 ∨ count = 8 ∨ count = 16 := by
  rw [dxgiToVkSampleCount_ne_zero_iff, virglNrSamples]
  split
  case isTrue hgt =>
    constructor
    · rintro (rfl | h)
      · exact absurd hgt (by decide)
      · exact h
    · exact .inr
  case isFalse hle =>
    constructor
    · rintro (h | h | h | h | h) <;> exact absurd h (by decide)
    · rintro (rfl | rfl | rfl | rfl) <;> exact absurd (by decide) hle

/-- A multisampled count is forwarded as it is. -/
theorem nrSamples_of_multisampled {count : UINT}
    (h : count = 2 ∨ count = 4 ∨ count = 8 ∨ count = 16) : virglNrSamples count = count := by
  rcases h with rfl | rfl | rfl | rfl <;> decide

/-- Importing an opened texture reports nothing when both steps succeed. -/
theorem opened_no_error {env : DeviceEnv} {pArgs : OpenResourceArgs} {info : VkImageCreateInfo}
    {allocNext : AllocNext} {record : RuntimeAllocRecord} {scope : RuntimeAllocScope}
    {img : SharedImage} {s₁ : CallState} {desc : Texture2DDesc1} {image : Option VkImage}
    {reply : HostReply} {tex : HostResource}
    (himg : SharedImageRun env.vk info allocNext false
      (CallState.openQueried { lastRuntimeAlloc := record, runtimeAllocScope := scope, trace := [] }
        env pArgs) img s₁) (hr : HRESULT) :
    .setError hr ∉ (s₁.log (.importTexture desc image reply :: uploadEvents tex none)).trace := by
  rw [CallState.log_trace, List.mem_append, himg.grows.mem_iff (by simp [Event.isVulkan,
    Event.isHookTraffic])]
  simp [CallState.openQueried, uploadEvents]

/-- The opener of the creator's private data rebuilds the texture exactly when the
    description is shareable. -/
theorem OpenImportRun.reopened3d_iff {env : DeviceEnv} {desc : Texture2DDesc1}
    {pArgs : OpenResourceArgs} {hRTResource : HANDLE} {id : UINT} {info : AllocationInfo}
    {tiling : VkImageTiling} {modifierInfo : Option DrmFormatModifierInfo}
    {record : RuntimeAllocRecord} {scope : RuntimeAllocScope} {r : VirtioWddmResource}
    {s' : CallState} (henv : OpenSucceeds env) (hformat : dxgiToVirglFormat desc.format ≠ .NONE)
    (h : OpenImportRun env hRTResource id info tiling modifierInfo
      (opened3dResource (openedResource pArgs hRTResource) (allocate3dPriv desc))
      (CallState.openQueried { lastRuntimeAlloc := record, runtimeAllocScope := scope, trace := [] }
        env pArgs) r s') :
    Reopened3d desc r s' ↔ Shareable3d desc := by
  cases h with
  | imageFailed img s₁ himg hf =>
      -- the decoder always finds a format, so the sample count was refused
      have hrefused := (henv.sharedImage himg).mp hf
      have hsamples : dxgiToVkSampleCount (virglNrSamples desc.sampleDesc.count) = 0#32 :=
        hrefused.resolve_left (dxgiToVkFormat_virgl_roundtrip hformat)
      constructor
      · intro hre
        exact absurd (by simp : Event.setError img.hr ∈ _) (hre.accepted img.hr)
      · rintro ⟨hcount, -⟩
        exact absurd hsamples ((sampleCount_nrSamples_iff _).mpr hcount)
  | imported img s₁ himg hok r s' himp =>
      have hsamples : dxgiToVkSampleCount (virglNrSamples desc.sampleDesc.count) ≠ 0#32 := by
        intro h0
        have hf := (henv.sharedImage himg).mpr (.inr h0)
        simp [hok] at hf
      have hcount := (sampleCount_nrSamples_iff _).mp hsamples
      have hlayout := channelLayout_virgl_roundtrip hformat
      cases himp with
      | failed hf => simp [henv.import_hr] at hf
      | imported hf tex htex =>
          constructor
          · intro hre
            exact ⟨hcount, hlayout.mp hre.layout⟩
          · rintro ⟨-, hne⟩
            exact
              { accepted := opened_no_error himg
                texture := rfl
                width := rfl
                height := rfl
                mipLevels := BitVec.sub_add_cancel ..
                arraySize := rfl
                sampleCount := nrSamples_of_multisampled hcount
                layout := hlayout.mpr hne }

/-- A successful creator has handed its private data to the kernel, once, and the
    allocation is opened again as the same texture exactly when the description is
    shareable.  The kernel returns the private data as the creator wrote it, with
    at most four planes, and every call of the opener succeeds. -/
theorem share3d_roundtrip_iff {envC : DeviceEnv} {desc : Texture2DDesc1}
    {primaryDesc : Option PrimaryDesc} {hRTC : HANDLE} {recordC : RuntimeAllocRecord}
    {scopeC : RuntimeAllocScope} {shared : Shared3dResource} {sC : CallState}
    (hcreate : Runs (createShared3dResource envC desc primaryDesc hRTC)
      { lastRuntimeAlloc := recordC, runtimeAllocScope := scopeC, trace := [] } shared sC)
    (hok : failed shared.hr = false) :
    ∃ args reply, Written3dOnce sC args reply (allocate3dPriv desc) ∧
      ∀ {envO : DeviceEnv} {info : Allocate3dFull}, OpenSucceeds envO →
        envO.resourceInfo.info = .alloc3d info →
        args.payload.allocation = .alloc3d info.alloc → info.numPlanes.toNat ≤ 4 →
        ∀ {pArgs : OpenResourceArgs}, pArgs.numAllocations = 1 →
        ∀ (hRTO : HANDLE) (recordO : RuntimeAllocRecord) (scopeO : RuntimeAllocScope),
        ∃ r sO, Runs (virtioWddmOpenResource envO pArgs hRTO)
            { lastRuntimeAlloc := recordO, runtimeAllocScope := scopeO, trace := [] } r sO ∧
          (Reopened3d desc r sO ↔ Shareable3d desc) := by
  obtain ⟨hsup, args, reply, hwritten⟩ := createShared3dResource_writes hcreate hok
  refine ⟨args, reply, hwritten, ?_⟩
  intro envO info henv hinfo hdata hplanes pArgs hn hRTO recordO scopeO
  obtain hdata : allocate3dPriv desc = info.alloc := by simpa [hwritten.payload] using hdata
  have hformat : dxgiToVirglFormat desc.format ≠ .NONE := by
    simp only [allocate3dSupported, Bool.and_eq_true, bne_iff_ne] at hsup
    exact hsup.1
  have htotal : Total (virtioWddmOpenResource envO pArgs hRTO) := by
    refine total_virtioWddmOpenResource hn ?_ fun _ => henv.texture
    rintro info' hinfo'
    obtain rfl := AllocationInfo.alloc3d.inj (hinfo.symm.trans hinfo')
    exact hplanes
  obtain ⟨r, sO, hopen⟩ :=
    htotal { lastRuntimeAlloc := recordO, runtimeAllocScope := scopeO, trace := [] }
  refine ⟨r, sO, hopen, ?_⟩
  cases runs_virtioWddmOpenResource hopen with
  | queryFailed hq => simp [henv.query] at hq
  | unknownTag hq tag hi => simp [hinfo] at hi
  | blobInvalid hq info' hi hv => simp [hinfo] at hi
  | blob hq info' hi hv hc r s' h => simp [hinfo] at hi
  | alloc3d hq info' hi planes hpl r s' h =>
      obtain rfl := AllocationInfo.alloc3d.inj (hinfo.symm.trans hi)
      rw [← hdata] at h
      exact h.reopened3d_iff henv hformat

/-- A kernel reply for a 3D allocation with one plane. -/
def onePlaneInfo (alloc : Allocate3d) : Allocate3dFull :=
  { alloc := alloc
    modifier := 0
    offsets := Vector.replicate 4 0
    strides := Vector.replicate 4 0
    sizes := Vector.replicate 4 0
    numPlanes := 1 }

/-- A 64x64 texture of one mip level and one layer. -/
def texture64 (format : DxgiFormat) (count : UINT) : Texture2DDesc1 :=
  { width := 64
    height := 64
    mipLevels := 1
    arraySize := 1
    format := format
    sampleDesc := { count := count }
    usage := .default
    bindFlags := D3D11_BIND_RENDER_TARGET
    cpuAccessFlags := 0
    miscFlags := D3D11_RESOURCE_MISC_SHARED }

theorem openSucceeds_allOk (drm : Bool) (info : AllocationInfo) (hooks : List HookCall) :
    OpenSucceeds (.allOk drm info hooks) :=
  { query := failed_S_OK
    image := ⟨_, rfl⟩
    memType := ⟨0, by simp [vulkanFindMemType, vulkanFindMemTypeFrom, DeviceEnv.allOk, VkEnv.allOk]⟩
    memory := ⟨_, rfl⟩
    bind := rfl
    import_hr := failed_S_OK
    texture := rfl }

/-- A 4x multisampled BGRA texture is opened as it was created. -/
theorem share3d_roundtrip_msaa :
    ∃ shared sC args reply r sO,
      Runs (createShared3dResource
          (.allOk false (.alloc3d (onePlaneInfo (allocate3dPriv (texture64 .B8G8R8A8_UNORM 4)))) [])
          (texture64 .B8G8R8A8_UNORM 4) none 5) {} shared sC ∧
      Written3dOnce sC args reply (allocate3dPriv (texture64 .B8G8R8A8_UNORM 4)) ∧
      Runs
        (virtioWddmOpenResource
          (.allOk false (.alloc3d (onePlaneInfo (allocate3dPriv (texture64 .B8G8R8A8_UNORM 4)))) [])
          { numAllocations := 1, hAllocation := 0x21, hKMResource := 0x20 } 6) {} r sO ∧
      Reopened3d (texture64 .B8G8R8A8_UNORM 4) r sO := by
  have hcreate : Runs (createShared3dResource
      (.allOk false (.alloc3d (onePlaneInfo (allocate3dPriv (texture64 .B8G8R8A8_UNORM 4)))) [])
      (texture64 .B8G8R8A8_UNORM 4) none 5)
      { lastRuntimeAlloc := {}, runtimeAllocScope := {}, trace := [] } _ _ := rfl
  have hsingle : ({ numAllocations := 1, hAllocation := 0x21, hKMResource := 0x20 } :
      OpenResourceArgs).numAllocations = 1 := rfl
  obtain ⟨args, reply, hwritten, hopens⟩ := share3d_roundtrip_iff hcreate rfl
  obtain ⟨r, sO, hrun, hiff⟩ := hopens
    (openSucceeds_allOk false
      (.alloc3d (onePlaneInfo (allocate3dPriv (texture64 .B8G8R8A8_UNORM 4)))) [])
    rfl hwritten.payload (by decide) hsingle 6 {} {}
  exact ⟨_, _, args, reply, r, sO, hcreate, hwritten, hrun, hiff.mpr (by decide)⟩

/-- A single-sampled texture, the common case, is refused by the opener: the
    encoder writes a sample count of zero and the decoder does not map it back. -/
theorem share3d_single_sampled_refused :
    ∃ shared sC args reply r sO,
      Runs (createShared3dResource
          (.allOk false
            (.alloc3d (onePlaneInfo (allocate3dPriv (texture64 .R8G8B8A8_UNORM 1)))) [])
          (texture64 .R8G8B8A8_UNORM 1) none 5) {} shared sC ∧
      failed shared.hr = false ∧ .allocateCb args reply ∈ sC.trace ∧
      args.payload.allocation = .alloc3d (allocate3dPriv (texture64 .R8G8B8A8_UNORM 1)) ∧
      Runs (virtioWddmOpenResource
          (.allOk false
            (.alloc3d (onePlaneInfo (allocate3dPriv (texture64 .R8G8B8A8_UNORM 1)))) [])
          { numAllocations := 1, hAllocation := 0x21, hKMResource := 0x20 } 6) {} r sO ∧
      .setError E_OUTOFMEMORY ∈ sO.trace ∧ ¬Reopened3d (texture64 .R8G8B8A8_UNORM 1) r sO := by
  refine ⟨_, _, _, _, _, _, rfl, rfl, List.mem_cons_self .., rfl, rfl, by decide, ?_⟩
  intro hre
  exact hre.accepted E_OUTOFMEMORY (by decide)

-- ============================================================================
-- The blob path: what the creator publishes
-- ============================================================================

/-- The record the end of the blob path publishes for the allocation of `r`. -/
def ownBlobSet (env : DeviceEnv) (linear : Bool) (desc : Texture2DDesc1)
    (r : VirtioWddmResource) : BlobInfoSet :=
  { handle := r.base.hKMAllocation, blobInfo := publishedBlobInfo env linear desc }

/-- What an accepted call on the blob path leaves behind: the block it started
    from with handles added, the one image it made, and the one record it published
    for it, with success. -/
structure BlobPublished (env : DeviceEnv) (pArgs : CreateResourceArgs) (linear : Bool)
    (resource : VirtioWddmResource) (desc : Texture2DDesc1) (r : VirtioWddmResource)
    (s' : CallState) : Prop where
  block : ∃ hKMAllocation hKMResource tex,
    r.base = { resource.base with
      hKMAllocation := hKMAllocation, hKMResource := hKMResource, pResource := tex }
  guard : ¬LinearGuard pArgs linear
  supported : ImageSupported (blobImageInfo linear desc)
  layout : linear = true → layoutRejected env.vk.subresourceLayout = false
  images : imageInfos s'.trace = [blobImageInfo linear desc]
  escape : failed env.blobInfoHr = false
  published : ∀ set hr, .blobInfoEscape set hr ∈ s'.trace ↔
    set = ownBlobSet env linear desc r ∧ hr = env.blobInfoHr

/-- What follows the escape publishes nothing. -/
theorem ImportRun.published_iff {env : DeviceEnv} {desc : Texture2DDesc1}
    {resource r : VirtioWddmResource} {data : Option (List SubresourceData)} {s s' : CallState}
    (h : ImportRun env desc resource data s r s') {set : BlobInfoSet} {hr : HRESULT} :
    .blobInfoEscape set hr ∈ s'.trace ↔ .blobInfoEscape set hr ∈ s.trace := by
  cases h with
  | failed => simp
  | imported hf tex htex =>
      constructor
      · intro hmem
        rcases List.mem_append.mp hmem with hmem | hmem
        · exact hmem
        · rcases List.mem_cons.mp hmem with hmem | hmem
          · cases hmem
          · rcases mem_uploadEvents hmem with h | ⟨j, d, h⟩ <;> cases h
      · exact List.mem_append_left _

/-- Tail events create no image. -/
theorem Grows.imageInfos_of_tail {s s' : CallState} (h : Grows (fun e => e.isTail = true) s s') :
    imageInfos s'.trace = imageInfos s.trace := by
  refine h.filterMap_eq ?_
  intro e he
  cases e <;> first
    | rfl
    | cases he

/-- The end of the blob path, when it reports nothing. -/
theorem PublishRun.published_of_accepted {env : DeviceEnv} {linear : Bool}
    {desc : Texture2DDesc1} {resource r : VirtioWddmResource}
    {data : Option (List SubresourceData)} {s s' : CallState}
    (h : PublishRun env linear desc resource data s r s')
    (hacc : ∀ hr, .setError hr ∉ s'.trace) :
    (linear = true → layoutRejected env.vk.subresourceLayout = false) ∧
      failed env.blobInfoHr = false ∧
      ∀ set hr, .blobInfoEscape set hr ∈ s'.trace ↔ .blobInfoEscape set hr ∈ s.trace ∨
        set = ownBlobSet env linear desc resource ∧ hr = env.blobInfoHr := by
  cases h with
  | layoutRefused => exact absurd (by simp) (hacc E_INVALIDARG)
  | escapeFailed => exact absurd (by simp) (hacc env.blobInfoHr)
  | published hok hf r s' himp =>
      refine ⟨fun hl => by simpa [hl] using hok, hf, ?_⟩
      intro set hr
      rw [himp.published_iff, CallState.blobPublished, CallState.log_trace, List.mem_append,
        List.mem_singleton, Event.blobInfoEscape.injEq, ownBlobSet]

theorem createResource_blobPublished {env : DeviceEnv} {pArgs : CreateResourceArgs}
    {hRTResource : HANDLE} {record : RuntimeAllocRecord} {scope : RuntimeAllocScope}
    {r : VirtioWddmResource} {s' : CallState}
    (h : Runs (virtioWddmCreateResource env pArgs hRTResource)
      { lastRuntimeAlloc := record, runtimeAllocScope := scope, trace := [] } r s')
    (h3 : allocate3d env pArgs = false)
    (hb : (pArgs.isShared || linearPresent env pArgs) = true)
    (hacc : ∀ hr, .setError hr ∉ s'.trace) :
    BlobPublished env pArgs (linearPresent env pArgs) (createdBlock pArgs hRTResource)
      (createdDesc pArgs hRTResource) r s' := by
  cases runs_virtioWddmCreateResource h with
  | present3d h3' => exact absurd (h3.symm.trans h3') (by simp)
  | plain h3' hb' => exact absurd (hb.symm.trans hb') (by simp)
  | blob h3' hb' hdim r s' hrun =>
      cases hrun with
      | guarded hg => exact absurd (by simp) (hacc E_INVALIDARG)
      | imageFailed hg img s₁ himg hf => exact absurd (by simp) (hacc img.hr)
      | notAttributed hg img s₁ himg hok hattr => exact absurd (by simp) (hacc E_FAIL)
      | notResident hg img s₁ himg hok hattr hl hres =>
          exact absurd (by simp) (hacc (residentHr env))
      | accepted hg img s₁ himg hok hattr hres r s' hpub =>
          obtain ⟨image, mem, memory, hbound, -, -⟩ := himg.bound_of_ok hok
          have hsup := hbound.toImageSupported
          have htail : Grows (fun e => e.isTail = true) s₁ s' := by
            exact Grows.trans (t := (s₁.leaveScope _).log _)
              (Grows.log fun e he => residentIf_isTail he) hpub.quiet.grows
          obtain ⟨hlayout, hescape, hset⟩ := hpub.published_of_accepted hacc
          obtain ⟨tex, rfl⟩ := hpub.quiet.block
          refine ⟨⟨_, _, tex, rfl⟩, hg, hsup, hlayout, ?_, hescape, ?_⟩
          · rcases himg.imageInfos_eq with ⟨hun, -⟩ | ⟨-, heq⟩
            · exact absurd hun (not_or.mpr ⟨hsup.format, hsup.samples⟩)
            · rw [htail.imageInfos_of_tail, heq]
              cases hd : initData env pArgs <;>
                simp [CallState.enterScope, CallState.initDataBuilt, initDataEvents, hd, imageInfos]
          · intro set hr
            rw [hset, or_iff_right]
            · rfl
            intro hearly
            rcases List.mem_append.mp hearly with hearly | hearly
            · have hstart := (himg.grows.mem_iff (by simp [Event.isVulkan,
                Event.isHookTraffic])).mp hearly
              simp [CallState.enterScope, CallState.initDataBuilt, initDataEvents] at hstart
            · split at hearly
              · rcases mem_residentEvents hearly with h | h <;> cases h
              · simp at hearly

/-- Among the calls of a CreateResource one escape publishes blob information: it
    succeeds and names the allocation of the resource. -/
structure PublishedOnce (r : VirtioWddmResource) (s' : CallState) (set : BlobInfoSet)
    (hr : HRESULT) : Prop where
  escaped : .blobInfoEscape set hr ∈ s'.trace
  succeeded : failed hr = false
  handle : set.handle = r.base.hKMAllocation
  once : ∀ set' hr', .blobInfoEscape set' hr' ∈ s'.trace → set' = set ∧ hr' = hr

theorem BlobPublished.publishedOnce {env : DeviceEnv} {pArgs : CreateResourceArgs} {linear : Bool}
    {resource r : VirtioWddmResource} {desc : Texture2DDesc1} {s' : CallState}
    (h : BlobPublished env pArgs linear resource desc r s') :
    PublishedOnce r s' (ownBlobSet env linear desc r) env.blobInfoHr :=
  { escaped := (h.published ..).mpr ⟨rfl, rfl⟩
    succeeded := h.escape
    handle := rfl
    once := fun set' hr' => (h.published set' hr').mp }

-- ============================================================================
-- The blob path: what the opener rebuilds
-- ============================================================================

/-- The create info OpenResource builds from published blob information. -/
def openedBlobInfo (pArgs : OpenResourceArgs) (hRTResource : HANDLE) (info : BlobInfo) :
    VkImageCreateInfo :=
  sharedImageCreateInfo
    (openedDesc (openedBlobResource (openedResource pArgs hRTResource) info))
    (blobTiling info).1 (blobTiling info).2

/-- Opening valid blob information fills the block from it and, for a description
    Vulkan knows, creates exactly the image it describes. -/
theorem openResource_blob {env : DeviceEnv} {pArgs : OpenResourceArgs} {hRTResource : HANDLE}
    {record : RuntimeAllocRecord} {scope : RuntimeAllocScope} {info : AllocateBlobFull}
    {r : VirtioWddmResource} {s' : CallState}
    (h : Runs (virtioWddmOpenResource env pArgs hRTResource)
      { lastRuntimeAlloc := record, runtimeAllocScope := scope, trace := [] } r s')
    (hq : failed env.resourceInfo.hr = false) (hi : env.resourceInfo.info = .blob info)
    (hv : info.infoValid = true) (hc : info.created = true) :
    (∃ tex, r.base =
      { (openedBlobResource (openedResource pArgs hRTResource) info.info).base with
        pResource := tex }) ∧
    (ImageSupported (openedBlobInfo pArgs hRTResource info.info) →
      imageInfos s'.trace = [openedBlobInfo pArgs hRTResource info.info]) := by
  cases runs_virtioWddmOpenResource h with
  | queryFailed hq' => simp [hq] at hq'
  | unknownTag hq' tag hi' => simp [hi] at hi'
  | alloc3d hq' info' hi' => simp [hi] at hi'
  | blobInvalid hq' info' hi' hv' =>
      obtain rfl := AllocationInfo.blob.inj (hi.symm.trans hi')
      simp [hv, hc] at hv'
  | blob hq' info' hi' hv' hc' r s' hrun =>
      obtain rfl := AllocationInfo.blob.inj (hi.symm.trans hi')
      -- both exits of the import create the image and keep the block
      have himages : ∀ {img s₁}, SharedImageRun env.vk
          (openedBlobInfo pArgs hRTResource info.info)
          (.importHandle hRTResource pArgs.hAllocation env.resourceInfo.id (.blob info)) false
          (CallState.openQueried
            { lastRuntimeAlloc := record, runtimeAllocScope := scope, trace := [] } env pArgs)
          img s₁ →
          ImageSupported (openedBlobInfo pArgs hRTResource info.info) →
          imageInfos s₁.trace = [openedBlobInfo pArgs hRTResource info.info] := by
        intro img s₁ himg hsup
        rcases himg.imageInfos_eq with ⟨hun, -⟩ | ⟨-, heq⟩
        · exact absurd hun (not_or.mpr ⟨hsup.format, hsup.samples⟩)
        · exact heq
      cases hrun with
      | imageFailed img s₁ himg hf =>
          refine ⟨⟨none, rfl⟩, fun hsup => ?_⟩
          have htail : Grows (fun e => e.isTail = true) s₁ (s₁.log [.setError img.hr]) :=
            .log (List.forall_mem_singleton.mpr rfl)
          rw [htail.imageInfos_of_tail]
          exact himages himg hsup
      | imported img s₁ himg hok r s' himp =>
          refine ⟨?_, fun hsup => ?_⟩
          · cases himp with
            | failed => exact ⟨none, rfl⟩
            | imported hf tex htex => exact ⟨some tex, rfl⟩
          · rw [himp.quiet.grows.imageInfos_of_tail]
            exact himages himg hsup

/-- An OpenResource call that finds `blobInfo` behind the shared handle, valid and
    of a blob that exists, and how it ends. -/
structure OpensBlob (env : DeviceEnv) (pArgs : OpenResourceArgs) (hRTResource : HANDLE)
    (blobInfo : BlobInfo) (r : VirtioWddmResource) (s' : CallState) : Prop where
  run : ∃ record scope, Runs (virtioWddmOpenResource env pArgs hRTResource)
    { lastRuntimeAlloc := record, runtimeAllocScope := scope, trace := [] } r s'
  query : failed env.resourceInfo.hr = false
  reply : ∃ info, env.resourceInfo.info = .blob info ∧ info.info = blobInfo ∧
    info.infoValid = true ∧ info.created = true

theorem OpensBlob.block {env : DeviceEnv} {pArgs : OpenResourceArgs} {hRTResource : HANDLE}
    {blobInfo : BlobInfo} {r : VirtioWddmResource} {s' : CallState}
    (h : OpensBlob env pArgs hRTResource blobInfo r s') :
    ∃ tex, r.base = { (openedBlobResource (openedResource pArgs hRTResource) blobInfo).base with
      pResource := tex } := by
  obtain ⟨record, scope, hrun⟩ := h.run
  obtain ⟨info, hinfo, rfl, hvalid, hcreated⟩ := h.reply
  exact (openResource_blob hrun h.query hinfo hvalid hcreated).1

theorem OpensBlob.images {env : DeviceEnv} {pArgs : OpenResourceArgs} {hRTResource : HANDLE}
    {blobInfo : BlobInfo} {r : VirtioWddmResource} {s' : CallState}
    (h : OpensBlob env pArgs hRTResource blobInfo r s')
    (hsup : ImageSupported (openedBlobInfo pArgs hRTResource blobInfo)) :
    imageInfos s'.trace = [openedBlobInfo pArgs hRTResource blobInfo] := by
  obtain ⟨record, scope, hrun⟩ := h.run
  obtain ⟨info, hinfo, rfl, hvalid, hcreated⟩ := h.reply
  exact (openResource_blob hrun h.query hinfo hvalid hcreated).2 hsup

-- ============================================================================
-- Shared blobs
-- ============================================================================

/-- The two images agree on everything the memory layout depends on. -/
structure SameImage (infoC infoO : VkImageCreateInfo) : Prop where
  format : infoO.format = infoC.format
  extentWidth : infoO.extentWidth = infoC.extentWidth
  extentHeight : infoO.extentHeight = infoC.extentHeight
  extentDepth : infoO.extentDepth = infoC.extentDepth
  mipLevels : infoO.mipLevels = infoC.mipLevels
  arrayLayers : infoO.arrayLayers = infoC.arrayLayers
  samples : infoO.samples = infoC.samples
  tiling : infoO.tiling = infoC.tiling
  flags : infoO.flags = infoC.flags
  usage : infoO.usage = infoC.usage

/-- `DXGI_FORMAT_UNKNOWN` has no Vulkan counterpart, so a supported image's format
    is not it. -/
theorem ImageSupported.format_ne_unknown {linear : Bool} {desc : Texture2DDesc1}
    (h : ImageSupported (blobImageInfo linear desc)) : desc.format ≠ DxgiFormat.UNKNOWN := by
  intro hu
  refine h.format ?_
  show dxgiToVkFormat desc.format = .UNDEFINED
  rw [hu, dxgiToVkFormat_UNKNOWN]

/-- The published format is the exact one, and the opener uses it. -/
theorem openedBlob_format {linear : Bool} {env : DeviceEnv} {desc : Texture2DDesc1}
    (h : desc.format ≠ DxgiFormat.UNKNOWN) (resource : VirtioWddmResource) :
    (openedBlobResource resource (publishedBlobInfo env linear desc)).base.format =
      desc.format := by
  cases linear <;> simp [openedBlobResource, publishedBlobInfo, optimalBlobInfo, linearBlobInfo, h]

/-- One sample is the only count with the sample bit the opener asks for. -/
theorem dxgiToVkSampleCount_eq_one_iff (count : UINT) :
    dxgiToVkSampleCount 1 = dxgiToVkSampleCount count ↔ count = 1 := by
  constructor
  · intro h
    have hne : dxgiToVkSampleCount count ≠ 0#32 := h ▸ (by decide)
    rcases (dxgiToVkSampleCount_ne_zero_iff count).mp hne with rfl | rfl | rfl | rfl | rfl
    · rfl
    all_goals exact absurd h (by decide)
  · rintro rfl
    rfl

/-- What the opener builds from a record of the creator is supported whenever the
    creator's own image was. -/
theorem openedBlobInfo_supported {linear : Bool} {env : DeviceEnv} {desc : Texture2DDesc1}
    (h : ImageSupported (blobImageInfo linear desc)) (pArgs : OpenResourceArgs)
    (hRTResource : HANDLE) :
    ImageSupported (openedBlobInfo pArgs hRTResource (publishedBlobInfo env linear desc)) := by
  refine ⟨?_, (by decide : dxgiToVkSampleCount 1 ≠ 0#32)⟩
  show dxgiToVkFormat (openedBlobResource (openedResource pArgs hRTResource)
    (publishedBlobInfo env linear desc)).base.format ≠ .UNDEFINED
  rw [openedBlob_format h.format_ne_unknown]
  exact h.format

/-- A shared resource that is not a present buffer: an accepted create publishes
    one record, and whoever opens it creates the same image as the creator exactly
    when the resource has one mip level, one layer and one sample. -/
theorem sharedBlob_roundtrip_iff {envC : DeviceEnv} {argsC : CreateResourceArgs} {hRTC : HANDLE}
    {recordC : RuntimeAllocRecord} {scopeC : RuntimeAllocScope} {rC : VirtioWddmResource}
    {sC : CallState}
    (hcreate : Runs (virtioWddmCreateResource envC argsC hRTC)
      { lastRuntimeAlloc := recordC, runtimeAllocScope := scopeC, trace := [] } rC sC)
    (h3 : allocate3d envC argsC = false) (hshared : argsC.isShared = true)
    (hlinear : linearPresent envC argsC = false) (hacc : ∀ hr, .setError hr ∉ sC.trace) :
    ∃ set hrSet, PublishedOnce rC sC set hrSet ∧
      ∀ {envO : DeviceEnv} {pArgs : OpenResourceArgs} {hRTO : HANDLE} {rO : VirtioWddmResource}
        {sO : CallState}, OpensBlob envO pArgs hRTO set.blobInfo rO sO →
        ∃ infoC infoO, imageInfos sC.trace = [infoC] ∧ imageInfos sO.trace = [infoO] ∧
          (SameImage infoC infoO ↔
            argsC.mipLevels = 1 ∧ argsC.arraySize = 1 ∧ argsC.sampleDesc.count = 1) := by
  have hc := createResource_blobPublished hcreate h3 (by simp [hshared]) hacc
  rw [hlinear] at hc
  refine ⟨_, _, hc.publishedOnce, ?_⟩
  intro envO pArgs hRTO rO sO hopen
  have hopen : OpensBlob envO pArgs hRTO
    (publishedBlobInfo envC false (createdDesc argsC hRTC)) rO sO := hopen
  refine ⟨_, _, hc.images, hopen.images (openedBlobInfo_supported hc.supported ..), ?_⟩
  have hformat : (openedBlobResource (openedResource pArgs hRTO)
      (publishedBlobInfo envC false (createdDesc argsC hRTC))).base.format =
        (createdDesc argsC hRTC).format :=
    openedBlob_format hc.supported.format_ne_unknown _
  constructor
  · intro hsame
    exact ⟨hsame.mipLevels.symm, hsame.arrayLayers.symm,
      (dxgiToVkSampleCount_eq_one_iff _).mp hsame.samples⟩
  · rintro ⟨hmips, hlayers, hcount⟩
    exact
      { format := congrArg dxgiToVkFormat hformat
        extentWidth := rfl
        extentHeight := rfl
        extentDepth := rfl
        mipLevels := hmips.symm
        arrayLayers := hlayers.symm
        samples := (dxgiToVkSampleCount_eq_one_iff _).mpr hcount
        tiling := rfl
        flags := by
          show (sharedImageCreateInfo (openedDesc _) _ _).flags = _
          simp only [sharedImageCreateInfo, openedDesc, hformat, blobImageInfo]
        usage := rfl }

/-- A shared texture that is no present buffer. -/
def sharedArgs (mipLevels : UINT) : CreateResourceArgs :=
  { pMipInfoList := some { texelWidth := 64, texelHeight := 64, texelDepth := 1 }
    miscFlags := D3D10_DDI_RESOURCE_MISC_SHARED
    format := .R8G8B8A8_UNORM
    mipLevels := mipLevels
    arraySize := 1
    sampleDesc := { count := 1 } }

/-- An ICD that allocates once, for runtime resource `5`. -/
def ownAllocation : List HookCall :=
  [.alloc (some { hRTResource := 5 }) { hAllocation := 0x30, hKMResource := 0x31 }]

/-- The kernel's reply about a blob whose information the creator has set. -/
def publishedReply (info : BlobInfo) : AllocationInfo :=
  .blob { info := info, infoValid := true, created := true }

/-- What the creator publishes for `sharedArgs`. -/
def sharedRecord (mipLevels : UINT) : BlobInfo :=
  optimalBlobInfo (createdDesc (sharedArgs mipLevels) 5)

theorem sharedBlob_roundtrip_single :
    ∃ rC sC rO sO infoC infoO,
      Runs (virtioWddmCreateResource (.allOk false (.other 0) ownAllocation) (sharedArgs 1) 5)
        {} rC sC ∧
      PublishedOnce rC sC { handle := 0x30, blobInfo := sharedRecord 1 } S_OK ∧
      Runs (virtioWddmOpenResource (.allOk false (publishedReply (sharedRecord 1)) [])
        { numAllocations := 1, hAllocation := 0x30, hKMResource := 0x31 } 6) {} rO sO ∧
      imageInfos sC.trace = [infoC] ∧ imageInfos sO.trace = [infoO] ∧ SameImage infoC infoO := by
  have hcreate : Runs
      (virtioWddmCreateResource (.allOk false (.other 0) ownAllocation) (sharedArgs 1) 5)
      { lastRuntimeAlloc := {}, runtimeAllocScope := {}, trace := [] } _ _ := rfl
  have hopen : Runs (virtioWddmOpenResource (.allOk false (publishedReply (sharedRecord 1)) [])
      { numAllocations := 1, hAllocation := 0x30, hKMResource := 0x31 } 6)
      { lastRuntimeAlloc := {}, runtimeAllocScope := {}, trace := [] } _ _ := rfl
  obtain ⟨set, hr, hpub, hopens⟩ := sharedBlob_roundtrip_iff hcreate rfl rfl rfl
    (no_error_of_all rfl)
  obtain ⟨rfl, rfl⟩ :=
    hpub.once { handle := 0x30, blobInfo := sharedRecord 1 } S_OK (by decide)
  obtain ⟨infoC, infoO, hC, hO, hiff⟩ :=
    hopens ⟨⟨_, _, hopen⟩, rfl, ⟨_, rfl, rfl, rfl, rfl⟩⟩
  exact ⟨_, _, _, _, infoC, infoO, rfl, hpub, rfl, hC, hO, hiff.mpr ⟨rfl, rfl, rfl⟩⟩

/-- A shared texture with two mip levels is accepted, and opened as an image with
    one. -/
theorem sharedBlob_mips_lost :
    ∃ rC sC rO sO infoC infoO,
      Runs (virtioWddmCreateResource (.allOk false (.other 0) ownAllocation) (sharedArgs 2) 5)
        {} rC sC ∧
      (∀ hr, .setError hr ∉ sC.trace) ∧
      .blobInfoEscape { handle := 0x30, blobInfo := sharedRecord 2 } S_OK ∈ sC.trace ∧
      Runs (virtioWddmOpenResource (.allOk false (publishedReply (sharedRecord 2)) [])
        { numAllocations := 1, hAllocation := 0x30, hKMResource := 0x31 } 6) {} rO sO ∧
      imageInfos sC.trace = [infoC] ∧ imageInfos sO.trace = [infoO] ∧
      infoC.mipLevels = 2 ∧ infoO.mipLevels = 1 ∧ ¬SameImage infoC infoO := by
  refine ⟨_, _, _, _, _, _, rfl, no_error_of_all rfl, by decide, rfl, rfl, rfl, rfl, rfl, ?_⟩
  intro hsame
  exact absurd hsame.mipLevels (by decide)

-- ============================================================================
-- Linear present blobs
-- ============================================================================

/-- A layout that passed the check fits the 32-bit fields it is narrowed to. -/
theorem layout_of_not_rejected {layout : VkSubresourceLayout}
    (h : layoutRejected layout = false) :
    (layout.rowPitch.truncate 32).zeroExtend 64 = layout.rowPitch ∧
      (layout.offset.truncate 32).zeroExtend 64 = layout.offset := by
  have hfits : ∀ x : UINT64, ¬UINT32_MAX < x → (x.truncate 32).zeroExtend 64 = x := by
    intro x hx
    have hle : x.toNat ≤ 0xFFFFFFFF := by
      simpa [UINT32_MAX, BitVec.lt_def] using hx
    apply BitVec.eq_of_toNat_eq
    simp only [BitVec.truncate_eq_setWidth, BitVec.toNat_setWidth]
    omega
  simp only [layoutRejected, Bool.or_eq_false_iff, decide_eq_false_iff_not] at h
  exact ⟨hfits _ h.1.2, hfits _ h.2⟩

/-- The published record describes the layout Vulkan reported, unharmed by the
    narrowing, and nothing past the first plane. -/
structure LayoutPublished (info : BlobInfo) (layout : VkSubresourceLayout) : Prop where
  rowPitch : (info.strides.get 0).zeroExtend 64 = layout.rowPitch
  offset : (info.offsets.get 0).zeroExtend 64 = layout.offset
  otherStrides : ∀ (i : Nat) (hi : i < 4), i ≠ 0 → info.strides[i] = 0
  otherOffsets : ∀ (i : Nat) (hi : i < 4), i ≠ 0 → info.offsets[i] = 0

/-- The opener's block describes the creator's buffer. -/
structure SameLinearBuffer (rC rO : VirtioWddmResource) : Prop where
  width : rO.base.width = rC.base.width
  height : rO.base.height = rC.base.height
  format : rO.base.format = rC.base.format
  mipLevels : rO.base.mipLevels = 1 ∧ rC.base.mipLevels = 1
  arraySize : rO.base.arraySize = 1 ∧ rC.base.arraySize = 1
  sampleCount : rO.base.sampleDesc.count = 1 ∧ rC.base.sampleDesc.count = 1

/-- The opener imports the image through an explicit linear modifier with the
    creator's first plane. -/
structure ImportsLinear (infoC infoO : VkImageCreateInfo) (layout : VkSubresourceLayout) :
    Prop where
  tiling : infoO.tiling = .drmFormatModifier
  modifier : ∃ m, infoO.modifierInfo = some m ∧ m.drmFormatModifier = 0 ∧ m.planeCount = 1 ∧
    m.planeLayouts.head? = some layout
  image : infoO.format = infoC.format ∧ infoO.extentWidth = infoC.extentWidth ∧
    infoO.extentHeight = infoC.extentHeight ∧ infoO.mipLevels = infoC.mipLevels ∧
    infoO.arrayLayers = infoC.arrayLayers ∧ infoO.samples = infoC.samples

theorem linearBlobInfo_layout {desc : Texture2DDesc1} {layout : VkSubresourceLayout}
    (h : layoutRejected layout = false) : LayoutPublished (linearBlobInfo desc layout) layout := by
  obtain ⟨hpitch, hoffset⟩ := layout_of_not_rejected h
  refine ⟨?_, ?_, ?_, ?_⟩
  · exact hpitch
  · exact hoffset
  · intro i hi h0
    simp [linearBlobInfo, optimalBlobInfo, Ne.symm h0]
  · intro i hi h0
    simp [linearBlobInfo, optimalBlobInfo, Ne.symm h0]

/-- The first plane the opener hands to Vulkan is the published one. -/
theorem blobPlanes_head {info : BlobInfo} {layout : VkSubresourceLayout}
    (h : LayoutPublished info layout) : (blobPlanes info).head? = some layout := by
  show some (VkSubresourceLayout.mk ((info.offsets.get 0).zeroExtend 64)
    ((info.strides.get 0).zeroExtend 64)) = some layout
  rw [h.offset, h.rowPitch]

/-- A present buffer on the linear path: whatever layout Vulkan reports, if the
    creator succeeds then it has published that layout in full, once, and whoever
    opens the record rebuilds the same buffer with the same first plane. -/
theorem linearBlob_roundtrip {envC : DeviceEnv} {argsC : CreateResourceArgs} {hRTC : HANDLE}
    {recordC : RuntimeAllocRecord} {scopeC : RuntimeAllocScope} {rC : VirtioWddmResource}
    {sC : CallState}
    (hcreate : Runs (virtioWddmCreateResource envC argsC hRTC)
      { lastRuntimeAlloc := recordC, runtimeAllocScope := scopeC, trace := [] } rC sC)
    (hlinear : linearPresent envC argsC = true) (hacc : ∀ hr, .setError hr ∉ sC.trace) :
    ∃ set hrSet, PublishedOnce rC sC set hrSet ∧
      LayoutPublished set.blobInfo envC.vk.subresourceLayout ∧
      ∀ {envO : DeviceEnv} {pArgs : OpenResourceArgs} {hRTO : HANDLE} {rO : VirtioWddmResource}
        {sO : CallState}, OpensBlob envO pArgs hRTO set.blobInfo rO sO →
        SameLinearBuffer rC rO ∧
          ∃ infoC infoO, imageInfos sC.trace = [infoC] ∧ imageInfos sO.trace = [infoO] ∧
            ImportsLinear infoC infoO envC.vk.subresourceLayout := by
  have hc := createResource_blobPublished hcreate (by simp [allocate3d, hlinear])
    (by simp [hlinear]) hacc
  rw [hlinear] at hc
  have hlayout : LayoutPublished (publishedBlobInfo envC true (createdDesc argsC hRTC))
      envC.vk.subresourceLayout := linearBlobInfo_layout (hc.layout rfl)
  refine ⟨_, _, hc.publishedOnce, hlayout, ?_⟩
  intro envO pArgs hRTO rO sO hopen
  have hopen : OpensBlob envO pArgs hRTO
    (publishedBlobInfo envC true (createdDesc argsC hRTC)) rO sO := hopen
  obtain ⟨tex, hblock⟩ := hopen.block
  obtain ⟨hKMAllocation, hKMResource, texC, hblockC⟩ := hc.block
  have hformat : (openedBlobResource (openedResource pArgs hRTO)
      (publishedBlobInfo envC true (createdDesc argsC hRTC))).base.format =
        (createdDesc argsC hRTC).format :=
    openedBlob_format hc.supported.format_ne_unknown _
  -- the guard has left one mip level, one layer and one sample
  obtain ⟨hmips, hlayers, hcount⟩ : argsC.mipLevels = 1 ∧ argsC.arraySize = 1 ∧
      argsC.sampleDesc.count = 1 := by
    have hguard := hc.guard
    simp only [LinearGuard, true_and, not_or, not_not] at hguard
    exact hguard
  refine ⟨?_, _, _, hc.images, hopen.images (openedBlobInfo_supported hc.supported ..), ?_⟩
  · constructor <;> rw [hblock, hblockC]
    · rfl
    · rfl
    · exact hformat
    · exact ⟨rfl, hmips⟩
    · exact ⟨rfl, hlayers⟩
    · exact ⟨rfl, hcount⟩
  · refine ⟨rfl, ⟨_, rfl, rfl, rfl, blobPlanes_head hlayout⟩, ?_⟩
    exact ⟨congrArg dxgiToVkFormat hformat, rfl, rfl, hmips.symm, hlayers.symm,
      (dxgiToVkSampleCount_eq_one_iff _).mpr hcount⟩

/-- What the creator publishes for `presentArgs`. -/
def presentRecord : BlobInfo :=
  linearBlobInfo (createdDesc presentArgs 5) { offset := 0, rowPitch := 0x1000 }

theorem linearBlob_roundtrip_present :
    ∃ rC sC rO sO infoC infoO,
      Runs (virtioWddmCreateResource (.allOk true (.other 0) ownAllocation) presentArgs 5)
        {} rC sC ∧
      .blobInfoEscape { handle := 0x30, blobInfo := presentRecord } S_OK ∈ sC.trace ∧
      PublishedOnce rC sC { handle := 0x30, blobInfo := presentRecord } S_OK ∧
      LayoutPublished presentRecord { offset := 0, rowPitch := 0x1000 } ∧
      Runs (virtioWddmOpenResource (.allOk true (publishedReply presentRecord) [])
        { numAllocations := 1, hAllocation := 0x30, hKMResource := 0x31 } 6) {} rO sO ∧
      SameLinearBuffer rC rO ∧
      imageInfos sC.trace = [infoC] ∧ imageInfos sO.trace = [infoO] ∧
      ImportsLinear infoC infoO { offset := 0, rowPitch := 0x1000 } := by
  have hcreate : Runs
      (virtioWddmCreateResource (.allOk true (.other 0) ownAllocation) presentArgs 5)
      { lastRuntimeAlloc := {}, runtimeAllocScope := {}, trace := [] } _ _ := rfl
  have hopen : Runs (virtioWddmOpenResource (.allOk true (publishedReply presentRecord) [])
      { numAllocations := 1, hAllocation := 0x30, hKMResource := 0x31 } 6)
      { lastRuntimeAlloc := {}, runtimeAllocScope := {}, trace := [] } _ _ := rfl
  obtain ⟨set, hr, hpub, hlayout, hopens⟩ :=
    linearBlob_roundtrip hcreate rfl (no_error_of_all rfl)
  obtain ⟨rfl, rfl⟩ := hpub.once { handle := 0x30, blobInfo := presentRecord } S_OK (by decide)
  obtain ⟨hsame, infoC, infoO, hC, hO, himports⟩ :=
    hopens ⟨⟨_, _, hopen⟩, rfl, ⟨_, rfl, rfl, rfl, rfl⟩⟩
  exact ⟨_, _, _, _, infoC, infoO, rfl, hpub.escaped, hpub, hlayout, rfl, hsame, hC, hO,
    himports⟩

end VirtioWddm
