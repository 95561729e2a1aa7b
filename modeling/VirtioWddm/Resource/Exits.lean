/-
  VirtioWddm.Resource.Exits

  How CreateResource and OpenResource can end: for each part of the two calls an
  inductive relation with one constructor per exit of the C code, carrying the
  condition of the exit, the private block it leaves and the events so far.

  The `runs_` theorems are the only place that follows the program text; what
  later modules prove about a call is a case analysis on its exits.
-/

import VirtioWddm.Resource.Open

namespace VirtioWddm

open Lib

-- ============================================================================
-- Helpers with a single outcome
-- ============================================================================

/-- The result of `make_resource_resident`. -/
def residentHr (env : DeviceEnv) : HRESULT :=
  if env.makeResidentHr = E_PENDING then env.waitHr else env.makeResidentHr

/-- The events of `make_resource_resident`. -/
def residentEvents (env : DeviceEnv) (allocation : D3DKMT_HANDLE) : List Event :=
  .makeResidentCb allocation env.makeResidentHr ::
    if env.makeResidentHr = E_PENDING then [.waitForFence env.waitHr] else []

theorem mem_residentEvents {env : DeviceEnv} {allocation : D3DKMT_HANDLE} {e : Event}
    (h : e ∈ residentEvents env allocation) :
    e = .makeResidentCb allocation env.makeResidentHr ∨ e = .waitForFence env.waitHr := by
  unfold residentEvents at h
  split at h <;> simp only [List.mem_cons, List.not_mem_nil, or_false] at h
  · exact h
  · exact .inl h

@[simp] theorem runs_makeResourceResident {env : DeviceEnv} {allocation : D3DKMT_HANDLE}
    {s s' : CallState} {hr : HRESULT} :
    Runs (makeResourceResident env allocation) s hr s' ↔
      hr = residentHr env ∧ s' = s.log (residentEvents env allocation) := by
  by_cases hp : env.makeResidentHr = E_PENDING <;>
    simp [makeResourceResident, residentHr, residentEvents, hp]

@[simp] theorem runs_queryResourceInfo {env : DeviceEnv} {alloc : D3DKMT_HANDLE}
    {s s' : CallState} {res : Except HRESULT (UINT × AllocationInfo)} :
    Runs (queryResourceInfo env alloc) s res s' ↔
      res = (if failed env.resourceInfo.hr then .error env.resourceInfo.hr
        else .ok (env.resourceInfo.id, env.resourceInfo.info)) ∧
      s' = s.log [.resourceInfoEscape alloc env.resourceInfo.hr] := by
  by_cases hf : failed env.resourceInfo.hr = true <;>
    simp [queryResourceInfo, hf]

/-- The initial-data array of a call, `none` when the pointer is NULL. -/
def initData (env : DeviceEnv) (a : CreateResourceArgs) : Option (List SubresourceData) :=
  match a.pInitialDataUP with
  | none => none
  | some initialData =>
      if initDataCount a = 0#32 ∨ env.heapOk = false then none
      else some ((List.range (initDataCount a).toNat).map initialData)

/-- The event of a successful allocation of the array. -/
def initDataEvents (data : Option (List SubresourceData)) : List Event :=
  data.toList.map Event.initDataAllocated

@[simp] theorem runs_tritonBuildInitData {env : DeviceEnv} {a : CreateResourceArgs}
    {s s' : CallState} {data : Option (List SubresourceData)} :
    Runs (tritonBuildInitData env a) s data s' ↔
      data = initData env a ∧ s' = s.log (initDataEvents (initData env a)) := by
  cases ha : a.pInitialDataUP with
  | none => simp [tritonBuildInitData, initData, initDataEvents, ha]
  | some initialData =>
      by_cases hc : initDataCount a = 0#32
      · simp [tritonBuildInitData, initData, initDataEvents, ha, hc]
      · cases hh : env.heapOk <;>
          simp [tritonBuildInitData, initData, initDataEvents, ha, hc, hh, and_comm]

/-- The events of `update_subresource` from index `i` on. -/
def updateEvents (resource : HostResource) : Nat → List SubresourceData → List Event
  | _, [] => []
  | i, data :: rest => .updateSubresource resource i data :: updateEvents resource (i + 1) rest

/-- The events of the upload after a successful import. -/
def uploadEvents (resource : HostResource) (data : Option (List SubresourceData)) : List Event :=
  match data with
  | none => []
  | some data => updateEvents resource 0 data ++ [.initDataFreed]

@[simp] theorem runs_updateSubresource {resource : HostResource} {i : Nat}
    {data : List SubresourceData} {s s' : CallState} {u : Unit} :
    Runs (updateSubresource resource i data) s u s' ↔
      s' = s.log (updateEvents resource i data) := by
  induction data generalizing i s with
  | nil => simp [updateSubresource, updateEvents]
  | cons d rest ih => simp [updateSubresource, updateEvents, ih]

@[simp] theorem runs_uploadInitData {resource : HostResource}
    {data : Option (List SubresourceData)} {s s' : CallState} {u : Unit} :
    Runs (uploadInitData resource data) s u s' ↔ s' = s.log (uploadEvents resource data) := by
  cases data <;> simp [uploadInitData, uploadEvents]

/-- The private block with the host texture in place. -/
def VirtioWddmResource.withTexture (resource : VirtioWddmResource) (tex : HostResource) :
    VirtioWddmResource :=
  { resource with base := { resource.base with pResource := some tex } }

/-- The private block with the out-parameters of `create_shared_vk_image`. -/
def VirtioWddmResource.withImage (resource : VirtioWddmResource) (img : SharedImage) :
    VirtioWddmResource :=
  { resource with image := img.image, memory := img.memory }

/-- The private block with a kernel allocation in place. -/
def VirtioWddmResource.withAllocation (resource : VirtioWddmResource)
    (hKMAllocation hKMResource : D3DKMT_HANDLE) : VirtioWddmResource :=
  { resource with
    base := { resource.base with hKMAllocation := hKMAllocation, hKMResource := hKMResource } }

theorem isSetError_of_isVulkan {e : Event} (h : e.isVulkan = true) : e.isSetError = false := by
  cases e <;> first
    | rfl
    | simp [Event.isVulkan, Event.isHookTraffic] at h

-- ============================================================================
-- Import into the host device
-- ============================================================================

/-- The exits of the import both texture paths end with. -/
inductive ImportRun (env : DeviceEnv) (desc : Texture2DDesc1) (resource : VirtioWddmResource)
    (data : Option (List SubresourceData)) (s : CallState) :
    VirtioWddmResource → CallState → Prop where
  | failed (hf : failed env.importTexture.hr = true) :
      ImportRun env desc resource data s resource
        (s.log [.importTexture desc resource.image env.importTexture,
          .setError env.importTexture.hr])
  | imported (hf : failed env.importTexture.hr = false) (tex : HostResource)
      (htex : env.importTexture.object = some tex) :
      ImportRun env desc resource data s (resource.withTexture tex)
        (s.log (.importTexture desc resource.image env.importTexture :: uploadEvents tex data))

theorem runs_importSharedTexture {env : DeviceEnv} {desc : Texture2DDesc1}
    {resource r : VirtioWddmResource} {data : Option (List SubresourceData)} {s s' : CallState}
    (h : Runs (importSharedTexture env desc resource data) s r s') :
    ImportRun env desc resource data s r s' := by
  simp only [importSharedTexture, runs_bind, runs_emit, runs_ite] at h
  obtain ⟨u, s₁, rfl, h⟩ := h
  split at h
  case isTrue hf =>
    simp only [runs_tritonSetError, runs_pure] at h
    obtain ⟨u₁, s₂, rfl, rfl, rfl⟩ := h
    simpa using ImportRun.failed hf
  case isFalse hf =>
    cases htex : env.importTexture.object with
    | none => simp [htex] at h
    | some tex =>
        simp only [htex, runs_bind, runs_uploadInitData, runs_pure] at h
        obtain ⟨u₁, s₂, rfl, rfl, rfl⟩ := h
        have hf' : failed env.importTexture.hr = false := by simpa using hf
        have hrun : ImportRun env desc resource data s (resource.withTexture tex)
            (s.log (.importTexture desc resource.image env.importTexture ::
              uploadEvents tex data)) := .imported hf' tex htex
        simpa [VirtioWddmResource.withTexture] using hrun

-- ============================================================================
-- The blob path
-- ============================================================================

/-- The blob information the blob path publishes. -/
def publishedBlobInfo (env : DeviceEnv) (linearPresent : Bool) (desc : Texture2DDesc1) :
    BlobInfo :=
  if linearPresent then linearBlobInfo desc env.vk.subresourceLayout else optimalBlobInfo desc

/-- The state after the BLOB_INFO_SET escape. -/
def CallState.blobPublished (s : CallState) (env : DeviceEnv) (linearPresent : Bool)
    (desc : Texture2DDesc1) (resource : VirtioWddmResource) : CallState :=
  s.log [.blobInfoEscape
    { handle := resource.base.hKMAllocation
      blobInfo := publishedBlobInfo env linearPresent desc } env.blobInfoHr]

/-- The exits of the end of the blob path. -/
inductive PublishRun (env : DeviceEnv) (linearPresent : Bool) (desc : Texture2DDesc1)
    (resource : VirtioWddmResource) (data : Option (List SubresourceData)) (s : CallState) :
    VirtioWddmResource → CallState → Prop where
  | layoutRefused (hl : linearPresent = true)
      (hrej : layoutRejected env.vk.subresourceLayout = true) :
      PublishRun env linearPresent desc resource data s resource (s.log [.setError E_INVALIDARG])
  | escapeFailed (hok : ¬(linearPresent && layoutRejected env.vk.subresourceLayout) = true)
      (hf : failed env.blobInfoHr = true) :
      PublishRun env linearPresent desc resource data s resource
        ((s.blobPublished env linearPresent desc resource).log [.setError env.blobInfoHr])
  | published (hok : ¬(linearPresent && layoutRejected env.vk.subresourceLayout) = true)
      (hf : failed env.blobInfoHr = false) (r : VirtioWddmResource) (s' : CallState)
      (himp : ImportRun env desc resource data
        (s.blobPublished env linearPresent desc resource) r s') :
      PublishRun env linearPresent desc resource data s r s'

theorem runs_publishBlob {env : DeviceEnv} {linearPresent : Bool} {desc : Texture2DDesc1}
    {resource r : VirtioWddmResource} {data : Option (List SubresourceData)} {s s' : CallState}
    (h : Runs (publishBlob env linearPresent desc resource data) s r s') :
    PublishRun env linearPresent desc resource data s r s' := by
  simp only [publishBlob, runs_bind, runs_tritonSetError, runs_emit, runs_pure, runs_ite] at h
  split at h
  case isTrue hrej =>
    obtain ⟨u, s₁, rfl, rfl, rfl⟩ := h
    obtain ⟨hl, hr⟩ := Bool.and_eq_true_iff.mp hrej
    exact .layoutRefused hl hr
  case isFalse hok =>
  obtain ⟨u, s₁, rfl, h⟩ := h
  split at h
  case isTrue hf =>
    obtain ⟨u₁, s₂, rfl, rfl, rfl⟩ := h
    exact .escapeFailed hok hf
  case isFalse hf =>
    exact .published hok (by simpa using hf) _ _ (runs_importSharedTexture h)

/-- The scope the blob path runs `create_shared_vk_image` under. -/
def blobScope (pArgs : CreateResourceArgs) (isPrimary : Bool) (hRTResource : HANDLE) :
    RuntimeAllocScope :=
  { hRTResource := hRTResource
    primary := isPrimary
    primaryDesc := if isPrimary then pArgs.pPrimaryDesc.getD {} else {} }

/-- The state in which `create_shared_vk_image` starts: no record, own scope. -/
def CallState.enterScope (s : CallState) (scope : RuntimeAllocScope) : CallState :=
  { s with lastRuntimeAlloc := {}, runtimeAllocScope := scope }

/-- The state after the scope has been put back. -/
def CallState.leaveScope (s : CallState) (scope : RuntimeAllocScope) : CallState :=
  { s with runtimeAllocScope := scope }

/-- The create info of the blob path's image. -/
def blobImageInfo (linearPresent : Bool) (desc : Texture2DDesc1) : VkImageCreateInfo :=
  sharedImageCreateInfo desc (if linearPresent then .linear else .optimal) none

/-- The guard that keeps arrays, mip chains and multisampling off the linear
    path. -/
def LinearGuard (pArgs : CreateResourceArgs) (linearPresent : Bool) : Prop :=
  linearPresent = true ∧
    (pArgs.mipLevels ≠ 1 ∨ pArgs.arraySize ≠ 1 ∨ pArgs.sampleDesc.count ≠ 1)

instance (pArgs : CreateResourceArgs) (linearPresent : Bool) :
    Decidable (LinearGuard pArgs linearPresent) :=
  inferInstanceAs (Decidable (_ ∧ _))

/-- The record attributes an allocation to `hRTResource`. -/
def Attributed (record : RuntimeAllocRecord) (hRTResource : HANDLE) : Prop :=
  record.hAllocation ≠ 0 ∧ record.hRTResource = hRTResource

/-- The exits of the `is_shared || linear_present` branch. -/
inductive BlobRun (env : DeviceEnv) (pArgs : CreateResourceArgs) (isPrimary linearPresent : Bool)
    (desc : Texture2DDesc1) (hRTResource : HANDLE) (resource : VirtioWddmResource)
    (data : Option (List SubresourceData)) (s : CallState) :
    VirtioWddmResource → CallState → Prop where
  | guarded (hg : LinearGuard pArgs linearPresent) :
      BlobRun env pArgs isPrimary linearPresent desc hRTResource resource data s resource
        (s.log [.setError E_INVALIDARG])
  | imageFailed (hg : ¬LinearGuard pArgs linearPresent) (img : SharedImage) (s₁ : CallState)
      (himg : SharedImageRun env.vk (blobImageInfo linearPresent desc)
        (.createResource hRTResource) false
        (s.enterScope (blobScope pArgs isPrimary hRTResource)) img s₁)
      (hf : failed img.hr = true) :
      BlobRun env pArgs isPrimary linearPresent desc hRTResource resource data s
        (resource.withImage img)
        ((s₁.leaveScope s.runtimeAllocScope).log [.setError img.hr])
  | notAttributed (hg : ¬LinearGuard pArgs linearPresent) (img : SharedImage) (s₁ : CallState)
      (himg : SharedImageRun env.vk (blobImageInfo linearPresent desc)
        (.createResource hRTResource) false
        (s.enterScope (blobScope pArgs isPrimary hRTResource)) img s₁)
      (hok : failed img.hr = false) (hattr : ¬Attributed s₁.lastRuntimeAlloc hRTResource) :
      BlobRun env pArgs isPrimary linearPresent desc hRTResource resource data s
        (resource.withImage img)
        ((s₁.leaveScope s.runtimeAllocScope).log [.setError E_FAIL])
  | notResident (hg : ¬LinearGuard pArgs linearPresent) (img : SharedImage) (s₁ : CallState)
      (himg : SharedImageRun env.vk (blobImageInfo linearPresent desc)
        (.createResource hRTResource) false
        (s.enterScope (blobScope pArgs isPrimary hRTResource)) img s₁)
      (hok : failed img.hr = false) (hattr : Attributed s₁.lastRuntimeAlloc hRTResource)
      (hl : linearPresent = true) (hres : failed (residentHr env) = true) :
      BlobRun env pArgs isPrimary linearPresent desc hRTResource resource data s
        ((resource.withImage img).withAllocation s₁.lastRuntimeAlloc.hAllocation
          s₁.lastRuntimeAlloc.hKMResource)
        ((s₁.leaveScope s.runtimeAllocScope).log
          (residentEvents env s₁.lastRuntimeAlloc.hAllocation ++ [.setError (residentHr env)]))
  | accepted (hg : ¬LinearGuard pArgs linearPresent) (img : SharedImage) (s₁ : CallState)
      (himg : SharedImageRun env.vk (blobImageInfo linearPresent desc)
        (.createResource hRTResource) false
        (s.enterScope (blobScope pArgs isPrimary hRTResource)) img s₁)
      (hok : failed img.hr = false) (hattr : Attributed s₁.lastRuntimeAlloc hRTResource)
      (hres : linearPresent = true → failed (residentHr env) = false)
      (r : VirtioWddmResource) (s' : CallState)
      (hpub : PublishRun env linearPresent desc
        ((resource.withImage img).withAllocation s₁.lastRuntimeAlloc.hAllocation
          s₁.lastRuntimeAlloc.hKMResource) data
        ((s₁.leaveScope s.runtimeAllocScope).log
          (if linearPresent then residentEvents env s₁.lastRuntimeAlloc.hAllocation else []))
        r s') :
      BlobRun env pArgs isPrimary linearPresent desc hRTResource resource data s r s'

@[simp] theorem runs_withRuntimeAllocScope {α : Type} {scope : RuntimeAllocScope} {m : Call α}
    {s s' : CallState} {a : α} :
    Runs (withRuntimeAllocScope scope m) s a s' ↔
      ∃ s₁, Runs m { s with runtimeAllocScope := scope } a s₁ ∧
        s' = s₁.leaveScope s.runtimeAllocScope := by
  simp only [withRuntimeAllocScope, runs_bind, runs_get, runs_modify, runs_pure,
    CallState.leaveScope]
  constructor
  · rintro ⟨a₀, s₀, ⟨rfl, rfl⟩, u₁, s₁, rfl, a₁, s₂, hm, u₂, s₃, rfl, rfl, rfl⟩
    exact ⟨s₂, hm, rfl⟩
  · rintro ⟨s₁, hm, rfl⟩
    exact ⟨s, s, ⟨rfl, rfl⟩, (), _, rfl, a, s₁, hm, (), _, rfl, rfl, rfl⟩

theorem runs_createSharedBlob {env : DeviceEnv} {pArgs : CreateResourceArgs}
    {isPrimary linearPresent : Bool} {desc : Texture2DDesc1} {hRTResource : HANDLE}
    {resource r : VirtioWddmResource} {data : Option (List SubresourceData)} {s s' : CallState}
    (h : Runs (createSharedBlob env pArgs isPrimary linearPresent desc hRTResource resource data)
      s r s') :
    pArgs.resourceDimension = .texture2d ∧
      BlobRun env pArgs isPrimary linearPresent desc hRTResource resource data s r s' := by
  simp only [createSharedBlob, runs_bind, runs_assertCall, runs_tritonSetError, runs_pure,
    runs_ite, runs_modify, runs_withRuntimeAllocScope, runs_get] at h
  obtain ⟨u, s₀, ⟨hdim, rfl⟩, h⟩ := h
  refine ⟨by simpa using hdim, ?_⟩
  split at h
  case isTrue hg =>
    obtain ⟨u₁, s₁, rfl, rfl, rfl⟩ := h
    exact .guarded hg
  case isFalse hg =>
  obtain ⟨u₁, s₁, rfl, img, s₂, ⟨s₃, himg, rfl⟩, h⟩ := h
  have himg : SharedImageRun env.vk (blobImageInfo linearPresent desc)
      (.createResource hRTResource) false
      (s₀.enterScope (blobScope pArgs isPrimary hRTResource)) img s₃ :=
    runs_createSharedVkImage himg
  split at h
  case isTrue hf =>
    obtain ⟨u₂, s₄, rfl, rfl, rfl⟩ := h
    exact .imageFailed hg img s₃ himg hf
  case isFalse hf =>
  have hok : failed img.hr = false := by simpa using hf
  obtain ⟨st, s₄, ⟨rfl, rfl⟩, h⟩ := h
  split at h
  case isTrue hattr =>
    obtain ⟨u₂, s₄, rfl, rfl, rfl⟩ := h
    exact .notAttributed hg img s₃ himg hok (fun ha => hattr.elim ha.1 (· ha.2))
  case isFalse hattr =>
  have hattr : Attributed s₃.lastRuntimeAlloc hRTResource := by
    simpa [Attributed, CallState.leaveScope, not_or] using hattr
  obtain ⟨hr, s₅, hres, h⟩ := h
  cases hl : linearPresent with
  | false =>
      simp only [hl, makeLinearResident, Bool.false_eq_true, if_false, runs_pure] at hres
      obtain ⟨rfl, rfl⟩ := hres
      simp only [failed_S_OK, Bool.false_eq_true, if_false] at h
      subst hl
      refine .accepted hg img s₃ himg hok hattr (by simp) r s' ?_
      rw [if_neg (by simp), CallState.log_nil]
      exact runs_publishBlob h
  | true =>
      simp only [hl, makeLinearResident, if_true, runs_makeResourceResident] at hres
      obtain ⟨rfl, rfl⟩ := hres
      subst hl
      split at h
      case isTrue hf =>
        obtain ⟨u₂, s₄, rfl, rfl, rfl⟩ := h
        rw [CallState.log_log]
        exact .notResident hg img s₃ himg hok hattr rfl hf
      case isFalse hf =>
        refine .accepted hg img s₃ himg hok hattr (fun _ => by simpa using hf) r s' ?_
        rw [if_pos rfl]
        exact runs_publishBlob h

-- ============================================================================
-- What follows the image
-- ============================================================================

/-- The events after the image of a call exists: residency, publication, import,
    upload, an error. -/
def Event.isTail : Event → Bool
  | .makeResidentCb _ _ => true
  | .waitForFence _ => true
  | .blobInfoEscape _ _ => true
  | .importTexture _ _ _ => true
  | .updateSubresource _ _ _ => true
  | .initDataFreed => true
  | .setError _ => true
  | _ => false

theorem residentEvents_isTail {env : DeviceEnv} {allocation : D3DKMT_HANDLE} {e : Event}
    (h : e ∈ residentEvents env allocation) : e.isTail = true := by
  rcases mem_residentEvents h with rfl | rfl <;> rfl

/-- The events of a residency that fails, with the report. -/
theorem residentFailed_isTail {env : DeviceEnv} {allocation : D3DKMT_HANDLE} {hr : HRESULT}
    {e : Event} (h : e ∈ residentEvents env allocation ++ [.setError hr]) : e.isTail = true := by
  rcases List.mem_append.mp h with h | h
  · exact residentEvents_isTail h
  · rw [List.mem_singleton.mp h]
    rfl

/-- The events of a residency that is made for some resources only. -/
theorem residentIf_isTail {env : DeviceEnv} {allocation : D3DKMT_HANDLE} {p : Prop} [Decidable p]
    {e : Event} (h : e ∈ if p then residentEvents env allocation else []) : e.isTail = true := by
  split at h
  case isTrue => exact residentEvents_isTail h
  case isFalse => exact absurd h List.not_mem_nil

theorem mem_updateEvents {resource : HostResource} {i : Nat} {data : List SubresourceData}
    {e : Event} (h : e ∈ updateEvents resource i data) :
    ∃ j d, e = .updateSubresource resource j d := by
  induction data generalizing i with
  | nil => simp [updateEvents] at h
  | cons d rest ih =>
      rcases List.mem_cons.mp h with rfl | h
      · exact ⟨i, d, rfl⟩
      · exact ih h

theorem mem_uploadEvents {resource : HostResource} {data : Option (List SubresourceData)}
    {e : Event} (h : e ∈ uploadEvents resource data) :
    e = .initDataFreed ∨ ∃ j d, e = .updateSubresource resource j d := by
  cases data with
  | none => simp [uploadEvents] at h
  | some data =>
      rcases List.mem_append.mp h with h | h
      · exact .inr (mem_updateEvents h)
      · exact .inl (List.mem_singleton.mp h)

/-- A part of a call that only has tail events, and sets nothing in the private
    block but the host texture. -/
structure QuietRun (resource r : VirtioWddmResource) (s s' : CallState) : Prop where
  events : ∃ evs, s' = s.log evs ∧ ∀ e ∈ evs, e.isTail = true
  block : ∃ tex, r = { resource with base := { resource.base with pResource := tex } }

theorem QuietRun.record {resource r : VirtioWddmResource} {s s' : CallState}
    (h : QuietRun resource r s s') : s'.lastRuntimeAlloc = s.lastRuntimeAlloc := by
  obtain ⟨evs, rfl, -⟩ := h.events
  rfl

theorem QuietRun.grows {resource r : VirtioWddmResource} {s s' : CallState}
    (h : QuietRun resource r s s') : Grows (fun e => e.isTail = true) s s' := by
  obtain ⟨evs, rfl, hevs⟩ := h.events
  exact .log hevs

/-- More events in front. -/
theorem QuietRun.after {resource r : VirtioWddmResource} {s s' : CallState} {evs : List Event}
    (hevs : ∀ e ∈ evs, e.isTail = true) (h : QuietRun resource r (s.log evs) s') :
    QuietRun resource r s s' := by
  obtain ⟨evs', rfl, hevs'⟩ := h.events
  refine ⟨⟨evs ++ evs', by simp, ?_⟩, h.block⟩
  intro e he
  exact (List.mem_append.mp he).elim (hevs e) (hevs' e)

theorem ImportRun.quiet {env : DeviceEnv} {desc : Texture2DDesc1}
    {resource r : VirtioWddmResource} {data : Option (List SubresourceData)} {s s' : CallState}
    (h : ImportRun env desc resource data s r s') : QuietRun resource r s s' := by
  cases h with
  | failed =>
      refine ⟨⟨_, rfl, ?_⟩, resource.base.pResource, rfl⟩
      exact List.forall_mem_cons.mpr ⟨rfl, List.forall_mem_singleton.mpr rfl⟩
  | imported hf tex htex =>
      refine ⟨⟨_, rfl, ?_⟩, some tex, rfl⟩
      intro e he
      rcases List.mem_cons.mp he with rfl | he
      · rfl
      · rcases mem_uploadEvents he with rfl | ⟨j, d, rfl⟩ <;> rfl

theorem PublishRun.quiet {env : DeviceEnv} {linearPresent : Bool} {desc : Texture2DDesc1}
    {resource r : VirtioWddmResource} {data : Option (List SubresourceData)} {s s' : CallState}
    (h : PublishRun env linearPresent desc resource data s r s') : QuietRun resource r s s' := by
  cases h with
  | layoutRefused =>
      exact ⟨⟨_, rfl, List.forall_mem_singleton.mpr rfl⟩, resource.base.pResource, rfl⟩
  | escapeFailed =>
      refine ⟨⟨_, CallState.log_log .., ?_⟩, resource.base.pResource, rfl⟩
      exact List.forall_mem_cons.mpr ⟨rfl, List.forall_mem_singleton.mpr rfl⟩
  | published hok hf r s' himp => exact himp.quiet.after (List.forall_mem_singleton.mpr rfl)

-- ============================================================================
-- The 3D path
-- ============================================================================

/-- The state after a `pfnAllocateCb` of `create_shared_3d_resource`. -/
def CallState.allocated3d (s : CallState) (env : DeviceEnv) (desc : Texture2DDesc1)
    (primaryDesc : Option PrimaryDesc) (hRTResource : HANDLE) : CallState :=
  s.log [.allocateCb
    { hResource := hRTResource
      payload := allocate3dPayload (allocate3dPriv desc) primaryDesc
      primary := primaryDesc.isSome } env.allocate]

/-- The state after the RESOURCE_INFO query that follows it. -/
def CallState.queried3d (s : CallState) (env : DeviceEnv) (desc : Texture2DDesc1)
    (primaryDesc : Option PrimaryDesc) (hRTResource : HANDLE) : CallState :=
  (s.allocated3d env desc primaryDesc hRTResource).log
    [.resourceInfoEscape env.allocate.hAllocation env.resourceInfo.hr]

/-- The exits of `create_shared_3d_resource`. -/
inductive Shared3dRun (env : DeviceEnv) (desc : Texture2DDesc1) (primaryDesc : Option PrimaryDesc)
    (hRTResource : HANDLE) (s : CallState) : Shared3dResource → CallState → Prop where
  | unsupported (h : allocate3dSupported desc = false) :
      Shared3dRun env desc primaryDesc hRTResource s { hr := E_OUTOFMEMORY } s
  | allocateFailed (h : allocate3dSupported desc = true) (ha : failed env.allocate.hr = true) :
      Shared3dRun env desc primaryDesc hRTResource s { hr := env.allocate.hr }
        (s.allocated3d env desc primaryDesc hRTResource)
  | queryFailed (h : allocate3dSupported desc = true) (ha : failed env.allocate.hr = false)
      (hq : failed env.resourceInfo.hr = true) (hd : succeeded env.deallocateHr = true) :
      Shared3dRun env desc primaryDesc hRTResource s { hr := env.resourceInfo.hr }
        ((s.queried3d env desc primaryDesc hRTResource).log
          [.deallocateCb (.resource hRTResource) env.deallocateHr])
  | cleanupFailed (h : allocate3dSupported desc = true) (ha : failed env.allocate.hr = false)
      (hq : failed env.resourceInfo.hr = true) (hd : succeeded env.deallocateHr = false) :
      Shared3dRun env desc primaryDesc hRTResource s
        { hr := env.resourceInfo.hr
          hKMResource := env.allocate.hKMResource
          hAllocation := env.allocate.hAllocation }
        ((s.queried3d env desc primaryDesc hRTResource).log
          [.deallocateCb (.resource hRTResource) env.deallocateHr])
  | allocated (h : allocate3dSupported desc = true) (ha : failed env.allocate.hr = false)
      (hq : failed env.resourceInfo.hr = false) (info : Allocate3dFull)
      (hi : env.resourceInfo.info = .alloc3d info) :
      Shared3dRun env desc primaryDesc hRTResource s
        { hr := residentHr env
          hKMResource := env.allocate.hKMResource
          hAllocation := env.allocate.hAllocation
          id := env.resourceInfo.id
          info := some info }
        ((s.queried3d env desc primaryDesc hRTResource).log
          (residentEvents env env.allocate.hAllocation))

theorem runs_createShared3dResource {env : DeviceEnv} {desc : Texture2DDesc1}
    {primaryDesc : Option PrimaryDesc} {hRTResource : HANDLE} {s s' : CallState}
    {r : Shared3dResource}
    (h : Runs (createShared3dResource env desc primaryDesc hRTResource) s r s') :
    Shared3dRun env desc primaryDesc hRTResource s r s' := by
  simp only [createShared3dResource, runs_bind, runs_emit, runs_queryResourceInfo, runs_pure,
    runs_ite] at h
  split at h
  case isTrue hsup =>
    obtain ⟨rfl, rfl⟩ := h
    exact .unsupported hsup
  case isFalse hsup =>
  have hsup : allocate3dSupported desc = true := by simpa using hsup
  obtain ⟨u, s₁, rfl, h⟩ := h
  split at h
  case isTrue ha =>
    obtain ⟨rfl, rfl⟩ := h
    exact .allocateFailed hsup ha
  case isFalse ha =>
  have ha : failed env.allocate.hr = false := by simpa using ha
  obtain ⟨res, s₂, ⟨rfl, rfl⟩, h⟩ := h
  cases hq : failed env.resourceInfo.hr with
  | true =>
      simp only [hq, if_true, runs_bind, runs_emit, runs_pure, runs_ite] at h
      obtain ⟨u₁, s₃, rfl, h⟩ := h
      split at h
      case isTrue hd =>
        obtain ⟨rfl, rfl⟩ := h
        exact .queryFailed hsup ha hq hd
      case isFalse hd =>
        obtain ⟨rfl, rfl⟩ := h
        exact .cleanupFailed hsup ha hq (by simpa using hd)
  | false =>
      simp only [hq, Bool.false_eq_true, if_false] at h
      cases hi : env.resourceInfo.info with
      | blob info => simp [hi] at h
      | other tag => simp [hi] at h
      | alloc3d info =>
          simp only [hi, runs_bind, runs_makeResourceResident, runs_pure] at h
          obtain ⟨hr, s₃, ⟨rfl, rfl⟩, rfl, rfl⟩ := h
          exact .allocated hsup ha hq info hi

/-- The create info of the 3D path's image. -/
def imageInfo3d (desc : Texture2DDesc1) (info : Allocate3dFull)
    (planes : List VkSubresourceLayout) : VkImageCreateInfo :=
  sharedImageCreateInfo desc .drmFormatModifier
    (some
      { drmFormatModifier := info.modifier
        planeCount := info.numPlanes
        planeLayouts := planes })

/-- The private block with the out-parameters of `create_shared_3d_resource`. -/
def VirtioWddmResource.withShared3d (resource : VirtioWddmResource) (shared : Shared3dResource) :
    VirtioWddmResource :=
  resource.withAllocation shared.hAllocation shared.hKMResource

/-- The exits of the `allocate_3d` branch. -/
inductive Present3dRun (env : DeviceEnv) (primaryDesc : Option PrimaryDesc)
    (desc : Texture2DDesc1) (hRTResource : HANDLE) (resource : VirtioWddmResource)
    (data : Option (List SubresourceData)) (s : CallState) :
    VirtioWddmResource → CallState → Prop where
  | notAllocated (shared : Shared3dResource) (s₁ : CallState)
      (hsh : Shared3dRun env desc primaryDesc hRTResource s shared s₁)
      (hf : failed shared.hr = true) :
      Present3dRun env primaryDesc desc hRTResource resource data s
        (resource.withShared3d shared) (s₁.log [.setError shared.hr])
  | imageFailed (shared : Shared3dResource) (s₁ : CallState)
      (hsh : Shared3dRun env desc primaryDesc hRTResource s shared s₁)
      (hok : failed shared.hr = false) (info : Allocate3dFull) (hinfo : shared.info = some info)
      (planes : List VkSubresourceLayout)
      (hplanes : Runs (fillPlanes info.offsets info.strides info.numPlanes.toNat 0) s₁ planes s₁)
      (img : SharedImage) (s₂ : CallState)
      (himg : SharedImageRun env.vk (imageInfo3d desc info planes)
        (.importHandle hRTResource shared.hAllocation shared.id (.alloc3d info)) false s₁ img s₂)
      (hf : failed img.hr = true) :
      Present3dRun env primaryDesc desc hRTResource resource data s
        ((resource.withShared3d shared).withImage img) (s₂.log [.setError img.hr])
  | imported (shared : Shared3dResource) (s₁ : CallState)
      (hsh : Shared3dRun env desc primaryDesc hRTResource s shared s₁)
      (hok : failed shared.hr = false) (info : Allocate3dFull) (hinfo : shared.info = some info)
      (planes : List VkSubresourceLayout)
      (hplanes : Runs (fillPlanes info.offsets info.strides info.numPlanes.toNat 0) s₁ planes s₁)
      (img : SharedImage) (s₂ : CallState)
      (himg : SharedImageRun env.vk (imageInfo3d desc info planes)
        (.importHandle hRTResource shared.hAllocation shared.id (.alloc3d info)) false s₁ img s₂)
      (himgok : failed img.hr = false) (r : VirtioWddmResource) (s' : CallState)
      (himp : ImportRun env desc ((resource.withShared3d shared).withImage img) data s₂ r s') :
      Present3dRun env primaryDesc desc hRTResource resource data s r s'

theorem runs_createPresent3d {env : DeviceEnv} {pArgs : CreateResourceArgs} {isPrimary : Bool}
    {desc : Texture2DDesc1} {hRTResource : HANDLE} {resource r : VirtioWddmResource}
    {data : Option (List SubresourceData)} {s s' : CallState}
    (h : Runs (createPresent3d env pArgs isPrimary desc hRTResource resource data) s r s') :
    pArgs.resourceDimension = .texture2d ∧
      Present3dRun env (if isPrimary then pArgs.pPrimaryDesc else none) desc hRTResource resource
        data s r s' := by
  simp only [createPresent3d, runs_bind, runs_assertCall, runs_tritonSetError, runs_pure,
    runs_ite] at h
  obtain ⟨u, s₀, ⟨hdim, rfl⟩, shared, s₁, hsh, h⟩ := h
  refine ⟨by simpa using hdim, ?_⟩
  have hsh := runs_createShared3dResource hsh
  split at h
  case isTrue hf =>
    obtain ⟨u₁, s₂, rfl, rfl, rfl⟩ := h
    exact .notAllocated shared s₁ hsh hf
  case isFalse hf =>
  have hok : failed shared.hr = false := by simpa using hf
  cases hinfo : shared.info with
  | none => simp [hinfo] at h
  | some info =>
      simp only [hinfo, runs_bind, runs_tritonSetError, runs_pure, runs_ite] at h
      obtain ⟨planes, s₂, hplanes, img, s₃, himg, h⟩ := h
      obtain rfl := runs_fillPlanes_state hplanes
      have himg := runs_createSharedVkImage himg
      split at h
      case isTrue hf =>
        obtain ⟨u₁, s₄, rfl, rfl, rfl⟩ := h
        exact .imageFailed shared s₂ hsh hok info hinfo planes hplanes img s₃ himg hf
      case isFalse hf =>
        exact .imported shared s₂ hsh hok info hinfo planes hplanes img s₃ himg
          (by simpa using hf) r s' (runs_importSharedTexture h)

-- ============================================================================
-- The plain path
-- ============================================================================

/-- The exits of the final `switch`. -/
inductive PlainRun (env : DeviceEnv) (pArgs : CreateResourceArgs) (desc : Texture2DDesc1)
    (resource : VirtioWddmResource) (data : Option (List SubresourceData)) (s : CallState) :
    VirtioWddmResource → CallState → Prop where
  | unsupported (hd : plainResourceDesc pArgs desc resource = none) :
      PlainRun env pArgs desc resource data s resource (s.log [.setError E_INVALIDARG])
  | failed (hostDesc : HostResourceDesc)
      (hd : plainResourceDesc pArgs desc resource = some hostDesc)
      (hf : failed env.createHostResource.hr = true) :
      PlainRun env pArgs desc resource data s resource
        (s.log [.createHostResource hostDesc data env.createHostResource,
          .setError env.createHostResource.hr])
  | created (hostDesc : HostResourceDesc)
      (hd : plainResourceDesc pArgs desc resource = some hostDesc)
      (hf : failed env.createHostResource.hr = false) (object : HostResource)
      (hobj : env.createHostResource.object = some object) :
      PlainRun env pArgs desc resource data s (resource.withTexture object)
        (s.log (.createHostResource hostDesc data env.createHostResource ::
          data.toList.map fun _ => .initDataFreed))

@[simp] theorem runs_freeInitData {data : Option (List SubresourceData)} {s s' : CallState}
    {u : Unit} :
    Runs (freeInitData data) s u s' ↔ s' = s.log (data.toList.map fun _ => .initDataFreed) := by
  cases data <;> simp [freeInitData]

theorem runs_createPlain {env : DeviceEnv} {pArgs : CreateResourceArgs} {desc : Texture2DDesc1}
    {resource r : VirtioWddmResource} {data : Option (List SubresourceData)} {s s' : CallState}
    (h : Runs (createPlain env pArgs desc resource data) s r s') :
    PlainRun env pArgs desc resource data s r s' := by
  unfold createPlain at h
  cases hd : plainResourceDesc pArgs desc resource with
  | none =>
      simp only [hd, runs_bind, runs_tritonSetError, runs_pure] at h
      obtain ⟨u, s₁, rfl, rfl, rfl⟩ := h
      exact .unsupported hd
  | some hostDesc =>
      simp only [hd, runs_bind, runs_emit, runs_tritonSetError, runs_pure, runs_ite] at h
      obtain ⟨u, s₁, rfl, h⟩ := h
      split at h
      case isTrue hf =>
        obtain ⟨u₁, s₂, rfl, rfl, rfl⟩ := h
        rw [CallState.log_log]
        exact .failed hostDesc hd hf
      case isFalse hf =>
        cases hobj : env.createHostResource.object with
        | none => simp [hobj] at h
        | some object =>
            simp only [hobj, runs_bind, runs_freeInitData, runs_pure] at h
            obtain ⟨u₁, s₂, rfl, rfl, rfl⟩ := h
            rw [CallState.log_log]
            exact .created hostDesc hd (by simpa using hf) object hobj

-- ============================================================================
-- CreateResource
-- ============================================================================

/-- The private block and the texture description every path of a call starts
    from. -/
def createdBlock (pArgs : CreateResourceArgs) (hRTResource : HANDLE) : VirtioWddmResource :=
  initialResource pArgs hRTResource pArgs.isPrimary pArgs.isShared

def createdDesc (pArgs : CreateResourceArgs) (hRTResource : HANDLE) : Texture2DDesc1 :=
  resourceDesc pArgs (createdBlock pArgs hRTResource) pArgs.bindPresent

/-- The state after the initial-data array has been built. -/
def CallState.initDataBuilt (s : CallState) (env : DeviceEnv) (pArgs : CreateResourceArgs) :
    CallState :=
  s.log (initDataEvents (initData env pArgs))

/-- The primary description the 3D path passes on. -/
def primaryDescOf (pArgs : CreateResourceArgs) : Option PrimaryDesc :=
  if pArgs.isPrimary then pArgs.pPrimaryDesc else none

/-- The three paths of `virtio_wddm_create_resource`. -/
inductive CreateRun (env : DeviceEnv) (pArgs : CreateResourceArgs) (hRTResource : HANDLE)
    (s : CallState) : VirtioWddmResource → CallState → Prop where
  | present3d (h3 : allocate3d env pArgs = true) (hdim : pArgs.resourceDimension = .texture2d)
      (r : VirtioWddmResource) (s' : CallState)
      (h : Present3dRun env (primaryDescOf pArgs) (createdDesc pArgs hRTResource) hRTResource
        (createdBlock pArgs hRTResource) (initData env pArgs) (s.initDataBuilt env pArgs) r s') :
      CreateRun env pArgs hRTResource s r s'
  | blob (h3 : allocate3d env pArgs = false)
      (hb : (pArgs.isShared || linearPresent env pArgs) = true)
      (hdim : pArgs.resourceDimension = .texture2d) (r : VirtioWddmResource) (s' : CallState)
      (h : BlobRun env pArgs pArgs.isPrimary (linearPresent env pArgs)
        (createdDesc pArgs hRTResource) hRTResource (createdBlock pArgs hRTResource)
        (initData env pArgs) (s.initDataBuilt env pArgs) r s') :
      CreateRun env pArgs hRTResource s r s'
  | plain (h3 : allocate3d env pArgs = false)
      (hb : (pArgs.isShared || linearPresent env pArgs) = false) (r : VirtioWddmResource)
      (s' : CallState)
      (h : PlainRun env pArgs (createdDesc pArgs hRTResource) (createdBlock pArgs hRTResource)
        (initData env pArgs) (s.initDataBuilt env pArgs) r s') :
      CreateRun env pArgs hRTResource s r s'

theorem runs_virtioWddmCreateResource {env : DeviceEnv} {pArgs : CreateResourceArgs}
    {hRTResource : HANDLE} {s s' : CallState} {r : VirtioWddmResource}
    (h : Runs (virtioWddmCreateResource env pArgs hRTResource) s r s') :
    CreateRun env pArgs hRTResource s r s' := by
  simp only [virtioWddmCreateResource, runs_bind, runs_tritonBuildInitData, runs_ite] at h
  obtain ⟨data, s₁, ⟨rfl, rfl⟩, h⟩ := h
  split at h
  case isTrue h3 =>
    obtain ⟨hdim, hrun⟩ := runs_createPresent3d h
    exact .present3d h3 hdim r s' hrun
  case isFalse h3 =>
  have h3 : allocate3d env pArgs = false := by simpa using h3
  split at h
  case isTrue hb =>
    obtain ⟨hdim, hrun⟩ := runs_createSharedBlob h
    exact .blob h3 hb hdim r s' hrun
  case isFalse hb =>
    exact .plain h3 (by simpa using hb) r s' (runs_createPlain h)

-- ============================================================================
-- OpenResource and DestroyResource
-- ============================================================================

/-- The exits of the import both branches of OpenResource end with. -/
inductive OpenImportRun (env : DeviceEnv) (hRTResource : HANDLE) (id : UINT)
    (info : AllocationInfo) (tiling : VkImageTiling)
    (modifierInfo : Option DrmFormatModifierInfo) (resource : VirtioWddmResource)
    (s : CallState) : VirtioWddmResource → CallState → Prop where
  | imageFailed (img : SharedImage) (s₁ : CallState)
      (himg : SharedImageRun env.vk
        (sharedImageCreateInfo (openedDesc resource) tiling modifierInfo)
        (.importHandle hRTResource resource.base.hKMAllocation id info) false s img s₁)
      (hf : failed img.hr = true) :
      OpenImportRun env hRTResource id info tiling modifierInfo resource s
        (resource.withImage img) (s₁.log [.setError img.hr])
  | imported (img : SharedImage) (s₁ : CallState)
      (himg : SharedImageRun env.vk
        (sharedImageCreateInfo (openedDesc resource) tiling modifierInfo)
        (.importHandle hRTResource resource.base.hKMAllocation id info) false s img s₁)
      (hok : failed img.hr = false) (r : VirtioWddmResource) (s' : CallState)
      (himp : ImportRun env (openedDesc resource) (resource.withImage img) none s₁ r s') :
      OpenImportRun env hRTResource id info tiling modifierInfo resource s r s'

theorem runs_importOpened {env : DeviceEnv} {hRTResource : HANDLE} {id : UINT}
    {info : AllocationInfo} {tiling : VkImageTiling}
    {modifierInfo : Option DrmFormatModifierInfo} {resource r : VirtioWddmResource}
    {s s' : CallState}
    (h : Runs (importOpened env hRTResource id info tiling modifierInfo resource) s r s') :
    OpenImportRun env hRTResource id info tiling modifierInfo resource s r s' := by
  simp only [importOpened, runs_bind, runs_tritonSetError, runs_pure, runs_ite] at h
  obtain ⟨img, s₁, himg, h⟩ := h
  have himg := runs_createSharedVkImage himg
  split at h
  case isTrue hf =>
    obtain ⟨u₁, s₂, rfl, rfl, rfl⟩ := h
    exact .imageFailed img s₁ himg hf
  case isFalse hf =>
    exact .imported img s₁ himg (by simpa using hf) r s' (runs_importSharedTexture h)

/-- The tiling and the explicit layout OpenResource imports a blob with. -/
def blobTiling (info : BlobInfo) : VkImageTiling × Option DrmFormatModifierInfo :=
  if info.modifier ≠ DRM_MODIFIER_INVALID then
    (.drmFormatModifier,
      some
        { drmFormatModifier := info.modifier
          planeCount := 1
          planeLayouts := blobPlanes info })
  else
    (.optimal, none)

/-- The state after the RESOURCE_INFO query of OpenResource. -/
def CallState.openQueried (s : CallState) (env : DeviceEnv) (pArgs : OpenResourceArgs) :
    CallState :=
  s.log [.resourceInfoEscape pArgs.hAllocation env.resourceInfo.hr]

/-- The exits of `virtio_wddm_open_resource`. -/
inductive OpenRun (env : DeviceEnv) (pArgs : OpenResourceArgs) (hRTResource : HANDLE)
    (s : CallState) : VirtioWddmResource → CallState → Prop where
  | queryFailed (hq : failed env.resourceInfo.hr = true) :
      OpenRun env pArgs hRTResource s {}
        ((s.openQueried env pArgs).log [.setError env.resourceInfo.hr])
  | unknownTag (hq : failed env.resourceInfo.hr = false) (tag : UINT64)
      (hi : env.resourceInfo.info = .other tag) :
      OpenRun env pArgs hRTResource s (openedResource pArgs hRTResource)
        ((s.openQueried env pArgs).log [.setError E_INVALIDARG])
  | blobInvalid (hq : failed env.resourceInfo.hr = false) (info : AllocateBlobFull)
      (hi : env.resourceInfo.info = .blob info)
      (hv : info.infoValid = false ∨ info.created = false) :
      OpenRun env pArgs hRTResource s (openedResource pArgs hRTResource)
        ((s.openQueried env pArgs).log [.setError E_INVALIDARG])
  | blob (hq : failed env.resourceInfo.hr = false) (info : AllocateBlobFull)
      (hi : env.resourceInfo.info = .blob info) (hv : info.infoValid = true)
      (hc : info.created = true) (r : VirtioWddmResource) (s' : CallState)
      (h : OpenImportRun env hRTResource env.resourceInfo.id (.blob info)
        (blobTiling info.info).1 (blobTiling info.info).2
        (openedBlobResource (openedResource pArgs hRTResource) info.info)
        (s.openQueried env pArgs) r s') :
      OpenRun env pArgs hRTResource s r s'
  | alloc3d (hq : failed env.resourceInfo.hr = false) (info : Allocate3dFull)
      (hi : env.resourceInfo.info = .alloc3d info) (planes : List VkSubresourceLayout)
      (hplanes : Runs (fillPlanes info.offsets info.strides info.numPlanes.toNat 0)
        (s.openQueried env pArgs) planes (s.openQueried env pArgs))
      (r : VirtioWddmResource) (s' : CallState)
      (h : OpenImportRun env hRTResource env.resourceInfo.id (.alloc3d info) .drmFormatModifier
        (some
          { drmFormatModifier := info.modifier
            planeCount := info.numPlanes
            planeLayouts := planes })
        (opened3dResource (openedResource pArgs hRTResource) info.alloc)
        (s.openQueried env pArgs) r s') :
      OpenRun env pArgs hRTResource s r s'

theorem runs_virtioWddmOpenResource {env : DeviceEnv} {pArgs : OpenResourceArgs}
    {hRTResource : HANDLE} {s s' : CallState} {r : VirtioWddmResource}
    (h : Runs (virtioWddmOpenResource env pArgs hRTResource) s r s') :
    OpenRun env pArgs hRTResource s r s' := by
  simp only [virtioWddmOpenResource, runs_bind, runs_assertCall, runs_queryResourceInfo] at h
  obtain ⟨u, s₀, ⟨-, rfl⟩, res, s₁, ⟨rfl, rfl⟩, h⟩ := h
  cases hq : failed env.resourceInfo.hr with
  | true =>
      simp only [hq, if_true, runs_bind, runs_tritonSetError, runs_pure] at h
      obtain ⟨u₁, s₂, rfl, rfl, rfl⟩ := h
      exact .queryFailed hq
  | false =>
      simp only [hq, Bool.false_eq_true, if_false] at h
      cases hi : env.resourceInfo.info with
      | other tag =>
          simp only [hi, runs_bind, runs_tritonSetError, runs_pure] at h
          obtain ⟨u₁, s₂, rfl, rfl, rfl⟩ := h
          exact .unknownTag hq tag hi
      | alloc3d info =>
          simp only [hi, open3d, runs_bind] at h
          obtain ⟨planes, s₂, hplanes, h⟩ := h
          obtain rfl := runs_fillPlanes_state hplanes
          exact .alloc3d hq info hi planes hplanes r s' (runs_importOpened h)
      | blob info =>
          simp only [hi, openBlob, runs_bind, runs_tritonSetError, runs_pure, runs_ite] at h
          split at h
          case isTrue hv =>
            obtain ⟨u₁, s₂, rfl, rfl, rfl⟩ := h
            exact .blobInvalid hq info hi hv
          case isFalse hv =>
            obtain ⟨hv, hc⟩ := not_or.mp hv
            refine .blob hq info hi (by simpa using hv) (by simpa using hc) r s' ?_
            split at h
            case isTrue hm =>
              rw [blobTiling, if_pos hm]
              exact runs_importOpened h
            case isFalse hm =>
              rw [blobTiling, if_neg hm]
              exact runs_importOpened h

/-- The import returns unless the host reports success without a texture. -/
theorem total_importSharedTexture {env : DeviceEnv} {desc : Texture2DDesc1}
    {resource : VirtioWddmResource} {data : Option (List SubresourceData)}
    (himp : failed env.importTexture.hr = false → env.importTexture.object.isSome = true) :
    Total (importSharedTexture env desc resource data) := by
  refine (total_emit _).bind fun _ => .ite (fun _ => (total_emit _).bind fun _ => .pure _) ?_
  intro hf
  obtain ⟨tex, htex⟩ := Option.isSome_iff_exists.mp (himp (by simpa using hf))
  rw [htex]
  exact .bind (fun s => ⟨(), _, runs_uploadInitData.mpr rfl⟩) fun _ => .pure _

/-- So does the import both branches of OpenResource end with. -/
theorem total_importOpened {env : DeviceEnv} {hRTResource : HANDLE} {id : UINT}
    {info : AllocationInfo} {tiling : VkImageTiling}
    {modifierInfo : Option DrmFormatModifierInfo} {resource : VirtioWddmResource}
    (himp : failed env.importTexture.hr = false → env.importTexture.object.isSome = true) :
    Total (importOpened env hRTResource id info tiling modifierInfo resource) := by
  refine (total_createSharedVkImage _ _ _ _ _ _).bind fun img => ?_
  exact .ite (fun _ => (total_emit _).bind fun _ => .pure _)
    fun _ => total_importSharedTexture himp

/-- And the blob branch. -/
theorem total_openBlob {env : DeviceEnv} {hRTResource : HANDLE} {id : UINT}
    {info : AllocateBlobFull} {resource : VirtioWddmResource}
    (himp : failed env.importTexture.hr = false → env.importTexture.object.isSome = true) :
    Total (openBlob env hRTResource id info resource) :=
  .ite (fun _ => (total_emit _).bind fun _ => .pure _)
    fun _ => .ite (fun _ => total_importOpened himp) fun _ => total_importOpened himp

/-- OpenResource returns when its single allocation has at most four planes and
    the host keeps its promise about the imported texture. -/
theorem total_virtioWddmOpenResource {env : DeviceEnv} {pArgs : OpenResourceArgs}
    {hRTResource : HANDLE} (hn : pArgs.numAllocations = 1)
    (hplanes : ∀ info, env.resourceInfo.info = .alloc3d info → info.numPlanes.toNat ≤ 4)
    (himp : failed env.importTexture.hr = false → env.importTexture.object.isSome = true) :
    Total (virtioWddmOpenResource env pArgs hRTResource) := by
  refine .bind (fun s => ⟨(), s, runs_assertCall.mpr ⟨by simp [hn], rfl⟩⟩) fun _ s => ?_
  simp only [runs_bind, runs_queryResourceInfo]
  cases hq : failed env.resourceInfo.hr with
  | true =>
      refine ⟨{}, (s.openQueried env pArgs).log [.setError env.resourceInfo.hr], _, _,
        ⟨rfl, rfl⟩, ?_⟩
      simp [CallState.openQueried]
  | false =>
      simp only [Bool.false_eq_true, if_false, ↓existsAndEq, true_and]
      cases hi : env.resourceInfo.info with
      | other tag =>
          exact ⟨_, _, runs_bind.mpr ⟨(), _, runs_tritonSetError.mpr rfl, rfl⟩⟩
      | alloc3d info =>
          obtain ⟨planes, hrun⟩ : ∃ planes, Runs
              (fillPlanes info.offsets info.strides info.numPlanes.toNat 0)
              (s.openQueried env pArgs) planes (s.openQueried env pArgs) :=
            runs_fillPlanes (by simpa using hplanes info hi)
          have himport : Total (importOpened env hRTResource env.resourceInfo.id (.alloc3d info)
              .drmFormatModifier
              (some
                { drmFormatModifier := info.modifier
                  planeCount := info.numPlanes
                  planeLayouts := planes })
              (opened3dResource (openedResource pArgs hRTResource) info.alloc)) :=
            total_importOpened himp
          obtain ⟨r, s', h⟩ := himport (s.openQueried env pArgs)
          exact ⟨r, s', runs_bind.mpr ⟨planes, _, hrun, h⟩⟩
      | blob info =>
          have hopen : Total (openBlob env hRTResource env.resourceInfo.id info
              (openedResource pArgs hRTResource)) := total_openBlob himp
          exact hopen _

/-- The state after one conditional release of DestroyResource. -/
def CallState.releaseIfSet {α : Type} (s : CallState) (ptr : Option α)
    (release : CallState → α → CallState) : CallState :=
  (ptr.map (release s)).getD s

/-- The state after `virtio_wddm_destroy_resource`. -/
def CallState.destroyed (s : CallState) (env : DeviceEnv) (resource : VirtioWddmResource) :
    CallState :=
  let s₁ := s.releaseIfSet resource.base.pResource fun s tex => s.log [.releaseHostResource tex]
  let s₂ := s₁.releaseIfSet resource.image fun s image =>
    s.vk env.vk .destroyImage (.destroyImage image)
  let s₃ := s₂.releaseIfSet resource.memory fun s memory =>
    s.vk env.vk .freeMemory (.freeMemory memory)
  if resource.base.hKMAllocation ≠ 0 then
    s₃.log [.deallocateCb (.resource resource.base.hRTResource) env.deallocateHr]
  else
    s₃

/-- DestroyResource always returns, and leaves the block cleared. -/
theorem runs_virtioWddmDestroyResource {env : DeviceEnv} {resource r : VirtioWddmResource}
    {s s' : CallState} :
    Runs (virtioWddmDestroyResource env resource) s r s' ↔
      r = {} ∧ s' = s.destroyed env resource := by
  cases ht : resource.base.pResource <;> cases hi : resource.image <;>
    cases hm : resource.memory <;>
      by_cases ha : resource.base.hKMAllocation = 0#32 <;>
        simp [virtioWddmDestroyResource, releaseIfSet, CallState.destroyed,
          CallState.releaseIfSet, ht, hi, hm, ha]

end VirtioWddm
