/-
  VirtioWddm.Resource.Nested

  Allocations for other resources, nested in the hook calls of a CreateResource
  call.

  The alloc hook keeps one record, that of the last allocation on the thread.  Two
  runs of the blob path that differ by the hook calls for a set `F` of handles end
  alike until the record is looked at; there they differ exactly when the run
  without those calls finds its own allocation and the other run finds one of `F`
  made after it.
-/

import Mathlib.Data.List.Induction
import VirtioWddm.Resource.Failure

namespace VirtioWddm

open Lib

-- ============================================================================
-- Nested calls
-- ============================================================================

/-- The hook call makes or frees an allocation with a handle in `F`. -/
def HookCall.touches (F : D3DKMT_HANDLE → Bool) : HookCall → Bool
  | .alloc (some _) reply =>
      !failed reply.hr && reply.hAllocation != 0 && F reply.hAllocation
  | .free (some a) _ => a.hAllocation != 0 && F a.hAllocation
  | _ => false

/-- The hook call is a successful allocation. -/
def HookCall.allocates : HookCall → Bool
  | .alloc (some _) reply => !failed reply.hr && reply.hAllocation != 0
  | _ => false

/-- `env'` answers like `env`, but for more hook calls: allocations whose handles
    make up `F`, none of them for `hRTResource`, and frees of these handles, anywhere
    between the hook calls of `env`, which have no handle in `F`. -/
structure NestedCalls (hRTResource : HANDLE) (F : D3DKMT_HANDLE → Bool) (env env' : DeviceEnv) :
    Prop where
  same : env' = { env with vk := { env.vk with hooks := env'.vk.hooks } }
  removed : ∀ site, env.vk.hooks site = (env'.vk.hooks site).filter fun c => !c.touches F
  other : ∀ site req reply, .alloc (some req) reply ∈ env'.vk.hooks site →
    (HookCall.alloc (some req) reply).touches F = true → req.hRTResource ≠ hRTResource

/-- The last successful allocation among the hook calls is one of `F`. -/
def nestedLast (F : D3DKMT_HANDLE → Bool) (cs : List HookCall) : Bool :=
  cs.foldl (fun last c => if c.allocates then c.touches F else last) false

/-- The record a sequence of hook calls leaves, from a cleared one. -/
def hookedRecord (cs : List HookCall) : RuntimeAllocRecord :=
  cs.foldl hookRecord {}

theorem nestedLast_append (F : D3DKMT_HANDLE → Bool) (cs : List HookCall) (c : HookCall) :
    nestedLast F (cs ++ [c]) = if c.allocates then c.touches F else nestedLast F cs :=
  List.foldl_append

theorem hookedRecord_append (cs : List HookCall) (c : HookCall) :
    hookedRecord (cs ++ [c]) = hookRecord (hookedRecord cs) c :=
  List.foldl_append

/-- A free of what the record does not name leaves it alone. -/
theorem hookRecord_free_of_ne {record : RuntimeAllocRecord} {a : RuntimeAllocResult}
    {hr : HRESULT} (h : a.hAllocation ≠ 0 → record.hAllocation ≠ a.hAllocation) :
    hookRecord record (.free (some a) hr) = record := by
  rw [hookRecord, if_neg]
  rintro ⟨hne, heq⟩
  exact h hne heq

theorem hookRecord_alloc_of_allocates {record : RuntimeAllocRecord} {req : RuntimeAllocRequest}
    {reply : AllocateReply} (h : (HookCall.alloc (some req) reply).allocates = true) :
    hookRecord record (.alloc (some req) reply) =
      { hRTResource := req.hRTResource
        hAllocation := reply.hAllocation
        hKMResource := reply.hKMResource } := by
  rw [hookRecord, if_neg]
  rintro (hf | hz)
  · simp [HookCall.allocates, hf] at h
  · simp [HookCall.allocates, hz] at h

theorem hookRecord_alloc_of_not {record : RuntimeAllocRecord} {req : RuntimeAllocRequest}
    {reply : AllocateReply} (h : (HookCall.alloc (some req) reply).allocates = false) :
    hookRecord record (.alloc (some req) reply) = record := by
  rw [hookRecord, if_pos]
  rw [HookCall.allocates, Bool.and_eq_false_iff] at h
  rcases h with hf | hz
  · exact .inl (by simpa using hf)
  · exact .inr (by simpa using hz)

/-- Touching calls are allocations or frees of `F`. -/
theorem touches_alloc {F : D3DKMT_HANDLE → Bool} {req : RuntimeAllocRequest}
    {reply : AllocateReply} :
    (HookCall.alloc (some req) reply).touches F =
      ((HookCall.alloc (some req) reply).allocates && F reply.hAllocation) := rfl

-- ============================================================================
-- The two records
-- ============================================================================

/-- How the records of the two runs compare: while the last allocation is not one of
    `F` they are equal; otherwise the record of the longer run is empty or names one
    of `F`, made for another resource. -/
structure RecordsCompare (hRTResource : HANDLE) (F : D3DKMT_HANDLE → Bool) (nested : Bool)
    (record record' : RuntimeAllocRecord) : Prop where
  own : record.hAllocation ≠ 0 → F record.hAllocation = false
  same : nested = false → record' = record
  overwritten : nested = true → record'.hAllocation ≠ 0 →
    F record'.hAllocation = true ∧ record'.hRTResource ≠ hRTResource

section Compare

variable {hRTResource : HANDLE} {F : D3DKMT_HANDLE → Bool}

theorem RecordsCompare.nested_alloc {nested : Bool} {record record' : RuntimeAllocRecord}
    (h : RecordsCompare hRTResource F nested record record') {req : RuntimeAllocRequest}
    {reply : AllocateReply} (ha : (HookCall.alloc (some req) reply).allocates = true)
    (hF : F reply.hAllocation = true) (hother : req.hRTResource ≠ hRTResource) :
    RecordsCompare hRTResource F true record (hookRecord record' (.alloc (some req) reply)) := by
  refine ⟨h.own, fun hno => absurd hno (by simp), fun _ _ => ?_⟩
  rw [hookRecord_alloc_of_allocates ha]
  exact ⟨hF, hother⟩

theorem RecordsCompare.nested_free {nested : Bool} {record record' : RuntimeAllocRecord}
    (h : RecordsCompare hRTResource F nested record record') {a : RuntimeAllocResult}
    {hr : HRESULT} (hF : F a.hAllocation = true) :
    RecordsCompare hRTResource F nested record (hookRecord record' (.free (some a) hr)) := by
  refine ⟨h.own, fun hsame => ?_, fun hover hne => ?_⟩
  · rw [h.same hsame]
    refine hookRecord_free_of_ne fun hne heq => ?_
    have hown := h.own (heq ▸ hne)
    rw [heq, hF] at hown
    cases hown
  · by_cases hclear : a.hAllocation ≠ 0#32 ∧ record'.hAllocation = a.hAllocation
    · rw [hookRecord, if_pos hclear] at hne
      exact absurd rfl hne
    · rw [hookRecord, if_neg hclear] at hne ⊢
      exact h.overwritten hover hne

theorem RecordsCompare.own_alloc {nested : Bool} {record record' : RuntimeAllocRecord}
    (h : RecordsCompare hRTResource F nested record record') {req : RuntimeAllocRequest}
    {reply : AllocateReply} (ht : (HookCall.alloc (some req) reply).touches F = false) :
    RecordsCompare hRTResource F
      (if (HookCall.alloc (some req) reply).allocates then false else nested)
      (hookRecord record (.alloc (some req) reply))
      (hookRecord record' (.alloc (some req) reply)) := by
  cases ha : (HookCall.alloc (some req) reply).allocates with
  | true =>
      rw [hookRecord_alloc_of_allocates ha, hookRecord_alloc_of_allocates ha]
      refine ⟨fun _ => ?_, fun _ => rfl, fun hover => absurd hover (by simp)⟩
      rw [touches_alloc, ha, Bool.true_and] at ht
      exact ht
  | false =>
      rw [hookRecord_alloc_of_not ha, hookRecord_alloc_of_not ha]
      exact h

theorem RecordsCompare.own_free {nested : Bool} {record record' : RuntimeAllocRecord}
    (h : RecordsCompare hRTResource F nested record record') {a : RuntimeAllocResult}
    {hr : HRESULT} (ht : (HookCall.free (some a) hr).touches F = false) :
    RecordsCompare hRTResource F nested (hookRecord record (.free (some a) hr))
      (hookRecord record' (.free (some a) hr)) := by
  have hout : a.hAllocation ≠ 0 → F a.hAllocation = false := by
    intro hne
    rw [HookCall.touches, Bool.and_eq_false_iff] at ht
    exact ht.resolve_left (by simpa using hne)
  refine ⟨fun hne => ?_, fun hsame => by rw [h.same hsame], fun hover hne => ?_⟩
  · by_cases hclear : a.hAllocation ≠ 0#32 ∧ record.hAllocation = a.hAllocation
    · rw [hookRecord, if_pos hclear] at hne
      exact absurd rfl hne
    · rw [hookRecord, if_neg hclear] at hne ⊢
      exact h.own hne
  · by_cases hzero : record'.hAllocation = 0
    · rw [hookRecord_free_of_ne fun hne' heq => hne' (heq ▸ hzero)] at hne
      exact absurd hzero hne
    · -- a free of one of its own handles misses the record of one of `F`
      have hF := h.overwritten hover hzero
      rw [hookRecord_free_of_ne fun hne' heq => ?_]
      · exact hF
      · have hfalse := hout hne'
        rw [← heq, hF.1] at hfalse
        cases hfalse

/-- The records after the two sequences of hook calls. -/
theorem recordsCompare {cs : List HookCall}
    (hother : ∀ req reply, .alloc (some req) reply ∈ cs →
      (HookCall.alloc (some req) reply).touches F = true → req.hRTResource ≠ hRTResource) :
    RecordsCompare hRTResource F (nestedLast F cs)
      (hookedRecord (cs.filter fun c => !c.touches F)) (hookedRecord cs) := by
  induction cs using List.reverseRecOn with
  | nil =>
      exact ⟨fun hne => absurd rfl hne, fun _ => rfl,
        fun hover => absurd hover (by simp [nestedLast])⟩
  | append_singleton cs c ih =>
      have ih := ih fun req reply hmem => hother req reply (List.mem_append_left _ hmem)
      rw [nestedLast_append, hookedRecord_append, List.filter_append]
      cases ht : c.touches F with
      | true =>
          have hdrop : [c].filter (fun c => !c.touches F) = [] := by simp [ht]
          rw [hdrop, List.append_nil]
          rcases c with ⟨_ | req, reply⟩ | ⟨_ | a, hr⟩
          · cases ht
          · rw [touches_alloc, Bool.and_eq_true_iff] at ht
            rw [if_pos ht.1]
            refine ih.nested_alloc ht.1 ht.2 (hother req reply ?_ ?_)
            · exact List.mem_append_right _ List.mem_cons_self
            · rw [touches_alloc, ht.1, ht.2]
              rfl
          · cases ht
          · obtain ⟨-, hF⟩ := Bool.and_eq_true_iff.mp ht
            exact ih.nested_free hF
      | false =>
          have hkeep : [c].filter (fun c => !c.touches F) = [c] := by simp [ht]
          rw [hkeep, hookedRecord_append]
          rcases c with ⟨_ | req, reply⟩ | ⟨_ | a, hr⟩
          · exact ih
          · exact ih.own_alloc ht
          · exact ih
          · exact ih.own_free ht

/-- Where the last allocation is one of `F`, the longer run finds nothing of its
    own; elsewhere both runs find the same record. -/
theorem RecordsCompare.attributed {nested : Bool} {record record' : RuntimeAllocRecord}
    (h : RecordsCompare hRTResource F nested record record') (hnested : nested = true) :
    ¬Attributed record' hRTResource := by
  rintro ⟨hne, hsame⟩
  exact (h.overwritten hnested hne).2 hsame

end Compare

-- ============================================================================
-- The hook calls of a call
-- ============================================================================

theorem imageHooks_filter {hRTResource : HANDLE} {F : D3DKMT_HANDLE → Bool} {env env' : DeviceEnv}
    (h : NestedCalls hRTResource F env env') (desc : Texture2DDesc1) :
    imageHooks env.vk desc = (imageHooks env'.vk desc).filter fun c => !c.touches F := by
  rw [h.same]
  unfold imageHooks vulkanFindMemType
  simp only [h.removed]
  split
  · rw [List.filter_append]
    congr 1
    split
    · rfl
    · rw [List.filter_append, List.filter_append]
      congr 1
      split
      · rfl
      · rw [List.filter_append]
        congr 1
        split
        · rfl
        · rw [List.filter_append]
          congr 1
          split
          · rw [List.filter_append]
          · rfl
  · rfl

theorem mem_imageHooks {env : VkEnv} {desc : Texture2DDesc1} {c : HookCall}
    (h : c ∈ imageHooks env desc) : ∃ site, c ∈ env.hooks site := by
  unfold imageHooks at h
  split at h
  case isFalse hno => simp at h
  case isTrue hd =>
  rcases List.mem_append.mp h with h | h
  · exact ⟨_, h⟩
  split at h
  · simp at h
  rcases List.mem_append.mp h with h | h
  · exact (List.mem_append.mp h).elim (⟨_, ·⟩) (⟨_, ·⟩)
  split at h
  · simp at h
  rcases List.mem_append.mp h with h | h
  · exact ⟨_, h⟩
  split at h
  · exact ⟨_, h⟩
  rcases List.mem_append.mp h with h | h
  · exact ⟨_, h⟩
  split at h
  · exact (List.mem_append.mp h).elim (⟨_, ·⟩) (⟨_, ·⟩)
  · simp at h

/-- The record `create_shared_vk_image` leaves is what its hook calls make of the one
    it found. -/
theorem SharedImageRun.record_eq {env : VkEnv} {desc : Texture2DDesc1} {tiling : VkImageTiling}
    {imageNext : Option DrmFormatModifierInfo} {allocNext : AllocNext} {s s' : CallState}
    {r : SharedImage}
    (h : SharedImageRun env (sharedImageCreateInfo desc tiling imageNext) allocNext false s r s') :
    s'.lastRuntimeAlloc = (imageHooks env desc).foldl hookRecord s.lastRuntimeAlloc := by
  have hvk : ∀ (t : CallState) (site : VkSite) (e : Event),
      (t.vk env site e).lastRuntimeAlloc = (env.hooks site).foldl hookRecord t.lastRuntimeAlloc :=
    fun t site e => rfl
  cases h with
  | unsupported h =>
      have hun : ¬DescSupported desc := fun hd => h.elim hd.1 hd.2
      simp [imageHooks, hun]
  | createFailed h e hc => simp [imageHooks, imageSupported_iff.mp h, hc, hvk]
  | noMemoryType h image hc hm =>
      simp only [imageHooks, imageSupported_iff.mp h, hc, hm, CallState.imageCreated,
        CallState.hooks_lastRuntimeAlloc, hvk, List.foldl_append, if_true, List.append_nil]
  | allocateFailed image mem h e ha =>
      simp only [imageHooks, imageSupported_iff.mp h.toImageSupported, h.created, h.memType, ha,
        CallState.imageCreated, CallState.hooks_lastRuntimeAlloc, hvk, List.foldl_append, if_true]
  | bindFailed image mem h memory ha e hb =>
      simp only [imageHooks, imageSupported_iff.mp h.toImageSupported, h.created, h.memType, ha,
        hb, CallState.imageCreated, CallState.imageBacked, CallState.imageReleased,
        CallState.hooks_lastRuntimeAlloc, hvk, List.foldl_append, if_true]
  | created image mem memory h hw =>
      simp only [imageHooks, imageSupported_iff.mp h.toImageSupported, h.created, h.memType,
        h.allocated, h.bound, CallState.imageCreated, CallState.imageBacked,
        CallState.hooks_lastRuntimeAlloc, hvk, List.foldl_append, if_true, List.append_nil]
  | exportUnavailable image mem memory h hw => simp at hw
  | exportFailed image mem memory h hw => simp at hw
  | exported image mem memory h hw => simp at hw

-- ============================================================================
-- The outcome of the blob path
-- ============================================================================

/-- `create_shared_vk_image` succeeds: it meets none of its failing exits. -/
structure ImageSucceeds (env : VkEnv) (desc : Texture2DDesc1) : Prop where
  supported : DescSupported desc
  created : ∃ image, env.createImage = .ok image
  memType : (vulkanFindMemType env 0#32 env.memoryRequirements.memoryTypeBits).isSome = true
  allocated : ∃ memory, env.allocateMemory = .ok memory
  bound : env.bindImageMemory = .ok ()

theorem SharedImageRun.ok_iff {env : VkEnv} {desc : Texture2DDesc1} {tiling : VkImageTiling}
    {imageNext : Option DrmFormatModifierInfo} {allocNext : AllocNext} {s s' : CallState}
    {r : SharedImage}
    (h : SharedImageRun env (sharedImageCreateInfo desc tiling imageNext) allocNext false s r s') :
    failed r.hr = false ↔ ImageSucceeds env desc := by
  cases h with
  | unsupported h =>
      have hun : ¬DescSupported desc := fun hd => h.elim hd.1 hd.2
      exact iff_of_false (by simp) fun hs => hun hs.supported
  | createFailed h e hc =>
      refine iff_of_false (by simp) fun hs => ?_
      obtain ⟨image, hok⟩ := hs.created
      simp [hc] at hok
  | noMemoryType h image hc hm =>
      refine iff_of_false (by simp) fun hs => ?_
      have hsome := hs.memType
      simp [hm] at hsome
  | allocateFailed image mem h e ha =>
      refine iff_of_false (by simp) fun hs => ?_
      obtain ⟨memory, hok⟩ := hs.allocated
      simp [ha] at hok
  | bindFailed image mem h memory ha e hb =>
      refine iff_of_false (by simp) fun hs => ?_
      have hok := hs.bound
      simp [hb] at hok
  | created image mem memory h hw =>
      have hm :
          (vulkanFindMemType env 0#32 env.memoryRequirements.memoryTypeBits).isSome = true := by
        rw [h.memType]
        rfl
      exact iff_of_true failed_S_OK ⟨imageSupported_iff.mp h.toImageSupported,
        ⟨image, h.created⟩, hm, ⟨memory, h.allocated⟩, h.bound⟩
  | exportUnavailable image mem memory h hw => simp at hw
  | exportFailed image mem memory h hw => simp at hw
  | exported image mem memory h hw => simp at hw

/-- The call reaches the check of the record. -/
def ReachesRecord (env : DeviceEnv) (pArgs : CreateResourceArgs) (hRTResource : HANDLE) : Prop :=
  ¬LinearGuard pArgs (linearPresent env pArgs) ∧
    ImageSucceeds env.vk (createdDesc pArgs hRTResource)

/-- Nothing fails after the check. -/
structure TailSucceeds (env : DeviceEnv) (pArgs : CreateResourceArgs) : Prop where
  resident : linearPresent env pArgs = true → failed (residentHr env) = false
  layout : ¬(linearPresent env pArgs && layoutRejected env.vk.subresourceLayout) = true
  published : failed env.blobInfoHr = false
  imported : failed env.importTexture.hr = false

/-- The record the call looks at: what its hook calls make of a cleared one. -/
def blobRecord (env : DeviceEnv) (pArgs : CreateResourceArgs) (hRTResource : HANDLE) :
    RuntimeAllocRecord :=
  hookedRecord (imageHooks env.vk (createdDesc pArgs hRTResource))

/-- The call gets as far as to look at the record, and finds its own allocation. -/
def AdoptsOwn (env : DeviceEnv) (pArgs : CreateResourceArgs) (hRTResource : HANDLE) : Prop :=
  ReachesRecord env pArgs hRTResource ∧ Attributed (blobRecord env pArgs hRTResource) hRTResource

/-- No error has been reported so far. -/
def NoError (s : CallState) : Prop :=
  ∀ hr, .setError hr ∉ s.trace

theorem NoError.grows {s s' : CallState} (h : NoError s)
    (hg : Grows (fun e => e.isSetError = false) s s') : NoError s' := by
  intro hr hmem
  exact h hr ((hg.mem_iff (by simp [Event.isSetError])).mp hmem)

theorem residentEvents_not_setError {env : DeviceEnv} {allocation : D3DKMT_HANDLE} {e : Event}
    (h : e ∈ residentEvents env allocation) : e.isSetError = false := by
  rcases mem_residentEvents h with rfl | rfl <;> rfl

theorem importRun_noError_iff {env : DeviceEnv} {desc : Texture2DDesc1}
    {resource r : VirtioWddmResource} {data : Option (List SubresourceData)} {s s' : CallState}
    (h : ImportRun env desc resource data s r s') (hs : NoError s) :
    NoError s' ↔ failed env.importTexture.hr = false := by
  cases h with
  | failed hf =>
      refine iff_of_false (fun hno => hno env.importTexture.hr (by simp)) ?_
      rw [hf]
      simp
  | imported hf tex htex =>
      refine iff_of_true (hs.grows (.log fun e he => ?_)) hf
      rcases List.mem_cons.mp he with rfl | he
      · rfl
      · rcases mem_uploadEvents he with rfl | ⟨j, d, rfl⟩ <;> rfl

theorem publishRun_noError_iff {env : DeviceEnv} {linearPresent : Bool} {desc : Texture2DDesc1}
    {resource r : VirtioWddmResource} {data : Option (List SubresourceData)} {s s' : CallState}
    (h : PublishRun env linearPresent desc resource data s r s') (hs : NoError s) :
    NoError s' ↔ ¬(linearPresent && layoutRejected env.vk.subresourceLayout) = true ∧
      failed env.blobInfoHr = false ∧ failed env.importTexture.hr = false := by
  cases h with
  | layoutRefused hl hrej =>
      refine iff_of_false (fun hno => hno E_INVALIDARG (by simp)) fun hok => hok.1 ?_
      rw [hl, hrej]
      rfl
  | escapeFailed hok hf =>
      refine iff_of_false (fun hno => hno env.blobInfoHr (by simp)) fun hall => ?_
      rw [hf] at hall
      exact absurd hall.2.1 (by simp)
  | published hok hf r s' himp =>
      have hpublished : NoError (s.blobPublished env linearPresent desc resource) :=
        hs.grows (.log (List.forall_mem_singleton.mpr rfl))
      rw [importRun_noError_iff himp hpublished]
      exact ⟨fun himported => ⟨hok, hf, himported⟩, fun hall => hall.2.2⟩

/-- How the blob path ends depends on the outcomes of its calls and on the
    record. -/
structure BlobOutcome (env : DeviceEnv) (pArgs : CreateResourceArgs) (hRTResource : HANDLE)
    (r : VirtioWddmResource) (s : CallState) : Prop where
  succeeded : NoError s ↔ AdoptsOwn env pArgs hRTResource ∧ TailSucceeds env pArgs
  adopted : AdoptsOwn env pArgs hRTResource →
    r.base.hKMAllocation = (blobRecord env pArgs hRTResource).hAllocation ∧
    r.base.hKMResource = (blobRecord env pArgs hRTResource).hKMResource
  none : ¬AdoptsOwn env pArgs hRTResource →
    r.base.hKMAllocation = 0 ∧ r.base.hKMResource = 0

/-- An exit before the adoption: an error, and no allocation in the block. -/
theorem BlobOutcome.early {env : DeviceEnv} {pArgs : CreateResourceArgs} {hRTResource : HANDLE}
    {r : VirtioWddmResource} (s : CallState) (hr : HRESULT)
    (hblock : r.base.hKMAllocation = 0 ∧ r.base.hKMResource = 0)
    (hno : ¬AdoptsOwn env pArgs hRTResource) :
    BlobOutcome env pArgs hRTResource r (s.log [.setError hr]) where
  succeeded := iff_of_false (fun hclean => hclean hr (by simp)) fun hall => hno hall.1
  adopted hall := absurd hall hno
  none _ := hblock

theorem BlobRun.outcome {env : DeviceEnv} {pArgs : CreateResourceArgs} {hRTResource : HANDLE}
    {r : VirtioWddmResource} {data : Option (List SubresourceData)} {s s' : CallState}
    (h : BlobRun env pArgs pArgs.isPrimary (linearPresent env pArgs)
      (createdDesc pArgs hRTResource) hRTResource (createdBlock pArgs hRTResource) data s r s')
    (hs : NoError s) : BlobOutcome env pArgs hRTResource r s' := by
  have hrecord : ∀ {img s₁}, SharedImageRun env.vk
      (blobImageInfo (linearPresent env pArgs) (createdDesc pArgs hRTResource))
      (.createResource hRTResource) false
      (s.enterScope (blobScope pArgs pArgs.isPrimary hRTResource)) img s₁ →
      s₁.lastRuntimeAlloc = blobRecord env pArgs hRTResource := fun himg => himg.record_eq
  cases h with
  | guarded hg => exact .early _ _ ⟨rfl, rfl⟩ fun hall => hall.1.1 hg
  | imageFailed hg img s₁ himg hf =>
      refine .early _ _ ⟨rfl, rfl⟩ fun hall => ?_
      have hok := himg.ok_iff.mpr hall.1.2
      exact absurd (hok.symm.trans hf) (by simp)
  | notAttributed hg img s₁ himg hok hattr =>
      refine .early _ _ ⟨rfl, rfl⟩ fun hall => hattr ?_
      rw [hrecord himg]
      exact hall.2
  | notResident hg img s₁ himg hok hattr hl hres =>
      rw [hrecord himg] at hattr ⊢
      have hadopts : AdoptsOwn env pArgs hRTResource := ⟨⟨hg, himg.ok_iff.mp hok⟩, hattr⟩
      refine ⟨iff_of_false (fun hclean => hclean (residentHr env) (by simp)) fun hall => ?_,
        fun _ => ⟨rfl, rfl⟩, fun hno => absurd hadopts hno⟩
      exact absurd ((hall.2.resident hl).symm.trans hres) (by simp)
  | accepted hg img s₁ himg hok hattr hres r s' hpub =>
      have hrec := hrecord himg
      have hadopts : AdoptsOwn env pArgs hRTResource :=
        ⟨⟨hg, himg.ok_iff.mp hok⟩, hrec ▸ hattr⟩
      have himage : NoError (s₁.leaveScope s.runtimeAllocScope) := by
        have hstart : NoError (s.enterScope (blobScope pArgs pArgs.isPrimary hRTResource)) := hs
        exact hstart.grows (himg.grows.mono fun _ => isSetError_of_isVulkan)
      have hclean : NoError ((s₁.leaveScope s.runtimeAllocScope).log
          (if linearPresent env pArgs then residentEvents env s₁.lastRuntimeAlloc.hAllocation
            else [])) := by
        refine himage.grows (.log fun e he => ?_)
        split at he
        · exact residentEvents_not_setError he
        · simp at he
      obtain ⟨tex, rfl⟩ := hpub.quiet.block
      refine ⟨?_, fun _ => ?_, fun hno => absurd hadopts hno⟩
      · refine (publishRun_noError_iff hpub hclean).trans ⟨fun hall => ?_, fun hall => ?_⟩
        · exact ⟨hadopts, hres, hall.1, hall.2.1, hall.2.2⟩
        · exact ⟨hall.2.layout, hall.2.published, hall.2.imported⟩
      · rw [← hrec]
        exact ⟨rfl, rfl⟩

theorem createResource_outcome {env : DeviceEnv} {pArgs : CreateResourceArgs}
    {hRTResource : HANDLE} {record : RuntimeAllocRecord} {scope : RuntimeAllocScope}
    {r : VirtioWddmResource} {s : CallState} (h3 : allocate3d env pArgs = false)
    (hb : (pArgs.isShared || linearPresent env pArgs) = true)
    (h : Runs (virtioWddmCreateResource env pArgs hRTResource)
      { lastRuntimeAlloc := record, runtimeAllocScope := scope } r s) :
    BlobOutcome env pArgs hRTResource r s := by
  cases runs_virtioWddmCreateResource h with
  | present3d h3' hdim r s hrun => exact absurd (h3.symm.trans h3') (by simp)
  | plain h3' hb' r s hrun => exact absurd (hb.symm.trans hb') (by simp)
  | blob h3' hb' hdim r s hrun =>
      refine hrun.outcome fun hr hmem => ?_
      rcases List.mem_append.mp hmem with hmem | hmem
      · simp at hmem
      · obtain ⟨d, -, heq⟩ := List.mem_map.mp hmem
        cases heq

-- ============================================================================
-- Two runs
-- ============================================================================

/-- Two calls end alike: one reports an error exactly when the other does, and their
    blocks name the same allocation. -/
structure SameOutcome (r r' : VirtioWddmResource) (s s' : CallState) : Prop where
  succeeded : (∀ hr, .setError hr ∉ s.trace) ↔ ∀ hr, .setError hr ∉ s'.trace
  hKMAllocation : r.base.hKMAllocation = r'.base.hKMAllocation
  hKMResource : r.base.hKMResource = r'.base.hKMResource

/-- What the calls of a run without nested allocations answer, the other run gets
    too. -/
theorem NestedCalls.reachesRecord_iff {hRTResource : HANDLE} {F : D3DKMT_HANDLE → Bool}
    {env env' : DeviceEnv} (h : NestedCalls hRTResource F env env') (pArgs : CreateResourceArgs) :
    ReachesRecord env' pArgs hRTResource ↔ ReachesRecord env pArgs hRTResource := by
  rw [h.same]
  exact ⟨fun ⟨hg, hi⟩ => ⟨hg, ⟨hi.1, hi.2, hi.3, hi.4, hi.5⟩⟩,
    fun ⟨hg, hi⟩ => ⟨hg, ⟨hi.1, hi.2, hi.3, hi.4, hi.5⟩⟩⟩

theorem NestedCalls.tailSucceeds_iff {hRTResource : HANDLE} {F : D3DKMT_HANDLE → Bool}
    {env env' : DeviceEnv} (h : NestedCalls hRTResource F env env') (pArgs : CreateResourceArgs) :
    TailSucceeds env' pArgs ↔ TailSucceeds env pArgs := by
  rw [h.same]
  exact ⟨fun ht => ⟨ht.1, ht.2, ht.3, ht.4⟩, fun ht => ⟨ht.1, ht.2, ht.3, ht.4⟩⟩

theorem NestedCalls.compare {hRTResource : HANDLE} {F : D3DKMT_HANDLE → Bool}
    {env env' : DeviceEnv} (h : NestedCalls hRTResource F env env') (pArgs : CreateResourceArgs) :
    RecordsCompare hRTResource F
      (nestedLast F (imageHooks env'.vk (createdDesc pArgs hRTResource)))
      (blobRecord env pArgs hRTResource) (blobRecord env' pArgs hRTResource) := by
  unfold blobRecord
  rw [imageHooks_filter h]
  refine recordsCompare fun req reply hmem => ?_
  obtain ⟨site, hsite⟩ := mem_imageHooks hmem
  exact h.other site req reply hsite

/-- Unless a nested allocation comes last, both runs adopt the same record or
    neither adopts one. -/
theorem NestedCalls.adopts_iff {hRTResource : HANDLE} {F : D3DKMT_HANDLE → Bool}
    {env env' : DeviceEnv} (h : NestedCalls hRTResource F env env') {pArgs : CreateResourceArgs}
    (hno : ¬(AdoptsOwn env pArgs hRTResource ∧
      nestedLast F (imageHooks env'.vk (createdDesc pArgs hRTResource)) = true)) :
    (AdoptsOwn env' pArgs hRTResource ↔ AdoptsOwn env pArgs hRTResource) ∧
      (AdoptsOwn env pArgs hRTResource →
        blobRecord env' pArgs hRTResource = blobRecord env pArgs hRTResource) := by
  have hcompare := h.compare pArgs
  unfold AdoptsOwn at hno ⊢
  rw [h.reachesRecord_iff]
  cases hlast : nestedLast F (imageHooks env'.vk (createdDesc pArgs hRTResource)) with
  | false =>
      rw [hcompare.same hlast]
      exact ⟨Iff.rfl, fun _ => rfl⟩
  | true =>
      have hout : ¬(ReachesRecord env pArgs hRTResource ∧
          Attributed (blobRecord env pArgs hRTResource) hRTResource) :=
        fun hown => hno ⟨hown, hlast⟩
      exact ⟨iff_of_false (fun hall => hcompare.attributed hlast hall.2) hout,
        fun hown => absurd hown hout⟩

/-- Two runs of the blob path that differ by nested allocations end alike, unless the
    run without them adopts its own allocation and in the other one a nested
    allocation comes last. -/
theorem nested_allocations_iff {env env' : DeviceEnv} {pArgs : CreateResourceArgs}
    {hRTResource : HANDLE} {F : D3DKMT_HANDLE → Bool} {record : RuntimeAllocRecord}
    {scope : RuntimeAllocScope} {r r' : VirtioWddmResource} {s s' : CallState}
    (h3 : allocate3d env pArgs = false)
    (hb : (pArgs.isShared || linearPresent env pArgs) = true)
    (hnested : NestedCalls hRTResource F env env')
    (h : Runs (virtioWddmCreateResource env pArgs hRTResource)
      { lastRuntimeAlloc := record, runtimeAllocScope := scope } r s)
    (h' : Runs (virtioWddmCreateResource env' pArgs hRTResource)
      { lastRuntimeAlloc := record, runtimeAllocScope := scope } r' s') :
    SameOutcome r r' s s' ↔
      ¬(AdoptsOwn env pArgs hRTResource ∧
        nestedLast F (imageHooks env'.vk (createdDesc pArgs hRTResource)) = true) := by
  have h3' : allocate3d env' pArgs = false := by
    rw [hnested.same]
    exact h3
  have hb' : (pArgs.isShared || linearPresent env' pArgs) = true := by
    rw [hnested.same]
    exact hb
  have hout := createResource_outcome h3 hb h
  have hout' := createResource_outcome h3' hb' h'
  constructor
  · rintro hsame ⟨hown, hlast⟩
    -- the shorter run adopts its allocation, the longer one adopts none
    have hnone : ¬AdoptsOwn env' pArgs hRTResource :=
      fun hall => (hnested.compare pArgs).attributed hlast hall.2
    have halloc := hsame.hKMAllocation
    rw [(hout.adopted hown).1, (hout'.none hnone).1] at halloc
    exact hown.2.1 halloc
  · intro hno
    obtain ⟨hadopts, hrecord⟩ := hnested.adopts_iff hno
    have hsucc : NoError s ↔ NoError s' := by
      rw [hout.succeeded, hout'.succeeded, hadopts, hnested.tailSucceeds_iff]
    by_cases hown : AdoptsOwn env pArgs hRTResource
    · have hblock := hout.adopted hown
      have hblock' := hout'.adopted (hadopts.mpr hown)
      rw [hrecord hown] at hblock'
      exact ⟨hsucc, hblock.1.trans hblock'.1.symm, hblock.2.trans hblock'.2.symm⟩
    · have hblock := hout.none hown
      have hblock' := hout'.none fun hall => hown (hadopts.mp hall)
      exact ⟨hsucc, hblock.1.trans hblock'.1.symm, hblock.2.trans hblock'.2.symm⟩

-- ============================================================================
-- Before and after
-- ============================================================================

/-- The allocation of the call for the resource `5`. -/
def ownAlloc : HookCall :=
  .alloc (some { hRTResource := 5 }) { hAllocation := 0x30, hKMResource := 0x31 }

/-- An allocation for another resource, and its free. -/
def nestedAlloc : HookCall :=
  .alloc (some { hRTResource := 9 }) { hAllocation := 0x40, hKMResource := 0x41 }

def nestedFree : HookCall :=
  .free (some { hAllocation := 0x40, hKMResource := 0x41 }) S_OK

/-- A native-context adapter whose ICD makes the given hook calls. -/
def hookEnv (cs : List HookCall) : DeviceEnv :=
  .allOk true (.other 0) cs

/-- What CreateResource leaves for a present buffer under the handle `5`. -/
def hookCreated (cs : List HookCall) : VirtioWddmResource × CallState :=
  (virtioWddmCreateResource (hookEnv cs) presentArgs 5 {}).toOption.getD ({}, {})

theorem hookCreated_runs {cs : List HookCall} {r : VirtioWddmResource} {s : CallState}
    (h : virtioWddmCreateResource (hookEnv cs) presentArgs 5 {} = .ok (r, s)) :
    Runs (virtioWddmCreateResource (hookEnv cs) presentArgs 5) {} (hookCreated cs).1
      (hookCreated cs).2 := by
  unfold hookCreated
  rw [h]
  exact h

theorem nestedCalls_hookEnv {cs cs' : List HookCall}
    (hcs : cs = cs'.filter fun c => !c.touches (· == 0x40))
    (hother : ∀ req reply, .alloc (some req) reply ∈ cs' →
      (HookCall.alloc (some req) reply).touches (· == 0x40) = true → req.hRTResource ≠ 5) :
    NestedCalls 5 (· == 0x40) (hookEnv cs) (hookEnv cs') := by
  refine ⟨rfl, fun site => ?_, fun site req reply hmem => ?_⟩
  · show (if site = .allocateMemory then cs else []) =
      (if site = .allocateMemory then cs' else []).filter fun c => !c.touches (· == 0x40)
    split
    · exact hcs
    · rfl
  · change _ ∈ (if site = .allocateMemory then cs' else []) at hmem
    split at hmem
    · exact hother req reply hmem
    · simp at hmem

/-- Nested before the call's own allocation, another resource's allocation changes
    nothing. -/
theorem nested_allocations_before :
    SameOutcome (hookCreated [ownAlloc]).1 (hookCreated [nestedAlloc, nestedFree, ownAlloc]).1
      (hookCreated [ownAlloc]).2 (hookCreated [nestedAlloc, nestedFree, ownAlloc]).2 := by
  have hnested : NestedCalls 5 (· == 0x40) (hookEnv [ownAlloc])
      (hookEnv [nestedAlloc, nestedFree, ownAlloc]) := by
    refine nestedCalls_hookEnv rfl fun req reply hmem ht => ?_
    simp only [nestedAlloc, nestedFree, ownAlloc, List.mem_cons, HookCall.alloc.injEq,
      Option.some.injEq, reduceCtorEq, List.not_mem_nil, or_false, false_or] at hmem
    rcases hmem with ⟨rfl, rfl⟩ | ⟨rfl, rfl⟩
    · decide
    · cases ht
  refine (nested_allocations_iff rfl rfl hnested (hookCreated_runs rfl)
    (hookCreated_runs rfl)).mpr ?_
  rintro ⟨-, hlast⟩
  exact absurd hlast (by decide)

/-- Nested after it, even one that is freed again makes the call fail: alone it
    succeeds and adopts its allocation. -/
theorem nested_allocation_after :
    NestedCalls 5 (· == 0x40) (hookEnv [ownAlloc]) (hookEnv [ownAlloc, nestedAlloc, nestedFree]) ∧
    (∀ hr, .setError hr ∉ (hookCreated [ownAlloc]).2.trace) ∧
    (hookCreated [ownAlloc]).1.base.hKMAllocation = 0x30 ∧
    Runs (virtioWddmCreateResource (hookEnv [ownAlloc, nestedAlloc, nestedFree]) presentArgs 5) {}
      (hookCreated [ownAlloc, nestedAlloc, nestedFree]).1
      (hookCreated [ownAlloc, nestedAlloc, nestedFree]).2 ∧
    .setError E_FAIL ∈ (hookCreated [ownAlloc, nestedAlloc, nestedFree]).2.trace ∧
    (hookCreated [ownAlloc, nestedAlloc, nestedFree]).1.base.hKMAllocation = 0 ∧
    ¬SameOutcome (hookCreated [ownAlloc]).1 (hookCreated [ownAlloc, nestedAlloc, nestedFree]).1
      (hookCreated [ownAlloc]).2 (hookCreated [ownAlloc, nestedAlloc, nestedFree]).2 := by
  have hnested : NestedCalls 5 (· == 0x40) (hookEnv [ownAlloc])
      (hookEnv [ownAlloc, nestedAlloc, nestedFree]) := by
    refine nestedCalls_hookEnv rfl fun req reply hmem ht => ?_
    simp only [nestedAlloc, nestedFree, ownAlloc, List.mem_cons, HookCall.alloc.injEq,
      Option.some.injEq, reduceCtorEq, List.not_mem_nil, or_false] at hmem
    rcases hmem with ⟨rfl, rfl⟩ | ⟨rfl, rfl⟩
    · cases ht
    · decide
  have hfails : Event.setError E_FAIL ∈
      (hookCreated [ownAlloc, nestedAlloc, nestedFree]).2.trace := List.mem_of_elem_eq_true rfl
  refine ⟨hnested, no_error_of_all rfl, rfl, hookCreated_runs rfl, hfails, rfl, fun hsame => ?_⟩
  exact absurd (hsame.succeeded.mp (no_error_of_all rfl)) fun hclean => hclean E_FAIL hfails

end VirtioWddm
