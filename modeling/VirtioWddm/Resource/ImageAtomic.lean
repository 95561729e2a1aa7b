/-
  VirtioWddm.Resource.ImageAtomic

  `create_shared_vk_image` of `resource.c` as an all-or-nothing operation.

  Every exit but one destroys what the call created and clears its out-parameters; the
  exit for a missing memory type returns with the image in place.
-/

import VirtioWddm.Resource.HostObjects

namespace VirtioWddm

open Lib

-- ============================================================================
-- All or nothing
-- ============================================================================

/-- What the events of a call did to host objects. -/
def hostWord (events : List Event) : List (Action HostObject) :=
  events.filterMap Event.hostAction

/-- A call returned nothing and destroyed what it created, or returned an image and a
    memory that are live and bound to each other. -/
structure AllOrNothing (r : SharedImage) (events : List Event) : Prop where
  returns : failed r.hr = true ∨ r.hr = S_OK
  cleared : failed r.hr = true → r.image = none ∧ r.memory = none
  -- each object it created is destroyed once, and not before it exists
  destroyed : failed r.hr = true → ∀ object, .acquire object ∈ hostWord events →
    (hostWord events).count (.acquire object) = 1 ∧ (hostWord events).count (.release object) = 1
  neverAbsent : Action.NeverAbsent (hostWord events)
  live : r.hr = S_OK → ∃ image memory, r.image = some image ∧ r.memory = some memory ∧
    hostWord events = [.acquire (.image image), .acquire (.memory memory)] ∧
    .bindImageMemory image memory (.ok ()) ∈ events

/-- No memory type of the device is among those the image can use. -/
def NoMemoryTypeFits (env : VkEnv) : Prop :=
  ∀ i < env.memoryTypes.length, env.memoryRequirements.memoryTypeBits.getLsbD i = false

/-- The image is created and no memory type fits it. -/
structure ImageUnbacked (env : VkEnv) (info : VkImageCreateInfo) : Prop
    extends ImageSupported info where
  created : ∃ image, env.createImage = .ok image
  noMemoryType : NoMemoryTypeFits env

-- ============================================================================
-- vulkan_find_mem_type
-- ============================================================================

theorem reqBits_and_ne_zero_iff {reqBits : UINT} {i : Nat} :
    reqBits &&& (1#32 <<< i) ≠ 0#32 ↔ reqBits.getLsbD i = true := by
  rw [← hasFlag_one_shiftLeft]
  exact bne_iff_ne.symm

/-- Without property flags to ask for, the search takes the first type of the mask. -/
theorem vulkanFindMemTypeFrom_eq_none_iff {reqBits : UINT} {memoryTypes : List UINT} {i : Nat} :
    vulkanFindMemTypeFrom 0#32 reqBits i memoryTypes = none ↔
      ∀ j < memoryTypes.length, reqBits.getLsbD (i + j) = false := by
  induction memoryTypes generalizing i with
  | nil => simp [vulkanFindMemTypeFrom]
  | cons propertyFlags rest ih =>
      rw [vulkanFindMemTypeFrom]
      split
      case isTrue h =>
        have hbit := reqBits_and_ne_zero_iff.mp h.1
        refine iff_of_false (fun h => nomatch h) fun hall => ?_
        have hzero := hall 0 (Nat.succ_pos _)
        rw [Nat.add_zero, hbit] at hzero
        cases hzero
      case isFalse h =>
        have hbit : reqBits.getLsbD i = false := by
          by_contra hset
          refine h ⟨reqBits_and_ne_zero_iff.mpr (by simpa using hset), ?_⟩
          exact BitVec.and_zero
        rw [ih]
        constructor
        · intro hrest j hj
          cases j with
          | zero => exact hbit
          | succ j =>
              rw [← Nat.succ_add_eq_add_succ]
              exact hrest j (Nat.lt_of_succ_lt_succ hj)
        · intro hall j hj
          rw [Nat.succ_add_eq_add_succ]
          exact hall (j + 1) (Nat.succ_lt_succ hj)

theorem vulkanFindMemType_eq_none_iff {env : VkEnv} :
    vulkanFindMemType env 0#32 env.memoryRequirements.memoryTypeBits = none ↔
      NoMemoryTypeFits env := by
  rw [vulkanFindMemType, vulkanFindMemTypeFrom_eq_none_iff]
  simp only [Nat.zero_add]
  rfl

-- ============================================================================
-- The exits
-- ============================================================================

theorem hostWord_callEvents {s s' : CallState} {word : List (Action HostObject)} {P : Event → Prop}
    (hgrows : Grows P s s') (h : s'.hostActions = s.hostActions ++ word) :
    hostWord (callEvents s s') = word := by
  rw [CallState.hostActions, hgrows.callEvents.1, List.filterMap_append] at h
  exact List.append_cancel_left h

/-- An event between two growths is one of the call. -/
theorem mem_callEvents {s t s' : CallState} {e : Event} {P Q : Event → Prop}
    (hbefore : Grows P s t) (hafter : Grows Q (t.log [e]) s') : e ∈ callEvents s s' := by
  have heq : callEvents s s' = callEvents s t ++ ([e] ++ callEvents (t.log [e]) s') := by
    apply callEvents_eq
    rw [hafter.callEvents.1, CallState.log_trace, hbefore.callEvents.1]
    simp only [List.append_assoc]
  rw [heq]
  exact List.mem_append_right _ (List.mem_append_left _ (List.mem_singleton.mpr rfl))

/-- A word that leaves nothing in the block destroys what it creates. -/
theorem CreationWord.destroyed {word : List (Action HostObject)}
    (h : CreationWord word none none none) {object : HostObject}
    (hmem : .acquire object ∈ word) :
    word.count (.acquire object) = 1 ∧ word.count (.release object) = 1 := by
  cases h with
  | nothing => cases hmem
  | imageUndone image =>
      have hobject : object = .image image := by simpa using hmem
      rw [hobject]
      simp
  | bothUndone image memory =>
      have hobject : object = .image image ∨ object = .memory memory := by simpa using hmem
      rcases hobject with rfl | rfl <;> simp

section Run

variable {env : VkEnv} {info : VkImageCreateInfo} {allocNext : AllocNext} {wantAlloc : Bool}
  {s s' : CallState} {r : SharedImage}

/-- A call fails or returns `S_OK`. -/
theorem SharedImageRun.returns (h : SharedImageRun env info allocNext wantAlloc s r s') :
    failed r.hr = true ∨ r.hr = S_OK := by
  cases h with
  | unsupported => exact .inl failed_E_OUTOFMEMORY
  | createFailed => exact .inl failed_E_OUTOFMEMORY
  | noMemoryType => exact .inl failed_E_OUTOFMEMORY
  | allocateFailed => exact .inl failed_E_OUTOFMEMORY
  | bindFailed => exact .inl failed_E_OUTOFMEMORY
  | created => exact .inr rfl
  | exportUnavailable => exact .inl failed_E_NOTIMPL
  | exportFailed => exact .inl failed_E_OUTOFMEMORY
  | exported => exact .inr rfl

/-- A failing call clears its out-parameters unless it stops for want of a memory type. -/
theorem SharedImageRun.cleared_iff (h : SharedImageRun env info allocNext wantAlloc s r s')
    (hf : failed r.hr = true) :
    (r.image = none ∧ r.memory = none) ↔ ¬ ImageUnbacked env info := by
  have hready : ∀ {image mem}, ImageReady env info image mem → ¬ ImageUnbacked env info := by
    intro image mem hready hun
    have hnone := vulkanFindMemType_eq_none_iff.mpr hun.noMemoryType
    rw [hready.memType] at hnone
    cases hnone
  cases h with
  | unsupported h =>
      exact iff_of_true ⟨rfl, rfl⟩ fun hun => h.elim hun.format hun.samples
  | createFailed h e hc =>
      refine iff_of_true ⟨rfl, rfl⟩ fun hun => ?_
      obtain ⟨image, himage⟩ := hun.created
      rw [hc] at himage
      cases himage
  | noMemoryType h image hc hm =>
      refine iff_of_false (fun hclear => nomatch hclear.1) (not_not.mpr ?_)
      exact { h with
        created := ⟨image, hc⟩
        noMemoryType := vulkanFindMemType_eq_none_iff.mp hm }
  | allocateFailed image mem h => exact iff_of_true ⟨rfl, rfl⟩ (hready h)
  | bindFailed image mem h => exact iff_of_true ⟨rfl, rfl⟩ (hready h)
  | created => simp at hf
  | exportUnavailable image mem memory h =>
      exact iff_of_true ⟨rfl, rfl⟩ (hready h.toImageReady)
  | exportFailed image mem memory h =>
      exact iff_of_true ⟨rfl, rfl⟩ (hready h.toImageReady)
  | exported => simp at hf

/-- The missing memory type makes the call fail. -/
theorem SharedImageRun.failed_of_unbacked (h : SharedImageRun env info allocNext wantAlloc s r s')
    (hun : ImageUnbacked env info) : failed r.hr = true := by
  rcases h.returns with hf | hok
  · exact hf
  · have hnot : failed r.hr = false := by rw [hok]; rfl
    obtain ⟨image, mem, memory, hbound, -⟩ := h.bound_of_ok hnot
    have hnone := vulkanFindMemType_eq_none_iff.mpr hun.noMemoryType
    rw [hbound.memType] at hnone
    cases hnone

/-- The bind of a successful call is among its events. -/
theorem SharedImageRun.bind_mem (h : SharedImageRun env info allocNext wantAlloc s r s')
    (hok : failed r.hr = false) {image : VkImage} {memory : VkDeviceMemory}
    (himage : r.image = some image) (hmemory : r.memory = some memory) :
    .bindImageMemory image memory (.ok ()) ∈ callEvents s s' := by
  have hhooks : ∀ e : Event, e.isHookTraffic = true → e.isVulkan = true :=
    fun _ => isVulkan_of_isHookTraffic
  have hbacked : ∀ {mem s'}, ImageBound env info image mem memory →
      Grows (fun e => e.isVulkan = true) (s.imageBacked env info allocNext image mem memory) s' →
      .bindImageMemory image memory (.ok ()) ∈ callEvents s s' := by
    intro mem s' hbound hgrows
    have hcreated : Grows (fun e => e.isVulkan = true) s (s.imageCreated env info image) :=
      (Grows.vk hhooks rfl).trans (.imageReady hhooks)
    have hallocate : Grows (fun e => e.isVulkan = true) (s.imageCreated env info image)
        (((s.imageCreated env info image).vk env .allocateMemory
          (.allocateMemory (sharedMemoryAllocateInfo env image mem allocNext) (.ok memory))).hooks
            (env.hooks .bindImageMemory2)) :=
      (Grows.vk hhooks rfl).trans (.hooks hhooks _ _)
    rw [CallState.imageBacked, hbound.bound, CallState.vk] at hgrows
    exact mem_callEvents (hcreated.trans hallocate) hgrows
  cases h with
  | unsupported => cases himage
  | createFailed => cases himage
  | noMemoryType => simp at hok
  | allocateFailed => cases himage
  | bindFailed => cases himage
  | created image' mem memory' hbound =>
      cases himage
      cases hmemory
      exact hbacked hbound (.refl _)
  | exportUnavailable => cases himage
  | exportFailed => cases himage
  | exported image' mem memory' hbound =>
      cases himage
      cases hmemory
      exact hbacked hbound (.vk hhooks rfl)

end Run

-- ============================================================================
-- The whole call
-- ============================================================================

/-- What the call did to host objects, next to its out-parameters. -/
theorem SharedImageRun.hostWord_creationWord {env : VkEnv} {info : VkImageCreateInfo}
    {allocNext : AllocNext} {wantAlloc : Bool} {s s' : CallState} {r : SharedImage}
    (h : SharedImageRun env info allocNext wantAlloc s r s') :
    CreationWord (hostWord (callEvents s s')) none r.image r.memory := by
  obtain ⟨word, heq, hword⟩ := h.exists_creationWord
  rwa [hostWord_callEvents h.grows heq]

theorem SharedImageRun.allOrNothing_iff {env : VkEnv} {info : VkImageCreateInfo}
    {allocNext : AllocNext} {wantAlloc : Bool} {s s' : CallState} {r : SharedImage}
    (h : SharedImageRun env info allocNext wantAlloc s r s') :
    AllOrNothing r (callEvents s s') ↔ ¬ ImageUnbacked env info := by
  constructor
  · intro hatomic hun
    have hf := h.failed_of_unbacked hun
    exact (h.cleared_iff hf).mp (hatomic.cleared hf) hun
  · intro hbacked
    have hcleared := fun hf => (h.cleared_iff hf).mpr hbacked
    have hword := h.hostWord_creationWord
    have hblock : LeavesBlock (hostWord (callEvents s s')) (VirtioWddmResource.withImage {} r) :=
      hword
    obtain ⟨held, hreplay⟩ := CreationWord.replay hblock
    refine ⟨h.returns, hcleared, ?_, Action.neverAbsent_of_replay hreplay, ?_⟩
    · intro hf object hmem
      obtain ⟨himage, hmemory⟩ := hcleared hf
      rw [himage, hmemory] at hword
      exact hword.destroyed hmem
    · intro hr
      have hok : failed r.hr = false := by rw [hr]; exact failed_S_OK
      obtain ⟨image, mem, memory, -, himage, hmemory⟩ := h.bound_of_ok hok
      refine ⟨image, memory, himage, hmemory, ?_, h.bind_mem hok himage hmemory⟩
      rw [himage, hmemory] at hword
      generalize hostWord (callEvents s s') = word at hword ⊢
      cases hword
      rfl

/-- `create_shared_vk_image` returns whatever Vulkan answers, and is all-or-nothing
    exactly when it does not stop for want of a memory type. -/
theorem createSharedVkImage_allOrNothing (env : VkEnv) (desc : Texture2DDesc1)
    (tiling : VkImageTiling) (imageNext : Option DrmFormatModifierInfo) (allocNext : AllocNext)
    (wantAlloc : Bool) (s : CallState) :
    ∃ r s', Runs (createSharedVkImage env desc tiling imageNext allocNext wantAlloc) s r s' ∧
      (AllOrNothing r (callEvents s s') ↔
        ¬ ImageUnbacked env (sharedImageCreateInfo desc tiling imageNext)) := by
  obtain ⟨r, s', hrun⟩ :=
    total_createSharedVkImage env desc tiling imageNext allocNext wantAlloc s
  exact ⟨r, s', hrun, (runs_createSharedVkImage hrun).allOrNothing_iff⟩

/-- Without a memory type the created image is neither destroyed nor cleared. -/
theorem createSharedVkImage_imageKept :
    ¬ ∀ (env : VkEnv) (desc : Texture2DDesc1) (tiling : VkImageTiling)
      (imageNext : Option DrmFormatModifierInfo) (allocNext : AllocNext) (wantAlloc : Bool)
      (s : CallState), ∃ r s',
        Runs (createSharedVkImage env desc tiling imageNext allocNext wantAlloc) s r s' ∧
          AllOrNothing r (callEvents s s') := by
  intro h
  obtain ⟨r, s', hrun, hatomic⟩ := h { VkEnv.allOk [] with memoryTypes := [] }
    (openedDesc { base := { format := .R8G8B8A8_UNORM, sampleDesc := ⟨1, 0⟩ } }) .optimal none
    (.createResource 5) false {}
  cases hrun
  exact absurd (hatomic.cleared rfl).1 (by decide)

end VirtioWddm
