/-
  VirtioWddm.Resource.HostObjects

  The host texture references, images and memories one call acquires and releases.

  `CreationWord` lists what CreateResource and OpenResource can have done to them
  when they return, next to the private block they leave: whatever was acquired and
  not released is in the block.  DestroyResource releases what it finds there, the
  texture first and the memory last.
-/

import VirtioWddm.Lib.Account
import VirtioWddm.Resource.Exits

namespace VirtioWddm

open Lib

-- ============================================================================
-- Objects and their events
-- ============================================================================

/-- An object of the host stack a resource owns. -/
inductive HostObject where
  | texture (tex : HostResource)
  | image (image : VkImage)
  | memory (memory : VkDeviceMemory)
deriving DecidableEq

/-- The place of an object in the order of release. -/
def HostObject.rank : HostObject → Nat
  | .texture _ => 0
  | .image _ => 1
  | .memory _ => 2

/-- What an event does to host objects. -/
def Event.hostAction : Event → Option (Action HostObject)
  | .createImage _ (.ok image) => some (.acquire (.image image))
  | .destroyImage image => some (.release (.image image))
  | .allocateMemory _ (.ok memory) => some (.acquire (.memory memory))
  | .freeMemory memory => some (.release (.memory memory))
  | .importTexture _ _ reply => reply.object.map fun tex => .acquire (.texture tex)
  | .createHostResource _ _ reply => reply.object.map fun tex => .acquire (.texture tex)
  | .releaseHostResource tex => some (.release (.texture tex))
  | _ => none

/-- The host actions of a call so far. -/
def CallState.hostActions (s : CallState) : List (Action HostObject) :=
  s.trace.filterMap Event.hostAction

theorem hostActions_log (s : CallState) (evs : List Event) :
    (s.log evs).hostActions = s.hostActions ++ evs.filterMap Event.hostAction :=
  List.filterMap_append ..

theorem hostAction_of_isHookTraffic {e : Event} (h : e.isHookTraffic = true) :
    e.hostAction = none := by
  cases e <;> first
    | rfl
    | simp [Event.isHookTraffic] at h

@[simp] theorem hostActions_hooks (s : CallState) (cs : List HookCall) :
    (s.hooks cs).hostActions = s.hostActions :=
  (Grows.hooks (fun _ he => he) s cs).filterMap_eq fun _ => hostAction_of_isHookTraffic

@[simp] theorem hostActions_vk (s : CallState) (env : VkEnv) (site : VkSite) (e : Event) :
    (s.vk env site e).hostActions = s.hostActions ++ e.hostAction.toList := by
  rw [CallState.vk, hostActions_log, hostActions_hooks]
  cases h : e.hostAction <;> simp [h]

/-- Events without host actions. -/
theorem hostActions_log_of_none {s : CallState} {evs : List Event}
    (h : ∀ e ∈ evs, e.hostAction = none) : (s.log evs).hostActions = s.hostActions := by
  rw [hostActions_log, List.filterMap_eq_nil_iff.mpr h, List.append_nil]

/-- A host call that fails sets no out-object. -/
structure NoObjectOnFailure (env : DeviceEnv) : Prop where
  importTexture : failed env.importTexture.hr = true → env.importTexture.object = none
  createHostResource :
    failed env.createHostResource.hr = true → env.createHostResource.object = none

-- ============================================================================
-- What a creation leaves
-- ============================================================================

/-- The host actions of a creation, and the objects its private block is left
    with. -/
inductive CreationWord : List (Action HostObject) → Option HostResource → Option VkImage →
    Option VkDeviceMemory → Prop where
  | nothing : CreationWord [] none none none
  | texture (tex : HostResource) : CreationWord [.acquire (.texture tex)] (some tex) none none
  | imageKept (image : VkImage) : CreationWord [.acquire (.image image)] none (some image) none
  | imageUndone (image : VkImage) :
      CreationWord [.acquire (.image image), .release (.image image)] none none none
  | bothUndone (image : VkImage) (memory : VkDeviceMemory) :
      CreationWord
        [.acquire (.image image), .acquire (.memory memory), .release (.image image),
          .release (.memory memory)] none none none
  | backed (image : VkImage) (memory : VkDeviceMemory) :
      CreationWord [.acquire (.image image), .acquire (.memory memory)] none (some image)
        (some memory)
  | imported (image : VkImage) (memory : VkDeviceMemory) (tex : HostResource) :
      CreationWord [.acquire (.image image), .acquire (.memory memory), .acquire (.texture tex)]
        (some tex) (some image) (some memory)

/-- The word of a creation and the block it leaves. -/
def LeavesBlock (word : List (Action HostObject)) (r : VirtioWddmResource) : Prop :=
  CreationWord word r.base.pResource r.image r.memory

-- ============================================================================
-- The parts of a creation
-- ============================================================================

/-- `create_shared_vk_image`: its out-parameters are what it still holds. -/
theorem SharedImageRun.exists_creationWord {env : VkEnv} {info : VkImageCreateInfo}
    {allocNext : AllocNext} {wantAlloc : Bool} {s s' : CallState} {r : SharedImage}
    (h : SharedImageRun env info allocNext wantAlloc s r s') :
    ∃ word, s'.hostActions = s.hostActions ++ word ∧ CreationWord word none r.image r.memory := by
  have hcreated : ∀ image, (s.imageCreated env info image).hostActions =
      s.hostActions ++ [.acquire (.image image)] := by
    intro image
    simp [CallState.imageCreated, Event.hostAction]
  have hbacked : ∀ image mem memory,
      (s.imageBacked env info allocNext image mem memory).hostActions =
        s.hostActions ++ [.acquire (.image image), .acquire (.memory memory)] := by
    intro image mem memory
    simp [CallState.imageBacked, hcreated, Event.hostAction]
  have hreleased : ∀ (t : CallState) image memory,
      t.hostActions = s.hostActions ++ [.acquire (.image image), .acquire (.memory memory)] →
      (t.imageReleased env image memory).hostActions = s.hostActions ++
        [.acquire (.image image), .acquire (.memory memory), .release (.image image),
          .release (.memory memory)] := by
    intro t image memory ht
    rw [CallState.imageReleased, hostActions_vk, hostActions_vk, ht, List.append_assoc,
      List.append_assoc]
    rfl
  cases h with
  | unsupported => exact ⟨[], (List.append_nil _).symm, .nothing⟩
  | createFailed => exact ⟨[], hostActions_vk .., .nothing⟩
  | noMemoryType h image => exact ⟨_, hcreated image, .imageKept image⟩
  | allocateFailed image mem h e he =>
      refine ⟨_, ?_, .imageUndone image⟩
      rw [hostActions_vk, hostActions_vk, hcreated, List.append_assoc, List.append_assoc]
      rfl
  | bindFailed image mem h memory =>
      exact ⟨_, hreleased _ image memory (hbacked image mem memory), .bothUndone image memory⟩
  | created image mem memory => exact ⟨_, hbacked image mem memory, .backed image memory⟩
  | exportUnavailable image mem memory =>
      exact ⟨_, hreleased _ image memory (hbacked image mem memory), .bothUndone image memory⟩
  | exportFailed image mem memory h hw e hx =>
      refine ⟨_, hreleased _ image memory ?_, .bothUndone image memory⟩
      rw [hostActions_vk, hbacked]
      exact List.append_nil _
  | exported image mem memory h hw handle hx =>
      refine ⟨_, ?_, .backed image memory⟩
      rw [hostActions_vk, hbacked]
      exact List.append_nil _

/-- The same for a call that starts with no host action. -/
theorem SharedImageRun.creationWord {env : VkEnv} {info : VkImageCreateInfo}
    {allocNext : AllocNext} {wantAlloc : Bool} {s s' : CallState} {r : SharedImage}
    (h : SharedImageRun env info allocNext wantAlloc s r s') (hs : s.hostActions = []) :
    CreationWord s'.hostActions none r.image r.memory := by
  obtain ⟨word, heq, hword⟩ := h.exists_creationWord
  rwa [heq, hs, List.nil_append]

theorem hostAction_residentEvents {env : DeviceEnv} {allocation : D3DKMT_HANDLE} {e : Event}
    (h : e ∈ residentEvents env allocation) : e.hostAction = none := by
  rcases mem_residentEvents h with rfl | rfl <;> rfl

theorem hostAction_uploadEvents {resource : HostResource} {data : Option (List SubresourceData)}
    {e : Event} (h : e ∈ uploadEvents resource data) : e.hostAction = none := by
  rcases mem_uploadEvents h with rfl | ⟨j, d, rfl⟩ <;> rfl

/-- The import adds the texture to a backed image. -/
theorem ImportRun.leavesBlock {env : DeviceEnv} {desc : Texture2DDesc1}
    {resource r : VirtioWddmResource} {data : Option (List SubresourceData)} {s s' : CallState}
    (h : ImportRun env desc resource data s r s') (hno : NoObjectOnFailure env)
    {image : VkImage} {memory : VkDeviceMemory} (himage : resource.image = some image)
    (hmemory : resource.memory = some memory) (htex : resource.base.pResource = none)
    (hs : s.hostActions = [.acquire (.image image), .acquire (.memory memory)]) :
    LeavesBlock s'.hostActions r := by
  unfold LeavesBlock
  cases h with
  | failed hf =>
      rw [hostActions_log, hs, himage, hmemory, htex]
      simp only [List.filterMap_cons, Event.hostAction, hno.importTexture hf, Option.map_none,
        List.filterMap_nil, List.append_nil]
      exact .backed image memory
  | imported hf tex hobject =>
      have hupload : (uploadEvents tex data).filterMap Event.hostAction = [] :=
        List.filterMap_eq_nil_iff.mpr fun _ => hostAction_uploadEvents
      rw [hostActions_log, hs, List.filterMap_cons]
      simp only [Event.hostAction, hobject, Option.map_some, hupload]
      show CreationWord _ (some tex) resource.image resource.memory
      rw [himage, hmemory]
      exact .imported image memory tex

/-- A successful `create_shared_vk_image` leaves a backed image. -/
theorem SharedImageRun.backed_of_ok {env : VkEnv} {info : VkImageCreateInfo}
    {allocNext : AllocNext} {wantAlloc : Bool} {s s' : CallState} {r : SharedImage}
    (h : SharedImageRun env info allocNext wantAlloc s r s') (hs : s.hostActions = [])
    (hok : failed r.hr = false) :
    ∃ image memory, r.image = some image ∧ r.memory = some memory ∧
      s'.hostActions = [.acquire (.image image), .acquire (.memory memory)] := by
  obtain ⟨image, mem, memory, -, himage, hmemory⟩ := h.bound_of_ok hok
  have hword := h.creationWord hs
  rw [himage, hmemory] at hword
  refine ⟨image, memory, himage, hmemory, ?_⟩
  generalize s'.hostActions = word at hword ⊢
  cases hword
  rfl

/-- The end of the blob path. -/
theorem PublishRun.leavesBlock {env : DeviceEnv} {linearPresent : Bool} {desc : Texture2DDesc1}
    {resource r : VirtioWddmResource} {data : Option (List SubresourceData)} {s s' : CallState}
    (h : PublishRun env linearPresent desc resource data s r s') (hno : NoObjectOnFailure env)
    {image : VkImage} {memory : VkDeviceMemory} (himage : resource.image = some image)
    (hmemory : resource.memory = some memory) (htex : resource.base.pResource = none)
    (hs : s.hostActions = [.acquire (.image image), .acquire (.memory memory)]) :
    LeavesBlock s'.hostActions r := by
  have hkept : ∀ {word}, word = s.hostActions → LeavesBlock word resource := by
    rintro word rfl
    unfold LeavesBlock
    rw [hs, himage, hmemory, htex]
    exact .backed image memory
  have hpublished : (s.blobPublished env linearPresent desc resource).hostActions =
      s.hostActions := hostActions_log_of_none (List.forall_mem_singleton.mpr rfl)
  cases h with
  | layoutRefused => exact hkept (hostActions_log_of_none (List.forall_mem_singleton.mpr rfl))
  | escapeFailed =>
      refine hkept ?_
      rw [hostActions_log_of_none (List.forall_mem_singleton.mpr rfl), hpublished]
  | published hok hf r s' himp =>
      exact himp.leavesBlock hno himage hmemory htex (hpublished.trans hs)

/-- The blob path. -/
theorem BlobRun.leavesBlock {env : DeviceEnv} {pArgs : CreateResourceArgs}
    {isPrimary linearPresent : Bool} {desc : Texture2DDesc1} {hRTResource : HANDLE}
    {r : VirtioWddmResource} {data : Option (List SubresourceData)} {s s' : CallState}
    (h : BlobRun env pArgs isPrimary linearPresent desc hRTResource
      (createdBlock pArgs hRTResource) data s r s')
    (hno : NoObjectOnFailure env) (hs : s.hostActions = []) :
    LeavesBlock s'.hostActions r := by
  -- leaving the scope and reporting an error touch no host object
  have hreport : ∀ (t : CallState) scope evs, (∀ e ∈ evs, Event.hostAction e = none) →
      ((t.leaveScope scope).log evs).hostActions = t.hostActions :=
    fun t scope evs hevs => hostActions_log_of_none hevs
  cases h with
  | guarded =>
      rw [hostActions_log_of_none (List.forall_mem_singleton.mpr rfl), hs]
      exact .nothing
  | imageFailed hg img s₁ himg hf =>
      rw [hreport _ _ _ (List.forall_mem_singleton.mpr rfl)]
      exact himg.creationWord hs
  | notAttributed hg img s₁ himg hok hattr =>
      rw [hreport _ _ _ (List.forall_mem_singleton.mpr rfl)]
      exact himg.creationWord hs
  | notResident hg img s₁ himg hok hattr hl hres =>
      rw [hreport]
      · exact himg.creationWord hs
      · intro e he
        rcases List.mem_append.mp he with he | he
        · exact hostAction_residentEvents he
        · rw [List.mem_singleton.mp he]
          rfl
  | accepted hg img s₁ himg hok hattr hres r s' hpub =>
      obtain ⟨image, memory, himage, hmemory, hacts⟩ := himg.backed_of_ok hs hok
      refine hpub.leavesBlock hno himage hmemory rfl ?_
      rw [hreport, hacts]
      intro e he
      split at he
      · exact hostAction_residentEvents he
      · simp at he

/-- `create_shared_3d_resource` touches no host object. -/
theorem Shared3dRun.hostActions_eq {env : DeviceEnv} {desc : Texture2DDesc1}
    {primaryDesc : Option PrimaryDesc} {hRTResource : HANDLE} {s s' : CallState}
    {shared : Shared3dResource} (h : Shared3dRun env desc primaryDesc hRTResource s shared s') :
    s'.hostActions = s.hostActions := by
  have halloc : (s.allocated3d env desc primaryDesc hRTResource).hostActions = s.hostActions :=
    hostActions_log_of_none (List.forall_mem_singleton.mpr rfl)
  have hquery : (s.queried3d env desc primaryDesc hRTResource).hostActions = s.hostActions :=
    (hostActions_log_of_none (List.forall_mem_singleton.mpr rfl)).trans halloc
  cases h with
  | unsupported => rfl
  | allocateFailed => exact halloc
  | queryFailed =>
      exact (hostActions_log_of_none (List.forall_mem_singleton.mpr rfl)).trans hquery
  | cleanupFailed =>
      exact (hostActions_log_of_none (List.forall_mem_singleton.mpr rfl)).trans hquery
  | allocated =>
      exact (hostActions_log_of_none fun _ => hostAction_residentEvents).trans hquery

/-- The 3D path. -/
theorem Present3dRun.leavesBlock {env : DeviceEnv} {primaryDesc : Option PrimaryDesc}
    {desc : Texture2DDesc1} {pArgs : CreateResourceArgs} {hRTResource : HANDLE}
    {r : VirtioWddmResource} {data : Option (List SubresourceData)} {s s' : CallState}
    (h : Present3dRun env primaryDesc desc hRTResource (createdBlock pArgs hRTResource) data s r s')
    (hno : NoObjectOnFailure env) (hs : s.hostActions = []) :
    LeavesBlock s'.hostActions r := by
  cases h with
  | notAllocated shared s₁ hsh hf =>
      rw [hostActions_log_of_none (List.forall_mem_singleton.mpr rfl), hsh.hostActions_eq, hs]
      exact .nothing
  | imageFailed shared s₁ hsh hok info hinfo planes hplanes img s₂ himg hf =>
      rw [hostActions_log_of_none (List.forall_mem_singleton.mpr rfl)]
      exact himg.creationWord (hsh.hostActions_eq.trans hs)
  | imported shared s₁ hsh hok info hinfo planes hplanes img s₂ himg himgok r s' himp =>
      obtain ⟨image, memory, himage, hmemory, hacts⟩ :=
        himg.backed_of_ok (hsh.hostActions_eq.trans hs) himgok
      exact himp.leavesBlock hno himage hmemory rfl hacts

/-- The plain path. -/
theorem PlainRun.leavesBlock {env : DeviceEnv} {pArgs : CreateResourceArgs}
    {desc : Texture2DDesc1} {hRTResource : HANDLE} {r : VirtioWddmResource}
    {data : Option (List SubresourceData)} {s s' : CallState}
    (h : PlainRun env pArgs desc (createdBlock pArgs hRTResource) data s r s')
    (hno : NoObjectOnFailure env) (hs : s.hostActions = []) :
    LeavesBlock s'.hostActions r := by
  cases h with
  | unsupported =>
      rw [hostActions_log_of_none (List.forall_mem_singleton.mpr rfl), hs]
      exact .nothing
  | failed hostDesc hd hf =>
      rw [hostActions_log, hs]
      simp only [List.filterMap_cons, Event.hostAction, hno.createHostResource hf, Option.map_none,
        List.filterMap_nil, List.append_nil]
      exact .nothing
  | created hostDesc hd hf object hobject =>
      rw [hostActions_log, hs, List.filterMap_cons]
      have hfree : (data.toList.map fun _ => Event.initDataFreed).filterMap Event.hostAction = [] :=
        by cases data <;> rfl
      simp only [Event.hostAction, hobject, Option.map_some, hfree]
      exact .texture object

-- ============================================================================
-- The calls
-- ============================================================================

/-- CreateResource: what it acquired and did not release is in the block, on every
    exit. -/
theorem CreateRun.leavesBlock {env : DeviceEnv} {pArgs : CreateResourceArgs}
    {hRTResource : HANDLE} {s s' : CallState} {r : VirtioWddmResource}
    (h : CreateRun env pArgs hRTResource s r s') (hno : NoObjectOnFailure env)
    (hs : s.hostActions = []) : LeavesBlock s'.hostActions r := by
  have hinit : (s.initDataBuilt env pArgs).hostActions = [] := by
    rw [← hs]
    refine hostActions_log_of_none fun e he => ?_
    obtain ⟨d, -, rfl⟩ := List.mem_map.mp he
    rfl
  cases h with
  | present3d h3 hdim r s' hrun => exact hrun.leavesBlock hno hinit
  | blob h3 hb hdim r s' hrun => exact hrun.leavesBlock hno hinit
  | plain h3 hb r s' hrun => exact hrun.leavesBlock hno hinit

theorem OpenImportRun.leavesBlock {env : DeviceEnv} {hRTResource : HANDLE} {id : UINT}
    {info : AllocationInfo} {tiling : VkImageTiling}
    {modifierInfo : Option DrmFormatModifierInfo} {resource r : VirtioWddmResource}
    {s s' : CallState}
    (h : OpenImportRun env hRTResource id info tiling modifierInfo resource s r s')
    (hno : NoObjectOnFailure env) (hs : s.hostActions = [])
    (htex : resource.base.pResource = none) : LeavesBlock s'.hostActions r := by
  cases h with
  | imageFailed img s₁ himg hf =>
      rw [hostActions_log_of_none (List.forall_mem_singleton.mpr rfl)]
      show CreationWord _ resource.base.pResource _ _
      rw [htex]
      exact himg.creationWord hs
  | imported img s₁ himg hok r s' himp =>
      obtain ⟨image, memory, himage, hmemory, hacts⟩ := himg.backed_of_ok hs hok
      exact himp.leavesBlock hno himage hmemory htex hacts

/-- OpenResource likewise. -/
theorem OpenRun.leavesBlock {env : DeviceEnv} {pArgs : OpenResourceArgs} {hRTResource : HANDLE}
    {s s' : CallState} {r : VirtioWddmResource} (h : OpenRun env pArgs hRTResource s r s')
    (hno : NoObjectOnFailure env) (hs : s.hostActions = []) :
    LeavesBlock s'.hostActions r := by
  have hquery : (s.openQueried env pArgs).hostActions = [] :=
    (hostActions_log_of_none (List.forall_mem_singleton.mpr rfl)).trans hs
  have hreport : ∀ hr, ((s.openQueried env pArgs).log [.setError hr]).hostActions = [] :=
    fun hr => (hostActions_log_of_none (List.forall_mem_singleton.mpr rfl)).trans hquery
  cases h with
  | queryFailed hq => rw [hreport]; exact .nothing
  | unknownTag hq tag hi => rw [hreport]; exact .nothing
  | blobInvalid hq info hi hv => rw [hreport]; exact .nothing
  | blob hq info hi hv hc r s' hrun => exact hrun.leavesBlock hno hquery rfl
  | alloc3d hq info hi planes hplanes r s' hrun => exact hrun.leavesBlock hno hquery rfl

/-- The objects in a block, in the order DestroyResource releases them. -/
def VirtioWddmResource.hostObjects (resource : VirtioWddmResource) : List HostObject :=
  (resource.base.pResource.map HostObject.texture).toList ++
    (resource.image.map HostObject.image).toList ++
    (resource.memory.map HostObject.memory).toList

/-- DestroyResource releases the objects in the block and no others. -/
theorem hostActions_destroyed (s : CallState) (env : DeviceEnv) (resource : VirtioWddmResource) :
    (s.destroyed env resource).hostActions =
      s.hostActions ++ resource.hostObjects.map Action.release := by
  have htex : ∀ t : CallState, (t.releaseIfSet resource.base.pResource fun s tex =>
      s.log [.releaseHostResource tex]).hostActions = t.hostActions ++
        ((resource.base.pResource.map HostObject.texture).toList).map Action.release := by
    intro t
    cases resource.base.pResource with
    | none => simp [CallState.releaseIfSet]
    | some tex => simp [CallState.releaseIfSet, hostActions_log, Event.hostAction]
  have himage : ∀ t : CallState, (t.releaseIfSet resource.image fun s image =>
      s.vk env.vk .destroyImage (.destroyImage image)).hostActions = t.hostActions ++
        ((resource.image.map HostObject.image).toList).map Action.release := by
    intro t
    cases resource.image with
    | none => simp [CallState.releaseIfSet]
    | some image => simp [CallState.releaseIfSet, Event.hostAction]
  have hmemory : ∀ t : CallState, (t.releaseIfSet resource.memory fun s memory =>
      s.vk env.vk .freeMemory (.freeMemory memory)).hostActions = t.hostActions ++
        ((resource.memory.map HostObject.memory).toList).map Action.release := by
    intro t
    cases resource.memory with
    | none => simp [CallState.releaseIfSet]
    | some memory => simp [CallState.releaseIfSet, Event.hostAction]
  have hdealloc : ∀ t : CallState,
      (if resource.base.hKMAllocation ≠ 0 then
        t.log [.deallocateCb (.resource resource.base.hRTResource) env.deallocateHr]
      else t).hostActions = t.hostActions := by
    intro t
    split
    · exact hostActions_log_of_none (List.forall_mem_singleton.mpr rfl)
    · rfl
  simp only [CallState.destroyed, VirtioWddmResource.hostObjects, List.map_append]
  rw [hdealloc, hmemory, himage, htex, List.append_assoc, List.append_assoc, List.append_assoc]

-- ============================================================================
-- A creation and its destruction
-- ============================================================================

/-- What is left of a creation in the block. -/
theorem CreationWord.replay {word : List (Action HostObject)} {r : VirtioWddmResource}
    (h : LeavesBlock word r) : ∃ held, Action.replay [] word = some held := by
  unfold LeavesBlock at h
  generalize r.base.pResource = tex at h
  generalize r.image = image at h
  generalize r.memory = memory at h
  cases h <;> simp [Action.replay]

/-- A creation followed by the release of what its block holds leaves nothing. -/
theorem CreationWord.replay_released {word : List (Action HostObject)} {r : VirtioWddmResource}
    (h : LeavesBlock word r) :
    Action.replay [] (word ++ r.hostObjects.map Action.release) = some [] := by
  unfold LeavesBlock at h
  unfold VirtioWddmResource.hostObjects
  generalize r.base.pResource = tex at h ⊢
  generalize r.image = image at h ⊢
  generalize r.memory = memory at h ⊢
  cases h <;> simp [Action.replay]

/-- Texture first, memory last, and each at most once. -/
def ReleasedInOrder (word : List (Action HostObject)) : Prop :=
  (word.filterMap Action.released).Pairwise fun a b => a.rank < b.rank

theorem CreationWord.inOrder {word : List (Action HostObject)} {r : VirtioWddmResource}
    (h : LeavesBlock word r) : ReleasedInOrder word := by
  unfold LeavesBlock at h
  unfold ReleasedInOrder
  generalize r.base.pResource = tex at h
  generalize r.image = image at h
  generalize r.memory = memory at h
  cases h <;> simp [HostObject.rank]

theorem CreationWord.inOrder_released {word : List (Action HostObject)} {r : VirtioWddmResource}
    (h : LeavesBlock word r) :
    ReleasedInOrder (word ++ r.hostObjects.map Action.release) := by
  unfold LeavesBlock at h
  unfold ReleasedInOrder VirtioWddmResource.hostObjects
  generalize r.base.pResource = tex at h ⊢
  generalize r.image = image at h ⊢
  generalize r.memory = memory at h ⊢
  cases h <;> simp [HostObject.rank]

end VirtioWddm
