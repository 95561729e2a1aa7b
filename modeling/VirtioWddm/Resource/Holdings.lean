/-
  VirtioWddm.Resource.Holdings

  What a call holds: the initial-data array, kernel allocations, images and device
  memory, each as a ledger over the trace.

  `create_shared_vk_image` hands out exactly the image and the memory it still
  holds; what its hooks hold is a ledger over the hook calls themselves, since
  the Vulkan calls of the driver never touch kernel allocations.
-/

import VirtioWddm.Resource.Exits

namespace VirtioWddm

open Lib

-- ============================================================================
-- The ledgers
-- ============================================================================

/-- The array of `tritonBuildInitData`. -/
@[simps] def initDataLedger : Ledger Event Unit where
  acquires
    | .initDataAllocated _ => some ()
    | _ => none
  releases
    | .initDataFreed, _ => true
    | _, _ => false

/-- A kernel allocation, with the runtime resource it was made under. -/
structure KernelAllocation where
  hAllocation : D3DKMT_HANDLE
  hResource : HANDLE
deriving DecidableEq

/-- The allocations of successful `pfnAllocateCb` calls; a successful
    `pfnDeallocateCb` frees one of them by handle or all of a resource. -/
@[simps] def kernelLedger : Ledger Event KernelAllocation where
  acquires
    | .allocateCb args reply =>
        if succeeded reply.hr then
          some { hAllocation := reply.hAllocation, hResource := args.hResource }
        else
          none
    | _ => none
  releases
    | .deallocateCb (.resource hResource) hr, k => succeeded hr && k.hResource == hResource
    | .deallocateCb (.allocation hAllocation) hr, k =>
        succeeded hr && k.hAllocation == hAllocation
    | _, _ => false

@[simps] def imageLedger : Ledger Event VkImage where
  acquires
    | .createImage _ (.ok image) => some image
    | _ => none
  releases
    | .destroyImage image, i => i == image
    | _, _ => false

@[simps] def memoryLedger : Ledger Event VkDeviceMemory where
  acquires
    | .allocateMemory _ (.ok memory) => some memory
    | _ => none
  releases
    | .freeMemory memory, m => m == memory
    | _, _ => false

/-- Nothing is held any more. -/
structure NothingHeld (trace : List Event) : Prop where
  initData : initDataLedger.held trace = []
  kernel : kernelLedger.held trace = []
  images : imageLedger.held trace = []
  memories : memoryLedger.held trace = []

-- ============================================================================
-- Growth a ledger does not see
-- ============================================================================

section Blind

variable {ρ : Type} {L : Ledger Event ρ}

theorem held_log (s : CallState) (evs : List Event) :
    L.held (s.log evs).trace = L.heldFrom (L.held s.trace) evs :=
  L.held_append s.trace evs

theorem Grows.held_eq {P : Event → Prop} {s s' : CallState} (h : Grows P s s')
    (hP : ∀ e, P e → L.Neutral e) : L.held s'.trace = L.held s.trace := by
  obtain ⟨evs, heq, hevs⟩ := h
  rw [heq, L.held_append, L.heldFrom_neutral fun e he => hP e (hevs e he)]

/-- The ledger sees no hook traffic. -/
def HookBlind (L : Ledger Event ρ) : Prop :=
  ∀ e : Event, e.isHookTraffic = true → L.Neutral e

theorem HookBlind.hooks (h : HookBlind L) (s : CallState) (cs : List HookCall) :
    L.held (s.hooks cs).trace = L.held s.trace :=
  (Grows.hooks (fun _ he => he) s cs).held_eq h

theorem HookBlind.vk (h : HookBlind L) (s : CallState) (env : VkEnv) (site : VkSite)
    (e : Event) : L.held (s.vk env site e).trace = L.step (L.held s.trace) e := by
  rw [CallState.vk, held_log, h.hooks]
  rfl

theorem imageLedger_hookBlind : HookBlind imageLedger := by
  intro e he
  cases e <;> first
    | exact ⟨rfl, fun _ => rfl⟩
    | cases he

theorem memoryLedger_hookBlind : HookBlind memoryLedger := by
  intro e he
  cases e <;> first
    | exact ⟨rfl, fun _ => rfl⟩
    | cases he

theorem initDataLedger_neutral_isVulkan {e : Event} (h : e.isVulkan = true) :
    initDataLedger.Neutral e := by
  cases e <;> first
    | exact ⟨rfl, fun _ => rfl⟩
    | cases h

/-- Tail events touch neither images, nor memory, nor kernel allocations. -/
theorem neutral_of_isTail {e : Event} (h : e.isTail = true) :
    kernelLedger.Neutral e ∧ imageLedger.Neutral e ∧ memoryLedger.Neutral e := by
  cases e <;> first
    | exact ⟨⟨rfl, fun _ => rfl⟩, ⟨rfl, fun _ => rfl⟩, ⟨rfl, fun _ => rfl⟩⟩
    | cases h

end Blind

-- ============================================================================
-- create_shared_vk_image
-- ============================================================================

/-- The image in `*image` is the one `create_shared_vk_image` still holds. -/
theorem SharedImageRun.held_image {env : VkEnv} {info : VkImageCreateInfo}
    {allocNext : AllocNext} {wantAlloc : Bool} {s s' : CallState} {r : SharedImage}
    (h : SharedImageRun env info allocNext wantAlloc s r s')
    (h0 : imageLedger.held s.trace = []) : imageLedger.held s'.trace = r.image.toList := by
  have hb := imageLedger_hookBlind
  cases h <;>
    simp only [CallState.imageCreated, CallState.imageBacked, CallState.imageReleased, hb.vk,
      hb.hooks, h0, Ledger.step, imageLedger_acquires, imageLedger_releases] <;>
    simp

/-- The memory in `*memory` is the one `create_shared_vk_image` still holds. -/
theorem SharedImageRun.held_memory {env : VkEnv} {info : VkImageCreateInfo}
    {allocNext : AllocNext} {wantAlloc : Bool} {s s' : CallState} {r : SharedImage}
    (h : SharedImageRun env info allocNext wantAlloc s r s')
    (h0 : memoryLedger.held s.trace = []) : memoryLedger.held s'.trace = r.memory.toList := by
  have hb := memoryLedger_hookBlind
  cases h <;>
    simp only [CallState.imageCreated, CallState.imageBacked, CallState.imageReleased, hb.vk,
      hb.hooks, h0, Ledger.step, memoryLedger_acquires, memoryLedger_releases] <;>
    simp

-- ============================================================================
-- Kernel allocations of the hooks
-- ============================================================================

/-- The kernel allocations hook calls make and free. -/
@[simps] def hookAllocations : Ledger HookCall KernelAllocation where
  acquires
    | .alloc (some r) reply =>
        if succeeded reply.hr then
          some { hAllocation := reply.hAllocation, hResource := r.hRTResource }
        else
          none
    | _ => none
  releases
    | .free (some a) hr, k =>
        a.hAllocation != 0 && (succeeded hr && k.hAllocation == a.hAllocation)
    | _, _ => false

/-- One hook call does to the kernel's allocations what the ledger of hook calls
    says. -/
theorem kernelLedger_hookEvents (held : List KernelAllocation) (scope : RuntimeAllocScope)
    (c : HookCall) :
    kernelLedger.heldFrom held (hookEvents scope c) = hookAllocations.step held c := by
  rcases c with ⟨_ | req, reply⟩ | ⟨_ | a, hr⟩
  · simp [hookEvents, Ledger.step, kernelLedger, hookAllocations]
  · by_cases hs : succeeded reply.hr = true <;>
      simp [hookEvents, Ledger.step, kernelLedger, hookAllocations, hs, runtimeAllocArgs]
  · simp [hookEvents, Ledger.step, kernelLedger, hookAllocations]
  · by_cases h0 : a.hAllocation = 0#32
    · simp [hookEvents, Ledger.step, kernelLedger, hookAllocations, h0]
    · have hne : (a.hAllocation != 0#32) = true := by simpa using h0
      simp [hookEvents, Ledger.step, kernelLedger, hookAllocations, h0, hne]

theorem kernelLedger_hooks (s : CallState) (cs : List HookCall) :
    kernelLedger.held (s.hooks cs).trace =
      hookAllocations.heldFrom (kernelLedger.held s.trace) cs := by
  rw [CallState.hooks_trace, Ledger.held_append]
  generalize kernelLedger.held s.trace = held
  induction cs generalizing held with
  | nil => rfl
  | cons c cs ih =>
      rw [List.flatMap_cons, Ledger.heldFrom_append, kernelLedger_hookEvents, ih]
      rfl

theorem kernelLedger_vk (s : CallState) (env : VkEnv) (site : VkSite) {e : Event}
    (he : kernelLedger.Neutral e) :
    kernelLedger.held (s.vk env site e).trace =
      hookAllocations.heldFrom (kernelLedger.held s.trace) (env.hooks site) := by
  rw [CallState.vk, held_log, kernelLedger_hooks]
  exact kernelLedger.step_neutral he

end VirtioWddm
