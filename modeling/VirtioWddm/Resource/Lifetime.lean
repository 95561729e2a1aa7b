/-
  VirtioWddm.Resource.Lifetime

  What one CreateResource or DestroyResource call does to the kernel allocations
  that are alive when it starts.

  `callLedger n` replays the trace of call number `n` on the live allocations and
  marks what it adds with that number, so that an allocation is not confused with
  a later one of the same handle.  The hooks may free by handle; what they are
  assumed to leave alone is the `permitted` argument of `Ledger.ReleasesOnly`.
-/

import VirtioWddm.Resource.Attribution
import VirtioWddm.Resource.Holdings

namespace VirtioWddm

open Lib

-- ============================================================================
-- Live allocations
-- ============================================================================

def CreateAllocation.isBlob : CreateAllocation → Bool
  | .blob _ => true
  | .alloc3d _ => false

/-- A live kernel allocation: its handle, the runtime resource it was made under,
    the driver call it was made in, and whether the alloc hook made it.  The hook
    makes blob allocations only, the driver itself none. -/
structure LiveAllocation where
  hAllocation : D3DKMT_HANDLE
  hResource : HANDLE
  call : Nat
  byHook : Bool
deriving DecidableEq

/-- The kernel's allocations over call number `n`. -/
@[simps] def callLedger (n : Nat) : Ledger Event LiveAllocation where
  acquires
    | .allocateCb args reply =>
        if succeeded reply.hr then
          some
            { hAllocation := reply.hAllocation
              hResource := args.hResource
              call := n
              byHook := args.payload.allocation.isBlob }
        else
          none
    | _ => none
  releases e k :=
    kernelLedger.releases e { hAllocation := k.hAllocation, hResource := k.hResource }

/-- The alloc hook asks for blob allocations. -/
@[simp] theorem runtimeAllocArgs_isBlob (scope : RuntimeAllocScope) (req : RuntimeAllocRequest) :
    (runtimeAllocArgs scope req).payload.allocation.isBlob = true := by
  unfold runtimeAllocArgs
  dsimp only
  split
  · rfl
  · split <;> rfl

@[simp] theorem runtimeAllocArgs_hResource (scope : RuntimeAllocScope)
    (req : RuntimeAllocRequest) : (runtimeAllocArgs scope req).hResource = req.hRTResource := rfl

/-- `create_shared_3d_resource` asks for a 3D allocation. -/
@[simp] theorem allocate3dPayload_isBlob (allocPriv : Allocate3d)
    (primaryDesc : Option PrimaryDesc) :
    (allocate3dPayload allocPriv primaryDesc).allocation.isBlob = false := by
  cases primaryDesc <;> rfl

/-- The live allocations once the events of call `n` so far have happened. -/
def CallState.live (s : CallState) (n : Nat) (kernel : List LiveAllocation) :
    List LiveAllocation :=
  (callLedger n).heldFrom kernel s.trace

theorem live_log (s : CallState) (n : Nat) (kernel : List LiveAllocation) (evs : List Event) :
    (s.log evs).live n kernel = (callLedger n).heldFrom (s.live n kernel) evs :=
  (callLedger n).heldFrom_append kernel s.trace evs

/-- The event frees every allocation of a runtime resource. -/
def Event.isResourceFree : Event → Bool
  | .deallocateCb (.resource _) _ => true
  | _ => false

/-- The event frees one allocation by its handle. -/
def Event.isHandleFree : Event → Bool
  | .deallocateCb (.allocation _) _ => true
  | _ => false

/-- A trace without frees by handle, checked event by event, releases only what the
    driver frees by resource. -/
theorem releasesOnly_of_all {n : Nat} {kernel : List LiveAllocation} {trace : List Event}
    {permitted : Event → LiveAllocation → Prop}
    (h : (trace.all fun e => !e.isHandleFree) = true)
    (hresource : ∀ e k, e.isResourceFree = true → permitted e k) :
    (callLedger n).ReleasesOnly permitted kernel trace := by
  refine .of_forall fun e he k hrel => hresource e k ?_
  have hno := List.all_eq_true.mp h e he
  cases e with
  | deallocateCb target hr =>
      cases target with
      | resource hResource => rfl
      | allocation hAllocation => cases hno
  | _ => cases hrel

/-- The kernel callbacks whose failure decides what is freed. -/
structure FreeingCallbacksSucceed (env : DeviceEnv) : Prop where
  query : failed env.resourceInfo.hr = false
  deallocate : failed env.deallocateHr = false

-- ============================================================================
-- The allocation the block names
-- ============================================================================

/-- Every allocation the hooks handed out and were not asked to free is alive. -/
def HookBacked (n : Nat) (kernel : List LiveAllocation) (s : CallState) : Prop :=
  ∀ record ∈ hookLedger.held s.trace,
    ∃ k ∈ s.live n kernel, k.call = n ∧ k.hAllocation = record.hAllocation

theorem callLedger_neutral {n : Nat} {e : Event} (h : kernelLedger.Neutral e) :
    (callLedger n).Neutral e := by
  refine ⟨?_, fun k => h.2 _⟩
  cases e with
  | allocateCb args reply =>
      have hacq := h.1
      simp only [kernelLedger_acquires, callLedger_acquires] at hacq ⊢
      split at hacq
      · cases hacq
      · rw [if_neg ‹_›]
  | _ => rfl

section HookBacked

variable {n : Nat} {kernel : List LiveAllocation} {s s' : CallState}

theorem HookBacked.log (h : HookBacked n kernel s) {evs : List Event}
    (hhook : ∀ e ∈ evs, e.isHook = false) (hkernel : ∀ e ∈ evs, kernelLedger.Neutral e) :
    HookBacked n kernel (s.log evs) := by
  unfold HookBacked
  rw [live_log, (callLedger n).heldFrom_neutral fun e he => callLedger_neutral (hkernel e he),
    CallState.log_trace, Ledger.held_append,
    Ledger.heldFrom_neutral _ fun e he => hookLedger_neutral (hhook e he)]
  exact h

/-- A hook call hands out what it has just allocated, and takes back what it is
    about to free. -/
theorem HookBacked.hook (h : HookBacked n kernel s) (c : HookCall) :
    HookBacked n kernel (s.hook c) := by
  intro record hrecord
  change record ∈ hookLedger.held (s.trace ++ hookEvents s.runtimeAllocScope c) at hrecord
  change ∃ k ∈ (callLedger n).heldFrom kernel (s.trace ++ hookEvents s.runtimeAllocScope c), _
  rw [Ledger.held_append] at hrecord
  rw [Ledger.heldFrom_append]
  have hstay : ∀ {evs}, record ∈ hookLedger.held s.trace →
      (∀ e ∈ evs, ∀ k : LiveAllocation, k.hAllocation = record.hAllocation →
        (callLedger n).releases e k = false) →
      ∃ k ∈ (callLedger n).heldFrom (s.live n kernel) evs,
        k.call = n ∧ k.hAllocation = record.hAllocation := by
    intro evs hheld hkeep
    obtain ⟨k, hk, hcall, hhandle⟩ := h record hheld
    exact ⟨k, (Ledger.mem_heldFrom _).mpr (.inl ⟨hk, fun e he => hkeep e he k hhandle⟩), hcall,
      hhandle⟩
  rcases c with ⟨_ | req, reply⟩ | ⟨_ | a, hr⟩
  · refine hstay ?_ (by simp [hookEvents])
    simpa [hookEvents, Ledger.mem_step] using hrecord
  · by_cases hfail : failed reply.hr = true ∨ reply.hAllocation = 0#32
    · refine hstay ?_ (by simp [hookEvents])
      simpa [hookEvents, Ledger.mem_step, hfail] using hrecord
    · simp only [hookEvents, if_neg hfail, Ledger.heldFrom_cons, Ledger.heldFrom_nil,
        Ledger.mem_step, hookLedger_releases, hookLedger_acquires, and_true, reduceCtorEq,
        or_false, Option.some.injEq] at hrecord
      rcases hrecord with hheld | rfl
      · exact hstay hheld (by simp [hookEvents])
      · have hok : succeeded reply.hr = true := by simpa [succeeded] using (not_or.mp hfail).1
        refine ⟨⟨reply.hAllocation, req.hRTResource, n, true⟩, ?_, rfl, rfl⟩
        simp [hookEvents, Ledger.mem_step, hok]
  · refine hstay ?_ (by simp [hookEvents])
    simpa [hookEvents, Ledger.mem_step] using hrecord
  · have hkept : record ∈ hookLedger.held s.trace ∧ a.hAllocation ≠ record.hAllocation := by
      by_cases hzero : a.hAllocation = 0#32 <;>
        simpa [hookEvents, Ledger.mem_step, hzero] using hrecord
    refine hstay hkept.1 ?_
    intro e he k hk
    simp only [hookEvents] at he
    split at he <;> simp only [List.mem_cons, List.not_mem_nil, or_false] at he
    · rw [he]
      rfl
    · rcases he with rfl | rfl
      · simp [hk, hkept.2.symm]
      · rfl

theorem HookBacked.hooks (h : HookBacked n kernel s) (cs : List HookCall) :
    HookBacked n kernel (s.hooks cs) := by
  induction cs generalizing s with
  | nil => simpa [CallState.hooks, CallState.log] using h
  | cons c cs ih =>
      rw [CallState.hooks_cons]
      exact ih (h.hook c)

theorem SharedImageRun.hookBacked {env : VkEnv} {info : VkImageCreateInfo}
    {allocNext : AllocNext} {wantAlloc : Bool} {r : SharedImage}
    (h : SharedImageRun env info allocNext wantAlloc s r s') (hs : HookBacked n kernel s) :
    HookBacked n kernel s' := by
  refine h.preserves (fun _ cs ht => ht.hooks cs) ?_ hs
  intro t e hvulkan hno ht
  refine ht.log (List.forall_mem_singleton.mpr ?_) (List.forall_mem_singleton.mpr ?_) <;>
    cases e <;> first
      | rfl
      | exact ⟨rfl, fun _ => rfl⟩
      | cases hno
      | simp [Event.isVulkan, hno] at hvulkan

theorem HookBacked.tail (h : HookBacked n kernel s) {evs : List Event}
    (hevs : ∀ e ∈ evs, e.isTail = true) : HookBacked n kernel (s.log evs) :=
  h.log (fun e he => isHook_of_isTail (hevs e he)) fun e he => (neutral_of_isTail (hevs e he)).1

theorem BlobRun.hookBacked {env : DeviceEnv} {pArgs : CreateResourceArgs}
    {isPrimary linearPresent : Bool} {desc : Texture2DDesc1} {hRTResource : HANDLE}
    {resource r : VirtioWddmResource} {data : Option (List SubresourceData)}
    (h : BlobRun env pArgs isPrimary linearPresent desc hRTResource resource data s r s')
    (hs : HookBacked n kernel s) : HookBacked n kernel s' := by
  refine h.preserves (fun himg => himg.hookBacked) (fun t evs hevs ht => ht.tail hevs) ?_ hs
  intro t t' htrace ht
  unfold HookBacked CallState.live
  rw [htrace]
  exact ht

end HookBacked

-- ============================================================================
-- No call frees by resource unless a query fails
-- ============================================================================

/-- Nothing between the two states freed a whole runtime resource. -/
abbrev NoResourceFree : CallState → CallState → Prop :=
  Grows fun e => e.isResourceFree = false

theorem isResourceFree_of_isTail {e : Event} (h : e.isTail = true) : e.isResourceFree = false := by
  cases e <;> first
    | rfl
    | cases h

theorem isResourceFree_of_isVulkan {e : Event} (h : e.isVulkan = true) :
    e.isResourceFree = false := by
  cases e with
  | deallocateCb target hr =>
      cases target with
      | resource hResource => simp [Event.isVulkan, Event.isHookTraffic] at h
      | allocation hAllocation => rfl
  | _ => rfl

theorem noResourceFree_tail {s : CallState} {evs : List Event}
    (h : ∀ e ∈ evs, e.isTail = true) : NoResourceFree s (s.log evs) :=
  .log fun e he => isResourceFree_of_isTail (h e he)

theorem SharedImageRun.noResourceFree {env : VkEnv} {info : VkImageCreateInfo}
    {allocNext : AllocNext} {wantAlloc : Bool} {s s' : CallState} {r : SharedImage}
    (h : SharedImageRun env info allocNext wantAlloc s r s') : NoResourceFree s s' :=
  h.grows.mono fun _ => isResourceFree_of_isVulkan

theorem QuietRun.noResourceFree {resource r : VirtioWddmResource} {s s' : CallState}
    (h : QuietRun resource r s s') : NoResourceFree s s' := by
  obtain ⟨evs, rfl, hevs⟩ := h.events
  exact noResourceFree_tail hevs

theorem BlobRun.noResourceFree {env : DeviceEnv} {pArgs : CreateResourceArgs}
    {isPrimary linearPresent : Bool} {desc : Texture2DDesc1} {hRTResource : HANDLE}
    {resource r : VirtioWddmResource} {data : Option (List SubresourceData)} {s s' : CallState}
    (h : BlobRun env pArgs isPrimary linearPresent desc hRTResource resource data s r s') :
    NoResourceFree s s' := by
  refine h.preserves (fun himg ht => ht.trans himg.noResourceFree)
    (fun t evs hevs ht => ht.trans (noResourceFree_tail hevs)) ?_ (.refl s)
  intro t t' htrace ht
  obtain ⟨evs, heq, hevs⟩ := ht
  exact ⟨evs, htrace.trans heq, hevs⟩

theorem PlainRun.noResourceFree {env : DeviceEnv} {pArgs : CreateResourceArgs}
    {desc : Texture2DDesc1} {resource r : VirtioWddmResource}
    {data : Option (List SubresourceData)} {s s' : CallState}
    (h : PlainRun env pArgs desc resource data s r s') : NoResourceFree s s' := by
  cases h with
  | unsupported => exact .log (List.forall_mem_singleton.mpr rfl)
  | failed => exact .log (List.forall_mem_cons.mpr ⟨rfl, List.forall_mem_singleton.mpr rfl⟩)
  | created => exact .log (by cases data <;> simp [Event.isResourceFree])

/-- When the layout query succeeds, `create_shared_3d_resource` either has no
    allocation or hands out the one `pfnAllocateCb` made. -/
theorem Shared3dRun.allocation {env : DeviceEnv} {desc : Texture2DDesc1}
    {primaryDesc : Option PrimaryDesc} {hRTResource : HANDLE} {s s' : CallState}
    {shared : Shared3dResource} (h : Shared3dRun env desc primaryDesc hRTResource s shared s')
    (hq : failed env.resourceInfo.hr = false) :
    (shared.hAllocation = 0 ∧ NoResourceFree s s') ∨
      (shared.hAllocation = env.allocate.hAllocation ∧ failed env.allocate.hr = false ∧
        NoResourceFree (s.allocated3d env desc primaryDesc hRTResource) s') := by
  cases h with
  | unsupported => exact .inl ⟨rfl, .refl s⟩
  | allocateFailed => exact .inl ⟨rfl, .log (List.forall_mem_singleton.mpr rfl)⟩
  | queryFailed h ha hqf => exact absurd (hq.symm.trans hqf) (by simp)
  | cleanupFailed h ha hqf => exact absurd (hq.symm.trans hqf) (by simp)
  | allocated h ha hqok info hi =>
      have hquery : NoResourceFree (s.allocated3d env desc primaryDesc hRTResource)
          (s.queried3d env desc primaryDesc hRTResource) := .log (List.forall_mem_singleton.mpr rfl)
      refine .inr ⟨rfl, ha, hquery.trans (noResourceFree_tail fun e he => ?_)⟩
      exact residentEvents_isTail he

/-- The 3D path keeps what `create_shared_3d_resource` handed out. -/
theorem Present3dRun.allocation {env : DeviceEnv} {primaryDesc : Option PrimaryDesc}
    {desc : Texture2DDesc1} {hRTResource : HANDLE} {resource r : VirtioWddmResource}
    {data : Option (List SubresourceData)} {s s' : CallState}
    (h : Present3dRun env primaryDesc desc hRTResource resource data s r s') :
    ∃ shared s₁, Shared3dRun env desc primaryDesc hRTResource s shared s₁ ∧
      r.base.hKMAllocation = shared.hAllocation ∧ NoResourceFree s₁ s' := by
  cases h with
  | notAllocated shared s₁ hsh hf =>
      exact ⟨shared, s₁, hsh, rfl, noResourceFree_tail (List.forall_mem_singleton.mpr rfl)⟩
  | imageFailed shared s₁ hsh hok info hinfo planes hplanes img s₂ himg hf =>
      refine ⟨shared, s₁, hsh, rfl, himg.noResourceFree.trans ?_⟩
      exact noResourceFree_tail (List.forall_mem_singleton.mpr rfl)
  | imported shared s₁ hsh hok info hinfo planes hplanes img s₂ himg himgok r s' himp =>
      have hquiet := himp.quiet
      obtain ⟨tex, rfl⟩ := hquiet.block
      exact ⟨shared, s₁, hsh, rfl, himg.noResourceFree.trans hquiet.noResourceFree⟩

/-- What only a free by resource could free survives where there is none. -/
theorem NoResourceFree.mem_live {s s' : CallState} (h : NoResourceFree s s') {n : Nat}
    {kernel : List LiveAllocation} {permitted : Event → LiveAllocation → Prop}
    (hfrees : (callLedger n).ReleasesOnly permitted kernel s'.trace) {k : LiveAllocation}
    (hk : k ∈ s.live n kernel) (hnot : ∀ e, permitted e k → e.isResourceFree = true) :
    k ∈ s'.live n kernel := by
  obtain ⟨evs, htrace, hevs⟩ := h
  rw [htrace, Ledger.ReleasesOnly.append] at hfrees
  unfold CallState.live
  rw [htrace, Ledger.heldFrom_append]
  refine hfrees.2.mem_heldFrom hk fun e he hpermit => ?_
  exact absurd ((hnot e hpermit).symm.trans (hevs e he)) (by simp)

-- ============================================================================
-- CreateResource
-- ============================================================================

/-- What the events of call `n`, a CreateResource, may free: the driver whatever it
    frees by resource, the hooks what they allocated in this very call. -/
def createFrees (n : Nat) (e : Event) (k : LiveAllocation) : Prop :=
  e.isResourceFree = true ∨ (k.call = n ∧ k.byHook = true)

theorem initDataBuilt_noResourceFree (s : CallState) (env : DeviceEnv)
    (pArgs : CreateResourceArgs) : NoResourceFree s (s.initDataBuilt env pArgs) := by
  refine .log fun e he => ?_
  obtain ⟨data, -, rfl⟩ := List.mem_map.mp he
  rfl

theorem CreateRun.noResourceFree {env : DeviceEnv} {pArgs : CreateResourceArgs}
    {hRTResource : HANDLE} {s s' : CallState} {r : VirtioWddmResource}
    (h : CreateRun env pArgs hRTResource s r s') (hq : failed env.resourceInfo.hr = false) :
    NoResourceFree s s' := by
  refine (initDataBuilt_noResourceFree s env pArgs).trans ?_
  cases h with
  | present3d h3 hdim r s' hrun =>
      obtain ⟨shared, s₁, hsh, -, htail⟩ := hrun.allocation
      rcases hsh.allocation hq with ⟨-, hgrows⟩ | ⟨-, -, hgrows⟩
      · exact hgrows.trans htail
      · have halloc : NoResourceFree (s.initDataBuilt env pArgs)
            ((s.initDataBuilt env pArgs).allocated3d env (createdDesc pArgs hRTResource)
              (primaryDescOf pArgs) hRTResource) := .log (List.forall_mem_singleton.mpr rfl)
        exact (halloc.trans hgrows).trans htail
  | blob h3 hb hdim r s' hrun => exact hrun.noResourceFree
  | plain h3 hb r s' hrun => exact hrun.noResourceFree

section Created

variable {env : DeviceEnv} {pArgs : CreateResourceArgs} {hRTResource : HANDLE}
  {s s' : CallState} {r : VirtioWddmResource} {n : Nat} {kernel : List LiveAllocation}

/-- Allocations of earlier calls survive a CreateResource call. -/
theorem CreateRun.mem_live (h : CreateRun env pArgs hRTResource s r s') (hs : s.trace = [])
    (hq : failed env.resourceInfo.hr = false)
    (hfrees : (callLedger n).ReleasesOnly (createFrees n) kernel s'.trace)
    {k : LiveAllocation} (hk : k ∈ kernel) (hcall : k.call ≠ n) : k ∈ s'.live n kernel := by
  refine (h.noResourceFree hq).mem_live hfrees ?_
    fun e hpermit => hpermit.resolve_right fun hown => hcall hown.1
  unfold CallState.live
  rw [hs]
  exact hk

/-- An allocation the block names when CreateResource returns was made in this call
    and is alive. -/
theorem CreateRun.names_live (h : CreateRun env pArgs hRTResource s r s') (hs : s.trace = [])
    (hq : failed env.resourceInfo.hr = false)
    (hfrees : (callLedger n).ReleasesOnly (createFrees n) kernel s'.trace)
    (hne : r.base.hKMAllocation ≠ 0) :
    ∃ k ∈ s'.live n kernel, k.call = n ∧ k.hAllocation = r.base.hKMAllocation := by
  cases h with
  | plain h3 hb r s' hrun => cases hrun <;> exact absurd rfl hne
  | blob h3 hb hdim r s' hrun =>
      obtain ⟨hrecord, hbacked⟩ := (hrun.attribution rfl).adopted hne
      have hstart : HookBacked n kernel (s.initDataBuilt env pArgs) := by
        have hempty : HookBacked n kernel s := by
          intro record hrecord
          rw [hs] at hrecord
          cases hrecord
        refine hempty.log ?_ ?_ <;>
        · intro e he
          obtain ⟨data, -, rfl⟩ := List.mem_map.mp he
          first
            | rfl
            | exact ⟨rfl, fun _ => rfl⟩
      rw [hrecord] at hbacked
      exact hrun.hookBacked hstart _ (hbacked hne)
  | present3d h3 hdim r s' hrun =>
      obtain ⟨shared, s₁, hsh, hname, htail⟩ := hrun.allocation
      rcases hsh.allocation hq with ⟨hnone, -⟩ | ⟨hsame, hok, hgrows⟩
      · exact absurd (hname.trans hnone) hne
      · refine ⟨⟨env.allocate.hAllocation, hRTResource, n, false⟩, ?_, rfl,
          (hname.trans hsame).symm⟩
        have hlater : NoResourceFree _ s' := hgrows.trans htail
        refine hlater.mem_live hfrees ?_
          fun e hpermit => hpermit.resolve_right fun hown => by simp at hown
        unfold CallState.allocated3d
        rw [live_log]
        simp [Ledger.mem_step, succeeded, hok]

end Created

-- ============================================================================
-- DestroyResource
-- ============================================================================

/-- What the events of call `n`, a DestroyResource, may free, when the resource's
    image and memory were made in call `c`: the hooks only what was allocated in
    one of these two calls. -/
def destroyFrees (n c : Nat) (e : Event) (k : LiveAllocation) : Prop :=
  e.isResourceFree = true ∨ k.call = c ∨ k.call = n

/-- The hook calls DestroyResource lets happen. -/
def destroyHooks (env : DeviceEnv) (resource : VirtioWddmResource) : List HookCall :=
  (resource.image.toList.flatMap fun _ => env.vk.hooks .destroyImage) ++
    resource.memory.toList.flatMap fun _ => env.vk.hooks .freeMemory

/-- The free hook is called for an allocation while the resource's image and memory
    are released. -/
def HookFrees (env : DeviceEnv) (resource : VirtioWddmResource) (k : LiveAllocation) : Prop :=
  ∃ a hr, .free (some a) hr ∈ destroyHooks env resource ∧ a.hAllocation = k.hAllocation ∧
    succeeded hr = true

/-- The state in which DestroyResource has released all but the kernel's
    allocations. -/
def CallState.unbacked (s : CallState) (env : DeviceEnv) (resource : VirtioWddmResource) :
    CallState :=
  ((s.releaseIfSet resource.base.pResource fun s tex =>
    s.log [.releaseHostResource tex]).releaseIfSet resource.image fun s image =>
      s.vk env.vk .destroyImage (.destroyImage image)).releaseIfSet resource.memory fun s memory =>
        s.vk env.vk .freeMemory (.freeMemory memory)

theorem destroyed_eq (s : CallState) (env : DeviceEnv) (resource : VirtioWddmResource) :
    s.destroyed env resource =
      if resource.base.hKMAllocation ≠ 0 then
        (s.unbacked env resource).log
          [.deallocateCb (.resource resource.base.hRTResource) env.deallocateHr]
      else
        s.unbacked env resource := rfl

section Destroyed

variable {env : DeviceEnv} {resource : VirtioWddmResource} {s : CallState} {n c : Nat}
  {kernel : List LiveAllocation} {k : LiveAllocation}

theorem noResourceFree_releaseIfSet {α : Type} (s : CallState) (ptr : Option α)
    {release : CallState → α → CallState} (h : ∀ t a, NoResourceFree t (release t a)) :
    NoResourceFree s (s.releaseIfSet ptr release) := by
  cases ptr with
  | none => exact .refl s
  | some a => exact h s a

theorem unbacked_noResourceFree (s : CallState) (env : DeviceEnv)
    (resource : VirtioWddmResource) : NoResourceFree s (s.unbacked env resource) := by
  have hvk : ∀ (t : CallState) (site : VkSite) (e : Event), e.isResourceFree = false →
      NoResourceFree t (t.vk env.vk site e) := fun t site e he =>
    Grows.vk (fun _ h => isResourceFree_of_isVulkan (isVulkan_of_isHookTraffic h)) he
  refine ((noResourceFree_releaseIfSet s _ fun t tex => ?_).trans
    (noResourceFree_releaseIfSet _ _ fun t image => hvk t _ _ rfl)).trans
      (noResourceFree_releaseIfSet _ _ fun t memory => hvk t _ _ rfl)
  exact .log (List.forall_mem_singleton.mpr rfl)

/-- The frees by handle in DestroyResource are those of the hook calls. -/
theorem mem_unbacked (hs : s.trace = []) {e : Event} (he : e.isHandleFree = true) :
    e ∈ (s.unbacked env resource).trace ↔
      ∃ call ∈ destroyHooks env resource, e ∈ hookEvents s.runtimeAllocScope call := by
  have hrelease : ∀ tex, e ≠ .releaseHostResource tex := by rintro tex rfl; cases he
  have hdestroy : ∀ image, e ≠ .destroyImage image := by rintro image rfl; cases he
  have hfree : ∀ memory, e ≠ .freeMemory memory := by rintro memory rfl; cases he
  cases ht : resource.base.pResource <;> cases hi : resource.image <;>
    cases hm : resource.memory <;>
      simp [CallState.unbacked, CallState.releaseIfSet, CallState.vk, destroyHooks, ht, hi, hm, hs,
        hrelease, hdestroy, hfree, or_and_right, exists_or]

/-- A free by handle among the events of a hook call is one of the free hook. -/
theorem mem_hookEvents_handleFree {scope : RuntimeAllocScope} {call : HookCall} {e : Event}
    (he : e.isHandleFree = true) :
    e ∈ hookEvents scope call ↔
      ∃ a hr, call = .free (some a) hr ∧ a.hAllocation ≠ 0 ∧
        e = .deallocateCb (.allocation a.hAllocation) hr := by
  have hcb : ∀ args reply, e ≠ .allocateCb args reply := by rintro args reply rfl; cases he
  have halloc : ∀ req result, e ≠ .runtimeAlloc req result := by rintro req result rfl; cases he
  have hfree : ∀ alloc result, e ≠ .runtimeFree alloc result := by rintro alloc result rfl; cases he
  rcases call with ⟨_ | req, reply⟩ | ⟨_ | a, hr⟩
  · simp [hookEvents, halloc]
  · simp [hookEvents, hcb, halloc]
  · simp [hookEvents, hfree]
  · by_cases hzero : a.hAllocation = 0#32 <;> simp [hookEvents, hzero, hfree]

/-- What was made in other calls, and not under the resource's own handle, survives
    DestroyResource. -/
theorem destroyed_mem_live (hs : s.trace = [])
    (hfrees : (callLedger n).ReleasesOnly (destroyFrees n c) kernel
      (s.destroyed env resource).trace)
    (hk : k ∈ kernel) (hcall : k.call ≠ c ∧ k.call ≠ n)
    (hother : resource.base.hKMAllocation ≠ 0 → k.hResource ≠ resource.base.hRTResource) :
    k ∈ (s.destroyed env resource).live n kernel := by
  have hstart : k ∈ s.live n kernel := by
    unfold CallState.live
    rw [hs]
    exact hk
  have hnot : ∀ e, destroyFrees n c e k → e.isResourceFree = true :=
    fun e hpermit => hpermit.resolve_right fun hown => hown.elim hcall.1 hcall.2
  rw [destroyed_eq] at hfrees ⊢
  split at hfrees
  case isTrue hne =>
    rw [if_pos hne, live_log]
    rw [CallState.log_trace, Ledger.ReleasesOnly.append] at hfrees
    have hlive := (unbacked_noResourceFree s env resource).mem_live hfrees.1 hstart hnot
    refine (Ledger.mem_step _).mpr (.inl ⟨hlive, ?_⟩)
    simp [hother hne]
  case isFalse hzero =>
    rw [if_neg hzero]
    exact (unbacked_noResourceFree s env resource).mem_live hfrees hstart hnot

theorem call_of_acquires {e : Event} (h : (callLedger n).acquires e = some k) : k.call = n := by
  cases e with
  | allocateCb args reply =>
      simp only [callLedger_acquires] at h
      split at h
      · rw [← Option.some.inj h]
      · cases h
  | _ => cases h

/-- An allocation of an earlier call is gone after DestroyResource when it was made
    under the resource's own handle or a hook frees it. -/
theorem destroyed_not_mem_live (hs : s.trace = []) (hd : failed env.deallocateHr = false)
    (hcall : k.call ≠ n) (hne : resource.base.hKMAllocation ≠ 0) (hk0 : k.hAllocation ≠ 0)
    (hgone : k.hResource = resource.base.hRTResource ∨ HookFrees env resource k) :
    k ∉ (s.destroyed env resource).live n kernel := by
  have htrace : (s.destroyed env resource).trace = (s.unbacked env resource).trace ++
      [.deallocateCb (.resource resource.base.hRTResource) env.deallocateHr] := by
    rw [destroyed_eq, if_pos hne]
    rfl
  obtain ⟨e, he, hrel⟩ : ∃ e ∈ (s.destroyed env resource).trace,
      (callLedger n).releases e k = true := by
    rw [htrace]
    rcases hgone with hown | ⟨a, hr, hcall, hsame, hok⟩
    · exact ⟨_, List.mem_append_right _ List.mem_cons_self, by simp [succeeded, hd, hown]⟩
    · have hnz : a.hAllocation ≠ 0#32 := hsame ▸ hk0
      have hevent : Event.deallocateCb (.allocation a.hAllocation) hr ∈
          (s.unbacked env resource).trace :=
        (mem_unbacked hs rfl).mpr
          ⟨_, hcall, (mem_hookEvents_handleFree rfl).mpr ⟨a, hr, rfl, hnz, rfl⟩⟩
      exact ⟨_, List.mem_append_left _ hevent, by simp [hok, hsame]⟩
  intro hlive
  rcases (Ledger.mem_heldFrom _).mp hlive with ⟨-, hkeep⟩ | ⟨pre, e', post, -, hacq, -⟩
  · exact absurd (hrel.symm.trans (hkeep e he)) (by simp)
  · exact hcall (call_of_acquires hacq)

/-- What DestroyResource frees was made under the resource's own handle, or a hook
    frees it. -/
theorem freed_of_destroyed (hs : s.trace = []) (hk : k ∈ kernel)
    (hgone : k ∉ (s.destroyed env resource).live n kernel) :
    k.hResource = resource.base.hRTResource ∨ HookFrees env resource k := by
  obtain ⟨e, he, hrel⟩ : ∃ e ∈ (s.destroyed env resource).trace,
      (callLedger n).releases e k = true := by
    by_contra hno
    refine hgone ((Ledger.mem_heldFrom _).mpr (.inl ⟨hk, fun e he => ?_⟩))
    by_contra hrel
    exact hno ⟨e, he, by simpa using hrel⟩
  have hevent : e ∈ (s.unbacked env resource).trace ∨
      e = .deallocateCb (.resource resource.base.hRTResource) env.deallocateHr := by
    rw [destroyed_eq] at he
    split at he
    · simpa using he
    · exact .inl he
  rcases hevent with hmem | rfl
  · have hhandle : e.isHandleFree = true := by
      obtain ⟨evs, htrace, hevs⟩ := unbacked_noResourceFree s env resource
      rw [htrace, hs] at hmem
      have hno := hevs e hmem
      cases e with
      | deallocateCb target hr =>
          cases target with
          | resource hResource => cases hno
          | allocation hAllocation => rfl
      | _ => cases hrel
    obtain ⟨call, hcall, hin⟩ := (mem_unbacked hs hhandle).mp hmem
    obtain ⟨a, hr, rfl, -, rfl⟩ := (mem_hookEvents_handleFree hhandle).mp hin
    obtain ⟨hok, hsame⟩ : succeeded hr = true ∧ k.hAllocation = a.hAllocation := by
      simpa using hrel
    exact .inr ⟨a, hr, hcall, hsame.symm, hok⟩
  · refine .inl ?_
    obtain ⟨-, hsame⟩ : succeeded env.deallocateHr = true ∧
        k.hResource = resource.base.hRTResource := by simpa using hrel
    exact hsame

end Destroyed

end VirtioWddm
