/-
  VirtioWddm.Dxgi.Lifetime

  Kernel allocations over whole runs of CreateResource, RotateResourceIdentities and
  DestroyResource.

  A rotation moves the allocation a resource names but not the runtime handle it is
  freed under.  A resource names a live allocation in every run in which each
  DestroyResource finds the allocation made under the resource's own handle, and no
  other resource's allocation made under it (`Retires`); a run that rotates two
  present buffers and destroys one of them shows what happens otherwise.
-/

import VirtioWddm.Dxgi.Rotate
import VirtioWddm.Resource.Lifetime

namespace VirtioWddm

open Lib

-- ============================================================================
-- The system
-- ============================================================================

/-- The driver's memory, the resources the runtime may still destroy, the call that
    made the allocation each of them names, the number of calls so far, and the
    kernel's live allocations. -/
structure AllocationWorld where
  heap : Heap
  alive : ResourceAddr → Prop
  madeBy : ResourceAddr → Nat
  calls : Nat
  kernel : List LiveAllocation

namespace AllocationWorld

variable (w : AllocationWorld)

/-- The allocation resource `r` names in `hKMAllocation`. -/
def Names (r : ResourceAddr) (k : LiveAllocation) : Prop :=
  (w.heap.resources r).base.hKMAllocation ≠ 0 ∧ k.call = w.madeBy r ∧
    k.hAllocation = (w.heap.resources r).base.hKMAllocation

/-- After CreateResource on `slot`; a call that reported an error may leave the
    runtime without the resource (`kept = false`). -/
def created (slot : ResourceAddr) (r : VirtioWddmResource) (kept : Bool) (s : CallState) :
    AllocationWorld where
  heap := w.heap.setResource slot r
  alive := fun r' => if r' = slot then kept = true else w.alive r'
  madeBy := Function.update w.madeBy slot w.calls
  calls := w.calls + 1
  kernel := s.live w.calls w.kernel

/-- After a rotation of `slots`: what made an allocation moves with it. -/
def rotated (slots : List ResourceAddr) (heap : Heap) : AllocationWorld :=
  { w with heap := heap, madeBy := shift (Split.whole Nat).take slots w.madeBy }

/-- After DestroyResource on `slot`. -/
def destroyed (slot : ResourceAddr) (r : VirtioWddmResource) (s : CallState) :
    AllocationWorld where
  heap := w.heap.setResource slot r
  alive := fun r' => r' ≠ slot ∧ w.alive r'
  madeBy := w.madeBy
  calls := w.calls + 1
  kernel := s.live w.calls w.kernel

end AllocationWorld

/-- A call of the runtime. -/
inductive LifetimeCall where
  | createResource (env : DeviceEnv) (pArgs : CreateResourceArgs) (hRTResource : HANDLE)
      (slot : ResourceAddr)
  | rotateResourceIdentities (slots : List ResourceAddr)
  | destroyResource (env : DeviceEnv) (slot : ResourceAddr)

/-- One call, on whatever the thread-local slots hold.  The hooks free only what they
    allocated in the same call or, in DestroyResource, what was allocated in the call
    that made the resource's memory. -/
inductive LifetimeStep (w : AllocationWorld) : LifetimeCall → AllocationWorld → Prop where
  | createResource (env : DeviceEnv) (pArgs : CreateResourceArgs) (hRTResource : HANDLE)
      (slot : ResourceAddr) (hfree : ¬w.alive slot) (hok : FreeingCallbacksSucceed env)
      (record : RuntimeAllocRecord) (scope : RuntimeAllocScope) (s' : CallState)
      (r : VirtioWddmResource)
      (hrun : Runs (virtioWddmCreateResource env pArgs hRTResource)
        { lastRuntimeAlloc := record, runtimeAllocScope := scope } r s')
      (hfrees : (callLedger w.calls).ReleasesOnly (createFrees w.calls) w.kernel s'.trace)
      (kept : Bool) (hkept : kept = false → ∃ hr, .setError hr ∈ s'.trace) :
      LifetimeStep w (.createResource env pArgs hRTResource slot) (w.created slot r kept s')
  | rotateResourceIdentities (d3d11 : Bool) (host : Nat → HostViewReply) (fuel : Nat)
      (slots : List ResourceAddr) (hdistinct : slots.Nodup) (halive : ∀ r ∈ slots, w.alive r)
      (res : RotateResult)
      (hrun : virtioWddmRotateResourceIdentities d3d11 host fuel slots w.heap = some res) :
      LifetimeStep w (.rotateResourceIdentities slots) (w.rotated slots res.heap)
  | destroyResource (env : DeviceEnv) (slot : ResourceAddr) (halive : w.alive slot)
      (hok : FreeingCallbacksSucceed env) (record : RuntimeAllocRecord)
      (scope : RuntimeAllocScope) (s' : CallState) (r : VirtioWddmResource)
      (hrun : Runs (virtioWddmDestroyResource env (w.heap.resources slot))
        { lastRuntimeAlloc := record, runtimeAllocScope := scope } r s')
      (hfrees : (callLedger w.calls).ReleasesOnly (destroyFrees w.calls (w.madeBy slot)) w.kernel
        s'.trace) :
      LifetimeStep w (.destroyResource env slot) (w.destroyed slot r s')

/-- Before the first call. -/
def AllocationWorld.Initial (w : AllocationWorld) : Prop :=
  (∀ r, ¬w.alive r) ∧ w.kernel = []

-- ============================================================================
-- The condition
-- ============================================================================

/-- DestroyResource on `slot` frees what it should and nothing else: the allocation
    `slot` names was made under its own handle, or the free hook frees it with the
    memory; and no other living resource names an allocation made under that
    handle. -/
structure AllocationWorld.Retires (w : AllocationWorld) (env : DeviceEnv) (slot : ResourceAddr) :
    Prop where
  own : ∀ k ∈ w.kernel, w.Names slot k →
    k.hResource = (w.heap.resources slot).base.hRTResource ∨
      HookFrees env (w.heap.resources slot) k
  others : (w.heap.resources slot).base.hKMAllocation ≠ 0 →
    ∀ r, w.alive r → r ≠ slot → ∀ k ∈ w.kernel, w.Names r k →
      k.hResource ≠ (w.heap.resources slot).base.hRTResource

/-- The condition on a call; only DestroyResource has one. -/
def LifetimeCall.Retires (w : AllocationWorld) : LifetimeCall → Prop
  | .destroyResource env slot => w.Retires env slot
  | _ => True

-- ============================================================================
-- The invariant
-- ============================================================================

/-- Every living resource names a live allocation or none, and no two of them name
    what the same call made. -/
structure AllocationsNamed (w : AllocationWorld) : Prop where
  named : ∀ r, w.alive r → (w.heap.resources r).base.hKMAllocation ≠ 0 →
    ∃ k ∈ w.kernel, w.Names r k
  distinct : ∀ r r', w.alive r → w.alive r' → w.madeBy r = w.madeBy r' → r = r'
  past : ∀ r, w.alive r → w.madeBy r < w.calls

namespace AllocationsNamed

variable {w : AllocationWorld}

/-- A new resource names what its own call made. -/
theorem created (h : AllocationsNamed w) {env : DeviceEnv} {pArgs : CreateResourceArgs}
    {hRTResource : HANDLE} {slot : ResourceAddr} (hq : failed env.resourceInfo.hr = false)
    {s s' : CallState} (hs : s.trace = []) {r : VirtioWddmResource}
    (hrun : CreateRun env pArgs hRTResource s r s')
    (hfrees : (callLedger w.calls).ReleasesOnly (createFrees w.calls) w.kernel s'.trace)
    (kept : Bool) : AllocationsNamed (w.created slot r kept s') := by
  have hself : (w.created slot r kept s').madeBy slot = w.calls := Function.update_self ..
  have hother : ∀ {r'}, r' ≠ slot → (w.created slot r kept s').madeBy r' = w.madeBy r' :=
    fun hne => Function.update_of_ne hne ..
  have halive : ∀ {r'}, r' ≠ slot → (w.created slot r kept s').alive r' → w.alive r' := by
    intro r' hne hr'
    simpa [AllocationWorld.created, hne] using hr'
  refine ⟨fun r' hr' hne0 => ?_, fun r₁ r₂ h₁ h₂ heq => ?_, fun r' hr' => ?_⟩
  · by_cases hslot : r' = slot
    · subst hslot
      have hblock : (w.created r' r kept s').heap.resources r' = r := Function.update_self ..
      rw [hblock] at hne0
      obtain ⟨k, hk, hcall, hhandle⟩ := hrun.names_live hs hq hfrees hne0
      refine ⟨k, hk, ?_⟩
      unfold AllocationWorld.Names
      rw [hblock, hself]
      exact ⟨hne0, hcall, hhandle⟩
    · have hblock : (w.created slot r kept s').heap.resources r' = w.heap.resources r' :=
        Function.update_of_ne hslot ..
      rw [hblock] at hne0
      obtain ⟨k, hk, hname⟩ := h.named r' (halive hslot hr') hne0
      have hpast := h.past r' (halive hslot hr')
      refine ⟨k, hrun.mem_live hs hq hfrees hk (by rw [hname.2.1]; omega), ?_⟩
      unfold AllocationWorld.Names
      rw [hblock, hother hslot]
      exact hname
  · by_cases hslot₁ : r₁ = slot <;> by_cases hslot₂ : r₂ = slot
    · rw [hslot₁, hslot₂]
    · have hpast := h.past r₂ (halive hslot₂ h₂)
      rw [hslot₁, hself, hother hslot₂] at heq
      omega
    · have hpast := h.past r₁ (halive hslot₁ h₁)
      rw [hslot₂, hself, hother hslot₁] at heq
      omega
    · rw [hother hslot₁, hother hslot₂] at heq
      exact h.distinct r₁ r₂ (halive hslot₁ h₁) (halive hslot₂ h₂) heq
  · show (w.created slot r kept s').madeBy r' < w.calls + 1
    by_cases hslot : r' = slot
    · rw [hslot, hself]
      omega
    · rw [hother hslot]
      exact Nat.lt_succ_of_lt (h.past r' (halive hslot hr'))

/-- A rotation permutes what living resources name. -/
theorem rotated (h : AllocationsNamed w) {d3d11 : Bool} {host : Nat → HostViewReply} {fuel : Nat}
    {slots : List ResourceAddr} (hdistinct : slots.Nodup) (halive : ∀ r ∈ slots, w.alive r)
    {res : RotateResult}
    (hrun : virtioWddmRotateResourceIdentities d3d11 host fuel slots w.heap = some res) :
    AllocationsNamed (w.rotated slots res.heap) := by
  have hblock : ∀ r, (w.rotated slots res.heap).heap.resources r =
      takeIdentity (w.heap.resources r) (w.heap.resources (slots.formPerm r)) :=
    rotate_formPerm hdistinct hrun
  have hmade : ∀ r, (w.rotated slots res.heap).madeBy r = w.madeBy (slots.formPerm r) :=
    (Split.whole Nat).shift_eq_formPerm hdistinct w.madeBy
  have hnext : ∀ r, w.alive r → w.alive (slots.formPerm r) := fun r =>
    (Split.formPerm_iff halive r).mpr
  refine ⟨fun r hr hne => ?_, fun r r' hr hr' heq => ?_, fun r hr => ?_⟩
  · rw [hblock] at hne
    obtain ⟨k, hk, hname⟩ := h.named _ (hnext r hr) hne
    refine ⟨k, hk, ?_⟩
    unfold AllocationWorld.Names
    rw [hblock, hmade]
    exact hname
  · rw [hmade, hmade] at heq
    exact slots.formPerm.injective (h.distinct _ _ (hnext r hr) (hnext r' hr') heq)
  · rw [hmade]
    exact h.past _ (hnext r hr)

/-- DestroyResource that retires its resource leaves the allocations of the others
    alone. -/
theorem destroyed (h : AllocationsNamed w) {env : DeviceEnv} {slot : ResourceAddr}
    (halive : w.alive slot) (hretires : w.Retires env slot) {s : CallState} (hs : s.trace = [])
    (hfrees : (callLedger w.calls).ReleasesOnly (destroyFrees w.calls (w.madeBy slot)) w.kernel
      (s.destroyed env (w.heap.resources slot)).trace) (r : VirtioWddmResource) :
    AllocationsNamed (w.destroyed slot r (s.destroyed env (w.heap.resources slot))) := by
  refine ⟨fun r' hr' hne0 => ?_, fun r₁ r₂ h₁ h₂ => h.distinct r₁ r₂ h₁.2 h₂.2,
    fun r' hr' => Nat.lt_succ_of_lt (h.past r' hr'.2)⟩
  have hblock : (w.heap.setResource slot r).resources r' = w.heap.resources r' :=
    Function.update_of_ne hr'.1 ..
  change ((w.heap.setResource slot r).resources r').base.hKMAllocation ≠ 0 at hne0
  rw [hblock] at hne0
  obtain ⟨k, hk, hname⟩ := h.named r' hr'.2 hne0
  have hpast := h.past r' hr'.2
  have hcall : k.call ≠ w.madeBy slot ∧ k.call ≠ w.calls := by
    rw [hname.2.1]
    exact ⟨fun heq => hr'.1 (h.distinct r' slot hr'.2 halive heq), by omega⟩
  refine ⟨k, destroyed_mem_live hs hfrees hk hcall fun hne =>
    hretires.others hne r' hr'.2 hr'.1 k hk hname, ?_⟩
  show ((w.heap.setResource slot r).resources r').base.hKMAllocation ≠ 0 ∧ _ ∧
    _ = ((w.heap.setResource slot r).resources r').base.hKMAllocation
  rw [hblock]
  exact hname

/-- Every call that meets the condition keeps the invariant. -/
theorem step (h : AllocationsNamed w) {call : LifetimeCall} {w' : AllocationWorld}
    (hstep : LifetimeStep w call w') (hretires : call.Retires w) : AllocationsNamed w' := by
  cases hstep with
  | createResource env pArgs hRTResource slot hfree hok record scope s' r hrun hfrees kept hkept =>
      exact h.created hok.query rfl (runs_virtioWddmCreateResource hrun) hfrees kept
  | rotateResourceIdentities d3d11 host fuel slots hdistinct halive res hrun =>
      exact h.rotated hdistinct halive hrun
  | destroyResource env slot halive hok record scope s' r hrun hfrees =>
      obtain ⟨-, rfl⟩ := runs_virtioWddmDestroyResource.mp hrun
      exact h.destroyed halive hretires rfl hfrees r

end AllocationsNamed

-- ============================================================================
-- Every run
-- ============================================================================

/-- A call that meets the condition. -/
def RetiringStep (w w' : AllocationWorld) : Prop :=
  ∃ call, LifetimeStep w call w' ∧ call.Retires w

theorem AllocationsNamed.of_reach {w : AllocationWorld}
    (h : Reach AllocationWorld.Initial RetiringStep w) : AllocationsNamed w := by
  refine Reach.invariant AllocationsNamed ?_ ?_ h
  · intro w hw
    exact ⟨fun r hr => absurd hr (hw.1 r), fun r _ hr => absurd hr (hw.1 r),
      fun r hr => absurd hr (hw.1 r)⟩
  · rintro w w' hw ⟨call, hstep, hretires⟩
    exact hw.step hstep hretires

/-- A living resource that names an allocation names a live one. -/
def AllocationWorld.NoneDangling (w : AllocationWorld) : Prop :=
  ∀ r, w.alive r → (w.heap.resources r).base.hKMAllocation ≠ 0 → ∃ k ∈ w.kernel, w.Names r k

/-- The allocation `slot` named before a call is gone after it. -/
def AllocationWorld.Freed (w w' : AllocationWorld) (slot : ResourceAddr) : Prop :=
  ∀ k ∈ w.kernel, w.Names slot k → k ∉ w'.kernel

/-- No two live allocations of one call have the same handle. -/
def AllocationWorld.HandlesDistinct (w : AllocationWorld) : Prop :=
  ∀ k ∈ w.kernel, ∀ k' ∈ w.kernel, k.call = k'.call → k.hAllocation = k'.hAllocation → k = k'

/-- A destruction that retires its resource frees what the resource named. -/
theorem AllocationsNamed.freed {w w' : AllocationWorld} (h : AllocationsNamed w) {env : DeviceEnv}
    {slot : ResourceAddr} (hstep : LifetimeStep w (.destroyResource env slot) w')
    (hretires : w.Retires env slot) : w.Freed w' slot := by
  intro k hk hname
  cases hstep with
  | destroyResource env slot halive hok record scope s' r hrun hfrees =>
      obtain ⟨-, rfl⟩ := runs_virtioWddmDestroyResource.mp hrun
      have hpast := h.past slot halive
      have hcall : k.call ≠ w.calls := by
        rw [hname.2.1]
        omega
      have hk0 : k.hAllocation ≠ 0 := hname.2.2 ▸ hname.1
      exact destroyed_not_mem_live rfl hok.deallocate hcall hname.1 hk0 (hretires.own k hk hname)

/-- A destruction that frees what its resource named and leaves nothing dangling has
    met the condition. -/
theorem AllocationsNamed.retires {w w' : AllocationWorld} (h : AllocationsNamed w)
    (hdistinct : w.HandlesDistinct) {env : DeviceEnv} {slot : ResourceAddr}
    (hstep : LifetimeStep w (.destroyResource env slot) w') (hsafe : w'.NoneDangling)
    (hfreed : w.Freed w' slot) : w.Retires env slot := by
  cases hstep with
  | destroyResource env slot halive hok record scope s' r hrun hfrees =>
      obtain ⟨-, rfl⟩ := runs_virtioWddmDestroyResource.mp hrun
      refine ⟨fun k hk hname => freed_of_destroyed rfl hk (hfreed k hk hname),
        fun hne r' hr' hslot k hk hname hsame => ?_⟩
      have hblock : (w.heap.setResource slot r).resources r' = w.heap.resources r' :=
        Function.update_of_ne hslot ..
      have hne0 : ((w.heap.setResource slot r).resources r').base.hKMAllocation ≠ 0 := by
        rw [hblock]
        exact hname.1
      obtain ⟨k', hk', -, hcall', hhandle'⟩ := hsafe r' ⟨hslot, hr'⟩ hne0
      have hhandle' : k'.hAllocation = (w.heap.resources r').base.hKMAllocation := by
        rw [hhandle']
        exact congrArg (fun b => b.base.hKMAllocation) hblock
      have hpast := h.past r' hr'
      have hcall : k'.call ≠ w.calls := by
        rw [hcall']
        exact Nat.ne_of_lt hpast
      -- what is alive now and was not made in this call was alive before
      have hold : k' ∈ w.kernel := by
        rcases (Ledger.mem_heldFrom _).mp hk' with ⟨hmem, -⟩ | ⟨pre, e, post, -, hacq, -⟩
        · exact hmem
        · exact absurd (call_of_acquires hacq) hcall
      obtain rfl := hdistinct k' hold k hk (hcall'.trans hname.2.1.symm)
        (hhandle'.trans hname.2.2.symm)
      exact destroyed_not_mem_live rfl hok.deallocate hcall hne (hname.2.2 ▸ hname.1)
        (.inl hsame) hk'

/-- In every run of creations, rotations and destructions in which each destruction
    retires its resource, nothing dangles, and a destruction frees what its resource
    named.  The condition asks for no more than that: where handles are distinct, a
    destruction after which both hold has met it. -/
theorem allocation_lifetime {w : AllocationWorld}
    (h : Reach AllocationWorld.Initial RetiringStep w) :
    w.NoneDangling ∧
    ∀ env slot w', LifetimeStep w (.destroyResource env slot) w' →
      (w.Retires env slot → w.Freed w' slot) ∧
      (w.HandlesDistinct → w'.NoneDangling → w.Freed w' slot → w.Retires env slot) := by
  have hnamed := AllocationsNamed.of_reach h
  exact ⟨hnamed.named, fun env slot w' hstep =>
    ⟨hnamed.freed hstep, fun hdistinct hsafe hfreed => hnamed.retires hdistinct hstep hsafe hfreed⟩⟩

/-- A present buffer the 3D path accepts. -/
def presentBuffer : CreateResourceArgs :=
  { presentArgs with pMipInfoList := some { texelWidth := 64, texelHeight := 64, texelDepth := 1 } }

/-- A device on which every call succeeds and `pfnAllocateCb` returns
    `hAllocation`. -/
def presentEnv (hAllocation : D3DKMT_HANDLE) : DeviceEnv :=
  { DeviceEnv.allOk false
      (.alloc3d
        { alloc := allocate3dPriv (createdDesc presentBuffer 0)
          modifier := 0
          offsets := Vector.replicate 4 0
          strides := Vector.replicate 4 0
          sizes := Vector.replicate 4 0
          numPlanes := 1 })
      [] with
    allocate := { hAllocation := hAllocation } }

/-- Before the first call, with cleared memory. -/
def emptyWorld : AllocationWorld :=
  { heap := { resources := fun _ => {}, views := (sampleHeap 0).views }
    alive := fun _ => False
    madeBy := fun _ => 0
    calls := 0
    kernel := [] }

/-- What CreateResource leaves for such a buffer under `hRTResource`. -/
def presentCreated (hAllocation : D3DKMT_HANDLE) (hRTResource : HANDLE) :
    VirtioWddmResource × CallState :=
  (virtioWddmCreateResource (presentEnv hAllocation) presentBuffer hRTResource {}).toOption.getD
    ({}, {})

/-- Two buffers created under the handles `5` and `6`. -/
def twoBuffers : AllocationWorld :=
  (emptyWorld.created 1 (presentCreated 0x21 5).1 true (presentCreated 0x21 5).2).created 2
    (presentCreated 0x41 6).1 true (presentCreated 0x41 6).2

/-- The same buffers after one rotation. -/
def rotatedBuffers : AllocationWorld :=
  twoBuffers.rotated [1, 2]
    { twoBuffers.heap with resources := shift takeIdentity [1, 2] twoBuffers.heap.resources }

theorem rotatedBuffers_reach : Reach AllocationWorld.Initial RetiringStep rotatedBuffers := by
  have hA : Runs (virtioWddmCreateResource (presentEnv 0x21) presentBuffer 5) {}
      (presentCreated 0x21 5).1 (presentCreated 0x21 5).2 := rfl
  have hB : Runs (virtioWddmCreateResource (presentEnv 0x41) presentBuffer 6) {}
      (presentCreated 0x41 6).1 (presentCreated 0x41 6).2 := rfl
  have hok : ∀ h, FreeingCallbacksSucceed (presentEnv h) := fun h =>
    ⟨failed_S_OK, failed_S_OK⟩
  have h₀ : Reach AllocationWorld.Initial RetiringStep emptyWorld := .init ⟨fun _ => id, rfl⟩
  have h₁ := h₀.step ⟨_, .createResource _ _ _ 1 id (hok _) _ _ _ _ hA
    (releasesOnly_of_all rfl fun _ _ => .inl) true (by simp), trivial⟩
  have h₂ := h₁.step ⟨_, .createResource _ _ _ 2 (by simp [AllocationWorld.created, emptyWorld])
    (hok _) _ _ _ _ hB (releasesOnly_of_all rfl fun _ _ => .inl) true (by simp), trivial⟩
  have h₃ := h₂.step ⟨_, .rotateResourceIdentities true (fun n => .ok n) 1 [1, 2] (by decide)
    (by simp [AllocationWorld.created]) _ rfl, trivial⟩
  exact h₃

theorem rotatedBuffers_alive : ∀ r ∈ [1, 2], rotatedBuffers.alive r := by
  simp [rotatedBuffers, twoBuffers, AllocationWorld.rotated, AllocationWorld.created]

/-- The same buffers after a second rotation, which brings the identities home. -/
def homeBuffers : AllocationWorld :=
  rotatedBuffers.rotated [1, 2]
    { rotatedBuffers.heap with
      resources := shift takeIdentity [1, 2] rotatedBuffers.heap.resources }

theorem homeBuffers_reach : Reach AllocationWorld.Initial RetiringStep homeBuffers := by
  have h := rotatedBuffers_reach.step ⟨_, .rotateResourceIdentities true (fun n => .ok n) 1 [1, 2]
    (by decide) rotatedBuffers_alive _ rfl, trivial⟩
  exact h

theorem homeBuffers_retires : homeBuffers.Retires (presentEnv 0) 1 := by
  have hkernel : homeBuffers.kernel = [⟨0x21, 5, 0, false⟩, ⟨0x41, 6, 1, false⟩] := rfl
  have hnamed := AllocationsNamed.of_reach homeBuffers_reach
  refine ⟨fun k hk hname => .inl ?_, fun _ r hr hne k hk hname => ?_⟩ <;>
    rw [hkernel] at hk <;> rcases List.mem_pair.mp hk with rfl | rfl
  · rfl
  · exact absurd hname.2.1 (by decide)
  · -- the call that made it is that of the first buffer
    exact absurd (hnamed.distinct r 1 hr (rotatedBuffers_alive 1 (by simp)) hname.2.1.symm) hne
  · exact (by decide : (6 : HANDLE) ≠ 5)

/-- Of the buffers at home the first is destroyed: its own allocation goes, the one
    of the second stays. -/
theorem allocation_lifetime_home :
    ∃ w', LifetimeStep homeBuffers (.destroyResource (presentEnv 0) 1) w' ∧
      (∃ k ∈ homeBuffers.kernel, homeBuffers.Names 1 k ∧ k ∉ w'.kernel) ∧
      w'.alive 2 ∧ ∃ k ∈ w'.kernel, w'.Names 2 k := by
  have hdestroy := LifetimeStep.destroyResource (w := homeBuffers) (presentEnv 0) 1
    (rotatedBuffers_alive 1 (by simp)) ⟨failed_S_OK, failed_S_OK⟩ {} {} _ _ rfl
    (releasesOnly_of_all rfl fun _ _ => .inl)
  have hreach := homeBuffers_reach.step ⟨_, hdestroy, homeBuffers_retires⟩
  have halive : homeBuffers.alive 2 := rotatedBuffers_alive 2 (by simp)
  have hname : homeBuffers.Names 1 ⟨0x21, 5, 0, false⟩ := ⟨by decide, rfl, rfl⟩
  refine ⟨_, hdestroy, ⟨_, List.mem_cons_self, hname, ?_⟩, ⟨by decide, halive⟩, ?_⟩
  · exact ((allocation_lifetime homeBuffers_reach).2 _ 1 _ hdestroy).1 homeBuffers_retires _
      List.mem_cons_self hname
  · exact (allocation_lifetime hreach).1 2 ⟨by decide, halive⟩ (by decide)

/-- After one rotation, destroying the first buffer frees the allocation the second
    names, and not the one the first named. -/
theorem rotatedBuffers_freed :
    Reach AllocationWorld.Initial RetiringStep rotatedBuffers ∧
      ∃ w', LifetimeStep rotatedBuffers (.destroyResource (presentEnv 0) 1) w' ∧ w'.alive 2 ∧
        (w'.heap.resources 2).base.hKMAllocation = 0x21 ∧ (∀ k ∈ w'.kernel, ¬w'.Names 2 k) ∧
        ¬rotatedBuffers.Freed w' 1 := by
  have hdestroy := LifetimeStep.destroyResource (w := rotatedBuffers) (presentEnv 0) 1
    (rotatedBuffers_alive 1 (by simp)) ⟨failed_S_OK, failed_S_OK⟩ {} {} _ _ rfl
    (releasesOnly_of_all rfl fun _ _ => .inl)
  refine ⟨rotatedBuffers_reach, _, hdestroy, ⟨by decide, rotatedBuffers_alive 2 (by simp)⟩, rfl,
    fun k hk hname => ?_, fun hfreed => ?_⟩
  · change k ∈ [(⟨0x41, 6, 1, false⟩ : LiveAllocation)] at hk
    rw [List.mem_singleton.mp hk] at hname
    exact absurd hname.2.1 (by decide)
  · have hold : (⟨0x41, 6, 1, false⟩ : LiveAllocation) ∈ rotatedBuffers.kernel :=
      List.mem_cons_of_mem _ List.mem_cons_self
    exact hfreed _ hold ⟨by decide, rfl, rfl⟩ List.mem_cons_self

end VirtioWddm
