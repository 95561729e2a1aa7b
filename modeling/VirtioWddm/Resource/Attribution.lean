/-
  VirtioWddm.Resource.Attribution

  Which kernel allocation CreateResource adopts.

  The hooks may run any number of times, for any resource, inside any Vulkan call
  of `create_shared_vk_image`.  Between two states of a call `HookFrame` keeps the
  record backed and the scope in place; the blob path starts from a cleared
  record, so the record it checks afterwards is one of its own.
-/

import VirtioWddm.Resource.Exits

namespace VirtioWddm

open Lib

-- ============================================================================
-- The frame
-- ============================================================================

/-- The events of the hooks themselves. -/
def Event.isHook : Event → Bool
  | .runtimeAlloc _ _ => true
  | .runtimeFree _ _ => true
  | _ => false

theorem isHook_of_isTail {e : Event} (h : e.isTail = true) : e.isHook = false := by
  cases e <;> first
    | rfl
    | cases h

/-- Only hook events reach the hook ledger. -/
theorem hookLedger_neutral {e : Event} (h : e.isHook = false) : hookLedger.Neutral e := by
  cases e <;> first
    | exact ⟨rfl, fun _ => rfl⟩
    | simp [Event.isHook] at h

/-- What a part of a call leaves intact for the hooks: the scope, and a backed
    record. -/
structure HookFrame (s s' : CallState) : Prop where
  scope : s'.runtimeAllocScope = s.runtimeAllocScope
  backed : RecordBacked s.lastRuntimeAlloc s.trace → RecordBacked s'.lastRuntimeAlloc s'.trace

theorem HookFrame.refl (s : CallState) : HookFrame s s := ⟨rfl, id⟩

theorem HookFrame.trans {s t u : CallState} (h₁ : HookFrame s t) (h₂ : HookFrame t u) :
    HookFrame s u :=
  ⟨h₂.scope.trans h₁.scope, h₂.backed ∘ h₁.backed⟩

theorem HookFrame.log {s : CallState} {evs : List Event} (h : ∀ e ∈ evs, e.isHook = false) :
    HookFrame s (s.log evs) where
  scope := rfl
  backed hb hne := by
    rw [CallState.log_trace, Ledger.held_append,
      Ledger.heldFrom_neutral _ fun e he => hookLedger_neutral (h e he)]
    exact hb hne

theorem HookFrame.hooks (s : CallState) (cs : List HookCall) : HookFrame s (s.hooks cs) :=
  ⟨rfl, RecordBacked.hooks⟩

/-- Whatever the hooks do inside `create_shared_vk_image`. -/
theorem SharedImageRun.hookFrame {env : VkEnv} {info : VkImageCreateInfo}
    {allocNext : AllocNext} {wantAlloc : Bool} {s s' : CallState} {r : SharedImage}
    (h : SharedImageRun env info allocNext wantAlloc s r s') : HookFrame s s' := by
  refine h.preserves (fun t cs ht => ht.trans (.hooks t cs)) ?_ (.refl s)
  intro t e _ hno ht
  have hhook : e.isHook = false := by
    cases e <;> first
      | rfl
      | cases hno
  exact ht.trans (.log (List.forall_mem_singleton.mpr hhook))

-- ============================================================================
-- What follows the image
-- ============================================================================

theorem QuietRun.hookFrame {resource r : VirtioWddmResource} {s s' : CallState}
    (h : QuietRun resource r s s') : HookFrame s s' := by
  obtain ⟨evs, rfl, hevs⟩ := h.events
  exact .log fun e he => isHook_of_isTail (hevs e he)

-- ============================================================================
-- The three paths
-- ============================================================================

theorem Shared3dRun.hookFrame {env : DeviceEnv} {desc : Texture2DDesc1}
    {primaryDesc : Option PrimaryDesc} {hRTResource : HANDLE} {s s' : CallState}
    {r : Shared3dResource} (h : Shared3dRun env desc primaryDesc hRTResource s r s') :
    HookFrame s s' := by
  have halloc : HookFrame s (s.allocated3d env desc primaryDesc hRTResource) :=
    .log (by simp [Event.isHook])
  have hquery : HookFrame s (s.queried3d env desc primaryDesc hRTResource) :=
    halloc.trans (.log (by simp [Event.isHook]))
  cases h with
  | unsupported => exact .refl s
  | allocateFailed => exact halloc
  | queryFailed => exact hquery.trans (.log (by simp [Event.isHook]))
  | cleanupFailed => exact hquery.trans (.log (by simp [Event.isHook]))
  | allocated => exact hquery.trans (.log fun e he => isHook_of_isTail (residentEvents_isTail he))

theorem Present3dRun.hookFrame {env : DeviceEnv} {primaryDesc : Option PrimaryDesc}
    {desc : Texture2DDesc1} {hRTResource : HANDLE} {resource r : VirtioWddmResource}
    {data : Option (List SubresourceData)} {s s' : CallState}
    (h : Present3dRun env primaryDesc desc hRTResource resource data s r s') : HookFrame s s' := by
  cases h with
  | notAllocated shared s₁ hsh hf => exact hsh.hookFrame.trans (.log (by simp [Event.isHook]))
  | imageFailed shared s₁ hsh hok info hinfo planes hplanes img s₂ himg hf =>
      exact (hsh.hookFrame.trans himg.hookFrame).trans (.log (by simp [Event.isHook]))
  | imported shared s₁ hsh hok info hinfo planes hplanes img s₂ himg himgok r s' himp =>
      exact (hsh.hookFrame.trans himg.hookFrame).trans himp.quiet.hookFrame

theorem PlainRun.hookFrame {env : DeviceEnv} {pArgs : CreateResourceArgs}
    {desc : Texture2DDesc1} {resource r : VirtioWddmResource}
    {data : Option (List SubresourceData)} {s s' : CallState}
    (h : PlainRun env pArgs desc resource data s r s') : HookFrame s s' := by
  cases h with
  | unsupported => exact .log (by simp [Event.isHook])
  | failed => exact .log (by simp [Event.isHook])
  | created => exact .log (by cases data <;> simp [Event.isHook])

/-- An invariant of `create_shared_vk_image`, of what follows it and of the trace
    alone is one of the blob path. -/
theorem BlobRun.preserves {I : CallState → Prop} {env : DeviceEnv} {pArgs : CreateResourceArgs}
    {isPrimary linearPresent : Bool} {desc : Texture2DDesc1} {hRTResource : HANDLE}
    {resource r : VirtioWddmResource} {data : Option (List SubresourceData)} {s s' : CallState}
    (h : BlobRun env pArgs isPrimary linearPresent desc hRTResource resource data s r s')
    (himage : ∀ {info next wantAlloc t img t'},
      SharedImageRun env.vk info next wantAlloc t img t' → I t → I t')
    (htail : ∀ t evs, (∀ e ∈ evs, e.isTail = true) → I t → I (t.log evs))
    (htrace : ∀ t t', t'.trace = t.trace → I t → I t') (hs : I s) : I s' := by
  have hscoped : ∀ {img s₁}, SharedImageRun env.vk (blobImageInfo linearPresent desc)
      (.createResource hRTResource) false
      (s.enterScope (blobScope pArgs isPrimary hRTResource)) img s₁ →
      I (s₁.leaveScope s.runtimeAllocScope) := by
    intro img s₁ himg
    have hin : I (s.enterScope (blobScope pArgs isPrimary hRTResource)) := htrace s _ rfl hs
    exact htrace s₁ _ rfl (himage himg hin)
  cases h with
  | guarded => exact htail _ _ (List.forall_mem_singleton.mpr rfl) hs
  | imageFailed hg img s₁ himg hf =>
      exact htail _ _ (List.forall_mem_singleton.mpr rfl) (hscoped himg)
  | notAttributed hg img s₁ himg hok hattr =>
      exact htail _ _ (List.forall_mem_singleton.mpr rfl) (hscoped himg)
  | notResident hg img s₁ himg hok hattr hl hres =>
      exact htail _ _ (fun e he => residentFailed_isTail he) (hscoped himg)
  | accepted hg img s₁ himg hok hattr hres r s' hpub =>
      obtain ⟨evs, rfl, hevs⟩ := hpub.quiet.events
      exact htail _ _ hevs (htail _ _ (fun e he => residentIf_isTail he) (hscoped himg))

/-- What the blob path does to the thread-local state: the scope is back, the
    record is its own, and if the block names an allocation it is the one the
    record names. -/
structure BlobAttribution (hRTResource : HANDLE) (r : VirtioWddmResource) (s s' : CallState) :
    Prop where
  scope : s'.runtimeAllocScope = s.runtimeAllocScope
  adopted : r.base.hKMAllocation ≠ 0 →
    s'.lastRuntimeAlloc =
      { hRTResource := hRTResource
        hAllocation := r.base.hKMAllocation
        hKMResource := r.base.hKMResource } ∧
    RecordBacked s'.lastRuntimeAlloc s'.trace
  reported : r.base.hKMAllocation = 0 → ∃ hr, .setError hr ∈ s'.trace

/-- Once the record has been found to be of this call, the block keeps its
    handles to the end. -/
theorem BlobAttribution.of_quiet {hRTResource : HANDLE} {resource r : VirtioWddmResource}
    {s s₁ s' : CallState} (hattr : Attributed s₁.lastRuntimeAlloc hRTResource)
    (hback : RecordBacked s₁.lastRuntimeAlloc s₁.trace)
    (hquiet : QuietRun (resource.withAllocation s₁.lastRuntimeAlloc.hAllocation
      s₁.lastRuntimeAlloc.hKMResource) r (s₁.leaveScope s.runtimeAllocScope) s') :
    BlobAttribution hRTResource r s s' := by
  obtain ⟨tex, rfl⟩ := hquiet.block
  refine ⟨hquiet.hookFrame.scope, fun _ => ⟨?_, hquiet.hookFrame.backed hback⟩, ?_⟩
  · rw [hquiet.record, ← hattr.2]
    rfl
  · intro h0
    exact absurd h0 hattr.1

theorem BlobRun.attribution {env : DeviceEnv} {pArgs : CreateResourceArgs}
    {isPrimary linearPresent : Bool} {desc : Texture2DDesc1} {hRTResource : HANDLE}
    {resource r : VirtioWddmResource} {data : Option (List SubresourceData)} {s s' : CallState}
    (h : BlobRun env pArgs isPrimary linearPresent desc hRTResource resource data s r s')
    (hclean : resource.base.hKMAllocation = 0) : BlobAttribution hRTResource r s s' := by
  -- the exits before adoption leave the block without an allocation
  have hearly : ∀ (t : CallState) (hr : HRESULT) (q : VirtioWddmResource),
      q.base.hKMAllocation = 0 → t.runtimeAllocScope = s.runtimeAllocScope →
      BlobAttribution hRTResource q s (t.log [.setError hr]) := by
    intro t hr q hq hscope
    exact ⟨hscope, fun hne => absurd hq hne, fun _ => ⟨hr, by simp⟩⟩
  cases h with
  | guarded hg => exact hearly s _ _ hclean rfl
  | imageFailed hg img s₁ himg hf => exact hearly _ _ _ hclean rfl
  | notAttributed hg img s₁ himg hok hattr => exact hearly _ _ _ hclean rfl
  | notResident hg img s₁ himg hok hattr hl hres =>
      have hback := himg.hookFrame.backed (recordBacked_empty _)
      exact .of_quiet hattr hback ⟨⟨_, rfl, fun e he => residentFailed_isTail he⟩, _, rfl⟩
  | accepted hg img s₁ himg hok hattr hres r s' hpub =>
      have hback := himg.hookFrame.backed (recordBacked_empty _)
      exact .of_quiet hattr hback (hpub.quiet.after fun e he => residentIf_isTail he)

-- ============================================================================
-- Attribution
-- ============================================================================

/-- The trace says who handed out `hAllocation`: a successful alloc hook for
    `hRTResource`, with no free hook for the handle after it. -/
def HandedOut (trace : List Event) (hRTResource : HANDLE)
    (hAllocation hKMResource : D3DKMT_HANDLE) : Prop :=
  ∃ pre req post,
    trace = pre ++ .runtimeAlloc (some req)
      (.ok { hAllocation := hAllocation, hKMResource := hKMResource }) :: post ∧
    req.hRTResource = hRTResource ∧
    ∀ alloc result, .runtimeFree (some alloc) result ∈ post → alloc.hAllocation ≠ hAllocation

/-- The ledger's reading of `HandedOut`. -/
theorem handedOut_of_held {trace : List Event} {record : RuntimeAllocRecord}
    (h : record ∈ hookLedger.held trace) :
    HandedOut trace record.hRTResource record.hAllocation record.hKMResource := by
  rcases (Ledger.mem_heldFrom _).mp h with ⟨hnil, -⟩ | ⟨pre, e, post, rfl, hacq, hpost⟩
  · simp at hnil
  · cases e with
    | runtimeAlloc req result =>
        cases req with
        | none => simp [hookLedger] at hacq
        | some req =>
            cases result with
            | error e => simp [hookLedger] at hacq
            | ok result =>
                obtain rfl := Option.some.inj hacq
                refine ⟨pre, req, post, rfl, rfl, ?_⟩
                intro alloc res hmem
                simpa [hookLedger] using hpost _ hmem
    | _ => simp [hookLedger] at hacq

/-- Whatever the allocator hooks do during CreateResource, the scope is back when
    it returns; and on the blob path the block names an allocation unless an error
    was reported, one that a hook handed out during this very call for this very
    resource and that no later hook call freed. -/
theorem createResource_attribution {env : DeviceEnv} {pArgs : CreateResourceArgs}
    {hRTResource : HANDLE} {record : RuntimeAllocRecord} {scope : RuntimeAllocScope}
    {r : VirtioWddmResource} {s' : CallState}
    (h : Runs (virtioWddmCreateResource env pArgs hRTResource)
      { lastRuntimeAlloc := record, runtimeAllocScope := scope, trace := [] } r s') :
    s'.runtimeAllocScope = scope ∧
    (allocate3d env pArgs = false → (pArgs.isShared || linearPresent env pArgs) = true →
      ((∀ hr, .setError hr ∉ s'.trace) → r.base.hKMAllocation ≠ 0) ∧
      (r.base.hKMAllocation ≠ 0 →
        HandedOut s'.trace hRTResource r.base.hKMAllocation r.base.hKMResource)) := by
  have hinit : ∀ s : CallState, HookFrame s (s.initDataBuilt env pArgs) :=
    fun s => .log fun e he => by
      obtain ⟨d, -, rfl⟩ := List.mem_map.mp he
      rfl
  cases runs_virtioWddmCreateResource h with
  | present3d h3 hdim r s' hrun =>
      exact ⟨((hinit _).trans hrun.hookFrame).scope,
        fun hno => absurd (h3.symm.trans hno) (by simp)⟩
  | plain h3 hb r s' hrun =>
      exact ⟨((hinit _).trans hrun.hookFrame).scope,
        fun _ hyes => absurd (hb.symm.trans hyes) (by simp)⟩
  | blob h3 hb hdim r s' hrun =>
      have hattr := hrun.attribution rfl
      refine ⟨hattr.scope, fun _ _ => ⟨?_, ?_⟩⟩
      · intro hno h0
        obtain ⟨hr, hmem⟩ := hattr.reported h0
        exact hno hr hmem
      · intro hne
        obtain ⟨hrec, hback⟩ := hattr.adopted hne
        rw [hrec] at hback
        exact handedOut_of_held (hback hne)

/-- An ICD that first allocates for another resource, frees that again, then
    retries a failed allocation of its own. -/
def retryHooks : List HookCall :=
  [.alloc (some { hRTResource := 9 }) { hAllocation := 0x30, hKMResource := 0x31 },
   .free (some { hAllocation := 0x30, hKMResource := 0x31 }) S_OK,
   .alloc (some { hRTResource := 5 }) { hr := E_FAIL },
   .alloc (some { hRTResource := 5 }) { hAllocation := 0x30, hKMResource := 0x32 }]

/-- A present buffer of one mip level, one layer and one sample. -/
def presentArgs : CreateResourceArgs :=
  { bindFlags := D3D10_DDI_BIND_PRESENT
    format := .B8G8R8A8_UNORM
    mipLevels := 1
    arraySize := 1
    sampleDesc := { count := 1 } }

/-- On a native-context adapter that buffer ends up with the retried allocation,
    although its handle was used before and a stale record was left behind. -/
theorem createResource_attribution_retry :
    ∃ r s', Runs (virtioWddmCreateResource (.allOk true (.other 0) retryHooks) presentArgs 5)
        { lastRuntimeAlloc := { hRTResource := 5, hAllocation := 0x77 }
          runtimeAllocScope := { hRTResource := 3 }
          trace := [] } r s' ∧
      s'.runtimeAllocScope = { hRTResource := 3 } ∧ r.base.hKMAllocation = 0x30 ∧
      HandedOut s'.trace 5 0x30 0x32 := by
  refine ⟨_, _, rfl, ?_⟩
  have hrun : Runs
      (virtioWddmCreateResource (.allOk true (.other 0) retryHooks) presentArgs 5)
      { lastRuntimeAlloc := { hRTResource := 5, hAllocation := 0x77 }
        runtimeAllocScope := { hRTResource := 3 }
        trace := [] } _ _ := rfl
  have h := createResource_attribution hrun
  exact ⟨h.1, rfl, (h.2 rfl rfl).2 (by decide)⟩

end VirtioWddm
