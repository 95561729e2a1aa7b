/-
  VirtioWddm.Resource.Primary

  How the primary description of a CreateResource call reaches the kernel.

  There are two routes: the 3D path writes it into its own request, the blob path
  leaves it in the runtime-allocation scope, from where the alloc hook takes it for
  requests on behalf of the scope's own resource.  `RecordRequested` follows the
  second route: the record always names what an alloc hook requested under the
  scope.
-/

import VirtioWddm.Resource.Attribution

namespace VirtioWddm

open Lib

-- ============================================================================
-- What a displayable resource records
-- ============================================================================

/-- The allocation was requested with `Flags.Primary`, and with a payload that
    carries the refresh rate and the VidPn source of the description. -/
def RequestedAsPrimary (trace : List Event) (primaryDesc : PrimaryDesc)
    (hAllocation : D3DKMT_HANDLE) : Prop :=
  ∃ args reply alloc, .allocateCb args reply ∈ trace ∧ failed reply.hr = false ∧
    reply.hAllocation = hAllocation ∧ args.primary = true ∧ args.payload = .primary alloc ∧
    alloc.refreshNumerator = primaryDesc.refreshNumerator ∧
    alloc.refreshDenominator = primaryDesc.refreshDenominator ∧
    alloc.vidpnSource = primaryDesc.vidPnSourceId

/-- What the DXGI entry points expect of a resource that the call with arguments
    `pArgs` and events `trace` made. -/
structure Displayable (pArgs : CreateResourceArgs) (trace : List Event)
    (resource : VirtioWddmResource) : Prop where
  present : hasFlag resource.base.bindFlags D3D10_DDI_BIND_PRESENT = true →
    resource.base.hKMAllocation ≠ 0
  primary : resource.base.isPresentable = true →
    resource.base.hKMAllocation ≠ 0 ∧
    ∃ primaryDesc, pArgs.pPrimaryDesc = some primaryDesc ∧
      RequestedAsPrimary trace primaryDesc resource.base.hKMAllocation

theorem RequestedAsPrimary.mono {trace trace' : List Event} {primaryDesc : PrimaryDesc}
    {hAllocation : D3DKMT_HANDLE} (h : RequestedAsPrimary trace primaryDesc hAllocation)
    (hsub : ∀ e ∈ trace, e ∈ trace') : RequestedAsPrimary trace' primaryDesc hAllocation := by
  obtain ⟨args, reply, alloc, hmem, hrest⟩ := h
  exact ⟨args, reply, alloc, hsub _ hmem, hrest⟩

/-- Only the flags and the allocation of the block matter. -/
theorem Displayable.of_base {pArgs : CreateResourceArgs} {trace trace' : List Event}
    {resource r : VirtioWddmResource} (h : Displayable pArgs trace resource)
    (hsub : ∀ e ∈ trace, e ∈ trace') (hflags : r.base.bindFlags = resource.base.bindFlags)
    (halloc : r.base.hKMAllocation = resource.base.hKMAllocation)
    (hpresentable : r.base.isPresentable = resource.base.isPresentable) :
    Displayable pArgs trace' r := by
  refine ⟨fun hp => ?_, fun hp => ?_⟩
  · rw [hflags] at hp
    rw [halloc]
    exact h.present hp
  · rw [hpresentable] at hp
    obtain ⟨hne, primaryDesc, hdesc, hreq⟩ := h.primary hp
    rw [halloc]
    exact ⟨hne, primaryDesc, hdesc, hreq.mono hsub⟩

/-- What happened before is still in the trace. -/
theorem Grows.mem {P : Event → Prop} {s s' : CallState} (h : Grows P s s') :
    ∀ e ∈ s.trace, e ∈ s'.trace := by
  obtain ⟨evs, heq, -⟩ := h
  intro e he
  rw [heq]
  exact List.mem_append_left _ he

-- ============================================================================
-- The record under a scope
-- ============================================================================

/-- A non-empty record names what an alloc hook requested under `scope`, for the
    runtime resource the record names. -/
def RecordRequested (scope : RuntimeAllocScope) (record : RuntimeAllocRecord)
    (trace : List Event) : Prop :=
  record.hAllocation ≠ 0 →
    ∃ req reply, .allocateCb (runtimeAllocArgs scope req) reply ∈ trace ∧
      failed reply.hr = false ∧ req.hRTResource = record.hRTResource ∧
      reply.hAllocation = record.hAllocation

theorem RecordRequested.mono {scope : RuntimeAllocScope} {record : RuntimeAllocRecord}
    {trace trace' : List Event} (h : RecordRequested scope record trace)
    (hsub : ∀ e ∈ trace, e ∈ trace') : RecordRequested scope record trace' := by
  intro hne
  obtain ⟨req, reply, hmem, hrest⟩ := h hne
  exact ⟨req, reply, hsub _ hmem, hrest⟩

/-- One hook call: a successful alloc hook names its own request, everything else
    keeps or clears the record. -/
theorem RecordRequested.hook {s : CallState} {c : HookCall}
    (h : RecordRequested s.runtimeAllocScope s.lastRuntimeAlloc s.trace) :
    RecordRequested s.runtimeAllocScope (s.hook c).lastRuntimeAlloc (s.hook c).trace := by
  have hkeep : RecordRequested s.runtimeAllocScope s.lastRuntimeAlloc (s.hook c).trace :=
    h.mono fun e he => List.mem_append_left _ he
  cases c with
  | alloc req reply =>
      cases req with
      | none => exact hkeep
      | some r =>
          by_cases hfail : failed reply.hr = true ∨ reply.hAllocation = 0#32
          · simp only [CallState.hook, hookRecord, if_pos hfail]
            exact hkeep
          · intro _
            have hok : failed reply.hr = false := by simpa using (not_or.mp hfail).1
            refine ⟨r, reply, ?_, hok, ?_, ?_⟩
            · exact List.mem_append_right _ List.mem_cons_self
            · simp only [CallState.hook, hookRecord, if_neg hfail]
            · simp only [CallState.hook, hookRecord, if_neg hfail]
  | free alloc hr =>
      cases alloc with
      | none => exact hkeep
      | some a =>
          by_cases hclear : a.hAllocation ≠ 0#32 ∧ s.lastRuntimeAlloc.hAllocation = a.hAllocation
          · intro hne
            simp [CallState.hook, hookRecord, hclear] at hne
          · simp only [CallState.hook, hookRecord, if_neg hclear]
            exact hkeep

theorem RecordRequested.hooks {s : CallState} {cs : List HookCall}
    (h : RecordRequested s.runtimeAllocScope s.lastRuntimeAlloc s.trace) :
    RecordRequested s.runtimeAllocScope (s.hooks cs).lastRuntimeAlloc (s.hooks cs).trace := by
  induction cs generalizing s with
  | nil => simpa [CallState.hooks, CallState.log] using h
  | cons c cs ih =>
      rw [CallState.hooks_cons]
      exact ih h.hook

/-- The record `create_shared_vk_image` leaves was requested under the scope it ran
    in. -/
theorem SharedImageRun.recordRequested {env : VkEnv} {info : VkImageCreateInfo}
    {allocNext : AllocNext} {wantAlloc : Bool} {s s' : CallState} {r : SharedImage}
    (h : SharedImageRun env info allocNext wantAlloc s r s')
    (hs : RecordRequested s.runtimeAllocScope s.lastRuntimeAlloc s.trace) :
    RecordRequested s.runtimeAllocScope s'.lastRuntimeAlloc s'.trace := by
  let I : CallState → Prop := fun t =>
    t.runtimeAllocScope = s.runtimeAllocScope ∧
      RecordRequested s.runtimeAllocScope t.lastRuntimeAlloc t.trace
  have hI : I s' := by
    refine h.preserves (I := I) (fun t cs ht => ?_) (fun t e _ _ ht => ?_) ⟨rfl, hs⟩
    · obtain ⟨hscope, hreq⟩ := ht
      refine ⟨hscope, ?_⟩
      rw [← hscope] at hreq ⊢
      exact hreq.hooks
    · exact ⟨ht.1, ht.2.mono fun e' he' => List.mem_append_left _ he'⟩
  exact hI.2

-- ============================================================================
-- The three paths
-- ============================================================================

/-- A scope with a primary description marks the requests for its own resource. -/
theorem runtimeAllocArgs_primary (scope : RuntimeAllocScope) {req : RuntimeAllocRequest}
    (hne : scope.hRTResource ≠ 0) (hprimary : scope.primary = true)
    (hreq : req.hRTResource = scope.hRTResource) :
    (runtimeAllocArgs scope req).primary = true ∧
      (runtimeAllocArgs scope req).payload =
        .primary
          { base :=
              { allocation :=
                  .blob { id := req.blobId, mem := req.mem, flags := req.flags, size := req.size }
                source := req.sourceAllocation }
            refreshNumerator := scope.primaryDesc.refreshNumerator
            refreshDenominator := scope.primaryDesc.refreshDenominator
            vidpnSource := scope.primaryDesc.vidPnSourceId } := by
  have hmark : (req.hRTResource != 0 && scope.hRTResource == req.hRTResource &&
      scope.primary) = true := by
    rw [hreq, hprimary]
    simpa using hne
  exact ⟨hmark, if_pos hmark⟩

/-- The 3D path writes the primary description into its own request. -/
theorem allocate3dPayload_some (allocPriv : Allocate3d) (primaryDesc : PrimaryDesc) :
    ∃ alloc, allocate3dPayload allocPriv (some primaryDesc) = .primary alloc ∧
      alloc.refreshNumerator = primaryDesc.refreshNumerator ∧
      alloc.refreshDenominator = primaryDesc.refreshDenominator ∧
      alloc.vidpnSource = primaryDesc.vidPnSourceId :=
  ⟨_, rfl, rfl, rfl, rfl⟩

/-- An import that reports no error sets the host texture and nothing else. -/
theorem ImportRun.imported_of_no_error {env : DeviceEnv} {desc : Texture2DDesc1}
    {resource r : VirtioWddmResource} {data : Option (List SubresourceData)} {s s' : CallState}
    (h : ImportRun env desc resource data s r s') (hok : ∀ hr, .setError hr ∉ s'.trace) :
    ∃ tex, r = resource.withTexture tex := by
  cases h with
  | failed hf => exact absurd (by simp) (hok env.importTexture.hr)
  | imported hf tex htex => exact ⟨tex, rfl⟩

/-- The primary description of a primary resource. -/
theorem primaryDesc_of_isPrimary {pArgs : CreateResourceArgs} (h : pArgs.isPrimary = true) :
    ∃ primaryDesc, pArgs.pPrimaryDesc = some primaryDesc := by
  obtain ⟨-, hsome⟩ := Bool.and_eq_true_iff.mp h
  exact Option.isSome_iff_exists.mp hsome

theorem bindPresent_of_isPrimary {pArgs : CreateResourceArgs} (h : pArgs.isPrimary = true) :
    pArgs.bindPresent = true :=
  (Bool.and_eq_true_iff.mp h).1

/-- The 3D path. -/
theorem Present3dRun.displayable {env : DeviceEnv} {pArgs : CreateResourceArgs}
    {desc : Texture2DDesc1} {hRTResource : HANDLE} {r : VirtioWddmResource}
    {data : Option (List SubresourceData)} {s s' : CallState}
    (h : Present3dRun env (primaryDescOf pArgs) desc hRTResource (createdBlock pArgs hRTResource)
      data s r s')
    (hhandle : failed env.allocate.hr = false → env.allocate.hAllocation ≠ 0)
    (hok : ∀ hr, .setError hr ∉ s'.trace) : Displayable pArgs s'.trace r := by
  cases h with
  | notAllocated shared s₁ hsh hf => exact absurd (by simp) (hok shared.hr)
  | imageFailed shared s₁ hsh hshok info hinfo planes hplanes img s₂ himg hf =>
      exact absurd (by simp) (hok img.hr)
  | imported shared s₁ hsh hshok info hinfo planes hplanes img s₂ himg himgok r s' himp =>
      obtain ⟨tex, rfl⟩ := himp.imported_of_no_error hok
      have hafter : ∀ e ∈ s₁.trace, e ∈ s'.trace := fun e he =>
        himp.quiet.grows.mem e (himg.grows.mem e he)
      cases hsh with
      | unsupported hsup => simp at hshok
      | allocateFailed hsup ha => exact absurd (hshok.symm.trans ha) (by simp)
      | queryFailed hsup ha hq hd => exact absurd (hshok.symm.trans hq) (by simp)
      | cleanupFailed hsup ha hq hd => exact absurd (hshok.symm.trans hq) (by simp)
      | allocated hsup ha hq info' hi =>
          have hne := hhandle ha
          refine ⟨fun _ => hne, fun hpresentable => ⟨hne, ?_⟩⟩
          have hprimary : pArgs.isPrimary = true := hpresentable
          obtain ⟨primaryDesc, hdesc⟩ := primaryDesc_of_isPrimary hprimary
          have hof : primaryDescOf pArgs = some primaryDesc := by
            rw [primaryDescOf, if_pos hprimary, hdesc]
          rw [hof] at hafter
          obtain ⟨alloc, hpayload, hrates⟩ :=
            allocate3dPayload_some (allocate3dPriv desc) primaryDesc
          have hrequest : Event.allocateCb
              { hResource := hRTResource
                payload := allocate3dPayload (allocate3dPriv desc) (some primaryDesc)
                primary := true } env.allocate ∈ s'.trace :=
            hafter _ (List.mem_append_left _ (List.mem_append_left _
              (List.mem_append_right _ List.mem_cons_self)))
          exact ⟨primaryDesc, hdesc, _, env.allocate, alloc, hrequest, ha, rfl, rfl, hpayload,
            hrates⟩

/-- The blob path. -/
theorem BlobRun.displayable {env : DeviceEnv} {pArgs : CreateResourceArgs} {linearPresent : Bool}
    {desc : Texture2DDesc1} {hRTResource : HANDLE} {r : VirtioWddmResource}
    {data : Option (List SubresourceData)} {s s' : CallState}
    (h : BlobRun env pArgs pArgs.isPrimary linearPresent desc hRTResource
      (createdBlock pArgs hRTResource) data s r s')
    (hRT : hRTResource ≠ 0) (hok : ∀ hr, .setError hr ∉ s'.trace) :
    Displayable pArgs s'.trace r := by
  cases h with
  | guarded hg => exact absurd (by simp) (hok E_INVALIDARG)
  | imageFailed hg img s₁ himg hf => exact absurd (by simp) (hok img.hr)
  | notAttributed hg img s₁ himg himgok hattr => exact absurd (by simp) (hok E_FAIL)
  | notResident hg img s₁ himg himgok hattr hl hres =>
      exact absurd (by simp) (hok (residentHr env))
  | accepted hg img s₁ himg himgok hattr hres r s' hpub =>
      have hquiet := hpub.quiet
      obtain ⟨tex, rfl⟩ := hquiet.block
      have hafter : ∀ e ∈ s₁.trace, e ∈ s'.trace := fun e he =>
        hquiet.grows.mem e (List.mem_append_left _ he)
      refine ⟨fun _ => hattr.1, fun hpresentable => ⟨hattr.1, ?_⟩⟩
      have hprimary : pArgs.isPrimary = true := hpresentable
      obtain ⟨primaryDesc, hdesc⟩ := primaryDesc_of_isPrimary hprimary
      -- the record was cleared before, so an alloc hook set it under our scope
      have hrecord := himg.recordRequested (fun hne => absurd rfl hne)
      obtain ⟨req, reply, hmem, hreply, hsame, hhandle⟩ := hrecord hattr.1
      have hscope : (blobScope pArgs pArgs.isPrimary hRTResource).primaryDesc = primaryDesc := by
        rw [blobScope, if_pos hprimary, hdesc]
        rfl
      obtain ⟨hflag, hpayload⟩ := runtimeAllocArgs_primary
        (blobScope pArgs pArgs.isPrimary hRTResource) hRT hprimary (hsame.trans hattr.2)
      rw [hscope] at hpayload
      exact ⟨primaryDesc, hdesc, _, reply, _, hafter _ hmem, hreply, hhandle, hflag, hpayload, rfl,
        rfl, rfl⟩

/-- The plain path never makes a present resource. -/
theorem plain_not_bindPresent {env : DeviceEnv} {pArgs : CreateResourceArgs}
    (h3 : allocate3d env pArgs = false)
    (hb : (pArgs.isShared || linearPresent env pArgs) = false) : pArgs.bindPresent = false := by
  obtain ⟨-, hlinear⟩ := Bool.or_eq_false_iff.mp hb
  by_contra hpresent
  rw [Bool.not_eq_false] at hpresent
  rw [allocate3d, hlinear, hpresent] at h3
  cases hprimary : pArgs.isPrimary <;> simp [hprimary] at h3

theorem PlainRun.flags {env : DeviceEnv} {pArgs : CreateResourceArgs} {desc : Texture2DDesc1}
    {resource r : VirtioWddmResource} {data : Option (List SubresourceData)} {s s' : CallState}
    (h : PlainRun env pArgs desc resource data s r s') :
    r.base.bindFlags = resource.base.bindFlags ∧
      r.base.isPresentable = resource.base.isPresentable := by
  cases h with
  | unsupported => exact ⟨rfl, rfl⟩
  | failed => exact ⟨rfl, rfl⟩
  | created => exact ⟨rfl, rfl⟩

/-- A CreateResource call that reports no error makes a displayable resource,
    whatever the hooks do meanwhile. -/
theorem CreateRun.displayable {env : DeviceEnv} {pArgs : CreateResourceArgs}
    {hRTResource : HANDLE} {s s' : CallState} {r : VirtioWddmResource}
    (h : CreateRun env pArgs hRTResource s r s') (hRT : hRTResource ≠ 0)
    (hhandle : failed env.allocate.hr = false → env.allocate.hAllocation ≠ 0)
    (hok : ∀ hr, .setError hr ∉ s'.trace) : Displayable pArgs s'.trace r := by
  cases h with
  | present3d h3 hdim r s' hrun => exact hrun.displayable hhandle hok
  | blob h3 hb hdim r s' hrun => exact hrun.displayable hRT hok
  | plain h3 hb r s' hrun =>
      obtain ⟨hflags, hpresentable⟩ := hrun.flags
      have hno := plain_not_bindPresent h3 hb
      refine ⟨fun hp => ?_, fun hp => ?_⟩
      · rw [hflags] at hp
        exact absurd (hno.symm.trans hp) (by simp)
      · rw [hpresentable] at hp
        exact absurd (hno.symm.trans (bindPresent_of_isPrimary hp)) (by simp)

end VirtioWddm
