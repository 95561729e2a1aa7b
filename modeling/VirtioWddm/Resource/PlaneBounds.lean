/-
  VirtioWddm.Resource.PlaneBounds

  The four-entry plane arrays of `resource.c` and the RESOURCE_INFO reply that drives
  the loops over them.

  The blob branch of OpenResource fills four planes; the 3D branches of OpenResource and
  CreateResource fill as many as the reply says.
-/

import VirtioWddm.Lib.Faults
import VirtioWddm.Resource.Exits

namespace VirtioWddm

open Lib

-- ============================================================================
-- Safety of a call
-- ============================================================================

/-- No run of the call uses an index outside a fixed array. -/
def InBounds {α : Type} (m : Call α) : Prop :=
  ∀ s array index, ¬ Faults m s (.indexOutOfBounds array index)

/-- An error was reported. -/
def Reported (events : List Event) : Prop :=
  ∃ hr, .setError hr ∈ events

/-- The two ways OpenResource is to end. -/
def EndsInOneWay (events : List Event) (resource : VirtioWddmResource) : Prop :=
  (Reported events ∧ resource.base.pResource = none) ∨
    (¬ Reported events ∧ resource.base.pResource.isSome = true)

/-- OpenResource stays inside its arrays and ends in one of the two ways. -/
structure OpenResourceSafe (env : DeviceEnv) (pArgs : OpenResourceArgs) (hRTResource : HANDLE) :
    Prop where
  inBounds : InBounds (virtioWddmOpenResource env pArgs hRTResource)
  ends : ∀ s, ∃ r s', Runs (virtioWddmOpenResource env pArgs hRTResource) s r s' ∧
    EndsInOneWay (callEvents s s') r

/-- A reply with the 3D tag describes at most four planes. -/
def ReplyPlanesFit (env : DeviceEnv) : Prop :=
  failed env.resourceInfo.hr = false →
    ∀ info, env.resourceInfo.info = .alloc3d info → info.numPlanes.toNat ≤ 4

/-- CreateResource gets to the plane loop of its 3D path, with this reply. -/
structure CreateReachesPlanes (env : DeviceEnv) (pArgs : CreateResourceArgs)
    (hRTResource : HANDLE) (info : Allocate3dFull) : Prop where
  present3d : allocate3d env pArgs = true
  dimension : pArgs.resourceDimension = .texture2d
  supported : allocate3dSupported (createdDesc pArgs hRTResource) = true
  allocated : failed env.allocate.hr = false
  queried : failed env.resourceInfo.hr = false
  info : env.resourceInfo.info = .alloc3d info
  resident : failed (residentHr env) = false

/-- If it gets there, the reply describes at most four planes. -/
def CreatePlanesFit (env : DeviceEnv) (pArgs : CreateResourceArgs) (hRTResource : HANDLE) : Prop :=
  ∀ info, CreateReachesPlanes env pArgs hRTResource info → info.numPlanes.toNat ≤ 4

-- ============================================================================
-- The plane loop
-- ============================================================================

/-- The loop leaves its arrays exactly when it is to fill more than four planes, at the
    first index behind them. -/
theorem faults_fillPlanes {offsets : Vector UINT64 4} {strides : Vector UINT 4} {n i : Nat}
    {s : CallState} {f : Fault} (hi : i ≤ 4) :
    Faults (fillPlanes offsets strides n i) s f ↔
      4 < i + n ∧ f = .indexOutOfBounds "planes" 4 := by
  induction n generalizing i s with
  | zero =>
      rw [fillPlanes, faults_pure]
      exact ⟨False.elim, fun h => absurd h.1 (by omega)⟩
  | succ n ih =>
      rw [fillPlanes]
      split
      case isTrue hlt =>
        rw [faults_bind, ih hlt]
        simp only [faults_pure, and_false, exists_false, or_false]
        rw [show i + 1 + n = i + (n + 1) by omega]
      case isFalse hge =>
        have hfour : i = 4 := by omega
        rw [faults_fault, hfour]
        exact ⟨fun h => ⟨by omega, h.symm⟩, fun h => h.2.symm⟩

-- ============================================================================
-- OpenResource
-- ============================================================================

section Open

variable {env : DeviceEnv} {pArgs : OpenResourceArgs} {hRTResource : HANDLE}

theorem faults_open3d {id : UINT} {info : Allocate3dFull} {resource : VirtioWddmResource}
    {s : CallState} {f : Fault}
    (himp : failed env.importTexture.hr = false → env.importTexture.object.isSome = true) :
    Faults (open3d env hRTResource id info resource) s f ↔
      4 < info.numPlanes.toNat ∧ f = .indexOutOfBounds "planes" 4 := by
  rw [open3d, faults_bind, faults_fillPlanes (by omega), Nat.zero_add]
  apply or_iff_left
  rintro ⟨planes, s', -, hf⟩
  exact (total_importOpened himp).not_faults s' f hf

theorem total_queryResourceInfo (env : DeviceEnv) (alloc : D3DKMT_HANDLE) :
    Total (queryResourceInfo env alloc) :=
  fun _ => ⟨_, _, runs_queryResourceInfo.mpr ⟨rfl, rfl⟩⟩

theorem total_assertCall {cond : Bool} {expr : String} (h : cond = true) :
    Total (assertCall cond expr) :=
  fun s => ⟨(), s, runs_assertCall.mpr ⟨h, rfl⟩⟩

/-- OpenResource can only fault in the plane loop. -/
theorem faults_virtioWddmOpenResource {s : CallState} {f : Fault}
    (hn : pArgs.numAllocations = 1)
    (himp : failed env.importTexture.hr = false → env.importTexture.object.isSome = true) :
    Faults (virtioWddmOpenResource env pArgs hRTResource) s f ↔
      ¬ ReplyPlanesFit env ∧ f = .indexOutOfBounds "planes" 4 := by
  have hreport : ∀ (hr : HRESULT) (resource : VirtioWddmResource) (t : CallState),
      ¬ Faults (do tritonSetError hr; return resource : Call VirtioWddmResource) t f :=
    fun hr resource t => ((total_emit _).bind fun _ => .pure resource).not_faults t f
  rw [virtioWddmOpenResource, (total_assertCall (by simp [hn])).faults_bind]
  simp only [runs_assertCall, (total_queryResourceInfo env pArgs.hAllocation).faults_bind,
    runs_queryResourceInfo]
  constructor
  · rintro ⟨-, s₁, -, res, s₂, ⟨rfl, -⟩, h⟩
    cases hq : failed env.resourceInfo.hr with
    | true =>
        simp only [hq, if_true] at h
        exact absurd h (hreport _ _ _)
    | false =>
        simp only [hq, Bool.false_eq_true, if_false] at h
        cases hi : env.resourceInfo.info with
        | other tag =>
            simp only [hi] at h
            exact absurd h (hreport _ _ _)
        | blob info =>
            simp only [hi] at h
            exact absurd h ((total_openBlob himp).not_faults _ _)
        | alloc3d info =>
            simp only [hi] at h
            obtain ⟨hover, hf⟩ := (faults_open3d himp).mp h
            refine ⟨fun hfit => ?_, hf⟩
            have hle := hfit hq info hi
            omega
  · rintro ⟨hover, rfl⟩
    simp only [ReplyPlanesFit, not_forall] at hover
    obtain ⟨hq, info, hi, hlt⟩ := hover
    refine ⟨(), s, ⟨by simp [hn], rfl⟩, _, _, ⟨rfl, rfl⟩, ?_⟩
    simp only [hq, Bool.false_eq_true, if_false, hi]
    exact (faults_open3d himp).mpr ⟨Nat.lt_of_not_le hlt, rfl⟩

/-- The events so far report no error. -/
abbrev Quiet (s s' : CallState) : Prop :=
  Grows (fun e => e.isSetError = false) s s'

/-- A call that ends with a report leaves an empty block. -/
theorem Quiet.reported {s t : CallState} {hr : HRESULT} {resource : VirtioWddmResource}
    (h : Quiet s t) (hnone : resource.base.pResource = none) :
    EndsInOneWay (callEvents s (t.log [.setError hr])) resource := by
  have heq : callEvents s (t.log [.setError hr]) = callEvents s t ++ [.setError hr] := by
    apply callEvents_eq
    rw [CallState.log_trace, h.callEvents.1, List.append_assoc]
  rw [heq]
  exact .inl ⟨⟨hr, List.mem_append_right _ (List.mem_singleton.mpr rfl)⟩, hnone⟩

/-- One that reports nothing leaves a texture. -/
theorem Quiet.opened {s t : CallState} {resource : VirtioWddmResource} (h : Quiet s t)
    (hsome : resource.base.pResource.isSome = true) : EndsInOneWay (callEvents s t) resource := by
  refine .inr ⟨?_, hsome⟩
  rintro ⟨hr, hmem⟩
  have hquiet := h.callEvents.2 _ hmem
  simp [Event.isSetError] at hquiet

theorem uploadEvents_not_setError {tex : HostResource} {data : Option (List SubresourceData)}
    {e : Event} (h : e ∈ uploadEvents tex data) : e.isSetError = false := by
  rcases mem_uploadEvents h with rfl | ⟨j, d, rfl⟩ <;> rfl

theorem OpenImportRun.endsInOneWay {id : UINT} {info : AllocationInfo} {tiling : VkImageTiling}
    {modifierInfo : Option DrmFormatModifierInfo} {resource r : VirtioWddmResource}
    {s s₀ s' : CallState}
    (h : OpenImportRun env hRTResource id info tiling modifierInfo resource s r s')
    (hs : Quiet s₀ s) (hnone : resource.base.pResource = none) :
    EndsInOneWay (callEvents s₀ s') r := by
  cases h with
  | imageFailed img s₁ himg hf =>
      have hquiet : Quiet s₀ s₁ := hs.trans (himg.grows.mono fun _ => isSetError_of_isVulkan)
      exact hquiet.reported hnone
  | imported img s₁ himg hok r s' himp =>
      have hquiet : Quiet s₀ s₁ := hs.trans (himg.grows.mono fun _ => isSetError_of_isVulkan)
      cases himp with
      | failed hf =>
          rw [← List.singleton_append, ← CallState.log_log]
          exact Quiet.reported (hquiet.trans (.log (List.forall_mem_singleton.mpr rfl))) hnone
      | imported hf tex htex =>
          refine Quiet.opened (hquiet.trans (.log ?_)) rfl
          intro e he
          cases List.mem_cons.mp he with
          | inl h => rw [h]; rfl
          | inr h => exact uploadEvents_not_setError h

theorem OpenRun.endsInOneWay {s s' : CallState} {r : VirtioWddmResource}
    (h : OpenRun env pArgs hRTResource s r s') : EndsInOneWay (callEvents s s') r := by
  have hqueried : Quiet s (s.openQueried env pArgs) :=
    .log (List.forall_mem_singleton.mpr rfl)
  cases h with
  | queryFailed => exact hqueried.reported rfl
  | unknownTag => exact hqueried.reported rfl
  | blobInvalid => exact hqueried.reported rfl
  | blob hq info hi hv hc r s' h => exact h.endsInOneWay hqueried rfl
  | alloc3d hq info hi planes hplanes r s' h => exact h.endsInOneWay hqueried rfl

/-- OpenResource is safe exactly on the replies that describe at most four planes. -/
theorem openResourceSafe_iff (hn : pArgs.numAllocations = 1)
    (himp : failed env.importTexture.hr = false → env.importTexture.object.isSome = true) :
    OpenResourceSafe env pArgs hRTResource ↔ ReplyPlanesFit env := by
  constructor
  · intro hsafe
    by_contra hover
    exact hsafe.inBounds {} _ _ ((faults_virtioWddmOpenResource hn himp).mpr ⟨hover, rfl⟩)
  · intro hfit
    have hnever : ∀ s f, ¬ Faults (virtioWddmOpenResource env pArgs hRTResource) s f :=
      fun s f hf => ((faults_virtioWddmOpenResource hn himp).mp hf).1 hfit
    refine ⟨fun s array index => hnever s _, fun s => ?_⟩
    cases runs_or_faults (virtioWddmOpenResource env pArgs hRTResource) s with
    | inl h =>
        obtain ⟨r, s', hrun⟩ := h
        exact ⟨r, s', hrun, (runs_virtioWddmOpenResource hrun).endsInOneWay⟩
    | inr h =>
        obtain ⟨f, hf⟩ := h
        exact absurd hf (hnever s f)

end Open

-- ============================================================================
-- CreateResource
-- ============================================================================

section Create

variable {env : DeviceEnv} {pArgs : CreateResourceArgs} {hRTResource : HANDLE}

/-- The fault is an index outside a fixed array. -/
def Fault.IsIndex (f : Fault) : Prop :=
  ∃ array index, f = .indexOutOfBounds array index

theorem not_isIndex_assertFailed (expr : String) : ¬ (Fault.assertFailed expr).IsIndex := by
  rintro ⟨array, index, h⟩
  cases h

theorem avoids_reportError {P : Fault → Prop} (hr : HRESULT) (resource : VirtioWddmResource) :
    Avoids P (do tritonSetError hr; return resource : Call VirtioWddmResource) :=
  ((total_emit _).bind fun _ => .pure resource).avoids

theorem avoids_assertCall (cond : Bool) (expr : String) :
    Avoids Fault.IsIndex (assertCall cond expr) :=
  .ite (fun _ => .pure ()) fun _ => .fault (not_isIndex_assertFailed expr)

theorem total_makeResourceResident (allocation : D3DKMT_HANDLE) :
    Total (makeResourceResident env allocation) :=
  fun _ => ⟨_, _, runs_makeResourceResident.mpr ⟨rfl, rfl⟩⟩

theorem total_uploadInitData (tex : HostResource) (data : Option (List SubresourceData)) :
    Total (uploadInitData tex data) :=
  fun _ => ⟨(), _, runs_uploadInitData.mpr rfl⟩

theorem avoids_importSharedTexture {desc : Texture2DDesc1} {resource : VirtioWddmResource}
    {data : Option (List SubresourceData)} :
    Avoids Fault.IsIndex (importSharedTexture env desc resource data) := by
  refine (total_emit _).avoids.bind fun _ => .ite (fun _ => avoids_reportError _ _) fun _ => ?_
  cases env.importTexture.object with
  | none => exact .fault (not_isIndex_assertFailed _)
  | some tex => exact (total_uploadInitData tex data).avoids.bind fun _ => .pure _

theorem avoids_publishBlob {linearPresent : Bool} {desc : Texture2DDesc1}
    {resource : VirtioWddmResource} {data : Option (List SubresourceData)} :
    Avoids Fault.IsIndex (publishBlob env linearPresent desc resource data) := by
  refine .ite (fun _ => avoids_reportError _ _) fun _ => ?_
  refine (total_emit _).avoids.bind fun _ => .ite (fun _ => avoids_reportError _ _) fun _ => ?_
  exact avoids_importSharedTexture

theorem total_withRuntimeAllocScope {α : Type} {scope : RuntimeAllocScope} {m : Call α}
    (hm : Total m) : Total (withRuntimeAllocScope scope m) :=
  total_get.bind fun _ => (Total.modify _).bind fun _ => hm.bind fun _ =>
    (Total.modify _).bind fun _ => .pure _

theorem total_makeLinearResident {linearPresent : Bool} {allocation : D3DKMT_HANDLE} :
    Total (makeLinearResident env linearPresent allocation) :=
  .ite (fun _ => total_makeResourceResident allocation) fun _ => .pure _

/-- The blob path has no loop over planes. -/
theorem avoids_createSharedBlob {isPrimary linearPresent : Bool} {desc : Texture2DDesc1}
    {resource : VirtioWddmResource} {data : Option (List SubresourceData)} :
    Avoids Fault.IsIndex
      (createSharedBlob env pArgs isPrimary linearPresent desc hRTResource resource data) := by
  refine (avoids_assertCall _ _).bind fun _ => .ite (fun _ => avoids_reportError _ _) fun _ => ?_
  refine (Total.modify _).avoids.bind fun _ => ?_
  have himage : Total (withRuntimeAllocScope (blobScope pArgs isPrimary hRTResource) _) :=
    total_withRuntimeAllocScope (total_createSharedVkImage env.vk desc
      (if linearPresent then .linear else .optimal) none (.createResource hRTResource) false)
  refine himage.avoids.bind fun img => .ite (fun _ => avoids_reportError _ _) fun _ => ?_
  refine total_get.avoids.bind fun _ => .ite (fun _ => avoids_reportError _ _) fun _ => ?_
  refine total_makeLinearResident.avoids.bind fun hr => ?_
  exact .ite (fun _ => avoids_reportError _ _) fun _ => avoids_publishBlob

/-- Nor has the plain path. -/
theorem avoids_createPlain {desc : Texture2DDesc1} {resource : VirtioWddmResource}
    {data : Option (List SubresourceData)} :
    Avoids Fault.IsIndex (createPlain env pArgs desc resource data) := by
  unfold createPlain
  cases plainResourceDesc pArgs desc resource with
  | none => exact avoids_reportError _ _
  | some hostDesc =>
      refine (total_emit _).avoids.bind fun _ => .ite (fun _ => avoids_reportError _ _) fun _ => ?_
      cases env.createHostResource.object with
      | none => exact .fault (not_isIndex_assertFailed _)
      | some object =>
          have hfree : Total (freeInitData data) := fun _ => ⟨(), _, runs_freeInitData.mpr rfl⟩
          exact hfree.avoids.bind fun _ => .pure _

theorem avoids_createShared3dResource {desc : Texture2DDesc1} {primaryDesc : Option PrimaryDesc} :
    Avoids Fault.IsIndex (createShared3dResource env desc primaryDesc hRTResource) := by
  refine .ite (fun _ => .pure _) fun _ => ?_
  refine (total_emit _).avoids.bind fun _ => .ite (fun _ => .pure _) fun _ => ?_
  refine (total_queryResourceInfo env _).avoids.bind fun res => ?_
  rcases res with hr | ⟨id, info⟩
  · exact (total_emit _).avoids.bind fun _ => .ite (fun _ => .pure _) fun _ => .pure _
  · cases info with
    | alloc3d info => exact (total_makeResourceResident _).avoids.bind fun _ => .pure _
    | blob info => exact .fault (not_isIndex_assertFailed _)
    | other tag => exact .fault (not_isIndex_assertFailed _)

/-- `create_shared_3d_resource` succeeds exactly with a resident 3D allocation. -/
theorem shared3d_succeeds_iff {desc : Texture2DDesc1} {primaryDesc : Option PrimaryDesc}
    {s : CallState} {info : Allocate3dFull} :
    (∃ shared s', Runs (createShared3dResource env desc primaryDesc hRTResource) s shared s' ∧
        failed shared.hr = false ∧ shared.info = some info) ↔
      allocate3dSupported desc = true ∧ failed env.allocate.hr = false ∧
        failed env.resourceInfo.hr = false ∧ env.resourceInfo.info = .alloc3d info ∧
        failed (residentHr env) = false := by
  constructor
  · rintro ⟨shared, s', hrun, hok, hinfo⟩
    cases runs_createShared3dResource hrun with
    | unsupported => cases hinfo
    | allocateFailed => cases hinfo
    | queryFailed => cases hinfo
    | cleanupFailed => cases hinfo
    | allocated h ha hq info' hi =>
        cases hinfo
        exact ⟨h, ha, hq, hi, hok⟩
  · rintro ⟨h, ha, hq, hi, hok⟩
    have hrun : Runs (createShared3dResource env desc primaryDesc hRTResource) s
        { hr := residentHr env
          hKMResource := env.allocate.hKMResource
          hAllocation := env.allocate.hAllocation
          id := env.resourceInfo.id
          info := some info }
        ((s.queried3d env desc primaryDesc hRTResource).log
          (residentEvents env env.allocate.hAllocation)) := by
      simp [createShared3dResource, CallState.queried3d, CallState.allocated3d, h, ha, hq, hi]
    exact ⟨_, _, hrun, hok, rfl⟩

/-- What follows the plane loop of the 3D path leaves no array. -/
theorem avoids_importPlanes {desc : Texture2DDesc1} {resource : VirtioWddmResource}
    {data : Option (List SubresourceData)} (info : Allocate3dFull)
    (planes : List VkSubresourceLayout) (shared : Shared3dResource) :
    Avoids Fault.IsIndex (do
      let modifierInfo : DrmFormatModifierInfo :=
        { drmFormatModifier := info.modifier
          planeCount := info.numPlanes
          planeLayouts := planes }
      let img ← createSharedVkImage env.vk desc .drmFormatModifier (some modifierInfo)
        (.importHandle hRTResource shared.hAllocation shared.id (.alloc3d info)) false
      let resource := (resource.withShared3d shared).withImage img
      if failed img.hr then do
        tritonSetError img.hr
        return resource
      importSharedTexture env desc resource data : Call VirtioWddmResource) := by
  refine Avoids.bind (total_createSharedVkImage _ _ _ _ _ _).avoids fun img => ?_
  exact .ite (fun _ => avoids_reportError _ _) fun _ => avoids_importSharedTexture

/-- The 3D path leaves the plane arrays exactly when `create_shared_3d_resource` succeeds
    with a reply that describes more than four planes. -/
theorem faults_createPresent3d {isPrimary : Bool} {desc : Texture2DDesc1}
    {resource : VirtioWddmResource} {data : Option (List SubresourceData)} {s : CallState}
    {f : Fault} (hf : f.IsIndex) :
    Faults (createPresent3d env pArgs isPrimary desc hRTResource resource data) s f ↔
      pArgs.resourceDimension = .texture2d ∧
        ∃ info, (∃ shared s',
          Runs (createShared3dResource env desc (if isPrimary then pArgs.pPrimaryDesc else none)
            hRTResource) s shared s' ∧ failed shared.hr = false ∧ shared.info = some info) ∧
          4 < info.numPlanes.toNat ∧ f = .indexOutOfBounds "planes" 4 := by
  constructor
  · intro hfault
    rw [createPresent3d] at hfault
    rcases faults_bind.mp hfault with h | ⟨u, s₀, hassert, hrest⟩
    · exact absurd hf (avoids_assertCall _ _ s f h)
    obtain ⟨hdim, -⟩ := runs_assertCall.mp hassert
    obtain rfl : s₀ = s := (runs_assertCall.mp hassert).2
    rcases faults_bind.mp hrest with h | ⟨shared, s₁, hshared, h⟩
    · exact absurd hf (avoids_createShared3dResource _ f h)
    refine ⟨by simpa using hdim, ?_⟩
    dsimp only at h
    rw [faults_ite] at h
    split at h
    case isTrue hfailed => exact absurd hf (avoids_reportError _ _ _ f h)
    case isFalse hok =>
    cases hinfo : shared.info with
    | none =>
        rw [hinfo] at h
        obtain ⟨array, index, rfl⟩ := hf
        cases faults_fault.mp h
    | some info =>
        rw [hinfo] at h
        rcases faults_bind.mp h with h | ⟨planes, s₂, -, h⟩
        · rw [faults_fillPlanes (by omega), Nat.zero_add] at h
          exact ⟨info, ⟨shared, s₁, hshared, by simpa using hok, hinfo⟩, h⟩
        · exact absurd hf (avoids_importPlanes info planes shared s₂ f h)
  · rintro ⟨hdim, info, ⟨shared, s₁, hshared, hok, hinfo⟩, hover, rfl⟩
    rw [createPresent3d]
    refine faults_bind.mpr (.inr ⟨(), s, runs_assertCall.mpr ⟨by simp [hdim], rfl⟩, ?_⟩)
    refine faults_bind.mpr (.inr ⟨shared, s₁, hshared, ?_⟩)
    dsimp only
    rw [faults_ite, if_neg (by simp [hok]), hinfo]
    refine faults_bind.mpr (.inl ?_)
    exact (faults_fillPlanes (by omega)).mpr ⟨by omega, rfl⟩

/-- CreateResource stays inside its arrays exactly when a reply that reaches the plane loop
    describes at most four planes. -/
theorem createResource_inBounds_iff :
    InBounds (virtioWddmCreateResource env pArgs hRTResource) ↔
      CreatePlanesFit env pArgs hRTResource := by
  have hbuild : Total (tritonBuildInitData env pArgs) :=
    fun _ => ⟨_, _, runs_tritonBuildInitData.mpr ⟨rfl, rfl⟩⟩
  constructor
  · intro hbounds info hreach
    by_contra hover
    refine hbounds {} "planes" 4 ?_
    rw [virtioWddmCreateResource, hbuild.faults_bind]
    refine ⟨_, _, runs_tritonBuildInitData.mpr ⟨rfl, rfl⟩, ?_⟩
    rw [if_pos hreach.present3d, faults_createPresent3d ⟨_, _, rfl⟩]
    refine ⟨hreach.dimension, info, shared3d_succeeds_iff.mpr ?_, by omega, rfl⟩
    exact ⟨hreach.supported, hreach.allocated, hreach.queried, hreach.info, hreach.resident⟩
  · intro hfit s array index h
    have hf : (Fault.indexOutOfBounds array index).IsIndex := ⟨array, index, rfl⟩
    rw [virtioWddmCreateResource, hbuild.faults_bind] at h
    obtain ⟨data, s₁, -, h⟩ := h
    split at h
    case isTrue h3 =>
      obtain ⟨hdim, info, hshared, hover, -⟩ := (faults_createPresent3d hf).mp h
      obtain ⟨hsup, ha, hq, hi, hres⟩ := shared3d_succeeds_iff.mp hshared
      have hle := hfit info
        { present3d := h3, dimension := hdim, supported := hsup, allocated := ha
          queried := hq, info := hi, resident := hres }
      omega
    case isFalse h3 =>
    split at h
    case isTrue => exact avoids_createSharedBlob _ _ h hf
    case isFalse => exact avoids_createPlain _ _ h hf

end Create

-- ============================================================================
-- Both calls
-- ============================================================================

/-- On a kernel reply both calls are safe exactly when it describes at most four planes
    wherever they loop over its planes. -/
theorem planes_inBounds_iff (env : DeviceEnv) (pArgs : OpenResourceArgs) (hRTResource : HANDLE)
    (hn : pArgs.numAllocations = 1)
    (himp : failed env.importTexture.hr = false → env.importTexture.object.isSome = true) :
    (OpenResourceSafe env pArgs hRTResource ↔ ReplyPlanesFit env) ∧
      ∀ createArgs, InBounds (virtioWddmCreateResource env createArgs hRTResource) ↔
        CreatePlanesFit env createArgs hRTResource :=
  ⟨openResourceSafe_iff hn himp, fun _ => createResource_inBounds_iff⟩

/-- A 64x64 reply with the given number of planes. -/
def planesReply (numPlanes : UINT) : DeviceEnv :=
  .allOk false
    (.alloc3d
      { alloc := allocate3dPriv (openedDesc (openedResource ⟨1, 0x21, 0x20⟩ 5))
        modifier := 0
        offsets := Vector.replicate 4 0
        strides := Vector.replicate 4 0x100
        sizes := Vector.replicate 4 0x4000
        numPlanes := numPlanes }) []

/-- Four planes are safe. -/
theorem planes_inBounds_four : OpenResourceSafe (planesReply 4) ⟨1, 0x21, 0x20⟩ 5 :=
  (planes_inBounds_iff (planesReply 4) ⟨1, 0x21, 0x20⟩ 5 rfl fun _ => rfl).1.mpr (by
    intro _ info hinfo
    cases hinfo
    decide)

/-- The fifth plane of a reply is read and written behind the arrays. -/
theorem planes_fifth_outOfBounds :
    ¬ ∀ (env : DeviceEnv) (pArgs : OpenResourceArgs) (hRTResource : HANDLE),
      pArgs.numAllocations = 1 →
      (failed env.importTexture.hr = false → env.importTexture.object.isSome = true) →
      OpenResourceSafe env pArgs hRTResource := by
  intro h
  have hsafe := h (planesReply 5) ⟨1, 0x21, 0x20⟩ 5 rfl fun _ => rfl
  exact hsafe.inBounds {} "planes" 4 rfl

end VirtioWddm
