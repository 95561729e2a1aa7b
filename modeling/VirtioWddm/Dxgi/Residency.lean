/-
  VirtioWddm.Dxgi.Residency

  `virtio_wddm_query_resource_residency` of `dxgi.c`.

  The loop keeps the code of the last resource that is not fully resident, not that of
  the least resident one.
-/

import Mathlib.Data.List.Induction
import Mathlib.Data.List.Perm.Basic
import VirtioWddm.Ddi.Types

namespace VirtioWddm

-- ============================================================================
-- The call
-- ============================================================================

def S_NOT_RESIDENT : HRESULT := 0x08760875#32
def S_RESIDENT_IN_SHARED_MEMORY : HRESULT := 0x08760876#32

/-- `D3DDDI_RESIDENCYSTATUS`, the kernel's answer for an allocation. -/
inductive D3dddiResidencyStatus where
  | residentInGpuMemory
  | residentInSharedMemory
  | notResident
deriving DecidableEq

/-- `DXGI_DDI_RESIDENCY`, an element of `pStatus`. -/
inductive DxgiDdiResidency where
  | fullyResident
  | residentInSharedMemory
  | evictedToDisk
deriving DecidableEq

/-- What the call returns, and the elements of `pStatus` it has written. -/
structure QueryResidencyResult where
  hr : HRESULT
  pStatus : List DxgiDdiResidency
deriving DecidableEq

/-- `pfnQueryResidencyCb` for one allocation. -/
abbrev QueryResidencyCb := D3DKMT_HANDLE → Except HRESULT D3dddiResidencyStatus

/-- The loop over the resources. -/
def residencyLoop (query : QueryResidencyCb) :
    List VirtioWddmResource → HRESULT → List DxgiDdiResidency → QueryResidencyResult
  | [], hr, pStatus => { hr := hr, pStatus := pStatus }
  | resource :: resources, hr, pStatus =>
      if resource.base.hKMAllocation = 0 then
        residencyLoop query resources hr (pStatus ++ [.fullyResident])
      else
        match query resource.base.hKMAllocation with
        | .error hr => { hr := hr, pStatus := pStatus }
        | .ok .residentInGpuMemory =>
            residencyLoop query resources hr (pStatus ++ [.fullyResident])
        | .ok .residentInSharedMemory =>
            residencyLoop query resources S_RESIDENT_IN_SHARED_MEMORY
              (pStatus ++ [.residentInSharedMemory])
        | .ok .notResident =>
            residencyLoop query resources S_NOT_RESIDENT (pStatus ++ [.evictedToDisk])

/-- `virtio_wddm_query_resource_residency`. -/
def virtioWddmQueryResourceResidency (query : QueryResidencyCb)
    (pResources : List VirtioWddmResource) : QueryResidencyResult :=
  residencyLoop query pResources S_OK []

-- ============================================================================
-- What the call is for
-- ============================================================================

/-- The kernel answers for every resource that has an allocation. -/
def QueriesSucceed (query : QueryResidencyCb) (pResources : List VirtioWddmResource) : Prop :=
  ∀ resource ∈ pResources, resource.base.hKMAllocation ≠ 0 →
    ∃ status, query resource.base.hKMAllocation = .ok status

/-- Where a resource is; one without an allocation is not evicted. -/
def residencyOf (query : QueryResidencyCb) (resource : VirtioWddmResource) : DxgiDdiResidency :=
  if resource.base.hKMAllocation = 0 then .fullyResident
  else
    match query resource.base.hKMAllocation with
    | .ok .residentInSharedMemory => .residentInSharedMemory
    | .ok .notResident => .evictedToDisk
    | _ => .fullyResident

/-- The summary of a list: its least resident element. -/
def residencySummary (statuses : List DxgiDdiResidency) : HRESULT :=
  if .evictedToDisk ∈ statuses then S_NOT_RESIDENT
  else if .residentInSharedMemory ∈ statuses then S_RESIDENT_IN_SHARED_MEMORY
  else S_OK

/-- The call on a list returns the summary, the same for every order of the list, and
    reports each resource. -/
structure SummarisesResidency (query : QueryResidencyCb) (pResources : List VirtioWddmResource) :
    Prop where
  perm : ∀ pResources', pResources'.Perm pResources →
    (virtioWddmQueryResourceResidency query pResources').hr =
      (virtioWddmQueryResourceResidency query pResources).hr
  summary : (virtioWddmQueryResourceResidency query pResources).hr =
    residencySummary (pResources.map (residencyOf query))
  pStatus : (virtioWddmQueryResourceResidency query pResources).pStatus =
    pResources.map (residencyOf query)

-- ============================================================================
-- The accumulated code
-- ============================================================================

/-- What one resource does to the code. -/
def accumulate (hr : HRESULT) : DxgiDdiResidency → HRESULT
  | .fullyResident => hr
  | .residentInSharedMemory => S_RESIDENT_IN_SHARED_MEMORY
  | .evictedToDisk => S_NOT_RESIDENT

/-- The resources that are not fully resident. -/
def displaced (statuses : List DxgiDdiResidency) : List DxgiDdiResidency :=
  statuses.filter fun status => status != .fullyResident

variable {query : QueryResidencyCb} {pResources : List VirtioWddmResource}
  {statuses : List DxgiDdiResidency}

theorem residencyLoop_eq (h : QueriesSucceed query pResources) (hr : HRESULT)
    (pStatus : List DxgiDdiResidency) :
    residencyLoop query pResources hr pStatus =
      { hr := (pResources.map (residencyOf query)).foldl accumulate hr
        pStatus := pStatus ++ pResources.map (residencyOf query) } := by
  induction pResources generalizing hr pStatus with
  | nil => rw [residencyLoop, List.map_nil, List.foldl_nil, List.append_nil]
  | cons resource resources ih =>
      have hrest : QueriesSucceed query resources :=
        fun r hr => h r (List.mem_cons_of_mem _ hr)
      rw [residencyLoop, List.map_cons, List.foldl_cons, residencyOf]
      split
      case isTrue =>
        rw [ih hrest, List.append_assoc]
        rfl
      case isFalse hne =>
        obtain ⟨status, hstatus⟩ := h resource List.mem_cons_self hne
        rw [hstatus]
        cases status with
        | residentInGpuMemory | residentInSharedMemory | notResident =>
            dsimp only
            rw [ih hrest, List.append_assoc]
            rfl

theorem virtioWddmQueryResourceResidency_eq (h : QueriesSucceed query pResources) :
    virtioWddmQueryResourceResidency query pResources =
      { hr := (pResources.map (residencyOf query)).foldl accumulate S_OK
        pStatus := pResources.map (residencyOf query) } := by
  rw [virtioWddmQueryResourceResidency, residencyLoop_eq h, List.nil_append]

theorem displaced_append_singleton (statuses : List DxgiDdiResidency)
    (status : DxgiDdiResidency) :
    displaced (statuses ++ [status]) =
      if status = .fullyResident then displaced statuses else displaced statuses ++ [status] := by
  rw [displaced, List.filter_append]
  cases status with
  | fullyResident => exact List.append_nil _
  | residentInSharedMemory => rfl
  | evictedToDisk => rfl

/-- The code is that of the last displaced resource. -/
theorem foldl_accumulate (hr : HRESULT) (statuses : List DxgiDdiResidency) :
    statuses.foldl accumulate hr = (displaced statuses).getLast?.elim hr (accumulate hr) := by
  -- from the back: the last resource overwrites the code unless it is fully resident
  induction statuses using List.reverseRecOn with
  | nil => rfl
  | append_singleton statuses status ih =>
      rw [List.foldl_concat, displaced_append_singleton]
      split
      case isTrue hfull =>
        rw [hfull]
        exact ih
      case isFalse hne =>
        rw [List.getLast?_concat]
        cases status with
        | fullyResident => exact absurd rfl hne
        | residentInSharedMemory => rfl
        | evictedToDisk => rfl

theorem mem_displaced {status : DxgiDdiResidency} (hne : status ≠ .fullyResident) :
    status ∈ displaced statuses ↔ status ∈ statuses := by
  rw [displaced, List.mem_filter]
  exact and_iff_left (bne_iff_ne.mpr hne)

theorem displaced_cases {status : DxgiDdiResidency} (h : status ∈ displaced statuses) :
    status = .residentInSharedMemory ∨ status = .evictedToDisk := by
  have hne := (List.mem_filter.mp h).2
  cases status with
  | fullyResident => exact absurd hne (by decide)
  | residentInSharedMemory => exact .inl rfl
  | evictedToDisk => exact .inr rfl

/-- The last displaced resource is evicted when no displaced resource is shared. -/
theorem getLast?_displaced_evicted (hevicted : .evictedToDisk ∈ statuses)
    (hshared : .residentInSharedMemory ∉ statuses) :
    (displaced statuses).getLast? = some .evictedToDisk := by
  have hmem : .evictedToDisk ∈ displaced statuses := (mem_displaced (by decide)).mpr hevicted
  have hne : displaced statuses ≠ [] := List.ne_nil_of_mem hmem
  rw [List.getLast?_eq_some_getLast hne]
  cases displaced_cases (List.getLast_mem hne) with
  | inl hlast =>
      have hlastMem := List.getLast_mem hne
      rw [hlast, mem_displaced (by decide)] at hlastMem
      exact absurd hlastMem hshared
  | inr hlast => rw [hlast]

-- ============================================================================
-- The summary
-- ============================================================================

/-- In one order, the code is the summary exactly when the last displaced resource is
    evicted if any is. -/
theorem foldl_accumulate_eq_summary_iff :
    statuses.foldl accumulate S_OK = residencySummary statuses ↔
      (.evictedToDisk ∈ statuses → (displaced statuses).getLast? = some .evictedToDisk) := by
  rw [foldl_accumulate, residencySummary]
  cases hlast : (displaced statuses).getLast? with
  | none =>
      have hnil : displaced statuses = [] := List.getLast?_eq_none_iff.mp hlast
      have hevicted : .evictedToDisk ∉ statuses := by
        rw [← mem_displaced (by decide), hnil]
        exact List.not_mem_nil
      have hshared : .residentInSharedMemory ∉ statuses := by
        rw [← mem_displaced (by decide), hnil]
        exact List.not_mem_nil
      rw [if_neg hevicted, if_neg hshared]
      exact ⟨fun _ h => absurd h hevicted, fun _ => rfl⟩
  | some status =>
      have hmem : status ∈ displaced statuses := List.mem_of_getLast? hlast
      cases displaced_cases hmem with
      | inl hshared =>
          rw [hshared]
          rw [hshared, mem_displaced (by decide)] at hmem
          by_cases hevicted : .evictedToDisk ∈ statuses
          · rw [if_pos hevicted]
            exact ⟨fun h => absurd h (by decide), fun h => absurd (h hevicted) (by decide)⟩
          · rw [if_neg hevicted, if_pos hmem]
            exact ⟨fun _ h => absurd h hevicted, fun _ => rfl⟩
      | inr hevicted =>
          rw [hevicted]
          rw [hevicted, mem_displaced (by decide)] at hmem
          rw [if_pos hmem]
          exact ⟨fun _ _ => rfl, fun _ => rfl⟩

theorem residencySummary_congr {statuses' : List DxgiDdiResidency}
    (h : ∀ status, status ∈ statuses' ↔ status ∈ statuses) :
    residencySummary statuses' = residencySummary statuses := by
  simp only [residencySummary, h]

theorem QueriesSucceed.perm {pResources' : List VirtioWddmResource}
    (h : QueriesSucceed query pResources) (hperm : pResources'.Perm pResources) :
    QueriesSucceed query pResources' :=
  fun resource hmem => h resource (hperm.mem_iff.mp hmem)

/-- A resource of the list can be put last. -/
theorem exists_perm_concat {resource : VirtioWddmResource} (h : resource ∈ pResources) :
    ∃ rest : List VirtioWddmResource, (rest ++ [resource]).Perm pResources := by
  obtain ⟨before, after, heq⟩ := List.append_of_mem h
  refine ⟨before ++ after, ?_⟩
  rw [heq, List.append_assoc]
  exact List.Perm.append_left before List.perm_append_comm

/-- Put last, a displaced resource decides the code. -/
theorem exists_perm_hr (h : QueriesSucceed query pResources) {status : DxgiDdiResidency}
    (hmem : status ∈ pResources.map (residencyOf query)) (hne : status ≠ .fullyResident) :
    ∃ pResources' : List VirtioWddmResource, pResources'.Perm pResources ∧
      (virtioWddmQueryResourceResidency query pResources').hr = accumulate S_OK status := by
  obtain ⟨resource, hresource, hstatus⟩ := List.mem_map.mp hmem
  obtain ⟨rest, hperm⟩ := exists_perm_concat hresource
  refine ⟨rest ++ [resource], hperm, ?_⟩
  rw [virtioWddmQueryResourceResidency_eq (h.perm hperm), foldl_accumulate]
  rw [List.map_append, List.map_singleton, hstatus, displaced_append_singleton, if_neg hne]
  rw [List.getLast?_concat]
  rfl

/-- The call summarises a list for every order of it exactly when the list does not mix
    evicted resources with resources in shared memory. -/
theorem virtioWddmQueryResourceResidency_summarises (query : QueryResidencyCb)
    (pResources : List VirtioWddmResource) (h : QueriesSucceed query pResources) :
    SummarisesResidency query pResources ↔
      ¬ (.evictedToDisk ∈ pResources.map (residencyOf query) ∧
        .residentInSharedMemory ∈ pResources.map (residencyOf query)) := by
  constructor
  · intro hsum hmixed
    obtain ⟨evicted, hevicted, hhr⟩ := exists_perm_hr h hmixed.1 (by decide)
    obtain ⟨shared, hshared, hhr'⟩ := exists_perm_hr h hmixed.2 (by decide)
    have heq : accumulate S_OK .evictedToDisk = accumulate S_OK .residentInSharedMemory :=
      calc accumulate S_OK .evictedToDisk
        _ = (virtioWddmQueryResourceResidency query pResources).hr :=
          hhr.symm.trans (hsum.perm evicted hevicted)
        _ = accumulate S_OK .residentInSharedMemory := (hsum.perm shared hshared).symm.trans hhr'
    exact absurd heq (by decide)
  · intro hpure
    have hhr : ∀ pResources' : List VirtioWddmResource, pResources'.Perm pResources →
        (virtioWddmQueryResourceResidency query pResources').hr =
          residencySummary (pResources.map (residencyOf query)) := by
      intro pResources' hperm
      have hmem : ∀ status, status ∈ pResources'.map (residencyOf query) ↔
          status ∈ pResources.map (residencyOf query) :=
        fun status => (hperm.map (residencyOf query)).mem_iff
      rw [virtioWddmQueryResourceResidency_eq (h.perm hperm), ← residencySummary_congr hmem]
      apply foldl_accumulate_eq_summary_iff.mpr
      intro hevicted
      apply getLast?_displaced_evicted hevicted
      intro hshared
      exact hpure ⟨(hmem _).mp hevicted, (hmem _).mp hshared⟩
    exact {
      perm := fun pResources' hperm => (hhr pResources' hperm).trans (hhr _ (.refl _)).symm
      summary := hhr pResources (.refl _)
      pStatus := by rw [virtioWddmQueryResourceResidency_eq h] }

/-- A kernel with allocation 1 evicted and every other one in shared memory. -/
def mixedResidency : QueryResidencyCb := fun hAllocation =>
  .ok (if hAllocation = 1 then .notResident else .residentInSharedMemory)

def allocatedResource (hKMAllocation : D3DKMT_HANDLE) : VirtioWddmResource :=
  { base := { hKMAllocation := hKMAllocation } }

theorem mixedResidency_succeeds (pResources : List VirtioWddmResource) :
    QueriesSucceed mixedResidency pResources :=
  fun _ _ _ => ⟨_, rfl⟩

/-- A list with an evicted resource and one without an allocation is summarised. -/
theorem evicted_summarised :
    SummarisesResidency mixedResidency [allocatedResource 1, allocatedResource 0] :=
  (virtioWddmQueryResourceResidency_summarises mixedResidency
    [allocatedResource 1, allocatedResource 0] (mixedResidency_succeeds _)).mpr (by decide)

/-- An evicted resource before one in shared memory is not reported. -/
theorem mixed_notSummarised :
    ¬ ∀ (query : QueryResidencyCb) (pResources : List VirtioWddmResource),
      QueriesSucceed query pResources → SummarisesResidency query pResources := by
  intro h
  have hsum := h mixedResidency [allocatedResource 1, allocatedResource 2]
    (mixedResidency_succeeds _)
  exact absurd hsum.summary (by decide)

end VirtioWddm
