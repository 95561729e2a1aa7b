/-
  VirtioWddm.Triton.QueryCache

  What one call of `tritonMsaaQuality` answers and publishes.

  `entryQuality` is the value the code publishes for a format and a sample count,
  whoever asks.  It is also the uncached answer (`freshQuality`), but for the two
  blacklisted formats: queries for their siblings publish entries for them, while
  their own uncached answer is `0`.
-/

import VirtioWddm.Triton.Query
import VirtioWddm.Lib.Memo

namespace VirtioWddm

open Lib

-- ============================================================================
-- Cache words
-- ============================================================================

/-- The value leaves the validity bit free. -/
def Storable (v : UINT) : Prop :=
  v &&& TRITON_CACHE_VALID = 0#32

theorem storable_of_lt {v : UINT} (h : v.toNat < 2 ^ 31) : Storable v :=
  and_topBit_eq_zero h

theorem storable_zero : Storable 0#32 := rfl

theorem cachedWord_zero : cachedWord 0#32 = none := rfl

/-- A published value is read back. -/
theorem cachedWord_publish {v : UINT} (h : Storable v) :
    cachedWord (v ||| TRITON_CACHE_VALID) = some v := by
  have hvalid : TRITON_CACHE_VALID ≠ 0#32 := by decide
  rw [cachedWord, if_pos (hasFlag_or_self hvalid), or_and_not h]

namespace CapsCaches

variable {caches : CapsCaches} {format format' : DxgiFormat} {sampleCount sampleCount' val : UINT}

theorem lookupMsaa_publishMsaa (hf : format < 256#32) (hc : sampleCount ≤ 32#32)
    (hv : Storable val) :
    (caches.publishMsaa format sampleCount val).lookupMsaa format' sampleCount' =
      if format' = format ∧ sampleCount' = sampleCount then some val
      else caches.lookupMsaa format' sampleCount' := by
  by_cases hformat : format' = format
  · subst hformat
    by_cases hcount : sampleCount' = sampleCount
    · subst hcount
      simp [lookupMsaa, publishMsaa, hf, hc, cachedWord_publish hv]
    · simp [lookupMsaa, publishMsaa, hcount]
  · simp [lookupMsaa, publishMsaa, hformat]

theorem lookupFmt_publishFmt (hf : format < 256#32) (hv : Storable val) :
    (caches.publishFmt format val).lookupFmt format' =
      if format' = format then some val else caches.lookupFmt format' := by
  by_cases hformat : format' = format
  · subst hformat
    simp [lookupFmt, publishFmt, hf, cachedWord_publish hv]
  · simp [lookupFmt, publishFmt, hformat]

end CapsCaches

-- ============================================================================
-- Published values
-- ============================================================================

/-- The host's qualities leave the validity bit free. -/
def CapsHost.QualitiesBounded (host : CapsHost) : Prop :=
  ∀ format sampleCount, (host.checkMultisampleQualityLevels format sampleCount).value.toNat < 2 ^ 31

/-- What the code publishes for a format and a sample count. -/
def entryQuality (host : CapsHost) (format : DxgiFormat) (sampleCount : UINT) : UINT :=
  match tritonMsaaGroup format with
  | some group => memberQuality host (famMax host group sampleCount) format
  | none => tritonNativeMsaaQuality host format sampleCount

/-- The answer of `tritonMsaaQuality` where nothing is cached. -/
def freshQuality (host : CapsHost) (format : DxgiFormat) (sampleCount : UINT) : UINT :=
  if sampleCount = 1#32 then 1#32
  else if sampleCount = 0#32 ∨ 32#32 < sampleCount then 0#32
  else if tritonMsaaBlacklisted format then 0#32
  else entryQuality host format sampleCount

theorem entryQuality_of_mem {host : CapsHost} {group : List DxgiFormat}
    (hgroup : group ∈ kMsaaGroups) {format : DxgiFormat} (hformat : format ∈ group)
    (sampleCount : UINT) :
    entryQuality host format sampleCount =
      memberQuality host (famMax host group sampleCount) format := by
  rw [entryQuality, tritonMsaaGroup_of_mem hgroup hformat]

section Storable

variable {host : CapsHost} (hhost : host.QualitiesBounded)
include hhost

theorem storable_native (format : DxgiFormat) (sampleCount : UINT) :
    Storable (tritonNativeMsaaQuality host format sampleCount) := by
  unfold tritonNativeMsaaQuality
  dsimp only
  split
  · exact storable_zero
  · exact storable_of_lt (hhost format sampleCount)

theorem storable_famMax (group : List DxgiFormat) (sampleCount : UINT) :
    Storable (famMax host group sampleCount) := by
  suffices hfold : ∀ acc, Storable acc → Storable (group.foldl
      (fun famMax format =>
        if tritonMsaaForbidden format then famMax
        else
          let m := tritonNativeMsaaQuality host format sampleCount
          if famMax < m then m else famMax) acc) from hfold 0#32 storable_zero
  induction group with
  | nil => exact fun acc hacc => hacc
  | cons format group ih =>
      intro acc hacc
      refine ih _ ?_
      dsimp only
      split
      · exact hacc
      · split
        · exact storable_native hhost format sampleCount
        · exact hacc

end Storable

theorem storable_member {host : CapsHost} {famMax : UINT} (h : Storable famMax)
    (format : DxgiFormat) : Storable (memberQuality host famMax format) := by
  unfold memberQuality
  split
  · exact storable_zero
  · split
    · exact h
    · exact storable_zero

-- ============================================================================
-- tritonMsaaQuality
-- ============================================================================

/-- The valid entries of the MSAA cache. -/
def CapsCaches.msaaTable (caches : CapsCaches) (key : DxgiFormat × UINT) : Option UINT :=
  caches.lookupMsaa key.1 key.2

/-- A query for `asker` publishes an entry of `format`. -/
def PublishesFor (asker format : DxgiFormat) : Prop :=
  match tritonMsaaGroup asker with
  | some group => format ∈ group
  | none => format = asker ∧ asker < 256#32

/-- The family loop publishes the member's value for every member, and nothing
    else. -/
theorem lookupMsaa_publishFamily (host : CapsHost) {famMax sampleCount : UINT}
    (hfam : Storable famMax) (hc : sampleCount ≤ 32#32) {group : List DxgiFormat}
    (hgroup : ∀ format ∈ group, format < 256#32) (caches : CapsCaches) (format : DxgiFormat)
    (sampleCount' : UINT) :
    (publishFamily host famMax sampleCount caches group).lookupMsaa format sampleCount' =
      if format ∈ group ∧ sampleCount' = sampleCount then some (memberQuality host famMax format)
      else caches.lookupMsaa format sampleCount' := by
  induction group generalizing caches with
  | nil => simp [publishFamily]
  | cons member group ih =>
      obtain ⟨hmember, hrest⟩ := List.forall_mem_cons.mp hgroup
      have hstep : publishFamily host famMax sampleCount caches (member :: group) =
          publishFamily host famMax sampleCount
            (caches.publishMsaa member sampleCount (memberQuality host famMax member)) group := by
        rw [publishFamily, List.foldl_cons, if_pos hmember]
        rfl
      rw [hstep, ih hrest,
        CapsCaches.lookupMsaa_publishMsaa hmember hc (storable_member hfam member)]
      by_cases hcount : sampleCount' = sampleCount
      · by_cases hformat : format = member
        · subst hformat
          simp [hcount]
        · simp [hcount, hformat]
      · simp [hcount]

theorem fmt_publishFamily (host : CapsHost) (famMax sampleCount : UINT) (caches : CapsCaches)
    (group : List DxgiFormat) :
    (publishFamily host famMax sampleCount caches group).fmt = caches.fmt := by
  induction group generalizing caches with
  | nil => rfl
  | cons member group ih =>
      rw [publishFamily, List.foldl_cons]
      refine (ih _).trans ?_
      split <;> rfl

/-- What one call of `tritonMsaaQuality` does: answer from the cache, answer without
    touching it, or publish entries. -/
inductive MsaaQualityRun (host : CapsHost) (caches : CapsCaches) (format : DxgiFormat)
    (sampleCount : UINT) : UINT × CapsCaches → Prop where
  | cached (quality : UINT) (h : caches.lookupMsaa format sampleCount = some quality) :
      MsaaQualityRun host caches format sampleCount (quality, caches)
  | unpublished (h : caches.lookupMsaa format sampleCount = none)
      (hno : sampleCount < 2#32 ∨ 32#32 < sampleCount ∨ tritonMsaaBlacklisted format = true) :
      MsaaQualityRun host caches format sampleCount (freshQuality host format sampleCount, caches)
  | published (h : caches.lookupMsaa format sampleCount = none) (hc2 : 2#32 ≤ sampleCount)
      (hc32 : sampleCount ≤ 32#32) (hb : tritonMsaaBlacklisted format = false)
      (caches' : CapsCaches) (hfmt : caches'.fmt = caches.fmt)
      (hrecorded : Recorded (fun key => entryQuality host key.1 key.2)
        (fun key => PublishesFor format key.1 ∧ key.2 = sampleCount) caches.msaaTable
        caches'.msaaTable) :
      MsaaQualityRun host caches format sampleCount
        (freshQuality host format sampleCount, caches')

/-- The family branch. -/
theorem recorded_publishFamily {host : CapsHost} (hhost : host.QualitiesBounded)
    {format : DxgiFormat} {group : List DxgiFormat} (hgroup : tritonMsaaGroup format = some group)
    {sampleCount : UINT} (hc : sampleCount ≤ 32#32) (caches : CapsCaches) :
    Recorded (fun key => entryQuality host key.1 key.2)
      (fun key => PublishesFor format key.1 ∧ key.2 = sampleCount) caches.msaaTable
      (publishFamily host (famMax host group sampleCount) sampleCount caches group).msaaTable := by
  have hrow := (mem_of_tritonMsaaGroup hgroup).1
  have hlookup := lookupMsaa_publishFamily host (storable_famMax hhost group sampleCount) hc
    (fun member hmember => lt_256_of_mem hrow hmember) caches
  rintro ⟨format', sampleCount'⟩
  unfold PublishesFor CapsCaches.msaaTable
  rw [hgroup, hlookup]
  dsimp only
  by_cases hkey : format' ∈ group ∧ sampleCount' = sampleCount
  · refine .inl ⟨hkey, ?_⟩
    rw [if_pos hkey, hkey.2, entryQuality_of_mem hrow hkey.1]
  · exact .inr ⟨hkey, if_neg hkey⟩

/-- The branch of a format without family. -/
theorem recorded_publishNative {host : CapsHost} (hhost : host.QualitiesBounded)
    {format : DxgiFormat} (hgroup : tritonMsaaGroup format = none) {sampleCount : UINT}
    (hc : sampleCount ≤ 32#32) (caches : CapsCaches) :
    Recorded (fun key => entryQuality host key.1 key.2)
      (fun key => PublishesFor format key.1 ∧ key.2 = sampleCount) caches.msaaTable
      (if format < 256#32 ∧ sampleCount ≤ 32#32 then
        caches.publishMsaa format sampleCount (tritonNativeMsaaQuality host format sampleCount)
      else
        caches).msaaTable := by
  rintro ⟨format', sampleCount'⟩
  unfold PublishesFor CapsCaches.msaaTable
  rw [hgroup]
  dsimp only
  by_cases hf : format < 256#32
  · rw [if_pos ⟨hf, hc⟩,
      CapsCaches.lookupMsaa_publishMsaa hf hc (storable_native hhost format sampleCount)]
    by_cases hkey : format' = format ∧ sampleCount' = sampleCount
    · refine .inl ⟨⟨⟨hkey.1, hf⟩, hkey.2⟩, ?_⟩
      rw [if_pos hkey, hkey.1, hkey.2, entryQuality, hgroup]
    · exact .inr ⟨fun hkey' => hkey ⟨hkey'.1.1, hkey'.2⟩, if_neg hkey⟩
  · rw [if_neg fun hboth => hf hboth.1]
    exact .inr ⟨fun hkey => hf hkey.1.2, rfl⟩

theorem tritonMsaaQuality_run {host : CapsHost} (hhost : host.QualitiesBounded)
    (caches : CapsCaches) (format : DxgiFormat) (sampleCount : UINT) :
    MsaaQualityRun host caches format sampleCount
      (tritonMsaaQuality host caches format sampleCount) := by
  cases hlookup : caches.lookupMsaa format sampleCount with
  | some quality =>
      simp only [tritonMsaaQuality, hlookup]
      exact .cached quality hlookup
  | none =>
      have hstay : tritonMsaaQuality host caches format sampleCount =
            (freshQuality host format sampleCount, caches) →
          (sampleCount < 2#32 ∨ 32#32 < sampleCount ∨ tritonMsaaBlacklisted format = true) →
          MsaaQualityRun host caches format sampleCount
            (tritonMsaaQuality host caches format sampleCount) := by
        intro hrun hno
        rw [hrun]
        exact .unpublished hlookup hno
      by_cases hone : sampleCount = 1#32
      · refine hstay ?_ (.inl (by rw [hone]; decide))
        simp only [tritonMsaaQuality, hlookup, freshQuality, if_pos hone]
      by_cases hrange : sampleCount = 0#32 ∨ 32#32 < sampleCount
      · refine hstay ?_ ?_
        · simp only [tritonMsaaQuality, hlookup, freshQuality, if_neg hone, if_pos hrange]
        · rcases hrange with hzero | hbig
          · exact .inl (by rw [hzero]; decide)
          · exact .inr (.inl hbig)
      by_cases hb : tritonMsaaBlacklisted format = true
      · refine hstay ?_ (.inr (.inr hb))
        simp only [tritonMsaaQuality, hlookup, freshQuality, if_neg hone, if_neg hrange, if_pos hb]
      obtain ⟨hzero, hbig⟩ := not_or.mp hrange
      have hc2 : 2#32 ≤ sampleCount := by bv_omega
      have hc32 : sampleCount ≤ 32#32 := BitVec.not_lt.mp hbig
      have hb' : tritonMsaaBlacklisted format = false := by simpa using hb
      have hfresh : freshQuality host format sampleCount =
          entryQuality host format sampleCount := by
        rw [freshQuality, if_neg hone, if_neg hrange, if_neg hb]
      cases hgroup : tritonMsaaGroup format with
      | some group =>
          have hrun : tritonMsaaQuality host caches format sampleCount =
              (freshQuality host format sampleCount,
                publishFamily host (famMax host group sampleCount) sampleCount caches group) := by
            rw [hfresh, entryQuality]
            simp only [tritonMsaaQuality, hlookup, if_neg hone, if_neg hrange, if_neg hb, hgroup]
          rw [hrun]
          exact .published hlookup hc2 hc32 hb' _ (fmt_publishFamily ..)
            (recorded_publishFamily hhost hgroup hc32 caches)
      | none =>
          have hrun : tritonMsaaQuality host caches format sampleCount =
              (freshQuality host format sampleCount,
                if format < 256#32 ∧ sampleCount ≤ 32#32 then
                  caches.publishMsaa format sampleCount
                    (tritonNativeMsaaQuality host format sampleCount)
                else
                  caches) := by
            rw [hfresh, entryQuality]
            simp only [tritonMsaaQuality, hlookup, if_neg hone, if_neg hrange, if_neg hb, hgroup]
          rw [hrun]
          refine .published hlookup hc2 hc32 hb' _ ?_
            (recorded_publishNative hhost hgroup hc32 caches)
          split <;> rfl

end VirtioWddm
