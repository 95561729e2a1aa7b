/-
  VirtioWddm.Triton.QueryRun

  Runs of capability queries and what they keep.

  Every query leaves coherent caches coherent and forgets nothing, so the invariant
  holds along every run from empty caches.  The mask of a format is settled by the
  first query about it.
-/

import VirtioWddm.Triton.QueryCache
import Mathlib.Data.Set.Basic

namespace VirtioWddm

open Lib

-- ============================================================================
-- Queries
-- ============================================================================

/-- The capability queries of the runtime. -/
inductive CapsQuery where
  | formatSupport (format : DxgiFormat)
  | qualityLevels (format : DxgiFormat) (sampleCount : UINT)
deriving DecidableEq

def CapsQuery.format : CapsQuery → DxgiFormat
  | formatSupport format => format
  | qualityLevels format _ => format

/-- The answer to a query and the caches it leaves. -/
def ask (host : CapsHost) (caches : CapsCaches) : CapsQuery → UINT × CapsCaches
  | .formatSupport format => tritonCheckFormatSupport host caches format
  | .qualityLevels format sampleCount =>
      tritonCheckMultisampleQualityLevels host caches format sampleCount

/-- The caches after a run of queries. -/
def cachesAfter (host : CapsHost) (caches : CapsCaches) (queries : List CapsQuery) : CapsCaches :=
  queries.foldl (fun caches query => (ask host caches query).2) caches

/-- The queries of a run with their answers. -/
def transcript (host : CapsHost) : CapsCaches → List CapsQuery → List (CapsQuery × UINT)
  | _, [] => []
  | caches, query :: queries =>
      let asked := ask host caches query
      (query, asked.1) :: transcript host asked.2 queries

-- ============================================================================
-- Coherent caches
-- ============================================================================

/-- A 4x quality the code may go by: the uncached one or the published one. -/
def FourQuality (host : CapsHost) (caches : CapsCaches) (format : DxgiFormat) (quality : UINT) :
    Prop :=
  quality = freshQuality host format 4#32 ∨ caches.lookupMsaa format 4#32 = some quality

/-- A mask the code may answer. -/
def MaskOf (host : CapsHost) (caches : CapsCaches) (format : DxgiFormat) (caps : UINT) : Prop :=
  hostAnswersFormat host format = false ∧ caps = 0#32 ∨
    hostAnswersFormat host format = true ∧
      ∃ quality, caps = formatCaps host format quality ∧ FourQuality host caches format quality

/-- What the caches hold after queries for the formats in `asked`. -/
structure CachesCoherent (host : CapsHost) (asked : Set DxgiFormat) (caches : CapsCaches) :
    Prop where
  msaa : Coherent (fun key => entryQuality host key.1 key.2) caches.msaaTable
  /-- Somebody has asked for what is published. -/
  asker : ∀ format sampleCount quality, caches.lookupMsaa format sampleCount = some quality →
    2#32 ≤ sampleCount ∧ sampleCount ≤ 32#32 ∧ ∃ asker ∈ asked,
      tritonMsaaBlacklisted asker = false ∧ hostAnswersFormat host asker = true ∧
        PublishesFor asker format
  fmt : ∀ format caps, caches.lookupFmt format = some caps →
    hostAnswersFormat host format = true ∧ ∃ quality, caps = formatCaps host format quality ∧
      FourQuality host caches format quality

/-- The caches forget nothing. -/
structure CachesGrow (caches caches' : CapsCaches) : Prop where
  msaa : Extends caches.msaaTable caches'.msaaTable
  fmt : Extends caches.lookupFmt caches'.lookupFmt

theorem CachesGrow.refl (caches : CapsCaches) : CachesGrow caches caches :=
  ⟨Extends.refl _, Extends.refl _⟩

theorem CachesGrow.trans {caches caches' caches'' : CapsCaches} (h : CachesGrow caches caches')
    (h' : CachesGrow caches' caches'') : CachesGrow caches caches'' :=
  ⟨h.msaa.trans h'.msaa, h.fmt.trans h'.fmt⟩

theorem lookupMsaa_empty (format : DxgiFormat) (sampleCount : UINT) :
    ({} : CapsCaches).lookupMsaa format sampleCount = none := by
  unfold CapsCaches.lookupMsaa
  split
  · exact cachedWord_zero
  · rfl

theorem lookupFmt_empty (format : DxgiFormat) : ({} : CapsCaches).lookupFmt format = none := by
  unfold CapsCaches.lookupFmt
  split
  · exact cachedWord_zero
  · rfl

theorem cachesCoherent_empty (host : CapsHost) : CachesCoherent host ∅ {} where
  msaa := by
    have hempty : ({} : CapsCaches).msaaTable = fun _ => none :=
      funext fun key => lookupMsaa_empty key.1 key.2
    rw [hempty]
    exact coherent_empty _
  asker := by
    intro format sampleCount quality h
    rw [lookupMsaa_empty] at h
    exact nomatch h
  fmt := by
    intro format caps h
    rw [lookupFmt_empty] at h
    exact nomatch h

theorem CachesCoherent.mono {host : CapsHost} {asked asked' : Set DxgiFormat} {caches : CapsCaches}
    (h : CachesCoherent host asked caches) (hasked : asked ⊆ asked') :
    CachesCoherent host asked' caches where
  msaa := h.msaa
  asker := by
    intro format sampleCount quality hlookup
    obtain ⟨h2, h32, asker, hmem, hasker⟩ := h.asker format sampleCount quality hlookup
    exact ⟨h2, h32, asker, hasked hmem, hasker⟩
  fmt := h.fmt

theorem FourQuality.mono {host : CapsHost} {caches caches' : CapsCaches} {format : DxgiFormat}
    {quality : UINT} (h : FourQuality host caches format quality)
    (hgrow : Extends caches.msaaTable caches'.msaaTable) :
    FourQuality host caches' format quality := by
  rcases h with hfresh | hlookup
  · exact .inl hfresh
  · exact .inr (hgrow (format, 4#32) quality hlookup)

-- ============================================================================
-- The published quality and the uncached one
-- ============================================================================

theorem freshQuality_of_blacklisted {host : CapsHost} {format : DxgiFormat} {sampleCount : UINT}
    (hc : 2#32 ≤ sampleCount) (hb : tritonMsaaBlacklisted format = true) :
    freshQuality host format sampleCount = 0#32 := by
  have hone : sampleCount ≠ 1#32 := by bv_omega
  rw [freshQuality, if_neg hone, if_pos hb, ite_self]

theorem freshQuality_eq_entryQuality {host : CapsHost} {format : DxgiFormat} {sampleCount : UINT}
    (hc2 : 2#32 ≤ sampleCount) (hc32 : sampleCount ≤ 32#32)
    (hb : tritonMsaaBlacklisted format = false) :
    freshQuality host format sampleCount = entryQuality host format sampleCount := by
  have hone : sampleCount ≠ 1#32 := by bv_omega
  have hrange : ¬(sampleCount = 0#32 ∨ 32#32 < sampleCount) := by bv_omega
  rw [freshQuality, if_neg hone, if_neg hrange, if_neg (by rw [hb]; exact Bool.false_ne_true)]

section Coherent

variable {host : CapsHost} {asked : Set DxgiFormat} {caches : CapsCaches}

/-- Off the blacklist the published quality is the uncached one. -/
theorem CachesCoherent.lookup_eq_fresh (hcaches : CachesCoherent host asked caches)
    {format : DxgiFormat} (hb : tritonMsaaBlacklisted format = false) {sampleCount quality : UINT}
    (h : caches.lookupMsaa format sampleCount = some quality) :
    quality = freshQuality host format sampleCount := by
  obtain ⟨hc2, hc32, -⟩ := hcaches.asker format sampleCount quality h
  rw [freshQuality_eq_entryQuality hc2 hc32 hb]
  exact hcaches.msaa (format, sampleCount) quality h

-- ============================================================================
-- tritonMsaaQuality
-- ============================================================================

variable (hhost : host.QualitiesBounded)
include hhost

theorem tritonMsaaQuality_of_lookup_none {format : DxgiFormat} {sampleCount : UINT}
    (h : caches.lookupMsaa format sampleCount = none) :
    (tritonMsaaQuality host caches format sampleCount).1 =
      freshQuality host format sampleCount := by
  have hrun := tritonMsaaQuality_run hhost caches format sampleCount
  generalize tritonMsaaQuality host caches format sampleCount = result at hrun ⊢
  cases hrun with
  | cached quality hlookup => exact nomatch h.symm.trans hlookup
  | unpublished => rfl
  | published => rfl

/-- The 4x quality is one the code may go by. -/
theorem tritonMsaaQuality_four (caches : CapsCaches) (format : DxgiFormat) :
    FourQuality host caches format (tritonMsaaQuality host caches format 4#32).1 := by
  cases hlookup : caches.lookupMsaa format 4#32 with
  | none => exact .inl (tritonMsaaQuality_of_lookup_none hhost hlookup)
  | some quality =>
      refine .inr ?_
      simp only [tritonMsaaQuality, hlookup]

/-- Off the blacklist the answer does not depend on the caches. -/
theorem CachesCoherent.msaaQuality_eq_fresh (hcaches : CachesCoherent host asked caches)
    {format : DxgiFormat} (hb : tritonMsaaBlacklisted format = false) (sampleCount : UINT) :
    (tritonMsaaQuality host caches format sampleCount).1 =
      freshQuality host format sampleCount := by
  cases hlookup : caches.lookupMsaa format sampleCount with
  | none => exact tritonMsaaQuality_of_lookup_none hhost hlookup
  | some quality =>
      have hquality : quality = freshQuality host format sampleCount :=
        hcaches.lookup_eq_fresh hb hlookup
      simp only [tritonMsaaQuality, hlookup, hquality]

theorem fmt_tritonMsaaQuality (caches : CapsCaches) (format : DxgiFormat) (sampleCount : UINT) :
    (tritonMsaaQuality host caches format sampleCount).2.lookupFmt = caches.lookupFmt := by
  have hrun := tritonMsaaQuality_run hhost caches format sampleCount
  generalize tritonMsaaQuality host caches format sampleCount = result at hrun ⊢
  cases hrun with
  | cached => rfl
  | unpublished => rfl
  | published _ _ _ _ caches' hfmt _ =>
      funext format'
      simp only [CapsCaches.lookupFmt, hfmt]

theorem CachesCoherent.msaaQuality_grow (hcaches : CachesCoherent host asked caches)
    (format : DxgiFormat) (sampleCount : UINT) :
    CachesGrow caches (tritonMsaaQuality host caches format sampleCount).2 := by
  have hfmt := fmt_tritonMsaaQuality hhost caches format sampleCount
  refine ⟨?_, by rw [hfmt]; exact Extends.refl _⟩
  have hrun := tritonMsaaQuality_run hhost caches format sampleCount
  generalize tritonMsaaQuality host caches format sampleCount = result at hrun ⊢
  cases hrun with
  | cached => exact Extends.refl _
  | unpublished => exact Extends.refl _
  | published _ _ _ _ _ _ hrecorded => exact hrecorded.keeps hcaches.msaa

theorem CachesCoherent.after_msaaQuality (hcaches : CachesCoherent host asked caches)
    {format : DxgiFormat} (hasked : format ∈ asked)
    (hanswers : hostAnswersFormat host format = true) (sampleCount : UINT) :
    CachesCoherent host asked (tritonMsaaQuality host caches format sampleCount).2 := by
  have hfmt := fmt_tritonMsaaQuality hhost caches format sampleCount
  have hgrow := hcaches.msaaQuality_grow hhost format sampleCount
  have hrun := tritonMsaaQuality_run hhost caches format sampleCount
  generalize tritonMsaaQuality host caches format sampleCount = result at hfmt hgrow hrun ⊢
  cases hrun with
  | cached => exact hcaches
  | unpublished => exact hcaches
  | published _ hc2 hc32 hb caches' _ hrecorded =>
      refine ⟨hrecorded.coherent hcaches.msaa, ?_, ?_⟩
      · intro format' sampleCount' quality hlookup
        rcases hrecorded.eq_some (k := (format', sampleCount')) hlookup with ⟨hfor, hcount⟩ | hold
        · dsimp only at hcount
          subst hcount
          exact ⟨hc2, hc32, format, hasked, hb, hanswers, hfor⟩
        · exact hcaches.asker format' sampleCount' quality hold
      · intro format' caps hlookup
        rw [hfmt] at hlookup
        obtain ⟨hyes, quality, hcaps, hquality⟩ := hcaches.fmt format' caps hlookup
        exact ⟨hyes, quality, hcaps, hquality.mono hgrow.msaa⟩

-- ============================================================================
-- tritonCheckFormatSupport
-- ============================================================================

omit hhost in
/-- The mask bits of a published mask leave the validity bit free. -/
theorem storable_formatCaps (format : DxgiFormat) (quality : UINT) :
    Storable (formatCaps host format quality) := by
  have hvalid : hasFlag (formatCaps host format quality) TRITON_CACHE_VALID = false :=
    formatCaps_valid host format quality
  unfold Storable
  simpa [hasFlag] using hvalid

omit hhost in
/-- A call with no cached mask, for a format the host answers for. -/
theorem tritonCheckFormatSupport_computed {format : DxgiFormat}
    (hlookup : caches.lookupFmt format = none) (hyes : hostAnswersFormat host format = true) :
    tritonCheckFormatSupport host caches format =
      (formatCaps host format (tritonMsaaQuality host caches format 4#32).1,
        if format < 256#32 then
          (tritonMsaaQuality host caches format 4#32).2.publishFmt format
            (formatCaps host format (tritonMsaaQuality host caches format 4#32).1)
        else
          (tritonMsaaQuality host caches format 4#32).2) := by
  simp only [tritonCheckFormatSupport, hlookup, hyes, Bool.true_eq_false, if_false]

/-- The masks after a call that computes one. -/
theorem lookupFmt_tritonCheckFormatSupport {format : DxgiFormat}
    (hlookup : caches.lookupFmt format = none) (hyes : hostAnswersFormat host format = true)
    (format' : DxgiFormat) :
    (tritonCheckFormatSupport host caches format).2.lookupFmt format' =
      if format' = format ∧ format < 256#32 then
        some (formatCaps host format (tritonMsaaQuality host caches format 4#32).1)
      else caches.lookupFmt format' := by
  have hfmt := fmt_tritonMsaaQuality hhost caches format 4#32
  rw [tritonCheckFormatSupport_computed hlookup hyes]
  by_cases hf : format < 256#32
  · simp only [if_pos hf]
    rw [CapsCaches.lookupFmt_publishFmt hf (storable_formatCaps format _), hfmt]
    simp only [hf, and_true]
  · simp only [hf, and_false, if_false, hfmt]

omit hhost in
theorem msaaTable_tritonCheckFormatSupport (host : CapsHost) {format : DxgiFormat}
    (hlookup : caches.lookupFmt format = none) (hyes : hostAnswersFormat host format = true) :
    (tritonCheckFormatSupport host caches format).2.msaaTable =
      (tritonMsaaQuality host caches format 4#32).2.msaaTable := by
  rw [tritonCheckFormatSupport_computed hlookup hyes]
  by_cases hf : format < 256#32
  · simp only [if_pos hf]
    rfl
  · simp only [if_neg hf]

omit hhost in
theorem tritonCheckFormatSupport_cached {format : DxgiFormat} {caps : UINT}
    (hlookup : caches.lookupFmt format = some caps) :
    tritonCheckFormatSupport host caches format = (caps, caches) := by
  simp only [tritonCheckFormatSupport, hlookup]

omit hhost in
theorem tritonCheckFormatSupport_unanswered {format : DxgiFormat}
    (hlookup : caches.lookupFmt format = none) (hno : hostAnswersFormat host format = false) :
    tritonCheckFormatSupport host caches format = (0#32, caches) := by
  simp only [tritonCheckFormatSupport, hlookup, hno, if_true]

/-- The answer is a mask by a quality the code may go by. -/
theorem CachesCoherent.maskOf (hcaches : CachesCoherent host asked caches) (format : DxgiFormat) :
    MaskOf host caches format (tritonCheckFormatSupport host caches format).1 := by
  cases hlookup : caches.lookupFmt format with
  | some caps =>
      rw [tritonCheckFormatSupport_cached hlookup]
      exact .inr (hcaches.fmt format caps hlookup)
  | none =>
      cases hyes : hostAnswersFormat host format with
      | false =>
          rw [tritonCheckFormatSupport_unanswered hlookup hyes]
          exact .inl ⟨hyes, rfl⟩
      | true =>
          rw [tritonCheckFormatSupport_computed hlookup hyes]
          exact .inr ⟨hyes, _, rfl, tritonMsaaQuality_four hhost caches format⟩

theorem CachesCoherent.formatSupport_grow (hcaches : CachesCoherent host asked caches)
    (format : DxgiFormat) :
    CachesGrow caches (tritonCheckFormatSupport host caches format).2 := by
  cases hlookup : caches.lookupFmt format with
  | some caps =>
      rw [tritonCheckFormatSupport_cached hlookup]
      exact CachesGrow.refl caches
  | none =>
      cases hyes : hostAnswersFormat host format with
      | false =>
          rw [tritonCheckFormatSupport_unanswered hlookup hyes]
          exact CachesGrow.refl caches
      | true =>
          refine ⟨?_, ?_⟩
          · rw [msaaTable_tritonCheckFormatSupport host hlookup hyes]
            exact (hcaches.msaaQuality_grow hhost format 4#32).msaa
          · intro format' caps hold
            rw [lookupFmt_tritonCheckFormatSupport hhost hlookup hyes]
            have hne : ¬(format' = format ∧ format < 256#32) := by
              rintro ⟨rfl, -⟩
              rw [hlookup] at hold
              exact nomatch hold
            rw [if_neg hne, hold]

theorem CachesCoherent.after_formatSupport (hcaches : CachesCoherent host asked caches)
    {format : DxgiFormat} (hasked : format ∈ asked) :
    CachesCoherent host asked (tritonCheckFormatSupport host caches format).2 := by
  have hgrow := hcaches.formatSupport_grow hhost format
  cases hlookup : caches.lookupFmt format with
  | some caps =>
      rw [tritonCheckFormatSupport_cached hlookup]
      exact hcaches
  | none =>
      cases hyes : hostAnswersFormat host format with
      | false =>
          rw [tritonCheckFormatSupport_unanswered hlookup hyes]
          exact hcaches
      | true =>
          have hmsaa := msaaTable_tritonCheckFormatSupport host hlookup hyes
          have hquality := hcaches.after_msaaQuality hhost hasked hyes 4#32
          refine ⟨?_, ?_, ?_⟩
          · rw [hmsaa]
            exact hquality.msaa
          · intro format' sampleCount quality hentry
            have hsame := congrFun hmsaa (format', sampleCount)
            exact hquality.asker format' sampleCount quality (hsame.symm.trans hentry)
          · intro format' caps hmask
            rw [lookupFmt_tritonCheckFormatSupport hhost hlookup hyes] at hmask
            split at hmask
            case isTrue hthis =>
              obtain ⟨rfl, -⟩ := hthis
              have hfour := tritonMsaaQuality_four hhost caches format'
              exact ⟨hyes, _, (Option.some.inj hmask).symm, hfour.mono hgrow.msaa⟩
            case isFalse =>
              obtain ⟨hyes', quality, hcaps, hfour⟩ := hcaches.fmt format' caps hmask
              exact ⟨hyes', quality, hcaps, hfour.mono hgrow.msaa⟩

/-- The first query about a format settles its mask: later caches give the same. -/
theorem CachesCoherent.mask_settled (hcaches : CachesCoherent host asked caches)
    {format : DxgiFormat} {asked' : Set DxgiFormat} {caches' : CapsCaches}
    (hcaches' : CachesCoherent host asked' caches')
    (hgrow : CachesGrow (tritonCheckFormatSupport host caches format).2 caches') :
    (tritonCheckFormatSupport host caches' format).1 =
      (tritonCheckFormatSupport host caches format).1 := by
  cases hyes : hostAnswersFormat host format with
  | false =>
      have hzero : ∀ {asked : Set DxgiFormat} {caches : CapsCaches},
          CachesCoherent host asked caches →
          (tritonCheckFormatSupport host caches format).1 = 0#32 := by
        intro asked caches hcaches
        rcases hcaches.maskOf hhost format with ⟨-, hmask⟩ | ⟨hyes', -⟩
        · exact hmask
        · rw [hyes] at hyes'
          exact nomatch hyes'
      rw [hzero hcaches, hzero hcaches']
  | true =>
      by_cases hf : format < 256#32
      · have hstored : (tritonCheckFormatSupport host caches format).2.lookupFmt format =
            some (tritonCheckFormatSupport host caches format).1 := by
          cases hlookup : caches.lookupFmt format with
          | some caps => rw [tritonCheckFormatSupport_cached hlookup, hlookup]
          | none =>
              rw [lookupFmt_tritonCheckFormatSupport hhost hlookup hyes, if_pos ⟨rfl, hf⟩,
                tritonCheckFormatSupport_computed hlookup hyes]
        rw [tritonCheckFormatSupport_cached (hgrow.fmt format _ hstored)]
      · -- from 256 on nothing is ever cached for the format
        have hfresh : ∀ caches : CapsCaches, (tritonCheckFormatSupport host caches format).1 =
            formatCaps host format (freshQuality host format 4#32) := by
          intro caches
          have hfmt : caches.lookupFmt format = none := if_neg hf
          have hmsaa : caches.lookupMsaa format 4#32 = none := if_neg fun hboth => hf hboth.1
          rw [tritonCheckFormatSupport_computed hfmt hyes,
            tritonMsaaQuality_of_lookup_none hhost hmsaa]
        rw [hfresh, hfresh]

-- ============================================================================
-- Runs
-- ============================================================================

/-- A set bit in a mask comes from a host that answers. -/
theorem CachesCoherent.answers_of_hasFlag (hcaches : CachesCoherent host asked caches)
    {format : DxgiFormat} {m : UINT}
    (h : hasFlag (tritonCheckFormatSupport host caches format).1 m = true) :
    hostAnswersFormat host format = true := by
  rcases hcaches.maskOf hhost format with ⟨-, hzero⟩ | ⟨hyes, -⟩
  · rw [hzero, hasFlag_zero] at h
    exact nomatch h
  · exact hyes

/-- Every query begins with the mask of its format. -/
theorem CachesCoherent.ask_grow (hcaches : CachesCoherent host asked caches) (query : CapsQuery) :
    CachesGrow (tritonCheckFormatSupport host caches query.format).2 (ask host caches query).2 := by
  cases query with
  | formatSupport format => exact CachesGrow.refl _
  | qualityLevels format sampleCount =>
      have hcaches' : CachesCoherent host Set.univ caches := hcaches.mono (Set.subset_univ asked)
      have hsupport := hcaches'.after_formatSupport hhost (Set.mem_univ format)
      simp only [ask, tritonCheckMultisampleQualityLevels, CapsQuery.format]
      split
      · exact hsupport.msaaQuality_grow hhost format sampleCount
      · exact CachesGrow.refl _

theorem CachesCoherent.after_ask (hcaches : CachesCoherent host asked caches) {query : CapsQuery}
    (hasked : query.format ∈ asked) : CachesCoherent host asked (ask host caches query).2 := by
  cases query with
  | formatSupport format => exact hcaches.after_formatSupport hhost hasked
  | qualityLevels format sampleCount =>
      have hsupport := hcaches.after_formatSupport hhost hasked
      simp only [ask, tritonCheckMultisampleQualityLevels]
      split
      case isTrue hbit =>
        have hyes := hcaches.answers_of_hasFlag hhost hbit
        exact hsupport.after_msaaQuality hhost hasked hyes sampleCount
      case isFalse => exact hsupport

theorem CachesCoherent.after_run (hcaches : CachesCoherent host asked caches)
    {queries : List CapsQuery} (hasked : ∀ query ∈ queries, query.format ∈ asked) :
    CachesCoherent host asked (cachesAfter host caches queries) := by
  induction queries generalizing caches with
  | nil => exact hcaches
  | cons query queries ih =>
      obtain ⟨hquery, hrest⟩ := List.forall_mem_cons.mp hasked
      exact ih (hcaches.after_ask hhost hquery) hrest

theorem CachesCoherent.run_grow (hcaches : CachesCoherent host Set.univ caches)
    (queries : List CapsQuery) : CachesGrow caches (cachesAfter host caches queries) := by
  induction queries generalizing caches with
  | nil => exact CachesGrow.refl caches
  | cons query queries ih =>
      have hsupport := hcaches.formatSupport_grow hhost query.format
      have hstep := hsupport.trans (hcaches.ask_grow hhost query)
      exact hstep.trans (ih (hcaches.after_ask hhost (Set.mem_univ _)))

/-- What a run of queries keeps from empty caches on. -/
theorem cachesCoherent_after {queries : List CapsQuery}
    (hasked : ∀ query ∈ queries, query.format ∈ asked) :
    CachesCoherent host asked (cachesAfter host {} queries) := by
  have hempty := (cachesCoherent_empty host).mono (Set.empty_subset asked)
  exact hempty.after_run hhost hasked

end Coherent

end VirtioWddm
