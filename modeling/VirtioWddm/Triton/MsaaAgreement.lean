/-
  VirtioWddm.Triton.MsaaAgreement

  The agreement between the multisample answers that the runtime validates.

  All answers about a format along a run are functions of one mask, the one the
  final caches give (`AnsweredBy`).  The mask has the multisample bit only where the
  4x quality is positive and the format a target, and the targets of one family
  have one quality.
-/

import VirtioWddm.Triton.QueryRun

namespace VirtioWddm

open Lib

-- ============================================================================
-- Positive qualities
-- ============================================================================

/-- A depth-stencil target of the host. -/
def hostDepthStencil (host : CapsHost) (format : DxgiFormat) : Bool :=
  succeeded (host.checkFormatSupport format).hr &&
    hasFlag (host.checkFormatSupport format).value D3D11_FORMAT_SUPPORT_DEPTH_STENCIL

/-- A positive quality is published only for a format whose support the host
    confirms. -/
theorem succeeded_of_entryQuality {host : CapsHost} {format : DxgiFormat} {sampleCount : UINT}
    (h : 0#32 < entryQuality host format sampleCount) :
    succeeded (host.checkFormatSupport format).hr = true := by
  have hzero : ¬(0#32 : UINT) < 0#32 := by decide
  unfold entryQuality at h
  split at h
  · -- a family member: `tritonHostRenderTargetable`
    unfold memberQuality at h
    split at h
    · exact absurd h hzero
    split at h
    case isTrue htarget =>
      rw [tritonHostRenderTargetable_eq, Bool.and_eq_true] at htarget
      exact htarget.1
    case isFalse => exact absurd h hzero
  · -- a standalone format: `tritonNativeMsaaQuality`
    unfold tritonNativeMsaaQuality at h
    dsimp only at h
    split at h
    case isTrue => exact absurd h hzero
    case isFalse hok =>
      have hnot : failed (host.checkFormatSupport format).hr = false :=
        Bool.eq_false_iff.mpr (not_or.mp hok).1
      rw [succeeded, hnot, Bool.not_false]

section Mask

variable {host : CapsHost} {asked : Set DxgiFormat} {caches : CapsCaches}

theorem CachesCoherent.succeeded_of_four (hcaches : CachesCoherent host asked caches)
    {format : DxgiFormat} {quality : UINT} (h : FourQuality host caches format quality)
    (hpos : 0#32 < quality) : succeeded (host.checkFormatSupport format).hr = true := by
  have hentry : quality = 0#32 ∨ quality = entryQuality host format 4#32 := by
    rcases h with hfresh | hlookup
    · cases hb : tritonMsaaBlacklisted format with
      | false =>
          rw [freshQuality_eq_entryQuality (by decide) (by decide) hb] at hfresh
          exact .inr hfresh
      | true =>
          rw [freshQuality_of_blacklisted (by decide) hb] at hfresh
          exact .inl hfresh
    · exact .inr (hcaches.msaa (format, 4#32) quality hlookup)
  rcases hentry with rfl | hentry
  · exact absurd hpos (by decide)
  · exact succeeded_of_entryQuality (hentry ▸ hpos)

variable (hhost : host.QualitiesBounded)
include hhost

/-- A mask with the multisample bit is that of a target with a positive quality. -/
theorem CachesCoherent.of_multisample (hcaches : CachesCoherent host asked caches)
    {format : DxgiFormat}
    (h : hasFlag (tritonCheckFormatSupport host caches format).1
      D3D10_DDI_FORMAT_SUPPORT_MULTISAMPLE_RENDERTARGET = true) :
    ∃ quality, (tritonCheckFormatSupport host caches format).1 = formatCaps host format quality ∧
      FourQuality host caches format quality ∧ 0#32 < quality ∧
        supportTargetable host format = true := by
  rcases hcaches.maskOf hhost format with ⟨-, hzero⟩ | ⟨-, quality, hcaps, hfour⟩
  · rw [hzero, hasFlag_zero] at h
    exact absurd h Bool.false_ne_true
  rw [hcaps, formatCaps_multisample, Bool.and_eq_true, decide_eq_true_eq] at h
  exact ⟨quality, hcaps, hfour, h.1, h.2⟩

/-- A mask with the multisample bit belongs to a target, and has the load bit. -/
theorem CachesCoherent.mask_target (hcaches : CachesCoherent host asked caches)
    {format : DxgiFormat}
    (h : hasFlag (tritonCheckFormatSupport host caches format).1
      D3D10_DDI_FORMAT_SUPPORT_MULTISAMPLE_RENDERTARGET = true) :
    (hasFlag (tritonCheckFormatSupport host caches format).1
        D3D10_DDI_FORMAT_SUPPORT_RENDERTARGET = true ∨ hostDepthStencil host format = true) ∧
      hasFlag (tritonCheckFormatSupport host caches format).1
        D3D10_DDI_FORMAT_SUPPORT_MULTISAMPLE_LOAD = true := by
  obtain ⟨quality, hcaps, hfour, hpos, htarget⟩ := hcaches.of_multisample hhost h
  have hsucceeded := hcaches.succeeded_of_four hfour hpos
  rw [hcaps] at h ⊢
  refine ⟨?_, formatCaps_load host format quality h⟩
  rw [formatCaps_renderTarget, hostDepthStencil, hsucceeded, Bool.true_and]
  exact (Bool.or_eq_true ..).mp htarget

/-- Off the blacklist the host alone decides on the multisample bit. -/
theorem CachesCoherent.mask_multisample (hcaches : CachesCoherent host asked caches)
    {format : DxgiFormat} (hb : tritonMsaaBlacklisted format = false)
    (hyes : hostAnswersFormat host format = true) :
    hasFlag (tritonCheckFormatSupport host caches format).1
        D3D10_DDI_FORMAT_SUPPORT_MULTISAMPLE_RENDERTARGET =
      (decide (0#32 < freshQuality host format 4#32) && supportTargetable host format) := by
  rcases hcaches.maskOf hhost format with ⟨hno, -⟩ | ⟨-, quality, hcaps, hfour⟩
  · exact nomatch hyes.symm.trans hno
  have hquality : quality = freshQuality host format 4#32 := by
    rcases hfour with hfresh | hlookup
    · exact hfresh
    · exact hcaches.lookup_eq_fresh hb hlookup
  rw [hcaps, formatCaps_multisample, hquality]

end Mask

-- ============================================================================
-- Answers by one mask
-- ============================================================================

/-- The answer to a query about a format with the given mask. -/
def AnsweredBy (host : CapsHost) (caps : UINT) : CapsQuery → UINT → Prop
  | .formatSupport _, answer => answer = caps
  | .qualityLevels format sampleCount, answer =>
      if hasFlag caps D3D10_DDI_FORMAT_SUPPORT_MULTISAMPLE_RENDERTARGET then
        (tritonMsaaBlacklisted format = false → answer = freshQuality host format sampleCount) ∧
          (sampleCount = 4#32 → 0#32 < answer)
      else answer = if sampleCount ≤ 1#32 ∧ caps ≠ 0#32 then 1#32 else 0#32

section Answered

variable {host : CapsHost} {caches : CapsCaches} (hhost : host.QualitiesBounded)
include hhost

/-- With the multisample bit in the mask the 4x quality is positive, also where a
    sibling has published it. -/
theorem CachesCoherent.four_pos (hcaches : CachesCoherent host Set.univ caches)
    {format : DxgiFormat}
    (h : hasFlag (tritonCheckFormatSupport host caches format).1
      D3D10_DDI_FORMAT_SUPPORT_MULTISAMPLE_RENDERTARGET = true) :
    0#32 < (tritonMsaaQuality host (tritonCheckFormatSupport host caches format).2
      format 4#32).1 := by
  have hsupport := hcaches.after_formatSupport hhost (Set.mem_univ format)
  have hgrow := hcaches.formatSupport_grow hhost format
  obtain ⟨quality, -, hfour, hpos, -⟩ := hcaches.of_multisample hhost h
  suffices hquality : (tritonMsaaQuality host (tritonCheckFormatSupport host caches format).2
      format 4#32).1 = quality by
    rw [hquality]
    exact hpos
  rcases hfour with hfresh | hlookup
  · cases hb : tritonMsaaBlacklisted format with
    | false => rw [hsupport.msaaQuality_eq_fresh hhost hb, hfresh]
    | true =>
        rw [hfresh, freshQuality_of_blacklisted (by decide) hb] at hpos
        exact absurd hpos (by decide)
  · have hkept := hgrow.msaa (format, 4#32) quality hlookup
    rw [CapsCaches.msaaTable] at hkept
    simp only [tritonMsaaQuality, hkept]

theorem CachesCoherent.answeredBy (hcaches : CachesCoherent host Set.univ caches)
    (query : CapsQuery) :
    AnsweredBy host (tritonCheckFormatSupport host caches query.format).1 query
      (ask host caches query).1 := by
  cases query with
  | formatSupport format => exact rfl
  | qualityLevels format sampleCount =>
      have hsupport := hcaches.after_formatSupport hhost (Set.mem_univ format)
      simp only [AnsweredBy, ask, tritonCheckMultisampleQualityLevels, CapsQuery.format]
      split
      case isTrue hbit =>
        refine ⟨fun hb => hsupport.msaaQuality_eq_fresh hhost hb sampleCount, ?_⟩
        rintro rfl
        exact hcaches.four_pos hhost hbit
      case isFalse => rfl

/-- Along a run every answer is given by the mask that the final caches hold. -/
theorem CachesCoherent.transcript_answeredBy (hcaches : CachesCoherent host Set.univ caches)
    (queries : List CapsQuery) :
    ∀ answer ∈ transcript host caches queries,
      AnsweredBy host (tritonCheckFormatSupport host (cachesAfter host caches queries)
        answer.1.format).1 answer.1 answer.2 := by
  induction queries generalizing caches with
  | nil => exact List.forall_mem_nil _
  | cons query queries ih =>
      have hstep := hcaches.after_ask hhost (Set.mem_univ query.format)
      have hfinal := hstep.after_run hhost fun query (_ : query ∈ queries) =>
        Set.mem_univ query.format
      have hgrow := (hcaches.ask_grow hhost query).trans (hstep.run_grow hhost queries)
      have hsettled := hcaches.mask_settled hhost hfinal hgrow
      refine List.forall_mem_cons.mpr ⟨?_, ih hstep⟩
      show AnsweredBy host (tritonCheckFormatSupport host
        (cachesAfter host (ask host caches query).2 queries) query.format).1 query
          (ask host caches query).1
      rw [hsettled]
      exact hcaches.answeredBy hhost query

end Answered

-- ============================================================================
-- Agreement
-- ============================================================================

/-- Two members of one family, other than the three-channel one, that the host can
    use as targets. -/
structure MsaaSiblings (host : CapsHost) (format format' : DxgiFormat) : Prop where
  family : ∃ group ∈ kMsaaGroups, group ≠ r32g32b32Group ∧ format ∈ group ∧ format' ∈ group
  targetable : tritonHostRenderTargetable host format = true
  targetable' : tritonHostRenderTargetable host format' = true
  not_view : tritonMsaaReadOnlyDepthView format = false
  not_view' : tritonMsaaReadOnlyDepthView format' = false

theorem MsaaSiblings.symm {host : CapsHost} {format format' : DxgiFormat}
    (h : MsaaSiblings host format format') : MsaaSiblings host format' format := by
  obtain ⟨⟨group, hrow, hne, hmem, hmem'⟩, htarget, htarget', hview, hview'⟩ := h
  exact ⟨⟨group, hrow, hne, hmem', hmem⟩, htarget', htarget, hview', hview⟩

theorem MsaaSiblings.not_blacklisted {host : CapsHost} {format format' : DxgiFormat}
    (h : MsaaSiblings host format format') : tritonMsaaBlacklisted format = false := by
  obtain ⟨group, hrow, hne, hmem, -⟩ := h.family
  cases hb : tritonMsaaBlacklisted format with
  | false => rfl
  | true =>
      have hsame : some group = some r32g32b32Group :=
        (tritonMsaaGroup_of_mem hrow hmem).symm.trans (blacklisted_group hb).1
      exact absurd (Option.some.inj hsame) hne

/-- Every target of a family has the family's quality. -/
theorem MsaaSiblings.freshQuality_eq {host : CapsHost} {format format' : DxgiFormat}
    (h : MsaaSiblings host format format') (sampleCount : UINT) :
    freshQuality host format sampleCount = freshQuality host format' sampleCount := by
  have hb := h.not_blacklisted
  have hb' := h.symm.not_blacklisted
  obtain ⟨⟨group, hrow, -, hmem, hmem'⟩, htarget, htarget', hview, hview'⟩ := h
  have hentry : entryQuality host format sampleCount = entryQuality host format' sampleCount := by
    rw [entryQuality_of_mem hrow hmem, entryQuality_of_mem hrow hmem']
    simp only [memberQuality, htarget, htarget', hview, hview']
  simp only [freshQuality, hb, hb', hentry]

theorem MsaaSiblings.target {host : CapsHost} {format format' : DxgiFormat}
    (h : MsaaSiblings host format format') :
    hostAnswersFormat host format = true ∧ supportTargetable host format = true := by
  have htarget := h.targetable
  rw [tritonHostRenderTargetable_eq, Bool.and_eq_true] at htarget
  exact ⟨hostAnswersFormat_of_succeeded htarget.1, htarget.2⟩

/-- What the runtime validates over the answers it has been given. -/
structure MsaaAgreement (host : CapsHost) (answers : List (CapsQuery × UINT)) : Prop where
  bit_iff_quality : ∀ format caps quality, (.formatSupport format, caps) ∈ answers →
    (.qualityLevels format 4#32, quality) ∈ answers →
      (hasFlag caps D3D10_DDI_FORMAT_SUPPORT_MULTISAMPLE_RENDERTARGET = true ↔ 0#32 < quality)
  bit_of_quality : ∀ format caps sampleCount quality, 2#32 ≤ sampleCount →
    (.formatSupport format, caps) ∈ answers →
      (.qualityLevels format sampleCount, quality) ∈ answers → 0#32 < quality →
        hasFlag caps D3D10_DDI_FORMAT_SUPPORT_MULTISAMPLE_RENDERTARGET = true
  family_bit : ∀ format format' caps caps', MsaaSiblings host format format' →
    (.formatSupport format, caps) ∈ answers → (.formatSupport format', caps') ∈ answers →
      hasFlag caps D3D10_DDI_FORMAT_SUPPORT_MULTISAMPLE_RENDERTARGET =
        hasFlag caps' D3D10_DDI_FORMAT_SUPPORT_MULTISAMPLE_RENDERTARGET
  family_quality : ∀ format format' sampleCount quality quality',
    MsaaSiblings host format format' → 2#32 ≤ sampleCount →
      (.qualityLevels format sampleCount, quality) ∈ answers →
        (.qualityLevels format' sampleCount, quality') ∈ answers → quality = quality'
  target : ∀ format caps, (.formatSupport format, caps) ∈ answers →
    hasFlag caps D3D10_DDI_FORMAT_SUPPORT_MULTISAMPLE_RENDERTARGET = true →
      (hasFlag caps D3D10_DDI_FORMAT_SUPPORT_RENDERTARGET = true ∨
        hostDepthStencil host format = true) ∧
      hasFlag caps D3D10_DDI_FORMAT_SUPPORT_MULTISAMPLE_LOAD = true

section Agreement

variable {host : CapsHost} {caps quality sampleCount : UINT} {format : DxgiFormat}

theorem AnsweredBy.quality_of_bit
    (hbit : hasFlag caps D3D10_DDI_FORMAT_SUPPORT_MULTISAMPLE_RENDERTARGET = true)
    (h : AnsweredBy host caps (.qualityLevels format sampleCount) quality) :
    (tritonMsaaBlacklisted format = false → quality = freshQuality host format sampleCount) ∧
      (sampleCount = 4#32 → 0#32 < quality) := by
  rw [AnsweredBy, if_pos hbit] at h
  exact h

theorem AnsweredBy.quality_of_no_bit
    (hbit : hasFlag caps D3D10_DDI_FORMAT_SUPPORT_MULTISAMPLE_RENDERTARGET = false)
    (hc : 2#32 ≤ sampleCount)
    (h : AnsweredBy host caps (.qualityLevels format sampleCount) quality) : quality = 0#32 := by
  have hmany : ¬(sampleCount ≤ 1#32 ∧ caps ≠ 0#32) := by
    rintro ⟨hone, -⟩
    bv_omega
  rw [AnsweredBy, hbit, if_neg Bool.false_ne_true, if_neg hmany] at h
  exact h

/-- A positive quality for a real sample count comes with the multisample bit. -/
theorem AnsweredBy.bit_of_pos (hc : 2#32 ≤ sampleCount) (hpos : 0#32 < quality)
    (h : AnsweredBy host caps (.qualityLevels format sampleCount) quality) :
    hasFlag caps D3D10_DDI_FORMAT_SUPPORT_MULTISAMPLE_RENDERTARGET = true := by
  by_contra hbit
  have hzero := h.quality_of_no_bit (Bool.eq_false_iff.mpr hbit) hc
  rw [hzero] at hpos
  exact absurd hpos (by decide)

variable (hhost : host.QualitiesBounded)
include hhost

/-- Targets of one family have the same multisample bit. -/
theorem CachesCoherent.siblings_bit {asked : Set DxgiFormat} {caches : CapsCaches}
    (hcaches : CachesCoherent host asked caches) {format format' : DxgiFormat}
    (h : MsaaSiblings host format format') :
    hasFlag (tritonCheckFormatSupport host caches format).1
        D3D10_DDI_FORMAT_SUPPORT_MULTISAMPLE_RENDERTARGET =
      hasFlag (tritonCheckFormatSupport host caches format').1
        D3D10_DDI_FORMAT_SUPPORT_MULTISAMPLE_RENDERTARGET := by
  obtain ⟨hyes, hsupport⟩ := h.target
  obtain ⟨hyes', hsupport'⟩ := h.symm.target
  rw [hcaches.mask_multisample hhost h.not_blacklisted hyes,
    hcaches.mask_multisample hhost h.symm.not_blacklisted hyes', hsupport, hsupport',
    h.freshQuality_eq 4#32]

end Agreement

/-- Whatever the host answers and in whatever order the runtime asks, the answers
    agree. -/
theorem transcript_agreement (host : CapsHost) (hhost : host.QualitiesBounded)
    (queries : List CapsQuery) : MsaaAgreement host (transcript host {} queries) := by
  have hempty : CachesCoherent host Set.univ {} :=
    (cachesCoherent_empty host).mono (Set.empty_subset _)
  have hfinal : CachesCoherent host Set.univ (cachesAfter host {} queries) :=
    cachesCoherent_after hhost fun query _ => Set.mem_univ query.format
  have hanswers := hempty.transcript_answeredBy hhost queries
  -- the mask of a format, as the final caches give it
  have hmask : ∀ format caps, (.formatSupport format, caps) ∈ transcript host {} queries →
      caps = (tritonCheckFormatSupport host (cachesAfter host {} queries) format).1 :=
    fun format caps hcaps => hanswers _ hcaps
  have hlevels : ∀ format sampleCount quality,
      (.qualityLevels format sampleCount, quality) ∈ transcript host {} queries →
        AnsweredBy host (tritonCheckFormatSupport host (cachesAfter host {} queries) format).1
          (.qualityLevels format sampleCount) quality :=
    fun format sampleCount quality hquality => hanswers _ hquality
  refine ⟨?_, ?_, ?_, ?_, ?_⟩
  · intro format caps quality hcaps hquality
    have hanswer := hlevels format 4#32 quality hquality
    rw [hmask format caps hcaps]
    exact ⟨fun hbit => (hanswer.quality_of_bit hbit).2 rfl,
      fun hpos => hanswer.bit_of_pos (by decide) hpos⟩
  · intro format caps sampleCount quality hc hcaps hquality hpos
    have hanswer := hlevels format sampleCount quality hquality
    rw [hmask format caps hcaps]
    exact hanswer.bit_of_pos hc hpos
  · intro format format' caps caps' hsiblings hcaps hcaps'
    rw [hmask format caps hcaps, hmask format' caps' hcaps']
    exact hfinal.siblings_bit hhost hsiblings
  · intro format format' sampleCount quality quality' hsiblings hc hquality hquality'
    have hanswer := hlevels format sampleCount quality hquality
    have hanswer' := hlevels format' sampleCount quality' hquality'
    have hbits := hfinal.siblings_bit hhost hsiblings
    cases hbit : hasFlag (tritonCheckFormatSupport host (cachesAfter host {} queries) format).1
        D3D10_DDI_FORMAT_SUPPORT_MULTISAMPLE_RENDERTARGET with
    | true =>
        rw [(hanswer.quality_of_bit hbit).1 hsiblings.not_blacklisted,
          (hanswer'.quality_of_bit (hbits.symm.trans hbit)).1 hsiblings.symm.not_blacklisted,
          hsiblings.freshQuality_eq sampleCount]
    | false =>
        rw [hanswer.quality_of_no_bit hbit hc,
          hanswer'.quality_of_no_bit (hbits.symm.trans hbit) hc]
  · intro format caps hcaps hbit
    rw [hmask format caps hcaps] at hbit ⊢
    exact hfinal.mask_target hhost hbit

-- ============================================================================
-- A host with one depth family
-- ============================================================================

/-- The parent and the depth member of `R24G8` are multisampled depth targets, its
    read views can be sampled, and the host knows no other format. -/
def r24g8Host : CapsHost where
  checkFormatSupport format :=
    if [DxgiFormat.R24G8_TYPELESS, DxgiFormat.D24_UNORM_S8_UINT].contains format then
      ⟨S_OK, D3D11_FORMAT_SUPPORT_DEPTH_STENCIL |||
        D3D11_FORMAT_SUPPORT_MULTISAMPLE_RENDERTARGET⟩
    else if tritonMsaaReadOnlyDepthView format then
      ⟨S_OK, D3D11_FORMAT_SUPPORT_SHADER_SAMPLE⟩
    else
      ⟨E_FAIL, 0#32⟩
  formatSupport2 _ := ⟨E_FAIL, 0#32⟩
  checkMultisampleQualityLevels format _ :=
    if format = DxgiFormat.D24_UNORM_S8_UINT then ⟨S_OK, 2#32⟩ else ⟨S_OK, 1#32⟩

/-- The parent carries the quality of its depth member, and the read view only the
    load bit. -/
theorem transcript_r24g8 :
    transcript r24g8Host {}
        [.qualityLevels .R24G8_TYPELESS 4#32, .formatSupport .R24G8_TYPELESS,
          .formatSupport .D24_UNORM_S8_UINT, .formatSupport .R24_UNORM_X8_TYPELESS] =
      [(.qualityLevels .R24G8_TYPELESS 4#32, 2#32), (.formatSupport .R24G8_TYPELESS, 0x18#32),
        (.formatSupport .D24_UNORM_S8_UINT, 0x18#32),
        (.formatSupport .R24_UNORM_X8_TYPELESS, 0x11#32)] ∧
    MsaaAgreement r24g8Host (transcript r24g8Host {}
      [.qualityLevels .R24G8_TYPELESS 4#32, .formatSupport .R24G8_TYPELESS,
        .formatSupport .D24_UNORM_S8_UINT, .formatSupport .R24_UNORM_X8_TYPELESS]) := by
  refine ⟨rfl, transcript_agreement r24g8Host ?_ _⟩
  intro format sampleCount
  show (if format = DxgiFormat.D24_UNORM_S8_UINT then (⟨S_OK, 2#32⟩ : HostWord)
    else ⟨S_OK, 1#32⟩).value.toNat < 2 ^ 31
  split <;> decide

end VirtioWddm
