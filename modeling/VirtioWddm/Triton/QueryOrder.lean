/-
  VirtioWddm.Triton.QueryOrder

  Whether the answer to a query depends on the queries before it.

  The uncached path of `tritonMsaaQuality` answers `0` for a blacklisted format; the
  family loop of a query for a sibling publishes the family's quality for it all the
  same, and the cached path then answers that.  `Poisonable` says for which formats
  this can be seen; every other answer is the one the query gets when asked first.
-/

import VirtioWddm.Triton.QueryRun

namespace VirtioWddm

open Lib

-- ============================================================================
-- Answers without history
-- ============================================================================

/-- The mask that empty caches give. -/
def freshMask (host : CapsHost) (format : DxgiFormat) : UINT :=
  if hostAnswersFormat host format then formatCaps host format (freshQuality host format 4#32)
  else 0#32

/-- The answer that empty caches give. -/
def freshAnswer (host : CapsHost) : CapsQuery → UINT
  | .formatSupport format => freshMask host format
  | .qualityLevels format sampleCount =>
      if hasFlag (freshMask host format) D3D10_DDI_FORMAT_SUPPORT_MULTISAMPLE_RENDERTARGET then
        freshQuality host format sampleCount
      else if sampleCount ≤ 1#32 ∧ freshMask host format ≠ 0#32 then 1#32
      else 0#32

/-- A query for one of the formats in `asked` can change what is answered for
    `format`. -/
structure Poisonable (host : CapsHost) (asked : Set DxgiFormat) (format : DxgiFormat) : Prop where
  blacklisted : tritonMsaaBlacklisted format = true
  targetable : tritonHostRenderTargetable host format = true
  quality : 0#32 < tritonMsaaFamilyQuality host format 4#32
  sibling : ∃ sibling ∈ asked,
    (sibling = DxgiFormat.R32G32B32_UINT ∨ sibling = DxgiFormat.R32G32B32_SINT) ∧
      hostAnswersFormat host sibling = true

theorem Poisonable.not_empty {host : CapsHost} {format : DxgiFormat} :
    ¬Poisonable host ∅ format := by
  rintro ⟨-, -, -, sibling, hmem, -⟩
  exact hmem

/-- The blacklist leaves these two members of the family out. -/
theorem sibling_of_publishesFor {asker format : DxgiFormat}
    (hformat : tritonMsaaBlacklisted format = true) (hasker : tritonMsaaBlacklisted asker = false)
    (h : PublishesFor asker format) :
    asker = DxgiFormat.R32G32B32_UINT ∨ asker = DxgiFormat.R32G32B32_SINT := by
  unfold PublishesFor at h
  cases hgroup : tritonMsaaGroup asker with
  | none =>
      simp only [hgroup] at h
      rw [h.1, hasker] at hformat
      exact nomatch hformat
  | some group =>
      simp only [hgroup] at h
      obtain ⟨hrow, hmem⟩ := mem_of_tritonMsaaGroup hgroup
      have hsame : some group = some r32g32b32Group :=
        (tritonMsaaGroup_of_mem hrow h).symm.trans (blacklisted_group hformat).1
      rw [Option.some.inj hsame] at hmem
      have hmember : asker = .R32G32B32_TYPELESS ∨ asker = .R32G32B32_FLOAT ∨
          asker = .R32G32B32_UINT ∨ asker = .R32G32B32_SINT := by
        simpa [r32g32b32Group] using hmem
      rcases hmember with rfl | rfl | huint | hsint
      · exact nomatch hasker
      · exact nomatch hasker
      · exact .inl huint
      · exact .inr hsint

/-- What a sibling's query publishes for a blacklisted format. -/
theorem entryQuality_of_blacklisted {host : CapsHost} {format : DxgiFormat}
    (hb : tritonMsaaBlacklisted format = true) (sampleCount : UINT) :
    entryQuality host format sampleCount =
      if tritonHostRenderTargetable host format then
        tritonMsaaFamilyQuality host format sampleCount
      else 0#32 := by
  obtain ⟨hgroup, hview⟩ := blacklisted_group hb
  simp only [entryQuality, tritonMsaaFamilyQuality, hgroup, memberQuality, hview,
    Bool.false_eq_true, if_false]

-- ============================================================================
-- The answers that do not depend on history
-- ============================================================================

section Fresh

variable {host : CapsHost} {asked : Set DxgiFormat} {caches : CapsCaches}

/-- Unless a sibling poisons it, the published 4x quality is the uncached one. -/
theorem CachesCoherent.four_eq_fresh (hcaches : CachesCoherent host asked caches)
    {format : DxgiFormat} (hformat : ¬Poisonable host asked format) {quality : UINT}
    (h : FourQuality host caches format quality) :
    quality = freshQuality host format 4#32 := by
  rcases h with hfresh | hlookup
  · exact hfresh
  cases hb : tritonMsaaBlacklisted format with
  | false => exact hcaches.lookup_eq_fresh hb hlookup
  | true =>
      have hentry : quality = entryQuality host format 4#32 :=
        hcaches.msaa (format, 4#32) quality hlookup
      rw [freshQuality_of_blacklisted (by decide) hb, hentry, entryQuality_of_blacklisted hb]
      split
      case isFalse => rfl
      case isTrue htarget =>
        obtain ⟨-, -, asker, hasked, hasker, hyes, hfor⟩ :=
          hcaches.asker format 4#32 quality hlookup
        have hsibling := sibling_of_publishesFor hb hasker hfor
        by_contra hne
        have hpos : 0#32 < tritonMsaaFamilyQuality host format 4#32 := by bv_omega
        exact hformat ⟨hb, htarget, hpos, asker, hasked, hsibling, hyes⟩

variable (hhost : host.QualitiesBounded)
include hhost

theorem CachesCoherent.mask_eq_fresh (hcaches : CachesCoherent host asked caches)
    {format : DxgiFormat} (hformat : ¬Poisonable host asked format) :
    (tritonCheckFormatSupport host caches format).1 = freshMask host format := by
  unfold freshMask
  rcases hcaches.maskOf hhost format with ⟨hno, hzero⟩ | ⟨hyes, quality, hcaps, hfour⟩
  · rw [hno, hzero]
    rfl
  · rw [if_pos hyes, hcaps, hcaches.four_eq_fresh hformat hfour]

omit hhost in
/-- No mask built from the uncached quality carries the bit for a blacklisted
    format. -/
theorem not_blacklisted_of_freshMask {format : DxgiFormat}
    (h : hasFlag (freshMask host format) D3D10_DDI_FORMAT_SUPPORT_MULTISAMPLE_RENDERTARGET =
      true) :
    tritonMsaaBlacklisted format = false := by
  cases hb : tritonMsaaBlacklisted format with
  | false => rfl
  | true =>
      unfold freshMask at h
      split at h
      · rw [formatCaps_multisample, freshQuality_of_blacklisted (by decide) hb] at h
        exact nomatch h
      · exact nomatch h

/-- Unless a sibling poisons it, the answer is the one of empty caches. -/
theorem CachesCoherent.ask_eq_fresh (hcaches : CachesCoherent host asked caches)
    {query : CapsQuery} (hformat : ¬Poisonable host asked query.format) :
    (ask host caches query).1 = freshAnswer host query := by
  cases query with
  | formatSupport format => exact hcaches.mask_eq_fresh hhost hformat
  | qualityLevels format sampleCount =>
      have hmask : (tritonCheckFormatSupport host caches format).1 = freshMask host format :=
        hcaches.mask_eq_fresh hhost hformat
      have hsupport : CachesCoherent host Set.univ
          (tritonCheckFormatSupport host caches format).2 :=
        (hcaches.mono (Set.subset_univ asked)).after_formatSupport hhost (Set.mem_univ format)
      simp only [ask, tritonCheckMultisampleQualityLevels, freshAnswer, hmask]
      split
      case isTrue hbit =>
        exact hsupport.msaaQuality_eq_fresh hhost (not_blacklisted_of_freshMask hbit) sampleCount
      case isFalse => rfl

/-- The answer to a query that is asked first. -/
theorem ask_empty (query : CapsQuery) : (ask host {} query).1 = freshAnswer host query :=
  (cachesCoherent_empty host).ask_eq_fresh hhost Poisonable.not_empty

-- ============================================================================
-- The answers that do
-- ============================================================================

/-- A sibling's query leaves an entry for the blacklisted format, and no mask. -/
theorem lookups_after_sibling {format sibling : DxgiFormat}
    (hb : tritonMsaaBlacklisted format = true)
    (hsibling : sibling = DxgiFormat.R32G32B32_UINT ∨ sibling = DxgiFormat.R32G32B32_SINT)
    (hyes : hostAnswersFormat host sibling = true) :
    (cachesAfter host {} [.formatSupport sibling]).lookupMsaa format 4#32 =
        some (entryQuality host format 4#32) ∧
      (cachesAfter host {} [.formatSupport sibling]).lookupFmt format = none := by
  have hsb : tritonMsaaBlacklisted sibling = false := by
    rcases hsibling with rfl | rfl <;> rfl
  have hmember : format ∈ r32g32b32Group := (mem_of_tritonMsaaGroup (blacklisted_group hb).1).2
  have hgroup : tritonMsaaGroup sibling = some r32g32b32Group := by
    rcases hsibling with rfl | rfl <;> rfl
  have hfor : PublishesFor sibling format := by
    unfold PublishesFor
    rw [hgroup]
    exact hmember
  have hne : format ≠ sibling := by
    rintro rfl
    rw [hb] at hsb
    exact nomatch hsb
  have hcaches : cachesAfter host {} [.formatSupport sibling] =
      (tritonCheckFormatSupport host {} sibling).2 := rfl
  have hnone := lookupFmt_empty sibling
  rw [hcaches]
  refine ⟨?_, ?_⟩
  · have hmsaa := congrFun (msaaTable_tritonCheckFormatSupport host hnone hyes) (format, 4#32)
    have hrun := tritonMsaaQuality_run hhost {} sibling 4#32
    refine hmsaa.trans ?_
    generalize tritonMsaaQuality host {} sibling 4#32 = result at hrun ⊢
    cases hrun with
    | cached quality hlookup => exact nomatch (lookupMsaa_empty sibling 4#32).symm.trans hlookup
    | unpublished _ hno =>
        rcases hno with hlow | hhigh | hblack
        · exact absurd hlow (by decide)
        · exact absurd hhigh (by decide)
        · exact nomatch hsb.symm.trans hblack
    | published _ _ _ _ _ _ hrecorded =>
        rcases hrecorded (format, 4#32) with ⟨-, hentry⟩ | ⟨hno, -⟩
        · exact hentry
        · exact absurd ⟨hfor, rfl⟩ hno
  · rw [lookupFmt_tritonCheckFormatSupport hhost hnone hyes, if_neg fun hboth => hne hboth.1]
    exact lookupFmt_empty format

/-- After the sibling's query the mask carries a bit that it does not carry when
    asked for first. -/
theorem Poisonable.order_dependent {format : DxgiFormat} (h : Poisonable host asked format) :
    ∃ history : List CapsQuery, (∀ query ∈ history, query.format ∈ asked) ∧
      (ask host (cachesAfter host {} history) (.formatSupport format)).1 ≠
        (ask host {} (.formatSupport format)).1 := by
  obtain ⟨hb, htarget, hquality, sibling, hasked, hsibling, hyes⟩ := h
  refine ⟨[.formatSupport sibling], List.forall_mem_singleton.mpr hasked, ?_⟩
  obtain ⟨hmsaa, hfmt⟩ := lookups_after_sibling hhost hb hsibling hyes
  have hhas := htarget
  rw [tritonHostRenderTargetable_eq, Bool.and_eq_true] at hhas
  obtain ⟨hsucceeded, hsupport⟩ := hhas
  have hentry : 0#32 < entryQuality host format 4#32 := by
    rw [entryQuality_of_blacklisted hb, if_pos htarget]
    exact hquality
  have hpoisoned : hasFlag (ask host (cachesAfter host {} [.formatSupport sibling])
      (.formatSupport format)).1 D3D10_DDI_FORMAT_SUPPORT_MULTISAMPLE_RENDERTARGET = true := by
    unfold ask
    dsimp only
    rw [tritonCheckFormatSupport_computed hfmt (hostAnswersFormat_of_succeeded hsucceeded),
      formatCaps_multisample]
    simp only [tritonMsaaQuality, hmsaa, hentry, hsupport, decide_true, Bool.and_true]
  have hfresh : hasFlag (ask host {} (.formatSupport format)).1
      D3D10_DDI_FORMAT_SUPPORT_MULTISAMPLE_RENDERTARGET = false := by
    rw [ask_empty hhost]
    by_contra hbit
    have hnot := not_blacklisted_of_freshMask (Bool.not_eq_false _ ▸ hbit)
    rw [hb] at hnot
    exact absurd hnot.symm Bool.false_ne_true
  intro hsame
  rw [hsame, hfresh] at hpoisoned
  exact absurd hpoisoned Bool.false_ne_true

end Fresh

/-- The answers about a format do not depend on earlier queries about the formats in
    `asked` exactly if none of these can poison it. -/
theorem order_independent_iff (host : CapsHost) (hhost : host.QualitiesBounded)
    (asked : Set DxgiFormat) (format : DxgiFormat) :
    (∀ history : List CapsQuery, (∀ query ∈ history, query.format ∈ asked) →
      ∀ query : CapsQuery, query.format = format →
        (ask host (cachesAfter host {} history) query).1 = (ask host {} query).1) ↔
      ¬Poisonable host asked format := by
  constructor
  · intro hindependent hpoisonable
    obtain ⟨history, hasked, hdiffer⟩ := hpoisonable.order_dependent hhost
    exact hdiffer (hindependent history hasked (.formatSupport format) rfl)
  · rintro hformat history hasked query rfl
    have hcaches := cachesCoherent_after hhost hasked
    rw [hcaches.ask_eq_fresh hhost hformat, ask_empty hhost]

-- ============================================================================
-- A host that multisamples the three-channel family
-- ============================================================================

/-- The typed members of the family are multisampled colour targets, and the host
    knows no other format. -/
def r32g32b32Host : CapsHost where
  checkFormatSupport format :=
    if r32g32b32Group.tail.contains format then
      ⟨S_OK, D3D11_FORMAT_SUPPORT_RENDER_TARGET ||| D3D11_FORMAT_SUPPORT_MULTISAMPLE_RENDERTARGET⟩
    else
      ⟨E_FAIL, 0#32⟩
  formatSupport2 _ := ⟨E_FAIL, 0#32⟩
  checkMultisampleQualityLevels _ _ := ⟨S_OK, 1#32⟩

theorem r32g32b32Host_bounded : r32g32b32Host.QualitiesBounded := by
  intro format sampleCount
  show (1#32).toNat < 2 ^ 31
  decide

/-- Asked first, `R32G32B32_FLOAT` is a colour target; asked after
    `R32G32B32_UINT`, it is a multisampled one. -/
theorem r32g32b32_order_dependent :
    ¬∀ host : CapsHost, host.QualitiesBounded → ∀ (history : List CapsQuery) (query : CapsQuery),
      (ask host (cachesAfter host {} history) query).1 = (ask host {} query).1 := by
  intro hall
  have hsame := hall r32g32b32Host r32g32b32Host_bounded
    [.formatSupport .R32G32B32_UINT] (.formatSupport .R32G32B32_FLOAT)
  have hafter : (ask r32g32b32Host
      (cachesAfter r32g32b32Host {} [.formatSupport .R32G32B32_UINT])
      (.formatSupport .R32G32B32_FLOAT)).1 =
        D3D10_DDI_FORMAT_SUPPORT_RENDERTARGET |||
          D3D10_DDI_FORMAT_SUPPORT_MULTISAMPLE_RENDERTARGET |||
            D3D10_DDI_FORMAT_SUPPORT_MULTISAMPLE_LOAD := rfl
  have hfirst : (ask r32g32b32Host {} (.formatSupport .R32G32B32_FLOAT)).1 =
      D3D10_DDI_FORMAT_SUPPORT_RENDERTARGET := rfl
  rw [hafter, hfirst] at hsame
  exact absurd hsame (by decide)

/-- On that host the answers about `R8G8B8A8_UNORM` never change, and those about
    `R32G32B32_FLOAT` do. -/
theorem order_independent_r32g32b32Host :
    (∀ history : List CapsQuery, (∀ query ∈ history, query.format ∈ Set.univ) →
      ∀ query : CapsQuery, query.format = .R8G8B8A8_UNORM →
        (ask r32g32b32Host (cachesAfter r32g32b32Host {} history) query).1 =
          (ask r32g32b32Host {} query).1) ∧
    ¬∀ history : List CapsQuery, (∀ query ∈ history, query.format ∈ Set.univ) →
      ∀ query : CapsQuery, query.format = .R32G32B32_FLOAT →
        (ask r32g32b32Host (cachesAfter r32g32b32Host {} history) query).1 =
          (ask r32g32b32Host {} query).1 := by
  refine ⟨?_, fun hindependent => ?_⟩
  · refine (order_independent_iff r32g32b32Host r32g32b32Host_bounded Set.univ _).mpr ?_
    rintro ⟨hblacklisted, -⟩
    exact nomatch hblacklisted
  · have hnot := (order_independent_iff r32g32b32Host r32g32b32Host_bounded Set.univ _).mp
      hindependent
    refine hnot ⟨rfl, rfl, ?_, .R32G32B32_UINT, Set.mem_univ _, .inl rfl, rfl⟩
    have hquality : tritonMsaaFamilyQuality r32g32b32Host .R32G32B32_FLOAT 4#32 = 1#32 := rfl
    rw [hquality]
    decide

end VirtioWddm
