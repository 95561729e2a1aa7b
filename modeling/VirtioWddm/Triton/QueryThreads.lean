/-
  VirtioWddm.Triton.QueryThreads

  The capability caches under threads.

  The caches are static: all threads of a process share them, and there is no lock.  A
  word carries its validity in bit 31, so that one load sees both.  Here the queries are
  programs of such loads and of the exchanges that publish; run by itself a program does
  what `ask` does.  However the programs of many threads interleave, an answer is the one
  of empty caches unless the format can be poisoned, and then it is one of two.
-/

import VirtioWddm.Lib.CellProgram
import VirtioWddm.Triton.QueryOrder

namespace VirtioWddm

open Lib

-- ============================================================================
-- The queries as programs
-- ============================================================================

/-- The words of `s_msaaCache` and `s_fmtCache`. -/
inductive CapsCell where
  | msaa (format : DxgiFormat) (sampleCount : UINT)
  | fmt (format : DxgiFormat)
deriving DecidableEq

abbrev CapsProgram := CellProgram CapsCell UINT UINT

def CapsCaches.cells (caches : CapsCaches) : CapsCell → UINT
  | .msaa format sampleCount => caches.msaa format sampleCount
  | .fmt format => caches.fmt format

/-- The load in front of a computation: a valid word is the answer. -/
def cachedOr (cell : CapsCell) (compute : CapsProgram) : CapsProgram :=
  .load cell fun e =>
    match cachedWord e with
    | some value => .done value
    | none => compute

/-- The exchanges of the family loop. -/
def publishFamilyProgram (host : CapsHost) (famMax sampleCount : UINT) (rest : CapsProgram) :
    List DxgiFormat → CapsProgram
  | [] => rest
  | format :: group =>
      if format < 256#32 then
        .store (.msaa format sampleCount) (memberQuality host famMax format ||| TRITON_CACHE_VALID)
          (publishFamilyProgram host famMax sampleCount rest group)
      else publishFamilyProgram host famMax sampleCount rest group

/-- `tritonMsaaQuality` behind the cache. -/
def computeQuality (host : CapsHost) (format : DxgiFormat) (sampleCount : UINT) : CapsProgram :=
  if sampleCount = 1#32 then .done 1#32
  else if sampleCount = 0#32 ∨ 32#32 < sampleCount then .done 0#32
  else if tritonMsaaBlacklisted format then .done 0#32
  else
    match tritonMsaaGroup format with
    | some group =>
        let famMax := famMax host group sampleCount
        publishFamilyProgram host famMax sampleCount
          (.done (memberQuality host famMax format)) group
    | none =>
        let n := tritonNativeMsaaQuality host format sampleCount
        if format < 256#32 ∧ sampleCount ≤ 32#32 then
          .store (.msaa format sampleCount) (n ||| TRITON_CACHE_VALID) (.done n)
        else .done n

/-- `tritonMsaaQuality`. -/
def msaaQualityProgram (host : CapsHost) (format : DxgiFormat) (sampleCount : UINT) :
    CapsProgram :=
  if format < 256#32 ∧ sampleCount ≤ 32#32 then
    cachedOr (.msaa format sampleCount) (computeQuality host format sampleCount)
  else computeQuality host format sampleCount

/-- `tritonCheckFormatSupport` behind the cache. -/
def computeSupport (host : CapsHost) (format : DxgiFormat) : CapsProgram :=
  if hostAnswersFormat host format = false then .done 0#32
  else
    (msaaQualityProgram host format 4#32).bind fun quality =>
      let caps := formatCaps host format quality
      if format < 256#32 then .store (.fmt format) (caps ||| TRITON_CACHE_VALID) (.done caps)
      else .done caps

/-- `tritonCheckFormatSupport`. -/
def formatSupportProgram (host : CapsHost) (format : DxgiFormat) : CapsProgram :=
  if format < 256#32 then cachedOr (.fmt format) (computeSupport host format)
  else computeSupport host format

/-- The program of a query. -/
def CapsQuery.program (host : CapsHost) : CapsQuery → CapsProgram
  | .formatSupport format => formatSupportProgram host format
  | .qualityLevels format sampleCount =>
      (formatSupportProgram host format).bind fun support =>
        if hasFlag support D3D10_DDI_FORMAT_SUPPORT_MULTISAMPLE_RENDERTARGET then
          msaaQualityProgram host format sampleCount
        else .done (if sampleCount ≤ 1#32 ∧ support ≠ 0#32 then 1#32 else 0#32)

-- ============================================================================
-- One thread
-- ============================================================================

section Sequential

variable {host : CapsHost} (caches : CapsCaches) (format : DxgiFormat) (sampleCount : UINT)

theorem cells_publishMsaa (val : UINT) :
    (caches.publishMsaa format sampleCount val).cells =
      Function.update caches.cells (.msaa format sampleCount) (val ||| TRITON_CACHE_VALID) := by
  funext cell
  cases cell with
  | msaa format' sampleCount' =>
      by_cases hformat : format' = format
      · by_cases hcount : sampleCount' = sampleCount
        · rw [hformat, hcount, Function.update_self]
          simp [CapsCaches.cells, CapsCaches.publishMsaa]
        · have hne : CapsCell.msaa format' sampleCount' ≠ .msaa format sampleCount := by
            intro heq
            exact hcount (CapsCell.msaa.inj heq).2
          rw [Function.update_of_ne hne]
          simp [CapsCaches.cells, CapsCaches.publishMsaa, hformat, hcount]
      · have hne : CapsCell.msaa format' sampleCount' ≠ .msaa format sampleCount := by
          intro heq
          exact hformat (CapsCell.msaa.inj heq).1
        rw [Function.update_of_ne hne]
        simp [CapsCaches.cells, CapsCaches.publishMsaa, hformat]
  | fmt format' =>
      rw [Function.update_of_ne (fun heq => by cases heq)]
      rfl

theorem cells_publishFmt (caps : UINT) :
    (caches.publishFmt format caps).cells =
      Function.update caches.cells (.fmt format) (caps ||| TRITON_CACHE_VALID) := by
  funext cell
  cases cell with
  | msaa format' sampleCount' =>
      rw [Function.update_of_ne (fun heq => by cases heq)]
      rfl
  | fmt format' =>
      by_cases hformat : format' = format
      · rw [hformat, Function.update_self]
        simp [CapsCaches.cells, CapsCaches.publishFmt]
      · have hne : CapsCell.fmt format' ≠ .fmt format := by
          intro heq
          exact hformat (CapsCell.fmt.inj heq)
        rw [Function.update_of_ne hne]
        simp [CapsCaches.cells, CapsCaches.publishFmt, hformat]

theorem run_publishFamily (famMax answer : UINT) (group : List DxgiFormat) :
    (publishFamilyProgram host famMax sampleCount (.done answer) group).run caches.cells =
      (answer, (publishFamily host famMax sampleCount caches group).cells) := by
  induction group generalizing caches with
  | nil => rfl
  | cons member group ih =>
      rw [publishFamilyProgram, publishFamily, List.foldl_cons]
      by_cases hmember : member < 256#32
      · rw [if_pos hmember, if_pos hmember, CellProgram.run, ← cells_publishMsaa, ih]
        rfl
      · rw [if_neg hmember, if_neg hmember, ih]
        rfl

theorem run_msaaQuality :
    (msaaQualityProgram host format sampleCount).run caches.cells =
      ((tritonMsaaQuality host caches format sampleCount).1,
        (tritonMsaaQuality host caches format sampleCount).2.cells) := by
  have hcompute : ∀ h : caches.lookupMsaa format sampleCount = none,
      (computeQuality host format sampleCount).run caches.cells =
        ((tritonMsaaQuality host caches format sampleCount).1,
          (tritonMsaaQuality host caches format sampleCount).2.cells) := by
    intro h
    rw [tritonMsaaQuality, h, computeQuality]
    dsimp only
    by_cases hone : sampleCount = 1#32
    · rw [if_pos hone, if_pos hone]
      rfl
    · rw [if_neg hone, if_neg hone]
      by_cases hrange : sampleCount = 0#32 ∨ 32#32 < sampleCount
      · rw [if_pos hrange, if_pos hrange]
        rfl
      · rw [if_neg hrange, if_neg hrange]
        by_cases hb : tritonMsaaBlacklisted format = true
        · rw [if_pos hb, if_pos hb]
          rfl
        · rw [if_neg hb, if_neg hb]
          cases tritonMsaaGroup format with
          | some group => exact run_publishFamily caches sampleCount _ _ group
          | none =>
              dsimp only
              by_cases hcell : format < 256#32 ∧ sampleCount ≤ 32#32
              · rw [if_pos hcell, if_pos hcell, cells_publishMsaa]
                rfl
              · rw [if_neg hcell, if_neg hcell]
                rfl
  rw [msaaQualityProgram]
  by_cases hcell : format < 256#32 ∧ sampleCount ≤ 32#32
  · have hlookup : caches.lookupMsaa format sampleCount =
        cachedWord (caches.cells (.msaa format sampleCount)) := if_pos hcell
    rw [if_pos hcell, cachedOr, CellProgram.run, ← hlookup]
    cases h : caches.lookupMsaa format sampleCount with
    | some quality =>
        rw [tritonMsaaQuality, h]
        rfl
    | none => exact hcompute h
  · rw [if_neg hcell]
    exact hcompute (if_neg hcell)

theorem run_formatSupport :
    (formatSupportProgram host format).run caches.cells =
      ((tritonCheckFormatSupport host caches format).1,
        (tritonCheckFormatSupport host caches format).2.cells) := by
  have hcompute : ∀ h : caches.lookupFmt format = none,
      (computeSupport host format).run caches.cells =
        ((tritonCheckFormatSupport host caches format).1,
          (tritonCheckFormatSupport host caches format).2.cells) := by
    intro h
    rw [computeSupport]
    cases hyes : hostAnswersFormat host format with
    | false =>
        rw [tritonCheckFormatSupport_unanswered h hyes]
        rfl
    | true =>
        rw [tritonCheckFormatSupport_computed h hyes, if_neg (by simp), CellProgram.run_bind,
          run_msaaQuality]
        dsimp only
        by_cases hf : format < 256#32
        · rw [if_pos hf, if_pos hf, cells_publishFmt]
          rfl
        · rw [if_neg hf, if_neg hf]
          rfl
  rw [formatSupportProgram]
  by_cases hf : format < 256#32
  · have hlookup : caches.lookupFmt format = cachedWord (caches.cells (.fmt format)) := if_pos hf
    rw [if_pos hf, cachedOr, CellProgram.run, ← hlookup]
    cases h : caches.lookupFmt format with
    | some caps =>
        rw [tritonCheckFormatSupport_cached h]
        rfl
    | none => exact hcompute h
  · rw [if_neg hf]
    exact hcompute (if_neg hf)

/-- Run by itself, a program answers and publishes what `ask` does. -/
theorem run_program (query : CapsQuery) :
    (query.program host).run caches.cells =
      ((ask host caches query).1, (ask host caches query).2.cells) := by
  cases query with
  | formatSupport format => exact run_formatSupport caches format
  | qualityLevels format sampleCount =>
      rw [CapsQuery.program, CellProgram.run_bind, run_formatSupport, ask,
        tritonCheckMultisampleQualityLevels]
      dsimp only
      split
      case isTrue => exact run_msaaQuality _ format sampleCount
      case isFalse => rfl

end Sequential

-- ============================================================================
-- Words and answers
-- ============================================================================

/-- A value that the family loop of a query may publish for a format. -/
structure Publishable (host : CapsHost) (format : DxgiFormat) (sampleCount value : UINT) :
    Prop where
  two_le : 2#32 ≤ sampleCount
  le_32 : sampleCount ≤ 32#32
  value : value = entryQuality host format sampleCount
  asker : ∃ asker, tritonMsaaBlacklisted asker = false ∧ hostAnswersFormat host asker = true ∧
    PublishesFor asker format

/-- A quality that a call may answer with. -/
def QualityOf (host : CapsHost) (format : DxgiFormat) (sampleCount value : UINT) : Prop :=
  value = freshQuality host format sampleCount ∨ Publishable host format sampleCount value

/-- A mask by such a quality. -/
def SupportOf (host : CapsHost) (format : DxgiFormat) (caps : UINT) : Prop :=
  hostAnswersFormat host format = true ∧
    ∃ quality, caps = formatCaps host format quality ∧ QualityOf host format 4#32 quality

/-- The values that a call may publish in a word. -/
def CapsCell.Publishes (host : CapsHost) : CapsCell → UINT → Prop
  | .msaa format sampleCount, value => Publishable host format sampleCount value
  | .fmt format, caps => SupportOf host format caps

/-- A word is zero, as the process started with it, or a published value with the valid
    bit added to it. -/
def CapsCell.Good (host : CapsHost) (cell : CapsCell) (e : UINT) : Prop :=
  e = 0#32 ∨ ∃ value, Storable value ∧ cell.Publishes host value ∧ e = value ||| TRITON_CACHE_VALID

/-- A mask that a call may answer with. -/
def MaskAnswer (host : CapsHost) (format : DxgiFormat) (caps : UINT) : Prop :=
  hostAnswersFormat host format = false ∧ caps = 0#32 ∨ SupportOf host format caps

/-- An answer to a query. -/
def CapsQuery.Answer (host : CapsHost) : CapsQuery → UINT → Prop
  | .formatSupport format, caps => MaskAnswer host format caps
  | .qualityLevels format sampleCount, value =>
      ∃ caps, MaskAnswer host format caps ∧
        if hasFlag caps D3D10_DDI_FORMAT_SUPPORT_MULTISAMPLE_RENDERTARGET then
          QualityOf host format sampleCount value
        else value = if sampleCount ≤ 1#32 ∧ caps ≠ 0#32 then 1#32 else 0#32

section Sound

variable {host : CapsHost} {format : DxgiFormat} {sampleCount : UINT}

/-- What a good word is read as was published in it. -/
theorem CapsCell.Good.publishes {cell : CapsCell} {e value : UINT} (hgood : cell.Good host e)
    (h : cachedWord e = some value) : cell.Publishes host value := by
  rcases hgood with rfl | ⟨published, hstorable, hpublishes, rfl⟩
  · rw [cachedWord_zero] at h
    cases h
  · rw [cachedWord_publish hstorable] at h
    cases h
    exact hpublishes

theorem sound_cachedOr {cell : CapsCell} {compute : CapsProgram} {post : UINT → Prop}
    (hcached : ∀ value, cell.Publishes host value → post value)
    (hcompute : compute.Sound (CapsCell.Good host) post) :
    (cachedOr cell compute).Sound (CapsCell.Good host) post := by
  intro e hgood
  dsimp only
  cases h : cachedWord e with
  | some value => exact hcached value (hgood.publishes h)
  | none => exact hcompute

theorem sound_publishFamily {famMax : UINT} {rest : CapsProgram} {post : UINT → Prop}
    (hrest : rest.Sound (CapsCell.Good host) post) (hfam : Storable famMax)
    {group : List DxgiFormat} (hgroup : ∀ member ∈ group,
      Publishable host member sampleCount (memberQuality host famMax member)) :
    (publishFamilyProgram host famMax sampleCount rest group).Sound (CapsCell.Good host) post := by
  induction group with
  | nil => exact hrest
  | cons member group ih =>
      obtain ⟨hmember, htail⟩ := List.forall_mem_cons.mp hgroup
      rw [publishFamilyProgram]
      by_cases hf : member < 256#32
      · rw [if_pos hf]
        exact ⟨.inr ⟨_, storable_member hfam member, hmember, rfl⟩, ih htail⟩
      · rw [if_neg hf]
        exact ih htail

variable (hhost : host.QualitiesBounded)
include hhost

/-- What is computed is the uncached answer, and what is published is publishable. -/
theorem sound_computeQuality (hyes : hostAnswersFormat host format = true) :
    (computeQuality host format sampleCount).Sound (CapsCell.Good host)
      (QualityOf host format sampleCount) := by
  have hfresh := freshQuality.eq_def host format sampleCount
  rw [computeQuality]
  by_cases hone : sampleCount = 1#32
  · rw [if_pos hone] at hfresh ⊢
    exact .inl hfresh.symm
  rw [if_neg hone] at hfresh ⊢
  by_cases hrange : sampleCount = 0#32 ∨ 32#32 < sampleCount
  · rw [if_pos hrange] at hfresh ⊢
    exact .inl hfresh.symm
  rw [if_neg hrange] at hfresh ⊢
  cases hb : tritonMsaaBlacklisted format with
  | true =>
      rw [hb, if_pos rfl] at hfresh
      rw [if_pos rfl]
      exact .inl hfresh.symm
  | false =>
      rw [hb, if_neg Bool.false_ne_true] at hfresh
      rw [if_neg Bool.false_ne_true]
      have hc2 : 2#32 ≤ sampleCount := by bv_omega
      have hc32 : sampleCount ≤ 32#32 := by bv_omega
      cases hgroup : tritonMsaaGroup format with
      | some group =>
          have hrow := (mem_of_tritonMsaaGroup hgroup).1
          rw [entryQuality, hgroup] at hfresh
          have hanswer : CellProgram.Sound (CapsCell.Good host)
              (QualityOf host format sampleCount)
              (.done (memberQuality host (famMax host group sampleCount) format)) :=
            Or.inl hfresh.symm
          refine sound_publishFamily hanswer (storable_famMax hhost group sampleCount) ?_
          intro member hmember
          refine ⟨hc2, hc32, (entryQuality_of_mem hrow hmember sampleCount).symm,
            format, hb, hyes, ?_⟩
          rw [PublishesFor, hgroup]
          exact hmember
      | none =>
          rw [entryQuality, hgroup] at hfresh
          dsimp only
          by_cases hcell : format < 256#32 ∧ sampleCount ≤ 32#32
          · rw [if_pos hcell]
            refine ⟨.inr ⟨_, storable_native hhost format sampleCount, ?_, rfl⟩,
              .inl hfresh.symm⟩
            refine ⟨hc2, hc32, ?_, format, hb, hyes, ?_⟩
            · rw [entryQuality, hgroup]
            · rw [PublishesFor, hgroup]
              exact ⟨rfl, hcell.1⟩
          · rw [if_neg hcell]
            exact .inl hfresh.symm

theorem sound_msaaQuality (hyes : hostAnswersFormat host format = true) :
    (msaaQualityProgram host format sampleCount).Sound (CapsCell.Good host)
      (QualityOf host format sampleCount) := by
  rw [msaaQualityProgram]
  by_cases hcell : format < 256#32 ∧ sampleCount ≤ 32#32
  · rw [if_pos hcell]
    exact sound_cachedOr (fun _ hpublishable => .inr hpublishable)
      (sound_computeQuality hhost hyes)
  · rw [if_neg hcell]
    exact sound_computeQuality hhost hyes

theorem sound_formatSupport :
    (formatSupportProgram host format).Sound (CapsCell.Good host) (MaskAnswer host format) := by
  have hcompute : (computeSupport host format).Sound (CapsCell.Good host)
      (MaskAnswer host format) := by
    rw [computeSupport]
    cases hyes : hostAnswersFormat host format with
    | false =>
        rw [if_pos rfl]
        exact .inl ⟨hyes, rfl⟩
    | true =>
        rw [if_neg (by simp)]
        refine (sound_msaaQuality hhost hyes).bind fun quality hquality => ?_
        have hsupport : SupportOf host format (formatCaps host format quality) :=
          ⟨hyes, quality, rfl, hquality⟩
        dsimp only
        by_cases hf : format < 256#32
        · rw [if_pos hf]
          exact ⟨.inr ⟨_, storable_formatCaps format quality, hsupport, rfl⟩, .inr hsupport⟩
        · rw [if_neg hf]
          exact .inr hsupport
  rw [formatSupportProgram]
  by_cases hf : format < 256#32
  · rw [if_pos hf]
    exact sound_cachedOr (fun _ hsupport => .inr hsupport) hcompute
  · rw [if_neg hf]
    exact hcompute

theorem sound_program (query : CapsQuery) :
    (query.program host).Sound (CapsCell.Good host) (query.Answer host) := by
  cases query with
  | formatSupport format => exact sound_formatSupport hhost
  | qualityLevels format sampleCount =>
      refine (sound_formatSupport hhost).bind fun support hsupport => ?_
      split
      case isTrue hbit =>
        -- a mask with a bit comes from a host that answers
        have hyes : hostAnswersFormat host format = true := by
          rcases hsupport with ⟨-, hzero⟩ | ⟨hyes, -⟩
          · rw [hzero] at hbit
            cases hbit
          · exact hyes
        refine CellProgram.Sound.mono (sound_msaaQuality hhost hyes) fun value hvalue => ?_
        exact ⟨support, hsupport, by rw [if_pos hbit]; exact hvalue⟩
      case isFalse hbit => exact ⟨support, hsupport, by rw [if_neg hbit]⟩

end Sound

-- ============================================================================
-- Answers without history
-- ============================================================================

section Fresh

variable {host : CapsHost} {format : DxgiFormat}

/-- Off the blacklist what may be published is the uncached quality. -/
theorem QualityOf.eq_fresh (hb : tritonMsaaBlacklisted format = false) {sampleCount value : UINT}
    (h : QualityOf host format sampleCount value) :
    value = freshQuality host format sampleCount := by
  rcases h with hfresh | hpublished
  · exact hfresh
  · rw [freshQuality_eq_entryQuality hpublished.two_le hpublished.le_32 hb]
    exact hpublished.value

/-- Where no sibling can poison a format, nobody publishes another 4x quality for it. -/
theorem QualityOf.four_eq_fresh (hformat : ¬Poisonable host Set.univ format) {value : UINT}
    (h : QualityOf host format 4#32 value) : value = freshQuality host format 4#32 := by
  cases hb : tritonMsaaBlacklisted format with
  | false => exact h.eq_fresh hb
  | true =>
      rcases h with hfresh | hpublished
      · exact hfresh
      rw [freshQuality_of_blacklisted (by decide) hb, hpublished.value,
        entryQuality_of_blacklisted hb]
      split
      case isFalse => rfl
      case isTrue htarget =>
        obtain ⟨asker, hasker, hyes, hfor⟩ := hpublished.asker
        have hsibling := sibling_of_publishesFor hb hasker hfor
        by_contra hne
        have hpos : 0#32 < tritonMsaaFamilyQuality host format 4#32 := by bv_omega
        exact hformat ⟨hb, htarget, hpos, asker, Set.mem_univ _, hsibling, hyes⟩

theorem MaskAnswer.eq_fresh (hformat : ¬Poisonable host Set.univ format) {caps : UINT}
    (h : MaskAnswer host format caps) : caps = freshMask host format := by
  rw [freshMask]
  rcases h with ⟨hno, hzero⟩ | ⟨hyes, quality, hcaps, hquality⟩
  · rw [hno, hzero]
    rfl
  · rw [if_pos hyes, hcaps, hquality.four_eq_fresh hformat]

theorem CapsQuery.Answer.eq_fresh {query : CapsQuery}
    (hformat : ¬Poisonable host Set.univ query.format) {value : UINT}
    (h : query.Answer host value) : value = freshAnswer host query := by
  cases query with
  | formatSupport format => exact MaskAnswer.eq_fresh hformat h
  | qualityLevels format sampleCount =>
      obtain ⟨caps, hcaps, hvalue⟩ := h
      have hmask : caps = freshMask host format := hcaps.eq_fresh hformat
      rw [freshAnswer, ← hmask]
      split at hvalue
      case isTrue hbit =>
        rw [if_pos hbit]
        rw [hmask] at hbit
        exact QualityOf.eq_fresh (not_blacklisted_of_freshMask hbit) hvalue
      case isFalse hbit =>
        rw [if_neg hbit]
        exact hvalue

end Fresh

-- ============================================================================
-- Every interleaving
-- ============================================================================

/-- The process has just loaded the driver: both caches are zero. -/
def CapsThreadsInitial {ι : Type}
    (w : Threads ι (CapsCell → UINT) (CellProgram.Point CapsQuery CapsCell UINT UINT)) : Prop :=
  w.shared = CapsCaches.cells {} ∧ ∀ i, w.own i = .idle

/-- A quality whose two words have been published is answered by two loads. -/
theorem program_qualityLevels_cached {host : CapsHost} {format : DxgiFormat}
    {sampleCount support quality : UINT} {cells : CapsCell → UINT} (hf : format < 256#32)
    (hcount : sampleCount ≤ 32#32) (hsupport : cachedWord (cells (.fmt format)) = some support)
    (hbit : hasFlag support D3D10_DDI_FORMAT_SUPPORT_MULTISAMPLE_RENDERTARGET = true)
    (hquality : cachedWord (cells (.msaa format sampleCount)) = some quality) :
    ∃ next next', (CapsQuery.qualityLevels format sampleCount).program host =
        .load (.fmt format) next ∧
      next (cells (.fmt format)) = .load (.msaa format sampleCount) next' ∧
      next' (cells (.msaa format sampleCount)) = .done quality := by
  rw [CapsQuery.program, formatSupportProgram, if_pos hf, cachedOr]
  refine ⟨_, fun e =>
    match cachedWord e with
    | some value => .done value
    | none => computeQuality host format sampleCount, rfl, ?_, ?_⟩
  · dsimp only
    rw [hsupport]
    dsimp only [CellProgram.bind]
    rw [if_pos hbit, msaaQualityProgram, if_pos ⟨hf, hcount⟩]
    rfl
  · dsimp only
    rw [hquality]

/-- A thread that has begun to ask for a quality of `R32G32B32_UINT`, and another one that
    has asked for the support of that format and published its words. -/
theorem r32g32b32_published :
    ∃ w : Threads Bool (CapsCell → UINT) (CellProgram.Point CapsQuery CapsCell UINT UINT),
      Reach CapsThreadsInitial
        (Threads.Step (CellProgram.Act (CapsQuery.program r32g32b32Host))) w ∧
      w.own false = .running (.qualityLevels .R32G32B32_UINT 4#32)
        ((CapsQuery.qualityLevels .R32G32B32_UINT 4#32).program r32g32b32Host) ∧
      w.own true = .running (.formatSupport .R32G32B32_UINT) (.done 26#32) ∧
      w.shared (.fmt .R32G32B32_UINT) = 26#32 ||| TRITON_CACHE_VALID ∧
      w.shared (.msaa .R32G32B32_UINT 4#32) = 1#32 ||| TRITON_CACHE_VALID := by
  have h₀ : Reach CapsThreadsInitial
      (Threads.Step (CellProgram.Act (CapsQuery.program r32g32b32Host)))
      (⟨CapsCaches.cells {}, fun _ => .idle⟩ : Threads Bool _ _) := .init ⟨rfl, fun _ => rfl⟩
  have h₁ := h₀.step (.move false (.call _ (.qualityLevels .R32G32B32_UINT 4#32)))
  have h₂ := h₁.step (.move true (.call _ (.formatSupport .R32G32B32_UINT)))
  have h₃ := CellProgram.reach_run h₂ (Function.update_self ..)
  have hrun : ((CapsQuery.formatSupport .R32G32B32_UINT).program r32g32b32Host).run
      (CapsCaches.cells {}) =
        (26#32, (ask r32g32b32Host {} (.formatSupport .R32G32B32_UINT)).2.cells) :=
    run_program {} (.formatSupport .R32G32B32_UINT)
  dsimp only at h₃
  rw [hrun] at h₃
  exact ⟨_, h₃, rfl, rfl, by decide, by decide⟩

/-- Over every interleaving of any number of threads, a query that has come to its end
    has the answer that empty caches give it, unless its format can be poisoned; then it
    has an answer by the uncached quality or by the family's. -/
theorem threads_answer_fresh {ι : Type} [DecidableEq ι] (host : CapsHost)
    (hhost : host.QualitiesBounded)
    {w : Threads ι (CapsCell → UINT) (CellProgram.Point CapsQuery CapsCell UINT UINT)}
    (h : Reach CapsThreadsInitial
      (Threads.Step (CellProgram.Act (CapsQuery.program host))) w) :
    (∀ cell : CapsCell, cell.Good host (w.shared cell)) ∧
      ∀ i query value, w.own i = .running query (.done value) →
        query.Answer host value ∧
          (¬Poisonable host Set.univ query.format → value = (ask host {} query).1) := by
  have hzero : ∀ cell : CapsCell, cell.Good host (CapsCaches.cells {} cell) := by
    intro cell
    have hcell : CapsCaches.cells {} cell = 0#32 := by cases cell <;> rfl
    exact .inl hcell
  obtain ⟨hgood, hanswers⟩ := CellProgram.interleaved (sound_program hhost) hzero h
  refine ⟨hgood, fun i query value hdone => ?_⟩
  have hanswer := hanswers i query value hdone
  refine ⟨hanswer, fun hformat => ?_⟩
  rw [ask_empty hhost]
  exact hanswer.eq_fresh hformat

/-- A thread publishes the words of `R32G32B32_UINT` while another one stands in front of
    its first load; that one answers from the two words and stores nothing. -/
theorem threads_answer_fresh_two :
    ∃ w w' w'' : Threads Bool (CapsCell → UINT) (CellProgram.Point CapsQuery CapsCell UINT UINT),
      Reach CapsThreadsInitial
        (Threads.Step (CellProgram.Act (CapsQuery.program r32g32b32Host))) w ∧
      w.own true = .running (.formatSupport .R32G32B32_UINT) (.done 26#32) ∧
      w.shared (.fmt .R32G32B32_UINT) = 26#32 ||| TRITON_CACHE_VALID ∧
      w.shared (.msaa .R32G32B32_UINT 4#32) = 1#32 ||| TRITON_CACHE_VALID ∧
      Threads.Step (CellProgram.Act (CapsQuery.program r32g32b32Host)) w w' ∧
      Threads.Step (CellProgram.Act (CapsQuery.program r32g32b32Host)) w' w'' ∧
      w''.shared = w.shared ∧
      w.own false = .running (.qualityLevels .R32G32B32_UINT 4#32)
        ((CapsQuery.qualityLevels .R32G32B32_UINT 4#32).program r32g32b32Host) ∧
      w''.own false = .running (.qualityLevels .R32G32B32_UINT 4#32) (.done 1#32) ∧
      (∀ cell : CapsCell, cell.Good r32g32b32Host (w''.shared cell)) ∧
      1#32 = (ask r32g32b32Host {} (.qualityLevels .R32G32B32_UINT 4#32)).1 := by
  obtain ⟨w, hreach, hasks, hpublished, hfmt, hmsaa⟩ := r32g32b32_published
  obtain ⟨next, next', hprogram, hnext, hdone⟩ := program_qualityLevels_cached
    (by decide : DxgiFormat.R32G32B32_UINT < 256#32) (by decide : 4#32 ≤ 32#32)
    (congrArg cachedWord hfmt) rfl (congrArg cachedWord hmsaa)
  have hload : Threads.Step (CellProgram.Act (CapsQuery.program r32g32b32Host)) w
      ⟨w.shared, Function.update w.own false (.running (.qualityLevels .R32G32B32_UINT 4#32)
        (.load (.msaa .R32G32B32_UINT 4#32) next'))⟩ :=
    CellProgram.step_load (hasks.trans (congrArg _ hprogram)) hnext
  have hload' : Threads.Step (CellProgram.Act (CapsQuery.program r32g32b32Host))
      ⟨w.shared, Function.update w.own false (.running (.qualityLevels .R32G32B32_UINT 4#32)
        (.load (.msaa .R32G32B32_UINT 4#32) next'))⟩ _ :=
    CellProgram.step_load (Function.update_self ..) hdone
  obtain ⟨hgood, hanswers⟩ := threads_answer_fresh r32g32b32Host r32g32b32Host_bounded
    ((hreach.step hload).step hload')
  refine ⟨w, _, _, hreach, hpublished, hfmt, hmsaa, hload, hload', rfl, hasks, rfl, hgood,
    (hanswers false (.qualityLevels .R32G32B32_UINT 4#32) 1#32 rfl).2 ?_⟩
  rintro ⟨hblacklisted, -⟩
  exact nomatch hblacklisted

end VirtioWddm
