/-
  VirtioWddm.Triton.Query

  The format and multisample queries of `tritonQuery.c`.

  The host answers three questions about a format; `tritonCheckFormatSupport` and
  `tritonCheckMultisampleQualityLevels` translate and reconcile the answers and keep
  them in two caches whose words carry their validity in bit 31.  A call returns
  its answer and the caches it leaves.
-/

import VirtioWddm.Ddi.Format
import VirtioWddm.Lib.Flags

namespace VirtioWddm

open Lib

-- ============================================================================
-- Flags
-- ============================================================================

def D3D11_FORMAT_SUPPORT_BUFFER : UINT := 0x00000001#32
def D3D11_FORMAT_SUPPORT_IA_VERTEX_BUFFER : UINT := 0x00000002#32
def D3D11_FORMAT_SUPPORT_SHADER_SAMPLE : UINT := 0x00000200#32
def D3D11_FORMAT_SUPPORT_RENDER_TARGET : UINT := 0x00004000#32
def D3D11_FORMAT_SUPPORT_BLENDABLE : UINT := 0x00008000#32
def D3D11_FORMAT_SUPPORT_DEPTH_STENCIL : UINT := 0x00010000#32
def D3D11_FORMAT_SUPPORT_MULTISAMPLE_RENDERTARGET : UINT := 0x00200000#32
def D3D11_FORMAT_SUPPORT_SHADER_GATHER : UINT := 0x00800000#32

def D3D11_FORMAT_SUPPORT2_UAV_TYPED_LOAD : UINT := 0x00000040#32
def D3D11_FORMAT_SUPPORT2_UAV_TYPED_STORE : UINT := 0x00000080#32
def D3D11_FORMAT_SUPPORT2_OUTPUT_MERGER_LOGIC_OP : UINT := 0x00000100#32

def D3D10_DDI_FORMAT_SUPPORT_SHADER_SAMPLE : UINT := 0x00000001#32
def D3D10_DDI_FORMAT_SUPPORT_RENDERTARGET : UINT := 0x00000002#32
def D3D10_DDI_FORMAT_SUPPORT_BLENDABLE : UINT := 0x00000004#32
def D3D10_DDI_FORMAT_SUPPORT_MULTISAMPLE_RENDERTARGET : UINT := 0x00000008#32
def D3D10_DDI_FORMAT_SUPPORT_MULTISAMPLE_LOAD : UINT := 0x00000010#32
def D3D11_1DDI_FORMAT_SUPPORT_VERTEX_BUFFER : UINT := 0x00000020#32
def D3D11_1DDI_FORMAT_SUPPORT_UAV_WRITES : UINT := 0x00000040#32
def D3D11_1DDI_FORMAT_SUPPORT_BUFFER : UINT := 0x00000080#32
def D3D11_1DDI_FORMAT_SUPPORT_OUTPUT_MERGER_LOGIC_OP : UINT := 0x00000400#32
def D3D11_1DDI_FORMAT_SUPPORT_SHADER_GATHER : UINT := 0x00000800#32
def D3DWDDM2_0DDI_FORMAT_SUPPORT_UAV_READS : UINT := 0x00004000#32

def TRITON_CACHE_VALID : UINT := 0x80000000#32

-- ============================================================================
-- Format families
-- ============================================================================

open DxgiFormat in
/-- `k_msaaGroups`, each row up to the `DXGI_FORMAT_UNKNOWN` that ends it. -/
def kMsaaGroups : List (List DxgiFormat) :=
  [[R32G32B32A32_TYPELESS, R32G32B32A32_FLOAT, R32G32B32A32_UINT, R32G32B32A32_SINT],
   [R32G32B32_TYPELESS, R32G32B32_FLOAT, R32G32B32_UINT, R32G32B32_SINT],
   [R16G16B16A16_TYPELESS, R16G16B16A16_FLOAT, R16G16B16A16_UNORM, R16G16B16A16_UINT,
    R16G16B16A16_SNORM, R16G16B16A16_SINT],
   [R32G32_TYPELESS, R32G32_FLOAT, R32G32_UINT, R32G32_SINT],
   [R32G8X24_TYPELESS, D32_FLOAT_S8X24_UINT, R32_FLOAT_X8X24_TYPELESS,
    X32_TYPELESS_G8X24_UINT],
   [R10G10B10A2_TYPELESS, R10G10B10A2_UNORM, R10G10B10A2_UINT, R10G10B10_XR_BIAS_A2_UNORM],
   [R8G8B8A8_TYPELESS, R8G8B8A8_UNORM, R8G8B8A8_UNORM_SRGB, R8G8B8A8_UINT, R8G8B8A8_SNORM,
    R8G8B8A8_SINT],
   [R16G16_TYPELESS, R16G16_FLOAT, R16G16_UNORM, R16G16_UINT, R16G16_SNORM, R16G16_SINT],
   [R32_TYPELESS, D32_FLOAT, R32_FLOAT, R32_UINT, R32_SINT],
   [R24G8_TYPELESS, D24_UNORM_S8_UINT, R24_UNORM_X8_TYPELESS, X24_TYPELESS_G8_UINT],
   [R8G8_TYPELESS, R8G8_UNORM, R8G8_UINT, R8G8_SNORM, R8G8_SINT],
   [R16_TYPELESS, D16_UNORM, R16_FLOAT, R16_UNORM, R16_UINT, R16_SNORM, R16_SINT],
   [R8_TYPELESS, R8_UNORM, R8_UINT, R8_SNORM, R8_SINT],
   [BC1_TYPELESS, BC1_UNORM, BC1_UNORM_SRGB],
   [BC2_TYPELESS, BC2_UNORM, BC2_UNORM_SRGB],
   [BC3_TYPELESS, BC3_UNORM, BC3_UNORM_SRGB],
   [BC4_TYPELESS, BC4_UNORM, BC4_SNORM],
   [BC5_TYPELESS, BC5_UNORM, BC5_SNORM],
   [B8G8R8A8_TYPELESS, B8G8R8A8_UNORM, B8G8R8A8_UNORM_SRGB],
   [B8G8R8X8_TYPELESS, B8G8R8X8_UNORM, B8G8R8X8_UNORM_SRGB],
   [BC6H_TYPELESS, BC6H_UF16, BC6H_SF16],
   [BC7_TYPELESS, BC7_UNORM, BC7_UNORM_SRGB]]

/-- `tritonMsaaGroup`: the row of a format, `none` for NULL. -/
def tritonMsaaGroup (format : DxgiFormat) : Option (List DxgiFormat) :=
  if format = .UNKNOWN then none else kMsaaGroups.find? fun row => row.contains format

open DxgiFormat in
/-- `tritonMsaaReadOnlyDepthView`. -/
def tritonMsaaReadOnlyDepthView (format : DxgiFormat) : Bool :=
  [R32_FLOAT_X8X24_TYPELESS, X32_TYPELESS_G8X24_UINT, R24_UNORM_X8_TYPELESS,
   X24_TYPELESS_G8_UINT].contains format

open DxgiFormat in
/-- `tritonMsaaForbidden`: formats that do not raise the family maximum. -/
def tritonMsaaForbidden (format : DxgiFormat) : Bool :=
  [R32G32B32A32_TYPELESS, R32G32B32_TYPELESS, R16G16B16A16_TYPELESS, R32G32_TYPELESS,
   R32G8X24_TYPELESS, R32_FLOAT_X8X24_TYPELESS, X32_TYPELESS_G8X24_UINT, R10G10B10A2_TYPELESS,
   R10G10B10_XR_BIAS_A2_UNORM, R8G8B8A8_TYPELESS, R16G16_TYPELESS, R32_TYPELESS, R24G8_TYPELESS,
   R24_UNORM_X8_TYPELESS, X24_TYPELESS_G8_UINT, R8G8_TYPELESS, R16_TYPELESS, R8_TYPELESS,
   BC1_TYPELESS, BC2_TYPELESS, BC3_TYPELESS, BC4_TYPELESS, BC5_TYPELESS, B8G8R8A8_TYPELESS,
   B8G8R8X8_TYPELESS, BC6H_TYPELESS, BC7_TYPELESS].contains format

open DxgiFormat in
/-- `tritonMsaaBlacklisted`. -/
def tritonMsaaBlacklisted (format : DxgiFormat) : Bool :=
  [R32G32B32_TYPELESS, R32G32B32_FLOAT].contains format

-- ============================================================================
-- The host
-- ============================================================================

/-- A result code and the word its out-parameter is left with. -/
structure HostWord where
  hr : HRESULT
  value : UINT
deriving DecidableEq

/-- What the host device answers, for each format and sample count always the same. -/
structure CapsHost where
  checkFormatSupport : DxgiFormat → HostWord
  formatSupport2 : DxgiFormat → HostWord
  checkMultisampleQualityLevels : DxgiFormat → UINT → HostWord

/-- `tritonNativeMsaaQuality`. -/
def tritonNativeMsaaQuality (host : CapsHost) (format : DxgiFormat) (sampleCount : UINT) : UINT :=
  let support := host.checkFormatSupport format
  let quality := host.checkMultisampleQualityLevels format sampleCount
  if failed support.hr = true ∨
      hasFlag support.value D3D11_FORMAT_SUPPORT_MULTISAMPLE_RENDERTARGET = false ∨
      failed quality.hr = true then
    0#32
  else
    quality.value

/-- `tritonHostRenderTargetable`. -/
def tritonHostRenderTargetable (host : CapsHost) (format : DxgiFormat) : Bool :=
  let support := host.checkFormatSupport format
  if failed support.hr then false
  else
    hasFlag support.value
      (D3D11_FORMAT_SUPPORT_RENDER_TARGET ||| D3D11_FORMAT_SUPPORT_DEPTH_STENCIL)

/-- The loop that computes `famMax`. -/
def famMax (host : CapsHost) (group : List DxgiFormat) (sampleCount : UINT) : UINT :=
  group.foldl
    (fun famMax format =>
      if tritonMsaaForbidden format then famMax
      else
        let m := tritonNativeMsaaQuality host format sampleCount
        if famMax < m then m else famMax)
    0#32

/-- `tritonMsaaFamilyQuality`. -/
def tritonMsaaFamilyQuality (host : CapsHost) (format : DxgiFormat) (sampleCount : UINT) : UINT :=
  match tritonMsaaGroup format with
  | none => tritonNativeMsaaQuality host format sampleCount
  | some group => famMax host group sampleCount

-- ============================================================================
-- The caches
-- ============================================================================

/-- `s_msaaCache[256][33]` and `s_fmtCache[256]`; every access checks its bounds. -/
structure CapsCaches where
  msaa : DxgiFormat → UINT → UINT := fun _ _ => 0#32
  fmt : DxgiFormat → UINT := fun _ => 0#32

/-- What a cache word holds, if it is valid. -/
def cachedWord (e : UINT) : Option UINT :=
  if hasFlag e TRITON_CACHE_VALID then some (e &&& ~~~TRITON_CACHE_VALID) else none

namespace CapsCaches

def lookupMsaa (caches : CapsCaches) (format : DxgiFormat) (sampleCount : UINT) : Option UINT :=
  if format < 256#32 ∧ sampleCount ≤ 32#32 then cachedWord (caches.msaa format sampleCount)
  else none

def lookupFmt (caches : CapsCaches) (format : DxgiFormat) : Option UINT :=
  if format < 256#32 then cachedWord (caches.fmt format) else none

/-- `InterlockedExchange(&s_msaaCache[..][..], val | TRITON_CACHE_VALID)`. -/
def publishMsaa (caches : CapsCaches) (format : DxgiFormat) (sampleCount val : UINT) :
    CapsCaches :=
  { caches with
    msaa := Function.update caches.msaa format
      (Function.update (caches.msaa format) sampleCount (val ||| TRITON_CACHE_VALID)) }

/-- `InterlockedExchange(&s_fmtCache[..], caps | TRITON_CACHE_VALID)`. -/
def publishFmt (caches : CapsCaches) (format : DxgiFormat) (caps : UINT) : CapsCaches :=
  { caches with fmt := Function.update caches.fmt format (caps ||| TRITON_CACHE_VALID) }

end CapsCaches

-- ============================================================================
-- Multisample quality
-- ============================================================================

/-- The value a family member gets from the family maximum. -/
def memberQuality (host : CapsHost) (famMax : UINT) (format : DxgiFormat) : UINT :=
  if tritonMsaaReadOnlyDepthView format then 0#32
  else if tritonHostRenderTargetable host format then famMax
  else 0#32

/-- The loop that publishes one value for each family member. -/
def publishFamily (host : CapsHost) (famMax sampleCount : UINT) (caches : CapsCaches)
    (group : List DxgiFormat) : CapsCaches :=
  group.foldl
    (fun caches format =>
      if format < 256#32 then
        caches.publishMsaa format sampleCount (memberQuality host famMax format)
      else
        caches)
    caches

/-- `tritonMsaaQuality`. -/
def tritonMsaaQuality (host : CapsHost) (caches : CapsCaches) (format : DxgiFormat)
    (sampleCount : UINT) : UINT × CapsCaches :=
  match caches.lookupMsaa format sampleCount with
  | some quality => (quality, caches)
  | none =>
      if sampleCount = 1#32 then (1#32, caches)
      else if sampleCount = 0#32 ∨ 32#32 < sampleCount then (0#32, caches)
      else if tritonMsaaBlacklisted format then (0#32, caches)
      else
        match tritonMsaaGroup format with
        | some group =>
            let famMax := famMax host group sampleCount
            (memberQuality host famMax format,
              publishFamily host famMax sampleCount caches group)
        | none =>
            let n := tritonNativeMsaaQuality host format sampleCount
            (n, if format < 256#32 ∧ sampleCount ≤ 32#32 then
                caches.publishMsaa format sampleCount n
              else
                caches)

-- ============================================================================
-- Format support
-- ============================================================================

def formatSupportTable : List (UINT × UINT) :=
  [(D3D11_FORMAT_SUPPORT_SHADER_SAMPLE, D3D10_DDI_FORMAT_SUPPORT_SHADER_SAMPLE),
   (D3D11_FORMAT_SUPPORT_RENDER_TARGET, D3D10_DDI_FORMAT_SUPPORT_RENDERTARGET),
   (D3D11_FORMAT_SUPPORT_BLENDABLE, D3D10_DDI_FORMAT_SUPPORT_BLENDABLE),
   (D3D11_FORMAT_SUPPORT_IA_VERTEX_BUFFER, D3D11_1DDI_FORMAT_SUPPORT_VERTEX_BUFFER),
   (D3D11_FORMAT_SUPPORT_SHADER_GATHER, D3D11_1DDI_FORMAT_SUPPORT_SHADER_GATHER),
   (D3D11_FORMAT_SUPPORT_BUFFER, D3D11_1DDI_FORMAT_SUPPORT_BUFFER)]

def formatSupport2Table : List (UINT × UINT) :=
  [(D3D11_FORMAT_SUPPORT2_UAV_TYPED_LOAD, D3DWDDM2_0DDI_FORMAT_SUPPORT_UAV_READS),
   (D3D11_FORMAT_SUPPORT2_UAV_TYPED_STORE, D3D11_1DDI_FORMAT_SUPPORT_UAV_WRITES),
   (D3D11_FORMAT_SUPPORT2_OUTPUT_MERGER_LOGIC_OP,
    D3D11_1DDI_FORMAT_SUPPORT_OUTPUT_MERGER_LOGIC_OP)]

/-- `tritonTranslateFormatSupport`. -/
def tritonTranslateFormatSupport (s1 s2 : UINT) : UINT :=
  let caps := translateFlags formatSupportTable s1 ||| translateFlags formatSupport2Table s2
  if hasFlag caps D3D10_DDI_FORMAT_SUPPORT_RENDERTARGET then caps
  else caps &&& ~~~D3D10_DDI_FORMAT_SUPPORT_BLENDABLE

/-- Set a flag or clear it. -/
def setFlag (caps bit : UINT) (on : Bool) : UINT :=
  if on then caps ||| bit else caps &&& ~~~bit

/-- The host's support words, translated; the second counts only when the host
    answers the question. -/
def translatedSupport (host : CapsHost) (format : DxgiFormat) : UINT :=
  let s1 := (host.checkFormatSupport format).value
  let s2 :=
    if succeeded (host.formatSupport2 format).hr then (host.formatSupport2 format).value else 0#32
  tritonTranslateFormatSupport s1 s2

/-- The mask of `tritonCheckFormatSupport` up to the target bits, from the host's
    answers and the 4x quality: only a real target may carry
    `MULTISAMPLE_RENDERTARGET`. -/
def targetCaps (host : CapsHost) (format : DxgiFormat) (quality : UINT) : UINT :=
  let s1 := (host.checkFormatSupport format).value
  let caps := setFlag (translatedSupport host format)
    D3D10_DDI_FORMAT_SUPPORT_MULTISAMPLE_RENDERTARGET (decide (0#32 < quality))
  let msaaTargetable :=
    hasFlag caps D3D10_DDI_FORMAT_SUPPORT_RENDERTARGET ||
      hasFlag s1 D3D11_FORMAT_SUPPORT_DEPTH_STENCIL
  if msaaTargetable then caps
  else caps &&& ~~~D3D10_DDI_FORMAT_SUPPORT_MULTISAMPLE_RENDERTARGET

/-- The whole mask: every MSAA target can be loaded, and so can the read-only depth
    views of a family that multisamples. -/
def formatCaps (host : CapsHost) (format : DxgiFormat) (quality : UINT) : UINT :=
  let caps := targetCaps host format quality
  if hasFlag caps D3D10_DDI_FORMAT_SUPPORT_MULTISAMPLE_RENDERTARGET then
    caps ||| D3D10_DDI_FORMAT_SUPPORT_MULTISAMPLE_LOAD
  else if tritonMsaaReadOnlyDepthView format = true ∧
      0#32 < tritonMsaaFamilyQuality host format 4#32 then
    caps ||| D3D10_DDI_FORMAT_SUPPORT_MULTISAMPLE_LOAD
  else
    caps

/-- The host answers `CheckFormatSupport` for the format, if only with the `E_FAIL`
    of an unsupported one. -/
def hostAnswersFormat (host : CapsHost) (format : DxgiFormat) : Bool :=
  succeeded (host.checkFormatSupport format).hr || (host.checkFormatSupport format).hr == E_FAIL

/-- `tritonCheckFormatSupport`. -/
def tritonCheckFormatSupport (host : CapsHost) (caches : CapsCaches) (format : DxgiFormat) :
    UINT × CapsCaches :=
  match caches.lookupFmt format with
  | some caps => (caps, caches)
  | none =>
      if hostAnswersFormat host format = false then
        (0#32, caches)
      else
        let q := tritonMsaaQuality host caches format 4#32
        let caps := formatCaps host format q.1
        (caps, if format < 256#32 then q.2.publishFmt format caps else q.2)

/-- `tritonCheckMultisampleQualityLevels`. -/
def tritonCheckMultisampleQualityLevels (host : CapsHost) (caches : CapsCaches)
    (format : DxgiFormat) (sampleCount : UINT) : UINT × CapsCaches :=
  let support := tritonCheckFormatSupport host caches format
  if hasFlag support.1 D3D10_DDI_FORMAT_SUPPORT_MULTISAMPLE_RENDERTARGET then
    tritonMsaaQuality host support.2 format sampleCount
  else
    (if sampleCount ≤ 1#32 ∧ support.1 ≠ 0#32 then 1#32 else 0#32, support.2)

-- ============================================================================
-- The families are disjoint
-- ============================================================================

theorem mem_of_tritonMsaaGroup {format : DxgiFormat} {group : List DxgiFormat}
    (h : tritonMsaaGroup format = some group) : group ∈ kMsaaGroups ∧ format ∈ group := by
  unfold tritonMsaaGroup at h
  split at h
  case isTrue => cases h
  case isFalse =>
    have hmem := List.mem_of_find?_eq_some h
    have hfound := List.find?_some h
    exact ⟨hmem, by simpa using hfound⟩

/-- What holds of every entry of the table, checked entry by entry. -/
theorem forall_mem_kMsaaGroups {p : List DxgiFormat → DxgiFormat → Bool}
    (h : (kMsaaGroups.all fun group => group.all (p group)) = true) {group : List DxgiFormat}
    (hgroup : group ∈ kMsaaGroups) {format : DxgiFormat} (hformat : format ∈ group) :
    p group format = true :=
  List.all_eq_true.mp (List.all_eq_true.mp h group hgroup) format hformat

/-- Every member of a row finds that row. -/
theorem tritonMsaaGroup_of_mem {group : List DxgiFormat} (hgroup : group ∈ kMsaaGroups)
    {format : DxgiFormat} (hformat : format ∈ group) : tritonMsaaGroup format = some group := by
  have h := forall_mem_kMsaaGroups (p := fun group format => tritonMsaaGroup format == some group)
    rfl hgroup hformat
  exact beq_iff_eq.mp h

/-- Every member of a row has its own cache entries. -/
theorem lt_256_of_mem {group : List DxgiFormat} (hgroup : group ∈ kMsaaGroups)
    {format : DxgiFormat} (hformat : format ∈ group) : format < 256#32 := by
  have h := forall_mem_kMsaaGroups (p := fun _ format => decide (format < 256#32))
    rfl hgroup hformat
  exact of_decide_eq_true h

open DxgiFormat in
/-- The family whose typeless and float members are blacklisted. -/
def r32g32b32Group : List DxgiFormat :=
  [R32G32B32_TYPELESS, R32G32B32_FLOAT, R32G32B32_UINT, R32G32B32_SINT]

theorem blacklisted_group {format : DxgiFormat} (h : tritonMsaaBlacklisted format = true) :
    tritonMsaaGroup format = some r32g32b32Group ∧ tritonMsaaReadOnlyDepthView format = false := by
  have hformat : format = .R32G32B32_TYPELESS ∨ format = .R32G32B32_FLOAT := by
    simpa [tritonMsaaBlacklisted] using h
  rcases hformat with rfl | rfl <;> exact ⟨rfl, rfl⟩

-- ============================================================================
-- The mask
-- ============================================================================

/-- A colour or depth-stencil target, going by the host's support word alone. -/
def supportTargetable (host : CapsHost) (format : DxgiFormat) : Bool :=
  hasFlag (host.checkFormatSupport format).value D3D11_FORMAT_SUPPORT_RENDER_TARGET ||
    hasFlag (host.checkFormatSupport format).value D3D11_FORMAT_SUPPORT_DEPTH_STENCIL

/-- `tritonHostRenderTargetable` asks for success and a target bit. -/
theorem tritonHostRenderTargetable_eq (host : CapsHost) (format : DxgiFormat) :
    tritonHostRenderTargetable host format =
      (succeeded (host.checkFormatSupport format).hr && supportTargetable host format) := by
  unfold tritonHostRenderTargetable supportTargetable succeeded
  dsimp only
  rw [hasFlag_or_mask]
  split
  case isTrue h => rw [h, Bool.not_true, Bool.false_and]
  case isFalse h => rw [Bool.eq_false_iff.mpr h, Bool.not_false, Bool.true_and]

theorem hostAnswersFormat_of_succeeded {host : CapsHost} {format : DxgiFormat}
    (h : succeeded (host.checkFormatSupport format).hr = true) :
    hostAnswersFormat host format = true := by
  rw [hostAnswersFormat, h, Bool.true_or]

theorem hasFlag_tritonTranslateFormatSupport {m : UINT} (s1 s2 : UINT)
    (h : D3D10_DDI_FORMAT_SUPPORT_BLENDABLE &&& m = 0#32) :
    hasFlag (tritonTranslateFormatSupport s1 s2) m =
      (hasFlag (translateFlags formatSupportTable s1) m ||
        hasFlag (translateFlags formatSupport2Table s2) m) := by
  rw [← hasFlag_or]
  unfold tritonTranslateFormatSupport
  dsimp only
  split
  · rfl
  · exact hasFlag_and_not h

/-- The colour-target bit is the host's. -/
theorem hasFlag_translate_renderTarget (s1 s2 : UINT) :
    hasFlag (tritonTranslateFormatSupport s1 s2) D3D10_DDI_FORMAT_SUPPORT_RENDERTARGET =
      hasFlag s1 D3D11_FORMAT_SUPPORT_RENDER_TARGET := by
  have hline : hasFlag (translateFlags formatSupportTable s1)
      D3D10_DDI_FORMAT_SUPPORT_RENDERTARGET = hasFlag s1 D3D11_FORMAT_SUPPORT_RENDER_TARGET :=
    hasFlag_translateFlags_line (List.mem_cons_of_mem _ List.mem_cons_self) rfl rfl s1
  have hnone : hasFlag (translateFlags formatSupport2Table s2)
      D3D10_DDI_FORMAT_SUPPORT_RENDERTARGET = false :=
    hasFlag_translateFlags_none rfl s2
  rw [hasFlag_tritonTranslateFormatSupport s1 s2 rfl, hline, hnone, Bool.or_false]

/-- No translated word reaches the validity bit. -/
theorem hasFlag_translate_valid (s1 s2 : UINT) :
    hasFlag (tritonTranslateFormatSupport s1 s2) TRITON_CACHE_VALID = false := by
  have hnone : hasFlag (translateFlags formatSupportTable s1) TRITON_CACHE_VALID = false :=
    hasFlag_translateFlags_none rfl s1
  have hnone2 : hasFlag (translateFlags formatSupport2Table s2) TRITON_CACHE_VALID = false :=
    hasFlag_translateFlags_none rfl s2
  rw [hasFlag_tritonTranslateFormatSupport s1 s2 rfl, hnone, hnone2, Bool.or_false]

theorem hasFlag_setFlag_self {caps bit : UINT} {on : Bool} (h : bit ≠ 0#32) :
    hasFlag (setFlag caps bit on) bit = on := by
  cases on with
  | true => exact hasFlag_or_self h
  | false => exact hasFlag_and_not_self caps bit

theorem hasFlag_setFlag {caps bit m : UINT} {on : Bool} (h : bit &&& m = 0#32) :
    hasFlag (setFlag caps bit on) m = hasFlag caps m := by
  cases on with
  | true => exact hasFlag_or_disjoint h
  | false => exact hasFlag_and_not h

section FormatCaps

variable (host : CapsHost) (format : DxgiFormat) (quality : UINT)

/-- Outside its own bit, the multisample step leaves the translated word alone. -/
theorem hasFlag_targetCaps {m : UINT}
    (h : D3D10_DDI_FORMAT_SUPPORT_MULTISAMPLE_RENDERTARGET &&& m = 0#32) :
    hasFlag (targetCaps host format quality) m = hasFlag (translatedSupport host format) m := by
  unfold targetCaps
  dsimp only
  split
  · exact hasFlag_setFlag h
  · rw [hasFlag_and_not h]
    exact hasFlag_setFlag h

theorem targetCaps_renderTarget :
    hasFlag (targetCaps host format quality) D3D10_DDI_FORMAT_SUPPORT_RENDERTARGET =
      hasFlag (host.checkFormatSupport format).value D3D11_FORMAT_SUPPORT_RENDER_TARGET := by
  have hcaps : hasFlag (targetCaps host format quality) D3D10_DDI_FORMAT_SUPPORT_RENDERTARGET =
      hasFlag (translatedSupport host format) D3D10_DDI_FORMAT_SUPPORT_RENDERTARGET :=
    hasFlag_targetCaps host format quality rfl
  rw [hcaps, translatedSupport, hasFlag_translate_renderTarget]

/-- The multisample bit says that the 4x quality is positive and the format a
    target. -/
theorem targetCaps_multisample :
    hasFlag (targetCaps host format quality) D3D10_DDI_FORMAT_SUPPORT_MULTISAMPLE_RENDERTARGET =
      (decide (0#32 < quality) && supportTargetable host format) := by
  have hne : D3D10_DDI_FORMAT_SUPPORT_MULTISAMPLE_RENDERTARGET ≠ 0#32 := by decide
  have hrt : ∀ caps on, hasFlag (setFlag caps D3D10_DDI_FORMAT_SUPPORT_MULTISAMPLE_RENDERTARGET on)
      D3D10_DDI_FORMAT_SUPPORT_RENDERTARGET =
        hasFlag caps D3D10_DDI_FORMAT_SUPPORT_RENDERTARGET := fun caps on => hasFlag_setFlag rfl
  unfold targetCaps supportTargetable
  dsimp only
  rw [hrt, translatedSupport, hasFlag_translate_renderTarget]
  split
  case isTrue h => rw [hasFlag_setFlag_self hne, h, Bool.and_true]
  case isFalse h => rw [hasFlag_and_not_self, Bool.eq_false_iff.mpr h, Bool.and_false]

/-- Beyond the target bits only `MULTISAMPLE_LOAD` is added. -/
theorem hasFlag_formatCaps {m : UINT}
    (h : D3D10_DDI_FORMAT_SUPPORT_MULTISAMPLE_LOAD &&& m = 0#32) :
    hasFlag (formatCaps host format quality) m = hasFlag (targetCaps host format quality) m := by
  unfold formatCaps
  dsimp only
  split
  · exact hasFlag_or_disjoint h
  · split
    · exact hasFlag_or_disjoint h
    · rfl

theorem formatCaps_multisample :
    hasFlag (formatCaps host format quality) D3D10_DDI_FORMAT_SUPPORT_MULTISAMPLE_RENDERTARGET =
      (decide (0#32 < quality) && supportTargetable host format) := by
  rw [hasFlag_formatCaps host format quality rfl, targetCaps_multisample]

theorem formatCaps_renderTarget :
    hasFlag (formatCaps host format quality) D3D10_DDI_FORMAT_SUPPORT_RENDERTARGET =
      hasFlag (host.checkFormatSupport format).value D3D11_FORMAT_SUPPORT_RENDER_TARGET := by
  rw [hasFlag_formatCaps host format quality rfl, targetCaps_renderTarget]

/-- Every MSAA target can be loaded. -/
theorem formatCaps_load
    (h : hasFlag (formatCaps host format quality)
      D3D10_DDI_FORMAT_SUPPORT_MULTISAMPLE_RENDERTARGET = true) :
    hasFlag (formatCaps host format quality) D3D10_DDI_FORMAT_SUPPORT_MULTISAMPLE_LOAD = true := by
  rw [hasFlag_formatCaps host format quality rfl] at h
  have hne : D3D10_DDI_FORMAT_SUPPORT_MULTISAMPLE_LOAD ≠ 0#32 := by decide
  unfold formatCaps
  dsimp only
  rw [if_pos h]
  exact hasFlag_or_self hne

/-- The mask leaves the validity bit free. -/
theorem formatCaps_valid :
    hasFlag (formatCaps host format quality) TRITON_CACHE_VALID = false := by
  have htarget : hasFlag (targetCaps host format quality) TRITON_CACHE_VALID =
      hasFlag (translatedSupport host format) TRITON_CACHE_VALID :=
    hasFlag_targetCaps host format quality rfl
  have hcaps : hasFlag (formatCaps host format quality) TRITON_CACHE_VALID =
      hasFlag (targetCaps host format quality) TRITON_CACHE_VALID :=
    hasFlag_formatCaps host format quality rfl
  rw [hcaps, htarget, translatedSupport, hasFlag_translate_valid]

end FormatCaps

end VirtioWddm
