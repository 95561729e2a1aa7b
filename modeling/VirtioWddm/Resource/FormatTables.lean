/-
  VirtioWddm.Resource.FormatTables

  The format translation tables of `resource.c`.  Each C `switch` is its list of
  `case` lines, read by `switchOn`; a fact about every format is then a fact
  about every line plus the default.

  The last section says which DXGI formats survive the trip through a virgl code
  with their channel layout intact.
-/

import VirtioWddm.Ddi.Format
import Mathlib.Data.List.Basic

namespace VirtioWddm

-- ============================================================================
-- Switch statements as tables
-- ============================================================================

section Switch

variable {α β : Type} [DecidableEq α]

/-- A `switch` whose `case` lines are `cases` and whose fall-through is `dflt`. -/
def switchOn (cases : List (α × β)) (dflt : β) (x : α) : β :=
  (cases.lookup x).getD dflt

/-- A key found by `lookup` is a line of the table. -/
theorem mem_of_lookup {cases : List (α × β)} {x : α} {y : β}
    (h : cases.lookup x = some y) : (x, y) ∈ cases := by
  obtain ⟨l₁, l₂, heq, -⟩ := List.lookup_eq_some_iff.mp h
  rw [heq]
  simp

/-- A result other than the default comes from a `case` line. -/
theorem switchOn_mem {cases : List (α × β)} {dflt : β} {x : α}
    (h : switchOn cases dflt x ≠ dflt) : (x, switchOn cases dflt x) ∈ cases := by
  unfold switchOn at h ⊢
  cases hl : cases.lookup x with
  | none => simp [hl] at h
  | some y => exact mem_of_lookup hl

end Switch

-- ============================================================================
-- DXGI to Vulkan
-- ============================================================================

/-- The `case` lines of `dxgi_to_vk_format`. -/
def dxgiToVkFormatTable : List (DxgiFormat × VkFormat) :=
  [(.R32G32B32A32_TYPELESS, .R32G32B32A32_SFLOAT),
   (.R32G32B32A32_FLOAT, .R32G32B32A32_SFLOAT),
   (.R32G32B32A32_UINT, .R32G32B32A32_UINT),
   (.R32G32B32A32_SINT, .R32G32B32A32_SINT),
   (.R32G32B32_TYPELESS, .R32G32B32_SFLOAT),
   (.R32G32B32_FLOAT, .R32G32B32_SFLOAT),
   (.R32G32B32_UINT, .R32G32B32_UINT),
   (.R32G32B32_SINT, .R32G32B32_SINT),
   (.R16G16B16A16_TYPELESS, .R16G16B16A16_SFLOAT),
   (.R16G16B16A16_FLOAT, .R16G16B16A16_SFLOAT),
   (.R16G16B16A16_UNORM, .R16G16B16A16_UNORM),
   (.R16G16B16A16_UINT, .R16G16B16A16_UINT),
   (.R16G16B16A16_SNORM, .R16G16B16A16_SNORM),
   (.R16G16B16A16_SINT, .R16G16B16A16_SINT),
   (.R32G32_TYPELESS, .R32G32_SFLOAT),
   (.R32G32_FLOAT, .R32G32_SFLOAT),
   (.R32G32_UINT, .R32G32_UINT),
   (.R32G32_SINT, .R32G32_SINT),
   (.R10G10B10A2_TYPELESS, .A2B10G10R10_UNORM_PACK32),
   (.R10G10B10A2_UNORM, .A2B10G10R10_UNORM_PACK32),
   (.R10G10B10A2_UINT, .A2B10G10R10_UINT_PACK32),
   (.R11G11B10_FLOAT, .B10G11R11_UFLOAT_PACK32),
   (.R8G8_TYPELESS, .R8G8_UNORM),
   (.R8G8_UNORM, .R8G8_UNORM),
   (.R8G8_UINT, .R8G8_UINT),
   (.R8G8_SNORM, .R8G8_SNORM),
   (.R8G8_SINT, .R8G8_SINT),
   (.R8G8B8A8_TYPELESS, .R8G8B8A8_UNORM),
   (.R8G8B8A8_UNORM, .R8G8B8A8_UNORM),
   (.R8G8B8A8_UNORM_SRGB, .R8G8B8A8_SRGB),
   (.R8G8B8A8_UINT, .R8G8B8A8_UINT),
   (.R8G8B8A8_SNORM, .R8G8B8A8_SNORM),
   (.R8G8B8A8_SINT, .R8G8B8A8_SINT),
   (.R16G16_TYPELESS, .R16G16_SFLOAT),
   (.R16G16_FLOAT, .R16G16_SFLOAT),
   (.R16G16_UNORM, .R16G16_UNORM),
   (.R16G16_UINT, .R16G16_UINT),
   (.R16G16_SNORM, .R16G16_SNORM),
   (.R16G16_SINT, .R16G16_SINT),
   (.R32_TYPELESS, .R32_UINT),
   (.D32_FLOAT, .D32_SFLOAT),
   (.R32_FLOAT, .R32_SFLOAT),
   (.R32_UINT, .R32_UINT),
   (.R32_SINT, .R32_SINT),
   (.R16_TYPELESS, .R16_UINT),
   (.R16_FLOAT, .R16_SFLOAT),
   (.D16_UNORM, .D16_UNORM),
   (.R16_UNORM, .R16_UNORM),
   (.R16_UINT, .R16_UINT),
   (.R16_SNORM, .R16_SNORM),
   (.R16_SINT, .R16_SINT),
   (.R8_TYPELESS, .R8_UNORM),
   (.R8_UNORM, .R8_UNORM),
   (.R8_UINT, .R8_UINT),
   (.R8_SNORM, .R8_SNORM),
   (.R8_SINT, .R8_SINT),
   (.A8_UNORM, .A8_UNORM),
   (.B5G6R5_UNORM, .R5G6B5_UNORM_PACK16),
   (.B5G5R5A1_UNORM, .A1R5G5B5_UNORM_PACK16),
   (.B8G8R8A8_UNORM, .B8G8R8A8_UNORM),
   (.B8G8R8X8_UNORM, .B8G8R8A8_UNORM),
   (.B8G8R8A8_TYPELESS, .B8G8R8A8_UNORM),
   (.B8G8R8A8_UNORM_SRGB, .B8G8R8A8_SRGB),
   (.B8G8R8X8_TYPELESS, .B8G8R8A8_UNORM),
   (.B8G8R8X8_UNORM_SRGB, .B8G8R8A8_SRGB),
   (.AYUV, .R8G8B8A8_UNORM),
   (.NV12, .G8_B8R8_2PLANE_420_UNORM),
   (.OPAQUE_420, .G8_B8R8_2PLANE_420_UNORM),
   (.YUY2, .G8B8G8R8_422_UNORM),
   (.B4G4R4A4_UNORM, .A4R4G4B4_UNORM_PACK16)]

/-- `dxgi_to_vk_format`. -/
def dxgiToVkFormat (format : DxgiFormat) : VkFormat :=
  switchOn dxgiToVkFormatTable .UNDEFINED format

/-- The `case` lines of `dxgi_to_vk_format_family`: the view formats an image of
    this format may be reinterpreted as. -/
def dxgiToVkFormatFamilyTable : List (DxgiFormat × List VkFormat) :=
  [(.R32G32B32A32_TYPELESS, [.R32G32B32A32_UINT, .R32G32B32A32_SINT, .R32G32B32A32_SFLOAT]),
   (.R32G32B32_TYPELESS, [.R32G32B32_UINT, .R32G32B32_SINT, .R32G32B32_SFLOAT]),
   (.R16G16B16A16_TYPELESS, [.R16G16B16A16_UNORM, .R16G16B16A16_SNORM, .R16G16B16A16_UINT,
    .R16G16B16A16_SINT, .R16G16B16A16_SFLOAT]),
   (.R10G10B10A2_TYPELESS, [.A2B10G10R10_UNORM_PACK32, .A2B10G10R10_UINT_PACK32]),
   (.R8G8B8A8_TYPELESS, [.R8G8B8A8_UNORM, .R8G8B8A8_SNORM, .R8G8B8A8_SRGB, .R8G8B8A8_UINT,
    .R8G8B8A8_SINT]),
   (.R8G8B8A8_UNORM, [.R8G8B8A8_UNORM, .R8G8B8A8_SRGB]),
   (.R8G8B8A8_UNORM_SRGB, [.R8G8B8A8_UNORM, .R8G8B8A8_SRGB]),
   (.R16G16_TYPELESS, [.R16G16_UNORM, .R16G16_SNORM, .R16G16_UINT, .R16G16_SINT, .R16G16_SFLOAT]),
   (.B8G8R8A8_UNORM, [.B8G8R8A8_UNORM, .B8G8R8A8_SRGB]),
   (.B8G8R8X8_UNORM, [.B8G8R8A8_UNORM, .B8G8R8A8_SRGB]),
   (.B8G8R8A8_TYPELESS, [.B8G8R8A8_UNORM, .B8G8R8A8_SRGB]),
   (.B8G8R8A8_UNORM_SRGB, [.B8G8R8A8_UNORM, .B8G8R8A8_SRGB]),
   (.B8G8R8X8_TYPELESS, [.B8G8R8A8_UNORM, .B8G8R8A8_SRGB]),
   (.B8G8R8X8_UNORM_SRGB, [.B8G8R8A8_UNORM, .B8G8R8A8_SRGB]),
   (.R8_TYPELESS, [.R8_UNORM, .R8_UINT, .R8_SNORM]),
   (.A8_UNORM, [.R8_UNORM, .A8_UNORM]),
   (.AYUV, [.R8G8B8A8_UNORM, .R8G8B8A8_UNORM]),
   (.NV12, [.R8_UNORM, .R8G8_UNORM, .R8_UINT, .R8G8_UINT]),
   (.P010, [.R16_UNORM, .R16G16_UNORM, .R16_UINT, .R16G16_UINT]),
   (.P016, [.R16_UNORM, .R16G16_UNORM, .R16_UINT, .R16G16_UINT]),
   (.OPAQUE_420, [.R8_UNORM, .R8G8_UNORM, .R8_UINT, .R8G8_UINT]),
   (.YUY2, [.G8B8G8R8_422_UNORM, .R8G8B8A8_UNORM, .R8G8B8A8_UINT])]

/-- `dxgi_to_vk_format_family`: `none` when the C function returns `false`. -/
def dxgiToVkFormatFamily (format : DxgiFormat) : Option (List VkFormat) :=
  dxgiToVkFormatFamilyTable.lookup format

/-- `dxgi_to_vk_sample_count`: the `VkSampleCountFlagBits` of a count, `0` for a
    count Vulkan has no bit for. -/
def dxgiToVkSampleCount (count : UINT) : UINT :=
  switchOn [(1#32, 0x01#32), (2#32, 0x02#32), (4#32, 0x04#32), (8#32, 0x08#32),
    (16#32, 0x10#32)] 0#32 count

/-- The sample counts `create_shared_vk_image` does not reject. -/
theorem dxgiToVkSampleCount_ne_zero_iff (count : UINT) :
    dxgiToVkSampleCount count ≠ 0#32 ↔
      count = 1#32 ∨ count = 2#32 ∨ count = 4#32 ∨ count = 8#32 ∨ count = 16#32 := by
  constructor
  · intro h
    have hmem := switchOn_mem h
    simp only [List.mem_cons, Prod.mk.injEq, List.not_mem_nil, or_false] at hmem
    tauto
  · rintro (rfl | rfl | rfl | rfl | rfl) <;> decide

/-- A format with no Vulkan counterpart has code `UNDEFINED`, and
    `DXGI_FORMAT_UNKNOWN` is one. -/
@[simp] theorem dxgiToVkFormat_UNKNOWN : dxgiToVkFormat .UNKNOWN = .UNDEFINED := by
  decide

-- ============================================================================
-- DXGI and virgl
-- ============================================================================

/-- The `case` lines of `dxgi_to_virgl_format`. -/
def dxgiToVirglFormatTable : List (DxgiFormat × VirglFormat) :=
  [(.R16G16B16A16_TYPELESS, .R16G16B16A16_UNORM),
   (.R16G16B16A16_FLOAT, .R16G16B16A16_FLOAT),
   (.R16G16B16A16_UNORM, .R16G16B16A16_UNORM),
   (.R16G16B16A16_UINT, .R16G16B16A16_UNORM),
   (.R16G16B16A16_SNORM, .R16G16B16A16_UNORM),
   (.R16G16B16A16_SINT, .R16G16B16A16_UNORM),
   (.R10G10B10A2_TYPELESS, .R10G10B10A2_UNORM),
   (.R10G10B10A2_UNORM, .R10G10B10A2_UNORM),
   (.R10G10B10A2_UINT, .R10G10B10A2_UNORM),
   (.R8G8B8A8_TYPELESS, .R8G8B8A8_UNORM),
   (.R8G8B8A8_UNORM, .R8G8B8A8_UNORM),
   (.R8G8B8A8_UNORM_SRGB, .B8G8R8A8_UNORM),
   (.R8G8B8A8_UINT, .R8G8B8A8_UNORM),
   (.R8G8B8A8_SNORM, .R8G8B8A8_UNORM),
   (.R8G8B8A8_SINT, .R8G8B8A8_UNORM),
   (.B8G8R8A8_UNORM, .B8G8R8A8_UNORM),
   (.B8G8R8X8_UNORM, .B8G8R8X8_UNORM),
   (.B8G8R8A8_TYPELESS, .B8G8R8A8_UNORM),
   (.B8G8R8A8_UNORM_SRGB, .B8G8R8A8_UNORM),
   (.B8G8R8X8_TYPELESS, .B8G8R8X8_UNORM),
   (.B8G8R8X8_UNORM_SRGB, .B8G8R8X8_UNORM),
   (.B4G4R4A4_UNORM, .B4G4R4A4_UNORM),
   (.NV12, .Y8_U8V8_420_UNORM),
   (.OPAQUE_420, .Y8_U8_V8_420_UNORM)]

/-- `dxgi_to_virgl_format`. -/
def dxgiToVirglFormat (format : DxgiFormat) : VirglFormat :=
  switchOn dxgiToVirglFormatTable .NONE format

/-- The `case` lines of `virgl_to_dxgi_format`. -/
def virglToDxgiFormatTable : List (VirglFormat × DxgiFormat) :=
  [(.R32G32B32A32_FLOAT, .R32G32B32A32_FLOAT),
   (.R16G16B16A16_FLOAT, .R16G16B16A16_FLOAT),
   (.R16G16B16A16_UNORM, .R16G16B16A16_UNORM),
   (.R10G10B10A2_UNORM, .R10G10B10A2_UNORM),
   (.R8G8B8A8_UNORM, .R8G8B8A8_UNORM),
   (.R8G8B8A8_SRGB, .R8G8B8A8_UNORM_SRGB),
   (.B8G8R8A8_UNORM, .B8G8R8A8_UNORM),
   (.B8G8R8A8_SRGB, .B8G8R8A8_UNORM_SRGB),
   (.B8G8R8X8_UNORM, .B8G8R8X8_UNORM),
   (.B8G8R8X8_SRGB, .B8G8R8X8_UNORM_SRGB),
   (.B4G4R4A4_UNORM, .B4G4R4A4_UNORM),
   (.R8_UNORM, .R8_UNORM),
   (.A8_UNORM, .A8_UNORM),
   (.Y8_U8V8_420_UNORM, .NV12),
   (.Y8_U8_V8_420_UNORM, .OPAQUE_420)]

/-- `virgl_to_dxgi_format`. -/
def virglToDxgiFormat (format : VirglFormat) : DxgiFormat :=
  switchOn virglToDxgiFormatTable .UNKNOWN format

/-- The `case` lines of `dxgi_format_bytes_per_pixel`. -/
def dxgiFormatBytesPerPixelTable : List (DxgiFormat × UINT) :=
  [(.R32G32B32A32_TYPELESS, 16#32),
   (.R32G32B32A32_FLOAT, 16#32),
   (.R32G32B32A32_UINT, 16#32),
   (.R32G32B32A32_SINT, 16#32),
   (.R32G32B32_TYPELESS, 12#32),
   (.R32G32B32_FLOAT, 12#32),
   (.R32G32B32_UINT, 12#32),
   (.R32G32B32_SINT, 12#32),
   (.R16G16B16A16_TYPELESS, 8#32),
   (.R16G16B16A16_FLOAT, 8#32),
   (.R16G16B16A16_UNORM, 8#32),
   (.R16G16B16A16_UINT, 8#32),
   (.R16G16B16A16_SNORM, 8#32),
   (.R16G16B16A16_SINT, 8#32),
   (.R10G10B10A2_TYPELESS, 4#32),
   (.R10G10B10A2_UNORM, 4#32),
   (.R10G10B10A2_UINT, 4#32),
   (.R11G11B10_FLOAT, 4#32),
   (.R8G8B8A8_TYPELESS, 4#32),
   (.R8G8B8A8_UNORM, 4#32),
   (.R8G8B8A8_UNORM_SRGB, 4#32),
   (.R8G8B8A8_UINT, 4#32),
   (.R8G8B8A8_SNORM, 4#32),
   (.R8G8B8A8_SINT, 4#32),
   (.B8G8R8A8_UNORM, 4#32),
   (.B8G8R8X8_UNORM, 4#32),
   (.B8G8R8A8_TYPELESS, 4#32),
   (.B8G8R8A8_UNORM_SRGB, 4#32),
   (.B8G8R8X8_TYPELESS, 4#32),
   (.B8G8R8X8_UNORM_SRGB, 4#32),
   (.B4G4R4A4_UNORM, 2#32),
   (.NV12, 4#32),
   (.OPAQUE_420, 4#32)]

/-- `dxgi_format_bytes_per_pixel`. -/
def dxgiFormatBytesPerPixel (format : DxgiFormat) : UINT :=
  switchOn dxgiFormatBytesPerPixelTable 0#32 format

-- ============================================================================
-- Channel layout
-- ============================================================================

/-- The channels of a pixel, in storage order. -/
inductive Channel where
  | r | g | b | a | x | y | u | v
deriving DecidableEq, Repr

/-- The channel layout (order and bit widths) of the formats the two virgl
    tables name; numeric interpretation and sRGB encoding are not part of it. -/
def channelLayoutTable : List (DxgiFormat × List (Channel × Nat)) :=
  [(.R32G32B32A32_FLOAT, [(.r, 32), (.g, 32), (.b, 32), (.a, 32)]),
   (.R16G16B16A16_TYPELESS, [(.r, 16), (.g, 16), (.b, 16), (.a, 16)]),
   (.R16G16B16A16_FLOAT, [(.r, 16), (.g, 16), (.b, 16), (.a, 16)]),
   (.R16G16B16A16_UNORM, [(.r, 16), (.g, 16), (.b, 16), (.a, 16)]),
   (.R16G16B16A16_UINT, [(.r, 16), (.g, 16), (.b, 16), (.a, 16)]),
   (.R16G16B16A16_SNORM, [(.r, 16), (.g, 16), (.b, 16), (.a, 16)]),
   (.R16G16B16A16_SINT, [(.r, 16), (.g, 16), (.b, 16), (.a, 16)]),
   (.R10G10B10A2_TYPELESS, [(.r, 10), (.g, 10), (.b, 10), (.a, 2)]),
   (.R10G10B10A2_UNORM, [(.r, 10), (.g, 10), (.b, 10), (.a, 2)]),
   (.R10G10B10A2_UINT, [(.r, 10), (.g, 10), (.b, 10), (.a, 2)]),
   (.R8G8B8A8_TYPELESS, [(.r, 8), (.g, 8), (.b, 8), (.a, 8)]),
   (.R8G8B8A8_UNORM, [(.r, 8), (.g, 8), (.b, 8), (.a, 8)]),
   (.R8G8B8A8_UNORM_SRGB, [(.r, 8), (.g, 8), (.b, 8), (.a, 8)]),
   (.R8G8B8A8_UINT, [(.r, 8), (.g, 8), (.b, 8), (.a, 8)]),
   (.R8G8B8A8_SNORM, [(.r, 8), (.g, 8), (.b, 8), (.a, 8)]),
   (.R8G8B8A8_SINT, [(.r, 8), (.g, 8), (.b, 8), (.a, 8)]),
   (.B8G8R8A8_TYPELESS, [(.b, 8), (.g, 8), (.r, 8), (.a, 8)]),
   (.B8G8R8A8_UNORM, [(.b, 8), (.g, 8), (.r, 8), (.a, 8)]),
   (.B8G8R8A8_UNORM_SRGB, [(.b, 8), (.g, 8), (.r, 8), (.a, 8)]),
   (.B8G8R8X8_TYPELESS, [(.b, 8), (.g, 8), (.r, 8), (.x, 8)]),
   (.B8G8R8X8_UNORM, [(.b, 8), (.g, 8), (.r, 8), (.x, 8)]),
   (.B8G8R8X8_UNORM_SRGB, [(.b, 8), (.g, 8), (.r, 8), (.x, 8)]),
   (.B4G4R4A4_UNORM, [(.b, 4), (.g, 4), (.r, 4), (.a, 4)]),
   (.R8_UNORM, [(.r, 8)]),
   (.A8_UNORM, [(.a, 8)]),
   (.NV12, [(.y, 8), (.u, 8), (.v, 8)]),
   (.OPAQUE_420, [(.y, 8), (.u, 8), (.v, 8)])]

def channelLayout (format : DxgiFormat) : List (Channel × Nat) :=
  switchOn channelLayoutTable [] format

/-- A format the encoder accepts comes back from the decoder with its channels in
    place exactly when it is not `R8G8B8A8_UNORM_SRGB`, whose `case` line names
    the BGRA code. -/
theorem channelLayout_virgl_roundtrip {format : DxgiFormat}
    (h : dxgiToVirglFormat format ≠ .NONE) :
    channelLayout (virglToDxgiFormat (dxgiToVirglFormat format)) = channelLayout format ↔
      format ≠ .R8G8B8A8_UNORM_SRGB := by
  have hlines : (dxgiToVirglFormatTable.all fun p =>
      decide (channelLayout (virglToDxgiFormat p.2) = channelLayout p.1 ↔
        p.1 ≠ .R8G8B8A8_UNORM_SRGB)) = true := by decide +kernel
  have hline := List.all_eq_true.mp hlines _ (switchOn_mem h)
  rw [decide_eq_true_eq] at hline
  exact hline

/-- The decoder's format always has a Vulkan counterpart, so an opened texture is
    never refused for its format. -/
theorem dxgiToVkFormat_virgl_roundtrip {format : DxgiFormat}
    (h : dxgiToVirglFormat format ≠ .NONE) :
    dxgiToVkFormat (virglToDxgiFormat (dxgiToVirglFormat format)) ≠ .UNDEFINED := by
  have hlines : (dxgiToVirglFormatTable.all fun p =>
      decide (dxgiToVkFormat (virglToDxgiFormat p.2) ≠ .UNDEFINED)) = true := by decide +kernel
  have hline := List.all_eq_true.mp hlines _ (switchOn_mem h)
  rw [decide_eq_true_eq] at hline
  exact hline

end VirtioWddm
