/-
  VirtioWddm.Ddi.Format

  The pixel-format codes of the three interfaces the driver translates between:
  DXGI (the D3D runtime), Vulkan (the ICD) and virgl (the host renderer).

  DXGI and virgl codes are words, since the code receives them from outside as
  such (a kernel reply, a format query for any number) and indexes arrays with
  them.  Vulkan formats are only produced by the driver's own table, so they are
  an enumeration.  Codes that no modelled function mentions are left out.
-/

import VirtioWddm.Ddi.Basic

namespace VirtioWddm

-- ============================================================================
-- DXGI formats
-- ============================================================================

/-- `DXGI_FORMAT`. -/
abbrev DxgiFormat := UINT

namespace DxgiFormat

def UNKNOWN : DxgiFormat := 0#32
def R32G32B32A32_TYPELESS : DxgiFormat := 1#32
def R32G32B32A32_FLOAT : DxgiFormat := 2#32
def R32G32B32A32_UINT : DxgiFormat := 3#32
def R32G32B32A32_SINT : DxgiFormat := 4#32
def R32G32B32_TYPELESS : DxgiFormat := 5#32
def R32G32B32_FLOAT : DxgiFormat := 6#32
def R32G32B32_UINT : DxgiFormat := 7#32
def R32G32B32_SINT : DxgiFormat := 8#32
def R16G16B16A16_TYPELESS : DxgiFormat := 9#32
def R16G16B16A16_FLOAT : DxgiFormat := 10#32
def R16G16B16A16_UNORM : DxgiFormat := 11#32
def R16G16B16A16_UINT : DxgiFormat := 12#32
def R16G16B16A16_SNORM : DxgiFormat := 13#32
def R16G16B16A16_SINT : DxgiFormat := 14#32
def R32G32_TYPELESS : DxgiFormat := 15#32
def R32G32_FLOAT : DxgiFormat := 16#32
def R32G32_UINT : DxgiFormat := 17#32
def R32G32_SINT : DxgiFormat := 18#32
def R32G8X24_TYPELESS : DxgiFormat := 19#32
def D32_FLOAT_S8X24_UINT : DxgiFormat := 20#32
def R32_FLOAT_X8X24_TYPELESS : DxgiFormat := 21#32
def X32_TYPELESS_G8X24_UINT : DxgiFormat := 22#32
def R10G10B10A2_TYPELESS : DxgiFormat := 23#32
def R10G10B10A2_UNORM : DxgiFormat := 24#32
def R10G10B10A2_UINT : DxgiFormat := 25#32
def R11G11B10_FLOAT : DxgiFormat := 26#32
def R8G8B8A8_TYPELESS : DxgiFormat := 27#32
def R8G8B8A8_UNORM : DxgiFormat := 28#32
def R8G8B8A8_UNORM_SRGB : DxgiFormat := 29#32
def R8G8B8A8_UINT : DxgiFormat := 30#32
def R8G8B8A8_SNORM : DxgiFormat := 31#32
def R8G8B8A8_SINT : DxgiFormat := 32#32
def R16G16_TYPELESS : DxgiFormat := 33#32
def R16G16_FLOAT : DxgiFormat := 34#32
def R16G16_UNORM : DxgiFormat := 35#32
def R16G16_UINT : DxgiFormat := 36#32
def R16G16_SNORM : DxgiFormat := 37#32
def R16G16_SINT : DxgiFormat := 38#32
def R32_TYPELESS : DxgiFormat := 39#32
def D32_FLOAT : DxgiFormat := 40#32
def R32_FLOAT : DxgiFormat := 41#32
def R32_UINT : DxgiFormat := 42#32
def R32_SINT : DxgiFormat := 43#32
def R24G8_TYPELESS : DxgiFormat := 44#32
def D24_UNORM_S8_UINT : DxgiFormat := 45#32
def R24_UNORM_X8_TYPELESS : DxgiFormat := 46#32
def X24_TYPELESS_G8_UINT : DxgiFormat := 47#32
def R8G8_TYPELESS : DxgiFormat := 48#32
def R8G8_UNORM : DxgiFormat := 49#32
def R8G8_UINT : DxgiFormat := 50#32
def R8G8_SNORM : DxgiFormat := 51#32
def R8G8_SINT : DxgiFormat := 52#32
def R16_TYPELESS : DxgiFormat := 53#32
def R16_FLOAT : DxgiFormat := 54#32
def D16_UNORM : DxgiFormat := 55#32
def R16_UNORM : DxgiFormat := 56#32
def R16_UINT : DxgiFormat := 57#32
def R16_SNORM : DxgiFormat := 58#32
def R16_SINT : DxgiFormat := 59#32
def R8_TYPELESS : DxgiFormat := 60#32
def R8_UNORM : DxgiFormat := 61#32
def R8_UINT : DxgiFormat := 62#32
def R8_SNORM : DxgiFormat := 63#32
def R8_SINT : DxgiFormat := 64#32
def A8_UNORM : DxgiFormat := 65#32
def BC1_TYPELESS : DxgiFormat := 70#32
def BC1_UNORM : DxgiFormat := 71#32
def BC1_UNORM_SRGB : DxgiFormat := 72#32
def BC2_TYPELESS : DxgiFormat := 73#32
def BC2_UNORM : DxgiFormat := 74#32
def BC2_UNORM_SRGB : DxgiFormat := 75#32
def BC3_TYPELESS : DxgiFormat := 76#32
def BC3_UNORM : DxgiFormat := 77#32
def BC3_UNORM_SRGB : DxgiFormat := 78#32
def BC4_TYPELESS : DxgiFormat := 79#32
def BC4_UNORM : DxgiFormat := 80#32
def BC4_SNORM : DxgiFormat := 81#32
def BC5_TYPELESS : DxgiFormat := 82#32
def BC5_UNORM : DxgiFormat := 83#32
def BC5_SNORM : DxgiFormat := 84#32
def B5G6R5_UNORM : DxgiFormat := 85#32
def B5G5R5A1_UNORM : DxgiFormat := 86#32
def B8G8R8A8_UNORM : DxgiFormat := 87#32
def B8G8R8X8_UNORM : DxgiFormat := 88#32
def R10G10B10_XR_BIAS_A2_UNORM : DxgiFormat := 89#32
def B8G8R8A8_TYPELESS : DxgiFormat := 90#32
def B8G8R8A8_UNORM_SRGB : DxgiFormat := 91#32
def B8G8R8X8_TYPELESS : DxgiFormat := 92#32
def B8G8R8X8_UNORM_SRGB : DxgiFormat := 93#32
def BC6H_TYPELESS : DxgiFormat := 94#32
def BC6H_UF16 : DxgiFormat := 95#32
def BC6H_SF16 : DxgiFormat := 96#32
def BC7_TYPELESS : DxgiFormat := 97#32
def BC7_UNORM : DxgiFormat := 98#32
def BC7_UNORM_SRGB : DxgiFormat := 99#32
def AYUV : DxgiFormat := 100#32
def NV12 : DxgiFormat := 103#32
def P010 : DxgiFormat := 104#32
def P016 : DxgiFormat := 105#32
def OPAQUE_420 : DxgiFormat := 106#32
def YUY2 : DxgiFormat := 107#32
def B4G4R4A4_UNORM : DxgiFormat := 115#32

end DxgiFormat

-- ============================================================================
-- virgl formats
-- ============================================================================

/-- `enum virgl_formats`. -/
abbrev VirglFormat := UINT

namespace VirglFormat

def NONE : VirglFormat := 0#32
def B8G8R8A8_UNORM : VirglFormat := 1#32
def B8G8R8X8_UNORM : VirglFormat := 2#32
def B4G4R4A4_UNORM : VirglFormat := 6#32
def R10G10B10A2_UNORM : VirglFormat := 8#32
def A8_UNORM : VirglFormat := 10#32
def R32G32B32A32_FLOAT : VirglFormat := 31#32
def R16G16B16A16_UNORM : VirglFormat := 51#32
def R8_UNORM : VirglFormat := 64#32
def R8G8B8A8_UNORM : VirglFormat := 67#32
def R16G16B16A16_FLOAT : VirglFormat := 94#32
def B8G8R8A8_SRGB : VirglFormat := 100#32
def B8G8R8X8_SRGB : VirglFormat := 101#32
def R8G8B8A8_SRGB : VirglFormat := 104#32
def Y8_U8_V8_420_UNORM : VirglFormat := 165#32
def Y8_U8V8_420_UNORM : VirglFormat := 166#32

end VirglFormat

-- ============================================================================
-- Vulkan formats
-- ============================================================================

/-- `VkFormat`, the values the driver's tables produce. -/
inductive VkFormat where
  | UNDEFINED
  | R32G32B32A32_SFLOAT
  | R32G32B32A32_UINT
  | R32G32B32A32_SINT
  | R32G32B32_SFLOAT
  | R32G32B32_UINT
  | R32G32B32_SINT
  | R16G16B16A16_SFLOAT
  | R16G16B16A16_UNORM
  | R16G16B16A16_UINT
  | R16G16B16A16_SNORM
  | R16G16B16A16_SINT
  | R32G32_SFLOAT
  | R32G32_UINT
  | R32G32_SINT
  | A2B10G10R10_UNORM_PACK32
  | A2B10G10R10_UINT_PACK32
  | B10G11R11_UFLOAT_PACK32
  | R8G8_UNORM
  | R8G8_UINT
  | R8G8_SNORM
  | R8G8_SINT
  | R8G8B8A8_UNORM
  | R8G8B8A8_SRGB
  | R8G8B8A8_UINT
  | R8G8B8A8_SNORM
  | R8G8B8A8_SINT
  | R16G16_SFLOAT
  | R16G16_UNORM
  | R16G16_UINT
  | R16G16_SNORM
  | R16G16_SINT
  | R32_UINT
  | D32_SFLOAT
  | R32_SFLOAT
  | R32_SINT
  | R16_UINT
  | R16_SFLOAT
  | D16_UNORM
  | R16_UNORM
  | R16_SNORM
  | R16_SINT
  | R8_UNORM
  | R8_UINT
  | R8_SNORM
  | R8_SINT
  | A8_UNORM
  | R5G6B5_UNORM_PACK16
  | A1R5G5B5_UNORM_PACK16
  | B8G8R8A8_UNORM
  | B8G8R8A8_SRGB
  | G8_B8R8_2PLANE_420_UNORM
  | G8B8G8R8_422_UNORM
  | A4R4G4B4_UNORM_PACK16
deriving DecidableEq

end VirtioWddm
