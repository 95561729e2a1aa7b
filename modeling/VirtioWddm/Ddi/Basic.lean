/-
  VirtioWddm.Ddi.Basic

  Machine words, result codes and handles of the driver's C code.

  `UINT`, `UINT64` and `HRESULT` are the 32- and 64-bit words of the source, so
  additions and products wrap as they do there.  Objects that the code only ever
  compares with NULL (Vulkan handles, host COM objects) are opaque identifiers
  and NULL is `none`; kernel handles stay words, because the code stores them in
  thread-local slots, compares them and tests them against `0`.
-/

import Mathlib.Tactic.Common

namespace VirtioWddm

abbrev UINT := BitVec 32
abbrev UINT64 := BitVec 64
abbrev HRESULT := BitVec 32

/-- Handles minted by the runtime (`HANDLE`); `0` is NULL. -/
abbrev HANDLE := BitVec 64

/-- Handles minted by the kernel (`D3DKMT_HANDLE`); `0` names no allocation. -/
abbrev D3DKMT_HANDLE := BitVec 32

-- ============================================================================
-- Result codes
-- ============================================================================

def S_OK : HRESULT := 0x00000000#32
def E_NOTIMPL : HRESULT := 0x80004001#32
def E_FAIL : HRESULT := 0x80004005#32
def E_PENDING : HRESULT := 0x8000000A#32
def E_OUTOFMEMORY : HRESULT := 0x8007000E#32
def E_INVALIDARG : HRESULT := 0x80070057#32

/-- `FAILED(hr)`: the code is negative as a signed long. -/
def failed (hr : HRESULT) : Bool := hr.msb

/-- `SUCCEEDED(hr)`. -/
def succeeded (hr : HRESULT) : Bool := !failed hr

@[simp] theorem failed_S_OK : failed S_OK = false := rfl
@[simp] theorem failed_E_NOTIMPL : failed E_NOTIMPL = true := rfl
@[simp] theorem failed_E_OUTOFMEMORY : failed E_OUTOFMEMORY = true := rfl

/-- The bit of an adapter with native contexts in `supported_capsets`. -/
def VIRTIO_WDDM_CAPSET_MASK_DRM : UINT64 := 0x0000000000000040#64

/-- `-errno` results of the runtime-allocator hooks. -/
def negEinval : Int := -22
def negEio : Int := -5

-- ============================================================================
-- Host and Vulkan objects
-- ============================================================================

/-- A non-NULL `VkImage`. -/
structure VkImage where
  id : Nat
deriving DecidableEq

/-- A non-NULL `VkDeviceMemory`. -/
structure VkDeviceMemory where
  id : Nat
deriving DecidableEq

/-- A non-NULL `ID3D11Resource` of the host stack. -/
structure HostResource where
  id : Nat
deriving DecidableEq

/-- A `VkResult` other than `VK_SUCCESS`; a call that can fail returns
    `Except VkError α`, so a failing call sets no out-object. -/
structure VkError where
  code : Int
deriving DecidableEq

-- ============================================================================
-- Faults
-- ============================================================================

/-- How a call can end without returning: `ASSERT` aborts the process; a write
    past a fixed-size array and a read of a variable nothing has set are undefined
    behaviour. -/
inductive Fault where
  | assertFailed (expr : String)
  | indexOutOfBounds (array : String) (index : Nat)
  | uninitialisedRead (name : String)
deriving DecidableEq

end VirtioWddm
