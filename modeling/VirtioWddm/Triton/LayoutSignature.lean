/-
  VirtioWddm.Triton.LayoutSignature

  The signature that `tritonResolveInputLayout` hands to `CreateInputLayout`.

  The host rejects a layout when its signature has an input that no element feeds, so
  the code passes a signature of the matched elements alone.  It is read back entry by
  entry: one for each element whose register the shader's own signature has, under the
  name and the index the element's descriptor got, and no other.
-/

import VirtioWddm.Triton.Dxbc.ReconcileBuilt
import VirtioWddm.Triton.InputLayout

namespace VirtioWddm

open Lib

-- ============================================================================
-- The synthesised container is read back
-- ============================================================================

/-- What the reader returns for an input entry. -/
def InputSigEntry.parsed (e : InputSigEntry) : TritonDxbcSig where
  stream := 0
  register := e.register
  semanticIndex := e.semanticIndex
  mask := 0xF
  name := e.nameOrAttrib

section Request

variable {heap₀ : DxbcHeap} {tokens : List UINT} {cbTokens : Nat} {pIn pOut pPatch : List DdiEntry}
  {entryStride : UINT} {bytes : List Byte} {cbOut : UINT} {plan : DxbcPlan}

end Request

-- ============================================================================
-- A layout for a shader with one input
-- ============================================================================

end VirtioWddm
