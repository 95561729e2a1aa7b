/-
  VirtioWddm.Triton.InputLayout

  What `tritonResolveInputLayout` asks the host for: the element descriptors with the
  semantics of the vertex shader's input signature, and a signature of the matched
  elements.
-/

import VirtioWddm.Triton.Dxbc.Parse
import VirtioWddm.Triton.Dxbc.Writer

namespace VirtioWddm

open Lib

/-- `D3D11_IA_VERTEX_INPUT_RESOURCE_SLOT_COUNT * 2`, the room for parsed entries. -/
def maxInputSigs : UINT := 64

/-- `D3D11_IA_VERTEX_INPUT_STRUCTURE_ELEMENTS_COMPONENTS`. -/
def maxLayoutElements : Nat := 128

/-- `D3D10DDIARG_INPUT_ELEMENT_DESC`. -/
structure DdiElementDesc where
  inputSlot : UINT
  alignedByteOffset : UINT
  format : UINT
  inputSlotClass : UINT
  instanceDataStepRate : UINT
  inputRegister : UINT
deriving DecidableEq

/-- `D3D11_INPUT_ELEMENT_DESC`. -/
structure InputElementDesc where
  semanticName : CString
  semanticIndex : UINT
  format : UINT
  inputSlot : UINT
  alignedByteOffset : UINT
  inputSlotClass : UINT
  instanceDataStepRate : UINT
deriving DecidableEq

/-- The arguments of `CreateInputLayout`. -/
structure InputLayoutRequest where
  descs : List InputElementDesc
  sigBc : List Byte
  cbSigBc : Nat
deriving DecidableEq

/-- The first signature entry of a register. -/
def findSig (sigs : List TritonDxbcSig) (src : DdiElementDesc) : Option TritonDxbcSig :=
  sigs.find? fun sig => sig.register == src.inputRegister

/-- The descriptor of an element; one without an entry has an empty name. -/
def elementDesc (sigs : List TritonDxbcSig) (src : DdiElementDesc) : InputElementDesc where
  semanticName := (findSig sigs src).elim [] TritonDxbcSig.name
  semanticIndex := (findSig sigs src).elim 0 TritonDxbcSig.semanticIndex
  format := src.format
  inputSlot := src.inputSlot
  alignedByteOffset := src.alignedByteOffset
  inputSlotClass := src.inputSlotClass
  instanceDataStepRate := src.instanceDataStepRate

/-- The entry of the synthesised signature for an element. -/
def matchedEntry (sigs : List TritonDxbcSig) (src : DdiElementDesc) : Option InputSigEntry :=
  (findSig sigs src).map fun sig =>
    { name := some sig.name, semanticIndex := sig.semanticIndex, register := src.inputRegister }

/-- What is passed to `CreateInputLayout` for a layout's elements and a vertex shader's
    bytecode; `some none` where the code does not get there, and `none` for a read
    outside the bytecode.  Without a synthesised signature it is the shader's own. -/
def inputLayoutRequest (heap : DxbcHeap) (pElements : List DdiElementDesc)
    (pBytecode : List Byte) (cbBytecode : Nat) : Option (Option InputLayoutRequest) := do
  let sigs ← tritonDxbcParseSig pBytecode cbBytecode true maxInputSigs
  if sigs.length = 0 then return none
  else if maxLayoutElements < pElements.length then return none
  else
    let matched := pElements.filterMap (matchedEntry sigs)
    let pSynthBc := if matched.length = 0 then none else tritonBuildInputSigDxbc heap matched
    return some {
      descs := pElements.map (elementDesc sigs)
      sigBc := pSynthBc.elim pBytecode Prod.fst
      cbSigBc := pSynthBc.elim cbBytecode fun synth => synth.2.toNat }

/-- `inputLayoutRequest` reads outside the bytecode only where the parser does. -/
theorem inputLayoutRequest_isSome {pBytecode : List Byte} {cbBytecode : Nat}
    (h : (tritonDxbcParseSig pBytecode cbBytecode true maxInputSigs).isSome) (heap : DxbcHeap)
    (pElements : List DdiElementDesc) :
    (inputLayoutRequest heap pElements pBytecode cbBytecode).isSome := by
  obtain ⟨sigs, hsigs⟩ := Option.isSome_iff_exists.mp h
  rw [inputLayoutRequest, hsigs]
  dsimp only [bind, Option.bind]
  split
  case isTrue => rfl
  case isFalse =>
    split
    case isTrue => rfl
    case isFalse => rfl

/-- A layout is requested exactly when the shader has inputs and the elements fit. -/
theorem inputLayoutRequest_eq_none_iff {pBytecode : List Byte} {cbBytecode : Nat}
    {sigs : List TritonDxbcSig}
    (h : tritonDxbcParseSig pBytecode cbBytecode true maxInputSigs = some sigs) (heap : DxbcHeap)
    (pElements : List DdiElementDesc) :
    inputLayoutRequest heap pElements pBytecode cbBytecode = some none ↔
      sigs.length = 0 ∨ maxLayoutElements < pElements.length := by
  rw [inputLayoutRequest, h]
  dsimp only [bind, Option.bind]
  split
  case isTrue hnone => exact ⟨fun _ => .inl hnone, fun _ => rfl⟩
  case isFalse hsome =>
    split
    case isTrue hmany => exact ⟨fun _ => .inr hmany, fun _ => rfl⟩
    case isFalse hfit =>
      constructor
      · intro heq
        cases heq
      · exact fun hor => (hor.elim hsome hfit).elim

end VirtioWddm
