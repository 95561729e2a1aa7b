/-
  VirtioWddm.Triton.StateDesc

  How `tritonState.c` creates blend, depth-stencil and rasterizer states and samplers.

  A creation translates the description of the DDI to one of the host, sometimes by way
  of a later version of the DDI.  What a description means is what it does to fragments
  and pixels, and the translations keep it.
-/

import VirtioWddm.Lib.FragmentTest
import VirtioWddm.Triton.View

namespace VirtioWddm

open Lib

-- ============================================================================
-- Descriptions
-- ============================================================================

/-- A `FLOAT`, which the driver copies and never looks into. -/
abbrev FLOAT := BitVec 32

/-- `D3D10_DDI_RENDER_TARGET_BLEND_DESC1`. -/
structure RenderTargetBlend10 where
  blendEnable : Bool := false
  srcBlend : UINT := 0
  destBlend : UINT := 0
  blendOp : UINT := 0
  srcBlendAlpha : UINT := 0
  destBlendAlpha : UINT := 0
  blendOpAlpha : UINT := 0
  renderTargetWriteMask : BitVec 8 := 0
deriving DecidableEq

/-- `D3D11_1_DDI_RENDER_TARGET_BLEND_DESC` and `D3D11_RENDER_TARGET_BLEND_DESC1`, which
    have the same members and values. -/
structure RenderTargetBlend where
  blendEnable : Bool := false
  logicOpEnable : Bool := false
  srcBlend : UINT := 0
  destBlend : UINT := 0
  blendOp : UINT := 0
  srcBlendAlpha : UINT := 0
  destBlendAlpha : UINT := 0
  blendOpAlpha : UINT := 0
  logicOp : UINT := 0
  renderTargetWriteMask : BitVec 8 := 0
deriving DecidableEq

/-- `D3D10_1_DDI_BLEND_DESC`. -/
structure BlendDesc10 where
  alphaToCoverageEnable : Bool := false
  independentBlendEnable : Bool := false
  renderTarget : Fin 8 → RenderTargetBlend10 := fun _ => {}

/-- `D3D11_1_DDI_BLEND_DESC` and `D3D11_BLEND_DESC1`. -/
structure BlendDesc where
  alphaToCoverageEnable : Bool := false
  independentBlendEnable : Bool := false
  renderTarget : Fin 8 → RenderTargetBlend := fun _ => {}

/-- `D3D10_DDI_DEPTH_STENCILOP_DESC` and `D3D11_DEPTH_STENCILOP_DESC`. -/
structure StencilOpDesc where
  stencilFailOp : UINT := 0
  stencilDepthFailOp : UINT := 0
  stencilPassOp : UINT := 0
  stencilFunc : UINT := 0
deriving DecidableEq

/-- `D3D11_DEPTH_STENCIL_DESC`. -/
structure DepthStencilDesc where
  depthEnable : Bool := false
  depthWriteMask : UINT := 0
  depthFunc : UINT := 0
  stencilEnable : Bool := false
  stencilReadMask : BitVec 8 := 0
  stencilWriteMask : BitVec 8 := 0
  frontFace : StencilOpDesc := {}
  backFace : StencilOpDesc := {}
deriving DecidableEq

/-- `D3D10_DDI_DEPTH_STENCIL_DESC`, where each face can be disabled on its own. -/
structure DdiDepthStencilDesc extends DepthStencilDesc where
  frontEnable : Bool := false
  backEnable : Bool := false
deriving DecidableEq

/-- `D3D10_DDI_RASTERIZER_DESC`. -/
structure RasterizerDesc10 where
  fillMode : UINT := 0
  cullMode : UINT := 0
  frontCounterClockwise : Bool := false
  depthBias : BitVec 32 := 0
  depthBiasClamp : FLOAT := 0
  slopeScaledDepthBias : FLOAT := 0
  depthClipEnable : Bool := false
  scissorEnable : Bool := false
  multisampleEnable : Bool := false
  antialiasedLineEnable : Bool := false
deriving DecidableEq

/-- `D3D11_1_DDI_RASTERIZER_DESC` and `D3D11_RASTERIZER_DESC1`. -/
structure RasterizerDesc extends RasterizerDesc10 where
  forcedSampleCount : UINT := 0
deriving DecidableEq

/-- `D3DWDDM2_0DDI_RASTERIZER_DESC` and `D3D11_RASTERIZER_DESC2`. -/
structure RasterizerDesc20 extends RasterizerDesc where
  conservativeRaster : UINT := 0
deriving DecidableEq

/-- `D3D10_DDI_SAMPLER_DESC` and `D3D11_SAMPLER_DESC`. -/
structure SamplerDesc where
  filter : UINT := 0
  addressU : UINT := 0
  addressV : UINT := 0
  addressW : UINT := 0
  mipLODBias : FLOAT := 0
  maxAnisotropy : UINT := 0
  comparisonFunc : UINT := 0
  borderColor : Fin 4 → FLOAT := fun _ => 0
  minLOD : FLOAT := 0
  maxLOD : FLOAT := 0

def D3D11_STENCIL_OP_KEEP : UINT := 1
def D3D11_COMPARISON_ALWAYS : UINT := 8
def D3D11_DEPTH_WRITE_MASK_ALL : UINT := 1
def D3D11_1_DDI_LOGIC_OP_CLEAR : UINT := 0

-- ============================================================================
-- Creation
-- ============================================================================

/-- What a state object of the host was created as. -/
inductive HostStateDesc where
  | blend (d : BlendDesc)
  | depthStencil (d : DepthStencilDesc)
  | rasterizer (d : RasterizerDesc)
  | rasterizer2 (d : RasterizerDesc20)
  | sampler (d : SamplerDesc)

/-- A state object of the host. -/
structure HostState where
  id : Nat
  desc : HostStateDesc

/-- The end of every creation: the block's `pState` and the error that is reported. -/
def createState (desc : HostStateDesc) (reply : Except FailureCode Nat) :
    Option HostState × Option HRESULT :=
  match reply with
  | .ok id => (some { id := id, desc := desc }, none)
  | .error hr => (none, some hr.val)

def tritonCreateBlendState (pArgs : BlendDesc) (reply : Except FailureCode Nat) :
    Option HostState × Option HRESULT :=
  let d : BlendDesc :=
    { alphaToCoverageEnable := pArgs.alphaToCoverageEnable
      independentBlendEnable := pArgs.independentBlendEnable
      renderTarget := fun i =>
        let src := pArgs.renderTarget i
        { blendEnable := src.blendEnable
          logicOpEnable := src.logicOpEnable
          srcBlend := src.srcBlend
          destBlend := src.destBlend
          blendOp := src.blendOp
          srcBlendAlpha := src.srcBlendAlpha
          destBlendAlpha := src.destBlendAlpha
          blendOpAlpha := src.blendOpAlpha
          logicOp := src.logicOp
          renderTargetWriteMask := src.renderTargetWriteMask } }
  createState (.blend d) reply

def tritonCreateBlendState_10 (pArgs : BlendDesc10) (reply : Except FailureCode Nat) :
    Option HostState × Option HRESULT :=
  let up : BlendDesc :=
    { alphaToCoverageEnable := pArgs.alphaToCoverageEnable
      independentBlendEnable := pArgs.independentBlendEnable
      renderTarget := fun i =>
        let src := pArgs.renderTarget i
        { blendEnable := src.blendEnable
          logicOpEnable := false
          srcBlend := src.srcBlend
          destBlend := src.destBlend
          blendOp := src.blendOp
          srcBlendAlpha := src.srcBlendAlpha
          destBlendAlpha := src.destBlendAlpha
          blendOpAlpha := src.blendOpAlpha
          logicOp := D3D11_1_DDI_LOGIC_OP_CLEAR
          renderTargetWriteMask := src.renderTargetWriteMask } }
  tritonCreateBlendState up reply

/-- The "do nothing" stencil of a face that is disabled on its own. -/
def disabledFace : StencilOpDesc :=
  { stencilFailOp := D3D11_STENCIL_OP_KEEP
    stencilDepthFailOp := D3D11_STENCIL_OP_KEEP
    stencilPassOp := D3D11_STENCIL_OP_KEEP
    stencilFunc := D3D11_COMPARISON_ALWAYS }

/-- The description `tritonCreateDepthStencilState` passes on. -/
def depthStencilDesc (pArgs : DdiDepthStencilDesc) : DepthStencilDesc :=
  { depthEnable := pArgs.depthEnable
    depthWriteMask := pArgs.depthWriteMask
    depthFunc := pArgs.depthFunc
    stencilEnable := pArgs.stencilEnable
    stencilReadMask := pArgs.stencilReadMask
    stencilWriteMask := pArgs.stencilWriteMask
    frontFace :=
      if pArgs.stencilEnable && !pArgs.frontEnable then disabledFace else pArgs.frontFace
    backFace :=
      if pArgs.stencilEnable && !pArgs.backEnable then disabledFace else pArgs.backFace }

def tritonCreateDepthStencilState (pArgs : DdiDepthStencilDesc)
    (reply : Except FailureCode Nat) : Option HostState × Option HRESULT :=
  createState (.depthStencil (depthStencilDesc pArgs)) reply

def tritonCreateRasterizerState (pArgs : RasterizerDesc) (reply : Except FailureCode Nat) :
    Option HostState × Option HRESULT :=
  let d : RasterizerDesc :=
    { fillMode := pArgs.fillMode
      cullMode := pArgs.cullMode
      frontCounterClockwise := pArgs.frontCounterClockwise
      depthBias := pArgs.depthBias
      depthBiasClamp := pArgs.depthBiasClamp
      slopeScaledDepthBias := pArgs.slopeScaledDepthBias
      depthClipEnable := pArgs.depthClipEnable
      scissorEnable := pArgs.scissorEnable
      multisampleEnable := pArgs.multisampleEnable
      antialiasedLineEnable := pArgs.antialiasedLineEnable
      forcedSampleCount := pArgs.forcedSampleCount }
  createState (.rasterizer d) reply

def tritonCreateRasterizerState_10 (pArgs : RasterizerDesc10) (reply : Except FailureCode Nat) :
    Option HostState × Option HRESULT :=
  let up : RasterizerDesc :=
    { fillMode := pArgs.fillMode
      cullMode := pArgs.cullMode
      frontCounterClockwise := pArgs.frontCounterClockwise
      depthBias := pArgs.depthBias
      depthBiasClamp := pArgs.depthBiasClamp
      slopeScaledDepthBias := pArgs.slopeScaledDepthBias
      depthClipEnable := pArgs.depthClipEnable
      scissorEnable := pArgs.scissorEnable
      multisampleEnable := pArgs.multisampleEnable
      antialiasedLineEnable := pArgs.antialiasedLineEnable
      forcedSampleCount := 0 }
  tritonCreateRasterizerState up reply

/-- Without `ID3D11Device3` the 11.1 path is taken and the conservative mode dropped. -/
def tritonCreateRasterizerState_WDDM2_0 (dev3 : Bool) (pArgs : RasterizerDesc20)
    (reply : Except FailureCode Nat) : Option HostState × Option HRESULT :=
  let common : RasterizerDesc :=
    { fillMode := pArgs.fillMode
      cullMode := pArgs.cullMode
      frontCounterClockwise := pArgs.frontCounterClockwise
      depthBias := pArgs.depthBias
      depthBiasClamp := pArgs.depthBiasClamp
      slopeScaledDepthBias := pArgs.slopeScaledDepthBias
      depthClipEnable := pArgs.depthClipEnable
      scissorEnable := pArgs.scissorEnable
      multisampleEnable := pArgs.multisampleEnable
      antialiasedLineEnable := pArgs.antialiasedLineEnable
      forcedSampleCount := pArgs.forcedSampleCount }
  if !dev3 then tritonCreateRasterizerState common reply
  else
    createState (.rasterizer2 { common with conservativeRaster := pArgs.conservativeRaster }) reply

def tritonCreateSampler (pArgs : SamplerDesc) (reply : Except FailureCode Nat) :
    Option HostState × Option HRESULT :=
  let d : SamplerDesc :=
    { filter := pArgs.filter
      addressU := pArgs.addressU
      addressV := pArgs.addressV
      addressW := pArgs.addressW
      mipLODBias := pArgs.mipLODBias
      maxAnisotropy :=
        if pArgs.maxAnisotropy < 1 then 1
        else if 16 < pArgs.maxAnisotropy then 16
        else pArgs.maxAnisotropy
      comparisonFunc := pArgs.comparisonFunc
      borderColor := fun i => pArgs.borderColor i
      minLOD := pArgs.minLOD
      maxLOD := pArgs.maxLOD }
  createState (.sampler d) reply

/-- The creation entry points, each with its arguments. -/
inductive DdiState where
  | blend (pArgs : BlendDesc)
  | blend10 (pArgs : BlendDesc10)
  | depthStencil (pArgs : DdiDepthStencilDesc)
  | rasterizer (pArgs : RasterizerDesc)
  | rasterizer10 (pArgs : RasterizerDesc10)
  | rasterizer20 (pArgs : RasterizerDesc20)
  | sampler (pArgs : SamplerDesc)

def DdiState.create (dev3 : Bool) : DdiState → Except FailureCode Nat →
    Option HostState × Option HRESULT
  | .blend pArgs => tritonCreateBlendState pArgs
  | .blend10 pArgs => tritonCreateBlendState_10 pArgs
  | .depthStencil pArgs => tritonCreateDepthStencilState pArgs
  | .rasterizer pArgs => tritonCreateRasterizerState pArgs
  | .rasterizer10 pArgs => tritonCreateRasterizerState_10 pArgs
  | .rasterizer20 pArgs => tritonCreateRasterizerState_WDDM2_0 dev3 pArgs
  | .sampler pArgs => tritonCreateSampler pArgs

-- ============================================================================
-- What descriptions mean
-- ============================================================================

/-- The pixel arithmetic that a blend state selects from. -/
structure PixelMath (γ : Type) where
  /-- by the blend factors and operations of color and alpha: source and destination -/
  blend : UINT → UINT → UINT → UINT → UINT → UINT → γ → γ → γ
  logic : UINT → γ → γ → γ
  /-- the new value in the channels of a write mask, the old one elsewhere -/
  write : BitVec 8 → γ → γ → γ

/-- What a render target holds after a pixel: `src` on top of `dst`. -/
def RenderTargetBlend.pixel {γ : Type} (rt : RenderTargetBlend) (m : PixelMath γ) (src dst : γ) :
    γ :=
  m.write rt.renderTargetWriteMask
    (if rt.logicOpEnable then m.logic rt.logicOp src dst
    else if rt.blendEnable then
      m.blend rt.srcBlend rt.destBlend rt.blendOp rt.srcBlendAlpha rt.destBlendAlpha
        rt.blendOpAlpha src dst
    else src)
    dst

/-- The same for the DDI of Direct3D 10.1, which has no logic operations. -/
def RenderTargetBlend10.pixel {γ : Type} (rt : RenderTargetBlend10) (m : PixelMath γ)
    (src dst : γ) : γ :=
  m.write rt.renderTargetWriteMask
    (if rt.blendEnable then
      m.blend rt.srcBlend rt.destBlend rt.blendOp rt.srcBlendAlpha rt.destBlendAlpha
        rt.blendOpAlpha src dst
    else src)
    dst

/-- Render target `i` uses the first blend description unless they are independent. -/
def BlendDesc.pixel {γ : Type} (d : BlendDesc) (m : PixelMath γ) (i : Fin 8) : γ → γ → γ :=
  (d.renderTarget (if d.independentBlendEnable then i else 0)).pixel m

def BlendDesc10.pixel {γ : Type} (d : BlendDesc10) (m : PixelMath γ) (i : Fin 8) : γ → γ → γ :=
  (d.renderTarget (if d.independentBlendEnable then i else 0)).pixel m

/-- `D3D11_COMPARISON_FUNC` by value. -/
def comparisonFunc (code : UINT) : Comparison :=
  match code.toNat with
  | 2 => .less
  | 3 => .equal
  | 4 => .lessEqual
  | 5 => .greater
  | 6 => .notEqual
  | 7 => .greaterEqual
  | 8 => .always
  | _ => .never

/-- `D3D11_STENCIL_OP` by value. -/
def stencilOp (code : UINT) : StencilOp :=
  match code.toNat with
  | 2 => .zero
  | 3 => .replace
  | 4 => .incrSat
  | 5 => .decrSat
  | 6 => .invert
  | 7 => .incr
  | 8 => .decr
  | _ => .keep

def StencilOpDesc.face (d : StencilOpDesc) : StencilFace where
  failOp := stencilOp d.stencilFailOp
  depthFailOp := stencilOp d.stencilDepthFailOp
  passOp := stencilOp d.stencilPassOp
  func := comparisonFunc d.stencilFunc

/-- The tests of a depth-stencil description whose faces are enabled as `enabled` says. -/
def DepthStencilDesc.testWith (d : DepthStencilDesc) (enabled : Bool → Bool) : FragmentTest 8 where
  depthTest := if d.depthEnable then some (comparisonFunc d.depthFunc) else none
  depthWrite := d.depthWriteMask = D3D11_DEPTH_WRITE_MASK_ALL
  face front :=
    if d.stencilEnable && enabled front then
      some (if front then d.frontFace else d.backFace).face
    else none
  readMask := d.stencilReadMask
  writeMask := d.stencilWriteMask

/-- The host's description has one switch for both faces. -/
def DepthStencilDesc.test (d : DepthStencilDesc) : FragmentTest 8 :=
  d.testWith fun _ => true

/-- The DDI's has one for each face besides. -/
def DdiDepthStencilDesc.test (d : DdiDepthStencilDesc) : FragmentTest 8 :=
  d.toDepthStencilDesc.testWith fun front => if front then d.frontEnable else d.backEnable

/-- A sampler's anisotropy as the host accepts it, and everything else as it was asked
    for. -/
structure SamplesLike (h d : SamplerDesc) : Prop where
  same : { h with maxAnisotropy := d.maxAnisotropy } = d
  range : 1 ≤ h.maxAnisotropy.toNat ∧ h.maxAnisotropy.toNat ≤ 16
  inRange : 1 ≤ d.maxAnisotropy.toNat → d.maxAnisotropy.toNat ≤ 16 →
    h.maxAnisotropy = d.maxAnisotropy

/-- A host state does what the runtime described: the same to every pixel on every
    render target, the same to every run of fragments on every sample. -/
def Renders (dev3 : Bool) (host : HostStateDesc) : DdiState → Prop
  | .blend d => ∃ h, host = .blend h ∧ h.alphaToCoverageEnable = d.alphaToCoverageEnable ∧
      ∀ (γ : Type) (m : PixelMath γ) (i : Fin 8), h.pixel m i = d.pixel m i
  | .blend10 d => ∃ h, host = .blend h ∧ h.alphaToCoverageEnable = d.alphaToCoverageEnable ∧
      ∀ (γ : Type) (m : PixelMath γ) (i : Fin 8), h.pixel m i = d.pixel m i
  | .depthStencil d => ∃ h, host = .depthStencil h ∧
      ∀ (δ : Type) [LinearOrder δ] (ref : BitVec 8) (sample : Sample 8 δ)
        (fragments : List (Fragment δ)),
        h.test.run ref sample fragments = d.test.run ref sample fragments
  | .rasterizer d => host = .rasterizer d
  | .rasterizer10 d => host = .rasterizer { d with forcedSampleCount := 0 }
  | .rasterizer20 d =>
      host = if dev3 then .rasterizer2 d else .rasterizer d.toRasterizerDesc
  | .sampler d => ∃ h, host = .sampler h ∧ SamplesLike h d

-- ============================================================================
-- The translations keep the meaning
-- ============================================================================

/-- With the stencil test on, disabling a side is the stencil that does nothing; with it
    off, the sides do not matter. -/
theorem depthStencilDesc_face (d : DdiDepthStencilDesc) (front : Bool) :
    (depthStencilDesc d).test.face front = d.test.face front ∨
      ((depthStencilDesc d).test.face front = some .idle ∧ d.test.face front = none) := by
  obtain ⟨⟨depthEnable, depthWriteMask, depthFunc, stencilEnable, readMask, writeMask, frontFace,
    backFace⟩, frontEnable, backEnable⟩ := d
  cases stencilEnable with
  | false => exact .inl rfl
  | true =>
      cases front with
      | true =>
          cases frontEnable with
          | true => exact .inl rfl
          | false => exact .inr ⟨rfl, rfl⟩
      | false =>
          cases backEnable with
          | true => exact .inl rfl
          | false => exact .inr ⟨rfl, rfl⟩

theorem depthStencilDesc_run (d : DdiDepthStencilDesc) {δ : Type} [LinearOrder δ] (ref : BitVec 8)
    (sample : Sample 8 δ) (fragments : List (Fragment δ)) :
    (depthStencilDesc d).test.run ref sample fragments = d.test.run ref sample fragments := by
  refine FragmentTest.run_congr (fun sample fragment => ?_) sample fragments
  refine FragmentTest.step_idle ?_ ?_ ?_ ?_ (depthStencilDesc_face d) ref sample fragment
  all_goals rfl

theorem anisotropy_clamped (n : UINT) :
    let clamped := if n < 1 then 1 else if 16 < n then 16 else n
    (1 ≤ clamped.toNat ∧ clamped.toNat ≤ 16) ∧
      (1 ≤ n.toNat → n.toNat ≤ 16 → clamped = n) := by
  have hone : (1 : UINT).toNat = 1 := rfl
  have hsixteen : (16 : UINT).toNat = 16 := rfl
  dsimp only
  by_cases hlow : n < 1
  · rw [if_pos hlow]
    have hlow := BitVec.lt_def.mp hlow
    exact ⟨by omega, fun hge => by omega⟩
  · rw [if_neg hlow]
    have hlow := mt BitVec.lt_def.mpr hlow
    by_cases hhigh : 16 < n
    · rw [if_pos hhigh]
      have hhigh := BitVec.lt_def.mp hhigh
      exact ⟨by omega, fun _ hle => by omega⟩
    · rw [if_neg hhigh]
      have hhigh := mt BitVec.lt_def.mpr hhigh
      exact ⟨by omega, fun _ _ => rfl⟩

/-- A creation that succeeds leaves a host state that does what was described, and one
    that fails leaves none and reports the host's error. -/
theorem create_renders (dev3 : Bool) (d : DdiState) (reply : Except FailureCode Nat) :
    match reply with
    | .ok id => ∃ h, d.create dev3 reply = (some ⟨id, h⟩, none) ∧ Renders dev3 h d
    | .error hr => d.create dev3 reply = (none, some hr.val) := by
  cases reply with
  | error hr =>
      cases d with
      | rasterizer20 d => cases dev3 <;> rfl
      | blend | blend10 | depthStencil | rasterizer | rasterizer10 | sampler => rfl
  | ok id =>
      cases d with
      | blend d => exact ⟨_, rfl, _, rfl, rfl, fun γ m i => rfl⟩
      | blend10 d => exact ⟨_, rfl, _, rfl, rfl, fun γ m i => rfl⟩
      | depthStencil d =>
          exact ⟨_, rfl, _, rfl, fun δ _ ref sample fragments =>
            depthStencilDesc_run d ref sample fragments⟩
      | rasterizer d => exact ⟨_, rfl, rfl⟩
      | rasterizer10 d => exact ⟨_, rfl, rfl⟩
      | rasterizer20 d =>
          cases dev3 with
          | true => exact ⟨_, rfl, rfl⟩
          | false => exact ⟨_, rfl, rfl⟩
      | sampler d =>
          obtain ⟨hrange, hinRange⟩ := anisotropy_clamped d.maxAnisotropy
          exact ⟨_, rfl, _, rfl, rfl, hrange, hinRange⟩

end VirtioWddm
