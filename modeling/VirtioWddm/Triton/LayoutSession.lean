/-
  VirtioWddm.Triton.LayoutSession

  Runs of the calls that touch the input-layout cache.

  A session is the device with what the runtime knows: the private blocks in which an
  object was created and not yet destroyed.  The runtime keeps to these when it
  destroys and sets objects; every other block may hold anything at any time.
-/

import VirtioWddm.Triton.Shader

namespace VirtioWddm

open Lib

-- ============================================================================
-- Resolutions
-- ============================================================================

/-- What `tritonResolveInputLayout` has read when it is past its first test. -/
structure Resolution where
  ea : PrivateAddr
  e : TritonElementLayout
  vs : TritonShader
  pElements : List DdiElementDesc
  pBytecode : List Byte

namespace TritonDevice

/-- The objects of a resolution, if it gets past the first test. -/
def resolution (pD : TritonDevice) : Option Resolution := do
  let ea ← pD.pCurrentLayout
  let va ← pD.pCurrentVS
  let vs ← pD.shaderAt va
  let pBytecode ← vs.pBytecode
  let e ← pD.layoutAt ea
  let pElements ← e.pElements
  if e.numElements = 0 then none
  else return { ea := ea, e := e, vs := vs, pElements := pElements, pBytecode := pBytecode }

/-- The layout that a resolution binds on its cached path. -/
def cachedLayout (pD : TritonDevice) : Option HostInputLayout :=
  pD.resolution.bind fun r => if isCached r.e r.vs then r.e.pLayout else none

/-- What a resolution off the cached path requests from the host: a layout for the
    elements of the current layout and the bytecode of the current shader. -/
def freshRequest (pD : TritonDevice) (heap : DxbcHeap) : Option InputLayoutRequest :=
  pD.resolution.bind fun r =>
    (inputLayoutRequest heap r.pElements r.pBytecode r.vs.cbBytecode).join

/-- The device whose current layout has no host layout. -/
def released (pD : TritonDevice) : TritonDevice :=
  pD.resolution.elim pD fun r => pD.write r.ea (.layout (releasedLayout r.e))

end TritonDevice

variable {pD : TritonDevice} {r : Resolution}

theorem shaderAt_eq_some {a : PrivateAddr} {vs : TritonShader} :
    pD.shaderAt a = some vs ↔ pD.mem a = .shader vs := by
  rw [TritonDevice.shaderAt]
  split
  case h_1 s hs => rw [hs, Option.some.injEq, PrivateCell.shader.injEq]
  case h_2 hne =>
    constructor
    · intro h
      cases h
    · exact fun h => absurd h (hne vs)

theorem layoutAt_eq_some {a : PrivateAddr} {e : TritonElementLayout} :
    pD.layoutAt a = some e ↔ pD.mem a = .layout e := by
  rw [TritonDevice.layoutAt]
  split
  case h_1 s hs => rw [hs, Option.some.injEq, PrivateCell.layout.injEq]
  case h_2 hne =>
    constructor
    · intro h
      cases h
    · exact fun h => absurd h (hne e)

/-- The pointers a resolution follows, and what it finds there. -/
structure Resolution.ReadFrom (r : Resolution) (pD : TritonDevice) (va : PrivateAddr) : Prop where
  pCurrentLayout : pD.pCurrentLayout = some r.ea
  pCurrentVS : pD.pCurrentVS = some va
  shader : pD.mem va = .shader r.vs
  pBytecode : r.vs.pBytecode = some r.pBytecode
  layout : pD.mem r.ea = .layout r.e
  pElements : r.e.pElements = some r.pElements
  numElements : r.e.numElements ≠ 0

theorem resolution_eq_some : pD.resolution = some r ↔ ∃ va, r.ReadFrom pD va := by
  constructor
  · intro h
    simp only [TritonDevice.resolution, Option.bind_eq_bind, Option.bind_eq_some_iff] at h
    obtain ⟨ea, hea, va, hva, vs, hvs, pBytecode, hbc, e, he, pElements, helems, h⟩ := h
    split at h
    case isTrue => cases h
    case isFalse hpos =>
      cases h
      exact ⟨va, hea, hva, shaderAt_eq_some.mp hvs, hbc, layoutAt_eq_some.mp he, helems, hpos⟩
  · rintro ⟨va, h⟩
    simp only [TritonDevice.resolution, h.pCurrentLayout, h.pCurrentVS, Option.bind_eq_bind,
      Option.bind_some, shaderAt_eq_some.mpr h.shader, h.pBytecode,
      layoutAt_eq_some.mpr h.layout, h.pElements, if_neg h.numElements]
    rfl

/-- `tritonResolveInputLayout` past its first test. -/
theorem tritonResolveInputLayout_eq (h : pD.resolution = some r) (answers : ResolveAnswers) :
    tritonResolveInputLayout pD answers =
      if isCached r.e r.vs then some (bindLayout pD r.e r.vs)
      else createLayout pD r.ea r.e r.vs r.pElements r.pBytecode answers := by
  obtain ⟨va, h⟩ := resolution_eq_some.mp h
  simp only [tritonResolveInputLayout, h.pCurrentLayout, h.pCurrentVS, Option.bind_eq_bind,
    Option.bind_some, shaderAt_eq_some.mpr h.shader, h.pBytecode,
    layoutAt_eq_some.mpr h.layout, h.pElements, if_neg h.numElements]

/-- `tritonResolveInputLayout` on its cached path. -/
theorem tritonResolveInputLayout_cached {l : HostInputLayout} (h : pD.cachedLayout = some l)
    (answers : ResolveAnswers) :
    ∃ pD', tritonResolveInputLayout pD answers = some pD' ∧ pD'.hostLayout = some l := by
  obtain ⟨r, hres, hl⟩ := Option.bind_eq_some_iff.mp h
  split at hl
  case isTrue hcached =>
    refine ⟨bindLayout pD r.e r.vs, ?_, hl⟩
    rw [tritonResolveInputLayout_eq hres, if_pos hcached]
  case isFalse => cases hl

/-- Without its host layout, the layout is that of the same resolution. -/
theorem resolution_released (h : pD.resolution = some r) :
    pD.released.resolution = some { r with e := releasedLayout r.e } := by
  have hreleased : pD.released = pD.write r.ea (.layout (releasedLayout r.e)) := by
    rw [TritonDevice.released, h]
    rfl
  obtain ⟨va, hr⟩ := resolution_eq_some.mp h
  have hne : va ≠ r.ea := by
    intro heq
    have hshader := hr.shader
    rw [heq, hr.layout] at hshader
    cases hshader
  rw [hreleased]
  refine resolution_eq_some.mpr ⟨va, ?_⟩
  exact {
    pCurrentLayout := hr.pCurrentLayout
    pCurrentVS := hr.pCurrentVS
    shader := (pD.mem_write_of_ne hne _).trans hr.shader
    pBytecode := hr.pBytecode
    layout := pD.mem_write_self r.ea _
    pElements := hr.pElements
    numElements := hr.numElements }

/-- The layout after the host has created a host layout for a shader. -/
def requestedLayout (e : TritonElementLayout) (vs : TritonShader) (l : HostInputLayout) :
    TritonElementLayout :=
  { releasedLayout e with
    pLayout := some l
    layoutVsCookie := vs.cookie }

/-- `tritonResolveInputLayout` where the host creates the layout it is asked for. -/
theorem tritonResolveInputLayout_requests (hres : pD.resolution = some r)
    (hnot : isCached r.e r.vs = false) {heap : DxbcHeap} {request : InputLayoutRequest}
    (hrequest : inputLayoutRequest heap r.pElements r.pBytecode r.vs.cbBytecode =
      some (some request)) (id : Nat) :
    tritonResolveInputLayout pD { heap := heap, created := some id } =
      some (bindLayout (pD.write r.ea (.layout (requestedLayout r.e r.vs ⟨id, request⟩)))
        (requestedLayout r.e r.vs ⟨id, request⟩) r.vs) := by
  rw [tritonResolveInputLayout_eq hres, if_neg (by rw [hnot]; exact Bool.false_ne_true)]
  simp only [createLayout, hrequest, Option.bind_eq_bind, Option.bind_some]
  rfl

/-- What `freshRequest` says is what a resolution without the cache has the host
    create. -/
theorem tritonResolveInputLayout_released {heap : DxbcHeap} {request : InputLayoutRequest}
    (h : pD.freshRequest heap = some request) (id : Nat) :
    ∃ pD', tritonResolveInputLayout pD.released { heap := heap, created := some id } = some pD' ∧
      pD'.hostLayout = some { id := id, request := request } := by
  obtain ⟨r, hres, hrequest⟩ := Option.bind_eq_some_iff.mp h
  exact ⟨_, tritonResolveInputLayout_requests (resolution_released hres) rfl
    (Option.join_eq_some_iff.mp hrequest) id, rfl⟩

-- ============================================================================
-- Sessions
-- ============================================================================

/-- The kinds of objects. -/
inductive ObjectKind where
  | shader
  | elementLayout
deriving DecidableEq

/-- The device, and the objects that exist. -/
structure Session where
  device : TritonDevice
  live : PrivateAddr → Option ObjectKind := fun _ => none

/-- The calls, with the answers that the heap and the host give during them. -/
inductive LayoutCall where
  | createShader (a : PrivateAddr) (args : CreateShaderArgs)
  | destroyShader (a : PrivateAddr)
  | createElementLayout (a : PrivateAddr) (pVertexElements : List DdiElementDesc) (fAlloc : Bool)
  | destroyElementLayout (a : PrivateAddr)
  | vsSetShader (hShader : Option PrivateAddr) (answers : ResolveAnswers)
  | iaSetInputLayout (hLayout : Option PrivateAddr) (answers : ResolveAnswers)
  /-- a private block without an object is written to by others -/
  | overwrite (a : PrivateAddr) (c : PrivateCell)

/-- The number of shaders a call creates or fails to create. -/
def LayoutCall.shaders : LayoutCall → Nat
  | .createShader _ _ => 1
  | _ => 0

/-- A token stream of the length it declares. -/
def InMemory (pShaderCode : List UINT) : Prop :=
  ∃ declared, pShaderCode[1]? = some declared ∧ declared.toNat ≤ pShaderCode.length

namespace Session

/-- What the runtime keeps to: objects are created where none is, and it destroys and
    sets only objects that were created and not destroyed. -/
def Legal (s : Session) : LayoutCall → Prop
  | .createShader a args => s.live a = none ∧ InMemory args.pShaderCode
  | .destroyShader a => s.live a = some .shader
  | .createElementLayout a _ _ => s.live a = none
  | .destroyElementLayout a => s.live a = some .elementLayout
  | .vsSetShader hShader _ => ∀ a, hShader = some a → s.live a = some .shader
  | .iaSetInputLayout hLayout _ => ∀ a, hLayout = some a → s.live a = some .elementLayout
  | .overwrite a _ => s.live a = none

/-- The objects that exist after a create call at `a` that reported `error`. -/
def created (s : Session) (a : PrivateAddr) (kind : ObjectKind) (error : Option HRESULT) :
    PrivateAddr → Option ObjectKind :=
  if error.isNone then Function.update s.live a (some kind) else s.live

/-- One call; `none` is a read that is not of the object it is meant to be. -/
def step (s : Session) : LayoutCall → Option Session
  | .createShader a args =>
      match tritonCreateShaderCommon s.device a args with
      | .error _ => none
      | .ok (pD, error) => some { device := pD, live := s.created a .shader error }
  | .destroyShader a => do
      let pD ← tritonDestroyShader s.device a
      return { device := pD, live := Function.update s.live a none }
  | .createElementLayout a pVertexElements fAlloc =>
      let (pD, error) := tritonCreateElementLayout s.device a pVertexElements fAlloc
      some { device := pD, live := s.created a .elementLayout error }
  | .destroyElementLayout a => do
      let pD ← tritonDestroyElementLayout s.device a
      return { device := pD, live := Function.update s.live a none }
  | .vsSetShader hShader answers => do
      let pD ← tritonVsSetShader s.device hShader answers
      return { s with device := pD }
  | .iaSetInputLayout hLayout answers => do
      let pD ← tritonIaSetInputLayout s.device hLayout answers
      return { s with device := pD }
  | .overwrite a c => some { s with device := s.device.write a c }

/-- The device in which a call enters `tritonResolveInputLayout`, and the answers it
    gets there. -/
def resolves (s : Session) : LayoutCall → Option (TritonDevice × ResolveAnswers)
  | .vsSetShader hShader answers => (setCurrentVS s.device hShader).map fun pD => (pD, answers)
  | .iaSetInputLayout hLayout answers =>
      if hLayout.isSome && s.device.pCurrentVS.isSome then
        some ({ s.device with pCurrentLayout := hLayout }, answers)
      else none
  | _ => none

/-- The sessions after runs of calls the runtime may make, `n` of them shader
    creations. -/
inductive Reaches (fDdi11_1 : Bool) : Nat → Session → Prop where
  | init : Reaches fDdi11_1 0 { device := { fDdi11_1 := fDdi11_1 } }
  | call {n : Nat} {s s' : Session} {c : LayoutCall} (hreach : Reaches fDdi11_1 n s)
      (hlegal : s.Legal c) (hstep : s.step c = some s') :
      Reaches fDdi11_1 (n + c.shaders) s'

/-- A call that enters `tritonResolveInputLayout` ends with it. -/
theorem step_of_resolves {s : Session} {c : LayoutCall} {pD : TritonDevice}
    {answers : ResolveAnswers} (h : s.resolves c = some (pD, answers)) :
    s.step c = (tritonResolveInputLayout pD answers).map fun pD => { s with device := pD } := by
  cases c with
  | vsSetShader hShader answers' =>
      simp only [resolves, Option.map_eq_some_iff, Prod.mk.injEq] at h
      obtain ⟨pD', hset, rfl, rfl⟩ := h
      simp only [step, tritonVsSetShader, hset, Option.bind_eq_bind, Option.bind_some]
      cases tritonResolveInputLayout pD' answers' with
      | none => rfl
      | some pD₁ => rfl
  | iaSetInputLayout hLayout answers' =>
      rw [resolves] at h
      split at h
      case isTrue hset =>
        cases h
        simp only [step, tritonIaSetInputLayout, if_pos hset]
        cases tritonResolveInputLayout { s.device with pCurrentLayout := hLayout } answers with
        | none => rfl
        | some pD₁ => rfl
      case isFalse => cases h
  | createShader | destroyShader | createElementLayout | destroyElementLayout | overwrite =>
      cases h

end Session

end VirtioWddm
