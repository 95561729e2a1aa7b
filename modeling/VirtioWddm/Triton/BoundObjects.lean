/-
  VirtioWddm.Triton.BoundObjects

  What the host draws with.

  Three calls bind a vertex shader and an input layout on the host: the two setters, and
  the resolution both enter.  Behind every run of them the host's vertex shader is that
  of the current shader, whatever layout is current, and a current pair with a host
  layout of its own has this layout bound.  A resolution that gets no layout is the only
  way to have another one bound.
-/

import VirtioWddm.Triton.LayoutCache

namespace VirtioWddm

open Lib

-- ============================================================================
-- The invariant
-- ============================================================================

/-- The host's vertex shader is the current one. -/
structure ShaderBound (live : PrivateAddr → Option ObjectKind) (pD : TritonDevice) : Prop where
  boundReconVS : pD.pBoundReconVS = none
  reconVS : ∀ a e, live a = some .elementLayout → pD.mem a = .layout e → e.pReconVS = none
  child : ∀ a vs, live a = some .shader → pD.mem a = .shader vs → vs.pDeviceChild.isSome
  hostVS : ∀ a vs, pD.pCurrentVS = some a → pD.mem a = .shader vs → pD.hostVS = vs.pDeviceChild

/-- The host's input layout is the one of the current pair, where that has one. -/
def LayoutBound (pD : TritonDevice) : Prop :=
  ∀ l, pD.cachedLayout = some l → pD.hostLayout = some l

section Invariant

variable {hist : Nat → ShaderBytecode} {n : Nat} {live : PrivateAddr → Option ObjectKind}
  {pD pD' : TritonDevice}

-- ============================================================================
-- Writes
-- ============================================================================

/-- A resolution reads no block but those of the current objects. -/
theorem resolution_write {a : PrivateAddr} (hvs : pD.pCurrentVS ≠ some a)
    (hlayout : pD.pCurrentLayout ≠ some a) (c : PrivateCell) :
    (pD.write a c).resolution = pD.resolution := by
  have hread : ∀ (r : Resolution) va, r.ReadFrom (pD.write a c) va ↔ r.ReadFrom pD va := by
    intro r va
    have hshader : pD.pCurrentVS = some va → (pD.write a c).mem va = pD.mem va := by
      intro hcurrent
      refine pD.mem_write_of_ne (fun heq => hvs ?_) c
      rw [hcurrent, heq]
    have hcell : pD.pCurrentLayout = some r.ea → (pD.write a c).mem r.ea = pD.mem r.ea := by
      intro hcurrent
      refine pD.mem_write_of_ne (fun heq => hlayout ?_) c
      rw [hcurrent, heq]
    constructor
    · intro h
      exact { h with
        shader := (hshader h.pCurrentVS).symm.trans h.shader
        layout := (hcell h.pCurrentLayout).symm.trans h.layout }
    · intro h
      exact { h with
        shader := (hshader h.pCurrentVS).trans h.shader
        layout := (hcell h.pCurrentLayout).trans h.layout }
  apply Option.ext
  intro r
  show _ = some r ↔ _ = some r
  rw [resolution_eq_some, resolution_eq_some]
  exact exists_congr (hread r)

theorem cachedLayout_write {a : PrivateAddr} (hvs : pD.pCurrentVS ≠ some a)
    (hlayout : pD.pCurrentLayout ≠ some a) (c : PrivateCell) :
    (pD.write a c).cachedLayout = pD.cachedLayout := by
  rw [TritonDevice.cachedLayout, TritonDevice.cachedLayout, resolution_write hvs hlayout]

/-- What a resolution reads once its layout is written to. -/
theorem Resolution.ReadFrom.writeLayout {r : Resolution} {va : PrivateAddr}
    (h : r.ReadFrom pD va) {e : TritonElementLayout} (helements : e.pElements = r.e.pElements)
    (hcount : e.numElements = r.e.numElements) :
    Resolution.ReadFrom { r with e := e } (pD.write r.ea (.layout e)) va := by
  have hne : va ≠ r.ea := by
    intro heq
    have hshader := h.shader
    rw [heq, h.layout] at hshader
    cases hshader
  exact
    { pCurrentLayout := h.pCurrentLayout
      pCurrentVS := h.pCurrentVS
      shader := (pD.mem_write_of_ne hne _).trans h.shader
      pBytecode := h.pBytecode
      layout := pD.mem_write_self r.ea _
      pElements := helements.trans h.pElements
      numElements := fun hzero => h.numElements (hcount.symm.trans hzero) }

/-- A block without an object is written to. -/
theorem ShaderBound.write (h : ShaderBound live pD) {a : PrivateAddr} (ha : live a = none)
    (hvs : pD.pCurrentVS ≠ some a) (c : PrivateCell) : ShaderBound live (pD.write a c) := by
  have hcell : ∀ {a' : PrivateAddr} {kind : ObjectKind}, live a' = some kind →
      (pD.write a c).mem a' = pD.mem a' := by
    intro a' kind hlive
    refine pD.mem_write_of_ne (fun heq => ?_) c
    rw [heq, ha] at hlive
    cases hlive
  refine
    { boundReconVS := h.boundReconVS
      reconVS := fun a' e hlive hmem => h.reconVS a' e hlive ((hcell hlive).symm.trans hmem)
      child := fun a' vs hlive hmem => h.child a' vs hlive ((hcell hlive).symm.trans hmem)
      hostVS := fun a' vs hcurrent hmem => ?_ }
  have hne : a' ≠ a := fun heq => hvs (heq ▸ hcurrent)
  rw [pD.mem_write_of_ne hne] at hmem
  exact h.hostVS a' vs hcurrent hmem

/-- The layout of a live object is written to; it gets no reconciled shader. -/
theorem ShaderBound.writeLayout (h : ShaderBound live pD) {ea va : PrivateAddr}
    (hlive : live ea = some .elementLayout) (hcurrent : pD.pCurrentVS = some va) (hne : va ≠ ea)
    {e : TritonElementLayout} (he : e.pReconVS = none) :
    ShaderBound live (pD.write ea (.layout e)) := by
  refine
    { boundReconVS := h.boundReconVS
      reconVS := fun a' e' hlive' hmem' => ?_
      child := fun a' vs' hlive' hmem' => ?_
      hostVS := fun a' vs' hcurrent' hmem' => ?_ }
  · by_cases heq : a' = ea
    · rw [heq, pD.mem_write_self] at hmem'
      cases hmem'
      exact he
    · rw [pD.mem_write_of_ne heq] at hmem'
      exact h.reconVS a' e' hlive' hmem'
  · have heq : a' ≠ ea := by
      intro heq
      rw [heq, hlive] at hlive'
      cases hlive'
    rw [pD.mem_write_of_ne heq] at hmem'
    exact h.child a' vs' hlive' hmem'
  · obtain rfl : va = a' := Option.some.inj (hcurrent.symm.trans hcurrent')
    rw [pD.mem_write_of_ne hne] at hmem'
    exact h.hostVS va vs' hcurrent hmem'

/-- An object comes to be. -/
theorem ShaderBound.birth (h : ShaderBound live pD) {a : PrivateAddr} (kind : ObjectKind)
    (hlayout : ∀ e, pD.mem a = .layout e → e.pReconVS = none)
    (hshader : ∀ vs, pD.mem a = .shader vs → vs.pDeviceChild.isSome) :
    ShaderBound (Function.update live a (some kind)) pD := by
  refine { h with reconVS := fun a' e hlive hmem => ?_, child := fun a' vs hlive hmem => ?_ }
  · by_cases heq : a' = a
    · exact hlayout e (heq ▸ hmem)
    · rw [Function.update_of_ne heq] at hlive
      exact h.reconVS a' e hlive hmem
  · by_cases heq : a' = a
    · exact hshader vs (heq ▸ hmem)
    · rw [Function.update_of_ne heq] at hlive
      exact h.child a' vs hlive hmem

/-- An object is gone. -/
theorem ShaderBound.death (h : ShaderBound live pD) (a : PrivateAddr) :
    ShaderBound (Function.update live a none) pD := by
  have hkept : ∀ a' kind, Function.update live a none a' = some kind → live a' = some kind := by
    intro a' kind hlive
    by_cases heq : a' = a
    · rw [heq, Function.update_self] at hlive
      cases hlive
    · rw [Function.update_of_ne heq] at hlive
      exact hlive
  exact { h with
    reconVS := fun a' e hlive => h.reconVS a' e (hkept a' _ hlive)
    child := fun a' vs hlive => h.child a' vs (hkept a' _ hlive) }

-- ============================================================================
-- Resolutions
-- ============================================================================

/-- No reconciled shader is ever bound, so none is unbound. -/
theorem ShaderBound.unbindReconVs (h : ShaderBound live pD) : tritonUnbindReconVs pD = some pD := by
  rw [tritonUnbindReconVs, h.boundReconVS]

theorem bindLayout_bound (h : ShaderBound live pD) {r : Resolution} {va : PrivateAddr}
    (hr : r.ReadFrom pD va) (hlive : live r.ea = some .elementLayout) :
    ShaderBound live (bindLayout pD r.e r.vs) ∧ LayoutBound (bindLayout pD r.e r.vs) := by
  have hrecon := h.reconVS r.ea r.e hlive hr.layout
  constructor
  · refine { h with boundReconVS := hrecon, hostVS := fun a vs hcurrent hmem => ?_ }
    obtain rfl : va = a := Option.some.inj (hr.pCurrentVS.symm.trans hcurrent)
    obtain rfl : r.vs = vs := PrivateCell.shader.inj (hr.shader.symm.trans hmem)
    show r.e.pReconVS.or r.vs.pDeviceChild = _
    rw [hrecon]
    rfl
  · intro l hl
    have hl : pD.cachedLayout = some l := hl
    rw [TritonDevice.cachedLayout, resolution_eq_some.mpr ⟨va, hr⟩, Option.bind_some] at hl
    split at hl
    case isTrue => exact hl
    case isFalse => cases hl

/-- Whatever the host answers, a resolution leaves the current shader bound, and the
    layout of the current pair if there is one. -/
theorem ShaderBound.resolve (hinv : CacheInv hist n live pD) (h : ShaderBound live pD)
    {answers : ResolveAnswers} (hresolve : tritonResolveInputLayout pD answers = some pD') :
    ShaderBound live pD' ∧ LayoutBound pD' := by
  cases hres : pD.resolution with
  | none =>
      rcases hinv.resolution_cases with ⟨r, hsome⟩ | hunbind
      · rw [hres] at hsome
        cases hsome
      · rw [hunbind, h.unbindReconVs] at hresolve
        cases hresolve
        refine ⟨h, fun l hl => ?_⟩
        rw [TritonDevice.cachedLayout, hres] at hl
        cases hl
  | some r =>
      obtain ⟨va, hr⟩ := resolution_eq_some.mp hres
      have hlive := hinv.currentLayout r.ea hr.pCurrentLayout
      have hne : va ≠ r.ea := by
        intro heq
        rw [← heq, hinv.currentVS va hr.pCurrentVS] at hlive
        cases hlive
      have hwrite := fun (e : TritonElementLayout) (he : e.pReconVS = none) =>
        h.writeLayout hlive hr.pCurrentVS hne he
      -- without a host layout of its own, the pair has none that must be bound
      have hfailed : ∀ e, e.pElements = r.e.pElements → e.numElements = r.e.numElements →
          e.pReconVS = none → e.pLayout = none →
          tritonUnbindReconVs (pD.write r.ea (.layout e)) = some pD' →
          ShaderBound live pD' ∧ LayoutBound pD' := by
        intro e helements hcount hrecon hnone hunbind
        rw [(hwrite e hrecon).unbindReconVs] at hunbind
        cases hunbind
        refine ⟨hwrite e hrecon, fun l hl => ?_⟩
        rw [TritonDevice.cachedLayout,
          resolution_eq_some.mpr ⟨va, hr.writeLayout helements hcount⟩, Option.bind_some] at hl
        split at hl
        case isTrue => cases hnone.symm.trans hl
        case isFalse => cases hl
      rw [tritonResolveInputLayout_eq hres] at hresolve
      by_cases hcached : isCached r.e r.vs = true
      · rw [if_pos hcached] at hresolve
        cases hresolve
        exact bindLayout_bound h hr hlive
      · rw [if_neg hcached, createLayout] at hresolve
        obtain ⟨request?, -, hresolve⟩ := Option.bind_eq_some_iff.mp hresolve
        cases request? with
        | none => exact hfailed (releasedLayout r.e) rfl rfl rfl rfl hresolve
        | some request =>
            cases hcreated : answers.created with
            | none =>
                rw [hcreated] at hresolve
                exact hfailed { releasedLayout r.e with layoutVsCookie := 0 } rfl rfl rfl rfl
                  hresolve
            | some id =>
                rw [hcreated] at hresolve
                cases hresolve
                exact bindLayout_bound (hwrite (requestedLayout r.e r.vs ⟨id, request⟩) rfl)
                  (hr.writeLayout rfl rfl) hlive

/-- A resolution with a layout, cached or granted by the host, binds it. -/
theorem resolve_binds {answers : ResolveAnswers}
    (hlayout : pD.cachedLayout.isSome ∨
      (answers.created.isSome ∧ (pD.freshRequest answers.heap).isSome)) :
    ∃ pD' l, tritonResolveInputLayout pD answers = some pD' ∧ pD'.cachedLayout = some l := by
  have hsome : ∃ r, pD.resolution = some r := by
    cases hres : pD.resolution with
    | none =>
        rw [TritonDevice.cachedLayout, TritonDevice.freshRequest, hres] at hlayout
        rcases hlayout with h | ⟨-, h⟩
        · cases h
        · cases h
    | some r => exact ⟨r, rfl⟩
  obtain ⟨r, hres⟩ := hsome
  obtain ⟨va, hr⟩ := resolution_eq_some.mp hres
  cases hcached : isCached r.e r.vs with
  | true =>
      obtain ⟨l, hl⟩ := Option.isSome_iff_exists.mp
        (Bool.and_eq_true_iff.mp (show (r.e.pLayout.isSome && _) = true from hcached)).1
      refine ⟨bindLayout pD r.e r.vs, l, ?_, ?_⟩
      · rw [tritonResolveInputLayout_eq hres, if_pos hcached]
      · show pD.cachedLayout = some l
        rw [TritonDevice.cachedLayout, hres, Option.bind_some, if_pos hcached, hl]
  | false =>
      have hmiss : pD.cachedLayout = none := by
        rw [TritonDevice.cachedLayout, hres, Option.bind_some, hcached]
        rfl
      rw [hmiss, TritonDevice.freshRequest, hres, Option.bind_some] at hlayout
      obtain ⟨hcreated, hfresh⟩ := hlayout.resolve_left Bool.false_ne_true
      obtain ⟨id, hid⟩ := Option.isSome_iff_exists.mp hcreated
      obtain ⟨request, hrequest⟩ := Option.isSome_iff_exists.mp hfresh
      rw [Option.join_eq_some_iff] at hrequest
      have hbinds := tritonResolveInputLayout_requests hres hcached hrequest id
      rw [show ({ heap := answers.heap, created := some id } : ResolveAnswers) = answers from
        hid ▸ rfl] at hbinds
      have hread := hr.writeLayout (e := requestedLayout r.e r.vs ⟨id, request⟩) rfl rfl
      refine ⟨_, ⟨id, request⟩, hbinds, ?_⟩
      show (pD.write r.ea (.layout (requestedLayout r.e r.vs ⟨id, request⟩))).cachedLayout = _
      rw [TritonDevice.cachedLayout, resolution_eq_some.mpr ⟨va, hread⟩, Option.bind_some]
      exact if_pos (beq_self_eq_true r.vs.cookie)

-- ============================================================================
-- One call
-- ============================================================================

/-- A shader that is created without an error has its host object. -/
theorem tritonCreateShaderCommon_child {a : PrivateAddr} {args : CreateShaderArgs}
    {error : Option HRESULT} (h : tritonCreateShaderCommon pD a args = .ok (pD', error)) :
    ∃ vs, pD' = { pD with nextShaderCookie := pD.nextShaderCookie + 1 }.write a (.shader vs) ∧
      (error = none → vs.pDeviceChild.isSome) := by
  rw [tritonCreateShaderCommon] at h
  obtain ⟨cbTokens, -, h⟩ := bind_eq_ok h
  dsimp only at h
  split at h
  case isTrue =>
    cases h
    exact ⟨_, rfl, fun herror => by cases herror⟩
  case isFalse =>
    obtain ⟨pDxbc, -, h⟩ := bind_eq_ok h
    cases pDxbc with
    | none =>
        cases h
        exact ⟨_, rfl, fun herror => by cases herror⟩
    | some built =>
        cases hnative : args.native with
        | ok child =>
            rw [hnative] at h
            cases h
            exact ⟨_, rfl, fun _ => rfl⟩
        | error hr =>
            rw [hnative] at h
            cases h
            exact ⟨_, rfl, fun herror => by cases herror⟩

/-- The two parts of what is bound. -/
def Bound (live : PrivateAddr → Option ObjectKind) (pD : TritonDevice) : Prop :=
  ShaderBound live pD ∧ LayoutBound pD

/-- A block without an object is written to. -/
theorem Bound.write (h : Bound live pD) (hinv : CacheInv hist n live pD) {a : PrivateAddr}
    (ha : live a = none) (c : PrivateCell) : Bound live (pD.write a c) := by
  have hvs : pD.pCurrentVS ≠ some a := by
    intro hcurrent
    rw [hinv.currentVS a hcurrent] at ha
    cases ha
  have hlayout : pD.pCurrentLayout ≠ some a := by
    intro hcurrent
    rw [hinv.currentLayout a hcurrent] at ha
    cases ha
  exact ⟨h.1.write ha hvs c, fun l hl => h.2 l ((cachedLayout_write hvs hlayout c).symm.trans hl)⟩

/-- A creation, whether it leaves an object or not. -/
theorem Bound.created (h : Bound live pD) (hinv : CacheInv hist n live pD) {a : PrivateAddr}
    (ha : live a = none) (kind : ObjectKind) {c : PrivateCell} {error : Option HRESULT}
    (hlayout : ∀ e, c = .layout e → e.pReconVS = none)
    (hshader : ∀ vs, c = .shader vs → error = none → vs.pDeviceChild.isSome) :
    Bound (if error.isNone then Function.update live a (some kind) else live) (pD.write a c) := by
  have hwritten := h.write hinv ha c
  cases error with
  | some hr => exact hwritten
  | none =>
      refine ⟨hwritten.1.birth kind (fun e hmem => ?_) fun vs hmem => ?_, hwritten.2⟩
      · exact hlayout e ((pD.mem_write_self a c).symm.trans hmem)
      · exact hshader vs ((pD.mem_write_self a c).symm.trans hmem) rfl

/-- `if (pCurrent == p) pCurrent = NULL;` -/
def unset (pCurrent : Option PrivateAddr) (a : PrivateAddr) : Option PrivateAddr :=
  if pCurrent = some a then none else pCurrent

theorem unset_ne {pCurrent : Option PrivateAddr} {a : PrivateAddr} : unset pCurrent a ≠ some a := by
  rw [unset]
  split
  case isTrue => exact fun hnone => by cases hnone
  case isFalse hne => exact hne

theorem of_unset {pCurrent : Option PrivateAddr} {a a' : PrivateAddr}
    (h : unset pCurrent a = some a') : pCurrent = some a' := by
  rw [unset] at h
  split at h
  case isTrue => cases h
  case isFalse => exact h

/-- A destruction: what was current and goes is not current any more. -/
theorem Bound.destroyed (h : Bound live pD) {a : PrivateAddr} {pD₁ : TritonDevice}
    (hpD : pD₁ = { pD with
      pCurrentVS := unset pD.pCurrentVS a, pCurrentLayout := unset pD.pCurrentLayout a })
    (c : PrivateCell) : Bound (Function.update live a none) (pD₁.write a c) := by
  have hgoneVS : pD₁.pCurrentVS ≠ some a := by
    rw [hpD]
    exact unset_ne
  have hgoneLayout : pD₁.pCurrentLayout ≠ some a := by
    rw [hpD]
    exact unset_ne
  constructor
  · refine ShaderBound.write ?_ (Function.update_self a none live) hgoneVS c
    rw [hpD]
    exact { h.1.death a with
      hostVS := fun a' vs hcurrent => h.1.hostVS a' vs (of_unset hcurrent) }
  · intro l hl
    rw [cachedLayout_write hgoneVS hgoneLayout, hpD] at hl
    obtain ⟨r, hres, hr⟩ := Option.bind_eq_some_iff.mp hl
    obtain ⟨va, hread⟩ := resolution_eq_some.mp hres
    have hsame : pD.resolution = some r := resolution_eq_some.mpr ⟨va,
      { hread with
        pCurrentLayout := of_unset hread.pCurrentLayout
        pCurrentVS := of_unset hread.pCurrentVS }⟩
    have hhost : pD.hostLayout = some l := by
      refine h.2 l ?_
      rw [TritonDevice.cachedLayout, hsame]
      exact hr
    show pD₁.hostLayout = some l
    rw [hpD]
    exact hhost

/-- `setCurrentVS` binds the shader that becomes current. -/
theorem ShaderBound.setCurrentVS (h : ShaderBound live pD) {hShader : Option PrivateAddr}
    (hset : VirtioWddm.setCurrentVS pD hShader = some pD') : ShaderBound live pD' := by
  cases hShader with
  | none =>
      cases hset
      exact { h with boundReconVS := rfl, hostVS := fun a vs hcurrent => by cases hcurrent }
  | some va =>
      cases hcell : pD.shaderAt va with
      | none =>
          rw [VirtioWddm.setCurrentVS, hcell] at hset
          cases hset
      | some vs =>
          rw [VirtioWddm.setCurrentVS, hcell] at hset
          cases hset
          refine { h with boundReconVS := rfl, hostVS := fun a vs' hcurrent hmem => ?_ }
          cases hcurrent
          have hsame := (shaderAt_eq_some.mp hcell).symm.trans hmem
          exact congrArg TritonShader.pDeviceChild (PrivateCell.shader.inj hsame)

end Invariant

-- ============================================================================
-- Runs
-- ============================================================================

section Session

variable {hist : Nat → ShaderBytecode} {n : Nat} {s s' : Session}

theorem step_bound (hinv : CacheInv hist n s.live s.device) (h : Bound s.live s.device)
    {c : LayoutCall} (hlegal : s.Legal c) (hstep : s.step c = some s') :
    Bound s'.live s'.device := by
  cases c with
  | createShader a args =>
      rw [Session.step] at hstep
      split at hstep
      case h_1 => cases hstep
      case h_2 pD' error hcreate =>
        cases hstep
        obtain ⟨vs, rfl, hchild⟩ := tritonCreateShaderCommon_child hcreate
        have hdrawn : Bound s.live
            { s.device with nextShaderCookie := s.device.nextShaderCookie + 1 } :=
          ⟨{ h.1 with }, h.2⟩
        refine hdrawn.created (hinv.draw ([], 0)) hlegal.1 .shader ?_ ?_
        · exact fun e hcell => by cases hcell
        · intro vs' hcell
          cases hcell
          exact hchild
  | destroyShader a =>
      obtain ⟨pD', hdestroy, hstep⟩ := Option.bind_eq_some_iff.mp hstep
      cases hstep
      obtain ⟨vs, -, hdestroy⟩ := Option.bind_eq_some_iff.mp hdestroy
      cases hdestroy
      have hne : s.device.pCurrentLayout ≠ some a := by
        intro hcurrent
        have hlive := hinv.currentLayout a hcurrent
        rw [show s.live a = some .shader from hlegal] at hlive
        cases hlive
      refine h.destroyed ?_ _
      rw [show unset s.device.pCurrentLayout a = s.device.pCurrentLayout from if_neg hne]
      rfl
  | createElementLayout a pVertexElements fAlloc =>
      have hcreated : ∃ e error, s.step (.createElementLayout a pVertexElements fAlloc) =
          some
            { device := s.device.write a (.layout e)
              live := s.created a .elementLayout error } ∧ e.pReconVS = none := by
        cases fAlloc with
        | true => exact ⟨_, none, rfl, rfl⟩
        | false => exact ⟨_, some E_OUTOFMEMORY, rfl, rfl⟩
      obtain ⟨e, error, hcreate, hrecon⟩ := hcreated
      cases hcreate.symm.trans hstep
      refine h.created hinv hlegal .elementLayout ?_ ?_
      · intro e' hcell
        cases hcell
        exact hrecon
      · exact fun vs hcell => by cases hcell
  | destroyElementLayout a =>
      obtain ⟨pD', hdestroy, hstep⟩ := Option.bind_eq_some_iff.mp hstep
      cases hstep
      obtain ⟨e, -, hdestroy⟩ := Option.bind_eq_some_iff.mp hdestroy
      cases hdestroy
      have hne : s.device.pCurrentVS ≠ some a := by
        intro hcurrent
        have hlive := hinv.currentVS a hcurrent
        rw [show s.live a = some .elementLayout from hlegal] at hlive
        cases hlive
      refine h.destroyed ?_ _
      rw [show unset s.device.pCurrentVS a = s.device.pCurrentVS from if_neg hne]
      rfl
  | vsSetShader hShader answers =>
      obtain ⟨pD', hset, hstep⟩ := Option.bind_eq_some_iff.mp hstep
      cases hstep
      obtain ⟨pD₁, hcurrent, hresolve⟩ := Option.bind_eq_some_iff.mp hset
      obtain ⟨pD₂, hset₂, hinv₂⟩ := hinv.setCurrentVS hlegal
      cases hset₂.symm.trans hcurrent
      exact (h.1.setCurrentVS hcurrent).resolve hinv₂ hresolve
  | iaSetInputLayout hLayout answers =>
      obtain ⟨pD', hset, hstep⟩ := Option.bind_eq_some_iff.mp hstep
      cases hstep
      have hinv₁ := hinv.setLayout hlegal
      have h₁ : ShaderBound s.live { s.device with pCurrentLayout := hLayout } := { h.1 with }
      rw [tritonIaSetInputLayout] at hset
      dsimp only at hset
      split at hset
      case isTrue => exact h₁.resolve hinv₁ hset
      case isFalse hnot =>
        have h₂ : ShaderBound s.live
            { s.device with pCurrentLayout := hLayout, hostLayout := none } := { h.1 with }
        rw [h₂.unbindReconVs] at hset
        cases hset
        refine ⟨h₂, fun l hl => ?_⟩
        -- without a layout or a shader nothing is resolved
        obtain ⟨r, hres, -⟩ := Option.bind_eq_some_iff.mp hl
        obtain ⟨va, hr⟩ := resolution_eq_some.mp hres
        rw [show hLayout = some r.ea from hr.pCurrentLayout,
          show s.device.pCurrentVS = some va from hr.pCurrentVS] at hnot
        exact absurd rfl hnot
  | overwrite a cell =>
      cases hstep
      exact h.write hinv hlegal cell

theorem reaches_bound {fDdi11_1 : Bool} (h : Session.Reaches fDdi11_1 n s) :
    Bound s.live s.device := by
  induction h with
  | init =>
      refine ⟨⟨rfl, fun a e hlive => ?_, fun a vs hlive => ?_, fun a vs hcurrent => ?_⟩,
        fun l hl => ?_⟩
      · cases hlive
      · cases hlive
      · cases hcurrent
      · cases hl
  | call hreach hlegal hstep ih =>
      obtain ⟨hist, hinv⟩ := reaches_cacheInv hreach
      exact step_bound hinv ih hlegal hstep

/-- What the host draws with, for the current objects of a device. -/
structure DrawsCurrent (pD : TritonDevice) : Prop where
  boundReconVS : pD.pBoundReconVS = none
  shader : ∀ va, pD.pCurrentVS = some va → ∃ vs child, pD.mem va = .shader vs ∧
    vs.pDeviceChild = some child ∧ pD.hostVS = some child
  /-- the layout is one that the current pair would request again -/
  layout : ∀ l, pD.cachedLayout = some l →
    pD.hostLayout = some l ∧ ∃ heap, pD.freshRequest heap = some l.request

/-- After every run with at most `2 ^ 64` shader creations the host draws with the
    current vertex shader, and with a layout made for the current pair if that has one;
    and every call that resolves to a layout, cached or granted, leaves the pair with
    one. -/
theorem boundObjects_current {fDdi11_1 : Bool} (h : Session.Reaches fDdi11_1 n s)
    (hle : n ≤ 2 ^ 64) :
    DrawsCurrent s.device ∧
      ∀ c pD answers, s.Legal c → s.resolves c = some (pD, answers) →
        pD.cachedLayout.isSome ∨
          (answers.created.isSome ∧ (pD.freshRequest answers.heap).isSome) →
        ∃ s' l, s.step c = some s' ∧ s'.device.cachedLayout = some l ∧
          s'.device.hostLayout = some l := by
  obtain ⟨hist, hinv⟩ := reaches_cacheInv h
  have hbound := reaches_bound h
  constructor
  · refine ⟨hbound.1.boundReconVS, fun va hcurrent => ?_, fun l hl => ?_⟩
    · have hlive := hinv.currentVS va hcurrent
      obtain ⟨vs, hmem, -⟩ := hinv.shaderAt hlive
      obtain ⟨child, hchild⟩ := Option.isSome_iff_exists.mp (hbound.1.child va vs hlive hmem)
      exact ⟨vs, child, hmem, hchild, (hbound.1.hostVS va vs hcurrent hmem).trans hchild⟩
    · exact ⟨hbound.2 l hl, hinv.cached_fresh hle hl⟩
  · intro c pD answers hlegal hresolves hlayout
    obtain ⟨pD', l, hresolve, hcached⟩ := resolve_binds hlayout
    have hstep : s.step c = some { s with device := pD' } := by
      rw [Session.step_of_resolves hresolves, hresolve]
      rfl
    exact ⟨_, l, hstep, hcached, (step_bound hinv hbound hlegal hstep).2 l hcached⟩

/-- A shader with one input and a layout that feeds it: both are bound, and setting the
    shader again finds the layout in the cache. -/
theorem boundObjects_current_resolvedOnce :
    ∃ s va vs child l, Session.Reaches false 1 s ∧ s.device.pCurrentVS = some va ∧
      s.device.mem va = .shader vs ∧ vs.pDeviceChild = some child ∧
      s.device.hostVS = some child ∧ s.device.cachedLayout = some l ∧
      s.device.hostLayout = some l := by
  obtain ⟨s₀, vs, e, l₀, hreach₀, hresolved⟩ := reaches_resolvedOnce
  obtain ⟨hlegal, pD, pBytecode, -, hresolves, -, hcached₀⟩ := hresolved.cached
  obtain ⟨s, l, hstep, hcached, hbound⟩ := (boundObjects_current hreach₀ (by decide)).2 _ pD granted
    hlegal hresolves (.inl (Option.isSome_iff_exists.mpr ⟨l₀, hcached₀⟩))
  have hreach := hreach₀.call hlegal hstep
  obtain ⟨r, hres, -⟩ := Option.bind_eq_some_iff.mp hcached
  obtain ⟨va, hr⟩ := resolution_eq_some.mp hres
  obtain ⟨vs', child, hmem, hchild, hhost⟩ :=
    (boundObjects_current hreach (by decide)).1.shader va hr.pCurrentVS
  exact ⟨s, va, vs', child, l, hreach, hr.pCurrentVS, hmem, hchild, hhost, hcached, hbound⟩

end Session

end VirtioWddm
