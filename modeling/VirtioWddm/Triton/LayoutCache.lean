/-
  VirtioWddm.Triton.LayoutCache

  What an element layout has cached is what a resolution would request.

  The cache keeps no pointer to the shader but its cookie, and cookies outlive the
  shaders and the memory they were in.  The invariant follows them by the number of
  their creation: the cookie of a live shader, and the cookie in a layout, stand for the
  bytecode of some creation so far.
-/

import VirtioWddm.Lib.Tags
import VirtioWddm.Triton.Dxbc.RoundTrip
import VirtioWddm.Triton.LayoutSession

namespace VirtioWddm

open Lib

-- ============================================================================
-- Shader creation
-- ============================================================================

/-- Bytecode whose input signature can be read. -/
def Parses (pBytecode : List Byte) (cbBytecode : Nat) : Prop :=
  (tritonDxbcParseSig pBytecode cbBytecode true maxInputSigs).isSome

/-- The build returns on a stream in memory. -/
theorem tritonBuildDxbc_ok (heap : DxbcHeap) {tokens : List UINT} {cbTokens : Nat}
    (hmem : cbTokens ≤ 4 * tokens.length) (pIn pOut pPatch : List DdiEntry) (entryStride : UINT) :
    ∃ built, tritonBuildDxbc heap tokens cbTokens pIn pOut pPatch entryStride = .ok built := by
  rw [tritonBuildDxbc]
  split
  case isTrue => exact ⟨none, rfl⟩
  case isFalse hmin =>
    split
    case isTrue => exact ⟨none, rfl⟩
    case isFalse =>
      split
      case isTrue => exact ⟨none, rfl⟩
      case isFalse =>
        obtain ⟨plan, hplan⟩ :=
          dxbcPlan_returns (Nat.le_of_not_lt hmin) hmem pIn pOut pPatch entryStride
        rw [hplan, readTokenBytes, if_pos hmem]
        exact ⟨_, rfl⟩

/-- What was built can be read. -/
theorem tritonBuildDxbc_parses {heap : DxbcHeap} {tokens : List UINT} {cbTokens : Nat}
    {pIn pOut pPatch : List DdiEntry} {entryStride : UINT} {bytes : List Byte} {cbOut : UINT}
    (hbuild : tritonBuildDxbc heap tokens cbTokens pIn pOut pPatch entryStride =
      .ok (some (bytes, cbOut))) : Parses bytes cbOut.toNat := by
  obtain ⟨plan, code, hplan, -, -⟩ := tritonBuildDxbc_inv hbuild
  rw [Parses, parse_build hbuild hplan]
  rfl

/-- `tritonCreateShaderCommon` writes a shader with the next cookie; one it reports no
    error for has bytecode. -/
theorem tritonCreateShaderCommon_returns (pD : TritonDevice) (a : PrivateAddr)
    {args : CreateShaderArgs} (hmem : InMemory args.pShaderCode) :
    ∃ vs error,
      tritonCreateShaderCommon pD a args =
        .ok ({ pD with nextShaderCookie := pD.nextShaderCookie + 1 }.write a (.shader vs), error) ∧
      vs.cookie = pD.nextShaderCookie + 1 ∧
      (error = none → ∃ bytes, vs.pBytecode = some bytes ∧ Parses bytes vs.cbBytecode) := by
  obtain ⟨declared, hdeclared, hle⟩ := hmem
  have hbytes : tritonShaderTokenBytes args.pShaderCode = .ok (declared.toNat * 4) := by
    rw [tritonShaderTokenBytes, readToken, hdeclared]
    rfl
  simp only [tritonCreateShaderCommon, hbytes, ok_bind]
  generalize tritonUnpackSigs args.pSigsRaw _ = sigs
  obtain ⟨built, hbuilt⟩ := tritonBuildDxbc_ok args.heap
    (show declared.toNat * 4 ≤ 4 * args.pShaderCode.length by omega) sigs.pIn sigs.pOut sigs.pPatch
    { pD with nextShaderCookie := pD.nextShaderCookie + 1 }.tritonSigStride
  by_cases hmany :
      4096 < sigs.pIn.length ∨ 4096 < sigs.pOut.length ∨ 4096 < sigs.pPatch.length
  · rw [if_pos hmany]
    exact ⟨_, some E_INVALIDARG, rfl, rfl, fun h => by cases h⟩
  · rw [if_neg hmany, hbuilt, ok_bind]
    cases built with
    | none => exact ⟨_, some E_OUTOFMEMORY, rfl, rfl, fun h => by cases h⟩
    | some dxbc =>
        obtain ⟨bytes, cbDxbc⟩ := dxbc
        dsimp only
        cases args.native with
        | ok child =>
            exact ⟨_, none, rfl, rfl, fun _ => ⟨bytes, rfl, tritonBuildDxbc_parses hbuilt⟩⟩
        | error hr => exact ⟨_, some hr, rfl, rfl, fun h => by cases h⟩

-- ============================================================================
-- The invariant
-- ============================================================================

/-- The bytecode of a shader with its length. -/
abbrev ShaderBytecode := List Byte × Nat

/-- A shader whose bytecode is that of the creation its cookie stands for. -/
def LoadedShader (hist : Nat → ShaderBytecode) (n : Nat) (vs : TritonShader) : Prop :=
  ∃ pBytecode, vs.pBytecode = some pBytecode ∧
    TagOf hist n vs.cookie (pBytecode, vs.cbBytecode) ∧ Parses pBytecode vs.cbBytecode

/-- A layout whose host layout was requested for its own elements and the bytecode its
    cookie stands for. -/
def CoherentLayout (hist : Nat → ShaderBytecode) (n : Nat) (e : TritonElementLayout) : Prop :=
  ∃ pElements, e.pElements = some pElements ∧
    ∀ l, e.pLayout = some l → ∃ bytecode heap, TagOf hist n e.layoutVsCookie bytecode ∧
      inputLayoutRequest heap pElements bytecode.1 bytecode.2 = some (some l.request)

/-- The block of a live object holds it. -/
def HoldsObject (hist : Nat → ShaderBytecode) (n : Nat) : ObjectKind → PrivateCell → Prop
  | .shader, .shader vs => LoadedShader hist n vs
  | .elementLayout, .layout e => CoherentLayout hist n e
  | _, _ => False

/-- After `n` shader creations, which made what `hist` says. -/
structure CacheInv (hist : Nat → ShaderBytecode) (n : Nat)
    (live : PrivateAddr → Option ObjectKind) (pD : TritonDevice) : Prop where
  cookie : pD.nextShaderCookie = BitVec.ofNat 64 n
  currentVS : ∀ a, pD.pCurrentVS = some a → live a = some .shader
  currentLayout : ∀ a, pD.pCurrentLayout = some a → live a = some .elementLayout
  objects : ∀ a kind, live a = some kind → HoldsObject hist n kind (pD.mem a)

section Invariant

variable {hist : Nat → ShaderBytecode} {n : Nat} {live : PrivateAddr → Option ObjectKind}
  {pD pD' : TritonDevice}

theorem LoadedShader.mono {vs : TritonShader} (h : LoadedShader hist n vs) (b : ShaderBytecode) :
    LoadedShader (Function.update hist (n + 1) b) (n + 1) vs := by
  obtain ⟨pBytecode, hsome, htag, hparses⟩ := h
  exact ⟨pBytecode, hsome, htag.mono b, hparses⟩

theorem CoherentLayout.mono {e : TritonElementLayout} (h : CoherentLayout hist n e)
    (b : ShaderBytecode) : CoherentLayout (Function.update hist (n + 1) b) (n + 1) e := by
  obtain ⟨pElements, hsome, hlayout⟩ := h
  refine ⟨pElements, hsome, fun l hl => ?_⟩
  obtain ⟨bytecode, heap, htag, hrequest⟩ := hlayout l hl
  exact ⟨bytecode, heap, htag.mono b, hrequest⟩

/-- A layout without a host layout is coherent. -/
theorem CoherentLayout.of_none {e : TritonElementLayout} {pElements : List DdiElementDesc}
    (helements : e.pElements = some pElements) (hnone : e.pLayout = none) :
    CoherentLayout hist n e := by
  refine ⟨pElements, helements, fun l hl => ?_⟩
  rw [hnone] at hl
  cases hl

theorem HoldsObject.mono {kind : ObjectKind} {c : PrivateCell} (h : HoldsObject hist n kind c)
    (b : ShaderBytecode) : HoldsObject (Function.update hist (n + 1) b) (n + 1) kind c := by
  cases kind with
  | shader =>
      cases c with
      | shader vs => exact LoadedShader.mono h b
      | raw | layout => exact h
  | elementLayout =>
      cases c with
      | layout e => exact CoherentLayout.mono h b
      | raw | shader => exact h

theorem CacheInv.shaderAt (h : CacheInv hist n live pD) {a : PrivateAddr}
    (ha : live a = some .shader) : ∃ vs, pD.mem a = .shader vs ∧ LoadedShader hist n vs := by
  have hobject := h.objects a .shader ha
  cases hcell : pD.mem a with
  | shader vs =>
      rw [hcell] at hobject
      exact ⟨vs, rfl, hobject⟩
  | raw | layout =>
      rw [hcell] at hobject
      exact hobject.elim

theorem CacheInv.layoutAt (h : CacheInv hist n live pD) {a : PrivateAddr}
    (ha : live a = some .elementLayout) :
    ∃ e, pD.mem a = .layout e ∧ CoherentLayout hist n e := by
  have hobject := h.objects a .elementLayout ha
  cases hcell : pD.mem a with
  | layout e =>
      rw [hcell] at hobject
      exact ⟨e, rfl, hobject⟩
  | raw | shader =>
      rw [hcell] at hobject
      exact hobject.elim

/-- The invariant does not depend on what is bound. -/
theorem CacheInv.congr (h : CacheInv hist n live pD)
    (hcookie : pD'.nextShaderCookie = pD.nextShaderCookie)
    (hvs : pD'.pCurrentVS = pD.pCurrentVS) (hlayout : pD'.pCurrentLayout = pD.pCurrentLayout)
    (hmem : pD'.mem = pD.mem) : CacheInv hist n live pD' where
  cookie := hcookie ▸ h.cookie
  currentVS := hvs ▸ h.currentVS
  currentLayout := hlayout ▸ h.currentLayout
  objects := hmem ▸ h.objects

/-- Another vertex shader becomes current. -/
theorem CacheInv.setVS (h : CacheInv hist n live pD) {hShader : Option PrivateAddr}
    (hlegal : ∀ a, hShader = some a → live a = some .shader) :
    CacheInv hist n live { pD with pCurrentVS := hShader } where
  cookie := h.cookie
  currentVS := hlegal
  currentLayout := h.currentLayout
  objects := h.objects

/-- Another element layout becomes current. -/
theorem CacheInv.setLayout (h : CacheInv hist n live pD) {hLayout : Option PrivateAddr}
    (hlegal : ∀ a, hLayout = some a → live a = some .elementLayout) :
    CacheInv hist n live { pD with pCurrentLayout := hLayout } where
  cookie := h.cookie
  currentVS := h.currentVS
  currentLayout := hlegal
  objects := h.objects

/-- A block is written to; where an object is, an object of its kind. -/
theorem CacheInv.write (h : CacheInv hist n live pD) {a : PrivateAddr} {c : PrivateCell}
    (hc : ∀ kind, live a = some kind → HoldsObject hist n kind c) :
    CacheInv hist n live (pD.write a c) where
  cookie := h.cookie
  currentVS := h.currentVS
  currentLayout := h.currentLayout
  objects := by
    intro a' kind ha'
    by_cases heq : a' = a
    · rw [heq, pD.mem_write_self]
      exact hc kind (heq ▸ ha')
    · rw [pD.mem_write_of_ne heq]
      exact h.objects a' kind ha'

/-- An object comes to be in a block that holds it. -/
theorem CacheInv.birth (h : CacheInv hist n live pD) {a : PrivateAddr} {kind : ObjectKind}
    (ha : live a = none) (hobject : HoldsObject hist n kind (pD.mem a)) :
    CacheInv hist n (Function.update live a (some kind)) pD := by
  have hkeep : ∀ a' kind', live a' = some kind' →
      Function.update live a (some kind) a' = some kind' := by
    intro a' kind' ha'
    rw [Function.update_of_ne (fun heq => by rw [heq, ha] at ha'; cases ha')]
    exact ha'
  refine ⟨h.cookie, fun a' ha' => hkeep a' _ (h.currentVS a' ha'),
    fun a' ha' => hkeep a' _ (h.currentLayout a' ha'), fun a' kind' ha' => ?_⟩
  by_cases heq : a' = a
  · rw [heq, Function.update_self] at ha'
    cases ha'
    exact heq ▸ hobject
  · rw [Function.update_of_ne heq] at ha'
    exact h.objects a' kind' ha'

/-- An object that is not current may go. -/
theorem CacheInv.death (h : CacheInv hist n live pD) {a : PrivateAddr}
    (hvs : pD.pCurrentVS ≠ some a) (hlayout : pD.pCurrentLayout ≠ some a) :
    CacheInv hist n (Function.update live a none) pD := by
  refine ⟨h.cookie, fun a' ha' => ?_, fun a' ha' => ?_, fun a' kind ha' => ?_⟩
  · rw [Function.update_of_ne (fun heq : a' = a => hvs (heq ▸ ha'))]
    exact h.currentVS a' ha'
  · rw [Function.update_of_ne (fun heq : a' = a => hlayout (heq ▸ ha'))]
    exact h.currentLayout a' ha'
  · by_cases heq : a' = a
    · rw [heq, Function.update_self] at ha'
      cases ha'
    · rw [Function.update_of_ne heq] at ha'
      exact h.objects a' kind ha'

/-- The next cookie is drawn. -/
theorem CacheInv.draw (h : CacheInv hist n live pD) (b : ShaderBytecode) :
    CacheInv (Function.update hist (n + 1) b) (n + 1) live
      { pD with nextShaderCookie := pD.nextShaderCookie + 1 } where
  cookie := by
    show pD.nextShaderCookie + 1 = _
    rw [h.cookie, BitVec.ofNat_add]
    rfl
  currentVS := h.currentVS
  currentLayout := h.currentLayout
  objects := fun a kind ha => (h.objects a kind ha).mono b

-- ============================================================================
-- One call
-- ============================================================================

theorem CacheInv.createShader (h : CacheInv hist n live pD) {a : PrivateAddr}
    {args : CreateShaderArgs} (ha : live a = none) (hmem : InMemory args.pShaderCode) :
    ∃ hist' pD' error, tritonCreateShaderCommon pD a args = .ok (pD', error) ∧
      CacheInv hist' (n + 1) (if error.isNone then Function.update live a (some .shader) else live)
        pD' := by
  obtain ⟨vs, error, hreturns, hcookie, hloaded⟩ := tritonCreateShaderCommon_returns pD a hmem
  have hdead : ∀ kind, live a = some kind →
      ∀ hist', HoldsObject hist' (n + 1) kind (.shader vs) := by
    intro kind hkind
    rw [ha] at hkind
    cases hkind
  cases error with
  | some hr =>
      refine ⟨Function.update hist (n + 1) ([], 0), _, some hr, hreturns, ?_⟩
      exact (h.draw ([], 0)).write fun kind hkind => hdead kind hkind _
  | none =>
      obtain ⟨pBytecode, hsome, hparses⟩ := hloaded rfl
      refine ⟨Function.update hist (n + 1) (pBytecode, vs.cbBytecode), _, none, hreturns, ?_⟩
      refine ((h.draw (pBytecode, vs.cbBytecode)).write fun kind hkind =>
        hdead kind hkind _).birth ha ?_
      rw [TritonDevice.mem_write_self]
      refine ⟨pBytecode, hsome, ?_, hparses⟩
      rw [hcookie, h.cookie, show (1 : UINT64) = BitVec.ofNat 64 1 from rfl, ← BitVec.ofNat_add]
      exact TagOf.draw hist n (pBytecode, vs.cbBytecode)

theorem CacheInv.destroyShader (h : CacheInv hist n live pD) {a : PrivateAddr}
    (ha : live a = some .shader) :
    ∃ pD', tritonDestroyShader pD a = some pD' ∧
      CacheInv hist n (Function.update live a none) pD' := by
  obtain ⟨vs, hcell, -⟩ := h.shaderAt ha
  have hvs : ∀ a', (if pD.pCurrentVS = some a then none else pD.pCurrentVS) = some a' →
      live a' = some .shader ∧ a' ≠ a := by
    intro a' ha'
    split at ha'
    case isTrue => cases ha'
    case isFalse hne => exact ⟨h.currentVS a' ha', fun heq => hne (heq ▸ ha')⟩
  have hlayout : pD.pCurrentLayout ≠ some a := by
    intro heq
    rw [h.currentLayout a heq] at ha
    cases ha
  rw [tritonDestroyShader, shaderAt_eq_some.mpr hcell]
  refine ⟨_, rfl, ((h.setVS fun a' ha' => (hvs a' ha').1).death ?_ hlayout).write ?_⟩
  · exact fun heq => (hvs a heq).2 rfl
  · intro kind hkind
    rw [Function.update_self] at hkind
    cases hkind

theorem CacheInv.createElementLayout (h : CacheInv hist n live pD) {a : PrivateAddr}
    (ha : live a = none) (pVertexElements : List DdiElementDesc) (fAlloc : Bool) :
    ∃ pD' error, tritonCreateElementLayout pD a pVertexElements fAlloc = (pD', error) ∧
      CacheInv hist n
        (if error.isNone then Function.update live a (some .elementLayout) else live) pD' := by
  have hdead : ∀ c kind, live a = some kind → HoldsObject hist n kind c := by
    intro c kind hkind
    rw [ha] at hkind
    cases hkind
  cases fAlloc with
  | false => exact ⟨_, some E_OUTOFMEMORY, rfl, h.write (hdead _)⟩
  | true =>
      refine ⟨_, none, rfl, (h.write (hdead _)).birth ha ?_⟩
      rw [TritonDevice.mem_write_self]
      exact CoherentLayout.of_none rfl rfl

theorem CacheInv.destroyElementLayout (h : CacheInv hist n live pD) {a : PrivateAddr}
    (ha : live a = some .elementLayout) :
    ∃ pD', tritonDestroyElementLayout pD a = some pD' ∧
      CacheInv hist n (Function.update live a none) pD' := by
  obtain ⟨e, hcell, -⟩ := h.layoutAt ha
  have hlayout : ∀ a', (if pD.pCurrentLayout = some a then none else pD.pCurrentLayout) = some a' →
      live a' = some .elementLayout ∧ a' ≠ a := by
    intro a' ha'
    split at ha'
    case isTrue => cases ha'
    case isFalse hne => exact ⟨h.currentLayout a' ha', fun heq => hne (heq ▸ ha')⟩
  have hvs : pD.pCurrentVS ≠ some a := by
    intro heq
    rw [h.currentVS a heq] at ha
    cases ha
  rw [tritonDestroyElementLayout, layoutAt_eq_some.mpr hcell]
  refine ⟨_, rfl, ((h.setLayout fun a' ha' => (hlayout a' ha').1).death hvs ?_).write ?_⟩
  · exact fun heq => (hlayout a heq).2 rfl
  · intro kind hkind
    rw [Function.update_self] at hkind
    cases hkind

theorem CacheInv.unbindReconVs (h : CacheInv hist n live pD) :
    ∃ pD', tritonUnbindReconVs pD = some pD' ∧ CacheInv hist n live pD' := by
  rw [tritonUnbindReconVs]
  split
  case h_1 => exact ⟨pD, rfl, h⟩
  case h_2 =>
    dsimp only
    split
    case h_1 => exact ⟨_, rfl, h.congr rfl rfl rfl rfl⟩
    case h_2 va hva =>
      obtain ⟨vs, hcell, -⟩ := h.shaderAt (h.currentVS va hva)
      have hvs : { pD with pBoundReconVS := none }.shaderAt va = some vs :=
        shaderAt_eq_some.mpr hcell
      rw [hvs]
      exact ⟨_, rfl, h.congr rfl rfl rfl rfl⟩

/-- A resolution gets past its first test or unbinds the reconciled shader. -/
theorem CacheInv.resolution_cases (h : CacheInv hist n live pD) :
    (∃ r, pD.resolution = some r) ∨
      ∀ answers, tritonResolveInputLayout pD answers = tritonUnbindReconVs pD := by
  cases hlayout : pD.pCurrentLayout with
  | none =>
      refine .inr fun answers => ?_
      rw [tritonResolveInputLayout, hlayout]
  | some ea =>
      cases hvs : pD.pCurrentVS with
      | none =>
          refine .inr fun answers => ?_
          rw [tritonResolveInputLayout, hlayout, hvs]
      | some va =>
          obtain ⟨vs, hva, pBytecode, hbytecode, -⟩ := h.shaderAt (h.currentVS va hvs)
          obtain ⟨e, hea, pElements, helements, -⟩ := h.layoutAt (h.currentLayout ea hlayout)
          by_cases hzero : e.numElements = 0
          · refine .inr fun answers => ?_
            simp only [tritonResolveInputLayout, hlayout, hvs, Option.bind_eq_bind,
              Option.bind_some, shaderAt_eq_some.mpr hva, hbytecode, layoutAt_eq_some.mpr hea,
              helements, if_pos hzero]
          · exact .inl ⟨⟨ea, e, vs, pElements, pBytecode⟩, resolution_eq_some.mpr
              ⟨va, hlayout, hvs, hva, hbytecode, hea, helements, hzero⟩⟩

/-- The shader and the layout of a resolution. -/
theorem CacheInv.of_readFrom (h : CacheInv hist n live pD) {r : Resolution} {va : PrivateAddr}
    (hr : r.ReadFrom pD va) : LoadedShader hist n r.vs ∧ CoherentLayout hist n r.e := by
  obtain ⟨vs, hva, hloaded⟩ := h.shaderAt (h.currentVS va hr.pCurrentVS)
  obtain ⟨e, hea, hcoherent⟩ := h.layoutAt (h.currentLayout r.ea hr.pCurrentLayout)
  rw [hr.shader, PrivateCell.shader.injEq] at hva
  rw [hr.layout, PrivateCell.layout.injEq] at hea
  exact ⟨hva ▸ hloaded, hea ▸ hcoherent⟩

/-- Off the cached path the layout is emptied, and what is created is coherent. -/
theorem CacheInv.createLayout (h : CacheInv hist n live pD) {r : Resolution} {va : PrivateAddr}
    (hr : r.ReadFrom pD va) (answers : ResolveAnswers) :
    ∃ pD', VirtioWddm.createLayout pD r.ea r.e r.vs r.pElements r.pBytecode answers = some pD' ∧
      CacheInv hist n live pD' := by
  obtain ⟨⟨pBytecode, hbytecode, htag, hparses⟩, -⟩ := h.of_readFrom hr
  obtain rfl : r.pBytecode = pBytecode := Option.some.inj (hr.pBytecode.symm.trans hbytecode)
  obtain ⟨request?, hrequest⟩ := Option.isSome_iff_exists.mp
    (inputLayoutRequest_isSome hparses answers.heap r.pElements)
  have hkind := h.currentLayout r.ea hr.pCurrentLayout
  have hwrite : ∀ e, CoherentLayout hist n e →
      CacheInv hist n live (pD.write r.ea (.layout e)) := by
    intro e he
    refine h.write fun kind hlive => ?_
    rw [hkind] at hlive
    cases hlive
    exact he
  have hempty : ∀ cookie, CoherentLayout hist n
      { releasedLayout r.e with layoutVsCookie := cookie } :=
    fun cookie => .of_none hr.pElements rfl
  simp only [VirtioWddm.createLayout, hrequest, Option.bind_eq_bind, Option.bind_some]
  cases request? with
  | none => exact (hwrite _ (hempty _)).unbindReconVs
  | some request =>
      cases answers.created with
      | none => exact (hwrite _ (hempty 0)).unbindReconVs
      | some id =>
          have hcreated : CoherentLayout hist n
              { releasedLayout r.e with
                pLayout := some { id := id, request := request }
                layoutVsCookie := r.vs.cookie } := by
            refine ⟨r.pElements, hr.pElements, fun l hl => ?_⟩
            cases hl
            exact ⟨_, answers.heap, htag, hrequest⟩
          exact ⟨_, rfl, (hwrite _ hcreated).congr rfl rfl rfl rfl⟩

theorem CacheInv.resolveInputLayout (h : CacheInv hist n live pD) (answers : ResolveAnswers) :
    ∃ pD', tritonResolveInputLayout pD answers = some pD' ∧ CacheInv hist n live pD' := by
  rcases h.resolution_cases with ⟨r, hres⟩ | hunbind
  · rw [tritonResolveInputLayout_eq hres]
    split
    case isTrue => exact ⟨_, rfl, h.congr rfl rfl rfl rfl⟩
    case isFalse =>
      obtain ⟨va, hr⟩ := resolution_eq_some.mp hres
      exact h.createLayout hr answers
  · rw [hunbind]
    exact h.unbindReconVs

theorem CacheInv.setCurrentVS (h : CacheInv hist n live pD) {hShader : Option PrivateAddr}
    (hlegal : ∀ a, hShader = some a → live a = some .shader) :
    ∃ pD', VirtioWddm.setCurrentVS pD hShader = some pD' ∧ CacheInv hist n live pD' := by
  cases hShader with
  | none => exact ⟨_, rfl, (h.setVS hlegal).congr rfl rfl rfl rfl⟩
  | some a =>
      obtain ⟨vs, hcell, -⟩ := h.shaderAt (hlegal a rfl)
      rw [VirtioWddm.setCurrentVS]
      simp only [shaderAt_eq_some.mpr hcell]
      exact ⟨_, rfl, (h.setVS hlegal).congr rfl rfl rfl rfl⟩

theorem CacheInv.vsSetShader (h : CacheInv hist n live pD) {hShader : Option PrivateAddr}
    (hlegal : ∀ a, hShader = some a → live a = some .shader) (answers : ResolveAnswers) :
    ∃ pD', tritonVsSetShader pD hShader answers = some pD' ∧ CacheInv hist n live pD' := by
  obtain ⟨pD₁, hset, h₁⟩ := h.setCurrentVS hlegal
  rw [tritonVsSetShader, hset]
  exact h₁.resolveInputLayout answers

theorem CacheInv.iaSetInputLayout (h : CacheInv hist n live pD) {hLayout : Option PrivateAddr}
    (hlegal : ∀ a, hLayout = some a → live a = some .elementLayout) (answers : ResolveAnswers) :
    ∃ pD', tritonIaSetInputLayout pD hLayout answers = some pD' ∧ CacheInv hist n live pD' := by
  have h₁ := h.setLayout hlegal
  rw [tritonIaSetInputLayout]
  dsimp only
  split
  case isTrue => exact h₁.resolveInputLayout answers
  case isFalse =>
    have h₂ : CacheInv hist n live
        { pD with pCurrentLayout := hLayout, hostLayout := none } := h₁.congr rfl rfl rfl rfl
    exact h₂.unbindReconVs

end Invariant

-- ============================================================================
-- Runs
-- ============================================================================

variable {hist : Nat → ShaderBytecode} {n : Nat} {s : Session}

/-- A legal call returns and keeps the invariant. -/
theorem step_cacheInv (h : CacheInv hist n s.live s.device) {c : LayoutCall} (hlegal : s.Legal c) :
    ∃ hist' s', s.step c = some s' ∧ CacheInv hist' (n + c.shaders) s'.live s'.device := by
  cases c with
  | createShader a args =>
      obtain ⟨hist', pD', error, hreturns, hinv⟩ := h.createShader hlegal.1 hlegal.2
      refine ⟨hist', { device := pD', live := s.created a .shader error }, ?_, hinv⟩
      rw [Session.step, hreturns]
  | destroyShader a =>
      obtain ⟨pD', hreturns, hinv⟩ := h.destroyShader hlegal
      refine ⟨hist, { device := pD', live := Function.update s.live a none }, ?_, hinv⟩
      rw [Session.step, hreturns]
      rfl
  | createElementLayout a pVertexElements fAlloc =>
      obtain ⟨pD', error, hreturns, hinv⟩ := h.createElementLayout hlegal pVertexElements fAlloc
      refine ⟨hist, { device := pD', live := s.created a .elementLayout error }, ?_, hinv⟩
      rw [Session.step, hreturns]
  | destroyElementLayout a =>
      obtain ⟨pD', hreturns, hinv⟩ := h.destroyElementLayout hlegal
      refine ⟨hist, { device := pD', live := Function.update s.live a none }, ?_, hinv⟩
      rw [Session.step, hreturns]
      rfl
  | vsSetShader hShader answers =>
      obtain ⟨pD', hreturns, hinv⟩ := h.vsSetShader hlegal answers
      refine ⟨hist, { s with device := pD' }, ?_, hinv⟩
      rw [Session.step, hreturns]
      rfl
  | iaSetInputLayout hLayout answers =>
      obtain ⟨pD', hreturns, hinv⟩ := h.iaSetInputLayout hlegal answers
      refine ⟨hist, { s with device := pD' }, ?_, hinv⟩
      rw [Session.step, hreturns]
      rfl
  | overwrite a cell =>
      refine ⟨hist, { s with device := s.device.write a cell }, rfl, h.write fun kind hkind => ?_⟩
      rw [show s.live a = none from hlegal] at hkind
      cases hkind

/-- The invariant holds after every run. -/
theorem reaches_cacheInv {fDdi11_1 : Bool} (h : Session.Reaches fDdi11_1 n s) :
    ∃ hist, CacheInv hist n s.live s.device := by
  induction h with
  | init =>
      refine ⟨fun _ => ([], 0), rfl, fun a ha => ?_, fun a ha => ?_, fun a kind ha => ?_⟩
      · cases ha
      · cases ha
      · cases ha
  | call hreach hlegal hstep ih =>
      obtain ⟨hist, hinv⟩ := ih
      obtain ⟨hist', s', hstep', hinv'⟩ := step_cacheInv hinv hlegal
      obtain rfl : s' = _ := Option.some.inj (hstep'.symm.trans hstep)
      exact ⟨hist', hinv'⟩

/-- The device in which a legal call resolves. -/
theorem resolves_cacheInv (h : CacheInv hist n s.live s.device) {c : LayoutCall}
    (hlegal : s.Legal c) {pD : TritonDevice} {answers : ResolveAnswers}
    (hres : s.resolves c = some (pD, answers)) : CacheInv hist n s.live pD := by
  cases c with
  | vsSetShader hShader answers' =>
      obtain ⟨pD', hset, hinv⟩ := h.setCurrentVS hlegal
      rw [Session.resolves, hset] at hres
      cases hres
      exact hinv
  | iaSetInputLayout hLayout answers' =>
      rw [Session.resolves] at hres
      split at hres
      case isTrue =>
        cases hres
        exact h.setLayout hlegal
      case isFalse => cases hres
  | createShader | destroyShader | createElementLayout | destroyElementLayout | overwrite =>
      cases hres

/-- What is bound from the cache has been requested for the current elements and the
    current shader's bytecode, unless the cookies have come round. -/
theorem CacheInv.cached_fresh {live : PrivateAddr → Option ObjectKind} {pD : TritonDevice}
    (h : CacheInv hist n live pD) (hle : n ≤ 2 ^ 64) {l : HostInputLayout}
    (hcached : pD.cachedLayout = some l) : ∃ heap, pD.freshRequest heap = some l.request := by
  obtain ⟨r, hres, hl⟩ := Option.bind_eq_some_iff.mp hcached
  obtain ⟨va, hr⟩ := resolution_eq_some.mp hres
  split at hl
  case isTrue hhit =>
    obtain ⟨⟨pBytecode, hbytecode, htag, -⟩, ⟨pElements, helements, hlayout⟩⟩ := h.of_readFrom hr
    obtain ⟨bytecode, heap, htag', hrequest⟩ := hlayout l hl
    have hcookie : r.e.layoutVsCookie = r.vs.cookie := by
      rw [isCached, Bool.and_eq_true] at hhit
      exact eq_of_beq hhit.2
    rw [hcookie] at htag'
    obtain rfl := htag'.agree hle htag
    obtain rfl : r.pBytecode = pBytecode := Option.some.inj (hr.pBytecode.symm.trans hbytecode)
    obtain rfl : r.pElements = pElements := Option.some.inj (hr.pElements.symm.trans helements)
    refine ⟨heap, ?_⟩
    rw [TritonDevice.freshRequest, hres]
    exact Option.join_eq_some_iff.mpr hrequest
  case isFalse => cases hl

/-- After every run the current objects exist, every call the runtime may make returns,
    and while at most `2 ^ 64` shaders were created the layout that a call binds from
    the cache is one that the same call would request without the cache. -/
theorem layoutCache_coherent {fDdi11_1 : Bool} (h : Session.Reaches fDdi11_1 n s) :
    (∀ a, s.device.pCurrentVS = some a → s.live a = some .shader) ∧
    (∀ a, s.device.pCurrentLayout = some a → s.live a = some .elementLayout) ∧
    (∀ c, s.Legal c → (s.step c).isSome) ∧
    (n ≤ 2 ^ 64 → ∀ c pD answers l, s.Legal c → s.resolves c = some (pD, answers) →
      pD.cachedLayout = some l →
      (∃ s', s.step c = some s' ∧ s'.device.hostLayout = some l) ∧
      ∃ heap, pD.freshRequest heap = some l.request ∧
        ∀ id, ∃ pD',
          tritonResolveInputLayout pD.released { heap := heap, created := some id } = some pD' ∧
          pD'.hostLayout = some { id := id, request := l.request }) := by
  obtain ⟨hist, hinv⟩ := reaches_cacheInv h
  refine ⟨hinv.currentVS, hinv.currentLayout, fun c hlegal => ?_, ?_⟩
  · obtain ⟨hist', s', hstep, -⟩ := step_cacheInv hinv hlegal
    rw [hstep]
    rfl
  · intro hle c pD answers l hlegal hres hcached
    constructor
    · obtain ⟨pD', hresolve, hbound⟩ := tritonResolveInputLayout_cached hcached answers
      refine ⟨{ s with device := pD' }, ?_, hbound⟩
      rw [Session.step_of_resolves hres, hresolve]
      rfl
    · obtain ⟨heap, hfresh⟩ := (resolves_cacheInv hinv hlegal hres).cached_fresh hle hcached
      exact ⟨heap, hfresh, tritonResolveInputLayout_released hfresh⟩

-- ============================================================================
-- A cookie that comes round
-- ============================================================================

/-- A vertex shader with an input signature only, which declares nothing. -/
def inputShader (pIn : List DdiEntry) : CreateShaderArgs where
  kind := .vs
  pShaderCode := [0x00010040, 4, 0, 0]
  pSigsRaw := { pIn := pIn }
  heap := { scratch := true, buffer := some 64 }
  native := .ok { id := 1 }

theorem vsPlan_nil : dxbcPlan [0x00010040, 4, 0, 0] 16 [] [] [] 12 = .ok (vsPlan [] []) := by
  rw [dxbcPlan_undeclared]
  rfl

/-- What its creation leaves. -/
def inputShaderCreated (bytes : List Byte) (cb : Nat) (cookie : UINT64) : TritonShader where
  kind := .vs
  pBytecode := some bytes
  cbBytecode := cb
  pDeviceChild := some { id := 1 }
  cookie := cookie

/-- The creation of such a shader; its entries are read back. -/
theorem createShader_input {pD : TritonDevice} (hdevice : pD.fDdi11_1 = false) (a : PrivateAddr)
    {pIn : List DdiEntry} {aIn : List TritonSigEntry} (hcount : ¬4096 < pIn.length)
    (hplan : dxbcPlan [0x00010040, 4, 0, 0] 16 pIn [] [] 12 = .ok (vsPlan aIn []))
    (hfit : (vsPlan aIn []).sigEnd true ≤ (vsPlan aIn []).containerSize 16 % 2 ^ 32) :
    ∃ bytes cb,
      tritonCreateShaderCommon pD a (inputShader pIn) =
        .ok ({ pD with nextShaderCookie := pD.nextShaderCookie + 1 }.write a
          (.shader (inputShaderCreated bytes cb (pD.nextShaderCookie + 1))), none) ∧
      ∃ sigs, tritonDxbcParseSig bytes cb true maxInputSigs = some sigs ∧
        sigs.length = min 64 aIn.length := by
  obtain ⟨plan, bytes, cbOut, chunks, -, hbuild, -⟩ :=
    tritonBuildDxbc_returns [0x00010040, 4, 0, 0] 4 16 rfl (by decide) (by decide) pIn [] []
      (.inl rfl) { scratch := true, buffer := some 64 } rfl rfl
  have hstride : { pD with nextShaderCookie := pD.nextShaderCookie + 1 }.tritonSigStride = 12 := by
    rw [TritonDevice.tritonSigStride, hdevice]
    rfl
  have hmany : ¬(4096 < pIn.length ∨ 4096 < ([] : List DdiEntry).length ∨
      4096 < ([] : List DdiEntry).length) := by
    rintro (h | h | h)
    · exact hcount h
    · cases h
    · cases h
  refine ⟨bytes, cbOut.toNat, ?_, ?_⟩
  · have hbytes : tritonShaderTokenBytes (inputShader pIn).pShaderCode = .ok 16 := rfl
    have hsigs : tritonUnpackSigs (inputShader pIn).pSigsRaw
        ((inputShader pIn).kind = .hs || (inputShader pIn).kind = .ds) = { pIn := pIn } := rfl
    have hdxbc : tritonBuildDxbc (inputShader pIn).heap (inputShader pIn).pShaderCode 16 pIn [] []
        12 = .ok (some (bytes, cbOut)) := hbuild
    simp only [tritonCreateShaderCommon, hbytes, ok_bind, hstride, hsigs, if_neg hmany, hdxbc]
    rfl
  · rw [parse_build hbuild hplan, if_pos hfit]
    refine ⟨_, rfl, ?_⟩
    rw [List.length_map, List.length_take]
    rfl

/-- The session after a shader was created. -/
def Session.withShader (s : Session) (a : PrivateAddr) (vs : TritonShader) : Session where
  device := { s.device with nextShaderCookie := vs.cookie }.write a (.shader vs)
  live := Function.update s.live a (some .shader)

/-- The call that creates such a shader. -/
theorem step_createShader_input {s : Session} (hdevice : s.device.fDdi11_1 = false)
    (a : PrivateAddr) {pIn : List DdiEntry} {aIn : List TritonSigEntry}
    (hcount : ¬4096 < pIn.length)
    (hplan : dxbcPlan [0x00010040, 4, 0, 0] 16 pIn [] [] 12 = .ok (vsPlan aIn []))
    (hfit : (vsPlan aIn []).sigEnd true ≤ (vsPlan aIn []).containerSize 16 % 2 ^ 32) :
    ∃ bytes cb,
      s.step (.createShader a (inputShader pIn)) =
        some (s.withShader a (inputShaderCreated bytes cb (s.device.nextShaderCookie + 1))) ∧
      ∃ sigs, tritonDxbcParseSig bytes cb true maxInputSigs = some sigs ∧
        sigs.length = min 64 aIn.length := by
  obtain ⟨bytes, cb, hcreate, hsigs⟩ := createShader_input hdevice a hcount hplan hfit
  refine ⟨bytes, cb, ?_, hsigs⟩
  rw [Session.step, hcreate]
  rfl

/-- A stream without instructions: its creation fails, but draws a cookie. -/
def emptyShader : CreateShaderArgs where
  kind := .vs
  pShaderCode := [0x00010040, 0]
  pSigsRaw := {}
  heap := { scratch := true, buffer := some 64 }
  native := .ok { id := 1 }

/-- Failed creations in one block change that block and the next cookie. -/
structure SameUpTo (a : PrivateAddr) (k : Nat) (s s' : Session) : Prop where
  live : s'.live = s.live
  fDdi11_1 : s'.device.fDdi11_1 = s.device.fDdi11_1
  pCurrentVS : s'.device.pCurrentVS = s.device.pCurrentVS
  pCurrentLayout : s'.device.pCurrentLayout = s.device.pCurrentLayout
  cookie : s'.device.nextShaderCookie = s.device.nextShaderCookie + BitVec.ofNat 64 k
  mem : ∀ a', a' ≠ a → s'.device.mem a' = s.device.mem a'

theorem reaches_failures {fDdi11_1 : Bool} (h : Session.Reaches fDdi11_1 n s) {a : PrivateAddr}
    (ha : s.live a = none) (k : Nat) :
    ∃ s', Session.Reaches fDdi11_1 (n + k) s' ∧ SameUpTo a k s s' := by
  induction k with
  | zero => exact ⟨s, h, rfl, rfl, rfl, rfl, (BitVec.add_zero _).symm, fun _ _ => rfl⟩
  | succ k ih =>
      obtain ⟨s₁, hreach, hsame⟩ := ih
      have hlegal : s₁.Legal (.createShader a emptyShader) :=
        ⟨hsame.live ▸ ha, 0, rfl, Nat.zero_le _⟩
      refine ⟨_, hreach.call hlegal rfl, ?_⟩
      exact {
        live := hsame.live
        fDdi11_1 := hsame.fDdi11_1
        pCurrentVS := hsame.pCurrentVS
        pCurrentLayout := hsame.pCurrentLayout
        cookie := by
          show s₁.device.nextShaderCookie + 1 = _
          rw [hsame.cookie, BitVec.ofNat_add, ← BitVec.add_assoc]
          rfl
        mem := fun a' ha' => (TritonDevice.mem_write_of_ne _ ha' _).trans (hsame.mem a' ha') }

/-- An element that reads `v0`. -/
def vertexElement : DdiElementDesc where
  inputSlot := 0
  alignedByteOffset := 0
  format := 2
  inputSlotClass := 0
  instanceDataStepRate := 0
  inputRegister := 0

/-- A layout of that element, when it has been created. -/
def emptyLayout : TritonElementLayout where
  pElements := some [vertexElement]
  numElements := 1
  pLayout := none
  layoutVsCookie := 0
  pReconVS := none

/-- The session in which that layout exists, in block 1. -/
def layoutCreated : Session where
  device := { fDdi11_1 := false : TritonDevice }.write 1 (.layout emptyLayout)
  live := Function.update (fun _ => none) 1 (some .elementLayout)

/-- The answers of a resolution that succeeds. -/
def granted : ResolveAnswers where
  heap := { scratch := true, buffer := some 64 }
  created := some 7

/-- A shader in block 0 and a layout in block 1 are set, and `l` was created for the
    first cookie. -/
structure ResolvedOnce (s : Session) (vs : TritonShader) (e : TritonElementLayout)
    (l : HostInputLayout) : Prop where
  fDdi11_1 : s.device.fDdi11_1 = false
  live : s.live = Function.update (Function.update (fun _ => none) 1 (some .elementLayout)) 0
    (some .shader)
  pCurrentLayout : s.device.pCurrentLayout = some 1
  nextCookie : s.device.nextShaderCookie = 1
  shader : s.device.mem 0 = .shader vs
  pBytecode : vs.pBytecode.isSome
  cookie : vs.cookie = 1
  layout : s.device.mem 1 = .layout e
  pElements : e.pElements = some [vertexElement]
  numElements : e.numElements = 1
  pLayout : e.pLayout = some l
  layoutVsCookie : e.layoutVsCookie = 1

/-- A call that has the host create a layout. -/
theorem Session.step_requests {c : LayoutCall} {pD : TritonDevice} (heap : DxbcHeap) (id : Nat)
    {r : Resolution} {va : PrivateAddr} {request : InputLayoutRequest}
    (hresolves : s.resolves c = some (pD, { heap := heap, created := some id }))
    (hr : r.ReadFrom pD va) (hnot : isCached r.e r.vs = false)
    (hrequest : inputLayoutRequest heap r.pElements r.pBytecode r.vs.cbBytecode =
      some (some request)) :
    s.step c = some { s with
      device := bindLayout (pD.write r.ea (.layout (requestedLayout r.e r.vs ⟨id, request⟩)))
        (requestedLayout r.e r.vs ⟨id, request⟩) r.vs } := by
  rw [Session.step_of_resolves hresolves, tritonResolveInputLayout_requests
    (resolution_eq_some.mpr ⟨va, hr⟩) hnot hrequest]
  rfl

/-- For a shader with inputs a layout is requested, if the elements fit. -/
theorem exists_inputLayoutRequest {bytes : List Byte} {cb : Nat} {sigs : List TritonDxbcSig}
    (hparse : tritonDxbcParseSig bytes cb true maxInputSigs = some sigs) (hlength : sigs.length ≠ 0)
    (heap : DxbcHeap) (pElements : List DdiElementDesc)
    (hfit : pElements.length ≤ maxLayoutElements) :
    ∃ request, inputLayoutRequest heap pElements bytes cb = some (some request) := by
  obtain ⟨request?, hrequest⟩ := Option.isSome_iff_exists.mp (inputLayoutRequest_isSome
    (Option.isSome_iff_exists.mpr ⟨sigs, hparse⟩) heap pElements)
  cases request? with
  | none =>
      rcases (inputLayoutRequest_eq_none_iff hparse _ _).mp hrequest with hzero | hmany
      · exact absurd hzero hlength
      · exact absurd hmany (Nat.not_lt.mpr hfit)
  | some request => exact ⟨request, hrequest⟩

theorem reaches_resolvedOnce :
    ∃ s vs e l, Session.Reaches false 1 s ∧ ResolvedOnce s vs e l := by
  have hcreated : Session.Reaches false 0 layoutCreated :=
    Session.Reaches.init.call (c := .createElementLayout 1 [vertexElement] true) rfl rfl
  obtain ⟨bytes, cb, hstep, sigs, hparse, hlength⟩ :=
    step_createShader_input (s := layoutCreated) rfl 0 (show ¬4096 < [attributeIn].length by decide)
      vsPlan_attribute (by decide)
  have hshader := hcreated.call (c := .createShader 0 (inputShader [attributeIn]))
    ⟨rfl, 4, rfl, Nat.le_refl 4⟩ hstep
  have hset := hshader.call (c := .iaSetInputLayout (some 1) granted)
    (fun a ha => by cases ha; rfl) rfl
  obtain ⟨request, hrequest⟩ := exists_inputLayoutRequest hparse
    (by rw [hlength]; exact Nat.one_ne_zero) granted.heap [vertexElement] (by decide)
  have hbound := hset.call (c := .vsSetShader (some 0) granted) (fun a ha => by cases ha; rfl)
    (Session.step_requests granted.heap 7
      (r := ⟨1, emptyLayout, inputShaderCreated bytes cb 1, [vertexElement], bytes⟩)
      rfl ⟨rfl, rfl, rfl, rfl, rfl, rfl, Nat.one_ne_zero⟩ rfl hrequest)
  refine ⟨_, inputShaderCreated bytes cb 1,
    requestedLayout emptyLayout (inputShaderCreated bytes cb 1) ⟨7, request⟩, ⟨7, request⟩,
    hbound, ?_⟩
  exact {
    fDdi11_1 := rfl
    live := rfl
    pCurrentLayout := rfl
    nextCookie := rfl
    shader := rfl
    pBytecode := rfl
    cookie := rfl
    layout := rfl
    pElements := rfl
    numElements := rfl
    pLayout := rfl
    layoutVsCookie := rfl }

/-- Setting the shader again takes the cached path. -/
theorem ResolvedOnce.cached {vs : TritonShader} {e : TritonElementLayout} {l : HostInputLayout}
    (h : ResolvedOnce s vs e l) :
    s.Legal (.vsSetShader (some 0) granted) ∧
      ∃ pD pBytecode, vs.pBytecode = some pBytecode ∧
        s.resolves (.vsSetShader (some 0) granted) = some (pD, granted) ∧
        pD.resolution = some ⟨1, e, vs, [vertexElement], pBytecode⟩ ∧
        pD.cachedLayout = some l := by
  obtain ⟨pBytecode, hbytecode⟩ := Option.isSome_iff_exists.mp h.pBytecode
  have hset : setCurrentVS s.device (some 0) = some { s.device with
      hostVS := vs.pDeviceChild, pBoundReconVS := none, pCurrentVS := some 0 } := by
    simp only [setCurrentVS, shaderAt_eq_some.mpr h.shader]
    rfl
  have hnonzero : e.numElements ≠ 0 := by
    rw [h.numElements]
    exact Nat.one_ne_zero
  have hres : { s.device with
      hostVS := vs.pDeviceChild, pBoundReconVS := none, pCurrentVS := some 0 }.resolution =
        some ⟨1, e, vs, [vertexElement], pBytecode⟩ :=
    resolution_eq_some.mpr
      ⟨0, h.pCurrentLayout, rfl, h.shader, hbytecode, h.layout, h.pElements, hnonzero⟩
  have hcached : isCached e vs = true := by
    rw [isCached, h.pLayout, h.layoutVsCookie, h.cookie]
    rfl
  refine ⟨?_, _, pBytecode, hbytecode, ?_, hres, ?_⟩
  · intro a ha
    cases ha
    rw [h.live]
    rfl
  · rw [Session.resolves, hset]
    rfl
  · rw [TritonDevice.cachedLayout, hres]
    show (if isCached e vs = true then e.pLayout else none) = some l
    rw [if_pos hcached, h.pLayout]

/-- The cached layout of the first shader is one it would request again. -/
theorem layoutCache_coherent_resolvedOnce :
    ∃ s pD l, Session.Reaches false 1 s ∧
      s.resolves (.vsSetShader (some 0) granted) = some (pD, granted) ∧
      pD.cachedLayout = some l ∧ ∃ heap, pD.freshRequest heap = some l.request := by
  obtain ⟨s, vs, e, l, hreach, hresolved⟩ := reaches_resolvedOnce
  obtain ⟨hlegal, pD, pBytecode, -, hresolves, -, hcached⟩ := hresolved.cached
  obtain ⟨-, heap, hfresh, -⟩ := (layoutCache_coherent hreach).2.2.2 (by decide) _ pD granted l
    hlegal hresolves hcached
  exact ⟨s, pD, l, hreach, hresolves, hcached, heap, hfresh⟩

/-- The session after the shader is destroyed. -/
def Session.withoutShader (s : Session) (vs : TritonShader) : Session where
  device := { s.device with
    pCurrentVS := if s.device.pCurrentVS = some 0 then none else s.device.pCurrentVS }.write 0
    (.shader { vs with pDeviceChild := none, pBytecode := none, cbBytecode := 0 })
  live := Function.update s.live 0 none

theorem ResolvedOnce.destroyShader {vs : TritonShader} {e : TritonElementLayout}
    {l : HostInputLayout} (h : ResolvedOnce s vs e l) :
    s.Legal (.destroyShader 0) ∧ s.step (.destroyShader 0) = some (s.withoutShader vs) := by
  refine ⟨?_, ?_⟩
  · show s.live 0 = some .shader
    rw [h.live]
    rfl
  · rw [Session.step, tritonDestroyShader, shaderAt_eq_some.mpr h.shader]
    rfl

/-- A later shader in the same block that is given the first one's cookie finds what was
    cached for that one. -/
theorem ResolvedOnce.reissued {vs : TritonShader} {e : TritonElementLayout} {l : HostInputLayout}
    (h : ResolvedOnce s vs e l) {k : Nat} {s' : Session}
    (hsame : SameUpTo 0 k (s.withoutShader vs) s') (bytes : List Byte) (cb : Nat) :
    ResolvedOnce (s'.withShader 0 (inputShaderCreated bytes cb 1)) (inputShaderCreated bytes cb 1)
      e l where
  fDdi11_1 := hsame.fDdi11_1.trans h.fDdi11_1
  live := by
    show Function.update s'.live 0 _ = _
    rw [hsame.live]
    show Function.update (Function.update s.live 0 none) 0 _ = _
    rw [h.live, Function.update_idem, Function.update_idem]
  pCurrentLayout := hsame.pCurrentLayout.trans h.pCurrentLayout
  nextCookie := rfl
  shader := TritonDevice.mem_write_self _ 0 _
  pBytecode := rfl
  cookie := rfl
  layout := by
    refine (TritonDevice.mem_write_of_ne _ Nat.one_ne_zero _).trans ?_
    refine (hsame.mem 1 Nat.one_ne_zero).trans ?_
    exact (TritonDevice.mem_write_of_ne _ Nat.one_ne_zero _).trans h.layout
  pElements := h.pElements
  numElements := h.numElements
  pLayout := h.pLayout
  layoutVsCookie := h.layoutVsCookie

/-- After `2 ^ 64` more creations a shader has the first one's cookie: that layout is
    bound for it from the cache, though it has no inputs and no layout would be
    requested. -/
theorem layoutCache_stale :
    ∃ s pD l, Session.Reaches false (2 ^ 64 + 1) s ∧ s.Legal (.vsSetShader (some 0) granted) ∧
      s.resolves (.vsSetShader (some 0) granted) = some (pD, granted) ∧
      pD.cachedLayout = some l ∧ ∀ heap, pD.freshRequest heap = none := by
  obtain ⟨s, vs, e, l, hreach, hresolved⟩ := reaches_resolvedOnce
  obtain ⟨hdestroy, hstep⟩ := hresolved.destroyShader
  have hdestroyed := hreach.call hdestroy hstep
  -- all other cookies are drawn
  generalize hk : (2 ^ 64 - 1 : Nat) = k
  have hdead : (s.withoutShader vs).live 0 = none := by
    show Function.update s.live 0 none 0 = none
    rw [Function.update_self]
  obtain ⟨s₂, hfailed, hsame⟩ := reaches_failures hdestroyed hdead k
  -- and the next shader gets the first one's
  obtain ⟨bytes, cb, hcreate, sigs, hparse, hlength⟩ :=
    step_createShader_input (hsame.fDdi11_1.trans hresolved.fDdi11_1) 0
      (show ¬4096 < ([] : List DdiEntry).length by decide) vsPlan_nil (by decide)
  have hcreated := hfailed.call (c := .createShader 0 (inputShader []))
    ⟨hsame.live ▸ hdead, 4, rfl, Nat.le_refl 4⟩ hcreate
  have hcookie : s₂.device.nextShaderCookie + 1 = 1 := by
    rw [hsame.cookie, ← hk]
    show s.device.nextShaderCookie + BitVec.ofNat 64 (2 ^ 64 - 1) + 1 = 1
    rw [hresolved.nextCookie]
    rfl
  rw [hcookie] at hcreated
  have hagain := hresolved.reissued hsame bytes cb
  obtain ⟨hlegal, pD, pBytecode, hbytecode, hresolves, hres, hcached⟩ := hagain.cached
  have hn : 1 + k + 1 = 2 ^ 64 + 1 := by omega
  refine ⟨_, pD, l, hn ▸ hcreated, hlegal, hresolves, hcached, fun heap => ?_⟩
  cases hbytecode
  rw [TritonDevice.freshRequest, hres]
  show (inputLayoutRequest heap [vertexElement] bytes cb).join = none
  rw [(inputLayoutRequest_eq_none_iff hparse heap [vertexElement]).mpr (.inl hlength)]
  rfl

end VirtioWddm
