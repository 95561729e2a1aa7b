/-
  VirtioWddm.Triton.ForeignLayout

  Which element layout the bound input layout was created from.

  A traced session records it beside the calls: an element layout is named by its block
  and the number of its creation there, so that a layout in a reused block is another
  one.  `tritonIaSetInputLayout` with a vertex shader leaves the host's binding to the
  resolution, and a resolution that ends early leaves it to the previous layout.
-/

import VirtioWddm.Triton.LayoutCache

namespace VirtioWddm

open Lib

-- ============================================================================
-- Effects of a resolution
-- ============================================================================

/-- What a resolution does to the layout bound on the host. -/
inductive BindOutcome where
  | keeps
  | cached (ea : PrivateAddr)
  | creates (ea : PrivateAddr)
deriving DecidableEq

/-- What `tritonResolveInputLayout` does in a device, with the answers it gets. -/
def TritonDevice.bindOutcome (pD : TritonDevice) (answers : ResolveAnswers) : BindOutcome :=
  match pD.resolution with
  | none => .keeps
  | some r =>
      if isCached r.e r.vs then .cached r.ea
      else
        match inputLayoutRequest answers.heap r.pElements r.pBytecode r.vs.cbBytecode,
            answers.created with
        | some (some _), some _ => .creates r.ea
        | _, _ => .keeps

/-- A host layout that was requested for the elements of a layout. -/
def RequestedFor (e : TritonElementLayout) (l : HostInputLayout) : Prop :=
  ∃ pElements, e.pElements = some pElements ∧ ∃ (bytecode : ShaderBytecode) (heap : DxbcHeap),
    inputLayoutRequest heap pElements bytecode.1 bytecode.2 = some (some l.request)

/-- At most the host's binding and the host layouts of element layouts go. -/
structure KeepsLayouts (live : PrivateAddr → Option ObjectKind) (pD pD' : TritonDevice) :
    Prop where
  hostLayout : ∀ l, pD'.hostLayout = some l → pD.hostLayout = some l
  layouts : ∀ a e', live a = some .elementLayout → pD'.mem a = .layout e' →
    ∃ e, pD.mem a = .layout e ∧ e'.pElements = e.pElements ∧
      (e'.pLayout.isSome → e.pLayout.isSome)

/-- The devices before and after a resolution, by what it does. -/
def BindEffect (live : PrivateAddr → Option ObjectKind) (pD pD' : TritonDevice) :
    BindOutcome → Prop
  | .keeps => pD'.hostLayout = pD.hostLayout ∧ KeepsLayouts live pD pD'
  | .cached ea => pD.pCurrentLayout = some ea ∧ pD'.mem = pD.mem ∧
      ∃ e l, pD.mem ea = .layout e ∧ e.pLayout = some l ∧ RequestedFor e l ∧
        pD'.hostLayout = some l
  | .creates ea => pD.pCurrentLayout = some ea ∧ (∀ a, a ≠ ea → pD'.mem a = pD.mem a) ∧
      ∃ e l, pD'.mem ea = .layout e ∧ RequestedFor e l ∧ pD'.hostLayout = some l

section Effects

variable {hist : Nat → ShaderBytecode} {n : Nat} {live : PrivateAddr → Option ObjectKind}
  {pD pD' pD'' : TritonDevice}

theorem CoherentLayout.requestedFor {e : TritonElementLayout} {l : HostInputLayout}
    (h : CoherentLayout hist n e) (hl : e.pLayout = some l) : RequestedFor e l := by
  obtain ⟨pElements, helements, hlayout⟩ := h
  obtain ⟨bytecode, heap, -, hrequest⟩ := hlayout l hl
  exact ⟨pElements, helements, bytecode, heap, hrequest⟩

theorem KeepsLayouts.of_mem (hhost : ∀ l, pD'.hostLayout = some l → pD.hostLayout = some l)
    (hmem : pD'.mem = pD.mem) : KeepsLayouts live pD pD' where
  hostLayout := hhost
  layouts := fun _ e' _ he' => ⟨e', hmem ▸ he', rfl, id⟩

theorem KeepsLayouts.trans (h : KeepsLayouts live pD pD') (h' : KeepsLayouts live pD' pD'') :
    KeepsLayouts live pD pD'' where
  hostLayout := fun l hl => h.hostLayout l (h'.hostLayout l hl)
  layouts := by
    intro a e'' hlive he''
    obtain ⟨e', he', helements', hlayout'⟩ := h'.layouts a e'' hlive he''
    obtain ⟨e, he, helements, hlayout⟩ := h.layouts a e' hlive he'
    exact ⟨e, he, helements'.trans helements, fun hsome => hlayout (hlayout' hsome)⟩

/-- A block that holds no live layout is written to. -/
theorem KeepsLayouts.of_write {a : PrivateAddr} {c : PrivateCell}
    (hhost : ∀ l, pD'.hostLayout = some l → pD.hostLayout = some l)
    (hmem : pD'.mem = (pD.write a c).mem) (ha : live a ≠ some .elementLayout) :
    KeepsLayouts live pD pD' where
  hostLayout := hhost
  layouts := by
    intro a' e' hlive he'
    rw [hmem, pD.mem_write_of_ne (fun heq : a' = a => ha (heq ▸ hlive))] at he'
    exact ⟨e', he', rfl, id⟩

/-- A layout loses its host layout. -/
theorem KeepsLayouts.release {ea : PrivateAddr} {e : TritonElementLayout}
    (he : pD.mem ea = .layout e) (e' : TritonElementLayout) (helements : e'.pElements = e.pElements)
    (hnone : e'.pLayout = none) : KeepsLayouts live pD (pD.write ea (.layout e')) where
  hostLayout := fun _ hl => hl
  layouts := by
    intro a' e'' _ he''
    by_cases heq : a' = ea
    · rw [heq, pD.mem_write_self, PrivateCell.layout.injEq] at he''
      refine ⟨e, heq ▸ he, he'' ▸ helements, fun hsome => ?_⟩
      rw [← he'', hnone] at hsome
      cases hsome
    · rw [pD.mem_write_of_ne heq] at he''
      exact ⟨e'', he'', rfl, id⟩

/-- `tritonUnbindReconVs` touches the vertex shader only. -/
theorem tritonUnbindReconVs_keeps (h : tritonUnbindReconVs pD = some pD') :
    pD'.hostLayout = pD.hostLayout ∧ pD'.mem = pD.mem ∧
      pD'.pCurrentLayout = pD.pCurrentLayout := by
  rw [tritonUnbindReconVs] at h
  split at h
  case h_1 =>
    cases h
    exact ⟨rfl, rfl, rfl⟩
  case h_2 =>
    dsimp only at h
    split at h
    case h_1 =>
      cases h
      exact ⟨rfl, rfl, rfl⟩
    case h_2 va hva =>
      obtain ⟨vs, -, heq⟩ := Option.bind_eq_some_iff.mp h
      cases heq
      exact ⟨rfl, rfl, rfl⟩

/-- `createLayout` does what `bindOutcome` says. -/
theorem createLayout_effect (h : CacheInv hist n live pD) {r : Resolution}
    (hres : pD.resolution = some r) (hnot : isCached r.e r.vs = false) (answers : ResolveAnswers) :
    ∃ pD', createLayout pD r.ea r.e r.vs r.pElements r.pBytecode answers = some pD' ∧
      pD'.pCurrentLayout = pD.pCurrentLayout ∧
      BindEffect live pD pD' (pD.bindOutcome answers) := by
  obtain ⟨va, hr⟩ := resolution_eq_some.mp hres
  obtain ⟨pD', hcreate, -⟩ := h.createLayout hr answers
  refine ⟨pD', hcreate, ?_⟩
  simp only [TritonDevice.bindOutcome, hres, hnot, Bool.false_eq_true, if_false]
  simp only [createLayout, Option.bind_eq_bind, Option.bind_eq_some_iff] at hcreate
  obtain ⟨request?, hrequest, hcreate⟩ := hcreate
  simp only [hrequest]
  cases request? with
  | none =>
      obtain ⟨hhost, hmem, hcurrent⟩ := tritonUnbindReconVs_keeps hcreate
      refine ⟨hcurrent, hhost, ?_⟩
      exact (KeepsLayouts.release hr.layout (releasedLayout r.e) rfl rfl).trans
        (.of_mem (fun l hl => hhost ▸ hl) hmem)
  | some request =>
      cases hcreated : answers.created with
      | none =>
          simp only [hcreated] at hcreate
          obtain ⟨hhost, hmem, hcurrent⟩ := tritonUnbindReconVs_keeps hcreate
          refine ⟨hcurrent, hhost, ?_⟩
          exact (KeepsLayouts.release hr.layout { releasedLayout r.e with layoutVsCookie := 0 }
            rfl rfl).trans (.of_mem (fun l hl => hhost ▸ hl) hmem)
      | some id =>
          simp only [hcreated] at hcreate
          cases hcreate
          refine ⟨rfl, hr.pCurrentLayout, fun a ha => pD.mem_write_of_ne ha _, ?_⟩
          refine ⟨requestedLayout r.e r.vs ⟨id, request⟩, ⟨id, request⟩, ?_, ?_, rfl⟩
          · exact pD.mem_write_self r.ea _
          · exact ⟨r.pElements, hr.pElements, (r.pBytecode, r.vs.cbBytecode), answers.heap,
              hrequest⟩

/-- `tritonResolveInputLayout` does what `bindOutcome` says. -/
theorem resolveInputLayout_effect (h : CacheInv hist n live pD) (answers : ResolveAnswers) :
    ∃ pD', tritonResolveInputLayout pD answers = some pD' ∧
      pD'.pCurrentLayout = pD.pCurrentLayout ∧
      BindEffect live pD pD' (pD.bindOutcome answers) := by
  cases hres : pD.resolution with
  | none =>
      have hunbind : ∀ answers, tritonResolveInputLayout pD answers = tritonUnbindReconVs pD := by
        refine h.resolution_cases.resolve_left ?_
        rintro ⟨r, hr⟩
        rw [hres] at hr
        cases hr
      obtain ⟨pD', hreturns, -⟩ := h.unbindReconVs
      obtain ⟨hhost, hmem, hcurrent⟩ := tritonUnbindReconVs_keeps hreturns
      refine ⟨pD', (hunbind answers).trans hreturns, hcurrent, ?_⟩
      rw [TritonDevice.bindOutcome, hres]
      exact ⟨hhost, .of_mem (fun l hl => hhost ▸ hl) hmem⟩
  | some r =>
      rw [tritonResolveInputLayout_eq hres]
      cases hcached : isCached r.e r.vs with
      | false =>
          rw [if_neg Bool.false_ne_true]
          exact createLayout_effect h hres hcached answers
      | true =>
          obtain ⟨va, hr⟩ := resolution_eq_some.mp hres
          obtain ⟨l, hl⟩ := Option.isSome_iff_exists.mp (Bool.and_eq_true_iff.mp hcached).1
          refine ⟨bindLayout pD r.e r.vs, by rw [if_pos rfl], rfl, ?_⟩
          simp only [TritonDevice.bindOutcome, hres, hcached, if_true]
          exact ⟨hr.pCurrentLayout, rfl, r.e, l, hr.layout, hl,
            (h.of_readFrom hr).2.requestedFor hl, hl⟩

/-- The resolution gets to bind a layout: one is cached for the shader, or the shader
    has inputs, the elements fit and the host creates a layout for them. -/
def Binds (pD : TritonDevice) (answers : ResolveAnswers) : Prop :=
  ∃ r, pD.resolution = some r ∧ (isCached r.e r.vs = true ∨
    ∃ sigs, tritonDxbcParseSig r.pBytecode r.vs.cbBytecode true maxInputSigs = some sigs ∧
      sigs.length ≠ 0 ∧ r.pElements.length ≤ maxLayoutElements ∧ answers.created.isSome)

theorem binds_iff (h : CacheInv hist n live pD) (answers : ResolveAnswers) :
    Binds pD answers ↔ pD.bindOutcome answers ≠ .keeps := by
  cases hres : pD.resolution with
  | none =>
      simp only [Binds, TritonDevice.bindOutcome, hres, ne_eq, not_true_eq_false, iff_false]
      rintro ⟨r, hr, -⟩
      cases hr
  | some r =>
      obtain ⟨va, hr⟩ := resolution_eq_some.mp hres
      obtain ⟨⟨pBytecode, hbytecode, -, hparses⟩, -⟩ := h.of_readFrom hr
      obtain rfl : r.pBytecode = pBytecode := Option.some.inj (hr.pBytecode.symm.trans hbytecode)
      obtain ⟨sigs, hsigs⟩ := Option.isSome_iff_exists.mp hparses
      have hnone := inputLayoutRequest_eq_none_iff hsigs answers.heap r.pElements
      obtain ⟨request?, hrequest⟩ := Option.isSome_iff_exists.mp
        (inputLayoutRequest_isSome hparses answers.heap r.pElements)
      simp only [Binds, TritonDevice.bindOutcome, hres, Option.some.injEq, exists_eq_left', hsigs]
      cases hcached : isCached r.e r.vs with
      | true => simp only [true_or, if_true, ne_eq, reduceCtorEq, not_false_eq_true]
      | false =>
          simp only [Bool.false_eq_true, false_or, if_false]
          rw [hrequest] at hnone ⊢
          cases request? with
          | none =>
              have hfails := hnone.mp rfl
              refine ⟨fun hbinds => ?_, fun hne => absurd rfl hne⟩
              rcases hfails with hzero | hmany
              · exact absurd hzero hbinds.1
              · exact absurd hmany (Nat.not_lt.mpr hbinds.2.1)
          | some request =>
              have hfits : ¬(sigs.length = 0 ∨ maxLayoutElements < r.pElements.length) := by
                intro hfails
                cases hnone.mpr hfails
              rw [not_or, Nat.not_lt] at hfits
              cases answers.created with
              | none =>
                  refine ⟨fun hbinds => ?_, fun hne => absurd rfl hne⟩
                  cases hbinds.2.2
              | some id =>
                  refine ⟨fun _ heq => ?_, fun _ => ⟨hfits.1, hfits.2, rfl⟩⟩
                  cases heq

end Effects

-- ============================================================================
-- Traced sessions
-- ============================================================================

/-- An element layout: its block and the number of its creation there. -/
abbrev LayoutBirth := PrivateAddr × Nat

/-- A session, and which element layouts its host layouts were created from. -/
structure TracedSession where
  session : Session
  /-- the calls so far that create an element layout in a block -/
  births : PrivateAddr → Nat := fun _ => 0
  /-- what the host layout that a block holds was created from -/
  cachedFrom : PrivateAddr → Option LayoutBirth := fun _ => none
  /-- what the host layout bound last was created from -/
  boundFrom : Option LayoutBirth := none

namespace TracedSession

/-- The session after a resolution, which creates a host layout for the element layout
    that is in its block then. -/
def resolved (t : TracedSession) (s : Session) : BindOutcome → TracedSession
  | .keeps => { t with session := s }
  | .cached ea => { t with session := s, boundFrom := t.cachedFrom ea }
  | .creates ea =>
      { t with
        session := s
        cachedFrom := Function.update t.cachedFrom ea (some (ea, t.births ea))
        boundFrom := some (ea, t.births ea) }

/-- The session after a call that ended in `s`. -/
def after (t : TracedSession) (s : Session) : LayoutCall → TracedSession
  | .createElementLayout a _ _ =>
      { t with session := s, births := Function.update t.births a (t.births a + 1) }
  | c =>
      match t.session.resolves c with
      | none => { t with session := s }
      | some (pD, answers) => t.resolved s (pD.bindOutcome answers)

/-- One call. -/
def step (t : TracedSession) (c : LayoutCall) : Option TracedSession :=
  (t.session.step c).map fun s => t.after s c

/-- What is bound on the host is nothing, or was created from the current layout: from
    the object that is current and, so, from its elements. -/
def NoForeignLayout (t : TracedSession) : Prop :=
  ∀ ea l, t.session.device.pCurrentLayout = some ea → t.session.device.hostLayout = some l →
    t.boundFrom = some (ea, t.births ea) ∧
      ∃ e, t.session.device.mem ea = .layout e ∧ RequestedFor e l

/-- The condition on a call: where a layout is set with a vertex shader current, nothing
    is bound, or a layout of its own, or the resolution gets to bind one. -/
def Replaces (t : TracedSession) : LayoutCall → Prop
  | .iaSetInputLayout (some a) answers =>
      t.session.device.pCurrentVS.isSome →
        t.session.device.hostLayout = none ∨ t.boundFrom = some (a, t.births a) ∨
          Binds { t.session.device with pCurrentLayout := some a } answers
  | _ => True

/-- The traced sessions after runs of calls the runtime may make that all meet a
    condition, `n` of them shader creations. -/
inductive Reaches (fDdi11_1 : Bool) (Meets : TracedSession → LayoutCall → Prop) :
    Nat → TracedSession → Prop where
  | init : Reaches fDdi11_1 Meets 0 { session := { device := { fDdi11_1 := fDdi11_1 } } }
  | call {n : Nat} {t t' : TracedSession} {c : LayoutCall} (hreach : Reaches fDdi11_1 Meets n t)
      (hlegal : t.session.Legal c) (hmeets : Meets t c) (hstep : t.step c = some t') :
      Reaches fDdi11_1 Meets (n + c.shaders) t'

end TracedSession

-- ============================================================================
-- One call
-- ============================================================================

/-- What a call does to what is recorded. -/
inductive TracedSession.Effect (t : TracedSession) : LayoutCall → TracedSession → Prop where
  /-- no host layout is created or bound -/
  | frame {c : LayoutCall} {s' : Session} (hreplaces : t.Replaces c)
      (hlive : ∀ a, s'.live a = some .elementLayout → t.session.live a = some .elementLayout)
      (hkeeps : KeepsLayouts s'.live t.session.device s'.device)
      (hcurrent : ∀ ea, s'.device.pCurrentLayout = some ea → s'.device.hostLayout.isSome →
        t.session.device.pCurrentLayout = some ea) :
      Effect t c { t with session := s' }
  /-- an element layout comes to be in a block -/
  | born {a : PrivateAddr} {pVertexElements : List DdiElementDesc} {fAlloc : Bool} {s' : Session}
      (hdead : t.session.live a = none)
      (hlive : ∀ a', a' ≠ a → s'.live a' = t.session.live a')
      (hmem : ∀ a', a' ≠ a → s'.device.mem a' = t.session.device.mem a')
      (hempty : ∀ e, s'.device.mem a = .layout e → e.pLayout = none)
      (hhost : s'.device.hostLayout = t.session.device.hostLayout)
      (hcurrent : s'.device.pCurrentLayout = t.session.device.pCurrentLayout) :
      Effect t (.createElementLayout a pVertexElements fAlloc)
        { t with session := s', births := Function.update t.births a (t.births a + 1) }
  /-- `tritonResolveInputLayout` is entered in `pD` -/
  | resolved {c : LayoutCall} {pD pD' : TritonDevice} {answers : ResolveAnswers}
      (hresolves : t.session.resolves c = some (pD, answers))
      (hmem : pD.mem = t.session.device.mem)
      (hhost : pD.hostLayout = t.session.device.hostLayout)
      (heffect : BindEffect t.session.live pD pD' (pD.bindOutcome answers))
      (hcurrent : pD'.pCurrentLayout = pD.pCurrentLayout) :
      Effect t c (t.resolved { t.session with device := pD' } (pD.bindOutcome answers))

variable {hist : Nat → ShaderBytecode} {n : Nat} {t t' : TracedSession}

/-- `setCurrentVS` touches the vertex shader only. -/
theorem setCurrentVS_keeps {pD pD' : TritonDevice} {hShader : Option PrivateAddr}
    (h : setCurrentVS pD hShader = some pD') :
    pD'.mem = pD.mem ∧ pD'.hostLayout = pD.hostLayout ∧
      pD'.pCurrentLayout = pD.pCurrentLayout := by
  cases hShader with
  | none =>
      cases h
      exact ⟨rfl, rfl, rfl⟩
  | some a =>
      obtain ⟨child, -, heq⟩ := Option.bind_eq_some_iff.mp h
      cases heq
      exact ⟨rfl, rfl, rfl⟩

/-- A device in which a resolution is entered differs in what is current. -/
theorem resolves_keeps {s : Session} {c : LayoutCall} {pD : TritonDevice} {answers : ResolveAnswers}
    (h : s.resolves c = some (pD, answers)) :
    pD.mem = s.device.mem ∧ pD.hostLayout = s.device.hostLayout := by
  cases c with
  | vsSetShader hShader answers' =>
      simp only [Session.resolves, Option.map_eq_some_iff, Prod.mk.injEq] at h
      obtain ⟨pD', hset, rfl, -⟩ := h
      exact ⟨(setCurrentVS_keeps hset).1, (setCurrentVS_keeps hset).2.1⟩
  | iaSetInputLayout hLayout answers' =>
      rw [Session.resolves] at h
      split at h
      case isTrue =>
        cases h
        exact ⟨rfl, rfl⟩
      case isFalse => cases h
  | createShader | destroyShader | createElementLayout | destroyElementLayout | overwrite =>
      cases h

theorem after_resolves {c : LayoutCall} {pD : TritonDevice} {answers : ResolveAnswers}
    (hresolves : t.session.resolves c = some (pD, answers)) (s' : Session) :
    t.after s' c = t.resolved s' (pD.bindOutcome answers) := by
  cases c with
  | createElementLayout => cases hresolves
  | createShader | destroyShader | destroyElementLayout | vsSetShader | iaSetInputLayout |
    overwrite => simp only [TracedSession.after, hresolves]

theorem effect_of_resolves (hinv : CacheInv hist n t.session.live t.session.device)
    {c : LayoutCall} (hlegal : t.session.Legal c) {pD : TritonDevice} {answers : ResolveAnswers}
    (hresolves : t.session.resolves c = some (pD, answers)) (hstep : t.step c = some t') :
    t.Effect c t' := by
  obtain ⟨pD', hreturns, hcurrent, heffect⟩ :=
    resolveInputLayout_effect (resolves_cacheInv hinv hlegal hresolves) answers
  rw [TracedSession.step, Session.step_of_resolves hresolves, hreturns] at hstep
  obtain rfl := Option.some.inj hstep
  show t.Effect c (t.after { t.session with device := pD' } c)
  rw [after_resolves hresolves]
  exact .resolved hresolves (resolves_keeps hresolves).1 (resolves_keeps hresolves).2 heffect
    hcurrent

/-- An object that comes to be is the only one that does. -/
theorem live_of_created {s : Session} {a a' : PrivateAddr} {kind : ObjectKind}
    {error : Option HRESULT} (h : s.created a kind error a' = some .elementLayout) :
    s.live a' = some .elementLayout ∨ a' = a ∧ kind = .elementLayout := by
  rw [Session.created] at h
  split at h
  case isTrue =>
    by_cases heq : a' = a
    · rw [heq, Function.update_self] at h
      cases h
      exact .inr ⟨heq, rfl⟩
    · rw [Function.update_of_ne heq] at h
      exact .inl h
  case isFalse => exact .inl h

/-- An object that is destroyed is the only one that goes. -/
theorem live_of_destroyed {live : PrivateAddr → Option ObjectKind} {a a' : PrivateAddr}
    {kind : ObjectKind} (h : Function.update live a none a' = some kind) :
    a' ≠ a ∧ live a' = some kind := by
  by_cases heq : a' = a
  · rw [heq, Function.update_self] at h
    cases h
  · rw [Function.update_of_ne heq] at h
    exact ⟨heq, h⟩

/-- Where nothing is resolved the binding is dropped on the spot. -/
theorem effect_of_unbound {hLayout : Option PrivateAddr} {answers : ResolveAnswers}
    (hset : ¬(hLayout.isSome && t.session.device.pCurrentVS.isSome) = true)
    (hstep : t.step (.iaSetInputLayout hLayout answers) = some t') :
    t.Effect (.iaSetInputLayout hLayout answers) t' := by
  rw [TracedSession.step, Session.step, tritonIaSetInputLayout] at hstep
  simp only [if_neg hset, TracedSession.after, Session.resolves] at hstep
  obtain ⟨s', hs', rfl⟩ := Option.map_eq_some_iff.mp hstep
  obtain ⟨pD', hunbind, heq⟩ := Option.bind_eq_some_iff.mp hs'
  cases heq
  obtain ⟨hhost, hmem, hcurrent⟩ := tritonUnbindReconVs_keeps hunbind
  have hnone : pD'.hostLayout = none := hhost
  refine .frame ?_ (fun a' ha' => ha') (.of_mem (fun l hl => ?_) hmem) (fun ea _ hsome => ?_)
  · cases hLayout with
    | none => trivial
    | some a => exact fun hvs => absurd hvs hset
  · rw [hnone] at hl
    cases hl
  · rw [hnone] at hsome
    cases hsome

/-- Every call the runtime may make has one of these effects. -/
theorem step_effect (hinv : CacheInv hist n t.session.live t.session.device) {c : LayoutCall}
    (hlegal : t.session.Legal c) (hstep : t.step c = some t') : t.Effect c t' := by
  cases c with
  | createShader a args =>
      obtain ⟨vs, error, hreturns, -, -⟩ :=
        tritonCreateShaderCommon_returns t.session.device a hlegal.2
      rw [TracedSession.step, Session.step, hreturns] at hstep
      obtain rfl := Option.some.inj hstep
      have hlive : ∀ a', t.session.created a .shader error a' = some .elementLayout →
          t.session.live a' = some .elementLayout := by
        intro a' ha'
        refine (live_of_created ha').resolve_right ?_
        rintro ⟨-, hkind⟩
        cases hkind
      refine .frame trivial hlive (.of_write (fun l hl => hl) rfl fun ha => ?_)
        (fun ea hea _ => hea)
      cases (show t.session.live a = none from hlegal.1).symm.trans (hlive a ha)
  | destroyShader a =>
      obtain ⟨vs, hcell, -⟩ := hinv.shaderAt hlegal
      rw [TracedSession.step, Session.step, tritonDestroyShader, shaderAt_eq_some.mpr hcell]
        at hstep
      obtain rfl := Option.some.inj hstep
      exact .frame trivial (fun a' ha' => (live_of_destroyed ha').2)
        (.of_write (fun l hl => hl) rfl fun ha => (live_of_destroyed ha).1 rfl)
        (fun ea hea _ => hea)
  | createElementLayout a pVertexElements fAlloc =>
      rw [TracedSession.step, Session.step] at hstep
      obtain rfl := Option.some.inj hstep
      cases fAlloc with
      | true =>
          refine .born hlegal (fun a' ha' => Function.update_of_ne ha' _ _)
            (fun a' ha' => TritonDevice.mem_write_of_ne _ ha' _) (fun e he => ?_) rfl rfl
          cases (TritonDevice.mem_write_self _ a _).symm.trans he
          rfl
      | false =>
          refine .born hlegal (fun a' _ => rfl)
            (fun a' ha' => TritonDevice.mem_write_of_ne _ ha' _) (fun e he => ?_) rfl rfl
          cases (TritonDevice.mem_write_self _ a _).symm.trans he
          rfl
  | destroyElementLayout a =>
      obtain ⟨e, hcell, -⟩ := hinv.layoutAt hlegal
      rw [TracedSession.step, Session.step, tritonDestroyElementLayout,
        layoutAt_eq_some.mpr hcell] at hstep
      obtain rfl := Option.some.inj hstep
      refine .frame trivial (fun a' ha' => (live_of_destroyed ha').2)
        (.of_write (fun l hl => hl) rfl fun ha => (live_of_destroyed ha).1 rfl)
        (fun ea hea _ => ?_)
      · have hea : (if t.session.device.pCurrentLayout = some a then none
            else t.session.device.pCurrentLayout) = some ea := hea
        split at hea
        case isTrue => cases hea
        case isFalse => exact hea
  | vsSetShader hShader answers =>
      obtain ⟨pD, hset, -⟩ := hinv.setCurrentVS hlegal
      have hresolves : t.session.resolves (.vsSetShader hShader answers) = some (pD, answers) := by
        rw [Session.resolves, hset]
        rfl
      exact effect_of_resolves hinv hlegal hresolves hstep
  | iaSetInputLayout hLayout answers =>
      by_cases hset : (hLayout.isSome && t.session.device.pCurrentVS.isSome) = true
      · have hresolves : t.session.resolves (.iaSetInputLayout hLayout answers) =
            some ({ t.session.device with pCurrentLayout := hLayout }, answers) := by
          rw [Session.resolves, if_pos hset]
        exact effect_of_resolves hinv hlegal hresolves hstep
      · exact effect_of_unbound hset hstep
  | overwrite a cell =>
      obtain rfl := Option.some.inj hstep
      refine .frame trivial (fun a' ha' => ha') (.of_write (fun l hl => hl) rfl fun ha => ?_)
        (fun ea hea _ => hea)
      cases (show t.session.live a = none from hlegal).symm.trans ha

-- ============================================================================
-- The invariant
-- ============================================================================

/-- What is recorded agrees with the host layouts of the layouts that are live. -/
structure OriginInv (t : TracedSession) : Prop where
  bounded : ∀ a g, t.boundFrom = some (a, g) → g ≤ t.births a
  cached : ∀ a e, t.session.live a = some .elementLayout → t.session.device.mem a = .layout e →
    e.pLayout.isSome → t.cachedFrom a = some (a, t.births a)
  requested : ∀ a e l, t.session.live a = some .elementLayout →
    t.session.device.mem a = .layout e → t.session.device.hostLayout = some l →
    t.boundFrom = some (a, t.births a) → RequestedFor e l

theorem RequestedFor.congr {e e' : TritonElementLayout} {l : HostInputLayout}
    (h : RequestedFor e l) (helements : e'.pElements = e.pElements) : RequestedFor e' l := by
  obtain ⟨pElements, hsome, hrequest⟩ := h
  exact ⟨pElements, helements.trans hsome, hrequest⟩

theorem OriginInv.frame (h : OriginInv t) (s' : Session)
    (hlive : ∀ a, s'.live a = some .elementLayout → t.session.live a = some .elementLayout)
    (hkeeps : KeepsLayouts s'.live t.session.device s'.device) :
    OriginInv { t with session := s' } where
  bounded := h.bounded
  cached := by
    intro a e' ha he' hsome
    obtain ⟨e, he, -, hlayout⟩ := hkeeps.layouts a e' ha he'
    exact h.cached a e (hlive a ha) he (hlayout hsome)
  requested := by
    intro a e' l ha he' hl hbound
    obtain ⟨e, he, helements, -⟩ := hkeeps.layouts a e' ha he'
    exact (h.requested a e l (hlive a ha) he (hkeeps.hostLayout l hl) hbound).congr helements

theorem OriginInv.born (h : OriginInv t) {a : PrivateAddr} {s' : Session}
    (hlive : ∀ a', a' ≠ a → s'.live a' = t.session.live a')
    (hmem : ∀ a', a' ≠ a → s'.device.mem a' = t.session.device.mem a')
    (hempty : ∀ e, s'.device.mem a = .layout e → e.pLayout = none)
    (hhost : s'.device.hostLayout = t.session.device.hostLayout) :
    OriginInv
      { t with session := s', births := Function.update t.births a (t.births a + 1) } where
  bounded := by
    intro a' g hbound
    have hle := h.bounded a' g hbound
    by_cases heq : a' = a
    · rw [heq] at hle ⊢
      show g ≤ Function.update t.births a (t.births a + 1) a
      rw [Function.update_self]
      omega
    · show g ≤ Function.update t.births a (t.births a + 1) a'
      rw [Function.update_of_ne heq]
      exact hle
  cached := by
    intro a' e ha' he hsome
    show t.cachedFrom a' = some (a', Function.update t.births a (t.births a + 1) a')
    by_cases heq : a' = a
    · rw [hempty e (heq ▸ he)] at hsome
      cases hsome
    · rw [Function.update_of_ne heq]
      exact h.cached a' e (hlive a' heq ▸ ha') (hmem a' heq ▸ he) hsome
  requested := by
    intro a' e l ha' he hl hbound
    have hbound : t.boundFrom = some (a', Function.update t.births a (t.births a + 1) a') := hbound
    by_cases heq : a' = a
    · -- nothing has been created from the new layout yet
      rw [heq, Function.update_self] at hbound
      have hle := h.bounded a _ hbound
      omega
    · rw [Function.update_of_ne heq] at hbound
      exact h.requested a' e l (hlive a' heq ▸ ha') (hmem a' heq ▸ he) (hhost ▸ hl) hbound

/-- What a resolution binds was created from the current layout. -/
theorem OriginInv.resolved_boundFrom (h : OriginInv t)
    (hinv : CacheInv hist n t.session.live t.session.device) {pD' : TritonDevice} {o : BindOutcome}
    (heffect : BindEffect t.session.live t.session.device pD' o) (ho : o ≠ .keeps) (s' : Session)
    {ea : PrivateAddr} (hea : t.session.device.pCurrentLayout = some ea) :
    (t.resolved s' o).boundFrom = some (ea, t.births ea) := by
  cases o with
  | keeps => exact absurd rfl ho
  | cached ea' =>
      obtain ⟨hcurrent, -, e, l, he, hl, -, -⟩ := heffect
      obtain rfl : ea' = ea := Option.some.inj (hcurrent.symm.trans hea)
      exact h.cached ea' e (hinv.currentLayout ea' hea) he (Option.isSome_iff_exists.mpr ⟨l, hl⟩)
  | creates ea' =>
      obtain rfl : ea' = ea := Option.some.inj (heffect.1.symm.trans hea)
      rfl

theorem OriginInv.resolved (h : OriginInv t)
    (hinv : CacheInv hist n t.session.live t.session.device) {pD' : TritonDevice} {o : BindOutcome}
    (heffect : BindEffect t.session.live t.session.device pD' o) :
    OriginInv (t.resolved { t.session with device := pD' } o) := by
  cases o with
  | keeps => exact h.frame { t.session with device := pD' } (fun _ ha => ha) heffect.2
  | cached ea =>
      have hbound := h.resolved_boundFrom hinv heffect (fun heq => by cases heq)
        { t.session with device := pD' } heffect.1
      obtain ⟨hcurrent, hmem, e, l, he, hl, hrequested, hhost⟩ := heffect
      refine ⟨fun a g hag => ?_, fun a e' ha he' => ?_, fun a e' l' ha he' hl' hag => ?_⟩
      · cases hbound.symm.trans hag
        exact Nat.le_refl _
      · exact h.cached a e' ha (hmem ▸ he')
      · cases hbound.symm.trans hag
        cases hhost.symm.trans hl'
        cases he.symm.trans (hmem ▸ he' : t.session.device.mem ea = .layout e')
        exact hrequested
  | creates ea =>
      obtain ⟨hcurrent, hmem, e, l, he, hrequested, hhost⟩ := heffect
      refine ⟨fun a g hag => ?_, fun a e' ha he' hsome => ?_, fun a e' l' ha he' hl' hag => ?_⟩
      · cases hag
        exact Nat.le_refl _
      · show Function.update t.cachedFrom ea (some (ea, t.births ea)) a = some (a, t.births a)
        by_cases heq : a = ea
        · rw [heq, Function.update_self]
        · rw [Function.update_of_ne heq]
          exact h.cached a e' ha (hmem a heq ▸ he') hsome
      · cases hag
        cases hhost.symm.trans hl'
        cases he.symm.trans he'
        exact hrequested

/-- The session at the point where a resolution is entered. -/
theorem OriginInv.enters (h : OriginInv t) {pD : TritonDevice}
    (hmem : pD.mem = t.session.device.mem) (hhost : pD.hostLayout = t.session.device.hostLayout) :
    OriginInv { t with session := { t.session with device := pD } } :=
  h.frame { t.session with device := pD } (fun _ ha => ha)
    (.of_mem (fun _ hl => hhost ▸ hl) hmem)

theorem step_originInv (h : OriginInv t) (hinv : CacheInv hist n t.session.live t.session.device)
    {c : LayoutCall} (hlegal : t.session.Legal c) (hstep : t.step c = some t') : OriginInv t' := by
  cases step_effect hinv hlegal hstep with
  | frame _ hlive hkeeps _ => exact h.frame _ hlive hkeeps
  | born _ hlive hmem hempty hhost _ => exact h.born hlive hmem hempty hhost
  | @resolved _ pD pD' answers hresolves hmem hhost heffect _ =>
      have hentered := (h.enters hmem hhost).resolved (resolves_cacheInv hinv hlegal hresolves)
        heffect
      cases ho : pD.bindOutcome answers with
      | keeps | cached | creates =>
          rw [ho] at hentered
          exact hentered

theorem noForeignLayout_iff (h : OriginInv t)
    (hinv : CacheInv hist n t.session.live t.session.device) :
    t.NoForeignLayout ↔ ∀ ea, t.session.device.pCurrentLayout = some ea →
      t.session.device.hostLayout.isSome → t.boundFrom = some (ea, t.births ea) := by
  constructor
  · intro hno ea hea hsome
    obtain ⟨l, hl⟩ := Option.isSome_iff_exists.mp hsome
    exact (hno ea l hea hl).1
  · intro hbound ea l hea hl
    have hfrom := hbound ea hea (Option.isSome_iff_exists.mpr ⟨l, hl⟩)
    obtain ⟨e, he, -⟩ := hinv.layoutAt (hinv.currentLayout ea hea)
    exact ⟨hfrom, e, he, h.requested ea e l (hinv.currentLayout ea hea) he hl hfrom⟩

/-- After a resolution, by the layout that was bound before it. -/
theorem resolved_noForeign_iff (h : OriginInv t)
    (hinv : CacheInv hist n t.session.live t.session.device) {pD' : TritonDevice} {o : BindOutcome}
    (heffect : BindEffect t.session.live t.session.device pD' o)
    (hcurrent : pD'.pCurrentLayout = t.session.device.pCurrentLayout) :
    (∀ ea, pD'.pCurrentLayout = some ea → pD'.hostLayout.isSome →
        (t.resolved { t.session with device := pD' } o).boundFrom = some (ea, t.births ea)) ↔
      ∀ ea, t.session.device.pCurrentLayout = some ea → o = .keeps →
        t.session.device.hostLayout.isSome → t.boundFrom = some (ea, t.births ea) := by
  rw [hcurrent]
  by_cases ho : o = .keeps
  · subst ho
    rw [heffect.1]
    exact ⟨fun hbound ea hea _ hsome => hbound ea hea hsome,
      fun hbound ea hea hsome => hbound ea hea rfl hsome⟩
  · constructor
    · exact fun _ ea _ heq => absurd heq ho
    · exact fun _ ea hea _ => h.resolved_boundFrom hinv heffect ho _ hea

theorem births_resolved (s' : Session) (o : BindOutcome) : (t.resolved s' o).births = t.births := by
  cases o with
  | keeps | cached | creates => rfl

theorem session_resolved (s' : Session) (o : BindOutcome) : (t.resolved s' o).session = s' := by
  cases o with
  | keeps | cached | creates => rfl

theorem resolved_enters (s s' : Session) (o : BindOutcome) :
    { t with session := s }.resolved s' o = t.resolved s' o := by
  cases o with
  | keeps | cached | creates => rfl

theorem session_after (s' : Session) (c : LayoutCall) : (t.after s' c).session = s' := by
  cases c with
  | createElementLayout => rfl
  | createShader | destroyShader | destroyElementLayout | vsSetShader | iaSetInputLayout |
    overwrite =>
      simp only [TracedSession.after]
      split
      case h_1 => rfl
      case h_2 => exact session_resolved s' _

/-- A call on a traced session is one on the session. -/
theorem step_session {c : LayoutCall} (h : t.step c = some t') :
    t.session.step c = some t'.session := by
  obtain ⟨s', hs', rfl⟩ := Option.map_eq_some_iff.mp h
  rw [session_after]
  exact hs'

theorem step_traced {c : LayoutCall} (hinv : CacheInv hist n t.session.live t.session.device)
    (hlegal : t.session.Legal c) (hstep : t.step c = some t') :
    ∃ hist', CacheInv hist' (n + c.shaders) t'.session.live t'.session.device := by
  obtain ⟨hist', s', hs', hinv'⟩ := step_cacheInv hinv hlegal
  obtain rfl : s' = t'.session := Option.some.inj (hs'.symm.trans (step_session hstep))
  exact ⟨hist', hinv'⟩

/-- The condition of a call, where it resolves: the resolution that keeps what is bound
    keeps a layout of the current one. -/
theorem resolves_iff_replaces
    (hbound : ∀ ea, t.session.device.pCurrentLayout = some ea →
      t.session.device.hostLayout.isSome → t.boundFrom = some (ea, t.births ea))
    {c : LayoutCall} {pD : TritonDevice} {answers : ResolveAnswers}
    (hentered : CacheInv hist n t.session.live pD)
    (hresolves : t.session.resolves c = some (pD, answers)) :
    (∀ ea, pD.pCurrentLayout = some ea → pD.bindOutcome answers = .keeps →
      t.session.device.hostLayout.isSome → t.boundFrom = some (ea, t.births ea)) ↔
      t.Replaces c := by
  cases c with
  | vsSetShader hShader answers' =>
      obtain ⟨pD', hset, heq⟩ := Option.map_eq_some_iff.mp hresolves
      cases heq
      refine ⟨fun _ => trivial, fun _ ea hea _ hsome => hbound ea ?_ hsome⟩
      rw [← (setCurrentVS_keeps hset).2.2]
      exact hea
  | iaSetInputLayout hLayout answers' =>
      rw [Session.resolves] at hresolves
      split at hresolves
      case isFalse => cases hresolves
      case isTrue hset =>
        cases hresolves
        have hset := Bool.and_eq_true_iff.mp hset
        obtain ⟨a, rfl⟩ := Option.isSome_iff_exists.mp hset.1
        have hbinds := binds_iff hentered answers
        constructor
        · intro hkept _
          by_cases hkeeps : { t.session.device with pCurrentLayout := some a }.bindOutcome answers =
              .keeps
          · cases hhost : t.session.device.hostLayout with
            | none => exact .inl rfl
            | some l => exact .inr (.inl (hkept a rfl hkeeps (hhost ▸ rfl)))
          · exact .inr (.inr (hbinds.mpr hkeeps))
        · intro hreplaces ea hea hkeeps hsome
          cases hea
          rcases hreplaces hset.2 with hnone | hown | hbinds'
          · rw [hnone] at hsome
            cases hsome
          · exact hown
          · exact absurd hkeeps (hbinds.mp hbinds')
  | createShader | destroyShader | createElementLayout | destroyElementLayout | overwrite =>
      cases hresolves

/-- A call that meets the condition leaves no foreign layout bound, and one that does
    not does. -/
theorem step_noForeign_iff (hno : t.NoForeignLayout) (h : OriginInv t)
    (hinv : CacheInv hist n t.session.live t.session.device) {c : LayoutCall}
    (hlegal : t.session.Legal c) (hstep : t.step c = some t') :
    t'.NoForeignLayout ↔ t.Replaces c := by
  obtain ⟨hist', hinv'⟩ := step_traced hinv hlegal hstep
  rw [noForeignLayout_iff (step_originInv h hinv hlegal hstep) hinv']
  have hbound := (noForeignLayout_iff h hinv).mp hno
  cases step_effect hinv hlegal hstep with
  | frame hreplaces hlive hkeeps hcurrent =>
      refine ⟨fun _ => hreplaces, fun _ ea hea hsome => ?_⟩
      obtain ⟨l, hl⟩ := Option.isSome_iff_exists.mp hsome
      exact hbound ea (hcurrent ea hea hsome)
        (Option.isSome_iff_exists.mpr ⟨l, hkeeps.hostLayout l hl⟩)
  | @born a _ _ s' hdead hlive hmem hempty hhost hcurrent =>
      refine ⟨fun _ => trivial, fun _ ea hea hsome => ?_⟩
      have hea : t.session.device.pCurrentLayout = some ea := hcurrent ▸ hea
      have hne : ea ≠ a := by
        intro heq
        have hlive := hinv.currentLayout ea hea
        rw [heq, hdead] at hlive
        cases hlive
      show t.boundFrom = some (ea, Function.update t.births a (t.births a + 1) ea)
      rw [Function.update_of_ne hne]
      exact hbound ea hea (hhost ▸ hsome)
  | @resolved _ pD pD' answers hresolves hmem hhost heffect hcurrent =>
      have hentered := resolves_cacheInv hinv hlegal hresolves
      have hiff :=
        resolved_noForeign_iff (t := { t with session := { t.session with device := pD } })
          (h.enters hmem hhost) hentered heffect hcurrent
      rw [resolved_enters] at hiff
      rw [session_resolved, births_resolved]
      refine hiff.trans ?_
      show (∀ ea, pD.pCurrentLayout = some ea → pD.bindOutcome answers = .keeps →
        pD.hostLayout.isSome → t.boundFrom = some (ea, t.births ea)) ↔ t.Replaces c
      rw [hhost]
      exact resolves_iff_replaces hbound hentered hresolves

-- ============================================================================
-- Runs
-- ============================================================================

variable {fDdi11_1 : Bool} {Meets : TracedSession → LayoutCall → Prop}

/-- Both invariants hold after every run, whatever its calls meet. -/
theorem reaches_originInv (h : TracedSession.Reaches fDdi11_1 Meets n t) :
    OriginInv t ∧ ∃ hist, CacheInv hist n t.session.live t.session.device := by
  induction h with
  | init =>
      refine ⟨⟨fun a g hag => ?_, fun a e ha => ?_, fun a e l ha => ?_⟩, reaches_cacheInv .init⟩
      · cases hag
      · cases ha
      · cases ha
  | call hreach hlegal hmeets hstep ih =>
      obtain ⟨horigin, hist, hinv⟩ := ih
      exact ⟨step_originInv horigin hinv hlegal hstep, step_traced hinv hlegal hstep⟩

/-- Every run of a session is a traced run. -/
theorem reaches_traced {s : Session} (h : Session.Reaches fDdi11_1 n s) :
    ∃ t, TracedSession.Reaches fDdi11_1 (fun _ _ => True) n t ∧ t.session = s := by
  induction h with
  | init => exact ⟨_, .init, rfl⟩
  | @call n s s' c hreach hlegal hstep ih =>
      obtain ⟨t, ht, rfl⟩ := ih
      refine ⟨t.after s' c, ht.call hlegal trivial ?_, session_after s' c⟩
      rw [TracedSession.step, hstep]
      rfl

/-- In runs whose calls meet the condition no foreign layout is ever bound; the first
    call that does not meet it leaves one bound. -/
theorem noForeignLayout_replaces (h : TracedSession.Reaches fDdi11_1 TracedSession.Replaces n t) :
    t.NoForeignLayout ∧
      ∀ c t', t.session.Legal c → t.step c = some t' → (t'.NoForeignLayout ↔ t.Replaces c) := by
  have hno : t.NoForeignLayout := by
    induction h with
    | init =>
        intro ea l hea
        cases hea
    | call hreach hlegal hmeets hstep ih =>
        obtain ⟨horigin, hist, hinv⟩ := reaches_originInv hreach
        exact (step_noForeign_iff ih horigin hinv hlegal hstep).mpr hmeets
  obtain ⟨horigin, hist, hinv⟩ := reaches_originInv h
  exact ⟨hno, fun c t' hlegal hstep => step_noForeign_iff hno horigin hinv hlegal hstep⟩

/-- A run goes on with a call that has the host create a layout. -/
theorem step_requests {c : LayoutCall} {pD : TritonDevice} (heap : DxbcHeap) (id : Nat)
    {r : Resolution} {va : PrivateAddr} {request : InputLayoutRequest}
    (hresolves : t.session.resolves c = some (pD, { heap := heap, created := some id }))
    (hr : r.ReadFrom pD va) (hnot : isCached r.e r.vs = false)
    (hrequest : inputLayoutRequest heap r.pElements r.pBytecode r.vs.cbBytecode =
      some (some request)) :
    t.step c = some (t.resolved { t.session with
      device := bindLayout (pD.write r.ea (.layout (requestedLayout r.e r.vs ⟨id, request⟩)))
        (requestedLayout r.e r.vs ⟨id, request⟩) r.vs } (.creates r.ea)) := by
  have houtcome : pD.bindOutcome { heap := heap, created := some id } = .creates r.ea := by
    simp only [TritonDevice.bindOutcome, resolution_eq_some.mpr ⟨va, hr⟩, hnot, hrequest,
      Bool.false_eq_true, if_false]
  rw [TracedSession.step, Session.step_requests heap id hresolves hr hnot hrequest, Option.map_some,
    after_resolves hresolves, houtcome]

/-- An element of another format. -/
def otherElement : DdiElementDesc :=
  { vertexElement with format := 16 }

/-- A layout of that element, when it has been created. -/
def otherLayout : TritonElementLayout :=
  { emptyLayout with pElements := some [otherElement] }

/-- What is requested has the formats of the elements. -/
theorem RequestedFor.formats {e : TritonElementLayout} {l : HostInputLayout}
    (h : RequestedFor e l) :
    e.pElements.map (List.map DdiElementDesc.format) =
      some (l.request.descs.map InputElementDesc.format) := by
  obtain ⟨pElements, helements, bytecode, heap, hrequest⟩ := h
  simp only [inputLayoutRequest, Option.bind_eq_bind, Option.bind_eq_some_iff] at hrequest
  obtain ⟨sigs, -, hrequest⟩ := hrequest
  split at hrequest
  case isTrue => cases hrequest
  case isFalse =>
    split at hrequest
    case isTrue => cases hrequest
    case isFalse =>
      rw [helements, ← Option.some.inj (Option.some.inj hrequest), Option.map_some, List.map_map]
      rfl

/-- The layout in block 1 and the shader in block 0, which has an input, are set, a layout
    was created for them, and another element layout exists in block 2. -/
structure OtherLayout (t : TracedSession) (l : HostInputLayout) (vs : TritonShader) : Prop where
  births : t.births 2 = 1
  live : t.session.live 2 = some .elementLayout
  pCurrentVS : t.session.device.pCurrentVS = some 0
  pCurrentLayout : t.session.device.pCurrentLayout = some 1
  hostLayout : t.session.device.hostLayout = some l
  boundFrom : t.boundFrom = some (1, 1)
  shader : t.session.device.mem 0 = .shader vs
  layout : t.session.device.mem 2 = .layout otherLayout
  requested : RequestedFor emptyLayout l
  inputs : ∃ pBytecode sigs, vs.pBytecode = some pBytecode ∧
    tritonDxbcParseSig pBytecode vs.cbBytecode true maxInputSigs = some sigs ∧ sigs.length = 1

namespace OtherLayout

variable {l : HostInputLayout} {vs : TritonShader} (h : OtherLayout t l vs)
include h

theorem legal (answers : ResolveAnswers) :
    t.session.Legal (.iaSetInputLayout (some 2) answers) := by
  intro a ha
  cases ha
  exact h.live

theorem resolves (answers : ResolveAnswers) :
    t.session.resolves (.iaSetInputLayout (some 2) answers) =
      some ({ t.session.device with pCurrentLayout := some 2 }, answers) := by
  rw [Session.resolves, h.pCurrentVS]
  rfl

/-- What the resolution reads when the other layout is set. -/
theorem readFrom {pBytecode : List Byte} (hbytecode : vs.pBytecode = some pBytecode) :
    Resolution.ReadFrom ⟨2, otherLayout, vs, [otherElement], pBytecode⟩
      { t.session.device with pCurrentLayout := some 2 } 0 :=
  ⟨rfl, h.pCurrentVS, h.shader, hbytecode, h.layout, rfl, Nat.one_ne_zero⟩

end OtherLayout

/-- The traced session after a shader was created. -/
def TracedSession.withShader (t : TracedSession) (a : PrivateAddr) (vs : TritonShader) :
    TracedSession :=
  { t with session := t.session.withShader a vs }

theorem reaches_otherLayout :
    ∃ t l vs, TracedSession.Reaches false TracedSession.Replaces 1 t ∧ OtherLayout t l vs := by
  have hcreated : TracedSession.Reaches false TracedSession.Replaces 0
      { session := layoutCreated, births := Function.update (fun _ => 0) 1 1 } :=
    TracedSession.Reaches.init.call (c := .createElementLayout 1 [vertexElement] true)
      rfl trivial rfl
  obtain ⟨bytes, cb, hcreate, sigs, hparse, hlength⟩ :=
    step_createShader_input (s := layoutCreated) rfl 0 (show ¬4096 < [attributeIn].length by decide)
      vsPlan_attribute (by decide)
  generalize ht : ({ session := layoutCreated, births := Function.update (fun _ => 0) 1 1 } :
    TracedSession) = t at hcreated
  have hstep : t.step (.createShader 0 (inputShader [attributeIn])) =
      some (t.withShader 0 (inputShaderCreated bytes cb 1)) := by
    rw [TracedSession.step, ← ht, hcreate]
    rfl
  have hshader := hcreated.call (c := .createShader 0 (inputShader [attributeIn]))
    (by rw [← ht]; exact ⟨rfl, 4, rfl, Nat.le_refl 4⟩) trivial hstep
  subst ht
  have hset := hshader.call (c := .iaSetInputLayout (some 1) granted)
    (fun a ha => by cases ha; rfl) (fun hvs => by cases hvs) rfl
  obtain ⟨request, hrequest⟩ := exists_inputLayoutRequest hparse
    (by rw [hlength]; exact Nat.one_ne_zero) granted.heap [vertexElement] (by decide)
  have hbound := hset.call (c := .vsSetShader (some 0) granted) (fun a ha => by cases ha; rfl)
    trivial (step_requests granted.heap 7
      (r := ⟨1, emptyLayout, inputShaderCreated bytes cb 1, [vertexElement], bytes⟩)
      rfl ⟨rfl, rfl, rfl, rfl, rfl, rfl, Nat.one_ne_zero⟩ rfl hrequest)
  have hother := hbound.call (c := .createElementLayout 2 [otherElement] true) rfl trivial rfl
  refine ⟨_, ⟨7, request⟩, inputShaderCreated bytes cb 1, hother, ?_⟩
  exact {
    births := rfl
    live := rfl
    pCurrentVS := rfl
    pCurrentLayout := rfl
    hostLayout := rfl
    boundFrom := rfl
    shader := rfl
    layout := rfl
    requested := ⟨[vertexElement], rfl, (bytes, cb), granted.heap, hrequest⟩
    inputs := ⟨bytes, sigs, rfl, hparse, hlength⟩ }

/-- Such a run keeps the layout bound that is its own, and so it does when the other one
    is set with the shader current: the resolution binds one created for it. -/
theorem noForeignLayout_otherLayout :
    ∃ t t', TracedSession.Reaches false TracedSession.Replaces 1 t ∧
      t.session.device.pCurrentVS = some 0 ∧ t.session.device.pCurrentLayout = some 1 ∧
      t.boundFrom = some (1, 1) ∧ t.NoForeignLayout ∧
      t.step (.iaSetInputLayout (some 2) granted) = some t' ∧
      Binds { t.session.device with pCurrentLayout := some 2 } granted ∧
      TracedSession.Reaches false TracedSession.Replaces 1 t' ∧
      t'.session.device.pCurrentLayout = some 2 ∧ t'.session.device.hostLayout.isSome ∧
      t'.boundFrom = some (2, 1) ∧ t'.NoForeignLayout := by
  obtain ⟨t, l, vs, hreach, hother⟩ := reaches_otherLayout
  obtain ⟨pBytecode, sigs, hbytecode, hparse, hlength⟩ := hother.inputs
  obtain ⟨hno, hcalls⟩ := noForeignLayout_replaces hreach
  obtain ⟨request, hrequest⟩ := exists_inputLayoutRequest hparse
    (by rw [hlength]; exact Nat.one_ne_zero) granted.heap [otherElement] (by decide)
  have hlegal := hother.legal granted
  have hr := hother.readFrom hbytecode
  have hbinds : Binds { t.session.device with pCurrentLayout := some 2 } granted :=
    ⟨_, resolution_eq_some.mpr ⟨0, hr⟩, .inr ⟨sigs, hparse,
      by rw [hlength]; exact Nat.one_ne_zero, Nat.le_of_ble_eq_true rfl, rfl⟩⟩
  have hstep := step_requests granted.heap 7 (hother.resolves granted) hr rfl hrequest
  have hmeets : t.Replaces (.iaSetInputLayout (some 2) granted) := fun _ => .inr (.inr hbinds)
  refine ⟨t, _, hreach, hother.pCurrentVS, hother.pCurrentLayout, hother.boundFrom, hno, hstep,
    hbinds, hreach.call hlegal hmeets hstep, rfl, rfl, ?_,
    (hcalls _ _ hlegal hstep).mpr hmeets⟩
  show some ((2 : PrivateAddr), t.births 2) = _
  rw [hother.births]

theorem TracedSession.Reaches.mono {Meets' : TracedSession → LayoutCall → Prop}
    (h : TracedSession.Reaches fDdi11_1 Meets n t) (hmono : ∀ t c, Meets t c → Meets' t c) :
    TracedSession.Reaches fDdi11_1 Meets' n t := by
  induction h with
  | init => exact .init
  | call hreach hlegal hmeets hstep ih => exact ih.call hlegal (hmono _ _ hmeets) hstep

/-- The answers of a resolution in which the host creates no layout. -/
def denied : ResolveAnswers where
  heap := { scratch := true, buffer := some 64 }
  created := none

/-- The layout in block 2 is set and the host creates none for it: the one that was
    created from the elements of block 1 stays bound. -/
theorem noForeignLayout_denied :
    ∃ t l, TracedSession.Reaches false (fun _ _ => True) 1 t ∧
      t.session.device.pCurrentLayout = some 2 ∧ t.session.device.hostLayout = some l ∧
      t.boundFrom = some (1, 1) ∧
      (∀ e, t.session.device.mem 2 = .layout e → ¬RequestedFor e l) ∧ ¬t.NoForeignLayout := by
  obtain ⟨t, l, vs, hreach, hother⟩ := reaches_otherLayout
  obtain ⟨pBytecode, -, hbytecode, -⟩ := hother.inputs
  obtain ⟨-, hist, hinv⟩ := reaches_originInv hreach
  have hlegal := hother.legal denied
  have hresolves := hother.resolves denied
  have hresolution : { t.session.device with pCurrentLayout := some 2 }.resolution =
      some ⟨2, otherLayout, vs, [otherElement], pBytecode⟩ :=
    resolution_eq_some.mpr ⟨0, hother.readFrom hbytecode⟩
  have hkeeps : { t.session.device with pCurrentLayout := some 2 }.bindOutcome denied = .keeps := by
    have hnot : isCached otherLayout vs = false := rfl
    simp only [TritonDevice.bindOutcome, hresolution, hnot, Bool.false_eq_true, if_false]
    split
    case h_1 hsome => cases hsome
    case h_2 => rfl
  obtain ⟨pD', hreturns, hcurrent, heffect⟩ :=
    resolveInputLayout_effect (resolves_cacheInv hinv hlegal hresolves) denied
  rw [hkeeps] at heffect
  have hstep : t.step (.iaSetInputLayout (some 2) denied) =
      some { t with session := { t.session with device := pD' } } := by
    rw [TracedSession.step, Session.step_of_resolves hresolves, hreturns, Option.map_some,
      Option.map_some, after_resolves hresolves, hkeeps]
    rfl
  have hhost : pD'.hostLayout = some l := heffect.1.trans hother.hostLayout
  have hforeign : ∀ e, pD'.mem 2 = .layout e → ¬RequestedFor e l := by
    intro e he hrequested
    obtain ⟨e₀, he₀, helements, -⟩ := heffect.2.layouts 2 e hother.live he
    cases hother.layout.symm.trans he₀
    have hformats := hrequested.formats
    rw [helements, ← hother.requested.formats] at hformats
    cases hformats
  refine ⟨{ t with session := { t.session with device := pD' } }, l,
    (hreach.mono fun _ _ _ => trivial).call hlegal trivial hstep, hcurrent, hhost,
    hother.boundFrom, hforeign, fun hno => ?_⟩
  have hfrom := hother.boundFrom.symm.trans (hno 2 l hcurrent hhost).1
  cases hfrom

end VirtioWddm
