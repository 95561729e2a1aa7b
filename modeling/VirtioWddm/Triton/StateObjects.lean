/-
  VirtioWddm.Triton.StateObjects

  The state objects of `tritonState.c` over runs.

  A private block holds the host's state object; a setter binds what the block holds
  then.  Next to the driver runs the pipeline of the DDI, which knows what the runtime
  described and not what the host was given: in every reachable session what the host
  has bound does what was described.
-/

import VirtioWddm.Lib.Runs
import VirtioWddm.Triton.Binding
import VirtioWddm.Triton.Shader
import VirtioWddm.Triton.StateDesc

namespace VirtioWddm

open Lib

-- ============================================================================
-- What is bound
-- ============================================================================

def D3D11_COMMONSHADER_SAMPLER_SLOT_COUNT : UINT := 16

/-- The states the host's immediate context has bound, with the values set beside
    them. -/
structure HostPipeline where
  blend : Option HostState := none
  blendFactor : Fin 4 → FLOAT := fun _ => 0
  sampleMask : UINT := 0
  depthStencil : Option HostState := none
  stencilRef : UINT := 0
  rasterizer : Option HostState := none
  samplers : ShaderStage → Fin 16 → Option HostState := fun _ _ => none

/-- An array of sampler handles: NULL, or the private block behind each index. -/
abbrev SamplerHandles := Option (Nat → Option PrivateAddr)

/-- `ph ? ph[i].pDrvPrivate : NULL`. -/
def SamplerHandles.get (ph : SamplerHandles) (i : Nat) : Option PrivateAddr :=
  ph.bind fun handles => handles i

/-- `s ? s->pState : NULL`. -/
def boundState (mem : PrivateAddr → Option HostState) (handle : Option PrivateAddr) :
    Option HostState :=
  handle.bind mem

def tritonSetBlendState (mem : PrivateAddr → Option HostState) (hState : Option PrivateAddr)
    (blendFactor : Fin 4 → FLOAT) (sampleMask : UINT) (p : HostPipeline) : HostPipeline :=
  { p with blend := boundState mem hState, blendFactor := blendFactor, sampleMask := sampleMask }

def tritonSetDepthStencilState (mem : PrivateAddr → Option HostState)
    (hState : Option PrivateAddr) (stencilRef : UINT) (p : HostPipeline) : HostPipeline :=
  { p with depthStencil := boundState mem hState, stencilRef := stencilRef }

def tritonSetRasterizerState (mem : PrivateAddr → Option HostState)
    (hState : Option PrivateAddr) (p : HostPipeline) : HostPipeline :=
  { p with rasterizer := boundState mem hState }

/-- `TR_SAMPLER_SETTER`; more handles than there are slots are ignored. -/
def trSamplerSetter (stage : ShaderStage) (mem : PrivateAddr → Option HostState)
    (start n : UINT) (ph : SamplerHandles) (p : HostPipeline) : HostPipeline :=
  if D3D11_COMMONSHADER_SAMPLER_SLOT_COUNT < n then p
  else
    let a := fun i => boundState mem (ph.get i)
    { p with
      samplers :=
        Function.update p.samplers stage (writeSlots start.toNat n.toNat a (p.samplers stage)) }

def tritonVsSetSamplers := trSamplerSetter .vs
def tritonPsSetSamplers := trSamplerSetter .ps
def tritonGsSetSamplers := trSamplerSetter .gs
def tritonHsSetSamplers := trSamplerSetter .hs
def tritonDsSetSamplers := trSamplerSetter .ds
def tritonCsSetSamplers := trSamplerSetter .cs

/-- `tritonDestroyBlendState` and its counterparts, which are the same for every kind:
    the block's `pState` is released and cleared. -/
def destroyState (mem : PrivateAddr → Option HostState) (a : PrivateAddr) :
    PrivateAddr → Option HostState :=
  Function.update mem a none

def tritonDestroyBlendState := destroyState
def tritonDestroyDepthStencilState := destroyState
def tritonDestroyRasterizerState := destroyState
def tritonDestroySampler := destroyState

-- ============================================================================
-- Runs
-- ============================================================================

/-- The kinds of handles. -/
inductive StateKind where
  | blend
  | depthStencil
  | rasterizer
  | sampler
deriving DecidableEq

def DdiState.kind : DdiState → StateKind
  | .blend _ | .blend10 _ => .blend
  | .depthStencil _ => .depthStencil
  | .rasterizer _ | .rasterizer10 _ | .rasterizer20 _ => .rasterizer
  | .sampler _ => .sampler

def StateKind.destroy : StateKind → (PrivateAddr → Option HostState) → PrivateAddr →
    PrivateAddr → Option HostState
  | .blend => tritonDestroyBlendState
  | .depthStencil => tritonDestroyDepthStencilState
  | .rasterizer => tritonDestroyRasterizerState
  | .sampler => tritonDestroySampler

/-- The setter of the samplers of a stage. -/
def ShaderStage.setSamplers : ShaderStage → (PrivateAddr → Option HostState) → UINT → UINT →
    SamplerHandles → HostPipeline → HostPipeline
  | .vs => tritonVsSetSamplers
  | .ps => tritonPsSetSamplers
  | .gs => tritonGsSetSamplers
  | .hs => tritonHsSetSamplers
  | .ds => tritonDsSetSamplers
  | .cs => tritonCsSetSamplers

/-- The pipeline of the DDI: what the runtime has set, by what it asked for. -/
structure DdiPipeline where
  blend : Option DdiState := none
  blendFactor : Fin 4 → FLOAT := fun _ => 0
  sampleMask : UINT := 0
  depthStencil : Option DdiState := none
  stencilRef : UINT := 0
  rasterizer : Option DdiState := none
  samplers : ShaderStage → Fin 16 → Option DdiState := fun _ _ => none

/-- The driver's private blocks and the host's context, with the runtime's side: the
    objects it has created and not destroyed, and what it has set. -/
structure StateSession where
  mem : PrivateAddr → Option HostState
  host : HostPipeline
  live : PrivateAddr → Option DdiState
  ddi : DdiPipeline

namespace StateSession

/-- A handle of a kind, or NULL. -/
def HasKind (s : StateSession) (kind : StateKind) (handle : Option PrivateAddr) : Prop :=
  ∀ a, handle = some a → ∃ d, s.live a = some d ∧ d.kind = kind

/-- What the runtime asked for behind a handle. -/
def asked (s : StateSession) (handle : Option PrivateAddr) : Option DdiState :=
  handle.bind s.live

/-- The calls of a runtime that sets and destroys objects it has created, and names
    sampler slots there are.  A block without an object may hold anything. -/
inductive Step (dev3 : Bool) (s : StateSession) : StateSession → Prop where
  | create (a : PrivateAddr) (d : DdiState) (reply : Except FailureCode Nat)
      (hnew : s.live a = none) :
      Step dev3 s
        { s with
          mem := Function.update s.mem a (d.create dev3 reply).1
          live :=
            if (d.create dev3 reply).2 = none then Function.update s.live a (some d)
            else s.live }
  | destroy (kind : StateKind) (a : PrivateAddr) (hkind : s.HasKind kind (some a)) :
      Step dev3 s
        { s with
          mem := kind.destroy s.mem a
          live := Function.update s.live a none }
  | setBlend (h : Option PrivateAddr) (factor : Fin 4 → FLOAT) (mask : UINT)
      (hkind : s.HasKind .blend h) :
      Step dev3 s
        { s with
          host := tritonSetBlendState s.mem h factor mask s.host
          ddi := { s.ddi with blend := s.asked h, blendFactor := factor, sampleMask := mask } }
  | setDepthStencil (h : Option PrivateAddr) (ref : UINT) (hkind : s.HasKind .depthStencil h) :
      Step dev3 s
        { s with
          host := tritonSetDepthStencilState s.mem h ref s.host
          ddi := { s.ddi with depthStencil := s.asked h, stencilRef := ref } }
  | setRasterizer (h : Option PrivateAddr) (hkind : s.HasKind .rasterizer h) :
      Step dev3 s
        { s with
          host := tritonSetRasterizerState s.mem h s.host
          ddi := { s.ddi with rasterizer := s.asked h } }
  | setSamplers (stage : ShaderStage) (start n : UINT) (ph : SamplerHandles)
      (hslots : start.toNat + n.toNat ≤ 16)
      (hkind : ∀ i < n.toNat, s.HasKind .sampler (ph.get i)) :
      Step dev3 s
        { s with
          host := stage.setSamplers s.mem start n ph s.host
          ddi :=
            { s.ddi with
              samplers := Function.update s.ddi.samplers stage
                (writeSlots start.toNat n.toNat (fun i => s.asked (ph.get i))
                  (s.ddi.samplers stage)) } }
  | overwrite (a : PrivateAddr) (memory : Option HostState) (hfree : s.live a = none) :
      Step dev3 s { s with mem := Function.update s.mem a memory }

def Initial (s : StateSession) : Prop :=
  (∀ a, s.live a = none) ∧ s.host = {} ∧ s.ddi = {}

end StateSession

/-- NULL for NULL, and otherwise a host state that does what was described. -/
def RendersAsked (dev3 : Bool) : Option HostState → Option DdiState → Prop
  | none, none => True
  | some h, some d => Renders dev3 h.desc d
  | none, some _ | some _, none => False

/-- Every live object, and everything the host has bound, does what the runtime asked
    for. -/
structure StateSession.Faithful (dev3 : Bool) (s : StateSession) : Prop where
  objects : ∀ a d, s.live a = some d → RendersAsked dev3 (s.mem a) (some d)
  blend : RendersAsked dev3 s.host.blend s.ddi.blend
  blendFactor : s.host.blendFactor = s.ddi.blendFactor
  sampleMask : s.host.sampleMask = s.ddi.sampleMask
  depthStencil : RendersAsked dev3 s.host.depthStencil s.ddi.depthStencil
  stencilRef : s.host.stencilRef = s.ddi.stencilRef
  rasterizer : RendersAsked dev3 s.host.rasterizer s.ddi.rasterizer
  samplers : ∀ stage slot,
    RendersAsked dev3 (s.host.samplers stage slot) (s.ddi.samplers stage slot)

section Runs

variable {dev3 : Bool} {s s' : StateSession}

namespace StateSession

/-- What a setter binds for a handle. -/
theorem Faithful.bound (h : s.Faithful dev3) {kind : StateKind} {handle : Option PrivateAddr}
    (hkind : s.HasKind kind handle) :
    RendersAsked dev3 (boundState s.mem handle) (s.asked handle) := by
  cases handle with
  | none => trivial
  | some a =>
      obtain ⟨d, hlive, -⟩ := hkind a rfl
      have hasked : s.asked (some a) = some d := hlive
      rw [hasked]
      exact h.objects a d hlive

/-- A block changes whose object is not live afterwards, or is what was asked for. -/
theorem Faithful.objects_update (h : s.Faithful dev3) (a : PrivateAddr) (p : Option HostState)
    {live : PrivateAddr → Option DdiState} (hother : ∀ a', a' ≠ a → live a' = s.live a')
    (hself : ∀ d, live a = some d → RendersAsked dev3 p (some d)) :
    ∀ a' d, live a' = some d → RendersAsked dev3 (Function.update s.mem a p a') (some d) := by
  intro a' d hlive
  by_cases heq : a' = a
  · subst heq
    rw [Function.update_self]
    exact hself d hlive
  · rw [Function.update_of_ne heq]
    exact h.objects a' d ((hother a' heq).symm.trans hlive)

theorem Faithful.create (h : s.Faithful dev3) {a : PrivateAddr} (hnew : s.live a = none)
    (d : DdiState) (reply : Except FailureCode Nat) :
    ∀ a' d', (if (d.create dev3 reply).2 = none then Function.update s.live a (some d)
        else s.live) a' = some d' →
      RendersAsked dev3 (Function.update s.mem a (d.create dev3 reply).1 a') (some d') := by
  have hcreate := create_renders dev3 d reply
  cases reply with
  | error hr =>
      rw [hcreate]
      refine h.objects_update a none (fun _ _ => rfl) fun d' hlive => ?_
      have hlive : s.live a = some d' := hlive
      rw [hnew] at hlive
      cases hlive
  | ok id =>
      obtain ⟨host, hok, hrenders⟩ := hcreate
      rw [hok, if_pos rfl]
      refine h.objects_update a _ (fun a' hne => Function.update_of_ne hne ..) fun d' hlive => ?_
      rw [Function.update_self] at hlive
      cases hlive
      exact hrenders

theorem Faithful.step (h : s.Faithful dev3) (hstep : Step dev3 s s') : s'.Faithful dev3 := by
  cases hstep with
  | create a d reply hnew => exact { h with objects := h.create hnew d reply }
  | destroy kind a hkind =>
      refine { h with objects := ?_ }
      have hdestroy : kind.destroy s.mem a = Function.update s.mem a none := by
        cases kind <;> rfl
      rw [hdestroy]
      refine h.objects_update a none (fun a' hne => Function.update_of_ne hne ..) fun d hlive => ?_
      have hlive : Function.update s.live a none a = some d := hlive
      rw [Function.update_self] at hlive
      cases hlive
  | setBlend handle factor mask hkind =>
      exact { h with blend := h.bound hkind, blendFactor := rfl, sampleMask := rfl }
  | setDepthStencil handle ref hkind =>
      exact { h with depthStencil := h.bound hkind, stencilRef := rfl }
  | setRasterizer handle hkind => exact { h with rasterizer := h.bound hkind }
  | setSamplers stage start n ph hslots hkind =>
      have hfits : ¬D3D11_COMMONSHADER_SAMPLER_SLOT_COUNT < n := by
        intro hlt
        have hlt := BitVec.lt_def.mp hlt
        have hcount : D3D11_COMMONSHADER_SAMPLER_SLOT_COUNT.toNat = 16 := rfl
        omega
      let a := fun i => boundState s.mem (ph.get i)
      have hset : stage.setSamplers s.mem start n ph s.host =
          { s.host with
            samplers := Function.update s.host.samplers stage
              (writeSlots start.toNat n.toNat a (s.host.samplers stage)) } := by
        cases stage <;> exact if_neg hfits
      rw [hset]
      refine { h with samplers := fun stage' slot => ?_ }
      by_cases heq : stage' = stage
      · subst heq
        show RendersAsked dev3 (Function.update s.host.samplers stage' _ stage' slot)
          (Function.update s.ddi.samplers stage' _ stage' slot)
        rw [Function.update_self, Function.update_self]
        exact writeSlots_related (h.samplers stage') (fun i hi => h.bound (hkind i hi)) slot
      · show RendersAsked dev3 (Function.update s.host.samplers stage _ stage' slot)
          (Function.update s.ddi.samplers stage _ stage' slot)
        rw [Function.update_of_ne heq, Function.update_of_ne heq]
        exact h.samplers stage' slot
  | overwrite a memory hfree =>
      refine { h with objects := h.objects_update a memory (fun _ _ => rfl) fun d hlive => ?_ }
      rw [hfree] at hlive
      cases hlive

end StateSession

end Runs

/-- In every reachable session the live objects and everything that is bound do to every
    pixel and every run of fragments what the runtime described. -/
theorem pipelineState_faithful {dev3 : Bool} {s : StateSession}
    (h : Reach StateSession.Initial (StateSession.Step dev3) s) : s.Faithful dev3 := by
  refine Reach.invariant (StateSession.Faithful dev3) ?_ (fun _ _ hs hstep => hs.step hstep) h
  rintro ⟨mem, host, live, ddi⟩ ⟨hlive, rfl, rfl⟩
  exact
    { objects := fun a d hd => by cases (hlive a).symm.trans hd
      blend := trivial
      blendFactor := rfl
      sampleMask := rfl
      depthStencil := trivial
      stencilRef := rfl
      rasterizer := trivial
      samplers := fun _ _ => trivial }

/-- Stencilling with the back faces disabled: they replace the stencil value where they
    are enabled. -/
def frontOnly : DdiDepthStencilDesc :=
  { stencilEnable := true
    stencilReadMask := 0xff
    stencilWriteMask := 0xff
    frontEnable := true
    frontFace := { stencilPassOp := 3, stencilFunc := 8 }
    backFace := { stencilPassOp := 3, stencilFunc := 8 } }

/-- The description is created and set; a back face and then a front face arrive, and
    only the second one writes its reference value. -/
theorem pipelineState_faithful_frontOnly :
    ∃ s h d, Reach StateSession.Initial (StateSession.Step true) s ∧
      s.host.depthStencil = some h ∧ h.desc = .depthStencil d ∧
      d.test.run 5 { stencil := 1, depth := 0 }
          [{ front := false, depth := 0 }, { front := true, depth := 0 }] =
        (({ stencil := 5, depth := 0 } : Sample 8 Nat), [true, true]) := by
  have h₀ : Reach StateSession.Initial (StateSession.Step true)
      { mem := fun _ => none, host := {}, live := fun _ => none, ddi := {} } :=
    .init ⟨fun _ => rfl, rfl, rfl⟩
  have h₁ := h₀.step (.create 1 (.depthStencil frontOnly) (.ok 7) rfl)
  have h₂ := h₁.step (.setDepthStencil (some 1) 5 fun a ha => by cases ha; exact ⟨_, rfl, rfl⟩)
  obtain ⟨d, hd, hrun⟩ := (pipelineState_faithful h₂).depthStencil
  refine ⟨_, _, d, h₂, rfl, hd, ?_⟩
  rw [hrun]
  decide

end VirtioWddm
