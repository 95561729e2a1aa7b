/-
  VirtioWddm.Dxgi.Rebind

  The state callbacks a rotation ends with, answered by a runtime that calls the
  setter again for the slots a callback names, with the views it has bound there.
-/

import VirtioWddm.Triton.Binding
import VirtioWddm.Dxgi.Rotate

namespace VirtioWddm

open Lib

-- ============================================================================
-- The runtime's answers
-- ============================================================================

/-- The interface versions CreateDevice accepts, in the order of their numbers. -/
inductive InterfaceVersion where
  | d3d11_0
  | d3d11_1
  | wddm1_3
  | wddm2_0
  | wddm2_1
deriving DecidableEq

def InterfaceVersion.rank : InterfaceVersion → Nat
  | .d3d11_0 => 0
  | .d3d11_1 => 1
  | .wddm1_3 => 2
  | .wddm2_0 => 3
  | .wddm2_1 => 4

/-- `uIfVersion >= D3D11_0_DDI_INTERFACE_VERSION`. -/
def InterfaceVersion.isD3D11 (version : InterfaceVersion) : Bool :=
  decide (InterfaceVersion.d3d11_0.rank ≤ version.rank)

/-- The branch for the later stages is taken for every accepted version. -/
theorem InterfaceVersion.isD3D11_eq_true (version : InterfaceVersion) : version.isD3D11 = true :=
  decide_eq_true (Nat.zero_le _)

/-- The views the runtime has bound: one for each slot it has set, and the arguments
    of the last output-merger call the driver took. -/
structure RuntimeBindings where
  srv : ShaderStage → Nat → Option ViewAddr
  csUav : Nat → Option ViewAddr
  om : RenderTargetArgs

/-- The `StartSlot` and `NumSlots` of a state callback; that for the output merger
    has none. -/
def StateCallback.range : StateCallback → UINT × UINT
  | .csUav => (0, D3D11_PS_CS_UAV_REGISTER_COUNT)
  | .omRenderTargets => (0, 0)
  | .vsSrv | .gsSrv | .psSrv | .hsSrv | .dsSrv | .csSrv =>
      (0, D3D11_COMMONSHADER_INPUT_RESOURCE_SLOT_COUNT)

/-- The handles of the slots from `start` on. -/
def handlesFrom (slots : Nat → Option ViewAddr) (start : UINT) : ViewHandles :=
  some fun i => slots (start.toNat + i)

/-- The runtime's answer to a state callback: the setter again, for the slots the
    callback names. -/
def answerCallback (views : ViewAddr → TritonView) (current : RuntimeBindings)
    (callback : StateCallback) (b : HostBindings) : HostBindings :=
  let (start, n) := callback.range
  match callback with
  | .vsSrv => tritonVsSetShaderResources views start n (handlesFrom (current.srv .vs) start) b
  | .gsSrv => tritonGsSetShaderResources views start n (handlesFrom (current.srv .gs) start) b
  | .psSrv => tritonPsSetShaderResources views start n (handlesFrom (current.srv .ps) start) b
  | .hsSrv => tritonHsSetShaderResources views start n (handlesFrom (current.srv .hs) start) b
  | .dsSrv => tritonDsSetShaderResources views start n (handlesFrom (current.srv .ds) start) b
  | .csSrv => tritonCsSetShaderResources views start n (handlesFrom (current.srv .cs) start) b
  | .csUav => (tritonCsSetUAVs views start n (handlesFrom current.csUav start) b).1
  | .omRenderTargets => (tritonSetRenderTargets views current.om b).1

/-- All of them, in turn. -/
def answerCallbacks (views : ViewAddr → TritonView) (current : RuntimeBindings) :
    List StateCallback → HostBindings → HostBindings
  | [], b => b
  | callback :: callbacks, b =>
      answerCallbacks views current callbacks (answerCallback views current callback b)

/-- The handles among the runtime's bindings. -/
inductive RuntimeBindings.Uses (current : RuntimeBindings) : Option ViewAddr → Prop where
  | srv (stage : ShaderStage) (slot : Nat) : Uses current (current.srv stage slot)
  | csUav (slot : Nat) : Uses current (current.csUav slot)
  | om (handle : Option ViewAddr) (h : current.om.Reads handle) : Uses current handle

theorem RuntimeBindings.uses_some_iff {current : RuntimeBindings} {v : ViewAddr} :
    current.Uses (some v) ↔ (∃ stage slot, current.srv stage slot = some v) ∨
      (∃ slot, current.csUav slot = some v) ∨ current.om.Reads (some v) := by
  constructor
  · intro huses
    generalize some v = handle at huses ⊢
    cases huses with
    | srv stage slot => exact .inl ⟨stage, slot, rfl⟩
    | csUav slot => exact .inr (.inl ⟨slot, rfl⟩)
    | om handle hreads => exact .inr (.inr hreads)
  · rintro (⟨stage, slot, heq⟩ | ⟨slot, heq⟩ | hreads)
    · exact heq ▸ .srv stage slot
    · exact heq ▸ .csUav slot
    · exact .om _ hreads

/-- The slots an answer sets anew. -/
def StateCallback.Covers (callback : StateCallback) : BindSlot → Prop
  | .srv stage _ =>
      callback =
        match stage with
        | .vs => .vsSrv
        | .ps => .psSrv
        | .gs => .gsSrv
        | .hs => .hsSrv
        | .ds => .dsSrv
        | .cs => .csSrv
  | .csUav slot => callback = .csUav ∧ slot.val < 8
  | .omRtv _ | .omDsv | .omUav _ => callback = .omRenderTargets

/-- A slot holds what one of the runtime's views stands for now, or nothing. -/
def Refreshed (views : ViewAddr → TritonView) (current : RuntimeBindings) (b : HostBindings)
    (slot : BindSlot) : Prop :=
  b.get slot = none ∨ ∃ handle, current.Uses handle ∧ b.get slot = boundView views handle

section Answers

variable {views : ViewAddr → TritonView} {current : RuntimeBindings} {b : HostBindings}

theorem WritesFrom.mono {handles handles' : Option ViewAddr → Prop} {b' : HostBindings}
    (h : WritesFrom views handles b b') (hsub : ∀ handle, handles handle → handles' handle) :
    WritesFrom views handles' b b' := by
  intro slot
  rcases h slot with heq | hnull | ⟨handle, hhandle, heq⟩
  · exact .inl heq
  · exact .inr (.inl hnull)
  · exact .inr (.inr ⟨handle, hsub handle hhandle, heq⟩)

theorem answer_srv_writesFrom (stage : ShaderStage) (start n : UINT) :
    WritesFrom views current.Uses b
      (trSrvSetter stage views start n (handlesFrom (current.srv stage) start) b) := by
  refine (trSrvSetter_writesFrom stage start n _).mono ?_
  rintro handle ⟨i, hi, rfl⟩
  exact .srv stage _

theorem answerCallback_writesFrom (callback : StateCallback) :
    WritesFrom views current.Uses b (answerCallback views current callback b) := by
  cases callback with
  | vsSrv => exact answer_srv_writesFrom .vs _ _
  | gsSrv => exact answer_srv_writesFrom .gs _ _
  | psSrv => exact answer_srv_writesFrom .ps _ _
  | hsSrv => exact answer_srv_writesFrom .hs _ _
  | dsSrv => exact answer_srv_writesFrom .ds _ _
  | csSrv => exact answer_srv_writesFrom .cs _ _
  | csUav =>
      refine (tritonCsSetUAVs_writesFrom _ _ _).mono ?_
      rintro handle ⟨i, hi, rfl⟩
      exact .csUav _
  | omRenderTargets =>
      refine (tritonSetRenderTargets_writesFrom current.om).mono ?_
      intro handle hhandle
      exact .om handle hhandle

/-- The shader-resource slots of a stage are set anew, all of them. -/
theorem answer_srv_refreshed (stage : ShaderStage) (slot : Fin 128) :
    Refreshed views current
      (trSrvSetter stage views 0 D3D11_COMMONSHADER_INPUT_RESOURCE_SLOT_COUNT
        (handlesFrom (current.srv stage) 0) b)
      (.srv stage slot) := by
  refine .inr ⟨_, .srv stage slot.val, ?_⟩
  have hn : (D3D11_COMMONSHADER_INPUT_RESOURCE_SLOT_COUNT).toNat = 128 := rfl
  show Function.update b.srv stage _ stage slot = _
  have hstart : (0 : UINT).toNat ≤ slot.val := Nat.zero_le _
  rw [Function.update_self, if_neg (by decide), writeSlots_inside _ _ hstart]
  · show boundView views (current.srv stage (0 + slot.val)) = _
    rw [Nat.zero_add]
  · rw [hn]
    show slot.val < 0 + 128
    omega

theorem answer_csUav_refreshed {slot : Fin 64} (hslot : slot.val < 8) :
    Refreshed views current
      (tritonCsSetUAVs views 0 D3D11_PS_CS_UAV_REGISTER_COUNT
        (handlesFrom current.csUav 0) b).1
      (.csUav slot) := by
  refine .inr ⟨_, .csUav slot.val, ?_⟩
  show (tritonCsSetUAVs views 0 D3D11_PS_CS_UAV_REGISTER_COUNT _ b).1.csUav slot = _
  have hstart : (0 : UINT).toNat ≤ slot.val := Nat.zero_le _
  rw [tritonCsSetUAVs_csUav _ (by decide), writeSlots_inside _ _ hstart]
  · show boundView views (current.csUav (0 + slot.val)) = _
    rw [Nat.zero_add]
  · have hn : (D3D11_PS_CS_UAV_REGISTER_COUNT).toNat = 8 := rfl
    rw [hn]
    show slot.val < 0 + 8
    omega

/-- An answer sets the slots it covers anew. -/
theorem answerCallback_refreshed (callback : StateCallback) {slot : BindSlot}
    (hok : (tritonSetRenderTargets views current.om b).2 = none)
    (hcovers : callback.Covers slot) :
    Refreshed views current (answerCallback views current callback b) slot := by
  have hom : ∀ slot, (∀ stage i, slot ≠ .srv stage i) → (∀ i, slot ≠ .csUav i) →
      Refreshed views current (tritonSetRenderTargets views current.om b).1 slot := by
    intro slot hsrv huav
    rcases (tritonSetRenderTargets_accepted hok).2.2 slot hsrv huav with
      hnull | ⟨handle, hhandle, heq⟩
    · exact .inl hnull
    · exact .inr ⟨handle, .om handle hhandle, heq⟩
  cases slot with
  | srv stage i =>
      obtain rfl := hcovers
      cases stage with
      | vs => exact answer_srv_refreshed .vs i
      | ps => exact answer_srv_refreshed .ps i
      | gs => exact answer_srv_refreshed .gs i
      | hs => exact answer_srv_refreshed .hs i
      | ds => exact answer_srv_refreshed .ds i
      | cs => exact answer_srv_refreshed .cs i
  | csUav i =>
      obtain ⟨rfl, hi⟩ := hcovers
      exact answer_csUav_refreshed hi
  | omRtv i =>
      obtain rfl := hcovers
      exact hom _ (fun _ _ h => by cases h) (fun _ h => by cases h)
  | omDsv =>
      obtain rfl := hcovers
      exact hom _ (fun _ _ h => by cases h) (fun _ h => by cases h)
  | omUav i =>
      obtain rfl := hcovers
      exact hom _ (fun _ _ h => by cases h) (fun _ h => by cases h)

/-- A slot set anew stays so: what is written over it is current, too. -/
theorem Refreshed.preserved {b' : HostBindings} {slot : BindSlot}
    (h : Refreshed views current b slot) (hwrites : WritesFrom views current.Uses b b') :
    Refreshed views current b' slot := by
  rcases hwrites slot with heq | hnew
  · rw [Refreshed, heq]
    exact h
  · exact hnew

theorem answerCallbacks_writesFrom (callbacks : List StateCallback) :
    WritesFrom views current.Uses b (answerCallbacks views current callbacks b) := by
  induction callbacks generalizing b with
  | nil => exact WritesFrom.refl _
  | cons callback callbacks ih => exact (answerCallback_writesFrom callback).trans ih

theorem answerCallbacks_refreshed {callbacks : List StateCallback}
    {slot : BindSlot} (hok : (tritonSetRenderTargets views current.om b).2 = none)
    (hcovered : ∃ callback ∈ callbacks, callback.Covers slot) :
    Refreshed views current (answerCallbacks views current callbacks b) slot := by
  induction callbacks generalizing b with
  | nil =>
      obtain ⟨callback, hmem, -⟩ := hcovered
      exact absurd hmem List.not_mem_nil
  | cons first callbacks ih =>
      obtain ⟨callback, hmem, hcovers⟩ := hcovered
      rcases List.mem_cons.mp hmem with rfl | hmem
      · exact (answerCallback_refreshed callback hok hcovers).preserved
          (answerCallbacks_writesFrom callbacks)
      · refine ih ?_ ⟨callback, hmem, hcovers⟩
        rw [tritonSetRenderTargets_accepts views _ current.om, hok]

/-- No answer reaches a compute UAV slot from 8 on. -/
theorem answerCallback_highUav (callback : StateCallback)
    (hok : (tritonSetRenderTargets views current.om b).2 = none) {slot : Fin 64}
    (hslot : 8 ≤ slot.val) :
    (answerCallback views current callback b).csUav slot = b.csUav slot := by
  cases callback with
  | vsSrv | gsSrv | psSrv | hsSrv | dsSrv | csSrv => rfl
  | csUav =>
      show (tritonCsSetUAVs views 0 D3D11_PS_CS_UAV_REGISTER_COUNT _ b).1.csUav slot = _
      rw [tritonCsSetUAVs_csUav _ (by decide)]
      have habove : (0 : UINT).toNat + (D3D11_PS_CS_UAV_REGISTER_COUNT).toNat ≤ slot.val := hslot
      exact writeSlots_outside _ _ (.inr habove)
  | omRenderTargets => exact congrFun (tritonSetRenderTargets_accepted hok).2.1 slot

theorem answerCallbacks_highUav (callbacks : List StateCallback)
    (hok : (tritonSetRenderTargets views current.om b).2 = none) {slot : Fin 64}
    (hslot : 8 ≤ slot.val) :
    (answerCallbacks views current callbacks b).csUav slot = b.csUav slot := by
  induction callbacks generalizing b with
  | nil => rfl
  | cons callback callbacks ih =>
      rw [answerCallbacks, ih, answerCallback_highUav callback hok hslot]
      rw [tritonSetRenderTargets_accepts views _ current.om, hok]

/-- The callbacks of a rotation cover all slots but the compute UAV slots from 8
    on. -/
theorem stateCallbacks_cover {slot : BindSlot} (hslot : ∀ i, slot = .csUav i → i.val < 8) :
    ∃ callback ∈ stateCallbacks true, callback.Covers slot := by
  cases slot with
  | srv stage i => cases stage <;> exact ⟨_, by decide, rfl⟩
  | csUav i => exact ⟨.csUav, by decide, rfl, hslot i rfl⟩
  | omRtv i => exact ⟨.omRenderTargets, by decide, rfl⟩
  | omDsv => exact ⟨.omRenderTargets, by decide, rfl⟩
  | omUav i => exact ⟨.omRenderTargets, by decide, rfl⟩

end Answers

end VirtioWddm
