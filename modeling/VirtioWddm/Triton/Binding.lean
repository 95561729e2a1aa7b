/-
  VirtioWddm.Triton.Binding

  The setters of `tritonView.c` that bind views to the pipeline, with the binding
  slots of the host's immediate context.

  A wrapper's host view is read when the setter runs: what the host keeps bound is
  the view object the wrapper had then, not the one it may have later.
-/

import VirtioWddm.Lib.SlotTable
import VirtioWddm.Triton.View

namespace VirtioWddm

open Lib

-- ============================================================================
-- Slot counts
-- ============================================================================

def D3D11_COMMONSHADER_INPUT_RESOURCE_SLOT_COUNT : UINT := 128
def D3D11_SIMULTANEOUS_RENDER_TARGET_COUNT : UINT := 8
def D3D11_PS_CS_UAV_REGISTER_COUNT : UINT := 8
def D3D11_1_UAV_SLOT_COUNT : UINT := 64

/-- The six shader stages. -/
inductive ShaderStage where
  | vs
  | ps
  | gs
  | hs
  | ds
  | cs
deriving DecidableEq

-- ============================================================================
-- The host's slots
-- ============================================================================

/-- The slots of the host's immediate context that hold views, each with the view
    object bound there. -/
structure HostBindings where
  srv : ShaderStage → Fin 128 → Option HostView
  csUav : Fin 64 → Option HostView
  omRtv : Fin 8 → Option HostView
  omDsv : Option HostView
  omUav : Fin 64 → Option HostView

/-- The name of a slot. -/
inductive BindSlot where
  | srv (stage : ShaderStage) (slot : Fin 128)
  | csUav (slot : Fin 64)
  | omRtv (slot : Fin 8)
  | omDsv
  | omUav (slot : Fin 64)
deriving DecidableEq

/-- What a slot holds. -/
def HostBindings.get (b : HostBindings) : BindSlot → Option HostView
  | .srv stage slot => b.srv stage slot
  | .csUav slot => b.csUav slot
  | .omRtv slot => b.omRtv slot
  | .omDsv => b.omDsv
  | .omUav slot => b.omUav slot

-- ============================================================================
-- The setters
-- ============================================================================

/-- An array of view handles: NULL, or the private block behind each index. -/
abbrev ViewHandles := Option (Nat → Option ViewAddr)

/-- `ph ? ph[i].pDrvPrivate : NULL`. -/
def ViewHandles.get (ph : ViewHandles) (i : Nat) : Option ViewAddr :=
  ph.bind fun handles => handles i

/-- `v ? v->pSRV : NULL`, and its counterparts for the other kinds. -/
def boundView (views : ViewAddr → TritonView) (handle : Option ViewAddr) : Option HostView :=
  handle.bind fun v => (views v).pView

/-- `TR_SRV_SETTER`. -/
def trSrvSetter (stage : ShaderStage) (views : ViewAddr → TritonView) (start n : UINT)
    (ph : ViewHandles) (b : HostBindings) : HostBindings :=
  let n :=
    if D3D11_COMMONSHADER_INPUT_RESOURCE_SLOT_COUNT < n then
      D3D11_COMMONSHADER_INPUT_RESOURCE_SLOT_COUNT
    else n
  let a := fun i => boundView views (ph.get i)
  { b with srv := Function.update b.srv stage (writeSlots start.toNat n.toNat a (b.srv stage)) }

def tritonVsSetShaderResources := trSrvSetter .vs
def tritonPsSetShaderResources := trSrvSetter .ps
def tritonGsSetShaderResources := trSrvSetter .gs
def tritonHsSetShaderResources := trSrvSetter .hs
def tritonDsSetShaderResources := trSrvSetter .ds
def tritonCsSetShaderResources := trSrvSetter .cs

/-- `tritonCsSetUAVs`.  The second component is the error reported to the
    runtime. -/
def tritonCsSetUAVs (views : ViewAddr → TritonView) (start n : UINT) (ph : ViewHandles)
    (b : HostBindings) : HostBindings × Option HRESULT :=
  if D3D11_1_UAV_SLOT_COUNT < n ∨ D3D11_1_UAV_SLOT_COUNT ≤ start ∨
      D3D11_1_UAV_SLOT_COUNT < n + start then
    (b, some E_INVALIDARG)
  else
    let a := fun i => boundView views (ph.get i)
    ({ b with csUav := writeSlots start.toNat n.toNat a b.csUav }, none)

/-- The arguments of `tritonSetRenderTargets` that it reads. -/
structure RenderTargetArgs where
  phRTVs : ViewHandles := none
  numRTVs : UINT := 0
  hDSV : Option ViewAddr := none
  phUAVs : ViewHandles := none
  uavStartSlot : UINT := 0
  numUAVs : UINT := 0

/-- `tritonSetRenderTargets`.  Either host call replaces all output-merger
    bindings, so that what it does not name is unbound. -/
def tritonSetRenderTargets (views : ViewAddr → TritonView) (pArgs : RenderTargetArgs)
    (b : HostBindings) : HostBindings × Option HRESULT :=
  if D3D11_SIMULTANEOUS_RENDER_TARGET_COUNT < pArgs.numRTVs then
    (b, some E_INVALIDARG)
  else
    let aRTV := fun i => boundView views (pArgs.phRTVs.get i)
    let pDSV := boundView views pArgs.hDSV
    if pArgs.numUAVs = 0 then
      -- `OMSetRenderTargets`
      ({ b with
          omRtv := replaceSlots 0 pArgs.numRTVs.toNat aRTV
          omDsv := pDSV
          omUav := fun _ => none },
        none)
    else if D3D11_1_UAV_SLOT_COUNT ≤ pArgs.uavStartSlot ∨
        D3D11_1_UAV_SLOT_COUNT - pArgs.uavStartSlot < pArgs.numUAVs then
      (b, some E_INVALIDARG)
    else
      -- `OMSetRenderTargetsAndUnorderedAccessViews`
      let aUAV := fun i => boundView views (pArgs.phUAVs.get i)
      ({ b with
          omRtv := replaceSlots 0 pArgs.numRTVs.toNat aRTV
          omDsv := pDSV
          omUav := replaceSlots pArgs.uavStartSlot.toNat pArgs.numUAVs.toNat aUAV },
        none)

/-- The handles `tritonSetRenderTargets` reads. -/
inductive RenderTargetArgs.Reads (pArgs : RenderTargetArgs) : Option ViewAddr → Prop where
  | rtv (i : Nat) (hi : i < pArgs.numRTVs.toNat) : Reads pArgs (pArgs.phRTVs.get i)
  | dsv : Reads pArgs pArgs.hDSV
  | uav (i : Nat) (hi : i < pArgs.numUAVs.toNat) : Reads pArgs (pArgs.phUAVs.get i)

-- ============================================================================
-- What the setters write
-- ============================================================================

/-- `b'` differs from `b` only in slots that hold what one of `handles` stands for,
    or nothing. -/
def WritesFrom (views : ViewAddr → TritonView) (handles : Option ViewAddr → Prop)
    (b b' : HostBindings) : Prop :=
  ∀ slot, b'.get slot = b.get slot ∨ b'.get slot = none ∨
    ∃ handle, handles handle ∧ b'.get slot = boundView views handle

section Writes

variable {views : ViewAddr → TritonView} {b : HostBindings}

theorem WritesFrom.refl (handles : Option ViewAddr → Prop) : WritesFrom views handles b b :=
  fun _ => .inl rfl

theorem WritesFrom.trans {handles : Option ViewAddr → Prop} {b' b'' : HostBindings}
    (h : WritesFrom views handles b b') (h' : WritesFrom views handles b' b'') :
    WritesFrom views handles b b'' := by
  intro slot
  rcases h' slot with heq | hnew
  · rw [heq]
    exact h slot
  · exact .inr hnew

theorem trSrvSetter_writesFrom (stage : ShaderStage) (start n : UINT) (ph : ViewHandles) :
    WritesFrom views (fun handle => ∃ i < n.toNat, handle = ph.get i) b
      (trSrvSetter stage views start n ph b) := by
  intro slot
  cases slot with
  | srv stage' slot =>
      by_cases hstage : stage' = stage
      · subst hstage
        show Function.update b.srv stage' _ stage' slot = b.srv stage' slot ∨ _
        rw [Function.update_self]
        rcases writeSlots_or start.toNat _ _ (b.srv stage') slot with heq | ⟨i, hi, heq⟩
        · exact .inl heq
        · refine .inr (.inr ⟨ph.get i, ⟨i, ?_, rfl⟩, ?_⟩)
          · split at hi
            case isTrue hclamp =>
              have hclamp := BitVec.lt_def.mp hclamp
              omega
            case isFalse => exact hi
          · show Function.update b.srv stage' _ stage' slot = _
            rw [Function.update_self]
            exact heq
      · refine .inl ?_
        show Function.update b.srv stage _ stage' slot = b.srv stage' slot
        rw [Function.update_of_ne hstage]
  | csUav slot => exact .inl rfl
  | omRtv slot => exact .inl rfl
  | omDsv => exact .inl rfl
  | omUav slot => exact .inl rfl

theorem tritonCsSetUAVs_writesFrom (start n : UINT) (ph : ViewHandles) :
    WritesFrom views (fun handle => ∃ i < n.toNat, handle = ph.get i) b
      (tritonCsSetUAVs views start n ph b).1 := by
  intro slot
  unfold tritonCsSetUAVs
  split
  case isTrue => exact .inl rfl
  case isFalse =>
    cases slot with
    | csUav slot =>
        rcases writeSlots_or start.toNat n.toNat (fun i => boundView views (ph.get i)) b.csUav
          slot with heq | ⟨i, hi, heq⟩
        · exact .inl heq
        · exact .inr (.inr ⟨ph.get i, ⟨i, hi, rfl⟩, heq⟩)
    | srv stage slot => exact .inl rfl
    | omRtv slot => exact .inl rfl
    | omDsv => exact .inl rfl
    | omUav slot => exact .inl rfl

/-- The compute UAV slots after a call that is not rejected. -/
theorem tritonCsSetUAVs_csUav {start n : UINT} (ph : ViewHandles)
    (hok : ¬(D3D11_1_UAV_SLOT_COUNT < n ∨ D3D11_1_UAV_SLOT_COUNT ≤ start ∨
      D3D11_1_UAV_SLOT_COUNT < n + start)) :
    (tritonCsSetUAVs views start n ph b).1.csUav =
      writeSlots start.toNat n.toNat (fun i => boundView views (ph.get i)) b.csUav := by
  rw [tritonCsSetUAVs, if_neg hok]

/-- A render target slot after a call that was not rejected. -/
theorem replaceSlots_rtv (pArgs : RenderTargetArgs) {k : Nat} (slot : Fin k) :
    replaceSlots 0 pArgs.numRTVs.toNat (fun i => boundView views (pArgs.phRTVs.get i)) slot =
        none ∨
      ∃ handle, pArgs.Reads handle ∧
        replaceSlots 0 pArgs.numRTVs.toNat (fun i => boundView views (pArgs.phRTVs.get i)) slot =
          boundView views handle := by
  rcases writeSlots_or 0 pArgs.numRTVs.toNat (fun i => boundView views (pArgs.phRTVs.get i))
    (fun _ => none) slot with hnull | ⟨i, hi, heq⟩
  · exact .inl hnull
  · exact .inr ⟨_, .rtv i hi, heq⟩

/-- A call that is not rejected leaves in the output merger what its own handles
    stand for, whatever was bound before, and touches nothing else. -/
theorem tritonSetRenderTargets_accepted {pArgs : RenderTargetArgs}
    (hok : (tritonSetRenderTargets views pArgs b).2 = none) :
    (tritonSetRenderTargets views pArgs b).1.srv = b.srv ∧
      (tritonSetRenderTargets views pArgs b).1.csUav = b.csUav ∧
      ∀ slot, (∀ stage i, slot ≠ .srv stage i) → (∀ i, slot ≠ .csUav i) →
        (tritonSetRenderTargets views pArgs b).1.get slot = none ∨
          ∃ handle, pArgs.Reads handle ∧
            (tritonSetRenderTargets views pArgs b).1.get slot = boundView views handle := by
  unfold tritonSetRenderTargets at hok ⊢
  split at hok
  case isTrue => cases hok
  case isFalse hrtvs =>
    rw [if_neg hrtvs]
    dsimp only at hok ⊢
    split at hok
    case isTrue hnone =>
      rw [if_pos hnone]
      refine ⟨rfl, rfl, fun slot hsrv huav => ?_⟩
      cases slot with
      | srv stage i => exact absurd rfl (hsrv stage i)
      | csUav i => exact absurd rfl (huav i)
      | omRtv slot => exact replaceSlots_rtv pArgs slot
      | omDsv => exact .inr ⟨_, .dsv, rfl⟩
      | omUav slot => exact .inl rfl
    case isFalse hsome =>
      rw [if_neg hsome]
      split at hok
      case isTrue => cases hok
      case isFalse hrange =>
        rw [if_neg hrange]
        refine ⟨rfl, rfl, fun slot hsrv huav => ?_⟩
        cases slot with
        | srv stage i => exact absurd rfl (hsrv stage i)
        | csUav i => exact absurd rfl (huav i)
        | omRtv slot => exact replaceSlots_rtv pArgs slot
        | omDsv => exact .inr ⟨_, .dsv, rfl⟩
        | omUav slot =>
            rcases writeSlots_or pArgs.uavStartSlot.toNat pArgs.numUAVs.toNat
              (fun i => boundView views (pArgs.phUAVs.get i)) (fun _ => none) slot with
              hnull | ⟨i, hi, heq⟩
            · exact .inl hnull
            · exact .inr ⟨_, .uav i hi, heq⟩

/-- Whether a call is rejected depends on its arguments alone. -/
theorem tritonSetRenderTargets_accepts (views' : ViewAddr → TritonView) (b' : HostBindings)
    (pArgs : RenderTargetArgs) :
    (tritonSetRenderTargets views' pArgs b').2 = (tritonSetRenderTargets views pArgs b).2 := by
  unfold tritonSetRenderTargets
  split
  case isTrue => rfl
  case isFalse =>
    dsimp only
    split
    case isTrue => rfl
    case isFalse => split <;> rfl

/-- A rejected call changes nothing. -/
theorem tritonSetRenderTargets_rejected {pArgs : RenderTargetArgs}
    (herr : (tritonSetRenderTargets views pArgs b).2 ≠ none) :
    (tritonSetRenderTargets views pArgs b).1 = b := by
  unfold tritonSetRenderTargets at herr ⊢
  split
  case isTrue => rfl
  case isFalse hrtvs =>
    rw [if_neg hrtvs] at herr
    dsimp only at herr ⊢
    split
    case isTrue hnone => exact absurd (by rw [if_pos hnone]) herr
    case isFalse hsome =>
      rw [if_neg hsome] at herr
      split
      case isTrue => rfl
      case isFalse hrange => exact absurd (by rw [if_neg hrange]) herr

theorem tritonSetRenderTargets_writesFrom (pArgs : RenderTargetArgs) :
    WritesFrom views pArgs.Reads b (tritonSetRenderTargets views pArgs b).1 := by
  by_cases hok : (tritonSetRenderTargets views pArgs b).2 = none
  · obtain ⟨hsrv, huav, hom⟩ := tritonSetRenderTargets_accepted hok
    intro slot
    cases slot with
    | srv stage i => exact .inl (congrFun (congrFun hsrv stage) i)
    | csUav i => exact .inl (congrFun huav i)
    | omRtv i => exact .inr (hom _ (fun _ _ h => by cases h) (fun _ h => by cases h))
    | omDsv => exact .inr (hom _ (fun _ _ h => by cases h) (fun _ h => by cases h))
    | omUav i => exact .inr (hom _ (fun _ _ h => by cases h) (fun _ h => by cases h))
  · rw [tritonSetRenderTargets_rejected hok]
    exact WritesFrom.refl _

end Writes

end VirtioWddm
