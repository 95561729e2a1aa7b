/-
  VirtioWddm.Triton.SlotSetters

  The setters of `tritonResource.c` and `tritonState.c` that bind ranges of slots:
  constant buffers, vertex buffers, stream-output targets, viewports and scissor
  rectangles.

  Each gathers host objects in an array on its stack and calls the host.  The host
  clears the targets, viewports and rectangles that a call does not name, and the setters
  rely on it: they pass no clear count on.
-/

import VirtioWddm.Lib.SlotTable
import VirtioWddm.Lib.Runs
import VirtioWddm.Triton.Binding

namespace VirtioWddm

open Lib

def D3D11_COMMONSHADER_CONSTANT_BUFFER_API_SLOT_COUNT : UINT := 14
def D3D11_IA_VERTEX_INPUT_RESOURCE_SLOT_COUNT : UINT := 32
def D3D11_SO_BUFFER_SLOT_COUNT : UINT := 4
def D3D11_VIEWPORT_AND_SCISSORRECT_OBJECT_COUNT_PER_PIPELINE : UINT := 16

-- ============================================================================
-- The host's slots
-- ============================================================================

/-- A bound buffer with the numbers that came with it: first constant and count, stride
    and offset, or offset. -/
structure BufferBinding where
  buffer : HostResource
  numbers : List UINT
deriving DecidableEq

/-- `D3D10_DDI_VIEWPORT` and `D3D11_VIEWPORT`; the members are `FLOAT`s. -/
structure Viewport where
  topLeftX : UINT := 0
  topLeftY : UINT := 0
  width : UINT := 0
  height : UINT := 0
  minDepth : UINT := 0
  maxDepth : UINT := 0
deriving DecidableEq

/-- `D3D10_DDI_RECT` and `D3D11_RECT`. -/
structure ScissorRect where
  left : UINT := 0
  top : UINT := 0
  right : UINT := 0
  bottom : UINT := 0
deriving DecidableEq

/-- The slots of an immediate context that these setters write. -/
structure SlotContext where
  constants : ShaderStage → Fin 14 → Option BufferBinding := fun _ _ => none
  vertex : Fin 32 → Option BufferBinding := fun _ => none
  streamOut : Fin 4 → Option BufferBinding := fun _ => none
  viewports : Fin 16 → Option Viewport := fun _ => none
  scissors : Fin 16 → Option ScissorRect := fun _ => none

-- ============================================================================
-- The setters
-- ============================================================================

/-- An array of resource handles: NULL, or the private block behind each index. -/
abbrev BufferHandles := Option (Nat → Option ResourceAddr)

/-- `r ? r->pResource : NULL` for the handle at an index. -/
def BufferHandles.buffer (ph : BufferHandles) (mem : ResourceAddr → Option HostResource)
    (i : Nat) : Option HostResource :=
  (ph.bind fun handles => handles i).bind mem

/-- What the host binds at an index of the array, with the numbers beside it. -/
def hostBinding (a : List (Option HostResource)) (numbers : Nat → List UINT) (i : Nat) :
    Option BufferBinding :=
  a[i]?.join.map fun buffer => { buffer := buffer, numbers := numbers i }

/-- `tritonFillConstantBuffers`: the outer `none` is a write behind the array, the inner
    one the value FALSE. -/
def tritonFillConstantBuffers (mem : ResourceAddr → Option HostResource) (start n : UINT)
    (phB : BufferHandles) (out : List (Option HostResource)) (cap : UINT) :
    Option (Option (List (Option HostResource))) :=
  if cap ≤ start ∨ cap < n ∨ cap < start + n then some none
  else (gather (phB.buffer mem) n.toNat out).map some

/-- The body of `TR_CB_SETTER_10` and `TR_CB_SETTER_11_1`.  The second component is the
    error reported to the runtime. -/
def trCbSetter (stage : ShaderStage) (mem : ResourceAddr → Option HostResource)
    (start n : UINT) (phB : BufferHandles) (numbers : Nat → List UINT) (c : SlotContext) :
    Option (SlotContext × Option HRESULT) := do
  let aB := List.replicate D3D11_COMMONSHADER_CONSTANT_BUFFER_API_SLOT_COUNT.toNat none
  match ← tritonFillConstantBuffers mem start n phB aB
      D3D11_COMMONSHADER_CONSTANT_BUFFER_API_SLOT_COUNT with
  | none => return (c, some E_INVALIDARG)
  | some aB =>
      let slots := writeSlots start.toNat n.toNat (hostBinding aB numbers) (c.constants stage)
      return ({ c with constants := Function.update c.constants stage slots }, none)

/-- `TR_CB_SETTER_10`: whole buffers. -/
def trCbSetter10 (stage : ShaderStage) (mem : ResourceAddr → Option HostResource)
    (start n : UINT) (phB : BufferHandles) :
    SlotContext → Option (SlotContext × Option HRESULT) :=
  trCbSetter stage mem start n phB fun _ => []

/-- `TR_CB_SETTER_11_1`: ranges of constants, where the arrays are not NULL. -/
def trCbSetter11_1 (stage : ShaderStage) (mem : ResourceAddr → Option HostResource)
    (start n : UINT) (phB : BufferHandles) (pFirst pNum : Option (Nat → UINT)) :
    SlotContext → Option (SlotContext × Option HRESULT) :=
  trCbSetter stage mem start n phB fun i =>
    (pFirst.map fun first => first i).toList ++ (pNum.map fun num => num i).toList

def tritonCs_VS_Set10 := trCbSetter10 .vs
def tritonCs_PS_Set10 := trCbSetter10 .ps
def tritonCs_GS_Set10 := trCbSetter10 .gs
def tritonCs_HS_Set10 := trCbSetter10 .hs
def tritonCs_DS_Set10 := trCbSetter10 .ds
def tritonCs_CS_Set10 := trCbSetter10 .cs
def tritonCs_VS_Set11_1 := trCbSetter11_1 .vs
def tritonCs_PS_Set11_1 := trCbSetter11_1 .ps
def tritonCs_GS_Set11_1 := trCbSetter11_1 .gs
def tritonCs_HS_Set11_1 := trCbSetter11_1 .hs
def tritonCs_DS_Set11_1 := trCbSetter11_1 .ds
def tritonCs_CS_Set11_1 := trCbSetter11_1 .cs

def tritonIaSetVertexBuffers (mem : ResourceAddr → Option HostResource)
    (startSlot numBuffers : UINT) (phBuffers : BufferHandles) (pStrides pOffsets : Nat → UINT)
    (c : SlotContext) : Option SlotContext := do
  if D3D11_IA_VERTEX_INPUT_RESOURCE_SLOT_COUNT < numBuffers then return c
  else do
    let aBuf ←
      gather (phBuffers.buffer mem) numBuffers.toNat
        (List.replicate D3D11_IA_VERTEX_INPUT_RESOURCE_SLOT_COUNT.toNat none)
    let bindings := hostBinding aBuf fun i => [pStrides i, pOffsets i]
    return { c with vertex := writeSlots startSlot.toNat numBuffers.toNat bindings c.vertex }

/-- `tritonSoSetTargets`; the host unbinds every target behind the count. -/
def tritonSoSetTargets (mem : ResourceAddr → Option HostResource) (numBuffers _clearTargets : UINT)
    (phBuffers : BufferHandles) (pOffsets : Option (Nat → UINT)) (c : SlotContext) :
    Option SlotContext := do
  if D3D11_SO_BUFFER_SLOT_COUNT < numBuffers then return c
  else do
    let aBuf ←
      gather (phBuffers.buffer mem) numBuffers.toNat
        (List.replicate D3D11_SO_BUFFER_SLOT_COUNT.toNat none)
    let aOff ←
      gather (fun i => pOffsets.elim 0 fun offsets => offsets i) numBuffers.toNat
        (List.replicate D3D11_SO_BUFFER_SLOT_COUNT.toNat 0)
    let bindings := hostBinding aBuf fun i => aOff[i]?.toList
    return { c with streamOut := replaceSlots 0 numBuffers.toNat bindings }

/-- `tritonSetViewports`; the host disables every viewport behind the count. -/
def tritonSetViewports (numViewports _clearViewports : UINT) (pViewports : Nat → Viewport)
    (c : SlotContext) : Option SlotContext := do
  if D3D11_VIEWPORT_AND_SCISSORRECT_OBJECT_COUNT_PER_PIPELINE < numViewports then return c
  else do
    let a ←
      gather pViewports numViewports.toNat
        (List.replicate D3D11_VIEWPORT_AND_SCISSORRECT_OBJECT_COUNT_PER_PIPELINE.toNat {})
    return { c with viewports := replaceSlots 0 numViewports.toNat fun i => a[i]? }

/-- `tritonSetScissorRects`, likewise. -/
def tritonSetScissorRects (numRects _clearRects : UINT) (pRects : Nat → ScissorRect)
    (c : SlotContext) : Option SlotContext := do
  if D3D11_VIEWPORT_AND_SCISSORRECT_OBJECT_COUNT_PER_PIPELINE < numRects then return c
  else do
    let a ←
      gather pRects numRects.toNat
        (List.replicate D3D11_VIEWPORT_AND_SCISSORRECT_OBJECT_COUNT_PER_PIPELINE.toNat {})
    return { c with scissors := replaceSlots 0 numRects.toNat fun i => a[i]? }

-- ============================================================================
-- Calls
-- ============================================================================

/-- The calls; those of constant buffers with the entry point, which is a stage and
    whether ranges of constants are given. -/
inductive SlotCall where
  | constants10 (stage : ShaderStage) (start n : UINT) (phB : BufferHandles)
  | constants11_1 (stage : ShaderStage) (start n : UINT) (phB : BufferHandles)
      (pFirst pNum : Option (Nat → UINT))
  | vertexBuffers (startSlot numBuffers : UINT) (phBuffers : BufferHandles)
      (pStrides pOffsets : Nat → UINT)
  | soTargets (numBuffers clearTargets : UINT) (phBuffers : BufferHandles)
      (pOffsets : Option (Nat → UINT))
  | viewports (numViewports clearViewports : UINT) (pViewports : Nat → Viewport)
  | scissorRects (numRects clearRects : UINT) (pRects : Nat → ScissorRect)

/-- The constant buffer setters of a stage. -/
def ShaderStage.set10 : ShaderStage → (ResourceAddr → Option HostResource) → UINT → UINT →
    BufferHandles → SlotContext → Option (SlotContext × Option HRESULT)
  | .vs => tritonCs_VS_Set10
  | .ps => tritonCs_PS_Set10
  | .gs => tritonCs_GS_Set10
  | .hs => tritonCs_HS_Set10
  | .ds => tritonCs_DS_Set10
  | .cs => tritonCs_CS_Set10

def ShaderStage.set11_1 : ShaderStage → (ResourceAddr → Option HostResource) → UINT → UINT →
    BufferHandles → Option (Nat → UINT) → Option (Nat → UINT) → SlotContext →
    Option (SlotContext × Option HRESULT)
  | .vs => tritonCs_VS_Set11_1
  | .ps => tritonCs_PS_Set11_1
  | .gs => tritonCs_GS_Set11_1
  | .hs => tritonCs_HS_Set11_1
  | .ds => tritonCs_DS_Set11_1
  | .cs => tritonCs_CS_Set11_1

/-- A call, with what the resources' blocks hold then; `none` is a write behind an
    array. -/
def SlotCall.run (mem : ResourceAddr → Option HostResource) (c : SlotContext) :
    SlotCall → Option (SlotContext × Option HRESULT)
  | .constants10 stage start n phB => stage.set10 mem start n phB c
  | .constants11_1 stage start n phB pFirst pNum => stage.set11_1 mem start n phB pFirst pNum c
  | .vertexBuffers startSlot numBuffers phBuffers pStrides pOffsets =>
      (tritonIaSetVertexBuffers mem startSlot numBuffers phBuffers pStrides pOffsets c).map
        (·, none)
  | .soTargets numBuffers clearTargets phBuffers pOffsets =>
      (tritonSoSetTargets mem numBuffers clearTargets phBuffers pOffsets c).map (·, none)
  | .viewports numViewports clearViewports pViewports =>
      (tritonSetViewports numViewports clearViewports pViewports c).map (·, none)
  | .scissorRects numRects clearRects pRects =>
      (tritonSetScissorRects numRects clearRects pRects c).map (·, none)

-- ============================================================================
-- What the calls ask for
-- ============================================================================

/-- The buffer behind a handle, with its numbers. -/
def BufferHandles.binding (ph : BufferHandles) (mem : ResourceAddr → Option HostResource)
    (numbers : Nat → List UINT) (i : Nat) : Option BufferBinding :=
  (ph.buffer mem i).map fun buffer => { buffer := buffer, numbers := numbers i }

/-- Constant buffers in a range of slots there are; any other range is refused. -/
def SlotContext.setConstants (c : SlotContext) (stage : ShaderStage) (start n : Nat)
    (bindings : Nat → Option BufferBinding) : SlotContext × Option HRESULT :=
  if start < 14 ∧ start + n ≤ 14 then
    ({ c with
        constants := Function.update c.constants stage
          (writeSlots start n bindings (c.constants stage)) },
      none)
  else (c, some E_INVALIDARG)

/-- The call as the DDI describes it, with its clear counts. -/
def SlotCall.asks (mem : ResourceAddr → Option HostResource) (c : SlotContext) :
    SlotCall → SlotContext × Option HRESULT
  | .constants10 stage start n phB =>
      c.setConstants stage start.toNat n.toNat (phB.binding mem fun _ => [])
  | .constants11_1 stage start n phB pFirst pNum =>
      c.setConstants stage start.toNat n.toNat (phB.binding mem fun i =>
        (pFirst.map fun first => first i).toList ++ (pNum.map fun num => num i).toList)
  | .vertexBuffers startSlot numBuffers phBuffers pStrides pOffsets =>
      ({ c with
          vertex := writeSlots startSlot.toNat numBuffers.toNat
            (phBuffers.binding mem fun i => [pStrides i, pOffsets i]) c.vertex },
        none)
  | .soTargets numBuffers clearTargets phBuffers pOffsets =>
      ({ c with
          streamOut := writeAndClear numBuffers.toNat clearTargets.toNat
            (phBuffers.binding mem fun i => [pOffsets.elim 0 fun offsets => offsets i])
            c.streamOut },
        none)
  | .viewports numViewports clearViewports pViewports =>
      ({ c with
          viewports := writeAndClear numViewports.toNat clearViewports.toNat
            (fun i => some (pViewports i)) c.viewports },
        none)
  | .scissorRects numRects clearRects pRects =>
      ({ c with
          scissors := writeAndClear numRects.toNat clearRects.toNat
            (fun i => some (pRects i)) c.scissors },
        none)

/-- What the runtime keeps to: no more slots than there are, and every slot in use that
    a call does not set is one it clears. -/
def SlotCall.Legal (c : SlotContext) : SlotCall → Prop
  | .constants10 .. | .constants11_1 .. => True
  | .vertexBuffers startSlot numBuffers .. => startSlot.toNat + numBuffers.toNat ≤ 32
  | .soTargets numBuffers clearTargets .. =>
      numBuffers.toNat ≤ 4 ∧
        ∀ slot : Fin 4, numBuffers.toNat + clearTargets.toNat ≤ slot.val → c.streamOut slot = none
  | .viewports numViewports clearViewports _ =>
      numViewports.toNat ≤ 16 ∧
        ∀ slot : Fin 16, numViewports.toNat + clearViewports.toNat ≤ slot.val →
          c.viewports slot = none
  | .scissorRects numRects clearRects _ =>
      numRects.toNat ≤ 16 ∧
        ∀ slot : Fin 16, numRects.toNat + clearRects.toNat ≤ slot.val → c.scissors slot = none

-- ============================================================================
-- A call does what it asks for
-- ============================================================================

section OneCall

variable (mem : ResourceAddr → Option HostResource) (c : SlotContext)

/-- The gathered array holds the buffers behind the handles. -/
theorem hostBinding_gathered {ph : BufferHandles} (numbers : Nat → List UINT) {n : Nat}
    {a : List (Option HostResource)} (h : ∀ i < n, a[i]? = some (ph.buffer mem i)) :
    ∀ i < n, hostBinding a numbers i = ph.binding mem numbers i := by
  intro i hi
  rw [hostBinding, h i hi]
  rfl

/-- The check of `tritonFillConstantBuffers` is exact: its sum does not wrap once the
    comparisons before it have passed. -/
theorem constants_refused_iff (start n : UINT) :
    ((14 : UINT) ≤ start ∨ 14 < n ∨ 14 < start + n) ↔
      ¬(start.toNat < 14 ∧ start.toNat + n.toNat ≤ 14) := by
  have h14 : (14 : UINT).toNat = 14 := rfl
  rw [BitVec.le_def, BitVec.lt_def, BitVec.lt_def, BitVec.toNat_add, h14]
  omega

/-- A range of constant buffers is bound as it is, or refused and nothing changes. -/
theorem trCbSetter_eq (stage : ShaderStage) (start n : UINT) (phB : BufferHandles)
    (numbers : Nat → List UINT) :
    trCbSetter stage mem start n phB numbers c =
      some (c.setConstants stage start.toNat n.toNat (phB.binding mem numbers)) := by
  by_cases hfits : start.toNat < 14 ∧ start.toNat + n.toNat ≤ 14
  · have hcheck : ¬(D3D11_COMMONSHADER_CONSTANT_BUFFER_API_SLOT_COUNT ≤ start ∨
        D3D11_COMMONSHADER_CONSTANT_BUFFER_API_SLOT_COUNT < n ∨
        D3D11_COMMONSHADER_CONSTANT_BUFFER_API_SLOT_COUNT < start + n) :=
      fun h => (constants_refused_iff start n).mp h hfits
    have hroom : n.toNat ≤ D3D11_COMMONSHADER_CONSTANT_BUFFER_API_SLOT_COUNT.toNat :=
      Nat.le_trans (Nat.le_add_left _ _) hfits.2
    obtain ⟨a, hgather, hwritten⟩ := gather_replicate (phB.buffer mem) none hroom
    rw [trCbSetter, tritonFillConstantBuffers, if_neg hcheck, hgather, SlotContext.setConstants,
      if_pos hfits, ← writeSlots_congr (hostBinding_gathered mem numbers hwritten)]
    rfl
  · have hcheck : D3D11_COMMONSHADER_CONSTANT_BUFFER_API_SLOT_COUNT ≤ start ∨
        D3D11_COMMONSHADER_CONSTANT_BUFFER_API_SLOT_COUNT < n ∨
        D3D11_COMMONSHADER_CONSTANT_BUFFER_API_SLOT_COUNT < start + n :=
      (constants_refused_iff start n).mpr hfits
    rw [trCbSetter, tritonFillConstantBuffers, if_pos hcheck, SlotContext.setConstants,
      if_neg hfits]
    rfl

theorem tritonIaSetVertexBuffers_eq {startSlot numBuffers : UINT} {phBuffers : BufferHandles}
    {pStrides pOffsets : Nat → UINT} (hfits : numBuffers.toNat ≤ 32) :
    tritonIaSetVertexBuffers mem startSlot numBuffers phBuffers pStrides pOffsets c =
      some { c with
        vertex := writeSlots startSlot.toNat numBuffers.toNat
          (phBuffers.binding mem fun i => [pStrides i, pOffsets i]) c.vertex } := by
  have hcheck : ¬D3D11_IA_VERTEX_INPUT_RESOURCE_SLOT_COUNT < numBuffers := by
    rw [BitVec.lt_def]
    exact Nat.not_lt.mpr hfits
  have hroom : numBuffers.toNat ≤ D3D11_IA_VERTEX_INPUT_RESOURCE_SLOT_COUNT.toNat := hfits
  obtain ⟨a, hgather, hwritten⟩ := gather_replicate (phBuffers.buffer mem) none hroom
  rw [tritonIaSetVertexBuffers, if_neg hcheck, hgather,
    ← writeSlots_congr (hostBinding_gathered mem _ hwritten)]
  rfl

/-- The targets behind the count need not be named: the host unbinds them. -/
theorem tritonSoSetTargets_eq {numBuffers clearTargets : UINT} {phBuffers : BufferHandles}
    {pOffsets : Option (Nat → UINT)} (hfits : numBuffers.toNat ≤ 4) :
    tritonSoSetTargets mem numBuffers clearTargets phBuffers pOffsets c =
      some { c with
        streamOut := replaceSlots 0 numBuffers.toNat
          (phBuffers.binding mem fun i => [pOffsets.elim 0 fun offsets => offsets i]) } := by
  have hcheck : ¬D3D11_SO_BUFFER_SLOT_COUNT < numBuffers := by
    rw [BitVec.lt_def]
    exact Nat.not_lt.mpr hfits
  have hroom : numBuffers.toNat ≤ D3D11_SO_BUFFER_SLOT_COUNT.toNat := hfits
  obtain ⟨aBuf, hbuffers, hbuf⟩ := gather_replicate (phBuffers.buffer mem) none hroom
  obtain ⟨aOff, hoffsets, hoff⟩ :=
    gather_replicate (fun i => pOffsets.elim 0 fun offsets => offsets i) 0 hroom
  have hbinding : ∀ i < numBuffers.toNat, hostBinding aBuf (fun i => aOff[i]?.toList) i =
      phBuffers.binding mem (fun i => [pOffsets.elim 0 fun offsets => offsets i]) i := by
    intro i hi
    rw [hostBinding_gathered mem _ hbuf i hi, BufferHandles.binding, BufferHandles.binding,
      hoff i hi]
    rfl
  rw [tritonSoSetTargets, if_neg hcheck, hbuffers, hoffsets, replaceSlots,
    ← writeSlots_congr hbinding]
  rfl

theorem tritonSetViewports_eq {numViewports clearViewports : UINT} {pViewports : Nat → Viewport}
    (hfits : numViewports.toNat ≤ 16) :
    tritonSetViewports numViewports clearViewports pViewports c =
      some { c with
        viewports := replaceSlots 0 numViewports.toNat fun i => some (pViewports i) } := by
  have hcheck : ¬D3D11_VIEWPORT_AND_SCISSORRECT_OBJECT_COUNT_PER_PIPELINE < numViewports := by
    rw [BitVec.lt_def]
    exact Nat.not_lt.mpr hfits
  have hroom :
      numViewports.toNat ≤ D3D11_VIEWPORT_AND_SCISSORRECT_OBJECT_COUNT_PER_PIPELINE.toNat := hfits
  obtain ⟨a, hgather, hwritten⟩ := gather_replicate pViewports {} hroom
  rw [tritonSetViewports, if_neg hcheck, hgather, replaceSlots, ← writeSlots_congr hwritten]
  rfl

theorem tritonSetScissorRects_eq {numRects clearRects : UINT} {pRects : Nat → ScissorRect}
    (hfits : numRects.toNat ≤ 16) :
    tritonSetScissorRects numRects clearRects pRects c =
      some { c with scissors := replaceSlots 0 numRects.toNat fun i => some (pRects i) } := by
  have hcheck : ¬D3D11_VIEWPORT_AND_SCISSORRECT_OBJECT_COUNT_PER_PIPELINE < numRects := by
    rw [BitVec.lt_def]
    exact Nat.not_lt.mpr hfits
  have hroom :
      numRects.toNat ≤ D3D11_VIEWPORT_AND_SCISSORRECT_OBJECT_COUNT_PER_PIPELINE.toNat := hfits
  obtain ⟨a, hgather, hwritten⟩ := gather_replicate pRects {} hroom
  rw [tritonSetScissorRects, if_neg hcheck, hgather, replaceSlots, ← writeSlots_congr hwritten]
  rfl

/-- A call of a runtime that keeps to the slots there are does what it asks for. -/
theorem SlotCall.run_eq_asks (call : SlotCall) (hlegal : call.Legal c) :
    call.run mem c = some (call.asks mem c) := by
  cases call with
  | constants10 stage start n phB =>
      have h := trCbSetter_eq mem c stage start n phB fun _ => []
      cases stage <;> exact h
  | constants11_1 stage start n phB pFirst pNum =>
      have h := trCbSetter_eq mem c stage start n phB fun i =>
        (pFirst.map fun first => first i).toList ++ (pNum.map fun num => num i).toList
      cases stage <;> exact h
  | vertexBuffers startSlot numBuffers phBuffers pStrides pOffsets =>
      have hcount : startSlot.toNat + numBuffers.toNat ≤ 32 := hlegal
      rw [SlotCall.run, tritonIaSetVertexBuffers_eq mem c (by omega)]
      rfl
  | soTargets numBuffers clearTargets phBuffers pOffsets =>
      rw [SlotCall.run, tritonSoSetTargets_eq mem c hlegal.1, SlotCall.asks,
        writeAndClear_eq_replace _ hlegal.2]
      rfl
  | viewports numViewports clearViewports pViewports =>
      rw [SlotCall.run, tritonSetViewports_eq c hlegal.1, SlotCall.asks,
        writeAndClear_eq_replace _ hlegal.2]
      rfl
  | scissorRects numRects clearRects pRects =>
      rw [SlotCall.run, tritonSetScissorRects_eq c hlegal.1, SlotCall.asks,
        writeAndClear_eq_replace _ hlegal.2]
      rfl

/-- A setter without an error to report, once it is known to write no memory but its
    array's. -/
theorem noError {r : Option SlotContext} (h : ∃ c', r = some c') :
    ∃ c' error, r.map (·, (none : Option HRESULT)) = some (c', error) ∧
      (error ≠ none → c' = c) := by
  obtain ⟨c', rfl⟩ := h
  exact ⟨c', none, rfl, fun herror => absurd rfl herror⟩

/-- An error leaves the slots as they are. -/
theorem SlotContext.setConstants_error (c : SlotContext) (stage : ShaderStage) (start n : Nat)
    (bindings : Nat → Option BufferBinding) :
    (c.setConstants stage start n bindings).2 ≠ none →
      (c.setConstants stage start n bindings).1 = c := by
  intro herror
  rw [SlotContext.setConstants] at herror ⊢
  by_cases hfits : start < 14 ∧ start + n ≤ 14
  · rw [if_pos hfits] at herror
    exact absurd rfl herror
  · rw [if_neg hfits]

/-- No call, legal or not, writes behind its array; one that reports an error changes
    nothing. -/
theorem SlotCall.run_safe (call : SlotCall) :
    ∃ c' error, call.run mem c = some (c', error) ∧ (error ≠ none → c' = c) := by
  cases call with
  | constants10 stage start n phB =>
      have hrun := SlotCall.run_eq_asks mem c (.constants10 stage start n phB) trivial
      exact ⟨_, _, hrun, c.setConstants_error _ _ _ _⟩
  | constants11_1 stage start n phB pFirst pNum =>
      have hrun :=
        SlotCall.run_eq_asks mem c (.constants11_1 stage start n phB pFirst pNum) trivial
      exact ⟨_, _, hrun, c.setConstants_error _ _ _ _⟩
  | vertexBuffers startSlot numBuffers phBuffers pStrides pOffsets =>
      apply noError c
      by_cases hfits : numBuffers.toNat ≤ 32
      · exact ⟨_, tritonIaSetVertexBuffers_eq mem c hfits⟩
      · exact ⟨c, if_pos (BitVec.lt_def.mpr (Nat.not_le.mp hfits))⟩
  | soTargets numBuffers clearTargets phBuffers pOffsets =>
      apply noError c
      by_cases hfits : numBuffers.toNat ≤ 4
      · exact ⟨_, tritonSoSetTargets_eq mem c hfits⟩
      · exact ⟨c, if_pos (BitVec.lt_def.mpr (Nat.not_le.mp hfits))⟩
  | viewports numViewports clearViewports pViewports =>
      apply noError c
      by_cases hfits : numViewports.toNat ≤ 16
      · exact ⟨_, tritonSetViewports_eq c hfits⟩
      · exact ⟨c, if_pos (BitVec.lt_def.mpr (Nat.not_le.mp hfits))⟩
  | scissorRects numRects clearRects pRects =>
      apply noError c
      by_cases hfits : numRects.toNat ≤ 16
      · exact ⟨_, tritonSetScissorRects_eq c hfits⟩
      · exact ⟨c, if_pos (BitVec.lt_def.mpr (Nat.not_le.mp hfits))⟩

end OneCall

-- ============================================================================
-- Runs
-- ============================================================================

/-- The host's slots, and those of the DDI's own account. -/
structure SlotSession where
  host : SlotContext
  ddi : SlotContext

/-- A device that has just been made: nothing is bound. -/
def SlotSession.Initial (s : SlotSession) : Prop :=
  s.host = {} ∧ s.ddi = {}

/-- A legal call that returns, with whatever the resources' blocks hold then. -/
inductive SlotSession.Step : SlotSession → SlotSession → Prop where
  | call {s : SlotSession} (mem : ResourceAddr → Option HostResource) (call : SlotCall)
      (hlegal : call.Legal s.ddi) {host : SlotContext} {error : Option HRESULT}
      (hrun : call.run mem s.host = some (host, error)) :
      Step s { host := host, ddi := (call.asks mem s.ddi).1 }

theorem SlotSession.agree_step {s s' : SlotSession} (hagree : s.host = s.ddi)
    (hstep : SlotSession.Step s s') : s'.host = s'.ddi := by
  cases hstep with
  | call mem call hlegal hrun =>
      rw [hagree, call.run_eq_asks mem _ hlegal] at hrun
      exact (congrArg Prod.fst (Option.some.inj hrun)).symm

/-- After every run of legal calls the host has bound what the DDI says; the next call,
    of any arguments, stays inside its arrays and changes nothing when it reports an
    error, and a legal one reports an error exactly when the DDI refuses it. -/
theorem slots_asDescribed {s : SlotSession} (h : Reach SlotSession.Initial SlotSession.Step s)
    (mem : ResourceAddr → Option HostResource) (call : SlotCall) :
    s.host = s.ddi ∧
      ∃ host error, call.run mem s.host = some (host, error) ∧ (error ≠ none → host = s.host) ∧
        (call.Legal s.ddi → (host, error) = call.asks mem s.ddi) := by
  have hagree : s.host = s.ddi := by
    refine Reach.invariant (fun s => s.host = s.ddi) ?_ (fun _ _ => SlotSession.agree_step) h
    rintro ⟨host, ddi⟩ ⟨rfl, rfl⟩
    rfl
  obtain ⟨host, error, hrun, hkept⟩ := call.run_safe mem s.host
  refine ⟨hagree, host, error, hrun, hkept, fun hlegal => ?_⟩
  rw [hagree, call.run_eq_asks mem _ hlegal] at hrun
  exact (Option.some.inj hrun).symm

/-- Two viewports and two targets, then one of each with the second one cleared, then
    constant buffers behind the last slot. -/
theorem slots_asDescribed_cleared :
    ∃ s, Reach SlotSession.Initial SlotSession.Step s ∧
      s.host.viewports 0 = some {} ∧ s.host.viewports 1 = none ∧
      s.host.streamOut 0 = some { buffer := ⟨7⟩, numbers := [8] } ∧ s.host.streamOut 1 = none ∧
      (SlotCall.constants10 .ps 13 2 none).run (some ⟨·⟩) s.host =
        some (s.host, some E_INVALIDARG) := by
  have h₀ : Reach SlotSession.Initial SlotSession.Step { host := {}, ddi := {} } :=
    .init ⟨rfl, rfl⟩
  have h₁ := h₀.step (.call (some ⟨·⟩) (.viewports 2 0 fun _ => {})
    ⟨by decide, fun _ _ => rfl⟩ (SlotCall.run_eq_asks _ _ _ ⟨by decide, fun _ _ => rfl⟩))
  have h₂ := h₁.step (.call (some ⟨·⟩) (.soTargets 2 0 (some fun _ => some 7) (some fun _ => 8))
    ⟨by decide, fun _ _ => rfl⟩ (SlotCall.run_eq_asks _ _ _ ⟨by decide, fun _ _ => rfl⟩))
  have h₃ := h₂.step (.call (some ⟨·⟩) (.viewports 1 1 fun _ => {})
    ⟨by decide, by decide⟩ (SlotCall.run_eq_asks _ _ _ ⟨by decide, by decide⟩))
  have h₄ := h₃.step (.call (some ⟨·⟩) (.soTargets 1 1 (some fun _ => some 7) (some fun _ => 8))
    ⟨by decide, by decide⟩ (SlotCall.run_eq_asks _ _ _ ⟨by decide, by decide⟩))
  obtain ⟨-, host, error, hrun, -, hasks⟩ :=
    slots_asDescribed h₄ (some ⟨·⟩) (.constants10 .ps 13 2 none)
  exact ⟨_, h₄, rfl, rfl, rfl, rfl, hrun.trans (congrArg some (hasks trivial))⟩

end VirtioWddm
