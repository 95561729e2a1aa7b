/-
  VirtioWddm.Dxgi.Display

  Which resources Present and SetDisplayMode can be handed, over whole runs of
  CreateResource, RotateResourceIdentities and DestroyResource.

  A rotation moves the flags of a resource and the allocation it records together,
  so what a successful CreateResource call establishes for its own resource
  (`Displayable`) stays true of the identity, wherever it goes.
-/

import VirtioWddm.Dxgi.Present
import VirtioWddm.Dxgi.Rotate
import VirtioWddm.Resource.Primary

namespace VirtioWddm

open Lib

-- ============================================================================
-- The system
-- ============================================================================

/-- A CreateResource call: its arguments and its events. -/
structure Creation where
  pArgs : CreateResourceArgs
  trace : List Event

/-- The driver's memory, the resources the runtime may still destroy, which of them
    were created without an error, and the call that made the identity of each. -/
structure DisplayWorld where
  heap : Heap
  alive : ResourceAddr → Prop
  succeeded : ResourceAddr → Prop
  madeBy : ResourceAddr → Creation

namespace DisplayWorld

variable (w : DisplayWorld)

/-- After CreateResource on `slot`; a call that reported an error may leave the
    runtime without the resource (`kept = false`). -/
def created (slot : ResourceAddr) (pArgs : CreateResourceArgs) (r : VirtioWddmResource)
    (kept : Bool) (s : CallState) : DisplayWorld where
  heap := w.heap.setResource slot r
  alive := fun r' => if r' = slot then kept = true else w.alive r'
  succeeded := fun r' => if r' = slot then ∀ hr, .setError hr ∉ s.trace else w.succeeded r'
  madeBy := Function.update w.madeBy slot { pArgs := pArgs, trace := s.trace }

/-- After a rotation of `slots`: the call that made an identity moves with it. -/
def rotated (slots : List ResourceAddr) (heap : Heap) : DisplayWorld :=
  { w with heap := heap, madeBy := shift (Split.whole Creation).take slots w.madeBy }

/-- After DestroyResource on `slot`. -/
def destroyed (slot : ResourceAddr) (r : VirtioWddmResource) : DisplayWorld :=
  { w with heap := w.heap.setResource slot r, alive := fun r' => r' ≠ slot ∧ w.alive r' }

end DisplayWorld

/-- One call, on whatever the thread-local slots hold and with any hook traffic.
    `hRTResource` is non-NULL, and a `pfnAllocateCb` that succeeds hands out a
    handle. -/
inductive DisplayStep (w : DisplayWorld) : DisplayWorld → Prop where
  | createResource (env : DeviceEnv) (pArgs : CreateResourceArgs) (hRTResource : HANDLE)
      (slot : ResourceAddr) (hfree : ¬w.alive slot) (hRT : hRTResource ≠ 0)
      (hhandle : failed env.allocate.hr = false → env.allocate.hAllocation ≠ 0)
      (record : RuntimeAllocRecord) (scope : RuntimeAllocScope) (s' : CallState)
      (r : VirtioWddmResource)
      (hrun : Runs (virtioWddmCreateResource env pArgs hRTResource)
        { lastRuntimeAlloc := record, runtimeAllocScope := scope } r s')
      (kept : Bool) (hkept : kept = false → ∃ hr, .setError hr ∈ s'.trace) :
      DisplayStep w (w.created slot pArgs r kept s')
  | rotateResourceIdentities (d3d11 : Bool) (host : Nat → HostViewReply) (fuel : Nat)
      (slots : List ResourceAddr) (hdistinct : slots.Nodup)
      (hlive : ∀ r ∈ slots, w.alive r ∧ w.succeeded r) (res : RotateResult)
      (hrun : virtioWddmRotateResourceIdentities d3d11 host fuel slots w.heap = some res) :
      DisplayStep w (w.rotated slots res.heap)
  | destroyResource (env : DeviceEnv) (slot : ResourceAddr) (halive : w.alive slot)
      (record : RuntimeAllocRecord) (scope : RuntimeAllocScope) (s' : CallState)
      (r : VirtioWddmResource)
      (hrun : Runs (virtioWddmDestroyResource env (w.heap.resources slot))
        { lastRuntimeAlloc := record, runtimeAllocScope := scope } r s') :
      DisplayStep w (w.destroyed slot r)

/-- Before the first call. -/
def DisplayWorld.Initial (w : DisplayWorld) : Prop :=
  ∀ r, ¬w.alive r

-- ============================================================================
-- The invariant
-- ============================================================================

/-- Every living resource that was created without an error is what its creation
    made it. -/
def AllDisplayable (w : DisplayWorld) : Prop :=
  ∀ r, w.alive r → w.succeeded r →
    Displayable (w.madeBy r).pArgs (w.madeBy r).trace (w.heap.resources r)

namespace AllDisplayable

variable {w : DisplayWorld}

theorem created (h : AllDisplayable w) {slot : ResourceAddr} {pArgs : CreateResourceArgs}
    {r : VirtioWddmResource} {s : CallState} (kept : Bool)
    (hnew : (∀ hr, .setError hr ∉ s.trace) → Displayable pArgs s.trace r) :
    AllDisplayable (w.created slot pArgs r kept s) := by
  intro r' halive hsucc
  by_cases hslot : r' = slot
  · subst hslot
    have hmade : (w.created r' pArgs r kept s).madeBy r' = { pArgs := pArgs, trace := s.trace } :=
      Function.update_self ..
    have hblock : (w.created r' pArgs r kept s).heap.resources r' = r := Function.update_self ..
    rw [hmade, hblock]
    exact hnew (by simpa [DisplayWorld.created] using hsucc)
  · have hmade : (w.created slot pArgs r kept s).madeBy r' = w.madeBy r' :=
      Function.update_of_ne hslot ..
    have hblock : (w.created slot pArgs r kept s).heap.resources r' = w.heap.resources r' :=
      Function.update_of_ne hslot ..
    rw [hmade, hblock]
    refine h r' ?_ ?_
    · simpa [DisplayWorld.created, hslot] using halive
    · simpa [DisplayWorld.created, hslot] using hsucc

/-- Flags, allocation and creation move together. -/
theorem rotated (h : AllDisplayable w) {d3d11 : Bool} {host : Nat → HostViewReply} {fuel : Nat}
    {slots : List ResourceAddr} (hdistinct : slots.Nodup)
    (hlive : ∀ r ∈ slots, w.alive r ∧ w.succeeded r) {res : RotateResult}
    (hrun : virtioWddmRotateResourceIdentities d3d11 host fuel slots w.heap = some res) :
    AllDisplayable (w.rotated slots res.heap) := by
  intro r halive hsucc
  have hblock : (w.rotated slots res.heap).heap.resources r =
      takeIdentity (w.heap.resources r) (w.heap.resources (slots.formPerm r)) :=
    rotate_formPerm hdistinct hrun r
  have hmade : (w.rotated slots res.heap).madeBy r = w.madeBy (slots.formPerm r) :=
    (Split.whole Creation).shift_eq_formPerm hdistinct w.madeBy r
  obtain ⟨halive', hsucc'⟩ :=
    (Split.formPerm_iff hlive r).mpr ⟨halive, hsucc⟩
  rw [hblock, hmade]
  have hold := h _ halive' hsucc'
  exact hold.of_base (fun _ he => he) rfl rfl rfl

theorem destroyed (h : AllDisplayable w) (slot : ResourceAddr) (r : VirtioWddmResource) :
    AllDisplayable (w.destroyed slot r) := by
  intro r' halive hsucc
  have hblock : (w.destroyed slot r).heap.resources r' = w.heap.resources r' :=
    Function.update_of_ne halive.1 ..
  rw [hblock]
  exact h r' halive.2 hsucc

/-- Every call keeps the invariant. -/
theorem step (h : AllDisplayable w) {w' : DisplayWorld} (hstep : DisplayStep w w') :
    AllDisplayable w' := by
  cases hstep with
  | createResource env pArgs hRTResource slot hfree hRT hhandle record scope s' r hrun kept hkept =>
      have hcreate := runs_virtioWddmCreateResource hrun
      exact h.created kept fun hok => hcreate.displayable hRT hhandle hok
  | rotateResourceIdentities d3d11 host fuel slots hdistinct hlive res hrun =>
      exact h.rotated hdistinct hlive hrun
  | destroyResource env slot halive record scope s' r hrun =>
      exact h.destroyed slot r

end AllDisplayable

theorem allDisplayable_of_reach {w : DisplayWorld}
    (h : Reach DisplayWorld.Initial DisplayStep w) : AllDisplayable w := by
  refine Reach.invariant AllDisplayable ?_ ?_ h
  · intro w hw r hr
    exact absurd hr (hw r)
  · intro w w' hw hstep
    exact hw.step hstep

-- ============================================================================
-- Every run
-- ============================================================================

/-- In every run, a living resource that was created without an error: if it is
    flagged for presentation it records an allocation, and Present returns; if it is
    presentable, SetDisplayMode is handed an allocation that was requested as a
    primary with the mode of the primary description of the call that made it. -/
theorem primary_invariant {w : DisplayWorld} (h : Reach DisplayWorld.Initial DisplayStep w)
    {r : ResourceAddr} (halive : w.alive r) (hsucc : w.succeeded r) :
    (hasFlag (w.heap.resources r).base.bindFlags D3D10_DDI_BIND_PRESENT = true →
      (w.heap.resources r).base.hKMAllocation ≠ 0 ∧
      ∀ env, Total (virtioWddmPresent env (w.heap.resources r) 0)) ∧
    ((w.heap.resources r).base.isPresentable = true →
      (∃ primaryDesc, (w.madeBy r).pArgs.pPrimaryDesc = some primaryDesc ∧
        RequestedAsPrimary (w.madeBy r).trace primaryDesc
          (w.heap.resources r).base.hKMAllocation) ∧
      ∀ env s, ∃ hr s', Runs (virtioWddmSetDisplayMode env (w.heap.resources r)) s hr s' ∧
        s'.trace = s.trace ++
          [.setDisplayModeCb (w.heap.resources r).base.hKMAllocation env.setDisplayModeHr]) := by
  have hdisplay := allDisplayable_of_reach h r halive hsucc
  refine ⟨fun hpresent => ?_, fun hpresentable => ?_⟩
  · have hne := hdisplay.present hpresent
    exact ⟨hne, fun env => total_virtioWddmPresent env hne⟩
  · obtain ⟨hne, hprimary⟩ := hdisplay.primary hpresentable
    refine ⟨hprimary, fun env s => ?_⟩
    exact ⟨_, _, runs_virtioWddmSetDisplayMode.mpr ⟨hne, hpresentable, rfl, rfl⟩, rfl⟩

/-- A primary of 60 Hz on the second VidPn source. -/
def primaryArgs : CreateResourceArgs :=
  { presentArgs with
    pPrimaryDesc := some { vidPnSourceId := 1, refreshNumerator := 60, refreshDenominator := 1 } }

/-- What CreateResource leaves for it on a native-context adapter whose ICD retries a
    failed allocation. -/
def primaryCreated : VirtioWddmResource × CallState :=
  (virtioWddmCreateResource (.allOk true (.other 0) retryHooks) primaryArgs 5 {}).toOption.getD
    ({}, {})

/-- Before the first call, with cleared memory. -/
def emptyDisplay : DisplayWorld where
  heap := { resources := fun _ => {}, views := (sampleHeap 0).views }
  alive := fun _ => False
  succeeded := fun _ => False
  madeBy := fun _ => { pArgs := primaryArgs, trace := [] }

/-- The display after that call. -/
def primaryDisplay : DisplayWorld :=
  emptyDisplay.created 1 primaryArgs primaryCreated.1 true primaryCreated.2

/-- The buffer made through the hook is displayable, with the mode of its call. -/
theorem primary_invariant_hook :
    (primaryDisplay.heap.resources 1).base.hKMAllocation = 0x30 ∧
    (∀ env, Total (virtioWddmPresent env (primaryDisplay.heap.resources 1) 0)) ∧
    ∃ primaryDesc, primaryArgs.pPrimaryDesc = some primaryDesc ∧
      RequestedAsPrimary primaryCreated.2.trace primaryDesc 0x30 := by
  have hrun : Runs (virtioWddmCreateResource (.allOk true (.other 0) retryHooks) primaryArgs 5) {}
      primaryCreated.1 primaryCreated.2 := rfl
  have hreach : Reach DisplayWorld.Initial DisplayStep primaryDisplay :=
    .step (.init fun _ => id) (.createResource _ _ _ 1 id (by decide) (fun _ => by decide) _ _ _ _
      hrun true (by simp))
  have hok : primaryDisplay.succeeded 1 := no_error_of_all rfl
  obtain ⟨hpresent, hprimary⟩ := primary_invariant hreach (r := 1) rfl hok
  exact ⟨rfl, (hpresent rfl).2, (hprimary rfl).1⟩

end VirtioWddm
