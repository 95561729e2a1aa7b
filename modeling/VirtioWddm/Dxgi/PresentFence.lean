/-
  VirtioWddm.Dxgi.PresentFence

  Any number of Present and Blt calls at once on one device.

  Each call takes the steps of `virtio_wddm_sync_with_present_context`; taking a
  fence value is one atomic step, handing it to `Signal` is another, and the calls
  interleave freely.  The values are handed out in order, so they reach the fence
  in order exactly when the calls do.
-/

import Mathlib.Algebra.Group.Nat.Defs
import Mathlib.Data.List.Induction
import Mathlib.Data.List.Perm.Subperm
import Mathlib.Data.List.Sort
import Mathlib.Logic.Function.Basic
import VirtioWddm.Dxgi.Present

namespace VirtioWddm

open Lib

-- ============================================================================
-- One call, step by step
-- ============================================================================

/-- Where a call stands in `virtio_wddm_sync_with_present_context`. -/
inductive SyncPoint where
  | start
  | fetched (value : UINT64)
  | signalled (value : UINT64)
  | flushed (value : UINT64)
  | eventCreated (value : UINT64)
  | armed
  | done (hr : HRESULT)

def DxgiState.log (s : DxgiState) (events : List DxgiEvent) : DxgiState :=
  { s with trace := s.trace ++ events }

/-- The next step of a call. -/
def syncStep (env : DxgiEnv) (s : DxgiState) : SyncPoint → SyncPoint × DxgiState
  | .start =>
      (.fetched s.presentFenceValue, { s with presentFenceValue := s.presentFenceValue + 1 })
  | .fetched value =>
      (if failed env.signalHr then .done env.signalHr else .signalled value,
        s.log [.signal value env.signalHr])
  | .signalled value => (.flushed value, s.log [.flush])
  | .flushed value =>
      (match env.createEvent with
        | .error lastError => .done (hresultFromWin32 lastError)
        | .ok _ => .eventCreated value,
        s.log [.createEvent env.createEvent])
  | .eventCreated value =>
      if failed env.setEventHr then
        (.done env.setEventHr, s.log [.setEventOnCompletion value env.setEventHr, .closeHandle])
      else
        (.armed, s.log [.setEventOnCompletion value env.setEventHr])
  | .armed =>
      (.done (if env.wait ≠ WAIT_OBJECT_0 then E_FAIL else S_OK),
        s.log [.waitForSingleObject 10000 env.wait, .closeHandle])
  | .done hr => (.done hr, s)

/-- `n` steps of a call that nothing interrupts. -/
def syncSteps (env : DxgiEnv) : Nat → SyncPoint × DxgiState → SyncPoint × DxgiState
  | 0, p => p
  | n + 1, p => syncSteps env n (syncStep env p.2 p.1)

/-- Undisturbed, the steps do what `virtio_wddm_sync_with_present_context` does. -/
theorem runs_sync_iff_syncSteps {env : DxgiEnv} {s s' : DxgiState} {hr : HRESULT} :
    Runs (virtioWddmSyncWithPresentContext env) s hr s' ↔
      syncSteps env 6 (.start, s) = (.done hr, s') := by
  by_cases hsignal : failed env.signalHr = true
  · simp [virtioWddmSyncWithPresentContext, emitDxgi, syncSteps, syncStep, DxgiState.log, hsignal,
      eq_comm]
  · cases hevent : env.createEvent with
    | error lastError =>
        simp [virtioWddmSyncWithPresentContext, emitDxgi, syncSteps, syncStep, DxgiState.log,
          hsignal, hevent, eq_comm]
    | ok u =>
        by_cases harm : failed env.setEventHr = true
        · simp [virtioWddmSyncWithPresentContext, emitDxgi, syncSteps, syncStep, DxgiState.log,
            hsignal, hevent, harm, eq_comm]
        · by_cases hwait : env.wait = WAIT_OBJECT_0
          · simp [virtioWddmSyncWithPresentContext, emitDxgi, syncSteps, syncStep, DxgiState.log,
              hsignal, hevent, harm, hwait, eq_comm]
          · simp [virtioWddmSyncWithPresentContext, emitDxgi, syncSteps, syncStep, DxgiState.log,
              hsignal, hevent, harm, hwait, eq_comm]

-- ============================================================================
-- The calls that synchronise
-- ============================================================================

@[simp] theorem runs_emitDxgi {e : DxgiEvent} {s s' : DxgiState} {u : Unit} :
    Runs (emitDxgi e) s u s' ↔ s' = s.log [e] := by
  simp [emitDxgi, DxgiState.log]

@[simp] theorem runs_assertDxgi {cond : Bool} {expr : String} {s s' : DxgiState} {u : Unit} :
    Runs (assertDxgi cond expr) s u s' ↔ cond = true ∧ s' = s := by
  cases cond <;> simp [assertDxgi]

/-- A check of a result that changes nothing decides only what is returned. -/
theorem returned_iff {c : Prop} [Decidable c] {hr hr₁ hr₂ : HRESULT} {s s' : DxgiState} :
    (if c then hr = hr₁ ∧ s' = s else hr = hr₂ ∧ s' = s) ↔
      hr = (if c then hr₁ else hr₂) ∧ s' = s := by
  split <;> rfl

/-- A Present that returns has made one pass through the steps, and then told the kernel
    unless that failed. -/
theorem runs_virtioWddmPresent_iff {env : DxgiEnv} {src : VirtioWddmResource}
    {hDstResource : HANDLE} {s s' : DxgiState} {hr : HRESULT} :
    Runs (virtioWddmPresent env src hDstResource) s hr s' ↔
      hDstResource = 0 ∧ src.base.hKMAllocation ≠ 0 ∧
      ∃ hrSync s₁, syncSteps env 6 (.start, s) = (.done hrSync, s₁) ∧
        if failed hrSync then hr = hrSync ∧ s' = s₁
        else hr = (if failed env.presentHr then env.presentHr else S_OK) ∧
          s' = s₁.log [.presentCb src.base.hKMAllocation env.presentHr] := by
  simp [virtioWddmPresent, runs_sync_iff_syncSteps, returned_iff, and_assoc]

/-- What Blt asks of the host context before it synchronises. -/
def bltEvents (pArgs : Blt1Args) (dst src : VirtioWddmResource) : List DxgiEvent :=
  (if pArgs.flagResolve then
    [.resolveSubresource dst.base.pResource pArgs.dstSubresource src.base.pResource
      pArgs.srcSubresource dst.base.format]
  else []) ++
    [.copySubresourceRegion dst.base.pResource pArgs.dstSubresource pArgs.dstLeft pArgs.dstTop
      src.base.pResource pArgs.srcSubresource
      { left := pArgs.srcLeft
        top := pArgs.srcTop
        front := 0
        right := pArgs.srcRight
        bottom := pArgs.srcBottom
        back := 1 }]

@[simp] theorem DxgiState.log_log (s : DxgiState) (evs evs' : List DxgiEvent) :
    (s.log evs).log evs' = s.log (evs ++ evs') := by
  simp [DxgiState.log]

/-- A Blt that returns has made one pass through the steps if it presents, and none if it
    does not. -/
theorem runs_virtioWddmBlt1_iff {env : DxgiEnv} {pArgs : Blt1Args} {dst src : VirtioWddmResource}
    {s s' : DxgiState} {hr : HRESULT} :
    Runs (virtioWddmBlt1 env pArgs dst src) s hr s' ↔
      pArgs.rotateIdentity = true ∧ pArgs.flagStretch = false ∧ pArgs.flagConvert = false ∧
      if pArgs.flagPresent then
        ∃ hrSync, syncSteps env 6 (.start, s.log (bltEvents pArgs dst src)) = (.done hrSync, s') ∧
          hr = if failed hrSync then hrSync else S_OK
      else hr = S_OK ∧ s' = s.log (bltEvents pArgs dst src) := by
  cases hstretch : pArgs.flagStretch
  case true => simp [virtioWddmBlt1, hstretch]
  cases hconvert : pArgs.flagConvert
  case true => simp [virtioWddmBlt1, hconvert]
  cases hpresent : pArgs.flagPresent
  case false =>
    cases hresolve : pArgs.flagResolve <;>
      simp [virtioWddmBlt1, bltEvents, hstretch, hconvert, hpresent, hresolve]
  cases hresolve : pArgs.flagResolve <;>
    simp [virtioWddmBlt1, bltEvents, runs_sync_iff_syncSteps, returned_iff, hstretch, hconvert,
      hpresent, hresolve]

/-- The arguments with the whole of `src` as the source. -/
def Blt1Args.wholeOf (pArgs : Blt1Args) (src : VirtioWddmResource) : Blt1Args :=
  { pArgs with srcLeft := 0, srcTop := 0, srcRight := src.base.width, srcBottom := src.base.height }

/-- Blt passes through the steps as Blt1 does, after a copy of the whole source. -/
theorem runs_virtioWddmBlt_iff {env : DxgiEnv} {pArgs : Blt1Args} {dst src : VirtioWddmResource}
    {s s' : DxgiState} {hr : HRESULT} :
    Runs (virtioWddmBlt env pArgs dst src) s hr s' ↔
      pArgs.rotateIdentity = true ∧ pArgs.flagStretch = false ∧ pArgs.flagConvert = false ∧
      if pArgs.flagPresent then
        ∃ hrSync,
          syncSteps env 6 (.start, s.log (bltEvents (pArgs.wholeOf src) dst src)) =
            (.done hrSync, s') ∧
          hr = if failed hrSync then hrSync else S_OK
      else hr = S_OK ∧ s' = s.log (bltEvents (pArgs.wholeOf src) dst src) :=
  runs_virtioWddmBlt1_iff

-- ============================================================================
-- All calls
-- ============================================================================

/-- The value a `Signal` is called with. -/
def DxgiEvent.signalValue : DxgiEvent → Option UINT64
  | .signal value _ => some value
  | _ => none

/-- The device's state, where each call stands, the calls that took a value with the
    values they took, and those that reached `Signal`, both in order of time. -/
structure PresentWorld where
  state : DxgiState
  point : Nat → SyncPoint
  taken : List (Nat × UINT64)
  signalled : List (Nat × UINT64)

namespace PresentWorld

variable (w : PresentWorld)

/-- Call `i` takes its next step. -/
def advance (i : Nat) (env : DxgiEnv) : PresentWorld where
  state := (syncStep env w.state (w.point i)).2
  point := Function.update w.point i (syncStep env w.state (w.point i)).1
  taken :=
    match w.point i with
    | .start => w.taken ++ [(i, w.state.presentFenceValue)]
    | _ => w.taken
  signalled :=
    match w.point i with
    | .fetched value => w.signalled ++ [(i, value)]
    | _ => w.signalled

/-- The device as CreateDevice leaves it, before any call. -/
structure Initial : Prop where
  presentFenceValue : w.state.presentFenceValue = 1
  trace : w.state.trace = []
  point : ∀ i, w.point i = .start
  taken : w.taken = []
  signalled : w.signalled = []

/-- The values `Signal` was called with, in order. -/
def signals : List UINT64 :=
  w.state.trace.filterMap DxgiEvent.signalValue

/-- No two calls took the same value. -/
def ValuesDistinct : Prop :=
  (w.taken.map Prod.snd).Nodup

/-- The values reach the fence in strictly increasing order. -/
def SignalsIncrease : Prop :=
  w.signals.Pairwise (· < ·)

/-- The calls reach `Signal` in the order in which they took their values. -/
def SignalInTurn : Prop :=
  (w.signalled.map Prod.fst).Sublist (w.taken.map Prod.fst)

/-- Call `2 ^ 64` takes the value zero: ahead of all others. -/
def wrapped : List (Nat × UINT64) :=
  w.taken.drop (2 ^ 64 - 1) ++ w.taken.take (2 ^ 64 - 1)

/-- The calls reach `Signal` in the order in which they took their values, except
    that call `2 ^ 64` comes first. -/
def SignalInWrappedTurn : Prop :=
  (w.signalled.map Prod.fst).Sublist (w.wrapped.map Prod.fst)

end PresentWorld

/-- Some call takes its next step, whatever it is answered. -/
def PresentStep (w w' : PresentWorld) : Prop :=
  ∃ i env, w' = w.advance i env

-- ============================================================================
-- The invariant
-- ============================================================================

/-- The values are handed out one after the other from one, each call takes one and
    signals that one. -/
structure FenceInv (w : PresentWorld) : Prop where
  counter : w.state.presentFenceValue = BitVec.ofNat 64 (w.taken.length + 1)
  values : w.taken.map Prod.snd =
    (List.range w.taken.length).map fun k => BitVec.ofNat 64 (k + 1)
  waiting : ∀ i, w.point i = .start → ∀ value, (i, value) ∉ w.taken
  once : (w.taken.map Prod.fst).Nodup
  fetched : ∀ i value, w.point i = .fetched value → (i, value) ∈ w.taken
  signalled : ∀ p ∈ w.signalled, p ∈ w.taken
  signals : w.signals = w.signalled.map Prod.snd

theorem signals_log (s : DxgiState) (evs : List DxgiEvent) :
    (s.log evs).trace.filterMap DxgiEvent.signalValue =
      s.trace.filterMap DxgiEvent.signalValue ++ evs.filterMap DxgiEvent.signalValue :=
  List.filterMap_append ..

namespace FenceInv

variable {w : PresentWorld}

/-- A call takes its value. -/
theorem start (h : FenceInv w) {i : Nat} (hi : w.point i = .start) (env : DxgiEnv) :
    FenceInv (w.advance i env) := by
  have htaken : (w.advance i env).taken = w.taken ++ [(i, w.state.presentFenceValue)] := by
    simp only [PresentWorld.advance, hi]
  have hsignalled : (w.advance i env).signalled = w.signalled := by
    simp only [PresentWorld.advance, hi]
  have hstate : (w.advance i env).state =
      { w.state with presentFenceValue := w.state.presentFenceValue + 1 } := by
    simp only [PresentWorld.advance, hi, syncStep]
  have hself : (w.advance i env).point i = .fetched w.state.presentFenceValue := by
    simp only [PresentWorld.advance, hi, syncStep, Function.update_self]
  have hother : ∀ j, j ≠ i → (w.advance i env).point j = w.point j :=
    fun j hne => Function.update_of_ne hne ..
  refine ⟨?_, ?_, fun j hj value hmem => ?_, ?_, fun j value hj => ?_, fun p hp => ?_, ?_⟩
  · rw [hstate, htaken, List.length_append, List.length_singleton]
    show w.state.presentFenceValue + 1 = _
    rw [h.counter]
    exact (BitVec.ofNat_add ..).symm
  · rw [htaken, List.length_append, List.length_singleton, List.range_succ, List.map_append,
      List.map_append, h.values, List.map_singleton, List.map_singleton, h.counter]
  · by_cases hji : j = i
    · rw [hji, hself] at hj
      cases hj
    · rw [hother j hji] at hj
      rw [htaken] at hmem
      rcases List.mem_append.mp hmem with hmem | hmem
      · exact h.waiting j hj value hmem
      · exact hji (congrArg Prod.fst (List.mem_singleton.mp hmem))
  · rw [htaken, List.map_append, List.nodup_append]
    refine ⟨h.once, List.nodup_singleton _, fun j hj k hk heq => ?_⟩
    obtain ⟨⟨j', value⟩, hmem, rfl⟩ := List.mem_map.mp hj
    rw [List.map_singleton, List.mem_singleton] at hk
    have hji : j' = i := heq.trans hk
    rw [hji] at hmem
    exact h.waiting i hi value hmem
  · rw [htaken]
    by_cases hji : j = i
    · rw [hji, hself] at hj
      rw [hji, SyncPoint.fetched.inj hj]
      exact List.mem_append_right _ List.mem_cons_self
    · rw [hother j hji] at hj
      exact List.mem_append_left _ (h.fetched j value hj)
  · rw [hsignalled] at hp
    rw [htaken]
    exact List.mem_append_left _ (h.signalled p hp)
  · rw [hsignalled, PresentWorld.signals, hstate]
    exact h.signals

/-- A call hands its value to `Signal`. -/
theorem signal (h : FenceInv w) {i : Nat} {value : UINT64} (hi : w.point i = .fetched value)
    (env : DxgiEnv) : FenceInv (w.advance i env) := by
  have htaken : (w.advance i env).taken = w.taken := by
    simp only [PresentWorld.advance, hi]
  have hsignalled : (w.advance i env).signalled = w.signalled ++ [(i, value)] := by
    simp only [PresentWorld.advance, hi]
  have hstate : (w.advance i env).state = w.state.log [.signal value env.signalHr] := by
    simp only [PresentWorld.advance, hi, syncStep]
  have hself : (w.advance i env).point i =
      if failed env.signalHr then .done env.signalHr else .signalled value := by
    simp only [PresentWorld.advance, hi, syncStep, Function.update_self]
  have hother : ∀ j, j ≠ i → (w.advance i env).point j = w.point j :=
    fun j hne => Function.update_of_ne hne ..
  refine ⟨?_, ?_, fun j hj => ?_, ?_, fun j value' hj => ?_, fun p hp => ?_, ?_⟩
  · rw [hstate, htaken]
    exact h.counter
  · rw [htaken]
    exact h.values
  · by_cases hji : j = i
    · rw [hji, hself] at hj
      split at hj <;> cases hj
    · rw [hother j hji] at hj
      rw [htaken]
      exact h.waiting j hj
  · rw [htaken]
    exact h.once
  · by_cases hji : j = i
    · rw [hji, hself] at hj
      split at hj <;> cases hj
    · rw [hother j hji] at hj
      rw [htaken]
      exact h.fetched j value' hj
  · rw [hsignalled] at hp
    rw [htaken]
    rcases List.mem_append.mp hp with hp | hp
    · exact h.signalled p hp
    · rw [List.mem_singleton.mp hp]
      exact h.fetched i value hi
  · rw [hsignalled, PresentWorld.signals, hstate, signals_log, List.map_append]
    congr 1
    exact h.signals

/-- A step that neither takes a value nor signals one. -/
theorem quiet (h : FenceInv w) {i : Nat} (env : DxgiEnv)
    (htaken : (w.advance i env).taken = w.taken)
    (hsignalled : (w.advance i env).signalled = w.signalled)
    (hstate : ∃ evs, (w.advance i env).state = w.state.log evs ∧
      evs.filterMap DxgiEvent.signalValue = [])
    (hpoint : (w.advance i env).point i ≠ .start ∧
      ∀ value, (w.advance i env).point i ≠ .fetched value) : FenceInv (w.advance i env) := by
  obtain ⟨evs, hstate, hevs⟩ := hstate
  have hother : ∀ j, j ≠ i → (w.advance i env).point j = w.point j :=
    fun j hne => Function.update_of_ne hne ..
  refine ⟨?_, ?_, fun j hj => ?_, ?_, fun j value hj => ?_, fun p hp => ?_, ?_⟩
  · rw [hstate, htaken]
    exact h.counter
  · rw [htaken]
    exact h.values
  · by_cases hji : j = i
    · rw [hji] at hj
      exact absurd hj hpoint.1
    · rw [hother j hji] at hj
      rw [htaken]
      exact h.waiting j hj
  · rw [htaken]
    exact h.once
  · by_cases hji : j = i
    · rw [hji] at hj
      exact absurd hj (hpoint.2 value)
    · rw [hother j hji] at hj
      rw [htaken]
      exact h.fetched j value hj
  · rw [hsignalled] at hp
    rw [htaken]
    exact h.signalled p hp
  · rw [hsignalled, PresentWorld.signals, hstate, signals_log, hevs, List.append_nil]
    exact h.signals

/-- Every step of every call keeps the invariant. -/
theorem step (h : FenceInv w) {w' : PresentWorld} (hstep : PresentStep w w') : FenceInv w' := by
  obtain ⟨i, env, rfl⟩ := hstep
  cases hi : w.point i with
  | start => exact h.start hi env
  | fetched value => exact h.signal hi env
  | signalled value =>
      refine h.quiet env ?_ ?_ ⟨[.flush], ?_, rfl⟩ ?_ <;>
        simp [PresentWorld.advance, hi, syncStep]
  | flushed value =>
      refine h.quiet env ?_ ?_ ⟨[.createEvent env.createEvent], ?_, rfl⟩ ?_
      · simp [PresentWorld.advance, hi]
      · simp [PresentWorld.advance, hi]
      · simp [PresentWorld.advance, hi, syncStep]
      · cases hevent : env.createEvent <;> simp [PresentWorld.advance, hi, syncStep, hevent]
  | eventCreated value =>
      by_cases harm : failed env.setEventHr = true
      · refine h.quiet env ?_ ?_
          ⟨[.setEventOnCompletion value env.setEventHr, .closeHandle], ?_, rfl⟩ ?_ <;>
          simp [PresentWorld.advance, hi, syncStep, harm]
      · refine h.quiet env ?_ ?_ ⟨[.setEventOnCompletion value env.setEventHr], ?_, rfl⟩ ?_ <;>
          simp [PresentWorld.advance, hi, syncStep, harm]
  | armed =>
      refine h.quiet env ?_ ?_ ⟨[.waitForSingleObject 10000 env.wait, .closeHandle], ?_, rfl⟩ ?_ <;>
        simp [PresentWorld.advance, hi, syncStep]
  | done hr =>
      refine h.quiet env ?_ ?_ ⟨[], ?_, rfl⟩ ?_ <;>
        simp [PresentWorld.advance, hi, syncStep, DxgiState.log]

theorem of_reach (h : Reach PresentWorld.Initial PresentStep w) : FenceInv w := by
  refine Reach.invariant FenceInv ?_ ?_ h
  · intro w hw
    refine ⟨?_, ?_, fun i _ value hmem => ?_, ?_, fun i value hi => ?_, fun p hp => ?_, ?_⟩
    · rw [hw.presentFenceValue, hw.taken]
      rfl
    · rw [hw.taken]
      rfl
    · rw [hw.taken] at hmem
      cases hmem
    · rw [hw.taken]
      exact List.nodup_nil
    · rw [hw.point] at hi
      cases hi
    · rw [hw.signalled] at hp
      cases hp
    · rw [PresentWorld.signals, hw.trace, hw.signalled]
      rfl
  · intro w w' hw hstep
    exact hw.step hstep

-- ============================================================================
-- Order
-- ============================================================================

end FenceInv

/-- Lists out of one list on which `f` is injective are equal when their images
    are. -/
theorem eq_of_map_eq {α β : Type} {f : α → β} {zs xs ys : List α}
    (hf : ∀ x ∈ zs, ∀ y ∈ zs, f x = f y → x = y) (hxs : ∀ x ∈ xs, x ∈ zs) (hys : ys ⊆ zs)
    (h : xs.map f = ys.map f) : xs = ys := by
  induction xs generalizing ys with
  | nil => exact (List.map_eq_nil_iff.mp h.symm).symm
  | cons x xs ih =>
      cases ys with
      | nil => cases h
      | cons y ys =>
          obtain ⟨hhead, htail⟩ := List.cons.inj h
          have hx := hxs x List.mem_cons_self
          have hy := hys List.mem_cons_self
          rw [hf x hx y hy hhead, ih (fun z hz => hxs z (List.mem_cons_of_mem _ hz))
            (fun z hz => hys (List.mem_cons_of_mem _ hz)) htail]

theorem nodup_of_increasing {values : List UINT64} (h : values.Pairwise (· < ·)) :
    values.Nodup := by
  refine List.Pairwise.imp (fun {a b} (hlt : a < b) => ?_) h
  rintro rfl
  exact BitVec.lt_irrefl a hlt

/-- Increasing values out of an increasing list come in its order. -/
theorem sublist_of_increasing {xs ys : List UINT64} (hxs : xs.Pairwise (· < ·))
    (hys : ys.Pairwise (· < ·)) (hsub : xs ⊆ ys) : xs.Sublist ys := by
  have hanti : Std.Antisymm fun x y : UINT64 => x < y :=
    ⟨fun x y hxy hyx => absurd (BitVec.lt_trans hxy hyx) (BitVec.lt_irrefl x)⟩
  exact List.sublist_of_subperm_of_pairwise ((nodup_of_increasing hxs).subperm hsub) hxs hys

/-- Fewer than `2 ^ 64` values counted up from one increase. -/
theorem counted_increase {n : Nat} (hn : n < 2 ^ 64) :
    ((List.range n).map fun k => BitVec.ofNat 64 (k + 1)).Pairwise (· < ·) := by
  rw [List.pairwise_map]
  refine List.Pairwise.imp_of_mem ?_ List.pairwise_lt_range
  intro a b ha hb hlt
  have hb := List.mem_range.mp hb
  rw [BitVec.lt_def, BitVec.toNat_ofNat, BitVec.toNat_ofNat, Nat.mod_eq_of_lt (by omega),
    Nat.mod_eq_of_lt (by omega)]
  omega

namespace FenceInv

variable {w : PresentWorld}

/-- Below the wrap-around the values increase in the order they are taken. -/
theorem values_increase (h : FenceInv w) (hn : w.taken.length < 2 ^ 64) :
    (w.taken.map Prod.snd).Pairwise (· < ·) := by
  rw [h.values]
  exact counted_increase hn

/-- The last of `2 ^ 64` values is zero; with it in front they increase. -/
theorem wrapped_increase (h : FenceInv w) (hn : w.taken.length = 2 ^ 64) :
    (w.wrapped.map Prod.snd).Pairwise (· < ·) := by
  have hvalues := h.values
  unfold PresentWorld.wrapped
  generalize hm : 2 ^ 64 - 1 = m
  have hlen : w.taken.length = m + 1 := by omega
  rw [hlen, List.range_succ, List.map_append, List.map_singleton] at hvalues
  have hrange : ((List.range m).map fun k => BitVec.ofNat 64 (k + 1)).length = m := by
    rw [List.length_map, List.length_range]
  have hzero : BitVec.ofNat 64 (m + 1) = 0 := by
    rw [← hm]
    rfl
  rw [List.map_append, List.map_drop, List.map_take, hvalues, List.drop_left' hrange,
    List.take_left' hrange, List.singleton_append, hzero, List.pairwise_cons]
  constructor
  · intro value hvalue
    obtain ⟨k, hk, rfl⟩ := List.mem_map.mp hvalue
    have hk := List.mem_range.mp hk
    rw [BitVec.lt_def, BitVec.toNat_ofNat, Nat.mod_eq_of_lt (by omega)]
    exact Nat.succ_pos k
  · exact counted_increase (by omega)

theorem wrapped_perm : w.wrapped.Perm w.taken := by
  have hperm : w.wrapped.Perm (w.taken.take (2 ^ 64 - 1) ++ w.taken.drop (2 ^ 64 - 1)) :=
    List.perm_append_comm
  rwa [List.take_append_drop] at hperm

/-- The calls reach `Signal` in the order of a list of all entries exactly when
    their entries do. -/
theorem calls_sublist_iff (h : FenceInv w) {entries : List (Nat × UINT64)}
    (hperm : entries.Perm w.taken) :
    (w.signalled.map Prod.fst).Sublist (entries.map Prod.fst) ↔ w.signalled.Sublist entries := by
  constructor
  · intro hturn
    obtain ⟨signalled, hsub, hcalls⟩ := List.sublist_map_iff.mp hturn
    have hsame : w.signalled = signalled :=
      eq_of_map_eq (fun p hp q hq heq => List.inj_on_of_nodup_map h.once hp hq heq) h.signalled
        (fun p hp => hperm.subset (hsub.subset hp)) hcalls
    rw [hsame]
    exact hsub
  · intro hsub
    exact hsub.map Prod.fst

/-- Where the values increase along a list of all entries, they reach the fence in
    increasing order exactly when the entries come in the order of that list. -/
theorem signalsIncrease_iff (h : FenceInv w) {entries : List (Nat × UINT64)}
    (hperm : entries.Perm w.taken) (hvalues : (entries.map Prod.snd).Pairwise (· < ·)) :
    w.SignalsIncrease ↔ w.signalled.Sublist entries := by
  unfold PresentWorld.SignalsIncrease
  rw [h.signals]
  have hmem : ∀ p ∈ w.signalled, p ∈ entries :=
    fun p hp => hperm.symm.subset (h.signalled p hp)
  constructor
  · intro hsignals
    have hvalue : w.signalled.map Prod.snd ⊆ entries.map Prod.snd := by
      intro value hvalue
      obtain ⟨p, hp, rfl⟩ := List.mem_map.mp hvalue
      exact List.mem_map_of_mem (hmem p hp)
    obtain ⟨signalled, hsub, hentries⟩ :=
      List.sublist_map_iff.mp (sublist_of_increasing hsignals hvalues hvalue)
    have hsame : w.signalled = signalled :=
      eq_of_map_eq (fun p hp q hq heq => List.inj_on_of_nodup_map (nodup_of_increasing hvalues)
        hp hq heq) hmem hsub.subset hentries
    rw [hsame]
    exact hsub
  · intro hsub
    exact hvalues.sublist (hsub.map Prod.snd)

/-- The value comes round again after `2 ^ 64` calls. -/
theorem not_valuesDistinct (h : FenceInv w) (hn : 2 ^ 64 < w.taken.length) :
    ¬w.ValuesDistinct := by
  intro hdistinct
  unfold PresentWorld.ValuesDistinct at hdistinct
  rw [h.values] at hdistinct
  have hfirst : 0 ∈ List.range w.taken.length := List.mem_range.mpr (by omega)
  have hlast : 2 ^ 64 ∈ List.range w.taken.length := List.mem_range.mpr hn
  have hwrap := List.inj_on_of_nodup_map hdistinct hfirst hlast (by decide)
  omega

end FenceInv

/-- In every state any interleaving of calls reaches: as long as fewer than `2 ^ 64`
    calls have taken a value, no two calls took the same one, and the values reach
    the fence in strictly increasing order exactly when no call has overtaken another
    between the fetch-and-add and the `Signal`; with `2 ^ 64`, exactly when the last
    comes first and the others in turn; with more, two calls share a value. -/
theorem presentFence_ordered_iff {w : PresentWorld}
    (h : Reach PresentWorld.Initial PresentStep w) :
    (w.taken.length < 2 ^ 64 →
      w.ValuesDistinct ∧ (w.SignalsIncrease ↔ w.SignalInTurn)) ∧
    (w.taken.length = 2 ^ 64 →
      w.ValuesDistinct ∧ (w.SignalsIncrease ↔ w.SignalInWrappedTurn)) ∧
    (2 ^ 64 < w.taken.length → ¬w.ValuesDistinct) := by
  have hinv := FenceInv.of_reach h
  refine ⟨fun hn => ?_, fun hn => ?_, hinv.not_valuesDistinct⟩
  · have hvalues := hinv.values_increase hn
    have hperm := List.Perm.refl w.taken
    refine ⟨nodup_of_increasing hvalues, ?_⟩
    exact (hinv.signalsIncrease_iff hperm hvalues).trans (hinv.calls_sublist_iff hperm).symm
  · have hvalues := hinv.wrapped_increase hn
    have hperm := FenceInv.wrapped_perm (w := w)
    refine ⟨(hperm.map Prod.snd).nodup_iff.mp (nodup_of_increasing hvalues), ?_⟩
    exact (hinv.signalsIncrease_iff hperm hvalues).trans (hinv.calls_sublist_iff hperm).symm

/-- Every answer is a success. -/
def okDxgiEnv : DxgiEnv :=
  { signalHr := S_OK
    createEvent := .ok ()
    setEventHr := S_OK
    wait := WAIT_OBJECT_0
    presentHr := S_OK
    setDisplayModeHr := S_OK }

/-- A new device. -/
def newPresentWorld : PresentWorld :=
  { state := { presentFenceValue := 1 }, point := fun _ => .start, taken := [], signalled := [] }

/-- The calls named by the list take one step each, in this order. -/
def schedule (calls : List Nat) : PresentWorld :=
  calls.foldl (fun w i => w.advance i okDxgiEnv) newPresentWorld

theorem schedule_reach (calls : List Nat) :
    Reach PresentWorld.Initial PresentStep (schedule calls) := by
  induction calls using List.reverseRecOn with
  | nil => exact .init ⟨rfl, rfl, fun _ => rfl, rfl, rfl⟩
  | append_singleton calls i ih =>
      have hstep : schedule (calls ++ [i]) = (schedule calls).advance i okDxgiEnv :=
        List.foldl_append
      rw [hstep]
      exact ih.step ⟨i, okDxgiEnv, rfl⟩

/-- One after the other two calls signal in order. -/
theorem presentFence_ordered_inTurn :
    (schedule [1, 1, 2, 2]).ValuesDistinct ∧ (schedule [1, 1, 2, 2]).SignalsIncrease := by
  obtain ⟨hdistinct, hiff⟩ := (presentFence_ordered_iff (schedule_reach [1, 1, 2, 2])).1 (by decide)
  exact ⟨hdistinct, hiff.mpr (List.Sublist.refl [1, 2])⟩

/-- The second call overtakes the first: the fence is signalled with two, then with
    one. -/
theorem presentFence_overtaken :
    Reach PresentWorld.Initial PresentStep (schedule [1, 2, 2, 1]) ∧
      (schedule [1, 2, 2, 1]).signals = [2, 1] ∧ ¬(schedule [1, 2, 2, 1]).SignalsIncrease := by
  have hsignals : (schedule [1, 2, 2, 1]).signals = [2, 1] := rfl
  refine ⟨schedule_reach _, hsignals, ?_⟩
  unfold PresentWorld.SignalsIncrease
  rw [hsignals]
  decide

end VirtioWddm
