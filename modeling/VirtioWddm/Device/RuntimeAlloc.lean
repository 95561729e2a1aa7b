/-
  VirtioWddm.Device.RuntimeAlloc

  The runtime-allocator hooks of `device.c`.

  The ICD calls them from inside Vulkan calls the driver makes, on the same
  thread.  They reach the caller only through the thread-local record of the last
  allocation, which the alloc hook sets and the free hook clears.

  `runs_runHooks` says what any sequence of hook calls does: its events, and the
  record it leaves.  `RecordBacked` is the invariant that makes the record
  trustworthy: what it names was allocated earlier in the trace, for the runtime
  resource it names, and no free hook has been called for it since.
-/

import VirtioWddm.Device.Trace

namespace VirtioWddm

open Lib

-- ============================================================================
-- The hooks
-- ============================================================================

/-- The request `virtio_wddm_runtime_alloc` builds for `pfnAllocateCb`.  The
    primary flag and the primary description come from the scope, and only when
    the request is for the resource the scope names. -/
def runtimeAllocArgs (scope : RuntimeAllocScope) (req : RuntimeAllocRequest) : AllocateArgs :=
  let allocPriv : CreateAllocation :=
    .blob { id := req.blobId, mem := req.mem, flags := req.flags, size := req.size }
  let reuse : ReuseBlobAllocation := { allocation := allocPriv, source := req.sourceAllocation }
  let primary : Bool :=
    req.hRTResource != 0 && scope.hRTResource == req.hRTResource && scope.primary
  { hResource := req.hRTResource
    payload :=
      if primary then
        .primary
          { base := reuse
            refreshNumerator := scope.primaryDesc.refreshNumerator
            refreshDenominator := scope.primaryDesc.refreshDenominator
            vidpnSource := scope.primaryDesc.vidPnSourceId }
      else if req.sourceAllocation != 0 then
        .reuse reuse
      else
        .plain allocPriv
    primary := primary }

/-- `virtio_wddm_runtime_alloc`; `none` stands for a NULL argument, and `reply`
    is what `pfnAllocateCb` answers. -/
def virtioWddmRuntimeAlloc (req : Option RuntimeAllocRequest) (reply : AllocateReply) :
    Call Unit :=
  match req with
  | none => emit (.runtimeAlloc none (.error negEinval))
  | some r => do
      let s ← get
      emit (.allocateCb (runtimeAllocArgs s.runtimeAllocScope r) reply)
      if failed reply.hr = true ∨ reply.hAllocation = 0#32 then
        emit (.runtimeAlloc (some r) (.error negEio))
      else do
        modify fun s =>
          { s with
            lastRuntimeAlloc :=
              { hRTResource := r.hRTResource
                hAllocation := reply.hAllocation
                hKMResource := reply.hKMResource } }
        emit (.runtimeAlloc (some r)
          (.ok { hAllocation := reply.hAllocation, hKMResource := reply.hKMResource }))

/-- `virtio_wddm_runtime_free`; `hr` is what `pfnDeallocateCb` answers.  The
    record is cleared even when deallocation fails. -/
def virtioWddmRuntimeFree (alloc : Option RuntimeAllocResult) (hr : HRESULT) : Call Unit :=
  match alloc with
  | none => emit (.runtimeFree none negEinval)
  | some a =>
      if a.hAllocation = 0#32 then
        emit (.runtimeFree (some a) 0)
      else do
        emit (.deallocateCb (.allocation a.hAllocation) hr)
        modify fun s =>
          if s.lastRuntimeAlloc.hAllocation = a.hAllocation then
            { s with lastRuntimeAlloc := {} }
          else
            s
        emit (.runtimeFree (some a) (if failed hr then negEio else 0))

/-- One call of a hook by the ICD, with the answer of the kernel callback the
    hook makes. -/
inductive HookCall where
  | alloc (req : Option RuntimeAllocRequest) (reply : AllocateReply)
  | free (alloc : Option RuntimeAllocResult) (hr : HRESULT)
deriving DecidableEq

def runHook : HookCall → Call Unit
  | .alloc req reply => virtioWddmRuntimeAlloc req reply
  | .free alloc hr => virtioWddmRuntimeFree alloc hr

/-- The hook calls an ICD makes inside one Vulkan call, in order. -/
def runHooks : List HookCall → Call Unit
  | [] => pure ()
  | c :: cs => do
      runHook c
      runHooks cs

-- ============================================================================
-- What the hooks do
-- ============================================================================

/-- The record after one hook call. -/
def hookRecord (record : RuntimeAllocRecord) : HookCall → RuntimeAllocRecord
  | .alloc none _ => record
  | .alloc (some r) reply =>
      if failed reply.hr = true ∨ reply.hAllocation = 0#32 then
        record
      else
        { hRTResource := r.hRTResource
          hAllocation := reply.hAllocation
          hKMResource := reply.hKMResource }
  | .free none _ => record
  | .free (some a) _ =>
      if a.hAllocation ≠ 0#32 ∧ record.hAllocation = a.hAllocation then {} else record

/-- The events of one hook call. -/
def hookEvents (scope : RuntimeAllocScope) : HookCall → List Event
  | .alloc none _ => [.runtimeAlloc none (.error negEinval)]
  | .alloc (some r) reply =>
      [.allocateCb (runtimeAllocArgs scope r) reply,
       .runtimeAlloc (some r)
         (if failed reply.hr = true ∨ reply.hAllocation = 0#32 then
            .error negEio
          else
            .ok { hAllocation := reply.hAllocation, hKMResource := reply.hKMResource })]
  | .free none _ => [.runtimeFree none negEinval]
  | .free (some a) hr =>
      if a.hAllocation = 0#32 then
        [.runtimeFree (some a) 0]
      else
        [.deallocateCb (.allocation a.hAllocation) hr,
         .runtimeFree (some a) (if failed hr then negEio else 0)]

/-- The state after one hook call. -/
def CallState.hook (s : CallState) (c : HookCall) : CallState :=
  { s.log (hookEvents s.runtimeAllocScope c) with
    lastRuntimeAlloc := hookRecord s.lastRuntimeAlloc c }

/-- The state after a sequence of hook calls. -/
def CallState.hooks (s : CallState) (cs : List HookCall) : CallState :=
  { s.log (cs.flatMap (hookEvents s.runtimeAllocScope)) with
    lastRuntimeAlloc := cs.foldl hookRecord s.lastRuntimeAlloc }

@[simp] theorem CallState.hooks_runtimeAllocScope (s : CallState) (cs : List HookCall) :
    (s.hooks cs).runtimeAllocScope = s.runtimeAllocScope := rfl

@[simp] theorem CallState.hooks_trace (s : CallState) (cs : List HookCall) :
    (s.hooks cs).trace = s.trace ++ cs.flatMap (hookEvents s.runtimeAllocScope) := rfl

@[simp] theorem CallState.hooks_lastRuntimeAlloc (s : CallState) (cs : List HookCall) :
    (s.hooks cs).lastRuntimeAlloc = cs.foldl hookRecord s.lastRuntimeAlloc := rfl

theorem CallState.hooks_cons (s : CallState) (c : HookCall) (cs : List HookCall) :
    s.hooks (c :: cs) = (s.hook c).hooks cs := by
  simp [CallState.hooks, CallState.hook, CallState.log, List.append_assoc]

theorem runs_runHook {c : HookCall} {s s' : CallState} {u : Unit} :
    Runs (runHook c) s u s' ↔ s' = s.hook c := by
  cases c with
  | alloc req reply =>
      cases req with
      | none =>
          simp [runHook, virtioWddmRuntimeAlloc, CallState.hook, hookEvents, hookRecord,
            CallState.log]
      | some r =>
          by_cases hfail : failed reply.hr = true ∨ reply.hAllocation = 0#32 <;>
            simp [runHook, virtioWddmRuntimeAlloc, CallState.hook, hookEvents, hookRecord,
              CallState.log, hfail]
  | free alloc hr =>
      cases alloc with
      | none =>
          simp [runHook, virtioWddmRuntimeFree, CallState.hook, hookEvents, hookRecord,
            CallState.log]
      | some a =>
          by_cases hzero : a.hAllocation = 0#32
          · simp [runHook, virtioWddmRuntimeFree, CallState.hook, hookEvents, hookRecord,
              CallState.log, hzero]
          · by_cases hlast : s.lastRuntimeAlloc.hAllocation = a.hAllocation <;>
              simp [runHook, virtioWddmRuntimeFree, CallState.hook, hookEvents, hookRecord,
                CallState.log, hzero, hlast]

/-- Any sequence of hook calls appends its events and leaves the record the calls
    fold to; the scope is not theirs to change. -/
@[simp] theorem runs_runHooks {cs : List HookCall} {s s' : CallState} {u : Unit} :
    Runs (runHooks cs) s u s' ↔ s' = s.hooks cs := by
  induction cs generalizing s with
  | nil => simp [runHooks, CallState.hooks, CallState.log]
  | cons c cs ih =>
      simp only [runHooks, runs_bind, runs_runHook, ih, CallState.hooks_cons]
      simp

/-- The events a hook call can leave. -/
def Event.isHookTraffic : Event → Bool
  | .allocateCb _ _ => true
  | .deallocateCb (.allocation _) _ => true
  | .runtimeAlloc _ _ => true
  | .runtimeFree _ _ => true
  | _ => false

theorem hookEvents_isHookTraffic {scope : RuntimeAllocScope} {c : HookCall} {e : Event}
    (h : e ∈ hookEvents scope c) : e.isHookTraffic = true := by
  rcases c with ⟨_ | req, reply⟩ | ⟨_ | a, hr⟩
  · rw [List.mem_singleton.mp h]
    rfl
  · simp only [hookEvents, List.mem_cons, List.not_mem_nil, or_false] at h
    rcases h with rfl | rfl <;> rfl
  · rw [List.mem_singleton.mp h]
    rfl
  · simp only [hookEvents] at h
    split at h <;> simp only [List.mem_cons, List.not_mem_nil, or_false] at h
    · rw [h]
      rfl
    · rcases h with rfl | rfl <;> rfl

theorem Grows.hooks {P : Event → Prop} (hP : ∀ e, e.isHookTraffic = true → P e)
    (s : CallState) (cs : List HookCall) : Grows P s (s.hooks cs) := by
  refine ⟨_, rfl, ?_⟩
  intro e he
  obtain ⟨c, -, hc⟩ := List.mem_flatMap.mp he
  exact hP e (hookEvents_isHookTraffic hc)

/-- Hooks always return to the ICD. -/
theorem total_runHooks (cs : List HookCall) : Total (runHooks cs) :=
  fun s => ⟨(), s.hooks cs, runs_runHooks.mpr rfl⟩

-- ============================================================================
-- Attribution
-- ============================================================================

/-- The allocations the hooks handed out and no free hook was called for, each
    under the runtime resource it was requested for. -/
@[simps] def hookLedger : Ledger Event RuntimeAllocRecord where
  acquires
    | .runtimeAlloc (some r) (.ok result) =>
        some
          { hRTResource := r.hRTResource
            hAllocation := result.hAllocation
            hKMResource := result.hKMResource }
    | _ => none
  releases
    | .runtimeFree (some a) _, record => a.hAllocation == record.hAllocation
    | _, _ => false

/-- A non-empty record names an allocation the trace still holds. -/
def RecordBacked (record : RuntimeAllocRecord) (trace : List Event) : Prop :=
  record.hAllocation ≠ 0 → record ∈ hookLedger.held trace

/-- A cleared record promises nothing. -/
theorem recordBacked_empty (trace : List Event) : RecordBacked {} trace :=
  fun h => absurd rfl h

/-- A record the ledger holds stays held over hook events that do not free it. -/
theorem held_hookEvents {record : RuntimeAllocRecord} {trace : List Event}
    {scope : RuntimeAllocScope} {c : HookCall} (h : record ∈ hookLedger.held trace)
    (hkeep : ∀ a hr, c = .free (some a) hr → a.hAllocation ≠ record.hAllocation) :
    record ∈ hookLedger.held (trace ++ hookEvents scope c) := by
  rw [Ledger.held_append, Ledger.mem_heldFrom]
  refine .inl ⟨h, ?_⟩
  intro e he
  cases c with
  | alloc req reply =>
      cases req <;> simp only [hookEvents, List.mem_cons, List.not_mem_nil, or_false] at he
      · subst he
        rfl
      · rcases he with rfl | rfl <;> rfl
  | free alloc hr =>
      cases alloc with
      | none =>
          simp only [hookEvents, List.mem_singleton] at he
          subst he
          rfl
      | some a =>
          have hne := hkeep a hr rfl
          simp only [hookEvents] at he
          split at he <;> simp only [List.mem_cons, List.not_mem_nil, or_false] at he
          · subst he
            simpa [hookLedger] using hne
          · rcases he with rfl | rfl
            · rfl
            · simpa [hookLedger] using hne

/-- One hook call keeps the record backed: a successful alloc hook names what it
    has just acquired, and a free hook for what the record names clears it. -/
theorem RecordBacked.hook {s : CallState} {c : HookCall}
    (h : RecordBacked s.lastRuntimeAlloc s.trace) :
    RecordBacked (s.hook c).lastRuntimeAlloc (s.hook c).trace := by
  intro hne
  cases c with
  | alloc req reply =>
      cases req with
      | none => exact held_hookEvents (h hne) (by simp)
      | some r =>
          by_cases hfail : failed reply.hr = true ∨ reply.hAllocation = 0#32
          · simp only [CallState.hook, hookRecord, if_pos hfail] at hne ⊢
            exact held_hookEvents (h hne) (by simp)
          · simp [CallState.hook, hookRecord, hookEvents, hfail, Ledger.held_append,
              Ledger.mem_step, hookLedger]
  | free alloc hr =>
      cases alloc with
      | none => exact held_hookEvents (h hne) (by simp)
      | some a =>
          by_cases hclear : a.hAllocation ≠ 0#32 ∧ s.lastRuntimeAlloc.hAllocation = a.hAllocation
          · simp [CallState.hook, hookRecord, hclear] at hne
          · simp only [CallState.hook, hookRecord, if_neg hclear] at hne ⊢
            refine held_hookEvents (h hne) ?_
            rintro a' hr' ⟨⟩ heq
            exact hclear ⟨heq ▸ hne, heq.symm⟩

/-- Any sequence of hook calls keeps the record backed. -/
theorem RecordBacked.hooks {s : CallState} {cs : List HookCall}
    (h : RecordBacked s.lastRuntimeAlloc s.trace) :
    RecordBacked (s.hooks cs).lastRuntimeAlloc (s.hooks cs).trace := by
  induction cs generalizing s with
  | nil => simpa [CallState.hooks, CallState.log] using h
  | cons c cs ih =>
      rw [CallState.hooks_cons]
      exact ih h.hook

end VirtioWddm
