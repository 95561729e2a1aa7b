/-
  VirtioWddm.Device.AllOrNothing

  Every exit of CreateDevice releases what was acquired, or everything is kept for
  DestroyDevice.

  `Account` is what holds of the objects at any time: each one that was acquired and not
  released is in its variable.  Inside the function `Running` adds how far it is, and
  `Leaving` is what an early return leaves to the cleanups.
-/

import VirtioWddm.Device.CreateDevice

namespace VirtioWddm

open Lib

-- ============================================================================
-- The account
-- ============================================================================

/-- The place in the order of acquisition. -/
def DeviceVar.place (x : DeviceVar) : Nat :=
  x.ctorIdx

/-- The place of an object in the order of release. -/
def DeviceObject.rank (o : DeviceObject) : Nat :=
  o.var.rank

/-- What was acquired and not released is in its variable, and nothing that had to be
    released earlier is left. -/
structure Account (s : DeviceState) : Prop where
  balanced : Action.Balanced s.actions s.held
  once : ∀ o, s.actions.count (.acquire o) ≤ 1
  ordered : Action.OrderedBy DeviceObject.rank s.actions
  below : ∀ o x id, .release o ∈ s.actions → s.vars x = some id → o.rank ≤ x.rank
  destroyable : ∀ id, s.vars .vkInst = some id → s.block.procs .destroyInstance = true

/-- The scopes of the locals in `declared` are still to be left; `failing` says whether
    the device is still to be destroyed then. -/
structure Leaving (failing : Bool) (declared : List DeviceVar) (s : DeviceState) : Prop where
  account : Account s
  scope : ∀ x, x.isLocal = true → x ∉ declared → s.vars x = none
  failedDevice : s.failedDevice = failing

/-- Inside the function: nothing from the place `n` on has been acquired, and only
    locals have been released. -/
structure Running (failing : Bool) (n : Nat) (declared : List DeviceVar) (s : DeviceState) :
    Prop where
  leaving : Leaving failing declared s
  fresh : ∀ o, .acquire o ∈ s.actions → o.var.place < n
  temporary : ∀ o, .release o ∈ s.actions → o.var.isLocal = true

section Steps

variable {failing : Bool} {n n' : Nat} {declared declared' : List DeviceVar} {s : DeviceState}
  {x : DeviceVar}

theorem DeviceVar.rank_of_isLocal (h : x.isLocal = true) : x.rank = 0 := by
  cases x <;> first
    | rfl
    | cases h

theorem Running.mono (h : Running failing n declared s) (hn : n ≤ n')
    (hdecl : ∀ x ∈ declared, x ∈ declared') : Running failing n' declared' s where
  leaving := {
    account := h.leaving.account
    scope := fun x hlocal hnot => h.leaving.scope x hlocal fun hmem => hnot (hdecl x hmem)
    failedDevice := h.leaving.failedDevice }
  fresh := fun o ho => Nat.lt_of_lt_of_le (h.fresh o ho) hn
  temporary := h.temporary

/-- A variable that has not been set is NULL. -/
theorem Running.vars_eq_none (h : Running failing n declared s) (hplace : n ≤ x.place) :
    s.vars x = none := by
  cases hvar : s.vars x with
  | none => rfl
  | some id =>
      have hnew : .acquire ⟨x, id⟩ ∉ s.actions := by
        intro hmem
        have hlt := h.fresh ⟨x, id⟩ hmem
        exact absurd hlt (Nat.not_lt.mpr hplace)
      have hzero := h.leaving.account.balanced.held_eq_zero hnew
      rw [DeviceState.held, if_pos hvar] at hzero
      omega

/-- The account does not depend on the rest of the state. -/
theorem Account.congr {s' : DeviceState} (h : Account s) (hvars : s'.vars = s.vars)
    (hactions : s'.actions = s.actions)
    (hproc : s.block.procs .destroyInstance = true → s'.block.procs .destroyInstance = true) :
    Account s' := by
  have hheld : s'.held = s.held := by
    funext o
    rw [DeviceState.held, DeviceState.held, hvars]
  refine ⟨?_, ?_, ?_, ?_, ?_⟩
  · rw [hactions, hheld]
    exact h.balanced
  · rw [hactions]
    exact h.once
  · rw [hactions]
    exact h.ordered
  · rw [hactions, hvars]
    exact h.below
  · rw [hvars]
    exact fun id hinst => hproc (h.destroyable id hinst)

/-- One more variable is set. -/
theorem held_set {s' : DeviceState} {id : Nat} (hnone : s.vars x = none)
    (hsome : s'.vars x = some id) (hother : ∀ y, y ≠ x → s'.vars y = s.vars y)
    (o : DeviceObject) : s'.held o = s.held o + if o = ⟨x, id⟩ then 1 else 0 := by
  obtain ⟨y, id'⟩ := o
  by_cases heq : y = x
  · subst heq
    rw [DeviceState.held, DeviceState.held, hsome, hnone]
    by_cases hid : id' = id
    · subst hid
      simp
    · rw [if_neg (by simpa using fun h => hid h.symm), if_neg (by simp),
        if_neg (by simpa using hid)]
  · rw [DeviceState.held, DeviceState.held, hother y heq,
      if_neg (show ¬(⟨y, id'⟩ : DeviceObject) = ⟨x, id⟩ by simp [heq])]
    rfl

/-- What is owned after an acquisition. -/
theorem held_acquire (hnone : s.vars x = none) (id : Nat) (o : DeviceObject) :
    (s.acquire x id).held o = s.held o + if o = ⟨x, id⟩ then 1 else 0 :=
  held_set hnone (DeviceState.vars_acquire_self s x id)
    (fun _ heq => DeviceState.vars_acquire_of_ne s heq id) o

/-- What was owned before a release. -/
theorem held_release {id : Nat} (hsome : s.vars x = some id) (o : DeviceObject) :
    s.held o = (s.release x).held o + if o = ⟨x, id⟩ then 1 else 0 :=
  held_set (DeviceState.vars_release_self s x) hsome
    (fun _ heq => (DeviceState.vars_release_of_ne s heq).symm) o

/-- A release, when nothing is owned that has to go first. -/
theorem Account.release (h : Account s)
    (hlow : ∀ y id, s.vars y = some id → x.rank ≤ y.rank) : Account (s.release x) := by
  cases hvar : s.vars x with
  | none =>
      rw [DeviceState.release_none hvar]
      exact h
  | some id =>
      constructor
      case balanced =>
        rw [DeviceState.actions_release hvar]
        exact h.balanced.release (held_release hvar)
      case once =>
        intro o
        rw [DeviceState.actions_release hvar, Action.count_concat, if_neg (by simp)]
        exact h.once o
      case ordered =>
        rw [DeviceState.actions_release hvar]
        apply h.ordered.concat
        intro o ho
        exact h.below o x id ho hvar
      case below =>
        intro o y id' ho hy
        obtain ⟨-, hy⟩ := DeviceState.vars_of_release hy
        rw [DeviceState.actions_release hvar, List.mem_append, List.mem_singleton] at ho
        rcases ho with ho | ho
        · exact h.below o y id' ho hy
        · cases ho
          exact hlow y id' hy
      case destroyable =>
        intro id' hinst
        rw [DeviceState.block_release]
        exact h.destroyable id' (DeviceState.vars_of_release hinst).2

/-- An acquisition into a variable that has not been set; the rest of the block may
    change with it. -/
theorem Account.acquire (h : Account s) (hnone : s.vars x = none)
    (hnew : ∀ id, .acquire ⟨x, id⟩ ∉ s.actions)
    (hlow : ∀ o, .release o ∈ s.actions → o.rank ≤ x.rank) (id : Nat) (block : DeviceBlock)
    (hdestroy : x = .vkInst ∨ s.vars .vkInst ≠ none → block.procs .destroyInstance = true) :
    Account { s.acquire x id with block := block } := by
  have hactions : { s.acquire x id with block := block }.actions =
      s.actions ++ [.acquire ⟨x, id⟩] := s.actions_acquire x id
  constructor
  case balanced =>
    rw [hactions]
    exact h.balanced.acquire (held_acquire hnone id)
  case once =>
    intro o
    have honce := h.once o
    rw [hactions, Action.count_concat]
    by_cases heq : o = ⟨x, id⟩
    · have hzero : s.actions.count (.acquire o) = 0 :=
        List.count_eq_zero_of_not_mem (heq ▸ hnew id)
      rw [if_pos (congrArg Action.acquire heq)]
      omega
    · rw [if_neg (by simpa using heq)]
      omega
  case ordered =>
    rw [hactions]
    exact h.ordered.concat hlow
  case below =>
    intro o y id' ho hy
    rw [hactions, List.mem_append, List.mem_singleton] at ho
    rcases ho with ho | ho
    · by_cases heq : y = x
      · rw [heq]
        exact hlow o ho
      · have hold : s.vars y = some id' := (s.vars_acquire_of_ne heq id).symm.trans hy
        exact h.below o y id' ho hold
    · cases ho
  case destroyable =>
    intro id' hinst
    apply hdestroy
    by_cases heq : x = .vkInst
    · exact .inl heq
    · have hold : s.vars .vkInst = some id' :=
        (s.vars_acquire_of_ne (Ne.symm heq) id).symm.trans hinst
      exact .inr (by rw [hold]; exact Option.some_ne_none id')

theorem Running.acquire (h : Running failing n declared s) (hplace : n ≤ x.place)
    (hdecl : x.isLocal = true → x ∈ declared) (id : Nat) (block : DeviceBlock)
    (hdestroy : x = .vkInst ∨ s.vars .vkInst ≠ none → block.procs .destroyInstance = true) :
    Running failing (x.place + 1) declared { s.acquire x id with block := block } := by
  have hnone := h.vars_eq_none hplace
  have hnew : ∀ id, .acquire ⟨x, id⟩ ∉ s.actions := by
    intro id hmem
    have hlt := h.fresh ⟨x, id⟩ hmem
    exact absurd hlt (Nat.not_lt.mpr hplace)
  have hlow : ∀ o, .release o ∈ s.actions → o.rank ≤ x.rank := by
    intro o ho
    show o.var.rank ≤ x.rank
    rw [DeviceVar.rank_of_isLocal (h.temporary o ho)]
    exact Nat.zero_le _
  have hactions : { s.acquire x id with block := block }.actions =
      s.actions ++ [.acquire ⟨x, id⟩] := s.actions_acquire x id
  refine ⟨⟨h.leaving.account.acquire hnone hnew hlow id block hdestroy, ?_, h.leaving.failedDevice⟩,
    ?_, ?_⟩
  · intro y hlocal hnot
    have hne : y ≠ x := by
      rintro rfl
      exact hnot (hdecl hlocal)
    exact (s.vars_acquire_of_ne hne id).trans (h.leaving.scope y hlocal hnot)
  · intro o ho
    rw [hactions, List.mem_append, List.mem_singleton] at ho
    rcases ho with ho | ho
    · have hlt := h.fresh o ho
      omega
    · cases ho
      exact Nat.lt_succ_self _
  · intro o ho
    rw [hactions, List.mem_append, List.mem_singleton] at ho
    rcases ho with ho | ho
    · exact h.temporary o ho
    · cases ho

/-- The rest of the block changes. -/
theorem Running.setBlock (h : Running failing n declared s) (block : DeviceBlock)
    (hdestroy : s.block.procs .destroyInstance = true → block.procs .destroyInstance = true) :
    Running failing n declared { s with block := block } where
  leaving := {
    account := h.leaving.account.congr rfl rfl hdestroy
    scope := h.leaving.scope
    failedDevice := h.leaving.failedDevice }
  fresh := h.fresh
  temporary := h.temporary

/-- `failed_device = NULL`. -/
theorem Running.succeed (h : Running failing n declared s) :
    Running false n declared { s with failedDevice := false } where
  leaving := {
    account := h.leaving.account.congr rfl rfl fun hproc => hproc
    scope := h.leaving.scope
    failedDevice := rfl }
  fresh := h.fresh
  temporary := h.temporary

/-- A local can be released at any time. -/
theorem Leaving.releaseLocal (h : Leaving failing (x :: declared) s) (hlocal : x.isLocal = true) :
    Leaving failing declared (s.release x) where
  account := by
    apply h.account.release
    intro y id hy
    rw [DeviceVar.rank_of_isLocal hlocal]
    exact Nat.zero_le _
  scope := by
    intro y hy hnot
    by_cases heq : y = x
    · rw [heq]
      exact s.vars_release_self x
    · rw [s.vars_release_of_ne heq]
      exact h.scope y hy fun hmem => hnot ((List.mem_cons.mp hmem).resolve_left heq)
  failedDevice := by
    rw [DeviceState.failedDevice_release]
    exact h.failedDevice

theorem Running.releaseLocal (h : Running failing n (x :: declared) s) (hlocal : x.isLocal = true) :
    Running failing n declared (s.release x) := by
  refine ⟨h.leaving.releaseLocal hlocal, ?_, ?_⟩
  · intro o ho
    cases hvar : s.vars x with
    | none =>
        rw [DeviceState.release_none hvar] at ho
        exact h.fresh o ho
    | some id =>
        rw [DeviceState.actions_release hvar, List.mem_append, List.mem_singleton] at ho
        rcases ho with ho | ho
        · exact h.fresh o ho
        · cases ho
  · intro o ho
    cases hvar : s.vars x with
    | none =>
        rw [DeviceState.release_none hvar] at ho
        exact h.temporary o ho
    | some id =>
        rw [DeviceState.actions_release hvar, List.mem_append, List.mem_singleton] at ho
        rcases ho with ho | ho
        · exact h.temporary o ho
        · cases ho
          exact hlocal

end Steps

-- ============================================================================
-- DestroyDevice
-- ============================================================================

/-- While the block is taken apart: no local is left, and the fields in `done` are
    NULL. -/
structure Dismantling (done : List DeviceVar) (s : DeviceState) : Prop where
  account : Account s
  locals : ∀ x, x.isLocal = true → s.vars x = none
  done : ∀ x ∈ done, s.vars x = none

section Destroy

variable {done : List DeviceVar} {s : DeviceState} {x : DeviceVar}

/-- The next field is released, when everything of a smaller rank has been. -/
theorem Dismantling.release (h : Dismantling done s)
    (hlow : ∀ y, y.rank < x.rank → y.isLocal = false → y ∈ done) :
    Dismantling (x :: done) (s.release x) where
  account := by
    apply h.account.release
    intro y id hy
    by_contra hlt
    have hnone : s.vars y = none := by
      cases hlocal : y.isLocal with
      | true => exact h.locals y hlocal
      | false => exact h.done y (hlow y (Nat.lt_of_not_le hlt) hlocal)
    rw [hnone] at hy
    cases hy
  locals := by
    intro y hlocal
    by_cases heq : y = x
    · rw [heq]
      exact s.vars_release_self x
    · rw [s.vars_release_of_ne heq]
      exact h.locals y hlocal
  done := by
    intro y hy
    by_cases heq : y = x
    · rw [heq]
      exact s.vars_release_self x
    · rw [s.vars_release_of_ne heq]
      exact h.done y ((List.mem_cons.mp hy).resolve_left heq)

theorem Dismantling.flush (h : Dismantling done s) : Dismantling done (flushContext1 s) := by
  rw [flushContext1]
  split
  case h_1 => exact h
  case h_2 id hctx =>
    have hactions :
        { s with trace := s.trace ++ [DeviceEvent.flushed id] }.actions = s.actions := by
      show (s.trace ++ [DeviceEvent.flushed id]).filterMap DeviceEvent.action = s.actions
      rw [List.filterMap_append]
      exact List.append_nil _
    exact ⟨h.account.congr rfl hactions fun hproc => hproc, h.locals, h.done⟩

/-- The instance goes, because the function that destroys it was resolved. -/
theorem Dismantling.destroyInstance (h : Dismantling done s)
    (hlow : ∀ y, y.rank < 1 → y.isLocal = false → y ∈ done) :
    Dismantling (.vkInst :: done) (destroyInstance s) := by
  rw [VirtioWddm.destroyInstance]
  split
  case isTrue => exact h.release hlow
  case isFalse hproc =>
    refine ⟨h.account, h.locals, fun y hy => ?_⟩
    rcases List.mem_cons.mp hy with rfl | hy
    · cases hinst : s.vars .vkInst with
      | none => rfl
      | some id => exact absurd (h.account.destroyable id hinst) hproc
    · exact h.done y hy

theorem Dismantling.releaseEarly (h : Dismantling done s) (hrank : x.rank = 0) :
    Dismantling (x :: done) (s.release x) := by
  apply h.release
  intro y hy
  rw [hrank] at hy
  exact absurd hy (Nat.not_lt_zero _)

/-- Each object was acquired once and released once, while it was held and in the order
    of the ranks, and the block is zero. -/
structure AllReleased (s : DeviceState) : Prop where
  neverAbsent : Action.NeverAbsent s.actions
  acquiredOnce : ∀ o, s.actions.count (.acquire o) ≤ 1
  releasedOnce : ∀ o, .acquire o ∈ s.actions → s.actions.count (.release o) = 1
  ordered : Action.OrderedBy DeviceObject.rank s.actions
  zeroed : s.Zeroed

/-- When every field has been released, zeroing the block loses nothing. -/
theorem Dismantling.memset (h : Dismantling done s) (hdone : ∀ y, y.isLocal = false → y ∈ done) :
    AllReleased s.memset := by
  have hnone : ∀ y, s.vars y = none := by
    intro y
    cases hlocal : y.isLocal with
    | true => exact h.locals y hlocal
    | false => exact h.done y (hdone y hlocal)
  have hheld : ∀ o, s.held o = 0 := by
    intro o
    rw [DeviceState.held, hnone]
    exact if_neg (by simp)
  have hsettled := h.account.balanced.settled hheld
  refine ⟨h.account.balanced.neverAbsent, h.account.once, ?_, h.account.ordered, ?_, rfl⟩
  · intro o ho
    have honce := h.account.once o
    have hpos : 0 < s.actions.count (.acquire o) := List.count_pos_iff.mpr ho
    show s.actions.count (.release o) = 1
    rw [hsettled o]
    omega
  · intro y hlocal
    show (if y.isLocal = true then s.vars y else none) = none
    rw [hnone, ite_self]

/-- DestroyDevice releases everything that a block owns. -/
theorem Dismantling.destroyDevice (h : Dismantling [] s) :
    AllReleased (virtioWddmDestroyDevice s) := by
  have hfence := (h.releaseEarly (x := .pPresentFence) rfl).flush
  have hctx1 := hfence.releaseEarly (x := .pCtx1) rfl
  have hctx2 := hctx1.releaseEarly (x := .pCtx2) rfl
  have hctx3 := hctx2.releaseEarly (x := .pCtx3) rfl
  have hctx4 := hctx3.releaseEarly (x := .pCtx4) rfl
  have hdev1 := hctx4.releaseEarly (x := .pDev1) rfl
  have hdev2 := hdev1.releaseEarly (x := .pDev2) rfl
  have hdev3 := hdev2.releaseEarly (x := .pDev3) rfl
  have hdev5 := hdev3.releaseEarly (x := .pDev5) rfl
  have hqueue := hdev5.releaseEarly (x := .pagingQueue) rfl
  have hcontext := hqueue.releaseEarly (x := .presentContext) rfl
  have hadapter := hcontext.releaseEarly (x := .adapter) rfl
  -- only the instance and the libraries are left
  have hinst := hadapter.destroyInstance fun y => by cases y <;> decide
  have hvulkan := hinst.release (x := .vulkan) fun y => by cases y <;> decide
  have hicd := hvulkan.release (x := .icd) fun y => by cases y <;> decide
  exact hicd.memset fun y => by cases y <;> decide

end Destroy

-- ============================================================================
-- The stretches of CreateDevice
-- ============================================================================

/-- An early return with a failing code. -/
def Returns (declared : List DeviceVar) (hr : HRESULT) (s : DeviceState) : Prop :=
  failed hr = true ∧ Leaving true declared s

section Stretches

variable {n n' : Nat} {declared : List DeviceVar} {x : DeviceVar} {α : Type}

theorem ends_returnFailed (answer : Answer α) :
    Ends (Running true n declared) (returnFailed answer) (fun _ => Running true n declared)
      (Returns declared) := by
  cases answer with
  | ok a => exact Ends.pure fun s hs => hs
  | error hr => exact Ends.leave fun s hs => ⟨hr.property, hs.leaving⟩

theorem ends_returnNoSuccess (answer : Except VkError α) :
    Ends (Running true n declared) (returnNoSuccess answer) (fun _ => Running true n declared)
      (Returns declared) := by
  cases answer with
  | ok a => exact Ends.pure fun s hs => hs
  | error e => exact Ends.leave fun s hs => ⟨rfl, hs.leaving⟩

theorem ends_returnUnless (cond : Bool) {hr : HRESULT} (hfailed : failed hr = true) :
    Ends (Running true n declared) (returnUnless cond hr) (fun _ => Running true n declared)
      (Returns declared) := by
  apply Ends.ite
  · exact fun _ => Ends.pure fun s hs => hs
  · exact fun _ => Ends.leave fun s hs => ⟨hfailed, hs.leaving⟩

/-- An acquisition that is not of the instance. -/
theorem Running.acquireOther {s : DeviceState} (h : Running true n declared s)
    (hplace : n ≤ x.place)
    (hdecl : x.isLocal = true → x ∈ declared) (hinst : x ≠ .vkInst) (id : Nat) :
    Running true (x.place + 1) declared (s.acquire x id) := by
  apply h.acquire hplace hdecl id s.block
  rintro (heq | hset)
  · exact absurd heq hinst
  · obtain ⟨inst, hsome⟩ := Option.ne_none_iff_exists'.mp hset
    exact h.leaving.account.destroyable inst hsome

theorem ends_acquire {E : HRESULT → DeviceState → Prop} (hplace : n ≤ x.place)
    (hdecl : x.isLocal = true → x ∈ declared) (hinst : x ≠ .vkInst) (id : Nat) :
    Ends (Running true n declared) (modify fun s => s.acquire x id)
      (fun _ => Running true (x.place + 1) declared) E :=
  Ends.modify fun _ hs => hs.acquireOther hplace hdecl hinst id

/-- A call whose object goes into a variable. -/
theorem ends_acquireAnswer (hplace : n ≤ x.place) (hdecl : x.isLocal = true → x ∈ declared)
    (hinst : x ≠ .vkInst) (answer : Answer Nat) :
    Ends (Running true n declared)
      (do
        let id ← returnFailed answer
        modify fun s => s.acquire x id)
      (fun _ => Running true (x.place + 1) declared) (Returns declared) := by
  apply Ends.bind (ends_returnFailed answer)
  exact fun id => ends_acquire hplace hdecl hinst id

/-- Nothing but the libraries is there. -/
def OnlyLibraries (s : DeviceState) : Prop :=
  ∀ y id, s.vars y = some id → y.rank = 2

/-- Before anything else has been acquired. -/
theorem Running.onlyLibraries {s : DeviceState} (h : Running true n declared s) (hn : n ≤ 2) :
    OnlyLibraries s := by
  intro y id hy
  have hplace : y.place < 2 := by
    by_contra hge
    have hnone := h.vars_eq_none (x := y) (by omega)
    rw [hnone] at hy
    cases hy
  revert hplace
  cases y <;> decide

/-- The two exits that free the libraries themselves. -/
theorem ends_freeLibrary {m : CreateDevice α} {Q : α → DeviceState → Prop} (x : DeviceVar)
    (hm : Ends (fun s => Leaving true declared s ∧ OnlyLibraries s) m Q (Returns declared)) :
    Ends (fun s => Leaving true declared s ∧ OnlyLibraries s)
      (do
        modify fun s => s.release x
        m) Q (Returns declared) := by
  apply Ends.bind (Ends.modify (Q := fun _ s => Leaving true declared s ∧ OnlyLibraries s) ?_)
  · exact fun _ => hm
  · rintro s ⟨hleaving, hlibs⟩
    refine ⟨⟨?_, ?_, ?_⟩, ?_⟩
    · apply hleaving.account.release
      intro y id hy
      rw [hlibs y id hy]
      cases x <;> decide
    · intro y hlocal hnot
      by_cases heq : y = x
      · rw [heq]
        exact s.vars_release_self x
      · rw [s.vars_release_of_ne heq]
        exact hleaving.scope y hlocal hnot
    · rw [DeviceState.failedDevice_release]
      exact hleaving.failedDevice
    · intro y id hy
      exact hlibs y id (DeviceState.vars_of_release hy).2

theorem ends_leaveFreed {Q : α → DeviceState → Prop} :
    Ends (fun s => Leaving true declared s ∧ OnlyLibraries s) (leave E_FAIL : CreateDevice α) Q
      (Returns declared) :=
  Ends.leave fun _ hs => ⟨rfl, hs.1⟩

variable (env : CreateDeviceEnv)

theorem ends_loadLibraries :
    Ends (Running true 0 []) (loadLibraries env) (fun _ => Running true 2 []) (Returns []) := by
  rw [loadLibraries]
  cases loadIcd env.loader "droidvm_vulkan.dll" with
  | none => exact Ends.leave fun s hs => ⟨rfl, hs.leaving⟩
  | some vulkan =>
      apply Ends.bind (ends_acquire (x := .vulkan) (Nat.zero_le _) (fun h => by cases h)
        (fun h => by cases h) vulkan)
      intro _
      cases (loadVdrmIcd env).or (loadIcd env.loader "vulkan_virtio.dll") with
      | none =>
          apply Ends.conseq (ends_freeLibrary .vulkan ends_leaveFreed)
          · exact fun s hs => ⟨hs.leaving, hs.onlyLibraries (by decide)⟩
          · exact fun a s hs => hs
          · exact fun hr s hs => hs
      | some icd =>
          exact ends_acquire (x := .icd) (Nat.le_refl 1) (fun h => by cases h)
            (fun h => by cases h) icd

theorem ends_resolveIcdEntryPoint :
    Ends (Running true 2 []) (resolveIcdEntryPoint env) (fun _ => Running true 2 [])
      (Returns []) := by
  apply Ends.ite
  · exact fun _ => Ends.pure fun s hs => hs
  · intro _
    apply Ends.conseq (ends_freeLibrary .icd (ends_freeLibrary .vulkan ends_leaveFreed))
    · exact fun s hs => ⟨hs.leaving, hs.onlyLibraries (Nat.le_refl 2)⟩
    · exact fun a s hs => hs
    · exact fun hr s hs => hs

theorem ends_resolveEntryPoints :
    Ends (Running true 2 []) (resolveEntryPoints env) (fun _ => Running true 2 [])
      (Returns []) := by
  refine Ends.bind (ends_resolveIcdEntryPoint env) fun _ => ?_
  refine Ends.bind (ends_returnUnless _ rfl) fun _ => ?_
  exact ends_returnUnless _ rfl

/-- A `calloc` that may return NULL. -/
theorem ends_callocInto (hplace : n ≤ x.place) (hdecl : x.isLocal = true → x ∈ declared)
    (hinst : x ≠ .vkInst) (p : Option Nat) :
    Ends (Running true n declared) (callocInto x p) (fun _ => Running true (x.place + 1) declared)
      (Returns declared) := by
  cases p with
  | none => exact Ends.pure fun s hs => hs.mono (Nat.le_succ_of_le hplace) fun _ hy => hy
  | some id => exact ends_acquire hplace hdecl hinst id

theorem ends_enumerateExtensions (extensionCount : Nat) :
    Ends (Running true n declared) (enumerateExtensions env extensionCount)
      (fun _ => Running true n declared) (Returns declared) := by
  rw [enumerateExtensions]
  refine Ends.bind (ends_returnUnless _ rfl) fun _ => ?_
  refine Ends.bind (ends_returnNoSuccess _) fun names => ?_
  exact ends_returnUnless _ rfl

theorem ends_createInstance (hproc : env.vkDestroyInstance = true) (hplace : n ≤ 4) :
    Ends (Running true n declared) (createInstance env) (fun _ => Running true 5 declared)
      (Returns declared) := by
  rw [createInstance]
  refine Ends.bind (ends_returnNoSuccess _) fun vkInst => ?_
  apply Ends.modify
  intro s hs
  apply hs.acquire (x := .vkInst) hplace (fun h => by cases h) vkInst
  exact fun _ => hproc

theorem ends_createAdapter (hplace : n ≤ 5) :
    Ends (Running true n declared) (createAdapter env) (fun _ => Running true 7 declared)
      (Returns declared) := by
  rw [createAdapter]
  refine Ends.bind (ends_returnFailed _) fun factory => ?_
  -- the factory is in scope until it is released
  refine Ends.bind (Q := fun _ => Running true 6 (.factory :: declared)) (Ends.modify ?_)
    fun _ => ?_
  · intro s hs
    have hscope := hs.mono (Nat.le_refl n) fun y => List.mem_cons_of_mem DeviceVar.factory
    exact hscope.acquireOther (x := .factory) hplace (fun _ => List.mem_cons_self)
        (fun h => by cases h) factory
  · cases env.enumAdapterByLuid with
    | error hr =>
        refine Ends.bind (Q := fun _ => Running true 6 declared) (Ends.modify ?_) fun _ => ?_
        · exact fun s hs => hs.releaseLocal rfl
        · exact Ends.leave fun s hs => ⟨hr.property, hs.leaving⟩
    | ok adapter =>
        refine Ends.bind (ends_acquire (x := .adapter) (Nat.le_refl 6) (fun h => by cases h)
          (fun h => by cases h) adapter) fun _ => ?_
        exact Ends.modify fun s hs => hs.releaseLocal rfl

theorem ends_createD3d11Device (featureLevel : UINT) (hplace : n ≤ 7)
    (hdevice : .d3d11Device ∈ declared) (hcontext : .d3d11Context ∈ declared) :
    Ends (Running true n declared) (createD3d11Device env featureLevel)
      (fun _ => Running true 9 declared) (Returns declared) := by
  rw [createD3d11Device]
  refine Ends.bind (ends_returnFailed _) fun created => ?_
  refine Ends.bind (ends_acquire (x := .d3d11Device) hplace (fun _ => hdevice)
    (fun h => by cases h) created.device) fun _ => ?_
  refine Ends.bind (ends_acquire (x := .d3d11Context) (Nat.le_refl 8) (fun _ => hcontext)
    (fun h => by cases h) created.context) fun _ => ?_
  exact Ends.modify fun s hs => hs.setBlock _ fun h => h

/-- One `QueryInterface` into a field. -/
theorem ends_queryInterface (hplace : n ≤ x.place) (hfield : x.isLocal = false)
    (hinst : x ≠ .vkInst) :
    Ends (Running true n declared) (queryInterface env x)
      (fun _ => Running true (x.place + 1) declared) (Returns declared) := by
  apply ends_acquireAnswer hplace _ hinst
  rw [hfield]
  intro h
  cases h

theorem ends_queryInterfaces :
    Ends (Running true 9 declared) (queryInterfaces env) (fun _ => Running true 17 declared)
      (Returns declared) := by
  have hstep : ∀ x : DeviceVar, x.isLocal = false → x ≠ .vkInst →
      Ends (Running true x.place declared) (queryInterface env x)
        (fun _ => Running true (x.place + 1) declared) (Returns declared) :=
    fun x hfield hinst => ends_queryInterface env (Nat.le_refl _) hfield hinst
  refine Ends.bind (hstep .pDev1 rfl (fun h => by cases h)) fun _ => ?_
  refine Ends.bind (hstep .pDev2 rfl (fun h => by cases h)) fun _ => ?_
  refine Ends.bind (hstep .pDev3 rfl (fun h => by cases h)) fun _ => ?_
  refine Ends.bind (hstep .pDev5 rfl (fun h => by cases h)) fun _ => ?_
  refine Ends.bind (hstep .pCtx1 rfl (fun h => by cases h)) fun _ => ?_
  refine Ends.bind (hstep .pCtx2 rfl (fun h => by cases h)) fun _ => ?_
  refine Ends.bind (hstep .pCtx3 rfl (fun h => by cases h)) fun _ => ?_
  exact hstep .pCtx4 rfl (fun h => by cases h)

theorem ends_importVulkan (hproc : env.procs .destroyInstance = true) :
    Ends (Running true n declared) (importVulkan env) (fun _ => Running true n declared)
      (Returns declared) := by
  rw [importVulkan]
  refine Ends.bind (ends_returnFailed _) fun handles => ?_
  refine Ends.bind (Q := fun _ => Running true n declared) (Ends.modify ?_) fun _ => ?_
  · exact fun s hs => hs.setBlock _ fun h => h
  refine Ends.bind (Q := fun _ => Running true n declared) (Ends.get fun s hs => hs) fun _ => ?_
  refine Ends.bind (ends_returnUnless _ rfl) fun _ => ?_
  refine Ends.bind (Q := fun _ => Running true n declared) (Ends.modify ?_) fun _ => ?_
  · exact fun s hs => hs.setBlock _ fun _ => hproc
  exact ends_returnUnless _ rfl

theorem ends_createPresentFence (hplace : n ≤ 17) :
    Ends (Running true n declared) (createPresentFence env) (fun _ => Running true 18 declared)
      (Returns declared) := by
  rw [createPresentFence]
  refine Ends.bind (ends_returnFailed _) fun fence => ?_
  refine Ends.bind (ends_acquire (x := .pPresentFence) hplace (fun h => by cases h)
    (fun h => by cases h) fence) fun _ => ?_
  exact Ends.modify fun s hs => hs.setBlock _ fun h => h

theorem ends_createPresentContext (hplace : n ≤ 18) :
    Ends (Running true n declared) (createPresentContext env) (fun _ => Running true 19 declared)
      (Returns declared) :=
  ends_acquireAnswer (x := .presentContext) hplace (fun h => by cases h) (fun h => by cases h) _

theorem ends_initContext :
    Ends (Running true n declared) (initContext env) (fun _ => Running true n declared)
      (Returns declared) := by
  apply Ends.ite
  · exact fun _ => ends_returnFailed _
  · exact fun _ => Ends.pure fun s hs => hs

theorem ends_createPagingQueue (hplace : n ≤ 19) :
    Ends (Running true n declared) (createPagingQueue env) (fun _ => Running true 20 declared)
      (Returns declared) := by
  rw [createPagingQueue]
  refine Ends.bind (ends_returnFailed _) fun paging => ?_
  refine Ends.bind (ends_acquire (x := .pagingQueue) hplace (fun h => by cases h)
    (fun h => by cases h) paging.queue) fun _ => ?_
  exact Ends.modify fun s hs => hs.setBlock _ fun h => h

theorem ends_fillDeviceFuncs :
    Ends (Running true n declared) (fillDeviceFuncs env) (fun _ => Running true n declared)
      (Returns declared) :=
  ends_returnUnless _ rfl

/-- A scope of one local in which the function may return early or reach its end. -/
theorem ends_scope (hlocal : x.isLocal = true) {m : CreateDevice HRESULT}
    (hm : Ends (Running true n (x :: declared)) m
      (fun hr s => hr = S_OK ∧ Running false 20 (x :: declared) s) (Returns (x :: declared))) :
    Ends (Running true n declared) (atExit (·.release x) m)
      (fun hr s => hr = S_OK ∧ Running false 20 declared s) (Returns declared) := by
  refine Ends.conseq (P := Running true n (x :: declared)) (Ends.atExit hm ?_ ?_) ?_ ?_ ?_
    (Q := fun hr s => hr = S_OK ∧ Running false 20 declared s) (E := Returns declared)
  · exact fun hr s hs => ⟨hs.1, hs.2.releaseLocal hlocal⟩
  · exact fun hr s hs => ⟨hs.1, hs.2.releaseLocal hlocal⟩
  · exact fun s hs => hs.mono (Nat.le_refl n) fun y => List.mem_cons_of_mem x
  · exact fun hr s hs => hs
  · exact fun hr s hs => hs

theorem ends_setUpDevice (hproc : env.procs .destroyInstance = true) (featureLevel : UINT)
    (hdevice : .d3d11Device ∈ declared) (hcontext : .d3d11Context ∈ declared) :
    Ends (Running true 7 declared) (setUpDevice env featureLevel)
      (fun hr s => hr = S_OK ∧ Running false 20 declared s) (Returns declared) := by
  rw [setUpDevice]
  refine Ends.bind (ends_createD3d11Device env featureLevel (Nat.le_refl 7) hdevice hcontext)
    fun _ => ?_
  refine Ends.bind (ends_queryInterfaces env) fun _ => ?_
  refine Ends.bind (ends_importVulkan env hproc) fun _ => ?_
  refine Ends.bind (ends_createPresentFence env (Nat.le_refl 17)) fun _ => ?_
  refine Ends.bind (ends_createPresentContext env (Nat.le_refl 18)) fun _ => ?_
  refine Ends.bind (ends_initContext env) fun _ => ?_
  refine Ends.bind (ends_createPagingQueue env (Nat.le_refl 19)) fun _ => ?_
  refine Ends.bind (ends_fillDeviceFuncs env) fun _ => ?_
  refine Ends.bind (Q := fun _ => Running false 20 declared) (Ends.modify ?_) fun _ => ?_
  · exact fun s hs => hs.succeed
  · exact Ends.pure fun s hs => ⟨rfl, hs⟩

theorem ends_setUpInstance (hinst : env.vkDestroyInstance = true)
    (hproc : env.procs .destroyInstance = true) :
    Ends (Running true 4 declared) (setUpInstance env)
      (fun hr s => hr = S_OK ∧ Running false 20 declared s) (Returns declared) := by
  rw [setUpInstance]
  refine Ends.bind (ends_createInstance env hinst (Nat.le_refl 4)) fun _ => ?_
  refine Ends.bind (ends_createAdapter env (Nat.le_refl 5)) fun _ => ?_
  cases featureLevelOf env.pipelineLevel with
  | none => exact Ends.leave fun s hs => ⟨rfl, hs.leaving⟩
  | some featureLevel =>
      apply ends_scope rfl
      apply ends_scope rfl
      exact ends_setUpDevice env hproc featureLevel (List.mem_cons_of_mem _ List.mem_cons_self)
        List.mem_cons_self

theorem ends_createDeviceBody (hinst : env.vkDestroyInstance = true)
    (hproc : env.procs .destroyInstance = true) :
    Ends (Running true 0 []) (createDeviceBody env)
      (fun hr s => hr = S_OK ∧ Running false 20 [] s) (Returns []) := by
  rw [createDeviceBody]
  refine Ends.bind (ends_loadLibraries env) fun _ => ?_
  refine Ends.bind (ends_resolveEntryPoints env) fun _ => ?_
  refine Ends.bind (ends_returnNoSuccess _) fun extensionCount => ?_
  apply ends_scope rfl
  refine Ends.bind (ends_callocInto (x := .extensionProps) (Nat.le_refl 2)
    (fun _ => List.mem_cons_self) (fun h => by cases h) _) fun _ => ?_
  apply ends_scope rfl
  refine Ends.bind (ends_callocInto (x := .extensionNames) (Nat.le_refl 3)
    (fun _ => List.mem_cons_self) (fun h => by cases h) _) fun _ => ?_
  refine Ends.bind (ends_enumerateExtensions env extensionCount) fun _ => ?_
  exact ends_setUpInstance env hinst hproc

end Stretches

-- ============================================================================
-- CreateDevice
-- ============================================================================

/-- The loader resolves `vkDestroyInstance` for the instance, both times. -/
structure CreateDeviceEnv.ResolvesDestroyInstance (env : CreateDeviceEnv) : Prop where
  created : env.vkDestroyInstance = true
  resolved : env.procs .destroyInstance = true

/-- Of the objects acquired the temporaries have been released, once and while they were
    held, and the others are in their fields. -/
structure Kept (s : DeviceState) : Prop where
  neverAbsent : Action.NeverAbsent s.actions
  acquiredOnce : ∀ o, s.actions.count (.acquire o) ≤ 1
  temporaries : ∀ o, .acquire o ∈ s.actions →
    s.actions.count (.release o) = if o.var.isLocal then 1 else 0
  fields : ∀ o, .acquire o ∈ s.actions → o.var.isLocal = false → s.vars o.var = some o.id

theorem Running.kept {failing : Bool} {n : Nat} {s : DeviceState} (h : Running failing n [] s) :
    Kept s := by
  have hone : ∀ o, .acquire o ∈ s.actions → s.actions.count (.release o) + s.held o = 1 := by
    intro o ho
    have honce := h.leaving.account.once o
    have hpos : 0 < s.actions.count (.acquire o) := List.count_pos_iff.mpr ho
    have hcount := h.leaving.account.balanced.count o
    omega
  refine ⟨h.leaving.account.balanced.neverAbsent, h.leaving.account.once, ?_, ?_⟩
  · intro o ho
    have hsum := hone o ho
    cases hlocal : o.var.isLocal with
    | true =>
        have hnone := h.leaving.scope o.var hlocal List.not_mem_nil
        rw [DeviceState.held, hnone, if_neg (by simp)] at hsum
        simpa using hsum
    | false =>
        have hnot : .release o ∉ s.actions := by
          intro hmem
          have htemp := h.temporary o hmem
          rw [hlocal] at htemp
          cases htemp
        simpa using List.count_eq_zero_of_not_mem hnot
  · intro o ho hfield
    have hsum := hone o ho
    have hnot : .release o ∉ s.actions := by
      intro hmem
      have htemp := h.temporary o hmem
      rw [hfield] at htemp
      cases htemp
    rw [List.count_eq_zero_of_not_mem hnot, DeviceState.held] at hsum
    by_contra hne
    rw [if_neg hne] at hsum
    omega

/-- On entry nothing has been acquired. -/
theorem running_onEntry (memory : DeviceState) (block : DeviceBlock) :
    Running true 0 []
      { memory.onEntry.memset with
        failedDevice := true
        block := block } := by
  have hnone : ∀ x, memory.onEntry.memset.vars x = none := by
    intro x
    show (if x.isLocal = true then (if x.isLocal = true then none else memory.vars x) else none) =
      none
    split
    case isTrue => rfl
    case isFalse => rfl
  refine ⟨⟨⟨⟨Action.Balanced.nil.neverAbsent, ?_⟩, ?_, .nil, ?_, ?_⟩, ?_, rfl⟩, ?_, ?_⟩
  · intro o
    show 0 = 0 + if memory.onEntry.memset.vars o.var = some o.id then 1 else 0
    rw [hnone, if_neg (by simp)]
  · exact fun _ => Nat.zero_le 1
  · exact fun o x id ho => absurd ho List.not_mem_nil
  · intro id hinst
    have hcontra := (hnone .vkInst).symm.trans hinst
    cases hcontra
  · exact fun x _ _ => hnone x
  · exact fun o ho => absurd ho List.not_mem_nil
  · exact fun o ho => absurd ho List.not_mem_nil

/-- When CreateDevice fails it has released everything that it acquired; when it succeeds
    it has released its temporaries, and DestroyDevice releases everything else however
    the rest of the state has changed by then. -/
theorem createDevice_allOrNothing (env : CreateDeviceEnv) (hproc : env.ResolvesDestroyInstance)
    (memory : DeviceState) :
    (failed (virtioWddmCreateDevice env memory).1 = true →
      AllReleased (virtioWddmCreateDevice env memory).2) ∧
    (failed (virtioWddmCreateDevice env memory).1 = false →
      Kept (virtioWddmCreateDevice env memory).2 ∧
      ∀ later : DeviceState,
        later.vars = (virtioWddmCreateDevice env memory).2.vars →
        later.block.procs = (virtioWddmCreateDevice env memory).2.block.procs →
        later.trace = (virtioWddmCreateDevice env memory).2.trace →
        AllReleased (virtioWddmDestroyDevice later)) := by
  have hbody := ends_createDeviceBody env hproc.created hproc.resolved
  have hends : Ends (Running true 0 []) (atExit cleanupFailedDevice (createDeviceBody env))
      (fun hr s => hr = S_OK ∧ Running false 20 [] s)
      (fun hr s => failed hr = true ∧ AllReleased s) := by
    apply Ends.atExit hbody
    · rintro hr s ⟨hok, hs⟩
      rw [cleanupFailedDevice, if_neg (by rw [hs.leaving.failedDevice]; exact Bool.false_ne_true)]
      exact ⟨hok, hs⟩
    · rintro hr s ⟨hfailed, hs⟩
      rw [cleanupFailedDevice, if_pos hs.failedDevice]
      have hall : Dismantling [] s :=
        ⟨hs.account, fun x hlocal => hs.scope x hlocal List.not_mem_nil, fun _ h => absurd h
          List.not_mem_nil⟩
      exact ⟨hfailed, hall.destroyDevice⟩
  rcases hends.returned (running_onEntry memory _) with ⟨hok, hs⟩ | ⟨hfailed, hs⟩
  · have hsucceeded : failed (virtioWddmCreateDevice env memory).1 = false := by
      rw [virtioWddmCreateDevice, hok]
      exact failed_S_OK
    refine ⟨fun h => ?_, fun _ => ⟨hs.kept, fun later hvars hprocs htrace => ?_⟩⟩
    · rw [hsucceeded] at h
      cases h
    · have hactions : later.actions = (virtioWddmCreateDevice env memory).2.actions := by
        rw [DeviceState.actions, htrace]
        rfl
      have hlater : Dismantling [] later := by
        refine ⟨hs.leaving.account.congr hvars hactions ?_, fun x hlocal => ?_, ?_⟩
        · exact fun hdestroy => hprocs ▸ hdestroy
        · rw [hvars]
          exact hs.leaving.scope x hlocal List.not_mem_nil
        · exact fun x hx => absurd hx List.not_mem_nil
      exact hlater.destroyDevice
  · refine ⟨fun _ => hs, fun h => ?_⟩
    have hcontra := hfailed.symm.trans h
    cases hcontra

/-- Calls that all succeed. -/
def CreateDeviceEnv.allOk : CreateDeviceEnv where
  supportedCapsets := VIRTIO_WDDM_CAPSET_MASK_DRM
  pipelineLevel := .level11_0
  interface := .wddm2_1
  loader := {
    umdModule := true
    lastSlash := true
    copied := fun _ => true
    loadLibrary := fun icdName => some icdName.length }
  drmContextType := .ok 1
  icdGetInstanceProcAddr := true
  vkGetInstanceProcAddr := true
  vkGetDeviceProcAddr := true
  vkCreateInstance := true
  vkEnumerateInstanceExtensionProperties := true
  extensionCount := .ok 1
  callocProps := some 1
  callocNames := some 2
  extensions := .ok ["VK_LUNARG_direct_driver_loading"]
  createInstance := .ok 3
  vkDestroyInstance := true
  createFactory := .ok 4
  enumAdapterByLuid := .ok 5
  createD3d11Device := fun featureLevel =>
    .ok { device := 6, context := 7, featureLevel := featureLevel }
  queryInterface := fun x => .ok x.place
  getVulkanHandles := .ok { vkInst := some 3, vkPhys := some 8, vk := some 9 }
  procs := fun _ => true
  createFence := .ok 10
  createContext := .ok 11
  contextInit := .ok ()
  createPagingQueue := .ok { queue := 12, syncObject := 13, fenceValue := 14 }

/-- The variables something was acquired through, in the order of acquisition. -/
def DeviceState.acquiredVars (s : DeviceState) : List DeviceVar :=
  s.actions.filterMap fun
    | .acquire o => some o.var
    | .release _ => none

/-- The variables CreateDevice fills, in the order in which it does. -/
def DeviceVar.inOrder : List DeviceVar :=
  [.vulkan, .icd, .extensionProps, .extensionNames, .vkInst, .factory, .adapter, .d3d11Device,
    .d3d11Context, .pDev1, .pDev2, .pDev3, .pDev5, .pCtx1, .pCtx2, .pCtx3, .pCtx4,
    .pPresentFence, .presentContext, .pagingQueue]

/-- Both ways: calls that all succeed, which acquire something through every variable,
    and a paging queue that is refused when everything else has been acquired. -/
theorem createDevice_allOrNothing_allOk :
    (virtioWddmCreateDevice .allOk {}).1 = S_OK ∧
    (virtioWddmCreateDevice .allOk {}).2.acquiredVars = DeviceVar.inOrder ∧
    Kept (virtioWddmCreateDevice .allOk {}).2 ∧
    AllReleased (virtioWddmDestroyDevice (virtioWddmCreateDevice .allOk {}).2) ∧
    (virtioWddmCreateDevice
      { CreateDeviceEnv.allOk with createPagingQueue := .error ⟨E_FAIL, rfl⟩ } {}).1 = E_FAIL ∧
    (virtioWddmCreateDevice
      { CreateDeviceEnv.allOk with createPagingQueue := .error ⟨E_FAIL, rfl⟩ } {}).2.acquiredVars =
        DeviceVar.inOrder.dropLast ∧
    AllReleased (virtioWddmCreateDevice
      { CreateDeviceEnv.allOk with createPagingQueue := .error ⟨E_FAIL, rfl⟩ } {}).2 := by
  obtain ⟨hkept, hdestroy⟩ := (createDevice_allOrNothing .allOk ⟨rfl, rfl⟩ {}).2 rfl
  have hreleased := (createDevice_allOrNothing { CreateDeviceEnv.allOk with
    createPagingQueue := .error ⟨E_FAIL, rfl⟩ } ⟨rfl, rfl⟩ {}).1 rfl
  exact ⟨rfl, rfl, hkept, hdestroy _ rfl rfl rfl, rfl, rfl, hreleased⟩

end VirtioWddm
