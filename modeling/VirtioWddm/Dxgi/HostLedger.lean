/-
  VirtioWddm.Dxgi.HostLedger

  Host textures, images and memories over whole runs of CreateResource,
  OpenResource, RotateResourceIdentities and DestroyResource.

  Rotation copies whole private blocks, so the objects of a creation travel from
  handle to handle.  The history labels each action with the creation whose objects
  it is about; a creation's own word is complete once the handle its block has
  reached is destroyed.
-/

import VirtioWddm.Dxgi.Rotate
import VirtioWddm.Resource.Attribution
import VirtioWddm.Resource.HostObjects

namespace VirtioWddm

open Lib

-- ============================================================================
-- The system
-- ============================================================================

/-- The driver's memory, the handles not yet destroyed, the creation whose objects
    each handle's block holds, the number of creations so far, and what happened to
    host objects, each action under its creation. -/
structure HostWorld where
  heap : Heap
  alive : ResourceAddr → Prop
  madeBy : ResourceAddr → Nat
  creations : Nat
  history : List (Nat × Action HostObject)

namespace HostWorld

variable (w : HostWorld)

/-- What happened to the objects of creation `n`. -/
def word (n : Nat) : List (Action HostObject) :=
  w.history.filterMap fun e => if e.1 = n then some e.2 else none

/-- After a creation on `slot`; the runtime destroys the handle whether or not it
    failed. -/
def created (slot : ResourceAddr) (r : VirtioWddmResource) (s : CallState) : HostWorld where
  heap := w.heap.setResource slot r
  alive := fun r' => r' = slot ∨ w.alive r'
  madeBy := Function.update w.madeBy slot w.creations
  creations := w.creations + 1
  history := w.history ++ s.hostActions.map fun a => (w.creations, a)

/-- After a rotation of `slots`: a creation moves with its block. -/
def rotated (slots : List ResourceAddr) (heap : Heap) : HostWorld :=
  { w with heap := heap, madeBy := shift (Split.whole Nat).take slots w.madeBy }

/-- After DestroyResource on `slot`. -/
def destroyed (slot : ResourceAddr) (r : VirtioWddmResource) (s : CallState) : HostWorld :=
  { w with
    heap := w.heap.setResource slot r
    alive := fun r' => r' ≠ slot ∧ w.alive r'
    history := w.history ++ s.hostActions.map fun a => (w.madeBy slot, a) }

end HostWorld

/-- One call, whatever the callbacks, Vulkan and the host answer. -/
inductive HostStep (w : HostWorld) : HostWorld → Prop where
  | createResource (env : DeviceEnv) (pArgs : CreateResourceArgs) (hRTResource : HANDLE)
      (slot : ResourceAddr) (hfree : ¬w.alive slot) (hno : NoObjectOnFailure env)
      (record : RuntimeAllocRecord) (scope : RuntimeAllocScope) (s' : CallState)
      (r : VirtioWddmResource)
      (hrun : Runs (virtioWddmCreateResource env pArgs hRTResource)
        { lastRuntimeAlloc := record, runtimeAllocScope := scope } r s') :
      HostStep w (w.created slot r s')
  | openResource (env : DeviceEnv) (pArgs : OpenResourceArgs) (hRTResource : HANDLE)
      (slot : ResourceAddr) (hfree : ¬w.alive slot) (hno : NoObjectOnFailure env)
      (record : RuntimeAllocRecord) (scope : RuntimeAllocScope) (s' : CallState)
      (r : VirtioWddmResource)
      (hrun : Runs (virtioWddmOpenResource env pArgs hRTResource)
        { lastRuntimeAlloc := record, runtimeAllocScope := scope } r s') :
      HostStep w (w.created slot r s')
  | rotateResourceIdentities (d3d11 : Bool) (host : Nat → HostViewReply) (fuel : Nat)
      (slots : List ResourceAddr) (hdistinct : slots.Nodup) (halive : ∀ r ∈ slots, w.alive r)
      (res : RotateResult)
      (hrun : virtioWddmRotateResourceIdentities d3d11 host fuel slots w.heap = some res) :
      HostStep w (w.rotated slots res.heap)
  | destroyResource (env : DeviceEnv) (slot : ResourceAddr) (halive : w.alive slot)
      (record : RuntimeAllocRecord) (scope : RuntimeAllocScope) (s' : CallState)
      (r : VirtioWddmResource)
      (hrun : Runs (virtioWddmDestroyResource env (w.heap.resources slot))
        { lastRuntimeAlloc := record, runtimeAllocScope := scope } r s') :
      HostStep w (w.destroyed slot r s')

/-- Before the first call. -/
def HostWorld.Initial (w : HostWorld) : Prop :=
  (∀ r, ¬w.alive r) ∧ w.history = []

-- ============================================================================
-- Words
-- ============================================================================

theorem word_append_same (w : HostWorld) {w' : HostWorld} {n : Nat}
    {acts : List (Action HostObject)}
    (h : w'.history = w.history ++ acts.map fun a => (n, a)) : w'.word n = w.word n ++ acts := by
  rw [HostWorld.word, h, List.filterMap_append, List.filterMap_map]
  congr 1
  induction acts with
  | nil => rfl
  | cons a acts ih => simp

theorem word_append_other (w : HostWorld) {w' : HostWorld} {n m : Nat}
    {acts : List (Action HostObject)}
    (h : w'.history = w.history ++ acts.map fun a => (n, a)) (hne : n ≠ m) :
    w'.word m = w.word m := by
  have hnone : (acts.map fun a => (n, a)).filterMap
      (fun e : Nat × Action HostObject => if e.1 = m then some e.2 else none) = [] := by
    rw [List.filterMap_eq_nil_iff]
    intro e he
    obtain ⟨a, -, rfl⟩ := List.mem_map.mp he
    exact if_neg hne
  rw [HostWorld.word, h, List.filterMap_append, hnone, List.append_nil]
  rfl

-- ============================================================================
-- The invariant
-- ============================================================================

/-- The word of a creation that is over. -/
structure Complete (word : List (Action HostObject)) : Prop where
  replay : Action.replay [] word = some []
  inOrder : ReleasedInOrder word

/-- The block of every living handle holds what is left of its creation, no two of
    them the same creation's, and every other creation is over. -/
structure HostObjectsHeld (w : HostWorld) : Prop where
  held : ∀ r, w.alive r → LeavesBlock (w.word (w.madeBy r)) (w.heap.resources r)
  distinct : ∀ r r', w.alive r → w.alive r' → w.madeBy r = w.madeBy r' → r = r'
  past : ∀ r, w.alive r → w.madeBy r < w.creations
  future : ∀ n, w.creations ≤ n → w.word n = []
  complete : ∀ n, (∀ r, w.alive r → w.madeBy r ≠ n) → Complete (w.word n)

namespace HostObjectsHeld

variable {w : HostWorld}

theorem created (h : HostObjectsHeld w) {slot : ResourceAddr} (hfree : ¬w.alive slot)
    {r : VirtioWddmResource} {s : CallState} (hblock : LeavesBlock s.hostActions r) :
    HostObjectsHeld (w.created slot r s) := by
  have hself : (w.created slot r s).madeBy slot = w.creations := Function.update_self ..
  have hother : ∀ {r'}, r' ≠ slot → (w.created slot r s).madeBy r' = w.madeBy r' :=
    fun hne => Function.update_of_ne hne ..
  have hword : (w.created slot r s).word w.creations = s.hostActions := by
    have happend : (w.created slot r s).word w.creations =
        w.word w.creations ++ s.hostActions := word_append_same w rfl
    rw [happend, h.future _ (Nat.le_refl _), List.nil_append]
  have hwords : ∀ {n}, n ≠ w.creations → (w.created slot r s).word n = w.word n :=
    fun hne => word_append_other w (n := w.creations) rfl hne.symm
  have hcases : ∀ r', (w.created slot r s).alive r' → r' = slot ∨ (r' ≠ slot ∧ w.alive r') := by
    intro r' hr'
    by_cases hslot : r' = slot
    · exact .inl hslot
    · exact .inr ⟨hslot, hr'.resolve_left hslot⟩
  constructor
  case held =>
    intro r' hr'
    rcases hcases r' hr' with rfl | ⟨hslot, hold⟩
    · have hres : (w.created r' r s).heap.resources r' = r := Function.update_self ..
      rw [hself, hword, hres]
      exact hblock
    · have hres : (w.created slot r s).heap.resources r' = w.heap.resources r' :=
        Function.update_of_ne hslot ..
      have hpast := h.past r' hold
      rw [hother hslot, hres, hwords (by omega)]
      exact h.held r' hold
  case distinct =>
    intro r₁ r₂ h₁ h₂ heq
    rcases hcases r₁ h₁ with rfl | ⟨hslot₁, hold₁⟩ <;>
      rcases hcases r₂ h₂ with rfl | ⟨hslot₂, hold₂⟩
    · rfl
    · have hpast := h.past r₂ hold₂
      rw [hself, hother hslot₂] at heq
      omega
    · have hpast := h.past r₁ hold₁
      rw [hself, hother hslot₁] at heq
      omega
    · rw [hother hslot₁, hother hslot₂] at heq
      exact h.distinct r₁ r₂ hold₁ hold₂ heq
  case past =>
    intro r' hr'
    show (w.created slot r s).madeBy r' < w.creations + 1
    rcases hcases r' hr' with rfl | ⟨hslot, hold⟩
    · rw [hself]
      omega
    · have hpast := h.past r' hold
      rw [hother hslot]
      omega
  case future =>
    intro n hn
    change w.creations + 1 ≤ n at hn
    rw [hwords (by omega)]
    exact h.future n (by omega)
  case complete =>
    intro n hn
    have hne : n ≠ w.creations := by
      intro heq
      exact hn slot (.inl rfl) (hself.trans heq.symm)
    rw [hwords hne]
    refine h.complete n fun r' hr' => ?_
    have hslot : r' ≠ slot := by
      rintro rfl
      exact hfree hr'
    have hnot := hn r' (.inr hr')
    rwa [hother hslot] at hnot

/-- A rotation permutes the blocks and their creations alike. -/
theorem rotated (h : HostObjectsHeld w) {d3d11 : Bool} {host : Nat → HostViewReply} {fuel : Nat}
    {slots : List ResourceAddr} (hdistinct : slots.Nodup) (halive : ∀ r ∈ slots, w.alive r)
    {res : RotateResult}
    (hrun : virtioWddmRotateResourceIdentities d3d11 host fuel slots w.heap = some res) :
    HostObjectsHeld (w.rotated slots res.heap) := by
  have hblock : ∀ r, (w.rotated slots res.heap).heap.resources r =
      takeIdentity (w.heap.resources r) (w.heap.resources (slots.formPerm r)) :=
    rotate_formPerm hdistinct hrun
  have hmade : ∀ r, (w.rotated slots res.heap).madeBy r = w.madeBy (slots.formPerm r) :=
    (Split.whole Nat).shift_eq_formPerm hdistinct w.madeBy
  have hnext : ∀ r, w.alive r ↔ w.alive (slots.formPerm r) := fun r =>
    (Split.formPerm_iff halive r).symm
  refine ⟨fun r hr => ?_, fun r r' hr hr' heq => ?_, fun r hr => ?_, h.future, fun n hn => ?_⟩
  · rw [hblock, hmade]
    exact h.held _ ((hnext r).mp hr)
  · rw [hmade, hmade] at heq
    exact slots.formPerm.injective (h.distinct _ _ ((hnext r).mp hr) ((hnext r').mp hr') heq)
  · rw [hmade]
    exact h.past _ ((hnext r).mp hr)
  · refine h.complete n fun r hr => ?_
    -- the handle the block of `r` has moved to
    obtain ⟨r', rfl⟩ := slots.formPerm.surjective r
    rw [← hmade]
    exact hn r' ((hnext r').mpr hr)

/-- DestroyResource completes the word of the creation it finds in the block. -/
theorem destroyed (h : HostObjectsHeld w) {slot : ResourceAddr} (halive : w.alive slot)
    (r : VirtioWddmResource) {s : CallState}
    (hs : s.hostActions = (w.heap.resources slot).hostObjects.map Action.release) :
    HostObjectsHeld (w.destroyed slot r s) := by
  have hword : (w.destroyed slot r s).word (w.madeBy slot) =
      w.word (w.madeBy slot) ++ (w.heap.resources slot).hostObjects.map Action.release := by
    rw [← hs]
    exact word_append_same w rfl
  have hwords : ∀ {n}, n ≠ w.madeBy slot → (w.destroyed slot r s).word n = w.word n :=
    fun hne => word_append_other w (n := w.madeBy slot) rfl hne.symm
  refine ⟨fun r' hr' => ?_, fun r₁ r₂ h₁ h₂ => h.distinct r₁ r₂ h₁.2 h₂.2,
    fun r' hr' => h.past r' hr'.2, fun n hn => ?_, fun n hn => ?_⟩
  · have hres : (w.destroyed slot r s).heap.resources r' = w.heap.resources r' :=
      Function.update_of_ne hr'.1 ..
    have hne : w.madeBy r' ≠ w.madeBy slot := fun heq => hr'.1 (h.distinct r' slot hr'.2 halive heq)
    show LeavesBlock ((w.destroyed slot r s).word (w.madeBy r')) _
    rw [hres, hwords hne]
    exact h.held r' hr'.2
  · have hpast := h.past slot halive
    change w.creations ≤ n at hn
    rw [hwords (by omega)]
    exact h.future n hn
  · by_cases hne : n = w.madeBy slot
    · rw [hne, hword]
      have hheld := h.held slot halive
      exact ⟨CreationWord.replay_released hheld, CreationWord.inOrder_released hheld⟩
    · rw [hwords hne]
      refine h.complete n fun r' hr' heq => ?_
      have hslot : r' ≠ slot := by
        rintro rfl
        exact hne heq.symm
      exact hn r' ⟨hslot, hr'⟩ heq

/-- Every call keeps the invariant. -/
theorem step (h : HostObjectsHeld w) {w' : HostWorld} (hstep : HostStep w w') :
    HostObjectsHeld w' := by
  cases hstep with
  | createResource env pArgs hRTResource slot hfree hno record scope s' r hrun =>
      exact h.created hfree ((runs_virtioWddmCreateResource hrun).leavesBlock hno rfl)
  | openResource env pArgs hRTResource slot hfree hno record scope s' r hrun =>
      exact h.created hfree ((runs_virtioWddmOpenResource hrun).leavesBlock hno rfl)
  | rotateResourceIdentities d3d11 host fuel slots hdistinct halive res hrun =>
      exact h.rotated hdistinct halive hrun
  | destroyResource env slot halive record scope s' r hrun =>
      obtain ⟨-, rfl⟩ := runs_virtioWddmDestroyResource.mp hrun
      exact h.destroyed halive r (hostActions_destroyed _ env _)

theorem of_reach (h : Reach HostWorld.Initial HostStep w) : HostObjectsHeld w := by
  refine Reach.invariant HostObjectsHeld ?_ ?_ h
  · intro w hw
    have hword : ∀ n, w.word n = [] := by
      intro n
      rw [HostWorld.word, hw.2]
      rfl
    refine ⟨fun r hr => absurd hr (hw.1 r), fun r _ hr => absurd hr (hw.1 r),
      fun r hr => absurd hr (hw.1 r), fun n _ => hword n, fun n _ => ?_⟩
    rw [hword]
    exact ⟨rfl, List.Pairwise.nil⟩
  · intro w w' hw hstep
    exact hw.step hstep

end HostObjectsHeld

-- ============================================================================
-- Every run
-- ============================================================================

/-- In every run the objects of each creation are released only while they are held,
    the texture before the image before the memory and each at most once; and when
    every handle has been destroyed, each was released as often as it was
    acquired. -/
theorem host_objects_released {w : HostWorld} (h : Reach HostWorld.Initial HostStep w) :
    (∀ n, Action.NeverAbsent (w.word n) ∧ ReleasedInOrder (w.word n)) ∧
    ((∀ r, ¬w.alive r) → ∀ n, Action.Settled (w.word n)) := by
  have hheld := HostObjectsHeld.of_reach h
  refine ⟨fun n => ?_, fun hdone n => ?_⟩
  · by_cases hn : ∃ r, w.alive r ∧ w.madeBy r = n
    · obtain ⟨r, hr, rfl⟩ := hn
      have hblock := hheld.held r hr
      obtain ⟨held, hreplay⟩ := CreationWord.replay hblock
      exact ⟨Action.neverAbsent_of_replay hreplay, CreationWord.inOrder hblock⟩
    · have hcomplete := hheld.complete n fun r hr heq => hn ⟨r, hr, heq⟩
      exact ⟨Action.neverAbsent_of_replay hcomplete.replay, hcomplete.inOrder⟩
  · have hcomplete := hheld.complete n fun r hr => absurd hr (hdone r)
    exact Action.settled_of_replay hcomplete.replay

/-- A device on which no memory type fits an image. -/
def noMemoryTypeEnv : DeviceEnv :=
  { DeviceEnv.allOk true (.other 0) retryHooks with
    vk := { VkEnv.allOk retryHooks with createImage := .ok ⟨2⟩, memoryTypes := [] } }

/-- What CreateResource leaves for a present buffer on a device. -/
def hostCreated (env : DeviceEnv) : VirtioWddmResource × CallState :=
  (virtioWddmCreateResource env presentArgs 5 {}).toOption.getD ({}, {})

/-- Before the first call, with cleared memory. -/
def emptyHost : HostWorld where
  heap := { resources := fun _ => {}, views := (sampleHeap 0).views }
  alive := fun _ => False
  madeBy := fun _ => 0
  creations := 0
  history := []

/-- A buffer, and one whose creation failed with the image left in its block. -/
def hostPair : HostWorld :=
  let ok := hostCreated (.allOk true (.other 0) retryHooks)
  let kept := hostCreated noMemoryTypeEnv
  (emptyHost.created 1 ok.1 ok.2).created 2 kept.1 kept.2

/-- The same after a rotation. -/
def rotatedPair : HostWorld :=
  hostPair.rotated [1, 2]
    { hostPair.heap with resources := shift takeIdentity [1, 2] hostPair.heap.resources }

/-- The end of a run that destroys both. -/
def destroyedPair : HostWorld :=
  let env := DeviceEnv.allOk true (.other 0) []
  let first := rotatedPair.destroyed 1 {}
    (({} : CallState).destroyed env (rotatedPair.heap.resources 1))
  first.destroyed 2 {} (({} : CallState).destroyed env (rotatedPair.heap.resources 2))

theorem destroyedPair_reach : Reach HostWorld.Initial HostStep destroyedPair := by
  have hno : ∀ env : DeviceEnv, failed env.importTexture.hr = false →
      failed env.createHostResource.hr = false → NoObjectOnFailure env := by
    intro env h₁ h₂
    exact ⟨fun h => absurd (h₁.symm.trans h) (by simp), fun h => absurd (h₂.symm.trans h) (by simp)⟩
  have h₀ : Reach HostWorld.Initial HostStep emptyHost := .init ⟨fun _ => id, rfl⟩
  have h₁ := h₀.step (.createResource (.allOk true (.other 0) retryHooks) presentArgs 5 1 id
    (hno _ rfl rfl) {} {} _ _ rfl)
  have h₂ := h₁.step (.createResource noMemoryTypeEnv presentArgs 5 2
    (by simp [HostWorld.created, emptyHost]) (hno _ rfl rfl) {} {} _ _ rfl)
  have h₃ := h₂.step (.rotateResourceIdentities true (fun n => .ok n) 1 [1, 2] (by decide)
    (by simp [HostWorld.created]) _ rfl)
  have h₄ := h₃.step (.destroyResource (.allOk true (.other 0) []) 1
    (by simp [HostWorld.created, HostWorld.rotated]) {} {} _ _ rfl)
  have h₅ := h₄.step (.destroyResource (.allOk true (.other 0) []) 2
    (by simp [HostWorld.created, HostWorld.rotated, HostWorld.destroyed]) {} {} _ _ rfl)
  exact h₅

/-- After the rotation the first handle releases what the failed creation left, the
    second the buffer. -/
theorem host_objects_released_pair :
    destroyedPair.word 0 =
      [.acquire (.image ⟨1⟩), .acquire (.memory ⟨1⟩), .acquire (.texture ⟨1⟩),
        .release (.texture ⟨1⟩), .release (.image ⟨1⟩), .release (.memory ⟨1⟩)] ∧
    destroyedPair.word 1 = [.acquire (.image ⟨2⟩), .release (.image ⟨2⟩)] ∧
    ∀ n, ReleasedInOrder (destroyedPair.word n) ∧ Action.Settled (destroyedPair.word n) := by
  obtain ⟨halways, hdone⟩ := host_objects_released destroyedPair_reach
  have hdead : ∀ r, ¬destroyedPair.alive r := by
    rintro r ⟨h₂, h₁, halive⟩
    rcases halive with rfl | rfl | hempty
    · exact h₂ rfl
    · exact h₁ rfl
    · exact hempty
  exact ⟨rfl, rfl, fun n => ⟨(halways n).2, hdone hdead n⟩⟩

end VirtioWddm
