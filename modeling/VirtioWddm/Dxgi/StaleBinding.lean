/-
  VirtioWddm.Dxgi.StaleBinding

  The binding slots of the host across a rotation of resource identities.

  A rotation releases the host views of the rotated resources and asks the runtime,
  through its state callbacks, to set the slots that may hold them again.  A slot
  outside the ranges the callbacks name keeps the view object it held.
-/

import VirtioWddm.Dxgi.Rebind
import VirtioWddm.Triton.ViewList

namespace VirtioWddm

open Lib

-- ============================================================================
-- The host views a rotation releases
-- ============================================================================

/-- The host views `tritonResourceRecreateViews` releases, in its order. -/
def recreateReleased (host : Nat → HostViewReply) (resource : VirtioWddmResource) :
    Nat → Option ViewAddr → RecreateState → List Nat
  | _, none, _ => []
  | 0, some _, _ => []
  | fuel + 1, some l, st =>
      let released := ((st.views l).pView.map HostView.id).toList
      let st := st.step host resource l
      released ++ recreateReleased host resource fuel (st.views l).link.pNext st

/-- Those of the loop over the resources. -/
def recreateAllReleased (host : Nat → HostViewReply) (fuel : Nat)
    (resources : ResourceAddr → VirtioWddmResource) :
    List ResourceAddr → (ViewAddr → TritonView) → Nat → List Nat
  | [], _, _ => []
  | r :: rs, views, iterations =>
      recreateReleased host (resources r) fuel (resources r).base.pViewList
          { views := views, iterations := iterations } ++
        match tritonResourceRecreateViews host fuel (resources r) views iterations with
        | none => []
        | some st => recreateAllReleased host fuel resources rs st.views st.iterations

/-- Those of `virtio_wddm_rotate_resource_identities`. -/
def rotateReleased (host : Nat → HostViewReply) (fuel : Nat) (slots : List ResourceAddr)
    (h : Heap) : List Nat :=
  if slots.length ≤ 1 then []
  else recreateAllReleased host fuel (shift takeIdentity slots h.resources) slots h.views 0

-- ============================================================================
-- Identities of host views
-- ============================================================================

/-- The host views of the live wrappers in the course of a rotation that started
    with `before` and has released `gone`: no two wrappers share one, none is
    released, and each was there before or is one of the host's answers so far. -/
structure Refreshing (host : Nat → HostViewReply) (live listed : ViewAddr → Prop)
    (before : ViewAddr → TritonView) (gone : List Nat) (st : RecreateState) : Prop where
  distinct : ∀ u v hu hv, live u → live v → (st.views u).pView = some hu →
    (st.views v).pView = some hv → hu.id = hv.id → u = v
  held : ∀ v hv, live v → (st.views v).pView = some hv → hv.id ∉ gone
  origin : ∀ v hv, live v → (st.views v).pView = some hv →
    (before v).pView = some hv ∨ ∃ m < st.iterations, host m = .ok hv.id
  released : ∀ id ∈ gone,
    (∃ v hv, listed v ∧ (before v).pView = some hv ∧ hv.id = id) ∨
      ∃ m < st.iterations, host m = .ok id

/-- The host answers with view objects it has not handed out before, and never with
    the same one twice. -/
structure FreshViews (host : Nat → HostViewReply) (issued : Nat → Prop) : Prop where
  unissued : ∀ n id, host n = .ok id → ¬issued id
  once : ∀ m n id, host m = .ok id → host n = .ok id → m = n

/-- The view object a re-creation leaves in a wrapper. -/
theorem recreateView_pView {resource : VirtioWddmResource} {view : TritonView}
    {reply : HostViewReply} {hv : HostView}
    (h : (recreateView resource view reply).1.pView = some hv) :
    view.pView ≠ none ∧ reply = .ok hv.id := by
  cases hold : view.pView with
  | none =>
      simp only [recreateView, hold] at h
      cases h
  | some old =>
      simp only [recreateView, hold] at h
      cases reply with
      | error hr => cases h
      | ok id =>
          obtain rfl := Option.some.inj h
          exact ⟨by simp, rfl⟩

section Refresh

variable {host : Nat → HostViewReply} {live listed : ViewAddr → Prop} {issued : Nat → Prop}
  {before : ViewAddr → TritonView} {gone : List Nat} {st : RecreateState}

/-- A new host view differs from those that are held and from those that are gone. -/
theorem Refreshing.answer_fresh (h : Refreshing host live listed before gone st)
    (hissued : ∀ v hv, live v → (before v).pView = some hv → issued hv.id)
    (hlistedLive : ∀ v, listed v → live v) (hfresh : FreshViews host issued) {id : Nat}
    (hid : host st.iterations = .ok id) :
    (∀ v hv, live v → (st.views v).pView = some hv → hv.id ≠ id) ∧ id ∉ gone := by
  have hlater : ∀ m < st.iterations, host m ≠ .ok id := fun m hm hans => by
    have hsame := hfresh.once m st.iterations id hans hid
    omega
  refine ⟨fun v hv hlv hview heq => ?_, fun hgone => ?_⟩
  · rcases h.origin v hv hlv hview with hbefore | ⟨m, hm, hans⟩
    · exact hfresh.unissued _ _ hid (heq ▸ hissued v hv hlv hbefore)
    · exact hlater m hm (heq ▸ hans)
  · rcases h.released id hgone with ⟨v, hv, hlv, hbefore, rfl⟩ | ⟨m, hm, hans⟩
    · exact hfresh.unissued _ _ hid (hissued v hv (hlistedLive v hlv) hbefore)
    · exact hlater m hm hans

/-- The view objects one iteration releases. -/
theorem mem_released_iff {view : TritonView} {id : Nat} :
    id ∈ (view.pView.map HostView.id).toList ↔ ∃ hv, view.pView = some hv ∧ hv.id = id := by
  rw [Option.mem_toList, Option.map_eq_some_iff]

/-- One iteration. -/
theorem Refreshing.step (h : Refreshing host live listed before gone st)
    (hissued : ∀ v hv, live v → (before v).pView = some hv → issued hv.id)
    (hlistedLive : ∀ v, listed v → live v)
    (hfresh : FreshViews host issued) (resource : VirtioWddmResource) {l : ViewAddr}
    (hl : listed l) :
    Refreshing host live listed before (gone ++ ((st.views l).pView.map HostView.id).toList)
      (st.step host resource l) := by
  have hlive := hlistedLive l hl
  have hself : ∀ hv, ((st.step host resource l).views l).pView = some hv →
      (st.views l).pView ≠ none ∧ host st.iterations = .ok hv.id := by
    intro hv hview
    rw [st.step_self] at hview
    exact recreateView_pView hview
  have hnew : ∀ hv, ((st.step host resource l).views l).pView = some hv →
      (∀ v hv', live v → (st.views v).pView = some hv' → hv'.id ≠ hv.id) ∧ hv.id ∉ gone :=
    fun hv hview => h.answer_fresh hissued hlistedLive hfresh (hself hv hview).2
  have hiter : (st.step host resource l).iterations = st.iterations + 1 := rfl
  constructor
  case distinct =>
    intro u v hu hv hlu hlv hviewu hviewv heq
    by_cases hul : u = l
    · by_cases hvl : v = l
      · rw [hul, hvl]
      · rw [hul] at hviewu
        rw [st.step_of_ne host resource hvl] at hviewv
        exact absurd heq.symm ((hnew hu hviewu).1 v hv hlv hviewv)
    · rw [st.step_of_ne host resource hul] at hviewu
      by_cases hvl : v = l
      · rw [hvl] at hviewv
        exact absurd heq ((hnew hv hviewv).1 u hu hlu hviewu)
      · rw [st.step_of_ne host resource hvl] at hviewv
        exact h.distinct u v hu hv hlu hlv hviewu hviewv heq
  case held =>
    intro v hv hlv hview hgone
    by_cases hvl : v = l
    · subst hvl
      rcases List.mem_append.mp hgone with hgone | hold
      · exact (hnew hv hview).2 hgone
      · obtain ⟨old, hold, heq⟩ := mem_released_iff.mp hold
        exact (hnew hv hview).1 v old hlv hold heq
    · rw [st.step_of_ne host resource hvl] at hview
      rcases List.mem_append.mp hgone with hgone | hold
      · exact h.held v hv hlv hview hgone
      · obtain ⟨old, hold, heq⟩ := mem_released_iff.mp hold
        exact hvl (h.distinct v l hv old hlv hlive hview hold heq.symm)
  case origin =>
    intro v hv hlv hview
    rw [hiter]
    by_cases hvl : v = l
    · subst hvl
      exact .inr ⟨st.iterations, by omega, (hself hv hview).2⟩
    · rw [st.step_of_ne host resource hvl] at hview
      rcases h.origin v hv hlv hview with hbefore | ⟨m, hm, hans⟩
      · exact .inl hbefore
      · exact .inr ⟨m, by omega, hans⟩
  case released =>
    intro id hid
    rw [hiter]
    rcases List.mem_append.mp hid with hid | hid
    · rcases h.released id hid with hbefore | ⟨m, hm, hans⟩
      · exact .inl hbefore
      · exact .inr ⟨m, by omega, hans⟩
    · obtain ⟨old, hold, rfl⟩ := mem_released_iff.mp hid
      rcases h.origin l old hlive hold with hbefore | ⟨m, hm, hans⟩
      · exact .inl ⟨l, old, hl, hbefore, rfl⟩
      · exact .inr ⟨m, by omega, hans⟩

variable {resource : VirtioWddmResource} {fuel : Nat}
  {L : Links ResourceAddr ViewAddr} {c : Cell ResourceAddr ViewAddr} {xs : List ViewAddr}

/-- The loop over one list: the invariant is kept, and what the listed wrappers held
    is released. -/
theorem Refreshing.loop
    (hissued : ∀ v hv, live v → (before v).pView = some hv → issued hv.id)
    (hlistedLive : ∀ v, listed v → live v) (hfresh : FreshViews host issued)
    (hchain : Chain L c xs) (hlisted : ∀ v ∈ xs, listed v) {st' : RecreateState}
    (h : Refreshing host live listed before gone st)
    (hnext : ∀ v, (st.views v).link.pNext = L.next v)
    (hrun : recreateLoop host resource fuel (L.read c) st = some st') :
    Refreshing host live listed before
        (gone ++ recreateReleased host resource fuel (L.read c) st) st' ∧
      ∀ v ∈ xs, ∀ hv, (st.views v).pView = some hv →
        hv.id ∈ recreateReleased host resource fuel (L.read c) st := by
  induction xs generalizing c fuel st gone with
  | nil =>
      have hread : L.read c = none := hchain
      rw [hread, recreateLoop] at hrun
      cases hrun
      rw [hread, recreateReleased, List.append_nil]
      exact ⟨h, fun v hv => absurd hv List.not_mem_nil⟩
  | cons x xs ih =>
      have hx : listed x := hlisted x List.mem_cons_self
      have hread : L.read c = some x := hchain.1
      obtain ⟨⟨m, rfl, hrest⟩, hnext'⟩ := recreateLoop_cons hchain hnext hrun
      obtain ⟨hinv, hmem⟩ := ih hchain.2.2 (fun v hv => hlisted v (List.mem_cons_of_mem _ hv))
        (h.step hissued hlistedLive hfresh resource hx) hnext' hrest
      rw [hread, recreateReleased, st.step_link, hnext]
      refine ⟨?_, fun v hv view hview => ?_⟩
      · rw [← List.append_assoc]
        exact hinv
      · by_cases hvx : v = x
        · subst hvx
          exact List.mem_append_left _ (by simp [hview])
        · have hvxs := (List.mem_cons.mp hv).resolve_left hvx
          refine List.mem_append_right _ (hmem v hvxs view ?_)
          rw [st.step_of_ne host resource hvx]
          exact hview

/-- The loop over the resources. -/
theorem Refreshing.all {resources : ResourceAddr → VirtioWddmResource}
    {slots : List ResourceAddr} {lists : ResourceAddr → List ViewAddr}
    (hissued : ∀ v hv, live v → (before v).pView = some hv → issued hv.id)
    (hlistedLive : ∀ v, listed v → live v) (hfresh : FreshViews host issued)
    (hlinked : Linked L (· ∈ slots) lists) (hlisted : ∀ r ∈ slots, ∀ v ∈ lists r, listed v)
    (hheads : ∀ r, (resources r).base.pViewList = L.head r) {views views' : ViewAddr → TritonView}
    {n : Nat} (hnext : ∀ v, (views v).link.pNext = L.next v)
    (h : Refreshing host live listed before gone { views := views, iterations := n })
    (hrun : recreateAll host fuel resources slots views n = some views') :
    (∃ n', Refreshing host live listed before
        (gone ++ recreateAllReleased host fuel resources slots views n)
        { views := views', iterations := n' }) ∧
      ∀ r ∈ slots, ∀ v ∈ lists r, ∀ hv, (views v).pView = some hv →
        hv.id ∈ recreateAllReleased host fuel resources slots views n := by
  induction slots generalizing views n gone with
  | nil =>
      cases hrun
      rw [recreateAllReleased, List.append_nil]
      exact ⟨⟨n, h⟩, fun r hr => absurd hr List.not_mem_nil⟩
  | cons r rs ih =>
      obtain ⟨st, hloop, hnext', hrest⟩ := recreateAll_cons hheads hnext hrun
      have hst : tritonResourceRecreateViews host fuel (resources r) views n = some st := by
        rw [tritonResourceRecreateViews, hheads]
        exact hloop
      obtain ⟨hinv, hmem⟩ := Refreshing.loop hissued hlistedLive hfresh
        (hlinked r List.mem_cons_self) (hlisted r List.mem_cons_self) h hnext hloop
      have hreleased : recreateAllReleased host fuel resources (r :: rs) views n =
          recreateReleased host (resources r) fuel (L.read (.head r))
              { views := views, iterations := n } ++
            recreateAllReleased host fuel resources rs st.views st.iterations := by
        rw [recreateAllReleased, hst, hheads]
        rfl
      have hinv : Refreshing host live listed before _
          { views := st.views, iterations := st.iterations } :=
        ⟨hinv.distinct, hinv.held, hinv.origin, hinv.released⟩
      obtain ⟨⟨n', hinv'⟩, hmem'⟩ := ih (fun r' hr' => hlinked r' (List.mem_cons_of_mem _ hr'))
        (fun r' hr' => hlisted r' (List.mem_cons_of_mem _ hr')) hnext' hinv hrest
      rw [hreleased]
      refine ⟨⟨n', ?_⟩, fun r' hr' v hv view hview => ?_⟩
      · rw [← List.append_assoc]
        exact hinv'
      · by_cases hvr : v ∈ lists r
        · exact List.mem_append_left _ (hmem v hvr view hview)
        · -- not on the list just gone through, so the wrapper is as it was
          have hr' : r' ∈ rs := by
            rcases List.mem_cons.mp hr' with rfl | hr'
            · exact absurd hv hvr
            · exact hr'
          refine List.mem_append_right _ (hmem' r' hr' v hv view ?_)
          have hother := (recreateLoop_recreated (hlinked r List.mem_cons_self)
            (hlinked r List.mem_cons_self).nodup hnext hloop).other v hvr
          rw [hother]
          exact hview

end Refresh

-- ============================================================================
-- Worlds
-- ============================================================================

/-- The world of the view lists with the host's binding slots.  `issued` are the
    view objects the host has handed out, `current` is what the runtime has
    bound. -/
structure BindWorld where
  world : ViewWorld
  issued : Nat → Prop
  bound : HostBindings
  current : RuntimeBindings

/-- The runtime's record of slots after a setter call. -/
def recordSlots (start n : UINT) (ph : ViewHandles) (slots : Nat → Option ViewAddr) :
    Nat → Option ViewAddr :=
  fun slot =>
    if start.toNat ≤ slot ∧ slot < start.toNat + n.toNat then ph.get (slot - start.toNat)
    else slots slot

/-- `triton*SetShaderResources`. -/
def BindWorld.setShaderResources (b : BindWorld) (stage : ShaderStage) (start n : UINT)
    (ph : ViewHandles) : BindWorld :=
  { b with
    bound := trSrvSetter stage b.world.heap.views start n ph b.bound
    current :=
      { b.current with
        srv :=
          Function.update b.current.srv stage (recordSlots start n ph (b.current.srv stage)) } }

/-- `tritonCsSetUAVs`; a rejected call leaves the runtime's record alone. -/
def BindWorld.csSetUAVs (b : BindWorld) (start n : UINT) (ph : ViewHandles) : BindWorld :=
  let res := tritonCsSetUAVs b.world.heap.views start n ph b.bound
  { b with
    bound := res.1
    current :=
      if res.2 = none then { b.current with csUav := recordSlots start n ph b.current.csUav }
      else b.current }

/-- `tritonSetRenderTargets`. -/
def BindWorld.setRenderTargets (b : BindWorld) (pArgs : RenderTargetArgs) : BindWorld :=
  let res := tritonSetRenderTargets b.world.heap.views pArgs b.bound
  { b with
    bound := res.1
    current := if res.2 = none then { b.current with om := pArgs } else b.current }

/-- A rotation and the runtime's answers to its callbacks. -/
def BindWorld.rotated (b : BindWorld) (host : Nat → HostViewReply) (res : RotateResult) :
    BindWorld :=
  { b with
    world := { b.world with heap := res.heap }
    issued := fun id => b.issued id ∨ ∃ n, host n = .ok id
    bound := answerCallbacks res.heap.views b.current res.callbacks b.bound }

/-- Only live views are passed. -/
def ViewHandles.AllLive (ph : ViewHandles) (n : UINT) (w : ViewWorld) : Prop :=
  ∀ i < n.toNat, ∀ v, ph.get i = some v → w.live v ≠ none

/-- The calls of a runtime that binds live views only and destroys no view it has
    bound.  The host never hands out a view object a second time. -/
inductive BindStep (b : BindWorld) : BindWorld → Prop where
  | resource (w : ViewWorld) (hstep : ViewStep b.world w)
      (hviews : w.heap.views = b.world.heap.views) (hlive : w.live = b.world.live) :
      BindStep b { b with world := w }
  | createView (e : ViewEntry) (a : ViewArgs) (slot : ResourceAddr) (v : ViewAddr)
      (memory : TritonView) (reply : HostViewReply) (halive : b.world.alive slot)
      (hnew : b.world.live v = none) (hfresh : ∀ id, reply = .ok id → ¬b.issued id) :
      BindStep b
        { b with
          world := b.world.withView slot v (e.create (b.world.heap.setView v memory) a slot v reply)
          issued := fun id => b.issued id ∨ reply = .ok id }
  | destroyView (kind : ViewKind) (v : ViewAddr) (hlive : b.world.live v ≠ none)
      (hunused : ¬b.current.Uses (some v)) :
      BindStep b
        { b with
          world :=
            { b.world with
              heap := kind.destroy b.world.heap v
              live := Function.update b.world.live v none } }
  | setShaderResources (stage : ShaderStage) (start n : UINT) (ph : ViewHandles)
      (hlive : ph.AllLive n b.world) : BindStep b (b.setShaderResources stage start n ph)
  | csSetUAVs (start n : UINT) (ph : ViewHandles) (hlive : ph.AllLive n b.world) :
      BindStep b (b.csSetUAVs start n ph)
  | setRenderTargets (pArgs : RenderTargetArgs)
      (hlive : ∀ v, pArgs.Reads (some v) → b.world.live v ≠ none) :
      BindStep b (b.setRenderTargets pArgs)
  | rotate (version : InterfaceVersion) (host : Nat → HostViewReply) (fuel : Nat)
      (slots : List ResourceAddr) (halive : ∀ r ∈ slots, b.world.alive r)
      (hfresh : FreshViews host b.issued) (res : RotateResult)
      (hrun : virtioWddmRotateResourceIdentities version.isD3D11 host fuel slots b.world.heap =
        some res) :
      BindStep b (b.rotated host res)

/-- Before the first call nothing is bound. -/
structure BindWorld.Initial (b : BindWorld) : Prop where
  world : b.world.Initial
  bound : ∀ slot, b.bound.get slot = none
  srv : ∀ stage slot, b.current.srv stage slot = none
  csUav : ∀ slot, b.current.csUav slot = none
  om : b.current.om = {}

-- ============================================================================
-- Wrappers and their host views
-- ============================================================================

namespace Heap

theorem pView_setLink (h : Heap) (v : ViewAddr) (link : ViewLink) (u : ViewAddr) :
    ((h.setLink v link).views u).pView = (h.views u).pView := by
  by_cases huv : u = v
  · subst huv
    simp [setLink, setView]
  · simp [setLink, setView, Function.update_of_ne huv]

theorem pView_writeCell (h : Heap) (cell : Cell ResourceAddr ViewAddr) (p : Option ViewAddr)
    (u : ViewAddr) : ((h.writeCell cell p).views u).pView = (h.views u).pView := by
  cases cell with
  | head r => rfl
  | next v => exact h.pView_setLink v _ u

theorem pView_setPpPrevOf (h : Heap) (l : Option ViewAddr)
    (p : Option (Cell ResourceAddr ViewAddr)) (u : ViewAddr) :
    ((h.setPpPrevOf l p).views u).pView = (h.views u).pView := by
  cases l with
  | none => rfl
  | some w => exact h.pView_setLink w _ u

end Heap

theorem pView_tritonResourceLinkView (h : Heap) (r : ResourceAddr) (l : ViewAddr)
    (kind : ViewKind) (u : ViewAddr) :
    ((tritonResourceLinkView h r l kind).views u).pView = (h.views u).pView := by
  rw [tritonResourceLinkView, Heap.pView_writeCell, Heap.pView_setPpPrevOf, Heap.pView_setLink]

theorem pView_tritonViewUnlink (h : Heap) (l u : ViewAddr) :
    ((tritonViewUnlink h l).views u).pView = (h.views u).pView := by
  unfold tritonViewUnlink
  split
  case h_1 => rfl
  case h_2 => rw [Heap.pView_setLink, Heap.pView_setPpPrevOf, Heap.pView_writeCell]

theorem pView_destroyView (h : Heap) {v u : ViewAddr} (hne : u ≠ v) :
    ((destroyView h v).views u).pView = (h.views u).pView := by
  have hview : (destroyView h v).views u = (tritonViewUnlink h v).views u :=
    Function.update_of_ne hne ..
  rw [hview, pView_tritonViewUnlink]

/-- A creation leaves the other wrappers' host views alone, and one without error
    puts the host's new object into the wrapper. -/
theorem pView_createView (kind : ViewKind) (desc : Option ViewDesc) (h : Heap) (r : ResourceAddr)
    (v : ViewAddr) (reply : HostViewReply) :
    (∀ u, u ≠ v →
      ((createView kind desc h r v reply).1.views u).pView = (h.views u).pView) ∧
    ((createView kind desc h r v reply).2 = none → ∀ hv,
      ((createView kind desc h r v reply).1.views v).pView = some hv → reply = .ok hv.id) := by
  cases hres : (h.resources r).base.pResource with
  | none => exact ⟨fun u _ => by simp [createView, hres], by simp [createView, hres]⟩
  | some resource =>
      cases desc with
      | none =>
          refine ⟨fun u hu => ?_, by simp [createView, hres]⟩
          simp [createView, hres, Heap.setView, Function.update_of_ne hu]
      | some d =>
          cases reply with
          | error hr =>
              refine ⟨fun u hu => ?_, by simp [createView, hres]⟩
              simp [createView, hres, Heap.setView, Function.update_of_ne hu]
          | ok id =>
              refine ⟨fun u hu => ?_, fun _ hv hview => ?_⟩
              · simp only [createView, hres, pView_tritonResourceLinkView]
                simp [Heap.setPView, Heap.setView, Function.update_of_ne hu]
              · simp only [createView, hres, pView_tritonResourceLinkView] at hview
                simp only [Heap.setPView, Heap.setView, Function.update_self,
                  HostViewReply.view] at hview
                obtain rfl := Option.some.inj hview
                rfl

-- ============================================================================
-- What every call keeps
-- ============================================================================

/-- The view lists are well formed, the live wrappers hold distinct host views, and
    what is bound on either side belongs to what the host has handed out and to
    live views; the output-merger call on record was accepted. -/
structure BindInv (b : BindWorld) : Prop where
  listed : ∃ lists, ViewListed b.world lists
  distinct : ∀ u v hu hv, b.world.live u ≠ none → b.world.live v ≠ none →
    (b.world.heap.views u).pView = some hu → (b.world.heap.views v).pView = some hv →
    hu.id = hv.id → u = v
  issued : ∀ v hv, b.world.live v ≠ none → (b.world.heap.views v).pView = some hv →
    b.issued hv.id
  issuedBound : ∀ slot hv, b.bound.get slot = some hv → b.issued hv.id
  live : ∀ v, b.current.Uses (some v) → b.world.live v ≠ none
  accepted : (tritonSetRenderTargets b.world.heap.views b.current.om b.bound).2 = none

namespace BindInv

variable {b : BindWorld}

theorem initial (h : b.Initial) : BindInv b := by
  have hlive := h.world.2
  refine ⟨⟨fun _ => [], fun r hr => absurd hr (h.world.1 r), fun r hr => absurd hr (h.world.1 r),
    fun v r hv => ?_⟩, fun u v hu hv hlu => absurd (hlive u) hlu,
    fun v hv hlv => absurd (hlive v) hlv, fun slot hv hslot => ?_, fun v huses => ?_, ?_⟩
  · rw [hlive v] at hv
    cases hv
  · rw [h.bound slot] at hslot
    cases hslot
  · rcases RuntimeBindings.uses_some_iff.mp huses with ⟨stage, slot, heq⟩ | ⟨slot, heq⟩ | hreads
    · rw [h.srv stage slot] at heq
      cases heq
    · rw [h.csUav slot] at heq
      cases heq
    · rw [h.om] at hreads
      generalize hhandle : some v = handle at hreads
      cases hreads with
      | rtv i hi => cases hhandle
      | dsv => cases hhandle
      | uav i hi => cases hhandle
  · rw [h.om]
    rfl

/-- Calls that change one wrapper at most. -/
theorem withView (h : BindInv b) {w : ViewWorld} {issued : Nat → Prop} (v : ViewAddr)
    (hlisted : ∃ lists, ViewListed w lists) (hissued : ∀ id, b.issued id → issued id)
    (hother : ∀ u, u ≠ v → w.live u = b.world.live u ∧
      (w.heap.views u).pView = (b.world.heap.views u).pView)
    (hnew : w.live v ≠ none → ∀ hv, (w.heap.views v).pView = some hv →
      ¬b.issued hv.id ∧ issued hv.id)
    (hlive : ∀ u, b.current.Uses (some u) → w.live u ≠ none) :
    BindInv { b with world := w, issued := issued } := by
  -- a wrapper other than `v` is as it was
  have hold : ∀ u hu, u ≠ v → w.live u ≠ none → (w.heap.views u).pView = some hu →
      b.world.live u ≠ none ∧ (b.world.heap.views u).pView = some hu := by
    intro u hu hne hlu hview
    rw [(hother u hne).1] at hlu
    rw [(hother u hne).2] at hview
    exact ⟨hlu, hview⟩
  refine ⟨hlisted, ?_, ?_, fun slot hv hslot => hissued _ (h.issuedBound slot hv hslot), hlive, ?_⟩
  · intro u u' hu hu' hlu hlu' hview hview' heq
    by_cases huv : u = v
    · by_cases huv' : u' = v
      · rw [huv, huv']
      · obtain ⟨hlu', hview'⟩ := hold u' hu' huv' hlu' hview'
        subst huv
        exact absurd (heq ▸ h.issued u' hu' hlu' hview') (hnew hlu hu hview).1
    · obtain ⟨hlu, hview⟩ := hold u hu huv hlu hview
      by_cases huv' : u' = v
      · subst huv'
        exact absurd (heq ▸ h.issued u hu hlu hview) (hnew hlu' hu' hview').1
      · obtain ⟨hlu', hview'⟩ := hold u' hu' huv' hlu' hview'
        exact h.distinct u u' hu hu' hlu hlu' hview hview' heq
  · intro u hu hlu hview
    by_cases huv : u = v
    · subst huv
      exact (hnew hlu hu hview).2
    · obtain ⟨hlu, hview⟩ := hold u hu huv hlu hview
      exact hissued _ (h.issued u hu hlu hview)
  · exact (tritonSetRenderTargets_accepts ..).trans h.accepted

/-- Calls that change the bindings only. -/
theorem withBindings (h : BindInv b) {bound : HostBindings} {current : RuntimeBindings}
    {handles : Option ViewAddr → Prop}
    (hwrites : WritesFrom b.world.heap.views handles b.bound bound)
    (hhandles : ∀ v, handles (some v) → b.world.live v ≠ none)
    (hlive : ∀ v, current.Uses (some v) → b.world.live v ≠ none)
    (hok : (tritonSetRenderTargets b.world.heap.views current.om bound).2 = none) :
    BindInv { b with bound := bound, current := current } := by
  refine ⟨h.listed, h.distinct, h.issued, ?_, hlive, hok⟩
  intro slot hv hslot
  rcases hwrites slot with heq | hnull | ⟨handle, hhandle, heq⟩
  · exact h.issuedBound slot hv (heq ▸ hslot)
  · rw [hnull] at hslot
    cases hslot
  · rw [heq] at hslot
    obtain ⟨v, rfl, hview⟩ := Option.bind_eq_some_iff.mp hslot
    exact h.issued v hv (hhandles v hhandle) hview

theorem createView (h : BindInv b) (e : ViewEntry) (a : ViewArgs) {slot : ResourceAddr}
    {v : ViewAddr} (memory : TritonView) {reply : HostViewReply} (halive : b.world.alive slot)
    (hnew : b.world.live v = none) (hfresh : ∀ id, reply = .ok id → ¬b.issued id) :
    BindInv
      { b with
        world := b.world.withView slot v (e.create (b.world.heap.setView v memory) a slot v reply)
        issued := fun id => b.issued id ∨ reply = .ok id } := by
  obtain ⟨lists, hl⟩ := h.listed
  have hlisted := hl.withView halive hnew memory e a reply
  obtain ⟨kind, desc, heq⟩ := e.create_eq (b.world.heap.setView v memory) a slot v reply
  rw [heq] at hlisted ⊢
  obtain ⟨hother, hself⟩ := pView_createView kind desc (b.world.heap.setView v memory) slot v reply
  refine h.withView v hlisted (fun _ => .inl) (fun u hu => ⟨?_, ?_⟩) (fun hlv hv hview => ?_)
    fun u huses => ?_
  · show (if _ then Function.update b.world.live v (some slot) else b.world.live) u = _
    split
    case isTrue => exact Function.update_of_ne hu ..
    case isFalse => rfl
  · refine (hother u hu).trans ?_
    show (Function.update b.world.heap.views v memory u).pView = _
    rw [Function.update_of_ne hu]
  · by_cases hok : (VirtioWddm.createView kind desc (b.world.heap.setView v memory) slot v reply).2
        = none
    · have hreply := hself hok hv hview
      exact ⟨hfresh _ hreply, .inr hreply⟩
    · refine absurd ?_ hlv
      show (if _ then Function.update b.world.live v (some slot) else b.world.live) v = none
      rw [if_neg hok, hnew]
  · have hlu := h.live u huses
    have hne : u ≠ v := fun huv => hlu (huv ▸ hnew)
    show (if _ then Function.update b.world.live v (some slot) else b.world.live) u ≠ none
    split
    case isTrue =>
      rw [Function.update_of_ne hne]
      exact hlu
    case isFalse => exact hlu

theorem destroyView (h : BindInv b) (kind : ViewKind) {v : ViewAddr}
    (hlive : b.world.live v ≠ none) (hunused : ¬b.current.Uses (some v)) :
    BindInv
      { b with
        world :=
          { b.world with
            heap := kind.destroy b.world.heap v
            live := Function.update b.world.live v none } } := by
  obtain ⟨lists, hl⟩ := h.listed
  refine h.withView v (hl.withoutView hlive kind) (fun _ => id) (fun u hu => ⟨?_, ?_⟩)
    (fun hlv => absurd (Function.update_self ..) hlv) fun u huses => ?_
  · exact Function.update_of_ne hu ..
  · show ((kind.destroy b.world.heap v).views u).pView = _
    rw [kind.destroy_eq, pView_destroyView _ hu]
  · have hne : u ≠ v := fun huv => hunused (huv ▸ huses)
    show Function.update b.world.live v none u ≠ none
    rw [Function.update_of_ne hne]
    exact h.live u huses

/-- A recorded slot holds a handle that was passed, or what it held. -/
theorem recordSlots_or (start n : UINT) (ph : ViewHandles) (slots : Nat → Option ViewAddr)
    (slot : Nat) : recordSlots start n ph slots slot = slots slot ∨
      ∃ i < n.toNat, recordSlots start n ph slots slot = ph.get i := by
  by_cases hin : start.toNat ≤ slot ∧ slot < start.toNat + n.toNat
  · refine .inr ⟨slot - start.toNat, by omega, ?_⟩
    rw [recordSlots, if_pos hin]
  · refine .inl ?_
    rw [recordSlots, if_neg hin]

/-- Recording live views keeps slots with live views. -/
theorem recordSlots_live {start n : UINT} {ph : ViewHandles} (hlive : ph.AllLive n b.world)
    {slots : Nat → Option ViewAddr} (hslots : ∀ i v, slots i = some v → b.world.live v ≠ none)
    {slot : Nat} {v : ViewAddr} (h : recordSlots start n ph slots slot = some v) :
    b.world.live v ≠ none := by
  rcases recordSlots_or start n ph slots slot with heq | ⟨i, hi, heq⟩
  · exact hslots slot v (heq.symm.trans h)
  · exact hlive i hi v (heq.symm.trans h)

theorem srv_live (h : BindInv b) (stage : ShaderStage) (i : Nat) (v : ViewAddr)
    (hv : b.current.srv stage i = some v) : b.world.live v ≠ none :=
  h.live v (RuntimeBindings.uses_some_iff.mpr (.inl ⟨stage, i, hv⟩))

theorem csUav_live (h : BindInv b) (i : Nat) (v : ViewAddr)
    (hv : b.current.csUav i = some v) : b.world.live v ≠ none :=
  h.live v (RuntimeBindings.uses_some_iff.mpr (.inr (.inl ⟨i, hv⟩)))

theorem om_live (h : BindInv b) (v : ViewAddr) (hv : b.current.om.Reads (some v)) :
    b.world.live v ≠ none :=
  h.live v (RuntimeBindings.uses_some_iff.mpr (.inr (.inr hv)))

theorem setShaderResources (h : BindInv b) (stage : ShaderStage) (start n : UINT)
    (ph : ViewHandles) (hlive : ph.AllLive n b.world) :
    BindInv (b.setShaderResources stage start n ph) := by
  refine h.withBindings (trSrvSetter_writesFrom stage start n ph) ?_ ?_ ?_
  · rintro v ⟨i, hi, heq⟩
    exact hlive i hi v heq.symm
  · intro v huses
    rcases RuntimeBindings.uses_some_iff.mp huses with ⟨stage', slot, heq⟩ | ⟨slot, heq⟩ | hreads
    · have heq : Function.update b.current.srv stage
          (recordSlots start n ph (b.current.srv stage)) stage' slot = some v := heq
      by_cases hstage : stage' = stage
      · rw [hstage, Function.update_self] at heq
        exact recordSlots_live hlive (h.srv_live stage) heq
      · rw [Function.update_of_ne hstage] at heq
        exact h.srv_live stage' slot v heq
    · exact h.csUav_live slot v heq
    · exact h.om_live v hreads
  · exact (tritonSetRenderTargets_accepts ..).trans h.accepted

theorem csSetUAVs (h : BindInv b) (start n : UINT) (ph : ViewHandles)
    (hlive : ph.AllLive n b.world) : BindInv (b.csSetUAVs start n ph) := by
  refine h.withBindings (tritonCsSetUAVs_writesFrom start n ph) ?_ ?_ ?_
  · rintro v ⟨i, hi, heq⟩
    exact hlive i hi v heq.symm
  · intro v huses
    split at huses
    case isTrue =>
      rcases RuntimeBindings.uses_some_iff.mp huses with ⟨stage, slot, heq⟩ | ⟨slot, heq⟩ | hreads
      · exact h.srv_live stage slot v heq
      · exact recordSlots_live hlive h.csUav_live heq
      · exact h.om_live v hreads
    case isFalse => exact h.live v huses
  · have hom : ∀ p : Prop, [Decidable p] → (if p then
        { b.current with csUav := recordSlots start n ph b.current.csUav } else b.current).om =
        b.current.om := by
      intro p _
      split <;> rfl
    rw [hom]
    exact (tritonSetRenderTargets_accepts ..).trans h.accepted

theorem setRenderTargets (h : BindInv b) (pArgs : RenderTargetArgs)
    (hlive : ∀ v, pArgs.Reads (some v) → b.world.live v ≠ none) :
    BindInv (b.setRenderTargets pArgs) := by
  refine h.withBindings (tritonSetRenderTargets_writesFrom pArgs) hlive ?_ ?_
  · intro v huses
    split at huses
    case isTrue =>
      rcases RuntimeBindings.uses_some_iff.mp huses with ⟨stage, slot, heq⟩ | ⟨slot, heq⟩ | hreads
      · exact h.srv_live stage slot v heq
      · exact h.csUav_live slot v heq
      · exact hlive v hreads
    case isFalse => exact h.live v huses
  · split
    case isTrue hok => exact (tritonSetRenderTargets_accepts ..).trans hok
    case isFalse => exact (tritonSetRenderTargets_accepts ..).trans h.accepted

end BindInv

-- ============================================================================
-- The rotation
-- ============================================================================

section Rotation

variable {b : BindWorld} {d3d11 : Bool} {host : Nat → HostViewReply} {fuel : Nat}
  {slots : List ResourceAddr} {res : RotateResult}

/-- On fewer than two resources nothing happens. -/
theorem rotate_short {h : Heap} (hlen : slots.length ≤ 1)
    (hrun : virtioWddmRotateResourceIdentities d3d11 host fuel slots h = some res) :
    res = { heap := h } ∧ rotateReleased host fuel slots h = [] := by
  rw [virtioWddmRotateResourceIdentities, if_pos hlen] at hrun
  exact ⟨(Option.some.inj hrun).symm, if_pos hlen⟩

/-- The callbacks of a rotation that recreates views. -/
theorem rotate_callbacks {h : Heap} (hlen : ¬slots.length ≤ 1)
    (hrun : virtioWddmRotateResourceIdentities d3d11 host fuel slots h = some res) :
    res.callbacks = stateCallbacks d3d11 := by
  rw [virtioWddmRotateResourceIdentities, if_neg hlen] at hrun
  obtain ⟨views, -, hres⟩ := Option.bind_eq_some_iff.mp hrun
  cases hres
  rfl

/-- A view of one of the rotated resources. -/
def BindWorld.OnRotated (b : BindWorld) (slots : List ResourceAddr) (v : ViewAddr) : Prop :=
  ∃ r ∈ slots, b.world.live v = some r

/-- The wrappers after a rotation, and what it has released. -/
theorem BindInv.refreshing (h : BindInv b) (halive : ∀ r ∈ slots, b.world.alive r)
    (hfresh : FreshViews host b.issued)
    (hrun : virtioWddmRotateResourceIdentities d3d11 host fuel slots b.world.heap = some res) :
    (∃ n, Refreshing host (fun v => b.world.live v ≠ none) (b.OnRotated slots)
      b.world.heap.views (rotateReleased host fuel slots b.world.heap)
      { views := res.heap.views, iterations := n }) ∧
    (2 ≤ slots.length → ∀ v, b.OnRotated slots v → ∀ hv,
      (b.world.heap.views v).pView = some hv →
        hv.id ∈ rotateReleased host fuel slots b.world.heap) := by
  have hstart : Refreshing host (fun v => b.world.live v ≠ none) (b.OnRotated slots)
      b.world.heap.views [] { views := b.world.heap.views, iterations := 0 } :=
    ⟨h.distinct, fun v hv _ _ => List.not_mem_nil, fun v hv _ hview => .inl hview,
      fun id hid => absurd hid List.not_mem_nil⟩
  by_cases hlen : slots.length ≤ 1
  · obtain ⟨rfl, hreleased⟩ := rotate_short hlen hrun
    rw [hreleased]
    exact ⟨⟨0, hstart⟩, fun hlen' => absurd hlen' (by omega)⟩
  · obtain ⟨lists, hl⟩ := h.listed
    have hlinked : Linked b.world.heap.links (· ∈ slots) lists :=
      fun r hr => hl.linked r (halive r hr)
    have hlisted : ∀ r ∈ slots, ∀ v ∈ lists r, b.OnRotated slots v :=
      fun r hr v hv => ⟨r, hr, (hl.mem_iff r (halive r hr) v).mp hv⟩
    have hlistedLive : ∀ v, b.OnRotated slots v → b.world.live v ≠ none := by
      rintro v ⟨r, -, hv⟩
      rw [hv]
      simp
    have hreleased : rotateReleased host fuel slots b.world.heap =
        recreateAllReleased host fuel (shift takeIdentity slots b.world.heap.resources) slots
          b.world.heap.views 0 := if_neg hlen
    obtain ⟨-, hviews⟩ := rotate_eq_some (by omega) hrun
    obtain ⟨⟨n, hinv⟩, hmem⟩ := Refreshing.all h.issued hlistedLive hfresh hlinked hlisted
      (shift_pViewList slots b.world.heap.resources) (fun _ => rfl) hstart hviews
    rw [hreleased]
    refine ⟨⟨n, hinv⟩, fun _ v hv view hview => ?_⟩
    obtain ⟨r, hr, hlive⟩ := hv
    exact hmem r hr v ((hl.mem_iff r (halive r hr) v).mpr hlive) view hview

theorem BindInv.rotate (h : BindInv b) (halive : ∀ r ∈ slots, b.world.alive r)
    (hfresh : FreshViews host b.issued)
    (hrun : virtioWddmRotateResourceIdentities d3d11 host fuel slots b.world.heap = some res) :
    BindInv (b.rotated host res) := by
  obtain ⟨⟨n, hinv⟩, -⟩ := h.refreshing halive hfresh hrun
  have hissued : ∀ v hv, b.world.live v ≠ none → (res.heap.views v).pView = some hv →
      b.issued hv.id ∨ ∃ n, host n = .ok hv.id := by
    intro v hv hlv hview
    rcases hinv.origin v hv hlv hview with hbefore | ⟨m, -, hans⟩
    · exact .inl (h.issued v hv hlv hbefore)
    · exact .inr ⟨m, hans⟩
  refine ⟨?_, hinv.distinct, hissued, fun slot hv hslot => ?_, h.live,
    (tritonSetRenderTargets_accepts ..).trans h.accepted⟩
  · obtain ⟨lists, hl⟩ := h.listed
    exact hl.step (.rotate d3d11 host fuel slots halive res hrun)
  · rcases answerCallbacks_writesFrom res.callbacks slot with heq | hnull | ⟨handle, huses, heq⟩
    · exact .inl (h.issuedBound slot hv (heq ▸ hslot))
    · exact absurd (hnull.symm.trans hslot) (by simp)
    · obtain ⟨v, rfl, hview⟩ := Option.bind_eq_some_iff.mp (heq ▸ hslot)
      exact hissued v hv (h.live v huses) hview

/-- Every call keeps the invariant. -/
theorem BindInv.step (h : BindInv b) {b' : BindWorld} (hstep : BindStep b b') : BindInv b' := by
  cases hstep with
  | resource w hstep hviews hlive =>
      obtain ⟨lists, hl⟩ := h.listed
      refine ⟨hl.step hstep, ?_, ?_, h.issuedBound, ?_,
        (tritonSetRenderTargets_accepts ..).trans h.accepted⟩
      · show ∀ u v hu hv, w.live u ≠ none → w.live v ≠ none → (w.heap.views u).pView = some hu →
          (w.heap.views v).pView = some hv → hu.id = hv.id → u = v
        rw [hviews, hlive]
        exact h.distinct
      · show ∀ v hv, w.live v ≠ none → (w.heap.views v).pView = some hv → b.issued hv.id
        rw [hviews, hlive]
        exact h.issued
      · show ∀ v, b.current.Uses (some v) → w.live v ≠ none
        rw [hlive]
        exact h.live
  | createView e a slot v memory reply halive hnew hfresh =>
      exact h.createView e a memory halive hnew hfresh
  | destroyView kind v hlive hunused => exact h.destroyView kind hlive hunused
  | setShaderResources stage start n ph hlive => exact h.setShaderResources stage start n ph hlive
  | csSetUAVs start n ph hlive => exact h.csSetUAVs start n ph hlive
  | setRenderTargets pArgs hlive => exact h.setRenderTargets pArgs hlive
  | rotate version host fuel slots halive hfresh res hrun => exact h.rotate halive hfresh hrun

theorem BindInv.reach (h : Reach BindWorld.Initial BindStep b) : BindInv b :=
  Reach.invariant BindInv (fun _ => BindInv.initial) (fun _ _ hinv => hinv.step) h

/-- Before the rotation a compute UAV slot from 8 on holds the host view of a view
    on one of the resources. -/
def BindWorld.HighUavRotated (b : BindWorld) (slots : List ResourceAddr) : Prop :=
  2 ≤ slots.length ∧ ∃ k : Fin 64, 8 ≤ k.val ∧ ∃ hv, b.bound.csUav k = some hv ∧
    ∃ v, b.OnRotated slots v ∧ ∃ view, (b.world.heap.views v).pView = some view ∧ view.id = hv.id

/-- No slot holds one of `released`. -/
def HostBindings.NoneOf (bound : HostBindings) (released : List Nat) : Prop :=
  ∀ slot hv, bound.get slot = some hv → hv.id ∉ released

/-- In every reachable state, a rotation with the runtime's answers to its callbacks
    leaves no slot with a host view it released, if and only if no compute UAV slot
    from 8 on held one: the setter takes 64 slots, of which the callback names the
    first eight. -/
theorem rotate_noStale_iff (h : Reach BindWorld.Initial BindStep b) (version : InterfaceVersion)
    (halive : ∀ r ∈ slots, b.world.alive r) (hfresh : FreshViews host b.issued)
    (hrun : virtioWddmRotateResourceIdentities version.isD3D11 host fuel slots b.world.heap =
      some res) :
    (b.rotated host res).bound.NoneOf (rotateReleased host fuel slots b.world.heap) ↔
      ¬b.HighUavRotated slots := by
  have hinv := BindInv.reach h
  obtain ⟨⟨n, hafter⟩, hreleased⟩ := hinv.refreshing halive hfresh hrun
  have hok : (tritonSetRenderTargets res.heap.views b.current.om b.bound).2 = none :=
    (tritonSetRenderTargets_accepts ..).trans hinv.accepted
  constructor
  · -- the slot is not among those set anew
    rintro hnone ⟨hlen, k, hk, hv, hslot, v, hon, view, hview, hid⟩
    have hkept : (b.rotated host res).bound.csUav k = some hv :=
      (answerCallbacks_highUav res.callbacks hok hk).trans hslot
    have hgone := hreleased hlen v hon view hview
    rw [hid] at hgone
    exact hnone (.csUav k) hv hkept hgone
  · intro hhigh slot hv hslot hgone
    by_cases hlen : slots.length ≤ 1
    · rw [(rotate_short hlen hrun).2] at hgone
      exact absurd hgone List.not_mem_nil
    by_cases hcovered : ∀ i, slot = .csUav i → i.val < 8
    · -- set anew, so what it holds is in a wrapper
      have hcover := stateCallbacks_cover hcovered
      rw [← version.isD3D11_eq_true, ← rotate_callbacks hlen hrun] at hcover
      rcases answerCallbacks_refreshed hok hcover with hnull | ⟨handle, huses, heq⟩
      · exact absurd (hnull.symm.trans hslot) (by simp)
      · obtain ⟨v, rfl, hview⟩ := Option.bind_eq_some_iff.mp (heq.symm.trans hslot)
        exact hafter.held v hv (hinv.live v huses) hview hgone
    · push Not at hcovered
      obtain ⟨k, rfl, hk⟩ := hcovered
      have hbefore : b.bound.csUav k = some hv :=
        (answerCallbacks_highUav res.callbacks hok hk).symm.trans hslot
      rcases hafter.released hv.id hgone with ⟨v, view, hon, hview, hid⟩ | ⟨m, -, hans⟩
      · exact hhigh ⟨by omega, k, hk, hv, hbefore, v, hon, view, hview, hid⟩
      · exact hfresh.unissued m hv.id hans (hinv.issuedBound (.csUav k) hv hbefore)

end Rotation

/-- Before the first call. -/
def freshBindWorld : BindWorld where
  world := freshWorld
  issued _ := False
  bound :=
    { srv := fun _ _ => none, csUav := fun _ => none, omRtv := fun _ => none, omDsv := none,
      omUav := fun _ => none }
  current := { srv := fun _ _ => none, csUav := fun _ => none, om := {} }

/-- The host's answers to a rotation. -/
def sampleReplies (n : Nat) : HostViewReply :=
  .ok (200 + n)

theorem sampleReplies_fresh {issued : Nat → Prop} (hissued : ∀ id, issued id → id < 200) :
    FreshViews sampleReplies issued := by
  refine ⟨fun n id hid hid' => ?_, fun m n id hm hn => ?_⟩
  · have heq : 200 + n = id := Except.ok.inj hid
    have := hissued id hid'
    omega
  · have hm : 200 + m = id := Except.ok.inj hm
    have hn : 200 + n = id := Except.ok.inj hn
    omega

/-- Two textures, with a view of the first bound to the compute UAV slot `start`. -/
theorem reach_oneUav {start : UINT} (hstart : ¬(D3D11_1_UAV_SLOT_COUNT < 1 ∨
    D3D11_1_UAV_SLOT_COUNT ≤ start ∨ D3D11_1_UAV_SLOT_COUNT < 1 + start)) :
    ∃ b res view, Reach BindWorld.Initial BindStep b ∧ (∀ r ∈ [1, 2], b.world.alive r) ∧
      FreshViews sampleReplies b.issued ∧
      virtioWddmRotateResourceIdentities InterfaceVersion.wddm2_0.isD3D11 sampleReplies 1 [1, 2]
        b.world.heap = some res ∧
      b.bound.csUav = writeSlots start.toNat 1 (fun _ => some view) (fun _ => none) ∧
      rotateReleased sampleReplies 1 [1, 2] b.world.heap = [view.id] ∧
      (b.world.heap.views 7).pView = some view ∧ b.OnRotated [1, 2] 7 := by
  have hcreate : Runs (virtioWddmCreateResource (.allOk false (.other 0) []) plainArgs 5) {} _ _ :=
    rfl
  have h₀ : Reach BindWorld.Initial BindStep freshBindWorld :=
    .init ⟨⟨fun _ => id, fun _ => rfl⟩, fun slot => by cases slot <;> rfl, fun _ _ => rfl,
      fun _ => rfl, rfl⟩
  have h₁ := h₀.step (.resource _ (.createResource _ _ _ 1
    (fun _ => by simp [freshBindWorld, freshWorld]) _ _ _ hcreate) rfl rfl)
  have h₂ := h₁.step (.resource _ (.createResource _ _ _ 2
    (fun _ => by simp [freshBindWorld, freshWorld, ViewWorld.withResource]) _ _ _ hcreate) rfl rfl)
  have h₃ := h₂.step (.createView .uav
    { format := .R8G8B8A8_UNORM, resourceDimension := .texture2d } 1 7
    (freshWorld.heap.views 7) (.ok 100) (.inr (.inl rfl)) rfl (fun _ _ => id))
  have h₄ := h₃.step (.csSetUAVs start 1 (some fun _ => some 7) (fun _ _ v hv => by
    cases hv
    decide))
  refine ⟨_, _, _, h₄, ?_, sampleReplies_fresh ?_, rfl, tritonCsSetUAVs_csUav _ hstart, rfl, rfl,
    1, List.mem_cons_self, rfl⟩
  · simp [BindWorld.csSetUAVs, ViewWorld.withView, ViewWorld.withResource]
  · rintro id (hid | hid)
    · exact False.elim hid
    · cases hid
      decide

/-- The fourth slot is set anew. -/
theorem rotate_noStale_fourth :
    ∃ b res, Reach BindWorld.Initial BindStep b ∧ b.bound.csUav 3 ≠ none ∧
      (b.rotated sampleReplies res).bound.NoneOf
        (rotateReleased sampleReplies 1 [1, 2] b.world.heap) := by
  obtain ⟨b, res, view, hreach, halive, hfresh, hrun, hslots, -, -, -⟩ :=
    reach_oneUav (show ¬(D3D11_1_UAV_SLOT_COUNT < 1 ∨ D3D11_1_UAV_SLOT_COUNT ≤ 3 ∨
      D3D11_1_UAV_SLOT_COUNT < 1 + 3) by decide)
  refine ⟨b, res, hreach, ?_, (rotate_noStale_iff hreach .wddm2_0 halive hfresh hrun).mpr ?_⟩
  · rw [hslots]
    exact Option.some_ne_none view
  · rintro ⟨-, k, hk, hv, hslot, -⟩
    have hstart : (3 : UINT).toNat = 3 := rfl
    rw [hslots, writeSlots_outside _ _ (.inr (by omega))] at hslot
    cases hslot

/-- A view bound to the ninth slot is still bound after its resource has been rotated,
    and its host view released. -/
theorem rotate_staleUav :
    ∃ b res, Reach BindWorld.Initial BindStep b ∧ (∀ r ∈ [1, 2], b.world.alive r) ∧
      FreshViews sampleReplies b.issued ∧
      virtioWddmRotateResourceIdentities InterfaceVersion.wddm2_0.isD3D11 sampleReplies 1 [1, 2]
        b.world.heap = some res ∧
      ¬(b.rotated sampleReplies res).bound.NoneOf
        (rotateReleased sampleReplies 1 [1, 2] b.world.heap) := by
  obtain ⟨b, res, view, hreach, halive, hfresh, hrun, hslots, hreleased, -, -⟩ :=
    reach_oneUav (show ¬(D3D11_1_UAV_SLOT_COUNT < 1 ∨ D3D11_1_UAV_SLOT_COUNT ≤ 8 ∨
      D3D11_1_UAV_SLOT_COUNT < 1 + 8) by decide)
  refine ⟨b, res, hreach, halive, hfresh, hrun, fun hnone => ?_⟩
  have hok : (tritonSetRenderTargets res.heap.views b.current.om b.bound).2 = none :=
    (tritonSetRenderTargets_accepts ..).trans (BindInv.reach hreach).accepted
  have hkept : (b.rotated sampleReplies res).bound.csUav 8 = some view := by
    have hhigh : 8 ≤ (8 : Fin 64).val := by decide
    refine (answerCallbacks_highUav res.callbacks hok hhigh).trans ?_
    rw [hslots]
    rfl
  refine hnone (.csUav 8) view hkept ?_
  rw [hreleased]
  exact List.mem_singleton_self _

end VirtioWddm
