/-
  VirtioWddm.Triton.ViewList

  The view lists over whole runs of the driver.

  A world is the driver's memory together with what the runtime knows: which
  addresses hold a resource, and which hold a view it has created and not yet
  destroyed.  In every reachable world the intrusive list of a resource holds
  exactly its live views; every call either leaves the list pointers alone or
  makes one of the two edits of the intrusive-list library.
-/

import VirtioWddm.Dxgi.Rotate
import VirtioWddm.Resource.Exits

namespace VirtioWddm

open Lib

-- ============================================================================
-- The edits are the library's
-- ============================================================================

namespace Heap

theorem links_setLink (h : Heap) (v : ViewAddr) (link : ViewLink) :
    (h.setLink v link).links = (h.links.setNext v link.pNext).setPrev v link.ppPrev := by
  simp only [links, setLink, setView, Links.setNext, Links.setPrev, Links.mk.injEq, true_and]
  refine ⟨funext fun u => ?_, funext fun u => ?_⟩ <;>
    by_cases hu : u = v <;> simp [hu]

/-- Writing a view block with the same link. -/
theorem links_setView (h : Heap) (v : ViewAddr) (view : TritonView)
    (hlink : view.link = (h.views v).link) : (h.setView v view).links = h.links := by
  simp only [links, setView, Links.mk.injEq, true_and]
  refine ⟨funext fun u => ?_, funext fun u => ?_⟩ <;>
    by_cases hu : u = v <;> simp [hu, hlink]

theorem links_setPView (h : Heap) (v : ViewAddr) (pView : Option HostView) :
    (h.setPView v pView).links = h.links :=
  h.links_setView v { h.views v with pView := pView } rfl

theorem links_writeCell (h : Heap) (cell : Cell ResourceAddr ViewAddr) (p : Option ViewAddr) :
    (h.writeCell cell p).links = h.links.write cell p := by
  cases cell with
  | head r =>
      simp only [links, writeCell, setResource, Links.write, Links.mk.injEq, and_true]
      funext r'
      by_cases hr : r' = r <;> simp [hr]
  | next v =>
      rw [writeCell, links_setLink]
      exact congrArg (fun f => { h.links.setNext v p with prev := f }) (Function.update_eq_self ..)

theorem links_setPpPrevOf (h : Heap) (l : Option ViewAddr)
    (p : Option (Cell ResourceAddr ViewAddr)) :
    (h.setPpPrevOf l p).links = h.links.setPrevOf l p := by
  cases l with
  | none => rfl
  | some w =>
      rw [setPpPrevOf, links_setLink]
      refine congrArg (Links.setPrev · w p) ?_
      exact congrArg (fun f => { h.links with next := f }) (Function.update_eq_self ..)

end Heap

theorem links_tritonResourceLinkView (h : Heap) (r : ResourceAddr) (l : ViewAddr)
    (kind : ViewKind) : (tritonResourceLinkView h r l kind).links = h.links.push r l := by
  simp only [tritonResourceLinkView, Heap.links_writeCell, Heap.links_setPpPrevOf,
    Heap.links_setLink]
  rfl

theorem links_tritonViewUnlink (h : Heap) (l : ViewAddr) :
    (tritonViewUnlink h l).links = h.links.unlink l := by
  have hprev : h.links.prev l = (h.views l).link.ppPrev := rfl
  cases hc : (h.views l).link.ppPrev with
  | none => simp only [tritonViewUnlink, Links.unlink, hprev, hc]
  | some cell =>
      let h₁ := h.writeCell cell (h.views l).link.pNext
      let h₂ := h₁.setPpPrevOf (h₁.views l).link.pNext (h₁.views l).link.ppPrev
      have hl₁ : h₁.links = h.links.write cell (h.links.next l) := h.links_writeCell ..
      have hl₂ : h₂.links = h₁.links.setPrevOf (h₁.links.next l) (h₁.links.prev l) :=
        h₁.links_setPpPrevOf ..
      have hunlink : tritonViewUnlink h l =
          h₂.setLink l { (h₂.views l).link with pNext := none, ppPrev := none } := by
        simp only [tritonViewUnlink, hc]
        rfl
      rw [hunlink, Heap.links_setLink, hl₂, hl₁, Links.unlink, hprev, hc]

/-- A creation that reports an error leaves the list pointers alone; one that does
    not pushes the view. -/
theorem createView_links (kind : ViewKind) (desc : Option ViewDesc) (h : Heap)
    (r : ResourceAddr) (v : ViewAddr) (reply : HostViewReply) :
    ((∃ hr, (createView kind desc h r v reply).2 = some hr) ∧
        (createView kind desc h r v reply).1.links = h.links) ∨
      ((createView kind desc h r v reply).2 = none ∧
        (createView kind desc h r v reply).1.links = h.links.push r v) := by
  cases hres : (h.resources r).base.pResource with
  | none => exact .inl ⟨⟨E_INVALIDARG, by simp [createView, hres]⟩, by simp [createView, hres]⟩
  | some resource =>
      have hset : (h.setView v { h.views v with pResource := some r, pView := none }).links =
          h.links := h.links_setView _ _ rfl
      cases desc with
      | none =>
          refine .inl ⟨⟨E_INVALIDARG, by simp [createView, hres]⟩, ?_⟩
          simpa [createView, hres] using hset
      | some d =>
          cases reply with
          | error hr =>
              refine .inl ⟨⟨hr.val, by simp [createView, hres]⟩, ?_⟩
              simpa [createView, hres] using hset
          | ok id =>
              refine .inr ⟨by simp [createView, hres], ?_⟩
              simp only [createView, hres, links_tritonResourceLinkView, Heap.links_setPView]
              rw [hset]

theorem destroyView_links (h : Heap) (v : ViewAddr) :
    (destroyView h v).links = h.links.unlink v :=
  ((tritonViewUnlink h v).links_setView v
    { (tritonViewUnlink h v).views v with pResource := none, pView := none } rfl).trans
    (links_tritonViewUnlink h v)

-- ============================================================================
-- New and reset resource blocks
-- ============================================================================

theorem QuietRun.pViewList {resource r : VirtioWddmResource} {s s' : CallState}
    (h : QuietRun resource r s s') : r.base.pViewList = resource.base.pViewList := by
  obtain ⟨tex, rfl⟩ := h.block
  rfl

/-- Every CreateResource call leaves a block with an empty view list. -/
theorem CreateRun.pViewList {env : DeviceEnv} {pArgs : CreateResourceArgs} {hRTResource : HANDLE}
    {s s' : CallState} {r : VirtioWddmResource} (h : CreateRun env pArgs hRTResource s r s') :
    r.base.pViewList = none := by
  cases h with
  | present3d h3 hdim r s' h =>
      cases h with
      | notAllocated => rfl
      | imageFailed => rfl
      | imported shared s₁ hsh hok info hinfo planes hplanes img s₂ himg himgok r s' himp =>
          exact himp.quiet.pViewList
  | blob h3 hb hdim r s' h =>
      cases h with
      | guarded => rfl
      | imageFailed => rfl
      | notAttributed => rfl
      | notResident => rfl
      | accepted hg img s₁ himg hok hattr hres r s' hpub => exact hpub.quiet.pViewList
  | plain h3 hb r s' h =>
      cases h with
      | unsupported => rfl
      | failed => rfl
      | created => rfl

/-- Every OpenResource call does, too. -/
theorem OpenRun.pViewList {env : DeviceEnv} {pArgs : OpenResourceArgs} {hRTResource : HANDLE}
    {s s' : CallState} {r : VirtioWddmResource} (h : OpenRun env pArgs hRTResource s r s') :
    r.base.pViewList = none := by
  have himport : ∀ {id info tiling modifierInfo} {resource r : VirtioWddmResource}
      {s s' : CallState},
      OpenImportRun env hRTResource id info tiling modifierInfo resource s r s' →
      r.base.pViewList = resource.base.pViewList := by
    intro id info tiling modifierInfo resource r s s' h
    cases h with
    | imageFailed => rfl
    | imported img s₁ himg hok r s' himp => exact himp.quiet.pViewList
  cases h with
  | queryFailed => rfl
  | unknownTag => rfl
  | blobInvalid => rfl
  | blob hq info hi hv hc r s' h => exact himport h
  | alloc3d hq info hi planes hplanes r s' h => exact himport h

-- ============================================================================
-- Worlds
-- ============================================================================

/-- The view creation entry points; those of WDDM 2.0 with whether the device has
    `ID3D11Device3`. -/
inductive ViewEntry where
  | rtv
  | srv
  | dsv
  | uav
  | rtvWddm20 (dev3 : Bool)
  | srvWddm20 (dev3 : Bool)
  | uavWddm20 (dev3 : Bool)

def ViewEntry.create : ViewEntry → Heap → ViewArgs → ResourceAddr → ViewAddr → HostViewReply →
    Heap × Option HRESULT
  | .rtv => tritonCreateRenderTargetView
  | .srv => tritonCreateSRV
  | .dsv => tritonCreateDSV
  | .uav => tritonCreateUAV
  | .rtvWddm20 dev3 => tritonCreateRenderTargetView_WDDM2_0 dev3
  | .srvWddm20 dev3 => tritonCreateSRV_WDDM2_0 dev3
  | .uavWddm20 dev3 => tritonCreateUAV_WDDM2_0 dev3

/-- The destruction entry point for each kind. -/
def ViewKind.destroy : ViewKind → Heap → ViewAddr → Heap
  | .rtv => tritonDestroyRenderTargetView
  | .srv => tritonDestroySRV
  | .dsv => tritonDestroyDSV
  | .uav => tritonDestroyUAV

theorem ViewEntry.create_eq (e : ViewEntry) (h : Heap) (a : ViewArgs) (r : ResourceAddr)
    (v : ViewAddr) (reply : HostViewReply) :
    ∃ kind desc, e.create h a r v reply = createView kind desc h r v reply := by
  cases e with
  | rtv => exact ⟨_, _, rfl⟩
  | srv => exact ⟨_, _, rfl⟩
  | dsv => exact ⟨_, _, rfl⟩
  | uav => exact ⟨_, _, rfl⟩
  | rtvWddm20 dev3 => cases dev3 <;> exact ⟨_, _, rfl⟩
  | srvWddm20 dev3 => cases dev3 <;> exact ⟨_, _, rfl⟩
  | uavWddm20 dev3 => cases dev3 <;> exact ⟨_, _, rfl⟩

theorem ViewKind.destroy_eq (kind : ViewKind) (h : Heap) (v : ViewAddr) :
    kind.destroy h v = destroyView h v := by
  cases kind <;> rfl

/-- The driver's memory, the addresses that hold a resource, and the views that
    were created successfully and not destroyed, each with its resource. -/
structure ViewWorld where
  heap : Heap
  alive : ResourceAddr → Prop
  live : ViewAddr → Option ResourceAddr

/-- No live view was created on `slot`. -/
def ViewWorld.NoViews (w : ViewWorld) (slot : ResourceAddr) : Prop :=
  ∀ v, w.live v ≠ some slot

/-- A block CreateResource or OpenResource has filled. -/
def ViewWorld.withResource (w : ViewWorld) (slot : ResourceAddr) (r : VirtioWddmResource) :
    ViewWorld :=
  { w with
    heap := w.heap.setResource slot r
    alive := fun r' => r' = slot ∨ w.alive r' }

/-- The world after a view creation, which is live when no error was reported. -/
def ViewWorld.withView (w : ViewWorld) (slot : ResourceAddr) (v : ViewAddr)
    (res : Heap × Option HRESULT) : ViewWorld :=
  { w with
    heap := res.1
    live := if res.2 = none then Function.update w.live v (some slot) else w.live }

theorem ViewWorld.live_withView (w : ViewWorld) (slot : ResourceAddr) (v : ViewAddr)
    {res : Heap × Option HRESULT} (hok : res.2 = none) :
    (w.withView slot v res).live = Function.update w.live v (some slot) :=
  if_pos hok

/-- The calls of a runtime that destroys only views whose creation succeeded, and a
    resource only after its views.  Private memory of a new view may hold
    anything. -/
inductive ViewStep (w : ViewWorld) : ViewWorld → Prop where
  | createResource (env : DeviceEnv) (pArgs : CreateResourceArgs) (hRTResource : HANDLE)
      (slot : ResourceAddr) (hfree : w.NoViews slot) (s s' : CallState) (r : VirtioWddmResource)
      (hrun : Runs (virtioWddmCreateResource env pArgs hRTResource) s r s') :
      ViewStep w (w.withResource slot r)
  | openResource (env : DeviceEnv) (pArgs : OpenResourceArgs) (hRTResource : HANDLE)
      (slot : ResourceAddr) (hfree : w.NoViews slot) (s s' : CallState) (r : VirtioWddmResource)
      (hrun : Runs (virtioWddmOpenResource env pArgs hRTResource) s r s') :
      ViewStep w (w.withResource slot r)
  | destroyResource (env : DeviceEnv) (slot : ResourceAddr) (halive : w.alive slot)
      (hfree : w.NoViews slot) (s s' : CallState) (r : VirtioWddmResource)
      (hrun : Runs (virtioWddmDestroyResource env (w.heap.resources slot)) s r s') :
      ViewStep w
        { w with
          heap := w.heap.setResource slot r
          alive := fun r' => r' ≠ slot ∧ w.alive r' }
  | createView (e : ViewEntry) (a : ViewArgs) (slot : ResourceAddr) (v : ViewAddr)
      (memory : TritonView) (reply : HostViewReply) (halive : w.alive slot)
      (hnew : w.live v = none) :
      ViewStep w (w.withView slot v (e.create (w.heap.setView v memory) a slot v reply))
  | destroyView (kind : ViewKind) (v : ViewAddr) (hlive : w.live v ≠ none) :
      ViewStep w
        { w with
          heap := kind.destroy w.heap v
          live := Function.update w.live v none }
  | rotate (d3d11 : Bool) (host : Nat → HostViewReply) (fuel : Nat) (slots : List ResourceAddr)
      (halive : ∀ r ∈ slots, w.alive r) (res : RotateResult)
      (hrun : virtioWddmRotateResourceIdentities d3d11 host fuel slots w.heap = some res) :
      ViewStep w { w with heap := res.heap }

/-- Before the first call. -/
def ViewWorld.Initial (w : ViewWorld) : Prop :=
  (∀ r, ¬w.alive r) ∧ ∀ v, w.live v = none

/-- The view lists are those of the world's live views. -/
structure ViewListed (w : ViewWorld) (lists : ResourceAddr → List ViewAddr) : Prop where
  linked : Linked w.heap.links w.alive lists
  mem_iff : ∀ r, w.alive r → ∀ v, v ∈ lists r ↔ w.live v = some r
  owner : ∀ v r, w.live v = some r → w.alive r

namespace ViewListed

variable {w : ViewWorld} {lists : ResourceAddr → List ViewAddr}

theorem not_mem_of_new (h : ViewListed w lists) {v : ViewAddr} (hnew : w.live v = none)
    {r : ResourceAddr} (hr : w.alive r) : v ∉ lists r := by
  intro hv
  have hlive := (h.mem_iff r hr v).mp hv
  simp [hnew] at hlive

/-- A block without views is filled. -/
theorem withResource (h : ViewListed w lists) {slot : ResourceAddr} (hfree : w.NoViews slot)
    {r : VirtioWddmResource} (hempty : r.base.pViewList = none) :
    ViewListed (w.withResource slot r) (Function.update lists slot []) := by
  refine ⟨h.linked.reset ?_ ?_ rfl rfl, ?_, fun v r' hv => .inr (h.owner v r' hv)⟩
  · show ((Function.update w.heap.resources slot r) slot).base.pViewList = none
    rw [Function.update_self, hempty]
  · intro r' hne
    show ((Function.update w.heap.resources slot r) r').base.pViewList = _
    rw [Function.update_of_ne hne]
    rfl
  · intro r' hr' v
    by_cases hne : r' = slot
    · subst hne
      rw [Function.update_self]
      exact ⟨fun hv => absurd hv List.not_mem_nil, fun hv => absurd hv (hfree v)⟩
    · rw [Function.update_of_ne hne]
      exact h.mem_iff r' (hr'.resolve_left hne) v

/-- A block without views is cleared. -/
theorem withoutResource (h : ViewListed w lists) {slot : ResourceAddr} (hfree : w.NoViews slot)
    (r : VirtioWddmResource) :
    ViewListed
      { w with heap := w.heap.setResource slot r, alive := fun r' => r' ≠ slot ∧ w.alive r' }
      lists := by
  refine ⟨fun r' hr' => ?_, fun r' hr' v => h.mem_iff r' hr'.2 v, fun v r' hv => ⟨?_, ?_⟩⟩
  · refine (h.linked r' hr'.2).transport ?_ fun _ _ => ⟨rfl, rfl⟩
    show ((Function.update w.heap.resources slot r) r').base.pViewList = _
    rw [Function.update_of_ne hr'.1]
    rfl
  · rintro rfl
    exact hfree v hv
  · exact h.owner v r' hv

/-- Memory of a view that is not live may change. -/
theorem scribble (h : ViewListed w lists) {v : ViewAddr} (hnew : w.live v = none)
    (memory : TritonView) : Linked (w.heap.setView v memory).links w.alive lists := by
  refine h.linked.transport (fun _ _ => rfl) fun r u hr hu => ?_
  have hne : u ≠ v := by
    rintro rfl
    exact h.not_mem_of_new hnew hr hu
  have hview : (w.heap.setView v memory).views u = w.heap.views u := Function.update_of_ne hne ..
  exact ⟨congrArg (fun view => view.link.pNext) hview,
    congrArg (fun view => view.link.ppPrev) hview⟩

/-- A view is created, or its creation fails. -/
theorem withView (h : ViewListed w lists) {slot : ResourceAddr} (halive : w.alive slot)
    {v : ViewAddr} (hnew : w.live v = none) (memory : TritonView) (e : ViewEntry) (a : ViewArgs)
    (reply : HostViewReply) :
    ∃ lists', ViewListed
      (w.withView slot v (e.create (w.heap.setView v memory) a slot v reply)) lists' := by
  obtain ⟨kind, desc, heq⟩ := e.create_eq (w.heap.setView v memory) a slot v reply
  have hlinked := h.scribble hnew memory
  rw [heq]
  rcases createView_links kind desc (w.heap.setView v memory) slot v reply with
    ⟨⟨hr, herr⟩, hlinks⟩ | ⟨hok, hlinks⟩
  · refine ⟨lists, ?_, ?_, ?_⟩
    · show Linked (createView _ _ _ _ _ _).1.links w.alive lists
      rw [hlinks]
      exact hlinked
    · simpa [ViewWorld.withView, herr] using h.mem_iff
    · simpa [ViewWorld.withView, herr] using h.owner
  · refine ⟨Function.update lists slot (v :: lists slot), ?_, ?_, ?_⟩
    · show Linked (createView _ _ _ _ _ _).1.links w.alive _
      rw [hlinks]
      exact hlinked.push halive fun r hr => h.not_mem_of_new hnew hr
    · intro r hr u
      rw [w.live_withView slot v hok]
      by_cases hu : u = v
      · subst hu
        by_cases hne : r = slot
        · subst hne
          simp
        · simp [Function.update_of_ne hne, h.not_mem_of_new hnew hr, Ne.symm hne]
      · rw [Function.update_of_ne hu, ← h.mem_iff r hr u]
        by_cases hne : r = slot
        · subst hne
          simp [hu]
        · rw [Function.update_of_ne hne]
    · intro u r hu
      rw [w.live_withView slot v hok] at hu
      by_cases huv : u = v
      · subst huv
        obtain rfl : slot = r := by simpa using hu
        exact halive
      · rw [Function.update_of_ne huv] at hu
        exact h.owner u r hu

/-- A live view is destroyed. -/
theorem withoutView (h : ViewListed w lists) {v : ViewAddr} (hlive : w.live v ≠ none)
    (kind : ViewKind) :
    ∃ lists', ViewListed
      { w with heap := kind.destroy w.heap v, live := Function.update w.live v none } lists' := by
  obtain ⟨r, hr⟩ := Option.ne_none_iff_exists'.mp hlive
  have halive := h.owner v r hr
  have hv : v ∈ lists r := (h.mem_iff r halive v).mpr hr
  refine ⟨Function.update lists r ((lists r).erase v), ?_, ?_, ?_⟩
  · show Linked (kind.destroy w.heap v).links w.alive _
    rw [kind.destroy_eq, destroyView_links]
    exact h.linked.unlink halive hv
  · intro r' hr' u
    show u ∈ Function.update lists r _ r' ↔ Function.update w.live v none u = some r'
    by_cases hne : r' = r
    · subst hne
      rw [Function.update_self, (h.linked r' hr').nodup.mem_erase_iff, h.mem_iff r' hr' u]
      by_cases hu : u = v <;> simp [hu]
    · rw [Function.update_of_ne hne, h.mem_iff r' hr' u]
      by_cases hu : u = v
      · subst hu
        simp [hr, Ne.symm hne]
      · rw [Function.update_of_ne hu]
  · intro u r' hu
    by_cases huv : u = v
    · subst huv
      simp at hu
    · have hu : Function.update w.live v none u = some r' := hu
      rw [Function.update_of_ne huv] at hu
      exact h.owner u r' hu

/-- Every call keeps the view lists in step with the live views. -/
theorem step (h : ViewListed w lists) {w' : ViewWorld} (hstep : ViewStep w w') :
    ∃ lists', ViewListed w' lists' := by
  cases hstep with
  | createResource env pArgs hRTResource slot hfree s s' r hrun =>
      exact ⟨_, h.withResource hfree (runs_virtioWddmCreateResource hrun).pViewList⟩
  | openResource env pArgs hRTResource slot hfree s s' r hrun =>
      exact ⟨_, h.withResource hfree (runs_virtioWddmOpenResource hrun).pViewList⟩
  | destroyResource env slot halive hfree s s' r hrun =>
      exact ⟨lists, h.withoutResource hfree r⟩
  | createView e a slot v memory reply halive hnew =>
      exact h.withView halive hnew memory e a reply
  | destroyView kind v hlive => exact h.withoutView hlive kind
  | rotate d3d11 host fuel slots halive res hrun =>
      refine ⟨lists, ?_, h.mem_iff, h.owner⟩
      show Linked res.heap.links w.alive lists
      rw [rotate_links hrun]
      exact h.linked

end ViewListed

-- ============================================================================
-- Every reachable world
-- ============================================================================

/-- What it means for the view lists to be well formed. -/
structure ViewListsWellFormed (w : ViewWorld) (lists : ResourceAddr → List ViewAddr) : Prop where
  /-- each list ends, and each node points back at the cell that points to it -/
  chain : ∀ r, w.alive r → Chain w.heap.links (.head r) (lists r)
  nodup : ∀ r, w.alive r → (lists r).Nodup
  disjoint : ∀ r r' v, w.alive r → w.alive r' → v ∈ lists r → v ∈ lists r' → r = r'
  exact : ∀ r, w.alive r → ∀ v, v ∈ lists r ↔ w.live v = some r

/-- In every reachable world the view lists are well formed and hold exactly the
    live views, and rotating any resources returns. -/
theorem viewLists_wellFormed {w : ViewWorld} (h : Reach ViewWorld.Initial ViewStep w) :
    (∃ lists, ViewListsWellFormed w lists) ∧
      ∀ (d3d11 : Bool) (host : Nat → HostViewReply) (slots : List ResourceAddr),
        (∀ r ∈ slots, w.alive r) →
          ∃ fuel res, virtioWddmRotateResourceIdentities d3d11 host fuel slots w.heap =
            some res := by
  have hlisted : ∃ lists, ViewListed w lists := by
    refine Reach.invariant (fun w => ∃ lists, ViewListed w lists) ?_ ?_ h
    · intro w hw
      refine ⟨fun _ => [], fun r hr => absurd hr (hw.1 r), fun r hr => absurd hr (hw.1 r), ?_⟩
      intro v r hv
      simp [hw.2 v] at hv
    · rintro w w' ⟨lists, hl⟩ hstep
      exact hl.step hstep
  obtain ⟨lists, hl⟩ := hlisted
  refine ⟨⟨lists, hl.linked, fun r hr => (hl.linked r hr).nodup, ?_, hl.mem_iff⟩, ?_⟩
  · exact fun r r' v hr hr' hv hv' => (hl.linked r hr).owner_unique (hl.linked r' hr') hv hv'
  · intro d3d11 host slots halive
    have hlinked : Linked w.heap.links (· ∈ slots) lists := fun r hr => hl.linked r (halive r hr)
    exact rotate_returns d3d11 host hlinked

/-- A world before the first call, its memory filled with dangling links. -/
def freshWorld : ViewWorld :=
  { heap :=
      { resources := fun _ => { base := { pViewList := some 3 } }
        views := fun _ =>
          { pResource := some 9
            pView := none
            link := { pNext := some 4, ppPrev := some (.head 9), kind := .uav } } }
    alive := fun _ => False
    live := fun _ => none }

/-- A plain texture that can be rendered to. -/
def plainArgs : CreateResourceArgs :=
  { pMipInfoList := some { texelWidth := 64, texelHeight := 64, texelDepth := 1 }
    format := .R8G8B8A8_UNORM
    mipLevels := 1
    arraySize := 1
    sampleDesc := { count := 1 }
    bindFlags := D3D10_DDI_BIND_RENDER_TARGET }

/-- Two textures, two views on the first, a rotation, and the first view destroyed:
    the other view is still on its list. -/
theorem viewLists_wellFormed_rotated :
    ∃ w, Reach ViewWorld.Initial ViewStep w ∧ w.live 7 = none ∧ w.live 8 = some 1 ∧ w.alive 1 ∧
      ∃ lists, ViewListsWellFormed w lists ∧ 8 ∈ lists 1 := by
  have hcreate : Runs (virtioWddmCreateResource (.allOk false (.other 0) []) plainArgs 5) {} _ _ :=
    rfl
  have h₀ : Reach ViewWorld.Initial ViewStep freshWorld := .init ⟨fun _ => id, fun _ => rfl⟩
  have h₁ := h₀.step (.createResource _ _ _ 1 (fun _ => by simp [freshWorld]) _ _ _ hcreate)
  have h₂ := h₁.step (.createResource _ _ _ 2 (fun _ => by simp [freshWorld,
    ViewWorld.withResource]) _ _ _ hcreate)
  have h₃ := h₂.step (.createView .rtv
    { format := .R8G8B8A8_UNORM, resourceDimension := .texture2d } 1 7
    (freshWorld.heap.views 7) (.ok 100) (.inr (.inl rfl)) rfl)
  have h₄ := h₃.step (.createView (.srvWddm20 true)
    { format := .R8G8B8A8_UNORM, resourceDimension := .texture2d } 1 8 (freshWorld.heap.views 8)
    (.ok 101) (.inr (.inl rfl)) rfl)
  have h₅ := h₄.step (.rotate true (fun n => .ok n) 2 [1, 2]
    (by simp [ViewWorld.withView, ViewWorld.withResource]) _ rfl)
  have h₆ := h₅.step (.destroyView .rtv 7 (by decide))
  obtain ⟨⟨lists, hlists⟩, -⟩ := viewLists_wellFormed h₆
  exact ⟨_, h₆, rfl, rfl, .inr (.inl rfl), lists, hlists,
    (hlists.exact 1 (.inr (.inl rfl)) 8).mpr rfl⟩

end VirtioWddm
