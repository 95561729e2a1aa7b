/-
  VirtioWddm.Dxgi.Rotate

  `virtio_wddm_rotate_resource_identities` of `dxgi.c`.

  The private blocks of the rotated resources are copied over each other in a
  chain, except for two members that belong to the runtime's handle and not to
  what is behind it.  Then every view on the rotated resources gets a new host
  view.
-/

import Mathlib.Algebra.Order.BigOperators.Group.List
import Mathlib.Algebra.Order.Group.Nat
import VirtioWddm.Triton.View
import VirtioWddm.Lib.Rotate

namespace VirtioWddm

open Lib

-- ============================================================================
-- The call
-- ============================================================================

/-- `*curr = *next` with `hRTResource` and `pViewList` put back. -/
def takeIdentity (curr next : VirtioWddmResource) : VirtioWddmResource :=
  { next with
    base := { next.base with
      hRTResource := curr.base.hRTResource
      pViewList := curr.base.pViewList } }

/-- The state callbacks the call ends with; those of later pipeline stages only
    from the D3D11 interface on. -/
inductive StateCallback where
  | vsSrv
  | gsSrv
  | psSrv
  | hsSrv
  | dsSrv
  | csSrv
  | csUav
  | omRenderTargets
deriving DecidableEq

def stateCallbacks (d3d11 : Bool) : List StateCallback :=
  [.vsSrv, .gsSrv, .psSrv] ++ (if d3d11 then [.hsSrv, .dsSrv, .csSrv, .csUav] else []) ++
    [.omRenderTargets]

/-- What a call returns and leaves. -/
structure RotateResult where
  hr : HRESULT := S_OK
  heap : Heap
  callbacks : List StateCallback := []

/-- The loop over `tritonResourceRecreateViews`. -/
def recreateAll (host : Nat → HostViewReply) (fuel : Nat)
    (resources : ResourceAddr → VirtioWddmResource) :
    List ResourceAddr → (ViewAddr → TritonView) → Nat → Option (ViewAddr → TritonView)
  | [], views, _ => some views
  | r :: rs, views, iterations => do
      let st ← tritonResourceRecreateViews host fuel (resources r) views iterations
      recreateAll host fuel resources rs st.views st.iterations

/-- `virtio_wddm_rotate_resource_identities`.  `host n` is the host's answer to the
    `n`-th view, and `fuel` bounds each of the loops over a view list; `none` is a
    list that does not end within it. -/
def virtioWddmRotateResourceIdentities (d3d11 : Bool) (host : Nat → HostViewReply) (fuel : Nat)
    (slots : List ResourceAddr) (h : Heap) : Option RotateResult :=
  if slots.length ≤ 1 then
    some { heap := h }
  else do
    let resources := shift takeIdentity slots h.resources
    let views ← recreateAll host fuel resources slots h.views 0
    return { heap := { resources := resources, views := views }, callbacks := stateCallbacks d3d11 }

-- ============================================================================
-- Identities
-- ============================================================================

/-- Everything but the two members that stay: what the rotation moves. -/
def VirtioWddmResource.identity (resource : VirtioWddmResource) : VirtioWddmResource :=
  { resource with base := { resource.base with hRTResource := 0, pViewList := none } }

/-- A private block, split into the members of its handle and its identity. -/
def identitySplit : Split VirtioWddmResource (HANDLE × Option ViewAddr) VirtioWddmResource where
  own resource := (resource.base.hRTResource, resource.base.pViewList)
  ident := VirtioWddmResource.identity
  take := takeIdentity
  own_take _ _ := rfl
  ident_take _ _ := rfl
  ext := by
    rintro ⟨a, _, _⟩ ⟨b, _, _⟩ hown hident
    cases a
    cases b
    simp_all [VirtioWddmResource.identity]

/-- The list heads do not move. -/
theorem shift_pViewList (slots : List ResourceAddr)
    (resources : ResourceAddr → VirtioWddmResource) (r : ResourceAddr) :
    (shift takeIdentity slots resources r).base.pViewList = (resources r).base.pViewList :=
  congrArg Prod.snd (identitySplit.own_shift slots resources r)

theorem shift_hRTResource (slots : List ResourceAddr)
    (resources : ResourceAddr → VirtioWddmResource) (r : ResourceAddr) :
    (shift takeIdentity slots resources r).base.hRTResource = (resources r).base.hRTResource :=
  congrArg Prod.fst (identitySplit.own_shift slots resources r)

-- ============================================================================
-- Re-creation
-- ============================================================================

/-- Re-creating a view leaves its links and its owner alone. -/
@[simp] theorem recreateView_link (resource : VirtioWddmResource) (view : TritonView)
    (reply : HostViewReply) : (recreateView resource view reply).1.link = view.link := by
  cases h : view.pView <;> simp [recreateView, h]

/-- A successful re-creation. -/
theorem recreateView_ok {view : TritonView} {old : HostView} (hold : view.pView = some old)
    (resource : VirtioWddmResource) (id : Nat) :
    (recreateView resource view (.ok id)).1 =
      { view with
        pView := some
          { id := id
            kind := view.link.kind
            resource := resource.base.pResource
            desc := old.getDesc } } := by
  simp [recreateView, hold, HostViewReply.view]

namespace RecreateState

variable (host : Nat → HostViewReply) (resource : VirtioWddmResource) (st : RecreateState)

theorem step_self (l : ViewAddr) :
    (st.step host resource l).views l =
      (recreateView resource (st.views l) (host st.iterations)).1 :=
  Function.update_self ..

theorem step_of_ne {l v : ViewAddr} (h : v ≠ l) :
    (st.step host resource l).views v = st.views v :=
  Function.update_of_ne h ..

theorem step_link (l v : ViewAddr) :
    ((st.step host resource l).views v).link = (st.views v).link := by
  by_cases h : v = l
  · rw [h, step_self, recreateView_link]
  · rw [st.step_of_ne host resource h]

end RecreateState

section Loop

variable {host : Nat → HostViewReply} {resource : VirtioWddmResource} {fuel : Nat}
  {L : Links ResourceAddr ViewAddr} {c : Cell ResourceAddr ViewAddr} {xs : List ViewAddr}

/-- The loop changes no link. -/
theorem recreateLoop_link {l : Option ViewAddr} {st st' : RecreateState}
    (h : recreateLoop host resource fuel l st = some st') (v : ViewAddr) :
    (st'.views v).link = (st.views v).link := by
  induction fuel generalizing l st with
  | zero =>
      cases l with
      | none => cases h; rfl
      | some l => cases h
  | succ fuel ih =>
      cases l with
      | none => cases h; rfl
      | some l => rw [ih h, st.step_link]

/-- The loop returns once the fuel covers the list. -/
theorem recreateLoop_returns (hchain : Chain L c xs) (hfuel : xs.length ≤ fuel)
    (st : RecreateState) (hnext : ∀ v, (st.views v).link.pNext = L.next v) :
    ∃ st', recreateLoop host resource fuel (L.read c) st = some st' := by
  induction xs generalizing c fuel st with
  | nil =>
      have hread : L.read c = none := hchain
      exact ⟨st, by rw [hread, recreateLoop]⟩
  | cons v vs ih =>
      obtain ⟨hread, -, hvs⟩ := hchain
      cases fuel with
      | zero => simp at hfuel
      | succ fuel =>
          rw [hread, recreateLoop, st.step_link, hnext]
          refine ih hvs (by simpa using hfuel) _ fun u => ?_
          rw [st.step_link, hnext]

/-- What the loop over the list `xs` does to the views. -/
structure Recreated (host : Nat → HostViewReply) (resource : VirtioWddmResource)
    (xs : List ViewAddr) (views views' : ViewAddr → TritonView) : Prop where
  other : ∀ v, v ∉ xs → views' v = views v
  listed : ∀ v ∈ xs, ∃ n, views' v = (recreateView resource (views v) (host n)).1

/-- One iteration of the loop along a chain; the links stay what they are. -/
theorem recreateLoop_cons {w : ViewAddr} (hchain : Chain L c (w :: xs))
    {st st' : RecreateState} (hnext : ∀ v, (st.views v).link.pNext = L.next v)
    (h : recreateLoop host resource fuel (L.read c) st = some st') :
    (∃ m, fuel = m + 1 ∧
      recreateLoop host resource m (L.read (.next w)) (st.step host resource w) = some st') ∧
      ∀ v, ((st.step host resource w).views v).link.pNext = L.next v := by
  have hread : L.read c = some w := hchain.1
  rw [hread] at h
  cases fuel with
  | zero => cases h
  | succ fuel =>
      rw [recreateLoop, st.step_link, hnext] at h
      exact ⟨⟨fuel, rfl, h⟩, fun v => by rw [st.step_link, hnext]⟩

/-- The view at position `i` of the list is re-created in the loop's iteration `i`; no
    other view is touched. -/
theorem recreateLoop_views (hchain : Chain L c xs) (hnodup : xs.Nodup)
    {st st' : RecreateState} (hnext : ∀ v, (st.views v).link.pNext = L.next v)
    (h : recreateLoop host resource fuel (L.read c) st = some st') :
    st'.iterations = st.iterations + xs.length ∧ (∀ v, v ∉ xs → st'.views v = st.views v) ∧
      ∀ i v, xs[i]? = some v →
        st'.views v = (recreateView resource (st.views v) (host (st.iterations + i))).1 := by
  induction xs generalizing c fuel st with
  | nil =>
      have hread : L.read c = none := hchain
      rw [hread, recreateLoop] at h
      cases h
      exact ⟨rfl, fun _ _ => rfl, fun i v hv => by simp at hv⟩
  | cons w ws ih =>
      obtain ⟨hw, hnodup⟩ := List.nodup_cons.mp hnodup
      obtain ⟨⟨m, -, hrest⟩, hnext'⟩ := recreateLoop_cons hchain hnext h
      obtain ⟨hiterations, hother, hlisted⟩ := ih hchain.2.2 hnodup hnext' hrest
      have hstep : (st.step host resource w).iterations = st.iterations + 1 := rfl
      refine ⟨by rw [hiterations, hstep, List.length_cons]; omega, fun v hv => ?_,
        fun i v hv => ?_⟩
      · obtain ⟨hvw, hvws⟩ := List.ne_and_not_mem_of_not_mem_cons hv
        rw [hother v hvws, st.step_of_ne host resource hvw]
      · cases i with
        | zero =>
            obtain rfl : w = v := by simpa using hv
            rw [hother w hw, st.step_self]
            rfl
        | succ i =>
            rw [List.getElem?_cons_succ] at hv
            have hne : v ≠ w := fun heq => hw (heq ▸ List.mem_of_getElem? hv)
            rw [hlisted i v hv, hstep, st.step_of_ne host resource hne]
            rw [show st.iterations + 1 + i = st.iterations + (i + 1) by omega]

/-- The loop re-creates each view of the list once and touches no other. -/
theorem recreateLoop_recreated (hchain : Chain L c xs) (hnodup : xs.Nodup)
    {st st' : RecreateState} (hnext : ∀ v, (st.views v).link.pNext = L.next v)
    (h : recreateLoop host resource fuel (L.read c) st = some st') :
    Recreated host resource xs st.views st'.views := by
  obtain ⟨-, hother, hlisted⟩ := recreateLoop_views hchain hnodup hnext h
  refine ⟨hother, fun v hv => ?_⟩
  obtain ⟨i, hi⟩ := List.mem_iff_getElem?.mp hv
  exact ⟨_, hlisted i v hi⟩

end Loop

-- ============================================================================
-- All rotated resources
-- ============================================================================

section All

variable {host : Nat → HostViewReply} {fuel : Nat}
  {resources : ResourceAddr → VirtioWddmResource} {L : Links ResourceAddr ViewAddr}
  {slots : List ResourceAddr} {lists : ResourceAddr → List ViewAddr}

theorem recreateAll_link {views views' : ViewAddr → TritonView} {n : Nat}
    (h : recreateAll host fuel resources slots views n = some views') (v : ViewAddr) :
    (views' v).link = (views v).link := by
  induction slots generalizing views n with
  | nil => cases h; rfl
  | cons r rs ih =>
      obtain ⟨st, hst, hrest⟩ := Option.bind_eq_some_iff.mp h
      rw [ih hrest]
      exact recreateLoop_link hst v

theorem recreateAll_returns (hlinked : Linked L (· ∈ slots) lists)
    (hheads : ∀ r, (resources r).base.pViewList = L.head r)
    (hfuel : ∀ r ∈ slots, (lists r).length ≤ fuel) (views : ViewAddr → TritonView)
    (hnext : ∀ v, (views v).link.pNext = L.next v) (n : Nat) :
    ∃ views', recreateAll host fuel resources slots views n = some views' := by
  induction slots generalizing views n with
  | nil => exact ⟨views, rfl⟩
  | cons r rs ih =>
      obtain ⟨st, hst⟩ : ∃ st, recreateLoop host (resources r) fuel (L.read (.head r))
          { views := views, iterations := n } = some st :=
        recreateLoop_returns (hlinked r List.mem_cons_self) (hfuel r List.mem_cons_self) _ hnext
      obtain ⟨views', hrest⟩ := ih (fun r' hr' => hlinked r' (List.mem_cons_of_mem _ hr'))
        (fun r' hr' => hfuel r' (List.mem_cons_of_mem _ hr')) st.views
        (fun v => by rw [recreateLoop_link hst, hnext]) st.iterations
      refine ⟨views', Option.bind_eq_some_iff.mpr ⟨st, ?_, hrest⟩⟩
      rw [tritonResourceRecreateViews, hheads]
      exact hst

/-- The loop over one resource's list, and the loops that follow it. -/
theorem recreateAll_cons {r : ResourceAddr} {rs : List ResourceAddr}
    (hheads : ∀ r, (resources r).base.pViewList = L.head r) {views views' : ViewAddr → TritonView}
    (hnext : ∀ v, (views v).link.pNext = L.next v) {n : Nat}
    (h : recreateAll host fuel resources (r :: rs) views n = some views') :
    ∃ st, recreateLoop host (resources r) fuel (L.read (.head r))
        { views := views, iterations := n } = some st ∧
      (∀ v, (st.views v).link.pNext = L.next v) ∧
      recreateAll host fuel resources rs st.views st.iterations = some views' := by
  obtain ⟨st, hst, hrest⟩ := Option.bind_eq_some_iff.mp h
  rw [tritonResourceRecreateViews, hheads] at hst
  exact ⟨st, hst, fun v => by rw [recreateLoop_link hst, hnext], hrest⟩

/-- Over distinct resources the view at position `i` of all lists together gets the
    host's answer `i`, for the resource on whose list it is; no other view is touched. -/
theorem recreateAll_views (hlinked : Linked L (· ∈ slots) lists) (hnodup : slots.Nodup)
    (hheads : ∀ r, (resources r).base.pViewList = L.head r) {views views' : ViewAddr → TritonView}
    (hnext : ∀ v, (views v).link.pNext = L.next v) {n : Nat}
    (h : recreateAll host fuel resources slots views n = some views') :
    (∀ v, (∀ r ∈ slots, v ∉ lists r) → views' v = views v) ∧
      ∀ i v, (slots.flatMap lists)[i]? = some v →
        ∃ r ∈ slots, v ∈ lists r ∧
          views' v = (recreateView (resources r) (views v) (host (n + i))).1 := by
  induction slots generalizing views n with
  | nil =>
      cases h
      exact ⟨fun _ _ => rfl, fun i v hv => by simp at hv⟩
  | cons r rs ih =>
      obtain ⟨hr, hnodup⟩ := List.nodup_cons.mp hnodup
      have hchain := hlinked r List.mem_cons_self
      have hlinked' : Linked L (· ∈ rs) lists :=
        fun r' hr' => hlinked r' (List.mem_cons_of_mem _ hr')
      obtain ⟨st, hst, hnext', hrest⟩ := recreateAll_cons hheads hnext h
      obtain ⟨hiterations, hfirst, hlisted⟩ :=
        recreateLoop_views hchain hchain.nodup hnext hst
      obtain ⟨hother, hall⟩ := ih hlinked' hnodup hnext' hrest
      -- no view is on the first list and on another one
      have hforeign : ∀ v ∈ lists r, ∀ r' ∈ rs, v ∉ lists r' := fun v hv r' hr' hv' =>
        hr (hchain.owner_unique (hlinked' r' hr') hv hv' ▸ hr')
      refine ⟨fun v hv => ?_, fun i v hv => ?_⟩
      · rw [hother v fun r' hr' => hv r' (List.mem_cons_of_mem _ hr'),
          hfirst v (hv r List.mem_cons_self)]
      · rw [List.flatMap_cons, List.getElem?_append] at hv
        split at hv
        case isTrue hlt =>
          have hmem : v ∈ lists r := List.mem_of_getElem? hv
          refine ⟨r, List.mem_cons_self, hmem, ?_⟩
          rw [hother v (hforeign v hmem), hlisted i v hv]
        case isFalse hge =>
          obtain ⟨r', hr', hmem, hviews⟩ := hall _ v hv
          refine ⟨r', List.mem_cons_of_mem _ hr', hmem, ?_⟩
          rw [hviews, hfirst v fun hv' => hforeign v hv' r' hr' hmem, hiterations]
          rw [show n + (lists r).length + (i - (lists r).length) = n + i by omega]

/-- Over distinct resources every listed view is re-created once, for the resource
    on whose list it is. -/
theorem recreateAll_recreated (hlinked : Linked L (· ∈ slots) lists) (hnodup : slots.Nodup)
    (hheads : ∀ r, (resources r).base.pViewList = L.head r) {views views' : ViewAddr → TritonView}
    (hnext : ∀ v, (views v).link.pNext = L.next v) {n : Nat}
    (h : recreateAll host fuel resources slots views n = some views') :
    ∀ r ∈ slots, ∀ v ∈ lists r,
      ∃ n, views' v = (recreateView (resources r) (views v) (host n)).1 := by
  intro r hr v hv
  obtain ⟨i, hi⟩ := List.mem_iff_getElem?.mp (List.mem_flatMap.mpr ⟨r, hr, hv⟩)
  obtain ⟨r', hr', hv', hviews⟩ := (recreateAll_views hlinked hnodup hheads hnext h).2 i v hi
  obtain rfl := (hlinked r hr).owner_unique (hlinked r' hr') hv hv'
  exact ⟨_, hviews⟩

end All

-- ============================================================================
-- The rotation
-- ============================================================================

section Rotation

variable {d3d11 : Bool} {host : Nat → HostViewReply} {fuel : Nat} {slots : List ResourceAddr}
  {h : Heap} {res : RotateResult} {lists : ResourceAddr → List ViewAddr}

/-- A call on two or more resources, taken apart. -/
theorem rotate_eq_some (hlen : 2 ≤ slots.length)
    (hrun : virtioWddmRotateResourceIdentities d3d11 host fuel slots h = some res) :
    res.heap.resources = shift takeIdentity slots h.resources ∧
      recreateAll host fuel (shift takeIdentity slots h.resources) slots h.views 0 =
        some res.heap.views := by
  rw [virtioWddmRotateResourceIdentities, if_neg (by omega)] at hrun
  obtain ⟨views, hviews, hres⟩ := Option.bind_eq_some_iff.mp hrun
  cases hres
  exact ⟨rfl, hviews⟩

/-- Any call shifts the private blocks; on fewer than two resources the shift
    changes nothing. -/
theorem rotate_resources
    (hrun : virtioWddmRotateResourceIdentities d3d11 host fuel slots h = some res) :
    res.heap.resources = shift takeIdentity slots h.resources := by
  by_cases hlen : slots.length ≤ 1
  · rw [virtioWddmRotateResourceIdentities, if_pos hlen] at hrun
    cases hrun
    match slots, hlen with
    | [], _ => rfl
    | [r], _ => exact (Function.update_eq_self r h.resources).symm
  · exact (rotate_eq_some (by omega) hrun).1

/-- Each resource of the list takes over the identity of the next one. -/
theorem rotate_formPerm (hdistinct : slots.Nodup)
    (hrun : virtioWddmRotateResourceIdentities d3d11 host fuel slots h = some res)
    (r : ResourceAddr) :
    res.heap.resources r = takeIdentity (h.resources r) (h.resources (slots.formPerm r)) := by
  rw [rotate_resources hrun]
  exact identitySplit.shift_eq_formPerm hdistinct h.resources r

/-- The list pointers are the same before and after any call. -/
theorem rotate_links
    (hrun : virtioWddmRotateResourceIdentities d3d11 host fuel slots h = some res) :
    res.heap.links = h.links := by
  by_cases hlen : slots.length ≤ 1
  · rw [virtioWddmRotateResourceIdentities, if_pos hlen] at hrun
    cases hrun
    rfl
  · obtain ⟨hresources, hviews⟩ := rotate_eq_some (by omega) hrun
    have hlink := recreateAll_link hviews
    simp only [Heap.links, hresources, shift_pViewList, hlink]

/-- The call returns when the lists of the rotated resources are well formed. -/
theorem rotate_returns (d3d11 : Bool) (host : Nat → HostViewReply)
    (hlinked : Linked h.links (· ∈ slots) lists) :
    ∃ fuel res, virtioWddmRotateResourceIdentities d3d11 host fuel slots h = some res := by
  by_cases hlen : slots.length ≤ 1
  · exact ⟨0, _, if_pos hlen⟩
  · have hfuel : ∀ r ∈ slots, (lists r).length ≤ (slots.map fun r => (lists r).length).sum :=
      fun r hr => List.single_le_sum (by simp) _ (List.mem_map_of_mem hr)
    obtain ⟨views, hviews⟩ : ∃ views, recreateAll host _ (shift takeIdentity slots h.resources)
        slots h.views 0 = some views :=
      recreateAll_returns hlinked (shift_pViewList slots h.resources) hfuel h.views
        (fun _ => rfl) 0
    exact ⟨_, _, (if_neg hlen).trans (Option.bind_eq_some_iff.mpr ⟨views, hviews, rfl⟩)⟩

/-- The cyclic shift: slot `i` has the identity slot `i + 1` had, the last one that
    of the first; handles, view lists and all other resources are as before. -/
structure CyclicShift (slots : List ResourceAddr) (h h' : Heap) : Prop where
  identity : ∀ i, (hi : i < slots.length) → (hnext : (i + 1) % slots.length < slots.length) →
    (h'.resources slots[i]).identity = (h.resources slots[(i + 1) % slots.length]).identity
  hRTResource : ∀ r, (h'.resources r).base.hRTResource = (h.resources r).base.hRTResource
  links : h'.links = h.links
  other : ∀ r, r ∉ slots → h'.resources r = h.resources r
  perm : (slots.map fun r => (h'.resources r).identity).Perm
    (slots.map fun r => (h.resources r).identity)

/-- Every view on slot `i` wraps a new host view of the host resource slot `i + 1`
    had, with the description `GetDesc` gave for its old one. -/
def ViewsFollow (slots : List ResourceAddr) (lists : ResourceAddr → List ViewAddr)
    (h h' : Heap) : Prop :=
  ∀ i, (hi : i < slots.length) → (hnext : (i + 1) % slots.length < slots.length) →
    ∀ v ∈ lists slots[i], ∃ old new, (h.views v).pView = some old ∧
      (h'.views v).pView = some new ∧
      new.resource = (h.resources slots[(i + 1) % slots.length]).base.pResource ∧
      new.desc = old.getDesc

theorem rotate_cyclicShift (hlen : 2 ≤ slots.length) (hnodup : slots.Nodup)
    (hrun : virtioWddmRotateResourceIdentities d3d11 host fuel slots h = some res) :
    CyclicShift slots h res.heap := by
  obtain ⟨hresources, -⟩ := rotate_eq_some hlen hrun
  refine ⟨?_, ?_, rotate_links hrun, ?_, ?_⟩
  · intro i hi hnext
    rw [hresources]
    exact identitySplit.ident_shift_getElem hnodup h.resources hi hnext
  · intro r
    rw [hresources]
    exact shift_hRTResource ..
  · intro r hr
    rw [hresources]
    exact shift_of_not_mem hr
  · rw [hresources]
    have hmap := identitySplit.ident_shift hnodup h.resources
    exact hmap ▸ List.rotate_perm _ 1

theorem rotate_viewsFollow (hlen : 2 ≤ slots.length) (hnodup : slots.Nodup)
    (hlinked : Linked h.links (· ∈ slots) lists)
    (hlive : ∀ r ∈ slots, ∀ v ∈ lists r, (h.views v).pView ≠ none)
    (hhost : ∀ n, ∃ id, host n = .ok id)
    (hrun : virtioWddmRotateResourceIdentities d3d11 host fuel slots h = some res) :
    ViewsFollow slots lists h res.heap := by
  obtain ⟨hresources, hviews⟩ := rotate_eq_some hlen hrun
  have hlisted := recreateAll_recreated hlinked hnodup
    (fun r => shift_pViewList slots h.resources r) (fun _ => rfl) hviews
  intro i hi hnext v hv
  obtain ⟨old, hold⟩ := Option.ne_none_iff_exists'.mp (hlive _ (List.getElem_mem hi) v hv)
  obtain ⟨n, hn⟩ := hlisted _ (List.getElem_mem hi) v hv
  obtain ⟨id, hid⟩ := hhost n
  rw [hid, recreateView_ok hold] at hn
  refine ⟨old, _, hold, by rw [hn], ?_, rfl⟩
  have hident := identitySplit.ident_shift_getElem hnodup h.resources hi hnext
  exact congrArg (fun r => r.base.pResource) hident

end Rotation

/-- `n` calls on the same list, with whatever answers of the host. -/
inductive Rotations (d3d11 : Bool) (slots : List ResourceAddr) : Nat → Heap → Heap → Prop where
  | zero (h : Heap) : Rotations d3d11 slots 0 h h
  | succ {n : Nat} {h h' : Heap} {host : Nat → HostViewReply} {fuel : Nat} {res : RotateResult}
      (hprev : Rotations d3d11 slots n h h')
      (hrun : virtioWddmRotateResourceIdentities d3d11 host fuel slots h' = some res) :
      Rotations d3d11 slots (n + 1) h res.heap

theorem Rotations.resources {d3d11 : Bool} {slots : List ResourceAddr} {n : Nat} {h h' : Heap}
    (hlen : 2 ≤ slots.length) (hrot : Rotations d3d11 slots n h h') :
    h'.resources = (shift takeIdentity slots)^[n] h.resources := by
  induction hrot with
  | zero h => rfl
  | succ hprev hrun ih =>
      rw [(rotate_eq_some hlen hrun).1, ih, Function.iterate_succ_apply']

theorem Rotations.returns {slots : List ResourceAddr} {h : Heap}
    {lists : ResourceAddr → List ViewAddr} (hlinked : Linked h.links (· ∈ slots) lists)
    (d3d11 : Bool) (n : Nat) :
    ∃ h', Rotations d3d11 slots n h h' ∧ h'.links = h.links := by
  induction n with
  | zero => exact ⟨h, .zero h, rfl⟩
  | succ n ih =>
      obtain ⟨h', hrot, hlinks⟩ := ih
      rw [← hlinks] at hlinked
      obtain ⟨fuel, res, hrun⟩ := rotate_returns d3d11 (fun _ => .ok 0) hlinked
      exact ⟨res.heap, .succ hrot hrun, (rotate_links hrun).trans hlinks⟩

/-- `virtio_wddm_rotate_resource_identities` on distinct resources is a cyclic shift
    and is undone by as many calls as there are resources.  Where the resources'
    view lists are well formed the call returns; and when every linked view had a
    host view and the host re-creates them all, each is a view of the resource that
    is now behind its slot, with its old description as far as the base view
    interfaces report it. -/
theorem rotate_resource_identities {slots : List ResourceAddr} (hlen : 2 ≤ slots.length)
    (hnodup : slots.Nodup) (d3d11 : Bool) (host : Nat → HostViewReply) (h : Heap) :
    (∀ fuel res, virtioWddmRotateResourceIdentities d3d11 host fuel slots h = some res →
      CyclicShift slots h res.heap) ∧
    (∀ h', Rotations d3d11 slots slots.length h h' → h'.resources = h.resources) ∧
    ∀ lists, Linked h.links (· ∈ slots) lists →
      (∃ fuel res, virtioWddmRotateResourceIdentities d3d11 host fuel slots h = some res) ∧
      (∃ h', Rotations d3d11 slots slots.length h h') ∧
      ((∀ r ∈ slots, ∀ v ∈ lists r, (h.views v).pView ≠ none) → (∀ n, ∃ id, host n = .ok id) →
        ∀ fuel res, virtioWddmRotateResourceIdentities d3d11 host fuel slots h = some res →
          ViewsFollow slots lists h res.heap) := by
  refine ⟨fun fuel res hrun => rotate_cyclicShift hlen hnodup hrun, fun h' hrot => ?_,
    fun lists hlinked =>
      ⟨rotate_returns d3d11 host hlinked, ?_, fun hlive hhost fuel res hrun => ?_⟩⟩
  · rw [hrot.resources hlen]
    exact identitySplit.shift_iterate_length hnodup h.resources
  · obtain ⟨h', hrot, -⟩ := Rotations.returns hlinked d3d11 slots.length
    exact ⟨h', hrot⟩
  · exact rotate_viewsFollow hlen hnodup hlinked hlive hhost hrun

/-- Planar textures at every address, with one shader view of plane `planeSlice` on
    the first of them. -/
def sampleHeap (planeSlice : UINT) : Heap :=
  (tritonCreateSRV_WDDM2_0 true
    { resources := fun r =>
        { base :=
            { dimension := .texture2d, format := .NV12, arraySize := 1, pResource := some ⟨r⟩ } }
      views := fun _ =>
        { pResource := none
          pView := none
          link := { pNext := none, ppPrev := none, kind := .rtv } } }
    { format := .R8G8_UNORM
      resourceDimension := .texture2d
      range := { mipLevels := 1, planeSlice := planeSlice } } 1 7 (.ok 100)).1

/-- The views of `sampleHeap`. -/
def sampleLists (r : ResourceAddr) : List ViewAddr :=
  if r = 1 then [7] else []

theorem sampleHeap_linked (planeSlice : UINT) (slots : List ResourceAddr) :
    Linked (sampleHeap planeSlice).links (· ∈ slots) sampleLists := by
  intro r _
  by_cases hr : r = 1
  · subst hr
    exact ⟨rfl, rfl, rfl⟩
  · rw [sampleLists, if_neg hr]
    show ((Function.update _ 1 _ : ResourceAddr → VirtioWddmResource) r).base.pViewList = none
    rw [Function.update_of_ne hr]
    rfl

/-- Three buffers are rotated; the view on the first then wraps the texture of the
    second. -/
theorem rotate_resource_identities_three :
    ∃ fuel res, virtioWddmRotateResourceIdentities true (fun n => .ok n) fuel [1, 2, 3]
        (sampleHeap 0) = some res ∧
      CyclicShift [1, 2, 3] (sampleHeap 0) res.heap ∧
      ViewsFollow [1, 2, 3] sampleLists (sampleHeap 0) res.heap := by
  obtain ⟨hshift, -, hviews⟩ := rotate_resource_identities (show 2 ≤ [1, 2, 3].length by decide)
    (by decide) true (fun n => .ok n) (sampleHeap 0)
  obtain ⟨⟨fuel, res, hrun⟩, -, hfollow⟩ := hviews sampleLists (sampleHeap_linked 0 _)
  refine ⟨fuel, res, hrun, hshift fuel res hrun, hfollow ?_ (fun n => ⟨n, rfl⟩) fuel res hrun⟩
  intro r _ v hv
  by_cases hr : r = 1
  · subst hr
    obtain rfl := List.mem_singleton.mp hv
    decide
  · simp [sampleLists, hr] at hv

/-- A view of the second plane comes back as a view of the first: the base
    interfaces, from which the old description is read, do not know the plane. -/
theorem rotate_loses_planeSlice :
    ∃ res old new, virtioWddmRotateResourceIdentities true (fun n => .ok n) 1 [1, 2]
        (sampleHeap 1) = some res ∧
      ((sampleHeap 1).resources 1).base.pViewList = some 7 ∧
      ((sampleHeap 1).views 7).pView = some old ∧ (res.heap.views 7).pView = some new ∧
      old.desc.range.planeSlice = 1 ∧ new.desc.range.planeSlice = 0 ∧ new.desc ≠ old.desc := by
  refine ⟨_, _, _, rfl, rfl, rfl, rfl, rfl, rfl, by decide⟩

end VirtioWddm
