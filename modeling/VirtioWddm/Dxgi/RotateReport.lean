/-
  VirtioWddm.Dxgi.RotateReport

  What the result code of `virtio_wddm_rotate_resource_identities` says about the views.

  `tritonResourceRecreateViews` returns the last failure of its loop; the rotation drops
  that code and returns `S_OK`.  The host answers one re-creation after the other, over
  the lists of all rotated resources, so its answers are numbered through the
  concatenated lists.
-/

import VirtioWddm.Dxgi.Rotate

namespace VirtioWddm

open Lib

-- ============================================================================
-- Honest reports
-- ============================================================================

/-- Every linked view that wrapped a host view before the call wraps one of its
    resource's host texture after it. -/
def ViewsRewrapped (slots : List ResourceAddr) (lists : ResourceAddr → List ViewAddr)
    (h h' : Heap) : Prop :=
  ∀ r ∈ slots, ∀ v ∈ lists r, (h.views v).pView ≠ none →
    ∃ new, (h'.views v).pView = some new ∧ new.resource = (h'.resources r).base.pResource

/-- A success code means that the views are all there. -/
def ReportsHonestly (slots : List ResourceAddr) (lists : ResourceAddr → List ViewAddr)
    (h : Heap) (res : RotateResult) : Prop :=
  failed res.hr = false → ViewsRewrapped slots lists h res.heap

/-- The host creates a new view for each one that there is to replace. -/
def HostRecreates (host : Nat → HostViewReply) (slots : List ResourceAddr)
    (lists : ResourceAddr → List ViewAddr) (h : Heap) : Prop :=
  ∀ n v, (slots.flatMap lists)[n]? = some v → (h.views v).pView ≠ none → ∃ id, host n = .ok id

-- ============================================================================
-- The result of the loop
-- ============================================================================

section Loop

variable {host : Nat → HostViewReply} {resource : VirtioWddmResource} {fuel : Nat}
  {L : Links ResourceAddr ViewAddr} {c : Cell ResourceAddr ViewAddr} {xs : List ViewAddr}

/-- A re-creation fails when there was a host view and the host creates none. -/
theorem recreateView_failed_iff {view : TritonView} {reply : HostViewReply} :
    failed (recreateView resource view reply).2 = true ↔
      view.pView ≠ none ∧ ∃ hr, reply = .error hr := by
  cases hview : view.pView with
  | none => simp [recreateView, hview]
  | some old =>
      cases reply with
      | ok id => simp [recreateView, hview]
      | error hr => simpa [recreateView, hview] using hr.property

theorem step_worst_failed_iff {st : RecreateState} {w : ViewAddr} :
    failed (st.step host resource w).worst = true ↔ failed st.worst = true ∨
      ((st.views w).pView ≠ none ∧ ∃ hr, host st.iterations = .error hr) := by
  rw [RecreateState.step]
  dsimp only
  split
  case isTrue h => exact iff_of_true h (.inr (recreateView_failed_iff.mp h))
  case isFalse h => exact (or_iff_left fun hf => h (recreateView_failed_iff.mpr hf)).symm

/-- The loop's own result tells whether a re-creation failed. -/
theorem recreateLoop_worst_iff (hchain : Chain L c xs) (hnodup : xs.Nodup)
    {st st' : RecreateState} (hnext : ∀ v, (st.views v).link.pNext = L.next v)
    (h : recreateLoop host resource fuel (L.read c) st = some st') :
    failed st'.worst = true ↔ failed st.worst = true ∨
      ∃ i v, xs[i]? = some v ∧ (st.views v).pView ≠ none ∧
        ∃ hr, host (st.iterations + i) = .error hr := by
  induction xs generalizing c fuel st with
  | nil =>
      have hread : L.read c = none := hchain
      rw [hread, recreateLoop] at h
      cases h
      simp
  | cons w ws ih =>
      obtain ⟨hw, hnodup⟩ := List.nodup_cons.mp hnodup
      obtain ⟨⟨m, -, hrest⟩, hnext'⟩ := recreateLoop_cons hchain hnext h
      have hstep : (st.step host resource w).iterations = st.iterations + 1 := rfl
      rw [ih hchain.2.2 hnodup hnext' hrest, step_worst_failed_iff, or_assoc]
      refine or_congr_right ⟨?_, ?_⟩
      · rintro (⟨hlive, hr, hfail⟩ | ⟨i, v, hv, hlive, hr, hfail⟩)
        · exact ⟨0, w, rfl, hlive, hr, hfail⟩
        · have hne : v ≠ w := fun heq => hw (heq ▸ List.mem_of_getElem? hv)
          rw [st.step_of_ne host resource hne] at hlive
          refine ⟨i + 1, v, hv, hlive, hr, ?_⟩
          rw [← hfail, hstep, show st.iterations + 1 + i = st.iterations + (i + 1) by omega]
      · rintro ⟨i, v, hv, hlive, hr, hfail⟩
        cases i with
        | zero =>
            obtain rfl : w = v := by simpa using hv
            exact .inl ⟨hlive, hr, hfail⟩
        | succ i =>
            rw [List.getElem?_cons_succ] at hv
            have hne : v ≠ w := fun heq => hw (heq ▸ List.mem_of_getElem? hv)
            refine .inr ⟨i, v, hv, ?_, hr, ?_⟩
            · rwa [st.step_of_ne host resource hne]
            · rw [← hfail, hstep,
                show st.iterations + 1 + i = st.iterations + (i + 1) by omega]

end Loop

-- ============================================================================
-- The rotation
-- ============================================================================

section Rotation

variable {d3d11 : Bool} {host : Nat → HostViewReply} {fuel : Nat} {slots : List ResourceAddr}
  {h : Heap} {res : RotateResult} {lists : ResourceAddr → List ViewAddr}

/-- Whatever the host answers, the call returns `S_OK`. -/
theorem rotate_hr
    (hrun : virtioWddmRotateResourceIdentities d3d11 host fuel slots h = some res) :
    res.hr = S_OK := by
  rw [virtioWddmRotateResourceIdentities] at hrun
  split at hrun
  · cases hrun
    rfl
  · obtain ⟨views, -, hres⟩ := Option.bind_eq_some_iff.mp hrun
    cases hres
    rfl

/-- The views are all there exactly when the host re-creates each of them. -/
theorem rotate_viewsRewrapped_iff (hlen : 2 ≤ slots.length) (hnodup : slots.Nodup)
    (hlinked : Linked h.links (· ∈ slots) lists)
    (hrun : virtioWddmRotateResourceIdentities d3d11 host fuel slots h = some res) :
    ViewsRewrapped slots lists h res.heap ↔ HostRecreates host slots lists h := by
  obtain ⟨hresources, hviews⟩ := rotate_eq_some hlen hrun
  have hanswer : ∀ i v, (slots.flatMap lists)[i]? = some v → ∃ r ∈ slots, v ∈ lists r ∧
      res.heap.views v = (recreateView (res.heap.resources r) (h.views v) (host i)).1 := by
    intro i v hv
    obtain ⟨r, hr, hmem, heq⟩ := (recreateAll_views hlinked hnodup
      (fun r => shift_pViewList slots h.resources r) (fun _ => rfl) hviews).2 i v hv
    rw [Nat.zero_add, ← hresources] at heq
    exact ⟨r, hr, hmem, heq⟩
  constructor
  · intro hwrapped n v hv hlive
    obtain ⟨r, hr, hmem, heq⟩ := hanswer n v hv
    obtain ⟨new, hnew, -⟩ := hwrapped r hr v hmem hlive
    obtain ⟨old, hold⟩ := Option.ne_none_iff_exists'.mp hlive
    cases hreply : host n with
    | ok id => exact ⟨id, rfl⟩
    | error hr =>
        -- the old view is released and nothing takes its place
        rw [heq, hreply, recreateView, hold] at hnew
        cases hnew
  · intro hhost r hr v hmem hlive
    obtain ⟨i, hi⟩ := List.mem_iff_getElem?.mp (List.mem_flatMap.mpr ⟨r, hr, hmem⟩)
    obtain ⟨r', hr', hmem', heq⟩ := hanswer i v hi
    obtain rfl : r' = r := (hlinked r' hr').owner_unique (hlinked r hr) hmem' hmem
    obtain ⟨id, hid⟩ := hhost i v hi hlive
    obtain ⟨old, hold⟩ := Option.ne_none_iff_exists'.mp hlive
    rw [hid, recreateView_ok hold] at heq
    exact ⟨_, by rw [heq], rfl⟩

end Rotation

/-- `virtio_wddm_rotate_resource_identities` on distinct resources returns, and its success
    code is honest exactly when every re-creation of a host view succeeds. -/
theorem rotate_reportsHonestly_iff (d3d11 : Bool) (host : Nat → HostViewReply)
    (slots : List ResourceAddr) (lists : ResourceAddr → List ViewAddr) (h : Heap)
    (hlen : 2 ≤ slots.length) (hnodup : slots.Nodup)
    (hlinked : Linked h.links (· ∈ slots) lists) :
    (∃ fuel res, virtioWddmRotateResourceIdentities d3d11 host fuel slots h = some res) ∧
      ∀ fuel res, virtioWddmRotateResourceIdentities d3d11 host fuel slots h = some res →
        (ReportsHonestly slots lists h res ↔ HostRecreates host slots lists h) := by
  refine ⟨rotate_returns d3d11 host hlinked, fun fuel res hrun => ?_⟩
  have hok : failed res.hr = false := by
    rw [rotate_hr hrun]
    exact failed_S_OK
  rw [← rotate_viewsRewrapped_iff hlen hnodup hlinked hrun]
  exact ⟨fun hhonest => hhonest hok, fun hwrapped _ => hwrapped⟩

/-- With a view on one of two resources, a host that creates it is reported honestly. -/
theorem rotate_reportsHonestly_two :
    ∃ fuel res, virtioWddmRotateResourceIdentities true (fun n => .ok n) fuel [1, 2]
        (sampleHeap 0) = some res ∧ ReportsHonestly [1, 2] sampleLists (sampleHeap 0) res := by
  obtain ⟨⟨fuel, res, hrun⟩, hiff⟩ := rotate_reportsHonestly_iff true (fun n => .ok n) [1, 2]
    sampleLists (sampleHeap 0) (by decide) (by decide) (sampleHeap_linked 0 _)
  exact ⟨fuel, res, hrun, (hiff fuel res hrun).mpr fun n _ _ _ => ⟨n, rfl⟩⟩

/-- A host that cannot create the view leaves it without one, and the call returns
    `S_OK`. -/
theorem rotate_viewLost :
    ¬ ∀ (d3d11 : Bool) (host : Nat → HostViewReply) (slots : List ResourceAddr)
      (lists : ResourceAddr → List ViewAddr) (h : Heap), 2 ≤ slots.length → slots.Nodup →
      Linked h.links (· ∈ slots) lists → ∀ fuel res,
        virtioWddmRotateResourceIdentities d3d11 host fuel slots h = some res →
          ReportsHonestly slots lists h res := by
  intro hall
  have hhonest := hall true (fun _ => .error ⟨E_OUTOFMEMORY, rfl⟩) [1, 2] sampleLists
    (sampleHeap 0) (by decide) (by decide) (sampleHeap_linked 0 _) 1 _ rfl
  obtain ⟨new, hnew, -⟩ := hhonest rfl 1 (by decide) 7 (by decide) (by decide)
  have hnone : none = some new := hnew
  cases hnone

end VirtioWddm
