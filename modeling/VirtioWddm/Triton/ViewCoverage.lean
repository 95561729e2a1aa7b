/-
  VirtioWddm.Triton.ViewCoverage

  What a view covers.

  The runtime names a part of a resource; the driver picks the dimension of the host
  view from the resource and drops the members this dimension does not have.  For a
  view that fits its resource the host view covers exactly the part that was named,
  and it still does after the host views have been made again behind a rotation.
  `PlaneSlice` is no part of this: a rotation loses it.
-/

import Mathlib.Order.Interval.Set.Defs
import VirtioWddm.Dxgi.StaleBinding

namespace VirtioWddm

open Lib

-- ============================================================================
-- Locations
-- ============================================================================

/-- A place in a resource: an element of a buffer, or a W slice of a subresource. -/
inductive ViewLocation where
  | element (i : Nat)
  | texel (mip slice w : Nat)

/-- What the driver reads of a resource when it describes a view of it, and its mip
    levels and depth. -/
structure ResourceShape where
  mipLevels : UINT
  arraySize : UINT
  depth : UINT
  samples : UINT
deriving DecidableEq

def VirtioWddmResource.shape (resource : VirtioWddmResource) : ResourceShape :=
  { mipLevels := resource.base.mipLevels
    arraySize := resource.base.arraySize
    depth := resource.base.depth
    samples := resource.base.sampleDesc.count }

def ViewRange.elements (v : ViewRange) : Set ViewLocation :=
  {p | ∃ i ∈ Set.Ico v.firstElement.toNat (v.firstElement.toNat + v.numElements.toNat),
    p = .element i}

/-- A shader resource view has a range of mip levels, every other view has one. -/
def ViewRange.mips (v : ViewRange) (kind : ViewKind) (s : ResourceShape) : Set Nat :=
  match kind with
  | .srv => {m | v.mip.toNat ≤ m ∧ m < v.mip.toNat + v.mipLevels.toNat ∧ m < s.mipLevels.toNat}
  | .rtv | .dsv | .uav => {v.mip.toNat}

/-- The slices `first`, `first + 1`, ..., each made of `width` array slices. -/
def ViewRange.slices (v : ViewRange) (width : Nat) : Set Nat :=
  Set.Ico v.first.toNat (v.first.toNat + width * v.count.toNat)

/-- The depth of a mip level. -/
def ResourceShape.depthAt (s : ResourceShape) (mip : Nat) : Nat :=
  max 1 (s.depth.toNat >>> mip)

/-- A shader resource view of a volume has all its W slices. -/
def ViewRange.wSlices (v : ViewRange) (kind : ViewKind) (depth : Nat) : Set Nat :=
  match kind with
  | .srv => Set.Ico 0 depth
  | .rtv | .dsv | .uav => Set.Ico 0 depth ∩ v.slices 1

def ViewRange.volume (v : ViewRange) (kind : ViewKind) (s : ResourceShape) : Set ViewLocation :=
  {p | ∃ m ∈ v.mips kind s, ∃ w ∈ v.wSlices kind (s.depthAt m), p = .texel m 0 w}

def texels (mips slices : Set Nat) : Set ViewLocation :=
  {p | ∃ m ∈ mips, ∃ l ∈ slices, p = .texel m l 0}

-- ============================================================================
-- What is named and what is covered
-- ============================================================================

/-- The part of a resource the arguments of a creation name.  The slices of a shader
    resource view of a cube are cubes, those of every other view are faces. -/
def ViewArgs.names (a : ViewArgs) (kind : ViewKind) (s : ResourceShape) : Set ViewLocation :=
  match a.resourceDimension with
  | .buffer | .bufferex => a.range.elements
  | .texture1d | .texture2d => texels (a.range.mips kind s) (a.range.slices 1)
  | .texture3d => a.range.volume kind s
  | .texturecube =>
      texels (a.range.mips kind s) (a.range.slices (if kind = .srv then 6 else 1))
  | .other _ => ∅

/-- The part of a resource a host view with this description covers.  A dimension that
    is not an array is the first slice, or the first six for a cube; a multisampled one
    is the only mip level. -/
def ViewDesc.covers (d : ViewDesc) (kind : ViewKind) (s : ResourceShape) : Set ViewLocation :=
  match d.viewDimension with
  | .buffer | .bufferex => d.range.elements
  | .texture1d | .texture2d => texels (d.range.mips kind s) {0}
  | .texture1darray | .texture2darray => texels (d.range.mips kind s) (d.range.slices 1)
  | .texture2dms => texels {0} {0}
  | .texture2dmsarray => texels {0} (d.range.slices 1)
  | .texture3d => d.range.volume kind s
  | .texturecube => texels (d.range.mips kind s) (Set.Ico 0 6)
  | .texturecubearray => texels (d.range.mips kind s) (d.range.slices 6)

/-- The resource dimensions a kind of view has. -/
def ViewKind.hasDimension (kind : ViewKind) : ResourceType → Bool
  | .buffer => kind ≠ .dsv
  | .bufferex => kind = .srv ∨ kind = .uav
  | .texture1d | .texture2d => true
  | .texture3d => kind ≠ .dsv
  | .texturecube => kind ≠ .uav
  | .other _ => false

/-- A view that fits its resource, as the runtime checks: its slices are slices of the
    resource, and a multisampled resource has one mip level and is no UAV. -/
structure FitsResource (kind : ViewKind) (s : ResourceShape) (a : ViewArgs) : Prop where
  dimension : kind.hasDimension a.resourceDimension = true
  slices : a.resourceDimension = .texture1d ∨ a.resourceDimension = .texture2d →
    0 < a.range.count.toNat ∧ a.range.first.toNat + a.range.count.toNat ≤ s.arraySize.toNat
  cubes : a.resourceDimension = .texturecube → kind = .srv →
    0 < a.range.count.toNat ∧ a.range.first.toNat + 6 * a.range.count.toNat ≤ s.arraySize.toNat
  multisampled : a.resourceDimension = .texture2d → 1 < s.samples.toNat →
    a.range.mips kind s = {0} ∧ kind ≠ .uav

-- ============================================================================
-- The descriptions
-- ============================================================================

def ViewEntry.kind : ViewEntry → ViewKind
  | .rtv | .rtvWddm20 _ => .rtv
  | .srv | .srvWddm20 _ => .srv
  | .dsv => .dsv
  | .uav | .uavWddm20 _ => .uav

/-- The description an entry point builds. -/
def ViewEntry.desc (r : TritonResource) (a : ViewArgs) : ViewEntry → Option ViewDesc
  | .rtv => rtvDesc r a false
  | .srv => srvDesc r a false
  | .dsv => dsvDesc r a
  | .uav => uavDesc r a false
  | .rtvWddm20 dev3 => rtvDesc r a dev3
  | .srvWddm20 dev3 => srvDesc r a dev3
  | .uavWddm20 dev3 => uavDesc r a dev3

theorem ViewEntry.create_desc (e : ViewEntry) (h : Heap) (a : ViewArgs) (r : ResourceAddr)
    (v : ViewAddr) (reply : HostViewReply) :
    e.create h a r v reply =
      createView e.kind (e.desc (h.resources r).base a) h r v reply := by
  cases e with
  | rtv => rfl
  | srv => rfl
  | dsv => rfl
  | uav => rfl
  | rtvWddm20 dev3 => cases dev3 <;> rfl
  | srvWddm20 dev3 => cases dev3 <;> rfl
  | uavWddm20 dev3 => cases dev3 <;> rfl

/-- A description that covers what the arguments name, in their format. -/
def Describes (kind : ViewKind) (resource : VirtioWddmResource) (a : ViewArgs)
    (desc : Option ViewDesc) : Prop :=
  ∃ d, desc = some d ∧ d.format = a.format ∧
    d.covers kind resource.shape = a.names kind resource.shape

section Descriptions

variable {kind : ViewKind} {resource : VirtioWddmResource} {a : ViewArgs}

theorem not_isArray (h : ¬resource.base.isArray = true) : resource.shape.arraySize.toNat ≤ 1 := by
  have hle : ¬(1#32 < resource.base.arraySize) := fun hlt => h (decide_eq_true hlt)
  exact Nat.le_of_not_lt fun hlt => hle (BitVec.lt_def.mpr hlt)

theorem samples_of_isMultisampled (h : resource.base.isMultisampled = true) :
    1 < resource.shape.samples.toNat :=
  BitVec.lt_def.mp (of_decide_eq_true h)

/-- The only slice of a resource with one. -/
theorem slices_single {v : ViewRange} {n : Nat} (hcount : 0 < v.count.toNat)
    (hfits : v.first.toNat + v.count.toNat ≤ n) (hn : n ≤ 1) : v.slices 1 = {0} := by
  ext l
  rw [ViewRange.slices, Set.mem_Ico, Set.mem_singleton_iff]
  omega

/-- The only cube of a resource with six faces. -/
theorem slices_cube {v : ViewRange} {n : Nat} (hcount : 0 < v.count.toNat)
    (hfits : v.first.toNat + 6 * v.count.toNat ≤ n) (hn : n ≤ 6) : v.slices 6 = Set.Ico 0 6 := by
  ext l
  rw [ViewRange.slices, Set.mem_Ico, Set.mem_Ico]
  omega

/-- The array dimension names the slices, and the plain one is taken when there is only
    one. -/
theorem describes_array {array plain : ViewDesc}
    (hfits : 0 < a.range.count.toNat ∧
      a.range.first.toNat + a.range.count.toNat ≤ resource.shape.arraySize.toNat)
    (hformat : array.format = a.format) (hformat' : plain.format = a.format)
    (hnames : a.names kind resource.shape =
      texels (a.range.mips kind resource.shape) (a.range.slices 1))
    (harray : array.covers kind resource.shape =
      texels (a.range.mips kind resource.shape) (a.range.slices 1))
    (hplain : plain.covers kind resource.shape = texels (a.range.mips kind resource.shape) {0}) :
    Describes kind resource a (if resource.base.isArray then some array else some plain) := by
  by_cases h : resource.base.isArray = true
  · rw [if_pos h]
    exact ⟨array, rfl, hformat, harray.trans hnames.symm⟩
  · rw [if_neg h]
    refine ⟨plain, rfl, hformat', ?_⟩
    rw [hplain, hnames, slices_single hfits.1 hfits.2 (not_isArray h)]

/-- A 2D texture, where multisampled ones have dimensions of their own. -/
theorem describes_texture2d {array plain msarray ms : ViewDesc}
    (hfits : FitsResource kind resource.shape a) (hdim : a.resourceDimension = .texture2d)
    (hformat : array.format = a.format) (hformat' : plain.format = a.format)
    (hformatMs : msarray.format = a.format) (hformatMs' : ms.format = a.format)
    (harray : array.covers kind resource.shape =
      texels (a.range.mips kind resource.shape) (a.range.slices 1))
    (hplain : plain.covers kind resource.shape = texels (a.range.mips kind resource.shape) {0})
    (hmsarray : msarray.covers kind resource.shape = texels {0} (a.range.slices 1))
    (hms : ms.covers kind resource.shape = texels {0} {0}) :
    Describes kind resource a
      (if resource.base.isMultisampled then
        if resource.base.isArray then some msarray else some ms
      else if resource.base.isArray then some array else some plain) := by
  have hnames : a.names kind resource.shape =
      texels (a.range.mips kind resource.shape) (a.range.slices 1) := by
    rw [ViewArgs.names, hdim]
  by_cases h : resource.base.isMultisampled = true
  · obtain ⟨hmips, -⟩ := hfits.multisampled hdim (samples_of_isMultisampled h)
    rw [if_pos h]
    refine describes_array (hfits.slices (.inr hdim)) hformatMs hformatMs' hnames ?_ ?_
    · rw [hmips]
      exact hmsarray
    · rw [hmips]
      exact hms
  · rw [if_neg h]
    exact describes_array (hfits.slices (.inr hdim)) hformat hformat' hnames harray hplain

theorem describes_rtvDesc (planar : Bool) (h : FitsResource .rtv resource.shape a) :
    Describes .rtv resource a (rtvDesc resource.base a planar) := by
  obtain ⟨format, dimension, flags, v⟩ := a
  cases dimension with
  | buffer => exact ⟨_, rfl, rfl, rfl⟩
  | texture1d => exact describes_array (h.slices (.inl rfl)) rfl rfl rfl rfl rfl
  | texture2d => exact describes_texture2d h rfl rfl rfl rfl rfl rfl rfl rfl rfl
  | texture3d => exact ⟨_, rfl, rfl, rfl⟩
  | texturecube => exact ⟨_, rfl, rfl, rfl⟩
  | bufferex => cases h.dimension
  | other code => cases h.dimension

theorem describes_srvDesc (planar : Bool) (h : FitsResource .srv resource.shape a) :
    Describes .srv resource a (srvDesc resource.base a planar) := by
  obtain ⟨format, dimension, flags, v⟩ := a
  cases dimension with
  | buffer => exact ⟨_, rfl, rfl, rfl⟩
  | bufferex => exact ⟨_, rfl, rfl, rfl⟩
  | texture1d => exact describes_array (h.slices (.inl rfl)) rfl rfl rfl rfl rfl
  | texture2d => exact describes_texture2d h rfl rfl rfl rfl rfl rfl rfl rfl rfl
  | texture3d => exact ⟨_, rfl, rfl, rfl⟩
  | texturecube =>
      obtain ⟨hcount, hslices⟩ := h.cubes rfl rfl
      by_cases hcubes : 6#32 < resource.base.arraySize
      · exact ⟨_, if_pos hcubes, rfl, rfl⟩
      · have hsix : resource.shape.arraySize.toNat ≤ 6 :=
          Nat.le_of_not_lt fun hlt => hcubes (BitVec.lt_def.mpr hlt)
        exact ⟨_, if_neg hcubes, rfl, congrArg (texels _) (slices_cube hcount hslices hsix).symm⟩
  | other code => cases h.dimension

theorem describes_dsvDesc (h : FitsResource .dsv resource.shape a) :
    Describes .dsv resource a (dsvDesc resource.base a) := by
  obtain ⟨format, dimension, flags, v⟩ := a
  cases dimension with
  | texture1d => exact describes_array (h.slices (.inl rfl)) rfl rfl rfl rfl rfl
  | texture2d => exact describes_texture2d h rfl rfl rfl rfl rfl rfl rfl rfl rfl
  | texturecube => exact ⟨_, rfl, rfl, rfl⟩
  | buffer => cases h.dimension
  | texture3d => cases h.dimension
  | bufferex => cases h.dimension
  | other code => cases h.dimension

theorem describes_uavDesc (planar : Bool) (h : FitsResource .uav resource.shape a) :
    Describes .uav resource a (uavDesc resource.base a planar) := by
  obtain ⟨format, dimension, flags, v⟩ := a
  cases dimension with
  | buffer => exact ⟨_, rfl, rfl, rfl⟩
  | bufferex => exact ⟨_, rfl, rfl, rfl⟩
  | texture1d => exact describes_array (h.slices (.inl rfl)) rfl rfl rfl rfl rfl
  | texture2d => exact describes_array (h.slices (.inr rfl)) rfl rfl rfl rfl rfl
  | texture3d => exact ⟨_, rfl, rfl, rfl⟩
  | texturecube => cases h.dimension
  | other code => cases h.dimension

/-- No entry point refuses a view that fits, and its description covers what is
    named. -/
theorem ViewEntry.describes (e : ViewEntry) (h : FitsResource e.kind resource.shape a) :
    Describes e.kind resource a (e.desc resource.base a) := by
  cases e with
  | rtv => exact describes_rtvDesc false h
  | srv => exact describes_srvDesc false h
  | dsv => exact describes_dsvDesc h
  | uav => exact describes_uavDesc false h
  | rtvWddm20 dev3 => exact describes_rtvDesc dev3 h
  | srvWddm20 dev3 => exact describes_srvDesc dev3 h
  | uavWddm20 dev3 => exact describes_uavDesc dev3 h

end Descriptions

-- ============================================================================
-- What list edits leave alone
-- ============================================================================

namespace Heap

theorem views_setView_self (h : Heap) (v : ViewAddr) (view : TritonView) :
    (h.setView v view).views v = view :=
  Function.update_self ..

theorem views_setView_of_ne (h : Heap) {v u : ViewAddr} (view : TritonView) (hu : u ≠ v) :
    (h.setView v view).views u = h.views u :=
  Function.update_of_ne hu ..

theorem linkKind_setLink (h : Heap) (v : ViewAddr) (link : ViewLink)
    (hkind : link.kind = (h.views v).link.kind) (u : ViewAddr) :
    ((h.setLink v link).views u).link.kind = (h.views u).link.kind := by
  rw [setLink]
  by_cases huv : u = v
  · rw [huv, views_setView_self]
    exact hkind
  · rw [views_setView_of_ne h _ huv]

theorem linkKind_writeCell (h : Heap) (cell : Cell ResourceAddr ViewAddr) (p : Option ViewAddr)
    (u : ViewAddr) : ((h.writeCell cell p).views u).link.kind = (h.views u).link.kind := by
  cases cell with
  | head r => rfl
  | next v => exact h.linkKind_setLink v { (h.views v).link with pNext := p } rfl u

theorem linkKind_setPpPrevOf (h : Heap) (l : Option ViewAddr)
    (p : Option (Cell ResourceAddr ViewAddr)) (u : ViewAddr) :
    ((h.setPpPrevOf l p).views u).link.kind = (h.views u).link.kind := by
  cases l with
  | none => rfl
  | some w => exact h.linkKind_setLink w { (h.views w).link with ppPrev := p } rfl u

theorem identity_writeCell (h : Heap) (cell : Cell ResourceAddr ViewAddr) (p : Option ViewAddr)
    (r : ResourceAddr) :
    ((h.writeCell cell p).resources r).identity = (h.resources r).identity := by
  cases cell with
  | head r' =>
      show (Function.update h.resources r' _ r).identity = _
      by_cases hr : r = r'
      · rw [hr, Function.update_self]
        rfl
      · rw [Function.update_of_ne hr]
  | next v => rfl

theorem identity_setPpPrevOf (h : Heap) (l : Option ViewAddr)
    (p : Option (Cell ResourceAddr ViewAddr)) (r : ResourceAddr) :
    ((h.setPpPrevOf l p).resources r).identity = (h.resources r).identity := by
  cases l with
  | none => rfl
  | some w => rfl

end Heap

/-- Linking a view gives it its kind. -/
theorem linkKind_tritonResourceLinkView (h : Heap) (r : ResourceAddr) (l : ViewAddr)
    (kind : ViewKind) (u : ViewAddr) :
    ((tritonResourceLinkView h r l kind).views u).link.kind =
      if u = l then kind else (h.views u).link.kind := by
  rw [tritonResourceLinkView, Heap.linkKind_writeCell, Heap.linkKind_setPpPrevOf, Heap.setLink]
  by_cases hu : u = l
  · rw [if_pos hu, hu, Heap.views_setView_self]
  · rw [if_neg hu, Heap.views_setView_of_ne _ _ hu]

theorem identity_tritonResourceLinkView (h : Heap) (r : ResourceAddr) (l : ViewAddr)
    (kind : ViewKind) (r' : ResourceAddr) :
    ((tritonResourceLinkView h r l kind).resources r').identity = (h.resources r').identity := by
  rw [tritonResourceLinkView, Heap.identity_writeCell, Heap.identity_setPpPrevOf]
  rfl

theorem linkKind_tritonViewUnlink (h : Heap) (l u : ViewAddr) :
    ((tritonViewUnlink h l).views u).link.kind = (h.views u).link.kind := by
  unfold tritonViewUnlink
  split
  case h_1 => rfl
  case h_2 =>
    refine (Heap.linkKind_setLink _ l ⟨none, none, _⟩ rfl u).trans ?_
    rw [Heap.linkKind_setPpPrevOf, Heap.linkKind_writeCell]

theorem identity_tritonViewUnlink (h : Heap) (l : ViewAddr) (r : ResourceAddr) :
    ((tritonViewUnlink h l).resources r).identity = (h.resources r).identity := by
  unfold tritonViewUnlink
  split
  case h_1 => rfl
  case h_2 =>
    show ((Heap.setPpPrevOf _ _ _).resources r).identity = _
    rw [Heap.identity_setPpPrevOf, Heap.identity_writeCell]

theorem identity_createView (kind : ViewKind) (desc : Option ViewDesc) (h : Heap)
    (r : ResourceAddr) (v : ViewAddr) (reply : HostViewReply) (r' : ResourceAddr) :
    ((createView kind desc h r v reply).1.resources r').identity = (h.resources r').identity := by
  cases hres : (h.resources r).base.pResource with
  | none => simp only [createView, hres]
  | some resource =>
      cases desc with
      | none =>
          simp only [createView, hres]
          rfl
      | some d =>
          cases reply with
          | error hr =>
              simp only [createView, hres]
              rfl
          | ok id =>
              simp only [createView, hres, identity_tritonResourceLinkView]
              rfl

theorem linkKind_createView (kind : ViewKind) (desc : Option ViewDesc) (h : Heap)
    (r : ResourceAddr) (v : ViewAddr) (reply : HostViewReply) {u : ViewAddr} (hu : u ≠ v) :
    ((createView kind desc h r v reply).1.views u).link.kind = (h.views u).link.kind := by
  cases hres : (h.resources r).base.pResource with
  | none => simp only [createView, hres]
  | some resource =>
      cases desc with
      | none => simp only [createView, hres, Heap.views_setView_of_ne _ _ hu]
      | some d =>
          cases reply with
          | error hr => simp only [createView, hres, Heap.views_setView_of_ne _ _ hu]
          | ok id =>
              simp only [createView, hres, linkKind_tritonResourceLinkView, if_neg hu]
              rw [Heap.setPView, Heap.views_setView_of_ne _ _ hu, Heap.views_setView_of_ne _ _ hu]

/-- A creation without an error: the wrapper has a host view of its resource, with the
    description that was built. -/
theorem createView_created {kind : ViewKind} {desc : Option ViewDesc} {h : Heap}
    {r : ResourceAddr} {v : ViewAddr} {reply : HostViewReply}
    (hok : (createView kind desc h r v reply).2 = none) :
    ∃ d id, desc = some d ∧ ((createView kind desc h r v reply).1.views v).link.kind = kind ∧
      ((createView kind desc h r v reply).1.views v).pView =
        some { id := id, kind := kind, resource := (h.resources r).base.pResource, desc := d } := by
  cases hres : (h.resources r).base.pResource with
  | none => simp [createView, hres] at hok
  | some resource =>
      cases desc with
      | none => simp [createView, hres] at hok
      | some d =>
          cases reply with
          | error hr => simp [createView, hres] at hok
          | ok id =>
              refine ⟨d, id, rfl, ?_, ?_⟩
              · simp only [createView, hres, linkKind_tritonResourceLinkView, if_pos]
              · simp only [createView, hres, pView_tritonResourceLinkView]
                rw [Heap.setPView, Heap.views_setView_self]
                rfl

theorem linkKind_destroyView (h : Heap) {v u : ViewAddr} (hu : u ≠ v) :
    ((destroyView h v).views u).link.kind = (h.views u).link.kind := by
  rw [destroyView, Heap.views_setView_of_ne _ _ hu, linkKind_tritonViewUnlink]

theorem identity_destroyView (h : Heap) (v : ViewAddr) (r : ResourceAddr) :
    ((destroyView h v).resources r).identity = (h.resources r).identity :=
  identity_tritonViewUnlink h v r

-- ============================================================================
-- Runs
-- ============================================================================

/-- The calls of a runtime that creates views that fit and rotates distinct resources
    of one shape; `asked` is what it asked for when it created the view at an
    address. -/
structure CoverWorld where
  world : ViewWorld
  asked : ViewAddr → ViewEntry × ViewArgs

inductive CoverStep (w : CoverWorld) : CoverWorld → Prop where
  | createResource (env : DeviceEnv) (pArgs : CreateResourceArgs) (hRTResource : HANDLE)
      (slot : ResourceAddr) (hfree : w.world.NoViews slot) (s s' : CallState)
      (r : VirtioWddmResource)
      (hrun : Runs (virtioWddmCreateResource env pArgs hRTResource) s r s') :
      CoverStep w { w with world := w.world.withResource slot r }
  | openResource (env : DeviceEnv) (pArgs : OpenResourceArgs) (hRTResource : HANDLE)
      (slot : ResourceAddr) (hfree : w.world.NoViews slot) (s s' : CallState)
      (r : VirtioWddmResource)
      (hrun : Runs (virtioWddmOpenResource env pArgs hRTResource) s r s') :
      CoverStep w { w with world := w.world.withResource slot r }
  | destroyResource (env : DeviceEnv) (slot : ResourceAddr) (halive : w.world.alive slot)
      (hfree : w.world.NoViews slot) (s s' : CallState) (r : VirtioWddmResource)
      (hrun : Runs (virtioWddmDestroyResource env (w.world.heap.resources slot)) s r s') :
      CoverStep w
        { w with
          world :=
            { w.world with
              heap := w.world.heap.setResource slot r
              alive := fun r' => r' ≠ slot ∧ w.world.alive r' } }
  | createView (e : ViewEntry) (a : ViewArgs) (slot : ResourceAddr) (v : ViewAddr)
      (memory : TritonView) (reply : HostViewReply) (halive : w.world.alive slot)
      (hnew : w.world.live v = none)
      (hfits : FitsResource e.kind (w.world.heap.resources slot).shape a) :
      CoverStep w
        { world :=
            w.world.withView slot v (e.create (w.world.heap.setView v memory) a slot v reply)
          asked := Function.update w.asked v (e, a) }
  | destroyView (kind : ViewKind) (v : ViewAddr) (hlive : w.world.live v ≠ none) :
      CoverStep w
        { w with
          world :=
            { w.world with
              heap := kind.destroy w.world.heap v
              live := Function.update w.world.live v none } }
  | rotate (d3d11 : Bool) (host : Nat → HostViewReply) (fuel : Nat) (slots : List ResourceAddr)
      (halive : ∀ r ∈ slots, w.world.alive r) (hdistinct : slots.Nodup) (shape : ResourceShape)
      (hshape : ∀ r ∈ slots, (w.world.heap.resources r).shape = shape) (res : RotateResult)
      (hrun : virtioWddmRotateResourceIdentities d3d11 host fuel slots w.world.heap = some res) :
      CoverStep w { w with world := { w.world with heap := res.heap } }

theorem CoverStep.viewStep {w w' : CoverWorld} (h : CoverStep w w') :
    ViewStep w.world w'.world := by
  cases h with
  | createResource env pArgs hRTResource slot hfree s s' r hrun =>
      exact .createResource env pArgs hRTResource slot hfree s s' r hrun
  | openResource env pArgs hRTResource slot hfree s s' r hrun =>
      exact .openResource env pArgs hRTResource slot hfree s s' r hrun
  | destroyResource env slot halive hfree s s' r hrun =>
      exact .destroyResource env slot halive hfree s s' r hrun
  | createView e a slot v memory reply halive hnew hfits =>
      exact .createView e a slot v memory reply halive hnew
  | destroyView kind v hlive => exact .destroyView kind v hlive
  | rotate d3d11 host fuel slots halive hdistinct shape hshape res hrun =>
      exact .rotate d3d11 host fuel slots halive res hrun

/-- The host view in a wrapper, if there is one, is a view of the resource's host
    resource with the kind and format that were asked for, and covers what was named. -/
structure CoversAsked (h : Heap) (v : ViewAddr) (r : ResourceAddr) (e : ViewEntry)
    (a : ViewArgs) : Prop where
  fits : FitsResource e.kind (h.resources r).shape a
  kind : (h.views v).link.kind = e.kind
  host : ∀ hv, (h.views v).pView = some hv →
    hv.kind = e.kind ∧ hv.resource = (h.resources r).base.pResource ∧ hv.desc.format = a.format ∧
      hv.desc.covers e.kind (h.resources r).shape = a.names e.kind (h.resources r).shape

section Runs

variable {h h' : Heap} {v : ViewAddr} {r : ResourceAddr} {e : ViewEntry} {a : ViewArgs}

theorem shape_of_identity {resource resource' : VirtioWddmResource}
    (h : resource'.identity = resource.identity) : resource'.shape = resource.shape := by
  have hshape := congrArg VirtioWddmResource.shape h
  exact hshape

theorem pResource_of_identity {resource resource' : VirtioWddmResource}
    (h : resource'.identity = resource.identity) :
    resource'.base.pResource = resource.base.pResource := by
  have hhost := congrArg (fun resource => resource.base.pResource) h
  exact hhost

/-- Another wrapper was touched. -/
theorem CoversAsked.frame (hc : CoversAsked h v r e a)
    (hresource : (h'.resources r).identity = (h.resources r).identity)
    (hview : (h'.views v).pView = (h.views v).pView)
    (hkind : (h'.views v).link.kind = (h.views v).link.kind) : CoversAsked h' v r e a := by
  have hshape : (h'.resources r).shape = (h.resources r).shape := shape_of_identity hresource
  have hhost : (h'.resources r).base.pResource = (h.resources r).base.pResource :=
    pResource_of_identity hresource
  refine ⟨?_, hkind.trans hc.kind, fun hv hpView => ?_⟩
  · rw [hshape]
    exact hc.fits
  · rw [hshape, hhost]
    exact hc.host hv (hview.symm.trans hpView)

theorem CoversAsked.setResource (hc : CoversAsked h v r e a) {slot : ResourceAddr}
    (hne : r ≠ slot) (resource : VirtioWddmResource) :
    CoversAsked (h.setResource slot resource) v r e a := by
  have hsame : (h.setResource slot resource).resources r = h.resources r :=
    Function.update_of_ne hne ..
  exact hc.frame (congrArg _ hsame) rfl rfl

/-- A call creates another view. -/
theorem CoversAsked.createOther (hc : CoversAsked h v r e a) (e' : ViewEntry) (a' : ViewArgs)
    (slot : ResourceAddr) {v' : ViewAddr} (hne : v ≠ v') (memory : TritonView)
    (reply : HostViewReply) :
    CoversAsked (e'.create (h.setView v' memory) a' slot v' reply).1 v r e a := by
  rw [e'.create_desc]
  refine hc.frame (identity_createView ..) ?_ ?_
  · rw [(pView_createView ..).1 v hne, Heap.views_setView_of_ne h memory hne]
  · rw [linkKind_createView _ _ _ _ _ _ hne, Heap.views_setView_of_ne h memory hne]

theorem CoversAsked.destroyOther (hc : CoversAsked h v r e a) (kind : ViewKind) {v' : ViewAddr}
    (hne : v ≠ v') : CoversAsked (kind.destroy h v') v r e a := by
  rw [kind.destroy_eq]
  exact hc.frame (identity_destroyView h v' r) (pView_destroyView h hne)
    (linkKind_destroyView h hne)

/-- A view that fits is created. -/
theorem CoversAsked.create {slot : ResourceAddr} {reply : HostViewReply}
    (hfits : FitsResource e.kind (h.resources slot).shape a)
    (hok : (e.create h a slot v reply).2 = none) :
    CoversAsked (e.create h a slot v reply).1 v slot e a := by
  rw [e.create_desc] at hok ⊢
  have hresource :=
    identity_createView e.kind (e.desc (h.resources slot).base a) h slot v reply slot
  have hshape := shape_of_identity hresource
  have hhost := pResource_of_identity hresource
  obtain ⟨d, id, hdesc, hkind, hpView⟩ := createView_created hok
  obtain ⟨d', hdesc', hformat, hcovers⟩ := e.describes hfits
  obtain rfl : d = d' := Option.some.inj (hdesc.symm.trans hdesc')
  refine ⟨hshape.symm ▸ hfits, hkind, fun hv hview => ?_⟩
  obtain rfl := Option.some.inj (hpView.symm.trans hview)
  exact ⟨rfl, hhost.symm, hformat, hshape.symm ▸ hcovers⟩

/-- The host view is made again for a resource of the same shape. -/
theorem CoversAsked.recreate (hc : CoversAsked h v r e a)
    (hshape : (h'.resources r).shape = (h.resources r).shape) {reply : HostViewReply}
    (hview : h'.views v = (recreateView (h'.resources r) (h.views v) reply).1) :
    CoversAsked h' v r e a := by
  refine ⟨hshape ▸ hc.fits, ?_, fun hv hpView => ?_⟩
  · rw [hview, recreateView_link]
    exact hc.kind
  · rw [hview] at hpView
    obtain ⟨hold, hreply⟩ := recreateView_pView hpView
    obtain ⟨old, hold⟩ := Option.ne_none_iff_exists'.mp hold
    obtain ⟨-, -, hformat, hcovers⟩ := hc.host old hold
    rw [hreply, recreateView_ok hold] at hpView
    rw [← Option.some.inj hpView]
    exact ⟨hc.kind, rfl, hformat, hshape ▸ hcovers⟩

/-- A rotation of distinct resources leaves a view alone with its resource, or makes its
    host view again. -/
theorem rotate_view {w : ViewWorld} {lists : ResourceAddr → List ViewAddr}
    (hlisted : ViewListed w lists) {slots : List ResourceAddr} (halive : ∀ r ∈ slots, w.alive r)
    (hdistinct : slots.Nodup) {d3d11 : Bool} {host : Nat → HostViewReply} {fuel : Nat}
    {res : RotateResult}
    (hrun : virtioWddmRotateResourceIdentities d3d11 host fuel slots w.heap = some res)
    (hlive : w.live v = some r) :
    (res.heap.views v = w.heap.views v ∧ res.heap.resources r = w.heap.resources r) ∨
      (r ∈ slots ∧ ∃ n, res.heap.views v =
        (recreateView (res.heap.resources r) (w.heap.views v) (host n)).1) := by
  by_cases hlen : slots.length ≤ 1
  · rw [virtioWddmRotateResourceIdentities, if_pos hlen] at hrun
    cases hrun
    exact .inl ⟨rfl, rfl⟩
  · obtain ⟨hresources, hviews⟩ := rotate_eq_some (by omega) hrun
    have hlinked : Linked w.heap.links (· ∈ slots) lists :=
      fun r' hr' => hlisted.linked r' (halive r' hr')
    have hheads := shift_pViewList slots w.heap.resources
    rw [hresources]
    by_cases hr : r ∈ slots
    · have hmem := (hlisted.mem_iff r (halive r hr) v).mpr hlive
      exact .inr ⟨hr, recreateAll_recreated hlinked hdistinct hheads (fun _ => rfl) hviews r hr v
        hmem⟩
    · refine .inl ⟨?_, shift_of_not_mem hr⟩
      refine (recreateAll_views hlinked hdistinct hheads (fun _ => rfl) hviews).1 v ?_
      intro r' hr' hmem
      have hlive' := (hlisted.mem_iff r' (halive r' hr') v).mp hmem
      rw [hlive] at hlive'
      obtain rfl := Option.some.inj hlive'
      exact hr hr'

/-- The rotated resources have the shape they had before. -/
theorem rotate_shape {slots : List ResourceAddr} (hdistinct : slots.Nodup) {shape : ResourceShape}
    (hshape : ∀ r ∈ slots, (h.resources r).shape = shape) {d3d11 : Bool}
    {host : Nat → HostViewReply} {fuel : Nat} {res : RotateResult}
    (hrun : virtioWddmRotateResourceIdentities d3d11 host fuel slots h = some res)
    (hr : r ∈ slots) : (res.heap.resources r).shape = (h.resources r).shape := by
  have hnext : slots.formPerm r ∈ slots := List.formPerm_apply_mem_of_mem hr
  rw [rotate_formPerm hdistinct hrun r, hshape r hr]
  exact hshape _ hnext

end Runs

/-- What every call keeps. -/
structure CoverInv (w : CoverWorld) : Prop where
  listed : ∃ lists, ViewListed w.world lists
  covers : ∀ v r, w.world.live v = some r →
    CoversAsked w.world.heap v r (w.asked v).1 (w.asked v).2

theorem CoverInv.step {w w' : CoverWorld} (h : CoverInv w) (hstep : CoverStep w w') :
    CoverInv w' := by
  obtain ⟨lists, hlisted⟩ := h.listed
  refine ⟨hlisted.step hstep.viewStep, fun v r hlive => ?_⟩
  cases hstep with
  | createResource env pArgs hRTResource slot hfree s s' r' hrun =>
      have hne : r ≠ slot := fun heq => hfree v (heq ▸ hlive)
      exact (h.covers v r hlive).setResource hne r'
  | openResource env pArgs hRTResource slot hfree s s' r' hrun =>
      have hne : r ≠ slot := fun heq => hfree v (heq ▸ hlive)
      exact (h.covers v r hlive).setResource hne r'
  | destroyResource env slot halive hfree s s' r' hrun =>
      have hne : r ≠ slot := fun heq => hfree v (heq ▸ hlive)
      exact (h.covers v r hlive).setResource hne r'
  | createView e a slot v' memory reply halive hnew hfits =>
      show CoversAsked _ v r (Function.update w.asked v' (e, a) v).1
        (Function.update w.asked v' (e, a) v).2
      by_cases hv : v = v'
      · subst hv
        rw [Function.update_self]
        by_cases hok : (e.create (w.world.heap.setView v memory) a slot v reply).2 = none
        · rw [w.world.live_withView slot v hok, Function.update_self] at hlive
          obtain rfl := Option.some.inj hlive
          exact CoversAsked.create hfits hok
        · have hsame : (w.world.withView slot v _).live = w.world.live := if_neg hok
          rw [hsame, hnew] at hlive
          cases hlive
      · rw [Function.update_of_ne hv]
        refine (h.covers v r ?_).createOther e a slot hv memory reply
        by_cases hok : (e.create (w.world.heap.setView v' memory) a slot v' reply).2 = none
        · rw [w.world.live_withView slot v' hok, Function.update_of_ne hv] at hlive
          exact hlive
        · have hsame : (w.world.withView slot v' _).live = w.world.live := if_neg hok
          rw [hsame] at hlive
          exact hlive
  | destroyView kind v' hlive' =>
      have hlive : Function.update w.world.live v' none v = some r := hlive
      have hv : v ≠ v' := by
        rintro rfl
        rw [Function.update_self] at hlive
        cases hlive
      rw [Function.update_of_ne hv] at hlive
      exact (h.covers v r hlive).destroyOther kind hv
  | rotate d3d11 host fuel slots halive hdistinct shape hshape res hrun =>
      rcases rotate_view hlisted halive hdistinct hrun hlive with
        ⟨hview, hresource⟩ | ⟨hr, n, hview⟩
      · exact (h.covers v r hlive).frame (congrArg _ hresource) (congrArg _ hview)
          (congrArg (fun view => view.link.kind) hview)
      · exact (h.covers v r hlive).recreate (rotate_shape hdistinct hshape hrun hr) hview

/-- In every reachable world each live view covers what the runtime named when it created
    it, as long as it has a host view, and no view that fits is refused for its
    description. -/
theorem views_coverAsked {w : CoverWorld} (h : Reach (·.world.Initial) CoverStep w) :
    (∀ v r, w.world.live v = some r →
      CoversAsked w.world.heap v r (w.asked v).1 (w.asked v).2) ∧
    ∀ (e : ViewEntry) (r : ResourceAddr) (a : ViewArgs),
      FitsResource e.kind (w.world.heap.resources r).shape a →
        Describes e.kind (w.world.heap.resources r) a
          (e.desc (w.world.heap.resources r).base a) := by
  have hinv : CoverInv w := by
    refine Reach.invariant CoverInv ?_ ?_ h
    · intro w hw
      refine ⟨⟨fun _ => [], fun r hr => absurd hr (hw.1 r), fun r hr => absurd hr (hw.1 r), ?_⟩, ?_⟩
      · intro v r hv
        rw [hw.2 v] at hv
        cases hv
      · intro v r hv
        rw [hw.2 v] at hv
        cases hv
    · intro w w' hw hstep
      exact hw.step hstep
  exact ⟨hinv.covers, fun e r a hfits => e.describes hfits⟩

/-- A texture with two slices. -/
def slicedArgs : CreateResourceArgs :=
  { plainArgs with arraySize := 2 }

/-- The second slice of a texture. -/
def secondSlice : ViewArgs :=
  { format := .R8G8B8A8_UNORM
    resourceDimension := .texture2d
    range := { first := 1, count := 1 } }

def slicedShape : ResourceShape :=
  { mipLevels := 1
    arraySize := 2
    depth := 1
    samples := 1 }

theorem secondSlice_fits : FitsResource .rtv slicedShape secondSlice where
  dimension := rfl
  slices _ := ⟨by decide, by decide⟩
  cubes hcube := by cases hcube
  multisampled _ hms := absurd hms (by decide)

/-- A view of the second slice of a texture still covers it when the texture has been
    rotated with another one. -/
theorem views_coverAsked_rotated :
    ∃ w hv, Reach (·.world.Initial) CoverStep w ∧ w.world.live 7 = some 1 ∧
      (w.world.heap.views 7).pView = some hv ∧
      hv.desc.covers .rtv slicedShape = texels {0} (Set.Ico 1 2) := by
  have hcreate : Runs (virtioWddmCreateResource (.allOk false (.other 0) []) slicedArgs 5) {} _ _ :=
    rfl
  have h₀ : Reach (·.world.Initial) CoverStep
      { world := freshWorld, asked := fun _ => (.rtv, secondSlice) } :=
    .init ⟨fun _ => id, fun _ => rfl⟩
  have h₁ := h₀.step (.createResource _ _ _ 1 (fun _ => by simp [freshWorld]) _ _ _ hcreate)
  have h₂ := h₁.step (.createResource _ _ _ 2 (fun _ => by simp [freshWorld,
    ViewWorld.withResource]) _ _ _ hcreate)
  have h₃ := h₂.step (.createView .rtv secondSlice 1 7 (freshWorld.heap.views 7) (.ok 100)
    (.inr (.inl rfl)) rfl secondSlice_fits)
  have h₄ := h₃.step (.rotate true (fun n => .ok n) 2 [1, 2]
    (by simp [ViewWorld.withView, ViewWorld.withResource]) (by decide) slicedShape (by decide) _
    rfl)
  obtain ⟨hcovers, -⟩ := views_coverAsked h₄
  obtain ⟨-, -, -, hall⟩ := (hcovers 7 1 rfl).host _ rfl
  exact ⟨_, _, h₄, rfl, rfl, hall⟩

end VirtioWddm
