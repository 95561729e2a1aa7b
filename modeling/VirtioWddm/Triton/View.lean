/-
  VirtioWddm.Triton.View

  The views of `tritonView.c`: creation, destruction, the intrusive list on which
  every resource keeps its live views, and the re-creation of all host views of a
  resource.

  The driver's memory is a map from addresses to private blocks.  The four view
  blocks have one layout and are one type here; what differs between them is the
  description each creation function builds.
-/

import VirtioWddm.Ddi.Types
import VirtioWddm.Lib.Intrusive

namespace VirtioWddm

open Lib

-- ============================================================================
-- View descriptions
-- ============================================================================

/-- `TRITON_VIEW_KIND`. -/
inductive ViewKind where
  | rtv
  | srv
  | dsv
  | uav
deriving DecidableEq

/-- The `ViewDimension` of a host view description, over all four kinds. -/
inductive ViewDimension where
  | buffer
  | texture1d
  | texture1darray
  | texture2d
  | texture2darray
  | texture2dms
  | texture2dmsarray
  | texture3d
  | texturecube
  | texturecubearray
  | bufferex
deriving DecidableEq

/-- The part of a resource a view covers: the members of the unions behind
    `ResourceDimension` in the arguments and `ViewDimension` in the descriptions.
    `mip` is `MipSlice` or `MostDetailedMip`; `first` and `count` are the slices,
    W slices, cube faces and cubes. -/
structure ViewRange where
  firstElement : UINT := 0
  numElements : UINT := 0
  bufferFlags : UINT := 0
  mip : UINT := 0
  mipLevels : UINT := 0
  first : UINT := 0
  count : UINT := 0
  planeSlice : UINT := 0
deriving DecidableEq

/-- The arguments of the view creation functions; `flags` is the depth view's. -/
structure ViewArgs where
  format : DxgiFormat
  resourceDimension : ResourceType
  flags : UINT := 0
  range : ViewRange := {}
deriving DecidableEq

/-- A host view description (`D3D11_*_VIEW_DESC`, or `D3D11_*_VIEW_DESC1` where
    `planeSlice` is used). -/
structure ViewDesc where
  format : DxgiFormat
  viewDimension : ViewDimension
  flags : UINT := 0
  range : ViewRange := {}
deriving DecidableEq

/-- `r->ArraySize > 1`. -/
def TritonResource.isArray (r : TritonResource) : Bool :=
  1#32 < r.arraySize

/-- `r->SampleDesc.Count > 1`. -/
def TritonResource.isMultisampled (r : TritonResource) : Bool :=
  1#32 < r.sampleDesc.count

/-- `PlaneSlice`, which only the WDDM 2.0 entry points pass on. -/
def ViewArgs.plane (a : ViewArgs) (planar : Bool) : UINT :=
  if planar then a.range.planeSlice else 0

/-- The description of a render target view; `none` is the `default` branch. -/
def rtvDesc (r : TritonResource) (a : ViewArgs) (planar : Bool) : Option ViewDesc :=
  let desc := fun dim range =>
    some { format := a.format, viewDimension := dim, range := range : ViewDesc }
  let v := a.range
  match a.resourceDimension with
  | .buffer => desc .buffer { firstElement := v.firstElement, numElements := v.numElements }
  | .texture1d =>
      if r.isArray then
        desc .texture1darray { mip := v.mip, first := v.first, count := v.count }
      else
        desc .texture1d { mip := v.mip }
  | .texture2d =>
      if r.isMultisampled then
        if r.isArray then
          desc .texture2dmsarray { first := v.first, count := v.count }
        else
          desc .texture2dms {}
      else if r.isArray then
        desc .texture2darray
          { mip := v.mip, first := v.first, count := v.count, planeSlice := a.plane planar }
      else
        desc .texture2d { mip := v.mip, planeSlice := a.plane planar }
  | .texture3d => desc .texture3d { mip := v.mip, first := v.first, count := v.count }
  | .texturecube => desc .texture2darray { mip := v.mip, first := v.first, count := v.count }
  | .bufferex | .other _ => none

/-- The description of a shader resource view. -/
def srvDesc (r : TritonResource) (a : ViewArgs) (planar : Bool) : Option ViewDesc :=
  let desc := fun dim range =>
    some { format := a.format, viewDimension := dim, range := range : ViewDesc }
  let v := a.range
  match a.resourceDimension with
  | .buffer => desc .buffer { firstElement := v.firstElement, numElements := v.numElements }
  | .bufferex =>
      desc .bufferex
        { firstElement := v.firstElement, numElements := v.numElements
          bufferFlags := v.bufferFlags }
  | .texture1d =>
      if r.isArray then
        desc .texture1darray
          { mip := v.mip, mipLevels := v.mipLevels, first := v.first, count := v.count }
      else
        desc .texture1d { mip := v.mip, mipLevels := v.mipLevels }
  | .texture2d =>
      if r.isMultisampled then
        if r.isArray then
          desc .texture2dmsarray { first := v.first, count := v.count }
        else
          desc .texture2dms {}
      else if r.isArray then
        desc .texture2darray
          { mip := v.mip, mipLevels := v.mipLevels, first := v.first, count := v.count
            planeSlice := a.plane planar }
      else
        desc .texture2d
          { mip := v.mip, mipLevels := v.mipLevels, planeSlice := a.plane planar }
  | .texture3d => desc .texture3d { mip := v.mip, mipLevels := v.mipLevels }
  | .texturecube =>
      -- a cube is six faces, so more than six make a cube array
      if 6#32 < r.arraySize then
        desc .texturecubearray
          { mip := v.mip, mipLevels := v.mipLevels, first := v.first, count := v.count }
      else
        desc .texturecube { mip := v.mip, mipLevels := v.mipLevels }
  | .other _ => none

/-- The description of a depth stencil view. -/
def dsvDesc (r : TritonResource) (a : ViewArgs) : Option ViewDesc :=
  let desc := fun dim range =>
    some { format := a.format, viewDimension := dim, flags := a.flags, range := range : ViewDesc }
  let v := a.range
  match a.resourceDimension with
  | .texture1d =>
      if r.isArray then
        desc .texture1darray { mip := v.mip, first := v.first, count := v.count }
      else
        desc .texture1d { mip := v.mip }
  | .texture2d =>
      if r.isMultisampled then
        if r.isArray then
          desc .texture2dmsarray { first := v.first, count := v.count }
        else
          desc .texture2dms {}
      else if r.isArray then
        desc .texture2darray { mip := v.mip, first := v.first, count := v.count }
      else
        desc .texture2d { mip := v.mip }
  | .texturecube => desc .texture2darray { mip := v.mip, first := v.first, count := v.count }
  | .buffer | .texture3d | .bufferex | .other _ => none

/-- The description of an unordered access view. -/
def uavDesc (r : TritonResource) (a : ViewArgs) (planar : Bool) : Option ViewDesc :=
  let desc := fun dim range =>
    some { format := a.format, viewDimension := dim, range := range : ViewDesc }
  let v := a.range
  match a.resourceDimension with
  | .buffer | .bufferex =>
      desc .buffer
        { firstElement := v.firstElement, numElements := v.numElements
          bufferFlags := v.bufferFlags }
  | .texture1d =>
      if r.isArray then
        desc .texture1darray { mip := v.mip, first := v.first, count := v.count }
      else
        desc .texture1d { mip := v.mip }
  | .texture2d =>
      if r.isArray then
        desc .texture2darray
          { mip := v.mip, first := v.first, count := v.count, planeSlice := a.plane planar }
      else
        desc .texture2d { mip := v.mip, planeSlice := a.plane planar }
  | .texture3d => desc .texture3d { mip := v.mip, first := v.first, count := v.count }
  | .texturecube | .other _ => none

-- ============================================================================
-- Host views and the driver's memory
-- ============================================================================

/-- A host view object: what it was created as, and from. -/
structure HostView where
  id : Nat
  kind : ViewKind
  resource : Option HostResource
  desc : ViewDesc
deriving DecidableEq

/-- `GetDesc` of the base view interfaces, whose descriptions have no
    `PlaneSlice`. -/
def HostView.getDesc (view : HostView) : ViewDesc :=
  { view.desc with range := { view.desc.range with planeSlice := 0 } }

/-- A result code that `FAILED` holds of. -/
abbrev FailureCode := { hr : HRESULT // failed hr = true }

/-- What the host answers to a view creation: a new object, or a failure. -/
abbrev HostViewReply := Except FailureCode Nat

/-- The object a view creation leaves in its out-parameter. -/
def HostViewReply.view (reply : HostViewReply) (kind : ViewKind)
    (resource : Option HostResource) (desc : ViewDesc) : Option HostView :=
  match reply with
  | .error _ => none
  | .ok id => some { id := id, kind := kind, resource := resource, desc := desc }

/-- `TRITON_VIEWLINK`. -/
structure ViewLink where
  pNext : Option ViewAddr
  ppPrev : Option (Cell ResourceAddr ViewAddr)
  kind : ViewKind
deriving DecidableEq

/-- `TRITON_RTVIEW`, `TRITON_SRVIEW`, `TRITON_DSVIEW` and `TRITON_UAVIEW`. -/
structure TritonView where
  pResource : Option ResourceAddr
  pView : Option HostView
  link : ViewLink
deriving DecidableEq

/-- The private blocks of resources and views. -/
structure Heap where
  resources : ResourceAddr → VirtioWddmResource
  views : ViewAddr → TritonView

namespace Heap

def setView (h : Heap) (v : ViewAddr) (view : TritonView) : Heap :=
  { h with views := Function.update h.views v view }

def setResource (h : Heap) (r : ResourceAddr) (resource : VirtioWddmResource) : Heap :=
  { h with resources := Function.update h.resources r resource }

def setLink (h : Heap) (v : ViewAddr) (link : ViewLink) : Heap :=
  h.setView v { h.views v with link := link }

def setPView (h : Heap) (v : ViewAddr) (pView : Option HostView) : Heap :=
  h.setView v { h.views v with pView := pView }

/-- `*cell = p`. -/
def writeCell (h : Heap) (cell : Cell ResourceAddr ViewAddr) (p : Option ViewAddr) : Heap :=
  match cell with
  | .head r =>
      h.setResource r
        { h.resources r with base := { (h.resources r).base with pViewList := p } }
  | .next v => h.setLink v { (h.views v).link with pNext := p }

/-- `if (l) l->ppPrev = p`. -/
def setPpPrevOf (h : Heap) (l : Option ViewAddr) (p : Option (Cell ResourceAddr ViewAddr)) :
    Heap :=
  match l with
  | none => h
  | some w => h.setLink w { (h.views w).link with ppPrev := p }

/-- The list pointers in memory. -/
def links (h : Heap) : Links ResourceAddr ViewAddr where
  head r := (h.resources r).base.pViewList
  next v := (h.views v).link.pNext
  prev v := (h.views v).link.ppPrev

end Heap

-- ============================================================================
-- The view list
-- ============================================================================

/-- `tritonResourceLinkView`. -/
def tritonResourceLinkView (h : Heap) (r : ResourceAddr) (l : ViewAddr) (kind : ViewKind) :
    Heap :=
  let h := h.setLink l
    { pNext := (h.resources r).base.pViewList, ppPrev := some (.head r), kind := kind }
  let h := h.setPpPrevOf (h.resources r).base.pViewList (some (.next l))
  h.writeCell (.head r) (some l)

/-- `tritonViewUnlink`. -/
def tritonViewUnlink (h : Heap) (l : ViewAddr) : Heap :=
  match (h.views l).link.ppPrev with
  | none => h
  | some cell =>
      let h := h.writeCell cell (h.views l).link.pNext
      let h := h.setPpPrevOf (h.views l).link.pNext (h.views l).link.ppPrev
      h.setLink l { (h.views l).link with pNext := none, ppPrev := none }

-- ============================================================================
-- Creation and destruction
-- ============================================================================

/-- The body the view creation functions share, once their description is known:
    `none` is a resource dimension the kind has no view for.  The second component
    is the error reported to the runtime. -/
def createView (kind : ViewKind) (desc : Option ViewDesc) (h : Heap) (r : ResourceAddr)
    (v : ViewAddr) (reply : HostViewReply) : Heap × Option HRESULT :=
  match (h.resources r).base.pResource with
  | none => (h, some E_INVALIDARG)
  | some resource =>
      let h := h.setView v { h.views v with pResource := some r, pView := none }
      match desc with
      | none => (h, some E_INVALIDARG)
      | some d =>
          match reply with
          | .error hr => (h, some hr.val)
          | .ok _ =>
              (tritonResourceLinkView (h.setPView v (reply.view kind (some resource) d)) r v kind,
                none)

def tritonCreateRenderTargetView (h : Heap) (a : ViewArgs) (r : ResourceAddr) (v : ViewAddr)
    (reply : HostViewReply) : Heap × Option HRESULT :=
  createView .rtv (rtvDesc (h.resources r).base a false) h r v reply

def tritonCreateSRV (h : Heap) (a : ViewArgs) (r : ResourceAddr) (v : ViewAddr)
    (reply : HostViewReply) : Heap × Option HRESULT :=
  createView .srv (srvDesc (h.resources r).base a false) h r v reply

def tritonCreateDSV (h : Heap) (a : ViewArgs) (r : ResourceAddr) (v : ViewAddr)
    (reply : HostViewReply) : Heap × Option HRESULT :=
  createView .dsv (dsvDesc (h.resources r).base a) h r v reply

def tritonCreateUAV (h : Heap) (a : ViewArgs) (r : ResourceAddr) (v : ViewAddr)
    (reply : HostViewReply) : Heap × Option HRESULT :=
  createView .uav (uavDesc (h.resources r).base a false) h r v reply

/-- The WDDM 2.0 entry points go through `ID3D11Device3` when there is one, and
    otherwise through their 11.x counterparts without `PlaneSlice`. -/
def tritonCreateSRV_WDDM2_0 (dev3 : Bool) (h : Heap) (a : ViewArgs) (r : ResourceAddr)
    (v : ViewAddr) (reply : HostViewReply) : Heap × Option HRESULT :=
  if dev3 then createView .srv (srvDesc (h.resources r).base a true) h r v reply
  else tritonCreateSRV h a r v reply

def tritonCreateRenderTargetView_WDDM2_0 (dev3 : Bool) (h : Heap) (a : ViewArgs)
    (r : ResourceAddr) (v : ViewAddr) (reply : HostViewReply) : Heap × Option HRESULT :=
  if dev3 then createView .rtv (rtvDesc (h.resources r).base a true) h r v reply
  else tritonCreateRenderTargetView h a r v reply

def tritonCreateUAV_WDDM2_0 (dev3 : Bool) (h : Heap) (a : ViewArgs) (r : ResourceAddr)
    (v : ViewAddr) (reply : HostViewReply) : Heap × Option HRESULT :=
  if dev3 then createView .uav (uavDesc (h.resources r).base a true) h r v reply
  else tritonCreateUAV h a r v reply

/-- The body the view destruction functions share. -/
def destroyView (h : Heap) (v : ViewAddr) : Heap :=
  let h := tritonViewUnlink h v
  h.setView v { h.views v with pResource := none, pView := none }

def tritonDestroyRenderTargetView : Heap → ViewAddr → Heap := destroyView
def tritonDestroySRV : Heap → ViewAddr → Heap := destroyView
def tritonDestroyDSV : Heap → ViewAddr → Heap := destroyView
def tritonDestroyUAV : Heap → ViewAddr → Heap := destroyView

-- ============================================================================
-- Re-creation
-- ============================================================================

/-- One iteration of `tritonResourceRecreateViews`: the view's memory afterwards
    and the result code.  A view without a host view is left alone. -/
def recreateView (resource : VirtioWddmResource) (view : TritonView) (reply : HostViewReply) :
    TritonView × HRESULT :=
  match view.pView with
  | none => (view, S_OK)
  | some old =>
      ({ view with
          pView := reply.view view.link.kind resource.base.pResource old.getDesc },
        match reply with
        | .error hr => hr.val
        | .ok _ => S_OK)

/-- What the loop changes: the views' memory, the number of iterations so far, and
    `worst`. -/
structure RecreateState where
  views : ViewAddr → TritonView
  iterations : Nat := 0
  worst : HRESULT := S_OK

/-- One iteration for view `l`; `host n` is what the host answers in iteration
    `n`. -/
def RecreateState.step (host : Nat → HostViewReply) (resource : VirtioWddmResource)
    (st : RecreateState) (l : ViewAddr) : RecreateState :=
  let res := recreateView resource (st.views l) (host st.iterations)
  { views := Function.update st.views l res.1
    iterations := st.iterations + 1
    worst := if failed res.2 then res.2 else st.worst }

/-- The loop of `tritonResourceRecreateViews` from `l` on, with at most `fuel`
    iterations; `none` when they do not suffice. -/
def recreateLoop (host : Nat → HostViewReply) (resource : VirtioWddmResource) :
    Nat → Option ViewAddr → RecreateState → Option RecreateState
  | _, none, st => some st
  | 0, some _, _ => none
  | fuel + 1, some l, st =>
      let st := st.step host resource l
      recreateLoop host resource fuel (st.views l).link.pNext st

/-- `tritonResourceRecreateViews`; `iterations` counts on from earlier calls. -/
def tritonResourceRecreateViews (host : Nat → HostViewReply) (fuel : Nat)
    (resource : VirtioWddmResource) (views : ViewAddr → TritonView) (iterations : Nat) :
    Option RecreateState :=
  recreateLoop host resource fuel resource.base.pViewList
    { views := views, iterations := iterations }

end VirtioWddm
