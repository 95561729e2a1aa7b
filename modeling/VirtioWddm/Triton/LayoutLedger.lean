/-
  VirtioWddm.Triton.LayoutLedger

  What shaders and element layouts own, over runs of their calls.

  A shader owns its container and the host's shader, an element layout the copy of its
  elements and the host's input layout.  Each call acquires and releases some of these
  in the order of the source; a block of the heap is known by its contents.  The calls
  trade what the objects own, so over a run nothing is released that is not held, and
  nothing is left behind when the objects are destroyed.
-/

import VirtioWddm.Lib.Account
import VirtioWddm.Triton.ForeignLayout

namespace VirtioWddm

open Lib Lib.Action

-- ============================================================================
-- What is owned
-- ============================================================================

/-- References to objects of the host, and blocks of the heap. -/
inductive OwnedObject where
  | shader (s : HostShader)
  | inputLayout (l : HostInputLayout)
  | container (bytes : List Byte)
  | elements (es : List DdiElementDesc)
deriving DecidableEq

/-- The fields of a shader that own something, in the order of `tritonDestroyShader`. -/
def TritonShader.owned (s : TritonShader) : List OwnedObject :=
  s.pDeviceChild.toList.map .shader ++ s.pBytecode.toList.map .container

/-- The host objects of an element layout. -/
def TritonElementLayout.hostOwned (e : TritonElementLayout) : List OwnedObject :=
  e.pLayout.toList.map .inputLayout ++ e.pReconVS.toList.map .shader

/-- The fields of an element layout that own something, in the order of
    `tritonDestroyElementLayout`. -/
def TritonElementLayout.owned (e : TritonElementLayout) : List OwnedObject :=
  e.hostOwned ++ e.pElements.toList.map .elements

/-- What the object in a private block owns. -/
def PrivateCell.owned : PrivateCell → List OwnedObject
  | .raw => []
  | .shader s => s.owned
  | .layout e => e.owned

def ownedIn (mem : PrivateAddr → PrivateCell) (blocks : List PrivateAddr) : List OwnedObject :=
  blocks.flatMap fun a => (mem a).owned

-- ============================================================================
-- The words of the calls
-- ============================================================================

/-- What `tritonCreateShaderCommon` acquires and releases. -/
def createShaderWord (pD : TritonDevice) (args : CreateShaderArgs) :
    Except TokenFault (List (Action OwnedObject)) := do
  let cbTokens ← tritonShaderTokenBytes args.pShaderCode
  let sigs := tritonUnpackSigs args.pSigsRaw (args.kind = .hs || args.kind = .ds)
  if 4096 < sigs.pIn.length ∨ 4096 < sigs.pOut.length ∨ 4096 < sigs.pPatch.length then
    return []
  else do
    let pDxbc ←
      tritonBuildDxbc args.heap args.pShaderCode cbTokens sigs.pIn sigs.pOut sigs.pPatch
        pD.tritonSigStride
    match pDxbc with
    | none => return []
    | some (bytes, _) =>
        match args.native with
        | .ok child => return [.acquire (.container bytes), .acquire (.shader child)]
        | .error _ => return [.acquire (.container bytes), .release (.container bytes)]

/-- What `tritonCreateElementLayout` acquires. -/
def createElementLayoutWord (pVertexElements : List DdiElementDesc) (fAlloc : Bool) :
    List (Action OwnedObject) :=
  if fAlloc then [.acquire (.elements pVertexElements)] else []

/-- The block that a destroy call empties: every field that owns something is
    released. -/
def destroyWord (c : PrivateCell) : List (Action OwnedObject) :=
  c.owned.map .release

/-- The synthesised signature of a resolution, `pSynthBc`. -/
def synthSignature (heap : DxbcHeap) (pElements : List DdiElementDesc) (pBytecode : List Byte)
    (cbBytecode : Nat) : Option (List Byte) := do
  let sigs ← tritonDxbcParseSig pBytecode cbBytecode true maxInputSigs
  let matched := pElements.filterMap (matchedEntry sigs)
  if matched.length = 0 then none else (tritonBuildInputSigDxbc heap matched).map Prod.fst

/-- What the part of `tritonResolveInputLayout` behind the cached path acquires and
    releases: the old host objects go first, and the synthesised signature is freed
    behind `CreateInputLayout`. -/
def createLayoutWord (r : Resolution) (answers : ResolveAnswers) : List (Action OwnedObject) :=
  r.e.hostOwned.map .release ++
    match inputLayoutRequest answers.heap r.pElements r.pBytecode r.vs.cbBytecode with
    | some (some request) =>
        let pSynthBc :=
          (synthSignature answers.heap r.pElements r.pBytecode r.vs.cbBytecode).toList
        pSynthBc.map (.acquire ∘ .container) ++
          answers.created.toList.map (fun id => .acquire (.inputLayout ⟨id, request⟩)) ++
            pSynthBc.map (.release ∘ .container)
    | _ => []

/-- What `tritonResolveInputLayout` acquires and releases. -/
def resolveWord (pD : TritonDevice) (answers : ResolveAnswers) : List (Action OwnedObject) :=
  pD.resolution.elim [] fun r =>
    if isCached r.e r.vs then [] else createLayoutWord r answers

namespace Session

/-- What a call acquires and releases. -/
def word (s : Session) (c : LayoutCall) : List (Action OwnedObject) :=
  match c with
  | .createShader _ args =>
      match createShaderWord s.device args with
      | .ok w => w
      | .error _ => []
  | .destroyShader a => destroyWord (s.device.mem a)
  | .createElementLayout _ pVertexElements fAlloc => createElementLayoutWord pVertexElements fAlloc
  | .destroyElementLayout a => destroyWord (s.device.mem a)
  | .vsSetShader _ _ => (s.resolves c).elim [] fun p => resolveWord p.1 p.2
  | .iaSetInputLayout _ _ => (s.resolves c).elim [] fun p => resolveWord p.1 p.2
  | .overwrite _ _ => []

/-- The private blocks with an object after a call, newest first. -/
def blocks (s' : Session) (blocks : List PrivateAddr) : LayoutCall → List PrivateAddr
  | .createShader a _ => if (s'.live a).isSome then a :: blocks else blocks
  | .createElementLayout a _ _ => if (s'.live a).isSome then a :: blocks else blocks
  | .destroyShader a => blocks.erase a
  | .destroyElementLayout a => blocks.erase a
  | _ => blocks

/-- What the objects in these blocks own. -/
def owned (s : Session) (blocks : List PrivateAddr) : List OwnedObject :=
  ownedIn s.device.mem blocks

/-- The sessions after runs of calls the runtime may make, with the blocks that hold
    objects and all that was acquired and released. -/
inductive Accounts (fDdi11_1 : Bool) :
    Session → List PrivateAddr → List (Action OwnedObject) → Prop where
  | init : Accounts fDdi11_1 { device := { fDdi11_1 := fDdi11_1 } } [] []
  | call {s s' : Session} {blocks : List PrivateAddr} {word : List (Action OwnedObject)}
      {c : LayoutCall} (hrun : Accounts fDdi11_1 s blocks word) (hlegal : s.Legal c)
      (hstep : s.step c = some s') :
      Accounts fDdi11_1 s' (s'.blocks blocks c) (word ++ s.word c)

theorem Accounts.reaches {fDdi11_1 : Bool} {s : Session} {blocks : List PrivateAddr}
    {word : List (Action OwnedObject)} (h : Accounts fDdi11_1 s blocks word) :
    ∃ n, Reaches fDdi11_1 n s := by
  induction h with
  | init => exact ⟨0, .init⟩
  | call hrun hlegal hstep ih =>
      obtain ⟨n, hreach⟩ := ih
      exact ⟨_, .call hreach hlegal hstep⟩

end Session

-- ============================================================================
-- What a call trades
-- ============================================================================

section Trading

variable {pD pD' : TritonDevice} {a : PrivateAddr}

/-- A creation leaves what the shader owns; after an error nothing is left. -/
theorem createShader_trades {args : CreateShaderArgs} {error : Option HRESULT}
    (h : tritonCreateShaderCommon pD a args = .ok (pD', error)) :
    ∃ w s, createShaderWord pD args = .ok w ∧ pD'.mem = (pD.write a (.shader s)).mem ∧
      Trades w [] (if error.isNone then s.owned else []) := by
  have hstride : ({ pD with nextShaderCookie := pD.nextShaderCookie + 1 } :
      TritonDevice).tritonSigStride = pD.tritonSigStride := rfl
  rw [tritonCreateShaderCommon] at h
  obtain ⟨cbTokens, hcb, h⟩ := bind_eq_ok h
  rw [createShaderWord, hcb, ok_bind]
  dsimp only at h ⊢
  split at h
  case isTrue hmany =>
    rw [if_pos hmany]
    cases h
    exact ⟨[], _, rfl, rfl, Trades.nil []⟩
  case isFalse hfew =>
    obtain ⟨pDxbc, hbuild, h⟩ := bind_eq_ok h
    rw [hstride] at hbuild
    rw [if_neg hfew, hbuild, ok_bind]
    cases pDxbc with
    | none =>
        cases h
        exact ⟨[], _, rfl, rfl, Trades.nil []⟩
    | some built =>
        have hcontainer := Trades.acquire (OwnedObject.container built.1) []
        cases hnative : args.native with
        | ok child =>
            rw [hnative] at h
            cases h
            exact ⟨_, _, rfl, rfl, hcontainer.append (Trades.acquire (OwnedObject.shader child) _)⟩
        | error hr =>
            rw [hnative] at h
            cases h
            exact ⟨_, _, rfl, rfl, hcontainer.append (Trades.release _ [])⟩

theorem createElementLayout_trades (pVertexElements : List DdiElementDesc) (fAlloc : Bool)
    {error : Option HRESULT}
    (h : tritonCreateElementLayout pD a pVertexElements fAlloc = (pD', error)) :
    ∃ e, pD'.mem = (pD.write a (.layout e)).mem ∧
      Trades (createElementLayoutWord pVertexElements fAlloc) []
        (if error.isNone then e.owned else []) := by
  cases fAlloc with
  | true =>
      cases h
      exact ⟨_, rfl, Trades.acquire _ []⟩
  | false =>
      cases h
      exact ⟨_, rfl, Trades.nil []⟩

/-- A synthesised signature, if there is one, is allocated and freed. -/
theorem synth_trades (pSynthBc : Option (List Byte)) (held : List OwnedObject) :
    Trades (pSynthBc.toList.map (.acquire ∘ .container)) held
        (pSynthBc.toList.map .container ++ held) ∧
      Trades (pSynthBc.toList.map (.release ∘ .container)) (pSynthBc.toList.map .container ++ held)
        held := by
  cases pSynthBc with
  | none => exact ⟨Trades.nil held, Trades.nil held⟩
  | some b => exact ⟨Trades.acquire _ held, Trades.release _ held⟩

/-- Unbinding touches no private block. -/
theorem mem_tritonUnbindReconVs (h : tritonUnbindReconVs pD = some pD') : pD'.mem = pD.mem := by
  rw [tritonUnbindReconVs] at h
  split at h
  case h_1 =>
    cases h
    rfl
  case h_2 =>
    dsimp only at h
    split at h
    case h_1 =>
      cases h
      rfl
    case h_2 =>
      obtain ⟨vs, -, h⟩ := Option.bind_eq_some_iff.mp h
      cases h
      rfl

/-- A host layout that is created is acquired. -/
theorem mem_createLayoutWord {r : Resolution} {answers : ResolveAnswers}
    {request : InputLayoutRequest} {id : Nat}
    (hrequest : inputLayoutRequest answers.heap r.pElements r.pBytecode r.vs.cbBytecode =
      some (some request)) (hid : answers.created = some id) :
    .acquire (.inputLayout ⟨id, request⟩) ∈ createLayoutWord r answers := by
  rw [createLayoutWord, hrequest, hid]
  exact List.mem_append_right _ (List.mem_append_left _
    (List.mem_append_right _ (List.mem_singleton_self _)))

/-- The resolution trades what the layout owned for what it owns. -/
theorem createLayout_trades {r : Resolution} {answers : ResolveAnswers}
    (h : createLayout pD r.ea r.e r.vs r.pElements r.pBytecode answers = some pD') :
    ∃ e, pD'.mem = (pD.write r.ea (.layout e)).mem ∧
      Trades (createLayoutWord r answers) r.e.owned e.owned := by
  have hgone := (Trades.releaseAll r.e.hostOwned).frame (r.e.pElements.toList.map .elements)
  rw [createLayout] at h
  obtain ⟨answer, hanswer, h⟩ := Option.bind_eq_some_iff.mp h
  cases answer with
  | none =>
      refine ⟨releasedLayout r.e, mem_tritonUnbindReconVs h, ?_⟩
      rw [createLayoutWord, hanswer]
      exact hgone.append (Trades.nil _)
  | some request =>
      rw [createLayoutWord, hanswer]
      have hsynth := fun held =>
        synth_trades (synthSignature answers.heap r.pElements r.pBytecode r.vs.cbBytecode) held
      cases hcreated : answers.created with
      | none =>
          rw [hcreated] at h
          refine ⟨{ releasedLayout r.e with layoutVsCookie := 0 }, mem_tritonUnbindReconVs h, ?_⟩
          exact hgone.append (((hsynth _).1.append (Trades.nil _)).append (hsynth _).2)
      | some id =>
          rw [hcreated] at h
          cases h
          refine ⟨requestedLayout r.e r.vs ⟨id, request⟩, rfl, hgone.append ?_⟩
          have hlayout := Trades.acquire (OwnedObject.inputLayout ⟨id, request⟩)
            ((synthSignature answers.heap r.pElements r.pBytecode r.vs.cbBytecode).toList.map
              .container ++ r.e.pElements.toList.map .elements)
          -- the signature is freed from under the new layout
          have hfreed := (hsynth (.inputLayout ⟨id, request⟩ ::
            r.e.pElements.toList.map .elements)).2.perm List.perm_middle.symm (.refl _)
          exact ((hsynth _).1.append hlayout).append hfreed

/-- `tritonResolveInputLayout` writes to no block but that of the current layout. -/
theorem resolve_trades {hist : Nat → ShaderBytecode} {n : Nat}
    {live : PrivateAddr → Option ObjectKind} (hinv : CacheInv hist n live pD)
    {answers : ResolveAnswers} (h : tritonResolveInputLayout pD answers = some pD') :
    (pD'.mem = pD.mem ∧ resolveWord pD answers = []) ∨
      ∃ ea c, live ea = some .elementLayout ∧ pD'.mem = (pD.write ea c).mem ∧
        Trades (resolveWord pD answers) (pD.mem ea).owned c.owned := by
  cases hres : pD.resolution with
  | none =>
      rcases hinv.resolution_cases with ⟨r, hsome⟩ | hunbind
      · rw [hres] at hsome
        cases hsome
      · rw [hunbind] at h
        refine .inl ⟨mem_tritonUnbindReconVs h, ?_⟩
        rw [resolveWord, hres]
        rfl
  | some r =>
      obtain ⟨va, hr⟩ := resolution_eq_some.mp hres
      have hword : resolveWord pD answers =
          if isCached r.e r.vs then [] else createLayoutWord r answers := by
        rw [resolveWord, hres]
        rfl
      rw [tritonResolveInputLayout_eq hres] at h
      by_cases hcached : isCached r.e r.vs = true
      · rw [if_pos hcached] at h hword
        cases h
        exact .inl ⟨rfl, hword⟩
      · rw [if_neg hcached] at h hword
        obtain ⟨e, hmem, htrades⟩ := createLayout_trades h
        refine .inr ⟨r.ea, .layout e, hinv.currentLayout r.ea hr.pCurrentLayout, hmem, ?_⟩
        rw [hword, hr.layout]
        exact htrades

end Trading

-- ============================================================================
-- What a block trades
-- ============================================================================

section Blocks

variable {mem mem' : PrivateAddr → PrivateCell} {blocks : List PrivateAddr} {a : PrivateAddr}
  {c : PrivateCell} {w : List (Action OwnedObject)}

theorem ownedIn_congr (h : ∀ a ∈ blocks, mem' a = mem a) :
    ownedIn mem' blocks = ownedIn mem blocks :=
  List.flatMap_congr fun a ha => congrArg PrivateCell.owned (h a ha)

/-- What a block owns, in front of the others. -/
theorem ownedIn_perm (mem : PrivateAddr → PrivateCell) (ha : a ∈ blocks) :
    (ownedIn mem blocks).Perm ((mem a).owned ++ ownedIn mem (blocks.erase a)) :=
  (List.perm_cons_erase ha).flatMap_right _

/-- An object is created in a block. -/
theorem ownedIn_create (ha : a ∉ blocks) (hmem : mem' = Function.update mem a c)
    (h : Trades w [] c.owned) : Trades w (ownedIn mem blocks) (ownedIn mem' (a :: blocks)) := by
  have hrest : ownedIn mem' blocks = ownedIn mem blocks := by
    refine ownedIn_congr fun a' ha' => ?_
    have hne : a' ≠ a := fun heq => ha (heq ▸ ha')
    rw [hmem, Function.update_of_ne hne]
  have hself : mem' a = c := by
    rw [hmem, Function.update_self]
  have hcons : ownedIn mem' (a :: blocks) = (mem' a).owned ++ ownedIn mem' blocks := rfl
  rw [hcons, hrest, hself]
  exact h.frame (ownedIn mem blocks)

/-- The object of a block gives back what it owns. -/
theorem ownedIn_destroy (hnodup : blocks.Nodup) (ha : a ∈ blocks)
    (hmem : mem' = Function.update mem a c) :
    Trades (destroyWord (mem a)) (ownedIn mem blocks) (ownedIn mem' (blocks.erase a)) := by
  have hrest : ownedIn mem' (blocks.erase a) = ownedIn mem (blocks.erase a) := by
    refine ownedIn_congr fun a' ha' => ?_
    rw [hmem, Function.update_of_ne (hnodup.mem_erase_iff.mp ha').1]
  rw [hrest]
  exact ((Trades.releaseAll (mem a).owned).frame _).perm (ownedIn_perm mem ha) (.refl _)

/-- The object of a block trades what it owns. -/
theorem ownedIn_replace (hnodup : blocks.Nodup) (ha : a ∈ blocks)
    (hmem : mem' = Function.update mem a c) (h : Trades w (mem a).owned c.owned) :
    Trades w (ownedIn mem blocks) (ownedIn mem' blocks) := by
  have hrest : ownedIn mem' (blocks.erase a) = ownedIn mem (blocks.erase a) := by
    refine ownedIn_congr fun a' ha' => ?_
    rw [hmem, Function.update_of_ne (hnodup.mem_erase_iff.mp ha').1]
  have hself : mem' a = c := by
    rw [hmem, Function.update_self]
  have hafter := ownedIn_perm mem' ha
  rw [hrest, hself] at hafter
  exact (h.frame _).perm (ownedIn_perm mem ha) hafter.symm

end Blocks

-- ============================================================================
-- Runs
-- ============================================================================

/-- The blocks are those with an object. -/
structure TracksLive (s : Session) (blocks : List PrivateAddr) : Prop where
  nodup : blocks.Nodup
  mem_iff : ∀ a, a ∈ blocks ↔ (s.live a).isSome = true

section Runs

variable {s s' : Session} {blocks : List PrivateAddr} {hist : Nat → ShaderBytecode} {n : Nat}

theorem TracksLive.not_mem (h : TracksLive s blocks) {a : PrivateAddr} (ha : s.live a = none) :
    a ∉ blocks := by
  intro hmem
  have hlive := (h.mem_iff a).mp hmem
  rw [ha] at hlive
  cases hlive

theorem TracksLive.mem (h : TracksLive s blocks) {a : PrivateAddr} {kind : ObjectKind}
    (ha : s.live a = some kind) : a ∈ blocks := by
  rw [h.mem_iff, ha]
  rfl

/-- A create call that leaves `c` in the block, and what `c` owns if it succeeds. -/
theorem TracksLive.create (h : TracksLive s blocks) {a : PrivateAddr} (ha : s.live a = none)
    (kind : ObjectKind) {pD : TritonDevice} {c : PrivateCell} {error : Option HRESULT}
    {w : List (Action OwnedObject)} (hmem : pD.mem = (s.device.write a c).mem)
    (htrades : Trades w [] (if error.isNone then c.owned else [])) :
    TracksLive { device := pD, live := s.created a kind error }
        (if (s.created a kind error a).isSome then a :: blocks else blocks) ∧
      Trades w (s.owned blocks)
        (ownedIn pD.mem (if (s.created a kind error a).isSome then a :: blocks else blocks)) := by
  have hnot := h.not_mem ha
  cases error with
  | some hr =>
      have hsame : s.created a kind (some hr) = s.live := rfl
      have hkept : ownedIn pD.mem blocks = s.owned blocks := by
        refine ownedIn_congr fun a' ha' => ?_
        have hne : a' ≠ a := fun heq => hnot (heq ▸ ha')
        rw [hmem, s.device.mem_write_of_ne hne]
      rw [hsame, ha]
      refine ⟨⟨h.nodup, h.mem_iff⟩, ?_⟩
      show Trades w _ (ownedIn pD.mem blocks)
      rw [hkept]
      exact htrades.frame (s.owned blocks)
  | none =>
      have hnew : s.created a kind none = Function.update s.live a (some kind) := rfl
      rw [hnew, Function.update_self]
      refine ⟨⟨List.nodup_cons.mpr ⟨hnot, h.nodup⟩, fun a' => ?_⟩, ownedIn_create hnot hmem htrades⟩
      show a' ∈ a :: blocks ↔ (Function.update s.live a (some kind) a').isSome = true
      by_cases heq : a' = a
      · rw [heq, Function.update_self]
        exact iff_of_true List.mem_cons_self rfl
      · rw [Function.update_of_ne heq, List.mem_cons, h.mem_iff]
        exact or_iff_right heq

/-- A destroy call. -/
theorem TracksLive.destroy (h : TracksLive s blocks) {a : PrivateAddr} {kind : ObjectKind}
    (ha : s.live a = some kind) {pD : TritonDevice} {c : PrivateCell}
    (hmem : pD.mem = (s.device.write a c).mem) :
    TracksLive { device := pD, live := Function.update s.live a none } (blocks.erase a) ∧
      Trades (destroyWord (s.device.mem a)) (s.owned blocks)
        (ownedIn pD.mem (blocks.erase a)) := by
  refine ⟨⟨h.nodup.erase a, fun a' => ?_⟩, ownedIn_destroy h.nodup (h.mem ha) hmem⟩
  rw [h.nodup.mem_erase_iff, h.mem_iff]
  show _ ↔ (Function.update s.live a none a').isSome = true
  by_cases heq : a' = a
  · rw [heq, Function.update_self]
    exact iff_of_false (fun hboth => hboth.1 rfl) Bool.false_ne_true
  · rw [Function.update_of_ne heq]
    exact and_iff_right heq

/-- A call that resolves trades what the current layout owns. -/
theorem resolving_trades (hinv : CacheInv hist n s.live s.device) (h : TracksLive s blocks)
    {c : LayoutCall} (hlegal : s.Legal c) {pD pD' : TritonDevice} {answers : ResolveAnswers}
    (hres : s.resolves c = some (pD, answers))
    (hstep : tritonResolveInputLayout pD answers = some pD') :
    Trades (resolveWord pD answers) (s.owned blocks) (ownedIn pD'.mem blocks) := by
  have hmem := (resolves_keeps hres).1
  rw [Session.owned, ← hmem]
  rcases resolve_trades (resolves_cacheInv hinv hlegal hres) hstep with
    ⟨hsame, hnone⟩ | ⟨ea, c', hlive, hwrite, htrades⟩
  · rw [hsame, hnone]
    exact Trades.nil _
  · refine ownedIn_replace h.nodup ((h.mem_iff ea).mpr ?_) hwrite htrades
    rw [hlive]
    rfl

/-- One call.  The blocks are again those with an object, and the word of the call
    trades what they owned for what they own. -/
theorem step_trades (hinv : CacheInv hist n s.live s.device) (h : TracksLive s blocks)
    {c : LayoutCall} (hlegal : s.Legal c) (hstep : s.step c = some s') :
    TracksLive s' (s'.blocks blocks c) ∧
      Trades (s.word c) (s.owned blocks) (s'.owned (s'.blocks blocks c)) := by
  cases c with
  | createShader a args =>
      rw [Session.step] at hstep
      split at hstep
      case h_1 => cases hstep
      case h_2 pD' error hcreate =>
        cases hstep
        obtain ⟨w, vs, hword, hmem, htrades⟩ := createShader_trades hcreate
        rw [Session.word, hword]
        exact h.create (c := .shader vs) hlegal.1 .shader hmem htrades
  | createElementLayout a pVertexElements fAlloc =>
      cases hstep
      have hcreate : tritonCreateElementLayout s.device a pVertexElements fAlloc = _ := rfl
      obtain ⟨e, hmem, htrades⟩ := createElementLayout_trades pVertexElements fAlloc hcreate
      exact h.create (c := .layout e) hlegal .elementLayout hmem htrades
  | destroyShader a =>
      obtain ⟨pD', hdestroy, heq⟩ := Option.bind_eq_some_iff.mp hstep
      cases heq
      rw [tritonDestroyShader] at hdestroy
      obtain ⟨vs, -, heq⟩ := Option.bind_eq_some_iff.mp hdestroy
      cases heq
      exact h.destroy hlegal rfl
  | destroyElementLayout a =>
      obtain ⟨pD', hdestroy, heq⟩ := Option.bind_eq_some_iff.mp hstep
      cases heq
      rw [tritonDestroyElementLayout] at hdestroy
      obtain ⟨e, -, heq⟩ := Option.bind_eq_some_iff.mp hdestroy
      cases heq
      exact h.destroy hlegal rfl
  | vsSetShader hShader answers =>
      obtain ⟨pD', hset, heq⟩ := Option.bind_eq_some_iff.mp hstep
      cases heq
      obtain ⟨pD₁, hcurrent, hresolve⟩ := Option.bind_eq_some_iff.mp hset
      have hres : s.resolves (.vsSetShader hShader answers) = some (pD₁, answers) := by
        rw [Session.resolves, hcurrent]
        rfl
      refine ⟨⟨h.nodup, h.mem_iff⟩, ?_⟩
      rw [Session.word, hres]
      exact resolving_trades hinv h hlegal hres hresolve
  | iaSetInputLayout hLayout answers =>
      obtain ⟨pD', hset, heq⟩ := Option.bind_eq_some_iff.mp hstep
      cases heq
      refine ⟨⟨h.nodup, h.mem_iff⟩, ?_⟩
      rw [tritonIaSetInputLayout] at hset
      by_cases hboth : (hLayout.isSome && s.device.pCurrentVS.isSome) = true
      · have hres : s.resolves (.iaSetInputLayout hLayout answers) =
            some ({ s.device with pCurrentLayout := hLayout }, answers) := if_pos hboth
        rw [Session.word, hres]
        exact resolving_trades hinv h hlegal hres ((if_pos hboth).symm.trans hset)
      · have hres : s.resolves (.iaSetInputLayout hLayout answers) = none := if_neg hboth
        have hmem := mem_tritonUnbindReconVs ((if_neg hboth).symm.trans hset)
        rw [Session.word, hres]
        show Trades [] _ (ownedIn pD'.mem blocks)
        rw [hmem]
        exact Trades.nil _
  | overwrite a c =>
      cases hstep
      refine ⟨⟨h.nodup, h.mem_iff⟩, ?_⟩
      have hkept : ownedIn (s.device.write a c).mem blocks = s.owned blocks := by
        refine ownedIn_congr fun a' ha' => ?_
        have hne : a' ≠ a := fun heq => h.not_mem hlegal (heq ▸ ha')
        rw [s.device.mem_write_of_ne hne]
      show Trades [] _ (ownedIn (s.device.write a c).mem blocks)
      rw [hkept]
      exact Trades.nil _

end Runs

/-- The account of a run: nothing is released that is not held, what is held is what the
    objects own, and when they are all destroyed everything has been given back. -/
structure AccountedFor (s : Session) (blocks : List PrivateAddr)
    (word : List (Action OwnedObject)) : Prop where
  tracks : TracksLive s blocks
  neverAbsent : NeverAbsent word
  count : ∀ o, word.count (.acquire o) = word.count (.release o) + (s.owned blocks).count o
  settled : (∀ a, s.live a = none) → Settled word

theorem layoutObjects_accountedFor {fDdi11_1 : Bool} {s : Session} {blocks : List PrivateAddr}
    {word : List (Action OwnedObject)} (h : Session.Accounts fDdi11_1 s blocks word) :
    AccountedFor s blocks word := by
  have hall : TracksLive s blocks ∧ Balanced word fun o => (s.owned blocks).count o := by
    induction h with
    | init =>
        exact ⟨⟨List.nodup_nil, fun a => iff_of_false List.not_mem_nil Bool.false_ne_true⟩,
          Balanced.nil⟩
    | call hrun hlegal hstep ih =>
        obtain ⟨n, hreach⟩ := hrun.reaches
        obtain ⟨hist, hinv⟩ := reaches_cacheInv hreach
        obtain ⟨htracks, htrades⟩ := step_trades hinv ih.1 hlegal hstep
        exact ⟨htracks, htrades.balanced ih.2⟩
  obtain ⟨htracks, hbalanced⟩ := hall
  refine ⟨htracks, hbalanced.neverAbsent, hbalanced.count, fun hdead => ?_⟩
  refine hbalanced.settled fun o => ?_
  have hnil : blocks = [] := List.eq_nil_iff_forall_not_mem.mpr fun a => htracks.not_mem (hdead a)
  rw [hnil]
  rfl

/-- A layout and a shader are created, set and resolved, and destroyed again. -/
theorem layoutObjects_accountedFor_all :
    ∃ s blocks word request, Session.Accounts false s blocks word ∧
      .acquire (.inputLayout ⟨7, request⟩) ∈ word ∧ AccountedFor s blocks word ∧
      Settled word := by
  have hcreated : Session.Accounts false layoutCreated [1] _ :=
    Session.Accounts.init.call (c := .createElementLayout 1 [vertexElement] true) rfl rfl
  obtain ⟨bytes, cb, hstep, sigs, hparse, hlength⟩ :=
    step_createShader_input (s := layoutCreated) rfl 0 (show ¬4096 < [attributeIn].length by decide)
      vsPlan_attribute (by decide)
  have hshader := hcreated.call (c := .createShader 0 (inputShader [attributeIn]))
    ⟨rfl, 4, rfl, Nat.le_refl 4⟩ hstep
  have hset := hshader.call (c := .iaSetInputLayout (some 1) granted)
    (fun a ha => by cases ha; rfl) rfl
  obtain ⟨request, hrequest⟩ := exists_inputLayoutRequest hparse
    (by rw [hlength]; exact Nat.one_ne_zero) granted.heap [vertexElement] (by decide)
  have hbound := hset.call (c := .vsSetShader (some 0) granted) (fun a ha => by cases ha; rfl)
    (Session.step_requests granted.heap 7
      (r := ⟨1, emptyLayout, inputShaderCreated bytes cb 1, [vertexElement], bytes⟩)
      rfl ⟨rfl, rfl, rfl, rfl, rfl, rfl, Nat.one_ne_zero⟩ rfl hrequest)
  have hlayout := hbound.call (c := .destroyElementLayout 1) rfl rfl
  have hall := hlayout.call (c := .destroyShader 0) rfl rfl
  have haccount := layoutObjects_accountedFor hall
  have hacquired : .acquire (.inputLayout ⟨7, request⟩) ∈ createLayoutWord
      ⟨1, emptyLayout, inputShaderCreated bytes cb 1, [vertexElement], bytes⟩ granted :=
    mem_createLayoutWord hrequest rfl
  refine ⟨_, _, _, request, hall, ?_, haccount, haccount.settled fun a => ?_⟩
  · exact List.mem_append_left _ (List.mem_append_left _ (List.mem_append_right _ hacquired))
  · by_cases hshader : a = 0
    · rw [hshader]
      rfl
    · by_cases hlayout : a = 1
      · rw [hlayout]
        rfl
      · show Function.update (Function.update (Function.update (Function.update (fun _ => none) 1 _)
          0 _) 1 none) 0 none a = none
        rw [Function.update_of_ne hshader, Function.update_of_ne hlayout,
          Function.update_of_ne hshader, Function.update_of_ne hlayout]

end VirtioWddm
