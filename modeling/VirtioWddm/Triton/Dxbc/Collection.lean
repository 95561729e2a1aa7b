/-
  VirtioWddm.Triton.Dxbc.Collection

  What `tritonCollectSigEntries` collects: an entry for every declared element, the
  DDI's own entries where there is one stream, no overlapping components, all of it
  sorted.
-/

import Mathlib.Data.Prod.Lex
import VirtioWddm.Lib.StableSort
import VirtioWddm.Triton.Dxbc.Plan

namespace VirtioWddm

open Lib

-- ============================================================================
-- The order
-- ============================================================================

/-- Stream, register and first component of an entry, in this order. -/
def sigKey (e : TritonSigEntry) : ℕ ×ₗ ℕ ×ₗ ℕ :=
  toLex (e.stream.toNat, toLex (e.reg.toNat, (tritonFirstComp e.mask).toNat))

theorem tritonSigOrderBefore_iff (a b : TritonSigEntry) :
    tritonSigOrderBefore a b = true ↔ sigKey a < sigKey b := by
  rw [sigKey, sigKey, Prod.Lex.toLex_lt_toLex, Prod.Lex.toLex_lt_toLex]
  simp only [BitVec.toNat_inj]
  unfold tritonSigOrderBefore
  by_cases hstream : a.stream = b.stream
  · rw [if_neg (not_not_intro hstream), hstream]
    by_cases hreg : a.reg = b.reg
    · rw [if_neg (not_not_intro hreg), hreg]
      simp [BitVec.lt_def]
    · rw [if_pos hreg]
      simp [BitVec.lt_def, hreg]
  · rw [if_pos hstream]
    simp [BitVec.lt_def, hstream]

theorem insertSigEntry_eq (key : TritonSigEntry) (sorted : List TritonSigEntry) :
    insertSigEntry key sorted = sorted.orderedInsert (KeyGE sigKey) key := by
  induction sorted with
  | nil => rfl
  | cons p ps ih =>
      rw [insertSigEntry, List.orderedInsert_cons, ih]
      by_cases hbefore : tritonSigOrderBefore key p = true
      · have hlt := (tritonSigOrderBefore_iff key p).mp hbefore
        have hnot : ¬KeyGE sigKey key p := not_le_of_gt hlt
        rw [if_pos hbefore, if_neg hnot]
      · have hle := le_of_not_gt fun hlt => hbefore ((tritonSigOrderBefore_iff key p).mpr hlt)
        have hge : KeyGE sigKey key p := hle
        rw [if_neg hbefore, if_pos hge]

/-- The insertion sort is stable. -/
theorem sortSigEntries_stable (entries : List TritonSigEntry) :
    StableSort sigKey entries (sortSigEntries entries) := by
  have hsort : sortSigEntries entries =
      (entries.reverse.insertionSort (KeyGE sigKey)).reverse := by
    rw [sortSigEntries, List.insertionSort, List.foldr_reverse]
    simp only [insertSigEntry_eq]
  rw [hsort]
  exact stableSort_insertionSort sigKey entries

-- ============================================================================
-- Disjoint entries
-- ============================================================================

/-- Entries of one stream and register have no component in common. -/
def DisjointEntries (entries : List TritonSigEntry) : Prop :=
  entries.Pairwise fun a b => a.stream = b.stream → a.reg = b.reg → a.mask &&& b.mask = 0

theorem DisjointEntries.concat {out : List TritonSigEntry} (h : DisjointEntries out)
    {e : TritonSigEntry}
    (he : ∀ o ∈ out, o.stream = e.stream → o.reg = e.reg → o.mask &&& e.mask = 0) :
    DisjointEntries (out ++ [e]) := by
  rw [DisjointEntries, List.pairwise_append]
  refine ⟨h, List.pairwise_singleton _ _, fun o ho e' he' => ?_⟩
  rw [List.mem_singleton.mp he']
  exact he o ho

theorem DisjointEntries.of_perm {l l' : List TritonSigEntry} (hperm : l'.Perm l)
    (h : DisjointEntries l) : DisjointEntries l' := by
  have hsymm : ∀ {a b : TritonSigEntry},
      (a.stream = b.stream → a.reg = b.reg → a.mask &&& b.mask = 0) →
        b.stream = a.stream → b.reg = a.reg → b.mask &&& a.mask = 0 := by
    intro a b hab hstream hreg
    rw [BitVec.and_comm]
    exact hab hstream.symm hreg.symm
  exact (List.Perm.pairwise_iff hsymm hperm).mpr h

-- ============================================================================
-- DDI elements
-- ============================================================================

section

variable {pDecl : List TritonDeclSig} {cStream : UINT} {out : List TritonSigEntry}

/-- With one stream every DDI element is kept. -/
theorem foldl_addDdiEntry_single (h : ¬1#32 < cStream) (ddi : List DdiSig) :
    ddi.foldl (addDdiEntry pDecl cStream) out = out ++ ddi.map DdiSig.entry := by
  induction ddi generalizing out with
  | nil => rw [List.foldl_nil, List.map_nil, List.append_nil]
  | cons d ddi ih =>
      rw [List.foldl_cons, ih, addDdiEntry, if_neg h, List.append_assoc, List.map_cons]
      rfl

/-- With several streams what is kept overlaps nothing kept before. -/
theorem addDdiEntry_disjoint (h : 1#32 < cStream) (hout : DisjointEntries out) (d : DdiSig) :
    DisjointEntries (addDdiEntry pDecl cStream out d) := by
  rw [addDdiEntry, if_pos h]
  dsimp only
  split
  case isTrue hkept =>
    have hdup := (Bool.and_eq_true_iff.mp hkept).2
    rw [Bool.not_eq_true', List.any_eq_false] at hdup
    refine hout.concat fun o ho hstream hreg => ?_
    have hmask := hdup o ho
    rw [beq_iff_eq.mpr hstream, beq_iff_eq.mpr hreg] at hmask
    simpa using hmask
  case isFalse => exact hout

theorem foldl_addDdiEntry_disjoint (h : 1#32 < cStream) (hout : DisjointEntries out)
    (ddi : List DdiSig) : DisjointEntries (ddi.foldl (addDdiEntry pDecl cStream) out) := by
  induction ddi generalizing out with
  | nil => exact hout
  | cons d ddi ih => exact ih (addDdiEntry_disjoint h hout d)

end

-- ============================================================================
-- Declarations
-- ============================================================================

/-- The same stream and register, and a component in common, unless one has none. -/
structure Represents (e : TritonSigEntry) (decl : TritonDeclSig) : Prop where
  stream : e.stream = decl.stream
  reg : e.reg = decl.reg
  mask : e.mask &&& decl.mask ≠ 0 ∨ decl.mask = 0 ∨ e.mask = 0

theorem covers_iff (e : TritonSigEntry) (decl : TritonDeclSig) :
    e.covers decl = true ↔ Represents e decl := by
  constructor
  · intro h
    simp only [TritonSigEntry.covers, Bool.and_eq_true, Bool.or_eq_true, beq_iff_eq,
      bne_iff_ne] at h
    exact ⟨h.1.2, h.1.1, or_assoc.mp h.2⟩
  · intro h
    simp only [TritonSigEntry.covers, Bool.and_eq_true, Bool.or_eq_true, beq_iff_eq, bne_iff_ne]
    exact ⟨⟨h.reg, h.stream⟩, or_assoc.mpr h.mask⟩

section

variable {ddi : List DdiSig} {out : List TritonSigEntry} {decl : TritonDeclSig}

variable (ddi decl) in
/-- What a declaration does: it appends an entry of its own where none represents it. -/
theorem addDeclEntry_cases (hroom : out.length < TRITON_DXBC_MAX_SIG_ENTRIES) :
    (addDeclEntry ddi out decl = out ∧ ∃ e ∈ out, Represents e decl) ∨
      ∃ e, addDeclEntry ddi out decl = out ++ [e] ∧ Represents e decl ∧
        e.mask = decl.mask &&& 0x0F#32 ∧ ∀ o ∈ out, ¬Represents o decl := by
  rw [addDeclEntry, if_pos hroom]
  by_cases hany : (out.any fun e => e.covers decl) = true
  · obtain ⟨e, he, hcovers⟩ := List.any_eq_true.mp hany
    exact .inl ⟨if_pos hany, e, he, (covers_iff e decl).mp hcovers⟩
  · refine .inr ⟨_, if_neg hany, ⟨rfl, rfl, ?_⟩, rfl, fun o ho hrep => hany ?_⟩
    · show decl.mask &&& 0x0F#32 &&& decl.mask ≠ 0 ∨ decl.mask = 0 ∨ decl.mask &&& 0x0F#32 = 0
      rw [BitVec.and_comm, ← BitVec.and_assoc, BitVec.and_self]
      by_cases hempty : decl.mask &&& 0x0F#32 = 0
      · exact .inr (.inr hempty)
      · exact .inl hempty
    · exact List.any_eq_true.mpr ⟨o, ho, (covers_iff o decl).mpr hrep⟩

theorem addDeclEntry_full (hfull : ¬out.length < TRITON_DXBC_MAX_SIG_ENTRIES) :
    addDeclEntry ddi out decl = out := by
  rw [addDeclEntry, if_neg hfull]

theorem addDeclEntry_disjoint (hout : DisjointEntries out) :
    DisjointEntries (addDeclEntry ddi out decl) := by
  by_cases hroom : out.length < TRITON_DXBC_MAX_SIG_ENTRIES
  · rcases addDeclEntry_cases ddi decl hroom with ⟨hsame, -⟩ | ⟨e, happ, hrep, hmask, hnew⟩
    · rw [hsame]
      exact hout
    · rw [happ]
      refine hout.concat fun o ho hstream hreg => ?_
      have hzero : o.mask &&& decl.mask = 0 := by
        by_contra hne
        exact hnew o ho ⟨hstream.trans hrep.stream, hreg.trans hrep.reg, .inl hne⟩
      rw [hmask, ← BitVec.and_assoc, hzero]
      exact BitVec.zero_and
  · rw [addDeclEntry_full hroom]
    exact hout

theorem mem_addDeclEntry {e : TritonSigEntry} (he : e ∈ out) : e ∈ addDeclEntry ddi out decl := by
  by_cases hroom : out.length < TRITON_DXBC_MAX_SIG_ENTRIES
  · rcases addDeclEntry_cases ddi decl hroom with ⟨hsame, -⟩ | ⟨e, happ, -⟩
    · rw [hsame]
      exact he
    · rw [happ]
      exact List.mem_append_left _ he
  · rw [addDeclEntry_full hroom]
    exact he

/-- A synthesised entry is none of those before it. -/
theorem count_addDeclEntry {e : TritonSigEntry} (he : e ∈ out) :
    (addDeclEntry ddi out decl).count e = out.count e := by
  by_cases hroom : out.length < TRITON_DXBC_MAX_SIG_ENTRIES
  · rcases addDeclEntry_cases ddi decl hroom with
      ⟨hsame, -⟩ | ⟨new, happ, hrep, -, hnew⟩
    · rw [hsame]
    · have hne : ¬new = e := fun heq => hnew e he (heq ▸ hrep)
      rw [happ, List.count_append, List.count_singleton, if_neg (fun h => hne (beq_iff_eq.mp h)),
        Nat.add_zero]
  · rw [addDeclEntry_full hroom]

end

section

variable {ddi : List DdiSig} {out : List TritonSigEntry}

theorem foldl_addDeclEntry_disjoint (hout : DisjointEntries out) (pDecl : List TritonDeclSig) :
    DisjointEntries (pDecl.foldl (addDeclEntry ddi) out) := by
  induction pDecl generalizing out with
  | nil => exact hout
  | cons decl pDecl ih => exact ih (addDeclEntry_disjoint hout)

theorem mem_foldl_addDeclEntry {e : TritonSigEntry} (he : e ∈ out) (pDecl : List TritonDeclSig) :
    e ∈ pDecl.foldl (addDeclEntry ddi) out := by
  induction pDecl generalizing out with
  | nil => exact he
  | cons decl pDecl ih => exact ih (mem_addDeclEntry he)

theorem count_foldl_addDeclEntry {e : TritonSigEntry} (he : e ∈ out)
    (pDecl : List TritonDeclSig) :
    (pDecl.foldl (addDeclEntry ddi) out).count e = out.count e := by
  induction pDecl generalizing out with
  | nil => rfl
  | cons decl pDecl ih =>
      rw [List.foldl_cons, ih (mem_addDeclEntry he), count_addDeclEntry he]

variable (ddi out) in
/-- While there is room every declaration is represented in the end. -/
theorem foldl_addDeclEntry_complete (pDecl : List TritonDeclSig)
    (hroom : out.length + pDecl.length ≤ TRITON_DXBC_MAX_SIG_ENTRIES) :
    ∀ decl ∈ pDecl, ∃ e ∈ pDecl.foldl (addDeclEntry ddi) out, Represents e decl := by
  induction pDecl generalizing out with
  | nil => exact fun decl hdecl => absurd hdecl List.not_mem_nil
  | cons decl pDecl ih =>
      rw [List.length_cons] at hroom
      have hcases := addDeclEntry_cases ddi decl
        (show out.length < TRITON_DXBC_MAX_SIG_ENTRIES by omega)
      have hlength : (addDeclEntry ddi out decl).length ≤ out.length + 1 := by
        rcases hcases with ⟨hsame, -⟩ | ⟨e, happ, -⟩
        · rw [hsame]
          exact Nat.le_succ _
        · rw [happ, List.length_append, List.length_singleton]
      have hhead : ∃ e ∈ addDeclEntry ddi out decl, Represents e decl := by
        rcases hcases with ⟨hsame, hrep⟩ | ⟨e, happ, hrep, -⟩
        · rw [hsame]
          exact hrep
        · rw [happ]
          exact ⟨e, List.mem_append_right _ (List.mem_singleton_self e), hrep⟩
      intro decl' hdecl'
      rcases List.mem_cons.mp hdecl' with heq | hrest
      · obtain ⟨e, he, hrep⟩ := hhead
        exact ⟨e, mem_foldl_addDeclEntry he pDecl, heq ▸ hrep⟩
      · exact ih (addDeclEntry ddi out decl) (by omega) decl' hrest

end

-- ============================================================================
-- The whole collection
-- ============================================================================

/-- What is collected from the elements of the DDI and the declarations. -/
structure Collects (ddi : List DdiSig) (pDecl : List TritonDeclSig) (cStream : UINT)
    (entries : List TritonSigEntry) : Prop where
  complete : ∀ decl ∈ pDecl, ∃ e ∈ entries, Represents e decl
  once : ¬1#32 < cStream → ∀ d ∈ ddi,
    entries.count d.entry = (ddi.map DdiSig.entry).count d.entry
  disjoint : 1#32 < cStream ∨ DisjointEntries (ddi.map DdiSig.entry) → DisjointEntries entries
  sorted : StableSort sigKey
    (pDecl.foldl (addDeclEntry ddi) (ddi.foldl (addDdiEntry pDecl cStream) [])) entries

/-- `tritonCollectSigEntries` is complete, disjoint and sorted. -/
theorem tritonCollectSigEntries_collects (pDdi : List DdiEntry) (stride : UINT)
    (pDecl : List TritonDeclSig) (cStream : UINT)
    (hcount : pDdi.length + pDecl.length ≤ TRITON_DXBC_MAX_SIG_ENTRIES) :
    Collects (pDdi.map (readDdiSig stride)) pDecl cStream
      (tritonCollectSigEntries pDdi stride pDecl cStream) := by
  have hsort : StableSort sigKey
      (pDecl.foldl (addDeclEntry (pDdi.map (readDdiSig stride)))
        ((pDdi.map (readDdiSig stride)).foldl (addDdiEntry pDecl cStream) []))
      (tritonCollectSigEntries pDdi stride pDecl cStream) := by
    rw [tritonCollectSigEntries, List.take_of_length_le (by omega)]
    exact sortSigEntries_stable _
  generalize hddi : pDdi.map (readDdiSig stride) = ddi at hsort
  have hlength : ddi.length = pDdi.length := by
    rw [← hddi, List.length_map]
  refine ⟨fun decl hdecl => ?_, fun hsingle d hd => ?_, fun hdisjoint => ?_, hsort⟩
  · have hkept := length_foldl_addDdiEntry_le pDecl cStream ddi []
    rw [List.length_nil] at hkept
    obtain ⟨e, he, hrep⟩ := foldl_addDeclEntry_complete ddi
      (ddi.foldl (addDdiEntry pDecl cStream) []) pDecl (by omega) decl hdecl
    exact ⟨e, hsort.mem_iff.mpr he, hrep⟩
  · rw [hsort.perm.count_eq, foldl_addDdiEntry_single hsingle, List.nil_append]
    exact count_foldl_addDeclEntry (List.mem_map_of_mem hd) pDecl
  · refine (foldl_addDeclEntry_disjoint ?_ pDecl).of_perm hsort.perm
    rcases Decidable.em (1#32 < cStream) with hmany | hsingle
    · exact foldl_addDdiEntry_disjoint hmany List.Pairwise.nil ddi
    · rw [foldl_addDdiEntry_single hsingle]
      exact hdisjoint.resolve_left hsingle

/-- A declared element of a register. -/
def declSig (reg mask stream : UINT) : TritonDeclSig where
  reg := reg
  mask := mask
  sysval := 0
  stream := stream

/-- A DDI element of a register in stream 0. -/
def ddiEntry (reg : UINT) (mask : Byte) : DdiEntry where
  systemValue := 0
  registerIdx := reg
  mask := mask

/-- Two elements packed into a register that a second stream has whole. -/
theorem tritonCollectSigEntries_collects_packed :
    Collects ([ddiEntry 0 0x3, ddiEntry 0 0xC, ddiEntry 0 0xF].map (readDdiSig 20))
      [declSig 0 0x3 0, declSig 0 0xC 0, declSig 0 0xF 1] 2
      (tritonCollectSigEntries [ddiEntry 0 0x3, ddiEntry 0 0xC, ddiEntry 0 0xF] 20
        [declSig 0 0x3 0, declSig 0 0xC 0, declSig 0 0xF 1] 2) :=
  tritonCollectSigEntries_collects _ 20 _ 2 (by decide)

end VirtioWddm
