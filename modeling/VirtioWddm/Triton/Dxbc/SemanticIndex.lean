/-
  VirtioWddm.Triton.Dxbc.SemanticIndex

  No two entries of a stream get the same name and index.

  An ATTRIB with a register is numbered by its location, any other entry by the entries
  of its name and stream before it, so that two entries of one name are both numbered
  the one way or both the other.
-/

import VirtioWddm.Triton.Dxbc.Collection
import VirtioWddm.Triton.Dxbc.Linkage

namespace VirtioWddm

/-- Entries before resolution at locations of their own: no two share a component, and
    what has no register has another name than ATTRIB. -/
structure DistinctLocations (entries : List TritonSigEntry) : Prop where
  length : entries.length < 2 ^ 32
  unresolved : ∀ e ∈ entries, e.semIdx = 0xFFFFFFFF#32
  mask : AllMasked entries
  disjoint : DisjointEntries entries
  reg : ∀ e ∈ entries, e.reg.toNat < 2 ^ 30 ∨ e.reg = 0xFFFFFFFF#32
  named : ∀ e ∈ entries, e.reg = 0xFFFFFFFF#32 → tableName e ≠ attribName

/-- No two entries of a stream have the same name and index. -/
def UniqueSemantics (entries : List TritonSigEntry) : Prop :=
  entries.Pairwise fun a b => a.stream = b.stream → ¬(a.name = b.name ∧ a.semIdx = b.semIdx)

-- ============================================================================
-- Locations
-- ============================================================================

theorem tritonFirstComp_lt (mask : UINT) : (tritonFirstComp mask).toNat < 4 := by
  unfold tritonFirstComp
  split
  case isTrue => decide
  case isFalse =>
    split
    case isTrue => decide
    case isFalse =>
      split
      case isTrue => decide
      case isFalse =>
        split
        case isTrue => decide
        case isFalse => decide

/-- A location determines its register and component. -/
theorem location_inj {reg reg' comp comp' : UINT} (hreg : reg.toNat < 2 ^ 30)
    (hreg' : reg'.toNat < 2 ^ 30) (hcomp : comp.toNat < 4) (hcomp' : comp'.toNat < 4)
    (h : reg * 4#32 + comp = reg' * 4#32 + comp') : reg = reg' ∧ comp = comp' := by
  have hnat := congrArg BitVec.toNat h
  simp only [BitVec.toNat_add, BitVec.toNat_mul, BitVec.toNat_ofNat] at hnat
  constructor
  · apply BitVec.eq_of_toNat_eq
    omega
  · apply BitVec.eq_of_toNat_eq
    omega

/-- Two entries of a stream with registers lie at different locations. -/
theorem location_ne {a b : TritonSigEntry} (hmask : a.mask &&& 0x0F#32 ≠ 0)
    (hmask' : b.mask &&& 0x0F#32 ≠ 0) (hreg : a.reg.toNat < 2 ^ 30) (hreg' : b.reg.toNat < 2 ^ 30)
    (hdisjoint : a.reg = b.reg → a.mask &&& b.mask = 0) :
    a.reg * 4#32 + tritonFirstComp a.mask ≠ b.reg * 4#32 + tritonFirstComp b.mask := by
  intro heq
  obtain ⟨hsame, hcomp⟩ :=
    location_inj hreg hreg' (tritonFirstComp_lt a.mask) (tritonFirstComp_lt b.mask) heq
  exact tritonFirstComp_ne hmask hmask' (hdisjoint hsame) hcomp

-- ============================================================================
-- Counts
-- ============================================================================

/-- Of two entries that are counted, the later one is counted with the earlier one
    before it. -/
theorem countP_take_lt {α : Type*} {l : List α} {i j : Nat} (hij : i < j) {a : α}
    (ha : l[i]? = some a) {q : α → Bool} (hq : q a = true) :
    (l.take i).countP q < (l.take j).countP q := by
  obtain ⟨hi, rfl⟩ := List.getElem?_eq_some_iff.mp ha
  have hprefix : (l.take (i + 1)).Sublist (l.take j) :=
    (List.take_prefix_take_left (by omega)).sublist
  have hcount := hprefix.countP_le (p := q)
  rw [List.take_succ_eq_append_getElem hi, List.countP_append, List.countP_singleton,
    if_pos hq] at hcount
  omega

-- ============================================================================
-- Uniqueness
-- ============================================================================

section

variable {blobType progType : UINT} {entries : List TritonSigEntry}

/-- Two entries of a stream and name get different indices. -/
theorem assign_semIdx_ne (htable : ¬(blobType = DXBC_BLOB_TYPE_OSGN ∧ progType = PROG_PS))
    (h : DistinctLocations entries) (scan : TritonShdrScan) {i j : Nat} (hij : i < j)
    {a b a' b' : TritonSigEntry} (ha : entries[i]? = some a) (hb : entries[j]? = some b)
    (ha' : (tritonAssignSemantics entries blobType progType scan)[i]? = some a')
    (hb' : (tritonAssignSemantics entries blobType progType scan)[j]? = some b')
    (hstream : a'.stream = b'.stream) (hname : a'.name = b'.name) : a'.semIdx ≠ b'.semIdx := by
  have hmem := List.mem_of_getElem? ha
  have hmem' := List.mem_of_getElem? hb
  obtain ⟨hstreamA, hnameA, hidxA⟩ :=
    assign_at htable scan ha (h.unresolved a hmem) (fun heq hreg => h.named a hmem hreg heq) ha'
  obtain ⟨hstreamB, hnameB, hidxB⟩ :=
    assign_at htable scan hb (h.unresolved b hmem') (fun heq hreg => h.named b hmem' hreg heq) hb'
  have hstream : a.stream = b.stream := hstreamA.symm.trans (hstream.trans hstreamB)
  have hname : tableName a = tableName b := hnameA.symm.trans (hname.trans hnameB)
  rw [hidxA, hidxB, ← hname, ← hstream]
  by_cases hattrib : tableName a = attribName
  · -- both are numbered by their locations
    have hregA := (h.reg a hmem).resolve_right fun hreg => h.named a hmem hreg hattrib
    have hregB := (h.reg b hmem').resolve_right fun hreg =>
      h.named b hmem' hreg (hname.symm.trans hattrib)
    rw [if_pos hattrib, if_pos hattrib]
    obtain ⟨hi, rfl⟩ := List.getElem?_eq_some_iff.mp ha
    obtain ⟨hj, rfl⟩ := List.getElem?_eq_some_iff.mp hb
    exact location_ne (h.mask _ hmem) (h.mask _ hmem') hregA hregB
      (List.pairwise_iff_getElem.mp h.disjoint i j hi hj hij hstream)
  · -- both are counted
    rw [if_neg hattrib, if_neg hattrib]
    have hlt := countP_take_lt hij ha
      (q := fun o => o.stream == a.stream && tableName o == tableName a)
      (by rw [BEq.rfl, BEq.rfl]; rfl)
    have hle := (entries.take j).countP_le_length
      (p := fun o => o.stream == a.stream && tableName o == tableName a)
    have hlength := h.length
    rw [List.length_take] at hle
    intro heq
    have hnat := congrArg BitVec.toNat heq
    rw [BitVec.toNat_ofNat, BitVec.toNat_ofNat, Nat.mod_eq_of_lt (by omega),
      Nat.mod_eq_of_lt (by omega)] at hnat
    omega

/-- Outside pixel-shader outputs resolution keeps the number of entries. -/
theorem length_tritonAssignSemantics_table (entries : List TritonSigEntry)
    (htable : ¬(blobType = DXBC_BLOB_TYPE_OSGN ∧ progType = PROG_PS)) (scan : TritonShdrScan) :
    (tritonAssignSemantics entries blobType progType scan).length = entries.length := by
  rw [tritonAssignSemantics_table htable, length_numberEntries, List.length_map]

/-- Semantics are unique in every signature other than a pixel shader's output whose
    entries have locations of their own. -/
theorem tritonAssignSemantics_unique
    (htable : ¬(blobType = DXBC_BLOB_TYPE_OSGN ∧ progType = PROG_PS))
    (h : DistinctLocations entries) (scan : TritonShdrScan) :
    UniqueSemantics (tritonAssignSemantics entries blobType progType scan) := by
  rw [UniqueSemantics, List.pairwise_iff_getElem]
  intro i j hi hj hij hstream hboth
  have hlength := length_tritonAssignSemantics_table entries htable scan
  have ha := List.getElem?_eq_getElem (show i < entries.length by omega)
  have hb := List.getElem?_eq_getElem (show j < entries.length by omega)
  exact assign_semIdx_ne htable h scan hij ha hb (List.getElem?_eq_getElem hi)
    (List.getElem?_eq_getElem hj) hstream hboth.1 hboth.2

/-- Packed attributes, two clip distances and a register-less primitive id, with another
    position in a second stream. -/
theorem tritonAssignSemantics_unique_packed :
    UniqueSemantics (tritonAssignSemantics
      [unresolvedEntry 1 0 0xF, unresolvedEntry 0 1 0x3, unresolvedEntry 0 1 0xC,
        unresolvedEntry 2 2 0xF, unresolvedEntry 2 3 0xF, unresolvedEntry 7 0xFFFFFFFF 0x1,
        { unresolvedEntry 1 0 0xF with stream := 1 }]
      DXBC_BLOB_TYPE_OSGN PROG_GS {}) := by
  apply tritonAssignSemantics_unique (by decide)
  refine ⟨by decide, by decide, ?_, ?_, by decide, by decide⟩
  · unfold AllMasked
    decide
  · unfold DisjointEntries
    decide

end

end VirtioWddm
