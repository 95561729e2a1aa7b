/-
  VirtioWddm.Triton.Dxbc.Reconcile

  `tritonReconcileVsInputSig`: a copy of a vertex shader's container whose input
  signature has the component types of the vertex formats.

  The container may hold any bytes.  `none` is a read or a write outside the
  container, the copy or the table of types; where the code returns NULL the result
  is `some none`.

  The search leaves `InputSigAt`: where the elements are and that they end inside the
  container.  The loop over the elements writes one DWORD of each; the elements are
  `cbEntry` bytes apart, so a write changes no other element, and none is in the
  header, because a chunk's tag cannot overlap the magic.
-/

import VirtioWddm.Triton.Dxbc.Parse
import VirtioWddm.Triton.Dxbc.Writer

namespace VirtioWddm

open Lib

-- ============================================================================
-- The code
-- ============================================================================

/-- `sizeof(DXBCHeader)`. -/
def sizeofDXBCHeader : Nat := 36

/-- The tags of an input signature. -/
def IsInputTag (tag : UINT) : Prop :=
  tag = DXBC_BLOB_TYPE_ISGN ∨ tag = DXBC_BLOB_TYPE_ISG1

instance (tag : UINT) : Decidable (IsInputTag tag) :=
  inferInstanceAs (Decidable (_ ∨ _))

/-- The loop over the blobs, with `n` left from the `i`-th on: the offset and the tag of
    the first input signature. -/
def findIsgn (p : List Byte) (cbTotal : UINT) : Nat → Nat → Option (Option (UINT × UINT))
  | 0, _ => some none
  | n + 1, i => do
      let off ← wordAt? p (0x20 + 4 * i)
      if cbTotal.toNat < off.toNat + 8 then findIsgn p cbTotal n (i + 1)
      else do
        let tag ← wordAt? p off.toNat
        if IsInputTag tag then some (some (off, tag)) else findIsgn p cbTotal n (i + 1)

/-- `offBase`: the DWORD of the stream comes first. -/
def SigBlobLayout.offBase (layout : SigBlobLayout) : Nat :=
  if layout.fStream then 4 else 0

/-- The body of the loop over the elements, for the one whose DWORDs behind the stream
    start at `e`; the flag is set when the copy changes. -/
def retypeElement (compReg : List Byte) (pCopy : List Byte) (e : Nat) :
    Option (List Byte × Bool) := do
  let reg ← wordAt? pCopy (e + 16)
  if 32#32 ≤ reg then return (pCopy, false)
  else do
    let want ← compReg[reg.toNat]?
    if want = 0 then return (pCopy, false)
    else do
      let compType ← wordAt? pCopy (e + 12)
      if compType ≠ want.setWidth 32 then
        return (patch pCopy (e + 12) (leBytes (want.setWidth 32)), true)
      else return (pCopy, false)

/-- The loop over the elements, with `n` left; `e` is where the next one's DWORDs
    start. -/
def retypeElements (compReg : List Byte) (cbEntry : Nat) :
    Nat → Nat → List Byte → Bool → Option (List Byte × Bool)
  | 0, _, pCopy, changed => some (pCopy, changed)
  | n + 1, e, pCopy, changed => do
      let (pCopy, c) ← retypeElement compReg pCopy e
      retypeElements compReg cbEntry n (e + cbEntry) pCopy (changed || c)

/-- The end of the function: the copy is retyped and hashed. -/
def retypeCopy (heap : DxbcHeap) (p : List Byte) (cbTotal : UINT) (compReg : List Byte)
    (layout : SigBlobLayout) (offElems : Nat) (cElement : UINT) :
    Option (Option (List Byte × UINT)) :=
  match heap.buffer with
  | none => some none
  | some addr => do
      let pCopy ← bytesAt p 0 cbTotal.toNat
      let (pCopy, changed) ← retypeElements compReg layout.cbEntry cElement.toNat
        (offElems + layout.offBase) pCopy false
      if changed = false then return none
      else do
        let cbTotal ← wordAt? pCopy 0x18
        let data ← bytesAt pCopy 0x14 (cbTotal - 0x14#32).toNat
        let hash := dxbcHash (addr + 0x14) heap.stack data (cbTotal - 0x14#32)
        return some (patch pCopy 4 hash, cbTotal)

/-- `tritonReconcileVsInputSig`: the copy and `*pcbOut`. -/
def tritonReconcileVsInputSig (heap : DxbcHeap) (p : List Byte) (cbDxbc : Nat)
    (compReg : List Byte) : Option (Option (List Byte × UINT)) :=
  if cbDxbc < sizeofDXBCHeader then some none
  else do
    let u32DXBC ← wordAt? p 0
    if u32DXBC ≠ DXBC_MAGIC then some none
    else do
      let cbTotal ← wordAt? p 0x18
      if cbDxbc < cbTotal.toNat then some none
      else do
        let cBlob ← wordAt? p 0x1C
        if cbTotal.toNat < 0x20 + cBlob.toNat * 4 then some none
        else do
          match ← findIsgn p cbTotal cBlob.toNat 0 with
          | none => some none
          | some (offIsgn, tag) =>
              if offIsgn = 0 then some none
              else
                let layout := tritonSigBlobLayout tag
                let offElems := offIsgn.toNat + 8 + 8
                if cbTotal.toNat < offElems then some none
                else do
                  let cElement ← wordAt? p (offIsgn.toNat + 8)
                  if cbTotal.toNat < offElems + cElement.toNat * layout.cbEntry then some none
                  else retypeCopy heap p cbTotal compReg layout offElems cElement

-- ============================================================================
-- What it is for
-- ============================================================================

/-- The component type an element should have: the one of its register, if there is one,
    and else the one it has. -/
def wantedType (compReg : List Byte) (reg compType : UINT) : UINT :=
  if reg.toNat < 32 ∧ compReg.getD reg.toNat 0 ≠ 0 then
    (compReg.getD reg.toNat 0).setWidth 32
  else compType

theorem wantedType_keep {compReg : List Byte} {reg compType : UINT}
    (h : ¬(reg.toNat < 32 ∧ compReg.getD reg.toNat 0 ≠ 0)) :
    wantedType compReg reg compType = compType :=
  if_neg h

theorem wantedType_set {compReg : List Byte} {reg compType : UINT}
    (h : reg.toNat < 32 ∧ compReg.getD reg.toNat 0 ≠ 0) :
    wantedType compReg reg compType = (compReg.getD reg.toNat 0).setWidth 32 :=
  if_pos h

/-- The input signature of a container: the chunk's offset and tag, and the number of
    elements. -/
structure InputSig where
  cbTotal : UINT
  off : UINT
  tag : UINT
  cElement : UINT
deriving DecidableEq

namespace InputSig

def layout (s : InputSig) : SigBlobLayout :=
  tritonSigBlobLayout s.tag

/-- Where the DWORDs of the `i`-th element start, behind its stream. -/
def element (s : InputSig) (i : Nat) : Nat :=
  s.off.toNat + 16 + s.layout.offBase + i * s.layout.cbEntry

end InputSig

/-- The `i`-th offset of the header leads to an input signature. -/
def InputChunkAt (p : List Byte) (cbTotal : UINT) (i : Nat) (off tag : UINT) : Prop :=
  wordAt? p (0x20 + 4 * i) = some off ∧ off.toNat + 8 ≤ cbTotal.toNat ∧
    wordAt? p off.toNat = some tag ∧ IsInputTag tag

/-- The container's first input signature is `s`, and ends inside the container. -/
structure InputSigAt (p : List Byte) (cbDxbc : Nat) (s : InputSig) : Prop where
  header : sizeofDXBCHeader ≤ cbDxbc
  magic : wordAt? p 0 = some DXBC_MAGIC
  total : wordAt? p 0x18 = some s.cbTotal
  fits : s.cbTotal.toNat ≤ cbDxbc
  chunk : ∃ cBlob i, wordAt? p 0x1C = some cBlob ∧ 0x20 + 4 * cBlob.toNat ≤ s.cbTotal.toNat ∧
    i < cBlob.toNat ∧ InputChunkAt p s.cbTotal i s.off s.tag ∧
    ∀ j, j < i → ¬∃ off tag, InputChunkAt p s.cbTotal j off tag
  count : wordAt? p (s.off.toNat + 8) = some s.cElement
  elements : s.off.toNat + 16 + s.cElement.toNat * s.layout.cbEntry ≤ s.cbTotal.toNat

/-- The bytes of the component types of the elements. -/
def InputSig.TypeByte (s : InputSig) (k : Nat) : Prop :=
  ∃ i, i < s.cElement.toNat ∧ s.element i + 12 ≤ k ∧ k < s.element i + 16

/-- Every element has the type it should have. -/
def InputSig.Typed (s : InputSig) (compReg : List Byte) (p : List Byte) : Prop :=
  ∀ i, i < s.cElement.toNat → ∃ reg compType, wordAt? p (s.element i + 16) = some reg ∧
    wordAt? p (s.element i + 12) = some compType ∧ wantedType compReg reg compType = compType

/-- `out` is the container with the types of the elements corrected, and hashed
    again. -/
structure RetypedSig (heap : DxbcHeap) (compReg : List Byte) (p : List Byte) (s : InputSig)
    (out : List Byte) : Prop where
  length : out.length = s.cbTotal.toNat
  header : ∀ k, k < 0x20 → ¬(4 ≤ k ∧ k < 20) → out[k]? = p[k]?
  frame : ∀ k, 20 ≤ k → k < s.cbTotal.toNat → ¬s.TypeByte k → out[k]? = p[k]?
  types : ∀ i, i < s.cElement.toNat → ∃ reg compType,
    wordAt? p (s.element i + 16) = some reg ∧ wordAt? p (s.element i + 12) = some compType ∧
    wordAt? out (s.element i + 16) = some reg ∧
    wordAt? out (s.element i + 12) = some (wantedType compReg reg compType)
  hash : ∃ addr, heap.buffer = some addr ∧
    bytesAt out 4 16 =
      some (dxbcHash (addr + 0x14) heap.stack (out.drop 0x14) (s.cbTotal - 0x14#32))

-- ============================================================================
-- The search
-- ============================================================================

/-- Whatever the header says, the search reads inside the container and finds the first
    input signature.  The induction is on the blobs that are left. -/
theorem findIsgn_spec {p : List Byte} {cbTotal : UINT} (hmem : cbTotal.toNat ≤ p.length)
    (n i : Nat) (hle : 0x20 + 4 * (i + n) ≤ cbTotal.toNat) :
    (findIsgn p cbTotal n i = some none ∧
        ∀ j, i ≤ j → j < i + n → ¬∃ off tag, InputChunkAt p cbTotal j off tag) ∨
      ∃ off tag j, findIsgn p cbTotal n i = some (some (off, tag)) ∧ i ≤ j ∧ j < i + n ∧
        InputChunkAt p cbTotal j off tag ∧
        ∀ k, i ≤ k → k < j → ¬∃ off tag, InputChunkAt p cbTotal k off tag := by
  induction n generalizing i with
  | zero => exact .inl ⟨rfl, fun j hj hlt => absurd hlt (by omega)⟩
  | succ n ih =>
      obtain ⟨off, hoff⟩ := exists_wordAt? p (0x20 + 4 * i) (by omega)
      -- a blob that is no input signature is passed
      have hpass : (¬∃ off tag, InputChunkAt p cbTotal i off tag) →
          findIsgn p cbTotal (n + 1) i = findIsgn p cbTotal n (i + 1) →
          (findIsgn p cbTotal (n + 1) i = some none ∧
            ∀ j, i ≤ j → j < i + (n + 1) → ¬∃ off tag, InputChunkAt p cbTotal j off tag) ∨
          ∃ off tag j, findIsgn p cbTotal (n + 1) i = some (some (off, tag)) ∧ i ≤ j ∧
            j < i + (n + 1) ∧ InputChunkAt p cbTotal j off tag ∧
            ∀ k, i ≤ k → k < j → ¬∃ off tag, InputChunkAt p cbTotal k off tag := by
        intro hnot heq
        rw [heq]
        rcases ih (i := i + 1) (by omega) with
          ⟨hnone, hall⟩ | ⟨off, tag, j, hsome, hj, hlt, hat, hall⟩
        · refine .inl ⟨hnone, fun j hj hlt => ?_⟩
          rcases Nat.eq_or_lt_of_le hj with rfl | hj
          · exact hnot
          · exact hall j hj (by omega)
        · refine .inr ⟨off, tag, j, hsome, by omega, by omega, hat, fun k hk hkj => ?_⟩
          rcases Nat.eq_or_lt_of_le hk with rfl | hk
          · exact hnot
          · exact hall k hk hkj
      by_cases hend : cbTotal.toNat < off.toNat + 8
      · apply hpass
        · rintro ⟨off', tag, hoff', hin, -⟩
          rw [hoff] at hoff'
          cases hoff'
          omega
        · rw [findIsgn, hoff]
          dsimp only [bind, Option.bind]
          rw [if_pos hend]
      · obtain ⟨tag, htag⟩ := exists_wordAt? p off.toNat (by omega)
        by_cases hinput : IsInputTag tag
        · refine .inr ⟨off, tag, i, ?_, Nat.le_refl i, by omega,
            ⟨hoff, by omega, htag, hinput⟩, fun k hk hki => absurd hki (by omega)⟩
          rw [findIsgn, hoff]
          dsimp only [bind, Option.bind]
          rw [if_neg hend, htag]
          dsimp only
          rw [if_pos hinput]
        · apply hpass
          · rintro ⟨off', tag', hoff', -, htag', hinput'⟩
            rw [hoff] at hoff'
            cases hoff'
            rw [htag] at htag'
            cases htag'
            exact hinput hinput'
          · rw [findIsgn, hoff]
            dsimp only [bind, Option.bind]
            rw [if_neg hend, htag]
            dsimp only
            rw [if_neg hinput]

/-- The first byte of the tag of an input signature. -/
theorem IsInputTag.firstByte {tag : UINT} (h : IsInputTag tag) : (leBytes tag)[0]? = some 0x49 := by
  rcases h with rfl | rfl
  · rfl
  · rfl

/-- A chunk behind the magic starts behind its four bytes: the tag begins with another
    letter than those of the magic. -/
theorem InputChunkAt.four_le {p : List Byte} {cbTotal off tag : UINT} {i : Nat}
    (h : InputChunkAt p cbTotal i off tag) (hmagic : wordAt? p 0 = some DXBC_MAGIC)
    (hoff : off ≠ 0) : 4 ≤ off.toNat := by
  obtain ⟨-, -, htag, hinput⟩ := h
  have hfirst := getElem?_of_bytesAt (bytesAt_of_wordAt? htag) (k := 0) (by decide)
  rw [hinput.firstByte, Nat.add_zero] at hfirst
  have hletter : ∀ k, k < 4 → p[k]? = (leBytes DXBC_MAGIC)[k]? := by
    intro k hk
    have hk' := getElem?_of_bytesAt (bytesAt_of_wordAt? hmagic) hk
    rw [Nat.zero_add] at hk'
    exact hk'
  apply Nat.le_of_not_lt
  intro hlt
  have hne : off.toNat ≠ 0 := fun hzero => hoff (BitVec.eq_of_toNat_eq hzero)
  rw [hletter _ hlt] at hfirst
  match off.toNat, hlt, hne, hfirst with
  | 0, _, hne, _ => exact hne rfl
  | 1, _, _, hfirst | 2, _, _, hfirst | 3, _, _, hfirst => exact absurd hfirst (by decide)

-- ============================================================================
-- The elements
-- ============================================================================

section Elements

variable {compReg : List Byte} {pCopy : List Byte} {e : Nat}

theorem offBase_le (tag : UINT) :
    (tritonSigBlobLayout tag).offBase + 20 ≤ (tritonSigBlobLayout tag).cbEntry := by
  rw [tritonSigBlobLayout]
  split
  case isTrue => decide
  case isFalse =>
    split
    case isTrue => decide
    case isFalse => decide

/-- An element inside the copy is given the type it should have. -/
theorem retypeElement_eq (hreg : compReg.length = 32) (hin : e + 20 ≤ pCopy.length) :
    ∃ reg compType, wordAt? pCopy (e + 16) = some reg ∧ wordAt? pCopy (e + 12) = some compType ∧
      retypeElement compReg pCopy e =
        some (if wantedType compReg reg compType = compType then (pCopy, false)
          else (patch pCopy (e + 12) (leBytes (wantedType compReg reg compType)), true)) := by
  obtain ⟨reg, hregAt⟩ := exists_wordAt? pCopy (e + 16) (by omega)
  obtain ⟨compType, htypeAt⟩ := exists_wordAt? pCopy (e + 12) (by omega)
  refine ⟨reg, compType, hregAt, htypeAt, ?_⟩
  rw [retypeElement, hregAt]
  dsimp only [bind, Option.bind]
  by_cases hlarge : 32#32 ≤ reg
  · have hnot : ¬reg.toNat < 32 := Nat.not_lt.mpr hlarge
    rw [if_pos hlarge, if_pos (wantedType_keep fun h => hnot h.1)]
    rfl
  · have hlt : reg.toNat < 32 := Nat.not_le.mp hlarge
    have hget : compReg[reg.toNat]? = some (compReg.getD reg.toNat 0) := by
      rw [List.getD_eq_getElem?_getD, List.getElem?_eq_getElem (by omega)]
      rfl
    rw [if_neg hlarge, hget]
    dsimp only
    by_cases hzero : compReg.getD reg.toNat 0 = 0
    · rw [if_pos hzero, if_pos (wantedType_keep fun h => h.2 hzero)]
      rfl
    · rw [if_neg hzero, htypeAt, wantedType_set ⟨hlt, hzero⟩]
      dsimp only
      by_cases hsame : compType = (compReg.getD reg.toNat 0).setWidth 32
      · rw [if_neg (not_not.mpr hsame), if_pos hsame.symm]
        rfl
      · rw [if_pos hsame, if_neg (Ne.symm hsame)]
        rfl

/-- What the loop over `n` elements, the first at `e`, does to the copy. -/
structure Retypes (compReg : List Byte) (cbEntry n e : Nat) (pCopy pCopy' : List Byte)
    (changed : Bool) : Prop where
  length : pCopy'.length = pCopy.length
  frame : ∀ k, (∀ i, i < n → ¬(e + i * cbEntry + 12 ≤ k ∧ k < e + i * cbEntry + 16)) →
    pCopy'[k]? = pCopy[k]?
  types : ∀ i, i < n → ∃ reg compType,
    wordAt? pCopy (e + i * cbEntry + 16) = some reg ∧
    wordAt? pCopy (e + i * cbEntry + 12) = some compType ∧
    wordAt? pCopy' (e + i * cbEntry + 12) = some (wantedType compReg reg compType) ∧
    (changed = false → wantedType compReg reg compType = compType)
  changes : changed = true → ∃ i reg compType, i < n ∧
    wordAt? pCopy (e + i * cbEntry + 16) = some reg ∧
    wordAt? pCopy (e + i * cbEntry + 12) = some compType ∧
    wantedType compReg reg compType ≠ compType

/-- A word that none of the types is part of stays. -/
theorem Retypes.word {cbEntry n : Nat} {pCopy' : List Byte} {changed : Bool}
    (h : Retypes compReg cbEntry n e pCopy pCopy' changed) {off : Nat}
    (hout : ∀ i, i < n → off + 4 ≤ e + i * cbEntry + 12 ∨ e + i * cbEntry + 16 ≤ off) :
    wordAt? pCopy' off = wordAt? pCopy off := by
  apply wordAt?_congr
  intro k hk
  apply h.frame
  intro i hi
  have hi := hout i hi
  omega

/-- The step of the loop: the first element, then the others of the copy it leaves. -/
theorem Retypes.step {cbEntry n : Nat} {pCopy₁ pCopy' : List Byte} {changed : Bool}
    {reg compType : UINT} (hcb : 20 ≤ cbEntry) (hin : e + 20 ≤ pCopy.length)
    (hregAt : wordAt? pCopy (e + 16) = some reg) (htypeAt : wordAt? pCopy (e + 12) = some compType)
    (hcopy : pCopy₁ = if wantedType compReg reg compType = compType then pCopy
      else patch pCopy (e + 12) (leBytes (wantedType compReg reg compType)))
    (h : Retypes compReg cbEntry n (e + cbEntry) pCopy₁ pCopy' changed) :
    Retypes compReg cbEntry (n + 1) e pCopy pCopy'
      (decide (wantedType compReg reg compType ≠ compType) || changed) := by
  have hpatch : e + 12 + (leBytes (wantedType compReg reg compType)).length ≤ pCopy.length := by
    rw [length_leBytes]
    omega
  have hlength : pCopy₁.length = pCopy.length := by
    rw [hcopy]
    split
    case isTrue => rfl
    case isFalse => exact length_patch hpatch
  have hframe : ∀ k, ¬(e + 12 ≤ k ∧ k < e + 16) → pCopy₁[k]? = pCopy[k]? := by
    intro k hk
    rw [hcopy]
    split
    case isTrue => rfl
    case isFalse => rw [getElem?_patch hpatch, length_leBytes, if_neg (by omega)]
  have hword : ∀ off, off + 4 ≤ e + 12 ∨ e + 16 ≤ off → wordAt? pCopy₁ off = wordAt? pCopy off := by
    intro off hoff
    apply wordAt?_congr
    intro k hk
    exact hframe (off + k) (by omega)
  have htype : wordAt? pCopy₁ (e + 12) = some (wantedType compReg reg compType) := by
    rw [hcopy]
    split
    case isTrue hsame => rw [htypeAt, hsame]
    case isFalse => exact wordAt?_patch_self _ (by omega)
  have hnext : ∀ i, e + (i + 1) * cbEntry = e + cbEntry + i * cbEntry := by
    intro i
    rw [Nat.succ_mul]
    omega
  have hfirst : e + 0 * cbEntry = e := by
    rw [Nat.zero_mul, Nat.add_zero]
  refine ⟨h.length.trans hlength, ?_, ?_, ?_⟩
  · intro k hk
    have hk₀ := hk 0 (Nat.succ_pos n)
    rw [hfirst] at hk₀
    rw [h.frame k fun i hi => hnext i ▸ hk (i + 1) (Nat.succ_lt_succ hi)]
    exact hframe k hk₀
  · intro i hi
    cases i with
    | zero =>
        rw [hfirst]
        refine ⟨reg, compType, hregAt, htypeAt, ?_, fun hsame => ?_⟩
        · rw [h.word fun j _ => .inl (by omega), htype]
        · exact not_not.mp (of_decide_eq_false (Bool.or_eq_false_iff.mp hsame).1)
    | succ i =>
        rw [hnext]
        obtain ⟨reg', compType', hreg', htype', hnew, hkeep⟩ :=
          h.types i (Nat.lt_of_succ_lt_succ hi)
        rw [hword _ (by omega)] at hreg' htype'
        exact ⟨reg', compType', hreg', htype', hnew, fun hsame =>
          hkeep (Bool.or_eq_false_iff.mp hsame).2⟩
  · intro hchanged
    rcases Bool.or_eq_true_iff.mp hchanged with hdiff | hrest
    · refine ⟨0, reg, compType, Nat.succ_pos n, ?_⟩
      rw [hfirst]
      exact ⟨hregAt, htypeAt, of_decide_eq_true hdiff⟩
    · obtain ⟨i, reg', compType', hi, hreg', htype', hdiff⟩ := h.changes hrest
      rw [hword _ (by omega)] at hreg' htype'
      refine ⟨i + 1, reg', compType', Nat.succ_lt_succ hi, ?_⟩
      rw [hnext]
      exact ⟨hreg', htype', hdiff⟩

/-- The loop over elements inside the copy.  The induction is on the elements that are
    left. -/
theorem retypeElements_spec (hreg : compReg.length = 32) {cbEntry n : Nat} (hcb : 20 ≤ cbEntry)
    (changed : Bool) (hin : e + n * cbEntry + 20 ≤ pCopy.length + cbEntry) :
    ∃ pCopy' c, retypeElements compReg cbEntry n e pCopy changed = some (pCopy', changed || c) ∧
      Retypes compReg cbEntry n e pCopy pCopy' c := by
  induction n generalizing e pCopy changed with
  | zero =>
      refine ⟨pCopy, false, ?_, rfl, fun _ _ => rfl, fun i hi => absurd hi (Nat.not_lt_zero i),
        fun h => by cases h⟩
      rw [retypeElements, Bool.or_false]
  | succ n ih =>
      rw [Nat.succ_mul] at hin
      have hfirst : e + 20 ≤ pCopy.length := by omega
      obtain ⟨reg, compType, hregAt, htypeAt, hstep⟩ := retypeElement_eq hreg hfirst
      rw [retypeElements, hstep]
      by_cases hsame : wantedType compReg reg compType = compType
      · have hnext : e + cbEntry + n * cbEntry + 20 ≤ pCopy.length + cbEntry := by omega
        obtain ⟨pCopy', c, hloop, hrest⟩ := @ih _ _ (changed || false) hnext
        refine ⟨pCopy', _, ?_, Retypes.step hcb hfirst hregAt htypeAt (if_pos hsame).symm hrest⟩
        rw [Bool.or_false] at hloop
        rw [if_pos hsame, decide_eq_false (not_not.mpr hsame), Bool.false_or]
        show retypeElements compReg cbEntry n (e + cbEntry) pCopy (changed || false) = _
        rw [Bool.or_false]
        exact hloop
      · have hlength : (patch pCopy (e + 12)
            (leBytes (wantedType compReg reg compType))).length = pCopy.length :=
          length_patch (by rw [length_leBytes]; omega)
        have hnext : e + cbEntry + n * cbEntry + 20 ≤ (patch pCopy (e + 12)
            (leBytes (wantedType compReg reg compType))).length + cbEntry := by omega
        obtain ⟨pCopy', c, hloop, hrest⟩ := @ih _ _ (changed || true) hnext
        refine ⟨pCopy', _, ?_, Retypes.step hcb hfirst hregAt htypeAt (if_neg hsame).symm hrest⟩
        rw [if_neg hsame, decide_eq_true hsame, ← Bool.or_assoc]
        exact hloop

end Elements

-- ============================================================================
-- The function
-- ============================================================================

section Reconcile

variable {heap : DxbcHeap} {p : List Byte} {cbDxbc : Nat} {compReg : List Byte} {s : InputSig}

/-- The elements' types are behind the header. -/
theorem InputSigAt.element_ge (h : InputSigAt p cbDxbc s) (hoff : s.off ≠ 0) (i : Nat) :
    0x20 ≤ s.element i + 12 := by
  obtain ⟨cBlob, j, -, -, -, hat, -⟩ := h.chunk
  have hfour := hat.four_le h.magic hoff
  rw [InputSig.element]
  omega

theorem InputSig.element_eq (s : InputSig) (i : Nat) :
    s.element i = s.element 0 + i * s.layout.cbEntry := by
  rw [element, element]
  omega

/-- An element ends inside the container. -/
theorem InputSigAt.element_le (h : InputSigAt p cbDxbc s) {i : Nat} (hi : i < s.cElement.toNat) :
    s.element i + 20 ≤ s.cbTotal.toNat := by
  have helems := h.elements
  have hbase : s.layout.offBase + 20 ≤ s.layout.cbEntry := offBase_le s.tag
  have hmul := Nat.mul_le_mul_right s.layout.cbEntry (Nat.succ_le_of_lt hi)
  rw [Nat.succ_mul] at hmul
  rw [InputSig.element]
  omega

/-- The copy of the container. -/
structure CopyOf (p : List Byte) (n : Nat) (q : List Byte) : Prop where
  length : q.length = n
  bytes : ∀ k, k < n → q[k]? = p[k]?

theorem CopyOf.word {n : Nat} {q : List Byte} (h : CopyOf p n q) {off : Nat} (hin : off + 4 ≤ n) :
    wordAt? q off = wordAt? p off := by
  apply wordAt?_congr
  intro k hk
  exact h.bytes (off + k) (by omega)

theorem copyOf_bytesAt {n : Nat} (hmem : n ≤ p.length) :
    ∃ q, bytesAt p 0 n = some q ∧ CopyOf p n q := by
  refine ⟨p.take n, bytesAt_eq_some_iff.mpr ⟨by omega, by rw [List.drop_zero]⟩, ?_, ?_⟩
  · rw [List.length_take]
    omega
  · exact fun k hk => List.getElem?_take_of_lt hk

/-- The loop over the elements of a copy that leaves it as it is. -/
theorem Retypes.typed {q pCopy : List Byte} (h : InputSigAt p cbDxbc s)
    (hcopy : CopyOf p s.cbTotal.toNat q)
    (hretypes : Retypes compReg s.layout.cbEntry s.cElement.toNat (s.element 0) q pCopy false) :
    s.Typed compReg p := by
  intro i hi
  obtain ⟨reg, compType, hregAt, htypeAt, -, hsame⟩ := hretypes.types i hi
  have hle := h.element_le hi
  rw [← s.element_eq, hcopy.word (by omega)] at hregAt htypeAt
  exact ⟨reg, compType, hregAt, htypeAt, hsame rfl⟩

/-- The loop over the elements of a copy that changes one. -/
theorem Retypes.not_typed {q pCopy : List Byte} (h : InputSigAt p cbDxbc s)
    (hcopy : CopyOf p s.cbTotal.toNat q)
    (hretypes : Retypes compReg s.layout.cbEntry s.cElement.toNat (s.element 0) q pCopy true) :
    ¬s.Typed compReg p := by
  intro htyped
  obtain ⟨i, reg, compType, hi, hregAt, htypeAt, hdiff⟩ := hretypes.changes rfl
  obtain ⟨reg', compType', hregAt', htypeAt', hsame⟩ := htyped i hi
  have hle := h.element_le hi
  rw [← s.element_eq, hcopy.word (by omega)] at hregAt htypeAt
  rw [hregAt] at hregAt'
  rw [htypeAt] at htypeAt'
  cases hregAt'
  cases htypeAt'
  exact hdiff hsame

/-- What the loop leaves, with its hash. -/
theorem Retypes.retypedSig {q pCopy : List Byte} {changed : Bool} {addr : Nat}
    (hbuffer : heap.buffer = some addr) (h : InputSigAt p cbDxbc s) (hoff : s.off ≠ 0)
    (hcopy : CopyOf p s.cbTotal.toNat q)
    (hretypes : Retypes compReg s.layout.cbEntry s.cElement.toNat (s.element 0) q pCopy changed) :
    wordAt? pCopy 0x18 = some s.cbTotal ∧
      RetypedSig heap compReg p s (patch pCopy 4
        (dxbcHash (addr + 0x14) heap.stack (pCopy.drop 0x14) (s.cbTotal - 0x14#32))) := by
  obtain ⟨cBlob, -, -, hheader, -⟩ := h.chunk
  have hlen : pCopy.length = s.cbTotal.toNat := hretypes.length.trans hcopy.length
  have hbase : s.layout.offBase + 20 ≤ s.layout.cbEntry := offBase_le s.tag
  have hge := h.element_ge hoff
  have hhash := length_dxbcHash (addr + 0x14) heap.stack (pCopy.drop 0x14) (s.cbTotal - 0x14#32)
  have hpatch : 4 + (dxbcHash (addr + 0x14) heap.stack (pCopy.drop 0x14)
      (s.cbTotal - 0x14#32)).length ≤ pCopy.length := by
    rw [hhash, hlen]
    omega
  have hword : ∀ off, off + 4 ≤ 0x20 → wordAt? pCopy off = wordAt? p off := by
    intro off hlow
    rw [hretypes.word fun i _ => .inl (by rw [← s.element_eq]; have := hge i; omega),
      hcopy.word (by omega)]
  refine ⟨(hword 0x18 (by decide)).trans h.total, ?_, ?_, ?_, ?_, addr, hbuffer, ?_⟩
  · rw [length_patch hpatch, hlen]
  · intro k hk hout
    rw [getElem?_patch hpatch, hhash, if_neg hout, hretypes.frame k, hcopy.bytes k (by omega)]
    intro i _
    rw [← s.element_eq]
    have hi := hge i
    omega
  · intro k hlow hk hout
    rw [getElem?_patch hpatch, hhash, if_neg (by omega), hretypes.frame k, hcopy.bytes k hk]
    intro i hi hbyte
    rw [← s.element_eq] at hbyte
    exact hout ⟨i, hi, hbyte⟩
  · intro i hi
    obtain ⟨reg, compType, hregAt, htypeAt, hnew, -⟩ := hretypes.types i hi
    have hle := h.element_le hi
    have hlow := hge i
    -- no element's type is over the register of the `i`-th
    have hkept : wordAt? pCopy (s.element i + 16) = wordAt? q (s.element i + 16) := by
      apply hretypes.word
      intro j hj
      rw [s.element_eq i]
      rcases Nat.lt_or_ge i j with hlt | hge
      · have hmul := Nat.mul_le_mul_right s.layout.cbEntry (Nat.succ_le_of_lt hlt)
        rw [Nat.succ_mul] at hmul
        omega
      · have hmul := Nat.mul_le_mul_right s.layout.cbEntry hge
        omega
    rw [← s.element_eq] at hregAt htypeAt hnew
    refine ⟨reg, compType, ?_, ?_, ?_, ?_⟩
    · rw [← hcopy.word (by omega), hregAt]
    · rw [← hcopy.word (by omega), htypeAt]
    · rw [wordAt?_patch_of_disjoint hpatch (by rw [hhash]; omega), hkept, hregAt]
    · rw [wordAt?_patch_of_disjoint hpatch (by rw [hhash]; omega), hnew]
  · have hself := bytesAt_patch_self _ hpatch
    have hdrop := drop_patch pCopy
      (dxbcHash (addr + 0x14) heap.stack (pCopy.drop 0x14) (s.cbTotal - 0x14#32))
      (show 4 ≤ pCopy.length by omega)
    rw [hhash] at hself hdrop
    rw [hself, hdrop]

/-- The end of the function, on a container with an input signature. -/
theorem retypeCopy_spec (heap : DxbcHeap) (hmem : cbDxbc ≤ p.length) (hreg : compReg.length = 32)
    (h : InputSigAt p cbDxbc s) (hoff : s.off ≠ 0) :
    ∃ r, retypeCopy heap p s.cbTotal compReg s.layout (s.off.toNat + 8 + 8) s.cElement = some r ∧
      (∀ out cbOut, r = some (out, cbOut) →
        cbOut = s.cbTotal ∧ RetypedSig heap compReg p s out ∧ ¬s.Typed compReg p) ∧
      (r = none → heap.buffer = none ∨ s.Typed compReg p) := by
  have hfits := h.fits
  have helems := h.elements
  have hbase : s.layout.offBase + 20 ≤ s.layout.cbEntry := offBase_le s.tag
  obtain ⟨q, hq, hcopy⟩ := copyOf_bytesAt (p := p) (n := s.cbTotal.toNat) (by omega)
  have hstart : s.element 0 = s.off.toNat + 8 + 8 + s.layout.offBase := by
    rw [InputSig.element]
    omega
  unfold retypeCopy
  cases hbuffer : heap.buffer with
  | none =>
      refine ⟨none, rfl, ?_, fun _ => .inl rfl⟩
      intro out cbOut hnone
      cases hnone
  | some addr =>
      have hroom : s.element 0 + s.cElement.toNat * s.layout.cbEntry + 20 ≤
          q.length + s.layout.cbEntry := by
        rw [hcopy.length, hstart]
        omega
      obtain ⟨pCopy, c, hloop, hretypes⟩ := retypeElements_spec hreg
        (Nat.le_trans (Nat.le_add_left 20 _) hbase) false hroom
      rw [hq, ← hstart]
      dsimp only [bind, Option.bind]
      rw [hloop, Bool.false_or]
      dsimp only
      cases c with
      | false =>
          refine ⟨none, if_pos rfl, ?_, fun _ => .inr (hretypes.typed h hcopy)⟩
          intro out cbOut hnone
          cases hnone
      | true =>
          obtain ⟨htotal, hretyped⟩ := hretypes.retypedSig hbuffer h hoff hcopy
          obtain ⟨cBlob, -, -, hheader, -⟩ := h.chunk
          have hlen : pCopy.length = s.cbTotal.toNat := hretypes.length.trans hcopy.length
          have hcb : (s.cbTotal - 0x14#32).toNat = s.cbTotal.toNat - 0x14 := by
            have hle : 0x14#32 ≤ s.cbTotal := by
              show 0x14 ≤ s.cbTotal.toNat
              omega
            exact BitVec.toNat_sub_of_le hle
          have hdata : bytesAt pCopy 0x14 (s.cbTotal - 0x14#32).toNat = some (pCopy.drop 0x14) := by
            refine bytesAt_eq_some_iff.mpr ⟨by omega, List.take_of_length_le ?_⟩
            rw [List.length_drop]
            omega
          rw [if_neg (by decide), htotal]
          dsimp only
          rw [hdata]
          refine ⟨_, rfl, ?_, fun hnone => by cases hnone⟩
          intro out cbOut hsome
          cases hsome
          exact ⟨rfl, hretyped, hretypes.not_typed h hcopy⟩

/-- The chunk is not at the magic, which is no tag of an input signature. -/
theorem InputSigAt.off_ne_zero (h : InputSigAt p cbDxbc s) : s.off ≠ 0 := by
  obtain ⟨cBlob, i, -, -, -, ⟨-, -, htag, hinput⟩, -⟩ := h.chunk
  intro hzero
  rw [hzero] at htag
  have hmagic : DXBC_MAGIC = s.tag := Option.some.inj (h.magic.symm.trans htag)
  rw [← hmagic] at hinput
  exact absurd hinput (by decide)

/-- There is one first input signature. -/
theorem InputSigAt.chunk_eq (h : InputSigAt p cbDxbc s) {off tag : UINT} {j : Nat}
    (hat : InputChunkAt p s.cbTotal j off tag)
    (hfirst : ∀ k, k < j → ¬∃ off tag, InputChunkAt p s.cbTotal k off tag) :
    off = s.off ∧ tag = s.tag := by
  obtain ⟨cBlob', i, -, -, -, hat', hfirst'⟩ := h.chunk
  have hij : i = j := by
    rcases Nat.lt_trichotomy i j with hlt | heq | hgt
    · exact absurd ⟨_, _, hat'⟩ (hfirst i hlt)
    · exact heq
    · exact absurd ⟨_, _, hat⟩ (hfirst' j hgt)
  subst hij
  obtain rfl : off = s.off := Option.some.inj (hat.1.symm.trans hat'.1)
  exact ⟨rfl, Option.some.inj (hat.2.2.1.symm.trans hat'.2.2.1)⟩

theorem InputSigAt.unique {s' : InputSig} (h : InputSigAt p cbDxbc s)
    (h' : InputSigAt p cbDxbc s') : s = s' := by
  have htotal : s.cbTotal = s'.cbTotal := Option.some.inj (h.total.symm.trans h'.total)
  obtain ⟨cBlob, i, -, -, -, hat, hfirst⟩ := h.chunk
  rw [htotal] at hat hfirst
  obtain ⟨hoff, htag⟩ := h'.chunk_eq hat hfirst
  have hcount := h.count
  rw [hoff, h'.count] at hcount
  cases s
  cases s'
  cases htotal
  cases hoff
  cases htag
  cases hcount
  rfl

/-- The checks of the function are those of `InputSigAt`, and behind them is its end. -/
theorem reconcile_checks (heap : DxbcHeap) (compReg : List Byte) (hmem : cbDxbc ≤ p.length) :
    (tritonReconcileVsInputSig heap p cbDxbc compReg = some none ∧
        ¬∃ s, InputSigAt p cbDxbc s) ∨
      ∃ s, InputSigAt p cbDxbc s ∧ tritonReconcileVsInputSig heap p cbDxbc compReg =
        retypeCopy heap p s.cbTotal compReg s.layout (s.off.toNat + 8 + 8) s.cElement := by
  unfold tritonReconcileVsInputSig
  by_cases hheader : cbDxbc < sizeofDXBCHeader
  · rw [if_pos hheader]
    exact .inl ⟨rfl, fun ⟨s, h⟩ => absurd h.header (Nat.not_le.mpr hheader)⟩
  have hsize : 36 ≤ cbDxbc := Nat.not_lt.mp hheader
  obtain ⟨u32DXBC, hmagic⟩ := exists_wordAt? p 0 (by omega)
  obtain ⟨cbTotal, htotal⟩ := exists_wordAt? p 0x18 (by omega)
  obtain ⟨cBlob, hcount⟩ := exists_wordAt? p 0x1C (by omega)
  have hsame : ∀ {s : InputSig}, InputSigAt p cbDxbc s → cbTotal = s.cbTotal := fun h =>
    Option.some.inj (htotal.symm.trans h.total)
  rw [if_neg hheader, hmagic]
  dsimp only [bind, Option.bind]
  by_cases hdxbc : u32DXBC ≠ DXBC_MAGIC
  · rw [if_pos hdxbc]
    exact .inl ⟨rfl, fun ⟨s, h⟩ => hdxbc (Option.some.inj (hmagic.symm.trans h.magic))⟩
  rw [if_neg hdxbc, htotal]
  dsimp only
  by_cases hfits : cbDxbc < cbTotal.toNat
  · rw [if_pos hfits]
    exact .inl ⟨rfl, fun ⟨s, h⟩ => absurd h.fits (by rw [← hsame h]; omega)⟩
  rw [if_neg hfits, hcount]
  dsimp only
  by_cases hblobs : cbTotal.toNat < 0x20 + cBlob.toNat * 4
  · rw [if_pos hblobs]
    refine .inl ⟨rfl, fun ⟨s, h⟩ => ?_⟩
    obtain ⟨cBlob', i, hcount', hle, -⟩ := h.chunk
    obtain rfl : cBlob = cBlob' := Option.some.inj (hcount.symm.trans hcount')
    rw [← hsame h] at hle
    omega
  rw [if_neg hblobs]
  rcases @findIsgn_spec p cbTotal (by omega) cBlob.toNat 0 (by omega) with
    ⟨hnone, hall⟩ | ⟨off, tag, j, hsome, -, hj, hat, hfirst⟩
  · rw [hnone]
    refine .inl ⟨rfl, fun ⟨s, h⟩ => ?_⟩
    obtain ⟨cBlob', i, hcount', -, hi, hat, -⟩ := h.chunk
    obtain rfl : cBlob = cBlob' := Option.some.inj (hcount.symm.trans hcount')
    rw [← hsame h] at hat
    exact hall i (Nat.zero_le i) (by omega) ⟨_, _, hat⟩
  rw [hsome]
  dsimp only
  have hchunk : ∀ {s : InputSig}, InputSigAt p cbDxbc s → off = s.off ∧ tag = s.tag := by
    intro s h
    have heq := hsame h
    subst heq
    exact h.chunk_eq hat fun k hk => hfirst k (Nat.zero_le k) hk
  by_cases hzero : off = 0
  · rw [if_pos hzero]
    exact .inl ⟨rfl, fun ⟨s, h⟩ => h.off_ne_zero ((hchunk h).1.symm.trans hzero)⟩
  rw [if_neg hzero]
  by_cases hbody : cbTotal.toNat < off.toNat + 8 + 8
  · rw [if_pos hbody]
    refine .inl ⟨rfl, fun ⟨s, h⟩ => ?_⟩
    have helems := h.elements
    rw [← hsame h, ← (hchunk h).1] at helems
    omega
  rw [if_neg hbody]
  obtain ⟨cElement, helem⟩ := exists_wordAt? p (off.toNat + 8) (by omega)
  rw [helem]
  dsimp only
  by_cases hend : cbTotal.toNat < off.toNat + 8 + 8 +
      cElement.toNat * (tritonSigBlobLayout tag).cbEntry
  · rw [if_pos hend]
    refine .inl ⟨rfl, fun ⟨s, h⟩ => ?_⟩
    have helems := h.elements
    obtain ⟨hoff, htag⟩ := hchunk h
    have hsameCount := h.count
    rw [← hoff, helem] at hsameCount
    rw [InputSig.layout, ← hsame h, ← hoff, ← htag, ← Option.some.inj hsameCount] at helems
    omega
  · rw [if_neg hend]
    exact .inr ⟨{ cbTotal := cbTotal, off := off, tag := tag, cElement := cElement },
      ⟨hsize, (not_not.mp hdxbc) ▸ hmagic, htotal, Nat.not_lt.mp hfits,
        ⟨cBlob, j, hcount, by rw [Nat.mul_comm]; exact Nat.not_lt.mp hblobs, by omega, hat,
          fun k hk => hfirst k (Nat.zero_le k) hk⟩,
        helem, Nat.not_lt.mp hend⟩, rfl⟩

end Reconcile

end VirtioWddm
