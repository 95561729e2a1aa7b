/-
  VirtioWddm.Triton.Dxbc.ParseSafe

  `tritonDxbcParseSig` on a buffer with any contents, and what it writes.

  The reader of `Parse` returns what the entries say; here the same run stores them in
  the memory at `pOut`, where a write outside is `none` as well.  Each stage leaves a
  bound that the next one needs: the chunk that was found ends inside the buffer, its
  elements end inside the chunk, and a name starts and is cut off inside it.
-/

import VirtioWddm.Lib.Pointwise
import VirtioWddm.Triton.Dxbc.Parse

namespace VirtioWddm

open Lib

-- ============================================================================
-- The memory at pOut
-- ============================================================================

/-- An element of `pOut`; `name` is its array `Name`. -/
structure SigSlot where
  stream : UINT
  register : UINT
  semanticIndex : UINT
  mask : UINT
  name : Vector Byte 64
deriving DecidableEq

/-- `out->Name[j] = c`. -/
def storeChar (name : Vector Byte 64) (j : Nat) (c : Byte) : Option (Vector Byte 64) :=
  if h : j < 64 then some (name.set j c h) else none

/-- The loop that copies at most `n` more characters of the name at `psz`, from the
    `j`-th on, and the terminator. -/
def copyName (p : List Byte) (psz : Nat) : Nat → Nat → Vector Byte 64 → Option (Vector Byte 64)
  | 0, j, name => storeChar name j 0
  | n + 1, j, name => do
      let c ← p[psz + j]?
      if c = 0 then storeChar name j 0
      else do
        let name ← storeChar name j c
        copyName p psz n (j + 1) name

/-- What the code reads of an element. -/
structure SigFields where
  stream : UINT
  off : UINT
  semIdx : UINT
  reg : UINT
  mask : Byte

def readSigFields (p : List Byte) (fHasStream : Bool) (pe : Nat) : Option SigFields :=
  if fHasStream then do
    let stream ← wordAt? p pe
    let off ← wordAt? p (pe + 4)
    let semIdx ← wordAt? p (pe + 8)
    let reg ← wordAt? p (pe + 20)
    let mask ← p[pe + 24]?
    return { stream, off, semIdx, reg, mask }
  else do
    let off ← wordAt? p pe
    let semIdx ← wordAt? p (pe + 4)
    let reg ← wordAt? p (pe + 16)
    let mask ← p[pe + 20]?
    return { stream := 0, off, semIdx, reg, mask }

/-- One element: `cWritten` elements of `pOut` have been written before it. -/
def storeSigEntry (p : List Byte) (d : SigData) (pe : Nat) (pOut : List SigSlot)
    (cWritten : Nat) : Option (List SigSlot × Nat) := do
  let e ← readSigFields p d.fHasStream pe
  if d.dataLen ≤ e.off then return (pOut, cWritten)
  else do
    let out ← pOut[cWritten]?
    let avail := d.dataLen - e.off
    let name ←
      copyName p (d.dataOff.toNat + e.off.toNat) (min maxNameLength avail.toNat) 0 out.name
    let out : SigSlot := {
      stream := e.stream
      register := e.reg
      semanticIndex := e.semIdx
      mask := e.mask.setWidth 32 &&& 0xF#32
      name := name }
    return (pOut.set cWritten out, cWritten + 1)

/-- The loop over the elements, with `n` left from the `i`-th on. -/
def storeSigEntries (p : List Byte) (d : SigData) (maxEntries : Nat) :
    Nat → Nat → List SigSlot → Nat → Option (List SigSlot × Nat)
  | 0, _, pOut, cWritten => some (pOut, cWritten)
  | n + 1, i, pOut, cWritten =>
      if cWritten < maxEntries then do
        let (pOut, cWritten) ←
          storeSigEntry p d (d.dataOff.toNat + 8 + i * d.entrySize.toNat) pOut cWritten
        storeSigEntries p d maxEntries n (i + 1) pOut cWritten
      else some (pOut, cWritten)

/-- The elements of the chunk that was found. -/
def storeSigData (p : List Byte) (d : SigData) (pOut : List SigSlot) (maxEntries : UINT) :
    Option (List SigSlot × Nat) :=
  if d.dataOff = 0 ∨ d.dataLen < 8#32 ∨ d.entrySize = 0 then some (pOut, 0)
  else do
    let cElem ← wordAt? p d.dataOff.toNat
    if cElem = 0 ∨ 256#32 < cElem then some (pOut, 0)
    else if d.dataLen < 8#32 + cElem * d.entrySize then some (pOut, 0)
    else storeSigEntries p d maxEntries.toNat cElem.toNat 0 pOut 0

/-- `tritonDxbcParseSig` with the memory it writes: `pOut` after the call and the number
    of entries it returns. -/
def tritonDxbcParseSigTo (p : List Byte) (cbBytecode : Nat) (fInput : Bool)
    (pOut : List SigSlot) (maxEntries : UINT) : Option (List SigSlot × Nat) :=
  if cbBytecode < 32 ∨ maxEntries = 0 then some (pOut, 0)
  else do
    let magic ← wordAt? p 0
    if magic ≠ TRITON_DXBC_MAGIC then some (pOut, 0)
    else do
      let size ← wordAt? p 24
      let cChunks ← wordAt? p 28
      let fileSize := if cbBytecode < size.toNat then BitVec.ofNat 32 cbBytecode else size
      if cChunks = 0 ∨ 256#32 < cChunks then some (pOut, 0)
      else if fileSize < 32#32 + cChunks * 4#32 then some (pOut, 0)
      else do
        let d ← findSigChunk p fInput fileSize cChunks.toNat 0 {}
        storeSigData p d pOut maxEntries

-- ============================================================================
-- Names
-- ============================================================================

section Names

variable {p : List Byte}

/-- A name inside the buffer is read, and ends before its first zero. -/
theorem readName_inside (n pos : Nat) (h : pos + n ≤ p.length) :
    ∃ cs, readName p n pos = some cs ∧ cs.length ≤ n ∧ (0 : Byte) ∉ cs := by
  induction n generalizing pos with
  | zero => exact ⟨[], rfl, Nat.le_refl 0, List.not_mem_nil⟩
  | succ n ih =>
      obtain ⟨cs, hread, hlen, hzero⟩ := ih (pos + 1) (by omega)
      have hchar : p[pos]? = some p[pos] := List.getElem?_eq_getElem (by omega)
      rw [readName, hchar, Option.bind_eq_bind, Option.bind_some]
      by_cases hc : p[pos] = 0
      · exact ⟨[], if_pos hc, Nat.zero_le _, List.not_mem_nil⟩
      · refine ⟨p[pos] :: cs, ?_, Nat.succ_le_succ hlen, ?_⟩
        · rw [if_neg hc, hread]
          rfl
        · intro hmem
          rcases List.mem_cons.mp hmem with heq | hmem
          · exact hc heq.symm
          · exact hzero hmem

/-- A character stands behind those before it. -/
theorem toList_set_eq {name : Vector Byte 64} {j : Nat} {c : Byte} (h : j < 64) :
    (name.set j c h).toList = name.toList.take j ++ [c] ++ name.toList.drop (j + 1) := by
  have hlen : j < name.toList.length := by
    rw [Vector.length_toList]
    exact h
  rw [Vector.toList_set, List.set_eq_take_append_cons_drop, if_pos hlen, List.append_assoc]
  rfl

theorem take_toList_set {name : Vector Byte 64} {j : Nat} {c : Byte} (h : j < 64) :
    (name.set j c h).toList.take (j + 1) = name.toList.take j ++ [c] := by
  have hlen : (name.toList.take j ++ [c]).length = j + 1 := by
    rw [List.length_append, List.length_take, Vector.length_toList, List.length_singleton]
    omega
  rw [toList_set_eq h, ← hlen, List.take_left]

theorem storeChar_eq {name : Vector Byte 64} {j : Nat} {c : Byte} (h : j < 64) :
    storeChar name j c = some (name.set j c h) :=
  dif_pos h

/-- The terminator behind what has been copied. -/
theorem storeChar_zero (name : Vector Byte 64) {j : Nat} (h : j < 64) :
    ∃ name', storeChar name j 0 = some name' ∧
      name.toList.take j ++ [] ++ [0] <+: name'.toList := by
  refine ⟨name.set j 0 h, storeChar_eq h, ?_⟩
  rw [toList_set_eq, List.append_nil]
  exact List.prefix_append _ _

/-- What is copied stands behind the characters before it, with the terminator. -/
theorem copyName_refines (psz n j : Nat) (name : Vector Byte 64) {cs : CString}
    (hread : readName p n (psz + j) = some cs) (hroom : j + n < 64) :
    ∃ name', copyName p psz n j name = some name' ∧
      name.toList.take j ++ cs ++ [0] <+: name'.toList := by
  induction n generalizing j cs name with
  | zero =>
      cases hread
      exact storeChar_zero name (by omega)
  | succ n ih =>
      rw [readName] at hread
      obtain ⟨c, hchar, hread⟩ := Option.bind_eq_some_iff.mp hread
      rw [copyName, hchar, Option.bind_eq_bind, Option.bind_some]
      by_cases hc : c = 0
      · rw [if_pos hc] at hread ⊢
        cases hread
        exact storeChar_zero name (by omega)
      · rw [if_neg hc] at hread ⊢
        obtain ⟨rest, hrest, heq⟩ := Option.bind_eq_some_iff.mp hread
        cases heq
        obtain ⟨name', hcopy, hfront⟩ :=
          ih (j + 1) (name.set j c (by omega)) hrest (by omega)
        rw [take_toList_set, List.append_assoc (name.toList.take j)] at hfront
        refine ⟨name', ?_, hfront⟩
        rw [storeChar_eq (by omega), Option.bind_eq_bind, Option.bind_some, hcopy]

end Names

-- ============================================================================
-- What is stored
-- ============================================================================

/-- The element holds the entry: its name is terminated inside the array. -/
structure SigSlot.Holds (slot : SigSlot) (sig : TritonDxbcSig) : Prop where
  stream : slot.stream = sig.stream
  register : slot.register = sig.register
  semanticIndex : slot.semanticIndex = sig.semanticIndex
  mask : slot.mask = sig.mask
  name : sig.name ++ [0] <+: slot.name.toList

/-- The call writes the entries to `pOut` from the `c`-th element on, and nothing else. -/
def Stores (pOut : List SigSlot) (c : Nat) (sigs : List TritonDxbcSig)
    (r : Option (List SigSlot × Nat)) : Prop :=
  ∃ slots, List.Forall₂ SigSlot.Holds slots sigs ∧
    r = some (pOut.take c ++ slots ++ pOut.drop (c + slots.length), c + slots.length)

theorem stores_nil (pOut : List SigSlot) (c : Nat) : Stores pOut c [] (some (pOut, c)) := by
  refine ⟨[], .nil, ?_⟩
  rw [List.append_nil, List.length_nil, Nat.add_zero, List.take_append_drop]

section Stored

variable {p : List Byte} {d : SigData} {pOut : List SigSlot}

/-- The reader's step in the two halves of the code. -/
theorem readSigEntry_fields (pe : Nat) :
    readSigEntry p d pe = (readSigFields p d.fHasStream pe).bind fun e =>
      if d.dataLen ≤ e.off then some none
      else (readName p (min maxNameLength (d.dataLen - e.off).toNat)
        (d.dataOff.toNat + e.off.toNat)).bind fun name => some (some {
          stream := e.stream
          register := e.reg
          semanticIndex := e.semIdx
          mask := e.mask.setWidth 32 &&& 0xF#32
          name := name }) := by
  unfold readSigEntry readSigFields
  cases d.fHasStream with
  | true => simp [Option.bind_assoc]
  | false => simp [Option.bind_assoc]

/-- An element that is skipped is not stored. -/
theorem storeSigEntry_none {pe c : Nat} (h : readSigEntry p d pe = some none) :
    storeSigEntry p d pe pOut c = some (pOut, c) := by
  rw [readSigEntry_fields] at h
  obtain ⟨e, hfields, h⟩ := Option.bind_eq_some_iff.mp h
  rw [storeSigEntry, hfields, Option.bind_eq_bind, Option.bind_some]
  split at h
  case isTrue hskip =>
    rw [if_pos hskip]
    rfl
  case isFalse =>
    obtain ⟨name, -, h⟩ := Option.bind_eq_some_iff.mp h
    cases h

/-- An element that is read is stored. -/
theorem storeSigEntry_some {pe c : Nat} {sig : TritonDxbcSig}
    (h : readSigEntry p d pe = some (some sig)) (hroom : c < pOut.length) :
    ∃ slot, SigSlot.Holds slot sig ∧
      storeSigEntry p d pe pOut c = some (pOut.set c slot, c + 1) := by
  rw [readSigEntry_fields] at h
  obtain ⟨e, hfields, h⟩ := Option.bind_eq_some_iff.mp h
  split at h
  case isTrue => cases h
  case isFalse hkept =>
    obtain ⟨cs, hread, h⟩ := Option.bind_eq_some_iff.mp h
    cases h
    have hcap : 0 + min maxNameLength (d.dataLen - e.off).toNat < 64 :=
      Nat.lt_succ_of_le (by rw [Nat.zero_add]; exact Nat.min_le_left _ _)
    obtain ⟨name, hcopy, hfront⟩ :=
      copyName_refines (d.dataOff.toNat + e.off.toNat) _ 0 pOut[c].name hread hcap
    refine ⟨⟨e.stream, e.reg, e.semIdx, e.mask.setWidth 32 &&& 0xF#32, name⟩,
      ⟨rfl, rfl, rfl, rfl, hfront⟩, ?_⟩
    rw [storeSigEntry, hfields, Option.bind_eq_bind, Option.bind_some, if_neg hkept,
      List.getElem?_eq_getElem hroom, Option.bind_eq_bind, Option.bind_some]
    dsimp only
    rw [hcopy]
    rfl

/-- One more element is stored before the others. -/
theorem Stores.cons {c : Nat} {slot : SigSlot} {sig : TritonDxbcSig} {sigs : List TritonDxbcSig}
    {r : Option (List SigSlot × Nat)} (hslot : slot.Holds sig) (hroom : c < pOut.length)
    (h : Stores (pOut.set c slot) (c + 1) sigs r) : Stores pOut c (sig :: sigs) r := by
  obtain ⟨slots, hall, heq⟩ := h
  have htake : (pOut.set c slot).take (c + 1) = pOut.take c ++ [slot] := by
    have hlen : (pOut.take c ++ [slot]).length = c + 1 := by
      rw [List.length_append, List.length_take, List.length_singleton]
      omega
    rw [List.set_eq_take_append_cons_drop, if_pos hroom, ← List.singleton_append,
      ← List.append_assoc, ← hlen, List.take_left]
  have hdrop : (pOut.set c slot).drop (c + 1 + slots.length) =
      pOut.drop (c + (slot :: slots).length) := by
    rw [List.drop_set_of_lt (by omega), List.length_cons]
    congr 1
    omega
  have hcount : c + 1 + slots.length = c + (slot :: slots).length := by
    rw [List.length_cons]
    omega
  refine ⟨slot :: slots, .cons hslot hall, ?_⟩
  rw [heq, htake, hdrop, hcount, List.append_assoc (pOut.take c), List.singleton_append]

/-- The loop stores what the reader returns.  The room that is left is what `cWritten`
    has left of `maxEntries`. -/
theorem storeSigEntries_stores {maxEntries n i c : Nat} {sigs : List TritonDxbcSig}
    (h : readSigEntries p d n i (maxEntries - c) = some sigs) (hroom : maxEntries ≤ pOut.length) :
    Stores pOut c sigs (storeSigEntries p d maxEntries n i pOut c) := by
  induction n generalizing i c sigs pOut with
  | zero =>
      cases h
      exact stores_nil pOut c
  | succ n ih =>
      rw [storeSigEntries]
      by_cases hc : c < maxEntries
      · rw [if_pos hc]
        have hleft : maxEntries - c = maxEntries - (c + 1) + 1 := by omega
        rw [hleft, readSigEntries] at h
        obtain ⟨r, hentry, h⟩ := Option.bind_eq_some_iff.mp h
        cases r with
        | none =>
            rw [storeSigEntry_none hentry, Option.bind_eq_bind, Option.bind_some]
            dsimp only at h
            rw [← hleft] at h
            exact ih h hroom
        | some sig =>
            obtain ⟨rest, hrest, h⟩ := Option.bind_eq_some_iff.mp h
            cases h
            have hlt : c < pOut.length := Nat.lt_of_lt_of_le hc hroom
            obtain ⟨slot, hslot, hstore⟩ := storeSigEntry_some hentry hlt
            rw [hstore, Option.bind_eq_bind, Option.bind_some]
            refine .cons hslot hlt (ih hrest ?_)
            rw [List.length_set]
            exact hroom
      · rw [if_neg hc]
        rw [Nat.sub_eq_zero_of_le (Nat.le_of_not_lt hc)] at h
        cases h
        exact stores_nil pOut c

/-- Both return nothing, or both go on. -/
theorem Stores.ite {cond : Prop} [Decidable cond] {m : Option (List TritonDxbcSig)}
    {r : Option (List SigSlot × Nat)} {sigs : List TritonDxbcSig}
    (h : (if cond then some [] else m) = some sigs)
    (hr : ¬cond → m = some sigs → Stores pOut 0 sigs r) :
    Stores pOut 0 sigs (if cond then some (pOut, 0) else r) := by
  split at h
  case isTrue hnone =>
    cases h
    rw [if_pos hnone]
    exact stores_nil pOut 0
  case isFalse hsome =>
    rw [if_neg hsome]
    exact hr hsome h

/-- Both read the same. -/
theorem Stores.bind {α : Type} {m : Option α} {k : α → Option (List TritonDxbcSig)}
    {k' : α → Option (List SigSlot × Nat)} {sigs : List TritonDxbcSig}
    (h : m >>= k = some sigs) (hk : ∀ a, k a = some sigs → Stores pOut 0 sigs (k' a)) :
    Stores pOut 0 sigs (m >>= k') := by
  obtain ⟨a, ha, h⟩ := Option.bind_eq_some_iff.mp h
  rw [ha]
  exact hk a h

theorem storeSigData_stores {maxEntries : UINT} {sigs : List TritonDxbcSig}
    (h : readSigData p d maxEntries = some sigs) (hroom : maxEntries.toNat ≤ pOut.length) :
    Stores pOut 0 sigs (storeSigData p d pOut maxEntries) := by
  refine .ite h fun _ h => ?_
  refine .bind h fun cElem h => ?_
  refine .ite h fun _ h => ?_
  refine .ite h fun _ h => ?_
  exact storeSigEntries_stores (c := 0) h hroom

/-- The call stores the entries that the reader returns. -/
theorem tritonDxbcParseSigTo_stores {cbBytecode : Nat} {fInput : Bool} {maxEntries : UINT}
    {sigs : List TritonDxbcSig} (h : tritonDxbcParseSig p cbBytecode fInput maxEntries = some sigs)
    (hroom : maxEntries.toNat ≤ pOut.length) :
    Stores pOut 0 sigs (tritonDxbcParseSigTo p cbBytecode fInput pOut maxEntries) := by
  refine .ite h fun _ h => ?_
  refine .bind h fun magic h => ?_
  refine .ite h fun _ h => ?_
  refine .bind h fun size h => ?_
  refine .bind h fun cChunks h => ?_
  refine .ite h fun _ h => ?_
  refine .ite h fun _ h => ?_
  refine .bind h fun d h => ?_
  exact storeSigData_stores h hroom

end Stored

-- ============================================================================
-- Reads
-- ============================================================================

/-- The chunk lies inside `n` bytes, and its elements are of a size that the code knows. -/
structure SigData.Inside (d : SigData) (n : Nat) : Prop where
  data : d.dataOff.toNat + d.dataLen.toNat ≤ n
  entry : d.fHasStream = false ∧ d.entrySize.toNat = 24 ∨
    d.fHasStream = true ∧ 28 ≤ d.entrySize.toNat ∧ d.entrySize.toNat ≤ 32

/-- An entry whose name fits the array and whose mask has four bits. -/
structure TritonDxbcSig.WellFormed (sig : TritonDxbcSig) : Prop where
  name_length : sig.name.length ≤ maxNameLength
  name_chars : (0 : Byte) ∉ sig.name
  mask_lt : sig.mask < 16#32

/-- The reader returns, with at most `room` entries, all of them well formed. -/
def ReadsWell (room : Nat) (m : Option (List TritonDxbcSig)) : Prop :=
  ∃ sigs, m = some sigs ∧ sigs.length ≤ room ∧ ∀ sig ∈ sigs, sig.WellFormed

theorem readsWell_nil (room : Nat) : ReadsWell room (some []) :=
  ⟨[], rfl, Nat.zero_le room, fun _ h => absurd h List.not_mem_nil⟩

/-- It returns nothing, or goes on. -/
theorem ReadsWell.ite {cond : Prop} [Decidable cond] {room : Nat}
    {m : Option (List TritonDxbcSig)} (h : ¬cond → ReadsWell room m) :
    ReadsWell room (if cond then some [] else m) := by
  split
  case isTrue => exact readsWell_nil room
  case isFalse hsome => exact h hsome

/-- It reads, and goes on. -/
theorem ReadsWell.bind {α : Type} {room : Nat} {m : Option α} {a : α}
    {k : α → Option (List TritonDxbcSig)} (ha : m = some a) (h : ReadsWell room (k a)) :
    ReadsWell room (m >>= k) := by
  rw [ha]
  exact h

section Reads

variable {p : List Byte} {d : SigData} {fInput : Bool}

theorem toNat_sub_eight {x : UINT} (h : 8 ≤ x.toNat) : (x - 8#32).toNat = x.toNat - 8 := by
  have hle : (8#32 : UINT) ≤ x := BitVec.le_def.mpr h
  rw [BitVec.toNat_sub_of_le hle]
  rfl

/-- The first comparison of the search leaves the head of a chunk inside the file. -/
theorem head_inside {fileSize off : UINT} (hsize : 8 ≤ fileSize.toNat)
    (hoff : ¬fileSize - 8#32 < off) : off.toNat + 8 ≤ fileSize.toNat := by
  have hle := BitVec.le_def.mp (BitVec.not_lt.mp hoff)
  rw [toNat_sub_eight hsize] at hle
  omega

/-- The second one leaves its data there. -/
theorem chunk_inside {fileSize off len : UINT} (hhead : off.toNat + 8 ≤ fileSize.toNat)
    (hlen : ¬fileSize - off - 8#32 < len) :
    (off + 8#32).toNat = off.toNat + 8 ∧ off.toNat + 8 + len.toNat ≤ fileSize.toNat := by
  have hlt := fileSize.isLt
  have hsub : (fileSize - off).toNat = fileSize.toNat - off.toNat :=
    BitVec.toNat_sub_of_le (BitVec.le_def.mpr (by omega))
  have hle := BitVec.le_def.mp (BitVec.not_lt.mp hlen)
  rw [toNat_sub_eight (by omega), hsub] at hle
  refine ⟨?_, by omega⟩
  rw [BitVec.toNat_add]
  exact Nat.mod_eq_of_lt (by show off.toNat + 8 < 2 ^ 32; omega)

/-- The search reads the table and the heads of chunks, all inside the file; what it
    finds is inside too. -/
theorem findSigChunk_inside {fileSize : UINT} (n i : Nat) (d : SigData) (hsize : 8 ≤ fileSize.toNat)
    (hfile : fileSize.toNat ≤ p.length) (htable : 32 + 4 * (i + n) ≤ p.length)
    (hd : d.dataOff = 0 ∨ d.Inside p.length) :
    ∃ d', findSigChunk p fInput fileSize n i d = some d' ∧
      (d'.dataOff = 0 ∨ d'.Inside p.length) := by
  induction n generalizing i d with
  | zero => exact ⟨d, rfl, hd⟩
  | succ n ih =>
      have hnext : 32 + 4 * (i + 1 + n) ≤ p.length := by omega
      obtain ⟨off, hoffset⟩ := exists_wordAt? p (32 + 4 * i) (by omega)
      rw [findSigChunk, hoffset, Option.bind_eq_bind, Option.bind_some]
      by_cases hoff : fileSize - 8#32 < off
      · rw [if_pos hoff]
        exact ih (i + 1) d hnext hd
      · have hhead := head_inside hsize hoff
        obtain ⟨tag, htag⟩ := exists_wordAt? p (off.toNat) (by omega)
        obtain ⟨len, hlength⟩ := exists_wordAt? p (off.toNat + 4) (by omega)
        rw [if_neg hoff, htag, Option.bind_some, hlength, Option.bind_some]
        by_cases hlen : fileSize - off - 8#32 < len
        · rw [if_pos hlen]
          exact ih (i + 1) d hnext hd
        · obtain ⟨hdata, hend⟩ := chunk_inside hhead hlen
          have hinside : (off + 8#32).toNat + len.toNat ≤ p.length := by omega
          rw [if_neg hlen]
          split
          case isTrue =>
            have hsizes : 28 ≤ (32 : UINT).toNat ∧ (32 : UINT).toNat ≤ 32 := by decide
            exact ⟨_, rfl, .inr ⟨hinside, .inr ⟨rfl, hsizes⟩⟩⟩
          case isFalse =>
            split
            case isTrue =>
              have hsizes : 28 ≤ (28 : UINT).toNat ∧ (28 : UINT).toNat ≤ 32 := by decide
              exact ⟨_, rfl, .inr ⟨hinside, .inr ⟨rfl, hsizes⟩⟩⟩
            case isFalse =>
              split
              case isTrue => exact ih (i + 1) _ hnext (.inr ⟨hinside, .inl ⟨rfl, rfl⟩⟩)
              case isFalse => exact ih (i + 1) d hnext hd

/-- The fields of an element are inside it. -/
theorem readSigFields_inside {pe : Nat} (hd : d.Inside p.length)
    (hpe : pe + d.entrySize.toNat ≤ p.length) :
    ∃ e, readSigFields p d.fHasStream pe = some e := by
  rcases hd.entry with ⟨hstream, hsize⟩ | ⟨hstream, hsize, -⟩
  · obtain ⟨off, hoff⟩ := exists_wordAt? p pe (by omega)
    obtain ⟨semIdx, hsemIdx⟩ := exists_wordAt? p (pe + 4) (by omega)
    obtain ⟨reg, hreg⟩ := exists_wordAt? p (pe + 16) (by omega)
    have hmask : p[pe + 20]? = some p[pe + 20] := List.getElem?_eq_getElem (by omega)
    refine ⟨⟨0, off, semIdx, reg, p[pe + 20]⟩, ?_⟩
    rw [readSigFields, hstream, hoff, hsemIdx, hreg, hmask]
    rfl
  · obtain ⟨stream, hstream'⟩ := exists_wordAt? p pe (by omega)
    obtain ⟨off, hoff⟩ := exists_wordAt? p (pe + 4) (by omega)
    obtain ⟨semIdx, hsemIdx⟩ := exists_wordAt? p (pe + 8) (by omega)
    obtain ⟨reg, hreg⟩ := exists_wordAt? p (pe + 20) (by omega)
    have hmask : p[pe + 24]? = some p[pe + 24] := List.getElem?_eq_getElem (by omega)
    refine ⟨⟨stream, off, semIdx, reg, p[pe + 24]⟩, ?_⟩
    rw [readSigFields, hstream, hstream', hoff, hsemIdx, hreg, hmask]
    rfl

/-- A name offset below the length of the data leaves the rest of the data for the
    name. -/
theorem readSigEntry_inside {pe : Nat} (hd : d.Inside p.length)
    (hpe : pe + d.entrySize.toNat ≤ p.length) :
    ∃ r, readSigEntry p d pe = some r ∧ ∀ sig, r = some sig → sig.WellFormed := by
  obtain ⟨e, hfields⟩ := readSigFields_inside hd hpe
  rw [readSigEntry_fields, hfields, Option.bind_some]
  by_cases hskip : d.dataLen ≤ e.off
  · rw [if_pos hskip]
    exact ⟨none, rfl, fun sig h => by cases h⟩
  · rw [if_neg hskip]
    have hoff := BitVec.lt_def.mp (BitVec.not_le.mp hskip)
    have havail : (d.dataLen - e.off).toNat = d.dataLen.toNat - e.off.toNat :=
      BitVec.toNat_sub_of_le (BitVec.le_def.mpr (Nat.le_of_lt hoff))
    have hdata := hd.data
    have hmin := Nat.min_le_right maxNameLength (d.dataLen - e.off).toNat
    obtain ⟨cs, hread, hlen, hzero⟩ : ∃ cs,
        readName p (min maxNameLength (d.dataLen - e.off).toNat)
          (d.dataOff.toNat + e.off.toNat) = some cs ∧ _ :=
      readName_inside _ _ (by omega)
    rw [hread]
    refine ⟨_, rfl, fun sig h => ?_⟩
    cases h
    refine ⟨Nat.le_trans hlen (Nat.min_le_left _ _), hzero, BitVec.lt_def.mpr ?_⟩
    rw [BitVec.toNat_and]
    exact Nat.lt_of_le_of_lt Nat.and_le_right (by decide)

theorem readSigEntries_inside (n i room : Nat) (hd : d.Inside p.length)
    (hdata : d.dataOff.toNat + 8 + (i + n) * d.entrySize.toNat ≤ p.length) :
    ReadsWell room (readSigEntries p d n i room) := by
  induction n generalizing i room with
  | zero =>
      rw [readSigEntries]
      exact readsWell_nil room
  | succ n ih =>
      have hnext : d.dataOff.toNat + 8 + (i + 1 + n) * d.entrySize.toNat ≤ p.length := by
        rw [Nat.add_right_comm i 1 n]
        exact hdata
      have hfirst : d.dataOff.toNat + 8 + i * d.entrySize.toNat + d.entrySize.toNat ≤
          p.length := by
        have hle : (i + 1) * d.entrySize.toNat ≤ (i + (n + 1)) * d.entrySize.toNat :=
          Nat.mul_le_mul_right _ (by omega)
        rw [Nat.succ_mul] at hle
        omega
      cases room with
      | zero => exact readsWell_nil 0
      | succ room =>
          obtain ⟨r, hentry, hwf⟩ := readSigEntry_inside hd hfirst
          rw [readSigEntries, hentry, Option.bind_eq_bind, Option.bind_some]
          cases r with
          | none => exact ih (i + 1) (room + 1) hnext
          | some sig =>
              obtain ⟨sigs, hsigs, hlen, hall⟩ := ih (i + 1) room hnext
              dsimp only
              rw [hsigs]
              refine ⟨sig :: sigs, rfl, Nat.succ_le_succ hlen, fun s hs => ?_⟩
              rcases List.mem_cons.mp hs with rfl | hs
              · exact hwf s rfl
              · exact hall s hs

/-- The size of the elements' table does not wrap. -/
theorem entries_inside {cElem : UINT} (hd : d.Inside p.length) (hcElem : ¬256#32 < cElem)
    (hfits : ¬d.dataLen < 8#32 + cElem * d.entrySize) :
    d.dataOff.toNat + 8 + (0 + cElem.toNat) * d.entrySize.toNat ≤ p.length := by
  have hcount : cElem.toNat ≤ 256 := BitVec.le_def.mp (BitVec.not_lt.mp hcElem)
  have hsize : d.entrySize.toNat ≤ 32 := by
    rcases hd.entry with ⟨-, h⟩ | ⟨-, -, h⟩
    · omega
    · exact h
  have hmul : cElem.toNat * d.entrySize.toNat ≤ 256 * 32 := Nat.mul_le_mul hcount hsize
  have hle := BitVec.le_def.mp (BitVec.not_lt.mp hfits)
  have hwrap : (8#32 + cElem * d.entrySize).toNat = 8 + cElem.toNat * d.entrySize.toNat := by
    rw [BitVec.toNat_add, BitVec.toNat_mul]
    show (8 + cElem.toNat * d.entrySize.toNat % 2 ^ 32) % 2 ^ 32 = _
    omega
  have hdata := hd.data
  rw [Nat.zero_add]
  omega

theorem readSigData_inside {maxEntries : UINT} (hd : d.dataOff = 0 ∨ d.Inside p.length) :
    ReadsWell maxEntries.toNat (readSigData p d maxEntries) := by
  refine .ite fun hsome => ?_
  have hd : d.Inside p.length := hd.resolve_left fun h => hsome (.inl h)
  have hlen : ¬d.dataLen < 8#32 := fun h => hsome (.inr (.inl h))
  have hlen : 8 ≤ d.dataLen.toNat := BitVec.le_def.mp (BitVec.not_lt.mp hlen)
  have hdata := hd.data
  obtain ⟨cElem, hcElem⟩ := exists_wordAt? p (d.dataOff.toNat) (by omega)
  refine .bind hcElem ?_
  refine .ite fun hcount => ?_
  refine .ite fun hfits => ?_
  exact readSigEntries_inside _ _ _ hd (entries_inside hd (fun h => hcount (.inr h)) hfits)

/-- `fileSize` of the buffer of all of `p`. -/
theorem fileSize_le (size : UINT) :
    (if p.length < size.toNat then BitVec.ofNat 32 p.length else size).toNat ≤ p.length := by
  split
  case isTrue =>
    rw [BitVec.toNat_ofNat]
    exact Nat.mod_le _ _
  case isFalse hle => exact Nat.le_of_not_lt hle

/-- The size of the table of chunks does not wrap either. -/
theorem table_inside {fileSize cChunks : UINT} (hcount : ¬256#32 < cChunks)
    (hfits : ¬fileSize < 32#32 + cChunks * 4#32) : 32 + 4 * cChunks.toNat ≤ fileSize.toNat := by
  have hcount : cChunks.toNat ≤ 256 := BitVec.le_def.mp (BitVec.not_lt.mp hcount)
  have hle := BitVec.le_def.mp (BitVec.not_lt.mp hfits)
  have hwrap : (32#32 + cChunks * 4#32).toNat = 32 + cChunks.toNat * 4 := by
    rw [BitVec.toNat_add, BitVec.toNat_mul]
    show (32 + cChunks.toNat * 4 % 2 ^ 32) % 2 ^ 32 = _
    omega
  omega

/-- The reader returns on every buffer. -/
theorem tritonDxbcParseSig_inside (p : List Byte) (fInput : Bool) (maxEntries : UINT) :
    ReadsWell maxEntries.toNat (tritonDxbcParseSig p p.length fInput maxEntries) := by
  refine .ite fun hlong => ?_
  have hlong : 32 ≤ p.length := Nat.le_of_not_lt fun h => hlong (.inl h)
  obtain ⟨magic, hmagic⟩ := exists_wordAt? p 0 (by omega)
  obtain ⟨size, hsize⟩ := exists_wordAt? p 24 (by omega)
  obtain ⟨cChunks, hcChunks⟩ := exists_wordAt? p 28 (by omega)
  refine .bind hmagic ?_
  refine .ite fun _ => ?_
  refine .bind hsize ?_
  refine .bind hcChunks ?_
  have hfile := fileSize_le (p := p) size
  dsimp only
  generalize (if p.length < size.toNat then BitVec.ofNat 32 p.length else size) = fileSize
    at hfile ⊢
  refine .ite fun hcount => ?_
  refine .ite fun hfits => ?_
  have htable := table_inside (fun h => hcount (.inr h)) hfits
  obtain ⟨d, hchunk, hd⟩ : ∃ d,
      findSigChunk p fInput fileSize cChunks.toNat 0 {} = some d ∧ _ :=
    findSigChunk_inside _ _ _ (by omega) hfile (by omega) (.inl rfl)
  refine .bind hchunk ?_
  exact readSigData_inside hd

end Reads

-- ============================================================================
-- The whole call
-- ============================================================================

/-- A name with its terminator ends inside the array. -/
theorem SigSlot.Holds.terminated {slot : SigSlot} {sig : TritonDxbcSig} (h : slot.Holds sig) :
    (0 : Byte) ∈ slot.name := by
  rw [← Vector.mem_toList_iff]
  exact h.name.subset (List.mem_append_right _ (List.mem_singleton.mpr rfl))

/-- `tritonDxbcParseSig` on a buffer of any bytes, with room for `maxEntries` elements at
    `pOut`: every byte it reads is in the buffer and every write is in the memory at
    `pOut`; it writes the first `cWritten ≤ maxEntries` elements and no others, and in
    each the name is terminated inside its array and the mask has four bits. -/
theorem tritonDxbcParseSig_safe (p : List Byte) (fInput : Bool) (pOut : List SigSlot)
    (maxEntries : UINT) (hroom : maxEntries.toNat ≤ pOut.length) :
    ∃ pOut' cWritten, tritonDxbcParseSigTo p p.length fInput pOut maxEntries =
        some (pOut', cWritten) ∧
      cWritten ≤ maxEntries.toNat ∧
      pOut'.length = pOut.length ∧
      pOut'.drop cWritten = pOut.drop cWritten ∧
      ∀ slot ∈ pOut'.take cWritten, (0 : Byte) ∈ slot.name ∧ slot.mask < 16#32 := by
  obtain ⟨sigs, hsigs, hlen, hwf⟩ := tritonDxbcParseSig_inside p fInput maxEntries
  obtain ⟨slots, hall, heq⟩ := tritonDxbcParseSigTo_stores hsigs hroom
  have hcount : slots.length ≤ maxEntries.toNat := hall.length_eq ▸ hlen
  rw [List.take_zero, List.nil_append, Nat.zero_add] at heq
  refine ⟨_, _, heq, hcount, ?_, List.drop_left, ?_⟩
  · rw [List.length_append, List.length_drop]
    omega
  · rw [List.take_left]
    intro slot hslot
    obtain ⟨sig, hsig, hholds⟩ := exists_of_mem_left hall hslot
    exact ⟨hholds.terminated, hholds.mask ▸ (hwf sig hsig).mask_lt⟩

/-- A container that declares more bytes than it has, with one element whose name runs to
    the end of the buffer and whose mask has all bits. -/
def unterminatedName : List Byte :=
  wordBytes [TRITON_DXBC_MAGIC, 0, 0, 0, 0, 0, 0xFFFFFFFF, 1, 36, TRITON_TAG_ISGN, 34,
    1, 8, 32, 0, 0, 0, 0, 0xFF] ++ [0x41#8, 0x42#8]

/-- Its name is terminated all the same, in an array without a zero. -/
theorem tritonDxbcParseSig_safe_unterminated :
    ∃ pOut', tritonDxbcParseSigTo unterminatedName unterminatedName.length true
        [⟨0, 0, 0, 0, Vector.replicate 64 0xFF#8⟩] 1 = some (pOut', 1) ∧
      ∀ slot ∈ pOut'.take 1, (0 : Byte) ∈ slot.name ∧ slot.mask < 16#32 := by
  obtain ⟨pOut', cWritten, hstored, -, -, -, hslots⟩ :=
    tritonDxbcParseSig_safe unterminatedName true [⟨0, 0, 0, 0, Vector.replicate 64 0xFF#8⟩] 1
      (by decide)
  have hone : (tritonDxbcParseSigTo unterminatedName unterminatedName.length true
      [⟨0, 0, 0, 0, Vector.replicate 64 0xFF#8⟩] 1).map Prod.snd = some 1 := by decide
  rw [hstored] at hone
  obtain rfl : cWritten = 1 := Option.some.inj hone
  exact ⟨pOut', hstored, hslots⟩

end VirtioWddm
