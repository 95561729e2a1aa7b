/-
  VirtioWddm.Triton.Dxbc.Chunks

  What the writers of `Writer` leave in the buffer.

  A writer that has room enough succeeds and appends: `NamedBody` describes the body
  of a chunk of named elements, and `writeNamedBlob_append`, `writeSHDRBlob_append` say
  that the bytes appended are those of a chunk.
-/

import Mathlib.Algebra.Group.Nat.Defs
import VirtioWddm.Triton.Dxbc.Writer

namespace VirtioWddm

open Lib

-- ============================================================================
-- Appending
-- ============================================================================

namespace DxbcWriter

/-- The writer behind `p` more bytes. -/
def push (w : DxbcWriter) (p : List Byte) : DxbcWriter :=
  { w with bytes := w.bytes ++ p }

variable {w : DxbcWriter} {p : List Byte}

@[simp] theorem push_size : (w.push p).size = w.size + p.length :=
  List.length_append

@[simp] theorem push_cbAlloc : (w.push p).cbAlloc = w.cbAlloc := rfl

theorem push_push (w : DxbcWriter) (p q : List Byte) : (w.push p).push q = w.push (p ++ q) := by
  rw [push, push, push, List.append_assoc]

theorem push_nil (w : DxbcWriter) : w.push [] = w := by
  rw [push, List.append_nil]

theorem append_eq (h : w.size + p.length ≤ w.cbAlloc) : w.append p = some (w.push p) := by
  rw [append, reserve, if_pos (decide_eq_true h)]
  rfl

theorem appendZeros_eq {cb : Nat} (h : w.size + cb ≤ w.cbAlloc) :
    w.appendZeros cb = some (w.push (List.replicate cb 0)) :=
  append_eq (by rw [List.length_replicate]; exact h)

/-- A piece that was pushed is filled in. -/
theorem fill_push (w : DxbcWriter) (a c e : List Byte) {d : List Byte} {off : Nat}
    (hoff : off = w.size + a.length) (hlen : d.length = c.length) :
    (w.push (a ++ (c ++ e))).fill off d = w.push (a ++ (d ++ e)) := by
  have hpatch := patch_middle (w.bytes ++ a) c e d hlen
  rw [List.append_assoc, List.append_assoc, List.length_append] at hpatch
  subst hoff
  exact congrArg (fun bytes => { w with bytes := bytes }) hpatch

end DxbcWriter

-- ============================================================================
-- Padding
-- ============================================================================

theorem padLength_lt (n : Nat) : padLength n < 4 :=
  Nat.mod_lt _ (by decide)

theorem add_padLength_mod (n : Nat) : (n + padLength n) % 4 = 0 := by
  rw [padLength]
  omega

theorem padLength_eq_zero {n : Nat} (h : n % 4 = 0) : padLength n = 0 := by
  rw [padLength]
  omega

/-- Bytes padded to a multiple of four. -/
def padded (bs : List Byte) : List Byte :=
  bs ++ List.replicate (padLength bs.length) 0

theorem length_padded (bs : List Byte) : (padded bs).length = bs.length + padLength bs.length := by
  rw [padded, List.length_append, List.length_replicate]

theorem length_padded_mod (bs : List Byte) : (padded bs).length % 4 = 0 := by
  rw [length_padded]
  exact add_padLength_mod bs.length

theorem pad_push {w : DxbcWriter} {pIosgn : Nat} (h : w.size + 3 ≤ w.cbAlloc) :
    w.pad pIosgn = some (w.push (List.replicate (padLength (w.size - pIosgn)) 0)) := by
  have hlt := padLength_lt (w.size - pIosgn)
  unfold DxbcWriter.pad
  dsimp only
  split
  case isTrue hzero => rw [hzero, List.replicate_zero, DxbcWriter.push_nil]
  case isFalse => exact DxbcWriter.appendZeros_eq (by omega)

-- ============================================================================
-- Names
-- ============================================================================

/-- The text of the distinct names, in the order of their first elements. -/
def nameText (names : List CString) : List Byte :=
  names.eraseDups.flatMap (· ++ [0])

theorem nameText_cons (name : CString) (names : List CString) :
    nameText (name :: names) = name ++ [0] ++ nameText (names.filter fun n => !n == name) := by
  rw [nameText, List.eraseDups_cons, List.flatMap_cons, nameText]

/-- 32 bytes are enough for a name of up to 31 characters.  The induction is on a bound
    of the number of names, because a name takes its duplicates away. -/
theorem length_nameText_le (names : List CString) (h : ∀ name ∈ names, name.length ≤ 31) :
    (nameText names).length ≤ names.length * 32 := by
  suffices hbound : ∀ n (names : List CString), names.length ≤ n →
      (∀ name ∈ names, name.length ≤ 31) → (nameText names).length ≤ names.length * 32 from
    hbound names.length names (Nat.le_refl _) h
  intro n
  induction n with
  | zero =>
      intro names hn _
      rw [List.length_eq_zero_iff.mp (Nat.le_zero.mp hn)]
      exact Nat.le_refl 0
  | succ n ih =>
      intro names hn h
      cases names with
      | nil => exact Nat.le_refl 0
      | cons name names =>
          have hname := h name List.mem_cons_self
          have hfilter := List.length_filter_le (fun n => !n == name) names
          rw [List.length_cons] at hn
          have hrest := ih (names.filter fun n => !n == name) (by omega) fun o ho =>
            h o (List.mem_cons_of_mem name (List.mem_of_mem_filter ho))
          rw [nameText_cons, List.length_append, List.length_append, List.length_singleton,
            List.length_cons]
          omega

/-- The names whose offset is not set yet. -/
def pendingNames : List CString → List UINT → List CString
  | name :: names, slot :: slots =>
      if slot = 0 then name :: pendingNames names slots else pendingNames names slots
  | _, _ => []

theorem pendingNames_zero (names : List CString) :
    pendingNames names (List.replicate names.length 0) = names := by
  induction names with
  | nil => rfl
  | cons name names ih =>
      rw [List.length_cons, List.replicate_succ, pendingNames, if_pos rfl, ih]

/-- What becomes of a name offset `s`: one that is set stays, and another is the
    offset of the name in the text, which starts at `base`. -/
def NameSlot (base : Nat) (text : List Byte) (name : CString) (s s' : UINT) : Prop :=
  if s = 0 then
    ∃ o, s' = BitVec.ofNat 32 (base + o) ∧ bytesAt text o (name.length + 1) = some (name ++ [0])
  else s' = s

/-- A text in front moves the names. -/
theorem NameSlot.shift {base : Nat} {front text : List Byte} {name : CString} {s s' : UINT}
    (h : NameSlot (base + front.length) text name s s') :
    NameSlot base (front ++ text) name s s' := by
  rw [NameSlot] at h ⊢
  split at h
  case isTrue hs =>
    obtain ⟨o, hs', hat⟩ := h
    rw [if_pos hs]
    refine ⟨front.length + o, ?_, ?_⟩
    · rw [hs', Nat.add_assoc]
    · rw [bytesAt_append_right (Nat.le_add_right _ _), Nat.add_sub_cancel_left]
      exact hat
  case isFalse hs => rw [if_neg hs, h]

theorem ofNat_ne_zero {n : Nat} (hpos : 0 < n) (hlt : n < 2 ^ 32) : BitVec.ofNat 32 n ≠ 0 := by
  intro h
  have hn := congrArg BitVec.toNat h
  rw [BitVec.toNat_ofNat, Nat.mod_eq_of_lt hlt] at hn
  exact absurd hn (Nat.ne_of_gt hpos)

/-- The slots after a name is emitted: the later elements of that name have it. -/
def claimSlots (name : CString) (off : UINT) (names : List CString) (slots : List UINT) :
    List UINT :=
  List.zipWith (fun n s => if s = 0 ∧ n = name then off else s) names slots

theorem claimSlots_getElem? {name n : CString} {off s : UINT} {names : List CString}
    {slots : List UINT} {i : Nat} (hn : names[i]? = some n) (hs : slots[i]? = some s) :
    (claimSlots name off names slots)[i]? = some (if s = 0 ∧ n = name then off else s) := by
  rw [claimSlots, List.getElem?_zipWith, hn, hs]

/-- A name that is emitted leaves the others. -/
theorem pendingNames_claimSlots (name : CString) {off : UINT} (hoff : off ≠ 0)
    (names : List CString) (slots : List UINT) :
    pendingNames names (claimSlots name off names slots) =
      (pendingNames names slots).filter fun n => !n == name := by
  induction names generalizing slots with
  | nil => rfl
  | cons n names ih =>
      cases slots with
      | nil => rfl
      | cons s slots =>
          have hcons : claimSlots name off (n :: names) (s :: slots) =
            (if s = 0 ∧ n = name then off else s) :: claimSlots name off names slots := rfl
          rw [hcons, pendingNames, pendingNames, ih]
          by_cases hs : s = 0
          · by_cases hn : n = name
            · have hset : (if s = 0 ∧ n = name then off else s) = off := if_pos ⟨hs, hn⟩
              rw [hset, if_neg hoff, if_pos hs, List.filter_cons_of_neg (by rw [hn]; simp)]
            · have hset : (if s = 0 ∧ n = name then off else s) = s := if_neg fun h => hn h.2
              rw [hset, if_pos hs, if_pos hs, List.filter_cons_of_pos (by simpa using hn)]
          · have hset : (if s = 0 ∧ n = name then off else s) = s := if_neg fun h => hs h.1
            rw [hset, if_neg hs, if_neg hs]

theorem length_claimSlots (name : CString) (off : UINT) {names : List CString} {slots : List UINT}
    (h : slots.length = names.length) :
    (claimSlots name off names slots).length = names.length := by
  rw [claimSlots, List.length_zipWith, h, Nat.min_self]

/-- A slot that the emitted name has claimed, or a later one fills. -/
theorem NameSlot.claim {base : Nat} {name n : CString} {text : List Byte} {s s' : UINT}
    (hpos : 0 < base) (hlt : base < 2 ^ 32)
    (h : NameSlot (base + (name ++ [0]).length) text n
      (if s = 0 ∧ n = name then BitVec.ofNat 32 base else s) s') :
    NameSlot base (name ++ [0] ++ text) n s s' := by
  by_cases hclaim : s = 0 ∧ n = name
  · obtain ⟨rfl, rfl⟩ := hclaim
    rw [if_pos ⟨rfl, rfl⟩, NameSlot, if_neg (ofNat_ne_zero hpos hlt)] at h
    rw [NameSlot, if_pos rfl]
    refine ⟨0, h, ?_⟩
    have hmid := bytesAt_middle [] (n ++ [0]) text
    rw [List.length_append, List.nil_append] at hmid
    exact hmid
  · rw [if_neg hclaim] at h
    exact h.shift

/-- An element that has its name is passed over. -/
theorem emitNames_named {pIosgn : Nat} {name : CString} {names : List CString} {slot : UINT}
    {slots slots' : List UINT} {w w' : DxbcWriter} (hslot : slot ≠ 0)
    (h : emitNames pIosgn names slots w = some (slots', w')) :
    emitNames pIosgn (name :: names) (slot :: slots) w = some (slot :: slots', w') := by
  rw [emitNames, if_pos hslot, h]
  rfl

/-- An element without a name emits it, and the later elements of that name have it. -/
theorem emitNames_unnamed {pIosgn : Nat} {name : CString} {names : List CString}
    {slots slots' : List UINT} {w w' : DxbcWriter}
    (hcap : w.size + (name ++ [0]).length ≤ w.cbAlloc)
    (h : emitNames pIosgn names (claimSlots name (BitVec.ofNat 32 (w.size - pIosgn)) names slots)
      (w.push (name ++ [0])) = some (slots', w')) :
    emitNames pIosgn (name :: names) (0 :: slots) w =
      some (BitVec.ofNat 32 (w.size - pIosgn) :: slots', w') := by
  rw [emitNames, if_neg (Decidable.not_not.mpr rfl), DxbcWriter.append_eq hcap]
  rw [claimSlots] at h
  dsimp only [bind, Option.bind]
  rw [h]
  rfl

/-- The text of the pending names is emitted, and every element gets the offset of its
    own.  The induction is on the elements; `slots` changes with each. -/
theorem emitNames_append {pIosgn : Nat} {names : List CString} {slots : List UINT} {w : DxbcWriter}
    (hlen : slots.length = names.length) (hblob : pIosgn < w.size)
    (hcap : w.size + (nameText (pendingNames names slots)).length ≤ w.cbAlloc)
    (hlt : w.size - pIosgn + (nameText (pendingNames names slots)).length < 2 ^ 32) :
    ∃ slots', emitNames pIosgn names slots w =
        some (slots', w.push (nameText (pendingNames names slots))) ∧
      slots'.length = names.length ∧
      ∀ (i : Nat) name s s', names[i]? = some name → slots[i]? = some s → slots'[i]? = some s' →
        NameSlot (w.size - pIosgn) (nameText (pendingNames names slots)) name s s' := by
  induction names generalizing slots w with
  | nil =>
      obtain rfl : slots = [] := List.length_eq_zero_iff.mp hlen
      refine ⟨[], ?_, rfl, ?_⟩
      · rw [show nameText (pendingNames [] []) = [] from rfl, DxbcWriter.push_nil]
        rfl
      · intro i name s s' hname
        rw [List.getElem?_nil] at hname
        cases hname
  | cons name names ih =>
      obtain ⟨slot, slots, rfl⟩ : ∃ slot rest, slots = slot :: rest :=
        List.exists_cons_of_length_eq_add_one hlen
      have hrest : slots.length = names.length := Nat.succ.inj hlen
      rw [pendingNames] at hcap hlt ⊢
      by_cases hzero : slot = 0
      case neg =>
        rw [if_neg hzero] at hcap hlt ⊢
        obtain ⟨slots', heq, hlen', hall⟩ := ih hrest hblob hcap hlt
        refine ⟨slot :: slots', emitNames_named hzero heq, congrArg (· + 1) hlen', ?_⟩
        intro i n s s' hn hs hs'
        cases i with
        | zero =>
            cases hs
            cases hs'
            rw [NameSlot, if_neg hzero]
        | succ i => exact hall i n s s' hn hs hs'
      case pos =>
        subst hzero
        rw [if_pos rfl, nameText_cons] at hcap hlt ⊢
        rw [List.length_append] at hcap hlt
        have hoff : BitVec.ofNat 32 (w.size - pIosgn) ≠ 0 := ofNat_ne_zero (by omega) (by omega)
        have hpending := pendingNames_claimSlots name hoff names slots
        have hclaim := length_claimSlots name (BitVec.ofNat 32 (w.size - pIosgn)) hrest
        have hsize : (w.push (name ++ [0])).size = w.size + (name ++ [0]).length :=
          DxbcWriter.push_size
        have hbase :
            (w.push (name ++ [0])).size - pIosgn = w.size - pIosgn + (name ++ [0]).length := by
          omega
        have halloc : (w.push (name ++ [0])).cbAlloc = w.cbAlloc := rfl
        obtain ⟨slots', heq, hlen', hall⟩ :=
          ih (w := w.push (name ++ [0])) hclaim (by omega) (by rw [hpending]; omega)
            (by rw [hpending]; omega)
        rw [hpending] at heq hall
        refine ⟨BitVec.ofNat 32 (w.size - pIosgn) :: slots', ?_, congrArg (· + 1) hlen', ?_⟩
        · rw [← DxbcWriter.push_push w (name ++ [0])]
          exact emitNames_unnamed (by omega) heq
        · intro i n s s' hn hs hs'
          apply NameSlot.claim (by omega) (by omega)
          cases i with
          | zero =>
              cases hn
              cases hs
              cases hs'
              rw [if_pos ⟨rfl, rfl⟩, NameSlot, if_neg hoff]
          | succ i =>
              have hslot' := hall i n _ s' hn (claimSlots_getElem? hn hs) hs'
              rw [hbase] at hslot'
              exact hslot'

-- ============================================================================
-- Chunks
-- ============================================================================

/-- A chunk: its tag and the bytes behind its header. -/
structure DxbcChunk where
  fourcc : UINT
  body : List Byte
deriving DecidableEq

/-- A chunk in memory. -/
def DxbcChunk.bytes (c : DxbcChunk) : List Byte :=
  wordBytes [c.fourcc, BitVec.ofNat 32 c.body.length] ++ c.body

theorem DxbcChunk.length_bytes (c : DxbcChunk) : c.bytes.length = 8 + c.body.length := by
  rw [DxbcChunk.bytes, List.length_append, length_wordBytes]
  rfl

/-- Elements of `cbEntry` bytes each. -/
def ElementsOf (names : List CString) (cbEntry : Nat)
    (elems : List UINT → List (List UINT)) : Prop :=
  ∀ slots : List UINT, slots.length = names.length →
    (wordBytes (elems slots).flatten).length = names.length * cbEntry

/-- Three pieces pushed as zeros are filled in, the last one first. -/
theorem fill_three (w : DxbcWriter) (a b c e a' b' c' : List Byte)
    (ha : a'.length = a.length) (hb : b'.length = b.length) (hc : c'.length = c.length) :
    (((w.push (a ++ (b ++ (c ++ e)))).fill (w.size + a.length + b.length) c').fill
        (w.size + a.length) b').fill w.size a' = w.push (a' ++ (b' ++ (c' ++ e))) := by
  have hoff : w.size + a.length + b.length = w.size + (a ++ b).length := by
    rw [List.length_append, Nat.add_assoc]
  have hfill₁ := w.fill_push (a ++ b) c e hoff hc
  rw [List.append_assoc, List.append_assoc] at hfill₁
  have hfill₂ := w.fill_push a b (c' ++ e) (Eq.refl (w.size + a.length)) hb
  have hfill₃ := w.fill_push [] a (b' ++ (c' ++ e)) (Eq.refl w.size) ha
  rw [List.nil_append, List.nil_append] at hfill₃
  rw [hfill₁, hfill₂, hfill₃]

/-- The offsets that start at zero are all set. -/
theorem emitNames_zero (pIosgn : Nat) (names : List CString) {w : DxbcWriter}
    (hblob : pIosgn < w.size) (hcap : w.size + (nameText names).length ≤ w.cbAlloc)
    (hlt : w.size - pIosgn + (nameText names).length < 2 ^ 32) :
    ∃ slots, emitNames pIosgn names (List.replicate names.length 0) w =
        some (slots, w.push (nameText names)) ∧
      slots.length = names.length ∧
      ∀ (i : Nat) name slot, names[i]? = some name → slots[i]? = some slot →
        ∃ o, slot.toNat = w.size - pIosgn + o ∧
          bytesAt (nameText names) o (name.length + 1) = some (name ++ [0]) := by
  have hpending := pendingNames_zero names
  obtain ⟨slots, heq, hslots, hall⟩ :=
    emitNames_append (List.length_replicate (n := names.length) (a := (0 : UINT))) hblob
      (by rw [hpending]; exact hcap) (by rw [hpending]; exact hlt)
  rw [hpending] at heq hall
  refine ⟨slots, heq, hslots, fun i name slot hname hslot => ?_⟩
  have hi : i < names.length := (List.getElem?_eq_some_iff.mp hname).1
  have hset := hall i name 0 slot hname (List.getElem?_replicate_of_lt hi) hslot
  rw [NameSlot, if_pos rfl] at hset
  obtain ⟨o, hs, hat⟩ := hset
  have hin := (bytesAt_eq_some_iff.mp hat).1
  refine ⟨o, ?_, hat⟩
  rw [hs, BitVec.toNat_ofNat, Nat.mod_eq_of_lt (by omega)]

/-- The body that `writeNamedBlob` leaves, before it is padded. -/
def namedFront (names : List CString) (elems : List UINT → List (List UINT))
    (slots : List UINT) : List Byte :=
  wordBytes [BitVec.ofNat 32 names.length, 8] ++
    (wordBytes (elems slots).flatten ++ nameText names)

/-- The body of a chunk of named elements, with the offset of the name of each. -/
structure NamedBody (names : List CString) (elems : List UINT → List (List UINT))
    (slots : List UINT) (body : List Byte) : Prop where
  bytes : body = padded (namedFront names elems slots)
  length_slots : slots.length = names.length
  nameAt : ∀ (i : Nat) name slot, names[i]? = some name → slots[i]? = some slot →
    bytesAt body slot.toNat (name.length + 1) = some (name ++ [0])

theorem NamedBody.aligned {names : List CString} {elems : List UINT → List (List UINT)}
    {slots : List UINT} {body : List Byte} (h : NamedBody names elems slots body) :
    body.length % 4 = 0 := by
  rw [h.bytes]
  exact length_padded_mod _

/-- The steps of `writeNamedBlob`: the header and the elements stand as zeros until the
    names are out, and are then filled in. -/
theorem writeNamedBlob_steps {w w₃ : DxbcWriter} {cbEntry : Nat} {names : List CString}
    {elems : List UINT → List (List UINT)} {slots : List UINT} (fourcc : UINT)
    (hw₃ : w₃ = ((w.push (List.replicate 8 0)).push (List.replicate 8 0)).push
      (List.replicate (names.length * cbEntry) 0))
    (hemit : emitNames (w.size + 8) names (List.replicate names.length 0) w₃ =
      some (slots, w₃.push (nameText names)))
    (helems : (wordBytes (elems slots).flatten).length = names.length * cbEntry)
    (hcap : w.size + 16 + names.length * cbEntry + (nameText names).length + 3 ≤ w.cbAlloc) :
    writeNamedBlob w fourcc cbEntry names elems =
      some (w.push (DxbcChunk.bytes
        { fourcc := fourcc, body := padded (namedFront names elems slots) })) := by
  have hsize₁ : (w.push (List.replicate 8 0)).size = w.size + 8 := DxbcWriter.push_size
  have hsize₂ : ((w.push (List.replicate 8 0)).push (List.replicate 8 0)).size = w.size + 16 := by
    rw [DxbcWriter.push_size, hsize₁]
    rfl
  have hsize₄ : (w₃.push (nameText names)).size =
      w.size + 16 + names.length * cbEntry + (nameText names).length := by
    rw [hw₃, DxbcWriter.push_size, DxbcWriter.push_size, hsize₂, List.length_replicate]
  unfold writeNamedBlob
  dsimp only
  rw [DxbcWriter.appendZeros_eq (by omega)]
  dsimp only [bind, Option.bind]
  rw [DxbcWriter.appendZeros_eq (by rw [hsize₁, DxbcWriter.push_cbAlloc]; omega)]
  dsimp only
  rw [DxbcWriter.appendZeros_eq (by
    rw [hsize₂, DxbcWriter.push_cbAlloc, DxbcWriter.push_cbAlloc]
    omega)]
  dsimp only
  rw [hsize₁, ← hw₃, hemit]
  dsimp only
  rw [pad_push (by rw [hsize₄, DxbcWriter.push_cbAlloc, hw₃]; show _ ≤ w.cbAlloc; omega)]
  dsimp only
  have hfront : (w₃.push (nameText names)).size - (w.size + 8) =
      (namedFront names elems slots).length := by
    rw [hsize₄, namedFront, List.length_append, List.length_append, helems, length_wordBytes]
    show _ = 8 + _
    omega
  rw [hfront, hsize₂]
  have hbody : ((w₃.push (nameText names)).push
      (List.replicate (padLength (namedFront names elems slots).length) 0)).size -
        (w.size + 8) = (padded (namedFront names elems slots)).length := by
    rw [DxbcWriter.push_size, List.length_replicate, length_padded, ← hfront]
    omega
  rw [hbody, hw₃, DxbcWriter.push_push, DxbcWriter.push_push, DxbcWriter.push_push,
    DxbcWriter.push_push]
  have hfill := fill_three w (List.replicate 8 0) (List.replicate 8 0)
    (List.replicate (names.length * cbEntry) 0)
    (nameText names ++ List.replicate (padLength (namedFront names elems slots).length) 0)
    (wordBytes [fourcc, BitVec.ofNat 32 (padded (namedFront names elems slots)).length])
    (wordBytes [BitVec.ofNat 32 names.length, 8]) (wordBytes (elems slots).flatten)
    rfl rfl (by rw [List.length_replicate, helems])
  rw [List.length_replicate, Nat.add_assoc] at hfill
  refine congrArg some (hfill.trans ?_)
  rw [DxbcChunk.bytes, padded, namedFront, List.append_assoc, List.append_assoc]

theorem length_namedFront {names : List CString} {cbEntry : Nat}
    {elems : List UINT → List (List UINT)} {slots : List UINT}
    (helems : (wordBytes (elems slots).flatten).length = names.length * cbEntry) :
    (namedFront names elems slots).length =
      8 + names.length * cbEntry + (nameText names).length := by
  rw [namedFront, List.length_append, List.length_append, helems, length_wordBytes, Nat.add_assoc]
  rfl

/-- A chunk of named elements is appended. -/
theorem writeNamedBlob_append {w : DxbcWriter} {cbEntry : Nat} {names : List CString}
    {elems : List UINT → List (List UINT)} (fourcc : UINT)
    (helems : ElementsOf names cbEntry elems)
    (hcap : w.size + 16 + names.length * cbEntry + (nameText names).length + 3 ≤ w.cbAlloc)
    (hlt : 8 + names.length * cbEntry + (nameText names).length < 2 ^ 32) :
    ∃ slots body,
      writeNamedBlob w fourcc cbEntry names elems =
        some (w.push (DxbcChunk.bytes { fourcc := fourcc, body := body })) ∧
      NamedBody names elems slots body := by
  generalize hw₃ : ((w.push (List.replicate 8 0)).push (List.replicate 8 0)).push
    (List.replicate (names.length * cbEntry) 0) = w₃
  have hsize : w₃.size = w.size + 16 + names.length * cbEntry := by
    rw [← hw₃, DxbcWriter.push_size, DxbcWriter.push_size, DxbcWriter.push_size,
      List.length_replicate, List.length_replicate]
  have halloc : w₃.cbAlloc = w.cbAlloc := by
    rw [← hw₃]
    rfl
  obtain ⟨slots, hemit, hslots, hnames⟩ :=
    emitNames_zero (w.size + 8) names (w := w₃) (by omega) (by omega) (by omega)
  have helem := helems slots hslots
  have hfront := length_namedFront helem
  refine ⟨slots, padded (namedFront names elems slots), ?_, rfl, hslots, ?_⟩
  · exact writeNamedBlob_steps fourcc hw₃.symm hemit helem (by omega)
  · intro i name slot hname hslot
    obtain ⟨o, hs, hat⟩ := hnames i name slot hname hslot
    have hin := (bytesAt_eq_some_iff.mp hat).1
    have hhead : (wordBytes [BitVec.ofNat 32 names.length, 8]).length = 8 := length_wordBytes _
    rw [padded, bytesAt_append_left (by omega), namedFront,
      bytesAt_append_right (by omega), bytesAt_append_right (by omega), hhead, helem,
      show slot.toNat - 8 - names.length * cbEntry = o by omega]
    exact hat

-- ============================================================================
-- The code chunk
-- ============================================================================

theorem padded_of_aligned {bs : List Byte} (h : bs.length % 4 = 0) : padded bs = bs := by
  rw [padded, padLength_eq_zero h]
  exact List.append_nil bs

/-- A code chunk is appended, padded if the code is not whole words. -/
theorem writeSHDRBlob_append {w : DxbcWriter} {code : List Byte} (fourcc : UINT)
    (hcap : w.size + 8 + code.length + 3 ≤ w.cbAlloc) :
    writeSHDRBlob w fourcc code =
      some (w.push (DxbcChunk.bytes { fourcc := fourcc, body := padded code })) := by
  have hsize : (w.push (List.replicate 8 0)).size = w.size + 8 := DxbcWriter.push_size
  have hlt := padLength_lt code.length
  have hfill : ((w.push (List.replicate 8 0)).push (padded code)).fill w.size (wordBytes [fourcc,
      BitVec.ofNat 32 (((w.push (List.replicate 8 0)).push (padded code)).size -
        (w.push (List.replicate 8 0)).size)]) =
      w.push (DxbcChunk.bytes { fourcc := fourcc, body := padded code }) := by
    rw [DxbcWriter.push_size, Nat.add_sub_cancel_left, DxbcWriter.push_push]
    exact w.fill_push [] (List.replicate 8 0) (padded code) rfl rfl
  unfold writeSHDRBlob
  dsimp only
  rw [DxbcWriter.appendZeros_eq (by omega)]
  dsimp only [bind, Option.bind]
  rw [DxbcWriter.append_eq (by rw [hsize, DxbcWriter.push_cbAlloc]; omega)]
  dsimp only
  by_cases hpad : padLength code.length = 0
  · have hcode : padded code = code := by
      rw [padded, hpad, List.replicate_zero, List.append_nil]
    rw [hcode] at hfill ⊢
    rw [if_pos hpad, hfill]
    rfl
  · have hroom : ((w.push (List.replicate 8 0)).push code).size + padLength code.length ≤
        w.cbAlloc := by
      rw [DxbcWriter.push_size, hsize]
      omega
    rw [if_neg hpad, DxbcWriter.appendZeros_eq hroom, DxbcWriter.push_push _ code]
    exact congrArg some hfill

end VirtioWddm
