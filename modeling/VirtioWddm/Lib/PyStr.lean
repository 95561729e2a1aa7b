/-
  VirtioWddm.Lib.PyStr

  Python strings and their encoding.

  A Python string is a list of code points, and one that is a surrogate has no UTF-8
  encoding.  The others are the characters of Lean, whose encoding is Lean's own.
-/

import Mathlib.Data.Fin.Basic
import Mathlib.Data.List.Basic
import VirtioWddm.Lib.Bytes

namespace Lib

abbrev CodePoint := Fin 0x110000

abbrev PyStr := List CodePoint

theorem toNat_lt_codePoints (c : Char) : c.toNat < 0x110000 := by
  have h : c.toNat.isValidChar := c.valid
  unfold Nat.isValidChar at h
  omega

def codePoint (c : Char) : CodePoint := ⟨c.toNat, toNat_lt_codePoints c⟩

/-- A string literal. -/
def pyStr (s : String) : PyStr :=
  s.toList.map codePoint

/-- The bytes of characters. -/
def utf8Bytes (cs : List Char) : List Byte :=
  (cs.flatMap String.utf8EncodeChar).map UInt8.toBitVec

/-- The encoding of one code point; a surrogate has none. -/
def encodePoint (c : CodePoint) : Option (List Byte) :=
  if h : c.val.isValidChar then some (utf8Bytes [Char.ofNatAux c.val h]) else none

/-- `s.encode("utf-8")`, where `none` is the exception. -/
def PyStr.encode : PyStr → Option (List Byte)
  | [] => some []
  | c :: s => do
      let b ← encodePoint c
      let bs ← PyStr.encode s
      return b ++ bs

-- ============================================================================
-- Characters
-- ============================================================================

theorem ofNatAux_toNat (c : Char) (h : c.toNat.isValidChar) : Char.ofNatAux c.toNat h = c := by
  apply Char.ext
  apply UInt32.toNat_inj.mp
  rfl

theorem encodePoint_codePoint (c : Char) : encodePoint (codePoint c) = some (utf8Bytes [c]) := by
  have hvalid : (codePoint c).val.isValidChar := c.valid
  rw [encodePoint, dif_pos hvalid]
  exact congrArg (fun d => some (utf8Bytes [d])) (ofNatAux_toNat c hvalid)

theorem encodePoint_eq_some {c : CodePoint} {b : List Byte} (h : encodePoint c = some b) :
    ∃ d, c = codePoint d ∧ b = utf8Bytes [d] := by
  rw [encodePoint] at h
  by_cases hvalid : c.val.isValidChar
  · rw [dif_pos hvalid] at h
    exact ⟨Char.ofNatAux c.val hvalid, rfl, (Option.some.inj h).symm⟩
  · rw [dif_neg hvalid] at h
    cases h

theorem utf8Bytes_cons (c : Char) (cs : List Char) :
    utf8Bytes (c :: cs) = utf8Bytes [c] ++ utf8Bytes cs := by
  rw [utf8Bytes, utf8Bytes, utf8Bytes, List.flatMap_cons, List.flatMap_singleton, List.map_append]

/-- The bytes of characters determine them. -/
theorem utf8Bytes_injective : Function.Injective utf8Bytes := by
  intro cs ds h
  have hbytes : cs.flatMap String.utf8EncodeChar = ds.flatMap String.utf8EncodeChar :=
    List.map_injective_iff.mpr (fun _ _ h => UInt8.toBitVec_inj.mp h) h
  have harrays : cs.utf8Encode = ds.utf8Encode := congrArg List.toByteArray hbytes
  rw [← String.toByteArray_ofList, ← String.toByteArray_ofList] at harrays
  exact String.ofList_inj.mp (String.toByteArray_inj.mp harrays)

theorem zero_not_mem_cons {n : Nat} {bs : List UInt8} (h : n % 256 ≠ 0) (hbs : (0 : UInt8) ∉ bs) :
    (0 : UInt8) ∉ UInt8.ofNat n :: bs := by
  apply List.not_mem_cons_of_ne_of_not_mem _ hbs
  intro heq
  have hnat := congrArg UInt8.toNat heq
  rw [UInt8.toNat_ofNat'] at hnat
  exact h hnat.symm

/-- Only the character NUL has a zero byte. -/
theorem zero_not_mem_utf8EncodeChar {c : Char} (h : c.toNat ≠ 0) :
    (0 : UInt8) ∉ String.utf8EncodeChar c := by
  have hlt := toNat_lt_codePoints c
  change c.val.toNat ≠ 0 at h
  change c.val.toNat < _ at hlt
  unfold String.utf8EncodeChar
  generalize c.val.toNat = v at h hlt
  dsimp only
  split
  case isTrue => exact zero_not_mem_cons (by omega) List.not_mem_nil
  case isFalse =>
    split
    case isTrue =>
      exact zero_not_mem_cons (by omega) (zero_not_mem_cons (by omega) List.not_mem_nil)
    case isFalse =>
      split
      case isTrue =>
        exact zero_not_mem_cons (by omega) (zero_not_mem_cons (by omega)
          (zero_not_mem_cons (by omega) List.not_mem_nil))
      case isFalse =>
        exact zero_not_mem_cons (by omega) (zero_not_mem_cons (by omega)
          (zero_not_mem_cons (by omega) (zero_not_mem_cons (by omega) List.not_mem_nil)))

-- ============================================================================
-- Strings
-- ============================================================================

/-- A string has an encoding if it is one of characters. -/
theorem encode_eq_some_iff {s : PyStr} {bs : List Byte} :
    s.encode = some bs ↔ ∃ cs : List Char, s = cs.map codePoint ∧ bs = utf8Bytes cs := by
  constructor
  · intro h
    induction s generalizing bs with
    | nil =>
        cases h
        exact ⟨[], rfl, rfl⟩
    | cons c s ih =>
        rw [PyStr.encode] at h
        obtain ⟨b, hb, h⟩ := Option.bind_eq_some_iff.mp h
        obtain ⟨rest, hrest, h⟩ := Option.bind_eq_some_iff.mp h
        cases h
        obtain ⟨d, rfl, rfl⟩ := encodePoint_eq_some hb
        obtain ⟨cs, rfl, rfl⟩ := ih hrest
        exact ⟨d :: cs, rfl, (utf8Bytes_cons d cs).symm⟩
  · rintro ⟨cs, rfl, rfl⟩
    induction cs with
    | nil => rfl
    | cons c cs ih =>
        rw [List.map_cons, PyStr.encode, encodePoint_codePoint, ih]
        exact congrArg some (utf8Bytes_cons c cs).symm

theorem encode_inj {s t : PyStr} {bs : List Byte} (hs : s.encode = some bs)
    (ht : t.encode = some bs) : s = t := by
  obtain ⟨cs, rfl, rfl⟩ := encode_eq_some_iff.mp hs
  obtain ⟨ds, rfl, hbytes⟩ := encode_eq_some_iff.mp ht
  rw [utf8Bytes_injective hbytes]

/-- The encoding of a string without NUL has no zero byte. -/
theorem zero_not_mem_encode {s : PyStr} {bs : List Byte} (h : s.encode = some bs)
    (hs : (0 : CodePoint) ∉ s) : (0 : Byte) ∉ bs := by
  obtain ⟨cs, rfl, rfl⟩ := encode_eq_some_iff.mp h
  intro hzero
  obtain ⟨byte, hbyte, hzero⟩ := List.mem_map.mp hzero
  obtain ⟨c, hc, hbyte⟩ := List.mem_flatMap.mp hbyte
  obtain rfl : byte = 0 := UInt8.toBitVec_inj.mp hzero
  have hnul : c.toNat ≠ 0 := fun h0 => hs (List.mem_map.mpr ⟨c, hc, Fin.ext h0⟩)
  exact zero_not_mem_utf8EncodeChar hnul hbyte

-- ============================================================================
-- Texts
-- ============================================================================

/-- `bs.decode("utf-8")`, where `none` is the exception. -/
def utf8Chars (bs : List Byte) : Option (List Char) :=
  (bs.map UInt8.ofBitVec).toByteArray.utf8Decode?.map Array.toList

theorem toByteArray_utf8Bytes (cs : List Char) :
    ((utf8Bytes cs).map UInt8.ofBitVec).toByteArray = cs.utf8Encode := by
  have hid : UInt8.ofBitVec ∘ UInt8.toBitVec = id := rfl
  rw [utf8Bytes, List.map_map, hid, List.map_id]
  rfl

/-- A text is decoded from its own bytes and from no others. -/
theorem utf8Chars_eq_some_iff {bs : List Byte} {cs : List Char} :
    utf8Chars bs = some cs ↔ bs = utf8Bytes cs := by
  constructor
  · intro h
    obtain ⟨chars, hchars, rfl⟩ := Option.map_eq_some_iff.mp h
    have hsome : (bs.map UInt8.ofBitVec).toByteArray.utf8Decode?.isSome := by
      rw [hchars]
      rfl
    have hencode := ByteArray.utf8Encode_get_utf8Decode? (h := hsome)
    rw [Option.get_of_eq_some hsome hchars, ← toByteArray_utf8Bytes] at hencode
    have hbytes : (utf8Bytes chars.toList).map UInt8.ofBitVec = bs.map UInt8.ofBitVec := by
      simpa using congrArg (fun b : ByteArray => b.data.toList) hencode
    exact (List.map_injective_iff.mpr (fun _ _ h => UInt8.ofBitVec.inj h) hbytes).symm
  · rintro rfl
    rw [utf8Chars, toByteArray_utf8Bytes, List.utf8Decode?_utf8Encode]
    rfl

/-- The ends of lines of a file that is read as text. -/
def universalNewlines : List Char → List Char
  | [] => []
  | '\r' :: '\n' :: s => '\n' :: universalNewlines s
  | '\r' :: s => '\n' :: universalNewlines s
  | c :: s => c :: universalNewlines s

end Lib
