/-
  VirtioWddm.Lib.Bytes

  Little-endian words in byte lists.

  `bytesAt` is a window of a list and `wordAt?` the word in a window of four; both
  are `none` where the window is not inside the list.  A list put together from
  pieces is read piece by piece: the rules for `++` move a window into the piece it
  lies in, and `patch` replaces a piece by another of its length.
-/

import Mathlib.Data.List.Basic
import Mathlib.Tactic.Common

namespace Lib

abbrev Byte := BitVec 8

-- ============================================================================
-- Words
-- ============================================================================

/-- The bytes of a word, lowest first. -/
def leBytes (v : BitVec 32) : List Byte :=
  [v.extractLsb' 0 8, v.extractLsb' 8 8, v.extractLsb' 16 8, v.extractLsb' 24 8]

/-- The word with the given bytes, lowest first. -/
def leWord (b₀ b₁ b₂ b₃ : Byte) : BitVec 32 :=
  b₃ ++ b₂ ++ b₁ ++ b₀

/-- The bytes of a list of words. -/
def wordBytes (ws : List (BitVec 32)) : List Byte :=
  ws.flatMap leBytes

@[simp] theorem length_leBytes (v : BitVec 32) : (leBytes v).length = 4 := rfl

@[simp] theorem length_wordBytes (ws : List (BitVec 32)) :
    (wordBytes ws).length = 4 * ws.length := by
  induction ws with
  | nil => rfl
  | cons w ws ih =>
      rw [wordBytes, List.flatMap_cons, List.length_append, length_leBytes, List.length_cons]
      rw [wordBytes] at ih
      omega

@[simp] theorem wordBytes_nil : wordBytes [] = [] := rfl

@[simp] theorem wordBytes_cons (w : BitVec 32) (ws : List (BitVec 32)) :
    wordBytes (w :: ws) = leBytes w ++ wordBytes ws :=
  List.flatMap_cons

theorem wordBytes_append (ws vs : List (BitVec 32)) :
    wordBytes (ws ++ vs) = wordBytes ws ++ wordBytes vs :=
  List.flatMap_append

theorem take_wordBytes (n : Nat) (ws : List (BitVec 32)) :
    (wordBytes ws).take (4 * n) = wordBytes (ws.take n) := by
  induction ws generalizing n with
  | nil => rw [List.take_nil, wordBytes_nil, List.take_nil]
  | cons w ws ih =>
      cases n with
      | zero => rfl
      | succ n =>
          rw [List.take_succ_cons, wordBytes_cons, wordBytes_cons, ← ih, Nat.mul_succ,
            Nat.add_comm, List.take_append, length_leBytes, Nat.add_sub_cancel_left,
            List.take_of_length_le (Nat.le_add_right 4 _)]

/-- A word is put together from its own bytes. -/
theorem leWord_leBytes (v : BitVec 32) :
    leWord (v.extractLsb' 0 8) (v.extractLsb' 8 8) (v.extractLsb' 16 8) (v.extractLsb' 24 8) =
      v := by
  apply BitVec.eq_of_getLsbD_eq
  intro i hi
  simp only [leWord, BitVec.getLsbD_append, BitVec.getLsbD_extractLsb']
  by_cases h₀ : i < 8
  · simp [h₀]
  · by_cases h₁ : i < 16
    · simp [h₀, show i - 8 < 8 by omega, show 8 + (i - 8) = i by omega]
    · by_cases h₂ : i < 24
      · simp [h₀, show ¬i - 8 < 8 by omega, show i - 8 - 8 < 8 by omega,
          show 16 + (i - 8 - 8) = i by omega]
      · simp [h₀, show ¬i - 8 < 8 by omega, show ¬i - 8 - 8 < 8 by omega,
          show i - 8 - 8 - 8 < 8 by omega, show 24 + (i - 8 - 8 - 8) = i by omega]

/-- The bytes of a word are those it was put together from. -/
theorem leBytes_leWord (b₀ b₁ b₂ b₃ : Byte) : leBytes (leWord b₀ b₁ b₂ b₃) = [b₀, b₁, b₂, b₃] := by
  have h₀ : (leWord b₀ b₁ b₂ b₃).extractLsb' 0 8 = b₀ := by
    apply BitVec.eq_of_getLsbD_eq
    intro i hi
    simp only [leWord, BitVec.getLsbD_append, BitVec.getLsbD_extractLsb', Nat.zero_add]
    simp [hi]
  have h₁ : (leWord b₀ b₁ b₂ b₃).extractLsb' 8 8 = b₁ := by
    apply BitVec.eq_of_getLsbD_eq
    intro i hi
    simp only [leWord, BitVec.getLsbD_append, BitVec.getLsbD_extractLsb', Nat.add_sub_cancel_left]
    simp [hi]
  have h₂ : (leWord b₀ b₁ b₂ b₃).extractLsb' 16 8 = b₂ := by
    apply BitVec.eq_of_getLsbD_eq
    intro i hi
    simp only [leWord, BitVec.getLsbD_append, BitVec.getLsbD_extractLsb',
      show 16 + i - 8 = 8 + i by omega, Nat.add_sub_cancel_left]
    simp [hi, show ¬16 + i < 8 by omega]
  have h₃ : (leWord b₀ b₁ b₂ b₃).extractLsb' 24 8 = b₃ := by
    apply BitVec.eq_of_getLsbD_eq
    intro i hi
    simp only [leWord, BitVec.getLsbD_append, BitVec.getLsbD_extractLsb',
      show 24 + i - 8 = 16 + i by omega, show 16 + i - 8 = 8 + i by omega,
      Nat.add_sub_cancel_left]
    simp [hi, show ¬24 + i < 8 by omega, show ¬16 + i < 8 by omega]
  rw [leBytes, h₀, h₁, h₂, h₃]

-- ============================================================================
-- Windows
-- ============================================================================

variable {bs cs : List Byte} {off n : Nat}

/-- The `n` bytes from `off` on. -/
def bytesAt (bs : List Byte) (off n : Nat) : Option (List Byte) :=
  if off + n ≤ bs.length then some ((bs.drop off).take n) else none

/-- The word at `off`. -/
def wordAt? (bs : List Byte) (off : Nat) : Option (BitVec 32) :=
  match bytesAt bs off 4 with
  | some [b₀, b₁, b₂, b₃] => some (leWord b₀ b₁ b₂ b₃)
  | _ => none

theorem bytesAt_eq_some_iff {ds : List Byte} :
    bytesAt bs off n = some ds ↔ off + n ≤ bs.length ∧ (bs.drop off).take n = ds := by
  rw [bytesAt]
  split
  case isTrue hle => simp [hle]
  case isFalse hle => simp [hle]

/-- A word inside the list can be read. -/
theorem exists_wordAt? (bs : List Byte) (off : Nat) (h : off + 4 ≤ bs.length) :
    ∃ w, wordAt? bs off = some w := by
  have hlen : ((bs.drop off).take 4).length = 4 := by
    rw [List.length_take, List.length_drop]
    omega
  obtain ⟨b₀, b₁, b₂, b₃, hword⟩ := List.length_eq_four.mp hlen
  refine ⟨leWord b₀ b₁ b₂ b₃, ?_⟩
  rw [wordAt?, bytesAt, if_pos h, hword]

/-- A window that lies in the first piece. -/
theorem bytesAt_append_left (h : off + n ≤ bs.length) :
    bytesAt (bs ++ cs) off n = bytesAt bs off n := by
  rw [bytesAt, bytesAt, if_pos h, if_pos (by rw [List.length_append]; omega)]
  rw [List.drop_append_of_le_length (by omega), List.take_append_of_le_length]
  rw [List.length_drop]
  omega

/-- A window that lies in the second piece. -/
theorem bytesAt_append_right (h : bs.length ≤ off) :
    bytesAt (bs ++ cs) off n = bytesAt cs (off - bs.length) n := by
  rw [bytesAt, bytesAt, List.drop_append, List.drop_of_length_le h, List.nil_append,
    List.length_append]
  by_cases hle : off - bs.length + n ≤ cs.length
  · rw [if_pos hle, if_pos (by omega)]
  · rw [if_neg hle, if_neg (by omega)]

/-- The whole of a middle piece. -/
theorem bytesAt_middle (bs cs ds : List Byte) :
    bytesAt (bs ++ (cs ++ ds)) bs.length cs.length = some cs := by
  rw [bytesAt_append_right (Nat.le_refl _), Nat.sub_self, bytesAt_append_left (by omega)]
  exact bytesAt_eq_some_iff.mpr ⟨by omega, by simp⟩

/-- The whole of the last piece. -/
theorem bytesAt_last (bs cs : List Byte) : bytesAt (bs ++ cs) bs.length cs.length = some cs := by
  have hmid := bytesAt_middle bs cs []
  rw [List.append_nil] at hmid
  exact hmid

theorem wordAt?_append_left (h : off + 4 ≤ bs.length) :
    wordAt? (bs ++ cs) off = wordAt? bs off := by
  rw [wordAt?, wordAt?, bytesAt_append_left h]

theorem wordAt?_append_right (h : bs.length ≤ off) :
    wordAt? (bs ++ cs) off = wordAt? cs (off - bs.length) := by
  rw [wordAt?, wordAt?, bytesAt_append_right h]

theorem wordAt?_leBytes (v : BitVec 32) (cs : List Byte) :
    wordAt? (leBytes v ++ cs) 0 = some v := by
  rw [wordAt?_append_left (Nat.le_refl 4)]
  exact congrArg some (leWord_leBytes v)

/-- The words of a list are at the multiples of four. -/
theorem wordAt?_wordBytes (ws : List (BitVec 32)) (cs : List Byte) {i : Nat}
    (hi : i < ws.length) :
    wordAt? (wordBytes ws ++ cs) (4 * i) = some ws[i] := by
  induction ws generalizing i with
  | nil => exact absurd hi (Nat.not_lt_zero i)
  | cons w ws ih =>
      rw [wordBytes_cons, List.append_assoc]
      cases i with
      | zero => exact wordAt?_leBytes w _
      | succ i =>
          rw [wordAt?_append_right (by rw [length_leBytes]; omega), length_leBytes,
            show 4 * (i + 1) - 4 = 4 * i by omega, ih (Nat.lt_of_succ_lt_succ hi)]
          rfl

/-- The word at an offset has the bytes from there on. -/
theorem bytesAt_of_wordAt? {v : BitVec 32} (h : wordAt? bs off = some v) :
    bytesAt bs off 4 = some (leBytes v) := by
  rw [wordAt?] at h
  split at h
  case h_1 b₀ b₁ b₂ b₃ hbytes =>
    cases h
    rw [hbytes, leBytes_leWord]
  case h_2 => cases h

/-- A word that can be read is inside the list. -/
theorem wordAt?_inside {v : BitVec 32} (h : wordAt? bs off = some v) : off + 4 ≤ bs.length :=
  (bytesAt_eq_some_iff.mp (bytesAt_of_wordAt? h)).1

/-- A window of a window. -/
theorem bytesAt_of_bytesAt {ds : List Byte} (h : bytesAt bs off n = some ds) {k m : Nat}
    (hk : k + m ≤ n) : bytesAt bs (off + k) m = bytesAt ds k m := by
  obtain ⟨hle, rfl⟩ := bytesAt_eq_some_iff.mp h
  have hlen : ((bs.drop off).take n).length = n := by
    rw [List.length_take, List.length_drop]
    omega
  rw [bytesAt, bytesAt, if_pos (by omega), if_pos (by omega), List.drop_take, List.drop_drop,
    List.take_take, Nat.min_eq_left (by omega)]

/-- A word of a window. -/
theorem wordAt?_of_bytesAt {ds : List Byte} (h : bytesAt bs off n = some ds) {k : Nat}
    (hk : k + 4 ≤ n) : wordAt? bs (off + k) = wordAt? ds k := by
  rw [wordAt?, wordAt?, bytesAt_of_bytesAt h hk]

/-- Two windows one behind the other. -/
theorem bytesAt_add {m : Nat} {as ds : List Byte} (has : bytesAt bs off m = some as)
    (hds : bytesAt bs (off + m) n = some ds) : bytesAt bs off (m + n) = some (as ++ ds) := by
  obtain ⟨-, rfl⟩ := bytesAt_eq_some_iff.mp has
  obtain ⟨hle, rfl⟩ := bytesAt_eq_some_iff.mp hds
  refine bytesAt_eq_some_iff.mpr ⟨by omega, ?_⟩
  rw [List.take_add, List.drop_drop]

/-- A window up to the end of the list. -/
theorem drop_of_bytesAt {ds : List Byte} (h : bytesAt bs off n = some ds)
    (hend : bs.length = off + n) : bs.drop off = ds := by
  obtain ⟨-, rfl⟩ := bytesAt_eq_some_iff.mp h
  rw [List.take_of_length_le]
  rw [List.length_drop]
  omega

/-- A window whose words are known. -/
theorem bytesAt_of_words (ws : List (BitVec 32)) (hoff : off ≤ bs.length)
    (h : ∀ i v, ws[i]? = some v → wordAt? bs (off + 4 * i) = some v) :
    bytesAt bs off (4 * ws.length) = some (wordBytes ws) := by
  induction ws generalizing off with
  | nil => exact bytesAt_eq_some_iff.mpr ⟨by simpa using hoff, by simp⟩
  | cons w ws ih =>
      have hw : wordAt? bs off = some w := h 0 w rfl
      have hin := wordAt?_inside hw
      have hrest : bytesAt bs (off + 4) (4 * ws.length) = some (wordBytes ws) :=
        ih hin fun i v hv => by
          rw [show off + 4 + 4 * i = off + 4 * (i + 1) by omega]
          exact h (i + 1) v hv
      rw [List.length_cons, Nat.mul_succ, Nat.add_comm, wordBytes_cons]
      exact bytesAt_add (bytesAt_of_wordAt? hw) hrest

/-- A window is as long as what it shows. -/
theorem length_of_bytesAt {ds : List Byte} (h : bytesAt bs off n = some ds) : ds.length = n := by
  obtain ⟨hle, rfl⟩ := bytesAt_eq_some_iff.mp h
  rw [List.length_take, List.length_drop]
  omega

/-- A word of a window of words. -/
theorem wordAt?_of_wordsAt {ws : List (BitVec 32)} (h : bytesAt bs off n = some (wordBytes ws))
    {i : Nat} {v : BitVec 32} (hi : ws[i]? = some v) : wordAt? bs (off + 4 * i) = some v := by
  obtain ⟨hlt, rfl⟩ := List.getElem?_eq_some_iff.mp hi
  have hlen := length_of_bytesAt h
  rw [length_wordBytes] at hlen
  have hword := wordAt?_wordBytes ws [] hlt
  rw [List.append_nil] at hword
  rw [wordAt?_of_bytesAt h (by omega), hword]

/-- A byte of a window. -/
theorem getElem?_of_bytesAt {ds : List Byte} (h : bytesAt bs off n = some ds) {k : Nat}
    (hk : k < n) : bs[off + k]? = ds[k]? := by
  obtain ⟨hle, rfl⟩ := bytesAt_eq_some_iff.mp h
  rw [List.getElem?_take_of_lt hk, List.getElem?_drop]

-- ============================================================================
-- Pieces of one length
-- ============================================================================

theorem length_flatten_of_length {β : Type} {pieces : List (List β)} {m : Nat}
    (h : ∀ p ∈ pieces, p.length = m) : pieces.flatten.length = pieces.length * m := by
  induction pieces with
  | nil => exact (Nat.zero_mul m).symm
  | cons p ps ih =>
      have hp := h p List.mem_cons_self
      have hps := ih fun q hq => h q (List.mem_cons_of_mem p hq)
      rw [List.flatten_cons, List.length_append, hp, hps, List.length_cons, Nat.succ_mul]
      exact Nat.add_comm _ _

/-- The pieces are at the multiples of their length. -/
theorem bytesAt_flatten {pieces : List (List Byte)} {m i : Nat} {p : List Byte}
    (h : ∀ p ∈ pieces, p.length = m) (hi : pieces[i]? = some p) :
    bytesAt pieces.flatten (i * m) m = some p := by
  induction pieces generalizing i with
  | nil =>
      rw [List.getElem?_nil] at hi
      cases hi
  | cons q ps ih =>
      have hq := h q List.mem_cons_self
      rw [List.flatten_cons]
      cases i with
      | zero =>
          obtain rfl : q = p := Option.some.inj hi
          rw [Nat.zero_mul, ← hq]
          exact bytesAt_middle [] q ps.flatten
      | succ i =>
          rw [Nat.succ_mul, bytesAt_append_right (by omega), hq, Nat.add_sub_cancel]
          exact ih (fun r hr => h r (List.mem_cons_of_mem q hr)) hi

/-- Pieces that are one behind the other. -/
theorem bytesAt_of_pieces {bs : List Byte} {pieces : List (List Byte)} {off m : Nat}
    (hoff : off ≤ bs.length) (hlen : ∀ q ∈ pieces, q.length = m)
    (h : ∀ i q, pieces[i]? = some q → bytesAt bs (off + i * m) m = some q) :
    bytesAt bs off (pieces.length * m) = some pieces.flatten := by
  induction pieces generalizing off with
  | nil =>
      refine bytesAt_eq_some_iff.mpr ⟨?_, ?_⟩
      · rw [List.length_nil, Nat.zero_mul]
        exact hoff
      · rw [List.length_nil, Nat.zero_mul, List.take_zero, List.flatten_nil]
  | cons q pieces ih =>
      have hq : bytesAt bs off m = some q := by
        have h₀ := h 0 q rfl
        rw [Nat.zero_mul, Nat.add_zero] at h₀
        exact h₀
      have hin := (bytesAt_eq_some_iff.mp hq).1
      have hrest : bytesAt bs (off + m) (pieces.length * m) = some pieces.flatten :=
        ih hin (fun r hr => hlen r (List.mem_cons_of_mem q hr)) fun i r hr => by
          rw [Nat.add_assoc, Nat.add_comm m, ← Nat.succ_mul]
          exact h (i + 1) r hr
      rw [List.length_cons, Nat.succ_mul, Nat.add_comm, List.flatten_cons]
      exact bytesAt_add hq hrest

theorem wordBytes_flatten (wss : List (List (BitVec 32))) :
    wordBytes wss.flatten = (wss.map wordBytes).flatten := by
  induction wss with
  | nil => rfl
  | cons ws wss ih => rw [List.flatten_cons, wordBytes_append, ih, List.map_cons, List.flatten_cons]

-- ============================================================================
-- Patches
-- ============================================================================

/-- The list with `ds` over what stands from `off` on. -/
def patch (bs : List Byte) (off : Nat) (ds : List Byte) : List Byte :=
  bs.take off ++ ds ++ bs.drop (off + ds.length)

/-- A piece is replaced by one of the same length. -/
theorem patch_middle (bs cs es ds : List Byte) (hlen : ds.length = cs.length) :
    patch (bs ++ (cs ++ es)) bs.length ds = bs ++ (ds ++ es) := by
  rw [patch, List.take_left, List.append_assoc, hlen, List.drop_append, List.drop_of_length_le
    (by omega), List.nil_append, Nat.add_sub_cancel_left, List.drop_left]

theorem length_patch {ds : List Byte} (h : off + ds.length ≤ bs.length) :
    (patch bs off ds).length = bs.length := by
  rw [patch, List.length_append, List.length_append, List.length_take, List.length_drop]
  omega

/-- The bytes up to the end of the piece. -/
theorem take_patch (bs ds : List Byte) (h : off ≤ bs.length) :
    (patch bs off ds).take (off + ds.length) = bs.take off ++ ds := by
  have hlen : (bs.take off ++ ds).length = off + ds.length := by
    rw [List.length_append, List.length_take]
    omega
  rw [patch, ← hlen, List.take_left]

/-- The bytes behind the piece. -/
theorem drop_patch (bs ds : List Byte) (h : off ≤ bs.length) :
    (patch bs off ds).drop (off + ds.length) = bs.drop (off + ds.length) := by
  have hlen : (bs.take off ++ ds).length = off + ds.length := by
    rw [List.length_append, List.length_take]
    omega
  rw [patch, ← hlen, List.drop_left]

/-- A byte of the patched list: it is in the piece, or is the old one. -/
theorem getElem?_patch {ds : List Byte} (h : off + ds.length ≤ bs.length) (k : Nat) :
    (patch bs off ds)[k]? =
      if off ≤ k ∧ k < off + ds.length then ds[k - off]? else bs[k]? := by
  have hfront : (bs.take off).length = off := by
    rw [List.length_take]
    omega
  rw [patch, List.append_assoc]
  by_cases hlow : k < off
  · rw [if_neg (by omega), List.getElem?_append_left (by omega), List.getElem?_take_of_lt hlow]
  · rw [List.getElem?_append_right (by omega), hfront]
    by_cases hin : k < off + ds.length
    · rw [if_pos ⟨by omega, hin⟩, List.getElem?_append_left (by omega)]
    · rw [if_neg (by omega), List.getElem?_append_right (by omega), List.getElem?_drop]
      congr 1
      omega

/-- A window is inside the list when its last byte is. -/
theorem window_le_iff (hn : 0 < n) : off + n ≤ bs.length ↔ bs[off + (n - 1)]?.isSome := by
  rw [Option.isSome_iff_ne_none, Ne, List.getElem?_eq_none_iff]
  omega

/-- Windows with the same bytes. -/
theorem bytesAt_congr {off' : Nat} (hn : 0 < n)
    (h : ∀ k, k < n → bs[off + k]? = cs[off' + k]?) : bytesAt bs off n = bytesAt cs off' n := by
  have hlast := h (n - 1) (by omega)
  rw [bytesAt, bytesAt]
  by_cases hin : off + n ≤ bs.length
  · have hin' : off' + n ≤ cs.length := by
      rw [window_le_iff hn, ← hlast]
      exact (window_le_iff hn).mp hin
    rw [if_pos hin, if_pos hin']
    apply congrArg some
    apply List.ext_getElem?
    intro k
    by_cases hk : k < n
    · rw [List.getElem?_take_of_lt hk, List.getElem?_take_of_lt hk, List.getElem?_drop,
        List.getElem?_drop]
      exact h k hk
    · rw [List.getElem?_eq_none (by rw [List.length_take]; omega),
        List.getElem?_eq_none (by rw [List.length_take]; omega)]
  · have hin' : ¬off' + n ≤ cs.length := by
      rw [window_le_iff hn, ← hlast]
      exact mt (window_le_iff hn).mpr hin
    rw [if_neg hin, if_neg hin']

/-- Words with the same bytes. -/
theorem wordAt?_congr {off' : Nat} (h : ∀ k, k < 4 → bs[off + k]? = cs[off' + k]?) :
    wordAt? bs off = wordAt? cs off' := by
  rw [wordAt?, wordAt?, bytesAt_congr (by decide) h]

/-- A window beside the piece. -/
theorem bytesAt_patch_of_disjoint {ds : List Byte} {at' : Nat} (h : off + ds.length ≤ bs.length)
    (hn : 0 < n) (hout : at' + n ≤ off ∨ off + ds.length ≤ at') :
    bytesAt (patch bs off ds) at' n = bytesAt bs at' n := by
  apply bytesAt_congr hn
  intro k hk
  rw [getElem?_patch h, if_neg (by omega)]

theorem wordAt?_patch_of_disjoint {ds : List Byte} {at' : Nat} (h : off + ds.length ≤ bs.length)
    (hout : at' + 4 ≤ off ∨ off + ds.length ≤ at') :
    wordAt? (patch bs off ds) at' = wordAt? bs at' := by
  rw [wordAt?, wordAt?, bytesAt_patch_of_disjoint h (by decide) hout]

/-- The piece is what was put there. -/
theorem bytesAt_patch_self (ds : List Byte) (h : off + ds.length ≤ bs.length) :
    bytesAt (patch bs off ds) off ds.length = some ds := by
  have hfront : (bs.take off).length = off := by
    rw [List.length_take]
    omega
  have hmid := bytesAt_middle (bs.take off) ds (bs.drop (off + ds.length))
  rw [hfront, ← List.append_assoc] at hmid
  exact hmid

theorem wordAt?_patch_self (v : BitVec 32) (h : off + 4 ≤ bs.length) :
    wordAt? (patch bs off (leBytes v)) off = some v := by
  have hself : bytesAt (patch bs off (leBytes v)) off 4 = some (leBytes v) :=
    bytesAt_patch_self (leBytes v) h
  rw [wordAt?, hself]
  exact congrArg some (leWord_leBytes v)

end Lib
