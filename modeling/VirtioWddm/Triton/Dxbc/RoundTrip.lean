/-
  VirtioWddm.Triton.Dxbc.RoundTrip

  What `tritonDxbcParseSig` reads back from a container of `tritonBuildDxbc`.

  The reader walks over the chunks: one that is not its signature is passed, whatever
  its header says, and the signature is taken exactly when it ends within the file
  size.  Its entries are then those that were written.
-/

import Mathlib.Data.List.Forall2
import VirtioWddm.Triton.Dxbc.Container
import VirtioWddm.Triton.Dxbc.Parse

namespace VirtioWddm

open Lib

-- ============================================================================
-- Chunks in memory
-- ============================================================================

/-- Chunks whose offsets are DWORDs. -/
def StartsFit : Nat → List DxbcChunk → Prop
  | _, [] => True
  | off, c :: cs => off < 2 ^ 32 ∧ StartsFit (off + c.bytes.length) cs

section Walk

variable {p : List Byte} {c : DxbcChunk} {off : Nat}

theorem bytesAt_body (h : bytesAt p off c.bytes.length = some c.bytes) :
    bytesAt p (off + 8) c.body.length = some c.body := by
  rw [bytesAt_of_bytesAt h (Nat.le_of_eq c.length_bytes.symm)]
  have hmid := bytesAt_middle (wordBytes [c.fourcc, BitVec.ofNat 32 c.body.length]) c.body []
  rw [List.append_nil] at hmid
  exact hmid

theorem wordAt?_tag (h : bytesAt p off c.bytes.length = some c.bytes) :
    wordAt? p off = some c.fourcc := by
  have hword := wordAt?_of_bytesAt h (k := 0) (by rw [DxbcChunk.length_bytes]; omega)
  rw [Nat.add_zero] at hword
  rw [hword]
  exact wordAt?_wordBytes [c.fourcc, BitVec.ofNat 32 c.body.length] _ (i := 0) Nat.zero_lt_two

theorem wordAt?_len (h : bytesAt p off c.bytes.length = some c.bytes) :
    wordAt? p (off + 4) = some (BitVec.ofNat 32 c.body.length) := by
  rw [wordAt?_of_bytesAt h (k := 4) (by rw [DxbcChunk.length_bytes]; omega)]
  exact wordAt?_wordBytes [c.fourcc, BitVec.ofNat 32 c.body.length] _ (i := 1) Nat.one_lt_two

/-- The tags the reader of a signature stops at. -/
def IsSigTag (fInput : Bool) (tag : UINT) : Prop :=
  tag = tagPrefer fInput ∨ (tag = tagMid fInput ∧ fInput = false) ∨ tag = tagBasic fInput

instance (fInput : Bool) (tag : UINT) : Decidable (IsSigTag fInput tag) :=
  inferInstanceAs (Decidable (_ ∨ _))

variable {fInput : Bool} {fileSize : UINT} {i n : Nat} {d : SigData}

/-- A chunk of another tag is passed. -/
theorem findSigChunk_pass (hslot : wordAt? p (32 + 4 * i) = some (BitVec.ofNat 32 off))
    (hoff : off < 2 ^ 32) (hbytes : bytesAt p off c.bytes.length = some c.bytes)
    (htag : ¬IsSigTag fInput c.fourcc) :
    findSigChunk p fInput fileSize (n + 1) i d = findSigChunk p fInput fileSize n (i + 1) d := by
  have hnat : (BitVec.ofNat 32 off).toNat = off := by
    rw [BitVec.toNat_ofNat, Nat.mod_eq_of_lt hoff]
  rw [findSigChunk, hslot]
  dsimp only [bind, Option.bind]
  split
  case isTrue => rfl
  case isFalse =>
    rw [hnat, wordAt?_tag hbytes, wordAt?_len hbytes]
    dsimp only
    split
    case isTrue => rfl
    case isFalse =>
      rw [if_neg fun h => htag (.inl h), if_neg fun h => htag (.inr (.inl h)),
        if_neg fun h => htag (.inr (.inr h.1))]

/-- The two checks of the reader say that the chunk ends behind the file size. -/
theorem beyond_iff {len : Nat} (hoff : off < 2 ^ 32) (hlen : len < 2 ^ 32)
    (hfile : 8 ≤ fileSize.toNat) :
    fileSize - 8#32 < BitVec.ofNat 32 off ∨
        fileSize - BitVec.ofNat 32 off - 8#32 < BitVec.ofNat 32 len ↔
      ¬off + (8 + len) ≤ fileSize.toNat := by
  bv_omega

/-- A chunk that ends behind the file size is passed. -/
theorem findSigChunk_beyond (hslot : wordAt? p (32 + 4 * i) = some (BitVec.ofNat 32 off))
    (hoff : off < 2 ^ 32) (hbytes : bytesAt p off c.bytes.length = some c.bytes)
    (hlen : c.body.length < 2 ^ 32) (hfile : 8 ≤ fileSize.toNat)
    (hend : ¬off + c.bytes.length ≤ fileSize.toNat) :
    findSigChunk p fInput fileSize (n + 1) i d = findSigChunk p fInput fileSize n (i + 1) d := by
  have hnat : (BitVec.ofNat 32 off).toNat = off := by
    rw [BitVec.toNat_ofNat, Nat.mod_eq_of_lt hoff]
  rw [DxbcChunk.length_bytes] at hend
  rw [findSigChunk, hslot]
  dsimp only [bind, Option.bind]
  rcases (beyond_iff hoff hlen hfile).mpr hend with hstart | hbody
  · rw [if_pos hstart]
  · rw [hnat, wordAt?_tag hbytes, wordAt?_len hbytes]
    dsimp only
    rw [if_pos hbody, ite_self]

/-- What the reader keeps of a signature chunk at `off`. -/
def sigDataAt (off : Nat) (c : DxbcChunk) : SigData where
  dataOff := BitVec.ofNat 32 (off + 8)
  dataLen := BitVec.ofNat 32 c.body.length
  entrySize := BitVec.ofNat 32 (tritonSigBlobLayout c.fourcc).cbEntry
  fHasStream := (tritonSigBlobLayout c.fourcc).fStream

/-- The reader's element layouts are the writer's. -/
theorem sigDataAt_eq {fourcc : UINT} {layout : SigBlobLayout} (htag : c.fourcc = fourcc)
    (hlayout : tritonSigBlobLayout fourcc = layout) (off : Nat) :
    sigDataAt off c =
      { dataOff := BitVec.ofNat 32 off + 8#32
        dataLen := BitVec.ofNat 32 c.body.length
        entrySize := BitVec.ofNat 32 layout.cbEntry
        fHasStream := layout.fStream } := by
  rw [sigDataAt, htag, hlayout, BitVec.ofNat_add]

/-- The signature is taken when it ends within the file size; behind one without
    streams the search goes on. -/
theorem findSigChunk_take (hslot : wordAt? p (32 + 4 * i) = some (BitVec.ofNat 32 off))
    (hoff : off < 2 ^ 32) (hbytes : bytesAt p off c.bytes.length = some c.bytes)
    (hlen : c.body.length < 2 ^ 32) (hfile : 8 ≤ fileSize.toNat)
    (hend : off + c.bytes.length ≤ fileSize.toNat) (htag : IsSigTag fInput c.fourcc)
    (hd : d.dataOff = 0) :
    findSigChunk p fInput fileSize (n + 1) i d = some (sigDataAt off c) ∨
      findSigChunk p fInput fileSize (n + 1) i d =
        findSigChunk p fInput fileSize n (i + 1) (sigDataAt off c) := by
  have hnat : (BitVec.ofNat 32 off).toNat = off := by
    rw [BitVec.toNat_ofNat, Nat.mod_eq_of_lt hoff]
  rw [DxbcChunk.length_bytes] at hend
  have hin := mt (beyond_iff hoff hlen hfile).mp (Decidable.not_not.mpr hend)
  rw [findSigChunk, hslot]
  dsimp only [bind, Option.bind]
  rw [if_neg fun h => hin (.inl h), hnat, wordAt?_tag hbytes, wordAt?_len hbytes]
  dsimp only
  rw [if_neg fun h => hin (.inr h)]
  rcases htag with htag | ⟨htag, rfl⟩ | htag
  · left
    rw [if_pos htag]
    cases fInput with
    | true => exact congrArg some (sigDataAt_eq htag rfl off).symm
    | false => exact congrArg some (sigDataAt_eq htag rfl off).symm
  · left
    rw [htag, if_neg (by decide), if_pos ⟨rfl, rfl⟩]
    exact congrArg some (sigDataAt_eq htag rfl off).symm
  · right
    rw [htag]
    cases fInput with
    | true =>
        rw [if_neg (by decide), if_neg (by decide), if_pos ⟨rfl, hd⟩]
        exact congrArg (findSigChunk p _ fileSize n (i + 1)) (sigDataAt_eq htag rfl off).symm
    | false =>
        rw [if_neg (by decide), if_neg (by decide), if_pos ⟨rfl, hd⟩]
        exact congrArg (findSigChunk p _ fileSize n (i + 1)) (sigDataAt_eq htag rfl off).symm

/-- Chunks of other tags are passed. -/
theorem findSigChunk_skip {chunks : List DxbcChunk} (h : ChunksFrom p (32 + 4 * i) off chunks)
    (hfit : StartsFit off chunks) (htags : ∀ c ∈ chunks, ¬IsSigTag fInput c.fourcc) :
    findSigChunk p fInput fileSize chunks.length i d = some d := by
  induction chunks generalizing i off with
  | nil => rfl
  | cons c cs ih =>
      obtain ⟨hslot, -, hbytes, hrest⟩ := h
      rw [List.length_cons, findSigChunk_pass hslot hfit.1 hbytes (htags c List.mem_cons_self)]
      exact ih hrest hfit.2 fun e he => htags e (List.mem_cons_of_mem c he)

/-- The search over the chunks `pre`, the signature `c`, and the chunks `post`.  The
    induction is on `pre`. -/
theorem findSigChunk_eq {pre post : List DxbcChunk} {start : Nat}
    (h : ChunksFrom p (32 + 4 * i) off (pre ++ c :: post))
    (hfit : StartsFit off (pre ++ c :: post))
    (hstart : start = off + (pre.flatMap DxbcChunk.bytes).length)
    (hpre : ∀ e ∈ pre, ¬IsSigTag fInput e.fourcc) (hpost : ∀ e ∈ post, ¬IsSigTag fInput e.fourcc)
    (htag : IsSigTag fInput c.fourcc) (hlen : c.body.length < 2 ^ 32)
    (hfile : 8 ≤ fileSize.toNat) :
    bytesAt p start c.bytes.length = some c.bytes ∧ start < 2 ^ 32 ∧
      findSigChunk p fInput fileSize (pre ++ c :: post).length i {} =
        some (if start + c.bytes.length ≤ fileSize.toNat then sigDataAt start c else {}) := by
  induction pre generalizing i off with
  | nil =>
      obtain ⟨hslot, -, hbytes, hrest⟩ := h
      have hpass : ∀ d : SigData, findSigChunk p fInput fileSize post.length (i + 1) d = some d :=
        fun d => findSigChunk_skip hrest hfit.2 hpost
      obtain rfl : start = off := hstart
      refine ⟨hbytes, hfit.1, ?_⟩
      by_cases hend : start + c.bytes.length ≤ fileSize.toNat
      · rw [if_pos hend]
        rcases findSigChunk_take (n := post.length) (d := {}) hslot hfit.1 hbytes hlen hfile hend
          htag rfl with htake | htake
        · exact htake
        · exact htake.trans (hpass _)
      · rw [if_neg hend]
        exact (findSigChunk_beyond hslot hfit.1 hbytes hlen hfile hend).trans (hpass _)
  | cons e pre ih =>
      obtain ⟨hslot, -, hbytes, hrest⟩ := h
      obtain ⟨hat, hlt, hfind⟩ := ih (i := i + 1) hrest hfit.2
        (by rw [hstart, List.flatMap_cons, List.length_append, Nat.add_assoc])
        fun o ho => hpre o (List.mem_cons_of_mem e ho)
      refine ⟨hat, hlt, ?_⟩
      rw [← hfind]
      exact findSigChunk_pass hslot hfit.1 hbytes (hpre e List.mem_cons_self)

end Walk

-- ============================================================================
-- Entries
-- ============================================================================

theorem getLsbD_fifteen (i : Nat) : (15#32).getLsbD i = decide (i < 4) := by
  by_cases h : i < 4
  · match i, h with
    | 0, _ | 1, _ | 2, _ | 3, _ => rfl
  · rw [decide_eq_false h, BitVec.getLsbD, BitVec.toNat_ofNat]
    exact Nat.testBit_lt_two_pow (Nat.lt_of_lt_of_le (by decide : 15 % 2 ^ 32 < 2 ^ 4)
      (Nat.pow_le_pow_right (by decide) (Nat.le_of_not_lt h)))

theorem getLsbD_byteMask {i : Nat} (h : i < 4) : (255#32).getLsbD i = true := by
  match i, h with
  | 0, _ | 1, _ | 2, _ | 3, _ => rfl

/-- The low byte of the DWORD of both masks has the component mask. -/
theorem lowByte_mask (mask used : UINT) :
    BitVec.setWidth 32 ((((mask &&& 0x0F#32) &&& 0xFF#32) |||
      ((used &&& 0xFF#32) <<< 8)).extractLsb' 0 8) &&& 0xF#32 = mask &&& 0x0F#32 := by
  apply BitVec.eq_of_getLsbD_eq
  intro i hi
  by_cases h4 : i < 4
  · have h8 : i < 8 := by omega
    simp only [BitVec.getLsbD_and, BitVec.getLsbD_setWidth, BitVec.getLsbD_extractLsb',
      BitVec.getLsbD_or, BitVec.getLsbD_shiftLeft, getLsbD_fifteen, Nat.zero_add, hi, h4, h8,
      getLsbD_byteMask h4]
    simp
  · simp only [BitVec.getLsbD_and, getLsbD_fifteen, h4, decide_false, Bool.and_false]

/-- The reader's checks of a count let a small number pass. -/
theorem count_passes {n : Nat} (hpos : 0 < n) (hle : n ≤ 256) :
    ¬(BitVec.ofNat 32 n = 0 ∨ 256#32 < BitVec.ofNat 32 n) := by
  have hn : (BitVec.ofNat 32 n).toNat = n := by
    rw [BitVec.toNat_ofNat, Nat.mod_eq_of_lt (by omega)]
  rintro (hzero | hlarge)
  · exact ofNat_ne_zero hpos (by omega) hzero
  · rw [BitVec.lt_def, hn] at hlarge
    exact absurd hlarge (Nat.not_lt.mpr hle)

section Entries

variable {p : List Byte}

/-- A name is read up to its terminator. -/
theorem readName_eq {name : CString} {n pos : Nat} (hnul : (0 : Byte) ∉ name)
    (hle : name.length ≤ n)
    (hat : ∀ k, k < name.length + 1 → p[pos + k]? = (name ++ [0])[k]?) :
    readName p (n + 1) pos = some name := by
  induction name generalizing n pos with
  | nil =>
      have hzero : p[pos]? = some 0 := hat 0 (by decide)
      rw [readName, hzero]
      rfl
  | cons a name ih =>
      have ha : p[pos]? = some a := hat 0 (Nat.succ_pos _)
      have hne : a ≠ 0 := fun h => hnul (h ▸ List.mem_cons_self)
      rw [List.length_cons] at hle
      obtain ⟨m, rfl⟩ : ∃ m, n = m + 1 := ⟨n - 1, by omega⟩
      have hrest : ∀ k, k < name.length + 1 → p[pos + 1 + k]? = (name ++ [0])[k]? := by
        intro k hk
        rw [Nat.add_assoc, Nat.add_comm 1 k]
        exact hat (k + 1) (Nat.succ_lt_succ hk)
      have hname := ih (n := m) (fun h => hnul (List.mem_cons_of_mem a h)) (by omega) hrest
      rw [readName, ha]
      dsimp only [bind, Option.bind]
      rw [if_neg hne, hname]
      rfl

/-- What the reader makes of an entry; without a stream in the element it is zero. -/
def parsedSig (fStream : Bool) (e : TritonSigEntry) : TritonDxbcSig where
  stream := if fStream then e.stream else 0
  register := e.reg
  semanticIndex := e.semIdx
  mask := e.mask &&& 0xF#32
  name := e.name

/-- The variables the reader sets from an element. -/
structure ElementReads (p : List Byte) (pe : Nat) (fStream : Bool) (e : TritonSigEntry)
    (offName : UINT) : Prop where
  stream : fStream = true → wordAt? p pe = some e.stream
  offName : wordAt? p (if fStream then pe + 4 else pe) = some offName
  semIdx : wordAt? p ((if fStream then pe + 4 else pe) + 4) = some e.semIdx
  reg : wordAt? p ((if fStream then pe + 4 else pe) + 16) = some e.reg
  mask : ∃ b : Byte, p[(if fStream then pe + 4 else pe) + 20]? = some b ∧
    b.setWidth 32 &&& 0xF#32 = e.mask &&& 0xF#32

theorem layout_cases (fourcc : UINT) :
    tritonSigBlobLayout fourcc = { cbEntry := 28, fStream := true, fMinPrec := false } ∨
      tritonSigBlobLayout fourcc = { cbEntry := 32, fStream := true, fMinPrec := true } ∨
      tritonSigBlobLayout fourcc = { cbEntry := 24, fStream := false, fMinPrec := false } := by
  unfold tritonSigBlobLayout
  split
  case isTrue => exact .inl rfl
  case isFalse =>
    split
    case isTrue => exact .inr (.inl rfl)
    case isFalse => exact .inr (.inr rfl)

/-- The reader's offsets into an element are the writer's. -/
theorem elementReads {pe : Nat} {fourcc blobClass progType offName : UINT} {e : TritonSigEntry}
    (h : bytesAt p pe (tritonSigBlobLayout fourcc).cbEntry =
      some (wordBytes (sigElement (tritonSigBlobLayout fourcc) blobClass progType e offName))) :
    ElementReads p pe (tritonSigBlobLayout fourcc).fStream e offName := by
  have hmask := lowByte_mask e.mask (usedMask blobClass progType (e.mask &&& 0x0F#32))
  rcases layout_cases fourcc with hlayout | hlayout | hlayout
  · rw [hlayout] at h ⊢
    exact ⟨fun _ => wordAt?_of_wordsAt h (i := 0) rfl, wordAt?_of_wordsAt h (i := 1) rfl,
      wordAt?_of_wordsAt h (i := 2) rfl, wordAt?_of_wordsAt h (i := 5) rfl,
      _, getElem?_of_bytesAt h (k := 24) (by decide), hmask⟩
  · rw [hlayout] at h ⊢
    exact ⟨fun _ => wordAt?_of_wordsAt h (i := 0) rfl, wordAt?_of_wordsAt h (i := 1) rfl,
      wordAt?_of_wordsAt h (i := 2) rfl, wordAt?_of_wordsAt h (i := 5) rfl,
      _, getElem?_of_bytesAt h (k := 24) (by decide), hmask⟩
  · rw [hlayout] at h ⊢
    exact ⟨fun hs => (by cases hs), wordAt?_of_wordsAt h (i := 0) rfl,
      wordAt?_of_wordsAt h (i := 1) rfl, wordAt?_of_wordsAt h (i := 4) rfl,
      _, getElem?_of_bytesAt h (k := 20) (by decide), hmask⟩

theorem readSigEntry_eq {d : SigData} {pe : Nat} {e : TritonSigEntry} (offName : UINT)
    (hreads : ElementReads p pe d.fHasStream e offName) (hin : offName < d.dataLen)
    (hname : readName p (min maxNameLength (d.dataLen - offName).toNat)
      (d.dataOff.toNat + offName.toNat) = some e.name) :
    readSigEntry p d pe = some (some (parsedSig d.fHasStream e)) := by
  obtain ⟨hstream, hoff, hsem, hreg, b, hb, hmask⟩ := hreads
  have hnot : ¬d.dataLen ≤ offName := BitVec.not_le.mpr hin
  unfold readSigEntry
  cases hs : d.fHasStream with
  | true =>
      rw [hs] at hstream hoff hsem hreg hb
      simp only [if_true] at hoff hsem hreg hb ⊢
      simp only [hstream rfl, hoff, hsem, hreg, hb, bind, Option.bind]
      rw [if_neg hnot, hname, hmask]
      rfl
  | false =>
      rw [hs] at hoff hsem hreg hb
      simp only [Bool.false_eq_true, if_false] at hoff hsem hreg hb ⊢
      simp only [hoff, hsem, hreg, hb, bind, Option.bind]
      rw [if_neg hnot, hname, hmask]
      rfl

/-- The entries from the `i`-th on are read, as many as there is room for.  The
    induction is on the entries. -/
theorem readSigEntries_eq {d : SigData} {entries : List TritonSigEntry} {i room : Nat}
    (h : ∀ j e, entries[j]? = some e →
      readSigEntry p d (d.dataOff.toNat + 8 + (i + j) * d.entrySize.toNat) =
        some (some (parsedSig d.fHasStream e))) :
    readSigEntries p d entries.length i room =
      some ((entries.take room).map (parsedSig d.fHasStream)) := by
  induction entries generalizing i room with
  | nil => rw [List.length_nil, readSigEntries, List.take_nil, List.map_nil]
  | cons e entries ih =>
      cases room with
      | zero => rfl
      | succ room =>
          have he : readSigEntry p d (d.dataOff.toNat + 8 + i * d.entrySize.toNat) =
            some (some (parsedSig d.fHasStream e)) := h 0 e rfl
          have hrest := @ih (i + 1) room fun j o ho => by
            rw [show i + 1 + j = i + (j + 1) by omega]
            exact h (j + 1) o ho
          rw [List.length_cons, readSigEntries, he]
          dsimp only [bind, Option.bind]
          rw [hrest]
          rfl

/-- The numbers the reader keeps of a chunk that ends below `2 ^ 32`. -/
theorem sigDataAt_toNat {c : DxbcChunk} {start : Nat}
    (hend : start + c.bytes.length < 2 ^ 32) :
    (sigDataAt start c).dataOff.toNat = start + 8 ∧
      (sigDataAt start c).dataLen.toNat = c.body.length ∧
      (sigDataAt start c).entrySize.toNat = (tritonSigBlobLayout c.fourcc).cbEntry := by
  have hcb := cbEntry_le c.fourcc
  rw [DxbcChunk.length_bytes] at hend
  refine ⟨?_, ?_, ?_⟩
  · exact Nat.mod_eq_of_lt (by omega)
  · exact Nat.mod_eq_of_lt (by omega)
  · exact Nat.mod_eq_of_lt (by omega)

/-- A signature chunk is far shorter than `2 ^ 32`. -/
theorem SigChunk.body_lt {c : DxbcChunk} {fourcc blobClass progType : UINT}
    {entries : List TritonSigEntry} (hchunk : SigChunk fourcc blobClass progType entries c)
    (hentries : SigEntries entries) : c.body.length < 2 ^ 32 := by
  have hmax : entries.length ≤ 128 := hentries.length_le
  have hle := hentries.sigChunkLength_le fourcc
  rw [← hchunk.length, DxbcChunk.length_bytes] at hle
  omega

theorem sigDataAt_fHasStream {c : DxbcChunk} {fourcc blobClass progType : UINT}
    {entries : List TritonSigEntry} (hchunk : SigChunk fourcc blobClass progType entries c)
    (start : Nat) : (sigDataAt start c).fHasStream = (tritonSigBlobLayout fourcc).fStream := by
  rw [sigDataAt, hchunk.tag]

theorem cbEntry_pos (fourcc : UINT) : 0 < (tritonSigBlobLayout fourcc).cbEntry := by
  rcases layout_cases fourcc with h | h | h
  · rw [h]; decide
  · rw [h]; decide
  · rw [h]; decide

/-- A chunk with its element count passes the reader's first test. -/
theorem sigDataAt_held {c : DxbcChunk} {start : Nat} (hend : start + c.bytes.length < 2 ^ 32)
    (hbody : 8 ≤ c.body.length) :
    ¬((sigDataAt start c).dataOff = 0 ∨ (sigDataAt start c).dataLen < 8#32 ∨
      (sigDataAt start c).entrySize = 0) := by
  obtain ⟨hoff, hlen, hsize⟩ := sigDataAt_toNat hend
  rintro (h | h | h)
  · rw [h] at hoff
    exact absurd hoff (Nat.ne_of_lt (Nat.succ_pos _))
  · rw [BitVec.lt_def, hlen] at h
    exact absurd h (Nat.not_lt.mpr hbody)
  · rw [h] at hsize
    exact absurd hsize (Nat.ne_of_lt (cbEntry_pos c.fourcc))

/-- One entry of a signature chunk is read back. -/
theorem readSigEntry_chunk {c : DxbcChunk} {start : Nat} {fourcc blobClass progType : UINT}
    {entries : List TritonSigEntry} (hentries : SigEntries entries)
    (hchunk : SigChunk fourcc blobClass progType entries c)
    (hbytes : bytesAt p start c.bytes.length = some c.bytes)
    (hend : start + c.bytes.length < 2 ^ 32) {j : Nat} {e : TritonSigEntry}
    (he : entries[j]? = some e) :
    readSigEntry p (sigDataAt start c)
        ((sigDataAt start c).dataOff.toNat + 8 + j * (sigDataAt start c).entrySize.toNat) =
      some (some (parsedSig (sigDataAt start c).fHasStream e)) := by
  obtain ⟨hoff, hlen, hsize⟩ := sigDataAt_toNat hend
  obtain ⟨offName, helem, hname⟩ := hchunk.elements.elementAt j e he
  have hbody := bytesAt_body hbytes
  have hshort := hentries.shortNames e (List.mem_of_getElem? he)
  have hlength := hshort.length_le
  have hin := (bytesAt_eq_some_iff.mp hname).1
  have helem_in := (bytesAt_eq_some_iff.mp helem).1
  have hlt : offName < (sigDataAt start c).dataLen := by
    rw [BitVec.lt_def, hlen]
    omega
  have havail : ((sigDataAt start c).dataLen - offName).toNat = c.body.length - offName.toNat := by
    rw [BitVec.toNat_sub_of_le (BitVec.le_of_lt hlt), hlen]
  apply readSigEntry_eq offName
  · rw [sigDataAt_fHasStream hchunk start, hoff, hsize, hchunk.tag,
      show start + 8 + 8 + j * _ = start + 8 + (8 + j * _) from Nat.add_assoc _ _ _]
    exact elementReads ((bytesAt_of_bytesAt hbody helem_in).trans helem)
  · exact hlt
  · rw [havail, hoff]
    obtain ⟨m, hm⟩ : ∃ m, min maxNameLength (c.body.length - offName.toNat) = m + 1 := by
      refine ⟨min maxNameLength (c.body.length - offName.toNat) - 1, ?_⟩
      rw [maxNameLength]
      omega
    rw [hm]
    apply readName_eq hshort.no_nul
    · rw [maxNameLength] at hm
      omega
    · intro k hk
      rw [Nat.add_assoc, getElem?_of_bytesAt hbody (by omega)]
      exact getElem?_of_bytesAt hname hk

/-- The entries of a signature chunk are read back. -/
theorem readSigData_eq {c : DxbcChunk} {start : Nat} {fourcc blobClass progType : UINT}
    {entries : List TritonSigEntry} (hentries : SigEntries entries)
    (hchunk : SigChunk fourcc blobClass progType entries c)
    (hbytes : bytesAt p start c.bytes.length = some c.bytes)
    (hend : start + c.bytes.length < 2 ^ 32) (maxEntries : UINT) :
    readSigData p (sigDataAt start c) maxEntries =
      some ((entries.take maxEntries.toNat).map
        (parsedSig (tritonSigBlobLayout fourcc).fStream)) := by
  obtain ⟨hoff, hlen, hsize⟩ := sigDataAt_toNat hend
  have hmax : entries.length ≤ 128 := hentries.length_le
  have hcb := cbEntry_le fourcc
  have hmul := Nat.mul_le_mul hmax hcb
  have hbody : 8 + entries.length * (tritonSigBlobLayout fourcc).cbEntry ≤ c.body.length := by
    have hlength := hchunk.length
    rw [sigChunkLength, DxbcChunk.length_bytes] at hlength
    omega
  have hcount : wordAt? p (start + 8) = some (BitVec.ofNat 32 entries.length) := by
    rw [← hchunk.elements.count]
    exact wordAt?_of_bytesAt (k := 0) (bytesAt_body hbytes) (by omega)
  have hn : (BitVec.ofNat 32 entries.length).toNat = entries.length := by
    rw [BitVec.toNat_ofNat, Nat.mod_eq_of_lt (by omega)]
  have hheld := sigDataAt_held hend (Nat.le_trans (Nat.le_add_right 8 _) hbody)
  rw [readSigData, if_neg hheld, hoff, hcount]
  dsimp only [bind, Option.bind]
  by_cases hzero : entries.length = 0
  · rw [List.length_eq_zero_iff.mp hzero, if_pos (.inl rfl), List.take_nil, List.map_nil]
  · have hcElem := count_passes (Nat.pos_of_ne_zero hzero) (by omega)
    have hfits : ¬(sigDataAt start c).dataLen <
        8#32 + BitVec.ofNat 32 entries.length * (sigDataAt start c).entrySize := by
      rw [BitVec.lt_def, hlen, BitVec.toNat_add, BitVec.toNat_mul, hn, hsize, hchunk.tag]
      show ¬c.body.length <
        (8 + entries.length * (tritonSigBlobLayout fourcc).cbEntry % 2 ^ 32) % 2 ^ 32
      omega
    rw [if_neg hcElem, if_neg hfits, hn, ← sigDataAt_fHasStream hchunk start]
    apply readSigEntries_eq
    intro j e he
    rw [Nat.zero_add]
    exact readSigEntry_chunk hentries hchunk hbytes hend he

end Entries

-- ============================================================================
-- The signature of a plan
-- ============================================================================

namespace DxbcPlan

variable (plan : DxbcPlan)

/-- The tag of the input or the output signature. -/
def sigFourcc (fInput : Bool) : UINT :=
  if fInput then plan.fccIn else plan.fccOut

/-- The final entries of the input or the output signature. -/
def sigEntries (fInput : Bool) : List TritonSigEntry :=
  if fInput then plan.aIn else plan.aOut

/-- Where the chunk of the signature starts. -/
def sigStart (fInput : Bool) : Nat :=
  plan.cbHdr + if fInput then 0 else sigChunkLength plan.fccIn plan.aIn

/-- Where the chunk of the signature ends. -/
def sigEnd (fInput : Bool) : Nat :=
  plan.sigStart fInput + sigChunkLength (plan.sigFourcc fInput) (plan.sigEntries fInput)

/-- The length of the container for `cbTokens` bytes of code. -/
def containerSize (cbTokens : Nat) : Nat :=
  plan.sigEnd false +
    (if plan.hullDomain then sigChunkLength plan.fccPatch plan.aPatch else 0) +
      (8 + (cbTokens + padLength cbTokens))

theorem cbHdr_eq : plan.cbHdr = 0x20 + 4 * plan.cBlob := by
  rw [cbHdr, cBlob]
  split
  case isTrue => rfl
  case isFalse => rfl

theorem isSigTag_fccIn : IsSigTag true plan.fccIn ∧ ¬IsSigTag false plan.fccIn := by
  rw [fccIn]
  split
  case isTrue => decide
  case isFalse => decide

theorem isSigTag_fccOut : IsSigTag false plan.fccOut ∧ ¬IsSigTag true plan.fccOut := by
  rw [fccOut]
  split
  case isTrue => decide
  case isFalse =>
    split
    case isTrue => decide
    case isFalse => decide

theorem not_isSigTag_fccPatch : ∀ fInput, ¬IsSigTag fInput plan.fccPatch := by
  rw [fccPatch]
  split
  case isTrue => decide
  case isFalse => decide

theorem not_isSigTag_fccShdr : ∀ fInput, ¬IsSigTag fInput plan.fccShdr := by
  rw [fccShdr]
  split
  case isTrue => decide
  case isFalse => decide

theorem isSigTag_sigFourcc (fInput : Bool) : IsSigTag fInput (plan.sigFourcc fInput) := by
  cases fInput with
  | true => exact plan.isSigTag_fccIn.1
  | false => exact plan.isSigTag_fccOut.1

end DxbcPlan

theorem DxbcPlan.Writable.sigEntries {plan : DxbcPlan} (h : plan.Writable) (fInput : Bool) :
    SigEntries (plan.sigEntries fInput) := by
  cases fInput with
  | true => exact h.aIn
  | false => exact h.aOut

/-- The signature among the chunks of the container: the others have other tags. -/
theorem ShaderChunks.split {plan : DxbcPlan} {code : List Byte} {chunks : List DxbcChunk}
    (h : ShaderChunks plan code chunks) (fInput : Bool) :
    ∃ pre c post blobClass, chunks = pre ++ c :: post ∧
      SigChunk (plan.sigFourcc fInput) blobClass plan.progType (plan.sigEntries fInput) c ∧
      plan.sigStart fInput = plan.cbHdr + (pre.flatMap DxbcChunk.bytes).length ∧
      (∀ e ∈ pre, ¬IsSigTag fInput e.fourcc) ∧ ∀ e ∈ post, ¬IsSigTag fInput e.fourcc := by
  have hnil : ∀ e ∈ ([] : List DxbcChunk), ¬IsSigTag fInput e.fourcc :=
    fun _ h => absurd h List.not_mem_nil
  have hcons : ∀ {c : DxbcChunk} {cs : List DxbcChunk}, ¬IsSigTag fInput c.fourcc →
      (∀ e ∈ cs, ¬IsSigTag fInput e.fourcc) → ∀ e ∈ c :: cs, ¬IsSigTag fInput e.fourcc :=
    fun hc hcs => List.forall_mem_cons.mpr ⟨hc, hcs⟩
  have hshdr := plan.not_isSigTag_fccShdr fInput
  cases h with
  | noPatch hhull hin hout =>
      cases fInput with
      | true =>
          exact ⟨[], _, _, _, rfl, hin, rfl, hnil,
            hcons (hout.tag ▸ plan.isSigTag_fccOut.2) (hcons hshdr hnil)⟩
      | false =>
          refine ⟨[_], _, _, _, rfl, hout, ?_, hcons (hin.tag ▸ plan.isSigTag_fccIn.2) hnil,
            hcons hshdr hnil⟩
          rw [List.flatMap_singleton, hin.length]
          rfl
  | patch hhull hin hout hpatch =>
      have hother := plan.not_isSigTag_fccPatch fInput
      rw [← hpatch.tag] at hother
      cases fInput with
      | true =>
          exact ⟨[], _, _, _, rfl, hin, rfl, hnil,
            hcons (hout.tag ▸ plan.isSigTag_fccOut.2) (hcons hother (hcons hshdr hnil))⟩
      | false =>
          refine ⟨[_], _, _, _, rfl, hout, ?_, hcons (hin.tag ▸ plan.isSigTag_fccIn.2) hnil,
            hcons hother (hcons hshdr hnil)⟩
          rw [List.flatMap_singleton, hin.length]
          rfl

/-- All chunks start at offsets that are DWORDs: only the code is long. -/
theorem ShaderChunks.startsFit {plan : DxbcPlan} {code : List Byte} {chunks : List DxbcChunk}
    (hplan : plan.Writable) (h : ShaderChunks plan code chunks) :
    StartsFit plan.cbHdr chunks := by
  have hmax : TRITON_DXBC_MAX_SIG_ENTRIES = 128 := rfl
  have hin_le := hplan.aIn.length_le
  have hout_le := hplan.aOut.length_le
  have hpatch_le := hplan.aPatch.length_le
  have hinSize := hplan.aIn.sigChunkLength_le plan.fccIn
  have houtSize := hplan.aOut.sigChunkLength_le plan.fccOut
  have hpatchSize := hplan.aPatch.sigChunkLength_le plan.fccPatch
  have hhdr : plan.cbHdr ≤ 48 := by
    rw [plan.cbHdr_eq, DxbcPlan.cBlob]
    split
    case isTrue => decide
    case isFalse => decide
  cases h with
  | noPatch hhull hin hout =>
      refine ⟨?_, ?_, ?_, trivial⟩
      · omega
      · rw [hin.length]
        omega
      · rw [hin.length, hout.length]
        omega
  | patch hhull hin hout hpatch =>
      refine ⟨?_, ?_, ?_, ?_, trivial⟩
      · omega
      · rw [hin.length]
        omega
      · rw [hin.length, hout.length]
        omega
      · rw [hin.length, hout.length, hpatch.length]
        omega

/-- Behind a good header with `n` chunks the reader looks for the signature. -/
theorem tritonDxbcParseSig_chunks {p : List Byte} {cbTotal maxEntries : UINT} {fInput : Bool}
    {n : Nat} (hsmall : ¬cbTotal.toNat < 32) (hmax : maxEntries ≠ 0)
    (hmagic : wordAt? p 0 = some TRITON_DXBC_MAGIC) (hsize : wordAt? p 24 = some cbTotal)
    (hcount : wordAt? p 28 = some (BitVec.ofNat 32 n)) (hpos : 0 < n) (hle : n ≤ 256) :
    tritonDxbcParseSig p cbTotal.toNat fInput maxEntries =
      if cbTotal.toNat < 32 + 4 * n then some []
      else (findSigChunk p fInput cbTotal n 0 {}).bind fun d => readSigData p d maxEntries := by
  have hn : (BitVec.ofNat 32 n).toNat = n := by
    rw [BitVec.toNat_ofNat, Nat.mod_eq_of_lt (by omega)]
  have hheader : cbTotal < 32#32 + BitVec.ofNat 32 n * 4#32 ↔ cbTotal.toNat < 32 + 4 * n := by
    bv_omega
  rw [tritonDxbcParseSig, if_neg fun h => h.elim hsmall hmax, hmagic]
  dsimp only [bind, Option.bind]
  rw [if_neg (not_not.mpr rfl), hsize, hcount]
  dsimp only
  rw [if_neg (Nat.lt_irrefl cbTotal.toNat), if_neg (count_passes hpos hle), hn]
  by_cases hlt : cbTotal.toNat < 32 + 4 * n
  · rw [if_pos hlt, if_pos (hheader.mpr hlt)]
  · rw [if_neg hlt, if_neg (mt hheader.mp hlt)]

/-- What the reader returns for a container of the writer, whose size has been cut to a
    DWORD. -/
theorem parse_containerBytes {plan : DxbcPlan} {code : List Byte} {chunks : List DxbcChunk}
    (hplan : plan.Writable) (h : ShaderChunks plan (padded code) chunks) (addr stack : Nat)
    (cbTotal : UINT) (fInput : Bool) (maxEntries : UINT) :
    tritonDxbcParseSig (containerBytes addr stack chunks cbTotal) cbTotal.toNat fInput maxEntries =
      some (if plan.sigEnd fInput ≤ cbTotal.toNat then
        ((plan.sigEntries fInput).take maxEntries.toNat).map
          (parsedSig (tritonSigBlobLayout (plan.sigFourcc fInput)).fStream)
      else []) := by
  obtain ⟨pre, c, post, blobClass, hsplit, hsig, hstart, hpre, hpost⟩ := h.split fInput
  have hlength := h.length_three_or_four
  have hchunks := containerBytes_chunks addr stack cbTotal h.aligned
  have hfit := h.startsFit hplan
  rw [plan.cbHdr_eq, ← h.length_eq] at hfit hstart
  have hsigEnd : plan.sigEnd fInput = plan.sigStart fInput + c.bytes.length := by
    rw [DxbcPlan.sigEnd, hsig.length]
  have hc : 8 ≤ c.bytes.length := by
    rw [DxbcChunk.length_bytes]
    omega
  by_cases hsmall : cbTotal.toNat < 32
  · rw [tritonDxbcParseSig, if_pos (.inl hsmall), if_neg (by omega)]
  by_cases hmax : maxEntries = 0
  · rw [tritonDxbcParseSig, if_pos (.inr hmax), hmax]
    show some [] = some (if _ then ((plan.sigEntries fInput).take 0).map _ else [])
    rw [List.take_zero, List.map_nil, ite_self]
  have hmagic : wordAt? (containerBytes addr stack chunks cbTotal) 0 = some TRITON_DXBC_MAGIC :=
    wordAt?_leBytes DXBC_MAGIC _
  have hsize : wordAt? (containerBytes addr stack chunks cbTotal) 24 = some cbTotal :=
    wordAt?_hashedPart (i := 1) rfl
  have hcount : wordAt? (containerBytes addr stack chunks cbTotal) 28 =
      some (BitVec.ofNat 32 chunks.length) := wordAt?_hashedPart (i := 2) rfl
  rw [tritonDxbcParseSig_chunks hsmall hmax hmagic hsize hcount (by omega) (by omega)]
  by_cases hheader : cbTotal.toNat < 32 + 4 * chunks.length
  · rw [if_pos hheader, if_neg (by omega)]
  rw [if_neg hheader]
  generalize containerBytes addr stack chunks cbTotal = p at hchunks ⊢
  subst hsplit
  have hfile : 8 ≤ cbTotal.toNat := by omega
  obtain ⟨hbytes, hfitStart, hfind⟩ := findSigChunk_eq (i := 0) hchunks hfit hstart hpre hpost
    (hsig.tag ▸ plan.isSigTag_sigFourcc fInput) (hsig.body_lt (hplan.sigEntries fInput)) hfile
  rw [hfind, ← hsigEnd, Option.bind_some]
  by_cases hend : plan.sigEnd fInput ≤ cbTotal.toNat
  · have hlt := cbTotal.isLt
    rw [if_pos hend, if_pos hend]
    exact readSigData_eq (hplan.sigEntries fInput) hsig hbytes (by omega) maxEntries
  · rw [if_neg hend, if_neg hend]
    rfl

-- ============================================================================
-- The round trip
-- ============================================================================

theorem ShaderChunks.containerLength_eq {plan : DxbcPlan} {code : List Byte}
    {chunks : List DxbcChunk} (h : ShaderChunks plan (padded code) chunks) :
    containerLength chunks = plan.containerSize code.length := by
  have hlen := h.length_eq
  have hpad := length_padded code
  rw [containerLength, hlen, DxbcPlan.containerSize, DxbcPlan.sigEnd, DxbcPlan.sigStart,
    plan.cbHdr_eq]
  cases h with
  | noPatch hhull hin hout =>
      simp only [List.flatMap_cons, List.flatMap_nil, List.append_nil, List.length_append,
        hin.length, hout.length, DxbcChunk.length_bytes, hpad, hhull, Bool.false_eq_true, if_false,
        DxbcPlan.sigFourcc, DxbcPlan.sigEntries]
      omega
  | patch hhull hin hout hpatch =>
      simp only [List.flatMap_cons, List.flatMap_nil, List.append_nil, List.length_append,
        hin.length, hout.length, hpatch.length, DxbcChunk.length_bytes, hpad, hhull,
        Bool.false_eq_true, if_true, if_false, DxbcPlan.sigFourcc, DxbcPlan.sigEntries]
      omega

/-- A build that succeeds has made a plan, copied the code and assembled the two. -/
theorem tritonBuildDxbc_inv {heap : DxbcHeap} {tokens : List UINT} {cbTokens : Nat}
    {pIn pOut pPatch : List DdiEntry} {entryStride : UINT} {built : List Byte × UINT}
    (hbuild : tritonBuildDxbc heap tokens cbTokens pIn pOut pPatch entryStride =
      .ok (some built)) :
    ∃ plan code, dxbcPlan tokens cbTokens pIn pOut pPatch entryStride = .ok plan ∧
      readTokenBytes tokens cbTokens = .ok code ∧
      assembleDxbc heap plan code = some built := by
  rw [tritonBuildDxbc] at hbuild
  split at hbuild
  case isTrue => cases hbuild
  case isFalse =>
    split at hbuild
    case isTrue => cases hbuild
    case isFalse =>
      split at hbuild
      case isTrue => cases hbuild
      case isFalse =>
        obtain ⟨plan, hplan, hbuild⟩ := bind_eq_ok hbuild
        obtain ⟨code, hcode, hbuild⟩ := bind_eq_ok hbuild
        exact ⟨plan, code, hplan, hcode, Except.ok.inj hbuild⟩

/-- A build that succeeds has written the container of its plan. -/
theorem tritonBuildDxbc_some {heap : DxbcHeap} {tokens : List UINT} {cbTokens : Nat}
    {pIn pOut pPatch : List DdiEntry} {entryStride : UINT} {bytes : List Byte} {cbOut : UINT}
    {plan : DxbcPlan}
    (hbuild : tritonBuildDxbc heap tokens cbTokens pIn pOut pPatch entryStride =
      .ok (some (bytes, cbOut)))
    (hplan : dxbcPlan tokens cbTokens pIn pOut pPatch entryStride = .ok plan) :
    ∃ addr code chunks, code.length = cbTokens ∧ ShaderChunks plan (padded code) chunks ∧
      bytes = containerBytes addr heap.stack chunks cbOut ∧
      cbOut = BitVec.ofNat 32 (containerLength chunks) := by
  obtain ⟨plan', code, hplan', hcode, hassemble⟩ := tritonBuildDxbc_inv hbuild
  obtain rfl : plan' = plan := Except.ok.inj (hplan'.symm.trans hplan)
  have hlength : code.length = cbTokens := by
    rw [readTokenBytes] at hcode
    split at hcode
    case isTrue hmem =>
      rw [← Except.ok.inj hcode, List.length_take, length_wordBytes, Nat.min_eq_left hmem]
    case isFalse => cases hcode
  cases hbuffer : heap.buffer with
  | none =>
      rw [assembleDxbc, hbuffer] at hassemble
      cases hassemble
  | some addr =>
      obtain ⟨chunks, hchunks, heq⟩ := assembleDxbc_eq code hbuffer (dxbcPlan_writable hplan)
      rw [heq] at hassemble
      cases hassemble
      exact ⟨addr, code, chunks, hlength, hchunks, rfl, rfl⟩

section RoundTrip

variable {heap : DxbcHeap} {tokens : List UINT} {cbTokens : Nat} {pIn pOut pPatch : List DdiEntry}
  {entryStride : UINT} {bytes : List Byte} {cbOut : UINT} {plan : DxbcPlan}

/-- What the reader returns for a container that was built. -/
theorem parse_build
    (hbuild : tritonBuildDxbc heap tokens cbTokens pIn pOut pPatch entryStride =
      .ok (some (bytes, cbOut)))
    (hplan : dxbcPlan tokens cbTokens pIn pOut pPatch entryStride = .ok plan) (fInput : Bool)
    (maxEntries : UINT) :
    tritonDxbcParseSig bytes cbOut.toNat fInput maxEntries =
      some (if plan.sigEnd fInput ≤ plan.containerSize cbTokens % 2 ^ 32 then
        ((plan.sigEntries fInput).take maxEntries.toNat).map
          (parsedSig (tritonSigBlobLayout (plan.sigFourcc fInput)).fStream)
      else []) := by
  obtain ⟨addr, code, chunks, hlength, hchunks, hbytes, hcbOut⟩ := tritonBuildDxbc_some hbuild hplan
  have hcb : cbOut.toNat = plan.containerSize cbTokens % 2 ^ 32 := by
    rw [hcbOut, BitVec.toNat_ofNat, hchunks.containerLength_eq, hlength]
  rw [hbytes, ← hcb]
  exact parse_containerBytes (dxbcPlan_writable hplan) hchunks addr heap.stack cbOut fInput
    maxEntries

/-- The streams of a signature are in its chunk, or are all zero. -/
def DxbcPlan.StreamsCarried (plan : DxbcPlan) (fInput : Bool) : Prop :=
  (tritonSigBlobLayout (plan.sigFourcc fInput)).fStream = true ∨
    ∀ e ∈ plan.sigEntries fInput, e.stream = 0

/-- What was read is the entry that was written. -/
structure SameSig (carried : Prop) (e : TritonSigEntry) (sig : TritonDxbcSig) : Prop where
  register : sig.register = e.reg
  semanticIndex : sig.semanticIndex = e.semIdx
  mask : sig.mask = e.mask &&& 0xF#32
  name : sig.name = e.name
  stream : carried → sig.stream = e.stream

/-- The reader returns the final entries of the signature, in order and up to
    `maxEntries`. -/
def SigRoundTrip (plan : DxbcPlan) (fInput : Bool) (maxEntries : UINT)
    (parsed : Option (List TritonDxbcSig)) : Prop :=
  ∃ sigs, parsed = some sigs ∧
    List.Forall₂ (SameSig (plan.StreamsCarried fInput))
      ((plan.sigEntries fInput).take maxEntries.toNat) sigs

theorem sameSig_parsedSig {fInput : Bool} {e : TritonSigEntry} (he : e ∈ plan.sigEntries fInput) :
    SameSig (plan.StreamsCarried fInput) e
      (parsedSig (tritonSigBlobLayout (plan.sigFourcc fInput)).fStream e) := by
  refine ⟨rfl, rfl, rfl, rfl, fun hcarried => ?_⟩
  rw [parsedSig]
  dsimp only
  split
  case isTrue => rfl
  case isFalse hnot =>
    rcases hcarried with hstream | hzero
    · exact absurd hstream hnot
    · exact (hzero e he).symm

/-- The shader with packed registers is built, and is short. -/
theorem tritonBuildDxbc_packed :
    ∃ bytes cbOut code,
      tritonBuildDxbc { scratch := true, buffer := some 64 } [0x00010040, 4, 0, 0] 16 packedIn
        packedOut [] 20 = .ok (some (bytes, cbOut)) ∧
      assembleDxbc { scratch := true, buffer := some 64 } packedPlan code = some (bytes, cbOut) ∧
      bytes.length < 2 ^ 32 := by
  obtain ⟨plan, bytes, cbOut, chunks, hplan, hbuild, hchunks, hlength, -⟩ :=
    tritonBuildDxbc_returns [0x00010040, 4, 0, 0] 4 16 rfl (by decide) (by decide) packedIn
      packedOut [] (.inr rfl) { scratch := true, buffer := some 64 } rfl rfl
  obtain rfl : plan = packedPlan := Except.ok.inj (hplan.symm.trans (packedPlan_eq 4 [] 16))
  obtain ⟨plan', code, hplan', -, hassemble⟩ := tritonBuildDxbc_inv hbuild
  obtain rfl : plan' = packedPlan := Except.ok.inj (hplan'.symm.trans hplan)
  have hpad : padded (wordBytes [0x00010040, 4, 0, 0]) = wordBytes [0x00010040, 4, 0, 0] := rfl
  have hchunks : ShaderChunks packedPlan (padded (wordBytes [0x00010040, 4, 0, 0])) chunks := by
    rw [hpad]
    exact hchunks
  refine ⟨bytes, cbOut, code, hbuild, hassemble, ?_⟩
  rw [hlength, hchunks.containerLength_eq]
  decide

/-- The signature is read back exactly when there is nothing to read, or its chunk ends
    within the length of the container as a DWORD. -/
theorem sigRoundTrip_iff
    (hbuild : tritonBuildDxbc heap tokens cbTokens pIn pOut pPatch entryStride =
      .ok (some (bytes, cbOut)))
    (hplan : dxbcPlan tokens cbTokens pIn pOut pPatch entryStride = .ok plan) (fInput : Bool)
    (maxEntries : UINT) :
    SigRoundTrip plan fInput maxEntries (tritonDxbcParseSig bytes cbOut.toNat fInput maxEntries) ↔
      plan.sigEntries fInput = [] ∨ maxEntries = 0 ∨
        plan.sigEnd fInput ≤ plan.containerSize cbTokens % 2 ^ 32 := by
  rw [parse_build hbuild hplan]
  by_cases hend : plan.sigEnd fInput ≤ plan.containerSize cbTokens % 2 ^ 32
  · rw [if_pos hend]
    refine iff_of_true ⟨_, rfl, ?_⟩ (.inr (.inr hend))
    rw [List.forall₂_map_right_iff, List.forall₂_same]
    exact fun e he => sameSig_parsedSig (List.mem_of_mem_take he)
  · rw [if_neg hend]
    constructor
    · rintro ⟨sigs, hsigs, hall⟩
      cases hsigs
      have htake := List.forall₂_nil_right_iff.mp hall
      rcases List.take_eq_nil_iff.mp htake with hzero | hnil
      · exact .inr (.inl (BitVec.eq_of_toNat_eq hzero))
      · exact .inl hnil
    · rintro (hnil | hzero | hle)
      · refine ⟨[], rfl, ?_⟩
        rw [hnil, List.take_nil]
        exact .nil
      · refine ⟨[], rfl, ?_⟩
        rw [hzero]
        exact .nil
      · exact absurd hle hend

end RoundTrip

/-- Both signatures of a shader with packed registers and names that several entries
    share are read back, and the first two entries of one if no more are wanted. -/
theorem sigRoundTrip_packed :
    ∃ bytes cbOut,
      tritonBuildDxbc { scratch := true, buffer := some 64 } [0x00010040, 4, 0, 0] 16 packedIn
        packedOut [] 20 = .ok (some (bytes, cbOut)) ∧
      packedPlan.StreamsCarried true ∧ packedPlan.StreamsCarried false ∧
      SigRoundTrip packedPlan true 64 (tritonDxbcParseSig bytes cbOut.toNat true 64) ∧
      SigRoundTrip packedPlan false 64 (tritonDxbcParseSig bytes cbOut.toNat false 64) ∧
      SigRoundTrip packedPlan true 2 (tritonDxbcParseSig bytes cbOut.toNat true 2) := by
  obtain ⟨bytes, cbOut, -, hbuild, -⟩ := tritonBuildDxbc_packed
  have hiff := sigRoundTrip_iff hbuild (packedPlan_eq 4 [] 16)
  exact ⟨bytes, cbOut, hbuild, .inl rfl, .inl rfl, (hiff true 64).mpr (.inr (.inr (by decide))),
    (hiff false 64).mpr (.inr (.inr (by decide))), (hiff true 2).mpr (.inr (.inr (by decide)))⟩

-- ============================================================================
-- A shader too long
-- ============================================================================

/-- A DDI output in `o0` that is the position. -/
def positionOut : DdiEntry where
  systemValue := 1
  registerIdx := 0
  mask := 0xF

/-- The plan of a vertex shader that declares nothing and has that output. -/
def positionPlan : DxbcPlan where
  progType := PROG_VS
  verMajor := 4
  aIn := []
  aOut :=
    [{ sysval := 1, reg := 0, mask := 0xF, compType := COMP_FLOAT32, minPrec := 0, stream := 0,
       name := cstr "SV_Position", dxSysValue := 1, semIdx := 0 }]
  aPatch := []

theorem positionPlan_eq (declared : UINT) (rest : List UINT) (cbTokens : Nat) :
    dxbcPlan (0x00010040 :: declared :: 0 :: 0 :: rest) cbTokens [] [positionOut] [] 12 =
      .ok positionPlan := by
  rw [dxbcPlan_undeclared]
  rfl

/-- The position of a shader of `2 ^ 30 - 3` DWORDs is not read back: the container is a
    few bytes longer than `2 ^ 32`, and what is left of its length ends before the output
    signature. -/
theorem sigRoundTrip_wrapped :
    ∃ bytes cbOut,
      dxbcPlan (0x00010040 :: 0x3FFFFFFD :: 0 :: 0 :: List.replicate 0x3FFFFFF9 0) 0xFFFFFFF4 []
        [positionOut] [] 12 = .ok positionPlan ∧
      tritonBuildDxbc { scratch := true, buffer := some 64 }
        (0x00010040 :: 0x3FFFFFFD :: 0 :: 0 :: List.replicate 0x3FFFFFF9 0) 0xFFFFFFF4 []
        [positionOut] [] 12 = .ok (some (bytes, cbOut)) ∧
      ¬SigRoundTrip positionPlan false 64 (tritonDxbcParseSig bytes cbOut.toNat false 64) := by
  generalize hrest : List.replicate 0x3FFFFFF9 (0 : UINT) = rest
  have hlen : rest.length = 0x3FFFFFF9 := by
    rw [← hrest, List.length_replicate]
  have hmem : 0xFFFFFFF4 ≤ 4 * (rest.length + 1 + 1 + 1 + 1) := by omega
  have hplan := positionPlan_eq 0x3FFFFFFD rest 0xFFFFFFF4
  obtain ⟨plan, bytes, cbOut, chunks, -, hbuild, -⟩ :=
    tritonBuildDxbc_returns (0x00010040 :: 0x3FFFFFFD :: 0 :: 0 :: rest) 0x3FFFFFFD 0xFFFFFFF4
      rfl (by decide)
      (by rw [List.length_cons, List.length_cons, List.length_cons, List.length_cons]; exact hmem)
      [] [positionOut] [] (.inl rfl) { scratch := true, buffer := some 64 } rfl rfl
  refine ⟨bytes, cbOut, hplan, hbuild, ?_⟩
  rintro ⟨sigs, hparse, hall⟩
  have hshort : ¬positionPlan.sigEnd false ≤ positionPlan.containerSize 0xFFFFFFF4 % 2 ^ 32 := by
    decide
  rw [parse_build hbuild hplan, if_neg hshort] at hparse
  cases hparse
  cases hall

end VirtioWddm
