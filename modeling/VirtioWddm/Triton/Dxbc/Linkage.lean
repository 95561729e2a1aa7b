/-
  VirtioWddm.Triton.Dxbc.Linkage

  The names of a stage's outputs beside those of the next stage's inputs.

  An ATTRIB is numbered by its location, which both stages see alike.  Any other name
  is numbered by counting, and then the two stages agree as long as the consumer has
  an entry for every entry of that name the producer counts.
-/

import Mathlib.Algebra.Group.Nat.Defs
import Mathlib.Data.List.Perm.Subperm
import VirtioWddm.Triton.Dxbc.Semantics

namespace VirtioWddm

-- ============================================================================
-- Stages and entries
-- ============================================================================

/-- The chunks that are linked by name: a stage's outputs and the inputs of the next
    one, and the patch constants of a hull and a domain shader. -/
inductive StageLink : UINT → UINT → UINT → UINT → Prop where
  | io (progP progC : UINT) (hps : progP ≠ PROG_PS) :
      StageLink DXBC_BLOB_TYPE_OSGN progP DXBC_BLOB_TYPE_ISGN progC
  | patch : StageLink DXBC_BLOB_TYPE_PCSG PROG_HS DXBC_BLOB_TYPE_PCSG PROG_DS

/-- Entries of one stream with registers, without overlap, as collection sorts
    them. -/
structure LinkageEntries (entries : List TritonSigEntry) : Prop where
  length : entries.length < 2 ^ 32
  stream : ∀ e ∈ entries, e.stream = 0
  reg : ∀ e ∈ entries, e.reg ≠ 0xFFFFFFFF#32
  unresolved : ∀ e ∈ entries, e.semIdx = 0xFFFFFFFF#32
  sorted : entries.Pairwise fun a b => tritonSigOrderBefore b a = false
  disjoint : entries.Pairwise fun a b => a.reg = b.reg → a.mask &&& b.mask = 0

/-- The same register, system value and first component. -/
structure Matches (c p : TritonSigEntry) : Prop where
  reg : c.reg = p.reg
  sysval : c.sysval = p.sysval
  firstComp : tritonFirstComp c.mask = tritonFirstComp p.mask

/-- Matching entries come out with the same name and index. -/
def LinkedByName (consumer producer consumer' producer' : List TritonSigEntry) : Prop :=
  ∀ (i j : Nat) (c p c' p' : TritonSigEntry), consumer[i]? = some c → producer[j]? = some p →
    Matches c p → consumer'[i]? = some c' → producer'[j]? = some p' →
      c'.name = p'.name ∧ c'.semIdx = p'.semIdx

/-- The name an entry gets outside pixel-shader outputs. -/
def tableName (e : TritonSigEntry) : CString :=
  (g_semInfo.getD e.sysval.toNat
    { name := attribName, compType := COMP_FLOAT32, dxSysValue := 0 }).name

/-- Where the name of two matching entries is not ATTRIB, as many entries of that name
    come before the one as before the other. -/
def InStep (consumer producer : List TritonSigEntry) : Prop :=
  ∀ (i j : Nat) (c p : TritonSigEntry), consumer[i]? = some c → producer[j]? = some p →
    Matches c p → tableName c ≠ attribName →
      (consumer.take i).countP (fun e => tableName e == tableName c) =
        (producer.take j).countP fun e => tableName e == tableName p

/-- No entry of the producer that the consumer lacks comes before a matched one of its
    name, unless the name is ATTRIB. -/
def NoneSkipped (consumer producer : List TritonSigEntry) : Prop :=
  ∀ c ∈ consumer, ∀ p ∈ producer, Matches c p → tableName c ≠ attribName →
    ∀ q ∈ producer, tritonSigOrderBefore q p = true → tableName q = tableName p →
      ∃ c' ∈ consumer, Matches c' q

-- ============================================================================
-- The index of an entry
-- ============================================================================

theorem Matches.tableName {c p : TritonSigEntry} (h : Matches c p) :
    VirtioWddm.tableName c = VirtioWddm.tableName p := by
  rw [VirtioWddm.tableName, VirtioWddm.tableName, h.sysval]

/-- The chunks of a link are named by the table. -/
theorem StageLink.table {blobP progP blobC progC : UINT} (h : StageLink blobP progP blobC progC) :
    ¬(blobP = DXBC_BLOB_TYPE_OSGN ∧ progP = PROG_PS) ∧
      ¬(blobC = DXBC_BLOB_TYPE_OSGN ∧ progC = PROG_PS) := by
  cases h with
  | io _ _ hps => exact ⟨fun h => hps h.2, fun h => absurd h.1 (by decide)⟩
  | patch => exact ⟨fun h => absurd h.1 (by decide), fun h => absurd h.1 (by decide)⟩

theorem namedEntry_name {blobType progType : UINT}
    (htable : ¬(blobType = DXBC_BLOB_TYPE_OSGN ∧ progType = PROG_PS)) (e : TritonSigEntry) :
    (namedEntry blobType progType e).name = tableName e := by
  show (pickSemanticInfo e.sysval blobType progType).name = _
  rw [pickSemanticInfo_table htable]
  rfl

/-- The entry at `i` after resolution: its name is the table's, its index the location
    or the number of entries of its name and stream before it. -/
theorem assign_at {blobType progType : UINT}
    (htable : ¬(blobType = DXBC_BLOB_TYPE_OSGN ∧ progType = PROG_PS))
    {entries : List TritonSigEntry} (scan : TritonShdrScan) {i : Nat} {e e' : TritonSigEntry}
    (he : entries[i]? = some e) (hunresolved : e.semIdx = 0xFFFFFFFF#32)
    (hreg : tableName e = attribName → e.reg ≠ 0xFFFFFFFF#32)
    (he' : (tritonAssignSemantics entries blobType progType scan)[i]? = some e') :
    e'.stream = e.stream ∧ e'.name = tableName e ∧
      e'.semIdx =
        if tableName e = attribName then e.reg * 4#32 + tritonFirstComp e.mask
        else BitVec.ofNat 32 ((entries.take i).countP fun o =>
          o.stream == e.stream && tableName o == tableName e) := by
  rw [tritonAssignSemantics_table htable, numberEntries_getElem?, List.getElem?_map, he] at he'
  obtain rfl := Option.some.inj he'
  refine ⟨rfl, namedEntry_name htable e, ?_⟩
  show entryIndex _ (namedEntry blobType progType e) = _
  have hidx : ¬(namedEntry blobType progType e).semIdx ≠ 0xFFFFFFFF#32 := not_not_intro hunresolved
  rw [entryIndex, if_neg hidx, namedEntry_name htable]
  by_cases hattrib : tableName e = attribName
  · have hreg : (namedEntry blobType progType e).reg ≠ 0xFFFFFFFF#32 := hreg hattrib
    rw [if_pos ⟨hreg, hattrib⟩, if_pos hattrib]
    rfl
  · rw [if_neg fun hboth => hattrib hboth.2, if_neg hattrib, List.nil_append, ← List.map_take,
      List.countP_map]
    congr 1
    refine List.countP_congr fun o _ => ?_
    show ((namedEntry blobType progType o).stream == (namedEntry blobType progType e).stream &&
      (namedEntry blobType progType o).name == tableName e) = true ↔ _
    rw [namedEntry_name htable]
    rfl

/-- On a single stream the entries of its name count. -/
theorem assign_getElem? {blobType progType : UINT}
    (htable : ¬(blobType = DXBC_BLOB_TYPE_OSGN ∧ progType = PROG_PS))
    {entries : List TritonSigEntry} (h : LinkageEntries entries) (scan : TritonShdrScan) {i : Nat}
    {e e' : TritonSigEntry} (he : entries[i]? = some e)
    (he' : (tritonAssignSemantics entries blobType progType scan)[i]? = some e') :
    e'.name = tableName e ∧
      e'.semIdx =
        if tableName e = attribName then e.reg * 4#32 + tritonFirstComp e.mask
        else BitVec.ofNat 32 ((entries.take i).countP fun o => tableName o == tableName e) := by
  have hmem := List.mem_of_getElem? he
  obtain ⟨-, hname, hidx⟩ :=
    assign_at htable scan he (h.unresolved e hmem) (fun _ => h.reg e hmem) he'
  refine ⟨hname, hidx.trans ?_⟩
  congr 2
  refine List.countP_congr fun o ho => ?_
  rw [(h.stream o (List.mem_of_mem_take ho)).trans (h.stream e hmem).symm, BEq.rfl, Bool.true_and]

/-- Below `2 ^ 32` entries the count determines the index. -/
theorem count_index_inj {entries entries' : List TritonSigEntry} (h : LinkageEntries entries)
    (h' : LinkageEntries entries') (i j : Nat) (q q' : TritonSigEntry → Bool) :
    BitVec.ofNat 32 ((entries.take i).countP q) = BitVec.ofNat 32 ((entries'.take j).countP q') ↔
      (entries.take i).countP q = (entries'.take j).countP q' := by
  have hle := (entries.take i).countP_le_length (p := q)
  have hle' := (entries'.take j).countP_le_length (p := q')
  have hlen := h.length
  have hlen' := h'.length
  rw [List.length_take] at hle hle'
  constructor
  · intro heq
    have hnat := congrArg BitVec.toNat heq
    rw [BitVec.toNat_ofNat, BitVec.toNat_ofNat, Nat.mod_eq_of_lt (by omega),
      Nat.mod_eq_of_lt (by omega)] at hnat
    exact hnat
  · intro heq
    rw [heq]

theorem linkedByName_iff_inStep {blobP progP blobC progC : UINT}
    (link : StageLink blobP progP blobC progC) {producer consumer : List TritonSigEntry}
    (hp : LinkageEntries producer) (hc : LinkageEntries consumer) (scanP scanC : TritonShdrScan) :
    LinkedByName consumer producer (tritonAssignSemantics consumer blobC progC scanC)
        (tritonAssignSemantics producer blobP progP scanP) ↔
      InStep consumer producer := by
  obtain ⟨htableP, htableC⟩ := link.table
  have hresolved : ∀ {blob prog : UINT}, ¬(blob = DXBC_BLOB_TYPE_OSGN ∧ prog = PROG_PS) →
      ∀ (entries : List TritonSigEntry) (scan : TritonShdrScan) (i : Nat) (e : TritonSigEntry),
        entries[i]? = some e →
          ∃ e', (tritonAssignSemantics entries blob prog scan)[i]? = some e' := by
    intro blob prog htable entries scan i e he
    rw [tritonAssignSemantics_table htable, numberEntries_getElem?, List.getElem?_map, he]
    exact ⟨_, rfl⟩
  constructor
  · intro hlinked i j c p hci hpj hmatch hname
    obtain ⟨c', hci'⟩ := hresolved htableC consumer scanC i c hci
    obtain ⟨p', hpj'⟩ := hresolved htableP producer scanP j p hpj
    have hidx := (hlinked i j c p c' p' hci hpj hmatch hci' hpj').2
    have hnameP : tableName p ≠ attribName := hmatch.tableName ▸ hname
    rw [(assign_getElem? htableC hc scanC hci hci').2, if_neg hname,
      (assign_getElem? htableP hp scanP hpj hpj').2, if_neg hnameP] at hidx
    exact (count_index_inj hc hp i j _ _).mp hidx
  · intro hstep i j c p c' p' hci hpj hmatch hci' hpj'
    obtain ⟨hnameC, hidxC⟩ := assign_getElem? htableC hc scanC hci hci'
    obtain ⟨hnameP, hidxP⟩ := assign_getElem? htableP hp scanP hpj hpj'
    refine ⟨by rw [hnameC, hnameP, hmatch.tableName], ?_⟩
    rw [hidxC, hidxP]
    by_cases hname : tableName c = attribName
    · rw [if_pos hname, if_pos (hmatch.tableName ▸ hname), hmatch.reg, hmatch.firstComp]
    · rw [if_neg hname, if_neg (hmatch.tableName ▸ hname)]
      exact (count_index_inj hc hp i j _ _).mpr (hstep i j c p hci hpj hmatch hname)

-- ============================================================================
-- Strict order
-- ============================================================================

/-- The first component of a mask is one of its components. -/
theorem getLsbD_tritonFirstComp {mask : UINT} (h : mask &&& 0x0F#32 ≠ 0) :
    mask.getLsbD (tritonFirstComp mask).toNat = true := by
  have hbit : ∀ i : Nat, i < 32 → mask &&& (1#32 <<< i) ≠ 0 → mask.getLsbD i = true := by
    intro i hi hne
    by_contra hbit
    refine hne (BitVec.eq_of_getLsbD_eq fun k hk => ?_)
    simp only [BitVec.getLsbD_and, BitVec.getLsbD_shiftLeft, BitVec.getLsbD_one]
    by_cases hki : k = i
    · subst hki
      simp [hbit]
    · by_cases hlt : k < i
      · simp [hlt]
      · have hsub : k - i ≠ 0 := by omega
        simp [hsub]
  unfold tritonFirstComp
  split
  case isTrue h₀ => exact hbit 0 (by omega) h₀
  case isFalse h₀ =>
    split
    case isTrue h₁ => exact hbit 1 (by omega) h₁
    case isFalse h₁ =>
      split
      case isTrue h₂ => exact hbit 2 (by omega) h₂
      case isFalse h₂ =>
        split
        case isTrue h₃ => exact hbit 3 (by omega) h₃
        case isFalse h₃ =>
          refine absurd ?_ h
          have hsum : (0x0F#32 : UINT) = 1#32 ||| 2#32 ||| 4#32 ||| 8#32 := by decide
          rw [hsum, BitVec.and_or_distrib_left, BitVec.and_or_distrib_left,
            BitVec.and_or_distrib_left, not_not.mp h₀, not_not.mp h₁, not_not.mp h₂, not_not.mp h₃]
          rfl

/-- Masks without a common component begin at different ones. -/
theorem tritonFirstComp_ne {a b : UINT} (ha : a &&& 0x0F#32 ≠ 0) (hb : b &&& 0x0F#32 ≠ 0)
    (hdisjoint : a &&& b = 0) : tritonFirstComp a ≠ tritonFirstComp b := by
  intro heq
  have hbitA := getLsbD_tritonFirstComp ha
  have hbitB := getLsbD_tritonFirstComp hb
  rw [← heq] at hbitB
  have hboth : (a &&& b).getLsbD (tritonFirstComp a).toNat = true := by
    rw [BitVec.getLsbD_and, hbitA, hbitB]
    rfl
  rw [hdisjoint] at hboth
  simp at hboth

/-- The order on a single stream is that of register and first component. -/
theorem sigOrderBefore_iff {a b : TritonSigEntry} (hstream : a.stream = b.stream) :
    tritonSigOrderBefore a b = true ↔
      a.reg < b.reg ∨ (a.reg = b.reg ∧ tritonFirstComp a.mask < tritonFirstComp b.mask) := by
  rw [tritonSigOrderBefore, if_neg (not_not_intro hstream)]
  by_cases hreg : a.reg = b.reg
  · rw [if_neg (not_not_intro hreg), decide_eq_true_eq, hreg]
    simp
  · rw [if_pos hreg, decide_eq_true_eq]
    simp [hreg]

theorem sigOrderBefore_irrefl (a : TritonSigEntry) : tritonSigOrderBefore a a = false := by
  simp [tritonSigOrderBefore]

theorem sigOrderBefore_asymm {a b : TritonSigEntry} (h : tritonSigOrderBefore a b = true) :
    tritonSigOrderBefore b a = false := by
  unfold tritonSigOrderBefore at h ⊢
  by_cases hstream : a.stream = b.stream
  · by_cases hreg : a.reg = b.reg
    · simp [hstream, hreg] at h ⊢
      exact BitVec.le_of_lt h
    · simp [hstream, hreg, Ne.symm hreg] at h ⊢
      exact BitVec.le_of_lt h
  · simp [hstream, Ne.symm hstream] at h ⊢
    exact BitVec.le_of_lt h

/-- All masks have a component. -/
def AllMasked (entries : List TritonSigEntry) : Prop :=
  ∀ e ∈ entries, e.mask &&& 0x0F#32 ≠ 0

/-- Then the entries are in strict order. -/
theorem LinkageEntries.strict {entries : List TritonSigEntry} (h : LinkageEntries entries)
    (hmask : AllMasked entries) :
    entries.Pairwise fun a b => tritonSigOrderBefore a b = true := by
  refine List.Pairwise.imp_of_mem ?_ (h.sorted.and h.disjoint)
  rintro a b ha hb ⟨hsorted, hdisjoint⟩
  have hstream : a.stream = b.stream := (h.stream a ha).trans (h.stream b hb).symm
  have hle :
      ¬(b.reg < a.reg ∨ b.reg = a.reg ∧ tritonFirstComp b.mask < tritonFirstComp a.mask) := by
    rw [← sigOrderBefore_iff hstream.symm, hsorted]
    simp
  rw [sigOrderBefore_iff hstream]
  by_cases hreg : a.reg = b.reg
  · refine .inr ⟨hreg, ?_⟩
    have hne := tritonFirstComp_ne (hmask a ha) (hmask b hb) (hdisjoint hreg)
    have hcomp : ¬tritonFirstComp b.mask < tritonFirstComp a.mask :=
      fun hlt => hle (.inr ⟨hreg.symm, hlt⟩)
    exact BitVec.lt_of_le_ne (BitVec.not_lt.mp hcomp) hne
  · refine .inl (BitVec.lt_of_le_ne (BitVec.not_lt.mp fun hlt => hle (.inl hlt)) hreg)

/-- In a strictly ordered list what comes before an entry is what is smaller. -/
theorem mem_take_iff_before {entries : List TritonSigEntry}
    (h : entries.Pairwise fun a b => tritonSigOrderBefore a b = true) {i : Nat}
    {e q : TritonSigEntry} (he : entries[i]? = some e) :
    q ∈ entries.take i ↔ q ∈ entries ∧ tritonSigOrderBefore q e = true := by
  obtain ⟨hi, rfl⟩ := List.getElem?_eq_some_iff.mp he
  rw [List.pairwise_iff_getElem] at h
  constructor
  · intro hq
    refine ⟨List.mem_of_mem_take hq, ?_⟩
    obtain ⟨k, hk, rfl⟩ := List.mem_take_iff_getElem.mp hq
    exact h k i (by omega) hi (by omega)
  · rintro ⟨hq, hbefore⟩
    obtain ⟨k, hk, rfl⟩ := List.getElem_of_mem hq
    refine List.mem_take_iff_getElem.mpr ⟨k, ?_, rfl⟩
    have hki : k < i := by
      by_contra hge
      by_cases heq : k = i
      · subst heq
        rw [sigOrderBefore_irrefl] at hbefore
        cases hbefore
      · have hlt := h i k hi hk (by omega)
        rw [sigOrderBefore_asymm hlt] at hbefore
        cases hbefore
    omega

-- ============================================================================
-- What is skipped
-- ============================================================================

/-- What two matching entries have in common. -/
def matchKey (e : TritonSigEntry) : UINT × UINT × UINT :=
  (e.reg, e.sysval, tritonFirstComp e.mask)

theorem matchKey_eq_iff {c p : TritonSigEntry} : matchKey c = matchKey p ↔ Matches c p := by
  constructor
  · intro h
    obtain ⟨hreg, hsysval, hcomp⟩ : c.reg = p.reg ∧ c.sysval = p.sysval ∧
        tritonFirstComp c.mask = tritonFirstComp p.mask := by simpa [matchKey] using h
    exact ⟨hreg, hsysval, hcomp⟩
  · intro h
    rw [matchKey, matchKey, h.reg, h.sysval, h.firstComp]

instance (c p : TritonSigEntry) : Decidable (Matches c p) :=
  decidable_of_iff (matchKey c = matchKey p) matchKey_eq_iff

/-- Of two lists without repetition, one within the other, neither is longer exactly
    when they have the same elements. -/
theorem length_eq_iff_subset {α : Type} {l l' : List α} (hl : l.Nodup) (hl' : l'.Nodup)
    (hsub : l ⊆ l') : l.length = l'.length ↔ l' ⊆ l := by
  have hle := (List.subperm_of_subset hl hsub).length_le
  constructor
  · intro heq
    exact ((List.subperm_of_subset hl hsub).perm_of_length_le (by omega)).symm.subset
  · intro hsub'
    have hge := (List.subperm_of_subset hl' hsub').length_le
    omega

/-- Strictly ordered entries differ in their keys. -/
theorem nodup_matchKey {entries : List TritonSigEntry} (h : LinkageEntries entries)
    (hstrict : entries.Pairwise fun a b => tritonSigOrderBefore a b = true) :
    (entries.map matchKey).Nodup := by
  rw [List.Nodup, List.pairwise_map]
  refine List.Pairwise.imp_of_mem ?_ hstrict
  intro a b ha hb hbefore heq
  have hmatch := matchKey_eq_iff.mp heq
  rw [sigOrderBefore_iff ((h.stream a ha).trans (h.stream b hb).symm), hmatch.reg,
    hmatch.firstComp] at hbefore
  rcases hbefore with hlt | ⟨-, hlt⟩
  · exact absurd hlt (BitVec.lt_irrefl _)
  · exact absurd hlt (BitVec.lt_irrefl _)

/-- The order sees the key only. -/
theorem Matches.before_iff {c p c' p' : TritonSigEntry} (h : Matches c p) (h' : Matches c' p')
    (hstream : c'.stream = c.stream) (hstream' : p'.stream = p.stream) :
    tritonSigOrderBefore c' c = true ↔ tritonSigOrderBefore p' p = true := by
  rw [sigOrderBefore_iff hstream, sigOrderBefore_iff hstream', h.reg, h.firstComp, h'.reg,
    h'.firstComp]

/-- The entries of a name before an entry. -/
def earlierNamed (entries : List TritonSigEntry) (i : Nat) (name : CString) :
    List TritonSigEntry :=
  (entries.take i).filter fun e => tableName e == name

theorem mem_earlierNamed {entries : List TritonSigEntry}
    (h : entries.Pairwise fun a b => tritonSigOrderBefore a b = true) {i : Nat}
    {e q : TritonSigEntry} (he : entries[i]? = some e) {name : CString} :
    q ∈ earlierNamed entries i name ↔
      q ∈ entries ∧ tritonSigOrderBefore q e = true ∧ tableName q = name := by
  rw [earlierNamed, List.mem_filter, mem_take_iff_before h he, beq_iff_eq, and_assoc]

section Skipped

variable {producer consumer : List TritonSigEntry}

/-- Where every consumer entry matches, counting agrees before `c` and `p` exactly when
    no earlier entry of the name is missing. -/
theorem countP_eq_iff_noneSkipped (hp : LinkageEntries producer) (hc : LinkageEntries consumer)
    (hmaskP : AllMasked producer) (hmaskC : AllMasked consumer)
    (hsub : ∀ c ∈ consumer, ∃ p ∈ producer, Matches c p) {i j : Nat} {c p : TritonSigEntry}
    (hci : consumer[i]? = some c) (hpj : producer[j]? = some p) (hmatch : Matches c p) :
    ((consumer.take i).countP (fun e => tableName e == tableName c) =
        (producer.take j).countP fun e => tableName e == tableName p) ↔
      ∀ q ∈ producer, tritonSigOrderBefore q p = true → tableName q = tableName p →
        ∃ c' ∈ consumer, Matches c' q := by
  have hstrictP := hp.strict hmaskP
  have hstrictC := hc.strict hmaskC
  have hstream : ∀ e ∈ consumer, ∀ e' ∈ consumer, e.stream = e'.stream :=
    fun e he e' he' => (hc.stream e he).trans (hc.stream e' he').symm
  have hstream' : ∀ e ∈ producer, ∀ e' ∈ producer, e.stream = e'.stream :=
    fun e he e' he' => (hp.stream e he).trans (hp.stream e' he').symm
  have hcmem := List.mem_of_getElem? hci
  have hpmem := List.mem_of_getElem? hpj
  let earlierC := (earlierNamed consumer i (tableName c)).map matchKey
  let earlierP := (earlierNamed producer j (tableName p)).map matchKey
  have hcounts : ((consumer.take i).countP (fun e => tableName e == tableName c) =
      (producer.take j).countP fun e => tableName e == tableName p) ↔
      earlierC.length = earlierP.length := by
    rw [List.countP_eq_length_filter, List.countP_eq_length_filter, List.length_map,
      List.length_map]
    rfl
  have hnodupC : earlierC.Nodup :=
    (nodup_matchKey hc hstrictC).sublist
      ((List.filter_sublist.trans (List.take_sublist i consumer)).map matchKey)
  have hnodupP : earlierP.Nodup :=
    (nodup_matchKey hp hstrictP).sublist
      ((List.filter_sublist.trans (List.take_sublist j producer)).map matchKey)
  -- an earlier consumer entry matches an earlier producer entry
  have hsubset : earlierC ⊆ earlierP := by
    intro key hkey
    obtain ⟨c', hc', rfl⟩ := List.mem_map.mp hkey
    obtain ⟨hmem, hbefore, hname⟩ := (mem_earlierNamed hstrictC hci).mp hc'
    obtain ⟨p', hp', hmatch'⟩ := hsub c' hmem
    refine List.mem_map.mpr ⟨p', (mem_earlierNamed hstrictP hpj).mpr ⟨hp', ?_, ?_⟩,
      (matchKey_eq_iff.mpr hmatch').symm⟩
    · exact (hmatch.before_iff hmatch' (hstream c' hmem c hcmem)
        (hstream' p' hp' p hpmem)).mp hbefore
    · rw [← hmatch'.tableName, hname, hmatch.tableName]
  rw [hcounts, length_eq_iff_subset hnodupC hnodupP hsubset]
  constructor
  · intro hsub' q hq hbefore hname
    have hkey : matchKey q ∈ earlierP :=
      List.mem_map_of_mem ((mem_earlierNamed hstrictP hpj).mpr ⟨hq, hbefore, hname⟩)
    obtain ⟨c', hc', heq⟩ := List.mem_map.mp (hsub' hkey)
    exact ⟨c', ((mem_earlierNamed hstrictC hci).mp hc').1, matchKey_eq_iff.mp heq⟩
  · intro hnone key hkey
    obtain ⟨q, hq, rfl⟩ := List.mem_map.mp hkey
    obtain ⟨hqmem, hbefore, hname⟩ := (mem_earlierNamed hstrictP hpj).mp hq
    obtain ⟨c', hc', hmatch'⟩ := hnone q hqmem hbefore hname
    refine List.mem_map.mpr ⟨c', (mem_earlierNamed hstrictC hci).mpr ⟨hc', ?_, ?_⟩,
      matchKey_eq_iff.mpr hmatch'⟩
    · exact (hmatch.before_iff hmatch' (hstream c' hc' c hcmem)
        (hstream' q hqmem p hpmem)).mpr hbefore
    · rw [hmatch'.tableName, hname, ← hmatch.tableName]

theorem inStep_iff_noneSkipped (hp : LinkageEntries producer) (hc : LinkageEntries consumer)
    (hmaskP : AllMasked producer) (hmaskC : AllMasked consumer)
    (hsub : ∀ c ∈ consumer, ∃ p ∈ producer, Matches c p) :
    InStep consumer producer ↔ NoneSkipped consumer producer := by
  constructor
  · intro hstep c hcmem p hpmem hmatch hname
    obtain ⟨i, hi, rfl⟩ := List.getElem_of_mem hcmem
    obtain ⟨j, hj, rfl⟩ := List.getElem_of_mem hpmem
    have hci := List.getElem?_eq_getElem hi
    have hpj := List.getElem?_eq_getElem hj
    exact (countP_eq_iff_noneSkipped hp hc hmaskP hmaskC hsub hci hpj hmatch).mp
      (hstep i j _ _ hci hpj hmatch hname)
  · intro hnone i j c p hci hpj hmatch hname
    exact (countP_eq_iff_noneSkipped hp hc hmaskP hmaskC hsub hci hpj hmatch).mpr
      (hnone c (List.mem_of_getElem? hci) p (List.mem_of_getElem? hpj) hmatch hname)

end Skipped

/-- Every consumer entry has the name and index of the producer entry it matches, if and
    only if before any two matching entries of a name other than ATTRIB both sides have
    as many entries of that name.  Where every mask has a component, that is so exactly
    when the consumer skips no earlier entry of such a name. -/
theorem linkage_iff {blobP progP blobC progC : UINT} (link : StageLink blobP progP blobC progC)
    {producer consumer : List TritonSigEntry} (hp : LinkageEntries producer)
    (hc : LinkageEntries consumer) (hsub : ∀ c ∈ consumer, ∃ p ∈ producer, Matches c p)
    (scanP scanC : TritonShdrScan) :
    (LinkedByName consumer producer (tritonAssignSemantics consumer blobC progC scanC)
        (tritonAssignSemantics producer blobP progP scanP) ↔ InStep consumer producer) ∧
    (AllMasked producer → AllMasked consumer →
      (LinkedByName consumer producer (tritonAssignSemantics consumer blobC progC scanC)
        (tritonAssignSemantics producer blobP progP scanP) ↔ NoneSkipped consumer producer)) := by
  have hiff := linkedByName_iff_inStep link hp hc scanP scanC
  refine ⟨hiff, fun hmaskP hmaskC => ?_⟩
  rw [hiff]
  exact inStep_iff_noneSkipped hp hc hmaskP hmaskC hsub

/-- An entry before resolution. -/
def unresolvedEntry (sysval reg mask : UINT) : TritonSigEntry where
  sysval := sysval
  reg := reg
  mask := mask
  compType := COMP_FLOAT32
  minPrec := 0
  stream := 0

/-- A position, two clip distances and an attribute, of which the next stage takes the
    first clip distance and the attribute. -/
theorem linkage_firstClipDistance :
    LinkedByName [unresolvedEntry 2 1 0xF, unresolvedEntry 0 3 0xC]
      [unresolvedEntry 1 0 0xF, unresolvedEntry 2 1 0xF, unresolvedEntry 2 2 0xF,
        unresolvedEntry 0 3 0xC]
      (tritonAssignSemantics [unresolvedEntry 2 1 0xF, unresolvedEntry 0 3 0xC]
        DXBC_BLOB_TYPE_ISGN PROG_PS {})
      (tritonAssignSemantics
        [unresolvedEntry 1 0 0xF, unresolvedEntry 2 1 0xF, unresolvedEntry 2 2 0xF,
          unresolvedEntry 0 3 0xC] DXBC_BLOB_TYPE_OSGN PROG_VS {}) := by
  refine ((linkage_iff (.io PROG_VS PROG_PS (by decide)) ?_ ?_ ?_ {} {}).2 ?_ ?_).mpr ?_
  · exact ⟨by decide, by decide, by decide, by decide, by decide, by decide⟩
  · exact ⟨by decide, by decide, by decide, by decide, by decide, by decide⟩
  · decide
  · unfold AllMasked
    decide
  · unfold AllMasked
    decide
  · unfold NoneSkipped
    decide

/-- A stage writes two clip distances; the next one reads the second of them only, and
    calls it the first. -/
theorem linkage_secondClipDistance :
    ∃ producer consumer : List TritonSigEntry, LinkageEntries producer ∧ LinkageEntries consumer ∧
      (∀ c ∈ consumer, ∃ p ∈ producer, Matches c p) ∧
      ¬LinkedByName consumer producer
        (tritonAssignSemantics consumer DXBC_BLOB_TYPE_ISGN PROG_PS {})
        (tritonAssignSemantics producer DXBC_BLOB_TYPE_OSGN PROG_VS {}) := by
  refine ⟨[unresolvedEntry 2 2 0xF, unresolvedEntry 2 3 0xF], [unresolvedEntry 2 3 0xF], ?_, ?_,
    ?_, fun hlinked => ?_⟩
  · exact ⟨by decide, by decide, by decide, by decide, by decide, by decide⟩
  · exact ⟨by decide, by decide, by decide, by decide, by decide, by decide⟩
  · decide
  · have h := hlinked 0 1 _ _ _ _ rfl rfl ⟨rfl, rfl, rfl⟩ rfl rfl
    exact absurd h.2 (by decide)

end VirtioWddm
