/-
  VirtioWddm.Triton.Dxbc.ReconcileBuilt

  `tritonReconcileVsInputSig` on the containers of `tritonBuildDxbc`: correcting the
  types of a container is the same as building it from the corrected entries.

  `DxbcPlan.retypeInputs` corrects the entries.  The copy is a container of that plan
  whose other chunks are those of the original, so what `tritonDxbcParseSig` reads of
  it is the same, and a second correction finds nothing to do.
-/

import VirtioWddm.Triton.Dxbc.Reconcile
import VirtioWddm.Triton.Dxbc.RoundTrip

namespace VirtioWddm

open Lib

-- ============================================================================
-- The corrected plan
-- ============================================================================

/-- The entry with the type it should have. -/
def TritonSigEntry.retype (compReg : List Byte) (e : TritonSigEntry) : TritonSigEntry :=
  { e with compType := wantedType compReg e.reg e.compType }

/-- The plan with the types its inputs should have. -/
def DxbcPlan.retypeInputs (compReg : List Byte) (plan : DxbcPlan) : DxbcPlan :=
  { plan with aIn := plan.aIn.map (TritonSigEntry.retype compReg) }

theorem wantedType_idem (compReg : List Byte) (reg compType : UINT) :
    wantedType compReg reg (wantedType compReg reg compType) =
      wantedType compReg reg compType := by
  by_cases h : reg.toNat < 32 ∧ compReg.getD reg.toNat 0 ≠ 0
  · rw [wantedType_set h, wantedType_set h]
  · rw [wantedType_keep h]

theorem TritonSigEntry.retype_eq_self_iff {compReg : List Byte} {e : TritonSigEntry} :
    e.retype compReg = e ↔ wantedType compReg e.reg e.compType = e.compType := by
  constructor
  · exact fun h => congrArg TritonSigEntry.compType h
  · intro h
    rw [TritonSigEntry.retype, h]

namespace DxbcPlan

variable (compReg : List Byte) (plan : DxbcPlan)

theorem retypeInputs_eq_self_iff :
    plan.retypeInputs compReg = plan ↔
      ∀ e ∈ plan.aIn, wantedType compReg e.reg e.compType = e.compType := by
  constructor
  · intro h e he
    have hmap : plan.aIn.map (TritonSigEntry.retype compReg) = plan.aIn :=
      congrArg DxbcPlan.aIn h
    obtain ⟨i, hi⟩ := List.mem_iff_getElem?.mp he
    have hget : (plan.aIn.map (TritonSigEntry.retype compReg))[i]? = plan.aIn[i]? := by
      rw [hmap]
    rw [List.getElem?_map, hi] at hget
    exact TritonSigEntry.retype_eq_self_iff.mp (Option.some.inj hget)
  · intro h
    have hmap : plan.aIn.map (TritonSigEntry.retype compReg) = plan.aIn := by
      rw [List.map_congr_left fun e he => TritonSigEntry.retype_eq_self_iff.mpr (h e he)]
      exact List.map_id' plan.aIn
    rw [retypeInputs, hmap]

theorem retypeInputs_idem :
    (plan.retypeInputs compReg).retypeInputs compReg = plan.retypeInputs compReg := by
  rw [retypeInputs_eq_self_iff]
  intro e he
  obtain ⟨e₀, -, rfl⟩ := List.mem_map.mp he
  exact wantedType_idem compReg e₀.reg e₀.compType

theorem retypeInputs_minPrec : (plan.retypeInputs compReg).minPrec = plan.minPrec := by
  rw [minPrec, minPrec, retypeInputs, List.any_append, List.any_append, List.any_append,
    List.any_append, List.any_map]
  rfl

@[simp] theorem retypeInputs_fccIn : (plan.retypeInputs compReg).fccIn = plan.fccIn := by
  rw [fccIn, fccIn, retypeInputs_minPrec]

@[simp] theorem retypeInputs_fccOut : (plan.retypeInputs compReg).fccOut = plan.fccOut := by
  rw [fccOut, fccOut, retypeInputs_minPrec]
  rfl

@[simp] theorem retypeInputs_fccPatch : (plan.retypeInputs compReg).fccPatch = plan.fccPatch := by
  rw [fccPatch, fccPatch, retypeInputs_minPrec]

@[simp] theorem retypeInputs_progType : (plan.retypeInputs compReg).progType = plan.progType := rfl

@[simp] theorem retypeInputs_aOut : (plan.retypeInputs compReg).aOut = plan.aOut := rfl

@[simp] theorem retypeInputs_aPatch : (plan.retypeInputs compReg).aPatch = plan.aPatch := rfl

@[simp] theorem retypeInputs_hullDomain :
    (plan.retypeInputs compReg).hullDomain = plan.hullDomain := rfl

@[simp] theorem retypeInputs_fccShdr : (plan.retypeInputs compReg).fccShdr = plan.fccShdr := rfl

theorem retypeInputs_names :
    (plan.retypeInputs compReg).aIn.map TritonSigEntry.name =
      plan.aIn.map TritonSigEntry.name := by
  rw [retypeInputs, List.map_map]
  rfl

theorem retypeInputs_length : (plan.retypeInputs compReg).aIn.length = plan.aIn.length :=
  List.length_map _

/-- No types are asked for. -/
theorem retypeInputs_nil : plan.retypeInputs [] = plan := by
  rw [retypeInputs_eq_self_iff]
  intro e _
  exact wantedType_keep fun h => h.2 rfl

theorem isInputTag_fccIn : IsInputTag plan.fccIn := by
  rw [fccIn]
  split
  case isTrue => exact .inr rfl
  case isFalse => exact .inl rfl

end DxbcPlan

theorem sigChunkLength_retypeInputs (compReg : List Byte) (plan : DxbcPlan) (fourcc : UINT) :
    sigChunkLength fourcc (plan.retypeInputs compReg).aIn = sigChunkLength fourcc plan.aIn := by
  rw [sigChunkLength, sigChunkLength, plan.retypeInputs_names, plan.retypeInputs_length]

/-- The plan of the corrected entries can be written. -/
theorem DxbcPlan.Writable.retypeInputs {plan : DxbcPlan} (h : plan.Writable)
    (compReg : List Byte) : (plan.retypeInputs compReg).Writable := by
  refine ⟨⟨?_, fun e he => ?_⟩, h.aOut, h.aPatch, h.patch_nil⟩
  · rw [plan.retypeInputs_length]
    exact h.aIn.length_le
  · obtain ⟨e₀, he₀, rfl⟩ := List.mem_map.mp he
    exact h.aIn.shortNames e₀ he₀

-- ============================================================================
-- The chunks for given names
-- ============================================================================

/-- What the names of elements become depends on how much was written before, not on
    what it was.  The induction is on the names. -/
theorem emitNames_alike {pIosgn : Nat} {names : List CString} {slots slots' : List UINT}
    {w w' w₂ : DxbcWriter} (hsize : w'.size = w.size) (halloc : w'.cbAlloc = w.cbAlloc)
    (h : emitNames pIosgn names slots w = some (slots', w₂)) :
    ∃ text, w₂ = w.push text ∧ emitNames pIosgn names slots w' = some (slots', w'.push text) := by
  induction names generalizing slots slots' w w' with
  | nil =>
      rw [emitNames.eq_def] at h
      cases h
      refine ⟨[], w₂.push_nil.symm, ?_⟩
      rw [w'.push_nil, emitNames.eq_def]
  | cons name names ih =>
      cases slots with
      | nil =>
          cases h
          refine ⟨[], w₂.push_nil.symm, ?_⟩
          rw [w'.push_nil]
          rfl
      | cons slot slots =>
          rw [emitNames] at h ⊢
          by_cases hslot : slot ≠ 0
          · rw [if_pos hslot] at h ⊢
            obtain ⟨⟨s, w₃⟩, hrest, heq⟩ := Option.bind_eq_some_iff.mp h
            cases heq
            obtain ⟨text, rfl, hrest'⟩ := ih hsize halloc hrest
            refine ⟨text, rfl, ?_⟩
            rw [hrest']
            rfl
          · rw [if_neg hslot] at h ⊢
            obtain ⟨w₁, hname, h⟩ := Option.bind_eq_some_iff.mp h
            have hroom : w.size + (name ++ [0]).length ≤ w.cbAlloc := by
              rw [DxbcWriter.append, DxbcWriter.reserve] at hname
              split at hname
              case isTrue hle => exact of_decide_eq_true hle
              case isFalse => cases hname
            rw [DxbcWriter.append_eq hroom] at hname
            cases hname
            obtain ⟨⟨s, w₃⟩, hrest, heq⟩ := Option.bind_eq_some_iff.mp h
            cases heq
            have hsizes : (w'.push (name ++ [0])).size = (w.push (name ++ [0])).size := by
              rw [DxbcWriter.push_size, DxbcWriter.push_size, hsize]
            obtain ⟨text, rfl, hrest'⟩ := ih hsizes halloc hrest
            refine ⟨name ++ [0] ++ text, DxbcWriter.push_push w _ text, ?_⟩
            rw [DxbcWriter.append_eq (by rw [hsize, halloc]; exact hroom)]
            dsimp only [bind, Option.bind]
            rw [hsize, hrest']
            exact congrArg some (congrArg (Prod.mk _) (DxbcWriter.push_push w' _ text))

/-- Where names behind `n` bytes of the body are. -/
def NamesBehind (n : Nat) (names : List CString) (slots : List UINT) : Prop :=
  slots.length = names.length ∧
    ∀ (i : Nat) name slot, names[i]? = some name → slots[i]? = some slot → ∃ o,
      slot.toNat = n + o ∧ bytesAt (nameText names) o (name.length + 1) = some (name ++ [0])

/-- The name offsets of a chunk are the same for all elements of these names, in all
    writers of one size. -/
theorem writeNamedBlob_slots (size cbAlloc cbEntry : Nat) (names : List CString) (fourcc : UINT)
    (hcap : size + 16 + names.length * cbEntry + (nameText names).length + 3 ≤ cbAlloc)
    (hlt : 8 + names.length * cbEntry + (nameText names).length < 2 ^ 32) :
    ∃ slots, NamesBehind (8 + names.length * cbEntry) names slots ∧
      ∀ (w : DxbcWriter) (elems : List UINT → List (List UINT)), w.size = size →
        w.cbAlloc = cbAlloc → ElementsOf names cbEntry elems →
        writeNamedBlob w fourcc cbEntry names elems =
          some (w.push (DxbcChunk.bytes
            { fourcc := fourcc, body := padded (namedFront names elems slots) })) := by
  let zeros : DxbcWriter :=
    { bytes := List.replicate (size + 16 + names.length * cbEntry) 0, cbAlloc := cbAlloc }
  have hzeros : zeros.size = size + 16 + names.length * cbEntry := List.length_replicate
  obtain ⟨slots, hemit, hslots, hnames⟩ :=
    emitNames_zero (size + 8) names (w := zeros) (by omega)
      (by rw [hzeros]; show _ ≤ cbAlloc; omega) (by omega)
  refine ⟨slots, ⟨hslots, fun i name slot hname hslot => ?_⟩, ?_⟩
  · obtain ⟨o, hs, hat⟩ := hnames i name slot hname hslot
    exact ⟨o, by omega, hat⟩
  · intro w elems hsize halloc helems
    generalize hw₃ : ((w.push (List.replicate 8 0)).push (List.replicate 8 0)).push
      (List.replicate (names.length * cbEntry) 0) = w₃
    have hsize₃ : w₃.size = zeros.size := by
      rw [hzeros, ← hw₃, DxbcWriter.push_size, DxbcWriter.push_size, DxbcWriter.push_size,
        List.length_replicate, List.length_replicate, hsize]
    have halloc₃ : w₃.cbAlloc = zeros.cbAlloc := by
      rw [← hw₃]
      exact halloc
    obtain ⟨text, htext, hemit'⟩ := emitNames_alike hsize₃ halloc₃ hemit
    obtain rfl : nameText names = text :=
      List.append_cancel_left (congrArg DxbcWriter.bytes htext)
    rw [← hsize] at hemit'
    exact writeNamedBlob_steps fourcc hw₃.symm hemit' (helems slots hslots) (by omega)

/-- The signature chunk of entries with the given name offsets. -/
def sigChunkOf (fourcc blobClass progType : UINT) (entries : List TritonSigEntry)
    (slots : List UINT) : DxbcChunk where
  fourcc := fourcc
  body := padded (namedFront (entries.map TritonSigEntry.name)
    (List.zipWith (sigElement (tritonSigBlobLayout fourcc) blobClass progType) entries) slots)

/-- Entries whose names are emitted at the same offsets are written to such chunks. -/
theorem writeSigBlob_slots (size cbAlloc : Nat) {entries : List TritonSigEntry}
    (h : SigEntries entries) (fourcc blobClass progType : UINT)
    (hcap : size + entries.length * 64 + 20 ≤ cbAlloc) :
    ∃ slots, NamesBehind (8 + entries.length * (tritonSigBlobLayout fourcc).cbEntry)
        (entries.map TritonSigEntry.name) slots ∧
      ∀ (w : DxbcWriter) (entries' : List TritonSigEntry), w.size = size → w.cbAlloc = cbAlloc →
        entries'.map TritonSigEntry.name = entries.map TritonSigEntry.name →
        writeSigBlob w fourcc blobClass progType entries' =
          some (w.push (sigChunkOf fourcc blobClass progType entries' slots).bytes) := by
  have hle := h.length_le
  have hmax : TRITON_DXBC_MAX_SIG_ENTRIES = 128 := rfl
  have hentry := Nat.mul_le_mul_left entries.length (cbEntry_le fourcc)
  have hnames := h.length_nameText_le
  have hlen := length_sigElement fourcc blobClass progType
  obtain ⟨slots, hbehind, hwrite⟩ := writeNamedBlob_slots size cbAlloc
    (tritonSigBlobLayout fourcc).cbEntry (entries.map TritonSigEntry.name)
    fourcc (by rw [List.length_map]; omega) (by rw [List.length_map]; omega)
  rw [List.length_map] at hbehind
  refine ⟨slots, hbehind, fun w entries' hsize halloc hsame => ?_⟩
  have hlength : entries'.length = entries.length := by
    have hmaps := congrArg List.length hsame
    rw [List.length_map, List.length_map] at hmaps
    exact hmaps
  have helems := elementsOf_zipWith entries' TritonSigEntry.name hlen
  rw [hsame] at helems
  have hchunk := hwrite w (List.zipWith (sigElement (tritonSigBlobLayout fourcc) blobClass progType)
    entries') hsize halloc helems
  rw [writeSigBlob, if_neg (by omega), hsame, hchunk, sigChunkOf, hsame]

theorem length_sigChunkOf {fourcc blobClass progType : UINT} {entries : List TritonSigEntry}
    {slots : List UINT} (hslots : slots.length = entries.length) :
    (sigChunkOf fourcc blobClass progType entries slots).bytes.length =
      sigChunkLength fourcc entries := by
  have hfront := length_namedFront (elementsOf_zipWith entries TritonSigEntry.name
    (length_sigElement fourcc blobClass progType) slots (by rw [List.length_map]; exact hslots))
  rw [List.length_map] at hfront
  rw [DxbcChunk.length_bytes, sigChunkOf, length_padded, hfront]
  rfl

/-- Such a chunk is a signature chunk of its entries. -/
theorem sigChunkOf_sigChunk {fourcc : UINT} (blobClass progType : UINT)
    {entries : List TritonSigEntry} {slots : List UINT}
    (h : NamesBehind (8 + entries.length * (tritonSigBlobLayout fourcc).cbEntry)
      (entries.map TritonSigEntry.name) slots) :
    SigChunk fourcc blobClass progType entries
      (sigChunkOf fourcc blobClass progType entries slots) := by
  obtain ⟨hslots, hnames⟩ := h
  have hlen := length_sigElement fourcc blobClass progType
  have helems := elementsOf_zipWith entries TritonSigEntry.name hlen slots hslots
  have hfront := length_namedFront helems
  rw [List.length_map] at helems hfront
  refine ⟨rfl, NamedBody.namedElements hlen (?_ : NamedBody _ _ slots _), ?_⟩
  · refine ⟨rfl, hslots, ?_⟩
    intro i name slot hname hslot
    obtain ⟨o, hs, hat⟩ := hnames i name slot hname hslot
    have hin := (bytesAt_eq_some_iff.mp hat).1
    have hhead : (wordBytes [BitVec.ofNat 32 (entries.map TritonSigEntry.name).length, 8]).length =
      8 := length_wordBytes _
    show bytesAt (_ ++ List.replicate _ 0) _ _ = _
    rw [bytesAt_append_left (by omega), namedFront, bytesAt_append_right (by omega),
      bytesAt_append_right (by omega), hhead, helems,
      show slot.toNat - 8 - entries.length * _ = o by omega]
    exact hat
  · rw [List.length_map] at hslots
    exact length_sigChunkOf hslots

/-- The chunks of a plan with corrected types differ in the first one alone. -/
theorem writeChunks_slots {plan : DxbcPlan} (code : List Byte) (size cbAlloc : Nat)
    (hplan : plan.Writable)
    (hcap : size + (plan.aIn.length + plan.aOut.length + plan.aPatch.length) * 64 +
      plan.cBlob * 20 + 8 + code.length + 3 ≤ cbAlloc) :
    ∃ slots rest,
      NamesBehind (8 + plan.aIn.length * (tritonSigBlobLayout plan.fccIn).cbEntry)
        (plan.aIn.map TritonSigEntry.name) slots ∧
      ∀ (compReg : List Byte) (w : DxbcWriter) (chunks : List DxbcChunk), w.size = size →
        w.cbAlloc = cbAlloc →
        chunks = sigChunkOf plan.fccIn DXBC_BLOB_TYPE_ISGN plan.progType
          (plan.retypeInputs compReg).aIn slots :: rest →
        writeChunks (plan.retypeInputs compReg) code w =
          some (chunkOffsets w.size chunks, w.push (chunks.flatMap DxbcChunk.bytes)) ∧
        ShaderChunks (plan.retypeInputs compReg) (padded code) chunks := by
  have hblob : 3 ≤ plan.cBlob := by
    rw [DxbcPlan.cBlob]
    split
    case isTrue => decide
    case isFalse => decide
  have hinSize := hplan.aIn.sigChunkLength_le plan.fccIn
  have houtSize := hplan.aOut.sigChunkLength_le plan.fccOut
  obtain ⟨slotsIn, hbehindIn, hwriteIn⟩ := writeSigBlob_slots size cbAlloc
    hplan.aIn plan.fccIn DXBC_BLOB_TYPE_ISGN plan.progType (by omega)
  obtain ⟨slotsOut, hbehindOut, hwriteOut⟩ := writeSigBlob_slots
    (size + sigChunkLength plan.fccIn plan.aIn) cbAlloc
    hplan.aOut plan.fccOut DXBC_BLOB_TYPE_OSGN plan.progType (by omega)
  have sigOut := sigChunkOf_sigChunk DXBC_BLOB_TYPE_OSGN plan.progType hbehindOut
  let cOut := sigChunkOf plan.fccOut DXBC_BLOB_TYPE_OSGN plan.progType plan.aOut slotsOut
  let shdr : DxbcChunk := { fourcc := plan.fccShdr, body := padded code }
  have hlenOut : cOut.bytes.length = sigChunkLength plan.fccOut plan.aOut := sigOut.length
  have hsigIn : ∀ compReg, SigChunk plan.fccIn DXBC_BLOB_TYPE_ISGN plan.progType
      (plan.retypeInputs compReg).aIn
      (sigChunkOf plan.fccIn DXBC_BLOB_TYPE_ISGN plan.progType (plan.retypeInputs compReg).aIn
        slotsIn) := by
    intro compReg
    apply sigChunkOf_sigChunk
    rw [plan.retypeInputs_names, plan.retypeInputs_length]
    exact hbehindIn
  by_cases hhull : plan.hullDomain = true
  · have hfour : plan.cBlob = 4 := if_pos hhull
    obtain ⟨slotsPatch, hbehindPatch, hwritePatch⟩ := writeSigBlob_slots
      (size + sigChunkLength plan.fccIn plan.aIn + sigChunkLength plan.fccOut plan.aOut)
      cbAlloc hplan.aPatch plan.fccPatch DXBC_BLOB_TYPE_PCSG plan.progType (by omega)
    have sigPatch := sigChunkOf_sigChunk DXBC_BLOB_TYPE_PCSG plan.progType hbehindPatch
    let cPatch :=
      sigChunkOf plan.fccPatch DXBC_BLOB_TYPE_PCSG plan.progType plan.aPatch slotsPatch
    have hlenPatch : cPatch.bytes.length = sigChunkLength plan.fccPatch plan.aPatch :=
      sigPatch.length
    refine ⟨slotsIn, [cOut, cPatch, shdr], hbehindIn, ?_⟩
    rintro compReg w chunks hsize halloc rfl
    have sigIn := hsigIn compReg
    have hlenIn := sigIn.length
    rw [sigChunkLength_retypeInputs] at hlenIn
    have hpatchSize := hplan.aPatch.sigChunkLength_le plan.fccPatch
    have hsizeIn : (w.push (sigChunkOf plan.fccIn DXBC_BLOB_TYPE_ISGN plan.progType
        (plan.retypeInputs compReg).aIn slotsIn).bytes).size =
          size + sigChunkLength plan.fccIn plan.aIn := by
      rw [DxbcWriter.push_size, hlenIn, hsize]
    refine ⟨?_, .patch hhull ?_ ?_ ?_⟩
    · unfold writeChunks
      simp only [DxbcPlan.retypeInputs_progType, DxbcPlan.retypeInputs_aOut,
        DxbcPlan.retypeInputs_aPatch, DxbcPlan.retypeInputs_hullDomain,
        DxbcPlan.retypeInputs_fccShdr, DxbcPlan.retypeInputs_fccIn, DxbcPlan.retypeInputs_fccOut,
        DxbcPlan.retypeInputs_fccPatch]
      rw [hwriteIn w _ hsize halloc (plan.retypeInputs_names compReg)]
      dsimp only [bind, Option.bind]
      rw [hwriteOut _ _ hsizeIn halloc rfl]
      dsimp only
      have hsizeOut : ((w.push (sigChunkOf plan.fccIn DXBC_BLOB_TYPE_ISGN plan.progType
          (plan.retypeInputs compReg).aIn slotsIn).bytes).push cOut.bytes).size =
            size + sigChunkLength plan.fccIn plan.aIn + sigChunkLength plan.fccOut plan.aOut := by
        rw [DxbcWriter.push_size, hsizeIn, hlenOut]
      rw [if_pos hhull, hwritePatch _ _ hsizeOut halloc rfl]
      dsimp only
      have hsizePatch : (((w.push (sigChunkOf plan.fccIn DXBC_BLOB_TYPE_ISGN plan.progType
          (plan.retypeInputs compReg).aIn slotsIn).bytes).push cOut.bytes).push cPatch.bytes).size =
            size + sigChunkLength plan.fccIn plan.aIn + sigChunkLength plan.fccOut plan.aOut +
              sigChunkLength plan.fccPatch plan.aPatch := by
        rw [DxbcWriter.push_size, hsizeOut, hlenPatch]
      rw [writeSHDRBlob_append plan.fccShdr (by
        rw [hsizePatch]
        show _ ≤ w.cbAlloc
        omega)]
      simp only [chunkOffsets, List.flatMap_cons, List.flatMap_nil, DxbcWriter.push_push,
        List.append_assoc, List.append_nil, DxbcWriter.push_size, List.length_append,
        Nat.add_assoc]
      rfl
    · rw [plan.retypeInputs_fccIn]
      exact sigIn
    · rw [plan.retypeInputs_fccOut]
      exact sigOut
    · rw [plan.retypeInputs_fccPatch]
      exact sigPatch
  · refine ⟨slotsIn, [cOut, shdr], hbehindIn, ?_⟩
    rintro compReg w chunks hsize halloc rfl
    have sigIn := hsigIn compReg
    have hlenIn := sigIn.length
    rw [sigChunkLength_retypeInputs] at hlenIn
    have hsizeIn : (w.push (sigChunkOf plan.fccIn DXBC_BLOB_TYPE_ISGN plan.progType
        (plan.retypeInputs compReg).aIn slotsIn).bytes).size =
          size + sigChunkLength plan.fccIn plan.aIn := by
      rw [DxbcWriter.push_size, hlenIn, hsize]
    refine ⟨?_, .noPatch (Bool.not_eq_true _ ▸ hhull) ?_ ?_⟩
    · unfold writeChunks
      simp only [DxbcPlan.retypeInputs_progType, DxbcPlan.retypeInputs_aOut,
        DxbcPlan.retypeInputs_aPatch, DxbcPlan.retypeInputs_hullDomain,
        DxbcPlan.retypeInputs_fccShdr, DxbcPlan.retypeInputs_fccIn, DxbcPlan.retypeInputs_fccOut,
        DxbcPlan.retypeInputs_fccPatch]
      rw [hwriteIn w _ hsize halloc (plan.retypeInputs_names compReg)]
      dsimp only [bind, Option.bind]
      rw [hwriteOut _ _ hsizeIn halloc rfl]
      dsimp only
      have hsizeOut : ((w.push (sigChunkOf plan.fccIn DXBC_BLOB_TYPE_ISGN plan.progType
          (plan.retypeInputs compReg).aIn slotsIn).bytes).push cOut.bytes).size =
            size + sigChunkLength plan.fccIn plan.aIn + sigChunkLength plan.fccOut plan.aOut := by
        rw [DxbcWriter.push_size, hsizeIn, hlenOut]
      rw [if_neg hhull, writeSHDRBlob_append plan.fccShdr (by
        rw [hsizeOut]
        show _ ≤ w.cbAlloc
        omega)]
      simp only [chunkOffsets, List.flatMap_cons, List.flatMap_nil, DxbcWriter.push_push,
        List.append_assoc, List.append_nil, DxbcWriter.push_size, List.length_append,
        Nat.add_assoc]
      rfl
    · rw [plan.retypeInputs_fccIn]
      exact sigIn
    · rw [plan.retypeInputs_fccOut]
      exact sigOut

/-- So do the containers. -/
theorem assembleDxbc_slots {plan : DxbcPlan} (code : List Byte) (hplan : plan.Writable) :
    ∃ slots rest,
      NamesBehind (8 + plan.aIn.length * (tritonSigBlobLayout plan.fccIn).cbEntry)
        (plan.aIn.map TritonSigEntry.name) slots ∧
      ∀ (compReg : List Byte) (heap : DxbcHeap) (addr : Nat) (chunks : List DxbcChunk),
        heap.buffer = some addr →
        chunks = sigChunkOf plan.fccIn DXBC_BLOB_TYPE_ISGN plan.progType
          (plan.retypeInputs compReg).aIn slots :: rest →
        assembleDxbc heap (plan.retypeInputs compReg) code =
          some (containerBytes addr heap.stack chunks (BitVec.ofNat 32 (containerLength chunks)),
            BitVec.ofNat 32 (containerLength chunks)) ∧
        ShaderChunks (plan.retypeInputs compReg) (padded code) chunks := by
  have hblob : 3 ≤ plan.cBlob := by
    rw [DxbcPlan.cBlob]
    split
    case isTrue => decide
    case isFalse => decide
  have hhdr : plan.cbHdr = 0x20 + 4 * plan.cBlob := plan.cbHdr_eq
  have hinit : plan.cbInit code.length = plan.cbHdr +
      (plan.aIn.length + plan.aOut.length + plan.aPatch.length) * (32 + 32) +
        plan.cBlob * (8 + 8 + 4) + (8 + code.length + 4) := rfl
  obtain ⟨slots, rest, hbehind, hwrite⟩ := writeChunks_slots code plan.cbHdr
    (plan.cbInit code.length) hplan (by omega)
  refine ⟨slots, rest, hbehind, fun compReg heap addr chunks hbuffer hchunks => ?_⟩
  let w₀ : DxbcWriter := { bytes := [], cbAlloc := plan.cbInit code.length }
  have hsize₀ : w₀.size = 0 := rfl
  have halloc₀ : w₀.cbAlloc = plan.cbInit code.length := rfl
  have hsize : (w₀.push (List.replicate plan.cbHdr 0)).size = plan.cbHdr := by
    rw [DxbcWriter.push_size, List.length_replicate, hsize₀, Nat.zero_add]
  obtain ⟨hwritten, hshader⟩ := hwrite compReg (w₀.push (List.replicate plan.cbHdr 0)) chunks hsize
    rfl hchunks
  refine ⟨?_, hshader⟩
  have hlen : chunks.length = plan.cBlob := hshader.length_eq
  have hcbHdr : (plan.retypeInputs compReg).cbHdr = plan.cbHdr := rfl
  have hcbInit : (plan.retypeInputs compReg).cbInit code.length = plan.cbInit code.length := by
    rw [DxbcPlan.cbInit, plan.retypeInputs_length]
    rfl
  unfold assembleDxbc
  rw [hbuffer, hcbHdr, hcbInit]
  dsimp only [bind, Option.bind]
  rw [DxbcWriter.appendZeros_eq (w := w₀) (by omega)]
  dsimp only
  rw [hwritten]
  dsimp only
  rw [hsize, hhdr, ← hlen, finalize_pushed chunks addr heap.stack _ rfl]
  rfl

-- ============================================================================
-- The elements of a container
-- ============================================================================

/-- The input signature of the container of some chunks, the first of which it is. -/
def containerSig (plan : DxbcPlan) (chunks : List DxbcChunk) (cbTotal : UINT) : InputSig where
  cbTotal := cbTotal
  off := BitVec.ofNat 32 (0x20 + 4 * chunks.length)
  tag := plan.fccIn
  cElement := BitVec.ofNat 32 plan.aIn.length

section Container

variable {plan : DxbcPlan} {code : List Byte} {cIn : DxbcChunk} {rest : List DxbcChunk}
  {addr stack : Nat} {cbTotal : UINT}

theorem sigElement_compType (fourcc blobClass progType : UINT) (e : TritonSigEntry)
    (offName : UINT) :
    (sigElement (tritonSigBlobLayout fourcc) blobClass progType e offName)[
        (tritonSigBlobLayout fourcc).offBase / 4 + 3]? = some e.compType ∧
      (sigElement (tritonSigBlobLayout fourcc) blobClass progType e offName)[
        (tritonSigBlobLayout fourcc).offBase / 4 + 4]? = some e.reg := by
  rcases layout_cases fourcc with h | h | h
  · rw [h]
    exact ⟨rfl, rfl⟩
  · rw [h]
    exact ⟨rfl, rfl⟩
  · rw [h]
    exact ⟨rfl, rfl⟩

theorem offBase_mod (fourcc : UINT) :
    4 * ((tritonSigBlobLayout fourcc).offBase / 4) = (tritonSigBlobLayout fourcc).offBase := by
  rcases layout_cases fourcc with h | h | h
  · rw [h]
    rfl
  · rw [h]
    rfl
  · rw [h]
    rfl

/-- What the container of a plan has at its first chunk. -/
structure FirstChunk (plan : DxbcPlan) (cIn : DxbcChunk) (rest : List DxbcChunk) (p : List Byte)
    (cbTotal : UINT) : Prop where
  chunk : SigChunk plan.fccIn DXBC_BLOB_TYPE_ISGN plan.progType plan.aIn cIn
  entries : SigEntries plan.aIn
  magic : wordAt? p 0 = some DXBC_MAGIC
  total : wordAt? p 0x18 = some cbTotal
  count : wordAt? p 0x1C = some (BitVec.ofNat 32 (cIn :: rest).length)
  offset : wordAt? p 0x20 = some (BitVec.ofNat 32 (0x20 + 4 * (cIn :: rest).length))
  few : (cIn :: rest).length ≤ 4
  body : bytesAt p (0x20 + 4 * (cIn :: rest).length) cIn.bytes.length = some cIn.bytes
  length : cbTotal.toNat = p.length

theorem firstChunk (hplan : plan.Writable)
    (hsig : SigChunk plan.fccIn DXBC_BLOB_TYPE_ISGN plan.progType plan.aIn cIn)
    (h : ShaderChunks plan (padded code) (cIn :: rest))
    (hcb : cbTotal.toNat = (containerBytes addr stack (cIn :: rest) cbTotal).length) :
    FirstChunk plan cIn rest (containerBytes addr stack (cIn :: rest) cbTotal) cbTotal := by
  have hcontainer := containerBytes_container addr stack h.aligned hcb
  obtain ⟨hoffset, -, hbody, -⟩ := hcontainer.chunks
  have hlength := h.length_three_or_four
  exact ⟨hsig, hplan.aIn, hcontainer.magic, hcontainer.total, hcontainer.count, hoffset,
    by omega, hbody, hcb⟩

variable {p : List Byte}

namespace FirstChunk

theorem off_toNat (h : FirstChunk plan cIn rest p cbTotal) :
    (containerSig plan (cIn :: rest) cbTotal).off.toNat = 0x20 + 4 * (cIn :: rest).length := by
  have hfew := h.few
  show (BitVec.ofNat 32 _).toNat = _
  rw [BitVec.toNat_ofNat, Nat.mod_eq_of_lt (by omega)]

theorem cElement_toNat (h : FirstChunk plan cIn rest p cbTotal) :
    (containerSig plan (cIn :: rest) cbTotal).cElement.toNat = plan.aIn.length := by
  have hmax : plan.aIn.length ≤ 128 := h.entries.length_le
  show (BitVec.ofNat 32 _).toNat = _
  rw [BitVec.toNat_ofNat, Nat.mod_eq_of_lt (by omega)]

theorem element_eq (h : FirstChunk plan cIn rest p cbTotal) (i : Nat) :
    (containerSig plan (cIn :: rest) cbTotal).element i =
      0x20 + 4 * (cIn :: rest).length + 8 +
        (8 + i * (tritonSigBlobLayout plan.fccIn).cbEntry) +
          (tritonSigBlobLayout plan.fccIn).offBase := by
  rw [InputSig.element, h.off_toNat]
  show 0x20 + 4 * (cIn :: rest).length + 16 + (tritonSigBlobLayout plan.fccIn).offBase +
    i * (tritonSigBlobLayout plan.fccIn).cbEntry = _
  omega

/-- The elements end in the chunk. -/
theorem elements_le (h : FirstChunk plan cIn rest p cbTotal) :
    8 + plan.aIn.length * (tritonSigBlobLayout plan.fccIn).cbEntry ≤ cIn.body.length := by
  have hlength := h.chunk.length
  rw [sigChunkLength, DxbcChunk.length_bytes] at hlength
  omega

theorem inputSigAt (h : FirstChunk plan cIn rest p cbTotal) :
    InputSigAt p cbTotal.toNat (containerSig plan (cIn :: rest) cbTotal) := by
  have hin := (bytesAt_eq_some_iff.mp h.body).1
  have hlen := h.length
  have hfew := h.few
  have helems := h.elements_le
  have hoff := h.off_toNat
  have hcElement := h.cElement_toNat
  have hnum : (BitVec.ofNat 32 (cIn :: rest).length).toNat = (cIn :: rest).length := by
    rw [BitVec.toNat_ofNat, Nat.mod_eq_of_lt (by omega)]
  have hpos : 0 < (cIn :: rest).length := Nat.succ_pos _
  rw [DxbcChunk.length_bytes] at hin
  refine ⟨?_, h.magic, h.total, Nat.le_refl _, ?_, ?_, ?_⟩
  · rw [sizeofDXBCHeader]
    omega
  · refine ⟨_, 0, h.count, ?_, ?_, ⟨h.offset, ?_, ?_, plan.isInputTag_fccIn⟩,
      fun j hj => absurd hj (Nat.not_lt_zero j)⟩
    · rw [hnum]
      show _ ≤ cbTotal.toNat
      omega
    · rw [hnum]
      exact hpos
    · rw [hoff]
      show _ ≤ cbTotal.toNat
      omega
    · rw [hoff]
      exact (wordAt?_tag h.body).trans (congrArg some h.chunk.tag)
  · rw [hoff]
    have hcount := wordAt?_of_bytesAt (k := 0) (bytesAt_body h.body) (by omega)
    rw [h.chunk.elements.count] at hcount
    exact hcount
  · rw [hoff, hcElement]
    show _ + plan.aIn.length * (tritonSigBlobLayout plan.fccIn).cbEntry ≤ cbTotal.toNat
    omega

/-- The type and the register of an element are those of its entry. -/
theorem element_words (h : FirstChunk plan cIn rest p cbTotal) {i : Nat} {e : TritonSigEntry}
    (he : plan.aIn[i]? = some e) :
    wordAt? p ((containerSig plan (cIn :: rest) cbTotal).element i + 12) = some e.compType ∧
      wordAt? p ((containerSig plan (cIn :: rest) cbTotal).element i + 16) = some e.reg := by
  obtain ⟨offName, helem, -⟩ := h.chunk.elements.elementAt i e he
  have hin := (bytesAt_eq_some_iff.mp helem).1
  have hwords := (bytesAt_of_bytesAt (bytesAt_body h.body) hin).trans helem
  have hmod := offBase_mod plan.fccIn
  obtain ⟨htype, hreg⟩ := sigElement_compType plan.fccIn DXBC_BLOB_TYPE_ISGN plan.progType e offName
  have htypeAt := wordAt?_of_wordsAt hwords htype
  have hregAt := wordAt?_of_wordsAt hwords hreg
  rw [h.element_eq]
  rw [Nat.mul_add, hmod, ← Nat.add_assoc] at htypeAt hregAt
  exact ⟨htypeAt, hregAt⟩

/-- Nothing is to be corrected exactly when the plan is correct. -/
theorem typed_iff (h : FirstChunk plan cIn rest p cbTotal) (compReg : List Byte) :
    (containerSig plan (cIn :: rest) cbTotal).Typed compReg p ↔
      plan.retypeInputs compReg = plan := by
  rw [plan.retypeInputs_eq_self_iff compReg]
  constructor
  · intro htyped e he
    obtain ⟨i, hi⟩ := List.mem_iff_getElem?.mp he
    have hlt : i < plan.aIn.length := (List.getElem?_eq_some_iff.mp hi).1
    obtain ⟨reg, compType, hreg, htype, hsame⟩ := htyped i (by rw [h.cElement_toNat]; exact hlt)
    obtain ⟨htypeAt, hregAt⟩ := h.element_words hi
    rw [htypeAt] at htype
    rw [hregAt] at hreg
    cases htype
    cases hreg
    exact hsame
  · intro hall i hi
    rw [h.cElement_toNat] at hi
    have hget := List.getElem?_eq_getElem hi
    obtain ⟨htypeAt, hregAt⟩ := h.element_words hget
    exact ⟨_, _, hregAt, htypeAt, hall _ (List.getElem_mem hi)⟩

end FirstChunk

end Container

-- ============================================================================
-- The corrected container
-- ============================================================================

/-- A corrected element differs in its type. -/
theorem sigElement_retype (fourcc blobClass progType : UINT) (compReg : List Byte)
    (e : TritonSigEntry) (offName : UINT) :
    sigElement (tritonSigBlobLayout fourcc) blobClass progType (e.retype compReg) offName =
      (sigElement (tritonSigBlobLayout fourcc) blobClass progType e offName).set
        ((tritonSigBlobLayout fourcc).offBase / 4 + 3)
        (wantedType compReg e.reg e.compType) := by
  rcases layout_cases fourcc with h | h | h
  · rw [h]
    rfl
  · rw [h]
    rfl
  · rw [h]
    rfl

/-- What is hashed of a container in front of the elements of its first chunk. -/
def sigFront (fourcc : UINT) (body : List Byte) (cNames : Nat) (rest : List DxbcChunk)
    (cbTotal : UINT) : List Byte :=
  wordBytes ([1, cbTotal, BitVec.ofNat 32 (rest.length + 1)] ++
      BitVec.ofNat 32 (0x20 + 4 * (rest.length + 1)) ::
        chunkOffsets (0x20 + 4 * (rest.length + 1) + (8 + body.length)) rest) ++
    (wordBytes [fourcc, BitVec.ofNat 32 body.length] ++ wordBytes [BitVec.ofNat 32 cNames, 8])

/-- What is hashed of it behind them. -/
def sigBack (names : List CString) (cbFront : Nat) (rest : List DxbcChunk) : List Byte :=
  nameText names ++ (List.replicate (padLength cbFront) 0 ++ rest.flatMap DxbcChunk.bytes)

theorem length_sigFront (fourcc : UINT) (body : List Byte) (cNames : Nat) (rest : List DxbcChunk)
    (cbTotal : UINT) :
    (sigFront fourcc body cNames rest cbTotal).length = 0x1C + 4 * (rest.length + 1) := by
  have hoffsets := length_chunkOffsets (0x20 + 4 * (rest.length + 1) + (8 + body.length)) rest
  simp only [sigFront, List.length_append, length_wordBytes, List.length_cons, List.length_nil,
    hoffsets]
  omega

/-- The DWORDs of the elements of a signature. -/
def sigElements (fourcc blobClass progType : UINT) (entries : List TritonSigEntry)
    (slots : List UINT) : List (List UINT) :=
  List.zipWith (sigElement (tritonSigBlobLayout fourcc) blobClass progType) entries slots

theorem hashedPart_sigChunkOf (fourcc blobClass progType : UINT) (entries : List TritonSigEntry)
    (slots : List UINT) (rest : List DxbcChunk) (cbTotal : UINT) :
    hashedPart (sigChunkOf fourcc blobClass progType entries slots :: rest) cbTotal =
      sigFront fourcc (sigChunkOf fourcc blobClass progType entries slots).body entries.length
          rest cbTotal ++
        (wordBytes (sigElements fourcc blobClass progType entries slots).flatten ++
          sigBack (entries.map TritonSigEntry.name)
            (namedFront (entries.map TritonSigEntry.name)
              (List.zipWith (sigElement (tritonSigBlobLayout fourcc) blobClass progType) entries)
              slots).length rest) := by
  have hbody : (sigChunkOf fourcc blobClass progType entries slots).bytes =
      wordBytes [fourcc,
        BitVec.ofNat 32 (sigChunkOf fourcc blobClass progType entries slots).body.length] ++
      (wordBytes [BitVec.ofNat 32 entries.length, 8] ++
        (wordBytes (sigElements fourcc blobClass progType entries slots).flatten ++
          (nameText (entries.map TritonSigEntry.name) ++ List.replicate (padLength
            (namedFront (entries.map TritonSigEntry.name)
              (List.zipWith (sigElement (tritonSigBlobLayout fourcc) blobClass progType) entries)
              slots).length) 0))) := by
    rw [DxbcChunk.bytes]
    apply congrArg (wordBytes _ ++ ·)
    show padded (namedFront _ _ slots) = _
    rw [padded]
    conv_lhs => rw [namedFront]
    rw [List.length_map, List.append_assoc, List.append_assoc]
    rfl
  rw [hashedPart, List.flatMap_cons, hbody, chunkOffsets, List.length_cons, sigFront, sigBack,
    DxbcChunk.length_bytes]
  simp only [List.append_assoc]

/-- The elements of a corrected signature, one behind the other. -/
theorem hashedPart_retype (fourcc blobClass progType : UINT)
    {entries entries' : List TritonSigEntry}
    (slots : List UINT) (rest : List DxbcChunk) (cbTotal : UINT)
    (hslots : slots.length = entries.length)
    (hnames : entries'.map TritonSigEntry.name = entries.map TritonSigEntry.name) :
    ∃ front back : List Byte, front.length = 0x1C + 4 * (rest.length + 1) ∧
      hashedPart (sigChunkOf fourcc blobClass progType entries slots :: rest) cbTotal =
        front ++ (wordBytes (sigElements fourcc blobClass progType entries slots).flatten ++ back) ∧
      hashedPart (sigChunkOf fourcc blobClass progType entries' slots :: rest) cbTotal =
        front ++ (wordBytes (sigElements fourcc blobClass progType entries' slots).flatten ++
          back) := by
  have hlength : entries'.length = entries.length := by
    have hmaps := congrArg List.length hnames
    rw [List.length_map, List.length_map] at hmaps
    exact hmaps
  have hlen := length_sigElement fourcc blobClass progType
  have hfront : (namedFront (entries'.map TritonSigEntry.name)
      (List.zipWith (sigElement (tritonSigBlobLayout fourcc) blobClass progType) entries')
      slots).length = (namedFront (entries.map TritonSigEntry.name)
      (List.zipWith (sigElement (tritonSigBlobLayout fourcc) blobClass progType) entries)
      slots).length := by
    rw [length_namedFront (elementsOf_zipWith entries' TritonSigEntry.name hlen slots
        (by rw [List.length_map, hlength]; exact hslots)),
      length_namedFront (elementsOf_zipWith entries TritonSigEntry.name hlen slots
        (by rw [List.length_map]; exact hslots)), hnames]
  have hbody : (sigChunkOf fourcc blobClass progType entries' slots).body.length =
      (sigChunkOf fourcc blobClass progType entries slots).body.length := by
    rw [sigChunkOf, sigChunkOf, length_padded, length_padded, hfront]
  have hsigFront : sigFront fourcc (sigChunkOf fourcc blobClass progType entries' slots).body
      entries'.length rest cbTotal =
      sigFront fourcc (sigChunkOf fourcc blobClass progType entries slots).body entries.length
        rest cbTotal := by
    rw [sigFront, sigFront, hbody, hlength]
  refine ⟨_, _, length_sigFront _ _ _ _ _, hashedPart_sigChunkOf _ _ _ _ _ _ _, ?_⟩
  rw [hashedPart_sigChunkOf, hsigFront, hnames, ← hnames, hfront, hnames]

section Corrected

variable {plan : DxbcPlan} {cIn : DxbcChunk} {rest : List DxbcChunk} {p out : List Byte}
  {cbTotal : UINT} {heap : DxbcHeap} {compReg : List Byte}

/-- A byte in front of the elements of the chunk, or behind them, is none of a type. -/
theorem FirstChunk.not_typeByte (h : FirstChunk plan cIn rest p cbTotal) {k : Nat}
    (hk : k < 0x20 + 4 * (cIn :: rest).length + 16 ∨
      0x20 + 4 * (cIn :: rest).length + 16 +
        plan.aIn.length * (tritonSigBlobLayout plan.fccIn).cbEntry ≤ k) :
    ¬(containerSig plan (cIn :: rest) cbTotal).TypeByte k := by
  rintro ⟨i, hi, hlow, hhigh⟩
  have hbase := offBase_le plan.fccIn
  rw [h.cElement_toNat] at hi
  rw [h.element_eq] at hlow hhigh
  have hmul := Nat.mul_le_mul_right (tritonSigBlobLayout plan.fccIn).cbEntry (Nat.succ_le_of_lt hi)
  rw [Nat.succ_mul] at hmul
  omega

/-- A window beside the types is that of the original. -/
theorem RetypedSig.window {s : InputSig} (hretyped : RetypedSig heap compReg p s out)
    (hlen : s.cbTotal.toNat = p.length) {off n : Nat} (hlow : 20 ≤ off) (hin : off + n ≤ p.length)
    (hout : ∀ k, k < n → ¬s.TypeByte (off + k)) : bytesAt out off n = bytesAt p off n := by
  by_cases hn : n = 0
  · subst hn
    have hlength := hretyped.length
    rw [bytesAt, bytesAt, if_pos (by omega), if_pos (by omega), List.take_zero, List.take_zero]
  · apply bytesAt_congr (by omega)
    intro k hk
    exact hretyped.frame (off + k) (by omega) (by omega) (hout k hk)

/-- An element of the corrected container is that of the corrected entry. -/
theorem FirstChunk.retyped_element (h : FirstChunk plan cIn rest p cbTotal)
    (hretyped : RetypedSig heap compReg p (containerSig plan (cIn :: rest) cbTotal) out) {i : Nat}
    {e : TritonSigEntry} {slot : UINT} (he : plan.aIn[i]? = some e)
    (helem : bytesAt p (0x20 + 4 * (cIn :: rest).length + 16 +
        i * (tritonSigBlobLayout plan.fccIn).cbEntry) (tritonSigBlobLayout plan.fccIn).cbEntry =
      some (wordBytes (sigElement (tritonSigBlobLayout plan.fccIn) DXBC_BLOB_TYPE_ISGN
        plan.progType e slot))) :
    bytesAt out (0x20 + 4 * (cIn :: rest).length + 16 +
        i * (tritonSigBlobLayout plan.fccIn).cbEntry) (tritonSigBlobLayout plan.fccIn).cbEntry =
      some (wordBytes (sigElement (tritonSigBlobLayout plan.fccIn) DXBC_BLOB_TYPE_ISGN
        plan.progType (e.retype compReg) slot)) := by
  have hbase := offBase_le plan.fccIn
  have hmod := offBase_mod plan.fccIn
  have hlt : i < plan.aIn.length := (List.getElem?_eq_some_iff.mp he).1
  have hcount := length_sigElement plan.fccIn DXBC_BLOB_TYPE_ISGN plan.progType e slot
  have hcount' := length_sigElement plan.fccIn DXBC_BLOB_TYPE_ISGN plan.progType
    (e.retype compReg) slot
  rw [length_wordBytes] at hcount hcount'
  have hin := (bytesAt_eq_some_iff.mp helem).1
  have hlen : out.length = p.length := hretyped.length.trans h.length
  have hstart : 0x20 + 4 * (cIn :: rest).length + 16 +
      i * (tritonSigBlobLayout plan.fccIn).cbEntry ≤ out.length := by omega
  have hwords := bytesAt_of_words (sigElement (tritonSigBlobLayout plan.fccIn)
    DXBC_BLOB_TYPE_ISGN plan.progType (e.retype compReg) slot) hstart ?_
  · rw [hcount'] at hwords
    exact hwords
  intro j v hv
  have hj : j < _ := (List.getElem?_eq_some_iff.mp hv).1
  rw [sigElement_retype] at hv
  by_cases htype : (tritonSigBlobLayout plan.fccIn).offBase / 4 + 3 = j
  · -- the type
    subst htype
    rw [List.getElem?_set_self (by omega)] at hv
    cases hv
    obtain ⟨htypeAt, hregAt⟩ := h.element_words he
    obtain ⟨reg, compType, hreg, hcompType, -, hnew⟩ :=
      hretyped.types i (by rw [h.cElement_toNat]; exact hlt)
    rw [hregAt] at hreg
    rw [htypeAt] at hcompType
    cases hreg
    cases hcompType
    rw [h.element_eq] at hnew
    rw [← hnew]
    congr 1
    omega
  · -- the other words
    rw [List.getElem?_set_ne htype] at hv
    rw [← wordAt?_of_wordsAt helem hv]
    apply wordAt?_congr
    intro k hk
    apply hretyped.frame
    · omega
    · rw [show (containerSig plan (cIn :: rest) cbTotal).cbTotal = cbTotal from rfl, h.length]
      omega
    · rintro ⟨i', hi', hlow, hhigh⟩
      rw [h.element_eq] at hlow hhigh
      rcases Nat.lt_trichotomy i i' with hlt' | rfl | hlt'
      · have hmul := Nat.mul_le_mul_right (tritonSigBlobLayout plan.fccIn).cbEntry
          (Nat.succ_le_of_lt hlt')
        rw [Nat.succ_mul] at hmul
        omega
      · omega
      · have hmul := Nat.mul_le_mul_right (tritonSigBlobLayout plan.fccIn).cbEntry
          (Nat.succ_le_of_lt hlt')
        rw [Nat.succ_mul] at hmul
        omega

/-- The copy is the container of the corrected chunk. -/
theorem RetypedSig.containerBytes_eq {addr stack : Nat} {slots : List UINT}
    (hcIn : cIn = sigChunkOf plan.fccIn DXBC_BLOB_TYPE_ISGN plan.progType plan.aIn slots)
    (hslots : slots.length = plan.aIn.length)
    (hp : p = containerBytes addr stack (cIn :: rest) cbTotal)
    (h : FirstChunk plan cIn rest p cbTotal)
    (hretyped : RetypedSig heap compReg p (containerSig plan (cIn :: rest) cbTotal) out) :
    ∃ addr', heap.buffer = some addr' ∧ out = containerBytes addr' heap.stack
      (sigChunkOf plan.fccIn DXBC_BLOB_TYPE_ISGN plan.progType (plan.retypeInputs compReg).aIn
        slots :: rest) cbTotal := by
  obtain ⟨addr', hbuffer, hhash⟩ := hretyped.hash
  refine ⟨addr', hbuffer, ?_⟩
  obtain ⟨front, back, hfront, hpart, hpart'⟩ := hashedPart_retype plan.fccIn DXBC_BLOB_TYPE_ISGN
    plan.progType slots rest cbTotal hslots (plan.retypeInputs_names compReg)
  rw [← hcIn] at hpart
  generalize helems : (sigElements plan.fccIn DXBC_BLOB_TYPE_ISGN plan.progType plan.aIn
    slots) = elems at hpart
  generalize helems' : (sigElements plan.fccIn DXBC_BLOB_TYPE_ISGN plan.progType
    (plan.retypeInputs compReg).aIn slots) = elems' at hpart'
  have hlenElem := length_sigElement plan.fccIn DXBC_BLOB_TYPE_ISGN plan.progType
  have hflat : (wordBytes elems.flatten).length =
      plan.aIn.length * (tritonSigBlobLayout plan.fccIn).cbEntry := by
    have hof := elementsOf_zipWith plan.aIn TritonSigEntry.name hlenElem slots
      (by rw [List.length_map]; exact hslots)
    rw [List.length_map] at hof
    rw [← helems]
    exact hof
  have hlen : out.length = p.length := hretyped.length.trans h.length
  have hhead : (leBytes DXBC_MAGIC ++ dxbcHash (addr + 0x14) stack
      (hashedPart (cIn :: rest) cbTotal) (cbTotal - 0x14#32)).length = 0x14 := by
    rw [List.length_append, length_leBytes, length_dxbcHash]
  have hbytes : p = (leBytes DXBC_MAGIC ++ dxbcHash (addr + 0x14) stack
      (hashedPart (cIn :: rest) cbTotal) (cbTotal - 0x14#32)) ++
        (front ++ (wordBytes elems.flatten ++ back)) := by
    rw [← hpart, hp, containerBytes, List.append_assoc]
  have hplen : p.length = 0x14 + (front.length + ((wordBytes elems.flatten).length +
      back.length)) := by
    rw [hbytes, List.length_append, hhead, List.length_append, List.length_append]
  have hcons : (cIn :: rest).length = rest.length + 1 := rfl
  have hin : 0x20 + 4 * (cIn :: rest).length + 16 = 0x14 + front.length := by omega
  have helemAt : ∀ (i : Nat) (q : List Byte), (elems.map wordBytes)[i]? = some q →
      bytesAt p (0x14 + front.length + i * (tritonSigBlobLayout plan.fccIn).cbEntry)
        (tritonSigBlobLayout plan.fccIn).cbEntry = some q := by
    intro i q hq
    have hpieces : ∀ q ∈ elems.map wordBytes,
        q.length = (tritonSigBlobLayout plan.fccIn).cbEntry := by
      rw [← helems]
      exact fun q hq => length_wordBytes_of_mem_zipWith hlenElem hq
    have hwindow := bytesAt_flatten hpieces hq
    have hwindow_in := (bytesAt_eq_some_iff.mp hwindow).1
    rw [← wordBytes_flatten] at hwindow hwindow_in
    rw [hbytes, Nat.add_assoc, bytesAt_append_right (by omega), hhead, Nat.add_sub_cancel_left,
      bytesAt_append_right (Nat.le_add_right _ _), Nat.add_sub_cancel_left,
      bytesAt_append_left hwindow_in]
    exact hwindow
  -- the windows of the copy in front of the elements, of the elements, and behind them
  have hfrontAt : bytesAt out 0x14 front.length = some front := by
    rw [hretyped.window h.length (by decide) (by omega)
        fun k hk => h.not_typeByte (.inl (by omega)),
      hbytes, ← hhead]
    exact bytesAt_middle _ front _
  have hbackAt : bytesAt out (0x14 + (front.length + (wordBytes elems.flatten).length))
      back.length = some back := by
    have hlast := bytesAt_last ((leBytes DXBC_MAGIC ++ dxbcHash (addr + 0x14) stack
      (hashedPart (cIn :: rest) cbTotal) (cbTotal - 0x14#32)) ++
        (front ++ wordBytes elems.flatten)) back
    rw [List.append_assoc, List.append_assoc front, ← hbytes, List.length_append, hhead,
      List.length_append] at hlast
    rw [hretyped.window h.length (by omega) (by omega) fun k hk => h.not_typeByte (.inr (by omega))]
    exact hlast
  have hpieces' : ∀ q ∈ elems'.map wordBytes,
      q.length = (tritonSigBlobLayout plan.fccIn).cbEntry := by
    rw [← helems']
    exact fun q hq => length_wordBytes_of_mem_zipWith hlenElem hq
  have helemsAt : bytesAt out (0x14 + front.length)
      ((elems'.map wordBytes).length * (tritonSigBlobLayout plan.fccIn).cbEntry) =
        some (elems'.map wordBytes).flatten := by
    apply bytesAt_of_pieces (by omega) hpieces'
    intro i q hq
    rw [← helems', sigElements, List.getElem?_map] at hq
    obtain ⟨ws, hws, rfl⟩ := Option.map_eq_some_iff.mp hq
    obtain ⟨e', slot, he', hslot, rfl⟩ := List.getElem?_zipWith_eq_some.mp hws
    rw [DxbcPlan.retypeInputs, List.getElem?_map] at he'
    obtain ⟨e, he, rfl⟩ := Option.map_eq_some_iff.mp he'
    rw [← hin]
    apply h.retyped_element hretyped he
    rw [hin]
    apply helemAt
    rw [← helems, sigElements, List.getElem?_map, List.getElem?_zipWith, he, hslot]
    rfl
  have hlength' : (elems'.map wordBytes).length * (tritonSigBlobLayout plan.fccIn).cbEntry =
      (wordBytes elems.flatten).length := by
    rw [hflat, List.length_map, ← helems', sigElements, List.length_zipWith,
      plan.retypeInputs_length, hslots, Nat.min_self]
  rw [hlength', ← wordBytes_flatten] at helemsAt
  have hdrop : out.drop 0x14 = front ++ (wordBytes elems'.flatten ++ back) := by
    have hrest := bytesAt_add helemsAt (by rw [Nat.add_assoc]; exact hbackAt)
    exact drop_of_bytesAt (bytesAt_add hfrontAt hrest) (by omega)
  have hmagic : bytesAt out 0 4 = some (leBytes DXBC_MAGIC) := by
    have hsame : bytesAt out 0 4 = bytesAt p 0 4 := bytesAt_congr (by decide) fun k hk => by
      rw [Nat.zero_add]
      exact hretyped.header k (by omega) (by omega)
    rw [hsame]
    exact bytesAt_of_wordAt? h.magic
  have hall := bytesAt_add hmagic (bytesAt_add hhash
    (bytesAt_eq_some_iff.mpr ⟨by omega, rfl⟩ : bytesAt out (0 + 4 + 16) (out.length - 0x14) = _))
  have hout := drop_of_bytesAt hall (by omega)
  rw [List.drop_zero] at hout
  rw [List.take_of_length_le (Nat.le_of_eq List.length_drop)] at hout
  rw [containerBytes, hpart', ← hdrop]
  exact hout

end Corrected

-- ============================================================================
-- Correcting and building
-- ============================================================================

section Build

variable {heap : DxbcHeap} {plan : DxbcPlan} {code bytes : List Byte} {cbOut : UINT}
  {compReg : List Byte}

theorem assembleDxbc_noBuffer (hbuffer : heap.buffer = none) :
    assembleDxbc heap plan code = none := by
  rw [assembleDxbc, hbuffer]
  rfl

theorem containerLength_congr {c c' : DxbcChunk} {rest : List DxbcChunk}
    (h : c'.bytes.length = c.bytes.length) :
    containerLength (c' :: rest) = containerLength (c :: rest) := by
  rw [containerLength, containerLength, List.flatMap_cons, List.flatMap_cons, List.length_append,
    List.length_append, h]
  rfl

/-- Correcting the types of a container is building it from the corrected plan. -/
theorem reconcile_assemble (hplan : plan.Writable)
    (hbuild : assembleDxbc heap plan code = some (bytes, cbOut)) (hlt : bytes.length < 2 ^ 32)
    (hreg : compReg.length = 32) (heap' : DxbcHeap) :
    tritonReconcileVsInputSig heap' bytes cbOut.toNat compReg =
      some (if plan.retypeInputs compReg = plan then none
        else assembleDxbc heap' (plan.retypeInputs compReg) code) := by
  cases hbuffer : heap.buffer with
  | none =>
      rw [assembleDxbc_noBuffer hbuffer] at hbuild
      cases hbuild
  | some addr =>
      obtain ⟨slots, rest, hbehind, hassemble⟩ := assembleDxbc_slots code hplan
      have hslots : slots.length = plan.aIn.length := by
        rw [hbehind.1, List.length_map]
      generalize hcIn : sigChunkOf plan.fccIn DXBC_BLOB_TYPE_ISGN plan.progType plan.aIn slots = cIn
      obtain ⟨hown, hshader⟩ := hassemble [] heap addr (cIn :: rest) hbuffer
        (by rw [plan.retypeInputs_nil, hcIn])
      rw [plan.retypeInputs_nil] at hown hshader
      rw [hown] at hbuild
      cases hbuild
      have hlength : (containerBytes addr heap.stack (cIn :: rest)
          (BitVec.ofNat 32 (containerLength (cIn :: rest)))).length =
            containerLength (cIn :: rest) := length_containerBytes addr heap.stack _ _
      have hcb : (BitVec.ofNat 32 (containerLength (cIn :: rest))).toNat =
          (containerBytes addr heap.stack (cIn :: rest)
            (BitVec.ofNat 32 (containerLength (cIn :: rest)))).length := by
        rw [hlength] at hlt ⊢
        rw [BitVec.toNat_ofNat, Nat.mod_eq_of_lt hlt]
      have hfirst := firstChunk hplan (hcIn ▸ sigChunkOf_sigChunk _ _ hbehind) hshader hcb
      generalize hp : containerBytes addr heap.stack (cIn :: rest)
        (BitVec.ofNat 32 (containerLength (cIn :: rest))) = p at hfirst hcb
      rcases reconcile_checks heap' compReg (Nat.le_of_eq hcb) with
        ⟨-, hnot⟩ | ⟨s, hs, heq⟩
      · exact absurd ⟨_, hfirst.inputSigAt⟩ hnot
      · obtain rfl := hs.unique hfirst.inputSigAt
        obtain ⟨r, hr, hsome, hnone⟩ := retypeCopy_spec heap' (Nat.le_of_eq hcb) hreg hs
          hs.off_ne_zero
        rw [heq, hr]
        apply congrArg some
        cases r with
        | none =>
            by_cases hsame : plan.retypeInputs compReg = plan
            · rw [if_pos hsame]
            · rcases hnone rfl with hnoBuffer | htyped
              · rw [if_neg hsame, assembleDxbc_noBuffer hnoBuffer]
              · exact absurd ((hfirst.typed_iff compReg).mp htyped) hsame
        | some built =>
            obtain ⟨out, cbOut⟩ := built
            obtain ⟨rfl, hretyped, hnot⟩ := hsome out cbOut rfl
            obtain ⟨addr', hbuffer', rfl⟩ :=
              hretyped.containerBytes_eq hcIn.symm hslots hp.symm hfirst
            obtain ⟨hnew, -⟩ := hassemble compReg heap' addr' _ hbuffer' rfl
            have hchunk : (sigChunkOf plan.fccIn DXBC_BLOB_TYPE_ISGN plan.progType
                (plan.retypeInputs compReg).aIn slots).bytes.length = cIn.bytes.length := by
              rw [length_sigChunkOf (by rw [plan.retypeInputs_length, hslots]),
                sigChunkLength_retypeInputs, ← hcIn, length_sigChunkOf hslots]
            rw [if_neg (mt (hfirst.typed_iff compReg).mpr hnot), hnew, containerLength_congr hchunk]
            exact congrArg some rfl

theorem assembleDxbc_some (hplan : plan.Writable)
    (hbuild : assembleDxbc heap plan code = some (bytes, cbOut)) :
    ∃ addr chunks, ShaderChunks plan (padded code) chunks ∧
      bytes = containerBytes addr heap.stack chunks cbOut ∧
      bytes.length = plan.containerSize code.length ∧
      cbOut = BitVec.ofNat 32 (plan.containerSize code.length) := by
  cases hbuffer : heap.buffer with
  | none =>
      rw [assembleDxbc_noBuffer hbuffer] at hbuild
      cases hbuild
  | some addr =>
      obtain ⟨chunks, hchunks, heq⟩ := assembleDxbc_eq code hbuffer hplan
      rw [heq] at hbuild
      cases hbuild
      rw [← hchunks.containerLength_eq]
      exact ⟨addr, chunks, hchunks, rfl, length_containerBytes addr heap.stack chunks _, rfl⟩

/-- What the reader returns for a container that was assembled. -/
theorem parse_assemble (hplan : plan.Writable)
    (hbuild : assembleDxbc heap plan code = some (bytes, cbOut)) (fInput : Bool)
    (maxEntries : UINT) :
    tritonDxbcParseSig bytes cbOut.toNat fInput maxEntries =
      some (if plan.sigEnd fInput ≤ cbOut.toNat then
        ((plan.sigEntries fInput).take maxEntries.toNat).map
          (parsedSig (tritonSigBlobLayout (plan.sigFourcc fInput)).fStream)
      else []) := by
  obtain ⟨addr, chunks, hchunks, hbytes, -⟩ := assembleDxbc_some hplan hbuild
  rw [hbytes]
  exact parse_containerBytes hplan hchunks addr heap.stack cbOut fInput maxEntries

/-- The reader sees no component types. -/
theorem map_parsedSig_retype (fStream : Bool) (compReg : List Byte) (n : Nat)
    (entries : List TritonSigEntry) :
    ((entries.map (TritonSigEntry.retype compReg)).take n).map (parsedSig fStream) =
      (entries.take n).map (parsedSig fStream) := by
  rw [← List.map_take, List.map_map]
  rfl

theorem sigFourcc_retypeInputs (plan : DxbcPlan) (compReg : List Byte) (fInput : Bool) :
    (plan.retypeInputs compReg).sigFourcc fInput = plan.sigFourcc fInput := by
  cases fInput with
  | true => exact plan.retypeInputs_fccIn compReg
  | false => exact plan.retypeInputs_fccOut compReg

theorem sigEnd_retypeInputs (plan : DxbcPlan) (compReg : List Byte) (fInput : Bool) :
    (plan.retypeInputs compReg).sigEnd fInput = plan.sigEnd fInput := by
  have hcbHdr : (plan.retypeInputs compReg).cbHdr = plan.cbHdr := rfl
  have hin := sigChunkLength_retypeInputs compReg plan
  rw [DxbcPlan.sigEnd, DxbcPlan.sigEnd, DxbcPlan.sigStart, DxbcPlan.sigStart, hcbHdr,
    sigFourcc_retypeInputs, plan.retypeInputs_fccIn, hin]
  cases fInput with
  | true => exact congrArg (_ + ·) (hin (plan.sigFourcc true))
  | false => rfl

theorem containerSize_retypeInputs (plan : DxbcPlan) (compReg : List Byte) (cbTokens : Nat) :
    (plan.retypeInputs compReg).containerSize cbTokens = plan.containerSize cbTokens := by
  rw [DxbcPlan.containerSize, DxbcPlan.containerSize, sigEnd_retypeInputs,
    plan.retypeInputs_fccPatch]
  rfl

/-- A container that was assembled has its input signature at the first chunk. -/
theorem assembleDxbc_firstChunk (hplan : plan.Writable)
    (hbuild : assembleDxbc heap plan code = some (bytes, cbOut)) (hlt : bytes.length < 2 ^ 32) :
    ∃ cIn rest, FirstChunk plan cIn rest bytes cbOut := by
  obtain ⟨addr, chunks, hchunks, rfl, hlength, rfl⟩ := assembleDxbc_some hplan hbuild
  have hcb : (BitVec.ofNat 32 (plan.containerSize code.length)).toNat =
      (containerBytes addr heap.stack chunks
        (BitVec.ofNat 32 (plan.containerSize code.length))).length := by
    rw [hlength] at hlt ⊢
    rw [BitVec.toNat_ofNat, Nat.mod_eq_of_lt hlt]
  cases hchunks with
  | noPatch hhull hin hout => exact ⟨_, _, firstChunk hplan hin (.noPatch hhull hin hout) hcb⟩
  | patch hhull hin hout hpatch =>
      exact ⟨_, _, firstChunk hplan hin (.patch hhull hin hout hpatch) hcb⟩

/-- The types in the copy are those of the corrected entries. -/
theorem FirstChunk.retyped_type {cIn : DxbcChunk} {rest : List DxbcChunk} {out : List Byte}
    (h : FirstChunk plan cIn rest bytes cbOut)
    (hretyped : RetypedSig heap compReg bytes (containerSig plan (cIn :: rest) cbOut) out) {i : Nat}
    {e : TritonSigEntry} (he : plan.aIn[i]? = some e) :
    wordAt? bytes ((containerSig plan (cIn :: rest) cbOut).element i + 12) = some e.compType ∧
      wordAt? out ((containerSig plan (cIn :: rest) cbOut).element i + 12) =
        some (e.retype compReg).compType := by
  obtain ⟨htype, hreg⟩ := h.element_words he
  obtain ⟨reg, compType, hreg', htype', -, hout⟩ := hretyped.types i
    (by rw [h.cElement_toNat]; exact (List.getElem?_eq_some_iff.mp he).1)
  rw [htype] at htype'
  rw [hreg] at hreg'
  cases htype'
  cases hreg'
  exact ⟨htype, hout⟩

/-- A signed-integer format feeds `v0`. -/
def sintTypes : List Byte :=
  2 :: List.replicate 31 0

/-- Correcting a shader that was built is building it with the corrected inputs: the
    container is that of the plan whose input entries have the types of their registers,
    and NULL when they all have them already.  The signatures that are read back are the
    same, and a second correction finds nothing. -/
theorem tritonReconcileVsInputSig_build {tokens : List UINT} {cbTokens : Nat}
    {pIn pOut pPatch : List DdiEntry} {entryStride : UINT}
    (hbuild : tritonBuildDxbc heap tokens cbTokens pIn pOut pPatch entryStride =
      .ok (some (bytes, cbOut)))
    (hplan : dxbcPlan tokens cbTokens pIn pOut pPatch entryStride = .ok plan)
    (hlt : bytes.length < 2 ^ 32) (hreg : compReg.length = 32) (heap' : DxbcHeap) :
    ∃ code r, readTokenBytes tokens cbTokens = .ok code ∧
      tritonReconcileVsInputSig heap' bytes cbOut.toNat compReg = some r ∧
      r = (if plan.retypeInputs compReg = plan then none
        else assembleDxbc heap' (plan.retypeInputs compReg) code) ∧
      ∀ out cbOut', r = some (out, cbOut') → cbOut' = cbOut ∧
        (∀ fInput maxEntries, tritonDxbcParseSig out cbOut'.toNat fInput maxEntries =
          tritonDxbcParseSig bytes cbOut.toNat fInput maxEntries) ∧
        ∀ heap₂, tritonReconcileVsInputSig heap₂ out cbOut'.toNat compReg = some none := by
  obtain ⟨plan', code, hplan', hcode, hassemble⟩ := tritonBuildDxbc_inv hbuild
  obtain rfl : plan' = plan := Except.ok.inj (hplan'.symm.trans hplan)
  have hwritable := dxbcPlan_writable hplan
  have hretyped := hwritable.retypeInputs compReg
  refine ⟨code, _, hcode, reconcile_assemble hwritable hassemble hlt hreg heap', rfl, ?_⟩
  intro out cbOut' hout
  by_cases hsame : plan'.retypeInputs compReg = plan'
  · rw [if_pos hsame] at hout
    cases hout
  · rw [if_neg hsame] at hout
    obtain ⟨-, -, -, -, hlength, hcb⟩ := assembleDxbc_some hwritable hassemble
    obtain ⟨-, -, -, -, hlength', hcb'⟩ := assembleDxbc_some hretyped hout
    rw [containerSize_retypeInputs] at hlength' hcb'
    rw [← hcb] at hcb'
    refine ⟨hcb', fun fInput maxEntries => ?_, fun heap₂ => ?_⟩
    · rw [parse_assemble hretyped hout, parse_assemble hwritable hassemble, sigEnd_retypeInputs,
        sigFourcc_retypeInputs, hcb']
      cases fInput with
      | true =>
          show some (if _ then ((plan'.aIn.map (TritonSigEntry.retype compReg)).take _).map _
            else []) = _
          rw [map_parsedSig_retype]
          rfl
      | false => rfl
    · rw [reconcile_assemble hretyped hout (by rw [hlength', ← hlength]; exact hlt) hreg heap₂,
        if_pos (plan'.retypeInputs_idem compReg)]

/-- The inputs of the shader in `v0` are corrected. -/
theorem tritonReconcileVsInputSig_build_packed :
    packedPlan.retypeInputs sintTypes ≠ packedPlan ∧ ∃ bytes cbOut,
      tritonBuildDxbc { scratch := true, buffer := some 64 } [0x00010040, 4, 0, 0] 16 packedIn
        packedOut [] 20 = .ok (some (bytes, cbOut)) ∧
      ∃ code out, readTokenBytes [0x00010040, 4, 0, 0] 16 = .ok code ∧
        tritonReconcileVsInputSig { scratch := true, buffer := some 4096 } bytes cbOut.toNat
          sintTypes = some (some (out, cbOut)) ∧
        assembleDxbc { scratch := true, buffer := some 4096 } (packedPlan.retypeInputs sintTypes)
          code = some (out, cbOut) ∧
        (∀ fInput maxEntries, tritonDxbcParseSig out cbOut.toNat fInput maxEntries =
          tritonDxbcParseSig bytes cbOut.toNat fInput maxEntries) ∧
        ∀ heap₂, tritonReconcileVsInputSig heap₂ out cbOut.toNat sintTypes = some none := by
  obtain ⟨bytes, cbOut, code, hbuild, hassemble, hlt⟩ := tritonBuildDxbc_packed
  have hchanged : packedPlan.retypeInputs sintTypes ≠ packedPlan := by decide
  obtain ⟨code', r, hcode', hr, heq, hall⟩ := tritonReconcileVsInputSig_build hbuild
    (packedPlan_eq 4 [] 16) hlt (show sintTypes.length = 32 from rfl)
    { scratch := true, buffer := some 4096 }
  rw [if_neg hchanged] at heq
  obtain ⟨chunks, -, hretyped⟩ := assembleDxbc_eq code'
    (show DxbcHeap.buffer { scratch := true, buffer := some 4096 } = some 4096 from rfl)
    ((dxbcPlan_writable (packedPlan_eq 4 [] 16)).retypeInputs sintTypes)
  obtain rfl := heq.trans hretyped
  obtain ⟨hcb, hreads, hagain⟩ := hall _ _ rfl
  rw [hcb] at hr hretyped hreads hagain
  exact ⟨hchanged, bytes, cbOut, hbuild, code', _, hcode', hr, hretyped, hreads, hagain⟩

end Build

-- ============================================================================
-- Correcting any container
-- ============================================================================

/-- Whatever bytes the container holds, the function reads and writes inside the
    container, its copy and the table.  It returns a copy exactly when there is an input
    signature with an element of another type than it should have, and the heap has room
    for the copy: that copy differs in these types and the hash alone. -/
theorem tritonReconcileVsInputSig_retypes (heap : DxbcHeap) (p : List Byte) (cbDxbc : Nat)
    (hmem : cbDxbc ≤ p.length) (compReg : List Byte) (hreg : compReg.length = 32) :
    ∃ r, tritonReconcileVsInputSig heap p cbDxbc compReg = some r ∧
      (∀ out cbOut, r = some (out, cbOut) → ∃ s, InputSigAt p cbDxbc s ∧ cbOut = s.cbTotal ∧
        RetypedSig heap compReg p s out ∧ ¬s.Typed compReg p) ∧
      (r = none → heap.buffer = none ∨ (¬∃ s, InputSigAt p cbDxbc s) ∨
        ∃ s, InputSigAt p cbDxbc s ∧ s.Typed compReg p) := by
  rcases reconcile_checks heap compReg hmem with ⟨hnull, hnot⟩ | ⟨s, h, heq⟩
  · refine ⟨none, hnull, ?_, fun _ => .inr (.inl hnot)⟩
    intro out cbOut hnone
    cases hnone
  · obtain ⟨r, hr, hsome, hnone⟩ := retypeCopy_spec heap hmem hreg h h.off_ne_zero
    refine ⟨r, heq.trans hr, ?_, ?_⟩
    · intro out cbOut hout
      obtain ⟨hcb, hretyped, htyped⟩ := hsome out cbOut hout
      exact ⟨s, h, hcb, hretyped, htyped⟩
    · intro hout
      rcases hnone hout with hbuffer | htyped
      · exact .inl hbuffer
      · exact .inr (.inr ⟨s, h, htyped⟩)

/-- Of three built elements the two in `v0` are retyped. -/
theorem tritonReconcileVsInputSig_retypes_packed :
    ∃ bytes cbOut s out,
      tritonBuildDxbc { scratch := true, buffer := some 64 } [0x00010040, 4, 0, 0] 16 packedIn
        packedOut [] 20 = .ok (some (bytes, cbOut)) ∧
      tritonReconcileVsInputSig { scratch := true, buffer := some 4096 } bytes cbOut.toNat
        sintTypes = some (some (out, cbOut)) ∧
      InputSigAt bytes cbOut.toNat s ∧ s.cElement = 3 ∧ ¬s.Typed sintTypes bytes ∧
      RetypedSig { scratch := true, buffer := some 4096 } sintTypes bytes s out ∧
      (wordAt? bytes (s.element 0 + 12) = some 3 ∧ wordAt? out (s.element 0 + 12) = some 2) ∧
      (wordAt? bytes (s.element 1 + 12) = some 3 ∧ wordAt? out (s.element 1 + 12) = some 2) ∧
      wordAt? bytes (s.element 2 + 12) = some 3 ∧ wordAt? out (s.element 2 + 12) = some 3 := by
  obtain ⟨bytes, cbOut, code, hbuild, hassemble, hlt⟩ := tritonBuildDxbc_packed
  have hplan := dxbcPlan_writable (packedPlan_eq 4 [] 16)
  obtain ⟨cIn, rest, hfirst⟩ := assembleDxbc_firstChunk hplan hassemble hlt
  obtain ⟨r, hr, hsome, hnone⟩ := tritonReconcileVsInputSig_retypes
    { scratch := true, buffer := some 4096 } bytes cbOut.toNat (Nat.le_of_eq hfirst.length)
    sintTypes rfl
  cases r with
  | none =>
      -- the heap has room, and the signature is there and has another type
      rcases hnone rfl with hbuffer | hnot | ⟨s, hs, htyped⟩
      · cases hbuffer
      · exact absurd ⟨_, hfirst.inputSigAt⟩ hnot
      · obtain rfl := hs.unique hfirst.inputSigAt
        exact absurd ((hfirst.typed_iff sintTypes).mp htyped) (by decide)
  | some built =>
      obtain ⟨out, cbOut'⟩ := built
      obtain ⟨s, hs, rfl, hretyped, hnot⟩ := hsome out cbOut' rfl
      obtain rfl := hs.unique hfirst.inputSigAt
      exact ⟨bytes, cbOut, _, out, hbuild, hr, hs, rfl, hnot, hretyped,
        hfirst.retyped_type (i := 0) hretyped rfl, hfirst.retyped_type (i := 1) hretyped rfl,
        hfirst.retyped_type (i := 2) hretyped rfl⟩

end VirtioWddm
