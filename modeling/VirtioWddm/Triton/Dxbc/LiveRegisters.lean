/-
  VirtioWddm.Triton.Dxbc.LiveRegisters

  From the instructions of a program to what the next stage reads of its signatures.

  The scan tabulates what the program declares, collection has an entry for every row of
  the table, the names are set without moving an entry, and the reader finds the entries
  in the container: no declared register is lost on the way.
-/

import VirtioWddm.Triton.Dxbc.Collection
import VirtioWddm.Triton.Dxbc.ProgramScan
import VirtioWddm.Triton.Dxbc.RoundTrip

namespace VirtioWddm

open Lib

-- ============================================================================
-- What a program declares
-- ============================================================================

/-- The elements a program declares for its input or its output signature. -/
def declaredSigs (fInput : Bool) (progType : UINT) (program : List Instruction) :
    List TritonDeclSig :=
  if fInput then (declarations progType {} program).filterMap Declared.input?
  else (declarations progType {} program).filterMap Declared.output?

/-- Only the outputs of a geometry shader have streams. -/
def Declared.Streamed (progType : UINT) : Declared → Prop
  | .input sig => sig.stream = 0
  | .output sig => progType = PROG_GS ∨ sig.stream = 0
  | .patch _ => True
  | .system _ => True

theorem DclOperand.declaresInput_streamed {o : DclOperand} {progType sysval : UINT} {d : Declared}
    (h : o.declaresInput progType sysval = some d) : d.Streamed progType := by
  rw [DclOperand.declaresInput] at h
  split at h
  case isTrue =>
    cases h
    rfl
  case isFalse =>
    split at h
    case isTrue =>
      cases h
      trivial
    case isFalse =>
      split at h
      case isTrue =>
        cases h
        rfl
      case isFalse => cases h

theorem DclOperand.declaresOutput_streamed {o : DclOperand} {progType sysval : UINT}
    {c : DclContext} {d : Declared} (h : o.declaresOutput progType sysval c = some d) :
    d.Streamed progType := by
  rw [DclOperand.declaresOutput] at h
  split at h
  case isTrue =>
    split at h
    case isTrue =>
      cases h
      trivial
    case isFalse =>
      cases h
      by_cases hgs : progType = PROG_GS
      · exact .inl hgs
      · exact .inr (if_neg hgs)
  case isFalse =>
    split at h
    case isTrue =>
      obtain ⟨out, -, rfl⟩ := Option.map_eq_some_iff.mp h
      trivial
    case isFalse => cases h

theorem InstrKind.declares_streamed {progType : UINT} {c : DclContext} {k : InstrKind}
    {d : Declared} (h : k.declares progType c = some d) : d.Streamed progType := by
  cases k with
  | dcl opcode operand trailing =>
      rw [InstrKind.declares] at h
      by_cases hinput : opcode.isInput = true
      · rw [if_pos hinput] at h
        exact DclOperand.declaresInput_streamed h
      · rw [if_neg hinput] at h
        exact DclOperand.declaresOutput_streamed h
  | dclStream | phase | other | block => cases h

theorem declarations_streamed {progType : UINT} {program : List Instruction} {c : DclContext} :
    ∀ d ∈ declarations progType c program, d.Streamed progType := by
  induction program generalizing c with
  | nil => exact fun d hd => absurd hd List.not_mem_nil
  | cons i program ih =>
      intro d hd
      rw [declarations, List.mem_append, Option.mem_toList] at hd
      rcases hd with hd | hd
      · exact InstrKind.declares_streamed hd
      · exact ih d hd

theorem declaredSigs_stream {fInput : Bool} {progType : UINT} {program : List Instruction}
    {d : TritonDeclSig} (hd : d ∈ declaredSigs fInput progType program)
    (h : fInput = true ∨ progType ≠ PROG_GS) : d.stream = 0 := by
  cases fInput with
  | true =>
      obtain ⟨declared, hmem, hinput⟩ := List.mem_filterMap.mp hd
      have hstreamed := declarations_streamed declared hmem
      cases declared with
      | input sig =>
          obtain rfl := Option.some.inj hinput
          exact hstreamed
      | output | patch | system => cases hinput
  | false =>
      obtain ⟨declared, hmem, houtput⟩ := List.mem_filterMap.mp hd
      have hstreamed := declarations_streamed declared hmem
      cases declared with
      | output sig =>
          obtain rfl := Option.some.inj houtput
          exact hstreamed.resolve_left (h.resolve_left (by decide))
      | input | patch | system => cases houtput

-- ============================================================================
-- Entries keep their places
-- ============================================================================

/-- The same register and stream. -/
structure SamePlace (e e' : TritonSigEntry) : Prop where
  reg : e'.reg = e.reg
  stream : e'.stream = e.stream

theorem resolvePSOutput_samePlace (aSysOut : List SysOut) (e : TritonSigEntry) (claimed : UINT) :
    SamePlace e (resolvePSOutput aSysOut e claimed).1 := by
  unfold resolvePSOutput
  split
  case isTrue => exact ⟨rfl, rfl⟩
  case isFalse =>
    split
    case h_1 => exact ⟨rfl, rfl⟩
    case h_2 =>
      split
      case h_1 => exact ⟨rfl, rfl⟩
      case h_2 => exact ⟨rfl, rfl⟩

theorem nameEntry_samePlace (blobType progType : UINT) (aSysOut : List SysOut) (e : TritonSigEntry)
    (claimed : UINT) : SamePlace e (nameEntry blobType progType aSysOut e claimed).1 := by
  unfold nameEntry
  dsimp only
  split
  case isTrue =>
    have h := resolvePSOutput_samePlace aSysOut
      { e with
        name := (pickSemanticInfo e.sysval blobType progType).name
        dxSysValue := (pickSemanticInfo e.sysval blobType progType).dxSysValue } claimed
    exact ⟨h.reg, h.stream⟩
  case isFalse => exact ⟨rfl, rfl⟩

theorem nameEntries_samePlace (blobType progType : UINT) (aSysOut : List SysOut)
    (entries : List TritonSigEntry) (claimed : UINT) {e : TritonSigEntry} (he : e ∈ entries) :
    ∃ e' ∈ (nameEntries blobType progType aSysOut entries claimed).1, SamePlace e e' := by
  induction entries generalizing claimed with
  | nil => exact absurd he List.not_mem_nil
  | cons o entries ih =>
      rw [nameEntries]
      rcases List.mem_cons.mp he with rfl | he
      · exact ⟨_, List.mem_cons_self .., nameEntry_samePlace blobType progType aSysOut e claimed⟩
      · obtain ⟨e', he', hplace⟩ := ih (nameEntry blobType progType aSysOut o claimed).2 he
        exact ⟨e', List.mem_cons_of_mem _ he', hplace⟩

theorem mem_appendSysOuts (claimed : UINT) (outs : List SysOut) (j : Nat)
    {entries : List TritonSigEntry} {e : TritonSigEntry} (he : e ∈ entries) :
    e ∈ appendSysOuts claimed outs j entries := by
  induction outs generalizing j entries with
  | nil => exact he
  | cons out outs ih =>
      rw [appendSysOuts]
      split
      case isTrue =>
        split
        case isTrue => exact ih (j + 1) he
        case isFalse => exact ih (j + 1) (List.mem_append_left _ he)
      case isFalse => exact he

theorem numberEntries_samePlace (before entries : List TritonSigEntry) {e : TritonSigEntry}
    (he : e ∈ entries) : ∃ e' ∈ numberEntries before entries, SamePlace e e' := by
  obtain ⟨i, hi⟩ := List.mem_iff_getElem?.mp he
  refine ⟨{ e with semIdx := entryIndex (before ++ entries.take i) e },
    List.mem_iff_getElem?.mpr ⟨i, ?_⟩, rfl, rfl⟩
  rw [numberEntries_getElem?, hi]
  rfl

/-- `tritonAssignSemantics` drops no entry. -/
theorem tritonAssignSemantics_samePlace (entries : List TritonSigEntry) (blobType progType : UINT)
    (scan : TritonShdrScan) {e : TritonSigEntry} (he : e ∈ entries) :
    ∃ e' ∈ tritonAssignSemantics entries blobType progType scan, SamePlace e e' := by
  obtain ⟨named, hnamed, hplace⟩ :=
    nameEntries_samePlace blobType progType scan.aSysOut entries 0 he
  have hall : ∀ all : List TritonSigEntry, named ∈ all →
      ∃ e' ∈ numberEntries [] all, SamePlace e e' := by
    intro all hmem
    obtain ⟨e', he', hplace'⟩ := numberEntries_samePlace [] all hmem
    exact ⟨e', he', hplace'.reg.trans hplace.reg, hplace'.stream.trans hplace.stream⟩
  unfold tritonAssignSemantics
  dsimp only
  apply hall
  split
  case isTrue => exact mem_appendSysOuts _ scan.aSysOut 0 hnamed
  case isFalse => exact hnamed

/-- `tritonCollectSigEntries` has an entry for every declaration there is room for. -/
theorem tritonCollectSigEntries_complete (pDdi : List DdiEntry) (stride : UINT)
    {pDecl : List TritonDeclSig} (cStream : UINT)
    (hroom : pDdi.length + pDecl.length ≤ TRITON_DXBC_MAX_SIG_ENTRIES) :
    ∀ decl ∈ pDecl, ∃ e ∈ tritonCollectSigEntries pDdi stride pDecl cStream,
      Represents e decl := by
  intro decl hdecl
  rw [tritonCollectSigEntries, List.take_of_length_le (by omega)]
  have hkept := length_foldl_addDdiEntry_le pDecl cStream (pDdi.map (readDdiSig stride)) []
  rw [List.length_map, List.length_nil] at hkept
  obtain ⟨e, he, hrep⟩ := foldl_addDeclEntry_complete (pDdi.map (readDdiSig stride))
    ((pDdi.map (readDdiSig stride)).foldl (addDdiEntry pDecl cStream) []) pDecl (by omega) decl
    hdecl
  exact ⟨e, (sortSigEntries_stable _).mem_iff.mpr he, hrep⟩

-- ============================================================================
-- The plan of a program
-- ============================================================================

/-- The tables of a program are no longer than what it declares. -/
theorem length_addDecls_le (pa more : List TritonDeclSig) :
    (addDecls pa more).length ≤ pa.length + more.length := by
  induction more generalizing pa with
  | nil => exact Nat.le_refl _
  | cons d more ih =>
      have hstep : (tritonDeclAdd pa d.reg d.mask d.sysval d.stream).length ≤ pa.length + 1 := by
        rcases tritonDeclAdd_cases pa d with
          (happend | ⟨pre, e, post, sysval, hsplit, -, -, hmerge⟩) | ⟨-, hdrop⟩
        · rw [happend, List.length_append, List.length_singleton]
        · rw [hmerge, hsplit, List.length_append, List.length_append, List.length_cons,
            List.length_cons]
          omega
        · rw [hdrop]
          exact Nat.le_succ _
      have hrest := ih (tritonDeclAdd pa d.reg d.mask d.sysval d.stream)
      rw [List.length_cons]
      show (addDecls (tritonDeclAdd pa d.reg d.mask d.sysval d.stream) more).length ≤ _
      omega

section Plan

variable {version : UINT} {program : List Instruction} {after : List UINT} {cbTokens : Nat}
  {pIn pOut pPatch : List DdiEntry} {entryStride : UINT}

/-- The tables of the scan, for the input or the output signature. -/
def TritonShdrScan.sigTable (s : TritonShdrScan) (fInput : Bool) : List TritonDeclSig :=
  if fInput then s.aIn else s.aOut

theorem ScanAdds.sigTable_eq {s : TritonShdrScan} {progType : UINT}
    (h : ScanAdds {} s (declarations progType {} program) (declaredStreams program))
    (fInput : Bool) : s.sigTable fInput = addDecls [] (declaredSigs fInput progType program) := by
  cases fInput with
  | true => exact h.aIn
  | false => exact h.aOut

/-- Every declared element has an entry of its register and stream in the plan. -/
theorem dxbcPlan_declared (hwf : ∀ i ∈ program, i.kind.WellFormed)
    (hlen : (shaderTokens version program).length < 2 ^ 32)
    (hcb : 4 * (shaderTokens version program).length ≤ cbTokens) (fInput : Bool)
    (hroom : (if fInput then pIn else pOut).length +
      (declaredSigs fInput (versionProgType version) program).length ≤
        TRITON_DXBC_MAX_SIG_ENTRIES) {plan : DxbcPlan}
    (hplan : dxbcPlan (shaderTokens version program ++ after) cbTokens pIn pOut pPatch
      entryStride = .ok plan) :
    plan.progType = versionProgType version ∧ plan.verMajor = (version >>> 4) &&& 0xF#32 ∧
      ∀ d ∈ declaredSigs fInput (versionProgType version) program,
        ∃ e ∈ plan.sigEntries fInput, e.reg = d.reg ∧ e.stream = d.stream := by
  have hscan := tritonScanShdrDecls_run version hwf after hlen hcb
  have hadds := ScanAdds.run (versionProgType version) program {} (Nat.zero_le _)
  have htable := hadds.sigTable_eq fInput
  have hprog : programType (shaderTokens version program ++ after) =
      .ok (versionProgType version) := rfl
  have hver : readToken (shaderTokens version program ++ after) 0 = .ok version := rfl
  rw [dxbcPlan, hprog, ok_bind, hscan, ok_bind, hver, ok_bind] at hplan
  obtain rfl := (Except.ok.inj hplan).symm
  refine ⟨rfl, rfl, fun d hd => ?_⟩
  generalize (ScanState.run {} (versionProgType version) program).scan = scan at htable ⊢
  have hlength := length_addDecls_le [] (declaredSigs fInput (versionProgType version) program)
  have htab := (Tabulates.nil.addDecls (declaredSigs fInput (versionProgType version) program)
    (Nat.le_refl _)).complete (by rw [List.nil_append]; omega) d hd
  rw [List.length_nil, Nat.zero_add, ← htable] at hlength
  rw [← htable] at htab
  obtain ⟨decl, hdecl, hwithin⟩ := htab
  -- one argument for both signatures
  have hentry : ∀ (pDdi : List DdiEntry) (cStream blobType : UINT),
      pDdi.length + (scan.sigTable fInput).length ≤ TRITON_DXBC_MAX_SIG_ENTRIES →
      ∃ e ∈ tritonAssignSemantics
          (tritonCollectSigEntries pDdi entryStride (scan.sigTable fInput) cStream) blobType
          (versionProgType version) scan, e.reg = d.reg ∧ e.stream = d.stream := by
    intro pDdi cStream blobType hfits
    obtain ⟨e, he, hrep⟩ :=
      tritonCollectSigEntries_complete pDdi entryStride cStream hfits decl hdecl
    obtain ⟨e', he', hplace⟩ := tritonAssignSemantics_samePlace _ blobType
      (versionProgType version) scan he
    exact ⟨e', he', hplace.reg.trans (hrep.reg.trans hwithin.reg.symm),
      hplace.stream.trans (hrep.stream.trans hwithin.stream.symm)⟩
  have hfits := Nat.le_trans (Nat.add_le_add_left hlength _) hroom
  cases fInput with
  | true => exact hentry pIn 1 DXBC_BLOB_TYPE_ISGN hfits
  | false => exact hentry pOut _ DXBC_BLOB_TYPE_OSGN hfits

end Plan

-- ============================================================================
-- The container of a program
-- ============================================================================

/-- A signature ends within a container that is short enough. -/
theorem sigEnd_le_containerSize {plan : DxbcPlan} (hplan : plan.Writable) {cbTokens : Nat}
    (hcb : cbTokens + 2 ^ 16 ≤ 2 ^ 32) (fInput : Bool) :
    plan.sigEnd fInput ≤ plan.containerSize cbTokens % 2 ^ 32 := by
  have hmax : TRITON_DXBC_MAX_SIG_ENTRIES = 128 := rfl
  have hin_le := hplan.aIn.length_le
  have hout_le := hplan.aOut.length_le
  have hpatch_le := hplan.aPatch.length_le
  have hinSize := hplan.aIn.sigChunkLength_le plan.fccIn
  have houtSize := hplan.aOut.sigChunkLength_le plan.fccOut
  have hpatchSize := hplan.aPatch.sigChunkLength_le plan.fccPatch
  have hpad : padLength cbTokens < 4 := Nat.mod_lt _ (by decide)
  have hhdr : plan.cbHdr ≤ 48 := by
    rw [plan.cbHdr_eq, DxbcPlan.cBlob]
    split
    case isTrue => decide
    case isFalse => decide
  have hfalse : plan.sigEnd false =
      plan.cbHdr + sigChunkLength plan.fccIn plan.aIn + sigChunkLength plan.fccOut plan.aOut := rfl
  have htrue : plan.sigEnd true = plan.cbHdr + sigChunkLength plan.fccIn plan.aIn := rfl
  have hle : plan.sigEnd fInput ≤ plan.sigEnd false := by
    cases fInput with
    | true => omega
    | false => exact Nat.le_refl _
  have hsize : plan.containerSize cbTokens < 2 ^ 32 := by
    rw [DxbcPlan.containerSize]
    split
    case isTrue => omega
    case isFalse => omega
  rw [Nat.mod_eq_of_lt hsize, DxbcPlan.containerSize]
  omega

/-- Shader model 5 geometry shaders write their streams. -/
theorem DxbcPlan.fStream_of_geometry {plan : DxbcPlan} (hgs : plan.progType = PROG_GS)
    (hver : 5#32 ≤ plan.verMajor) :
    (tritonSigBlobLayout (plan.sigFourcc false)).fStream = true := by
  show (tritonSigBlobLayout plan.fccOut).fStream = true
  rw [DxbcPlan.fccOut]
  split
  case isTrue => rfl
  case isFalse =>
    rw [if_pos ⟨hgs, hver⟩]
    rfl

/-- The container of a program is built, and in the signatures read back from it every
    declared register has an element: of its stream where streams are written, that is
    from shader model 5 on, or where it is 0. -/
theorem tritonBuildDxbc_registers (version : UINT) (program : List Instruction)
    (hwf : ∀ i ∈ program, i.kind.WellFormed) (after : List UINT) (cbTokens : Nat)
    (hcb : 4 * (shaderTokens version program).length ≤ cbTokens)
    (hmem : cbTokens ≤ 4 * (shaderTokens version program ++ after).length)
    (hsize : cbTokens + 2 ^ 16 ≤ 2 ^ 32) (pIn pOut pPatch : List DdiEntry) {entryStride : UINT}
    (hstride : entryStride = 12 ∨ entryStride = 20) (heap : DxbcHeap)
    (hscratch : heap.scratch = true) {addr : Nat} (hbuffer : heap.buffer = some addr) :
    ∃ bytes cbOut,
      tritonBuildDxbc heap (shaderTokens version program ++ after) cbTokens pIn pOut pPatch
        entryStride = .ok (some (bytes, cbOut)) ∧
      ∀ (fInput : Bool) (maxEntries : UINT),
        (if fInput then pIn else pOut).length +
          (declaredSigs fInput (versionProgType version) program).length ≤ 128 →
        128 ≤ maxEntries.toNat →
        ∃ sigs, tritonDxbcParseSig bytes cbOut.toNat fInput maxEntries = some sigs ∧
          ∀ d ∈ declaredSigs fInput (versionProgType version) program, ∃ s ∈ sigs,
            s.register = d.reg ∧
              (5#32 ≤ (version >>> 4) &&& 0xF#32 ∨ d.stream = 0 → s.stream = d.stream) := by
  have hmin : 2 ≤ (shaderTokens version program).length := by
    rw [shaderTokens, List.length_cons, List.length_cons]
    omega
  obtain ⟨plan, hplan⟩ := dxbcPlan_returns (by omega) hmem pIn pOut pPatch entryStride
  have hwritable := dxbcPlan_writable hplan
  obtain ⟨chunks, -, hassemble⟩ := assembleDxbc_eq
    ((wordBytes (shaderTokens version program ++ after)).take cbTokens) hbuffer hwritable
  have hbuild := tritonBuildDxbc_eq (by omega) hmem hstride hscratch hplan
  rw [hassemble] at hbuild
  refine ⟨_, _, hbuild, fun fInput maxEntries hroom hmax => ?_⟩
  obtain ⟨hprog, hver, hentries⟩ := dxbcPlan_declared hwf (by omega) hcb fInput hroom hplan
  have hall := (hwritable.sigEntries fInput).length_le
  have hmax' : TRITON_DXBC_MAX_SIG_ENTRIES = 128 := rfl
  rw [parse_build hbuild hplan, if_pos (sigEnd_le_containerSize hwritable hsize fInput),
    List.take_of_length_le (by omega)]
  refine ⟨_, rfl, fun d hd => ?_⟩
  obtain ⟨e, he, hreg, hstream⟩ := hentries d hd
  refine ⟨_, List.mem_map_of_mem he, hreg, fun hcarried => ?_⟩
  rw [parsedSig]
  dsimp only
  split
  case isTrue => exact hstream
  case isFalse hnot =>
    have hzero : d.stream = 0 := by
      rcases hcarried with hfive | hzero
      · refine declaredSigs_stream hd ?_
        cases fInput with
        | true => exact .inl rfl
        | false =>
            refine .inr fun hgs => hnot ?_
            exact DxbcPlan.fStream_of_geometry (hprog.trans hgs) (hver ▸ hfive)
      · exact hzero
    exact hzero.symm

/-- A geometry shader with a DDI output besides: `o0` and the `o0` of stream 2 are read
    back, and among the inputs the primitive ID. -/
theorem tritonBuildDxbc_registers_streams :
    ∃ bytes cbOut outputs inputs,
      tritonBuildDxbc { scratch := true, buffer := some 64 }
        (shaderTokens 0x00020050 streamProgram ++ []) 104 []
        [{ systemValue := 0, registerIdx := 3, mask := 0xF }] [] 12 = .ok (some (bytes, cbOut)) ∧
      tritonDxbcParseSig bytes cbOut.toNat false 128 = some outputs ∧
      (∃ s ∈ outputs, s.register = 0 ∧ s.stream = 0) ∧
      (∃ s ∈ outputs, s.register = 0 ∧ s.stream = 2) ∧
      tritonDxbcParseSig bytes cbOut.toNat true 128 = some inputs ∧
      ∃ s ∈ inputs, s.register = 0xFFFFFFFF ∧ s.stream = 0 := by
  obtain ⟨bytes, cbOut, hbuild, hread⟩ :=
    tritonBuildDxbc_registers 0x00020050 streamProgram (by decide) [] 104 (by decide) (by decide)
      (by decide) [] [{ systemValue := 0, registerIdx := 3, mask := 0xF }] [] (.inl rfl)
      { scratch := true, buffer := some 64 } rfl rfl
  obtain ⟨outputs, houtputs, hout⟩ := hread false 128 (by decide) (by decide)
  obtain ⟨inputs, hinputs, hin⟩ := hread true 128 (by decide) (by decide)
  obtain ⟨s, hs, hreg, hstream⟩ :=
    hout { reg := 0, mask := 0x3, sysval := 0, stream := 0 } (by decide)
  obtain ⟨s', hs', hreg', hstream'⟩ :=
    hout { reg := 0, mask := 0xF, sysval := 1, stream := 2 } (by decide)
  obtain ⟨p, hp, hreg'', hstream''⟩ :=
    hin { reg := 0xFFFFFFFF, mask := 0x1, sysval := 7, stream := 0 } (by decide)
  exact ⟨bytes, cbOut, outputs, inputs, hbuild, houtputs, ⟨s, hs, hreg, hstream (.inr rfl)⟩,
    ⟨s', hs', hreg', hstream' (.inl (by decide))⟩, hinputs, p, hp, hreg'', hstream'' (.inr rfl)⟩

end VirtioWddm
