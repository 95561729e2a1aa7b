/-
  VirtioWddm.Triton.Dxbc.Plan

  What the container is built from: `dxbcPlan` returns for every stream in memory, and
  its signatures have at most 128 entries with names the budget of the buffer allows
  for.
-/

import VirtioWddm.Triton.Dxbc.Writer

namespace VirtioWddm

open Lib

-- ============================================================================
-- Collection
-- ============================================================================

theorem length_addDdiEntry_le (pDecl : List TritonDeclSig) (cStream : UINT)
    (out : List TritonSigEntry) (d : DdiSig) :
    (addDdiEntry pDecl cStream out d).length ≤ out.length + 1 := by
  unfold addDdiEntry
  split
  case isTrue =>
    dsimp only
    split
    case isTrue => exact Nat.le_of_eq List.length_append
    case isFalse => exact Nat.le_succ _
  case isFalse => exact Nat.le_of_eq List.length_append

theorem length_foldl_addDdiEntry_le (pDecl : List TritonDeclSig) (cStream : UINT)
    (ddi : List DdiSig) (out : List TritonSigEntry) :
    (ddi.foldl (addDdiEntry pDecl cStream) out).length ≤ out.length + ddi.length := by
  induction ddi generalizing out with
  | nil => exact Nat.le_refl _
  | cons d ddi ih =>
      have hstep := length_addDdiEntry_le pDecl cStream out d
      have hrest := ih (addDdiEntry pDecl cStream out d)
      rw [List.foldl_cons, List.length_cons]
      omega

theorem length_addDeclEntry_le (ddi : List DdiSig) {out : List TritonSigEntry}
    (h : out.length ≤ TRITON_DXBC_MAX_SIG_ENTRIES) (decl : TritonDeclSig) :
    (addDeclEntry ddi out decl).length ≤ TRITON_DXBC_MAX_SIG_ENTRIES := by
  unfold addDeclEntry
  split
  case isTrue hroom =>
    split
    case isTrue => exact h
    case isFalse =>
      rw [List.length_append, List.length_singleton]
      exact hroom
  case isFalse => exact h

theorem length_foldl_addDeclEntry_le (ddi : List DdiSig) (pDecl : List TritonDeclSig)
    {out : List TritonSigEntry} (h : out.length ≤ TRITON_DXBC_MAX_SIG_ENTRIES) :
    (pDecl.foldl (addDeclEntry ddi) out).length ≤ TRITON_DXBC_MAX_SIG_ENTRIES := by
  induction pDecl generalizing out with
  | nil => exact h
  | cons decl pDecl ih => exact ih (length_addDeclEntry_le ddi h decl)

theorem length_insertSigEntry (key : TritonSigEntry) (sorted : List TritonSigEntry) :
    (insertSigEntry key sorted).length = sorted.length + 1 := by
  induction sorted with
  | nil => rfl
  | cons p ps ih =>
      rw [insertSigEntry]
      split
      case isTrue => rw [List.length_cons, ih, List.length_cons]
      case isFalse => rfl

theorem length_sortSigEntries (entries : List TritonSigEntry) :
    (sortSigEntries entries).length = entries.length := by
  have hfold : ∀ sorted : List TritonSigEntry,
      (entries.foldl (fun sorted key => insertSigEntry key sorted) sorted).length =
        sorted.length + entries.length := by
    induction entries with
    | nil => exact fun _ => rfl
    | cons key entries ih =>
        intro sorted
        rw [List.foldl_cons, ih, length_insertSigEntry, List.length_cons]
        omega
  rw [sortSigEntries, List.length_reverse, hfold, List.length_nil, Nat.zero_add]

theorem length_tritonCollectSigEntries_le (pDdi : List DdiEntry) (stride : UINT)
    (pDecl : List TritonDeclSig) (cStream : UINT) :
    (tritonCollectSigEntries pDdi stride pDecl cStream).length ≤ TRITON_DXBC_MAX_SIG_ENTRIES := by
  unfold tritonCollectSigEntries
  dsimp only
  rw [length_sortSigEntries]
  apply length_foldl_addDeclEntry_le
  have hddi := length_foldl_addDdiEntry_le pDecl cStream
    ((pDdi.take TRITON_DXBC_MAX_SIG_ENTRIES).map (readDdiSig stride)) []
  rw [List.length_map, List.length_take, List.length_nil] at hddi
  omega

-- ============================================================================
-- Semantics
-- ============================================================================

/-- A name that fits the 32 bytes the builders reserve for it. -/
structure ShortName (name : CString) : Prop where
  length_le : name.length ≤ 31
  no_nul : (0 : Byte) ∉ name

instance (name : CString) : Decidable (ShortName name) :=
  decidable_of_iff (name.length ≤ 31 ∧ (0 : Byte) ∉ name)
    ⟨fun h => ⟨h.1, h.2⟩, fun h => ⟨h.length_le, h.no_nul⟩⟩

theorem g_semInfo_shortName : ∀ info ∈ g_semInfo, ShortName info.name := by
  decide

theorem tritonSysOutName_shortName (out : SysOut) : ShortName (tritonSysOutName out) := by
  cases out with
  | depth => decide
  | coverage => decide
  | depthGE => decide
  | depthLE => decide
  | stencilRef => decide

theorem pickSemanticInfo_shortName (systemValue blobType progType : UINT) :
    ShortName (pickSemanticInfo systemValue blobType progType).name := by
  unfold pickSemanticInfo
  split
  case isTrue => decide
  case isFalse =>
    rw [List.getD_eq_getElem?_getD]
    cases hget : g_semInfo[systemValue.toNat]? with
    | none => decide
    | some info => exact g_semInfo_shortName info (List.mem_of_getElem? hget)

theorem resolvePSOutput_shortName (aSysOut : List SysOut) {e : TritonSigEntry}
    (h : ShortName e.name) (claimed : UINT) :
    ShortName (resolvePSOutput aSysOut e claimed).1.name := by
  unfold resolvePSOutput
  split
  case isTrue => exact h
  case isFalse =>
    split
    case h_1 => exact h
    case h_2 =>
      split
      case h_1 => exact h
      case h_2 out _ => exact tritonSysOutName_shortName out

theorem nameEntry_shortName (blobType progType : UINT) (aSysOut : List SysOut)
    (e : TritonSigEntry) (claimed : UINT) :
    ShortName (nameEntry blobType progType aSysOut e claimed).1.name := by
  have hinfo := pickSemanticInfo_shortName e.sysval blobType progType
  unfold nameEntry
  dsimp only
  split
  case isTrue => exact resolvePSOutput_shortName aSysOut hinfo claimed
  case isFalse => exact hinfo

/-- The entries a signature chunk can be written for. -/
structure SigEntries (entries : List TritonSigEntry) : Prop where
  length_le : entries.length ≤ TRITON_DXBC_MAX_SIG_ENTRIES
  shortNames : ∀ e ∈ entries, ShortName e.name

theorem SigEntries.nil : SigEntries [] :=
  ⟨Nat.zero_le _, fun _ h => absurd h List.not_mem_nil⟩

theorem nameEntries_shortNames (blobType progType : UINT) (aSysOut : List SysOut)
    (entries : List TritonSigEntry) (claimed : UINT) :
    (nameEntries blobType progType aSysOut entries claimed).1.length = entries.length ∧
      ∀ e ∈ (nameEntries blobType progType aSysOut entries claimed).1, ShortName e.name := by
  induction entries generalizing claimed with
  | nil => exact ⟨rfl, fun _ h => absurd h List.not_mem_nil⟩
  | cons e es ih =>
      obtain ⟨hlen, hall⟩ := ih (nameEntry blobType progType aSysOut e claimed).2
      refine ⟨congrArg (· + 1) hlen, fun o ho => ?_⟩
      rcases List.mem_cons.mp ho with rfl | htail
      · exact nameEntry_shortName blobType progType aSysOut e claimed
      · exact hall o htail

theorem appendSysOuts_sigEntries (claimed : UINT) (outs : List SysOut) (j : Nat)
    {entries : List TritonSigEntry} (h : SigEntries entries) :
    SigEntries (appendSysOuts claimed outs j entries) := by
  induction outs generalizing j entries with
  | nil => exact h
  | cons out outs ih =>
      rw [appendSysOuts]
      split
      case isTrue hroom =>
        split
        case isTrue => exact ih (j + 1) h
        case isFalse =>
          refine ih (j + 1) ⟨?_, fun e he => ?_⟩
          · rw [List.length_append, List.length_singleton]
            exact hroom
          · rcases List.mem_append.mp he with hold | hnew
            · exact h.shortNames e hold
            · rw [List.mem_singleton.mp hnew]
              exact tritonSysOutName_shortName out
      case isFalse => exact h

theorem numberEntries_shortNames (before : List TritonSigEntry) {entries : List TritonSigEntry}
    (h : ∀ e ∈ entries, ShortName e.name) :
    ∀ e ∈ numberEntries before entries, ShortName e.name := by
  induction entries generalizing before with
  | nil => exact h
  | cons e es ih =>
      intro o ho
      rw [numberEntries] at ho
      rcases List.mem_cons.mp ho with rfl | htail
      · exact h e List.mem_cons_self
      · exact ih _ (fun o ho => h o (List.mem_cons_of_mem e ho)) o htail

theorem tritonAssignSemantics_sigEntries {entries : List TritonSigEntry}
    (h : entries.length ≤ TRITON_DXBC_MAX_SIG_ENTRIES) (blobType progType : UINT)
    (scan : TritonShdrScan) :
    SigEntries (tritonAssignSemantics entries blobType progType scan) := by
  obtain ⟨hlen, hnames⟩ := nameEntries_shortNames blobType progType scan.aSysOut entries 0
  have hnamed : SigEntries (nameEntries blobType progType scan.aSysOut entries 0).1 :=
    ⟨hlen ▸ h, hnames⟩
  unfold tritonAssignSemantics
  dsimp only
  have hall : ∀ all, SigEntries all → SigEntries (numberEntries [] all) := by
    intro all hall
    refine ⟨?_, numberEntries_shortNames [] hall.shortNames⟩
    rw [length_numberEntries]
    exact hall.length_le
  apply hall
  split
  case isTrue => exact appendSysOuts_sigEntries _ scan.aSysOut 0 hnamed
  case isFalse => exact hnamed

-- ============================================================================
-- The plan
-- ============================================================================

theorem DxbcPlan.hullDomain_iff {plan : DxbcPlan} :
    plan.hullDomain = true ↔ plan.progType = PROG_HS ∨ plan.progType = PROG_DS := by
  rw [DxbcPlan.hullDomain, Bool.or_eq_true, decide_eq_true_iff, decide_eq_true_iff]

/-- A plan all of whose signatures can be written. -/
structure DxbcPlan.Writable (plan : DxbcPlan) : Prop where
  aIn : SigEntries plan.aIn
  aOut : SigEntries plan.aOut
  aPatch : SigEntries plan.aPatch
  patch_nil : plan.hullDomain = false → plan.aPatch = []

/-- The first part of the build returns on a stream in memory. -/
theorem dxbcPlan_returns {tokens : List UINT} {cbTokens : Nat} (hmin : 8 ≤ cbTokens)
    (hmem : cbTokens ≤ 4 * tokens.length) (pIn pOut pPatch : List DdiEntry) (entryStride : UINT) :
    ∃ plan, dxbcPlan tokens cbTokens pIn pOut pPatch entryStride = .ok plan := by
  obtain ⟨scan, hscan⟩ := tritonScanShdrDecls_returns hmem
  have htok := readToken_ok (show 0 < tokens.length by omega)
  unfold dxbcPlan
  refine exists_ok_bind ?_ fun progType _ => ?_
  · exact exists_ok_bind ⟨_, htok⟩ fun tok _ => ⟨_, rfl⟩
  · refine exists_ok_bind ⟨scan, hscan⟩ fun scan _ => ?_
    exact exists_ok_bind ⟨_, htok⟩ fun ver _ => ⟨_, rfl⟩

theorem dxbcPlan_writable {tokens : List UINT} {cbTokens : Nat} {pIn pOut pPatch : List DdiEntry}
    {entryStride : UINT} {plan : DxbcPlan}
    (h : dxbcPlan tokens cbTokens pIn pOut pPatch entryStride = .ok plan) : plan.Writable := by
  unfold dxbcPlan at h
  obtain ⟨progType, -, h⟩ := bind_eq_ok h
  obtain ⟨scan, -, h⟩ := bind_eq_ok h
  obtain ⟨ver, -, h⟩ := bind_eq_ok h
  obtain rfl := (Except.ok.inj h).symm
  have hcollect := length_tritonCollectSigEntries_le
  by_cases hhull : progType = PROG_HS ∨ progType = PROG_DS
  · refine ⟨?_, ?_, ?_, ?_⟩
    · exact tritonAssignSemantics_sigEntries (hcollect _ _ _ _) _ _ _
    · exact tritonAssignSemantics_sigEntries (hcollect _ _ _ _) _ _ _
    · rw [if_pos hhull, if_pos hhull]
      exact tritonAssignSemantics_sigEntries (hcollect _ _ _ _) _ _ _
    · exact fun hnot => absurd (DxbcPlan.hullDomain_iff.mpr hhull) (Bool.not_eq_true _ ▸ hnot)
  · refine ⟨?_, ?_, ?_, ?_⟩
    · exact tritonAssignSemantics_sigEntries (hcollect _ _ _ _) _ _ _
    · exact tritonAssignSemantics_sigEntries (hcollect _ _ _ _) _ _ _
    · rw [if_neg hhull]
      exact SigEntries.nil
    · exact fun _ => if_neg hhull

end VirtioWddm
