/-
  VirtioWddm.Triton.Dxbc.SystemOutputs

  How the register-less outputs of a pixel shader are named.

  The loop of `tritonAssignSemantics` serves the register-less entries from the system
  outputs that the shader declares; `claimed` is the set of those that are taken.
-/

import Mathlib.Data.List.Nodup
import VirtioWddm.Lib.Greedy
import VirtioWddm.Triton.Dxbc.Semantics

namespace VirtioWddm

open Lib

-- ============================================================================
-- Free outputs
-- ============================================================================

/-- The outputs that are not claimed, with their positions from `j` on. -/
def freeOuts (claimed : UINT) (outs : List SysOut) (j : Nat) : List (SysOut × Nat) :=
  (outs.zipIdx j).filter fun p => !isClaimed claimed p.2

/-- `fUint` of an output. -/
def outKind (p : SysOut × Nat) : Bool :=
  tritonSysOutCompType p.1 == COMP_UINT32

variable {claimed : UINT} {outs : List SysOut} {j k : Nat} {out : SysOut}

theorem freeOuts_cons (claimed : UINT) (out : SysOut) (outs : List SysOut) (j : Nat) :
    freeOuts claimed (out :: outs) j =
      if isClaimed claimed j then freeOuts claimed outs (j + 1)
      else (out, j) :: freeOuts claimed outs (j + 1) := by
  rw [freeOuts, List.zipIdx_cons, List.filter_cons]
  cases isClaimed claimed j with
  | true => rfl
  | false => rfl

/-- The loop that picks serves a request from the free outputs. -/
theorem pickSysOut_eq (claimed : UINT) (wantUint : Option Bool) (outs : List SysOut) (j : Nat)
    (pick : Option Nat) :
    pickSysOut claimed wantUint outs j pick =
      (((freeOuts claimed outs j).find? (suits outKind wantUint)).map Prod.snd).or
        (pick.or ((freeOuts claimed outs j).head?.map Prod.snd)) := by
  induction outs generalizing j pick with
  | nil =>
      show pick = none.or (pick.or none)
      rw [Option.none_or, Option.or_none]
  | cons out outs ih =>
      rw [pickSysOut, freeOuts_cons]
      cases hclaimed : isClaimed claimed j with
      | true =>
          rw [if_pos rfl, if_pos rfl]
          exact ih (j + 1) pick
      | false =>
          rw [if_neg Bool.false_ne_true, if_neg Bool.false_ne_true, List.find?_cons]
          dsimp only
          by_cases hwant : wantUint = none ∨
              wantUint = some (tritonSysOutCompType out == COMP_UINT32)
          · have hsuits : suits outKind wantUint (out, j) = true := by
              rcases hwant with rfl | rfl
              · rfl
              · exact BEq.rfl
            rw [if_pos hwant, hsuits]
            rfl
          · have hsuits : suits outKind wantUint (out, j) = false := by
              cases wantUint with
              | none => exact absurd (.inl rfl) hwant
              | some fUint =>
                  exact beq_eq_false_iff_ne.mpr fun heq => hwant (.inr (congrArg some heq))
            rw [if_neg hwant, hsuits, ih]
            dsimp only
            rw [List.head?_cons, Option.map_some, Option.or_assoc, Option.some_or]

theorem pickSysOut_serve (claimed : UINT) (wantUint : Option Bool) (outs : List SysOut) :
    pickSysOut claimed wantUint outs 0 none =
      (serve outKind wantUint (freeOuts claimed outs 0)).map Prod.snd := by
  rw [pickSysOut_eq, Option.none_or, serve, Option.map_or]

theorem mem_freeOuts :
    (out, k) ∈ freeOuts claimed outs 0 ↔ outs[k]? = some out ∧ isClaimed claimed k = false := by
  rw [freeOuts, List.mem_filter, List.mem_zipIdx_iff_getElem?, Bool.not_eq_true']

theorem freeOuts_nodup (claimed : UINT) (outs : List SysOut) : (freeOuts claimed outs 0).Nodup := by
  apply List.Nodup.filter
  apply List.Nodup.of_map Prod.snd
  rw [List.zipIdx_map_snd]
  exact List.nodup_range'

/-- `claimed |= 1u << k`. -/
theorem isClaimed_or (hk : k < 32) (claimed : UINT) (j : Nat) :
    isClaimed (claimed ||| 1#32 <<< k) j = (isClaimed claimed j || j == k) := by
  rw [isClaimed, isClaimed, BitVec.getLsbD_or, BitVec.getLsbD_shiftLeft, BitVec.getLsbD_one]
  congr 1
  rw [Bool.eq_iff_iff]
  simp only [Bool.and_eq_true, decide_eq_true_eq, Bool.not_eq_true', decide_eq_false_iff_not,
    beq_iff_eq]
  omega

/-- An output that is claimed is free no more. -/
theorem freeOuts_claim (claimed : UINT) (hk : k < 32) (hout : outs[k]? = some out) :
    freeOuts (claimed ||| 1#32 <<< k) outs 0 = (freeOuts claimed outs 0).erase (out, k) := by
  rw [(freeOuts_nodup claimed outs).erase_eq_filter, freeOuts, freeOuts, List.filter_filter]
  refine List.filter_congr fun p hp => ?_
  have hsame : (p != (out, k)) = !(p.2 == k) := by
    rw [bne, Bool.not_inj_iff, Bool.eq_iff_iff, beq_iff_eq, beq_iff_eq]
    constructor
    · intro heq
      rw [heq]
    · intro heq
      have hget := List.mem_zipIdx_iff_getElem?.mp hp
      rw [heq, hout, Option.some.injEq] at hget
      exact Prod.ext hget.symm heq
  rw [isClaimed_or hk, Bool.not_or, Bool.and_comm, hsame]

-- ============================================================================
-- One entry
-- ============================================================================

/-- An entry without a register. -/
def TritonSigEntry.regless (e : TritonSigEntry) : Bool :=
  e.reg == 0xFFFFFFFF#32

/-- What names a register-less entry: its name, component type and index. -/
def outKey (e : TritonSigEntry) : CString × UINT × UINT :=
  (e.name, e.compType, e.semIdx)

/-- The name, component type and index of a system output. -/
def sysOutKey (out : SysOut) : CString × UINT × UINT :=
  (tritonSysOutName out, tritonSysOutCompType out, 0)

/-- A colour output keeps its register and is the render target of that number. -/
structure IsTarget (e e' : TritonSigEntry) : Prop where
  reg : e'.reg = e.reg
  name : e.reg ≠ 0xFFFFFFFF#32 → e.sysval = 0 → e'.name = cstr "SV_Target"
  semIdx : e.reg ≠ 0xFFFFFFFF#32 → e.sysval = 0 → e'.semIdx = e.reg

/-- A register-less entry is given an output of its own kind. -/
def OwnKind (outs : List SysOut) (e e' : TritonSigEntry) : Prop :=
  e.reg = 0xFFFFFFFF#32 → e'.reg = 0xFFFFFFFF#32 ∧ ∃ out ∈ outs, outKey e' = sysOutKey out ∧
    wantUintOf e.compType = some (tritonSysOutCompType out == COMP_UINT32)

theorem pickSemanticInfo_ps :
    pickSemanticInfo 0 DXBC_BLOB_TYPE_OSGN PROG_PS = g_semPSOutput := by
  rw [pickSemanticInfo, if_pos ⟨rfl, rfl, rfl⟩]

theorem tritonSysOutCompType_ne_zero (out : SysOut) : tritonSysOutCompType out ≠ 0 := by
  cases out with
  | depth | coverage | depthGE | depthLE | stencilRef => decide

/-- An entry with a register claims nothing. -/
theorem nameEntry_register {e : TritonSigEntry} (hreg : e.reg ≠ 0xFFFFFFFF#32)
    (outs : List SysOut) (claimed : UINT) :
    ∃ e', nameEntry DXBC_BLOB_TYPE_OSGN PROG_PS outs e claimed = (e', claimed) ∧ IsTarget e e' := by
  rw [nameEntry]
  by_cases hsysval : e.sysval = 0
  · rw [hsysval, pickSemanticInfo_ps]
    simp only [if_true, resolvePSOutput, ne_eq, hreg, not_false_eq_true]
    exact ⟨_, rfl, rfl, fun _ _ => rfl, fun _ _ => rfl⟩
  · have hinfo : pickSemanticInfo e.sysval DXBC_BLOB_TYPE_OSGN PROG_PS ≠ g_semPSOutput := by
      rw [pickSemanticInfo, if_neg fun h => hsysval h.1, List.getD_eq_getElem?_getD]
      cases hget : g_semInfo[e.sysval.toNat]? with
      | none => decide
      | some info => exact g_semInfo_ne_psOutput info (List.mem_of_getElem? hget)
    simp only [if_neg hinfo]
    exact ⟨_, rfl, rfl, fun _ h => absurd h hsysval, fun _ h => absurd h hsysval⟩

/-- A register-less entry is named after the output that serves it. -/
theorem nameEntry_regless {e : TritonSigEntry} (hreg : e.reg = 0xFFFFFFFF#32)
    (hsysval : e.sysval = 0)
    (hserve : serve outKind (wantUintOf e.compType) (freeOuts claimed outs 0) = some (out, k)) :
    ∃ e', nameEntry DXBC_BLOB_TYPE_OSGN PROG_PS outs e claimed = (e', claimed ||| 1#32 <<< k) ∧
      e'.reg = 0xFFFFFFFF#32 ∧ outKey e' = sysOutKey out := by
  have hpick : pickSysOut claimed (wantUintOf e.compType) outs 0 none = some k := by
    rw [pickSysOut_serve, hserve]
    rfl
  have hout : outs[k]? = some out := (mem_freeOuts.mp (serve_mem hserve)).1
  rw [nameEntry, hsysval, pickSemanticInfo_ps]
  simp only [if_true, resolvePSOutput, ne_eq, hreg, not_true_eq_false, if_false, hpick, hout,
    if_neg (tritonSysOutCompType_ne_zero out)]
  exact ⟨_, rfl, rfl, rfl⟩

-- ============================================================================
-- The loops
-- ============================================================================

/-- What the register-less entries wish for. -/
def wishes (es : List TritonSigEntry) : List (Option Bool) :=
  (es.filter TritonSigEntry.regless).map fun e => wantUintOf e.compType

/-- What the loop that names the entries makes of `es`: `given` are the outputs that it
    claims, in the order of the entries. -/
structure NamesOutputs (outs : List SysOut) (claimed : UINT) (es es' : List TritonSigEntry)
    (claimed' : UINT) (given : List (SysOut × Nat)) : Prop where
  perm : (given ++ freeOuts claimed' outs 0).Perm (freeOuts claimed outs 0)
  named : (es'.filter TritonSigEntry.regless).map outKey = given.map fun p => sysOutKey p.1
  targets : List.Forall₂ IsTarget es es'
  ownKind : Enough outKind (wishes es) (freeOuts claimed outs 0) →
    List.Forall₂ (OwnKind outs) es es'

/-- The output that serves an entry is free until then. -/
theorem freeOuts_serve (hlen : outs.length ≤ 32) {wish : Option Bool}
    (hserve : serve outKind wish (freeOuts claimed outs 0) = some (out, k)) :
    outs[k]? = some out ∧ (out, k) ∈ freeOuts claimed outs 0 ∧
      freeOuts (claimed ||| 1#32 <<< k) outs 0 = (freeOuts claimed outs 0).erase (out, k) := by
  have hmem := serve_mem hserve
  have hout := (mem_freeOuts.mp hmem).1
  have hk : k < 32 := by
    obtain ⟨hk, -⟩ := List.getElem?_eq_some_iff.mp hout
    omega
  exact ⟨hout, hmem, freeOuts_claim claimed hk hout⟩

section Steps

variable {claimed' : UINT} {e e' : TritonSigEntry} {es es' : List TritonSigEntry}
  {given : List (SysOut × Nat)}

/-- A register-less entry takes one of the free outputs. -/
theorem NamesOutputs.serve (hlen : outs.length ≤ 32) (hreg : e.reg = 0xFFFFFFFF#32)
    (hserve : serve outKind (wantUintOf e.compType) (freeOuts claimed outs 0) = some (out, k))
    (hreg' : e'.reg = 0xFFFFFFFF#32) (hkey : outKey e' = sysOutKey out)
    (h : NamesOutputs outs (claimed ||| 1#32 <<< k) es es' claimed' given) :
    NamesOutputs outs claimed (e :: es) (e' :: es') claimed' ((out, k) :: given) := by
  have hregless : e.regless = true := beq_iff_eq.mpr hreg
  have hregless' : e'.regless = true := beq_iff_eq.mpr hreg'
  obtain ⟨hout, hmem, hclaim⟩ := freeOuts_serve hlen hserve
  constructor
  case perm => exact (h.perm.cons (out, k)).trans (hclaim ▸ (List.perm_cons_erase hmem).symm)
  case named =>
    rw [List.filter_cons_of_pos hregless', List.map_cons, h.named, hkey]
    rfl
  case targets =>
    exact .cons ⟨hreg'.trans hreg.symm, fun hne => absurd hreg hne, fun hne => absurd hreg hne⟩
      h.targets
  case ownKind =>
    intro henough
    rw [wishes, List.filter_cons_of_pos hregless, List.map_cons] at henough
    obtain ⟨hwish, hleft⟩ := henough.serve hserve
    refine .cons (fun _ => ⟨hreg', out, List.mem_of_getElem? hout, hkey, hwish⟩) (h.ownKind ?_)
    rw [hclaim]
    exact hleft

/-- An entry with a register leaves the outputs alone. -/
theorem NamesOutputs.register (hreg : e.reg ≠ 0xFFFFFFFF#32) (htarget : IsTarget e e')
    (h : NamesOutputs outs claimed es es' claimed' given) :
    NamesOutputs outs claimed (e :: es) (e' :: es') claimed' given := by
  have hregless : ¬e.regless = true := fun heq => hreg (beq_iff_eq.mp heq)
  have hregless' : ¬e'.regless = true := fun heq =>
    hreg (htarget.reg.symm.trans (beq_iff_eq.mp heq))
  constructor
  case perm => exact h.perm
  case named => rw [List.filter_cons_of_neg hregless', h.named]
  case targets => exact .cons htarget h.targets
  case ownKind =>
    intro henough
    rw [wishes, List.filter_cons_of_neg hregless] at henough
    exact .cons (fun heq => absurd heq hreg) (h.ownKind henough)

end Steps

/-- The loop over the entries. -/
theorem nameEntries_namesOutputs (hlen : outs.length ≤ 32) {es : List TritonSigEntry}
    (hsys : ∀ e ∈ es, e.reg = 0xFFFFFFFF#32 → e.sysval = 0) (claimed : UINT)
    (hcount : es.countP TritonSigEntry.regless ≤ (freeOuts claimed outs 0).length) :
    ∃ es' claimed' given,
      nameEntries DXBC_BLOB_TYPE_OSGN PROG_PS outs es claimed = (es', claimed') ∧
      NamesOutputs outs claimed es es' claimed' given := by
  induction es generalizing claimed with
  | nil => exact ⟨[], claimed, [], rfl, .refl _, rfl, .nil, fun _ => .nil⟩
  | cons e es ih =>
      have hrest : ∀ e ∈ es, e.reg = 0xFFFFFFFF#32 → e.sysval = 0 :=
        fun e he => hsys e (List.mem_cons_of_mem _ he)
      rw [nameEntries]
      by_cases hreg : e.reg = 0xFFFFFFFF#32
      · have hregless : e.regless = true := beq_iff_eq.mpr hreg
        rw [List.countP_cons_of_pos hregless] at hcount
        have hfree : freeOuts claimed outs 0 ≠ [] :=
          List.ne_nil_of_length_pos (Nat.lt_of_lt_of_le (Nat.succ_pos _) hcount)
        obtain ⟨⟨out, k⟩, hserve⟩ := exists_serve outKind (wantUintOf e.compType) hfree
        obtain ⟨e', hname, hreg', hkey⟩ :=
          nameEntry_regless hreg (hsys e List.mem_cons_self hreg) hserve
        obtain ⟨-, hmem, hclaim⟩ := freeOuts_serve hlen hserve
        obtain ⟨es', claimed', given, hnames, h⟩ := ih hrest (claimed ||| 1#32 <<< k) (by
          rw [hclaim, List.length_erase_of_mem hmem]
          omega)
        refine ⟨e' :: es', claimed', (out, k) :: given, ?_, h.serve hlen hreg hserve hreg' hkey⟩
        rw [hname]
        simp only [hnames]
      · have hregless : ¬e.regless = true := fun heq => hreg (beq_iff_eq.mp heq)
        rw [List.countP_cons_of_neg hregless] at hcount
        obtain ⟨e', hname, htarget⟩ := nameEntry_register hreg outs claimed
        obtain ⟨es', claimed', given, hnames, h⟩ := ih hrest claimed hcount
        refine ⟨e' :: es', claimed', given, ?_, h.register hreg htarget⟩
        rw [hname]
        simp only [hnames]

/-- The entry that is appended for an output. -/
def sysOutEntry (out : SysOut) : TritonSigEntry where
  sysval := 0
  reg := 0xFFFFFFFF#32
  mask := 0x1#32
  compType := tritonSysOutCompType out
  minPrec := 0
  stream := 0
  name := tritonSysOutName out
  semIdx := 0

/-- While there is room every output that is still free gets an entry. -/
theorem appendSysOuts_eq (claimed : UINT) {outs : List SysOut} {entries : List TritonSigEntry}
    (hroom : entries.length + outs.length ≤ TRITON_DXBC_MAX_SIG_ENTRIES) (j : Nat) :
    appendSysOuts claimed outs j entries =
      entries ++ (freeOuts claimed outs j).map fun p => sysOutEntry p.1 := by
  induction outs generalizing entries j with
  | nil => exact (List.append_nil entries).symm
  | cons out outs ih =>
      rw [List.length_cons] at hroom
      rw [appendSysOuts, if_pos (by omega), freeOuts_cons]
      cases isClaimed claimed j with
      | true =>
          rw [if_pos rfl, if_pos rfl]
          exact ih (by omega) (j + 1)
      | false =>
          rw [if_neg Bool.false_ne_true, if_neg Bool.false_ne_true, List.map_cons,
            ih (by rw [List.length_append, List.length_singleton]; omega) (j + 1),
            List.append_assoc]
          rfl

/-- Numbering leaves alone what has an index already. -/
theorem filter_numberEntries (before : List TritonSigEntry) {es : List TritonSigEntry}
    (hfixed : ∀ e ∈ es, e.regless = true → e.semIdx ≠ 0xFFFFFFFF#32) :
    (numberEntries before es).filter TritonSigEntry.regless =
      es.filter TritonSigEntry.regless := by
  induction es generalizing before with
  | nil => rfl
  | cons e es ih =>
      have hrest := ih (before ++ [{ e with semIdx := entryIndex before e }])
        fun e he => hfixed e (List.mem_cons_of_mem _ he)
      rw [numberEntries]
      by_cases hregless : e.regless = true
      · have hindex : entryIndex before e = e.semIdx := by
          rw [entryIndex, if_pos (hfixed e List.mem_cons_self hregless)]
        rw [List.filter_cons_of_pos (show ({ e with semIdx := entryIndex before e } :
          TritonSigEntry).regless = true from hregless), List.filter_cons_of_pos hregless, hrest,
          hindex]
      · rw [List.filter_cons_of_neg (show ¬({ e with semIdx := entryIndex before e } :
          TritonSigEntry).regless = true from hregless), List.filter_cons_of_neg hregless, hrest]

-- ============================================================================
-- The whole resolution
-- ============================================================================

/-- All register-less entries have a known component type, and neither kind has more
    entries than declared outputs. -/
structure KindsSuffice (entries : List TritonSigEntry) (outs : List SysOut) : Prop where
  known : ∀ e ∈ entries, e.reg = 0xFFFFFFFF#32 → wantUintOf e.compType ≠ none
  count : ∀ fUint : Bool,
    entries.countP (fun e => e.regless && wantUintOf e.compType == some fUint) ≤
      outs.countP fun out => (tritonSysOutCompType out == COMP_UINT32) == fUint

/-- How the outputs of a pixel shader are named. -/
structure OutputsNamed (entries result : List TritonSigEntry) (outs : List SysOut) : Prop where
  /-- the register-less entries are the declared system outputs, each once -/
  bijection : ((result.filter TritonSigEntry.regless).map outKey).Perm (outs.map sysOutKey)
  targets : ∀ (i : Nat) (e : TritonSigEntry), entries[i]? = some e → e.reg ≠ 0xFFFFFFFF#32 →
    e.sysval = 0 → ∃ e', result[i]? = some e' ∧ e'.reg = e.reg ∧ e'.name = cstr "SV_Target" ∧
      e'.semIdx = e.reg
  ownKind : KindsSuffice entries outs → ∀ (i : Nat) (e : TritonSigEntry), entries[i]? = some e →
    e.reg = 0xFFFFFFFF#32 → ∃ e', result[i]? = some e' ∧ e'.reg = 0xFFFFFFFF#32 ∧
      ∃ out ∈ outs, outKey e' = sysOutKey out ∧
        wantUintOf e.compType = some (tritonSysOutCompType out == COMP_UINT32)

theorem freeOuts_zero (outs : List SysOut) : freeOuts 0 outs 0 = outs.zipIdx := by
  rw [freeOuts, List.filter_eq_self]
  intro p _
  rw [isClaimed, show (0 : UINT) = 0#32 from rfl, BitVec.getLsbD_zero]
  rfl

theorem map_freeOuts_zero (outs : List SysOut) :
    (freeOuts 0 outs 0).map (fun p => sysOutKey p.1) = outs.map sysOutKey := by
  rw [freeOuts_zero]
  show outs.zipIdx.map (sysOutKey ∘ Prod.fst) = _
  rw [← List.map_map, List.zipIdx_map_fst]

/-- The register-less entries, with those appended for the outputs that are left. -/
theorem NamesOutputs.appended_keys {claimed' : UINT} {es es' : List TritonSigEntry}
    {given : List (SysOut × Nat)} (h : NamesOutputs outs claimed es es' claimed' given) :
    ((es' ++ (freeOuts claimed' outs 0).map fun p => sysOutEntry p.1).filter
      TritonSigEntry.regless).map outKey =
        (given ++ freeOuts claimed' outs 0).map fun p => sysOutKey p.1 := by
  have happended : ((freeOuts claimed' outs 0).map fun p => sysOutEntry p.1).filter
      TritonSigEntry.regless = (freeOuts claimed' outs 0).map fun p => sysOutEntry p.1 := by
    rw [List.filter_eq_self]
    intro e he
    obtain ⟨p, -, rfl⟩ := List.mem_map.mp he
    rfl
  rw [List.filter_append, happended, List.map_append, List.map_append, h.named, List.map_map]
  rfl

/-- They all have an index. -/
theorem NamesOutputs.appended_fixed {claimed' : UINT} {es es' : List TritonSigEntry}
    {given : List (SysOut × Nat)} (h : NamesOutputs outs claimed es es' claimed' given) :
    ∀ e ∈ es' ++ (freeOuts claimed' outs 0).map fun p => sysOutEntry p.1,
      e.regless = true → e.semIdx ≠ 0xFFFFFFFF#32 := by
  intro e he hregless
  have hmem := List.mem_map_of_mem (f := outKey) (List.mem_filter.mpr ⟨he, hregless⟩)
  rw [h.appended_keys] at hmem
  obtain ⟨p, -, hkey⟩ := List.mem_map.mp hmem
  have hzero : e.semIdx = 0 := (congrArg (fun key => key.2.2) hkey).symm
  rw [hzero]
  decide

theorem KindsSuffice.enough {entries : List TritonSigEntry} {outs : List SysOut}
    (h : KindsSuffice entries outs) : Enough outKind (wishes entries) (freeOuts 0 outs 0) where
  known := by
    intro hmem
    obtain ⟨e, he, hnone⟩ := List.mem_map.mp hmem
    rw [List.mem_filter] at he
    exact h.known e he.1 (beq_iff_eq.mp he.2) hnone
  count := by
    intro fUint
    have hcount := h.count fUint
    have hwishes : (wishes entries).count (some fUint) =
        entries.countP fun e => e.regless && wantUintOf e.compType == some fUint := by
      rw [wishes, List.count, List.countP_map, List.countP_filter]
      refine List.countP_congr fun e _ => ?_
      rw [Bool.and_comm]
      rfl
    have houts : (freeOuts 0 outs 0).countP (fun p => outKind p == fUint) =
        outs.countP fun out => (tritonSysOutCompType out == COMP_UINT32) == fUint := by
      rw [freeOuts_zero]
      show outs.zipIdx.countP
        ((fun out => (tritonSysOutCompType out == COMP_UINT32) == fUint) ∘ Prod.fst) = _
      rw [← List.countP_map, List.zipIdx_map_fst]
    rw [hwishes, houts]
    exact hcount

/-- An entry at a place of the signature stays at that place. -/
theorem numbered_getElem? {es : List TritonSigEntry} {es' appended : List TritonSigEntry}
    {R : TritonSigEntry → TritonSigEntry → Prop} (hnamed : List.Forall₂ R es es') {i : Nat}
    {e : TritonSigEntry} (he : es[i]? = some e) :
    ∃ e', R e e' ∧ (numberEntries [] (es' ++ appended))[i]? =
      some { e' with semIdx := entryIndex ((es' ++ appended).take i) e' } := by
  obtain ⟨hi, rfl⟩ := List.getElem?_eq_some_iff.mp he
  have hi' : i < es'.length := hnamed.length_eq ▸ hi
  refine ⟨es'[i], (List.forall₂_iff_get.mp hnamed).2 i hi hi', ?_⟩
  rw [numberEntries_getElem?, List.getElem?_append_left hi', List.getElem?_eq_getElem hi',
    List.nil_append]
  rfl

/-- Register-less entries of system value 0 and the declared system outputs of a pixel
    shader correspond one to one, in kind where the kinds suffice, and the colour outputs
    are the render targets of their registers. -/
theorem tritonAssignSemantics_outputs {entries : List TritonSigEntry} (scan : TritonShdrScan)
    (hscan : scan.aSysOut.length ≤ maxSysOut)
    (hsys : ∀ e ∈ entries, e.reg = 0xFFFFFFFF#32 → e.sysval = 0)
    (hcount : entries.countP TritonSigEntry.regless ≤ scan.aSysOut.length)
    (hroom : entries.length + scan.aSysOut.length ≤ TRITON_DXBC_MAX_SIG_ENTRIES) :
    OutputsNamed entries (tritonAssignSemantics entries DXBC_BLOB_TYPE_OSGN PROG_PS scan)
      scan.aSysOut := by
  have hfree : (freeOuts 0 scan.aSysOut 0).length = scan.aSysOut.length := by
    rw [freeOuts_zero, List.length_zipIdx]
  obtain ⟨es', claimed', given, hnames, h⟩ := nameEntries_namesOutputs
    (Nat.le_trans hscan (by decide)) hsys 0 (by rw [hfree]; exact hcount)
  have hassign : tritonAssignSemantics entries DXBC_BLOB_TYPE_OSGN PROG_PS scan =
      numberEntries []
        (es' ++ (freeOuts claimed' scan.aSysOut 0).map fun p => sysOutEntry p.1) := by
    rw [tritonAssignSemantics, hnames]
    dsimp only
    rw [if_pos ⟨rfl, rfl⟩, appendSysOuts_eq claimed' (h.targets.length_eq ▸ hroom)]
  rw [hassign]
  refine ⟨?_, fun i e he hreg hsysval => ?_, fun hkinds i e he hreg => ?_⟩
  · rw [filter_numberEntries [] h.appended_fixed, h.appended_keys]
    exact (h.perm.map fun p => sysOutKey p.1).trans (.of_eq (map_freeOuts_zero scan.aSysOut))
  · obtain ⟨e', htarget, hget⟩ := numbered_getElem? h.targets he
    have hindex : ∀ before, entryIndex before e' = e.reg := by
      intro before
      rw [entryIndex, htarget.semIdx hreg hsysval, if_pos hreg]
    exact ⟨_, hget, htarget.reg, htarget.name hreg hsysval, hindex _⟩
  · obtain ⟨e', hown, hget⟩ := numbered_getElem? (h.ownKind hkinds.enough) he
    obtain ⟨hreg', out, hout, hkey, hwish⟩ := hown hreg
    have hindex : ∀ before, entryIndex before e' = e'.semIdx := by
      intro before
      have hzero : e'.semIdx = 0 := congrArg (fun key => key.2.2) hkey
      rw [entryIndex, hzero]
      rfl
    refine ⟨_, hget, hreg', out, hout, ?_, hwish⟩
    rw [hindex]
    exact hkey

/-- A shader with a colour output and a coverage entry that declares depth and coverage:
    the entry is the coverage, and an entry for the depth is appended. -/
theorem tritonAssignSemantics_outputs_coverage :
    OutputsNamed
      [{ sysval := 0, reg := 2, mask := 0xF, compType := COMP_FLOAT32, minPrec := 0, stream := 0 },
        { sysval := 0, reg := 0xFFFFFFFF, mask := 0, compType := COMP_UINT32, minPrec := 0,
          stream := 0 }]
      (tritonAssignSemantics
        [{ sysval := 0, reg := 2, mask := 0xF, compType := COMP_FLOAT32, minPrec := 0,
            stream := 0 },
          { sysval := 0, reg := 0xFFFFFFFF, mask := 0, compType := COMP_UINT32, minPrec := 0,
            stream := 0 }]
        DXBC_BLOB_TYPE_OSGN PROG_PS { aSysOut := [.depth, .coverage] })
      [.depth, .coverage] :=
  tritonAssignSemantics_outputs { aSysOut := [.depth, .coverage] } (by decide) (by decide)
    (by decide) (by decide)

end VirtioWddm
