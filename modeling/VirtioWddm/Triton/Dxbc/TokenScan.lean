/-
  VirtioWddm.Triton.Dxbc.TokenScan

  The scan of an arbitrary buffer: it returns, stays below the end of the stream, visits
  spans that lie one after the other, and records no more than its arrays hold.

  What a run reads is seen by taking memory away: a read outside the buffer is a fault,
  so a run that gives the same result on the first `n` DWORDs reads only these.
-/

import VirtioWddm.Triton.Dxbc.Decls

namespace VirtioWddm

open Lib

-- ============================================================================
-- Reads
-- ============================================================================

section Reads

variable {tokens : List UINT} {pEnd n : Nat}

theorem readToken_take {i : Nat} (hi : i < n) :
    readToken (tokens.take n) i = readToken tokens i := by
  rw [readToken, List.getElem?_take_of_lt hi, readToken]

theorem tritonTokIterNext_take {it : TritonTokIter} (hend : it.pEnd ≤ n) :
    tritonTokIterNext (tokens.take n) it = tritonTokIterNext tokens it := by
  unfold tritonTokIterNext
  split
  case isTrue => rfl
  case isFalse hp =>
    rw [readToken_take (by omega)]
    refine bind_congr fun tok => ?_
    dsimp only
    split
    case isTrue =>
      split
      case isTrue => rfl
      case isFalse hleft => rw [readToken_take (by omega)]
    case isFalse => rfl

theorem extendedLen_take (hend : pEnd ≤ n) (op fuel : Nat) {len : Nat} (hlen : 0 < len) :
    extendedLen (tokens.take n) op pEnd fuel len = extendedLen tokens op pEnd fuel len := by
  induction fuel generalizing len with
  | zero => rfl
  | succ fuel ih =>
      unfold extendedLen
      split
      case isTrue hle =>
        rw [readToken_take (by omega)]
        refine bind_congr fun tok => ?_
        rw [ih (by omega)]
      case isFalse => rfl

theorem decodeIndices_take (hend : pEnd ≤ n) (op : Nat) (ot : UINT) (ds : List Nat) (len : Nat)
    (reg : UINT) :
    decodeIndices (tokens.take n) op pEnd ot ds len reg =
      decodeIndices tokens op pEnd ot ds len reg := by
  induction ds generalizing len reg with
  | nil => rfl
  | cons d ds ih =>
      unfold decodeIndices
      dsimp only
      split
      case isTrue => rfl
      case isFalse hin =>
        rw [readToken_take (by omega)]
        simp only [ih]

theorem tritonDecodeDeclOperand_take (hend : pEnd ≤ n) (op : Nat) :
    tritonDecodeDeclOperand (tokens.take n) op pEnd = tritonDecodeDeclOperand tokens op pEnd := by
  unfold tritonDecodeDeclOperand
  split
  case isTrue => rfl
  case isFalse hop =>
    rw [readToken_take (by omega)]
    refine bind_congr fun ot => ?_
    rw [operandLen, extendedLen_take hend op _ Nat.zero_lt_one, ← operandLen]
    refine bind_congr fun len => ?_
    simp only [decodeIndices_take hend]

theorem declSysval_take {span : TokenSpan} (hend : span.ins + span.cTok ≤ n)
    (operand : DeclOperand) :
    declSysval (tokens.take n) span operand = declSysval tokens span operand := by
  unfold declSysval
  split
  case isTrue hname => rw [readToken_take (by omega)]
  case isFalse => rfl

theorem scanInstruction_take {span : TokenSpan} (hend : span.ins + span.cTok ≤ n)
    (progType : UINT) (st : ScanState) :
    scanInstruction (tokens.take n) progType span st = scanInstruction tokens progType span st := by
  unfold scanInstruction
  rw [tritonDecodeDeclOperand_take hend]
  simp only [declSysval_take hend]

theorem scanLoop_take (progType : UINT) (fuel : Nat) {it : TritonTokIter} (hend : it.pEnd ≤ n)
    (st : ScanState) :
    scanLoop (tokens.take n) progType fuel it st = scanLoop tokens progType fuel it st := by
  induction fuel generalizing it st with
  | zero => rfl
  | succ fuel ih =>
      unfold scanLoop
      rw [tritonTokIterNext_take hend]
      cases hnext : tritonTokIterNext tokens it with
      | error fault => rfl
      | ok r =>
          cases r with
          | none => rfl
          | some r =>
              obtain ⟨span, it'⟩ := r
              have hstep := tritonTokIterNext_step hnext
              have hins := hstep.ins
              have hfits := hstep.fits
              rw [ok_bind, ok_bind]
              dsimp only
              rw [scanInstruction_take (by omega)]
              exact bind_congr fun st' => ih (hstep.pEnd ▸ hend) st'

end Reads

-- ============================================================================
-- Spans
-- ============================================================================

/-- The loop from `it` and `st` visits these spans and ends with `st'`. -/
inductive ScanTrace (tokens : List UINT) (progType : UINT) :
    TritonTokIter → ScanState → List TokenSpan → ScanState → Prop where
  | stop {it : TritonTokIter} {st : ScanState} (hnext : tritonTokIterNext tokens it = .ok none) :
      ScanTrace tokens progType it st [] st
  | visit {it it' : TritonTokIter} {st st₁ st' : ScanState} {span : TokenSpan}
      {spans : List TokenSpan}
      (hnext : tritonTokIterNext tokens it = .ok (some (span, it')))
      (hscan : scanInstruction tokens progType span st = .ok st₁)
      (hrest : ScanTrace tokens progType it' st₁ spans st') :
      ScanTrace tokens progType it st (span :: spans) st'

/-- Spans of at least one DWORD from `p` on, each where the one before ends, none past
    `limit`. -/
def SpansFrom (limit : Nat) : Nat → List TokenSpan → Prop
  | _, [] => True
  | p, span :: spans =>
      span.ins = p ∧ 0 < span.cTok ∧ p + span.cTok ≤ limit ∧ SpansFrom limit (p + span.cTok) spans

section Spans

variable {tokens : List UINT} {progType : UINT} {it : TritonTokIter} {st st' : ScanState}

/-- The loop, where it returns, has a trace. -/
theorem scanLoop_trace {fuel : Nat} (h : scanLoop tokens progType fuel it st = .ok st') :
    ∃ spans, ScanTrace tokens progType it st spans st' := by
  induction fuel generalizing it st with
  | zero => cases h
  | succ fuel ih =>
      obtain ⟨r, hnext, h⟩ := bind_eq_ok h
      cases r with
      | none =>
          cases h
          exact ⟨[], .stop hnext⟩
      | some r =>
          obtain ⟨span, it'⟩ := r
          obtain ⟨st₁, hscan, h⟩ := bind_eq_ok h
          obtain ⟨spans, hrest⟩ := ih h
          exact ⟨span :: spans, .visit hnext hscan hrest⟩

theorem ScanTrace.spansFrom {spans : List TokenSpan}
    (h : ScanTrace tokens progType it st spans st') : SpansFrom it.pEnd it.p spans := by
  induction h with
  | stop => trivial
  | visit hnext _ _ ih =>
      have hstep := tritonTokIterNext_step hnext
      rw [hstep.pEnd, hstep.next] at ih
      exact ⟨hstep.ins, hstep.pos, hstep.fits, ih⟩

theorem SpansFrom.le_ins {limit p : Nat} {spans : List TokenSpan} (h : SpansFrom limit p spans) :
    ∀ span ∈ spans, p ≤ span.ins := by
  induction spans generalizing p with
  | nil => exact fun span hspan => absurd hspan List.not_mem_nil
  | cons first spans ih =>
      obtain ⟨hins, -, -, hrest⟩ := h
      intro span hspan
      rcases List.mem_cons.mp hspan with rfl | hspan
      · exact Nat.le_of_eq hins.symm
      · exact Nat.le_trans (Nat.le_add_right _ _) (ih hrest span hspan)

/-- Such spans do not overlap. -/
theorem SpansFrom.disjoint {limit p : Nat} {spans : List TokenSpan}
    (h : SpansFrom limit p spans) : spans.Pairwise fun a b => a.ins + a.cTok ≤ b.ins := by
  induction spans generalizing p with
  | nil => exact .nil
  | cons first spans ih =>
      obtain ⟨hins, -, -, hrest⟩ := h
      rw [List.pairwise_cons, hins]
      exact ⟨hrest.le_ins, ih hrest⟩

end Spans

-- ============================================================================
-- Bounds
-- ============================================================================

/-- What is recorded fits the arrays and belongs to a declared stream. -/
structure TritonShdrScan.Fits (s : TritonShdrScan) : Prop where
  cIn : s.aIn.length ≤ TRITON_DXBC_MAX_SIG_ENTRIES
  cOut : s.aOut.length ≤ TRITON_DXBC_MAX_SIG_ENTRIES
  cPatch : s.aPatch.length ≤ TRITON_DXBC_MAX_SIG_ENTRIES
  cSysOut : s.aSysOut.length ≤ maxSysOut
  cStream_pos : 1 ≤ s.cStream.toNat
  cStream_le : s.cStream.toNat ≤ 4
  streamIn : ∀ d ∈ s.aIn, d.stream < s.cStream
  streamOut : ∀ d ∈ s.aOut, d.stream < s.cStream
  streamPatch : ∀ d ∈ s.aPatch, d.stream < s.cStream

/-- The invariant of the loop. -/
structure ScanState.Fits (st : ScanState) : Prop where
  scan : st.scan.Fits
  stream : st.stream < st.scan.cStream

section Bounds

variable {pa : List TritonDeclSig} {reg mask sysval stream cStream : UINT} {st st' : ScanState}

theorem length_tritonDeclAdd_le (h : pa.length ≤ TRITON_DXBC_MAX_SIG_ENTRIES) :
    (tritonDeclAdd pa reg mask sysval stream).length ≤ TRITON_DXBC_MAX_SIG_ENTRIES := by
  unfold tritonDeclAdd
  split
  case h_1 =>
    rw [List.length_modify]
    exact h
  case h_2 =>
    split
    case isTrue hroom =>
      rw [List.length_append, List.length_singleton]
      exact hroom
    case isFalse => exact h

theorem stream_tritonDeclAdd (h : ∀ d ∈ pa, d.stream < cStream) (hstream : stream < cStream) :
    ∀ d ∈ tritonDeclAdd pa reg mask sysval stream, d.stream < cStream := by
  unfold tritonDeclAdd
  split
  case h_1 i _ =>
    intro d hd
    obtain ⟨k, hk⟩ := List.mem_iff_getElem?.mp hd
    rw [List.getElem?_modify] at hk
    obtain ⟨d₀, hd₀, rfl⟩ := Option.map_eq_some_iff.mp hk
    have hmem := h d₀ (List.mem_of_getElem? hd₀)
    split
    case isTrue => exact hmem
    case isFalse => exact hmem
  case h_2 =>
    split
    case isTrue =>
      intro d hd
      rcases List.mem_append.mp hd with hd | hd
      · exact h d hd
      · rw [List.mem_singleton.mp hd]
        exact hstream
    case isFalse => exact h

theorem TritonShdrScan.Fits.zero_lt {s : TritonShdrScan} (h : s.Fits) : 0 < s.cStream :=
  BitVec.lt_def.mpr h.cStream_pos

theorem TritonShdrScan.Fits.addInput {s : TritonShdrScan} (h : s.Fits)
    (progType optype reg mask sysval : UINT) :
    (s.addInput progType optype reg mask sysval).Fits := by
  unfold TritonShdrScan.addInput
  split
  case isTrue =>
    exact { h with
      cIn := length_tritonDeclAdd_le h.cIn
      streamIn := stream_tritonDeclAdd h.streamIn h.zero_lt }
  case isFalse =>
    split
    case isTrue =>
      exact { h with
        cPatch := length_tritonDeclAdd_le h.cPatch
        streamPatch := stream_tritonDeclAdd h.streamPatch h.zero_lt }
    case isFalse =>
      split
      case isTrue =>
        exact { h with
          cIn := length_tritonDeclAdd_le h.cIn
          streamIn := stream_tritonDeclAdd h.streamIn h.zero_lt }
      case isFalse => exact h

theorem ScanState.Fits.addOutput (h : st.Fits) (progType optype reg mask sysval : UINT) :
    (st.addOutput progType optype reg mask sysval).Fits := by
  have hstream : (if progType = PROG_GS then st.stream else 0) < st.scan.cStream := by
    split
    case isTrue => exact h.stream
    case isFalse => exact h.scan.zero_lt
  unfold ScanState.addOutput
  dsimp only
  split
  case isTrue =>
    split
    case isTrue =>
      refine ⟨?_, h.stream⟩
      exact { h.scan with
        cPatch := length_tritonDeclAdd_le h.scan.cPatch
        streamPatch := stream_tritonDeclAdd h.scan.streamPatch h.scan.zero_lt }
    case isFalse =>
      refine ⟨?_, h.stream⟩
      exact { h.scan with
        cOut := length_tritonDeclAdd_le h.scan.cOut
        streamOut := stream_tritonDeclAdd h.scan.streamOut hstream }
  case isFalse =>
    split
    case h_1 out _ =>
      split
      case isTrue hroom =>
        refine ⟨?_, h.stream⟩
        exact { h.scan with
          cSysOut := by
            rw [List.length_append, List.length_singleton]
            exact hroom.2 }
      case isFalse => exact h
    case h_2 => exact h

/-- A `dcl_stream` raises the number of streams above its own. -/
theorem ScanState.Fits.setStream (h : st.Fits) (operand : DeclOperand) :
    (st.setStream operand).Fits := by
  unfold ScanState.setStream
  split
  case isTrue hop =>
    have hreg : operand.reg.toNat < 4 := BitVec.lt_def.mp hop.2
    have hnext : (operand.reg + 1).toNat = operand.reg.toNat + 1 := by
      rw [BitVec.toNat_add]
      exact Nat.mod_eq_of_lt (by show operand.reg.toNat + 1 < 2 ^ 32; omega)
    generalize hc : (if st.scan.cStream < operand.reg + 1 then operand.reg + 1
      else st.scan.cStream) = c
    have hold : st.scan.cStream.toNat ≤ c.toNat ∧ operand.reg.toNat < c.toNat ∧ c.toNat ≤ 4 := by
      have hle := h.scan.cStream_le
      rw [← hc]
      split
      case isTrue hlt =>
        have hlt := BitVec.lt_def.mp hlt
        omega
      case isFalse hge =>
        have hge := BitVec.le_def.mp (BitVec.not_lt.mp hge)
        omega
    have hmono : ∀ {s : UINT}, s < st.scan.cStream → s < c := fun hs =>
      BitVec.lt_def.mpr (Nat.lt_of_lt_of_le (BitVec.lt_def.mp hs) hold.1)
    refine ⟨?_, BitVec.lt_def.mpr hold.2.1⟩
    exact { h.scan with
      cStream_pos := Nat.le_trans h.scan.cStream_pos hold.1
      cStream_le := hold.2.2
      streamIn := fun d hd => hmono (h.scan.streamIn d hd)
      streamOut := fun d hd => hmono (h.scan.streamOut d hd)
      streamPatch := fun d hd => hmono (h.scan.streamPatch d hd) }
  case isFalse => exact h

theorem ScanState.Fits.addDecl (h : st.Fits) (progType opcode : UINT) (operand : DeclOperand)
    (sysval : UINT) : (st.addDecl progType opcode operand sysval).Fits := by
  unfold ScanState.addDecl
  split
  case isTrue =>
    refine ⟨h.scan.addInput _ _ _ _ _, ?_⟩
    have hsame :
        (st.scan.addInput progType operand.optype operand.reg operand.mask sysval).cStream =
          st.scan.cStream := by
      unfold TritonShdrScan.addInput
      split
      case isTrue => rfl
      case isFalse =>
        split
        case isTrue => rfl
        case isFalse =>
          split
          case isTrue => rfl
          case isFalse => rfl
    show st.stream < _
    rw [hsame]
    exact h.stream
  case isFalse => exact h.addOutput _ _ _ _ _

/-- What one instruction does to the state. -/
theorem scanInstruction_fits {tokens : List UINT} {progType : UINT} {span : TokenSpan}
    (h : st.Fits) (hscan : scanInstruction tokens progType span st = .ok st') : st'.Fits := by
  unfold scanInstruction at hscan
  split at hscan
  case isTrue =>
    cases hscan
    exact ⟨h.scan, h.stream⟩
  case isFalse =>
    split at hscan
    case isTrue =>
      cases hscan
      exact ⟨h.scan, h.stream⟩
    case isFalse =>
      split at hscan
      case isTrue =>
        obtain ⟨r, -, hscan⟩ := bind_eq_ok hscan
        cases r with
        | none =>
            cases hscan
            exact h
        | some operand =>
            cases hscan
            exact h.setStream operand
      case isFalse =>
        split at hscan
        case isTrue =>
          cases hscan
          exact h
        case isFalse =>
          obtain ⟨r, -, hscan⟩ := bind_eq_ok hscan
          cases r with
          | none =>
              cases hscan
              exact h
          | some operand =>
              obtain ⟨sysval, -, hscan⟩ := bind_eq_ok hscan
              cases hscan
              exact h.addDecl _ _ _ _

theorem ScanTrace.fits {tokens : List UINT} {progType : UINT} {it : TritonTokIter}
    {spans : List TokenSpan} (htrace : ScanTrace tokens progType it st spans st') (h : st.Fits) :
    st'.Fits := by
  induction htrace with
  | stop => exact h
  | visit _ hscan _ ih => exact ih (scanInstruction_fits h hscan)

theorem fits_init : ({} : ScanState).Fits where
  scan := {
    cIn := Nat.zero_le _
    cOut := Nat.zero_le _
    cPatch := Nat.zero_le _
    cSysOut := Nat.zero_le _
    cStream_pos := Nat.le_refl 1
    cStream_le := by decide
    streamIn := fun d hd => absurd hd List.not_mem_nil
    streamOut := fun d hd => absurd hd List.not_mem_nil
    streamPatch := fun d hd => absurd hd List.not_mem_nil }
  stream := by decide

end Bounds

-- ============================================================================
-- The whole scan
-- ============================================================================

/-- `it->end` as an index: the declared length, cut at the buffer. -/
def scanLimit (declared : UINT) (cbTokens : Nat) : Nat :=
  min declared.toNat (cbTokens / 4)

theorem tritonTokIterInit_eq {tokens : List UINT} {cbTokens : Nat} {declared : UINT}
    (hlong : 12 ≤ cbTokens) (hdeclared : tokens[1]? = some declared) :
    tritonTokIterInit tokens cbTokens =
      .ok (some { p := 2, pEnd := scanLimit declared cbTokens }) := by
  have hmin : (if cbTokens / 4 < declared.toNat then cbTokens / 4 else declared.toNat) =
      scanLimit declared cbTokens := by
    rw [scanLimit]
    split
    case isTrue => omega
    case isFalse => omega
  rw [tritonTokIterInit, if_neg (by omega), readToken, hdeclared]
  dsimp only [bind, Except.bind]
  rw [hmin]
  rfl

/-- The scan of a buffer with room for an instruction, from what its loop makes of it. -/
theorem tritonScanShdrDecls_loop {tokens : List UINT} {cbTokens : Nat} {declared progType : UINT}
    {st : ScanState} (hlong : 12 ≤ cbTokens) (hdeclared : tokens[1]? = some declared)
    (hprog : programType tokens = .ok progType)
    (hloop : scanLoop tokens progType (scanLimit declared cbTokens + 1)
      { p := 2, pEnd := scanLimit declared cbTokens } {} = .ok st) :
    tritonScanShdrDecls tokens cbTokens = .ok st.scan := by
  rw [tritonScanShdrDecls, tritonTokIterInit_eq hlong hdeclared, ok_bind]
  dsimp only
  rw [hprog, ok_bind, hloop]
  rfl

/-- The scan reads at most the first `n` DWORDs of the buffer. -/
def ScanReadsBelow (n : Nat) (tokens : List UINT) (cbTokens : Nat) (s : TritonShdrScan) : Prop :=
  tritonScanShdrDecls (tokens.take n) cbTokens = .ok s

/-- `tritonScanShdrDecls` on a buffer of `cbTokens` bytes with any contents: it returns a
    scan that fits; it reads nothing of a buffer without room for an instruction; else it
    reads the two header DWORDs and those below the limit, and visits spans that lie one
    after the other. -/
theorem tritonScanShdrDecls_safe (tokens : List UINT) (cbTokens : Nat)
    (hbuffer : cbTokens / 4 ≤ tokens.length) :
    ∃ s, tritonScanShdrDecls tokens cbTokens = .ok s ∧ s.Fits ∧
      (cbTokens < 12 → ScanReadsBelow 0 tokens cbTokens s) ∧
      (12 ≤ cbTokens → ∃ declared progType, tokens[1]? = some declared ∧
        programType tokens = .ok progType ∧
        ScanReadsBelow (max 2 (scanLimit declared cbTokens)) tokens cbTokens s ∧
        ∃ spans st, ScanTrace tokens progType { p := 2, pEnd := scanLimit declared cbTokens } {}
            spans st ∧ st.scan = s ∧
          SpansFrom (scanLimit declared cbTokens) 2 spans ∧
          spans.Pairwise fun a b => a.ins + a.cTok ≤ b.ins) := by
  by_cases hlong : 12 ≤ cbTokens
  · obtain ⟨declared, hdeclared⟩ : ∃ declared, tokens[1]? = some declared :=
      ⟨_, List.getElem?_eq_getElem (by omega)⟩
    have hlimit : scanLimit declared cbTokens ≤ tokens.length :=
      Nat.le_trans (Nat.min_le_right _ _) hbuffer
    have hprog : ∃ progType, programType tokens = .ok progType :=
      exists_ok_bind ⟨_, readToken_ok (show 0 < tokens.length by omega)⟩ fun tok _ => ⟨_, rfl⟩
    obtain ⟨progType, hprog⟩ := hprog
    obtain ⟨st, hloop⟩ : ∃ st, scanLoop tokens progType (scanLimit declared cbTokens + 1)
        { p := 2, pEnd := scanLimit declared cbTokens } {} = .ok st :=
      scanLoop_returns progType hlimit (by dsimp only; omega) {}
    obtain ⟨spans, htrace⟩ := scanLoop_trace hloop
    have hspans := htrace.spansFrom
    refine ⟨st.scan, ?_, (htrace.fits fits_init).scan, fun hshort => absurd hlong (by omega),
      fun _ => ⟨declared, progType, hdeclared, hprog, ?_, spans, st, htrace, rfl, hspans,
        hspans.disjoint⟩⟩
    · exact tritonScanShdrDecls_loop hlong hdeclared hprog hloop
    · -- the same run on the truncated buffer
      have hcut : ({ p := 2, pEnd := scanLimit declared cbTokens } : TritonTokIter).pEnd ≤
          max 2 (scanLimit declared cbTokens) := Nat.le_max_right _ _
      have hheader : (tokens.take (max 2 (scanLimit declared cbTokens)))[1]? = some declared := by
        rw [List.getElem?_take_of_lt (by omega), hdeclared]
      have hprog' : programType (tokens.take (max 2 (scanLimit declared cbTokens))) =
          .ok progType := by
        rw [programType, readToken_take (by omega), ← programType, hprog]
      exact tritonScanShdrDecls_loop hlong hheader hprog'
        ((scanLoop_take progType _ hcut _).trans hloop)
  · have hshort : cbTokens < 12 := by omega
    refine ⟨{}, ?_, fits_init.scan, fun _ => ?_, fun h => absurd h hlong⟩
    · rw [tritonScanShdrDecls, tritonTokIterInit, if_pos hshort]
      rfl
    · rw [ScanReadsBelow, tritonScanShdrDecls, tritonTokIterInit, if_pos hshort]
      rfl

/-- A stream that declares more than the buffer holds: a declaration of `v1`, and one with
    an operand whose chain of extended tokens runs to the end of the buffer.  A third
    declaration lies behind it. -/
def malformedTokens : List UINT :=
  [0x00010040, 0xFFFFFFFF, 0x0300005F, 0x00101032, 1, 0x0300005F, 0x80101012, 0x80000000,
    0x0300005F, 0x00101032, 2]

/-- Of its first 32 bytes the scan takes the one declaration, reads nothing behind them and
    visits spans within them; of its first 8 it reads nothing. -/
theorem tritonScanShdrDecls_safe_malformed :
    (∃ s, tritonScanShdrDecls malformedTokens 32 = .ok s ∧ s.Fits ∧
      s = { aIn := [{ reg := 1, mask := 3, sysval := 0, stream := 0 }] } ∧
      ScanReadsBelow 8 malformedTokens 32 s ∧
      ∃ spans st, ScanTrace malformedTokens 1 { p := 2, pEnd := 8 } {} spans st ∧ st.scan = s ∧
        SpansFrom 8 2 spans ∧ spans.Pairwise fun a b => a.ins + a.cTok ≤ b.ins) ∧
    ∃ s, tritonScanShdrDecls malformedTokens 8 = .ok s ∧ s.Fits ∧
      ScanReadsBelow 0 malformedTokens 8 s := by
  constructor
  · obtain ⟨s, hreturns, hfits, -, hlong⟩ := tritonScanShdrDecls_safe malformedTokens 32 (by decide)
    obtain ⟨declared, progType, hdeclared, hprog, hreads, spans, st, htrace, hscan, hspans,
      hdisjoint⟩ := hlong (by decide)
    cases hdeclared
    cases hprog
    refine ⟨s, hreturns, hfits, ?_, hreads, spans, st, htrace, hscan, hspans, hdisjoint⟩
    exact (Except.ok.inj hreturns).symm
  · obtain ⟨s, hreturns, hfits, hshort, -⟩ := tritonScanShdrDecls_safe malformedTokens 8 (by decide)
    exact ⟨s, hreturns, hfits, hshort (by decide)⟩

end VirtioWddm
