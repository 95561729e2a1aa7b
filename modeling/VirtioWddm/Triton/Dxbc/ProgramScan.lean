/-
  VirtioWddm.Triton.Dxbc.ProgramScan

  The scan of an encoded program.

  Each instruction adds at most one declaration to one table, and each table holds what
  was declared for it: every declared register with its components while there is room,
  and no component that was not declared.
-/

import VirtioWddm.Triton.Dxbc.TokenProgram

namespace VirtioWddm

open Lib

-- ============================================================================
-- What is collected
-- ============================================================================

/-- A scan that has taken in these declarations and streams. -/
structure ScanAdds (s s' : TritonShdrScan) (ds : List Declared) (streams : List UINT) : Prop where
  aIn : s'.aIn = addDecls s.aIn (ds.filterMap Declared.input?)
  aOut : s'.aOut = addDecls s.aOut (ds.filterMap Declared.output?)
  aPatch : s'.aPatch = addDecls s.aPatch (ds.filterMap Declared.patch?)
  aSysOut : s'.aSysOut = (s.aSysOut ++ ds.filterMap Declared.system?).take maxSysOut
  cStream : s'.cStream = streams.foldl (fun c r => if c < r + 1 then r + 1 else c) s.cStream

theorem ScanAdds.trans {s₁ s₂ s₃ : TritonShdrScan} {ds ds' : List Declared}
    {streams streams' : List UINT} (h : ScanAdds s₁ s₂ ds streams)
    (h' : ScanAdds s₂ s₃ ds' streams') : ScanAdds s₁ s₃ (ds ++ ds') (streams ++ streams') := by
  have hadd : ∀ pa sigs sigs', addDecls (addDecls pa sigs) sigs' = addDecls pa (sigs ++ sigs') :=
    fun pa sigs sigs' => List.foldl_append.symm
  have htake : ∀ (l l' : List SysOut), (l.take maxSysOut ++ l').take maxSysOut =
      (l ++ l').take maxSysOut := by
    intro l l'
    rw [List.take_append, List.take_append, List.take_take, Nat.min_self, List.length_take]
    by_cases hlen : l.length ≤ maxSysOut
    · rw [Nat.min_eq_right hlen]
    · rw [Nat.min_eq_left (by omega), Nat.sub_self, Nat.sub_eq_zero_of_le (by omega)]
  refine ⟨?_, ?_, ?_, ?_, ?_⟩
  · rw [h'.aIn, h.aIn, hadd, List.filterMap_append]
  · rw [h'.aOut, h.aOut, hadd, List.filterMap_append]
  · rw [h'.aPatch, h.aPatch, hadd, List.filterMap_append]
  · rw [h'.aSysOut, h.aSysOut, htake, List.append_assoc, List.filterMap_append]
  · rw [h'.cStream, h.cStream, List.foldl_append]

/-- One declaration. -/
theorem ScanAdds.record (s : TritonShdrScan) (hsys : s.aSysOut.length ≤ maxSysOut)
    (d : Option Declared) : ScanAdds s (d.elim s s.record) d.toList [] := by
  have hkept : (s.aSysOut ++ []).take maxSysOut = s.aSysOut := by
    rw [List.append_nil, List.take_of_length_le hsys]
  cases d with
  | none => exact ⟨rfl, rfl, rfl, hkept.symm, rfl⟩
  | some d =>
      cases d with
      | input d => exact ⟨rfl, rfl, rfl, hkept.symm, rfl⟩
      | output d => exact ⟨rfl, rfl, rfl, hkept.symm, rfl⟩
      | patch d => exact ⟨rfl, rfl, rfl, hkept.symm, rfl⟩
      | system out =>
          show ScanAdds s (s.record (.system out)) [.system out] []
          rw [TritonShdrScan.record]
          by_cases hroom : s.aSysOut.length < maxSysOut
          · rw [if_pos hroom]
            refine ⟨rfl, rfl, rfl, ?_, rfl⟩
            rw [List.take_of_length_le]
            · rfl
            · show (s.aSysOut ++ [out]).length ≤ maxSysOut
              rw [List.length_append, List.length_singleton]
              exact hroom
          · rw [if_neg hroom]
            refine ⟨rfl, rfl, rfl, ?_, rfl⟩
            rw [List.take_append_of_le_length (by omega), List.take_of_length_le hsys]

/-- One instruction. -/
theorem ScanAdds.perform (st : ScanState) (hsys : st.scan.aSysOut.length ≤ maxSysOut)
    (progType : UINT) (k : InstrKind) :
    ScanAdds st.scan (st.perform progType k).scan (k.declares progType st.context).toList
      k.stream?.toList := by
  have hrecord := ScanAdds.record st.scan hsys (k.declares progType st.context)
  refine ⟨hrecord.aIn, hrecord.aOut, hrecord.aPatch, hrecord.aSysOut, ?_⟩
  have hsame := hrecord.cStream
  rw [List.foldl_nil] at hsame
  rw [ScanState.perform]
  dsimp only
  rw [hsame]
  cases k.stream? with
  | none => rfl
  | some r => rfl

theorem ScanAdds.length_le {s s' : TritonShdrScan} {ds : List Declared} {streams : List UINT}
    (h : ScanAdds s s' ds streams) : s'.aSysOut.length ≤ maxSysOut := by
  rw [h.aSysOut, List.length_take]
  exact Nat.min_le_left _ _

/-- A program. -/
theorem ScanAdds.run (progType : UINT) (program : List Instruction) (st : ScanState)
    (hsys : st.scan.aSysOut.length ≤ maxSysOut) :
    ScanAdds st.scan (st.run progType program).scan (declarations progType st.context program)
      (declaredStreams program) := by
  induction program generalizing st with
  | nil =>
      refine ⟨rfl, rfl, rfl, ?_, rfl⟩
      show _ = (st.scan.aSysOut ++ []).take maxSysOut
      rw [List.append_nil, List.take_of_length_le hsys]
      rfl
  | cons i program ih =>
      have hfirst := ScanAdds.perform st hsys progType i.kind
      have hrest := ih (st.perform progType i.kind) hfirst.length_le
      have hstreams : declaredStreams (i :: program) =
          i.kind.stream?.toList ++ declaredStreams program := by
        rw [declaredStreams, List.filterMap_cons]
        cases i.kind.stream? with
        | none => rfl
        | some r => rfl
      rw [hstreams]
      exact hfirst.trans hrest

-- ============================================================================
-- What a table holds
-- ============================================================================

/-- The register of `d` is that of `e`, with all its components. -/
structure TritonDeclSig.Within (d e : TritonDeclSig) : Prop where
  reg : d.reg = e.reg
  stream : d.stream = e.stream
  mask : ∀ c, d.mask.getLsbD c = true → e.mask.getLsbD c = true

theorem TritonDeclSig.Within.refl (d : TritonDeclSig) : d.Within d := ⟨rfl, rfl, fun _ h => h⟩

theorem TritonDeclSig.Within.trans {d e f : TritonDeclSig} (h : d.Within e) (h' : e.Within f) :
    d.Within f :=
  ⟨h.reg.trans h'.reg, h.stream.trans h'.stream, fun c hc => h'.mask c (h.mask c hc)⟩

/-- A table that holds what was declared, and nothing else. -/
structure Tabulates (sigs table : List TritonDeclSig) : Prop where
  complete : sigs.length ≤ TRITON_DXBC_MAX_SIG_ENTRIES → ∀ d ∈ sigs, ∃ e ∈ table, d.Within e
  sound : ∀ e ∈ table, (∃ d ∈ sigs, d.reg = e.reg ∧ d.stream = e.stream) ∧
    ∀ c, e.mask.getLsbD c = true → ∃ d ∈ sigs, d.reg = e.reg ∧ d.stream = e.stream ∧
      d.mask.getLsbD c = true

/-- What `tritonDeclAdd` does with an entry: it is appended, merged into one of its
    register, or dropped from a full table. -/
theorem tritonDeclAdd_cases (pa : List TritonDeclSig) (d : TritonDeclSig) :
    (tritonDeclAdd pa d.reg d.mask d.sysval d.stream = pa ++ [d] ∨
      ∃ pre e post sysval, pa = pre ++ e :: post ∧ e.reg = d.reg ∧ e.stream = d.stream ∧
        tritonDeclAdd pa d.reg d.mask d.sysval d.stream =
          pre ++ { e with mask := e.mask ||| d.mask, sysval := sysval } :: post) ∨
      (TRITON_DXBC_MAX_SIG_ENTRIES ≤ pa.length ∧
        tritonDeclAdd pa d.reg d.mask d.sysval d.stream = pa) := by
  rw [tritonDeclAdd]
  cases hfind : pa.findIdx? fun e => e.merges d.reg d.mask d.stream with
  | none =>
      dsimp only
      by_cases hroom : pa.length < TRITON_DXBC_MAX_SIG_ENTRIES
      · rw [if_pos hroom]
        exact .inl (.inl rfl)
      · rw [if_neg hroom]
        exact .inr ⟨Nat.not_lt.mp hroom, rfl⟩
  | some i =>
      obtain ⟨hi, hmerges, -⟩ := List.findIdx?_eq_some_iff_getElem.mp hfind
      have hsplit : pa = pa.take i ++ pa[i] :: pa.drop (i + 1) := by
        rw [List.getElem_cons_drop, List.take_append_drop]
      rw [TritonDeclSig.merges, Bool.and_eq_true, Bool.and_eq_true, beq_iff_eq, beq_iff_eq]
        at hmerges
      exact .inl (.inr ⟨_, _, _, if d.sysval ≠ 0 ∧ pa[i].sysval = 0 then d.sysval else pa[i].sysval,
        hsplit, hmerges.1.1, hmerges.1.2, List.modify_eq_take_cons_drop hi⟩)

theorem Tabulates.nil : Tabulates [] [] :=
  ⟨fun _ _ hd => absurd hd List.not_mem_nil, fun _ he => absurd he List.not_mem_nil⟩

section Tables

variable {sigs table : List TritonDeclSig} {d : TritonDeclSig}

/-- What an entry stands for is declared, also when more is. -/
theorem Tabulates.sound_concat (h : Tabulates sigs table) (d : TritonDeclSig) :
    ∀ e ∈ table, (∃ d' ∈ sigs ++ [d], d'.reg = e.reg ∧ d'.stream = e.stream) ∧
      ∀ c, e.mask.getLsbD c = true → ∃ d' ∈ sigs ++ [d], d'.reg = e.reg ∧ d'.stream = e.stream ∧
        d'.mask.getLsbD c = true := by
  intro e he
  obtain ⟨⟨d', hd', hplace⟩, hbits⟩ := h.sound e he
  refine ⟨⟨d', List.mem_append_left _ hd', hplace⟩, fun c hc => ?_⟩
  obtain ⟨d', hd', hbit⟩ := hbits c hc
  exact ⟨d', List.mem_append_left _ hd', hbit⟩

/-- An entry of its own. -/
theorem Tabulates.append (h : Tabulates sigs table) (d : TritonDeclSig) :
    Tabulates (sigs ++ [d]) (table ++ [d]) := by
  refine ⟨fun hroom d' hd' => ?_, fun e he => ?_⟩
  · rw [List.length_append, List.length_singleton] at hroom
    rcases List.mem_append.mp hd' with hd' | hd'
    · obtain ⟨e, he, hwithin⟩ := h.complete (by omega) d' hd'
      exact ⟨e, List.mem_append_left _ he, hwithin⟩
    · rw [List.mem_singleton.mp hd']
      exact ⟨d, List.mem_append_right _ (List.mem_singleton_self d), .refl d⟩
  · have hlast : d ∈ sigs ++ [d] := List.mem_append_right _ (List.mem_singleton_self d)
    rcases List.mem_append.mp he with he | he
    · exact h.sound_concat d e he
    · rw [List.mem_singleton.mp he]
      exact ⟨⟨d, hlast, rfl, rfl⟩, fun c hc => ⟨d, hlast, rfl, rfl, hc⟩⟩

/-- An entry widened by the mask of a declaration of its register. -/
theorem Tabulates.merge {pre post : List TritonDeclSig} {e new : TritonDeclSig}
    (h : Tabulates sigs (pre ++ e :: post)) (hreg : e.reg = d.reg) (hstream : e.stream = d.stream)
    (hnewReg : new.reg = e.reg) (hnewStream : new.stream = e.stream)
    (hmask : new.mask = e.mask ||| d.mask) : Tabulates (sigs ++ [d]) (pre ++ new :: post) := by
  have hbit : ∀ c, new.mask.getLsbD c = (e.mask.getLsbD c || d.mask.getLsbD c) := fun c => by
    rw [hmask, BitVec.getLsbD_or]
  have hnew : new ∈ pre ++ new :: post := List.mem_append_right _ (List.mem_cons_self ..)
  have he : e ∈ pre ++ e :: post := List.mem_append_right _ (List.mem_cons_self ..)
  refine ⟨fun hroom d' hd' => ?_, fun e' he' => ?_⟩
  · rw [List.length_append, List.length_singleton] at hroom
    rcases List.mem_append.mp hd' with hd' | hd'
    · obtain ⟨e', he', hwithin⟩ := h.complete (by omega) d' hd'
      rw [List.mem_append, List.mem_cons] at he'
      rcases he' with he' | rfl | he'
      · exact ⟨e', List.mem_append_left _ he', hwithin⟩
      · refine ⟨new, hnew, hwithin.trans ⟨hnewReg.symm, hnewStream.symm, fun c hc => ?_⟩⟩
        rw [hbit, hc, Bool.true_or]
      · exact ⟨e', List.mem_append_right _ (List.mem_cons_of_mem _ he'), hwithin⟩
    · rw [List.mem_singleton.mp hd']
      refine ⟨new, hnew, (hnewReg.trans hreg).symm, (hnewStream.trans hstream).symm, fun c hc => ?_⟩
      rw [hbit, hc, Bool.or_true]
  · rw [List.mem_append, List.mem_cons] at he'
    rcases he' with he' | rfl | he'
    · exact h.sound_concat d e' (List.mem_append_left _ he')
    · obtain ⟨hplace, hbits⟩ := h.sound_concat d e he
      rw [hnewReg, hnewStream]
      refine ⟨hplace, fun c hc => ?_⟩
      rw [hbit, Bool.or_eq_true] at hc
      rcases hc with hc | hc
      · exact hbits c hc
      · exact ⟨d, List.mem_append_right _ (List.mem_singleton_self d), hreg.symm, hstream.symm, hc⟩
    · exact h.sound_concat d e' (List.mem_append_right _ (List.mem_cons_of_mem _ he'))

/-- One more declaration. -/
theorem Tabulates.concat (h : Tabulates sigs table) (hlen : table.length ≤ sigs.length)
    (d : TritonDeclSig) :
    Tabulates (sigs ++ [d]) (addDecls table [d]) ∧
      (addDecls table [d]).length ≤ (sigs ++ [d]).length := by
  rw [List.length_append, List.length_singleton]
  show Tabulates _ (tritonDeclAdd table d.reg d.mask d.sysval d.stream) ∧
    (tritonDeclAdd table d.reg d.mask d.sysval d.stream).length ≤ _
  rcases tritonDeclAdd_cases table d with
    (happend | ⟨pre, e, post, sysval, hsplit, hreg, hstream, hmerge⟩) | ⟨hfull, hdrop⟩
  · rw [happend, List.length_append, List.length_singleton]
    exact ⟨h.append d, Nat.succ_le_succ hlen⟩
  · rw [hmerge]
    rw [hsplit] at h hlen
    rw [List.length_append, List.length_cons] at hlen ⊢
    exact ⟨h.merge hreg hstream rfl rfl rfl, Nat.le_succ_of_le hlen⟩
  · -- a full table has as many declarations behind it
    rw [hdrop]
    refine ⟨⟨fun hroom => ?_, h.sound_concat d⟩, by omega⟩
    rw [List.length_append, List.length_singleton] at hroom
    omega

/-- More declarations. -/
theorem Tabulates.addDecls (more : List TritonDeclSig) (h : Tabulates sigs table)
    (hlen : table.length ≤ sigs.length) : Tabulates (sigs ++ more) (addDecls table more) := by
  induction more generalizing sigs table with
  | nil =>
      rw [List.append_nil]
      exact h
  | cons d more ih =>
      obtain ⟨hstep, hlen'⟩ := h.concat hlen d
      rw [← List.singleton_append, ← List.append_assoc]
      exact ih hstep hlen'

end Tables

-- ============================================================================
-- The scan of a program
-- ============================================================================

/-- What `tritonScanShdrDecls` should find in a program. -/
structure ScanOf (progType : UINT) (program : List Instruction) (s : TritonShdrScan) : Prop where
  adds : ScanAdds {} s (declarations progType {} program) (declaredStreams program)
  aIn : Tabulates ((declarations progType {} program).filterMap Declared.input?) s.aIn
  aOut : Tabulates ((declarations progType {} program).filterMap Declared.output?) s.aOut
  aPatch : Tabulates ((declarations progType {} program).filterMap Declared.patch?) s.aPatch
  cStream : s.cStream = 1 ∨ ∃ r ∈ declaredStreams program, s.cStream = r + 1
  streams : ∀ r ∈ declaredStreams program, r < s.cStream

theorem stream?_lt {k : InstrKind} {r : UINT} (h : k.stream? = some r) : r < 4 := by
  cases k with
  | dclStream o trailing =>
      change o.stream? = some r at h
      rw [DclOperand.stream?] at h
      split at h
      case isTrue hstream =>
        cases h
        exact hstream.2
      case isFalse => cases h
  | dcl | phase | other | block => cases h

theorem declaredStreams_lt {program : List Instruction} {r : UINT}
    (h : r ∈ declaredStreams program) : r < 4 := by
  obtain ⟨i, -, hi⟩ := List.mem_filterMap.mp h
  exact stream?_lt hi

/-- The highest stream.  The induction is on the streams. -/
theorem foldl_cStream {streams : List UINT} (hlt : ∀ r ∈ streams, r < 4) {c : UINT} (hc : c ≤ 4) :
    (streams.foldl (fun c r => if c < r + 1 then r + 1 else c) c = c ∨
        ∃ r ∈ streams, streams.foldl (fun c r => if c < r + 1 then r + 1 else c) c = r + 1) ∧
      c ≤ streams.foldl (fun c r => if c < r + 1 then r + 1 else c) c ∧
      ∀ r ∈ streams, r < streams.foldl (fun c r => if c < r + 1 then r + 1 else c) c := by
  induction streams generalizing c with
  | nil => exact ⟨.inl rfl, BitVec.le_refl c, fun r hr => absurd hr List.not_mem_nil⟩
  | cons r streams ih =>
      have hr := hlt r (List.mem_cons_self ..)
      have hrest : ∀ r ∈ streams, r < 4 := fun r' hr' => hlt r' (List.mem_cons_of_mem _ hr')
      rw [List.foldl_cons]
      by_cases hup : c < r + 1
      · rw [if_pos hup]
        obtain ⟨hvalue, hle, hbelow⟩ := ih hrest (show r + 1 ≤ 4 by bv_omega)
        refine ⟨.inr ?_, by bv_omega, fun r' hr' => ?_⟩
        · rcases hvalue with hsame | ⟨r', hr', hsame⟩
          · exact ⟨r, List.mem_cons_self .., hsame⟩
          · exact ⟨r', List.mem_cons_of_mem _ hr', hsame⟩
        · rcases List.mem_cons.mp hr' with rfl | hr'
          · bv_omega
          · exact hbelow r' hr'
      · rw [if_neg hup]
        obtain ⟨hvalue, hle, hbelow⟩ := ih hrest hc
        refine ⟨?_, hle, fun r' hr' => ?_⟩
        · rcases hvalue with hsame | ⟨r', hr', hsame⟩
          · exact .inl hsame
          · exact .inr ⟨r', List.mem_cons_of_mem _ hr', hsame⟩
        · rcases List.mem_cons.mp hr' with rfl | hr'
          · bv_omega
          · exact hbelow r' hr'

theorem ScanAdds.scanOf {progType : UINT} {program : List Instruction} {s : TritonShdrScan}
    (h : ScanAdds {} s (declarations progType {} program) (declaredStreams program)) :
    ScanOf progType program s := by
  have hlt : ∀ r ∈ declaredStreams program, r < 4 := fun r hr => declaredStreams_lt hr
  obtain ⟨hvalue, -, hbelow⟩ := foldl_cStream hlt (show (1 : UINT) ≤ 4 by decide)
  rw [← h.cStream] at hvalue hbelow
  refine ⟨h, ?_, ?_, ?_, hvalue, hbelow⟩
  · rw [h.aIn]
    exact Tabulates.nil.addDecls _ (Nat.le_refl _)
  · rw [h.aOut]
    exact Tabulates.nil.addDecls _ (Nat.le_refl _)
  · rw [h.aPatch]
    exact Tabulates.nil.addDecls _ (Nat.le_refl _)

theorem length_le_tokens (program : List Instruction) :
    program.length ≤ (program.flatMap Instruction.tokens).length := by
  induction program with
  | nil => exact Nat.le_refl 0
  | cons i program ih =>
      have hone : i.tokens.length = i.kind.body.length + 1 := rfl
      rw [List.length_cons, List.flatMap_cons, List.length_append]
      omega

/-- The program type is in the version. -/
def versionProgType (version : UINT) : UINT :=
  (version >>> 16) &&& 0xFFFF#32

/-- `tritonScanShdrDecls` on an encoded program runs over its instructions. -/
theorem tritonScanShdrDecls_run (version : UINT) {program : List Instruction}
    (hwf : ∀ i ∈ program, i.kind.WellFormed) (after : List UINT) {cbTokens : Nat}
    (hlen : (shaderTokens version program).length < 2 ^ 32)
    (hcb : 4 * (shaderTokens version program).length ≤ cbTokens) :
    tritonScanShdrDecls (shaderTokens version program ++ after) cbTokens =
      .ok (ScanState.run {} (versionProgType version) program).scan := by
  have hlength : (shaderTokens version program).length =
      2 + (program.flatMap Instruction.tokens).length := by
    rw [shaderTokens, List.length_cons, List.length_cons]
    omega
  have hcount := length_le_tokens program
  rw [hlength] at hlen hcb
  by_cases hlong : 12 ≤ cbTokens
  · have hlimit : scanLimit (BitVec.ofNat 32 (2 + (program.flatMap Instruction.tokens).length))
        cbTokens = 2 + (program.flatMap Instruction.tokens).length := by
      rw [scanLimit, BitVec.toNat_ofNat, Nat.mod_eq_of_lt hlen]
      omega
    refine tritonScanShdrDecls_loop hlong rfl rfl ?_
    rw [hlimit]
    exact scanLoop_tokens hwf (List.prefix_append _ after) (by omega)
  · -- too short for an instruction: the program is empty
    have hnil : program = [] := List.length_eq_zero_iff.mp (by omega)
    subst hnil
    rw [tritonScanShdrDecls, tritonTokIterInit, if_pos (Nat.not_le.mp hlong)]
    rfl

/-- `tritonScanShdrDecls` on an encoded program finds what the program declares, and
    reads nothing of what is behind it. -/
theorem tritonScanShdrDecls_program (version : UINT) (program : List Instruction)
    (hwf : ∀ i ∈ program, i.kind.WellFormed) (after : List UINT) (cbTokens : Nat)
    (hlen : (shaderTokens version program).length < 2 ^ 32)
    (hcb : 4 * (shaderTokens version program).length ≤ cbTokens) :
    ∃ s, tritonScanShdrDecls (shaderTokens version program ++ after) cbTokens = .ok s ∧
      ScanOf (versionProgType version) program s :=
  ⟨_, tritonScanShdrDecls_run version hwf after hlen hcb,
    (ScanAdds.run (versionProgType version) program {} (Nat.zero_le _)).scanOf⟩

/-- A declaration's operand for a register with a mask. -/
def registerOperand (optype : BitVec 8) (mask : BitVec 4) (reg : UINT) : DclOperand where
  components := 2
  selection := 0
  mask := mask
  swizzle := 0
  optype := optype
  indices := [.immediate32 reg]
  indices_le := Nat.le_add_left 1 2
  extended := []

/-- An operand without components, for the register of the index if there is one. -/
def plainOperand (components : BitVec 2) (optype : BitVec 8) (reg : Option UINT) : DclOperand where
  components := components
  selection := 0
  mask := 0
  swizzle := 0
  optype := optype
  indices := reg.toList.map .immediate32
  indices_le := by
    cases reg
    case none => exact Nat.zero_le 3
    case some => exact Nat.le_add_left 1 2
  extended := []

/-- A geometry shader: the primitive ID, `o0.xy` and again `o0.yz`, a block of custom data,
    and the position in `o0` of stream 2. -/
def streamProgram : List Instruction :=
  [⟨0, false, .dcl .input (plainOperand 0 11 none) []⟩,
    ⟨0, false, .dclStream (plainOperand 0 16 (some 0)) []⟩,
    ⟨0, false, .dcl .output (registerOperand 2 0x3 0) []⟩,
    ⟨0, false, .dcl .output (registerOperand 2 0x6 0) []⟩,
    ⟨3, false, .block 0x35 [1, 2, 3, 4]⟩,
    ⟨0, false, .dclStream (plainOperand 0 16 (some 2)) []⟩,
    ⟨0, false, .dcl .outputSiv (registerOperand 2 0xF 0) [1]⟩]

example : shaderTokens 0x00020050 streamProgram =
    [0x00020050, 26, 0x0200005F, 0x0000B000, 0x0300008F, 0x00110000, 0, 0x03000065, 0x00102032, 0,
      0x03000065, 0x00102062, 0, 0x00001835, 6, 1, 2, 3, 4, 0x0300008F, 0x00110000, 2, 0x04000067,
      0x001020F2, 0, 1] := by
  decide

/-- A pixel shader: `o0` and the depth. -/
def depthProgram : List Instruction :=
  [⟨0, false, .dcl .output (registerOperand 2 0xF 0) []⟩,
    ⟨0, false, .dcl .output (plainOperand 1 12 none) []⟩]

/-- The two declarations of `o0` in stream 0 share an entry, the one in stream 2 has its
    own; the depth is a system output. -/
theorem tritonScanShdrDecls_program_streams :
    (∃ s, tritonScanShdrDecls (shaderTokens 0x00020050 streamProgram ++ [0x7F00005F]) 104 = .ok s ∧
      ScanOf PROG_GS streamProgram s ∧
      s = {
        aIn := [{ reg := 0xFFFFFFFF, mask := 0x1, sysval := 7, stream := 0 }]
        aOut := [{ reg := 0, mask := 0x7, sysval := 0, stream := 0 },
          { reg := 0, mask := 0xF, sysval := 1, stream := 2 }]
        cStream := 3 }) ∧
    ∃ s, tritonScanShdrDecls (shaderTokens 0x00000050 depthProgram) 28 = .ok s ∧
      ScanOf PROG_PS depthProgram s ∧
      s = {
        aOut := [{ reg := 0, mask := 0xF, sysval := 0, stream := 0 }]
        aSysOut := [.depth] } := by
  constructor
  · obtain ⟨s, hscan, hof⟩ := tritonScanShdrDecls_program 0x00020050 streamProgram (by decide)
      [0x7F00005F] 104 (by decide) (by decide)
    exact ⟨s, hscan, hof, (Except.ok.inj hscan).symm⟩
  · obtain ⟨s, hscan, hof⟩ := tritonScanShdrDecls_program 0x00000050 depthProgram (by decide)
      [] 28 (by decide) (by decide)
    exact ⟨s, hscan, hof, (Except.ok.inj hscan).symm⟩

end VirtioWddm
