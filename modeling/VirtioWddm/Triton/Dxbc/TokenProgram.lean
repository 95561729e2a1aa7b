/-
  VirtioWddm.Triton.Dxbc.TokenProgram

  Shader programs in tokens, and what the scan makes of them.

  A program is a list of instructions.  Each has an encoding, an opcode token with what
  is behind it, and a meaning, the signature element it declares; the phases of a hull
  shader and the streams of a geometry shader decide to which signature the output
  registers declared after them belong.  The scan of the encoded program collects the
  meanings of its instructions.
-/

import VirtioWddm.Lib.BitFields
import VirtioWddm.Triton.Dxbc.TokenScan

namespace VirtioWddm

open Lib

-- ============================================================================
-- Operands
-- ============================================================================

/-- An immediate index of an operand. -/
inductive OperandIndex where
  | immediate32 (value : UINT)
  | immediate64 (value : UINT) (second : UINT)
deriving DecidableEq

namespace OperandIndex

def representation : OperandIndex → Nat
  | .immediate32 _ => 0
  | .immediate64 _ _ => 1

/-- The first DWORD, which the scan takes for the register. -/
def value : OperandIndex → UINT
  | .immediate32 value => value
  | .immediate64 value _ => value

def tokens : OperandIndex → List UINT
  | .immediate32 value => [value]
  | .immediate64 value second => [value, second]

end OperandIndex

/-- The operand of a declaration: the fields of its token, its indices, and the extended
    tokens between them. -/
structure DclOperand where
  components : BitVec 2
  selection : BitVec 2
  mask : BitVec 4
  swizzle : BitVec 4
  optype : BitVec 8
  indices : List OperandIndex
  indices_le : indices.length ≤ 3
  extended : List (BitVec 31)

/-- Extended tokens: bit 31 says that another one follows. -/
def extendedTokens : List (BitVec 31) → List UINT
  | [] => []
  | x :: rest =>
      wordOfFields 32 ([(31, x.toNat)] ++ [(1, (!rest.isEmpty).toNat)]) :: extendedTokens rest

namespace DclOperand

variable (o : DclOperand)

/-- How the `d`-th index is represented. -/
def representation (d : Nat) : Nat :=
  (o.indices[d]?.map OperandIndex.representation).getD 0

/-- The operand token below its bit 31. -/
def fields : BitFields :=
  [(2, o.components.toNat), (2, o.selection.toNat), (4, o.mask.toNat), (4, o.swizzle.toNat),
    (8, o.optype.toNat), (2, o.indices.length), (3, o.representation 0), (3, o.representation 1),
    (3, o.representation 2)]

def token : UINT :=
  wordOfFields 32 (o.fields ++ [(1, (!o.extended.isEmpty).toNat)])

def tokens : List UINT :=
  o.token :: (extendedTokens o.extended ++ o.indices.flatMap OperandIndex.tokens)

/-- The components it names: those of its mask, if it has one. -/
def writeMask : UINT :=
  if o.components = 2 ∧ o.selection = 0 then o.mask.setWidth 32 else 0xF#32

/-- The register: the last index. -/
def register : UINT :=
  (o.indices.getLast?.map OperandIndex.value).getD 0

def operandType : UINT := o.optype.setWidth 32

/-- What `tritonDecodeDeclOperand` should make of it. -/
def decoded : DeclOperand where
  len := o.tokens.length
  reg := o.register
  mask := o.writeMask
  optype := o.operandType

end DclOperand

-- ============================================================================
-- Instructions
-- ============================================================================

/-- The opcodes of input and output declarations. -/
inductive DclOpcode where
  | input
  | inputSgv
  | inputSiv
  | inputPs
  | inputPsSgv
  | inputPsSiv
  | output
  | outputSgv
  | outputSiv
deriving DecidableEq

namespace DclOpcode

def code : DclOpcode → UINT
  | .input => SM4_OP_DCL_INPUT
  | .inputSgv => SM4_OP_DCL_INPUT_SGV
  | .inputSiv => SM4_OP_DCL_INPUT_SIV
  | .inputPs => SM4_OP_DCL_INPUT_PS
  | .inputPsSgv => SM4_OP_DCL_INPUT_PS_SGV
  | .inputPsSiv => SM4_OP_DCL_INPUT_PS_SIV
  | .output => SM4_OP_DCL_OUTPUT
  | .outputSgv => SM4_OP_DCL_OUTPUT_SGV
  | .outputSiv => SM4_OP_DCL_OUTPUT_SIV

def isInput : DclOpcode → Bool
  | .output | .outputSgv | .outputSiv => false
  | _ => true

/-- A system value is named behind the operand. -/
def isNamed : DclOpcode → Bool
  | .input | .inputPs | .output => false
  | _ => true

end DclOpcode

/-- The phases of a hull shader. -/
inductive HullPhase where
  | controlPoint
  | fork
  | join
deriving DecidableEq

def HullPhase.code : HullPhase → UINT
  | .controlPoint => SM5_OP_HS_CONTROL_POINT_PHASE
  | .fork => SM5_OP_HS_FORK_PHASE
  | .join => SM5_OP_HS_JOIN_PHASE

/-- The kinds of instructions; `block` is one whose length stands in a DWORD of its own
    (custom data). -/
inductive InstrKind where
  | dcl (opcode : DclOpcode) (operand : DclOperand) (trailing : List UINT)
  | dclStream (operand : DclOperand) (trailing : List UINT)
  | phase (p : HullPhase) (body : List UINT)
  | other (opcode : BitVec 11) (body : List UINT)
  | block (opcode : BitVec 11) (body : List UINT)

/-- An instruction, with the bits of its opcode token that the scan ignores. -/
structure Instruction where
  control : BitVec 13
  extended : Bool
  kind : InstrKind

/-- The scan looks at instructions with these opcodes. -/
def IsScanned (opcode : UINT) : Prop :=
  opcode = SM5_OP_HS_CONTROL_POINT_PHASE ∨ opcode = SM5_OP_HS_FORK_PHASE ∨
    opcode = SM5_OP_HS_JOIN_PHASE ∨ opcode = SM5_OP_DCL_STREAM ∨
    (SM4_OP_DCL_INPUT ≤ opcode ∧ opcode ≤ SM4_OP_DCL_OUTPUT_SIV)

instance (opcode : UINT) : Decidable (IsScanned opcode) :=
  inferInstanceAs (Decidable (_ ∨ _ ∨ _ ∨ _ ∨ _))

namespace InstrKind

def opcode : InstrKind → UINT
  | .dcl opcode _ _ => opcode.code
  | .dclStream _ _ => SM5_OP_DCL_STREAM
  | .phase p _ => p.code
  | .other opcode _ => opcode.setWidth 32
  | .block opcode _ => opcode.setWidth 32

/-- The DWORDs behind the opcode token. -/
def body : InstrKind → List UINT
  | .dcl _ operand trailing => operand.tokens ++ trailing
  | .dclStream operand trailing => operand.tokens ++ trailing
  | .phase _ body => body
  | .other _ body => body
  | .block _ body => BitVec.ofNat 32 (body.length + 2) :: body

/-- The length field of the opcode token. -/
def shortLength : InstrKind → Nat
  | .block _ _ => 0
  | k => k.body.length + 1

/-- The length can be encoded, and what is not a declaration is none the scan looks at. -/
def WellFormed : InstrKind → Prop
  | .other opcode body => ¬IsScanned (opcode.setWidth 32) ∧ body.length + 1 < 2 ^ 7
  | .block opcode body => ¬IsScanned (opcode.setWidth 32) ∧ body.length + 2 < 2 ^ 32
  | k => k.body.length + 1 < 2 ^ 7

instance : DecidablePred WellFormed := fun k =>
  match k with
  | .other opcode body =>
      inferInstanceAs (Decidable (¬IsScanned (opcode.setWidth 32) ∧ body.length + 1 < 2 ^ 7))
  | .block opcode body =>
      inferInstanceAs (Decidable (¬IsScanned (opcode.setWidth 32) ∧ body.length + 2 < 2 ^ 32))
  | .dcl _ operand trailing =>
      inferInstanceAs (Decidable ((operand.tokens ++ trailing).length + 1 < 2 ^ 7))
  | .dclStream operand trailing =>
      inferInstanceAs (Decidable ((operand.tokens ++ trailing).length + 1 < 2 ^ 7))
  | .phase _ body => inferInstanceAs (Decidable (body.length + 1 < 2 ^ 7))

end InstrKind

def Instruction.token (i : Instruction) : UINT :=
  wordOfFields 32 ([(11, i.kind.opcode.toNat), (13, i.control.toNat), (7, i.kind.shortLength)] ++
    [(1, i.extended.toNat)])

def Instruction.tokens (i : Instruction) : List UINT :=
  i.token :: i.kind.body

/-- A program with its two header DWORDs. -/
def shaderTokens (version : UINT) (program : List Instruction) : List UINT :=
  version :: BitVec.ofNat 32 (2 + (program.flatMap Instruction.tokens).length) ::
    program.flatMap Instruction.tokens

-- ============================================================================
-- Meaning
-- ============================================================================

/-- What an instruction declares. -/
inductive Declared where
  | input (sig : TritonDeclSig)
  | output (sig : TritonDeclSig)
  | patch (sig : TritonDeclSig)
  | system (out : SysOut)
deriving DecidableEq

namespace Declared

def input? : Declared → Option TritonDeclSig
  | .input sig => some sig
  | _ => none

def output? : Declared → Option TritonDeclSig
  | .output sig => some sig
  | _ => none

def patch? : Declared → Option TritonDeclSig
  | .patch sig => some sig
  | _ => none

def system? : Declared → Option SysOut
  | .system out => some out
  | _ => none

end Declared

/-- What the instructions before have set: the stream, and whether a fork or join phase
    has begun. -/
structure DclContext where
  stream : UINT := 0
  inPatchPhase : Bool := false
deriving DecidableEq

namespace DclOperand

/-- The signature element of its register. -/
def sig (o : DclOperand) (sysval stream : UINT) : TritonDeclSig where
  reg := o.register
  mask := o.writeMask
  sysval := sysval
  stream := stream

/-- What it declares in an input declaration. -/
def declaresInput (o : DclOperand) (progType sysval : UINT) : Option Declared :=
  if o.operandType = SM4_OPTYPE_INPUT ∨ o.operandType = SM4_OPTYPE_INPUT_CONTROL_POINT then
    some (.input (o.sig sysval 0))
  else if o.operandType = SM4_OPTYPE_INPUT_PATCH_CONST then some (.patch (o.sig sysval 0))
  else if o.operandType = SM4_OPTYPE_INPUT_PRIMITIVEID ∧ progType = PROG_GS then
    -- `vPrim` has no register
    some (.input { reg := 0xFFFFFFFF#32, mask := 0x1#32, sysval := 7, stream := 0 })
  else none

/-- What it declares in an output declaration. -/
def declaresOutput (o : DclOperand) (progType sysval : UINT) (c : DclContext) : Option Declared :=
  if o.operandType = SM4_OPTYPE_OUTPUT then
    if c.inPatchPhase then some (.patch (o.sig sysval 0))
    else some (.output (o.sig sysval (if progType = PROG_GS then c.stream else 0)))
  else if progType = PROG_PS then (sysOutOf o.operandType).map .system
  else none

/-- The stream it names in a stream declaration. -/
def stream? (o : DclOperand) : Option UINT :=
  if o.operandType = SM4_OPTYPE_STREAM ∧ o.register < 4 then some o.register else none

end DclOperand

namespace InstrKind

/-- The system value named behind the operand. -/
def sysval : InstrKind → UINT
  | .dcl opcode _ (name :: _) => if opcode.isNamed then name &&& 0xFFFF#32 else 0
  | _ => 0

def declares (progType : UINT) (c : DclContext) (k : InstrKind) : Option Declared :=
  match k with
  | .dcl opcode operand _ =>
      if opcode.isInput then operand.declaresInput progType k.sysval
      else operand.declaresOutput progType k.sysval c
  | _ => none

def stream? : InstrKind → Option UINT
  | .dclStream operand _ => operand.stream?
  | _ => none

/-- The context behind an instruction. -/
def next (c : DclContext) (k : InstrKind) : DclContext where
  stream := k.stream?.getD c.stream
  inPatchPhase :=
    match k with
    | .phase p _ => p != .controlPoint
    | _ => c.inPatchPhase

end InstrKind

/-- The declarations of a program. -/
def declarations (progType : UINT) : DclContext → List Instruction → List Declared
  | _, [] => []
  | c, i :: program =>
      (i.kind.declares progType c).toList ++ declarations progType (i.kind.next c) program

/-- The streams a program declares. -/
def declaredStreams (program : List Instruction) : List UINT :=
  program.filterMap fun i => i.kind.stream?

/-- A table of declarations, as `tritonDeclAdd` extends it. -/
def addDecls (pa : List TritonDeclSig) (sigs : List TritonDeclSig) : List TritonDeclSig :=
  sigs.foldl (fun pa d => tritonDeclAdd pa d.reg d.mask d.sysval d.stream) pa

-- ============================================================================
-- Segments
-- ============================================================================

section Segments

variable {ts seg rest : List UINT} {w : UINT} {p : Nat}

theorem readToken_of_prefix (h : w :: seg <+: ts.drop p) : readToken ts p = .ok w := by
  obtain ⟨rest, hrest⟩ := h
  have hget : ts[p]? = some w := by
    rw [← Nat.add_zero p, ← List.getElem?_drop, ← hrest]
    rfl
  rw [readToken, hget]

theorem prefix_tail (h : w :: seg <+: ts.drop p) : seg <+: ts.drop (p + 1) := by
  obtain ⟨rest, hrest⟩ := h
  refine ⟨rest, ?_⟩
  rw [← List.drop_drop, ← hrest]
  rfl

theorem prefix_right (h : seg ++ rest <+: ts.drop p) : rest <+: ts.drop (p + seg.length) := by
  obtain ⟨back, hback⟩ := h
  refine ⟨back, ?_⟩
  rw [← List.drop_drop, ← hback, List.append_assoc, List.drop_left]

end Segments

-- ============================================================================
-- The operand is decoded
-- ============================================================================

namespace DclOperand

variable (o : DclOperand)

theorem token_width : BitFields.width (o.fields ++ [(1, (!o.extended.isEmpty).toNat)]) ≤ 32 :=
  Nat.le_refl 32

theorem token_components : o.token &&& 0x3#32 = BitVec.ofNat 32 o.components.toNat :=
  wordOfFields_low _ rfl o.token_width (by decide) o.components.isLt

theorem token_selection :
    (o.token >>> 2) &&& 0x3#32 = BitVec.ofNat 32 o.selection.toNat :=
  wordOfFields_field [_] _ rfl rfl o.token_width (by decide) o.selection.isLt

theorem token_mask : (o.token >>> 4) &&& 0xF#32 = BitVec.ofNat 32 o.mask.toNat :=
  wordOfFields_field [_, _] _ rfl rfl o.token_width (by decide) o.mask.isLt

theorem token_optype : (o.token >>> 12) &&& 0xFF#32 = BitVec.ofNat 32 o.optype.toNat :=
  wordOfFields_field [_, _, _, _] _ rfl rfl o.token_width (by decide) o.optype.isLt

theorem token_dim : (o.token >>> 20) &&& 0x3#32 = BitVec.ofNat 32 o.indices.length :=
  wordOfFields_field [_, _, _, _, _] _ rfl rfl o.token_width (by decide)
    (Nat.lt_succ_of_le o.indices_le)

/-- The mask as the decoder selects it. -/
theorem token_writeMask :
    (if o.token &&& 0x3#32 = 2 ∧ (o.token >>> 2) &&& 0x3#32 = 0 then (o.token >>> 4) &&& 0xF#32
      else 0xF#32) = o.writeMask := by
  have hcomponents : BitVec.ofNat 32 o.components.toNat = 2 ↔ o.components = 2 := by
    have hlt := o.components.isLt
    rw [← BitVec.toNat_inj, ← BitVec.toNat_inj, BitVec.toNat_ofNat, Nat.mod_eq_of_lt (by omega)]
    rfl
  have hselection : BitVec.ofNat 32 o.selection.toNat = 0 ↔ o.selection = 0 := by
    have hlt := o.selection.isLt
    rw [← BitVec.toNat_inj, ← BitVec.toNat_inj, BitVec.toNat_ofNat, Nat.mod_eq_of_lt (by omega)]
    rfl
  rw [o.token_components, o.token_selection, o.token_mask, writeMask]
  exact if_congr (and_congr hcomponents hselection) (BitVec.ofNat_toNat 32 o.mask) rfl

theorem token_extended : o.token &&& 0x80000000#32 ≠ 0 ↔ (!o.extended.isEmpty) = true :=
  wordOfFields_top o.fields _ rfl

theorem representation_lt (d : Nat) : o.representation d < 2 ^ 3 := by
  rw [representation]
  cases o.indices[d]? with
  | none => decide
  | some idx =>
      cases idx with
      | immediate32 value => exact Nat.two_pow_pos 3
      | immediate64 value second => exact (show 1 < 2 ^ 3 by decide)

theorem token_representation {d : Nat} (hd : d < 3) :
    (o.token >>> (22 + 3 * d)) &&& 0x7#32 = BitVec.ofNat 32 (o.representation d) := by
  match d, hd with
  | 0, _ =>
      exact wordOfFields_field [_, _, _, _, _, _] _ rfl rfl o.token_width (by decide)
        (o.representation_lt 0)
  | 1, _ =>
      exact wordOfFields_field [_, _, _, _, _, _, _] _ rfl rfl o.token_width (by decide)
        (o.representation_lt 1)
  | 2, _ =>
      exact wordOfFields_field [_, _, _, _, _, _, _, _] _ rfl rfl o.token_width (by decide)
        (o.representation_lt 2)

end DclOperand

section Decoding

variable {ts : List UINT} {op pEnd : Nat}

/-- The chain of extended tokens.  The induction is on the tokens that are left; the one
    before them says whether there are any. -/
theorem extendedLen_tokens (es : List (BitVec 31)) {fuel len : Nat} {tok : UINT} (hlen : 0 < len)
    (htok : readToken ts (op + len - 1) = .ok tok)
    (htop : tok &&& 0x80000000#32 ≠ 0 ↔ (!es.isEmpty) = true)
    (hat : extendedTokens es <+: ts.drop (op + len)) (hend : op + len + es.length ≤ pEnd)
    (hfuel : es.length ≤ fuel) :
    extendedLen ts op pEnd fuel len = .ok (len + es.length) := by
  induction es generalizing fuel len tok with
  | nil =>
      have hlast : ¬(tok &&& 0x80000000#32 ≠ 0) := fun h => Bool.false_ne_true (htop.mp h)
      cases fuel with
      | zero => rfl
      | succ fuel =>
          rw [extendedLen, if_pos (by simpa using hend), htok, ok_bind, if_neg hlast]
          rfl
  | cons x rest ih =>
      have hmore : tok &&& 0x80000000#32 ≠ 0 := htop.mpr rfl
      rw [List.length_cons] at hend hfuel
      cases fuel with
      | zero => omega
      | succ fuel =>
          have hhead := readToken_of_prefix hat
          have hrest := prefix_tail hat
          rw [extendedLen, if_pos (by omega), htok, ok_bind, if_pos hmore,
            ih (Nat.succ_pos len) hhead (wordOfFields_top _ _ rfl) hrest (by omega) (by omega),
            List.length_cons]
          congr 1
          omega

/-- The index DWORDs.  The induction is on the indices from the `k`-th on. -/
theorem decodeIndices_tokens {ot : UINT} (is : List OperandIndex) {k len : Nat} {reg : UINT}
    (hrep : ∀ j idx, is[j]? = some idx →
      (ot >>> (22 + 3 * (k + j))) &&& 0x7#32 = BitVec.ofNat 32 idx.representation)
    (hat : is.flatMap OperandIndex.tokens <+: ts.drop (op + len))
    (hend : op + len + (is.flatMap OperandIndex.tokens).length ≤ pEnd) :
    decodeIndices ts op pEnd ot (List.range' k is.length) len reg =
      .ok (some (len + (is.flatMap OperandIndex.tokens).length,
        (is.getLast?.map OperandIndex.value).getD reg)) := by
  induction is generalizing k len reg with
  | nil => rfl
  | cons idx is ih =>
      have hfirst := hrep 0 idx rfl
      have hrest : ∀ j idx', is[j]? = some idx' →
          (ot >>> (22 + 3 * (k + 1 + j))) &&& 0x7#32 = BitVec.ofNat 32 idx'.representation := by
        intro j idx' hj
        rw [show k + 1 + j = k + (j + 1) by omega]
        exact hrep (j + 1) idx' hj
      have hlast : ((idx :: is).getLast?.map OperandIndex.value).getD reg =
          (is.getLast?.map OperandIndex.value).getD idx.value := by
        rw [List.getLast?_cons]
        cases is.getLast? with
        | none => rfl
        | some last => rfl
      rw [List.flatMap_cons] at hat hend
      rw [List.length_append] at hend
      rw [List.length_cons, List.range'_succ, decodeIndices, hlast, List.flatMap_cons,
        List.length_append]
      rw [Nat.add_zero] at hfirst
      cases idx with
      | immediate32 value =>
          have hvalue := readToken_of_prefix hat
          have hback : is.flatMap OperandIndex.tokens <+: ts.drop (op + (len + 1)) :=
            prefix_tail hat
          have hone : (OperandIndex.immediate32 value).tokens.length = 1 := rfl
          rw [hone] at hend ⊢
          have hzero : (ot >>> (22 + 3 * k)) &&& 0x7#32 = 0 := hfirst
          rw [if_neg (by omega), if_pos hzero, hvalue, ok_bind, ih hrest hback (by omega),
            Nat.add_assoc]
          rfl
      | immediate64 value second =>
          have hvalue := readToken_of_prefix hat
          have hback : is.flatMap OperandIndex.tokens <+: ts.drop (op + (len + 2)) :=
            prefix_tail (prefix_tail hat)
          have htwo : (OperandIndex.immediate64 value second).tokens.length = 2 := rfl
          rw [htwo] at hend ⊢
          have hone : (ot >>> (22 + 3 * k)) &&& 0x7#32 = 1 := hfirst
          rw [if_neg (by omega), if_neg (by rw [hone]; decide), if_pos hone, if_neg (by omega),
            hvalue, ok_bind, ih hrest hback (by omega), Nat.add_assoc]
          rfl

theorem length_extendedTokens (es : List (BitVec 31)) : (extendedTokens es).length = es.length := by
  induction es with
  | nil => rfl
  | cons x rest ih => rw [extendedTokens, List.length_cons, ih, List.length_cons]

/-- `tritonDecodeDeclOperand` on an encoded operand. -/
theorem tritonDecodeDeclOperand_tokens (o : DclOperand) (hat : o.tokens <+: ts.drop op)
    (hend : op + o.tokens.length ≤ pEnd) :
    tritonDecodeDeclOperand ts op pEnd = .ok (some o.decoded) := by
  have htoken := readToken_of_prefix hat
  have hbehind := prefix_tail hat
  have hindices := prefix_right hbehind
  have hextended : extendedTokens o.extended <+: ts.drop (op + 1) :=
    (List.prefix_append _ _).trans hbehind
  have hlength : o.tokens.length =
      1 + o.extended.length + (o.indices.flatMap OperandIndex.tokens).length := by
    rw [DclOperand.tokens, List.length_cons, List.length_append, length_extendedTokens]
    omega
  rw [length_extendedTokens, Nat.add_assoc] at hindices
  have hlen : operandLen ts op pEnd o.token = .ok (1 + o.extended.length) := by
    rw [operandLen]
    split
    case isTrue =>
      exact extendedLen_tokens o.extended Nat.one_pos htoken o.token_extended hextended
        (by omega) (by omega)
    case isFalse hnone =>
      cases hes : o.extended with
      | nil => rfl
      | cons x rest => exact absurd (o.token_extended.mpr (by rw [hes]; rfl)) hnone
  have hdim : ((o.token >>> 20) &&& 0x3#32).toNat = o.indices.length := by
    have hle := o.indices_le
    rw [o.token_dim, BitVec.toNat_ofNat]
    omega
  have hloop := @decodeIndices_tokens ts op pEnd o.token o.indices 0 _ 0 ?_ hindices (by omega)
  · rw [tritonDecodeDeclOperand, if_neg (by omega), htoken, ok_bind, hlen, ok_bind]
    dsimp only
    rw [hdim, List.range_eq_range', hloop, ok_bind, o.token_writeMask, o.token_optype, ← hlength,
      BitVec.ofNat_toNat]
    rfl
  · intro j idx hj
    have hlt := (List.getElem?_eq_some_iff.mp hj).1
    have hle := o.indices_le
    rw [Nat.zero_add, o.token_representation (by omega), DclOperand.representation, hj]
    rfl

end Decoding
-- ============================================================================
-- The instruction is found
-- ============================================================================

theorem DclOpcode.code_lt (d : DclOpcode) : d.code.toNat < 2 ^ 11 := by
  cases d <;> decide

theorem HullPhase.code_lt (p : HullPhase) : p.code.toNat < 2 ^ 11 := by
  cases p <;> decide

namespace InstrKind

variable {k : InstrKind}

theorem opcode_lt (k : InstrKind) : k.opcode.toNat < 2 ^ 11 := by
  have hset : ∀ opcode : BitVec 11, (opcode.setWidth 32).toNat < 2 ^ 11 := fun opcode => by
    rw [BitVec.toNat_setWidth]
    exact Nat.lt_of_le_of_lt (Nat.mod_le _ _) opcode.isLt
  cases k with
  | dcl opcode operand trailing => exact opcode.code_lt
  | dclStream operand trailing => exact (show SM5_OP_DCL_STREAM.toNat < 2 ^ 11 by decide)
  | phase p body => exact p.code_lt
  | other opcode body => exact hset opcode
  | block opcode body => exact hset opcode

theorem WellFormed.shortLength_lt (h : k.WellFormed) : k.shortLength < 2 ^ 7 := by
  cases k with
  | dcl opcode operand trailing => exact h
  | dclStream operand trailing => exact h
  | phase p body => exact h
  | other opcode body => exact h.2
  | block opcode body => exact Nat.two_pow_pos 7

end InstrKind

namespace Instruction

variable (i : Instruction)

theorem token_opcode : i.token &&& 0x7FF#32 = i.kind.opcode := by
  have h : i.token &&& 0x7FF#32 = BitVec.ofNat 32 i.kind.opcode.toNat :=
    wordOfFields_low _ rfl (Nat.le_refl 32) (by decide) i.kind.opcode_lt
  rw [BitVec.ofNat_toNat, BitVec.setWidth_eq] at h
  exact h

theorem token_length (h : i.kind.WellFormed) :
    (i.token >>> 24) &&& 0x7F#32 = BitVec.ofNat 32 i.kind.shortLength :=
  wordOfFields_field [_, _] _ rfl rfl (Nat.le_refl 32) (by decide) h.shortLength_lt

end Instruction

section Finding

variable {ts : List UINT} {p pEnd : Nat}

/-- Where an instruction is and how long. -/
def Instruction.span (i : Instruction) (p : Nat) : TokenSpan where
  opcode := i.kind.opcode
  ins := p
  cTok := i.tokens.length

/-- `tritonTokIterNext` on an encoded instruction. -/
theorem tritonTokIterNext_tokens (i : Instruction) (h : i.kind.WellFormed)
    (hat : i.tokens <+: ts.drop p) (hend : p + i.tokens.length ≤ pEnd) :
    tritonTokIterNext ts { p := p, pEnd := pEnd } =
      .ok (some (i.span p, { p := p + i.tokens.length, pEnd := pEnd })) := by
  have htoken := readToken_of_prefix hat
  have hbehind := prefix_tail hat
  have hlength : i.tokens.length = i.kind.body.length + 1 := rfl
  have hshort := h.shortLength_lt
  rw [tritonTokIterNext, if_neg (by dsimp only; omega), htoken, ok_bind]
  dsimp only
  rw [i.token_length h, i.token_opcode]
  by_cases hblock : i.kind.shortLength = 0
  · -- the length is in the next DWORD
    have hzero : BitVec.ofNat 32 i.kind.shortLength = 0 := congrArg (BitVec.ofNat 32) hblock
    rw [if_pos hzero]
    obtain ⟨control, extended, kind⟩ := i
    cases kind with
    | block opcode body =>
        have hlt : body.length + 2 < 2 ^ 32 := h.2
        have hcount := readToken_of_prefix hbehind
        have htotal : (BitVec.ofNat 32 (body.length + 2)).toNat = body.length + 2 := by
          rw [BitVec.toNat_ofNat, Nat.mod_eq_of_lt hlt]
        have hspan : (Instruction.tokens ⟨control, extended, .block opcode body⟩).length =
          body.length + 2 := rfl
        rw [hspan] at hend
        have htwo : ¬BitVec.ofNat 32 (body.length + 2) < 2 := by
          rw [BitVec.lt_def, htotal]
          exact fun hlt => absurd hlt (by simp)
        rw [if_neg (by omega), hcount, ok_bind, if_neg htwo, htotal,
          if_neg (by omega)]
        rfl
    | dcl opcode operand trailing => cases hblock
    | dclStream operand trailing => cases hblock
    | phase q body => cases hblock
    | other opcode body => cases hblock
  · have hvalue : (BitVec.ofNat 32 i.kind.shortLength).toNat = i.kind.shortLength := by
      rw [BitVec.toNat_ofNat]
      omega
    have hzero : ¬BitVec.ofNat 32 i.kind.shortLength = 0 := fun heq => hblock <| by
      rw [← hvalue, heq]
      rfl
    have hsame : i.kind.shortLength = i.tokens.length := by
      obtain ⟨control, extended, kind⟩ := i
      cases kind with
      | block opcode body => exact absurd rfl hblock
      | dcl opcode operand trailing => rfl
      | dclStream operand trailing => rfl
      | phase q body => rfl
      | other opcode body => rfl
    rw [if_neg hzero, hvalue, if_neg (by omega), hsame]
    rfl

end Finding

-- ============================================================================
-- The instruction is recorded
-- ============================================================================

theorem DclOpcode.not_phase (d : DclOpcode) : d.code ≠ SM5_OP_HS_CONTROL_POINT_PHASE ∧
    ¬(d.code = SM5_OP_HS_FORK_PHASE ∨ d.code = SM5_OP_HS_JOIN_PHASE) ∧
    d.code ≠ SM5_OP_DCL_STREAM ∧ ¬(d.code < SM4_OP_DCL_INPUT ∨ SM4_OP_DCL_OUTPUT_SIV < d.code) := by
  cases d <;> decide

theorem DclOpcode.carriesName_eq (d : DclOpcode) : carriesName d.code = d.isNamed := by
  cases d <;> decide

theorem DclOpcode.isInput_iff (d : DclOpcode) :
    d.code ≤ SM4_OP_DCL_INPUT_PS_SIV ↔ d.isInput = true := by
  cases d <;> decide

/-- A scan with one more declaration. -/
def TritonShdrScan.record (s : TritonShdrScan) : Declared → TritonShdrScan
  | .input d => { s with aIn := addDecls s.aIn [d] }
  | .output d => { s with aOut := addDecls s.aOut [d] }
  | .patch d => { s with aPatch := addDecls s.aPatch [d] }
  | .system out =>
      if s.aSysOut.length < maxSysOut then { s with aSysOut := s.aSysOut ++ [out] } else s

/-- The context a scan has reached. -/
def ScanState.context (st : ScanState) : DclContext where
  stream := st.stream
  inPatchPhase := st.fPatchPhase

/-- A scan behind one more instruction. -/
def ScanState.perform (st : ScanState) (progType : UINT) (k : InstrKind) : ScanState where
  scan :=
    let s := (k.declares progType st.context).elim st.scan st.scan.record
    { s with
      cStream := k.stream?.elim s.cStream fun r => if s.cStream < r + 1 then r + 1 else s.cStream }
  stream := (k.next st.context).stream
  fPatchPhase := (k.next st.context).inPatchPhase

theorem addInput_eq (s : TritonShdrScan) (o : DclOperand) (progType sysval : UINT) :
    s.addInput progType o.operandType o.register o.writeMask sysval =
      (o.declaresInput progType sysval).elim s s.record := by
  rw [TritonShdrScan.addInput, DclOperand.declaresInput]
  split
  case isTrue => rfl
  case isFalse =>
    split
    case isTrue => rfl
    case isFalse =>
      split
      case isTrue => rfl
      case isFalse => rfl

theorem addOutput_eq (st : ScanState) (o : DclOperand) (progType sysval : UINT) :
    st.addOutput progType o.operandType o.register o.writeMask sysval =
      { st with
        scan := (o.declaresOutput progType sysval st.context).elim st.scan st.scan.record } := by
  have hphase : st.context.inPatchPhase = st.fPatchPhase := rfl
  rw [ScanState.addOutput, DclOperand.declaresOutput, hphase]
  by_cases hoperand : o.operandType = SM4_OPTYPE_OUTPUT
  · rw [if_pos hoperand, if_pos hoperand]
    by_cases hpatch : st.fPatchPhase = true
    · rw [if_pos hpatch, if_pos hpatch]
      rfl
    · rw [if_neg hpatch, if_neg hpatch]
      rfl
  · rw [if_neg hoperand, if_neg hoperand]
    cases hout : sysOutOf o.operandType with
    | none =>
        rw [Option.map_none, ite_self]
        rfl
    | some out =>
        dsimp only
        by_cases hps : progType = PROG_PS
        · rw [if_pos hps]
          show _ = { st with scan := st.scan.record (.system out) }
          rw [TritonShdrScan.record]
          by_cases hroom : st.scan.aSysOut.length < maxSysOut
          · rw [if_pos ⟨hps, hroom⟩, if_pos hroom]
          · rw [if_neg fun h => hroom h.2, if_neg hroom]
        · rw [if_neg fun h => hps h.1, if_neg hps]
          rfl

section Recording

variable {ts : List UINT} {p : Nat} {st : ScanState} {progType : UINT}

/-- The system value behind the operand. -/
theorem declSysval_tokens {d : DclOpcode} {o : DclOperand} {trailing : List UINT} {span : TokenSpan}
    (hop : span.opcode = d.code) (hlen : span.cTok = 1 + o.tokens.length + trailing.length)
    (hat : trailing <+: ts.drop (span.ins + 1 + o.tokens.length)) :
    declSysval ts span o.decoded = .ok (InstrKind.dcl d o trailing).sysval := by
  have hdecoded : o.decoded.len = o.tokens.length := rfl
  rw [declSysval, hop, d.carriesName_eq, hdecoded]
  cases trailing with
  | nil =>
      rw [if_neg fun h => by rw [hlen] at h; exact absurd h.2 (Nat.lt_irrefl _)]
      rfl
  | cons name rest =>
      have hname := readToken_of_prefix hat
      by_cases hnamed : d.isNamed = true
      · rw [if_pos ⟨hnamed, by rw [hlen, List.length_cons]; omega⟩, hname, ok_bind,
          InstrKind.sysval, if_pos hnamed]
        rfl
      · rw [if_neg fun h => hnamed h.1, InstrKind.sysval, if_neg hnamed]
        rfl

/-- A declaration. -/
theorem scanInstruction_dcl (d : DclOpcode) (o : DclOperand) (trailing : List UINT)
    {span : TokenSpan} (hop : span.opcode = d.code)
    (hlen : span.cTok = 1 + o.tokens.length + trailing.length)
    (hat : o.tokens ++ trailing <+: ts.drop (span.ins + 1)) :
    scanInstruction ts progType span st = .ok (st.perform progType (.dcl d o trailing)) := by
  obtain ⟨hcontrol, hphases, hstream, hrange⟩ := d.not_phase
  have hoperand : tritonDecodeDeclOperand ts (span.ins + 1) (span.ins + span.cTok) =
      .ok (some o.decoded) :=
    tritonDecodeDeclOperand_tokens o ((List.prefix_append _ _).trans hat) (by omega)
  rw [scanInstruction, hop, if_neg hcontrol, if_neg hphases, if_neg hstream, if_neg hrange,
    hoperand, ok_bind]
  dsimp only
  rw [declSysval_tokens hop hlen (prefix_right hat), ok_bind, ScanState.addDecl]
  by_cases hinput : d.isInput = true
  · rw [if_pos (d.isInput_iff.mpr hinput)]
    have hadd := addInput_eq st.scan o progType (InstrKind.dcl d o trailing).sysval
    have hdeclares : (InstrKind.dcl d o trailing).declares progType st.context =
        o.declaresInput progType (InstrKind.dcl d o trailing).sysval := if_pos hinput
    rw [ScanState.perform, hdeclares, ← hadd]
    rfl
  · rw [if_neg fun h => hinput (d.isInput_iff.mp h)]
    have hadd := addOutput_eq st o progType (InstrKind.dcl d o trailing).sysval
    have hdeclares : (InstrKind.dcl d o trailing).declares progType st.context =
        o.declaresOutput progType (InstrKind.dcl d o trailing).sysval st.context := if_neg hinput
    rw [ScanState.perform, hdeclares]
    exact congrArg Except.ok hadd

theorem setStream_eq (st : ScanState) (o : DclOperand) (trailing : List UINT) :
    st.setStream o.decoded = st.perform progType (.dclStream o trailing) := by
  have hperform : st.perform progType (.dclStream o trailing) =
      { st with
        stream := o.stream?.getD st.stream
        scan :=
          { st.scan with
            cStream := o.stream?.elim st.scan.cStream fun r =>
              if st.scan.cStream < r + 1 then r + 1 else st.scan.cStream } } := rfl
  have hcond : (o.decoded.optype = SM4_OPTYPE_STREAM ∧ o.decoded.reg < 4) =
      (o.operandType = SM4_OPTYPE_STREAM ∧ o.register < 4) := rfl
  rw [hperform, DclOperand.stream?]
  by_cases h : o.operandType = SM4_OPTYPE_STREAM ∧ o.register < 4
  · rw [ScanState.setStream, if_pos (hcond ▸ h), if_pos h]
    rfl
  · rw [ScanState.setStream, if_neg (hcond ▸ h), if_neg h]
    rfl

/-- A stream declaration. -/
theorem scanInstruction_stream (o : DclOperand) (trailing : List UINT) {span : TokenSpan}
    (hop : span.opcode = SM5_OP_DCL_STREAM)
    (hlen : span.cTok = 1 + o.tokens.length + trailing.length)
    (hat : o.tokens ++ trailing <+: ts.drop (span.ins + 1)) :
    scanInstruction ts progType span st = .ok (st.perform progType (.dclStream o trailing)) := by
  have hoperand : tritonDecodeDeclOperand ts (span.ins + 1) (span.ins + span.cTok) =
      .ok (some o.decoded) :=
    tritonDecodeDeclOperand_tokens o ((List.prefix_append _ _).trans hat) (by omega)
  rw [scanInstruction, hop, if_neg (by decide), if_neg (by decide), if_pos rfl, hoperand, ok_bind,
    ← setStream_eq]
  rfl

/-- An instruction the scan does not look at. -/
theorem scanInstruction_ignored {span : TokenSpan} (hnot : ¬IsScanned span.opcode) :
    scanInstruction ts progType span st = .ok st := by
  rw [IsScanned, not_or, not_or, not_or, not_or] at hnot
  obtain ⟨hcontrol, hfork, hjoin, hstream, hrange⟩ := hnot
  have hout : span.opcode < SM4_OP_DCL_INPUT ∨ SM4_OP_DCL_OUTPUT_SIV < span.opcode := by
    by_contra hin
    rw [not_or, BitVec.not_lt, BitVec.not_lt] at hin
    exact hrange hin
  rw [scanInstruction, if_neg hcontrol, if_neg (not_or.mpr ⟨hfork, hjoin⟩), if_neg hstream,
    if_pos hout]
  rfl

/-- `scanInstruction` on an encoded instruction. -/
theorem scanInstruction_tokens (i : Instruction) (h : i.kind.WellFormed)
    (hat : i.tokens <+: ts.drop p) :
    scanInstruction ts progType (i.span p) st = .ok (st.perform progType i.kind) := by
  have hbody := prefix_tail hat
  obtain ⟨control, extended, kind⟩ := i
  have hlength : ∀ (o : DclOperand) (trailing : List UINT),
      (o.tokens ++ trailing).length + 1 = 1 + o.tokens.length + trailing.length := by
    intro o trailing
    rw [List.length_append]
    omega
  cases kind with
  | dcl d o trailing => exact scanInstruction_dcl d o trailing rfl (hlength o trailing) hbody
  | dclStream o trailing => exact scanInstruction_stream o trailing rfl (hlength o trailing) hbody
  | phase q body =>
      cases q with
      | controlPoint => rfl
      | fork => rfl
      | join => rfl
  | other opcode body => exact scanInstruction_ignored h.1
  | block opcode body => exact scanInstruction_ignored h.1

end Recording

-- ============================================================================
-- The program is scanned
-- ============================================================================

/-- The scan behind a program. -/
def ScanState.run (st : ScanState) (progType : UINT) (program : List Instruction) : ScanState :=
  program.foldl (fun st i => st.perform progType i.kind) st

/-- The loop over an encoded program.  The induction is on the program. -/
theorem scanLoop_tokens {ts : List UINT} {progType : UINT} {program : List Instruction}
    (hwf : ∀ i ∈ program, i.kind.WellFormed) {p fuel : Nat} {st : ScanState}
    (hat : program.flatMap Instruction.tokens <+: ts.drop p) (hfuel : program.length < fuel) :
    scanLoop ts progType fuel
        { p := p, pEnd := p + (program.flatMap Instruction.tokens).length } st =
      .ok (st.run progType program) := by
  induction program generalizing p fuel st with
  | nil =>
      cases fuel with
      | zero => exact absurd hfuel (Nat.not_lt_zero _)
      | succ fuel =>
          have hstop : tritonTokIterNext ts { p := p, pEnd := p } = .ok none := by
            rw [tritonTokIterNext, if_pos (Nat.le_refl p)]
            rfl
          show scanLoop ts progType (fuel + 1) { p := p, pEnd := p } st = _
          rw [scanLoop, hstop]
          rfl
  | cons i program ih =>
      cases fuel with
      | zero => exact absurd hfuel (Nat.not_lt_zero _)
      | succ fuel =>
          have hi := hwf i (List.mem_cons_self ..)
          rw [List.flatMap_cons] at hat ⊢
          have hhead : i.tokens <+: ts.drop p := (List.prefix_append _ _).trans hat
          rw [List.length_append, scanLoop, tritonTokIterNext_tokens i hi hhead (by omega), ok_bind]
          dsimp only
          rw [scanInstruction_tokens i hi hhead, ok_bind, ← Nat.add_assoc]
          exact ih (fun j hj => hwf j (List.mem_cons_of_mem i hj)) (prefix_right hat)
            (Nat.lt_of_succ_lt_succ hfuel)

end VirtioWddm
