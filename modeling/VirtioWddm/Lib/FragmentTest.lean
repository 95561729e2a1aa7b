/-
  VirtioWddm.Lib.FragmentTest

  The depth and stencil tests of a rasterization pipeline.

  A fragment is compared with the sample it falls on; the stencil value is updated under
  a mask and the depth value is written, and the fragment goes on or not.  Stencil values
  are words of any width and depths come from any type with a decidable order.  A face
  without a stencil test is the same as a face that always passes and keeps the value.
-/

import Mathlib.Data.Nat.Basic
import Mathlib.Order.Lattice

namespace Lib

-- ============================================================================
-- Comparisons and stencil operations
-- ============================================================================

inductive Comparison where
  | never
  | less
  | equal
  | lessEqual
  | greater
  | notEqual
  | greaterEqual
  | always
deriving DecidableEq

def Comparison.holds {δ : Type} [LinearOrder δ] (c : Comparison) (a b : δ) : Bool :=
  match c with
  | never => false
  | less => a < b
  | equal => a = b
  | lessEqual => a ≤ b
  | greater => b < a
  | notEqual => a ≠ b
  | greaterEqual => b ≤ a
  | always => true

inductive StencilOp where
  | keep
  | zero
  | replace
  | incrSat
  | decrSat
  | invert
  | incr
  | decr
deriving DecidableEq

/-- The new stencil value, before the write mask. -/
def StencilOp.apply {w : Nat} (op : StencilOp) (ref value : BitVec w) : BitVec w :=
  match op with
  | keep => value
  | zero => 0
  | replace => ref
  | incrSat => if value = BitVec.allOnes w then value else value + 1
  | decrSat => if value = 0 then value else value - 1
  | invert => ~~~value
  | incr => value + 1
  | decr => value - 1

/-- The bits of `new` under the mask, and those of `old` elsewhere. -/
def maskedWrite {w : Nat} (mask old new : BitVec w) : BitVec w :=
  (old &&& ~~~mask) ||| (new &&& mask)

theorem maskedWrite_self {w : Nat} (mask value : BitVec w) :
    maskedWrite mask value value = value := by
  rw [maskedWrite, ← BitVec.and_or_distrib_left]
  apply BitVec.eq_of_getLsbD_eq
  intro i hi
  rw [BitVec.getLsbD_and, BitVec.getLsbD_or, BitVec.getLsbD_not]
  simp [hi]

-- ============================================================================
-- The tests
-- ============================================================================

structure StencilFace where
  failOp : StencilOp
  depthFailOp : StencilOp
  passOp : StencilOp
  func : Comparison
deriving DecidableEq

/-- The face that always passes and keeps the value. -/
def StencilFace.idle : StencilFace where
  failOp := .keep
  depthFailOp := .keep
  passOp := .keep
  func := .always

structure Sample (w : Nat) (δ : Type) where
  stencil : BitVec w
  depth : δ
deriving DecidableEq

structure Fragment (δ : Type) where
  front : Bool
  depth : δ
deriving DecidableEq

/-- The tests a pipeline makes: on the stencil of a face, if it has one, and on the depth,
    which may be read-only. -/
structure FragmentTest (w : Nat) where
  depthTest : Option Comparison
  depthWrite : Bool
  face : Bool → Option StencilFace
  readMask : BitVec w
  writeMask : BitVec w

section Tests

variable {w : Nat} {δ : Type} [LinearOrder δ]

def StencilFace.passes (face : StencilFace) (readMask ref value : BitVec w) : Bool :=
  face.func.holds (ref &&& readMask).toNat (value &&& readMask).toNat

/-- The operation of a face, by the outcome of the two tests. -/
def StencilFace.op (face : StencilFace) (stencilPass depthPass : Bool) : StencilOp :=
  if stencilPass then if depthPass then face.passOp else face.depthFailOp
  else face.failOp

/-- One fragment: the sample afterwards, and whether the fragment goes on. -/
def FragmentTest.step (t : FragmentTest w) (ref : BitVec w) (sample : Sample w δ)
    (fragment : Fragment δ) : Sample w δ × Bool :=
  let depthPass := t.depthTest.all fun c => c.holds fragment.depth sample.depth
  let stencilPass := (t.face fragment.front).all fun f => f.passes t.readMask ref sample.stencil
  let stencil :=
    (t.face fragment.front).elim sample.stencil fun f =>
      maskedWrite t.writeMask sample.stencil
        ((f.op stencilPass depthPass).apply ref sample.stencil)
  let pass := stencilPass && depthPass
  let depth :=
    if pass && t.depthTest.isSome && t.depthWrite then fragment.depth else sample.depth
  ({ stencil := stencil, depth := depth }, pass)

/-- A list of fragments on one sample: the sample afterwards, and which fragments went
    on. -/
def FragmentTest.run (t : FragmentTest w) (ref : BitVec w) :
    Sample w δ → List (Fragment δ) → Sample w δ × List Bool
  | sample, [] => (sample, [])
  | sample, fragment :: fragments =>
      let (sample, pass) := t.step ref sample fragment
      let (sample, passes) := t.run ref sample fragments
      (sample, pass :: passes)

theorem StencilFace.op_idle (stencilPass depthPass : Bool) :
    StencilFace.idle.op stencilPass depthPass = .keep := by
  cases stencilPass <;> cases depthPass <;> rfl

theorem StencilFace.passes_idle (readMask ref value : BitVec w) :
    StencilFace.idle.passes readMask ref value = true :=
  rfl

/-- An idle face is no stencil test. -/
theorem FragmentTest.step_idle {t t' : FragmentTest w} (hdepth : t'.depthTest = t.depthTest)
    (hwrite : t'.depthWrite = t.depthWrite) (hread : t'.readMask = t.readMask)
    (hmask : t'.writeMask = t.writeMask)
    (hface : ∀ front, t'.face front = t.face front ∨
      (t'.face front = some .idle ∧ t.face front = none))
    (ref : BitVec w) (sample : Sample w δ) (fragment : Fragment δ) :
    t'.step ref sample fragment = t.step ref sample fragment := by
  rw [step, step, hdepth, hwrite, hread, hmask]
  rcases hface fragment.front with hsame | ⟨hidle, hnone⟩
  · rw [hsame]
  · rw [hidle, hnone]
    simp only [Option.elim_some, Option.elim_none, StencilFace.op_idle, StencilOp.apply,
      maskedWrite_self, Option.all_some, Option.all_none, StencilFace.passes_idle]
    rfl

theorem FragmentTest.run_congr {t t' : FragmentTest w} {ref : BitVec w}
    (h : ∀ (sample : Sample w δ) (fragment : Fragment δ),
      t'.step ref sample fragment = t.step ref sample fragment)
    (sample : Sample w δ) (fragments : List (Fragment δ)) :
    t'.run ref sample fragments = t.run ref sample fragments := by
  induction fragments generalizing sample with
  | nil => rfl
  | cons fragment fragments ih =>
      simp only [run, h, ih]

end Tests

end Lib
