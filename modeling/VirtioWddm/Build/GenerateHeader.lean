/-
  VirtioWddm.Build.GenerateHeader

  `generate` of `gen_dxvk_version.py`, run by any number of processes.

  The new header is computed first.  An output that has these bytes already is left
  alone; otherwise a new file beside it gets them and then takes its name.  Any operation
  may raise, and a process that is killed is one that takes no further step.
-/

import VirtioWddm.Build.VersionStream
import VirtioWddm.Lib.Interleave
import VirtioWddm.Lib.TextReplace

namespace VirtioWddm

open Lib

-- ============================================================================
-- The header
-- ============================================================================

/-- `@VCS_TAG@`. -/
def versionTag : List Char := "@VCS_TAG@".toList

inductive GenerateError where
  | version (e : PyError)
  | unicodeDecodeError
  | valueError
  | osError
deriving DecidableEq

/-- `(root / "version.h.in").read_text(encoding="utf-8")`. -/
def SourceTree.readTemplate (root : SourceTree) : Except GenerateError (List Char) :=
  match root.files versionTemplate with
  | none => .error (.version .fileNotFoundError)
  | some data =>
      match utf8Chars data with
      | none => .error .unicodeDecodeError
      | some text => .ok (universalNewlines text)

/-- `data`: the template with the version for its tags. -/
def VersionCall.header (sha256 : List Byte → List Byte) (c : VersionCall) :
    Except GenerateError (List Byte) := do
  let template ← c.root.readTemplate
  if versionTag <:+: template then
    match c.version sha256 with
    | .ok version => return utf8Bytes (replaceAll versionTag version.toList template)
    | .error e => throw (.version e)
  else throw .valueError

-- ============================================================================
-- The processes
-- ============================================================================

/-- The directory of the output: its content, and the files beside it under the names
    that `tempfile` chooses from. -/
structure OutputDir where
  output : Option (List Byte)
  temporary : Nat → Option (List Byte)

/-- The next operation of `generate`, with the local variables it needs. -/
inductive GeneratePoint where
  | preparing
  | looking (data : List Byte)
  | comparing (data : List Byte)
  | creating (data : List Byte)
  | writing (data : List Byte) (name written : Nat)
  | replacing (data : List Byte) (name : Nat)
  | returned (changed : Bool)
  /-- with the temporary file that was not renamed -/
  | raised (e : GenerateError) (temporary : Option Nat)

structure GenerateProcess where
  call : VersionCall
  point : GeneratePoint

/-- What the system answers to an operation: whether it fails, the last name that is tried
    for the temporary file, and how many bytes go to it next. -/
structure DiskAnswers where
  fails : Bool
  name : Nat
  bytes : Nat

/-- One operation of `generate`; `none` when it has ended. -/
def generate (sha256 : List Byte → List Byte) (call : VersionCall) (answers : DiskAnswers)
    (dir : OutputDir) : GeneratePoint → Option (OutputDir × GeneratePoint)
  | .preparing =>
      match call.header sha256 with
      | .ok data => some (dir, .looking data)
      | .error e => some (dir, .raised e none)
  | .looking data =>
      if answers.fails then some (dir, .raised .osError none)
      else some (dir, if dir.output.isSome then .comparing data else .creating data)
  | .comparing data =>
      match dir.output with
      | some bytes =>
          if answers.fails then some (dir, .raised .osError none)
          else some (dir, if bytes = data then .returned false else .creating data)
      | none => some (dir, .raised .osError none)
  | .creating data =>
      if answers.fails ∨ (dir.temporary answers.name).isSome then some (dir, .raised .osError none)
      else
        some ({ dir with temporary := Function.update dir.temporary answers.name (some []) },
          .writing data answers.name 0)
  | .writing data name written =>
      if answers.fails then some (dir, .raised .osError (some name))
      else if written < data.length then
        let written := written + answers.bytes
        some ({ dir with
            temporary := Function.update dir.temporary name (some (data.take written)) },
          .writing data name written)
      else some (dir, .replacing data name)
  | .replacing _ name =>
      if answers.fails then some (dir, .raised .osError (some name))
      else
        some ({ output := dir.temporary name,
                temporary := Function.update dir.temporary name none }, .returned true)
  | .returned _ => none
  | .raised _ _ => none

def GenerateStep (sha256 : List Byte → List Byte) (dir : OutputDir) (p : GenerateProcess)
    (dir' : OutputDir) (p' : GenerateProcess) : Prop :=
  p'.call = p.call ∧ ∃ answers : DiskAnswers,
    generate sha256 p.call answers dir p.point = some (dir', p'.point)

-- ============================================================================
-- What an operation can do
-- ============================================================================

/-- The operations, without the answers that lead to them. -/
inductive GenerateMove (sha256 : List Byte → List Byte) (call : VersionCall) (dir : OutputDir) :
    GeneratePoint → OutputDir → GeneratePoint → Prop where
  | prepared (data : List Byte) (h : call.header sha256 = .ok data) :
      GenerateMove sha256 call dir .preparing dir (.looking data)
  | rejected (e : GenerateError) : GenerateMove sha256 call dir .preparing dir (.raised e none)
  | found (data : List Byte) : GenerateMove sha256 call dir (.looking data) dir (.comparing data)
  | missing (data : List Byte) (h : dir.output = none) :
      GenerateMove sha256 call dir (.looking data) dir (.creating data)
  | same (data : List Byte) (h : dir.output = some data) :
      GenerateMove sha256 call dir (.comparing data) dir (.returned false)
  | other (data : List Byte) (h : dir.output ≠ some data) :
      GenerateMove sha256 call dir (.comparing data) dir (.creating data)
  | created (data : List Byte) (name : Nat) (hfree : dir.temporary name = none) :
      GenerateMove sha256 call dir (.creating data)
        { dir with temporary := Function.update dir.temporary name (some []) }
        (.writing data name 0)
  | wrote (data : List Byte) (name written bytes : Nat) :
      GenerateMove sha256 call dir (.writing data name written)
        { dir with
          temporary := Function.update dir.temporary name (some (data.take (written + bytes))) }
        (.writing data name (written + bytes))
  | closed (data : List Byte) (name written : Nat) (h : data.length ≤ written) :
      GenerateMove sha256 call dir (.writing data name written) dir (.replacing data name)
  | replaced (data : List Byte) (name : Nat) :
      GenerateMove sha256 call dir (.replacing data name)
        { output := dir.temporary name, temporary := Function.update dir.temporary name none }
        (.returned true)
  | lookingFailed (data : List Byte) :
      GenerateMove sha256 call dir (.looking data) dir (.raised .osError none)
  | comparingFailed (data : List Byte) :
      GenerateMove sha256 call dir (.comparing data) dir (.raised .osError none)
  | creatingFailed (data : List Byte) :
      GenerateMove sha256 call dir (.creating data) dir (.raised .osError none)
  | writingFailed (data : List Byte) (name written : Nat) :
      GenerateMove sha256 call dir (.writing data name written) dir (.raised .osError (some name))
  | replacingFailed (data : List Byte) (name : Nat) :
      GenerateMove sha256 call dir (.replacing data name) dir (.raised .osError (some name))

theorem GenerateStep.move {sha256 : List Byte → List Byte} {dir dir' : OutputDir}
    {p p' : GenerateProcess} (h : GenerateStep sha256 dir p dir' p') :
    GenerateMove sha256 p.call dir p.point dir' p'.point := by
  obtain ⟨-, answers, hrun⟩ := h
  generalize p.point = point, p'.point = point' at hrun
  cases point with
  | preparing =>
      rw [generate] at hrun
      split at hrun
      case h_1 data hdata =>
        cases hrun
        exact .prepared data hdata
      case h_2 e _ =>
        cases hrun
        exact .rejected e
  | looking data =>
      rw [generate] at hrun
      split at hrun
      case isTrue =>
        cases hrun
        exact .lookingFailed data
      case isFalse =>
        split at hrun
        case isTrue =>
          cases hrun
          exact .found data
        case isFalse hmissing =>
          cases hrun
          exact .missing data (Option.not_isSome_iff_eq_none.mp hmissing)
  | comparing data =>
      rw [generate] at hrun
      split at hrun
      case h_1 bytes hbytes =>
        split at hrun
        case isTrue =>
          cases hrun
          exact .comparingFailed data
        case isFalse =>
          split at hrun
          case isTrue hsame =>
            cases hrun
            exact .same data (hsame ▸ hbytes)
          case isFalse hother =>
            cases hrun
            refine .other data fun heq => hother ?_
            exact Option.some.inj (hbytes.symm.trans heq)
      case h_2 =>
        cases hrun
        exact .comparingFailed data
  | creating data =>
      rw [generate] at hrun
      split at hrun
      case isTrue =>
        cases hrun
        exact .creatingFailed data
      case isFalse hfree =>
        cases hrun
        refine .created data answers.name (Option.not_isSome_iff_eq_none.mp ?_)
        exact fun hname => hfree (.inr hname)
  | writing data name written =>
      rw [generate] at hrun
      split at hrun
      case isTrue =>
        cases hrun
        exact .writingFailed data name written
      case isFalse =>
        split at hrun
        case isTrue =>
          cases hrun
          exact .wrote data name written answers.bytes
        case isFalse hend =>
          cases hrun
          exact .closed data name written (Nat.le_of_not_lt hend)
  | replacing data name =>
      rw [generate] at hrun
      split at hrun
      case isTrue =>
        cases hrun
        exact .replacingFailed data name
      case isFalse =>
        cases hrun
        exact .replaced data name
  | returned changed => cases hrun
  | raised e left => cases hrun

-- ============================================================================
-- A process that is left alone
-- ============================================================================

section Alone

variable {ι : Type} [DecidableEq ι] {sha256 : List Byte → List Byte}
  {init : Threads ι OutputDir GenerateProcess → Prop} {dir dir' : OutputDir}
  {own : ι → GenerateProcess} {i : ι} {call : VersionCall} {point point' : GeneratePoint}
  {data : List Byte} {name : Nat}

/-- One more operation of the process. -/
theorem reach_operation
    (h : Reach init (Threads.Step (GenerateStep sha256))
      ⟨dir, Function.update own i ⟨call, point⟩⟩)
    (answers : DiskAnswers) (hrun : generate sha256 call answers dir point = some (dir', point')) :
    Reach init (Threads.Step (GenerateStep sha256))
      ⟨dir', Function.update own i ⟨call, point'⟩⟩ := by
  have hi : Function.update own i ⟨call, point⟩ i = ⟨call, point⟩ := Function.update_self _ _ _
  have hact : GenerateStep sha256 dir (Function.update own i ⟨call, point⟩ i) dir'
      ⟨call, point'⟩ := by
    rw [hi]
    exact ⟨rfl, answers, hrun⟩
  have hnext := h.step (.move i hact)
  rw [Function.update_idem] at hnext
  exact hnext

/-- It creates, writes, closes and renames the file. -/
theorem reach_rewritten
    (h : Reach init (Threads.Step (GenerateStep sha256))
      ⟨dir, Function.update own i ⟨call, .creating data⟩⟩)
    (hname : dir.temporary name = none) :
    ∃ dir', dir'.output = some data ∧ Reach init (Threads.Step (GenerateStep sha256))
      ⟨dir', Function.update own i ⟨call, .returned true⟩⟩ := by
  let answers : DiskAnswers := ⟨false, name, data.length⟩
  have hcreated : generate sha256 call answers dir (.creating data) =
      some ({ dir with temporary := Function.update dir.temporary name (some []) },
        .writing data name 0) := by
    rw [generate, hname]
    rfl
  have hwriting := reach_operation h answers hcreated
  have hfull : ∃ dir' : OutputDir, dir'.temporary name = some data ∧
      Reach init (Threads.Step (GenerateStep sha256))
        ⟨dir', Function.update own i ⟨call, .writing data name data.length⟩⟩ := by
    by_cases hempty : 0 < data.length
    · have hwrote : generate sha256 call answers
          { dir with temporary := Function.update dir.temporary name (some []) }
          (.writing data name 0) = some
            ({ dir with
                temporary := Function.update (Function.update dir.temporary name (some []))
                  name (some (data.take (0 + data.length))) },
              .writing data name (0 + data.length)) := by
        rw [generate, if_neg Bool.false_ne_true, if_pos hempty]
      rw [Nat.zero_add, List.take_length] at hwrote
      exact ⟨_, Function.update_self _ _ _, reach_operation hwriting answers hwrote⟩
    · obtain rfl : data = [] := List.eq_nil_of_length_eq_zero (by omega)
      exact ⟨_, Function.update_self _ _ _, hwriting⟩
  obtain ⟨dir', hdir, hfull⟩ := hfull
  have hclosed : generate sha256 call answers dir' (.writing data name data.length) =
      some (dir', .replacing data name) := by
    rw [generate, if_neg Bool.false_ne_true, if_neg (Nat.lt_irrefl _)]
  have hreplaced : generate sha256 call answers dir' (.replacing data name) =
      some ({ output := dir'.temporary name,
              temporary := Function.update dir'.temporary name none }, .returned true) := by
    rw [generate, if_neg Bool.false_ne_true]
  exact ⟨_, hdir, reach_operation (reach_operation hfull answers hclosed) answers hreplaced⟩

/-- Nobody waits: it returns, and then the output is its header. -/
theorem reach_returned
    (h : Reach init (Threads.Step (GenerateStep sha256))
      ⟨dir, Function.update own i ⟨call, .preparing⟩⟩)
    (hdata : call.header sha256 = .ok data) (hname : dir.temporary name = none) :
    ∃ dir' b, dir'.output = some data ∧ Reach init (Threads.Step (GenerateStep sha256))
      ⟨dir', Function.update own i ⟨call, .returned b⟩⟩ := by
  let answers : DiskAnswers := ⟨false, name, data.length⟩
  have hprepared : generate sha256 call answers dir .preparing = some (dir, .looking data) := by
    rw [generate, hdata]
  have hlooking := reach_operation h answers hprepared
  cases hout : dir.output with
  | none =>
      have hmissing : generate sha256 call answers dir (.looking data) =
          some (dir, .creating data) := by
        rw [generate, if_neg Bool.false_ne_true, hout]
        rfl
      obtain ⟨dir', hdir, hend⟩ := reach_rewritten (reach_operation hlooking answers hmissing) hname
      exact ⟨dir', true, hdir, hend⟩
  | some bytes =>
      have hfound : generate sha256 call answers dir (.looking data) =
          some (dir, .comparing data) := by
        rw [generate, if_neg Bool.false_ne_true, hout]
        rfl
      have hcompared : generate sha256 call answers dir (.comparing data) =
          some (dir, if bytes = data then .returned false else .creating data) := by
        rw [generate, hout]
        rfl
      have hcomparing := reach_operation hlooking answers hfound
      by_cases hsame : bytes = data
      · rw [if_pos hsame] at hcompared
        exact ⟨dir, false, hout.trans (congrArg some hsame),
          reach_operation hcomparing answers hcompared⟩
      · rw [if_neg hsame] at hcompared
        obtain ⟨dir', hdir, hend⟩ :=
          reach_rewritten (reach_operation hcomparing answers hcompared) hname
        exact ⟨dir', true, hdir, hend⟩

end Alone

-- ============================================================================
-- The builds of the tests
-- ============================================================================

def originalBuild : VersionCall := testCall [templateFile, signatureFile "original\n"]

def firstFixBuild : VersionCall := testCall [templateFile, signatureFile "first fix\n"]

theorem readTemplate_testCall (text : String) :
    (testCall [templateFile, signatureFile text]).root.readTemplate =
      .ok "#define DXVK_VERSION \"@VCS_TAG@\"\n".toList := by
  have hfile : (testCall [templateFile, signatureFile text]).root.files versionTemplate =
      some (utf8Bytes "#define DXVK_VERSION \"@VCS_TAG@\"\n".toList) := rfl
  rw [SourceTree.readTemplate, hfile]
  dsimp only
  rw [utf8Chars_eq_some_iff.mpr rfl]
  rfl

/-- The streams of the two builds, by their lengths. -/
theorem stream_originalBuild : ∃ stream, originalBuild.stream = .ok stream ∧ stream.length = 154 :=
  map_eq_ok (f := List.length) (by decide +kernel)

theorem stream_firstFixBuild : ∃ stream, firstFixBuild.stream = .ok stream ∧ stream.length = 155 :=
  map_eq_ok (f := List.length) (by decide +kernel)

theorem header_testCall {text : String} {stream : List Byte}
    (h : (testCall [templateFile, signatureFile text]).stream = .ok stream) :
    ∃ data, (testCall [templateFile, signatureFile text]).header digestOf = .ok data := by
  have htag : versionTag <:+: "#define DXVK_VERSION \"@VCS_TAG@\"\n".toList := by decide
  rw [VersionCall.header, readTemplate_testCall, ok_bind, if_pos htag, version_of_stream h]
  exact ⟨_, rfl⟩

end VirtioWddm
