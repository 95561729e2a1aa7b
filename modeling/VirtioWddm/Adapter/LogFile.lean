/-
  VirtioWddm.Adapter.LogFile

  `print_log_raw`: the log file that any number of threads open on first use.

  There is no lock.  Every thread that finds the state pending reads the setting and
  opens a file of its own; the one whose exchange succeeds publishes its file, the others
  close theirs.  A step here is a read or a write of what the threads share, and threads
  take steps in any order.
-/

import VirtioWddm.Lib.Interleave

namespace VirtioWddm

open Lib

-- ============================================================================
-- State
-- ============================================================================

def MAX_PATH : Nat := 260

/-- A `FILE *` that is not NULL. -/
structure FileHandle where
  id : Nat
deriving DecidableEq

/-- `state`: 0, 1 and 2. -/
inductive LogState where
  | pending
  | noFile
  | fileEnabled
deriving DecidableEq

/-- The static variables of `print_log_raw`, the files of the process, and what was
    written to them. -/
structure LogShared where
  state : LogState := .pending
  out : Option FileHandle := none
  /-- the path behind a handle, while it is open -/
  opened : FileHandle → Option (List Char) := fun _ => none
  written : List (FileHandle × List Char) := []

/-- Where a thread is in `print_log_raw`, with its local variables. -/
inductive LogPoint where
  | idle
  | entered (line : List Char)
  /-- the state was pending -/
  | opening (line : List Char)
  | publishing (line : List Char) (f : Option FileHandle)
  /-- the exchange has succeeded -/
  | assigning (line : List Char) (f : Option FileHandle)
  /-- the exchange has failed -/
  | closing (line : List Char) (f : Option FileHandle)
  | rereading (line : List Char)
  | printing (line : List Char) (value : LogState)
deriving DecidableEq

/-- What the system answers in a step, and the line that the next call is for. -/
structure LogAnswers where
  line : List Char
  /-- the variable `VIRTIO_WDDM_LOG_FILE`, if it is set -/
  setting : Option (List Char)
  /-- the answer of `fopen` -/
  file : Option FileHandle
  /-- `tritonVerboseLogEnabled` -/
  verbose : Bool
  pid : Nat
  tid : Nat
  /-- `snprintf` does not fail -/
  formatted : Bool

/-- A handle that `fopen` returns is not one of an open file. -/
def LogAnswers.Possible (answers : LogAnswers) (s : LogShared) : Prop :=
  ∀ f, answers.file = some f → s.opened f = none

-- ============================================================================
-- The code
-- ============================================================================

/-- The path to open: nothing for an unset, empty or overlong variable, and for "0". -/
def logPath (setting : Option (List Char)) : Option (List Char) := do
  let path ← setting
  let len := path.length
  if 0 < len ∧ len < MAX_PATH then
    let path :=
      if len = 1 ∧ path[0]? = some '1' then "C:\\dx11um_log.txt".toList else path
    if len = 1 ∧ path[0]? = some '0' then none else some path
  else none

/-- `tagged`, in its buffer of 4608 characters. -/
def tagged (answers : LogAnswers) (line : List Char) : List Char :=
  ("[umd pid=" ++ toString answers.pid ++ " tid=" ++ toString answers.tid ++ "] ").toList ++ line
    |>.take 4607

/-- The next step of `print_log_raw`; `none` is a write to a file that is not open, or a
    second `fclose` of one. -/
def printLogRaw (answers : LogAnswers) (s : LogShared) : LogPoint → Option (LogShared × LogPoint)
  | .idle => some (s, .entered answers.line)
  | .entered line =>
      some (s, if s.state = .pending then .opening line else .printing line s.state)
  | .opening line =>
      match logPath answers.setting, answers.file with
      | some path, some f =>
          some ({ s with opened := Function.update s.opened f (some path) },
            .publishing line (some f))
      | _, _ => some (s, .publishing line none)
  | .publishing line f =>
      if s.state = .pending then
        some ({ s with state := if f.isSome then .fileEnabled else .noFile }, .assigning line f)
      else some (s, .closing line f)
  | .assigning line f => some ({ s with out := f }, .rereading line)
  | .closing line none => some (s, .rereading line)
  | .closing line (some f) =>
      if (s.opened f).isSome then
        some ({ s with opened := Function.update s.opened f none }, .rereading line)
      else none
  | .rereading line => some (s, .printing line s.state)
  | .printing line value =>
      if value = .noFile ∧ answers.verbose = false then some (s, .idle)
      else if answers.formatted = false then some (s, .idle)
      else
        match value, s.out with
        | .fileEnabled, some f =>
            if (s.opened f).isSome then
              some ({ s with written := s.written ++ [(f, tagged answers line)] }, .idle)
            else none
        | _, _ => some (s, .idle)

/-- A step of one thread.  What stands behind the last test reads `out` twice; nothing
    but the winner's assignment ever changes it. -/
def LogStep (s : LogShared) (p : LogPoint) (s' : LogShared) (p' : LogPoint) : Prop :=
  ∃ answers : LogAnswers, answers.Possible s ∧ printLogRaw answers s p = some (s', p')

-- ============================================================================
-- What a step can do
-- ============================================================================

/-- The steps, without the answers that lead to them. -/
inductive LogMove (s : LogShared) : LogPoint → LogShared → LogPoint → Prop where
  | call (line : List Char) : LogMove s .idle s (.entered line)
  | first (line : List Char) (h : s.state = .pending) : LogMove s (.entered line) s (.opening line)
  | again (line : List Char) (h : s.state ≠ .pending) :
      LogMove s (.entered line) s (.printing line s.state)
  | opened (line path : List Char) (f : FileHandle) (hfree : s.opened f = none) :
      LogMove s (.opening line) { s with opened := Function.update s.opened f (some path) }
        (.publishing line (some f))
  | unopened (line : List Char) : LogMove s (.opening line) s (.publishing line none)
  | won (line : List Char) (f : Option FileHandle) (h : s.state = .pending) :
      LogMove s (.publishing line f)
        { s with state := if f.isSome then .fileEnabled else .noFile } (.assigning line f)
  | lost (line : List Char) (f : Option FileHandle) (h : s.state ≠ .pending) :
      LogMove s (.publishing line f) s (.closing line f)
  | assigned (line : List Char) (f : Option FileHandle) :
      LogMove s (.assigning line f) { s with out := f } (.rereading line)
  | nothingToClose (line : List Char) : LogMove s (.closing line none) s (.rereading line)
  | closed (line : List Char) (f : FileHandle) :
      LogMove s (.closing line (some f)) { s with opened := Function.update s.opened f none }
        (.rereading line)
  | reread (line : List Char) : LogMove s (.rereading line) s (.printing line s.state)
  | printed (line text : List Char) (f : FileHandle) (hout : s.out = some f) :
      LogMove s (.printing line .fileEnabled) { s with written := s.written ++ [(f, text)] } .idle
  | dropped (line : List Char) (value : LogState) : LogMove s (.printing line value) s .idle

section Steps

variable {s s' : LogShared} {p p' q : LogPoint}

theorem LogStep.move (h : LogStep s p s' p') : LogMove s p s' p' := by
  obtain ⟨answers, hpossible, hrun⟩ := h
  cases p with
  | idle =>
      cases hrun
      exact .call _
  | entered line =>
      rw [printLogRaw] at hrun
      split at hrun
      case isTrue hpending =>
        cases hrun
        exact .first line hpending
      case isFalse hset =>
        cases hrun
        exact .again line hset
  | opening line =>
      rw [printLogRaw] at hrun
      split at hrun
      case h_1 path f hpath hfile =>
        cases hrun
        exact .opened line path f (hpossible f hfile)
      case h_2 =>
        cases hrun
        exact .unopened line
  | publishing line f =>
      rw [printLogRaw] at hrun
      split at hrun
      case isTrue hpending =>
        cases hrun
        exact .won line f hpending
      case isFalse hset =>
        cases hrun
        exact .lost line f hset
  | assigning line f =>
      cases hrun
      exact .assigned line f
  | closing line f =>
      cases f with
      | none =>
          cases hrun
          exact .nothingToClose line
      | some f =>
          rw [printLogRaw] at hrun
          split at hrun
          case isTrue =>
            cases hrun
            exact .closed line f
          case isFalse => cases hrun
  | rereading line =>
      cases hrun
      exact .reread line
  | printing line value =>
      rw [printLogRaw.eq_def] at hrun
      dsimp only at hrun
      split at hrun
      case isTrue =>
        cases hrun
        exact .dropped line value
      case isFalse =>
        split at hrun
        case isTrue =>
          cases hrun
          exact .dropped line value
        case isFalse =>
          split at hrun
          case h_1 f hout _ =>
            split at hrun
            case isTrue =>
              cases hrun
              exact .printed line _ f hout
            case isFalse => cases hrun
          case h_2 =>
            cases hrun
            exact .dropped line _

end Steps

-- ============================================================================
-- The outline
-- ============================================================================

/-- The file a thread has opened and not yet published or closed. -/
def LogPoint.holds : LogPoint → Option FileHandle
  | .publishing _ f => f
  | .assigning _ f => f
  | .closing _ f => f
  | _ => none

/-- The thread whose exchange has succeeded, before it assigns the file. -/
def LogPoint.Assigning : LogPoint → Prop
  | .assigning _ _ => True
  | _ => False

/-- What a thread has learned about the state. -/
def LogPoint.Knows (s : LogShared) : LogPoint → Prop
  | .assigning _ f =>
      s.state = (if f.isSome then .fileEnabled else .noFile) ∧ s.out = none
  | .closing _ _ => s.state ≠ .pending
  | .rereading _ => s.state ≠ .pending
  | .printing _ value => value = s.state ∧ s.state ≠ .pending
  | _ => True

def logOutline : Outline LogShared LogPoint where
  shared s :=
    (∀ f, s.out = some f → s.state = .fileEnabled ∧ (s.opened f).isSome) ∧
      ∀ entry ∈ s.written, s.out = some entry.1
  own s p := p.Knows s ∧ ∀ f, p.holds = some f → (s.opened f).isSome ∧ s.out ≠ some f
  apart p q := (∀ f, p.holds = some f → q.holds ≠ some f) ∧ ¬(p.Assigning ∧ q.Assigning)

/-- What has to be done: open files are published or closed, and a file that the state
    promises is assigned. -/
inductive LogDuty where
  | file (f : FileHandle)
  | assignment

def logDuties : Duties LogShared LogPoint LogDuty where
  due s
    | .file f => (s.opened f).isSome ∧ s.out ≠ some f
    | .assignment => s.state = .fileEnabled ∧ s.out = none
  taken p
    | .file f => p.holds = some f
    | .assignment => p.Assigning

section Soundness

variable {s s' : LogShared} {p p' q : LogPoint}

/-- A file that is opened is not yet open, and one that is closed is not the one in
    question: every other file stays as it is. -/
theorem opened_update {f g : FileHandle} (path : Option (List Char)) (hne : g ≠ f)
    (h : (s.opened g).isSome) : (Function.update s.opened f path g).isSome := by
  rw [Function.update_of_ne hne]
  exact h

/-- A step keeps what the outline says of the thread that takes it. -/
theorem logOutline_step (hshared : logOutline.shared s) (hown : logOutline.own s p)
    (h : LogMove s p s' p') : logOutline.shared s' ∧ logOutline.own s' p' := by
  have hnone : ∀ {s : LogShared} {p : LogPoint}, p.holds = none →
      ∀ f, p.holds = some f → (s.opened f).isSome ∧ s.out ≠ some f := by
    intro s p hp f hf
    rw [hp] at hf
    cases hf
  cases h with
  | call | first | unopened => exact ⟨hshared, trivial, hnone rfl⟩
  | again line hset => exact ⟨hshared, ⟨rfl, hset⟩, hnone rfl⟩
  | opened line path f hfree =>
      have hother : ∀ g, (s.opened g).isSome → g ≠ f := by
        rintro g hg rfl
        rw [hfree] at hg
        cases hg
      refine ⟨⟨fun g hout => ?_, hshared.2⟩, trivial, fun g hg => ?_⟩
      · obtain ⟨hstate, hopen⟩ := hshared.1 g hout
        exact ⟨hstate, opened_update _ (hother g hopen) hopen⟩
      · cases hg
        refine ⟨?_, fun hout => hother f (hshared.1 f hout).2 rfl⟩
        show (Function.update s.opened f (some path) f).isSome = true
        rw [Function.update_self]
        rfl
  | won line f hpending =>
      have hout : s.out = none := by
        cases hout : s.out with
        | none => rfl
        | some g => cases hpending.symm.trans (hshared.1 g hout).1
      refine ⟨⟨fun g hg => ?_, hshared.2⟩, ⟨rfl, hout⟩, hown.2⟩
      cases hout.symm.trans hg
  | lost line f hset => exact ⟨hshared, hset, hown.2⟩
  | assigned line f =>
      obtain ⟨⟨hstate, hout⟩, hheld⟩ := hown
      refine ⟨⟨fun g hg => ?_, fun entry hentry => ?_⟩, ?_, hnone rfl⟩
      · obtain rfl : f = some g := hg
        exact ⟨hstate, (hheld g rfl).1⟩
      · cases hout.symm.trans (hshared.2 entry hentry)
      · show s.state ≠ .pending
        rw [hstate]
        cases f with
        | none => exact fun heq => by cases heq
        | some g => exact fun heq => by cases heq
  | nothingToClose line => exact ⟨hshared, hown.1, hnone rfl⟩
  | closed line f =>
      refine ⟨⟨fun g hout => ?_, hshared.2⟩, hown.1, hnone rfl⟩
      have hne : g ≠ f := by
        rintro rfl
        exact (hown.2 g rfl).2 hout
      exact ⟨(hshared.1 g hout).1, opened_update _ hne (hshared.1 g hout).2⟩
  | reread line => exact ⟨hshared, ⟨rfl, hown.1⟩, hnone rfl⟩
  | printed line text f hout =>
      refine ⟨⟨hshared.1, fun entry hentry => ?_⟩, trivial, hnone rfl⟩
      rcases List.mem_append.mp hentry with hold | hnew
      · exact hshared.2 entry hold
      · rw [List.mem_singleton.mp hnew]
        exact hout
  | dropped => exact ⟨hshared, trivial, hnone rfl⟩

/-- A step does not disturb what the outline says of another thread: that one's file is
    another file, and once the state is set it stays. -/
theorem logOutline_others (hown : logOutline.own s p) (hother : logOutline.own s q)
    (hapart : logOutline.apart p q) (h : LogMove s p s' p') :
    logOutline.own s' q ∧ logOutline.apart p' q := by
  have hfree : ∀ {p' : LogPoint}, p'.holds = none → ¬p'.Assigning → logOutline.apart p' q := by
    intro p' hholds hnot
    refine ⟨fun f hf => ?_, fun h => hnot h.1⟩
    rw [hholds] at hf
    cases hf
  cases h with
  | call | first | again | unopened | nothingToClose | reread | dropped =>
      exact ⟨hother, hfree rfl id⟩
  | opened line path f hnew =>
      have hne : ∀ g, (s.opened g).isSome → g ≠ f := by
        rintro g hg rfl
        rw [hnew] at hg
        cases hg
      refine ⟨⟨?_, fun g hg => ?_⟩, fun g hg hq => ?_, fun h => h.1⟩
      · cases q <;> exact hother.1
      · obtain ⟨hopen, hout⟩ := hother.2 g hg
        exact ⟨opened_update _ (hne g hopen) hopen, hout⟩
      · cases hg
        exact hne f (hother.2 f hq).1 rfl
  | won line f hpending =>
      -- no thread knows of a state before it is set
      have hknows : q.Knows s → q.Knows
          { s with state := if f.isSome then LogState.fileEnabled else .noFile } ∧
            ¬q.Assigning := by
        intro hq
        cases q with
        | idle | entered | opening | publishing => exact ⟨trivial, id⟩
        | assigning line' f' =>
            have hstate := hpending.symm.trans hq.1
            split at hstate
            case isTrue => cases hstate
            case isFalse => cases hstate
        | closing => exact absurd hpending hq
        | rereading => exact absurd hpending hq
        | printing => exact absurd hpending hq.2
      obtain ⟨hq, hnot⟩ := hknows hother.1
      exact ⟨⟨hq, hother.2⟩, hapart.1, fun h => hnot h.2⟩
  | lost line f hset => exact ⟨hother, hapart.1, fun h => h.1⟩
  | assigned line f =>
      refine ⟨⟨?_, fun g hg => ⟨(hother.2 g hg).1, fun heq => ?_⟩⟩, hfree rfl id⟩
      · cases q with
        | assigning => exact absurd ⟨trivial, trivial⟩ hapart.2
        | idle | entered | opening | publishing | closing | rereading | printing =>
            exact hother.1
      · exact hapart.1 g heq hg
  | closed line f =>
      refine ⟨⟨?_, fun g hg => ?_⟩, hfree rfl id⟩
      · cases q <;> exact hother.1
      · obtain ⟨hopen, hout⟩ := hother.2 g hg
        have hne : g ≠ f := by
          rintro rfl
          exact hapart.1 g rfl hg
        exact ⟨opened_update _ hne hopen, hout⟩
  | printed line text f hout =>
      refine ⟨⟨?_, hother.2⟩, hfree rfl id⟩
      cases q <;> exact hother.1

theorem logOutline_sound : logOutline.Sound LogStep where
  symm h := ⟨fun f hq hp => h.1 f hp hq, fun hboth => h.2 ⟨hboth.2, hboth.1⟩⟩
  step hshared hown h := logOutline_step hshared hown h.move
  others _ hown hother hapart h := logOutline_others hown hother hapart h.move

/-- A file that a thread opens it publishes or closes, and the winner assigns. -/
theorem logDuties_kept : logDuties.Kept logOutline LogStep := by
  intro s p s' p' k hshared hown hstep hdue
  have hmove := hstep.move
  have hkept : p.holds = none → ¬p.Assigning → logDuties.due s k →
      logDuties.taken p' k ∨ (logDuties.due s k ∧ ¬logDuties.taken p k) := by
    intro hholds hnot hdue
    refine .inr ⟨hdue, ?_⟩
    cases k with
    | file f =>
        intro htaken
        cases hholds.symm.trans htaken
    | assignment => exact hnot
  cases hmove with
  | call | first | again | unopened | nothingToClose | reread | dropped =>
      exact hkept rfl id hdue
  | opened line path f hnew =>
      cases k with
      | file g =>
          by_cases heq : g = f
          · exact .inl (congrArg some heq.symm)
          · refine hkept rfl id ⟨?_, hdue.2⟩
            have hopen : (Function.update s.opened f (some path) g).isSome = true := hdue.1
            rw [Function.update_of_ne heq] at hopen
            exact hopen
      | assignment => exact hkept rfl id hdue
  | won line f hpending =>
      cases k with
      | file g =>
          by_cases hheld : f = some g
          · exact .inl hheld
          · exact .inr ⟨hdue, hheld⟩
      | assignment => exact .inl trivial
  | lost line f hset =>
      cases k with
      | file g =>
          by_cases hheld : f = some g
          · exact .inl hheld
          · exact .inr ⟨hdue, hheld⟩
      | assignment => exact .inr ⟨hdue, id⟩
  | assigned line f =>
      cases k with
      | file g =>
          refine .inr ⟨⟨hdue.1, ?_⟩, fun hheld : f = some g => hdue.2 hheld⟩
          rw [hown.1.2]
          exact fun hout => by cases hout
      | assignment =>
          -- without a file the winner has not promised one
          obtain ⟨hstate, hnone⟩ := hdue
          obtain rfl : f = none := hnone
          cases hstate.symm.trans hown.1.1
  | closed line f =>
      cases k with
      | file g =>
          have hopen : (Function.update s.opened f none g).isSome = true := hdue.1
          by_cases heq : g = f
          · rw [heq, Function.update_self] at hopen
            cases hopen
          · rw [Function.update_of_ne heq] at hopen
            refine .inr ⟨⟨hopen, hdue.2⟩, fun hheld => heq ?_⟩
            exact (Option.some.inj hheld).symm
      | assignment => exact .inr ⟨hdue, id⟩
  | printed line text f hout =>
      cases k with
      | file g => exact hkept rfl id hdue
      | assignment => exact hkept rfl id hdue

end Soundness

-- ============================================================================
-- Every interleaving
-- ============================================================================

/-- Steps that a thread has before it, at most. -/
def LogPoint.left : LogPoint → Nat
  | .idle => 0
  | .entered _ => 6
  | .opening _ => 5
  | .publishing _ _ => 4
  | .assigning _ _ => 3
  | .closing _ _ => 3
  | .rereading _ => 2
  | .printing _ _ => 1

/-- What no later step takes back. -/
structure LogLater (s s' : LogShared) : Prop where
  state : s.state ≠ .pending → s'.state = s.state
  out : ∀ f, s.out = some f → s'.out = some f ∧ s'.opened f = s.opened f
  written : s.written <+: s'.written

section Interleavings

variable {ι : Type} [DecidableEq ι] {s s' : LogShared} {p p' : LogPoint}

/-- A process that has just loaded the driver. -/
def LogInitial (w : Threads ι LogShared LogPoint) : Prop :=
  w.shared = {} ∧ ∀ i, w.own i = .idle

theorem LogLater.refl (s : LogShared) : LogLater s s :=
  ⟨fun _ => rfl, fun _ hout => ⟨hout, rfl⟩, List.prefix_refl _⟩

theorem LogLater.trans {s'' : LogShared} (h : LogLater s s') (h' : LogLater s' s'') :
    LogLater s s'' where
  state hset := by
    have hsame := h.state hset
    rw [h'.state (by rw [hsame]; exact hset), hsame]
  out f hout := by
    obtain ⟨hout', hopen⟩ := h.out f hout
    obtain ⟨hout'', hopen'⟩ := h'.out f hout'
    exact ⟨hout'', hopen'.trans hopen⟩
  written := h.written.trans h'.written

theorem LogMove.later (hshared : logOutline.shared s) (hown : logOutline.own s p)
    (h : LogMove s p s' p') : LogLater s s' := by
  cases h with
  | call | first | again | unopened | lost | nothingToClose | reread | dropped =>
      exact LogLater.refl s
  | opened line path f hfree =>
      refine ⟨fun _ => rfl, fun g hout => ⟨hout, Function.update_of_ne ?_ _ _⟩, List.prefix_refl _⟩
      rintro rfl
      have hopen := (hshared.1 g hout).2
      rw [hfree] at hopen
      cases hopen
  | won line f hpending =>
      exact ⟨fun hset => absurd hpending hset, fun g hout => ⟨hout, rfl⟩, List.prefix_refl _⟩
  | assigned line f =>
      refine ⟨fun _ => rfl, fun g hout => ?_, List.prefix_refl _⟩
      cases hown.1.2.symm.trans hout
  | closed line f =>
      refine ⟨fun _ => rfl, fun g hout => ⟨hout, Function.update_of_ne ?_ _ _⟩, List.prefix_refl _⟩
      rintro rfl
      exact (hown.2 g rfl).2 hout
  | printed line text f hout =>
      exact ⟨fun _ => rfl, fun g hg => ⟨hg, rfl⟩, List.prefix_append _ _⟩

theorem LogMove.left_lt (h : LogMove s p s' p') (hbusy : p ≠ .idle) : p'.left < p.left := by
  cases h with
  | call => exact absurd rfl hbusy
  | first | again | opened | unopened | won | lost | assigned | nothingToClose | closed | reread
    | printed | dropped => exact Nat.le_of_ble_eq_true rfl

/-- No step writes to a closed file or closes one twice. -/
theorem printLogRaw_isSome (hshared : logOutline.shared s) (hown : logOutline.own s p)
    (answers : LogAnswers) : (printLogRaw answers s p).isSome := by
  cases p with
  | idle | entered | assigning | rereading => rfl
  | opening line =>
      rw [printLogRaw]
      split
      case h_1 => rfl
      case h_2 => rfl
  | publishing line f =>
      rw [printLogRaw]
      split
      case isTrue => rfl
      case isFalse => rfl
  | closing line f =>
      cases f with
      | none => rfl
      | some f =>
          rw [printLogRaw, if_pos (hown.2 f rfl).1]
          rfl
  | printing line value =>
      rw [printLogRaw.eq_def]
      dsimp only
      split
      case isTrue => rfl
      case isFalse =>
        split
        case isTrue => rfl
        case isFalse =>
          split
          case h_1 f hout _ =>
            rw [if_pos (hshared.1 f hout).2]
            rfl
          case h_2 => rfl

/-- The log file of a process, at any moment. -/
structure LogFileOnce (w : Threads ι LogShared LogPoint) : Prop where
  /-- every thread can go on, whatever the system answers, and has at most six steps -/
  returns : ∀ i answers, (printLogRaw answers w.shared (w.own i)).isSome
  ends : ∀ i s' p', w.own i ≠ .idle → LogStep w.shared (w.own i) s' p' → p'.left < (w.own i).left
  /-- there is one file, it is open, and all lines have gone to it -/
  published : ∀ f, w.shared.out = some f →
    w.shared.state = .fileEnabled ∧ (w.shared.opened f).isSome
  written : ∀ entry ∈ w.shared.written, w.shared.out = some entry.1
  /-- any other open file is one that a single thread still has to publish or to close -/
  others : ∀ f, (w.shared.opened f).isSome → w.shared.out = some f ∨
    ∃ i, (w.own i).holds = some f ∧ ∀ j, (w.own j).holds = some f → j = i
  /-- where the state promises a file that is not there yet, a thread will assign it -/
  window : w.shared.state = .fileEnabled → w.shared.out = none → ∃ i, (w.own i).Assigning

/-- Over every interleaving of any number of threads there is one log file at most, and
    whatever has been settled stays so. -/
theorem logFile_once {w : Threads ι LogShared LogPoint}
    (h : Reach LogInitial (Threads.Step LogStep) w) :
    LogFileOnce w ∧
      ∀ w', Reach (· = w) (Threads.Step LogStep) w' → LogLater w.shared w'.shared := by
  have hboth : logOutline.Holds w ∧ logDuties.Met w := by
    refine Outline.holds_met logOutline_sound logDuties_kept (fun w hinit => ?_) h
    obtain ⟨hshared, hidle⟩ := hinit
    refine ⟨⟨?_, fun i => ?_, fun i j hne => ?_⟩, fun k hdue => ?_⟩
    · rw [hshared]
      exact ⟨fun f hf => (by cases hf), fun entry hentry => (by cases hentry)⟩
    · rw [hidle i]
      exact ⟨trivial, fun f hf => by cases hf⟩
    · rw [hidle i]
      exact ⟨fun f hf => (by cases hf), fun hboth => hboth.1⟩
    · rw [hshared] at hdue
      cases k with
      | file f => cases hdue.1
      | assignment => cases hdue.1
  obtain ⟨hholds, hmet⟩ := hboth
  constructor
  · exact
      { returns := fun i answers => printLogRaw_isSome hholds.shared (hholds.own i) answers
        ends := fun i s' p' hbusy hstep => hstep.move.left_lt hbusy
        published := hholds.shared.1
        written := hholds.shared.2
        others := fun f hopen => by
          by_cases hout : w.shared.out = some f
          · exact .inl hout
          · obtain ⟨i, hi⟩ := hmet (.file f) ⟨hopen, hout⟩
            refine .inr ⟨i, hi, fun j hj => ?_⟩
            by_contra hne
            exact (hholds.apart j i hne).1 f hj hi
        window := fun hstate hnone => hmet .assignment ⟨hstate, hnone⟩ }
  · exact fun w' hlater => Outline.later logOutline_sound LogLater.refl
      (fun h h' => h.trans h') (fun hshared hown hstep => hstep.move.later hshared hown) hholds
      hlater

end Interleavings

/-- What the system answers to thread `tid`, and the file it opens for it. -/
def logAnswers (tid : Nat) (file : Option FileHandle) : LogAnswers :=
  { line := ['x'], setting := some ['a'], file := file, verbose := false, pid := 1, tid := tid,
    formatted := true }

/-- Two threads open a file each; the first one publishes its own, the second one closes
    its own and prints too early, the first one prints. -/
theorem logFile_once_two :
    ∃ w : Threads Bool LogShared LogPoint, Reach LogInitial (Threads.Step LogStep) w ∧
      w.shared.opened ⟨1⟩ = some ['a'] ∧ w.shared.opened ⟨2⟩ = none ∧
      w.shared.written = [(⟨1⟩, tagged (logAnswers 1 none) ['x'])] ∧ LogFileOnce w := by
  have h₀ : Reach LogInitial (Threads.Step LogStep)
      ({ shared := {}, own := fun _ => .idle } : Threads Bool LogShared LogPoint) :=
    .init ⟨rfl, fun _ => rfl⟩
  have hfree : ∀ (s : LogShared) tid f, s.opened f = none →
      (logAnswers tid (some f)).Possible s := by
    intro s tid f hnone g hg
    cases hg
    exact hnone
  have hnone : ∀ (s : LogShared) tid, (logAnswers tid none).Possible s := by
    intro s tid g hg
    cases hg
  have h₁ := h₀.step (.move true ⟨logAnswers 1 none, hnone _ 1, rfl⟩)
  have h₂ := h₁.step (.move false ⟨logAnswers 2 none, hnone _ 2, rfl⟩)
  have h₃ := h₂.step (.move true ⟨logAnswers 1 none, hnone _ 1, rfl⟩)
  have h₄ := h₃.step (.move false ⟨logAnswers 2 none, hnone _ 2, rfl⟩)
  have h₅ := h₄.step (.move true ⟨logAnswers 1 (some ⟨1⟩), hfree _ 1 ⟨1⟩ rfl, rfl⟩)
  have h₆ := h₅.step (.move false ⟨logAnswers 2 (some ⟨2⟩), hfree _ 2 ⟨2⟩ rfl, rfl⟩)
  have h₇ := h₆.step (.move true ⟨logAnswers 1 none, hnone _ 1, rfl⟩)
  have h₈ := h₇.step (.move false ⟨logAnswers 2 none, hnone _ 2, rfl⟩)
  have h₉ := h₈.step (.move false ⟨logAnswers 2 none, hnone _ 2, rfl⟩)
  have h₁₀ := h₉.step (.move false ⟨logAnswers 2 none, hnone _ 2, rfl⟩)
  have h₁₁ := h₁₀.step (.move false ⟨logAnswers 2 none, hnone _ 2, rfl⟩)
  have h₁₂ := h₁₁.step (.move true ⟨logAnswers 1 none, hnone _ 1, rfl⟩)
  have h₁₃ := h₁₂.step (.move true ⟨logAnswers 1 none, hnone _ 1, rfl⟩)
  have h₁₄ := h₁₃.step (.move true ⟨logAnswers 1 none, hnone _ 1, rfl⟩)
  exact ⟨_, h₁₄, rfl, rfl, rfl, (logFile_once h₁₄).1⟩

end VirtioWddm
