/-
  VirtioWddm.Build.HeaderPublished

  Whatever processes generate a header, and wherever they are stopped, the output is a
  whole one.

  A process owns the temporary file it has created until it renames it; an exception
  leaves the file behind.  The output changes in a rename only, so that it is the one
  found at first until a process returns True, and then the header of such a process.
-/

import VirtioWddm.Build.GenerateHeader

namespace VirtioWddm

open Lib

-- ============================================================================
-- The outline
-- ============================================================================

/-- The temporary file that a process has created and not renamed. -/
def GeneratePoint.holds : GeneratePoint → Option Nat
  | .writing _ name _ => some name
  | .replacing _ name => some name
  | .raised _ left => left
  | _ => none

/-- What a process has computed and written. -/
def GeneratePoint.Knows (sha256 : List Byte → List Byte) (call : VersionCall) (dir : OutputDir) :
    GeneratePoint → Prop
  | .looking data | .comparing data | .creating data => call.header sha256 = .ok data
  | .writing data name written =>
      call.header sha256 = .ok data ∧ dir.temporary name = some (data.take written)
  | .replacing data name => call.header sha256 = .ok data ∧ dir.temporary name = some data
  | _ => True

/-- Files that were there before stay, and each temporary file has one owner. -/
def generateOutline (sha256 : List Byte → List Byte) (init : OutputDir) :
    Outline OutputDir GenerateProcess where
  shared dir := ∀ name, init.temporary name ≠ none → dir.temporary name = init.temporary name
  own dir p := p.point.Knows sha256 p.call dir ∧
    ∀ name, p.point.holds = some name → init.temporary name = none ∧ dir.temporary name ≠ none
  apart p q := ∀ name, p.point.holds = some name → q.point.holds ≠ some name

/-- A temporary file that was not there before is somebody's. -/
def generateDuties (init : OutputDir) : Duties OutputDir GenerateProcess Nat where
  due dir name := dir.temporary name ≠ init.temporary name
  taken p name := p.point.holds = some name

section Outline

variable {sha256 : List Byte → List Byte} {init dir dir' : OutputDir} {p p' q : GenerateProcess}

/-- Another process is not disturbed by what happens to a file that is not its own. -/
theorem Knows_update {name : Nat} {file : Option (List Byte)} (hq : q.point.holds ≠ some name)
    (h : q.point.Knows sha256 q.call dir) :
    q.point.Knows sha256 q.call
      { dir with temporary := Function.update dir.temporary name file } := by
  generalize q.point = point at hq h
  cases point with
  | preparing | looking | comparing | creating | returned | raised => exact h
  | writing data name' written =>
      refine ⟨h.1, ?_⟩
      show Function.update dir.temporary name file name' = _
      rw [Function.update_of_ne fun heq => hq (congrArg some heq)]
      exact h.2
  | replacing data name' =>
      refine ⟨h.1, ?_⟩
      show Function.update dir.temporary name file name' = _
      rw [Function.update_of_ne fun heq => hq (congrArg some heq)]
      exact h.2

theorem generateOutline_step (hshared : (generateOutline sha256 init).shared dir)
    (hown : (generateOutline sha256 init).own dir p) (h : GenerateStep sha256 dir p dir' p') :
    (generateOutline sha256 init).shared dir' ∧ (generateOutline sha256 init).own dir' p' := by
  have hmove := h.move
  have hcall := h.1
  obtain ⟨hknows, hholds⟩ := hown
  have hnone : ∀ {dir : OutputDir} {point : GeneratePoint}, point.holds = none →
      ∀ name, point.holds = some name → init.temporary name = none ∧ dir.temporary name ≠ none := by
    intro dir point hpoint name hname
    rw [hpoint] at hname
    cases hname
  -- the files of before are not the ones that are written or renamed
  have hothers : ∀ {name : Nat} (file : Option (List Byte)), init.temporary name = none →
      ∀ name', init.temporary name' ≠ none →
        Function.update dir.temporary name file name' = init.temporary name' := by
    intro name file hinit name' hbefore
    have hne : name' ≠ name := by
      rintro rfl
      exact hbefore hinit
    rw [Function.update_of_ne hne]
    exact hshared name' hbefore
  show _ ∧ p'.point.Knows sha256 p'.call dir' ∧ _
  rw [hcall]
  generalize p.point = point, p'.point = point' at hmove hknows hholds ⊢
  cases hmove with
  | prepared data hdata => exact ⟨hshared, hdata, hnone rfl⟩
  | rejected | lookingFailed | comparingFailed | creatingFailed | same =>
      exact ⟨hshared, trivial, hnone rfl⟩
  | found | missing | other => exact ⟨hshared, hknows, hnone rfl⟩
  | created data name hfree =>
      have hinit : init.temporary name = none := by
        by_contra hbefore
        exact hbefore ((hshared name hbefore).symm.trans hfree)
      refine ⟨hothers _ hinit, ⟨hknows, Function.update_self _ _ _⟩, fun name' hname => ?_⟩
      cases hname
      refine ⟨hinit, ?_⟩
      show Function.update dir.temporary name _ name ≠ none
      rw [Function.update_self]
      exact Option.some_ne_none _
  | wrote data name written bytes =>
      have hinit := (hholds name rfl).1
      refine ⟨hothers _ hinit, ⟨hknows.1, Function.update_self _ _ _⟩, fun name' hname => ?_⟩
      cases hname
      refine ⟨hinit, ?_⟩
      show Function.update dir.temporary name _ name ≠ none
      rw [Function.update_self]
      exact Option.some_ne_none _
  | closed data name written hend =>
      refine ⟨hshared, ⟨hknows.1, ?_⟩, hholds⟩
      rw [hknows.2, List.take_of_length_le hend]
  | replaced data name => exact ⟨hothers _ (hholds name rfl).1, trivial, hnone rfl⟩
  | writingFailed data name written => exact ⟨hshared, trivial, hholds⟩
  | replacingFailed data name => exact ⟨hshared, trivial, hholds⟩

theorem generateOutline_others (hother : (generateOutline sha256 init).own dir q)
    (hapart : (generateOutline sha256 init).apart p q) (h : GenerateStep sha256 dir p dir' p') :
    (generateOutline sha256 init).own dir' q ∧ (generateOutline sha256 init).apart p' q := by
  have hmove := h.move
  have hfree : ∀ {point : GeneratePoint}, point.holds = none →
      ∀ name, point.holds = some name → q.point.holds ≠ some name := by
    intro point hpoint name hname
    rw [hpoint] at hname
    cases hname
  have hupdate : ∀ {name : Nat} (file : Option (List Byte)), q.point.holds ≠ some name →
      (generateOutline sha256 init).own
        { dir with temporary := Function.update dir.temporary name file } q := by
    intro name file hq
    refine ⟨Knows_update hq hother.1, fun name' hname => ?_⟩
    have hne : name' ≠ name := by
      rintro rfl
      exact hq hname
    refine ⟨(hother.2 name' hname).1, ?_⟩
    show Function.update dir.temporary name file name' ≠ none
    rw [Function.update_of_ne hne]
    exact (hother.2 name' hname).2
  change _ ∧ ∀ name, p'.point.holds = some name → _
  change ∀ name, p.point.holds = some name → _ at hapart
  generalize p.point = point, p'.point = point' at hmove hapart ⊢
  cases hmove with
  | prepared | rejected | lookingFailed | comparingFailed | creatingFailed | same | found | missing
    | other => exact ⟨hother, hfree rfl⟩
  | created data name hnew =>
      have hq : q.point.holds ≠ some name := fun hq => (hother.2 name hq).2 hnew
      refine ⟨hupdate _ hq, fun name' hname => ?_⟩
      cases hname
      exact hq
  | wrote data name written bytes => exact ⟨hupdate _ (hapart name rfl), hapart⟩
  | closed | writingFailed | replacingFailed => exact ⟨hother, hapart⟩
  | replaced data name => exact ⟨hupdate none (hapart name rfl), hfree rfl⟩

theorem generateOutline_sound : (generateOutline sha256 init).Sound (GenerateStep sha256) where
  symm h name hq hp := h name hp hq
  step hshared hown h := generateOutline_step hshared hown h
  others _ _ hother hapart h := generateOutline_others hother hapart h

theorem generateDuties_kept :
    (generateDuties init).Kept (generateOutline sha256 init) (GenerateStep sha256) := by
  intro dir p dir' p' name hshared hown h hdue
  have hmove := h.move
  have hholds := hown.2
  change p'.point.holds = some name ∨ (_ ∧ ¬p.point.holds = some name)
  change dir'.temporary name ≠ init.temporary name at hdue
  generalize p.point = point, p'.point = point' at hmove hholds ⊢
  -- what is written to a file of another name is nothing that is left to do
  have hupdate : ∀ {name' : Nat} (file : Option (List Byte)), name ≠ name' →
      Function.update dir.temporary name' file name ≠ init.temporary name →
        dir.temporary name ≠ init.temporary name := by
    intro name' file hne hdue
    rw [Function.update_of_ne hne] at hdue
    exact hdue
  cases hmove with
  | prepared | rejected | lookingFailed | comparingFailed | creatingFailed | same | found | missing
    | other => exact .inr ⟨hdue, fun hname => by cases hname⟩
  | created data name' hnew =>
      by_cases heq : name = name'
      · exact .inl (congrArg some heq.symm)
      · exact .inr ⟨hupdate _ heq hdue, fun hname => by cases hname⟩
  | wrote data name' written bytes =>
      by_cases heq : name = name'
      · exact .inl (congrArg some heq.symm)
      · exact .inr ⟨hupdate _ heq hdue, fun hname => heq (Option.some.inj hname).symm⟩
  | closed data name' | writingFailed data name' | replacingFailed data name' =>
      by_cases heq : name = name'
      · exact .inl (congrArg some heq.symm)
      · exact .inr ⟨hdue, fun hname => heq (Option.some.inj hname).symm⟩
  | replaced data name' =>
      by_cases heq : name = name'
      · have hgone : Function.update dir.temporary name' none name ≠ init.temporary name := hdue
        rw [heq, Function.update_self] at hgone
        exact absurd (hholds name' rfl).1.symm hgone
      · exact .inr ⟨hupdate _ heq hdue, fun hname => heq (Option.some.inj hname).symm⟩

/-- Only a rename changes the output. -/
theorem GenerateStep.output_eq (h : GenerateStep sha256 dir p dir' p')
    (hnot : p'.point ≠ .returned true) : dir'.output = dir.output := by
  have hmove := h.move
  generalize p.point = point, p'.point = point' at hmove hnot
  cases hmove with
  | replaced => exact absurd rfl hnot
  | prepared | rejected | lookingFailed | comparingFailed | creatingFailed | same | found | missing
    | other | created | wrote | closed | writingFailed | replacingFailed => rfl

/-- A process that returns False has found its header. -/
theorem GenerateStep.found (h : GenerateStep sha256 dir p dir' p')
    (hknows : p.point.Knows sha256 p.call dir) (hfalse : p'.point = .returned false) :
    ∃ data, p'.call.header sha256 = .ok data ∧ dir.output = some data := by
  have hmove := h.move
  rw [hfalse] at hmove
  rw [h.1]
  generalize p.point = point at hmove hknows
  cases hmove with
  | same data hout => exact ⟨data, hknows, hout⟩

end Outline

-- ============================================================================
-- The output
-- ============================================================================

section Output

variable {ι : Type} [DecidableEq ι] {sha256 : List Byte → List Byte} {init : OutputDir}
  {calls : ι → VersionCall} {w w' : Threads ι OutputDir GenerateProcess}

/-- The processes are about to start. -/
def GenerateInitial (calls : ι → VersionCall) (init : OutputDir)
    (w : Threads ι OutputDir GenerateProcess) : Prop :=
  w.shared = init ∧ ∀ i, w.own i = ⟨calls i, .preparing⟩

/-- The output is the header of a process that has returned True. -/
def Published (sha256 : List Byte → List Byte) (w : Threads ι OutputDir GenerateProcess) : Prop :=
  ∃ j data, (w.own j).point = .returned true ∧ (w.own j).call.header sha256 = .ok data ∧
    w.shared.output = some data

/-- Where the output comes from. -/
structure OutputFrom (sha256 : List Byte → List Byte) (init : OutputDir)
    (w : Threads ι OutputDir GenerateProcess) : Prop where
  untouched : (∀ j, (w.own j).point ≠ .returned true) → w.shared.output = init.output
  published : ∀ j, (w.own j).point = .returned true → Published sha256 w
  unchanged : ∀ i, (w.own i).point = .returned false →
    (∃ data, (w.own i).call.header sha256 = .ok data ∧ w.shared.output = some data) ∨
      Published sha256 w

section Operation

variable {i : ι} {dir' : OutputDir} {p' : GenerateProcess}

/-- Who has returned stays as it is. -/
theorem own_of_returned (h : GenerateStep sha256 w.shared (w.own i) dir' p') {j : ι} {b : Bool}
    (hj : (w.own j).point = .returned b) : Function.update w.own i p' j = w.own j := by
  refine Function.update_of_ne ?_ _ _
  rintro rfl
  have hmove := h.move
  rw [hj] at hmove
  cases hmove

/-- A rename publishes the header of the process. -/
theorem published_of_renamed (h : GenerateStep sha256 w.shared (w.own i) dir' p')
    (hknows : (w.own i).point.Knows sha256 (w.own i).call w.shared)
    (htrue : p'.point = .returned true) :
    Published sha256
      (⟨dir', Function.update w.own i p'⟩ : Threads ι OutputDir GenerateProcess) := by
  have hself : Function.update w.own i p' i = p' := Function.update_self _ _ _
  have hmove := h.move
  rw [htrue] at hmove
  generalize hpoint : (w.own i).point = point at hmove hknows
  cases hmove with
  | replaced data name =>
      refine ⟨i, data, ?_, ?_, hknows.2⟩
      · show (Function.update w.own i p' i).point = _
        rw [hself]
        exact htrue
      · show (Function.update w.own i p' i).call.header sha256 = _
        rw [hself, h.1]
        exact hknows.1

theorem Published.keep (hp : Published sha256 w)
    (h : GenerateStep sha256 w.shared (w.own i) dir' p')
    (hsame : dir'.output = w.shared.output) :
    Published sha256
      (⟨dir', Function.update w.own i p'⟩ : Threads ι OutputDir GenerateProcess) := by
  obtain ⟨j, data, hj, hdata, hout⟩ := hp
  refine ⟨j, data, ?_, ?_, hsame.trans hout⟩
  · show (Function.update w.own i p' j).point = _
    rw [own_of_returned h hj]
    exact hj
  · show (Function.update w.own i p' j).call.header sha256 = _
    rw [own_of_returned h hj]
    exact hdata

end Operation

theorem OutputFrom.step (h : OutputFrom sha256 init w)
    (hO : (generateOutline sha256 init).Holds w)
    (hstep : Threads.Step (GenerateStep sha256) w w') : OutputFrom sha256 init w' := by
  cases hstep with
  | @move i dir' p' hact =>
      have hknows := (hO.own i).1
      have hself : Function.update w.own i p' i = p' := Function.update_self _ _ _
      by_cases htrue : p'.point = .returned true
      · have hnew := published_of_renamed hact hknows htrue
        have hi : (Function.update w.own i p' i).point = .returned true := by
          rw [hself]
          exact htrue
        exact ⟨fun hnone => absurd hi (hnone i), fun _ _ => hnew, fun _ _ => .inr hnew⟩
      · have hsame := hact.output_eq htrue
        refine ⟨fun hnone => hsame.trans (h.untouched fun j hj => hnone j ?_), fun j hj => ?_,
          fun j hj => ?_⟩
        · show (Function.update w.own i p' j).point = _
          rw [own_of_returned hact hj]
          exact hj
        · by_cases heq : j = i
          · subst heq
            change (Function.update w.own j p' j).point = _ at hj
            rw [hself] at hj
            exact absurd hj htrue
          · change (Function.update w.own i p' j).point = _ at hj
            rw [Function.update_of_ne heq] at hj
            exact (h.published j hj).keep hact hsame
        · show (∃ data, (Function.update w.own i p' j).call.header sha256 = _ ∧
            dir'.output = _) ∨ _
          change (Function.update w.own i p' j).point = _ at hj
          by_cases heq : j = i
          · rw [heq, hself] at hj ⊢
            rw [hsame]
            exact .inl (hact.found hknows hj)
          · rw [Function.update_of_ne heq] at hj ⊢
            rw [hsame]
            rcases h.unchanged j hj with hfound | hp
            · exact .inl hfound
            · exact .inr (hp.keep hact hsame)

/-- Over every interleaving: the outline, the temporary files and the output. -/
theorem generate_reach (h : Reach (GenerateInitial calls init)
    (Threads.Step (GenerateStep sha256)) w) :
    ((generateOutline sha256 init).Holds w ∧ (generateDuties init).Met w) ∧
      OutputFrom sha256 init w ∧ ∀ i, (w.own i).call = calls i := by
  have hboth : ∀ {w}, Reach (GenerateInitial calls init) (Threads.Step (GenerateStep sha256)) w →
      (generateOutline sha256 init).Holds w ∧ (generateDuties init).Met w := by
    refine fun h => Outline.holds_met generateOutline_sound generateDuties_kept ?_ h
    rintro v ⟨hshared, hown⟩
    refine ⟨⟨?_, fun i => ?_, fun i j _ => ?_⟩, fun name hdue => ?_⟩
    · rw [hshared]
      exact fun _ _ => rfl
    · rw [hown i]
      exact ⟨trivial, fun name hname => by cases hname⟩
    · rw [hown i]
      exact fun name hname => by cases hname
    · rw [hshared] at hdue
      exact absurd rfl hdue
  refine ⟨hboth h, ?_⟩
  induction h with
  | @init v hinit =>
      obtain ⟨hshared, hown⟩ := hinit
      have hpoint : ∀ j b, (v.own j).point ≠ .returned b := by
        intro j b
        rw [hown j]
        exact fun hj => by cases hj
      refine ⟨⟨fun _ => ?_, fun j hj => absurd hj (hpoint j _),
        fun j hj => absurd hj (hpoint j _)⟩, fun i => ?_⟩
      · rw [hshared]
      · rw [hown i]
  | @step v v' hreach hstep ih =>
      refine ⟨ih.1.step (hboth hreach).1 hstep, fun i => ?_⟩
      cases hstep with
      | @move j dir' p' hact =>
          show (Function.update v.own j p' i).call = calls i
          by_cases heq : i = j
          · rw [heq, Function.update_self, hact.1]
            exact ih.2 j
          · rw [Function.update_of_ne heq]
            exact ih.2 i

end Output

-- ============================================================================
-- The text of a header
-- ============================================================================

section Header

variable {sha256 : List Byte → List Byte} {c c' : VersionCall} {data : List Byte}

/-- A header is a template that has a tag, with the version for its tags. -/
theorem header_eq_ok (h : c.header sha256 = .ok data) :
    ∃ template version, c.root.readTemplate = .ok template ∧ versionTag <:+: template ∧
      c.version sha256 = .ok version ∧
      data = utf8Bytes (replaceAll versionTag version.toList template) := by
  obtain ⟨template, htemplate, h⟩ := bind_eq_ok h
  refine ⟨template, ?_⟩
  split at h
  case isTrue htag =>
    split at h
    case h_1 version hversion =>
      cases h
      exact ⟨version, htemplate, htag, hversion, rfl⟩
    case h_2 => cases h
  case isFalse => cases h

/-- A version has no character of the tag. -/
theorem version_disjoint {version : String} (h : c.version sha256 = .ok version) :
    version.toList ≠ [] ∧ ∀ x ∈ version.toList, x ∉ versionTag := by
  obtain ⟨stream, -, h⟩ := bind_eq_ok h
  cases h
  have hlist : ("umd-" ++ hexdigest (sha256 stream)).toList =
      "umd-".toList ++ (hexdigest (sha256 stream)).toList := String.toList_append
  rw [hlist]
  refine ⟨fun hnil => (by cases hnil), fun x hx => ?_⟩
  have humd : "umd-".toList.all (fun x => !versionTag.contains x) = true := rfl
  have hdigit : ∀ i : Fin 16, Nat.digitChar i.val ∉ versionTag := by decide
  rcases List.mem_append.mp hx with hx | hx
  · simpa using List.all_eq_true.mp humd x hx
  · rw [hexdigest, String.toList_ofList] at hx
    obtain ⟨b, -, hx⟩ := List.mem_flatMap.mp hx
    have hb := b.isLt
    rcases List.mem_cons.mp hx with rfl | hx
    · exact hdigit ⟨b.toNat / 16, by omega⟩
    · rw [List.mem_singleton.mp hx]
      exact hdigit ⟨b.toNat % 16, by omega⟩

/-- No tag is left in a header. -/
theorem header_noTag (h : c.header sha256 = .ok data) :
    ∃ text, data = utf8Bytes text ∧ ¬versionTag <:+: text := by
  obtain ⟨template, version, -, -, hversion, rfl⟩ := header_eq_ok h
  obtain ⟨hne, hdisjoint⟩ := version_disjoint hversion
  exact ⟨_, rfl, not_infix_replaceAll (by decide) hne hdisjoint template⟩

end Header

-- ============================================================================
-- A build that changes nothing
-- ============================================================================

/-- A process that finds its header has no other operation before it. -/
def GeneratePoint.Idle (header : List Byte) : GeneratePoint → Prop
  | .preparing => True
  | .looking data | .comparing data => data = header
  | .creating _ | .writing _ _ _ | .replacing _ _ => False
  | .returned changed => changed = false
  | .raised _ left => left = none

def idleOutline (sha256 : List Byte → List Byte) (init : OutputDir) (header : List Byte) :
    Outline OutputDir GenerateProcess where
  shared dir := dir = init
  own _ p := p.call.header sha256 = .ok header ∧ p.point.Idle header
  apart _ _ := True

theorem idleOutline_sound {sha256 : List Byte → List Byte} {init : OutputDir} {header : List Byte}
    (hinit : init.output = some header) :
    (idleOutline sha256 init header).Sound (GenerateStep sha256) where
  symm _ := trivial
  step := by
    rintro dir p dir' p' hdir ⟨hheader, hidle⟩ h
    have hmove := h.move
    have hcall := h.1
    change dir = init at hdir
    subst hdir
    change dir' = dir ∧ p'.call.header sha256 = _ ∧ _
    rw [hcall]
    generalize p.point = point, p'.point = point' at hmove hidle ⊢
    cases hmove with
    | prepared data hdata => exact ⟨rfl, hheader, Except.ok.inj (hdata.symm.trans hheader)⟩
    | found => exact ⟨rfl, hheader, hidle⟩
    | rejected | same | lookingFailed | comparingFailed => exact ⟨rfl, hheader, rfl⟩
    | missing data hnone => cases hnone.symm.trans hinit
    | other data hother =>
        obtain rfl : data = header := hidle
        exact absurd hinit hother
    | created | wrote | closed | replaced | creatingFailed | writingFailed | replacingFailed =>
        exact hidle.elim
  others _ _ hother _ _ := ⟨hother, trivial⟩

-- ============================================================================
-- Every interleaving
-- ============================================================================

section Interleavings

variable {ι : Type} [DecidableEq ι] {sha256 : List Byte → List Byte} {init : OutputDir}
  {calls : ι → VersionCall} {w : Threads ι OutputDir GenerateProcess}

/-- When the output is everybody's header already, nothing is written. -/
theorem generate_idle {header : List Byte} (hinit : init.output = some header)
    (hcalls : ∀ i, (calls i).header sha256 = .ok header)
    (h : Reach (GenerateInitial calls init) (Threads.Step (GenerateStep sha256)) w) :
    w.shared = init ∧ ∀ i, (w.own i).point ≠ .returned true := by
  have hholds : (idleOutline sha256 init header).Holds w := by
    refine h.invariant _ ?_ fun _ _ hv hstep => hv.step (idleOutline_sound hinit) hstep
    rintro v ⟨hshared, hown⟩
    refine ⟨hshared, fun i => ?_, fun _ _ _ => trivial⟩
    rw [hown i]
    exact ⟨hcalls i, trivial⟩
  refine ⟨hholds.shared, fun i hi => ?_⟩
  have hidle := (hholds.own i).2
  rw [hi] at hidle
  cases hidle

/-- The output and the files beside it, at any moment. -/
structure HeaderPublished (sha256 : List Byte → List Byte) (calls : ι → VersionCall)
    (init : OutputDir) (w : Threads ι OutputDir GenerateProcess) : Prop where
  /-- the output is the one found, or the whole header of a process that has returned True -/
  output : w.shared.output = init.output ∧ (∀ j, (w.own j).point ≠ .returned true) ∨
    ∃ j data, (w.own j).point = .returned true ∧ (calls j).header sha256 = .ok data ∧
      w.shared.output = some data
  /-- once a process has returned, the output is the header of one that has -/
  returned : ∀ i b, (w.own i).point = .returned b → ∃ j b' data,
    (w.own j).point = .returned b' ∧ (calls j).header sha256 = .ok data ∧
      w.shared.output = some data
  /-- a header has no tag -/
  noTag : ∀ i data, (calls i).header sha256 = .ok data →
    ∃ text, data = utf8Bytes text ∧ ¬versionTag <:+: text
  /-- a file beside the output is as it was found, or new and still one process's own -/
  temporary : ∀ name, w.shared.temporary name ≠ init.temporary name →
    init.temporary name = none ∧
      ∃ i, (w.own i).point.holds = some name ∧ ∀ j, (w.own j).point.holds = some name → j = i
  /-- where the output is everybody's header already, nothing is touched -/
  idle : ∀ data, init.output = some data → (∀ i, (calls i).header sha256 = .ok data) →
    w.shared = init ∧ ∀ i, (w.own i).point ≠ .returned true

/-- However the operations of any number of `generate` calls interleave, and wherever
    some of them end early, the output is never a part of a header. -/
theorem generate_publishes
    (h : Reach (GenerateInitial calls init) (Threads.Step (GenerateStep sha256)) w) :
    HeaderPublished sha256 calls init w := by
  obtain ⟨⟨hO, hmet⟩, hfrom, hcalls⟩ := generate_reach h
  have hpublished : Published sha256 w → ∃ j data, (w.own j).point = .returned true ∧
      (calls j).header sha256 = .ok data ∧ w.shared.output = some data := by
    rintro ⟨j, data, hj, hdata, hout⟩
    exact ⟨j, data, hj, hcalls j ▸ hdata, hout⟩
  refine ⟨?_, fun i b hi => ?_, fun i data hdata => header_noTag hdata, fun name hname => ?_,
    fun data hinit hall => generate_idle hinit hall h⟩
  · by_cases hnone : ∀ j, (w.own j).point ≠ .returned true
    · exact .inl ⟨hfrom.untouched hnone, hnone⟩
    · obtain ⟨j, hj⟩ := not_forall.mp hnone
      exact .inr (hpublished (hfrom.published j (not_not.mp hj)))
  · have hlater : Published sha256 w → ∃ j b' data, (w.own j).point = .returned b' ∧
        (calls j).header sha256 = .ok data ∧ w.shared.output = some data := fun hp => by
      obtain ⟨j, data, hj⟩ := hpublished hp
      exact ⟨j, true, data, hj⟩
    cases b with
    | true => exact hlater (hfrom.published i hi)
    | false =>
        rcases hfrom.unchanged i hi with ⟨data, hdata, hout⟩ | hp
        · exact ⟨i, false, data, hi, hcalls i ▸ hdata, hout⟩
        · exact hlater hp
  · obtain ⟨i, hi⟩ := hmet name hname
    refine ⟨((hO.own i).2 name hi).1, i, hi, fun j hj => ?_⟩
    by_contra hne
    exact hO.apart j i hne name hj hi

end Interleavings

/-- The first build is stopped when its temporary file is still empty; the build after
    the edit goes on to the end. -/
theorem generate_publishes_stopped :
    ∃ (w : Threads Bool OutputDir GenerateProcess) (data data' : List Byte),
      Reach (GenerateInitial (fun i => if i then firstFixBuild else originalBuild)
        ⟨none, fun _ => none⟩) (Threads.Step (GenerateStep digestOf)) w ∧
      (w.own false).point = .writing data 0 0 ∧ w.shared.output = some data' ∧
      HeaderPublished digestOf (fun i => if i then firstFixBuild else originalBuild)
        ⟨none, fun _ => none⟩ w := by
  obtain ⟨stream, hstream, -⟩ := stream_originalBuild
  obtain ⟨stream', hstream', -⟩ := stream_firstFixBuild
  obtain ⟨data, hdata⟩ := header_testCall hstream
  obtain ⟨data', hdata'⟩ := header_testCall hstream'
  let calls : Bool → VersionCall := fun i => if i then firstFixBuild else originalBuild
  let own : Bool → GenerateProcess := fun i => ⟨calls i, .preparing⟩
  have hinit : Reach (GenerateInitial calls ⟨none, fun _ => none⟩)
      (Threads.Step (GenerateStep digestOf))
      ⟨⟨none, fun _ => none⟩, Function.update own false ⟨originalBuild, .preparing⟩⟩ := by
    have hown : Function.update own false ⟨originalBuild, .preparing⟩ = own :=
      Function.update_eq_self false own
    rw [hown]
    exact .init ⟨rfl, fun _ => rfl⟩
  have hprepared : generate digestOf originalBuild ⟨false, 0, 0⟩ ⟨none, fun _ => none⟩ .preparing =
      some (⟨none, fun _ => none⟩, .looking data) := by
    rw [generate, show originalBuild.header digestOf = .ok data from hdata]
  have hlooking := reach_operation hinit _ hprepared
  have hcreating := reach_operation hlooking ⟨false, 0, 0⟩ rfl
  have hwriting := reach_operation hcreating ⟨false, 0, 0⟩ rfl
  rw [← Function.update_eq_self true (Function.update own false _)] at hwriting
  have hname : ({ output := none, temporary := Function.update (fun _ => none) 0 (some []) } :
      OutputDir).temporary 1 = none := rfl
  obtain ⟨dir', b, hout, hreach⟩ := reach_returned hwriting hdata' hname
  exact ⟨_, data, data', hreach, rfl, hout, generate_publishes hreach⟩

end VirtioWddm
