/-
  VirtioWddm.Lib.CellProgram

  Programs that load and store words which many threads share.

  A program is a tree: what it does next depends on the words it has loaded.  It is
  sound for a condition on the words if, as long as every word it loads meets the
  condition, it stores only words that do and ends with a right answer.  Sound programs
  stay right however their steps are interleaved, since no condition ties two words
  together.
-/

import VirtioWddm.Lib.Interleave

namespace Lib

/-- Programs over cells `κ` with words `ω` that end in an `α`. -/
inductive CellProgram (κ ω α : Type) where
  | done (a : α)
  | load (k : κ) (next : ω → CellProgram κ ω α)
  | store (k : κ) (w : ω) (next : CellProgram κ ω α)

namespace CellProgram

variable {κ ω α β γ : Type} {good : κ → ω → Prop} {post : α → Prop}

/-- One program and then another one. -/
def bind : CellProgram κ ω α → (α → CellProgram κ ω β) → CellProgram κ ω β
  | done a, f => f a
  | load k next, f => load k fun w => (next w).bind f
  | store k w next, f => store k w (next.bind f)

/-- The program by itself. -/
def run [DecidableEq κ] : CellProgram κ ω α → (κ → ω) → α × (κ → ω)
  | done a, cells => (a, cells)
  | load k next, cells => (next (cells k)).run cells
  | store k w next, cells => next.run (Function.update cells k w)

theorem run_bind [DecidableEq κ] (p : CellProgram κ ω α) (f : α → CellProgram κ ω β)
    (cells : κ → ω) : (p.bind f).run cells = (f (p.run cells).1).run (p.run cells).2 := by
  induction p generalizing cells with
  | done a => rfl
  | load k next ih => exact ih (cells k) cells
  | store k w next ih => exact ih (Function.update cells k w)

/-- As long as it loads good words it stores good words, and its answer is right. -/
def Sound (good : κ → ω → Prop) (post : α → Prop) : CellProgram κ ω α → Prop
  | done a => post a
  | load k next => ∀ w, good k w → (next w).Sound good post
  | store k w next => good k w ∧ next.Sound good post

theorem Sound.mono {p : CellProgram κ ω α} {post' : α → Prop} (hp : p.Sound good post)
    (hpost : ∀ a, post a → post' a) : p.Sound good post' := by
  induction p with
  | done a => exact hpost a hp
  | load k next ih => exact fun w hw => ih w (hp w hw)
  | store k w next ih => exact ⟨hp.1, ih hp.2⟩

theorem Sound.bind {p : CellProgram κ ω α} {f : α → CellProgram κ ω β} {post' : β → Prop}
    (hp : p.Sound good post) (hf : ∀ a, post a → (f a).Sound good post') :
    (p.bind f).Sound good post' := by
  induction p with
  | done a => exact hf a hp
  | load k next ih => exact fun w hw => ih w (hp w hw)
  | store k w next ih => exact ⟨hp.1, ih hp.2⟩

-- ============================================================================
-- Threads
-- ============================================================================

/-- A thread between two calls, or in one. -/
inductive Point (γ κ ω α : Type) where
  | idle
  | running (call : γ) (rest : CellProgram κ ω α)

/-- One load, one store, the start of a call or its end. -/
inductive Act [DecidableEq κ] (program : γ → CellProgram κ ω α) :
    (κ → ω) → Point γ κ ω α → (κ → ω) → Point γ κ ω α → Prop where
  | call (cells : κ → ω) (c : γ) : Act program cells .idle cells (.running c (program c))
  | load (cells : κ → ω) (c : γ) (k : κ) (next : ω → CellProgram κ ω α) :
      Act program cells (.running c (.load k next)) cells (.running c (next (cells k)))
  | store (cells : κ → ω) (c : γ) (k : κ) (w : ω) (next : CellProgram κ ω α) :
      Act program cells (.running c (.store k w next)) (Function.update cells k w)
        (.running c next)
  | ret (cells : κ → ω) (c : γ) (a : α) : Act program cells (.running c (.done a)) cells .idle

/-- All words are good, and what is left of every call is sound. -/
def outline (good : κ → ω → Prop) (post : γ → α → Prop) : Outline (κ → ω) (Point γ κ ω α) where
  shared cells := ∀ k, good k (cells k)
  own _ p := ∀ c rest, p = .running c rest → rest.Sound good (post c)
  apart _ _ := True

section Interleaved

variable [DecidableEq κ] {program : γ → CellProgram κ ω α} {post : γ → α → Prop}

theorem outline_sound (hprogram : ∀ c, (program c).Sound good (post c)) :
    (outline good post).Sound (Act program) where
  symm _ := trivial
  step := by
    intro cells p cells' p' hshared hown hact
    cases hact with
    | call c =>
        refine ⟨hshared, fun c' rest h => ?_⟩
        cases h
        exact hprogram c
    | load c k next =>
        refine ⟨hshared, fun c' rest h => ?_⟩
        cases h
        exact hown c _ rfl (cells k) (hshared k)
    | store c k w next =>
        obtain ⟨hgood, hnext⟩ := hown c _ rfl
        refine ⟨fun k' => ?_, fun c' rest h => ?_⟩
        · by_cases hk : k' = k
          · rw [hk, Function.update_self]
            exact hgood
          · rw [Function.update_of_ne hk]
            exact hshared k'
        · cases h
          exact hnext
    | ret c a => exact ⟨hshared, fun c' rest h => by cases h⟩
  others _ _ hother _ _ := ⟨hother, trivial⟩

/-- Over every interleaving of sound calls the words stay good, and every call that has
    come to its end has a right answer. -/
theorem interleaved {ι : Type} [DecidableEq ι] (hprogram : ∀ c, (program c).Sound good (post c))
    {init : κ → ω} (hinit : ∀ k, good k (init k)) {w : Threads ι (κ → ω) (Point γ κ ω α)}
    (h : Reach (fun w => w.shared = init ∧ ∀ i, w.own i = .idle)
      (Threads.Step (Act program)) w) :
    (∀ k, good k (w.shared k)) ∧ ∀ i c a, w.own i = .running c (.done a) → post c a := by
  have hholds : (outline good post).Holds w := by
    refine h.invariant _ ?_ fun _ _ hw hstep => hw.step (outline_sound hprogram) hstep
    rintro v ⟨hshared, hidle⟩
    refine ⟨?_, fun i c rest hrun => ?_, fun _ _ _ => trivial⟩
    · rw [hshared]
      exact hinit
    · cases (hidle i).symm.trans hrun
  exact ⟨hholds.shared, fun i c a hdone => hholds.own i c (.done a) hdone⟩

/-- A thread in front of a load takes it and goes on with `rest`. -/
theorem step_load {ι : Type} [DecidableEq ι] {w : Threads ι (κ → ω) (Point γ κ ω α)} {i : ι}
    {c : γ} {k : κ} {next : ω → CellProgram κ ω α} {rest : CellProgram κ ω α}
    (h : w.own i = .running c (.load k next)) (hrest : next (w.shared k) = rest) :
    Threads.Step (Act program) w ⟨w.shared, Function.update w.own i (.running c rest)⟩ := by
  have hact := (Act.load w.shared c k next : Act program _ _ _ _)
  rw [← h, hrest] at hact
  exact .move i hact

/-- A thread in front of a store takes it. -/
theorem step_store {ι : Type} [DecidableEq ι] {w : Threads ι (κ → ω) (Point γ κ ω α)} {i : ι}
    {c : γ} {k : κ} {word : ω} {next : CellProgram κ ω α}
    (h : w.own i = .running c (.store k word next)) :
    Threads.Step (Act program) w
      ⟨Function.update w.shared k word, Function.update w.own i (.running c next)⟩ := by
  have hact := (Act.store w.shared c k word next : Act program _ _ _ _)
  rw [← h] at hact
  exact .move i hact

/-- Nobody waits: from where it is, a call can come to its end by its own steps alone, as
    `run` says. -/
theorem reach_run {ι : Type} [DecidableEq ι]
    {init : Threads ι (κ → ω) (Point γ κ ω α) → Prop} {w : Threads ι (κ → ω) (Point γ κ ω α)}
    (h : Reach init (Threads.Step (Act program)) w) {i : ι} {c : γ} {p : CellProgram κ ω α}
    (hrun : w.own i = .running c p) :
    Reach init (Threads.Step (Act program))
      ⟨(p.run w.shared).2, Function.update w.own i (.running c (.done (p.run w.shared).1))⟩ := by
  induction p generalizing w with
  | done a =>
      show Reach init _ ⟨w.shared, Function.update w.own i (.running c (.done a))⟩
      rw [← hrun, Function.update_eq_self]
      exact h
  | load k next ih =>
      have hend := ih (w.shared k) (h.step (step_load hrun rfl)) (Function.update_self i _ w.own)
      rw [Function.update_idem] at hend
      exact hend
  | store k word next ih =>
      have hend := ih (h.step (step_store hrun)) (Function.update_self i _ w.own)
      rw [Function.update_idem] at hend
      exact hend

end Interleaved

end CellProgram

end Lib
