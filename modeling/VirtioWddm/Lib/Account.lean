/-
  VirtioWddm.Lib.Account

  Words of acquisitions and releases, counted.

  The same object may be acquired several times (a reference taken again, a handle
  value used again), so a word is judged by counts: a release must find the object
  acquired more often than released, and a settled word has released everything as
  often as it acquired it.  `replay` keeps the bag of what is held and is how both
  are checked.  Where the held objects are known at every step, `Balanced` says that
  they are what the word leaves, and `Trades` what a part of a word does to them.
  `OrderedBy` is about the order of releases.
-/

import Mathlib.Data.List.Count
import Mathlib.Tactic.Common

namespace Lib

/-- One step of an account over objects of type `ο`. -/
inductive Action (ο : Type) where
  | acquire (object : ο)
  | release (object : ο)
deriving DecidableEq

namespace Action

variable {ο : Type}

/-- The object a step releases. -/
def released : Action ο → Option ο
  | .acquire _ => none
  | .release o => some o

@[simp] theorem filterMap_released_acquire (o : ο) (word : List (Action ο)) :
    (.acquire o :: word).filterMap released = word.filterMap released := rfl

@[simp] theorem filterMap_released_release (o : ο) (word : List (Action ο)) :
    (.release o :: word).filterMap released = o :: word.filterMap released := rfl

variable [DecidableEq ο]

/-- Every release finds its object held. -/
def NeverAbsent (word : List (Action ο)) : Prop :=
  ∀ pre o post, word = pre ++ .release o :: post → pre.count (.release o) < pre.count (.acquire o)

/-- Every object was released as often as it was acquired. -/
def Settled (word : List (Action ο)) : Prop :=
  ∀ o, word.count (.release o) = word.count (.acquire o)

/-- Replay a word on what is held; `none` when something absent is released. -/
def replay : List ο → List (Action ο) → Option (List ο)
  | held, [] => some held
  | held, .acquire o :: word => replay (o :: held) word
  | held, .release o :: word => if o ∈ held then replay (held.erase o) word else none

theorem replay_append (held : List ο) (word₁ word₂ : List (Action ο)) :
    replay held (word₁ ++ word₂) = (replay held word₁).bind fun held' => replay held' word₂ := by
  induction word₁ generalizing held with
  | nil => rfl
  | cons a word ih =>
      cases a with
      | acquire o => exact ih _
      | release o =>
          rw [List.cons_append, replay, replay]
          split
          · exact ih _
          · rfl

/-- The balance of one object over a word that can be replayed. -/
theorem replay_count {held held' : List ο} {word : List (Action ο)}
    (h : replay held word = some held') (o : ο) :
    held.count o + word.count (.acquire o) = held'.count o + word.count (.release o) := by
  induction word generalizing held with
  | nil =>
      cases h
      simp
  | cons a word ih =>
      cases a with
      | acquire o' =>
          have hrec := ih h
          rw [List.count_cons] at hrec
          simp only [List.count_cons, beq_iff_eq, Action.acquire.injEq, reduceCtorEq, if_false]
            at hrec ⊢
          omega
      | release o' =>
          rw [replay] at h
          split at h
          case isFalse hno => cases h
          case isTrue hmem =>
            have hrec := ih h
            have hpos : 0 < held.count o' := List.count_pos_iff.mpr hmem
            rw [List.count_erase] at hrec
            simp only [List.count_cons, beq_iff_eq, Action.release.injEq, reduceCtorEq, if_false]
              at hrec ⊢
            by_cases heq : o' = o
            · subst heq
              simp only [if_true] at hrec ⊢
              omega
            · simp only [if_neg heq] at hrec ⊢
              omega

/-- A word that can be replayed from nothing never releases what is absent. -/
theorem neverAbsent_of_replay {held : List ο} {word : List (Action ο)}
    (h : replay [] word = some held) : NeverAbsent word := by
  rintro pre o post rfl
  rw [replay_append] at h
  obtain ⟨mid, hpre, hrest⟩ := Option.bind_eq_some_iff.mp h
  have hbalance := replay_count hpre o
  rw [replay] at hrest
  split at hrest
  case isFalse hno => cases hrest
  case isTrue hmem =>
    have hpos : 0 < mid.count o := List.count_pos_iff.mpr hmem
    rw [List.count_nil] at hbalance
    omega

/-- And when nothing is left, it is settled. -/
theorem settled_of_replay {word : List (Action ο)} (h : replay [] word = some []) :
    Settled word := by
  intro o
  have hbalance := replay_count h o
  rw [List.count_nil] at hbalance
  omega

-- ============================================================================
-- Words with what they leave
-- ============================================================================

/-- `held o` is how often the word leaves `o` acquired. -/
structure Balanced (word : List (Action ο)) (held : ο → Nat) : Prop where
  neverAbsent : NeverAbsent word
  count : ∀ o, word.count (.acquire o) = word.count (.release o) + held o

/-- The last step of a word that ends with a release. -/
theorem neverAbsent_concat {word : List (Action ο)} {a : Action ο} (h : NeverAbsent word)
    (ha : ∀ o, a = .release o → word.count (.release o) < word.count (.acquire o)) :
    NeverAbsent (word ++ [a]) := by
  intro pre o post heq
  rcases List.eq_nil_or_concat post with rfl | ⟨post', b, rfl⟩
  · obtain ⟨rfl, hlast⟩ := List.append_inj' heq rfl
    exact ha o (List.singleton_inj.mp hlast)
  · rw [List.concat_eq_append, ← List.cons_append, ← List.append_assoc] at heq
    obtain ⟨hword, -⟩ := List.append_inj' heq rfl
    exact h pre o post' hword

theorem Balanced.nil : Balanced ([] : List (Action ο)) fun _ => 0 := by
  refine ⟨?_, fun _ => rfl⟩
  intro pre o post heq
  cases pre with
  | nil => cases heq
  | cons => cases heq

section Steps

variable {word : List (Action ο)} {held held' : ο → Nat} {o : ο}

theorem count_concat (word : List (Action ο)) (a b : Action ο) :
    (word ++ [a]).count b = word.count b + if b = a then 1 else 0 := by
  rw [List.count_append, List.count_singleton]
  by_cases h : b = a
  · rw [if_pos h, if_pos (beq_iff_eq.mpr h.symm)]
  · rw [if_neg h, if_neg fun heq => h (beq_iff_eq.mp heq).symm]

/-- One more of `o` is held. -/
theorem Balanced.acquire (h : Balanced word held)
    (hheld : ∀ o', held' o' = held o' + if o' = o then 1 else 0) :
    Balanced (word ++ [.acquire o]) held' := by
  refine ⟨neverAbsent_concat h.neverAbsent (fun o' heq => by cases heq), fun o' => ?_⟩
  rw [count_concat, count_concat, h.count, hheld]
  simp only [Action.acquire.injEq, reduceCtorEq, if_false]
  omega

/-- One of `o` is given back. -/
theorem Balanced.release (h : Balanced word held)
    (hheld : ∀ o', held o' = held' o' + if o' = o then 1 else 0) :
    Balanced (word ++ [.release o]) held' := by
  have hpos : 0 < held o := by
    have hnew := hheld o
    rw [if_pos rfl] at hnew
    omega
  refine ⟨neverAbsent_concat h.neverAbsent ?_, fun o' => ?_⟩
  · intro o' heq
    cases heq
    have hcount := h.count o
    omega
  · rw [count_concat, count_concat, h.count, hheld]
    simp only [Action.release.injEq, reduceCtorEq, if_false]
    omega

/-- What was never acquired is not held. -/
theorem Balanced.held_eq_zero (h : Balanced word held) (hnew : .acquire o ∉ word) :
    held o = 0 := by
  have hcount := h.count o
  rw [List.count_eq_zero_of_not_mem hnew] at hcount
  omega

/-- When nothing is held, the word is settled. -/
theorem Balanced.settled (h : Balanced word held) (hzero : ∀ o, held o = 0) : Settled word := by
  intro o
  have hcount := h.count o
  have hnone := hzero o
  omega

end Steps

-- ============================================================================
-- Words that trade
-- ============================================================================

/-- The word turns what is held from `before` into `after`, whatever else is held. -/
def Trades (word : List (Action ο)) (before after : List ο) : Prop :=
  ∀ (past : List (Action ο)) (rest : List ο), Balanced past (fun o => (before ++ rest).count o) →
    Balanced (past ++ word) fun o => (after ++ rest).count o

namespace Trades

variable {word word' : List (Action ο)} {before mid after : List ο}

theorem nil (held : List ο) : Trades [] held held := by
  intro past rest h
  rw [List.append_nil]
  exact h

theorem append (h : Trades word before mid) (h' : Trades word' mid after) :
    Trades (word ++ word') before after := by
  intro past rest hpast
  rw [← List.append_assoc]
  exact h' (past ++ word) rest (h past rest hpast)

theorem count_cons_if (o o' : ο) (held : List ο) :
    (o :: held).count o' = held.count o' + if o' = o then 1 else 0 := by
  rw [List.count_cons]
  by_cases heq : o' = o
  · rw [if_pos heq, if_pos (beq_iff_eq.mpr heq.symm)]
  · rw [if_neg heq, if_neg fun hbeq => heq (beq_iff_eq.mp hbeq).symm]

theorem acquire (o : ο) (held : List ο) : Trades [.acquire o] held (o :: held) :=
  fun _ rest h => h.acquire fun o' => count_cons_if o o' (held ++ rest)

theorem release (o : ο) (held : List ο) : Trades [.release o] (o :: held) held :=
  fun _ rest h => h.release fun o' => count_cons_if o o' (held ++ rest)

/-- The order of what is held does not matter. -/
theorem perm (h : Trades word before after) {before' after' : List ο}
    (hbefore : before'.Perm before) (hafter : after.Perm after') : Trades word before' after' := by
  intro past rest hpast
  have hcount : ∀ o, (before' ++ rest).count o = (before ++ rest).count o := fun o =>
    (hbefore.append_right rest).count_eq o
  have hcount' : ∀ o, (after ++ rest).count o = (after' ++ rest).count o := fun o =>
    (hafter.append_right rest).count_eq o
  simp only [hcount] at hpast
  have hword := h past rest hpast
  simp only [hcount'] at hword
  exact hword

/-- What else is held stays. -/
theorem frame (h : Trades word before after) (others : List ο) :
    Trades word (before ++ others) (after ++ others) := by
  intro past rest hpast
  simp only [List.append_assoc] at hpast ⊢
  exact h past (others ++ rest) hpast

/-- Everything is given back, in any order. -/
theorem releaseAll (held : List ο) : Trades (held.map .release) held [] := by
  induction held with
  | nil => exact nil []
  | cons o held ih => exact (release o held).append ih

/-- A word that trades, behind a balanced one. -/
theorem balanced (h : Trades word before after) {past : List (Action ο)}
    (hpast : Balanced past fun o => before.count o) :
    Balanced (past ++ word) fun o => after.count o := by
  have hword := h past [] (by simpa only [List.append_nil] using hpast)
  simpa only [List.append_nil] using hword

end Trades

-- ============================================================================
-- The order of releases
-- ============================================================================

/-- The object of a step. -/
def object : Action ο → ο
  | .acquire o => o
  | .release o => o

/-- After the release of an object, nothing of a smaller rank is acquired or released. -/
def OrderedBy (rank : ο → Nat) (word : List (Action ο)) : Prop :=
  word.Pairwise fun a b => ∀ o, a = .release o → rank o ≤ rank b.object

omit [DecidableEq ο] in
theorem OrderedBy.concat {rank : ο → Nat} {word : List (Action ο)} {a : Action ο}
    (h : OrderedBy rank word) (ha : ∀ o, .release o ∈ word → rank o ≤ rank a.object) :
    OrderedBy rank (word ++ [a]) := by
  refine List.pairwise_append.mpr ⟨h, List.pairwise_singleton _ a, ?_⟩
  intro b hb c hc o heq
  rw [List.mem_singleton.mp hc]
  exact ha o (heq ▸ hb)

end Action

end Lib
