/-
  VirtioWddm.Lib.TextReplace

  The replacement of all occurrences of a text in another one.

  Occurrences are taken from the left and do not overlap.  When the new text shares no
  character with the old one, no occurrence is left, not even across the borders of a
  replacement; and the old text, the result and the length of the new text determine the
  new one.
-/

import Mathlib.Data.List.Basic
import Mathlib.Data.List.Infix

namespace Lib

variable {α : Type}

/-- An occurrence in an appended text that has no character of the first part lies in
    the second one. -/
theorem infix_of_infix_append {p a b : List α} (hp : p ≠ []) (hdisjoint : ∀ x ∈ a, x ∉ p)
    (h : p <:+: a ++ b) : p <:+: b := by
  induction a with
  | nil => exact h
  | cons x a ih =>
      rcases List.infix_cons_iff.mp h with hprefix | hinfix
      · obtain ⟨y, rest, rfl⟩ := List.exists_cons_of_ne_nil hp
        obtain ⟨rfl, -⟩ := List.cons_prefix_cons.mp hprefix
        exact absurd List.mem_cons_self (hdisjoint y List.mem_cons_self)
      · exact ih (fun y hy => hdisjoint y (List.mem_cons_of_mem x hy)) hinfix

variable [DecidableEq α]

/-- The replacement in what is left of a text; the next `skip` characters belong to an
    occurrence that has been replaced. -/
def replaceFrom (old new : List α) : Nat → List α → List α
  | _, [] => []
  | skip + 1, _ :: s => replaceFrom old new skip s
  | 0, c :: s =>
      if old.isPrefixOf (c :: s) then new ++ replaceFrom old new (old.length - 1) s
      else c :: replaceFrom old new 0 s

/-- `s.replace(old, new)`, when `old` is not empty. -/
def replaceAll (old new s : List α) : List α :=
  replaceFrom old new 0 s

-- ============================================================================
-- The two cases
-- ============================================================================

section Cases

variable {old new new' s p : List α} {c : α}

theorem replaceFrom_skip (k : Nat) (s : List α) :
    replaceFrom old new k s = replaceAll old new (s.drop k) := by
  induction k generalizing s with
  | zero => rfl
  | succ k ih =>
      cases s with
      | nil => rfl
      | cons c s => exact ih s

theorem replaceAll_append (hold : old ≠ []) (s : List α) :
    replaceAll old new (old ++ s) = new ++ replaceAll old new s := by
  obtain ⟨c, rest, rfl⟩ := List.exists_cons_of_ne_nil hold
  have hprefix : (c :: rest).isPrefixOf (c :: (rest ++ s)) = true :=
    List.isPrefixOf_iff_prefix.mpr (List.prefix_append (c :: rest) s)
  rw [List.cons_append, replaceAll, replaceFrom, if_pos hprefix, replaceFrom_skip,
    List.length_cons, Nat.add_sub_cancel, List.drop_left]

theorem replaceAll_cons (h : ¬old <+: c :: s) :
    replaceAll old new (c :: s) = c :: replaceAll old new s := by
  have hprefix : ¬old.isPrefixOf (c :: s) = true := fun h' =>
    h (List.isPrefixOf_iff_prefix.mp h')
  rw [replaceAll, replaceFrom, if_neg hprefix]
  rfl

/-- The cases in which the text is taken apart. -/
theorem replace_induction {motive : List α → Prop} (hold : old ≠ []) (nil : motive [])
    (hit : ∀ s, motive s → motive (old ++ s))
    (miss : ∀ c s, ¬old <+: c :: s → motive s → motive (c :: s)) (s : List α) : motive s := by
  induction hlen : s.length using Nat.strongRecOn generalizing s with
  | ind n ih =>
      subst hlen
      by_cases hprefix : old <+: s
      · obtain ⟨rest, rfl⟩ := hprefix
        have hpos := List.length_pos_iff.mpr hold
        refine hit rest (ih rest.length ?_ rest rfl)
        rw [List.length_append]
        omega
      · cases s with
        | nil => exact nil
        | cons c s => exact miss c s hprefix (ih s.length (Nat.lt_succ_self _) s rfl)

end Cases

-- ============================================================================
-- What is left
-- ============================================================================

section Left

variable {old new new' s p : List α}

/-- What stands at the front of the result and has no character of the new text stood at
    the front of the text. -/
theorem prefix_of_prefix_replaceAll (hold : old ≠ []) (hnew : new ≠ [])
    (hp : ∀ x ∈ p, x ∉ new) (h : p <+: replaceAll old new s) : p <+: s := by
  induction s using replace_induction hold generalizing p with
  | nil => exact h
  | hit s _ =>
      cases p with
      | nil => exact List.nil_prefix
      | cons x p =>
          obtain ⟨y, rest, rfl⟩ := List.exists_cons_of_ne_nil hnew
          rw [replaceAll_append hold, List.cons_append] at h
          obtain ⟨rfl, -⟩ := List.cons_prefix_cons.mp h
          exact absurd List.mem_cons_self (hp x List.mem_cons_self)
  | miss c s hmiss ih =>
      rw [replaceAll_cons hmiss] at h
      cases p with
      | nil => exact List.nil_prefix
      | cons x p =>
          obtain ⟨rfl, htail⟩ := List.cons_prefix_cons.mp h
          exact List.cons_prefix_cons.mpr
            ⟨rfl, ih (fun y hy => hp y (List.mem_cons_of_mem x hy)) htail⟩

/-- No occurrence is left. -/
theorem not_infix_replaceAll (hold : old ≠ []) (hnew : new ≠ [])
    (hdisjoint : ∀ x ∈ new, x ∉ old) (s : List α) : ¬old <:+: replaceAll old new s := by
  induction s using replace_induction hold with
  | nil => exact fun h => hold (List.infix_nil.mp h)
  | hit s ih =>
      rw [replaceAll_append hold]
      exact fun h => ih (infix_of_infix_append hold hdisjoint h)
  | miss c s hmiss ih =>
      rw [replaceAll_cons hmiss]
      intro h
      rcases List.infix_cons_iff.mp h with hprefix | hinfix
      · rw [← replaceAll_cons hmiss] at hprefix
        have hold' : ∀ x ∈ old, x ∉ new := fun x hx hxnew => hdisjoint x hxnew hx
        exact hmiss (prefix_of_prefix_replaceAll hold hnew hold' hprefix)
      · exact ih hinfix

/-- The result determines the new text. -/
theorem replaceAll_inj (hold : old ≠ []) (hlen : new.length = new'.length) (hs : old <:+: s)
    (h : replaceAll old new s = replaceAll old new' s) : new = new' := by
  induction s using replace_induction hold with
  | nil => exact absurd (List.infix_nil.mp hs) hold
  | hit s _ =>
      rw [replaceAll_append hold, replaceAll_append hold] at h
      exact (List.append_inj h hlen).1
  | miss c s hmiss ih =>
      rw [replaceAll_cons hmiss, replaceAll_cons hmiss] at h
      rcases List.infix_cons_iff.mp hs with hprefix | hinfix
      · exact absurd hprefix hmiss
      · exact ih hinfix (List.cons.inj h).2

end Left

end Lib
