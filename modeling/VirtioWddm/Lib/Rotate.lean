/-
  VirtioWddm.Lib.Rotate

  A cyclic shift made in place by a chain of copies.

  Every place takes over the record of the next one and the last place takes over
  the record the first one had, which was saved before.  A `Split` says which part
  of a record moves and which part stays with its place; the moving parts, read
  along the list of places, are then rotated by one.
-/

import Mathlib.Data.List.Rotate
import Mathlib.GroupTheory.Perm.List
import Mathlib.Logic.Function.Iterate

namespace Lib

/-- A record with a part that stays (`own`), a part that moves (`ident`), and the
    assignment `take a b`: the record of `b` with `a`'s own part. -/
structure Split (ρ ο ι : Type*) where
  own : ρ → ο
  ident : ρ → ι
  take : ρ → ρ → ρ
  own_take : ∀ a b, own (take a b) = own a
  ident_take : ∀ a b, ident (take a b) = ident b
  ext : ∀ {a b}, own a = own b → ident a = ident b → a = b

/-- Records that move as a whole. -/
def Split.whole (ρ : Type*) : Split ρ Unit ρ where
  own _ := ()
  ident a := a
  take _ b := b
  own_take _ _ := rfl
  ident_take _ _ := rfl
  ext _ h := h

variable {κ ρ ο ι : Type*} [DecidableEq κ]

/-- The copy chain over `ks`; the last place takes over from `first`. -/
def shiftFrom (take : ρ → ρ → ρ) (first : ρ) : List κ → (κ → ρ) → κ → ρ
  | [], m => m
  | [k], m => Function.update m k (take (m k) first)
  | k :: k' :: ks, m =>
      shiftFrom take first (k' :: ks) (Function.update m k (take (m k) (m k')))

/-- The cyclic shift along `ks`: save the first record, then run the chain. -/
def shift (take : ρ → ρ → ρ) : List κ → (κ → ρ) → κ → ρ
  | [], m => m
  | k :: ks, m => shiftFrom take (m k) (k :: ks) m

-- ============================================================================
-- What stays
-- ============================================================================

theorem shiftFrom_of_not_mem {take : ρ → ρ → ρ} {first : ρ} {ks : List κ} {m : κ → ρ} {k : κ}
    (h : k ∉ ks) : shiftFrom take first ks m k = m k := by
  induction ks generalizing m with
  | nil => rfl
  | cons k₀ ks ih =>
      obtain ⟨hne, hks⟩ := List.ne_and_not_mem_of_not_mem_cons h
      cases ks with
      | nil => exact Function.update_of_ne hne ..
      | cons k₁ ks => exact (ih hks).trans (Function.update_of_ne hne ..)

/-- Places outside the list are untouched. -/
theorem shift_of_not_mem {take : ρ → ρ → ρ} {ks : List κ} {m : κ → ρ} {k : κ} (h : k ∉ ks) :
    shift take ks m k = m k := by
  cases ks with
  | nil => rfl
  | cons k₀ ks => exact shiftFrom_of_not_mem h

namespace Split

variable (S : Split ρ ο ι)

theorem own_update (m : κ → ρ) (k k' : κ) (b : ρ) :
    S.own (Function.update m k' (S.take (m k') b) k) = S.own (m k) := by
  by_cases h : k = k'
  · subst h
    rw [Function.update_self, S.own_take]
  · rw [Function.update_of_ne h]

theorem own_shiftFrom (first : ρ) (ks : List κ) (m : κ → ρ) (k : κ) :
    S.own (shiftFrom S.take first ks m k) = S.own (m k) := by
  induction ks generalizing m with
  | nil => rfl
  | cons k₀ ks ih =>
      cases ks with
      | nil => exact S.own_update ..
      | cons k₁ ks => exact (ih _).trans (S.own_update ..)

/-- Every place keeps its own part, whatever the list. -/
theorem own_shift (ks : List κ) (m : κ → ρ) (k : κ) :
    S.own (shift S.take ks m k) = S.own (m k) := by
  cases ks with
  | nil => rfl
  | cons k₀ ks => exact S.own_shiftFrom ..

-- ============================================================================
-- What moves
-- ============================================================================

theorem ident_shiftFrom {first : ρ} {k : κ} {ks : List κ} {m : κ → ρ} (h : (k :: ks).Nodup) :
    (k :: ks).map (fun j => S.ident (shiftFrom S.take first (k :: ks) m j)) =
      ks.map (fun j => S.ident (m j)) ++ [S.ident first] := by
  induction ks generalizing k m with
  | nil => simp [shiftFrom, S.ident_take]
  | cons k' ks ih =>
      obtain ⟨hk, hks⟩ := List.nodup_cons.mp h
      -- the rest of the chain neither reads nor writes the first place again
      have hhead : shiftFrom S.take first (k :: k' :: ks) m k = S.take (m k) (m k') := by
        rw [shiftFrom, shiftFrom_of_not_mem hk, Function.update_self]
      have htail : ks.map (fun j => S.ident (Function.update m k (S.take (m k) (m k')) j)) =
          ks.map fun j => S.ident (m j) := by
        refine List.map_congr_left fun j hj => ?_
        rw [Function.update_of_ne]
        rintro rfl
        exact hk (List.mem_cons_of_mem _ hj)
      rw [List.map_cons, hhead, S.ident_take]
      show S.ident (m k') :: (k' :: ks).map (fun j => S.ident
          (shiftFrom S.take first (k' :: ks) (Function.update m k (S.take (m k) (m k'))) j)) =
        S.ident (m k') :: (ks.map (fun j => S.ident (m j)) ++ [S.ident first])
      rw [ih hks, htail]

/-- The moving parts along the list are rotated by one. -/
theorem ident_shift {ks : List κ} (h : ks.Nodup) (m : κ → ρ) :
    ks.map (fun k => S.ident (shift S.take ks m k)) =
      (ks.map fun k => S.ident (m k)).rotate 1 := by
  cases ks with
  | nil => rfl
  | cons k ks =>
      have hrotate : ((k :: ks).map fun j => S.ident (m j)).rotate 1 =
          ks.map (fun j => S.ident (m j)) ++ [S.ident (m k)] := by
        rw [List.map_cons, List.rotate_cons_succ, List.rotate_zero]
      exact (S.ident_shiftFrom h).trans hrotate.symm

theorem ident_shift_getElem {ks : List κ} (h : ks.Nodup) (m : κ → ρ) {i : Nat}
    (hi : i < ks.length) (hnext : (i + 1) % ks.length < ks.length) :
    S.ident (shift S.take ks m ks[i]) = S.ident (m ks[(i + 1) % ks.length]) := by
  have hlist := congrArg (fun l => l[i]?) (S.ident_shift h m)
  have hlen : i < ((ks.map fun k => S.ident (m k)).rotate 1).length := by simpa using hi
  simp only [List.getElem?_map, List.getElem?_eq_getElem hi, List.getElem?_eq_getElem hlen,
    Option.map_some, List.getElem_rotate, List.length_map, List.getElem_map] at hlist
  exact Option.some.inj hlist

/-- The cyclic permutation `formPerm` of the list says which record a place takes
    over. -/
theorem shift_eq_formPerm {ks : List κ} (h : ks.Nodup) (m : κ → ρ) (k : κ) :
    shift S.take ks m k = S.take (m k) (m (ks.formPerm k)) := by
  by_cases hk : k ∈ ks
  · obtain ⟨i, hi, rfl⟩ := List.getElem_of_mem hk
    have hnext : (i + 1) % ks.length < ks.length := Nat.mod_lt _ (by omega)
    rw [List.formPerm_apply_getElem ks h i hi]
    refine S.ext ?_ ?_
    · rw [S.own_shift, S.own_take]
    · rw [S.ident_shift_getElem h m hi hnext, S.ident_take]
  · rw [shift_of_not_mem hk, List.formPerm_apply_of_notMem hk]
    exact (S.ext (S.own_take ..) (S.ident_take ..)).symm

theorem ident_shift_iterate {ks : List κ} (h : ks.Nodup) (m : κ → ρ) (n : Nat) :
    ks.map (fun k => S.ident ((shift S.take ks)^[n] m k)) =
      (ks.map fun k => S.ident (m k)).rotate n := by
  induction n with
  | zero => simp
  | succ n ih => rw [Function.iterate_succ_apply', S.ident_shift h, ih, List.rotate_rotate]

theorem own_shift_iterate (ks : List κ) (m : κ → ρ) (n : Nat) (k : κ) :
    S.own ((shift S.take ks)^[n] m k) = S.own (m k) := by
  induction n with
  | zero => rfl
  | succ n ih => rw [Function.iterate_succ_apply', S.own_shift, ih]

theorem shift_iterate_of_not_mem {ks : List κ} {m : κ → ρ} {k : κ} (h : k ∉ ks) (n : Nat) :
    (shift S.take ks)^[n] m k = m k := by
  induction n with
  | zero => rfl
  | succ n ih => rw [Function.iterate_succ_apply', shift_of_not_mem h, ih]

/-- Where the places of the list have a property, following the list keeps it. -/
theorem formPerm_iff {alive : κ → Prop} {ks : List κ} (hks : ∀ k ∈ ks, alive k) (k : κ) :
    alive (ks.formPerm k) ↔ alive k := by
  by_cases hk : k ∈ ks
  · exact iff_of_true (hks _ (List.formPerm_apply_mem_of_mem hk)) (hks k hk)
  · rw [List.formPerm_apply_of_notMem hk]

/-- As many shifts as there are places restore every record. -/
theorem shift_iterate_length {ks : List κ} (h : ks.Nodup) (m : κ → ρ) :
    (shift S.take ks)^[ks.length] m = m := by
  have hlist : ks.map (fun k => S.ident ((shift S.take ks)^[ks.length] m k)) =
      ks.map fun k => S.ident (m k) := by
    have hrotate := (ks.map fun k => S.ident (m k)).rotate_length
    rw [List.length_map] at hrotate
    rw [S.ident_shift_iterate h, hrotate]
  funext k
  by_cases hk : k ∈ ks
  · exact S.ext (S.own_shift_iterate ..) (List.map_inj_left.mp hlist k hk)
  · exact S.shift_iterate_of_not_mem hk _

end Split

end Lib
