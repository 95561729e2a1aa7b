/-
  VirtioWddm.Lib.SlotTable

  Tables of numbered slots, and the calls that write ranges of them.

  A call gathers its values in an array of fixed length and hands it over with a count.
  `gather` is that loop, where a write behind the array is an error.  A table is written
  in a range, with the other slots kept or cleared; the second is what a caller who
  names every slot it wants cleared asks for.
-/

namespace Lib

variable {α : Type} {k : Nat}

-- ============================================================================
-- Gathering
-- ============================================================================

/-- `for (i = 0; i < n; ++i) out[i] = a(i);`; `none` is a write behind the array. -/
def gather (a : Nat → α) : Nat → List α → Option (List α)
  | 0, out => some out
  | n + 1, out => do
      let out ← gather a n out
      if n < out.length then some (out.set n (a n)) else none

/-- A count that fits the array: every element below it has been written. -/
theorem gather_fits (a : Nat → α) {n : Nat} {out : List α} (hfits : n ≤ out.length) :
    ∃ out', gather a n out = some out' ∧ out'.length = out.length ∧
      ∀ i < n, out'[i]? = some (a i) := by
  induction n with
  | zero => exact ⟨out, rfl, rfl, fun i hi => absurd hi (Nat.not_lt_zero i)⟩
  | succ n ih =>
      obtain ⟨out', hrun, hlen, hwritten⟩ := ih (by omega)
      have hlt : n < out'.length := by omega
      refine ⟨out'.set n (a n), ?_, ?_, fun i hi => ?_⟩
      · rw [gather, hrun]
        exact if_pos hlt
      · rw [List.length_set, hlen]
      · rw [List.getElem?_set]
        by_cases heq : n = i
        · subst heq
          rw [if_pos rfl, if_pos hlt]
        · rw [if_neg heq]
          exact hwritten i (by omega)

/-- The array as its initialiser leaves it. -/
theorem gather_replicate (a : Nat → α) (x : α) {n cap : Nat} (hfits : n ≤ cap) :
    ∃ out', gather a n (List.replicate cap x) = some out' ∧ ∀ i < n, out'[i]? = some (a i) := by
  have hlen : n ≤ (List.replicate cap x).length := by
    rw [List.length_replicate]
    exact hfits
  obtain ⟨out', hrun, -, hwritten⟩ := gather_fits a hlen
  exact ⟨out', hrun, hwritten⟩

-- ============================================================================
-- Tables
-- ============================================================================

/-- `a[0 .. n]` in the slots from `start` on; those past the last slot are dropped. -/
def writeSlots (start n : Nat) (a : Nat → Option α) (slots : Fin k → Option α) :
    Fin k → Option α :=
  fun slot =>
    if start ≤ slot.val ∧ slot.val < start + n then a (slot.val - start) else slots slot

/-- `a[0 .. n]` in the slots from `start` on, and nothing in the others. -/
def replaceSlots (start n : Nat) (a : Nat → Option α) : Fin k → Option α :=
  writeSlots start n a fun _ => none

/-- `a[0 .. n]` in the first slots, nothing in the `clear` slots behind them. -/
def writeAndClear (n clear : Nat) (a : Nat → Option α) (slots : Fin k → Option α) :
    Fin k → Option α :=
  writeSlots 0 n a (writeSlots n clear (fun _ => none) slots)

/-- Only the values below the count matter. -/
theorem writeSlots_congr {start n : Nat} {a a' : Nat → Option α} (h : ∀ i < n, a i = a' i)
    (slots : Fin k → Option α) : writeSlots start n a slots = writeSlots start n a' slots := by
  funext slot
  rw [writeSlots, writeSlots]
  by_cases hin : start ≤ slot.val ∧ slot.val < start + n
  · rw [if_pos hin, if_pos hin]
    exact h _ (by omega)
  · rw [if_neg hin, if_neg hin]

theorem writeSlots_inside {start n : Nat} (a : Nat → Option α) (slots : Fin k → Option α)
    {slot : Fin k} (hstart : start ≤ slot.val) (hend : slot.val < start + n) :
    writeSlots start n a slots slot = a (slot.val - start) :=
  if_pos ⟨hstart, hend⟩

/-- Nothing but the range is written. -/
theorem writeSlots_outside {start n : Nat} (a : Nat → Option α) (slots : Fin k → Option α)
    {slot : Fin k} (h : slot.val < start ∨ start + n ≤ slot.val) :
    writeSlots start n a slots slot = slots slot :=
  if_neg (by omega)

/-- Every slot keeps what it holds or gets an element of the array. -/
theorem writeSlots_or (start n : Nat) (a : Nat → Option α) (slots : Fin k → Option α)
    (slot : Fin k) :
    writeSlots start n a slots slot = slots slot ∨
      ∃ i < n, writeSlots start n a slots slot = a i := by
  by_cases hin : start ≤ slot.val ∧ slot.val < start + n
  · exact .inr ⟨slot.val - start, by omega, writeSlots_inside a slots hin.1 hin.2⟩
  · exact .inl (writeSlots_outside a slots (by omega))

/-- Two tables that are related slot by slot stay so when related arrays are written. -/
theorem writeSlots_related {β : Type} {R : Option α → Option β → Prop} {start n : Nat}
    {a : Nat → Option α} {a' : Nat → Option β} {slots : Fin k → Option α}
    {slots' : Fin k → Option β} (hslots : ∀ slot, R (slots slot) (slots' slot))
    (ha : ∀ i < n, R (a i) (a' i)) (slot : Fin k) :
    R (writeSlots start n a slots slot) (writeSlots start n a' slots' slot) := by
  by_cases hin : start ≤ slot.val ∧ slot.val < start + n
  · rw [writeSlots_inside _ _ hin.1 hin.2, writeSlots_inside _ _ hin.1 hin.2]
    exact ha _ (by omega)
  · rw [writeSlots_outside _ _ (by omega), writeSlots_outside _ _ (by omega)]
    exact hslots slot

/-- Whoever clears every slot that is in use behind the new ones leaves the table as if
    all others had been cleared. -/
theorem writeAndClear_eq_replace {n clear : Nat} (a : Nat → Option α) {slots : Fin k → Option α}
    (hnamed : ∀ slot : Fin k, n + clear ≤ slot.val → slots slot = none) :
    writeAndClear n clear a slots = replaceSlots 0 n a := by
  funext slot
  rw [writeAndClear, replaceSlots]
  by_cases hnew : slot.val < n
  · rw [writeSlots_inside _ _ (Nat.zero_le _) (by omega),
      writeSlots_inside _ _ (Nat.zero_le _) (by omega)]
  · have hright : writeSlots 0 n a (fun _ => none) slot = none :=
      writeSlots_outside a _ (by omega)
    rw [hright, writeSlots_outside a _ (by omega)]
    by_cases hcleared : slot.val < n + clear
    · rw [writeSlots_inside _ _ (by omega) hcleared]
    · rw [writeSlots_outside _ _ (by omega)]
      exact hnamed slot (by omega)

end Lib
