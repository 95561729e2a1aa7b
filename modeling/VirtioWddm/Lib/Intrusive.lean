/-
  VirtioWddm.Lib.Intrusive

  Intrusive lists whose nodes point back at the pointer cell that points to them.

  `Chain L c xs` says that the list starting at cell `c` runs through `xs`, with
  every back pointer in place.  The back pointers alone make chains from list
  heads free of repetitions and disjoint from each other (`Chain.place_unique`),
  so an invariant over all lists is nothing but a chain for each head.

  `push` and `unlink` are the two edits; `Linked.push` and `Linked.unlink` say
  what they do to all lists at once.
-/

import Mathlib.Data.List.Induction
import Mathlib.Data.List.Nodup
import Mathlib.Logic.Function.Basic

namespace Lib

/-- A pointer cell: the head of an owner's list, or the `next` field of a node. -/
inductive Cell (ρ ν : Type*) where
  | head (r : ρ)
  | next (v : ν)
deriving DecidableEq

/-- The pointers of all lists of owners `ρ` through nodes `ν`. -/
structure Links (ρ ν : Type*) where
  head : ρ → Option ν
  next : ν → Option ν
  prev : ν → Option (Cell ρ ν)

variable {ρ ν : Type*}

namespace Links

/-- The pointer in a cell. -/
def read (L : Links ρ ν) : Cell ρ ν → Option ν
  | .head r => L.head r
  | .next v => L.next v

section Edit

variable [DecidableEq ν]

def setNext (L : Links ρ ν) (v : ν) (p : Option ν) : Links ρ ν :=
  { L with next := Function.update L.next v p }

def setPrev (L : Links ρ ν) (v : ν) (p : Option (Cell ρ ν)) : Links ρ ν :=
  { L with prev := Function.update L.prev v p }

/-- Set the back pointer of the node a cell points to, if it points to one. -/
def setPrevOf (L : Links ρ ν) (node : Option ν) (p : Option (Cell ρ ν)) : Links ρ ν :=
  match node with
  | none => L
  | some w => L.setPrev w p

@[simp] theorem read_setPrevOf (L : Links ρ ν) (node : Option ν) (p : Option (Cell ρ ν))
    (c : Cell ρ ν) : (L.setPrevOf node p).read c = L.read c := by
  cases node <;> cases c <;> rfl

theorem prev_setPrevOf (L : Links ρ ν) (node : Option ν) (p : Option (Cell ρ ν)) (u : ν) :
    (L.setPrevOf node p).prev u = if node = some u then p else L.prev u := by
  cases node with
  | none => simp [setPrevOf]
  | some w => simp [setPrevOf, setPrev, Function.update_apply, eq_comm]

@[simp] theorem read_setPrev (L : Links ρ ν) (v : ν) (p : Option (Cell ρ ν)) (c : Cell ρ ν) :
    (L.setPrev v p).read c = L.read c := by
  cases c <;> rfl

theorem prev_setPrev (L : Links ρ ν) (v u : ν) (p : Option (Cell ρ ν)) :
    (L.setPrev v p).prev u = if u = v then p else L.prev u := by
  simp [setPrev, Function.update_apply]

end Edit

variable [DecidableEq ρ] [DecidableEq ν]

/-- Store a pointer in a cell. -/
def write (L : Links ρ ν) (c : Cell ρ ν) (p : Option ν) : Links ρ ν :=
  match c with
  | .head r => { L with head := Function.update L.head r p }
  | .next v => L.setNext v p

/-- Put a node at the front of an owner's list. -/
def push (L : Links ρ ν) (r : ρ) (v : ν) : Links ρ ν :=
  let L := (L.setNext v (L.head r)).setPrev v (some (.head r))
  let L := L.setPrevOf (L.head r) (some (.next v))
  L.write (.head r) (some v)

/-- Take a node out of the list it is in, if any. -/
def unlink (L : Links ρ ν) (v : ν) : Links ρ ν :=
  match L.prev v with
  | none => L
  | some c =>
      let L := L.write c (L.next v)
      let L := L.setPrevOf (L.next v) (L.prev v)
      (L.setNext v none).setPrev v none

-- ============================================================================
-- Pointers after an edit
-- ============================================================================

theorem read_write (L : Links ρ ν) (c c' : Cell ρ ν) (p : Option ν) :
    (L.write c p).read c' = if c' = c then p else L.read c' := by
  cases c <;> cases c' <;> simp [write, setNext, read, Function.update_apply]

@[simp] theorem prev_write (L : Links ρ ν) (c : Cell ρ ν) (p : Option ν) :
    (L.write c p).prev = L.prev := by
  cases c <;> rfl

theorem read_setNext (L : Links ρ ν) (v : ν) (p : Option ν) (c : Cell ρ ν) :
    (L.setNext v p).read c = if c = .next v then p else L.read c :=
  L.read_write (.next v) c p

theorem read_push (L : Links ρ ν) (r : ρ) (v : ν) (c : Cell ρ ν) :
    (L.push r v).read c =
      if c = .head r then some v else if c = .next v then L.head r else L.read c := by
  simp only [push, read_write, read_setPrevOf, read_setPrev, read_setNext]

theorem prev_push (L : Links ρ ν) (r : ρ) (v u : ν) :
    (L.push r v).prev u =
      if L.head r = some u then some (.next v)
      else if u = v then some (.head r) else L.prev u := by
  simp only [push, prev_write, prev_setPrevOf, prev_setPrev]
  rfl

theorem read_unlink {L : Links ρ ν} {v : ν} {c : Cell ρ ν} (h : L.prev v = some c)
    {c' : Cell ρ ν} (hc' : c' ≠ .next v) :
    (L.unlink v).read c' = if c' = c then L.next v else L.read c' := by
  simp only [unlink, h, read_setPrev, read_setNext, if_neg hc', read_setPrevOf, read_write]

theorem prev_unlink {L : Links ρ ν} {v u : ν} {c : Cell ρ ν} (h : L.prev v = some c)
    (hc : c ≠ .next v) (hu : u ≠ v) :
    (L.unlink v).prev u = if L.next v = some u then some c else L.prev u := by
  have hnext : (L.write c (L.next v)).next v = L.next v := by
    have hread := L.read_write c (.next v) (L.next v)
    rw [if_neg hc.symm] at hread
    exact hread
  simp only [unlink, h, prev_setPrev, if_neg hu]
  show ((L.write c (L.next v)).setPrevOf _ _).prev u = _
  rw [hnext, prev_setPrevOf, prev_write, h]

end Links

-- ============================================================================
-- Chains
-- ============================================================================

/-- The list that starts at cell `c` runs through `xs`, and every node points back
    at the cell that points to it. -/
def Chain (L : Links ρ ν) : Cell ρ ν → List ν → Prop
  | c, [] => L.read c = none
  | c, v :: vs => L.read c = some v ∧ L.prev v = some c ∧ Chain L (.next v) vs

namespace Chain

variable {L L' : Links ρ ν} {c : Cell ρ ν} {xs : List ν}

/-- A chain reads its first cell and the pointers of its nodes, nothing else. -/
theorem transport (h : Chain L c xs) (hread : L'.read c = L.read c)
    (hnode : ∀ v ∈ xs, L'.next v = L.next v ∧ L'.prev v = L.prev v) : Chain L' c xs := by
  induction xs generalizing c with
  | nil => exact hread.trans h
  | cons v vs ih =>
      obtain ⟨hc, hprev, hvs⟩ := h
      obtain ⟨hnext', hprev'⟩ := hnode v List.mem_cons_self
      exact ⟨hread.trans hc, hprev'.trans hprev,
        ih hvs hnext' fun u hu => hnode u (List.mem_cons_of_mem _ hu)⟩

/-- Each node points back at a cell that points to it: the first cell of the chain,
    or the `next` field of another node. -/
theorem prev_eq {v : ν} (h : Chain L c xs) (hnodup : xs.Nodup) (hv : v ∈ xs) :
    ∃ c', L.prev v = some c' ∧ (c' = c ∨ ∃ u ∈ xs, u ≠ v ∧ c' = .next u) := by
  induction xs generalizing c with
  | nil => simp at hv
  | cons x xs ih =>
      obtain ⟨-, hprev, hxs⟩ := h
      obtain ⟨hx, hnodup⟩ := List.nodup_cons.mp hnodup
      rcases List.mem_cons.mp hv with rfl | hv
      · exact ⟨c, hprev, .inl rfl⟩
      · obtain ⟨c', hprev', hplace⟩ := ih hxs hnodup hv
        refine ⟨c', hprev', .inr ?_⟩
        rcases hplace with rfl | ⟨u, hu, hne, rfl⟩
        · exact ⟨x, List.mem_cons_self, fun he => hx (he ▸ hv), rfl⟩
        · exact ⟨u, List.mem_cons_of_mem _ hu, hne, rfl⟩

/-- The successor of a node is in the chain and points back at it. -/
theorem next_eq {v w : ν} (h : Chain L c xs) (hv : v ∈ xs) (hw : L.next v = some w) :
    w ∈ xs ∧ L.prev w = some (.next v) := by
  induction xs generalizing c with
  | nil => simp at hv
  | cons x xs ih =>
      obtain ⟨-, -, hxs⟩ := h
      rcases List.mem_cons.mp hv with rfl | hv
      · cases xs with
        | nil => exact absurd (hw.symm.trans hxs) (by simp)
        | cons y ys =>
            obtain rfl := Option.some.inj (hw.symm.trans hxs.1)
            exact ⟨by simp, hxs.2.1⟩
      · obtain ⟨hmem, hprev⟩ := ih hxs hv
        exact ⟨List.mem_cons_of_mem _ hmem, hprev⟩

theorem head_mem {r : ρ} {v : ν} (h : Chain L (.head r) xs) (hv : L.head r = some v) :
    v ∈ xs := by
  cases xs with
  | nil => exact absurd (hv.symm.trans h) (by simp)
  | cons x xs =>
      obtain rfl := Option.some.inj (hv.symm.trans h.1)
      exact List.mem_cons_self

/-- The back pointer of a node names what stands before it. -/
theorem prev_of_append {as bs : List ν} {v : ν} (h : Chain L c (as ++ v :: bs)) :
    L.prev v = some (match as.getLast? with
      | none => c
      | some u => .next u) := by
  induction as generalizing c with
  | nil => exact h.2.1
  | cons a as ih =>
      rw [ih h.2.2, List.getLast?_cons]
      cases as.getLast? <;> rfl

/-- A node is at one place of one list only. -/
theorem place_unique {r r' : ρ} {as as' bs bs' : List ν} {v : ν}
    (h : Chain L (.head r) (as ++ v :: bs)) (h' : Chain L (.head r') (as' ++ v :: bs')) :
    r = r' ∧ as = as' := by
  induction as using List.reverseRecOn generalizing v bs as' bs' with
  | nil =>
      have hprev := h.prev_of_append.symm.trans h'.prev_of_append
      cases as' using List.reverseRecOn with
      | nil => simpa using hprev
      | append_singleton as' u' => simp at hprev
  | append_singleton as u ih =>
      have hprev := h.prev_of_append.symm.trans h'.prev_of_append
      cases as' using List.reverseRecOn with
      | nil => simp at hprev
      | append_singleton as' u' =>
          obtain rfl : u = u' := by simpa using hprev
          rw [List.append_assoc] at h h'
          obtain ⟨hr, has⟩ := ih h h'
          exact ⟨hr, by rw [has]⟩

theorem nodup {r : ρ} (h : Chain L (.head r) xs) : xs.Nodup := by
  suffices hsuffix : ∀ bs as : List ν, xs = as ++ bs → bs.Nodup from hsuffix xs [] rfl
  intro bs
  induction bs with
  | nil => exact fun _ _ => List.nodup_nil
  | cons v bs ih =>
      intro as heq
      refine List.nodup_cons.mpr ⟨fun hv => ?_, ih (as ++ [v]) (by simpa using heq)⟩
      obtain ⟨bs₁, bs₂, rfl⟩ := List.append_of_mem hv
      rw [heq] at h
      have hsecond : Chain L (.head r) ((as ++ v :: bs₁) ++ v :: bs₂) := by simpa using h
      obtain ⟨-, has⟩ := h.place_unique hsecond
      simp at has

/-- Two lists with a common node have the same owner. -/
theorem owner_unique {r r' : ρ} {ys : List ν} {v : ν} (h : Chain L (.head r) xs)
    (h' : Chain L (.head r') ys) (hv : v ∈ xs) (hv' : v ∈ ys) : r = r' := by
  obtain ⟨as, bs, rfl⟩ := List.append_of_mem hv
  obtain ⟨as', bs', rfl⟩ := List.append_of_mem hv'
  exact (h.place_unique h').1

variable [DecidableEq ρ] [DecidableEq ν]

/-- Unlinking a node takes it out of its chain. -/
theorem unlink {v : ν} (h : Chain L c xs) (hnodup : xs.Nodup) (hc : ∀ u ∈ xs, c ≠ .next u)
    (hv : v ∈ xs) : Chain (L.unlink v) c (xs.erase v) := by
  induction xs generalizing c with
  | nil => simp at hv
  | cons x xs ih =>
      obtain ⟨hread, hprev, hxs⟩ := h
      obtain ⟨hx, hnodup⟩ := List.nodup_cons.mp hnodup
      by_cases hxv : x = v
      · subst hxv
        have hcx : c ≠ .next x := hc x List.mem_cons_self
        rw [List.erase_cons_head]
        cases xs with
        | nil =>
            show (L.unlink x).read c = none
            rw [Links.read_unlink hprev hcx, if_pos rfl]
            exact hxs
        | cons w ws =>
            obtain ⟨hnext, hprevw, hws⟩ := hxs
            have hnext : L.next x = some w := hnext
            have hwx : w ≠ x := fun he => hx (he ▸ List.mem_cons_self)
            refine ⟨?_, ?_, ?_⟩
            · rw [Links.read_unlink hprev hcx, if_pos rfl, hnext]
            · rw [Links.prev_unlink hprev hcx hwx, if_pos hnext]
            · -- the rest of the chain sees neither of the two changed pointers
              have hstay : ∀ u ∈ w :: ws, (L.unlink x).next u = L.next u := by
                intro u hu
                have hne : u ≠ x := fun he => hx (he ▸ hu)
                have hread' := Links.read_unlink hprev
                  (show Cell.next u ≠ .next x from fun he => hne (Cell.next.inj he))
                rw [if_neg (hc u (List.mem_cons_of_mem _ hu)).symm] at hread'
                exact hread'
              refine hws.transport (hstay w List.mem_cons_self) fun u hu => ?_
              have hu' := List.mem_cons_of_mem w hu
              refine ⟨hstay u hu', ?_⟩
              have hne : u ≠ x := fun he => hx (he ▸ hu')
              rw [Links.prev_unlink hprev hcx hne, if_neg]
              rw [hnext]
              rintro ⟨⟩
              exact (List.nodup_cons.mp hnodup).1 hu
      · have hvxs : v ∈ xs := (List.mem_cons.mp hv).resolve_left fun he => hxv he.symm
        rw [List.erase_cons_tail (by simpa using hxv)]
        have hcv : c ≠ .next v := hc v hv
        -- the back pointer of `v` names another node of this list, not the first cell
        obtain ⟨y, hy, hyv, hprevv⟩ : ∃ y ∈ x :: xs, y ≠ v ∧ L.prev v = some (.next y) := by
          obtain ⟨c', hprevv, hplace⟩ := hxs.prev_eq hnodup hvxs
          rcases hplace with rfl | ⟨u, hu, hne, rfl⟩
          · exact ⟨x, List.mem_cons_self, hxv, hprevv⟩
          · exact ⟨u, List.mem_cons_of_mem _ hu, hne, hprevv⟩
        have hself : Cell.next y ≠ (.next v : Cell ρ ν) := fun he => hyv (Cell.next.inj he)
        refine ⟨?_, ?_, ih hxs hnodup (fun u hu he => hx (Cell.next.inj he ▸ hu)) hvxs⟩
        · rw [Links.read_unlink hprevv hcv, if_neg (hc y hy), hread]
        · rw [Links.prev_unlink hprevv hself hxv, if_neg, hprev]
          intro hnext
          have hprevx := (hxs.next_eq hvxs hnext).2
          exact hcv (Option.some.inj (hprev.symm.trans hprevx))

end Chain

-- ============================================================================
-- All lists at once
-- ============================================================================

/-- Each owner that is alive has its list of nodes. -/
def Linked (L : Links ρ ν) (alive : ρ → Prop) (lists : ρ → List ν) : Prop :=
  ∀ r, alive r → Chain L (.head r) (lists r)

namespace Linked

variable {L L' : Links ρ ν} {alive : ρ → Prop} {lists : ρ → List ν}

/-- Only the pointers of listed nodes and the heads of living owners matter. -/
theorem transport (h : Linked L alive lists) (hhead : ∀ r, alive r → L'.head r = L.head r)
    (hnode : ∀ r v, alive r → v ∈ lists r → L'.next v = L.next v ∧ L'.prev v = L.prev v) :
    Linked L' alive lists :=
  fun r hr => (h r hr).transport (hhead r hr) fun v hv => hnode r v hr hv

variable [DecidableEq ρ]

/-- An owner may come to life, or start again, with an empty list. -/
theorem reset (h : Linked L alive lists) {r : ρ} (hempty : L'.head r = none)
    (hhead : ∀ r', r' ≠ r → L'.head r' = L.head r') (hnext : L'.next = L.next)
    (hprev : L'.prev = L.prev) :
    Linked L' (fun r' => r' = r ∨ alive r') (Function.update lists r []) := by
  intro r' hr'
  by_cases hne : r' = r
  · subst hne
    rw [Function.update_self]
    exact hempty
  · rw [Function.update_of_ne hne]
    refine (h r' (hr'.resolve_left hne)).transport (hhead r' hne) fun v _ => ?_
    exact ⟨congrFun hnext v, congrFun hprev v⟩

variable [DecidableEq ν]

/-- Pushing a node that is in no list. -/
theorem push (h : Linked L alive lists) {r : ρ} {v : ν} (hr : alive r)
    (hv : ∀ r', alive r' → v ∉ lists r') :
    Linked (L.push r v) alive (Function.update lists r (v :: lists r)) := by
  have hchain := h r hr
  have hheadv : L.head r ≠ some v := fun he => hv r hr (hchain.head_mem he)
  -- a node keeps its pointers unless it is the old first one
  have hnode : ∀ u, u ≠ v → L.head r ≠ some u →
      (L.push r v).next u = L.next u ∧ (L.push r v).prev u = L.prev u := by
    intro u hu hhead
    have hread := L.read_push r v (.next u)
    rw [if_neg (by simp), if_neg (by simpa using hu)] at hread
    exact ⟨hread, by rw [L.prev_push, if_neg hhead, if_neg hu]⟩
  intro r' hr'
  by_cases hne : r' = r
  · subst hne
    rw [Function.update_self]
    refine ⟨?_, ?_, ?_⟩
    · rw [L.read_push, if_pos rfl]
    · rw [L.prev_push, if_neg hheadv, if_pos rfl]
    · have hreadv : (L.push r' v).read (.next v) = L.head r' := by
        rw [L.read_push, if_neg (by simp), if_pos rfl]
      have hnotin := hv r' hr'
      have hnodup := hchain.nodup
      cases hlist : lists r' with
      | nil =>
          rw [hlist] at hchain
          exact hreadv.trans hchain
      | cons w ws =>
          rw [hlist] at hchain hnotin hnodup
          obtain ⟨hw, -, hws⟩ := hchain
          have hw : L.head r' = some w := hw
          have hwv : w ≠ v := fun he => hnotin (he ▸ List.mem_cons_self)
          refine ⟨hreadv.trans hw, by rw [L.prev_push, if_pos hw], ?_⟩
          refine hws.transport ?_ fun u hu => hnode u ?_ ?_
          · rw [L.read_push, if_neg (by simp), if_neg (by simpa using hwv)]
          · exact fun he => hnotin (he ▸ List.mem_cons_of_mem _ hu)
          · rw [hw]
            rintro ⟨⟩
            exact (List.nodup_cons.mp hnodup).1 hu
  · rw [Function.update_of_ne hne]
    refine (h r' hr').transport ?_ fun u hu => hnode u ?_ ?_
    · rw [L.read_push, if_neg (by simpa using hne), if_neg (by simp)]
    · exact fun he => hv r' hr' (he ▸ hu)
    · exact fun he => hne ((h r' hr').owner_unique hchain hu (hchain.head_mem he))

/-- Unlinking a node of a list. -/
theorem unlink (h : Linked L alive lists) {r : ρ} {v : ν} (hr : alive r) (hv : v ∈ lists r) :
    Linked (L.unlink v) alive (Function.update lists r ((lists r).erase v)) := by
  have hchain := h r hr
  intro r' hr'
  by_cases hne : r' = r
  · subst hne
    rw [Function.update_self]
    exact hchain.unlink hchain.nodup (fun _ _ => by simp) hv
  · rw [Function.update_of_ne hne]
    -- the two cells that change belong to the list of `r`
    obtain ⟨c, hprev, hplace⟩ := hchain.prev_eq hchain.nodup hv
    have hcv : c ≠ .next v := by
      rcases hplace with rfl | ⟨u, -, hu, rfl⟩
      · simp
      · simpa using hu
    have hforeign : ∀ u ∈ lists r', u ∉ lists r := fun u hu hu' =>
      hne ((h r' hr').owner_unique hchain hu hu')
    have huv : ∀ u ∈ lists r', u ≠ v := by
      rintro u hu rfl
      exact hforeign u hu hv
    refine (h r' hr').transport ?_ fun u hu => ⟨?_, ?_⟩
    · rw [Links.read_unlink hprev (by simp), if_neg]
      rcases hplace with rfl | ⟨u, -, -, rfl⟩
      · simpa using hne
      · simp
    · have hread : (L.unlink v).read (.next u) = L.read (.next u) := by
        rw [Links.read_unlink hprev (by simpa using huv u hu), if_neg]
        rcases hplace with rfl | ⟨y, hy, -, rfl⟩
        · simp
        · exact fun he => hforeign u hu (Cell.next.inj he ▸ hy)
      exact hread
    · rw [Links.prev_unlink hprev hcv (huv u hu), if_neg]
      exact fun he => hforeign u hu (hchain.next_eq hv he).1

end Linked

end Lib
