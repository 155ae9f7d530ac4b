import Mathlib.Algebra.BigOperators.Fin
import Mathlib.Algebra.Order.BigOperators.Group.Finset
import Mathlib.Algebra.Order.Ring.Nat
import Wyrmroot.Lib.Prog

/-!
# Fixed tables

A Rust array of fixed length is a function from its index type, written
with `Function.update`. This file has what the developments need of such
tables: the first index that satisfies a test, a loop that rewrites every
entry and stops at the first failure, and how a total over a table, or
over a list of outstanding objects, moves when one entry does.
-/

namespace Wyrmroot

open Function

variable {κ β ε : Type}

/-! ## Searching -/

/-- `iter().position(..)`: the first index that passes the test. -/
def position {n : Nat} (p : Fin n → Bool) : Option (Fin n) :=
  (List.finRange n).find? p

variable {n : Nat} {p : Fin n → Bool}

theorem position_some {i : Fin n} (h : position p = some i) :
    p i = true :=
  List.find?_some h

theorem position_none :
    position p = none ↔ ∀ i, p i = false := by
  simp [position]

theorem position_isSome {i : Fin n} (h : p i = true) :
    ∃ j, position p = some j := by
  cases hpos : position p with
  | some j => exact ⟨j, rfl⟩
  | none =>
      rw [position_none] at hpos
      exact absurd h (by simp [hpos i])

/-! ## Rewriting every entry -/

/-- `for k in keys { table[k] = g(k, table[k])?; }` on a copy of the table. -/
def updateEach [DecidableEq κ] (g : κ → β → Outcome ε β) (keys : List κ) (f : κ → β) :
    Outcome ε (κ → β) :=
  keys.foldlM (fun f k => do
    let b ← g k (f k)
    pure (update f k b)) f

theorem updateEach_cons [DecidableEq κ] (g : κ → β → Outcome ε β) (k : κ) (keys : List κ)
    (f : κ → β) :
    updateEach g (k :: keys) f = (g k (f k) >>= fun b => updateEach g keys (update f k b)) := by
  rw [updateEach, List.foldlM_cons]
  cases g k (f k) <;> rfl

/-- Every key is visited once and only its own entry is read and written, so
the loop succeeds exactly when each entry does. -/
theorem updateEach_eq_ok [DecidableEq κ] {g : κ → β → Outcome ε β} {keys : List κ}
    (hnd : keys.Nodup) {f f' : κ → β} :
    updateEach g keys f = .ok f' ↔
      (∀ k ∈ keys, g k (f k) = .ok (f' k)) ∧ ∀ k, k ∉ keys → f' k = f k := by
  induction keys generalizing f with
  | nil =>
      simp only [updateEach, List.foldlM_nil, Outcome.pure_eq, Outcome.ok.injEq]
      constructor
      · rintro rfl
        simp
      · rintro ⟨-, hout⟩
        exact funext fun k => (hout k (by simp)).symm
  | cons k keys ih =>
      obtain ⟨hk, hnd⟩ := List.nodup_cons.mp hnd
      rw [updateEach_cons, Outcome.bind_eq_ok]
      constructor
      · rintro ⟨b, hb, hrest⟩
        obtain ⟨hin, hout⟩ := (ih hnd).mp hrest
        have hfk : f' k = b := by simpa using hout k hk
        refine ⟨fun j hj => ?_, fun j hj => ?_⟩
        · rcases List.mem_cons.mp hj with rfl | hj
          · rw [hb, hfk]
          · have hne : j ≠ k := fun h => hk (h ▸ hj)
            simpa [hne] using hin j hj
        · rw [List.mem_cons, not_or] at hj
          simpa [hj.1] using hout j hj.2
      · rintro ⟨hin, hout⟩
        refine ⟨f' k, hin k (by simp), (ih hnd).mpr ⟨fun j hj => ?_, fun j hj => ?_⟩⟩
        · have hne : j ≠ k := fun h => hk (h ▸ hj)
          simpa [hne] using hin j (List.mem_cons_of_mem _ hj)
        · by_cases hne : j = k
          · simp [hne]
          · simpa [hne] using hout j (by simp [hne, hj])

/-- A loop that stops early stops with what one of its entries gave. -/
theorem updateEach_stops [DecidableEq κ] {g : κ → β → Outcome ε β} {keys : List κ}
    (hnd : keys.Nodup) {f : κ → β} (hstop : ∀ f', updateEach g keys f ≠ .ok f') :
    ∃ k ∈ keys, (∀ b, g k (f k) ≠ .ok b)
      ∧ (updateEach g keys f = .panic → g k (f k) = .panic)
      ∧ ∀ e, updateEach g keys f = .err e → g k (f k) = .err e := by
  induction keys generalizing f with
  | nil => exact absurd rfl (hstop f)
  | cons k keys ih =>
      obtain ⟨hk, hnd⟩ := List.nodup_cons.mp hnd
      rw [updateEach_cons] at hstop ⊢
      cases hb : g k (f k) with
      | ok b =>
          rw [hb, Outcome.ok_bind] at hstop
          obtain ⟨j, hj, hstops⟩ := ih hnd hstop
          have hne : j ≠ k := fun h => hk (h ▸ hj)
          rw [update_of_ne hne] at hstops
          exact ⟨j, List.mem_cons_of_mem _ hj, hstops⟩
      | err e | panic => exact ⟨k, by simp, by simp [hb]⟩

/-! ## Lists of objects -/

variable {α : Type} {l : List α} {a : α} {k : Nat}

/-- Writing back what is there changes nothing. -/
theorem set_self (h : l[k]? = some a) :
    l.set k a = l := by
  obtain ⟨hk, rfl⟩ := List.getElem?_eq_some_iff.mp h
  exact List.set_getElem_self hk

/-- After a write, an object is the new one or an untouched one at another
position. -/
theorem mem_set_cases {b : α} (h : b ∈ l.set k a) :
    b = a ∨ ∃ j, j ≠ k ∧ l[j]? = some b := by
  obtain ⟨j, hj⟩ := List.mem_iff_getElem?.mp h
  rw [List.getElem?_set] at hj
  split at hj
  · split at hj
    · exact Or.inl (Option.some.inj hj).symm
    · cases hj
  · rename_i hne
    exact Or.inr ⟨j, fun h => hne h.symm, hj⟩

variable {j : Nat}

/-- Objects with distinct keys at distinct positions. -/
theorem key_ne_of_nodup {β : Type} {f : α → β} (hnd : (l.map f).Nodup) {b : α} (ha : l[j]? = some a)
    (hb : l[k]? = some b) (hjk : j ≠ k) :
    f a ≠ f b := by
  intro heq
  have hlt : j < (l.map f).length := by
    simpa using (List.getElem?_eq_some_iff.mp ha).1
  exact hjk ((List.getElem?_inj hlt hnd).mp (by simp [ha, hb, heq]))

/-- `a[i] = a[len - 1]; len -= 1`. -/
def swapRemove {α : Type} (l : List α) (i : Nat) : List α :=
  match l.getLast? with
  | none => l
  | some last => (l.set i last).dropLast

theorem swapRemove_snoc (l : List α) (a : α) (i : Nat) :
    swapRemove (l ++ [a]) i = ((l ++ [a]).set i a).dropLast := by
  simp [swapRemove]

theorem swapRemove_last (l : List α) (a : α) :
    swapRemove (l ++ [a]) l.length = l := by
  simp [swapRemove_snoc]

/-- Swap-removal takes out one element and reorders the rest. -/
theorem swapRemove_perm {i : Nat} (h : l[i]? = some a) :
    (a :: swapRemove l i).Perm l := by
  rcases List.eq_nil_or_concat l with rfl | ⟨front, last, rfl⟩
  · simp at h
  rw [List.concat_eq_append] at h ⊢
  rw [swapRemove_snoc]
  have hcons : (last :: front).Perm (front ++ [last]) := (List.perm_append_singleton _ _).symm
  rcases Nat.lt_trichotomy i front.length with hlt | rfl | hgt
  · have hfront : front[i] = a := by simpa [List.getElem?_append_left hlt, hlt] using h
    rw [List.set_append_left _ _ hlt, List.dropLast_concat, ← hfront]
    have hset := (List.set_perm_cons_eraseIdx hlt last).cons front[i]
    have hback := (List.getElem_cons_eraseIdx_perm hlt).cons last
    exact hset.trans ((List.Perm.swap ..).trans (hback.trans hcons))
  · obtain rfl : last = a := by simpa using h
    simpa using hcons
  · have hnone : (front ++ [last])[i]? = none := by
      simpa using Nat.succ_le_of_lt hgt
    rw [hnone] at h
    cases h

/-! ## Totals -/

/-- A total over a table when one entry is replaced. -/
theorem sum_update_add {ι : Type} [Fintype ι] [DecidableEq ι] (f : ι → Nat) (i : ι)
    (v : Nat) : (∑ j, update f i v j) + f i = (∑ j, f j) + v := by
  have hsplit := Finset.add_sum_erase Finset.univ f (Finset.mem_univ i)
  rw [Finset.sum_update_of_mem (Finset.mem_univ i), Finset.sdiff_singleton_eq_erase]
  omega

/-- The same with the replaced entry inside a record: `g` reads a counter of it. -/
theorem sum_update_read {ι : Type} [Fintype ι] [DecidableEq ι] (g : α → Nat) (f : ι → α)
    (i : ι) (a : α) : (∑ j, g (update f i a j)) + g (f i) = (∑ j, g (f j)) + g a := by
  have hread : (fun j => g (update f i a j)) = update (fun j => g (f j)) i (g a) := by
    funext j
    exact apply_update (fun _ => g) f i a j
  rw [hread]
  exact sum_update_add (fun j => g (f j)) i (g a)

/-- A total over a list when one element is replaced. -/
theorem sum_map_set (g : α → Nat) (h : l[j]? = some a) (b : α) :
    ((l.set j b).map g).sum + g a = (l.map g).sum + g b := by
  induction l generalizing j with
  | nil => simp at h
  | cons x l ih =>
      cases j with
      | zero =>
          obtain rfl : x = a := by simpa using h
          simp
          omega
      | succ j =>
          have htail := ih (j := j) (by simpa using h)
          simp only [List.set_cons_succ, List.map_cons, List.sum_cons]
          omega

/-- One element's share is at most the total. -/
theorem le_sum_map (g : α → Nat) (h : l[j]? = some a) : g a ≤ (l.map g).sum :=
  List.single_le_sum (by simp) _ (List.mem_map_of_mem (List.mem_of_getElem? h))

/-- How many entries of a table pass a test. -/
def countWhere {n : Nat} (p : Fin n → Bool) : Nat :=
  ∑ i, (p i).toNat

theorem countWhere_update (q : α → Bool) (f : Fin n → α) (i : Fin n) (a : α) :
    countWhere (fun j => q (update f i a j)) + (q (f i)).toNat
      = countWhere (fun j => q (f j)) + (q a).toNat :=
  sum_update_read (fun a => (q a).toNat) f i a

theorem exists_of_countWhere_pos (h : 0 < countWhere p) :
    ∃ i, p i = true := by
  by_contra hnone
  have hzero : countWhere p = 0 :=
    Finset.sum_eq_zero fun i _ => by simpa using fun hi => hnone ⟨i, hi⟩
  omega

end Wyrmroot
