import Mathlib.Data.List.GetD
import Mathlib.Data.Nat.ModEq
import Mathlib.Data.Vector.Basic

/-!
# Ring buffers

A queue in a fixed array: `head` is where it starts, `tail` where the next
element goes. The structure carries what every operation relies on, so the
operations are total; `toList` is the queue, and each operation is described
by what it does to it.
-/

namespace Wyrmroot

structure RingBuffer (α : Type) (n : Nat) where
  bytes : Vector α n
  head : Nat
  tail : Nat
  len : Nat
  head_lt : head < n
  len_le : len ≤ n
  tail_eq : tail = (head + len) % n

namespace RingBuffer

variable {α : Type} {n : Nat}

/-- An empty ring with `n` copies of `a` behind it. -/
def new (a : α) (h : 0 < n) : RingBuffer α n where
  bytes := .replicate n a
  head := 0
  tail := 0
  len := 0
  head_lt := h
  len_le := Nat.zero_le n
  tail_eq := (Nat.zero_mod n).symm

theorem size_pos (r : RingBuffer α n) : 0 < n := Nat.zero_lt_of_lt r.head_lt

theorem tail_lt (r : RingBuffer α n) : r.tail < n := r.tail_eq ▸ Nat.mod_lt _ r.size_pos

/-- The cell `i` places behind the head. -/
def cell (r : RingBuffer α n) (i : Nat) : α :=
  getElem r.bytes ((r.head + i) % n) (Nat.mod_lt _ r.size_pos)

/-- The queue. -/
def toList (r : RingBuffer α n) : List α := (List.range r.len).map r.cell

def isEmpty (r : RingBuffer α n) : Bool := r.len = 0

/-- The ring with an element behind its last one, if there is room. -/
def push (r : RingBuffer α n) (a : α) : Bool × RingBuffer α n :=
  if h : r.len = n then (false, r)
  else (true,
    { r with
      bytes := r.bytes.set r.tail a r.tail_lt
      tail := (r.tail + 1) % n
      len := r.len + 1
      len_le := Nat.lt_of_le_of_ne r.len_le h
      tail_eq := by rw [r.tail_eq, Nat.mod_add_mod, Nat.add_assoc] })

/-- The first `count` elements gone. -/
def skip (r : RingBuffer α n) (count : Nat) (h : count ≤ r.len) : RingBuffer α n :=
  { r with
    head := (r.head + count) % n
    len := r.len - count
    head_lt := Nat.mod_lt _ r.size_pos
    len_le := (Nat.sub_le _ _).trans r.len_le
    tail_eq := by
      rw [r.tail_eq, Nat.mod_add_mod, Nat.add_assoc, Nat.add_sub_cancel' h] }

def pop (r : RingBuffer α n) : Option (α × RingBuffer α n) :=
  if h : r.len = 0 then none
  else some (r.cell 0, r.skip 1 (Nat.one_le_iff_ne_zero.mpr h))

/-- `min count len` elements gone, and how many these were. -/
def discard (r : RingBuffer α n) (count : Nat) : Nat × RingBuffer α n :=
  (min count r.len, r.skip (min count r.len) (Nat.min_le_right _ _))

/-- At most `room` elements from `offset` on, which stay in the ring. -/
def copyFrom (r : RingBuffer α n) (offset room : Nat) : List α :=
  if r.len ≤ offset then []
  else (List.range (min (r.len - offset) room)).map fun i => r.cell (offset + i)

def copyTo (r : RingBuffer α n) (room : Nat) : List α := (List.range (min r.len room)).map r.cell

section Lemmas

variable {r : RingBuffer α n}

@[simp] theorem length_toList (r : RingBuffer α n) : r.toList.length = r.len := by
  rw [toList, List.length_map, List.length_range]

theorem toList_eq_nil : r.toList = [] ↔ r.isEmpty = true := by
  rw [isEmpty, decide_eq_true_iff, ← length_toList, List.length_eq_zero_iff]

variable {a : α}

theorem push_full (h : r.toList.length = n) : r.push a = (false, r) := by
  rw [length_toList] at h
  exact dif_pos h

/-- Distinct places of one round are distinct cells. -/
theorem place_ne {i j : Nat} (hi : i < j) (hj : j < n) (head : Nat) :
    (head + i) % n ≠ (head + j) % n := by
  intro h
  have hmod : i % n = j % n := Nat.ModEq.add_left_cancel' head h
  rw [Nat.mod_eq_of_lt (hi.trans hj), Nat.mod_eq_of_lt hj] at hmod
  omega

theorem push_room (h : r.toList.length < n) :
    (r.push a).1 = true ∧ (r.push a).2.toList = r.toList ++ [a] := by
  rw [length_toList] at h
  rw [push, dif_neg (Nat.ne_of_lt h)]
  refine ⟨rfl, ?_⟩
  show (List.range (r.len + 1)).map _ = (List.range r.len).map r.cell ++ [a]
  rw [List.range_succ, List.map_append, List.map_singleton]
  congr 1
  · refine List.map_congr_left fun i hi => ?_
    have hne : r.tail ≠ (r.head + i) % n := by
      rw [r.tail_eq]
      exact (place_ne (List.mem_range.mp hi) h r.head).symm
    exact Vector.getElem_set_ne r.tail_lt (Nat.mod_lt _ r.size_pos) hne
  · simp only [cell, ← r.tail_eq, Vector.getElem_set_self]

/-- What a push writes. -/
theorem push_cells (h : r.toList.length < n) :
    (r.push a).2.bytes = r.bytes.set r.tail a r.tail_lt ∧ (r.push a).2.head = r.head ∧
      (r.push a).2.tail = (r.tail + 1) % n ∧ (r.push a).2.len = r.len + 1 := by
  rw [length_toList] at h
  rw [push, dif_neg (Nat.ne_of_lt h)]
  exact ⟨rfl, rfl, rfl, rfl⟩

theorem toList_skip {count : Nat} (h : count ≤ r.len) :
    (r.skip count h).toList = r.toList.drop count := by
  refine List.ext_getElem ?_ fun i hi hi' => ?_
  · rw [length_toList, List.length_drop, length_toList]
    rfl
  · rw [List.getElem_drop]
    simp only [toList, List.getElem_map, List.getElem_range, cell, skip, Nat.mod_add_mod,
      Nat.add_assoc]

theorem pop_eq_some {r' : RingBuffer α n} (h : r.pop = some (a, r')) :
    r.toList = a :: r'.toList := by
  unfold pop at h
  split_ifs at h with hzero
  obtain ⟨rfl, rfl⟩ := Prod.mk.inj (Option.some.inj h)
  rw [toList_skip]
  refine List.ext_getElem ?_ fun i hi hi' => ?_
  · rw [length_toList, List.length_cons, List.length_drop, length_toList]
    omega
  · cases i with
    | zero => simp only [toList, List.getElem_map, List.getElem_range, List.getElem_cons_zero]
    | succ i =>
        simp only [List.getElem_cons_succ, List.getElem_drop, Nat.add_comm 1 i]

theorem discard_fst (count : Nat) : (r.discard count).1 = min count r.toList.length := by
  rw [length_toList]
  rfl

theorem toList_discard (count : Nat) :
    (r.discard count).2.toList = r.toList.drop (r.discard count).1 :=
  toList_skip (Nat.min_le_right _ _)

theorem copyTo_eq (room : Nat) : r.copyTo room = r.toList.take room := by
  rw [toList, ← List.map_take, List.take_range, Nat.min_comm]
  rfl

theorem copyFrom_eq (offset room : Nat) :
    r.copyFrom offset room = (r.toList.drop offset).take room := by
  unfold copyFrom
  split_ifs with h
  · rw [List.drop_of_length_le (by rwa [length_toList]), List.take_nil]
  · refine List.ext_getElem ?_ fun i hi hi' => ?_
    · rw [List.length_map, List.length_range, List.length_take, List.length_drop, length_toList,
        Nat.min_comm]
    · simp only [List.getElem_map, List.getElem_range, List.getElem_take, List.getElem_drop, toList]

end Lemmas

end RingBuffer

end Wyrmroot
