import Mathlib.Data.List.Range

/-!
# Ascending numbers below a counter

The numbers a counter has handed out: they ascend, and the counter is above
all of them. Handing out the next one keeps both.
-/

namespace Wyrmroot

structure Ascends (l : List Nat) (bound : Nat) : Prop where
  sorted : l.Pairwise (· < ·)
  below : ∀ n ∈ l, n < bound

/-- The numbers of one call, between the counter before it and the counter behind it. -/
structure Granted (next next' : Nat) (l : List Nat) : Prop where
  le : next ≤ next'
  sorted : l.Pairwise (· < ·)
  range : ∀ n ∈ l, next ≤ n ∧ n < next'

theorem Granted.none {next next' : Nat} (h : next ≤ next') : Granted next next' [] :=
  ⟨h, .nil, List.forall_mem_nil _⟩

theorem Granted.one {next : Nat} : Granted next (next + 1) [next] :=
  ⟨Nat.le_succ _, List.pairwise_singleton _ _,
    List.forall_mem_singleton.mpr ⟨Nat.le_refl _, Nat.lt_succ_self _⟩⟩

namespace Ascends

variable {l : List Nat} {bound bound' n : Nat}

theorem nil : Ascends [] bound := ⟨.nil, nofun⟩

theorem mono (h : Ascends l bound) (hle : bound ≤ bound') : Ascends l bound' :=
  ⟨h.sorted, fun n hn => Nat.lt_of_lt_of_le (h.below n hn) hle⟩

theorem snoc (h : Ascends l bound) (hn : bound ≤ n) (hlt : n < bound') :
    Ascends (l ++ [n]) bound' := by
  refine ⟨List.pairwise_append.mpr ⟨h.sorted, List.pairwise_singleton _ _, ?_⟩, fun m hm => ?_⟩
  · intro m hm m' hm'
    rw [List.mem_singleton.mp hm']
    exact Nat.lt_of_lt_of_le (h.below m hm) hn
  · rcases List.mem_append.mp hm with hm | hm
    · exact Nat.lt_trans (Nat.lt_of_lt_of_le (h.below m hm) hn) hlt
    · rw [List.mem_singleton.mp hm]
      exact hlt

theorem append {l' : List Nat} (h : Ascends l bound) (hgranted : Granted bound bound' l') :
    Ascends (l ++ l') bound' := by
  refine ⟨List.pairwise_append.mpr ⟨h.sorted, hgranted.sorted, ?_⟩, fun m hm => ?_⟩
  · intro m hm m' hm'
    exact Nat.lt_of_lt_of_le (h.below m hm) (hgranted.range m' hm').1
  · rcases List.mem_append.mp hm with hm | hm
    · exact Nat.lt_of_lt_of_le (h.below m hm) hgranted.le
    · exact (hgranted.range m hm).2

theorem nodup (h : Ascends l bound) : l.Nodup := h.sorted.imp Nat.ne_of_lt

end Ascends

/-!
## Numbers counted up

A counter that began at `start`, handed out the numbers of `l` and stands at
`next`: nothing is left out and nothing is handed out twice. Where a call takes
several numbers at once, `append` is the rule for it.
-/

structure Counted (start : Nat) (l : List Nat) (next : Nat) : Prop where
  listed : l = List.range' start l.length
  next_eq : next = start + l.length

namespace Counted

variable {start next next' m n : Nat} {l l' : List Nat}

theorem nil : Counted start [] start := ⟨rfl, rfl⟩

theorem append (h : Counted start l next) (h' : Counted next l' next') :
    Counted start (l ++ l') next' := by
  refine ⟨?_, ?_⟩
  · rw [List.length_append, ← List.range'_append_1, ← h.listed, ← h.next_eq, ← h'.listed]
  · rw [h'.next_eq, h.next_eq, List.length_append, Nat.add_assoc]

theorem sorted (h : Counted start l next) : l.Pairwise (· < ·) := by
  rw [h.listed]
  exact List.pairwise_lt_range'

theorem mem (h : Counted start l next) : n ∈ l ↔ start ≤ n ∧ n < next := by
  rw [h.listed, List.mem_range'_1, h.next_eq]

end Counted

end Wyrmroot
