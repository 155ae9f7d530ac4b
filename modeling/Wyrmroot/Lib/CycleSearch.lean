import Mathlib.Data.Set.Insert

/-!
# Searching for a cycle through a node

A search keeps the nodes it has seen and the nodes it is still to look at, and
gives up when it comes to a node whose successor is where it started.
`Explored` is what such a search keeps; when nothing is left to look at, no
path leads back to the start.
-/

namespace Wyrmroot

open Relation

variable {α : Type} {E : α → α → Prop} {start : α} {visited frontier : Set α}

structure Explored (E : α → α → Prop) (start : α) (visited frontier : Set α) : Prop where
  visited_reached : ∀ v ∈ visited, ReflTransGen E start v
  frontier_reached : ∀ v ∈ frontier, TransGen E start v
  start_visited : start ∈ visited
  closed : ∀ v ∈ visited, ∀ w, E v w → w ∈ frontier ∨ w ∈ visited ∧ w ≠ start

namespace Explored

theorem init (h : ∀ w, w ∈ frontier ↔ E start w) : Explored E start {start} frontier where
  visited_reached := by
    rintro v rfl
    exact .refl
  frontier_reached := fun v hv => .single ((h v).mp hv)
  start_visited := rfl
  closed := by
    rintro v rfl w hw
    exact .inl ((h w).mpr hw)

/-- A node that was seen before is looked at no more. -/
theorem skip {frontier' : Set α} {v : α} (h : Explored E start visited frontier)
    (hseen : v ∈ visited) (hne : v ≠ start) (hnext : ∀ w, w ∈ frontier' ↔ w ∈ frontier ∧ w ≠ v) :
    Explored E start visited frontier' where
  visited_reached := h.visited_reached
  frontier_reached := fun w hw => h.frontier_reached w ((hnext w).mp hw).1
  start_visited := h.start_visited
  closed := by
    intro u hu w hw
    rcases h.closed u hu w hw with hfront | hold
    · by_cases hv : w = v
      · exact .inr ⟨hv ▸ hseen, hv ▸ hne⟩
      · exact .inl ((hnext w).mpr ⟨hfront, hv⟩)
    · exact .inr hold

/-- A new node brings the successors that were not seen. -/
theorem expand {visited' frontier' : Set α} {v : α} (h : Explored E start visited frontier)
    (hv : v ∈ frontier) (hne : v ≠ start) (hback : ¬ E v start)
    (hvisited : ∀ w, w ∈ visited' ↔ w ∈ visited ∨ w = v)
    (hnext : ∀ w, w ∈ frontier' ↔ w ∈ frontier ∧ w ≠ v ∨ E v w ∧ w ∉ visited') :
    Explored E start visited' frontier' where
  visited_reached := by
    intro w hw
    rcases (hvisited w).mp hw with hold | rfl
    · exact h.visited_reached w hold
    · exact (h.frontier_reached w hv).to_reflTransGen
  frontier_reached := by
    intro w hw
    rcases (hnext w).mp hw with hold | hnew
    · exact h.frontier_reached w hold.1
    · exact .tail (h.frontier_reached v hv) hnew.1
  start_visited := (hvisited start).mpr (.inl h.start_visited)
  closed := by
    intro u hu w hw
    have hseen : v ∈ visited' := (hvisited v).mpr (.inr rfl)
    rcases (hvisited u).mp hu with hold | rfl
    · rcases h.closed u hold w hw with hfront | hdone
      · by_cases hwv : w = v
        · exact .inr ⟨hwv ▸ hseen, hwv ▸ hne⟩
        · exact .inl ((hnext w).mpr (.inl ⟨hfront, hwv⟩))
      · exact .inr ⟨(hvisited w).mpr (.inl hdone.1), hdone.2⟩
    · have hws : w ≠ start := fun heq => hback (heq ▸ hw)
      by_cases hnew : w ∈ visited'
      · exact .inr ⟨hnew, hws⟩
      · exact .inl ((hnext w).mpr (.inr ⟨hw, hnew⟩))

/-- What leads from a reached node back to the start is a cycle. -/
theorem cycle {v : α} (h : Explored E start visited frontier) (hv : v ∈ frontier)
    (hback : E v start) : TransGen E start start := .tail (h.frontier_reached v hv) hback

/-- Nothing is left to look at: everything reached was seen and is not the start. -/
theorem no_cycle (h : Explored E start visited frontier) (hdone : ∀ v, v ∉ frontier) :
    ¬ TransGen E start start := by
  have hreached : ∀ w, TransGen E start w → w ∈ visited ∧ w ≠ start := by
    intro w hw
    induction hw with
    | single hedge => exact (h.closed start h.start_visited _ hedge).resolve_left (hdone _)
    | tail _ hedge ih => exact (h.closed _ ih.1 _ hedge).resolve_left (hdone _)
  exact fun hcycle => (hreached start hcycle).2 rfl

end Explored

end Wyrmroot
