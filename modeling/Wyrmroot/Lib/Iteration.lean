import Mathlib.Data.Set.Insert
import Wyrmroot.Lib.Prog

/-!
# Loops without a bound

`loop { body }`: a turn carries a value into the next turn or breaks with a
result. The model counts turns down, and behind the last one the loop is
`unfinished`. `wp_loop` is the rule of total correctness: an invariant, and a
measure that every turn lowers, which then bounds the turns it takes. `Leads`
are the turns themselves, for what is said of every state a loop comes through.
-/

namespace Wyrmroot.Prog

open Relation

variable {σ ω ε α β : Type}

def loop (body : α → Prog σ ω ε (α ⊕ β)) (unfinished : ε) : Nat → α → Prog σ ω ε β
  | 0, _ => throw unfinished
  | turns + 1, a => do
      match ← body a with
      | .inl next => loop body unfinished turns next
      | .inr b => pure b

/-- The body takes the first value and state to the second, and shows nothing. -/
def Turn (body : α → Prog σ ω ε (α ⊕ β)) (x y : α × σ) : Prop :=
  body x.1 x.2 = (.ok (.inl y.1), y.2, [])

variable {body : α → Prog σ ω ε (α ⊕ β)} {unfinished : ε}

/-- One turn, and the rest of the loop. -/
theorem loop_turn {x y : α × σ} (h : Turn body x y) (turns : Nat) :
    loop body unfinished (turns + 1) x.1 x.2 = loop body unfinished turns y.1 y.2 := by
  rw [loop, bind_run_ok h]
  rfl

theorem loop_break {a : α} {b : β} {s s' : σ} (unfinished : ε)
    (h : body a s = (.ok (.inr b), s', [])) (turns : Nat) :
    loop body unfinished (turns + 1) a s = (.ok b, s', []) := by
  rw [loop, bind_run_ok h]
  rfl

theorem loop_fails {a : α} {e : ε} {s s' : σ} (h : body a s = (.err e, s', [])) (turns : Nat) :
    loop body unfinished (turns + 1) a s = (.err e, s', []) := by
  rw [loop, bind_run_err h]

/-- What a turn may end in: a value and a state of the invariant, lower than before, or an end of
the loop. -/
def Continues (I : α → σ → Prop) (μ : α → σ → Nat) (Q : Outcome ε β → σ → Prop) (before : Nat) :
    Outcome ε (α ⊕ β) → σ → Prop
  | .ok (.inl next), s => I next s ∧ μ next s < before
  | .ok (.inr b), s => Q (.ok b) s
  | .err e, s => Q (.err e) s
  | .panic, s => Q .panic s

theorem wp_loop {I : α → σ → Prop} {μ : α → σ → Nat} {Q : Outcome ε β → σ → Prop}
    (hturn : ∀ a s, I a s → wp (body a) (fun o s' w => w = [] ∧ Continues I μ Q (μ a s) o s') s) :
    ∀ {turns : Nat} {a : α} {s : σ}, I a s → μ a s < turns →
      wp (loop body unfinished turns a) (fun o s' w => w = [] ∧ Q o s') s
  | 0, _, _, _, hturns => absurd hturns (Nat.not_lt_zero _)
  | turns + 1, a, s, hs, hturns => by
      have h := hturn a s hs
      unfold loop
      rw [wp_bind]
      refine wp_mono h fun o s' w hend => ?_
      obtain ⟨rfl, hend⟩ := hend
      rcases o with (next | b) | e | _
      · obtain ⟨hnext, hlower⟩ := hend
        exact wp_loop hturn hnext (by omega)
      · exact ⟨rfl, hend⟩
      · exact ⟨rfl, hend⟩
      · exact ⟨rfl, hend⟩

end Wyrmroot.Prog
