import Wyrmroot.Lib.Yields

/-!
# Unchecked arithmetic

`a + b` and `a - b` on 64-bit words, where leaving the range is a panic. `fit` is
the result of an operator on words of any width.
-/

namespace Wyrmroot.Unchecked

open Outcome

variable {ε : Type} {a b : Nat}

def add (a b : Nat) : Outcome ε Nat := if a + b < 2 ^ 64 then .ok (a + b) else .panic

def sub (a b : Nat) : Outcome ε Nat := if b ≤ a then .ok (a - b) else .panic

/-- What an operator on `w`-bit words returns. -/
def fit (w n : Nat) : Outcome ε Nat := if n < 2 ^ w then .ok n else .panic

variable {w n : Nat}

theorem fit_ok (h : n < 2 ^ w) : (fit w n : Outcome ε Nat) = .ok n := if_pos h

variable {α : Type}

theorem fit_bind (h : n < 2 ^ w) (f : Nat → Outcome ε α) :
    (fit w n >>= f) = f n := by
  rw [fit_ok h, ok_bind]

/-! ## Two sequences with the same steps -/

variable {β : Type} {x : Outcome ε α} {f : α → Outcome ε β}

theorem bind_same {g : α → Outcome ε β}
    (h : ∀ a, x = .ok a → f a = g a) : (x >>= f) = (x >>= g) := by
  cases x with
  | ok a => exact h a rfl
  | err e | panic => rfl

theorem bind_bind {γ : Type} (x : Outcome ε α) (f : α → Outcome ε β) (g : β → Outcome ε γ) :
    (x >>= f >>= g) = (x >>= fun a => f a >>= g) := by
  cases x <;> rfl

theorem bind_eq_panic :
    (x >>= f) = .panic ↔ x = .panic ∨ ∃ a, x = .ok a ∧ f a = .panic := by
  cases x with
  | ok a | err e => simp
  | panic => simp [Bind.bind, Outcome.bind]

/-! ## Words of 64 bits -/

theorem add_ok (h : a + b < 2 ^ 64) : (add a b : Outcome ε Nat) = .ok (a + b) := if_pos h

theorem sub_ok (h : b ≤ a) : (sub a b : Outcome ε Nat) = .ok (a - b) := if_pos h

theorem add_yields (h : a + b < 2 ^ 64) : Yields (add a b : Outcome ε Nat) fun c => c = a + b := by
  rw [add_ok h]
  exact .ok rfl

theorem sub_yields (h : b ≤ a) : Yields (sub a b : Outcome ε Nat) fun c => c = a - b := by
  rw [sub_ok h]
  exact .ok rfl

end Wyrmroot.Unchecked
