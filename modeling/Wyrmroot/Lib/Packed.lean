import Mathlib.Data.Nat.Bitwise

/-!
# Fields packed into a word

A word built by `|` from values shifted to their places, and the reads by
`>>` and `&` that take it apart. A read goes through `|`, finds a value that
stands at its own place, and finds nothing of a value that stands above or
below.
-/

namespace Wyrmroot.Packed

variable {x k i n : Nat}

/-- The `n` bits from bit `i` on. -/
def field (w i n : Nat) : Nat := (w >>> i) % 2 ^ n

theorem testBit_field (w i n j : Nat) :
    (field w i n).testBit j = (decide (j < n) && w.testBit (i + j)) := by
  rw [field, Nat.testBit_mod_two_pow, Nat.testBit_shiftRight]

theorem field_or (a b i n : Nat) : field (a ||| b) i n = field a i n ||| field b i n := by
  rw [field, Nat.shiftRight_or_distrib, Nat.or_mod_two_pow]
  rfl

theorem field_shift (h : x < 2 ^ n) : field (x <<< i) i n = x := by
  rw [field, Nat.shiftLeft_shiftRight, Nat.mod_eq_of_lt h]

/-- A value below the field. -/
theorem field_of_lt (h : x < 2 ^ i) : field x i n = 0 := by
  rw [field, Nat.shiftRight_eq_div_pow, Nat.div_eq_of_lt h, Nat.zero_mod]

/-- A value above the field. -/
theorem field_shift_above (h : i + n ≤ k) : field (x <<< k) i n = 0 := by
  apply Nat.eq_of_testBit_eq
  intro j
  rw [testBit_field, Nat.testBit_shiftLeft, Nat.zero_testBit]
  by_cases hj : j < n
  · have hlow : ¬k ≤ i + j := by omega
    simp [hlow]
  · simp [hj]

theorem shift_lt {m : Nat} (hx : x < 2 ^ m) (h : k + m ≤ i) : x <<< k < 2 ^ i := by
  calc x <<< k = x * 2 ^ k := Nat.shiftLeft_eq x k
    _ < 2 ^ m * 2 ^ k := Nat.mul_lt_mul_of_pos_right hx (Nat.two_pow_pos k)
    _ = 2 ^ (k + m) := by rw [Nat.pow_add, Nat.mul_comm]
    _ ≤ 2 ^ i := Nat.pow_le_pow_right (by decide) h

/-- A value below the field is not seen in a word. -/
theorem field_or_of_lt (a : Nat) {b : Nat} (h : b < 2 ^ i) :
    field (a ||| b) i n = field a i n := by
  rw [field_or, field_of_lt h, Nat.or_zero]

/-- A value put below what is there adds up. -/
theorem or_eq_add {a b : Nat} (h : b < 2 ^ i) : a * 2 ^ i ||| b = a * 2 ^ i + b := by
  rw [Nat.mul_comm, Nat.two_pow_add_eq_or_of_lt h]

theorem field_zero_of_lt (h : x < 2 ^ n) : field x 0 n = x := Nat.mod_eq_of_lt h

theorem and_low_mask (w n : Nat) : w &&& (2 ^ n - 1) = field w 0 n :=
  Nat.and_two_pow_sub_one_eq_mod w n

theorem shift_and_low_mask (w i n : Nat) : w >>> i &&& (2 ^ n - 1) = field w i n :=
  Nat.and_two_pow_sub_one_eq_mod _ n

/-- `w & (1 << i) != 0`. -/
theorem and_bit_ne_zero (w i : Nat) : w &&& 2 ^ i ≠ 0 ↔ w.testBit i = true := by
  rw [Nat.and_two_pow]
  cases w.testBit i <;> simp

end Wyrmroot.Packed
