import Mathlib.Data.Nat.Bitwise

/-!
# Sets of small numbers in a word

`1 << i` as the set of `i` alone, union by `|`, and the least element by
`trailing_zeros`. Taking an element out makes the word smaller and putting a
new one in makes it larger, which is what a loop over such a set ends by.
-/

namespace Wyrmroot.Mask

variable {w : Nat} {x : BitVec w} {i j : Nat}

/-- `1 << i`. -/
def bit (w i : Nat) : BitVec w := 1#w <<< i

/-- `x & !(1 << i)`. -/
def clear (x : BitVec w) (i : Nat) : BitVec w := x &&& ~~~(bit w i)

/-- `x.trailing_zeros()`. -/
def trailingZeros (x : BitVec w) : Nat := ((List.range w).find? x.getLsbD).getD w

theorem getLsbD_bit : (bit w i).getLsbD j = decide (j < w ∧ j = i) := by
  rw [bit, BitVec.getLsbD_shiftLeft, BitVec.getLsbD_one]
  by_cases hw : j < w
  · by_cases hij : j = i
    · subst hij
      simp [hw]
      omega
    · by_cases hlt : j < i
      · simp [hij, hlt]
      · have hne : j - i ≠ 0 := by omega
        simp [hij, hne]
  · simp [hw]

theorem getLsbD_clear : (clear x i).getLsbD j = (x.getLsbD j && decide (j ≠ i)) := by
  rw [clear, BitVec.getLsbD_and, BitVec.getLsbD_not, getLsbD_bit]
  by_cases hw : j < w
  · simp [hw]
  · rw [BitVec.getLsbD_of_ge _ _ (Nat.not_lt.mp hw)]
    rfl

theorem lt_of_getLsbD (h : x.getLsbD i = true) : i < w := by
  by_contra hge
  rw [BitVec.getLsbD_of_ge _ _ (Nat.not_lt.mp hge)] at h
  cases h

theorem getLsbD_trailingZeros (h : x ≠ 0#w) : x.getLsbD (trailingZeros x) = true := by
  rw [trailingZeros]
  cases hfind : (List.range w).find? x.getLsbD with
  | some i => exact List.find?_some hfind
  | none =>
      refine absurd (BitVec.eq_of_getLsbD_eq fun i hi => ?_) h
      have hnone := List.find?_eq_none.mp hfind i (List.mem_range.mpr hi)
      rw [BitVec.getLsbD_zero]
      exact Bool.eq_false_iff.mpr hnone

theorem toNat_clear_lt (h : x.getLsbD i = true) : (clear x i).toNat < x.toNat := by
  refine Nat.lt_of_le_of_ne ?_ fun heq => ?_
  · rw [clear, BitVec.toNat_and]
    exact Nat.and_le_left
  · have hbit : (clear x i).getLsbD i = x.getLsbD i := by rw [BitVec.eq_of_toNat_eq heq]
    rw [getLsbD_clear, h] at hbit
    simp at hbit

theorem and_bit_eq_zero (hi : i < w) : x &&& bit w i = 0#w ↔ x.getLsbD i = false := by
  constructor
  · intro h
    have hbit : (x &&& bit w i).getLsbD i = (0#w).getLsbD i := by rw [h]
    rw [BitVec.getLsbD_and, getLsbD_bit, BitVec.getLsbD_zero, decide_eq_true ⟨hi, rfl⟩,
      Bool.and_true] at hbit
    exact hbit
  · intro h
    refine BitVec.eq_of_getLsbD_eq fun j hj => ?_
    rw [BitVec.getLsbD_and, getLsbD_bit, BitVec.getLsbD_zero]
    by_cases hij : j = i
    · rw [hij, h]
      rfl
    · simp [hij]

theorem lt_toNat_or_bit (hi : i < w) (h : x.getLsbD i = false) : x.toNat <
    (x ||| bit w i).toNat := by
  refine Nat.lt_of_le_of_ne ?_ fun heq => ?_
  · rw [BitVec.toNat_or]
    exact Nat.left_le_or
  · have hbit : x.getLsbD i = (x ||| bit w i).getLsbD i := by
      rw [← BitVec.eq_of_toNat_eq heq]
    rw [BitVec.getLsbD_or, getLsbD_bit, h] at hbit
    simp [hi] at hbit

theorem bit_inj (hi : i < w) : bit w i = bit w j ↔ i = j := by
  constructor
  · intro h
    have hbit : (bit w i).getLsbD i = (bit w j).getLsbD i := by rw [h]
    rw [getLsbD_bit, getLsbD_bit, decide_eq_true ⟨hi, rfl⟩] at hbit
    exact (of_decide_eq_true hbit.symm).2
  · rintro rfl
    rfl

end Wyrmroot.Mask
