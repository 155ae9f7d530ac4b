import Mathlib.Data.List.Infix
import Wyrmroot.Lib.Bytes

/-!
# Decimal numbers

`decimal n` are the bytes of `n` in decimal. A string of digits that does not begin
with a zero is the decimal of what it is worth, so a number has one spelling.
-/

namespace Wyrmroot

/-- `format!("{n}")`. -/
def decimal (n : Nat) : List UInt8 := (Nat.toDigits 10 n).map fun c => UInt8.ofNat c.toNat

def isDigit (byte : UInt8) : Bool := 48 ≤ byte && byte ≤ 57

/-- What a string of digits is worth. -/
def worth (bytes : List UInt8) : Nat := bytes.foldl (fun n byte => 10 * n + (byte - 48).toNat) 0

variable {n : Nat} {bytes : List UInt8} {byte : UInt8}

theorem isDigit_iff : isDigit byte = true ↔ 48 ≤ byte.toNat ∧ byte.toNat ≤ 57 := by
  rw [isDigit, Bool.and_eq_true, decide_eq_true_iff, decide_eq_true_iff, UInt8.le_iff_toNat_le,
    UInt8.le_iff_toNat_le]
  rfl

theorem toNat_digit (h : n < 10) : (UInt8.ofNat (48 + n)).toNat = 48 + n :=
  UInt8.toNat_ofNat_of_lt' (Nat.lt_of_lt_of_le (Nat.add_lt_add_left h 48) (by decide))

theorem isDigit_digit (h : n < 10) : isDigit (UInt8.ofNat (48 + n)) = true := by
  rw [isDigit_iff, toNat_digit h]
  omega

theorem digit_sub (h : n < 10) : (UInt8.ofNat (48 + n) - 48).toNat = n := by
  rw [UInt8.toNat_sub_of_le _ _ (by rw [UInt8.le_iff_toNat_le, toNat_digit h]; exact Nat.le_add_right _ _),
    toNat_digit h]
  exact Nat.add_sub_cancel_left ..

/-- A digit is `b'0'` and its worth. -/
theorem digit_eq (h : isDigit byte = true) :
    (byte - 48).toNat < 10 ∧ byte = UInt8.ofNat (48 + (byte - 48).toNat) := by
  obtain ⟨hlow, hhigh⟩ := isDigit_iff.mp h
  have hsub : (byte - 48).toNat = byte.toNat - 48 :=
    UInt8.toNat_sub_of_le _ _ (UInt8.le_iff_toNat_le.mpr hlow)
  have hlt : (byte - 48).toNat < 10 := by omega
  refine ⟨hlt, UInt8.toNat_inj.mp ?_⟩
  rw [toNat_digit hlt, hsub]
  omega

theorem decimal_digit (h : n < 10) : decimal n = [UInt8.ofNat (48 + n)] := by
  rw [decimal, Nat.toDigits_of_lt_base h, List.map_singleton, Nat.toNat_digitChar_of_lt_ten h]

theorem decimal_snoc (h : 10 ≤ n) :
    decimal n = decimal (n / 10) ++ [UInt8.ofNat (48 + n % 10)] := by
  rw [decimal, Nat.toDigits_of_base_le (by decide) h, List.map_append, List.map_singleton,
    Nat.toNat_digitChar_of_lt_ten (Nat.mod_lt _ (by decide))]
  rfl

theorem worth_snoc (bytes : List UInt8) (byte : UInt8) :
    worth (bytes ++ [byte]) = 10 * worth bytes + (byte - 48).toNat := by
  rw [worth, List.foldl_append]
  rfl

theorem decimal_ne_nil (n : Nat) : decimal n ≠ [] := by
  rcases Nat.lt_or_ge n 10 with h | h
  · rw [decimal_digit h]
    exact List.cons_ne_nil _ _
  · rw [decimal_snoc h]
    exact List.append_ne_nil_of_right_ne_nil _ (List.cons_ne_nil _ _)

/-- A decimal is worth its number. -/
theorem worth_decimal (n : Nat) : worth (decimal n) = n := by
  induction n using Nat.strongRecOn with
  | ind n ih =>
    rcases Nat.lt_or_ge n 10 with h | h
    · rw [decimal_digit h]
      exact (Nat.zero_add _).trans (digit_sub h)
    · rw [decimal_snoc h, worth_snoc, ih (n / 10) (by omega), digit_sub (Nat.mod_lt _ (by decide))]
      omega

theorem isDigit_of_mem_decimal (h : byte ∈ decimal n) : isDigit byte = true := by
  induction n using Nat.strongRecOn with
  | ind n ih =>
    rcases Nat.lt_or_ge n 10 with hn | hn
    · rw [decimal_digit hn] at h
      rw [List.mem_singleton.mp h]
      exact isDigit_digit hn
    · rw [decimal_snoc hn] at h
      rcases List.mem_append.mp h with hmem | hmem
      · exact ih (n / 10) (by omega) hmem
      · rw [List.mem_singleton.mp hmem]
        exact isDigit_digit (Nat.mod_lt _ (by decide))

/-- Only the decimal of zero begins with a zero. -/
theorem head_decimal (h : 0 < n) : (decimal n).head? ≠ some 48 := by
  induction n using Nat.strongRecOn with
  | ind n ih =>
    rcases Nat.lt_or_ge n 10 with hn | hn
    · rw [decimal_digit hn]
      intro hzero
      have hbyte := congrArg UInt8.toNat (Option.some.inj hzero)
      rw [toNat_digit hn] at hbyte
      have heq : 48 + n = 48 := hbyte
      omega
    · rw [decimal_snoc hn, List.head?_append_of_ne_nil _ (decimal_ne_nil _)]
      exact ih (n / 10) (by omega) (by omega)

theorem length_decimal_le {k : Nat} (hk : 0 < k) (h : n < 10 ^ k) : (decimal n).length ≤ k := by
  induction k generalizing n with
  | zero => exact absurd hk (Nat.lt_irrefl 0)
  | succ k ih =>
      rcases Nat.lt_or_ge n 10 with hn | hn
      · rw [decimal_digit hn]
        exact Nat.succ_le_succ (Nat.zero_le k)
      · rw [decimal_snoc hn, List.length_append]
        refine Nat.succ_le_succ (ih ?_ ?_)
        · rcases Nat.eq_zero_or_pos k with rfl | hpos
          · exact absurd h (Nat.not_lt.mpr hn)
          · exact hpos
        · rw [Nat.pow_succ] at h
          exact Nat.div_lt_of_lt_mul (by rwa [Nat.mul_comm])

/-- Digits that do not begin with a zero are worth something. -/
theorem worth_pos (hne : bytes ≠ []) (hdigits : ∀ byte ∈ bytes, isDigit byte = true)
    (hhead : bytes.head? ≠ some 48) : 0 < worth bytes := by
  induction bytes using List.reverseRecOn with
  | nil => exact absurd rfl hne
  | append_singleton front last ih =>
      rw [worth_snoc]
      rcases List.eq_nil_or_concat' front with rfl | ⟨front', first, rfl⟩
      · have hlast := hdigits last (List.mem_append_right _ List.mem_cons_self)
        have hne : (last - 48).toNat ≠ 0 := by
          intro hzero
          refine hhead ?_
          rw [List.nil_append, List.head?_cons, (digit_eq hlast).2, hzero]
          rfl
        omega
      · have hpos := ih (List.append_ne_nil_of_right_ne_nil _ (List.cons_ne_nil _ _))
          (fun byte hbyte => hdigits byte (List.mem_append_left _ hbyte))
          (by rwa [List.head?_append_of_ne_nil _
            (List.append_ne_nil_of_right_ne_nil _ (List.cons_ne_nil _ _))] at hhead)
        omega

/-- Digits that do not begin with a zero are the decimal of their worth. -/
theorem decimal_worth (hne : bytes ≠ []) (hdigits : ∀ byte ∈ bytes, isDigit byte = true)
    (hhead : bytes.head? ≠ some 48) : decimal (worth bytes) = bytes := by
  induction bytes using List.reverseRecOn with
  | nil => exact absurd rfl hne
  | append_singleton front last ih =>
      obtain ⟨hlt, hlast⟩ := digit_eq (hdigits last (List.mem_append_right _ List.mem_cons_self))
      rcases List.eq_nil_or_concat' front with rfl | ⟨front', first, hfront⟩
      · rw [worth_snoc, worth, List.foldl_nil, Nat.mul_zero, Nat.zero_add, decimal_digit hlt, ← hlast]
        rfl
      · have hne' : front ≠ [] := by
          rw [hfront]
          exact List.append_ne_nil_of_right_ne_nil _ (List.cons_ne_nil _ _)
        have hdigits' : ∀ byte ∈ front, isDigit byte = true :=
          fun byte hbyte => hdigits byte (List.mem_append_left _ hbyte)
        rw [List.head?_append_of_ne_nil _ hne'] at hhead
        have hpos := worth_pos hne' hdigits' hhead
        have hdiv : (10 * worth front + (last - 48).toNat) / 10 = worth front := by omega
        have hmod : (10 * worth front + (last - 48).toNat) % 10 = (last - 48).toNat := by omega
        rw [worth_snoc, decimal_snoc (by omega), hdiv, hmod, ih hne' hdigits' hhead, ← hlast]

end Wyrmroot
