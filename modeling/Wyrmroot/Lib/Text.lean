import Mathlib.Data.List.Infix
import Wyrmroot.Lib.Bytes

/-!
# UTF-8

A Rust `&str` is a `String`; its bytes are `utf8`. `fromUtf8` is
`core::str::from_utf8`.
-/

namespace Wyrmroot

/-- `s.as_bytes()`. -/
def utf8 (s : String) : List UInt8 := s.toByteArray.data.toList

/-- `core::str::from_utf8(bytes).ok()`. -/
def fromUtf8 (bytes : List UInt8) : Option String := String.fromUTF8? ⟨bytes.toArray⟩

theorem fromUtf8_eq_some {bytes : List UInt8} {s : String} :
    fromUtf8 bytes = some s ↔ utf8 s = bytes := by
  unfold fromUtf8 String.fromUTF8? utf8
  constructor
  · intro h
    split at h
    · rw [← Option.some.inj h]
      rfl
    · cases h
  · intro h
    have harray : (⟨bytes.toArray⟩ : ByteArray) = s.toByteArray := by
      rw [← h, Array.toArray_toList]
    have hvalid : (⟨bytes.toArray⟩ : ByteArray).IsValidUTF8 := harray ▸ s.isValidUTF8
    rw [dif_pos hvalid]
    exact congrArg some (String.toByteArray_inj.mp harray)

@[simp] theorem fromUtf8_utf8 (s : String) : fromUtf8 (utf8 s) = some s :=
  fromUtf8_eq_some.mpr rfl

theorem utf8_inj {s t : String} (h : utf8 s = utf8 t) : s = t := by
  have hs := fromUtf8_utf8 s
  rw [h, fromUtf8_utf8] at hs
  exact (Option.some.inj hs).symm

/-! ## The bytes of one scalar -/

theorem utf8_eq_flatMap (s : String) : utf8 s = s.toList.flatMap String.utf8EncodeChar := by
  rw [utf8, ← String.utf8Encode_toList, List.utf8Encode, List.toList_data_toByteArray]

theorem utf8EncodeChar_ascii {c : Char} (h : c.toNat ≤ 0x7f) :
    String.utf8EncodeChar c = [UInt8.ofNat c.toNat] := if_pos h

/-- The lead byte tells how many bytes follow. -/
theorem utf8EncodeChar_multibyte {c : Char} (h : 0x7f < c.toNat) :
    ∃ lead tail, String.utf8EncodeChar c = lead :: tail ∧ 0xc2 ≤ lead ∧ lead ≤ 0xf4 ∧
      (lead < 0xe0 ∧ tail.length = 1 ∨ (0xe0 ≤ lead ∧ lead < 0xf0) ∧ tail.length = 2 ∨
        0xf0 ≤ lead ∧ tail.length = 3) ∧ ∀ b ∈ tail, 0x80 ≤ b ∧ b ≤ 0xbf := by
  have hc : c.toNat < 0x110000 := by
    rcases c.valid with hlt | hlt
    · exact Nat.lt_trans hlt (by decide)
    · exact hlt.2
  fun_cases String.utf8EncodeChar c with
  | case1 v hle => exact absurd h (Nat.not_lt.mpr hle)
  | case2 v h1 h2 =>
      refine ⟨_, _, rfl, ?_⟩
      simp [UInt8.le_iff_toNat_le, UInt8.lt_iff_toNat_lt]
      omega
  | case3 v h1 h2 h3 =>
      refine ⟨_, _, rfl, ?_⟩
      simp [UInt8.le_iff_toNat_le, UInt8.lt_iff_toNat_lt]
      omega
  | case4 v h1 h2 h3 =>
      have hv : v < 0x110000 := hc
      refine ⟨_, _, rfl, ?_⟩
      simp [UInt8.le_iff_toNat_le, UInt8.lt_iff_toNat_lt]
      omega

end Wyrmroot
