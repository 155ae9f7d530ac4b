import Mathlib.Algebra.Group.Nat.Defs
import Wyrmroot.Lib.Prog

/-!
# Byte buffers

What the wire formats need of `[u8]`: little-endian integers, sub-slices
that may not exist, and code that fills a caller's buffer. Such code is a
`Prog` whose state is the buffer; `Fills` says that it succeeds on every
buffer of some length, and composes.
-/

namespace Wyrmroot

/-! ## Little-endian integers -/

/-- `uN::from_le_bytes`. -/
def leNat : List UInt8 → Nat
  | [] => 0
  | b :: bytes => b.toNat + 256 * leNat bytes

/-- `to_le_bytes` of an `n`-byte integer. -/
def leBytes : Nat → Nat → List UInt8
  | 0, _ => []
  | n + 1, v => UInt8.ofNat (v % 256) :: leBytes n (v / 256)

@[simp] theorem length_leBytes (n v : Nat) : (leBytes n v).length = n := by
  induction n generalizing v with
  | zero => rfl
  | succ n ih => simp [leBytes, ih]

/-! ## Slices -/

/-- `bytes.get(offset..offset + n)`. -/
def slice (bytes : List UInt8) (offset n : Nat) : Option (List UInt8) :=
  if offset + n ≤ bytes.length then some ((bytes.drop offset).take n) else none

theorem slice_isSome {bytes : List UInt8} {offset n : Nat} (h : offset + n ≤ bytes.length) :
    slice bytes offset n = some ((bytes.drop offset).take n) := if_pos h

theorem slice_eq_some {bytes part : List UInt8} {offset n : Nat} :
    slice bytes offset n = some part ↔
      offset + n ≤ bytes.length ∧ (bytes.drop offset).take n = part := by
  unfold slice
  by_cases hfit : offset + n ≤ bytes.length
  · simp [hfit]
  · simp [hfit]

theorem slice_length {bytes part : List UInt8} {offset n : Nat}
    (h : slice bytes offset n = some part) : part.length = n := by
  obtain ⟨hfit, rfl⟩ := slice_eq_some.mp h
  rw [List.length_take, List.length_drop]
  omega

/-- `bytes[offset..offset + n]`. -/
def sliceAt {ε : Type} (bytes : List UInt8) (offset n : Nat) : Outcome ε (List UInt8) :=
  match slice bytes offset n with
  | some s => .ok s
  | none => .panic

/-- `bytes[offset..]`. -/
def sliceFrom {ε : Type} (bytes : List UInt8) (offset : Nat) : Outcome ε (List UInt8) :=
  if offset ≤ bytes.length then .ok (bytes.drop offset) else .panic

/-- `bytes[i]`. -/
def byteAt {ε : Type} (bytes : List UInt8) (i : Nat) : Outcome ε Nat :=
  match bytes[i]? with
  | some b => .ok b.toNat
  | none => .panic

/-- `uN::from_le_bytes(bytes[offset..offset + n])`. -/
def getLE {ε : Type} (n : Nat) (bytes : List UInt8) (offset : Nat) : Outcome ε Nat :=
  match slice bytes offset n with
  | some s => .ok (leNat s)
  | none => .panic

theorem sliceAt_ok {ε : Type} {bytes : List UInt8} {offset n : Nat}
    (h : offset + n ≤ bytes.length) :
    (sliceAt bytes offset n : Outcome ε _) = .ok ((bytes.drop offset).take n) := by
  rw [sliceAt, slice_isSome h]

theorem getLE_ok {ε : Type} {n offset : Nat} {bytes : List UInt8}
    (h : offset + n ≤ bytes.length) :
    (getLE n bytes offset : Outcome ε _) = .ok (leNat ((bytes.drop offset).take n)) := by
  rw [getLE, slice_isSome h]

theorem sliceAt_ne_panic {ε : Type} {bytes : List UInt8} {offset n : Nat}
    (h : offset + n ≤ bytes.length) : (sliceAt bytes offset n : Outcome ε _) ≠ .panic := by
  rw [sliceAt_ok h]
  exact nofun

theorem getLE_ne_panic {ε : Type} {n offset : Nat} {bytes : List UInt8}
    (h : offset + n ≤ bytes.length) : (getLE n bytes offset : Outcome ε _) ≠ .panic := by
  rw [getLE_ok h]
  exact nofun

theorem leNat_lt (bytes : List UInt8) : leNat bytes < 256 ^ bytes.length := by
  induction bytes with
  | nil => simp [leNat]
  | cons b bytes ih =>
      have hb := b.toNat_lt
      rw [leNat, List.length_cons, Nat.pow_succ]
      omega

/-! ## Filling a buffer -/

/-- Code that writes into a buffer. -/
abbrev Fill (ε α : Type) := Prog (List UInt8) Empty ε α

/-- The buffer with `new` at `offset`. -/
def splice (bytes : List UInt8) (offset : Nat) (new : List UInt8) : List UInt8 :=
  bytes.take offset ++ new ++ bytes.drop (offset + new.length)

theorem length_splice {bytes new : List UInt8} {offset : Nat}
    (h : offset + new.length ≤ bytes.length) :
    (splice bytes offset new).length = bytes.length := by
  simp only [splice, List.length_append, List.length_take, List.length_drop]
  omega

/-- `bytes.get_mut(offset..offset + n).ok_or(e)?.copy_from_slice(new)`. -/
def putBytes {ε : Type} (e : ε) (offset : Nat) (new : List UInt8) : Fill ε Unit := fun out =>
  if offset + new.length ≤ out.length then (.ok (), splice out offset new, [])
  else (.err e, out, [])

/-- `bytes[offset..offset + n].copy_from_slice(new)`. -/
def storeBytes {ε : Type} (offset : Nat) (new : List UInt8) : Fill ε Unit := fun out =>
  if offset + new.length ≤ out.length then (.ok (), splice out offset new, [])
  else (.panic, out, [])

/-- On every buffer of length `n` the code returns `a` and keeps the length. -/
def Fills {ε α : Type} (n : Nat) (m : Fill ε α) (a : α) : Prop :=
  ∀ out, out.length = n → (m out).1 = .ok a ∧ (m out).2.1.length = n

namespace Fills

variable {ε α β : Type} {n : Nat}

theorem pure (a : α) : Fills n (Pure.pure a : Fill ε α) a := fun _ h => ⟨rfl, h⟩

theorem bind {m : Fill ε α} {f : α → Fill ε β} {a : α} {b : β} (hm : Fills n m a)
    (hf : Fills n (f a) b) : Fills n (m >>= f) b := by
  intro out h
  obtain ⟨hok, hlen⟩ := hm out h
  rcases hrun : m out with ⟨o, out', w⟩
  rw [hrun] at hok hlen
  obtain rfl : o = .ok a := hok
  rw [Prog.bind_run_ok hrun]
  exact hf out' hlen

theorem get_bind {f : List UInt8 → Fill ε α} {a : α}
    (h : ∀ out : List UInt8, out.length = n → Fills n (f out) a) :
    Fills n (Prog.get >>= f) a := by
  intro out hlen
  rw [Prog.bind_run_ok (Prog.get_run out)]
  exact h out hlen out hlen

theorem store {offset : Nat} {new : List UInt8} (h : offset + new.length ≤ n) :
    Fills n (storeBytes offset new : Fill ε Unit) () := by
  intro out hlen
  have hfit : offset + new.length ≤ out.length := hlen ▸ h
  rw [storeBytes, if_pos hfit]
  exact ⟨rfl, (length_splice hfit).trans hlen⟩

end Fills

end Wyrmroot
