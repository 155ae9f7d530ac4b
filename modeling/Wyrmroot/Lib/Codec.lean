import Wyrmroot.Lib.Layout

/-!
# Fixed-width words in a message

`uN::to_le_bytes` and the checked readers over `slice`. The types carry the
ranges, so a reader that succeeds says which bytes stand at its offset and
nothing else.
-/

namespace Wyrmroot

def u16 (v : UInt16) : List UInt8 := leBytes 2 v.toNat

def u32 (v : UInt32) : List UInt8 := leBytes 4 v.toNat

def u64 (v : UInt64) : List UInt8 := leBytes 8 v.toNat

@[simp] theorem length_u16 (v : UInt16) : (u16 v).length = 2 := length_leBytes 2 _

@[simp] theorem length_u32 (v : UInt32) : (u32 v).length = 4 := length_leBytes 4 _

@[simp] theorem length_u64 (v : UInt64) : (u64 v).length = 8 := length_leBytes 8 _

/-- `u16::from_le_bytes(bytes.get(offset..offset + 2)?)`. -/
def getU16 (bytes : List UInt8) (offset : Nat) : Option UInt16 :=
  ((slice bytes offset 2).map leNat).map UInt16.ofNat

def getU32 (bytes : List UInt8) (offset : Nat) : Option UInt32 :=
  ((slice bytes offset 4).map leNat).map UInt32.ofNat

def getU64 (bytes : List UInt8) (offset : Nat) : Option UInt64 :=
  ((slice bytes offset 8).map leNat).map UInt64.ofNat

section Reads

variable {bytes : List UInt8} {offset : Nat}

/-- A typed read finds the bytes of its value, if the value goes through
`Nat` unchanged. -/
theorem read_iff {n : Nat} {w : Type} {ofNat : Nat → w} {toNat : w → Nat}
    (hof : ∀ v, ofNat (toNat v) = v) (hto : ∀ k < 256 ^ n, toNat (ofNat k) = k)
    (hlt : ∀ v, toNat v < 256 ^ n) {v : w} :
    ((slice bytes offset n).map leNat).map ofNat = some v ↔
      Has bytes offset (leBytes n (toNat v)) := by
  rw [Option.map_eq_some_iff]
  constructor
  · rintro ⟨k, hk, rfl⟩
    obtain ⟨hhas, hbound⟩ := readsLE_iff.mp hk
    rwa [hto k hbound]
  · intro h
    exact ⟨toNat v, readsLE_iff.mpr ⟨h, hlt v⟩, hof v⟩

theorem getU16_eq_some {v : UInt16} : getU16 bytes offset = some v ↔ Has bytes offset (u16 v) :=
  read_iff (fun _ => UInt16.ofNat_toNat) (fun _ h => UInt16.toNat_ofNat_of_lt h)
    UInt16.toNat_lt

theorem getU32_eq_some {v : UInt32} : getU32 bytes offset = some v ↔ Has bytes offset (u32 v) :=
  read_iff (fun _ => UInt32.ofNat_toNat) (fun _ h => UInt32.toNat_ofNat_of_lt h)
    UInt32.toNat_lt

theorem getU64_eq_some {v : UInt64} : getU64 bytes offset = some v ↔ Has bytes offset (u64 v) :=
  read_iff (fun _ => UInt64.ofNat_toNat) (fun _ h => UInt64.toNat_ofNat_of_lt h)
    UInt64.toNat_lt

end Reads

/-! ## Masks -/

/-- A word without bits outside a mask. -/
theorem and_of_and_not {w : Nat} {x mask : BitVec w} (h : x &&& ~~~mask = 0#w) :
    x &&& mask = x := by
  apply BitVec.eq_of_getLsbD_eq
  intro i hi
  have hbit := congrArg (fun b => b.getLsbD i) h
  simp only [BitVec.getLsbD_and, BitVec.getLsbD_not, hi, decide_true, Bool.true_and,
    BitVec.getLsbD_zero] at hbit ⊢
  generalize x.getLsbD i = a at *
  generalize mask.getLsbD i = b at *
  cases a <;> cases b <;> simp_all

/-! ## Arrays of words -/

def u64s (vs : List UInt64) : List UInt8 := vs.flatMap u64

@[simp] theorem u64s_nil : u64s [] = [] := rfl

@[simp] theorem u64s_cons (v : UInt64) (vs : List UInt64) : u64s (v :: vs) = u64 v ++ u64s vs := rfl

@[simp] theorem length_u64s (vs : List UInt64) : (u64s vs).length = vs.length * 8 := by
  induction vs with
  | nil => rfl
  | cons v vs ih =>
      rw [u64s_cons, List.length_append, length_u64, ih, List.length_cons]
      omega

theorem getU64_u64s (vs : List UInt64) : ∀ i, getU64 (u64s vs) (i * 8) = vs[i]? := by
  induction vs with
  | nil =>
      intro i
      simp [getU64, slice, u64s]
  | cons v vs ih =>
      intro i
      rw [u64s_cons]
      cases i with
      | zero => exact getU64_eq_some.mpr (has_iff.mpr ⟨[], u64s vs, rfl, rfl⟩)
      | succ i =>
          have hshift : getU64 (u64 v ++ u64s vs) ((i + 1) * 8) = getU64 (u64s vs) (i * 8) := by
            unfold getU64
            rw [slice_append_right (by rw [length_u64]; omega), length_u64,
              show (i + 1) * 8 - 8 = i * 8 by omega]
          rw [hshift, ih, List.getElem?_cons_succ]

/-- Bytes in multiples of eight are words. -/
theorem exists_u64s : ∀ (n : Nat) {bytes : List UInt8}, bytes.length = n * 8 →
    ∃ vs : List UInt64, vs.length = n ∧ u64s vs = bytes := by
  intro n
  induction n with
  | zero =>
      intro bytes h
      exact ⟨[], rfl, (List.length_eq_zero_iff.mp (by omega)).symm⟩
  | succ n ih =>
      intro bytes h
      obtain ⟨vs, hvs, hrest⟩ := @ih (bytes.drop 8) (by rw [List.length_drop]; omega)
      obtain ⟨v, hv⟩ : ∃ v, getU64 bytes 0 = some v := by
        rw [getU64, slice_isSome (by omega)]
        exact ⟨_, rfl⟩
      have hfirst := eq_slice_append (getU64_eq_some.mp hv)
      rw [length_u64, List.drop_zero, Nat.zero_add] at hfirst
      exact ⟨v :: vs, by rw [List.length_cons, hvs], by rw [u64s_cons, hrest, ← hfirst]⟩

/-!
## Codecs over a caller's buffer

A writer that fills a buffer of exactly the message's size, and a reader of
such a buffer. The two undo one another (`Inverse`) as soon as both are
described by one text: the reader accepts the texts of the messages it
returns, and the writer leaves them.
-/

variable {ε ε' M : Type}

/-- What `encode` accepts is parsed back, and what `parse` accepts is
written again byte for byte. -/
structure Inverse (encode : M → Fill ε Unit) (parse : List UInt8 → Outcome ε' M) : Prop where
  parse_encode : ∀ {message : M} {out out' : List UInt8} {w : List Empty},
    encode message out = (.ok (), out', w) → parse out' = .ok message
  encode_parse : ∀ {message : M} {bytes out : List UInt8},
    parse bytes = .ok message → out.length = bytes.length →
      encode message out = (.ok (), bytes, [])

theorem Inverse.of_text {encode : M → Fill ε Unit} {parse : List UInt8 → Outcome ε' M}
    (Ok : M → Prop) (text : M → List UInt8)
    (reads : ∀ {bytes : List UInt8} {message : M},
      parse bytes = .ok message ↔ Ok message ∧ bytes = text message)
    (accepts : ∀ {message : M} {out out' : List UInt8} {w : List Empty},
      encode message out = (.ok (), out', w) → Ok message ∧ out.length = (text message).length)
    (writes : ∀ {message : M} {out : List UInt8}, Ok message →
      out.length = (text message).length → encode message out = (.ok (), text message, [])) :
    Inverse encode parse where
  parse_encode := by
    intro message out out' w h
    obtain ⟨hok, hlen⟩ := accepts h
    rw [writes hok hlen] at h
    obtain ⟨-, hrest⟩ := Prod.mk.inj h
    obtain ⟨rfl, -⟩ := Prod.mk.inj hrest
    exact reads.mpr ⟨hok, rfl⟩
  encode_parse := by
    intro message bytes out h hlen
    obtain ⟨hok, rfl⟩ := reads.mp h
    exact writes hok hlen

/-! ## Words at fixed offsets -/

section Reads

open Outcome

variable {bytes : List UInt8} {offset : Nat}

/-- `u16::from_le_bytes([bytes[offset], bytes[offset + 1]])`. -/
def get16 (bytes : List UInt8) (offset : Nat) : Outcome ε UInt16 := unwrap (getU16 bytes offset)

/-- `u32::from_le_bytes(bytes[offset..offset + 4].try_into().expect(..))`. -/
def get32 (bytes : List UInt8) (offset : Nat) : Outcome ε UInt32 := unwrap (getU32 bytes offset)

def get64 (bytes : List UInt8) (offset : Nat) : Outcome ε UInt64 := unwrap (getU64 bytes offset)

@[simp] theorem get16_eq_ok {v : UInt16} :
    (get16 bytes offset : Outcome ε _) = .ok v ↔ Has bytes offset (u16 v) :=
  unwrap_eq_ok.trans getU16_eq_some

@[simp] theorem get32_eq_ok {v : UInt32} :
    (get32 bytes offset : Outcome ε _) = .ok v ↔ Has bytes offset (u32 v) :=
  unwrap_eq_ok.trans getU32_eq_some

@[simp] theorem get64_eq_ok {v : UInt64} :
    (get64 bytes offset : Outcome ε _) = .ok v ↔ Has bytes offset (u64 v) :=
  unwrap_eq_ok.trans getU64_eq_some

theorem unwrap_slice_ne_panic {w : Type} {n : Nat} {f : Nat → w} (h : offset + n ≤ bytes.length) :
    (unwrap (((slice bytes offset n).map leNat).map f) : Outcome ε w) ≠ .panic := by
  rw [slice_isSome h]
  exact ok_ne_panic _

theorem get16_ne_panic (h : offset + 2 ≤ bytes.length) :
    (get16 bytes offset : Outcome ε _) ≠ .panic := unwrap_slice_ne_panic h

theorem get32_ne_panic (h : offset + 4 ≤ bytes.length) :
    (get32 bytes offset : Outcome ε _) ≠ .panic := unwrap_slice_ne_panic h

end Reads

def put16 (offset : Nat) (value : UInt16) : Fill ε Unit := storeBytes offset (u16 value)

def put32 (offset : Nat) (value : UInt32) : Fill ε Unit := storeBytes offset (u32 value)

def put64 (offset : Nat) (value : UInt64) : Fill ε Unit := storeBytes offset (u64 value)

/-- `output.fill(0)`. -/
def fillZero : Fill ε Unit := .modify fun output => List.replicate output.length 0

/-- A writer that clears the buffer and then turns the cleared buffer into
the text. -/
theorem fillZero_bind {α : Type} {f : Unit → Fill ε α} {a : α} {out text : List UInt8}
    (h : Turns (f ()) a 0 (List.replicate out.length 0) text) :
    (fillZero >>= f) out = (.ok a, text, []) := by
  have hrun := h.run []
  rw [List.append_nil, List.append_nil] at hrun
  have hclear : (fillZero : Fill ε Unit) out = (.ok (), List.replicate out.length 0, []) := rfl
  rw [Prog.bind_run_ok hclear, hrun]
  rfl

/-- `n` zeros. -/
abbrev blank (n : Nat) : List UInt8 := List.replicate n 0

end Wyrmroot
