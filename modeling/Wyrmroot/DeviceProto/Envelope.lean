import Wyrmroot.Lib.Codec

/-!
# The common front of the device protocols

The records of `wyrmroot-device-proto` start alike: magic, version, type,
flags, size and handle count, and six `u64` words behind them. Each codec
reads and writes the words for itself; the 24 bytes in front are here.
-/

namespace Wyrmroot.DeviceProto

open Outcome

variable {ε : Type} {bytes : List UInt8} {magic : List UInt8} {minor : UInt16}
  {messageType handles : UInt32} {size : Nat}

def major : UInt16 := 1

def headerBytes : Nat := 72

/-- The stores every encoder makes behind `output.fill(0)`. -/
def putFront (magic : List UInt8) (minor : UInt16) (messageType : UInt32) (size : Nat)
    (handles : UInt32) : Fill ε Unit := do
  storeBytes 0 magic
  put16 4 major
  put16 6 minor
  put32 8 messageType
  put32 16 (UInt32.ofNat size)
  put32 20 handles

def front (magic : List UInt8) (minor : UInt16) (messageType : UInt32) (size : Nat)
    (handles : UInt32) : List UInt8 :=
  magic ++ (u16 major ++ (u16 minor ++ (u32 messageType ++ (u32 0 ++ (u32 (UInt32.ofNat size) ++
    u32 handles)))))

theorem length_front (hmagic : magic.length = 4) :
    (front magic minor messageType size handles).length = 24 := by
  simp [front, hmagic]

structure FrontAt (bytes magic : List UInt8) (minor : UInt16) (messageType : UInt32) (size : Nat)
    (handles : UInt32) : Prop where
  magic : Has bytes 0 magic
  major : Has bytes 4 (u16 major)
  minor : Has bytes 6 (u16 minor)
  messageType : Has bytes 8 (u32 messageType)
  flags : Has bytes 12 (u32 0)
  size : Has bytes 16 (u32 (UInt32.ofNat size))
  handles : Has bytes 20 (u32 handles)

theorem has_front (hmagic : magic.length = 4) :
    Has bytes 0 (front magic minor messageType size handles) ↔
      FrontAt bytes magic minor messageType size handles := by
  simp only [front, has_append, hmagic, length_u16, length_u32]
  constructor
  · rintro ⟨h0, h4, h6, h8, h12, h16, h20⟩
    exact ⟨h0, h4, h6, h8, h12, h16, h20⟩
  · rintro ⟨h0, h4, h6, h8, h12, h16, h20⟩
    exact ⟨h0, h4, h6, h8, h12, h16, h20⟩

theorem record_iff {rest : List UInt8} (hmagic : magic.length = 4) :
    bytes = front magic minor messageType size handles ++ rest ↔
      FrontAt bytes magic minor messageType size handles ∧ Has bytes 24 rest ∧
        bytes.length = 24 + rest.length := by
  rw [← has_front hmagic, ← has_whole, has_append, List.length_append, length_front hmagic,
    Nat.zero_add, and_assoc]

theorem putFront_turns (hmagic : magic.length = 4) :
    Turns (putFront magic minor messageType size handles : Fill ε Unit) () 0
      (List.replicate 24 0) (front magic minor messageType size handles) := by
  have hzeros : List.replicate 24 (0 : UInt8) = List.replicate 4 0 ++ (List.replicate 2 0 ++
      (List.replicate 2 0 ++ (List.replicate 4 0 ++ (u32 0 ++ (List.replicate 4 0 ++
        List.replicate 4 0))))) := rfl
  have hlen : (List.replicate 4 (0 : UInt8)).length = magic.length := hmagic.symm
  rw [hzeros]
  unfold putFront front
  refine .append (.storeAt rfl hlen) (.append (.storeAt ?_ rfl) (.append (.storeAt ?_ rfl)
    (.append (.storeAt ?_ rfl) (.behind (.append (.storeAt ?_ rfl) (.storeAt ?_ rfl))))))
  all_goals simp [hmagic]

section Sized

variable {α : Type} {n : Nat} {e : ε} {f : List UInt8 → Fill ε α} {out out' : List UInt8} {a : α}
  {w : List Empty}

/-- Every encoder asks for a buffer of the size of its message. -/
theorem sized_run (hlen : out.length = n) :
    (do let output ← .get; .lift (rejectIf (output.length ≠ n) e); f output : Fill ε α) out =
      f out out := by
  have hsize : (rejectIf (out.length ≠ n) e : Outcome ε Unit) = .ok () :=
    rejectIf_eq_ok.mpr (decide_eq_false (not_not.mpr hlen))
  rw [Prog.get_bind_run, hsize, Prog.lift_ok_bind]

theorem sized_accepts
    (h : (do let output ← .get; .lift (rejectIf (output.length ≠ n) e); f output : Fill ε α) out =
      (.ok a, out', w)) : out.length = n ∧ f out out = (.ok a, out', w) := by
  rw [Prog.get_bind_run] at h
  obtain ⟨_, hsize, h⟩ := Prog.lift_bind_eq_ok h
  rw [rejectIf_eq_ok, decide_eq_false_iff_not, not_not] at hsize
  exact ⟨hsize, h⟩

end Sized

section Words

variable {w₁ w₂ w₃ w₄ w₅ w₆ : UInt64} {body : List UInt8}

theorem words_iff (hmagic : magic.length = 4) :
    bytes = front magic minor messageType size handles ++ (u64s [w₁, w₂, w₃, w₄, w₅, w₆] ++ body) ↔
      FrontAt bytes magic minor messageType size handles ∧
        (Has bytes 24 (u64 w₁) ∧ Has bytes 32 (u64 w₂) ∧ Has bytes 40 (u64 w₃) ∧
          Has bytes 48 (u64 w₄) ∧ Has bytes 56 (u64 w₅) ∧ Has bytes 64 (u64 w₆)) ∧
        Has bytes headerBytes body ∧ bytes.length = headerBytes + body.length := by
  have hlen : 24 + (u64s [w₁, w₂, w₃, w₄, w₅, w₆] ++ body).length = headerBytes + body.length := by
    rw [List.length_append, length_u64s, ← Nat.add_assoc]
    rfl
  rw [record_iff hmagic, hlen]
  simp only [u64s_cons, u64s_nil, List.append_assoc, List.nil_append, has_append, length_u64,
    headerBytes, and_assoc]

theorem words_written {put : Fill ε Unit} {out : List UInt8} (hmagic : magic.length = 4)
    (hbody : Turns put () headerBytes (List.replicate body.length 0) body)
    (hlen : out.length = headerBytes + body.length) :
    (do
      fillZero
      putFront magic minor messageType size handles
      put64 24 w₁
      put64 32 w₂
      put64 40 w₃
      put64 48 w₄
      put64 56 w₅
      put64 64 w₆
      put) out = (.ok (), front magic minor messageType size handles ++
        (u64s [w₁, w₂, w₃, w₄, w₅, w₆] ++ body), []) := by
  have hzeros : List.replicate (headerBytes + body.length) (0 : UInt8) = List.replicate 24 0 ++
      (List.replicate 8 0 ++ (List.replicate 8 0 ++ (List.replicate 8 0 ++ (List.replicate 8 0 ++
        (List.replicate 8 0 ++ (List.replicate 8 0 ++ List.replicate body.length 0)))))) := by
    simp only [← List.replicate_add, headerBytes]
    congr 1
    omega
  have hfront : (front magic minor messageType size handles).length = 24 := length_front hmagic
  refine fillZero_bind ?_
  rw [hlen, hzeros]
  simp only [u64s_cons, u64s_nil, List.append_assoc, List.nil_append]
  refine .append (putFront_turns hmagic) (.append (.storeAt ?_ rfl) (.append (.storeAt ?_ rfl)
    (.append (.storeAt ?_ rfl) (.append (.storeAt ?_ rfl) (.append (.storeAt ?_ rfl)
      (.append (.storeAt ?_ rfl) ?_))))))
  rotate_right
  · simpa [hfront, headerBytes] using hbody
  all_goals simp [hfront]

end Words

theorem size_word {value : UInt32} {n : Nat} (hn : n < 4294967296) :
    value.toNat = n ↔ value = UInt32.ofNat n := by
  constructor
  · rintro rfl
    exact UInt32.ofNat_toNat.symm
  · rintro rfl
    exact UInt32.toNat_ofNat_of_lt hn

theorem FrontAt.minor_unique {magic' : List UInt8} {minor' : UInt16}
    {messageType' handles' : UInt32}
    {size' : Nat} (h : FrontAt bytes magic minor messageType size handles)
    (h' : FrontAt bytes magic' minor' messageType' size' handles') : minor = minor' := by
  have hwords := has_unique h.minor h'.minor rfl
  have hsome : getU16 (u16 minor) 0 = some minor' := by
    rw [hwords]
    exact getU16_eq_some.mpr (has_whole.mpr rfl).1
  have hself : getU16 (u16 minor) 0 = some minor := getU16_eq_some.mpr (has_whole.mpr rfl).1
  exact Option.some.inj (hself.symm.trans hsome)

end Wyrmroot.DeviceProto
