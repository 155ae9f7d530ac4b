import Wyrmroot.Lib.Codec
import Wyrmroot.Devmgr.Connector
import Wyrmroot.Loader.Launch

/-!
# WRST data records

`wyrmroot-stream-proto/src/lib.rs`: a record is a header of 24 bytes and a
payload of at most 1024.
-/

namespace Wyrmroot.Uart.StreamProto

open Outcome

def headerBytes : Nat := 24
def maxPayloadBytes : Nat := 1024
def maxRecordBytes : Nat := headerBytes + maxPayloadBytes

/-- `*b"WRST"`. -/
def magic : List UInt8 := [87, 82, 83, 84]

def major : UInt16 := 1
def minor : UInt16 := 0
def data : UInt16 := 1

inductive Error where
  | tooShort
  | magic
  | version
  | headerBytes
  | messageType
  | flags
  | payloadTooLarge
  | sizeMismatch
  | reserved
deriving DecidableEq

/-- The additions to the header size stay far below `usize::MAX`: the payload is bounded first. -/
def encodeData (payload : List UInt8) : Fill Error Nat := do
  .lift (rejectIf (maxPayloadBytes < payload.length) .payloadTooLarge)
  let size := headerBytes + payload.length
  let output ← .get
  .lift (rejectIf (output.length < size) .sizeMismatch)
  storeBytes 0 (List.replicate size 0)
  storeBytes 0 magic
  put16 4 major
  put16 6 minor
  put16 8 (UInt16.ofNat headerBytes)
  put16 10 data
  put32 16 (UInt32.ofNat payload.length)
  storeBytes headerBytes payload
  pure size

/-- The payload of a record. -/
def decodeData (bytes : List UInt8) : Outcome Error (List UInt8) := do
  rejectIf (bytes.length < headerBytes) .tooShort
  rejectIf ((← sliceAt bytes 0 4) ≠ magic) .magic
  rejectIf ((← get16 bytes 4) ≠ major || (← get16 bytes 6) ≠ minor) .version
  rejectIf ((← get16 bytes 8).toNat ≠ headerBytes) .headerBytes
  rejectIf ((← get16 bytes 10) ≠ data) .messageType
  rejectIf ((← get32 bytes 12) ≠ 0) .flags
  let payload := (← get32 bytes 16).toNat
  rejectIf (maxPayloadBytes < payload) .payloadTooLarge
  rejectIf ((← get32 bytes 20) ≠ 0) .reserved
  rejectIf (headerBytes + payload ≠ bytes.length) .sizeMismatch
  sliceAt bytes headerBytes payload

/-! ## Records -/

def header (length : Nat) : List UInt8 :=
  magic ++ (u16 major ++ (u16 minor ++ (u16 (UInt16.ofNat headerBytes) ++ (u16 data ++ (u32 0 ++
    (u32 (UInt32.ofNat length) ++ u32 0))))))

theorem length_header (length : Nat) : (header length).length = 24 := rfl

variable {payload : List UInt8}

theorem decodeData_length {bytes : List UInt8} (h : decodeData bytes = .ok payload) :
    payload.length ≤ maxPayloadBytes := by
  simp only [decodeData, bind_eq_ok, rejectIf_eq_ok, sliceAt_eq_ok, get16_eq_ok, get32_eq_ok,
    decide_eq_false_iff_not, exists_const] at h
  obtain ⟨-, _, -, -, _, -, _, -, -, _, -, -, _, -, -, _, -, -, length, -, hlarge, _, -, -, -, -,
    hlen⟩ := h
  omega

theorem decodeData_record (h : payload.length ≤ maxPayloadBytes) :
    decodeData (header payload.length ++ payload) = .ok payload := by
  have hparts := has_append.mp (has_whole.mpr
    (rfl : header payload.length ++ payload = _)).1
  obtain ⟨hheader, hpayload⟩ := hparts
  simp only [header, has_append, length_u16, length_u32] at hheader
  obtain ⟨hmagic, hmajor, hminor, hsize, htype, hflags, hlength, hreserved⟩ := hheader
  have hbound : payload.length ≤ 1024 := h
  have hword : (UInt32.ofNat payload.length).toNat = payload.length :=
    UInt32.toNat_ofNat_of_lt (Nat.lt_of_le_of_lt hbound (by decide))
  have hwhole : (header payload.length ++ payload).length = 24 + payload.length := by
    rw [List.length_append, length_header]
  simp only [decodeData, bind_eq_ok, rejectIf_eq_ok, sliceAt_eq_ok, get16_eq_ok, get32_eq_ok,
    decide_eq_false_iff_not, Bool.or_eq_false_iff, not_not, ne_eq, exists_const]
  refine ⟨?_, _, ⟨hmagic, rfl⟩, rfl, _, hmajor, _, hminor, ⟨rfl, rfl⟩, _, hsize, rfl, _, htype, rfl,
    _, hflags, rfl, _, hlength, ?_, _, hreserved, rfl, ?_, hpayload, hword.symm⟩
  · rw [hwhole]
    exact Nat.not_lt.mpr (Nat.le_add_right _ _)
  · rw [hword]
    exact Nat.not_lt.mpr h
  · rw [hword, hwhole]
    rfl

theorem encodeData_run {out : List UInt8} (hlarge : payload.length ≤ maxPayloadBytes)
    (hroom : headerBytes + payload.length ≤ out.length) :
    ∃ out', encodeData payload out = (.ok (headerBytes + payload.length), out', []) ∧
      out'.take (headerBytes + payload.length) = header payload.length ++ payload := by
  have hlen : (out.take (headerBytes + payload.length)).length =
      headerBytes + payload.length := List.length_take_of_le hroom
  have hturns : Turns (encodeData payload) (headerBytes + payload.length) 0
      (out.take (headerBytes + payload.length)) (header payload.length ++ payload) := by
    have hzeros : List.replicate (headerBytes + payload.length) (0 : UInt8) =
        List.replicate 4 0 ++ (List.replicate 2 0 ++ (List.replicate 2 0 ++ (List.replicate 2 0 ++
          (List.replicate 2 0 ++ (u32 0 ++ (List.replicate 4 0 ++ (u32 0 ++
            List.replicate payload.length 0))))))) := by
      rw [List.replicate_add]
      rfl
    have hsmall : (rejectIf (maxPayloadBytes < payload.length) .payloadTooLarge :
        Outcome Error Unit) = .ok () := rejectIf_eq_ok.mpr (decide_eq_false (Nat.not_lt.mpr hlarge))
    unfold encodeData
    refine .bind (.lift hsmall) (.get_bind fun output houtput => ?_)
    have hfits : (rejectIf (output.length < headerBytes + payload.length) .sizeMismatch :
        Outcome Error Unit) = .ok () := rejectIf_eq_ok.mpr (decide_eq_false (by omega))
    refine .bind (.lift hfits) (.bind (.storeAt rfl (hlen.trans List.length_replicate.symm)) ?_)
    show Turns _ _ _ (List.replicate (headerBytes + payload.length) 0) _
    rw [hzeros]
    simp only [header, List.append_assoc]
    refine .append (.storeAt rfl rfl) (.append (.storeAt rfl rfl) (.append (.storeAt rfl rfl)
      (.append (.storeAt rfl rfl) (.append (.storeAt rfl rfl) (.behind
        (.append (.storeAt rfl rfl) (.behind (.bind (.storeAt rfl ?_) (.pure _)))))))))
    exact List.length_replicate
  have hrun := hturns.run (out.drop (headerBytes + payload.length))
  rw [List.take_append_drop] at hrun
  refine ⟨_, hrun, ?_⟩
  exact List.take_left' (by rw [List.length_append, length_header]; rfl)

/-- A payload as it is sent. -/
def record (payload : List UInt8) : List UInt8 := header payload.length ++ payload

theorem encodeData_wire (h : payload.length ≤ maxPayloadBytes) :
    ∃ wire, encodeData payload (List.replicate maxRecordBytes 0) =
      (.ok (headerBytes + payload.length), wire, []) ∧
        wire.take (headerBytes + payload.length) = record payload := by
  refine encodeData_run h ?_
  rw [List.length_replicate]
  exact Nat.add_le_add_left h _

theorem decodeData_ne_panic (bytes : List UInt8) : decodeData bytes ≠ .panic := by
  unfold decodeData
  refine bind_ne_panic (rejectIf_ne_panic _ _) fun _ hshort => ?_
  have hlen : 24 ≤ bytes.length := Nat.not_lt.mp (decide_eq_false_iff_not.mp
    (rejectIf_eq_ok.mp hshort))
  refine bind_ne_panic (sliceAt_ne_panic (by omega)) fun _ _ => ?_
  refine bind_ne_panic (rejectIf_ne_panic _ _) fun _ _ => ?_
  refine bind_ne_panic (get16_ne_panic (by omega)) fun _ _ => ?_
  iterate 3
    refine bind_ne_panic (get16_ne_panic (by omega)) fun _ _ => ?_
    refine bind_ne_panic (rejectIf_ne_panic _ _) fun _ _ => ?_
  refine bind_ne_panic (get32_ne_panic (by omega)) fun _ _ => ?_
  refine bind_ne_panic (rejectIf_ne_panic _ _) fun _ _ => ?_
  refine bind_ne_panic (get32_ne_panic (by omega)) fun length _ => ?_
  refine bind_ne_panic (rejectIf_ne_panic _ _) fun _ _ => ?_
  refine bind_ne_panic (get32_ne_panic (by omega)) fun _ _ => ?_
  refine bind_ne_panic (rejectIf_ne_panic _ _) fun _ _ => ?_
  refine bind_ne_panic (rejectIf_ne_panic _ _) fun _ hsize => ?_
  have hwhole : headerBytes + length.toNat = bytes.length :=
    not_not.mp (decide_eq_false_iff_not.mp (rejectIf_eq_ok.mp hsize))
  exact sliceAt_ne_panic (Nat.le_of_eq hwhole)

end Wyrmroot.Uart.StreamProto
