import Wyrmroot.Registry.Codec

/-!
# What the codec promises the service

A header decodes without a panic, and a request whose type the service accepts
parses without one.
-/

namespace Wyrmroot.Registry

open Outcome

/-! ## Reading -/

section Reading

variable {bytes : List UInt8} {α : Type}

@[simp] theorem failIf_eq_ok {c : Bool} {e : Error} {u : Unit} :
    failIf c e = .ok u ↔ c = false := by
  cases c <;> simp [failIf]

theorem failIf_ne_panic (c : Bool) (e : Error) : failIf c e ≠ .panic := by
  cases c <;> simp [failIf]

theorem readLE_ne_panic (n : Nat) (bytes : List UInt8) (offset : Nat) :
    readLE n bytes offset ≠ .panic := by
  unfold readLE
  cases slice bytes offset n <;> simp

theorem sliceFrom_ne_panic {offset : Nat} (h : offset ≤ bytes.length) :
    (sliceFrom bytes offset : Parse (List UInt8)) ≠ .panic := by
  simp [sliceFrom, h]

theorem MessageType.parse_ne_panic (code : Nat) : MessageType.parse code ≠ .panic := by
  unfold MessageType.parse
  split <;> simp

theorem validateName_ne_panic (name : Name) : validateName name ≠ .panic := by
  unfold validateName
  split
  · simp
  · split
    · simp
    · split <;> simp

theorem readVersions_ne_panic (bytes : List UInt8) : ∀ (count offset : Nat),
    readVersions bytes offset count ≠ .panic
  | 0, _ => by simp [readVersions]
  | count + 1, offset => by
      refine bind_ne_panic ?_ fun version _ =>
        bind_ne_panic (readVersions_ne_panic bytes count (offset + 4)) fun _ _ => pure_ne_panic _
      exact bind_ne_panic (readLE_ne_panic _ _ _) fun _ _ =>
        bind_ne_panic (readLE_ne_panic _ _ _) fun _ _ => pure_ne_panic _

theorem VersionList.ofBytes_ne_panic (bytes : List UInt8) : VersionList.ofBytes bytes ≠ .panic := by
  refine bind_ne_panic (readVersions_ne_panic bytes _ _) fun versions _ => ?_
  split
  · split <;> simp
  · simp

theorem decodeHeader_ne_panic (bytes : List UInt8) : decodeHeader bytes ≠ .panic := by
  refine bind_ne_panic (failIf_ne_panic _ _) fun _ hlen => ?_
  have hsize : headerBytes ≤ bytes.length := by simpa using hlen
  refine bind_ne_panic (sliceAt_ne_panic ?_) fun _ _ => ?_
  · exact Nat.le_trans (by decide) hsize
  · repeat' first
      | exact failIf_ne_panic _ _
      | exact readLE_ne_panic _ _ _
      | exact pure_ne_panic _
      | refine bind_ne_panic ?_ fun _ _ => ?_

theorem parseHeader_ne_panic (bytes : List UInt8) : parseHeader bytes ≠ .panic := by
  refine bind_ne_panic (failIf_ne_panic _ _) fun _ hlen => ?_
  have hsize : headerBytes ≤ bytes.length := by simpa using hlen
  refine bind_ne_panic (sliceAt_ne_panic ?_) fun _ _ => ?_
  · exact Nat.le_trans (by decide) hsize
  · repeat' first
      | exact failIf_ne_panic _ _
      | exact readLE_ne_panic _ _ _
      | exact MessageType.parse_ne_panic _
      | exact pure_ne_panic _
      | refine bind_ne_panic ?_ fun _ _ => ?_
      | split

theorem parseInstallPublication_ne_panic (bytes : List UInt8) :
    parseInstallPublication bytes ≠ .panic := by
  unfold parseInstallPublication
  refine bind_ne_panic (failIf_ne_panic _ _) fun _ _ => ?_
  refine bind_ne_panic (readLE_ne_panic _ _ _) fun _ _ => ?_
  refine bind_ne_panic (readLE_ne_panic _ _ _) fun _ _ => ?_
  refine bind_ne_panic (failIf_ne_panic _ _) fun _ _ => ?_
  refine bind_ne_panic (readLE_ne_panic _ _ _) fun count _ => ?_
  refine bind_ne_panic (readLE_ne_panic _ _ _) fun nameLen _ => ?_
  refine bind_ne_panic (failIf_ne_panic _ _) fun _ _ => ?_
  refine bind_ne_panic (failIf_ne_panic _ _) fun _ htotal => ?_
  have hsize : 120 + count * 4 + nameLen = bytes.length := by simpa using htotal
  refine bind_ne_panic (sliceAt_ne_panic (by omega)) fun _ _ => ?_
  refine bind_ne_panic (VersionList.ofBytes_ne_panic _) fun _ _ => ?_
  refine bind_ne_panic (sliceFrom_ne_panic (by omega)) fun _ _ => ?_
  refine bind_ne_panic (validateName_ne_panic _) fun _ _ => ?_
  repeat' first
    | exact failIf_ne_panic _ _
    | exact readLE_ne_panic _ _ _
    | exact pure_ne_panic _
    | refine bind_ne_panic ?_ fun _ _ => ?_

theorem parseInstallClient_ne_panic (bytes : List UInt8) : parseInstallClient bytes ≠ .panic := by
  unfold parseInstallClient
  repeat' first
    | exact failIf_ne_panic _ _
    | exact readLE_ne_panic _ _ _
    | exact pure_ne_panic _
    | refine bind_ne_panic ?_ fun _ _ => ?_
    | split
    | simp

theorem parseLookup_ne_panic (bytes : List UInt8) : parseLookup bytes ≠ .panic := by
  unfold parseLookup
  refine bind_ne_panic (failIf_ne_panic _ _) fun _ hlen => ?_
  have hsize : 81 ≤ bytes.length := by simpa using hlen
  repeat' first
    | exact failIf_ne_panic _ _
    | exact readLE_ne_panic _ _ _
    | exact sliceFrom_ne_panic (by omega)
    | exact validateName_ne_panic _
    | exact pure_ne_panic _
    | refine bind_ne_panic ?_ fun _ _ => ?_

theorem parseWatch_ne_panic (bytes : List UInt8) : parseWatch bytes ≠ .panic := by
  unfold parseWatch
  refine bind_ne_panic (failIf_ne_panic _ _) fun _ hlen => ?_
  have hsize : 89 ≤ bytes.length := by simpa using hlen
  repeat' first
    | exact failIf_ne_panic _ _
    | exact readLE_ne_panic _ _ _
    | exact sliceFrom_ne_panic (by omega)
    | exact validateName_ne_panic _
    | exact pure_ne_panic _
    | refine bind_ne_panic ?_ fun _ _ => ?_

theorem ErrorCode.parse_ne_panic (code : Nat) : ErrorCode.parse code ≠ .panic := by
  unfold ErrorCode.parse
  split <;> simp

theorem parseBody_ne_panic (bytes : List UInt8) (handles : Nat) {t : MessageType}
    (ht : t ≠ .serviceList) : parseBody bytes handles t ≠ .panic := by
  cases t with
  | serviceList => exact absurd rfl ht
  | _ =>
      unfold parseBody
      repeat' first
        | exact failIf_ne_panic _ _
        | exact readLE_ne_panic _ _ _
        | exact parseInstallPublication_ne_panic _
        | exact parseInstallClient_ne_panic _
        | exact parseLookup_ne_panic _
        | exact parseWatch_ne_panic _
        | exact ErrorCode.parse_ne_panic _
        | exact pure_ne_panic _
        | refine bind_ne_panic ?_ fun _ _ => ?_

end Reading

end Wyrmroot.Registry
