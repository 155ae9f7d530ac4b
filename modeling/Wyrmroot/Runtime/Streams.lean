import Wyrmroot.Lib.Iteration
import Wyrmroot.Uart.RawStream

/-!
# Native streams

`wyrmroot-runtime/src/stream.rs`: a byte stream over a channel of WRST records.
A reader keeps what is left of the last record it has taken, `record` being the
source's `record[offset..used]`; a writer keeps nothing. Both work over a
`StreamSystem`, with handles `η` and a state `τ` of its own.
-/

namespace Wyrmroot.Runtime

open Uart.StreamProto (decodeData encodeData maxPayloadBytes maxRecordBytes)

variable {η τ : Type}

def maxReceivedHandles : Nat := 16

/-- `NativeError`, with the two statuses that a stream tells from the rest. -/
inductive NativeError where
  | wouldBlock
  | peerClosed
  | other
deriving DecidableEq

structure ReceiveCounts where
  bytes : Nat
  handles : Nat
deriving DecidableEq

/-- A datagram as a receive leaves it in the caller's two buffers; `none` is the null handle. -/
structure Received (η : Type) where
  counts : ReceiveCounts
  bytes : List UInt8
  handles : List (Option η)

/-- A receive is told how many bytes and how many handles there is room for. -/
structure StreamSystem (η τ : Type) where
  receive : η → Nat → Nat → τ → Except NativeError (Received η) × τ
  send : η → List UInt8 → τ → Except NativeError Unit × τ
  close : η → τ → Except NativeError Unit × τ

/-- The last is the model's own: a read that has not ended in the turns it was given. -/
inductive StreamError where
  | native (e : NativeError)
  | wouldBlock
  | eof
  | broken
  | protocol
  | receivedHandles
  | failed
  | unfinished
deriving DecidableEq

def classify : NativeError → StreamError
  | .wouldBlock => .wouldBlock
  | e => .native e

/-- `let _ = close(handle)` for each handle that is not null. -/
def closeAll (close : η → τ → Except NativeError Unit × τ) (handles : List (Option η)) (t : τ) : τ :=
  handles.foldl (fun t handle => match handle with
    | some handle => (close handle t).2
    | none => t) t

/-! ## Input -/

structure NativeInput (η : Type) where
  endpoint : η
  record : List UInt8
  eof : Bool
  failed : Bool
deriving DecidableEq

namespace NativeInput

/-- What fits `room`, and the input without it. -/
def drain (self : NativeInput η) (room : Nat) : List UInt8 × NativeInput η :=
  (self.record.take room, { self with record := self.record.drop room })

/-- A read works on its input and on the system. -/
abbrev Reading (η τ α : Type) := Prog (NativeInput η × τ) Empty StreamError α

def fail (system : StreamSystem η τ) (handles : List (Option η)) : Reading η τ Unit :=
  .modify fun s => ({ s.1 with failed := true }, closeAll system.close handles s.2)

/-- A record that arrived. -/
def accept (system : StreamSystem η τ) (received : Received η) : Reading η τ Unit :=
  if maxRecordBytes < received.counts.bytes || maxReceivedHandles < received.counts.handles then do
    fail system received.handles
    .throw .protocol
  else if received.counts.handles ≠ 0 then do
    fail system (received.handles.take received.counts.handles)
    .throw .receivedHandles
  else
    match decodeData (received.bytes.take received.counts.bytes) with
    | .ok payload => .modify fun s => ({ s.1 with record := payload }, s.2)
    | .err _ => do
        .modify fun s => ({ s.1 with failed := true }, s.2)
        .throw .protocol
    | .panic => .panic

/-- A turn of the loop of `read`, which has copied some bytes by then. -/
def readTurn (system : StreamSystem η τ) (room : Nat) (copied : List UInt8) :
    Reading η τ (List UInt8 ⊕ List UInt8) := do
  let (self, t) ← .get
  if self.record ≠ [] then do
    let (bytes, self) := self.drain (room - copied.length)
    .set (self, t)
    if (copied ++ bytes).length = room then pure (.inr (copied ++ bytes))
    else pure (.inl (copied ++ bytes))
  else if self.eof then
    if copied.length = 0 then .throw .eof else pure (.inr copied)
  else do
    let received := system.receive self.endpoint maxRecordBytes maxReceivedHandles t
    .set (self, received.2)
    match received.1 with
    | .ok received => do
        accept system received
        pure (.inl copied)
    | .error .peerClosed => do
        .modify fun s => ({ s.1 with eof := true }, s.2)
        pure (.inl copied)
    | .error e =>
        if classify e = .wouldBlock && copied.length ≠ 0 then pure (.inr copied)
        else .throw (classify e)

/-- The bytes written to an output of `room` bytes. -/
def read (system : StreamSystem η τ) (turns room : Nat) : Reading η τ (List UInt8) :=
  if room = 0 then pure []
  else do
    let (self, _) ← .get
    .lift (Outcome.rejectIf self.failed .failed)
    .loop (readTurn system room) .unfinished turns []

/-! One turn, by what the input holds and what a receive brings. -/

section Turn

variable {system : StreamSystem η τ} {room : Nat} {copied : List UInt8} {input : NativeInput η}
  {t t' : τ}

theorem readTurn_copies (h : input.record ≠ []) :
    readTurn system room copied (input, t) =
      (.ok (if (copied ++ input.record.take (room - copied.length)).length = room then
          .inr (copied ++ input.record.take (room - copied.length))
        else .inl (copied ++ input.record.take (room - copied.length))),
        ({ input with record := input.record.drop (room - copied.length) }, t), []) := by
  unfold readTurn
  rw [Prog.get_bind_run]
  dsimp only
  rw [if_pos h, drain]
  split_ifs <;> rfl

theorem readTurn_fails (h : input.record = []) (heof : input.eof = false)
    (hreceive : system.receive input.endpoint maxRecordBytes maxReceivedHandles t =
      (.error .other, t')) :
    readTurn system room copied (input, t) = (.err (.native .other), (input, t'), []) := by
  unfold readTurn
  rw [Prog.get_bind_run]
  dsimp only
  rw [if_neg (not_not.mpr h), if_neg (Bool.eq_false_iff.mp heof), hreceive]
  rfl

theorem readTurn_receives (h : input.record = []) (heof : input.eof = false)
    {received : Received η}
    (hreceive : system.receive input.endpoint maxRecordBytes maxReceivedHandles t =
      (.ok received, t')) :
    readTurn system room copied (input, t) =
      (accept system received >>= fun _ => pure (.inl copied)) (input, t') := by
  unfold readTurn
  rw [Prog.get_bind_run]
  dsimp only
  rw [if_neg (not_not.mpr h), if_neg (Bool.eq_false_iff.mp heof), hreceive]
  rfl

theorem accept_run {received : Received η} {payload : List UInt8}
    (hcount : received.counts.bytes ≤ maxRecordBytes) (hhandles : received.counts.handles = 0)
    (hvalid : decodeData (received.bytes.take received.counts.bytes) = .ok payload) :
    accept system received (input, t) = (.ok (), ({ input with record := payload }, t), []) := by
  unfold accept
  rw [hhandles, hvalid, decide_eq_false (Nat.not_lt.mpr hcount)]
  rfl

theorem readTurn_accepts (h : input.record = []) (heof : input.eof = false)
    {received : Received η}
    (hreceive : system.receive input.endpoint maxRecordBytes maxReceivedHandles t =
      (.ok received, t'))
    {input' : NativeInput η}
    (haccept : accept system received (input, t') = (.ok (), (input', t'), [])) :
    readTurn system room copied (input, t) = (.ok (.inl copied), (input', t'), []) := by
  rw [readTurn_receives h heof hreceive, Prog.bind_run_ok haccept]
  rfl

end Turn

end NativeInput

/-! ## Output -/

structure NativeOutput (η : Type) where
  endpoint : η
deriving DecidableEq

namespace NativeOutput

/-- `map_err` of a send. -/
def sendError : NativeError → StreamError
  | .peerClosed => .broken
  | e => classify e

/-- A turn of the loop of `write`, which has committed so many bytes by then. -/
def writeTurn (self : NativeOutput η) (system : StreamSystem η τ) (bytes : List UInt8)
    (committed : Nat) : Prog τ Empty StreamError (Nat ⊕ Nat) :=
  if committed = bytes.length then pure (.inr committed)
  else do
    let packet := min (bytes.length - committed) maxPayloadBytes
    let t ← .get
    match encodeData ((bytes.drop committed).take packet) (List.replicate maxRecordBytes 0) with
    | (.ok size, wire, _) => do
        let sent := system.send self.endpoint (wire.take size) t
        .set sent.2
        match sent.1 with
        | .ok () => pure (.inl (committed + packet))
        | .error e =>
            if (sendError e = .wouldBlock || sendError e = .broken) && committed ≠ 0 then
              pure (.inr committed)
            else .throw (sendError e)
    | (.err _, _, _) => .throw .protocol
    | (.panic, _, _) => .panic

/-- A turn commits a byte, so that one turn more than there are bytes is enough. -/
def write (self : NativeOutput η) (system : StreamSystem η τ) (bytes : List UInt8) :
    Prog τ Empty StreamError Nat :=
  if bytes.isEmpty then pure 0
  else .loop (self.writeTurn system bytes) .unfinished (bytes.length + 1) 0

end NativeOutput

end Wyrmroot.Runtime
