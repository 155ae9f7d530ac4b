import Wyrmroot.Lib.Component
import Wyrmroot.Uart.Fidelity
import Wyrmroot.Uart.RawStream

/-!
# The production driver

`ProductionDriver` of `uart16550d/src/lib.rs` behind its Interrupt intake: a
core, a raw stream, and a record of received bytes that is prepared for
sending. The record is a copy; the bytes leave the receive ring only when the
send is committed.
-/

namespace Wyrmroot.Uart

open Outcome
open Devmgr (ControlMessageV1_1 ControlIdentityV1_1)
open StreamProto (maxPayloadBytes encodeData decodeData)

inductive DriverError where
  | notActive
  | registerIo
  | interrupt (error : CoreError)
  | interruptAck
  | streamProtocol
  | streamHandles
  | streamCapacity
deriving DecidableEq

structure DrainedInterrupt where
  handle : Nat
  work : InterruptWork
deriving DecidableEq

structure DriverCounters where
  interruptWakes : UInt32
  interruptFailures : UInt32
  malformedStreams : UInt32
  streamDetaches : UInt32
  rxRecords : UInt32
  txRecords : UInt32
deriving DecidableEq

structure PeerCloseDrain where
  pending : Bool
deriving DecidableEq

namespace PeerCloseDrain

def observe (_ : PeerCloseDrain) : PeerCloseDrain := ⟨true⟩

def clear (_ : PeerCloseDrain) : PeerCloseDrain := ⟨false⟩

end PeerCloseDrain

inductive StreamSendResult where
  | sent
  | wouldBlock
  | peerClosed
  | failed
deriving DecidableEq

inductive StreamSendAction where
  | continue
  | detached (message : ControlMessageV1_1) (endpoint : ReceivedStreamEndpoint)
deriving DecidableEq

structure ProductionDriver (I : Type) where
  readyIdentity : ControlIdentityV1_1
  interruptHandle : Nat
  uart : Uart16550 I
  stream : StreamAttachment
  /-- `[u8; MAX_PAYLOAD_BYTES]`. -/
  pendingRx : List UInt8
  pendingRxLen : Nat
  counters : DriverCounters
  active : Bool

abbrev Driver (I α : Type) := Prog (ProductionDriver I) Access DriverError α

namespace ProductionDriver

variable {I : Type}

/-- The driver that `validate_interrupt` returns. -/
def joined (readyIdentity : ControlIdentityV1_1) (interruptHandle : Nat) (uart : Uart16550 I) :
    ProductionDriver I where
  readyIdentity
  interruptHandle
  uart
  stream := .new readyIdentity
  pendingRx := List.replicate maxPayloadBytes 0
  pendingRxLen := 0
  counters := ⟨0, 0, 0, 0, 0, 0⟩
  active := false

def txFree (self : ProductionDriver I) : Nat := ringCapacity - self.uart.tx.len

/-- `&self.pending_rx[..self.pending_rx_len]`. -/
def pending (self : ProductionDriver I) : List UInt8 := self.pendingRx.take self.pendingRxLen

/-- A call of the core. -/
def onUart {α : Type} (m : Core I α) : Driver I α :=
  .within uart (fun uart self => { self with uart }) .interrupt m

/-- A call of the stream attachment, which makes no register access. -/
def onStream {ε α : Type} (m : Attachment α) (err : StreamAttachError → ε) :
    Prog (ProductionDriver I) Access ε α := fun self =>
  ((m self.stream).1.mapErr err, { self with stream := (m self.stream).2.1 }, [])

variable [ByteRegisterIo I]

def activate : Driver I ControlMessageV1_1 := do
  let self ← .get
  .lift (rejectIf (self.active || self.uart.state ≠ .quiesced) .notActive)
  onUart Uart16550.activateInterrupts
  let activated ← .get
  .lift (rejectIf (activated.uart.state ≠ .active) .notActive)
  .modify ({ · with active := true })
  pure (.ready self.readyIdentity)

def drainInterrupt : Driver I DrainedInterrupt := do
  let self ← .get
  .lift (rejectIf (!self.active) .notActive)
  .modify fun self => { self with
    counters := { self.counters with
      interruptWakes := saturatingSucc32 self.counters.interruptWakes } }
  let work ← .attempt (onUart Uart16550.handleInterrupt)
  match work with
  | .ok work => pure { handle := self.interruptHandle, work }
  | .error error => do
      .modify fun self => { self with
        counters := { self.counters with
          interruptFailures := saturatingSucc32 self.counters.interruptFailures } }
      .throw error

def attachStream (message : ControlMessageV1_1) (endpoint : ReceivedStreamEndpoint) :
    Prog (ProductionDriver I) Access StreamAttachError ControlMessageV1_1 :=
  onStream (StreamAttachment.attach message endpoint) id

def detachStream : Driver I (Option (ControlMessageV1_1 × ReceivedStreamEndpoint)) := do
  .modify ({ · with pendingRxLen := 0 })
  let detached ← onStream StreamAttachment.detach fun _ => .streamProtocol
  .modify fun self => if detached.isSome then { self with
    counters := { self.counters with
      streamDetaches := saturatingSucc32 self.counters.streamDetaches } } else self
  pure detached

def beginGracefulRetire : Driver I Unit := onUart Uart16550.disableInterrupts

/-- A malformed record is counted. -/
def malformed {α : Type} (error : DriverError) : Driver I α := do
  .modify fun self => { self with
    counters := { self.counters with
      malformedStreams := saturatingSucc32 self.counters.malformedStreams } }
  .throw error

def acceptStreamRecord (wire : List UInt8) (receivedHandles : Nat) : Driver I Nat :=
  if receivedHandles ≠ 0 then malformed .streamHandles
  else do
    let self ← .get
    .lift (rejectIf (self.stream.active.isNone || self.txFree < maxPayloadBytes) .streamCapacity)
    match decodeData wire with
    | .ok payload => do
        let accepted ← onUart (Uart16550.enqueueTx payload)
        .lift (rejectIf (accepted ≠ payload.length) .streamCapacity)
        .modify fun self => { self with
          counters := { self.counters with
            rxRecords := saturatingSucc32 self.counters.rxRecords } }
        pure accepted
    | .err _ => malformed .streamProtocol
    | .panic => .panic

/-- `if self.pending_rx_len == 0` with the copy behind it. -/
def refill : Driver I Unit := do
  let self ← .get
  if self.pendingRxLen = 0 then do
    let bytes ← onUart (Uart16550.copyRx maxPayloadBytes)
    .modify fun self => { self with
      pendingRx := bytes ++ self.pendingRx.drop bytes.length, pendingRxLen := bytes.length }
  else pure ()

/-- The size of the record, if there is one, and the output with it. -/
def prepareStreamSend (output : List UInt8) : Driver I (Option Nat × List UInt8) := do
  let self ← .get
  if self.stream.active.isNone then pure (none, output)
  else do
    refill
    let self ← .get
    if self.pendingRxLen = 0 then pure (none, output)
    else do
      let payload ← .lift (sliceAt self.pendingRx 0 self.pendingRxLen)
      match encodeData payload output with
      | (.ok size, output', _) => pure (some size, output')
      | (.err _, _, _) => .throw .streamProtocol
      | (.panic, _, _) => .panic

def commitStreamSend : Driver I Unit := do
  let self ← .get
  if self.pendingRxLen ≠ 0 then do
    let discarded ← onUart (Uart16550.discardRx self.pendingRxLen)
    -- "prepared UART RX prefix must remain queued until commit"
    if discarded = self.pendingRxLen then
      .modify fun self => { self with
        pendingRxLen := 0
        counters := { self.counters with
          txRecords := saturatingSucc32 self.counters.txRecords } }
    else .panic
  else pure ()

def resolveStreamSend (drain : PeerCloseDrain) :
    StreamSendResult → Driver I (StreamSendAction × PeerCloseDrain)
  | .sent => do
      commitStreamSend
      pure (.continue, drain)
  | .wouldBlock => pure (.continue, drain)
  | .peerClosed => pure (.continue, drain.observe)
  | .failed => do
      let detached ← detachStream
      match detached with
      | some (message, endpoint) => pure (.detached message endpoint, drain.clear)
      | none => pure (.continue, drain.clear)

end ProductionDriver

end Wyrmroot.Uart
