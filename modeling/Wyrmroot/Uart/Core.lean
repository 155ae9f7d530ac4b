import Wyrmroot.Lib.Prog
import Wyrmroot.Lib.RingBuffer

/-!
# The 16550 core

`Uart16550` of `wyrmroot-uart16550-core/src/lib.rs`, over any byte registers.
A program here is a `Prog` whose events are the register accesses in order;
what a read answers is up to the registers. The bounded loops of the source
recurse on what is left of their bound.
-/

namespace Wyrmroot.Uart

def ringCapacity : Nat := 4096
def txFifoCapacity : Nat := 16
def drainLimit : Nat := 256

def rbrThrDll : UInt8 := 0
def ierDlm : UInt8 := 1
def iirFcr : UInt8 := 2
def lcr : UInt8 := 3
def mcr : UInt8 := 4
def lsr : UInt8 := 5
def msr : UInt8 := 6

def lcr8n1 : UInt8 := 0x03
def lcrDlab : UInt8 := 0x80
def fcrEnableAndClear : UInt8 := 0x07
def mcrOut2RtsDtr : UInt8 := 0x0b
def ierRdiRlsi : UInt8 := 0x05
def ierThri : UInt8 := 0x02

def iirNoInterrupt : UInt8 := 0x01
def iirCauseMask : UInt8 := 0x0e
def iirMsi : UInt8 := 0x00
def iirThri : UInt8 := 0x02
def iirRdi : UInt8 := 0x04
def iirRlsi : UInt8 := 0x06
def iirRxTimeout : UInt8 := 0x0c

def lsrDr : UInt8 := 0x01
def lsrOe : UInt8 := 0x02
def lsrPe : UInt8 := 0x04
def lsrFe : UInt8 := 0x08
def lsrBi : UInt8 := 0x10
def lsrTemt : UInt8 := 0x40

/-- Byte registers: what they answer may depend on every access before. -/
class ByteRegisterIo (I : Type) where
  read : I → UInt8 → UInt8 × I
  write : I → UInt8 → UInt8 → I

inductive CoreError where
  | drainLimit
  | unknownInterruptCause (iir : UInt8)
deriving DecidableEq

inductive CoreState where
  | reset
  | quiesced
  | active
  | failed (error : CoreError)
deriving DecidableEq

structure ErrorCounters where
  hardwareOverrun : UInt32
  parity : UInt32
  framing : UInt32
  breakIndication : UInt32
  rxSoftwareOverrunBytes : UInt32
  unexpectedModemStatus : UInt32
deriving DecidableEq

structure InterruptWork where
  causes : UInt16
  received : UInt16
  transmitted : UInt16
deriving DecidableEq

/-- `value.saturating_add(1)`. -/
def saturatingSucc16 (value : UInt16) : UInt16 := if value = 0xffff then value else value + 1

def saturatingSucc32 (value : UInt32) : UInt32 := if value = 0xffffffff then value else value + 1

structure Uart16550 (I : Type) where
  io : I
  rx : RingBuffer UInt8 ringCapacity
  tx : RingBuffer UInt8 ringCapacity
  state : CoreState
  errors : ErrorCounters

/-- One access to a register. -/
inductive Access where
  | read (offset value : UInt8)
  | write (offset value : UInt8)
deriving DecidableEq

abbrev Core (I α : Type) := Prog (Uart16550 I) Access CoreError α

namespace Uart16550

variable {I : Type}

def emptyRing : RingBuffer UInt8 ringCapacity := .new 0 (by decide)

def new (io : I) : Uart16550 I where
  io
  rx := emptyRing
  tx := emptyRing
  state := .reset
  errors := ⟨0, 0, 0, 0, 0, 0⟩

/-! ## Registers -/

variable [ByteRegisterIo I]

/-- `self.io.read(offset)`. -/
def readReg (offset : UInt8) : Core I UInt8 := fun self =>
  (.ok (ByteRegisterIo.read self.io offset).1,
    { self with io := (ByteRegisterIo.read self.io offset).2 },
    [.read offset (ByteRegisterIo.read self.io offset).1])

/-- `self.io.write(offset, value)`. -/
def writeReg (offset value : UInt8) : Core I Unit := fun self =>
  (.ok (), { self with io := ByteRegisterIo.write self.io offset value }, [.write offset value])

/-- `self.fail(error)`, always returned as an error. -/
def fail {α : Type} (error : CoreError) : Core I α := do
  writeReg ierDlm 0
  .modify ({ · with state := .failed error })
  .throw error

/-! ## The interrupt path -/

def accountLineStatus (status : UInt8) : Core I Unit :=
  .modify fun self => { self with
    errors := { self.errors with
      hardwareOverrun := if status &&& lsrOe ≠ 0 then saturatingSucc32 self.errors.hardwareOverrun
        else self.errors.hardwareOverrun
      parity := if status &&& lsrPe ≠ 0 then saturatingSucc32 self.errors.parity
        else self.errors.parity
      framing := if status &&& lsrFe ≠ 0 then saturatingSucc32 self.errors.framing
        else self.errors.framing
      breakIndication := if status &&& lsrBi ≠ 0 then saturatingSucc32 self.errors.breakIndication
        else self.errors.breakIndication } }

/-- `if !self.rx.push(byte)` with what follows it. -/
def store (byte : UInt8) (self : Uart16550 I) : Uart16550 I :=
  if (self.rx.push byte).1 then { self with rx := (self.rx.push byte).2 }
  else { self with
    rx := (self.rx.push byte).2
    errors := { self.errors with
      rxSoftwareOverrunBytes := saturatingSucc32 self.errors.rxSoftwareOverrunBytes } }

def receiveOne (work : InterruptWork) : Core I InterruptWork := do
  let byte ← readReg rbrThrDll
  .modify (store byte)
  pure { work with received := saturatingSucc16 work.received }

def handleLineStatus (work : InterruptWork) : Core I InterruptWork := do
  let status ← readReg lsr
  accountLineStatus status
  if status &&& lsrDr ≠ 0 then receiveOne work else pure work

/-- `drain_receive` with `remaining` turns of its loop left. -/
def drainReceive : Nat → InterruptWork → Core I InterruptWork
  | 0, work => do
      let status ← readReg lsr
      accountLineStatus status
      if status &&& lsrDr = 0 then pure work else fail .drainLimit
  | remaining + 1, work => do
      let status ← readReg lsr
      accountLineStatus status
      if status &&& lsrDr = 0 then pure work
      else do
        let work ← receiveOne work
        drainReceive remaining work

/-- The loop of `fill_transmit` with `remaining` turns left. -/
def fillFifo : Nat → InterruptWork → Core I InterruptWork
  | 0, work => pure work
  | remaining + 1, work => do
      let self ← .get
      match self.tx.pop with
      | none => pure work
      | some (byte, tx) => do
          .modify ({ · with tx })
          writeReg rbrThrDll byte
          fillFifo remaining { work with transmitted := saturatingSucc16 work.transmitted }

def fillTransmit (work : InterruptWork) : Core I InterruptWork := do
  let work ← fillFifo txFifoCapacity work
  let self ← .get
  if self.tx.isEmpty then do
    writeReg ierDlm ierRdiRlsi
    pure work
  else pure work

/-- The `match` on the cause. -/
def serviceCause (iir : UInt8) (work : InterruptWork) : Core I InterruptWork :=
  let cause := iir &&& iirCauseMask
  if cause = iirRlsi then handleLineStatus work
  else if cause = iirRdi || cause = iirRxTimeout then drainReceive drainLimit work
  else if cause = iirThri then fillTransmit work
  else if cause = iirMsi then do
    let _ ← readReg msr
    .modify fun self => { self with
      errors := { self.errors with
        unexpectedModemStatus := saturatingSucc32 self.errors.unexpectedModemStatus } }
    pure work
  else fail (.unknownInterruptCause iir)

/-- The loop of `handle_interrupt` with `remaining` turns left. -/
def drainCauses : Nat → InterruptWork → Core I InterruptWork
  | 0, work => do
      let iir ← readReg iirFcr
      if iir &&& iirNoInterrupt ≠ 0 then pure work else fail .drainLimit
  | remaining + 1, work => do
      let iir ← readReg iirFcr
      if iir &&& iirNoInterrupt ≠ 0 then pure work
      else do
        let work ← serviceCause iir { work with causes := saturatingSucc16 work.causes }
        drainCauses remaining work

def handleInterrupt : Core I InterruptWork := do
  let self ← .get
  if self.state ≠ .active then pure ⟨0, 0, 0⟩
  else drainCauses drainLimit ⟨0, 0, 0⟩

/-! ## Lifecycle -/

/-- `stale_drain` with `remaining` turns of its loop left. -/
def staleDrain : Nat → Core I Unit
  | 0 => do
      let iir ← readReg iirFcr
      if iir &&& iirNoInterrupt ≠ 0 then pure () else fail .drainLimit
  | remaining + 1 => do
      let status ← readReg lsr
      accountLineStatus status
      if status &&& lsrDr ≠ 0 then do
        let _ ← readReg rbrThrDll
        pure ()
      else pure ()
      let _ ← readReg msr
      let iir ← readReg iirFcr
      if iir &&& iirNoInterrupt ≠ 0 then pure () else staleDrain remaining

/-- `initialize_quiesced` up to its drain. -/
def configure : Core I Unit := do
  writeReg ierDlm 0
  writeReg lcr lcrDlab
  writeReg rbrThrDll 1
  writeReg ierDlm 0
  writeReg lcr lcr8n1
  writeReg iirFcr fcrEnableAndClear
  writeReg mcr mcrOut2RtsDtr
  .modify ({ · with rx := emptyRing, tx := emptyRing, state := .quiesced })

def initializeQuiesced : Core I Unit := do
  configure
  staleDrain drainLimit

def activateInterrupts : Core I Unit := do
  let self ← .get
  if self.state = .quiesced then do
    writeReg ierDlm (if self.tx.isEmpty then ierRdiRlsi else ierRdiRlsi ||| ierThri)
    .modify ({ · with state := .active })
  else pure ()

def disableInterrupts : Core I Unit := do
  writeReg ierDlm 0
  .modify ({ · with state := .quiesced })

def interruptsDisabled : Core I Bool := do
  let ier ← readReg ierDlm
  pure (ier = 0)

def transportEmpty : Core I Bool := do
  let status ← readReg lsr
  pure (status &&& lsrTemt ≠ 0)

/-! ## The rings -/

/-- The loop of `enqueue_tx`: how many bytes were pushed, and the ring. -/
def pushAll : List UInt8 → RingBuffer UInt8 ringCapacity → Nat × RingBuffer UInt8 ringCapacity
  | [], tx => (0, tx)
  | byte :: bytes, tx =>
      if (tx.push byte).1 then
        ((pushAll bytes (tx.push byte).2).1 + 1, (pushAll bytes (tx.push byte).2).2)
      else (0, tx)

def enqueueTx (bytes : List UInt8) : Core I Nat := do
  let self ← .get
  let (count, tx) := pushAll bytes self.tx
  .modify ({ · with tx })
  if count ≠ 0 && self.tx.isEmpty && self.state = .active then do
    writeReg ierDlm (ierRdiRlsi ||| ierThri)
    pure count
  else pure count

def dequeueRx : Core I (Option UInt8) := do
  let self ← .get
  match self.rx.pop with
  | none => pure none
  | some (byte, rx) => do
      .modify ({ · with rx })
      pure (some byte)

/-- The bytes `copy_rx` puts into an output of `room` bytes. -/
def copyRx (room : Nat) : Core I (List UInt8) := do
  let self ← .get
  pure (self.rx.copyTo room)

def copyRxFrom (offset room : Nat) : Core I (List UInt8) := do
  let self ← .get
  pure (self.rx.copyFrom offset room)

def discardRx (count : Nat) : Core I Nat := do
  let self ← .get
  .modify ({ · with rx := (self.rx.discard count).2 })
  pure (self.rx.discard count).1

end Uart16550

end Wyrmroot.Uart
