import Wyrmroot.Lib.Text
import Wyrmroot.Startup.Environment

/-!
# The startup block, as the child reads it

`StartupBlock::parse` of the runtime: the words at the initial stack pointer
are taken apart into argument, environment and auxiliary vectors, every
string pointer is followed, and for ABI 2 the strings must lie one behind
the other right after the vectors.

Addresses and offsets are 64-bit; additions the source checks are
`checkedAdd`. The two scans run to the end of the block at most, so their
number of turns is bounded by its length.
-/

namespace Wyrmroot.Startup

open Outcome
open Loader (checkedAdd)

def startupAbiV1 : Nat := 1
def startupAbiV2 : Nat := 2
def startupBlockSize : Nat := 4096
def startupBlockV2Size : Nat := 20 * 1024
def wordSize : Nat := 8

structure StartupRegisters where
  startupArgument0 : Nat
  startupArgument1 : Nat

inductive StartupError where
  | unsupportedVersion
  | invalidBootstrapChannelHandle
  | misalignedStack
  | wrongBlockSize
  | addressOverflow
  | vectorOverflow
  | missingVectorTerminator
  | missingAuxiliaryTerminator
  | stringPointerOutOfRange
  | unterminatedString
  | invalidUtf8
  | argumentLimit
  | environmentLimit
  | stringBytesExceeded
  | noncanonicalStringLayout
  | invalidEnvironment
  | duplicateEnvironment
deriving DecidableEq

/-- A step of the parser. -/
abbrev Parse (α : Type) := Outcome StartupError α

structure StartupBlock where
  bytes : List UInt8
  address : Nat
  version : Nat
  bootstrapChannel : Nat
  argvOffset : Nat
  argc : Nat
  envpOffset : Nat
  envc : Nat
  auxvOffset : Nat
  auxc : Nat
deriving DecidableEq

/-! ## Words -/

/-- `usize::checked_mul`. -/
def checkedMul (a b : Nat) : Option Nat := if a * b < 2 ^ 64 then some (a * b) else none

theorem checkedMul_eq_some
    {a b c : Nat} : checkedMul a b = some c ↔ a * b < 2 ^ 64 ∧ a * b = c := by
  unfold checkedMul
  split_ifs with h
  · simp only [Option.some.injEq, h, true_and]
  · simp only [h, false_and]

def advanceWords (offset count : Nat) : Option Nat :=
  (checkedMul count wordSize).bind (checkedAdd offset)

def readWord (bytes : List UInt8) (offset : Nat) : Option Nat :=
  (checkedAdd offset wordSize).bind fun _ => (slice bytes offset wordSize).map leNat

def wordAt (bytes : List UInt8) (offset index : Nat) : Parse Nat := do
  let offset ← okOr (advanceWords offset index) .vectorOverflow
  okOr (readWord bytes offset) .vectorOverflow

def requireWord (bytes : List UInt8) (offset expected : Nat) (error : StartupError) :
    Parse Unit :=
  if readWord bytes offset = some expected then .ok () else .err error

/-! ## Vectors -/

/-- The number of entries before the zero word, and the offset behind it. -/
def scanNullTerminatedVector (bytes : List UInt8) : Nat → Nat → Nat → Parse (Nat × Nat)
  | 0, _, _ => .panic
  | turns + 1, count, current => do
      let word ← okOr (readWord bytes current) .missingVectorTerminator
      if word = 0 then do
        let next ← okOr (checkedAdd current wordSize) .vectorOverflow
        pure (count, next)
      else do
        let count ← okOr (checkedAdd count 1) .vectorOverflow
        let current ← okOr (checkedAdd current wordSize) .vectorOverflow
        scanNullTerminatedVector bytes turns count current

/-- The number of pairs before the terminal `(0, 0)`. -/
def scanAuxiliaryVector (bytes : List UInt8) : Nat → Nat → Nat → Parse Nat
  | 0, _, _ => .panic
  | turns + 1, count, current => do
      let kind ← okOr (readWord bytes current) .missingAuxiliaryTerminator
      let valueOffset ← okOr (checkedAdd current wordSize) .vectorOverflow
      let value ← okOr (readWord bytes valueOffset) .missingAuxiliaryTerminator
      if kind = 0 ∧ value = 0 then pure count
      else do
        let count ← okOr (checkedAdd count 1) .vectorOverflow
        let current ← okOr (checkedAdd valueOffset wordSize) .vectorOverflow
        scanAuxiliaryVector bytes turns count current

/-- The offset behind the terminal pair. -/
def scanAuxiliaryVectorEnd (bytes : List UInt8) : Nat → Nat → Parse Nat
  | 0, _ => .panic
  | turns + 1, current => do
      let kind ← okOr (readWord bytes current) .missingAuxiliaryTerminator
      let value ← okOr (readWord bytes (current + wordSize)) .missingAuxiliaryTerminator
      let current ← okOr (checkedAdd current (2 * wordSize)) .vectorOverflow
      if kind = 0 ∧ value = 0 then pure current
      else scanAuxiliaryVectorEnd bytes turns current

/-! ## Strings -/

/-- `tail.iter().position(|byte| *byte == 0)`. -/
def nulPosition (tail : List UInt8) : Option Nat := tail.findIdx? (· == 0)

/-- `bytes.get(offset..)`. -/
def getFrom (bytes : List UInt8) (offset : Nat) : Option (List UInt8) :=
  if offset ≤ bytes.length then some (bytes.drop offset) else none

/-- The text before the first NUL, which must be UTF-8. -/
def textBefore (tail : List UInt8) : Parse Nat := do
  let nul ← okOr (nulPosition tail) .unterminatedString
  let _ ← okOr (fromUtf8 (tail.take nul)) .invalidUtf8
  pure nul

def validateString (bytes : List UInt8) (first last pointer : Nat) : Parse Unit := do
  rejectIf (pointer < first || last ≤ pointer) .stringPointerOutOfRange
  let tail ← sliceFrom bytes (pointer - first)
  let _ ← textBefore tail
  pure ()

/-- The string right at the cursor: the cursor behind it, and the total of
the lengths so far. -/
def validateCanonicalV2String (bytes : List UInt8) (address vectorOffset index : Nat)
    (state : Nat × Nat) : Parse (Nat × Nat) := do
  let (cursor, total) := state
  let pointer ← wordAt bytes vectorOffset index
  let expected ← okOr (checkedAdd address cursor) .addressOverflow
  rejectIf (pointer ≠ expected) .noncanonicalStringLayout
  let tail ← okOr (getFrom bytes cursor) .stringPointerOutOfRange
  let nul ← textBefore tail
  let consumed ← okOr (checkedAdd nul 1) .vectorOverflow
  let total ← okOr (checkedAdd total nul) .vectorOverflow
  let cursor ← okOr (checkedAdd cursor consumed) .vectorOverflow
  pure (cursor, total)

def stringSlice (bytes : List UInt8) (address pointer : Nat) : Parse (List UInt8) := do
  rejectIf (pointer < address) .stringPointerOutOfRange
  let tail ← okOr (getFrom bytes (pointer - address)) .stringPointerOutOfRange
  let nul ← okOr (nulPosition tail) .unterminatedString
  pure (tail.take nul)

/-- The name of the entry at `index`. -/
def nameAt (bytes : List UInt8) (address envpOffset index : Nat) : Parse (List UInt8) := do
  let pointer ← wordAt bytes envpOffset index
  let value ← stringSlice bytes address pointer
  environmentName .invalidEnvironment value

/-- No earlier entry has the name of the entry at `index`. -/
def checkName (bytes : List UInt8) (address envpOffset index : Nat) (_ : Unit) : Parse Unit := do
  let name ← nameAt bytes address envpOffset index
  forRange (fun previous _ => do
    let other ← nameAt bytes address envpOffset previous
    rejectIf (other = name) .duplicateEnvironment) 0 index ()

def validateV2Layout (bytes : List UInt8) (address argc argvOffset envc envpOffset
    auxvOffset : Nat) : Parse Unit := do
  rejectIf (argc < 1 || 64 < argc) .argumentLimit
  rejectIf (64 < envc) .environmentLimit
  let cursor ← scanAuxiliaryVectorEnd bytes (bytes.length + 1) auxvOffset
  let state ← forRange (validateCanonicalV2String bytes address argvOffset) 0 argc (cursor, 0)
  let state ← forRange (validateCanonicalV2String bytes address envpOffset) 0 envc state
  rejectIf (16 * 1024 < state.2) .stringBytesExceeded
  forRange (checkName bytes address envpOffset) 0 envc ()

/-! ## The block -/

def blockSizeOf (version : Nat) : Parse Nat :=
  if version = startupAbiV1 then .ok startupBlockSize
  else if version = startupAbiV2 then .ok startupBlockV2Size
  else .err .unsupportedVersion

namespace StartupBlock

def parse (registers : StartupRegisters) (address : Nat) (bytes : List UInt8) :
    Parse StartupBlock := do
  let size ← blockSizeOf registers.startupArgument1
  rejectIf (registers.startupArgument0 = 0) .invalidBootstrapChannelHandle
  rejectIf (address % 16 ≠ 0) .misalignedStack
  rejectIf (bytes.length ≠ size) .wrongBlockSize
  let blockEnd ← okOr (checkedAdd address size) .addressOverflow
  let argc ← okOr (readWord bytes 0) .vectorOverflow
  let argvOffset := wordSize
  let argvAfter ← okOr (advanceWords argvOffset argc) .vectorOverflow
  requireWord bytes argvAfter 0 .missingVectorTerminator
  let envpOffset ← okOr (checkedAdd argvAfter wordSize) .vectorOverflow
  let (envc, auxvOffset) ← scanNullTerminatedVector bytes (bytes.length + 1) 0 envpOffset
  let auxc ← scanAuxiliaryVector bytes (bytes.length + 1) 0 auxvOffset
  forRange (fun index _ => do
    let pointer ← wordAt bytes argvOffset index
    validateString bytes address blockEnd pointer) 0 argc ()
  forRange (fun index _ => do
    let pointer ← wordAt bytes envpOffset index
    validateString bytes address blockEnd pointer) 0 envc ()
  if registers.startupArgument1 = startupAbiV2 then
    validateV2Layout bytes address argc argvOffset envc envpOffset auxvOffset
  else pure ()
  pure { bytes, address, version := registers.startupArgument1,
         bootstrapChannel := registers.startupArgument0, argvOffset, argc, envpOffset, envc,
         auxvOffset, auxc }

/-- The bytes before the NUL; the pointer was validated by `parse`. -/
def stringAt (self : StartupBlock) (pointer : Nat) : Parse (List UInt8) :=
  if pointer < self.address then .panic
  else do
    let tail ← sliceFrom self.bytes (pointer - self.address)
    match nulPosition tail with
    | some nul => pure (tail.take nul)
    | none => .panic

/-- Entry `index` of a vector of `count`. -/
def entry (self : StartupBlock) (offset count index : Nat) : Parse (Option (List UInt8)) :=
  if count ≤ index then .ok none
  else
    match wordAt self.bytes offset index with
    | .ok pointer => (self.stringAt pointer).map some
    | .err _ => .ok none
    | .panic => .panic

def arg (self : StartupBlock) (index : Nat) : Parse (Option (List UInt8)) :=
  self.entry self.argvOffset self.argc index

def env (self : StartupBlock) (index : Nat) : Parse (Option (List UInt8)) :=
  self.entry self.envpOffset self.envc index

end StartupBlock

end Wyrmroot.Startup
