import Wyrmroot.Lib.Prog
import Wyrmroot.Lib.RingBuffer

/-!
# Queues and line endings

The staging queues of `consoled/src/lib.rs` and the two transforms in front of
them. A queue is an array with a start and a length, and nothing in it keeps
the length in bounds: `push` writes past a full queue and `consume` panics on a
short one. `toList` is what it holds, `Fits` what its callers have to keep.
-/

namespace Wyrmroot.Consoled

open Outcome

def stagingCapacity : Nat := 4096
def fairSourceBytesPerTurn : Nat := 1024

/-- `b'\n'` and `b'\r'`. -/
def lf : UInt8 := 10

def cr : UInt8 := 13

inductive ModelError where
  | zeroCorrelation
  | staleCorrelation
  | wrongConnectionState
  | noChild
  | incompleteCleanup
  | alreadyReserved
  | unknownReservation
  | backpressure
  | tooLarge
  | monotonicRegression
  | arithmeticOverflow
  | restartExhausted
  | serialDisconnected
  | childDisconnected
  | wrongDirection
deriving DecidableEq

abbrev ModelCheck := Outcome ModelError

structure BoundedQueue where
  bytes : Vector UInt8 stagingCapacity
  head : Nat
  len : Nat

namespace BoundedQueue

def new : BoundedQueue := ⟨.replicate stagingCapacity 0, 0, 0⟩

def isEmpty (self : BoundedQueue) : Bool := self.len = 0

def available (self : BoundedQueue) : ModelCheck Nat :=
  if self.len ≤ stagingCapacity then .ok (stagingCapacity - self.len) else .panic

theorem place_lt (place : Nat) : place % stagingCapacity < stagingCapacity :=
  Nat.mod_lt _ (by decide)

def push (self : BoundedQueue) : List UInt8 → BoundedQueue
  | [] => self
  | byte :: rest =>
      push { self with
        bytes := self.bytes.set ((self.head + self.len) % stagingCapacity) byte (place_lt _)
        len := self.len + 1 } rest

/-- The byte `index` places behind the head. -/
def cell (self : BoundedQueue) (index : Nat) : UInt8 :=
  getElem self.bytes ((self.head + index) % stagingCapacity) (place_lt _)

/-- What is written to a destination of `room` bytes; its length is the count. -/
def copyPrefix (self : BoundedQueue) (room maximum : Nat) : List UInt8 :=
  (List.range (min (min room maximum) self.len)).map self.cell

def consume (self : BoundedQueue) (count : Nat) : ModelCheck BoundedQueue :=
  if count ≤ self.len then
    .ok { self with head := (self.head + count) % stagingCapacity, len := self.len - count }
  else .panic

def clear (self : BoundedQueue) : BoundedQueue := { self with head := 0, len := 0 }

/-- The bytes in it, in order. -/
def toList (self : BoundedQueue) : List UInt8 := (List.range self.len).map self.cell

def Fits (self : BoundedQueue) : Prop := self.len ≤ stagingCapacity

variable {q : BoundedQueue}

@[simp] theorem length_toList : q.toList.length = q.len := by
  rw [toList, List.length_map, List.length_range]

@[simp] theorem toList_new : new.toList = [] := rfl

@[simp] theorem toList_clear : q.clear.toList = [] := rfl

@[simp] theorem len_new : new.len = 0 := rfl

@[simp] theorem len_clear : q.clear.len = 0 := rfl

theorem fits_new : new.Fits := Nat.zero_le _

theorem fits_clear : q.clear.Fits := Nat.zero_le _

theorem available_eq (h : q.Fits) : q.available = .ok (stagingCapacity - q.len) := if_pos h

theorem toList_push_one {byte : UInt8} (h : q.len < stagingCapacity) :
    (q.push [byte]).toList = q.toList ++ [byte] := by
  show (List.range (q.len + 1)).map _ = (List.range q.len).map q.cell ++ [byte]
  rw [List.range_succ, List.map_append, List.map_singleton]
  congr 1
  · refine List.map_congr_left fun i hi => ?_
    have hne := (RingBuffer.place_ne (List.mem_range.mp hi) h q.head).symm
    exact Vector.getElem_set_ne (place_lt _) (place_lt _) hne
  · exact congrArg (· :: []) (Vector.getElem_set_self (place_lt _))

theorem push_cons (byte : UInt8) (rest : List UInt8) :
    q.push (byte :: rest) = (q.push [byte]).push rest := rfl

@[simp] theorem len_push (source : List UInt8) : (q.push source).len = q.len + source.length := by
  induction source generalizing q with
  | nil => rfl
  | cons byte rest ih =>
      rw [push_cons, ih, List.length_cons]
      show q.len + 1 + rest.length = _
      omega

theorem toList_push {source : List UInt8} (h : q.len + source.length ≤ stagingCapacity) :
    (q.push source).toList = q.toList ++ source := by
  induction source generalizing q with
  | nil => exact (List.append_nil _).symm
  | cons byte rest ih =>
      rw [List.length_cons] at h
      have hone : (q.push [byte]).toList = q.toList ++ [byte] := toList_push_one (by omega)
      rw [push_cons, ih, hone, List.append_assoc]
      · rfl
      · rw [len_push, List.length_singleton]
        omega

theorem push_append (source rest : List UInt8) : q.push (source ++ rest) =
    (q.push source).push rest := by
  induction source generalizing q with
  | nil => rfl
  | cons byte source ih => exact ih

theorem copyPrefix_eq (room maximum : Nat) :
    q.copyPrefix room maximum = q.toList.take (min room maximum) := by
  rw [toList, ← List.map_take, List.take_range]
  rfl

theorem copyPrefix_take (q : BoundedQueue) (room maximum : Nat) :
    q.copyPrefix room maximum = q.toList.take (q.copyPrefix room maximum).length := by
  refine List.prefix_iff_eq_take.mp ?_
  rw [copyPrefix_eq]
  exact List.take_prefix _ _

theorem consume_eq {count : Nat} (h : count ≤ q.len) : ∃ q', q.consume count = .ok q' ∧
    q'.toList = q.toList.drop count ∧ q'.len = q.len - count := by
  refine ⟨_, if_pos h, ?_, rfl⟩
  refine List.ext_getElem ?_ fun i hi hi' => ?_
  · rw [length_toList, List.length_drop, length_toList]
  · rw [List.getElem_drop]
    simp only [toList, List.getElem_map, List.getElem_range, cell, Nat.mod_add_mod, Nat.add_assoc]

end BoundedQueue

/-! ## Line endings -/

structure InputNormalizer where
  suppressLfAfterCr : Bool
deriving DecidableEq

structure OutputNormalizer where
  previousWasCr : Bool
deriving DecidableEq

namespace InputNormalizer

def new : InputNormalizer := ⟨false⟩

/-- The loop of `output_len`. -/
def outputLen (suppress : Bool) : List UInt8 → Nat
  | [] => 0
  | byte :: rest =>
      if suppress && byte = lf then outputLen false rest
      else 1 + outputLen (byte = cr) rest

/-- The loop of `stage`. -/
def stageAll (self : InputNormalizer) (queue : BoundedQueue) :
    List UInt8 → InputNormalizer × BoundedQueue
  | [] => (self, queue)
  | byte :: rest =>
      if self.suppressLfAfterCr && byte = lf then stageAll ⟨false⟩ queue rest
      else if byte = cr then stageAll ⟨true⟩ (queue.push [lf]) rest
      else stageAll ⟨false⟩ (queue.push [byte]) rest

def stage (self : InputNormalizer) (input : List UInt8) (queue : BoundedQueue) :
    ModelCheck (InputNormalizer × BoundedQueue) := do
  rejectIf (fairSourceBytesPerTurn < input.length) .tooLarge
  rejectIf ((← queue.available) < outputLen self.suppressLfAfterCr input) .backpressure
  pure (self.stageAll queue input)

end InputNormalizer

namespace OutputNormalizer

def new : OutputNormalizer := ⟨false⟩

/-- The loop of `output_len`. -/
def outputLen (previous : Bool) : List UInt8 → Nat
  | [] => 0
  | byte :: rest => (if byte = lf && !previous then 2 else 1) + outputLen (byte = cr) rest

/-- The loop of `stage`. -/
def stageAll (self : OutputNormalizer) (queue : BoundedQueue) :
    List UInt8 → OutputNormalizer × BoundedQueue
  | [] => (self, queue)
  | byte :: rest =>
      let queue := if byte = lf && !self.previousWasCr then queue.push [cr] else queue
      stageAll ⟨byte = cr⟩ (queue.push [byte]) rest

def stage (self : OutputNormalizer) (input : List UInt8) (queue : BoundedQueue) :
    ModelCheck (OutputNormalizer × BoundedQueue) := do
  rejectIf (fairSourceBytesPerTurn < input.length) .tooLarge
  rejectIf ((← queue.available) < outputLen self.previousWasCr input) .backpressure
  pure (self.stageAll queue input)

end OutputNormalizer

end Wyrmroot.Consoled
