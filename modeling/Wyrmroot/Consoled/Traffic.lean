import Wyrmroot.Lib.Transducer
import Wyrmroot.Consoled.Containment

/-!
# Line endings, however the bytes are cut

Both normalizers are transducers whose state is whether the last byte was a CR,
and staging appends what the transducer writes. `lfEndings` and `crlfEndings`
say what a whole stream becomes.
-/

namespace Wyrmroot.Consoled

open Outcome ConsoleModel

/-- CR LF, CR and LF each become one LF. -/
def lfEndings : List UInt8 → List UInt8
  | [] => []
  | 13 :: 10 :: rest => 10 :: lfEndings rest
  | 13 :: rest => 10 :: lfEndings rest
  | byte :: rest => byte :: lfEndings rest

/-- A LF that is not behind a CR becomes CR LF. -/
def crlfEndings : List UInt8 → List UInt8
  | [] => []
  | 13 :: 10 :: rest => 13 :: 10 :: crlfEndings rest
  | 10 :: rest => 13 :: 10 :: crlfEndings rest
  | byte :: rest => byte :: crlfEndings rest

/-- Lone CRs, LFs and pairs of them, and a pair the wrong way around. -/
example : lfEndings [97, 13, 10, 13, 13, 10, 10, 13, 98] = [97, 10, 10, 10, 10, 10, 98] := by decide

example : crlfEndings [10, 97, 13, 10, 13, 13, 10, 10, 98] = [13, 10, 97, 13, 10, 13, 13, 10, 13, 10, 98] := by
  decide

/-! ## Input -/

namespace InputNormalizer

variable {self normalizer : InputNormalizer} {bytes : List UInt8} {queue queue' : BoundedQueue}

def machine : Transducer InputNormalizer UInt8 UInt8 where
  next _ byte := ⟨byte = cr⟩
  emit self byte :=
    if self.suppressLfAfterCr && byte = lf then [] else if byte = cr then [lf] else [byte]

theorem stageAll_eq (self : InputNormalizer) (queue : BoundedQueue) (bytes : List UInt8) :
    self.stageAll queue bytes = (machine.after self bytes, queue.push (machine.output self bytes)) := by
  induction bytes generalizing self queue with
  | nil => rfl
  | cons byte rest ih =>
      have hmachine : (machine.after self (byte :: rest), queue.push (machine.output self (byte :: rest))) =
          (machine.after ⟨byte = cr⟩ rest,
            (queue.push (machine.emit self byte)).push (machine.output ⟨byte = cr⟩ rest)) := by
        rw [Transducer.output, BoundedQueue.push_append]
        rfl
      rw [hmachine, stageAll]
      show _ = (_, (queue.push (if self.suppressLfAfterCr && byte = lf then []
        else if byte = cr then [lf] else [byte])).push _)
      split_ifs with hsuppressed hcr
      · have hlf : byte = lf := of_decide_eq_true (Bool.and_eq_true_iff.mp hsuppressed).2
        rw [ih, hlf]
        rfl
      · rw [ih, decide_eq_true hcr]
      · rw [ih, decide_eq_false hcr]

theorem stage_toList (h : self.stage bytes queue = .ok (normalizer, queue')) :
    normalizer = machine.after self bytes ∧
      queue'.toList = queue.toList ++ machine.output self bytes := by
  obtain ⟨hstage, hroom⟩ := stage_eq_ok h
  have hlen := len_stageAll self queue bytes
  rw [stageAll_eq] at hstage hlen
  obtain ⟨rfl, rfl⟩ := Prod.mk.inj hstage
  rw [BoundedQueue.len_push] at hlen
  exact ⟨rfl, BoundedQueue.toList_push (by omega)⟩

theorem output_suppressing (hbytes : bytes.head? ≠ some lf) :
    machine.output ⟨true⟩ bytes = machine.output ⟨false⟩ bytes := by
  cases bytes with
  | nil => rfl
  | cons byte rest =>
      have hne : byte ≠ lf := fun heq => hbytes (congrArg some heq)
      simp [Transducer.output, machine, hne]

end InputNormalizer

theorem lfEndings_eq (bytes : List UInt8) :
    lfEndings bytes = InputNormalizer.machine.output .new bytes := by
  induction bytes using lfEndings.induct with
  | case1 => rfl
  | case2 rest ih =>
      rw [lfEndings, ih]
      rfl
  | case3 rest hlone ih =>
      rw [lfEndings, ih]
      · refine congrArg (lf :: ·) (InputNormalizer.output_suppressing ?_).symm
        cases rest with
        | nil => rintro ⟨⟩
        | cons byte rest => exact fun hlf => hlone rest (congrArg (· :: rest) (Option.some.inj hlf))
      · exact hlone
  | case4 byte rest hpair hcr ih =>
      have hne : byte ≠ cr := fun heq => hcr heq
      rw [lfEndings, ih]
      · simp [Transducer.output, InputNormalizer.machine, InputNormalizer.new, hne]
      · exact hpair
      · exact hcr

/-! ## Output -/

namespace OutputNormalizer

variable {self normalizer : OutputNormalizer} {bytes : List UInt8} {queue queue' : BoundedQueue}

def machine : Transducer OutputNormalizer UInt8 UInt8 where
  next _ byte := ⟨byte = cr⟩
  emit self byte := if byte = lf && !self.previousWasCr then [cr, byte] else [byte]

theorem stageAll_eq (self : OutputNormalizer) (queue : BoundedQueue) (bytes : List UInt8) :
    self.stageAll queue bytes = (machine.after self bytes, queue.push (machine.output self bytes)) := by
  induction bytes generalizing self queue with
  | nil => rfl
  | cons byte rest ih =>
      rw [stageAll, ih, Transducer.output, BoundedQueue.push_append]
      show (_, ((if byte = lf && !self.previousWasCr then queue.push [cr] else queue).push [byte]).push _) =
        (_, (queue.push (if byte = lf && !self.previousWasCr then [cr, byte] else [byte])).push _)
      split_ifs <;> rfl

theorem stage_toList (h : self.stage bytes queue = .ok (normalizer, queue')) :
    normalizer = machine.after self bytes ∧
      queue'.toList = queue.toList ++ machine.output self bytes := by
  obtain ⟨hstage, hroom⟩ := stage_eq_ok h
  have hlen := len_stageAll self queue bytes
  rw [stageAll_eq] at hstage hlen
  obtain ⟨rfl, rfl⟩ := Prod.mk.inj hstage
  rw [BoundedQueue.len_push] at hlen
  exact ⟨rfl, BoundedQueue.toList_push (by omega)⟩

theorem output_previous (hbytes : bytes.head? ≠ some lf) :
    machine.output ⟨true⟩ bytes = machine.output ⟨false⟩ bytes := by
  cases bytes with
  | nil => rfl
  | cons byte rest =>
      have hne : byte ≠ lf := fun heq => hbytes (congrArg some heq)
      simp [Transducer.output, machine, hne]

end OutputNormalizer

theorem crlfEndings_eq (bytes : List UInt8) :
    crlfEndings bytes = OutputNormalizer.machine.output .new bytes := by
  induction bytes using crlfEndings.induct with
  | case1 => rfl
  | case2 rest ih | case3 rest ih =>
      rw [crlfEndings, ih]
      rfl
  | case4 byte rest hpair hlf ih =>
      rw [crlfEndings, ih]
      · by_cases hcr : byte = cr
        · subst hcr
          refine congrArg (cr :: ·) (OutputNormalizer.output_previous ?_).symm
          cases rest with
          | nil => rintro ⟨⟩
          | cons next rest =>
              exact fun hnext => hpair rest rfl (congrArg (· :: rest) (Option.some.inj hnext))
        · have hne : byte ≠ lf := fun heq => hlf heq
          simp [Transducer.output, OutputNormalizer.machine, OutputNormalizer.new, hne, hcr]
      · exact hpair
      · exact hlf

/-!
## What a session carries

`Traffic` is what a session's callers have seen: the bytes they staged, the
bytes they were offered with a reservation, and the bytes they committed.
Between sessions nothing is staged, and the only thing that one session leaves
to the next is the carry of the input's normalizer, which belongs to the serial
line.
-/

structure Traffic where
  /-- The serial bytes that were staged. -/
  input : List UInt8
  /-- The bytes that were committed to the child. -/
  stdin : List UInt8
  /-- The bytes of each output that were staged. -/
  output : OutputSource → List UInt8
  /-- The bytes of each output that were committed to the serial line. -/
  sent : OutputSource → List UInt8
  /-- What the caller's buffer held when it was given the reservation. -/
  offered : Reservation → List UInt8
  /-- The output that was committed last. -/
  last : Option OutputSource
  /-- Whether the other output had bytes when the reservation was given. -/
  overdue : Reservation → Bool

def Traffic.new : Traffic :=
  ⟨[], [], fun _ => [], fun _ => [], fun _ => [], none, fun _ => false⟩

namespace Traffic

/-- A reservation is given out. -/
def offer (T : Traffic) (r : Reservation) (bytes : List UInt8) : Traffic :=
  { T with offered := Function.update T.offered r bytes }

/-- Bytes are committed to the serial line. -/
def send (T : Traffic) (r : Reservation) (source : OutputSource) : Traffic :=
  { T with sent := Function.update T.sent source (T.sent source ++ T.offered r), last := some source }

def next (T : Traffic) (before : ConsoleModel) : Op → Outcome ModelError Reply → Traffic
  | .stageSerialInput _ bytes, .ok _ => { T with input := T.input ++ bytes }
  | .stageChildOutput _ source bytes, .ok _ =>
      { T with output := Function.update T.output source (T.output source ++ bytes) }
  | .reserveChildStdin _, .ok (.reserved (some (r, bytes))) => T.offer r bytes
  | .reserveSerialTx _, .ok (.reserved (some (r, bytes))) =>
      { T.offer r bytes with
        overdue := Function.update T.overdue r
          (T.last.any fun last => !(before.queueFor (other last)).isEmpty) }
  | .commitChildStdin r, .ok _ => { T with stdin := T.stdin ++ T.offered r }
  | .commitSerialTx r, .ok _ => r.source.elim T (T.send r)
  | _, _ => T

variable {T : Traffic} {m : ConsoleModel} {op : Op}

theorem next_err (e : ModelError) : T.next m op (.err e) = T := by
  cases op <;> rfl

theorem next_notHeld (h : op.transaction.isSome = true) : T.next m op (.ok .notHeld) = T := by
  cases op
  case moveChildPeer | commitChildLaunch | abortChildLaunch => rfl
  all_goals cases h

end Traffic

/-- What the calls of a session carried. -/
def carried (h : List ConsoleCall) : Traffic :=
  h.foldl (fun T call => T.next call.before.model call.op call.outcome) .new

theorem carried_snoc (h : List ConsoleCall) (call : ConsoleCall) :
    carried (h ++ [call]) = (carried h).next call.before.model call.op call.outcome := by
  rw [carried, List.foldl_append]
  rfl

/-- The serial bytes that were staged since the line was attached. -/
def arrive (A : List UInt8) : Op → Outcome ModelError Reply → List UInt8
  | .attachConnected _ _, .ok _ => []
  | .stageSerialInput _ bytes, .ok _ => A ++ bytes
  | _, _ => A

def arrived (h : List ConsoleCall) : List UInt8 :=
  h.foldl (fun A call => arrive A call.op call.outcome) []

theorem arrived_snoc (h : List ConsoleCall) (call : ConsoleCall) :
    arrived (h ++ [call]) = arrive (arrived h) call.op call.outcome := by
  rw [arrived, List.foldl_append]
  rfl

variable {A : List UInt8}

theorem arrive_err {op : Op} (e : ModelError) : arrive A op (.err e) = A := by
  cases op <;> rfl

theorem arrive_notHeld {op : Op} (h : op.transaction.isSome = true) :
    arrive A op (.ok .notHeld) = A := by
  cases op
  case moveChildPeer | commitChildLaunch | abortChildLaunch => rfl
  all_goals cases h

/-! ## Between sessions -/

variable {m m' : ConsoleModel} {op : Op} {o : Outcome ModelError Reply}

/-- The carry of the input's normalizer is that of the line. -/
def ConsoleModel.Continues (m : ConsoleModel) (A : List UInt8) : Prop :=
  m.serial.isSome = true → m.serialInvalidated = false →
    m.inputNormalizer = InputNormalizer.machine.after .new A

theorem continues_moves (h : m.Continues A) (hmove : Moves m op o m') :
    m'.Continues (arrive A op o) := by
  cases hmove with
  | refused | failed | launchFailed => exact (arrive_err (A := A) _).symm ▸ h
  | stagedInput _ hstage =>
      intro hserial hvalid
      rw [(InputNormalizer.stage_toList hstage).1, h hserial hvalid]
      exact (Transducer.after_append _ _).symm
  | attached => exact fun _ _ => rfl
  | lostChild | lostIdleFailed | lostBusy => rintro _ ⟨⟩
  | abortedAfterLoss | lostIdle | cleaned => rintro ⟨⟩
  | retire hretires => cases hretires <;> exact h
  | closed hcloses => cases hcloses <;> exact h
  | reservedNothing hreserves => cases hreserves <;> exact h
  | _ => exact h

/-- Without a child in service nothing is staged. -/
structure Vacant (input : BoundedQueue) (queue : OutputSource → BoundedQueue)
    (normalizer : OutputSource → OutputNormalizer) : Prop where
  input : input.toList = []
  queue : ∀ source, (queue source).toList = []
  normalizer : ∀ source, normalizer source = .new

def ConsoleModel.Quiescent (m : ConsoleModel) : Prop :=
  m.child = none ∨ m.state = .retiringChild ∨ m.state = .awaitingReap →
    Vacant m.input m.queueFor m.normalizerFor

theorem vacant_clearVolatile (m : ConsoleModel) :
    Vacant m.clearVolatile.input m.clearVolatile.queueFor m.clearVolatile.normalizerFor where
  input := rfl
  queue source := by cases source <;> rfl
  normalizer source := by cases source <;> rfl

theorem quiescent_active (hstate : m.state = .active) (hchild : m.child.isSome = true) :
    m.Quiescent := by
  rintro (hnone | hretiring | hreap)
  · rw [hnone] at hchild
    cases hchild
  · exact absurd (hstate.symm.trans hretiring) (by decide)
  · exact absurd (hstate.symm.trans hreap) (by decide)

theorem isSome_of_event {event : EventGeneration} (h : m.event = some event) :
    m.child.isSome = true := by
  obtain ⟨_, hchild, -⟩ := exists_child h
  exact hchild ▸ rfl

theorem quiescent_moves (h : m.Quiescent) (hlife : m.lifecycle) (hmove : Moves m op o m') :
    m'.Quiescent := by
  have hclosed (hnone : m'.child = none → m.child = none) (hstate : m'.state = .failClosed)
      (hsame : Vacant m.input m.queueFor m.normalizerFor →
        Vacant m'.input m'.queueFor m'.normalizerFor) : m'.Quiescent := by
    rintro (hchild | hretiring | hreap)
    · exact hsame (h (.inl (hnone hchild)))
    · exact absurd (hstate.symm.trans hretiring) (by decide)
    · exact absurd (hstate.symm.trans hreap) (by decide)
  cases hmove with
  | failed | launchFailed | abortFailed | lostIdleFailed | reconnectFailed => exact hclosed id rfl id
  | attached | abortedAfterLoss | retire | terminal | lostChild | lostIdle | replaced | escalated
  | cleaned => exact fun _ => vacant_clearVolatile _
  | launched hstate => exact quiescent_active hstate rfl
  | stagedInput hcurrent | stagedOutput hcurrent | polled hcurrent =>
      obtain ⟨hstate, hevent⟩ := eventIsCurrent_iff.mp hcurrent
      exact quiescent_active hstate (isSome_of_event hevent)
  | committedStdin hstate _ hevent | committedTx hstate _ hevent =>
      exact quiescent_active hstate (isSome_of_event hevent)
  | closed _ _ hstate => exact fun _ => h (.inr hstate)
  | terminated _ hstate => exact fun _ => h (.inr (.inl hstate))
  | cleanupFailed _ hreap => exact fun _ => h (.inr (.inr hreap))
  | serialExhausted _ hstate => exact fun _ => h (.inl (hlife.ofReconnecting hstate).2.1)
  | _ => exact h

end Wyrmroot.Consoled
