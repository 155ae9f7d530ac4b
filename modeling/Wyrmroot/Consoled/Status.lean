import Wyrmroot.Consoled.Custody

/-!
# What a console reports

`validate_invariants`, `snapshot` and `status_snapshot`, and that every state a
run reaches passes the first and can be reported by the last: the writer's own
`validate` never refuses a snapshot of a model.
-/

namespace Wyrmroot.Consoled

open Outcome

/-- `FLAG_SERIAL_INVALIDATED` and the flags behind it. -/
def flagSerialInvalidated : UInt32 := (1 : UInt32) <<< (2 : UInt32)

def flagPendingLaunch : UInt32 := (1 : UInt32) <<< (3 : UInt32)

def flagPendingLaunchCleanup : UInt32 := (1 : UInt32) <<< (4 : UInt32)

def flagChildRestartExhausted : UInt32 := (1 : UInt32) <<< (5 : UInt32)

def flagSerialRestartExhausted : UInt32 := (1 : UInt32) <<< (6 : UInt32)

structure ConsoleSnapshot where
  state : ConnectionState
  serial : Option SerialCorrelation
  consoleGeneration : Option Nat
  childGeneration : Option Nat
  childJob : Option UInt64
  childLaunch : Option UInt64
  peersLive : Vector Bool 3
  inputQueued : Nat
  stdoutQueued : Nat
  stderrQueued : Nat
  childFailures : Nat
  serialFailures : Nat
  serialInvalidated : Bool
  pendingLaunch : Bool
  pendingLaunchCleanup : Bool
  pendingConnect : Bool
  pendingStdinReservation : Bool
  pendingTxReservation : Bool
  childRestartExhausted : Bool
  serialRestartExhausted : Bool
  lastFailure : Option ModelError
  pendingRecovery : Option RecoveryAction
deriving DecidableEq

def statusState : ConnectionState → Console.State
  | .active => .active
  | .retiringChild => .retiringChild
  | .awaitingReap => .awaitingReap
  | .reconnecting => .reconnecting
  | .exhausted => .exhausted
  | .failClosed => .failClosed

def statusFailure : Option ModelError → Console.LastFailure
  | none => .none
  | some .zeroCorrelation => .zeroCorrelation
  | some .staleCorrelation => .staleCorrelation
  | some .wrongConnectionState => .wrongConnectionState
  | some .noChild => .noChild
  | some .incompleteCleanup => .incompleteCleanup
  | some .alreadyReserved => .alreadyReserved
  | some .unknownReservation => .unknownReservation
  | some .backpressure => .backpressure
  | some .tooLarge => .tooLarge
  | some .monotonicRegression => .monotonicRegression
  | some .arithmeticOverflow => .arithmeticOverflow
  | some .restartExhausted => .restartExhausted
  | some .serialDisconnected => .serialDisconnected
  | some .childDisconnected => .childDisconnected
  | some .wrongDirection => .wrongDirection

/-- The flags of a snapshot, in the order they are raised. -/
def raiseFlags (serial child invalidated launch cleanup childExhausted serialExhausted : Bool) :
    UInt32 :=
  let flags := 0
  let flags := if serial then flags ||| Console.flagSerialPresent else flags
  let flags := if child then flags ||| Console.flagChildPresent else flags
  let flags := if invalidated then flags ||| flagSerialInvalidated else flags
  let flags := if launch then flags ||| flagPendingLaunch else flags
  let flags := if cleanup then flags ||| flagPendingLaunchCleanup else flags
  let flags := if childExhausted then flags ||| flagChildRestartExhausted else flags
  if serialExhausted then flags ||| flagSerialRestartExhausted else flags

/-- The fold over the three peers. -/
def peerMask (live : Vector Bool 3) : UInt32 :=
  (live.toList.zip [(0 : UInt32), 1, 2]).foldl
    (fun mask peer => mask ||| ((if peer.1 then 1 else 0) <<< peer.2)) 0

/-- `u32::try_from(..).map_err(|_| ModelError::TooLarge)`. -/
def countU32 (count : Nat) : ModelCheck UInt32 :=
  if count < 2 ^ 32 then .ok (.ofNat count) else .err .tooLarge

namespace ConsoleModel

/-- Compiled for the source's tests only. -/
def validateInvariants (m : ConsoleModel) : Bool :=
  if m.pendingLaunchCleanup.isSome && m.pendingLaunchCleanup ≠ m.pendingLaunch then false
  else if m.pendingLaunch.isSome && (m.serial.isNone || m.consoleGeneration.isNone
      || m.child.isSome || m.pendingConnect.isSome) then false
  else if m.state = .reconnecting && (m.serial.isSome || m.consoleGeneration.isSome
      || m.child.isSome || m.pendingLaunch.isSome || m.serialInvalidated || !m.serialCleanup) then
    false
  else if m.state = .active && m.serial.isNone then false
  else if m.pendingConnect.isSome && (!(m.state = .reconnecting || m.state = .failClosed)
      || m.serial.isSome || m.consoleGeneration.isSome || m.child.isSome
      || m.pendingLaunch.isSome) then false
  else if m.child.isSome && (m.serial.isNone || m.consoleGeneration.isNone
      || m.pendingConnect.isSome || m.pendingLaunch.isSome) then false
  else if m.serial.isSome ≠ m.consoleGeneration.isSome then false
  else if m.serialInvalidated && m.serialCleanup then false
  else true

def snapshot (m : ConsoleModel) : ConsoleSnapshot where
  state := m.state
  serial := m.serial
  consoleGeneration := m.consoleGeneration
  childGeneration := m.child.map fun child => child.ids.childGeneration
  childJob := m.child.map fun child => child.ids.childJob
  childLaunch := m.child.map fun child => child.ids.childLaunch
  peersLive := (m.child.map fun child => child.peers.map PeerState.live).getD (.replicate 3 false)
  inputQueued := m.input.len
  stdoutQueued := m.stdout.len
  stderrQueued := m.stderr.len
  childFailures := m.childWindow.failures
  serialFailures := m.serialWindow.failures
  serialInvalidated := m.serialInvalidated
  pendingLaunch := m.pendingLaunch.isSome
  pendingLaunchCleanup := m.pendingLaunchCleanup.isSome
  pendingConnect := m.pendingConnect.isSome
  pendingStdinReservation := m.pendingStdin.isSome
  pendingTxReservation := m.pendingTx.isSome
  childRestartExhausted := m.childExhausted
  serialRestartExhausted := m.serialExhausted
  lastFailure := m.lastFailure
  pendingRecovery := m.pendingRecovery

def statusSnapshot (m : ConsoleModel) : ModelCheck Console.Snapshot := do
  let snapshot := m.snapshot
  let wire : Console.Snapshot := {
    state := statusState snapshot.state
    flags := raiseFlags snapshot.serial.isSome snapshot.childGeneration.isSome
      snapshot.serialInvalidated snapshot.pendingLaunch snapshot.pendingLaunchCleanup
      snapshot.childRestartExhausted snapshot.serialRestartExhausted
    serialRegistryGeneration := (snapshot.serial.map SerialCorrelation.registryGeneration).getD 0
    publicationGeneration := (snapshot.serial.map SerialCorrelation.publicationGeneration).getD 0
    deviceBundle := (snapshot.serial.map SerialCorrelation.deviceBundle).getD 0
    driverAttempt := (snapshot.serial.map SerialCorrelation.driverAttempt).getD 0
    rawStreamGeneration := (snapshot.serial.map SerialCorrelation.streamGeneration).getD 0
    childGeneration := .ofNat (snapshot.childGeneration.getD 0)
    outerJob := snapshot.childJob.getD 0
    outerLaunchTransaction := snapshot.childLaunch.getD 0
    livePeerMask := peerMask snapshot.peersLive
    inputQueueBytes := ← countU32 snapshot.inputQueued
    stdoutQueueBytes := ← countU32 snapshot.stdoutQueued
    stderrQueueBytes := ← countU32 snapshot.stderrQueued
    childFailures := ← countU32 snapshot.childFailures
    serialFailures := ← countU32 snapshot.serialFailures
    lastFailure := statusFailure snapshot.lastFailure }
  wire.validate.mapErr fun _ => ModelError.wrongConnectionState
  pure wire

end ConsoleModel

variable {m : ConsoleModel}

theorem validateInvariants_of (h : m.lifecycle) : m.validateInvariants = true := by
  have hpaired (hserial : m.serial.isSome = true) :
      m.serial.isNone = false ∧ m.consoleGeneration.isNone = false :=
    ⟨Option.isNone_eq_false_iff.mpr hserial, Option.isNone_eq_false_iff.mpr (h.ofSerial ▸ hserial)⟩
  have hunpaired (hserial : m.serial = none) : m.consoleGeneration.isSome = false := by
    rw [← h.ofSerial, hserial]
    rfl
  unfold ConsoleModel.validateInvariants
  rw [if_neg, if_neg, if_neg, if_neg, if_neg, if_neg, if_neg, if_neg]
  · intro hboth
    obtain ⟨hinvalidated, hclean⟩ := Bool.and_eq_true_iff.mp hboth
    exact absurd (hclean.symm.trans (h.ofInvalidated hinvalidated)) (by decide)
  · exact fun hne => hne h.ofSerial
  · intro hcheck
    obtain ⟨hchild, hcheck⟩ := Bool.and_eq_true_iff.mp hcheck
    obtain ⟨hserial, hconnect, hlaunch⟩ := h.ofChild hchild
    simp [hpaired hserial, hconnect, hlaunch] at hcheck
  · intro hcheck
    obtain ⟨hconnect, hcheck⟩ := Bool.and_eq_true_iff.mp hcheck
    obtain ⟨hstate, hserial, hchild, hlaunch⟩ := h.ofConnect hconnect
    simp [hserial, hunpaired hserial, hchild, hlaunch] at hcheck
    exact not_or.mpr hcheck hstate
  · intro hcheck
    obtain ⟨hactive, hnone⟩ := Bool.and_eq_true_iff.mp hcheck
    simp [hpaired (h.ofActive (of_decide_eq_true hactive))] at hnone
  · intro hcheck
    obtain ⟨hstate, hcheck⟩ := Bool.and_eq_true_iff.mp hcheck
    obtain ⟨hserial, hchild, hlaunch, hvalid, hclean⟩ := h.ofReconnecting (of_decide_eq_true hstate)
    simp [hserial, hunpaired hserial, hchild, hlaunch, hvalid, hclean] at hcheck
  · intro hcheck
    obtain ⟨hlaunch, hcheck⟩ := Bool.and_eq_true_iff.mp hcheck
    obtain ⟨hserial, hchild, hconnect⟩ := h.ofLaunch hlaunch
    simp [hpaired hserial, hconnect, hchild] at hcheck
  · intro hcheck
    obtain ⟨hsome, hne⟩ := Bool.and_eq_true_iff.mp hcheck
    obtain ⟨id, hid⟩ := Option.isSome_iff_exists.mp hsome
    exact of_decide_eq_true hne (hid.trans (h.ofCleanup id hid).symm)

theorem raiseFlags_spec : ∀ serial child invalidated launch cleanup childExhausted serialExhausted,
    let flags := raiseFlags serial child invalidated launch cleanup childExhausted serialExhausted
    flags &&& ~~~Console.flagsMask = 0 ∧ decide (flags &&& Console.flagSerialPresent ≠ 0) = serial ∧
      decide (flags &&& Console.flagChildPresent ≠ 0) = child := by
  decide

theorem peerMask_spec (live : Vector Bool 3) :
    peerMask live &&& ~~~Console.livePeerMask = 0 := by
  unfold peerMask
  obtain ⟨stdin, stdout, stderr, hlive⟩ := List.length_eq_three.mp live.length_toList
  rw [hlive]
  clear hlive
  revert stdin stdout stderr
  decide

theorem countU32_eq {count : Nat} (bound : Nat) (h : count ≤ bound) (hbound : bound < 2 ^ 32) :
    ∃ value, countU32 count = .ok value ∧ ¬ UInt32.ofNat bound < value := by
  refine ⟨.ofNat count, if_pos (Nat.lt_of_le_of_lt h hbound), ?_⟩
  rw [UInt32.lt_iff_toNat_lt, UInt32.toNat_ofNat_of_lt' hbound,
    UInt32.toNat_ofNat_of_lt' (Nat.lt_of_le_of_lt h hbound)]
  exact Nat.not_lt.mpr h

theorem mapErr_ok_of {x : Outcome Console.EncodeError Unit} {e : ModelError} (h : x = .ok ()) :
    (x.mapErr fun _ => e) = .ok () := by
  rw [h]
  rfl

theorem validate_eq_ok {wire : Console.Snapshot} {serial child : Bool}
    (hflags : wire.flags &&& ~~~Console.flagsMask = 0)
    (hserial : decide (wire.flags &&& Console.flagSerialPresent ≠ 0) = serial)
    (hchild : decide (wire.flags &&& Console.flagChildPresent ≠ 0) = child)
    (hmask : wire.livePeerMask &&& ~~~Console.livePeerMask = 0)
    (hqueues : ¬ Console.maxQueueBytes < wire.inputQueueBytes ∧
      ¬ Console.maxQueueBytes < wire.stdoutQueueBytes ∧ ¬ Console.maxQueueBytes < wire.stderrQueueBytes)
    (hfailures : ¬ Console.maxFailures < wire.childFailures ∧ ¬ Console.maxFailures < wire.serialFailures)
    (hserials : wire.serial.all (· ≠ 0) = serial ∧ wire.serial.any (· ≠ 0) = serial)
    (hchildren : wire.child.all (· ≠ 0) = child ∧ wire.child.any (· ≠ 0) = child)
    (habsent : child = false → wire.livePeerMask = 0) : wire.validate = .ok () := by
  have hserial' : decide (wire.flags &&& Console.flagSerialPresent = 0) = !serial := by
    rw [← hserial, decide_not, Bool.not_not]
  have hchild' : decide (wire.flags &&& Console.flagChildPresent = 0) = !child := by
    rw [← hchild, decide_not, Bool.not_not]
  unfold Console.Snapshot.validate
  rw [hserial, hserial', hchild, hchild', hserials.1, hserials.2, hchildren.1, hchildren.2]
  simp only [hflags, hmask, hqueues, hfailures]
  cases serial <;> cases child <;> simp_all

theorem serialIds_spec {serial : Option SerialCorrelation} (h : ∀ s ∈ serial, s.connected = true) :
    let ids := [(serial.map SerialCorrelation.registryGeneration).getD 0,
      (serial.map SerialCorrelation.publicationGeneration).getD 0,
      (serial.map SerialCorrelation.deviceBundle).getD 0,
      (serial.map SerialCorrelation.driverAttempt).getD 0,
      (serial.map SerialCorrelation.streamGeneration).getD 0]
    ids.all (· ≠ 0) = serial.isSome ∧ ids.any (· ≠ 0) = serial.isSome := by
  rcases Option.eq_none_or_eq_some serial with rfl | ⟨s, rfl⟩
  · simp
  · have hconnected := h s rfl
    simp only [SerialCorrelation.connected, Bool.and_eq_true, decide_eq_true_eq] at hconnected
    simp [hconnected]

theorem childIds_spec {child : Option ChildSession}
    (h : ∀ c ∈ child, c.ids.complete = true ∧ c.ids.childGeneration < 2 ^ 64) :
    let ids := [UInt64.ofNat ((child.map fun c => c.ids.childGeneration).getD 0),
      (child.map fun c => c.ids.childJob).getD 0, (child.map fun c => c.ids.childLaunch).getD 0]
    ids.all (· ≠ 0) = child.isSome ∧ ids.any (· ≠ 0) = child.isSome := by
  rcases Option.eq_none_or_eq_some child with rfl | ⟨c, rfl⟩
  · simp
  · obtain ⟨hcomplete, hlt⟩ := h c rfl
    simp only [SessionIds.complete, Bool.and_eq_true, decide_eq_true_eq] at hcomplete
    have hgeneration : UInt64.ofNat c.ids.childGeneration ≠ 0 := by
      intro hzero
      have hnat := congrArg UInt64.toNat hzero
      rw [UInt64.toNat_ofNat_of_lt' hlt] at hnat
      exact hcomplete.1.1.2 hnat
    simp [hgeneration, hcomplete]

theorem statusSnapshot_eq_ok {w : World}
    (h : w.Sound) : ∃ wire, w.model.statusSnapshot = .ok wire := by
  have hqueue : ∀ {queue : BoundedQueue}, queue.Fits → ∃ value,
      countU32 queue.len = .ok value ∧ ¬ UInt32.ofNat 4096 < value :=
    fun hfits => countU32_eq 4096 hfits (by decide)
  obtain ⟨input, hinput, hinput'⟩ := hqueue h.reserving.ofInput
  obtain ⟨stdout, hstdout, hstdout'⟩ := hqueue (h.reserving.ofQueue .stdout)
  obtain ⟨stderr, hstderr, hstderr'⟩ := hqueue (h.reserving.ofQueue .stderr)
  obtain ⟨child, hchild, hchild'⟩ := countU32_eq 4 h.timing.ofChildFailures (by decide)
  obtain ⟨serial, hserial, hserial'⟩ := countU32_eq 4 h.timing.ofSerialFailures (by decide)
  have hids := @childIds_spec w.model.child fun c hc =>
    ⟨(h.identities.ofChild c hc).1, (h.identities.ofChild c hc).2.1.trans h.identities.ofNext.2⟩
  unfold ConsoleModel.statusSnapshot ConsoleModel.snapshot
  have hstdout : countU32 w.model.stdout.len = .ok stdout := hstdout
  have hstderr : countU32 w.model.stderr.len = .ok stderr := hstderr
  simp only [hinput, hstdout, hstderr, hchild, hserial, ok_bind, Option.isSome_map]
  obtain ⟨hflags, hpresent, hchildren⟩ := raiseFlags_spec w.model.serial.isSome
    w.model.child.isSome w.model.serialInvalidated w.model.pendingLaunch.isSome
    w.model.pendingLaunchCleanup.isSome w.model.childExhausted w.model.serialExhausted
  refine ⟨_, bind_eq_ok.mpr ⟨(), mapErr_ok_of (validate_eq_ok hflags hpresent hchildren
    (peerMask_spec _) ⟨hinput', hstdout', hstderr'⟩ ⟨hchild', hserial'⟩
    (serialIds_spec h.identities.ofSerial) hids fun habsent => ?_), rfl⟩⟩
  have hnone : w.model.child = none := by simpa using habsent
  rw [hnone]
  rfl

theorem exec_ne_panic {w : World} (h : w.Sound) (op : Op) : (exec op w).1 ≠ .panic := by
  rcases exec_moves h op with ⟨-, hnot⟩ | ⟨-, hmove⟩
  · rw [hnot]
    exact ok_ne_panic _
  · rw [ne_eq]
    generalize (exec op w).1 = o, (exec op w).2.1.model = m' at hmove
    rintro rfl
    cases hmove with
    | polled _ hquiets => cases hquiets

/-- What a model is in every state of every run, whatever the calls and their arguments. -/
theorem run_invariant (ops : List Op) : let m := (replay exec ops World.new).2.model
    m.validateInvariants = true ∧
    (∀ r ∈ m.pendingStdin, m.event = some r.event ∧ r.length ≤ m.input.len) ∧
    (∀ r ∈ m.pendingTx, m.event = some r.event ∧
      ∃ source ∈ r.source, r.length ≤ (m.queueFor source).len) ∧
    (m.input.len ≤ stagingCapacity ∧ ∀ source, (m.queueFor source).len ≤ stagingCapacity) ∧
    (∀ call ∈ (replay exec ops World.new).1, call.outcome ≠ .panic) ∧
    ∃ wire, m.statusSnapshot = .ok wire := by
  have hsound := run_sound ops
  refine ⟨validateInvariants_of hsound.lifecycle, fun r hr => ?_, fun r hr => ?_,
    ⟨hsound.reserving.ofInput, hsound.reserving.ofQueue⟩, fun call hcall => ?_,
    statusSnapshot_eq_ok hsound⟩
  · exact ⟨(hsound.reserving.ofStdin r hr).1, (hsound.reserving.ofStdin r hr).2.2⟩
  · exact hsound.reserving.ofTx r hr
  · obtain ⟨hbefore, heq⟩ := replay_mem exec_sound ops sound_new hcall
    rw [heq]
    exact exec_ne_panic hbefore call.op

end Wyrmroot.Consoled
