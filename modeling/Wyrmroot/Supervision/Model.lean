import Wyrmroot.Lib.Component
import Wyrmroot.Loader.InitParsing

/-!
# Observing a child

`runtime/src/supervision.rs`: what a parent sees of a child it has started,
through the two handles the launch left it, the launch channel and the
process. A platform is a function from a call and its own state to a result,
as for the loader, and a program shows the calls it made.

`awaitChildReadyProfileObserved` waits for one READY. Its error says whether
the process was seen to exit (`processExitObserved`); a caller that cleans up
must not terminate the process again then.
-/

namespace Wyrmroot.Supervision

open Outcome
open Loader (LaunchError LaunchProfile headerBytes parseReadyForProfile
  parseReady_ne_panic)

/-! ## The platform -/

/-- The bits of a `DwSignals` that supervision names, and the others. -/
inductive Signal where
  | readable
  | peerClosed
  | exited
  | other (bit : Nat)
deriving DecidableEq

/-- `DwSignals`. -/
abbrev Signals := Finset Signal

def channelSignals : Signals := {.readable, .peerClosed}

/-- `DwDeadline`; `DW_DEADLINE_INFINITE` is a value of its own. -/
inductive Deadline where
  | infinite
  | monotonic (ns : Nat)
deriving DecidableEq

/-- `DwWaitItemV1`. -/
structure WaitItem where
  handle : Nat
  signals : Signals
deriving DecidableEq

/-- `DwWaitResultV1`. -/
structure WaitResult where
  index : Nat
  observed : Signals
deriving DecidableEq

structure ReceiveCounts where
  bytes : Nat
  handles : Nat
deriving DecidableEq

/-- A datagram as the receive leaves it in the caller's buffer. -/
structure Datagram (capacity : Nat) where
  counts : ReceiveCounts
  bytes : Vector UInt8 capacity

/-- `DwTaskTerminationInfoV1`. -/
structure TaskTerminationInfo where
  size : UInt32
  version : UInt32
  state : UInt32
  reason : UInt32
  reserved0 : UInt32
  applicationCode : UInt32
  exceptionType : UInt32
  detail : UInt64
  faultAddress : UInt64
  reserved : List UInt64
deriving DecidableEq

/-- `DW_TASK_TERMINATION_INFO_V1_SIZE`, `DW_TASK_STATE_EXITED` and
`DW_TERMINATION_NORMAL_EXIT`. -/
structure TerminationAbi where
  infoSize : UInt32
  stateExited : UInt32
  normalExit : UInt32

/-- The calls of the `SupervisionPlatform` trait. Every receive of a launch
channel has a buffer of `HEADER_BYTES` bytes and of no handles. -/
inductive Call where
  | waitMany (items : List WaitItem) (deadline : Deadline)
  | receiveChannel (channel : Nat)
  | queryTaskTermination (process : Nat)

/-- What a successful call returns. -/
def Call.Result : Call → Type
  | .waitMany _ _ => WaitResult
  | .receiveChannel _ => Datagram headerBytes
  | .queryTaskTermination _ => TaskTerminationInfo

/-- `SupervisionPlatform`, with state `τ` and errors `ε`. -/
structure SupervisionPlatform (τ ε : Type) where
  call : (c : Call) → τ → Except ε c.Result × τ

inductive Event where
  | done (c : Call) (result : c.Result)
  | failed (c : Call)

/-! ## Errors -/

inductive ExitValidationError where
  | invalidEnvelope
  | notExited
  | notNormalExit
  | nonzeroApplicationCode (code : UInt32)
  | nonzeroExceptionFields
deriving DecidableEq

inductive ExitObservedReadinessError (ε : Type) where
  | platform (e : ε)
  | invalidWaitResult
  | invalidReadyReceive (counts : ReceiveCounts)
  | ready (e : LaunchError)
  | duplicateReady

inductive SupervisionError (ε : Type) where
  | unboundedDeadline
  | platform (e : ε)
  | exitQuery (e : ε)
  | invalidWaitResult
  | invalidReadyReceive (counts : ReceiveCounts)
  | ready (e : LaunchError)
  | exitedBeforeReady
  | peerClosedBeforeReady
  | duplicateReady
  | exit (e : ExitValidationError)
  | exitObservedReadiness (e : ExitObservedReadinessError ε)

inductive ObservedSupervisionError (ε : Type) where
  | supervision (e : SupervisionError ε)
  | exitedBeforeReady (info : TaskTerminationInfo)
  | peerClosedBeforeReady (info : TaskTerminationInfo)
  | exit (e : ExitValidationError) (info : TaskTerminationInfo)
  | exitObservedReadiness (e : ExitObservedReadinessError ε) (info : TaskTerminationInfo)

def SupervisionError.processExitObserved {ε : Type} : SupervisionError ε → Bool
  | .exitedBeforeReady | .peerClosedBeforeReady | .exitQuery _ | .exit _
  | .exitObservedReadiness _ => true
  | _ => false

def ObservedSupervisionError.processExitObserved {ε : Type} : ObservedSupervisionError ε → Bool
  | .supervision .peerClosedBeforeReady => false
  | .supervision e => e.processExitObserved
  | _ => true

/-! ## Termination records -/

def validateTerminalRecord (abi : TerminationAbi) (info : TaskTerminationInfo) :
    Outcome ExitValidationError Unit := do
  rejectIf (info.size ≠ abi.infoSize || info.version ≠ 1 || info.reserved0 ≠ 0
    || info.reserved ≠ [0, 0, 0]) .invalidEnvelope
  rejectIf (info.state ≠ abi.stateExited) .notExited

/-! ## Waiting for READY -/

/-- A program that calls the platform. -/
abbrev Io (τ ε α : Type) := Prog τ Event ε α

/-- A program of a supervisor. -/
abbrev Observe (τ ε α : Type) := Io τ (ObservedSupervisionError ε) α

variable {τ ε α : Type} (abi : TerminationAbi) (tr : SupervisionPlatform τ ε)

def request (c : Call) : Io τ ε c.Result := fun t =>
  match tr.call c t with
  | (.ok result, t') => (.ok result, t', [.done c result])
  | (.error e, t') => (.err e, t', [.failed c])

/-- `call.map_err(error)?`. -/
def callOr (error : ε → SupervisionError ε) (c : Call) : Observe τ ε c.Result :=
  Prog.within id (fun t _ => t) (fun e => .supervision (error e)) (request tr c)

/-- The exit has been signalled: `before` tells which READY was missing. -/
def exitRecord (process : Nat) (before : TaskTerminationInfo → ObservedSupervisionError ε) :
    Observe τ ε α := do
  let info : TaskTerminationInfo ← callOr tr .exitQuery (.queryTaskTermination process)
  Prog.lift ((validateTerminalRecord abi info).mapErr fun e => .exit e info)
  Prog.throw (before info)

/-- The peer closed without a READY: the process is waited for, alone. -/
def awaitExit (process : Nat) (deadline : Deadline) : Observe τ ε Unit := do
  let terminal : WaitResult ← callOr tr .platform (.waitMany [⟨process, {.exited}⟩] deadline)
  Prog.lift (rejectIf (terminal.index ≠ 0 || decide (.exited ∉ terminal.observed))
    (.supervision .invalidWaitResult))
  exitRecord abi tr process .peerClosedBeforeReady

def receiveReady (launchChannel : Nat) (profile : LaunchProfile) (transactionId : UInt64) :
    Observe τ ε Unit := do
  let datagram : Datagram headerBytes ← callOr tr .platform (.receiveChannel launchChannel)
  Prog.lift (rejectIf (datagram.counts ≠ ⟨headerBytes, 0⟩)
    (.supervision (.invalidReadyReceive datagram.counts)))
  Prog.lift ((parseReadyForProfile profile datagram.bytes.toList transactionId).mapErr fun e =>
    .supervision (.ready e))

/-- What the first wait selected. -/
def observeSelected (process launchChannel : Nat) (profile : LaunchProfile)
    (transactionId : UInt64) (deadline : Deadline) (result : WaitResult) (item : WaitItem) :
    Observe τ ε Unit :=
  if Disjoint result.observed item.signals then Prog.throw (.supervision .invalidWaitResult)
  else if result.index = 1 then exitRecord abi tr process .exitedBeforeReady
  else if .readable ∉ result.observed then awaitExit abi tr process deadline
  else receiveReady tr launchChannel profile transactionId

def readyItems (process launchChannel : Nat) : List WaitItem :=
  [⟨launchChannel, channelSignals⟩, ⟨process, {.exited}⟩]

def awaitChildReadyProfileObserved (process launchChannel : Nat) (profile : LaunchProfile)
    (transactionId : UInt64) (deadline : Deadline) : Observe τ ε Unit :=
  if deadline = .infinite then Prog.throw (.supervision .unboundedDeadline)
  else do
    let result : WaitResult ←
      callOr tr .platform (.waitMany (readyItems process launchChannel) deadline)
    match (readyItems process launchChannel)[result.index]? with
    | none => Prog.throw (.supervision .invalidWaitResult)
    | some item =>
        observeSelected abi tr process launchChannel profile transactionId deadline result item

/-! ## What the events say -/

/-- The channel on which the event hands over the exact READY. -/
def Event.accepted (profile : LaunchProfile) (transactionId : UInt64) : Event → Option Nat
  | .done (.receiveChannel channel) datagram =>
      if Datagram.counts datagram = ⟨headerBytes, 0⟩ ∧
          parseReadyForProfile profile (Datagram.bytes datagram).toList transactionId = .ok () then
        some channel
      else none
  | _ => none

/-- The process that a wait selected and saw exit. -/
def Event.exited : Event → Option Nat
  | .done (.waitMany items _) result => items[WaitResult.index result]?.bind fun item =>
      if .exited ∈ WaitResult.observed result then some item.handle else none
  | _ => none

/-!
## What a wait for READY has seen

`awaitChildReady_spec` reads the result of the wait against its calls: it
succeeds only behind the exact READY, and an error that reports the process
as exited comes behind a wait that saw it exit. The signal is what counts,
not the record that is queried afterwards, which may fail or be refused.
-/

variable {abi tr} {process launchChannel : Nat} {profile : LaunchProfile} {transactionId : UInt64}
  {Q : Outcome (ObservedSupervisionError ε) α → τ → List Event → Prop} {t : τ}

theorem wp_callOr_bind {error : ε → SupervisionError ε} {c : Call} {f : c.Result → Observe τ ε α}
    (hok : ∀ result t', Prog.wp (f result) (fun o t'' w => Q o t'' (.done c result :: w)) t')
    (herr : ∀ e t', Q (.err (.supervision (error e))) t' [.failed c]) :
    Prog.wp (callOr tr error c >>= f) Q t := by
  rw [Prog.wp_bind, callOr, Prog.wp_within]
  unfold Prog.wp request
  rcases hcall : tr.call c (id t) with ⟨e | result, t'⟩
  · exact herr e t'
  · exact hok result t'

theorem wp_lift_bind_of {x : Outcome (ObservedSupervisionError ε) Unit} {f : Unit → Observe τ ε α}
    (hx : x ≠ .panic) (hok : Prog.wp (f ()) Q t) (herr : ∀ e, x = .err e → Q (.err e) t []) :
    Prog.wp (Prog.lift x >>= f) Q t := by
  rw [Prog.wp_lift_bind]
  cases x with
  | ok u => exact hok
  | err e => exact herr e rfl
  | panic => exact absurd rfl hx

/-- What the end of a wait says about its calls. -/
def Awaited (process launchChannel : Nat) (profile : LaunchProfile) (transactionId : UInt64) :
    Outcome (ObservedSupervisionError ε) Unit → List Event → Prop
  | .ok _, w => ∃ e ∈ w, e.accepted profile transactionId = some launchChannel
  | .err error, w => error.processExitObserved = true → ∃ e ∈ w, e.exited = some process
  | .panic, _ => False

theorem exitRecord_spec {before : TaskTerminationInfo → ObservedSupervisionError ε}
    (seen : List Event) (hseen : ∃ e ∈ seen, e.exited = some process) (t : τ) :
    Prog.wp (exitRecord abi tr process before) (fun o _ w =>
      Awaited process launchChannel profile transactionId o (seen ++ w)) t := by
  obtain ⟨e, he, hexit⟩ := hseen
  have hin : ∀ w, ∃ e ∈ seen ++ w, e.exited = some process := fun w =>
    ⟨e, List.mem_append_left w he, hexit⟩
  refine wp_callOr_bind (fun info t' => ?_) fun e t' _ => hin _
  refine wp_lift_bind_of (mapErr_ne_panic ?_) (fun _ => hin _) fun e _ _ => hin _
  exact bind_ne_panic (rejectIf_ne_panic _ _) fun _ _ => rejectIf_ne_panic _ _

theorem awaitExit_spec {deadline : Deadline} (seen : List Event) (t : τ) :
    Prog.wp (awaitExit abi tr process deadline) (fun o _ w =>
      Awaited process launchChannel profile transactionId o (seen ++ w)) t := by
  refine wp_callOr_bind (fun terminal t' => ?_) fun e t' h => by cases h
  rw [Prog.wp_lift_bind]
  cases hcheck : (rejectIf (WaitResult.index terminal ≠ 0
      || decide (Signal.exited ∉ WaitResult.observed terminal))
      (ObservedSupervisionError.supervision (ε := ε) .invalidWaitResult)) with
  | panic => exact absurd hcheck (rejectIf_ne_panic _ _)
  | err e =>
      intro h
      rw [rejectIf] at hcheck
      split at hcheck
      · obtain rfl := Outcome.err.inj hcheck
        cases h
      · cases hcheck
  | ok u =>
      rw [rejectIf_eq_ok, Bool.or_eq_false_iff, decide_eq_false_iff_not, decide_eq_false_iff_not,
        not_not, not_not] at hcheck
      obtain ⟨hindex, hexited⟩ := hcheck
      have hsignal : ∃ e ∈ seen ++ [Event.done (.waitMany [⟨process, {.exited}⟩] deadline) terminal],
          e.exited = some process := by
        refine ⟨_, List.mem_append_right _ (.head _), ?_⟩
        simp only [Event.exited, hindex, List.getElem?_cons_zero, Option.bind_some, if_pos hexited]
      have hrest : Prog.wp (exitRecord abi tr process .peerClosedBeforeReady) (fun o _ w =>
          Awaited process launchChannel profile transactionId o (seen ++ [_] ++ w)) t' :=
        exitRecord_spec _ hsignal t'
      refine Prog.wp_mono hrest fun o t'' w h => ?_
      rwa [List.append_assoc] at h

theorem receiveReady_spec (seen : List Event) (t : τ) :
    Prog.wp (receiveReady tr launchChannel profile transactionId) (fun o _ w =>
      Awaited process launchChannel profile transactionId o (seen ++ w)) t := by
  refine wp_callOr_bind (fun datagram t' => ?_) fun e t' h => by cases h
  rw [Prog.wp_lift_bind]
  cases hcounts : (rejectIf (Datagram.counts datagram ≠ ⟨Loader.headerBytes, 0⟩)
      (ObservedSupervisionError.supervision (ε := ε)
        (.invalidReadyReceive (Datagram.counts datagram)))) with
  | panic => exact absurd hcounts (rejectIf_ne_panic _ _)
  | err e =>
      intro h
      rw [rejectIf] at hcounts
      split at hcounts
      · obtain rfl := Outcome.err.inj hcounts
        cases h
      · cases hcounts
  | ok u =>
      rw [rejectIf_eq_ok, decide_eq_false_iff_not, not_not] at hcounts
      show Awaited process launchChannel profile transactionId (Outcome.mapErr _ _) _
      cases hready : Loader.parseReadyForProfile profile (Datagram.bytes datagram).toList
          transactionId with
      | ok u =>
          exact ⟨_, List.mem_append_right _ (.head _), if_pos ⟨hcounts, hready⟩⟩
      | err e =>
          intro h
          cases h
      | panic => exact absurd hready (parseReady_ne_panic _ _ _)

theorem awaitChildReady_spec (process launchChannel : Nat) (profile : LaunchProfile)
    (transactionId : UInt64) (deadline : Deadline) (t : τ) :
    Prog.wp (awaitChildReadyProfileObserved abi tr process launchChannel profile transactionId
      deadline) (fun o _ w => Awaited process launchChannel profile transactionId o w) t := by
  unfold awaitChildReadyProfileObserved
  split
  · intro h
    cases h
  refine wp_callOr_bind (fun result t' => ?_) fun e t' h => by cases h
  cases hitem : (readyItems process launchChannel)[WaitResult.index result]? with
  | none =>
      intro h
      cases h
  | some item =>
      show Prog.wp (observeSelected abi tr process launchChannel profile transactionId deadline
        result item) _ t'
      unfold observeSelected
      split_ifs with hsignal hindex hreadable
      · intro h
        cases h
      · have hexit : item = ⟨process, {.exited}⟩ := by
          rw [hindex] at hitem
          exact (Option.some.inj hitem).symm
        have hobserved : Signal.exited ∈ WaitResult.observed result := by
          rw [hexit, Finset.disjoint_singleton_right, not_not] at hsignal
          exact hsignal
        have hseen : (Event.done (.waitMany (readyItems process launchChannel) deadline)
            result).exited = some process := by
          simp only [Event.exited, hitem, Option.bind_some, if_pos hobserved, hexit]
        exact exitRecord_spec [_] ⟨_, .head _, hseen⟩ t'
      · exact receiveReady_spec [_] t'
      · exact awaitExit_spec [_] t'

end Wyrmroot.Supervision
