import Wyrmroot.Lib.Run
import Wyrmroot.Consoled.Model

/-!
# Calls of a console model

The operations as one machine. A `LaunchTransaction` has private fields and is
neither `Copy` nor `Clone`, so next to the model a run carries the transactions
that its caller holds: `begin_child_launch` hands one out, `abort_child_launch`
takes it, and a run calls only on those. That assumes one `ConsoleModel` in the
process, as in `consoled`: a second one would issue equal transactions, which
the first could not tell from its own. All other arguments are arbitrary.
-/

namespace Wyrmroot.Consoled

open Outcome

inductive Op where
  | beginConnect (expected : ConnectRequest)
  | abortConnect (request : ConnectRequest)
  | attachConnected (serial : SerialCorrelation) (now : Nat)
  | beginChildLaunch (childLaunch : UInt64)
  | moveChildPeer (tx : LaunchTransaction) (kind : StreamKind)
  | commitChildLaunch (tx : LaunchTransaction) (childJob : UInt64)
  | abortChildLaunch (tx : LaunchTransaction)
  | completeAbortChildLaunch (token : LaunchCleanupToken) (evidence : LaunchCleanupEvidence)
  | stageSerialInput (event : EventGeneration) (bytes : List UInt8)
  | stageChildOutput (event : EventGeneration) (source : OutputSource) (bytes : List UInt8)
  | pollOutputQuiescence (event : EventGeneration) (read : Read)
  | wrongDirectionData (event : EventGeneration) (now : Nat)
  | childTerminal (event : EventGeneration) (now : Nat)
  | childTerminalPrecursor (event : EventGeneration) (now : Nat)
  | childPeerClosed (event : EventGeneration) (kind : StreamKind) (now : Nat)
  | statusPeerClosed (event : EventGeneration) (now : Nat)
  | observeChildPeerClosed (event : EventGeneration) (kind : StreamKind) (now : Nat)
  | childStreamsClosed (event : EventGeneration) (now : Nat)
  | serialPeerClosed (serial : SerialCorrelation) (consoleGeneration now : Nat)
  | childTerminated (event : EventGeneration) (now : Nat)
  | childReaped (event : EventGeneration) (now : Nat)
  | completeSerialCleanup (serial : SerialCorrelation) (consoleGeneration now : Nat)
  | serialReconnectFailed (now : Nat)
  | reserveChildStdin (room : Nat)
  | commitChildStdin (reservation : Reservation)
  | releaseChildStdin (reservation : Reservation)
  | reserveSerialTx (room : Nat)
  | commitSerialTx (reservation : Reservation)
  | releaseSerialTx (reservation : Reservation)
  | observeChildReady (event : EventGeneration) (now : Nat)
  | observeReady (now : Nat) (token : ReadyToken)
  | takeRecoveryAction

inductive Reply where
  | done
  | attached (console : Nat)
  | launching (tx : LaunchTransaction)
  | moved (endpoint : Endpoint) (tx : LaunchTransaction)
  | launched (child : ChildSession) (tx : LaunchTransaction)
  | aborting (token : LaunchCleanupToken)
  | aborted (cleanup : LaunchCleanup)
  | quiet (quiet : Bool)
  | action (action : RecoveryAction)
  | reserved (reserved : Reserved)
  | ready (token : ReadyToken)
  | stable (stable : Bool)
  | recovery (action : Option RecoveryAction)
  | notHeld

def perform : Op → Operation Reply
  | .beginConnect expected => do
      beginConnect expected
      pure .done
  | .abortConnect request => do
      abortConnect request
      pure .done
  | .attachConnected serial now => .attached <$> attachConnected serial now
  | .beginChildLaunch childLaunch => .launching <$> beginChildLaunch childLaunch
  | .moveChildPeer tx kind => do
      let (endpoint, tx) ← .lift (tx.moveChildPeer kind)
      pure (.moved endpoint tx)
  | .commitChildLaunch tx childJob => do
      let (child, tx) ← commitChildLaunch tx childJob
      pure (.launched child tx)
  | .abortChildLaunch tx => .aborting <$> abortChildLaunch tx
  | .completeAbortChildLaunch token evidence =>
      .aborted <$> completeAbortChildLaunch token evidence
  | .stageSerialInput event bytes => do
      stageSerialInput event bytes
      pure .done
  | .stageChildOutput event source bytes => do
      stageChildOutput event source bytes
      pure .done
  | .pollOutputQuiescence event read => .quiet <$> pollOutputQuiescence event read
  | .wrongDirectionData event now => .action <$> wrongDirectionData event now
  | .childTerminal event now => .action <$> childTerminal event now
  | .childTerminalPrecursor event now => .action <$> childTerminalPrecursor event now
  | .childPeerClosed event kind now => .action <$> childPeerClosed event kind now
  | .statusPeerClosed event now => .action <$> statusPeerClosed event now
  | .observeChildPeerClosed event kind now => do
      observeChildPeerClosed event kind now
      pure .done
  | .childStreamsClosed event now => do
      childStreamsClosed event now
      pure .done
  | .serialPeerClosed serial consoleGeneration now =>
      .action <$> serialPeerClosed serial consoleGeneration now
  | .childTerminated event now => .action <$> childTerminated event now
  | .childReaped event now => .action <$> childReaped event now
  | .completeSerialCleanup serial consoleGeneration now =>
      .action <$> completeSerialCleanup serial consoleGeneration now
  | .serialReconnectFailed now => .action <$> serialReconnectFailed now
  | .reserveChildStdin room => .reserved <$> reserveChildStdin room
  | .commitChildStdin reservation => do
      commitChildStdin reservation
      pure .done
  | .releaseChildStdin reservation => do
      releaseChildStdin reservation
      pure .done
  | .reserveSerialTx room => .reserved <$> reserveSerialTx room
  | .commitSerialTx reservation => do
      commitSerialTx reservation
      pure .done
  | .releaseSerialTx reservation => do
      releaseSerialTx reservation
      pure .done
  | .observeChildReady event now => .ready <$> observeChildReady event now
  | .observeReady now token => .stable <$> observeReady now token
  | .takeRecoveryAction => .recovery <$> takeRecoveryAction

/-- The transaction a call is made on. -/
def Op.transaction : Op → Option LaunchTransaction
  | .moveChildPeer tx _ => some tx
  | .commitChildLaunch tx _ => some tx
  | .abortChildLaunch tx => some tx
  | _ => none

/-- The transactions held behind a call: `abort_child_launch` takes its
argument whatever it returns, the others lend it. -/
def heldAfter (held : List LaunchTransaction) : Op → Outcome ModelError Reply →
    List LaunchTransaction
  | .beginChildLaunch _, .ok (.launching tx) => tx :: held
  | .moveChildPeer old _, .ok (.moved _ tx) => tx :: held.erase old
  | .commitChildLaunch old _, .ok (.launched _ tx) => tx :: held.erase old
  | .abortChildLaunch old, _ => held.erase old
  | _, _ => held

structure World where
  model : ConsoleModel
  held : List LaunchTransaction

def World.new : World := ⟨.new, []⟩

def exec (op : Op) : Prog World Empty ModelError Reply := fun w =>
  if ∀ tx ∈ op.transaction, tx ∈ w.held then
    ((perform op w.model).1,
      ⟨(perform op w.model).2.1, heldAfter w.held op (perform op w.model).1⟩, [])
  else (.ok .notHeld, w, [])

abbrev ConsoleCall := Call Op World Empty ModelError Reply

end Wyrmroot.Consoled
