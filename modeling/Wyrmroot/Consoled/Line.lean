import Wyrmroot.Consoled.Fidelity
import Wyrmroot.Uart.Delivery
import Wyrmroot.Uart.Enables

/-!
# From the serial line to the child

The driver hands out what its receive ring takes in, record by record, and the console
stages what it reads of these records. As long as the stream between them keeps the
order, what is committed to a child is what came over the line, with its line ends
normalized.
-/

namespace Wyrmroot.Consoled

open Uart (ByteRegisterIo Delivery DriverOp DriverTracked Uart16550 driverExec
  receivedBytes)

/-- The calls behind the one that installs a child. -/
def session (earlier : List Op) (tx : LaunchTransaction) (childJob : UInt64) (later : List Op) :
    List ConsoleCall × World :=
  replay exec later (exec (.commitChildLaunch tx childJob) (replay exec earlier World.new).2).2.1

variable {earlier later : List Op} {tx tx' : LaunchTransaction} {childJob : UInt64} {child : ChildSession}

theorem lfEndings_mono {xs ys : List UInt8} (h : xs <+: ys) : lfEndings xs <+: lfEndings ys := by
  obtain ⟨rest, rfl⟩ := h
  rw [lfEndings_eq, lfEndings_eq, Transducer.output_append]
  exact List.prefix_append _ _

theorem stdin_within (hlaunch : (exec (.commitChildLaunch tx childJob)
      (replay exec earlier World.new).2).1 = .ok (.launched child tx'))
    (hserves : ∀ call ∈ (session earlier tx childJob later).1, Serves child.ids call) :
    lfEndings (arrived (replay exec earlier World.new).1) ++
        (carried (session earlier tx childJob later).1).stdin <+:
      lfEndings (arrived (replay exec earlier World.new).1 ++
        (carried (session earlier tx childJob later).1).input) := by
  have hbetween := between_run earlier
  have hmove := (exec_moves hbetween.sound (.commitChildLaunch tx childJob)).resolve_left (by
    intro h
    rw [h.2] at hlaunch
    cases hlaunch)
  rw [hlaunch] at hmove
  obtain ⟨hchild, hconveying⟩ := launched_session hbetween hmove.2
  have hlaw := (session_run ⟨exec_sound _ _ hbetween.sound, congrArg (Option.map _) hchild, hconveying⟩
    later hserves).conveying
  rw [lfEndings_eq, lfEndings_eq, Transducer.output_append]
  exact (List.prefix_append_right_inj _).mpr hlaw.stdinPrefix

/-- A child is given, in order, what the line brought, but for what the receive ring did not take, and
nothing else. -/
theorem line_reaches_child {I : Type} [ByteRegisterIo I]
    (readyIdentity : Devmgr.ControlIdentityV1_1)
    (interruptHandle : Nat) (uart : Uart16550 I) (driverOps : List DriverOp)
    (hlaunch : (exec (.commitChildLaunch tx childJob) (replay exec earlier World.new).2).1 =
      .ok (.launched child tx'))
    (hserves : ∀ call ∈ (session earlier tx childJob later).1, Serves child.ids call)
    (hstream : arrived (replay exec earlier World.new).1 ++
      (carried (session earlier tx childJob later).1).input <+: (Delivery.of uart.rx.toList
        (replay driverExec driverOps (.joined readyIdentity interruptHandle uart)).1).sent) :
    ∃ kept, kept.Sublist
        (receivedBytes (replay driverExec driverOps (.joined readyIdentity interruptHandle uart)).1) ∧
      lfEndings (arrived (replay exec earlier World.new).1) ++
        (carried (session earlier tx childJob later).1).stdin <+: lfEndings (uart.rx.toList ++ kept) := by
  have htracked := replay_keeps (P := DriverTracked _ uart.rx.toList) (fun _ _ op h => h.call op)
    driverOps (DriverTracked.start readyIdentity interruptHandle uart)
  have horder := htracked.exactlyOnce.inOrder
  obtain ⟨kept, hkept, hsub⟩ := htracked.received.kept
  rw [hkept] at horder
  refine ⟨kept, hsub, (stdin_within hlaunch hserves).trans (lfEndings_mono ?_)⟩
  exact hstream.trans (horder ▸ List.prefix_append _ _)

/-- `ls`, CR LF and `a` are on the line. -/
def lineUart : Uart16550 (List UInt8) :=
  { Uart16550.new [4, 1, 108, 1, 115, 1, 13, 1, 10, 1, 97, 0] with state := .quiesced }

/-- One interrupt and one record. -/
def lineOps : List DriverOp :=
  [.activate, .attachStream (.attachStream ⟨1, 2, 3, ⟨4, 5⟩, 6⟩ 1 1)
    ⟨1, .channel, Uart.rawStreamRights, 0, [0, 0]⟩,
   .drainInterrupt, .prepareStreamSend (.replicate _ 0), .commitStreamSend]

theorem lineOps_reaches_child : ∃ kept, kept.Sublist [108, 115, 13, 10, 97] ∧
    [108, 115] <+: lfEndings kept := by
  have hreceived : receivedBytes (replay driverExec lineOps (.joined ⟨1, 2, 3, ⟨4, 5⟩, 6⟩ 1 lineUart)).1 =
      [108, 115, 13, 10, 97] := by decide +kernel
  have hsent : (Delivery.of lineUart.rx.toList
      (replay driverExec lineOps (.joined ⟨1, 2, 3, ⟨4, 5⟩, 6⟩ 1 lineUart)).1).sent =
      [108, 115, 13, 10, 97] := by decide +kernel
  have harrived : arrived (replay exec started World.new).1 = [] := by decide +kernel
  have hinput : (carried typedSession.1).input = [108, 115, 13, 10, 97] := by decide +kernel
  have hstdin : (carried typedSession.1).stdin = [108, 115] := by decide +kernel
  have h := line_reaches_child ⟨1, 2, 3, ⟨4, 5⟩, 6⟩ 1 lineUart lineOps started_launched typed_serves
    (by
      rw [hsent, harrived]
      exact hinput ▸ List.prefix_rfl)
  rw [hreceived, harrived] at h
  exact hstdin ▸ h

end Wyrmroot.Consoled
