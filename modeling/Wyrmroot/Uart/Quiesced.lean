import Wyrmroot.Uart.Service

/-!
# The quiesced core

`initialize_quiesced` empties both rings, whatever they held, and drains what
the hardware still indicates. Its drain reads registers and nothing else; it
leaves the core quiesced, or failed if the hardware never comes to rest. The
interrupt-enable register is zero either way.
-/

namespace Wyrmroot.Uart

open Uart16550

variable {I : Type}

/-- The rings are as before, and the core is where it was or has failed. -/
structure Drained {α : Type} (s : Uart16550 I) (outcome : Outcome CoreError α) (s' : Uart16550 I)
    (w : List Access) : Prop where
  rx : s'.rx = s.rx
  tx : s'.tx = s.tx
  ok : ∀ a, outcome = .ok a → s'.state = s.state ∧ ∀ register, lastIer register w = register
  err : ∀ e, outcome = .err e → s'.state = .failed e ∧ ∀ register, lastIer register w = some 0
  total : outcome ≠ .panic

def Drains {α : Type} (m : Core I α) : Prop := ∀ s, Drained s (m s).1 (m s).2.1 (m s).2.2

namespace Drains

variable {α β : Type} {m : Core I α}

theorem quiet {a : α} {f : Uart16550 I → Uart16550 I} (hrun : ∀ s, m s = (.ok a, f s, []))
    (hrx : ∀ s, (f s).rx = s.rx) (htx : ∀ s, (f s).tx = s.tx)
    (hstate : ∀ s, (f s).state = s.state) : Drains m := by
  intro s
  rw [hrun s]
  refine ⟨hrx s, htx s, fun _ _ => ⟨hstate s, fun _ => rfl⟩, fun e h => ?_, Outcome.ok_ne_panic _⟩
  cases h

theorem pure (a : α) : Drains (Pure.pure a : Core I α) :=
  quiet (f := id) (fun _ => rfl) (fun _ => rfl) (fun _ => rfl) fun _ => rfl

theorem bind {f : α → Core I β} (hm : Drains m) (hf : ∀ a, Drains (f a)) :
    Drains (m >>= f) := by
  intro s
  have hfirst := hm s
  rcases hrun : m s with ⟨a | e | _, s', w⟩
  · rw [hrun] at hfirst
    obtain ⟨hstate, hier⟩ := hfirst.ok a rfl
    have hnext := hf a s'
    rw [Prog.bind_run_ok hrun]
    refine ⟨hnext.rx.trans hfirst.rx, hnext.tx.trans hfirst.tx, fun b hb => ?_, fun e he => ?_,
      hnext.total⟩
    · obtain ⟨hstate', hier'⟩ := hnext.ok b hb
      exact ⟨hstate'.trans hstate, fun register => by rw [lastIer_append, hier, hier']⟩
    · obtain ⟨hstate', hier'⟩ := hnext.err e he
      exact ⟨hstate', fun register => by rw [lastIer_append, hier']⟩
  · rw [hrun] at hfirst
    rw [Prog.bind_run_err hrun]
    refine ⟨hfirst.rx, hfirst.tx, fun b hb => ?_, fun e' he => ?_, Outcome.err_ne_panic _⟩
    · cases hb
    · obtain rfl := Outcome.err.inj he
      exact hfirst.err e rfl
  · rw [hrun] at hfirst
    exact absurd rfl hfirst.total

theorem ite {c : Prop} [Decidable c] {m' : Core I α} (h : Drains m) (h' : Drains m') :
    Drains (if c then m else m') := by
  split_ifs
  · exact h
  · exact h'

theorem accountLineStatus (status : UInt8) :
    Drains (Uart16550.accountLineStatus status : Core I Unit) :=
  quiet (a := ()) (fun _ => rfl) (fun _ => rfl) (fun _ => rfl) fun _ => rfl

variable [ByteRegisterIo I]

theorem readReg (offset : UInt8) : Drains (Uart16550.readReg offset : Core I UInt8) := by
  intro s
  refine ⟨rfl, rfl, fun _ _ => ⟨rfl, fun _ => rfl⟩, fun e h => ?_, Outcome.ok_ne_panic _⟩
  cases h

theorem fail {error : CoreError} : Drains (Uart16550.fail error : Core I α) := by
  intro s
  refine ⟨rfl, rfl, fun a h => ?_, fun e h => ?_, Outcome.err_ne_panic _⟩
  · cases h
  · obtain rfl := Outcome.err.inj h
    exact ⟨rfl, fun _ => rfl⟩

end Drains

variable [ByteRegisterIo I]

theorem staleDrain_drains (remaining : Nat) : Drains (staleDrain remaining : Core I Unit) := by
  induction remaining with
  | zero =>
      unfold staleDrain
      exact Drains.bind (.readReg iirFcr) fun _ => .ite (.pure ()) .fail
  | succ remaining ih =>
      unfold staleDrain
      have hrest : Drains (do
          let _ ← readReg msr
          let iir ← readReg iirFcr
          if iir &&& iirNoInterrupt ≠ 0 then pure () else staleDrain remaining : Core I Unit) :=
        (Drains.readReg msr).bind fun _ => Drains.bind (.readReg iirFcr) fun _ => .ite (.pure ()) ih
      refine (Drains.readReg lsr).bind fun status => ?_
      refine (Drains.accountLineStatus status).bind fun _ => ?_
      exact Drains.ite ((Drains.readReg rbrThrDll).bind fun _ => hrest) hrest

/-- Both rings are empty and no interrupt is enabled, however it ends. -/
structure Initialized (outcome : Outcome CoreError Unit) (s : Uart16550 I) (w : List Access) :
    Prop where
  rx : s.rx.toList = []
  tx : s.tx.toList = []
  ier : ∀ register, lastIer register w = some 0
  ok : outcome = .ok () → s.state = .quiesced
  err : ∀ e, outcome = .err e → s.state = .failed e
  total : outcome ≠ .panic

theorem configure_run (s : Uart16550 I) : ∃ s' w, configure s = (.ok (), s', w) ∧
    s'.rx = emptyRing ∧ s'.tx = emptyRing ∧ s'.state = .quiesced ∧
      ∀ register, lastIer register w = some 0 :=
  ⟨_, _, rfl, rfl, rfl, rfl, fun _ => rfl⟩

theorem initializeQuiesced_initialized (s : Uart16550 I) :
    Initialized (initializeQuiesced s).1 (initializeQuiesced s).2.1 (initializeQuiesced s).2.2 := by
  obtain ⟨s', w, hrun, hrx, htx, hstate, hier⟩ := configure_run s
  have h := staleDrain_drains drainLimit s'
  rw [initializeQuiesced, Prog.bind_run_ok hrun]
  refine ⟨?_, ?_, fun register => ?_, fun hok => ?_, fun e he => (h.err e he).1, h.total⟩
  · rw [h.rx, hrx]
    rfl
  · rw [h.tx, htx]
    rfl
  · rw [lastIer_append, hier]
    cases hout : (staleDrain drainLimit s').1 with
    | ok a => exact (h.ok a hout).2 _
    | err e => exact (h.err e hout).2 _
    | panic => exact absurd hout h.total
  · exact (h.ok () hok).1.trans hstate

end Wyrmroot.Uart
