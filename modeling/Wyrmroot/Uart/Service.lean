import Wyrmroot.Lib.Transducer
import Wyrmroot.Uart.Core

/-!
# What an interrupt does

`handle_interrupt` runs only on an active core. Whatever the registers answer,
a stretch of it makes a bounded number of accesses, takes what it writes to
the transmit register off the front of the transmit ring, puts what it reads
from the receive register behind the receive ring while there is room, and
leaves the core active with the interrupt enables its transmit ring asks for,
or failed with none (`Effect`). The rules below follow the program.
-/

namespace Wyrmroot.Uart

open Uart16550

variable {I : Type}

/-! ## Reading a trace -/

/-- A byte given to the transmit register. -/
def Access.sent? : Access → Option UInt8
  | .write offset value => if offset = rbrThrDll then some value else none
  | .read .. => none

/-- A byte taken from the receive register. -/
def Access.received? : Access → Option UInt8
  | .read offset value => if offset = rbrThrDll then some value else none
  | .write .. => none

def sent (w : List Access) : List UInt8 := w.filterMap Access.sent?

def arrived (w : List Access) : List (Traffic UInt8) := (w.filterMap Access.received?).map .arrive

/-- The interrupt-enable register after a trace, as far as it was written. -/
def lastIer (register : Option UInt8) (w : List Access) : Option UInt8 :=
  w.foldl (fun register access => match access with
    | .write offset value => if offset = ierDlm then some value else register
    | .read .. => register) register

@[simp] theorem sent_append (w w' : List Access) : sent (w ++ w') = sent w ++ sent w' :=
  List.filterMap_append ..

@[simp] theorem arrived_append (w w' : List Access) : arrived
    (w ++ w') = arrived w ++ arrived w' := by
  rw [arrived, List.filterMap_append, List.map_append]
  rfl

@[simp] theorem lastIer_append (register : Option UInt8) (w w' : List Access) :
    lastIer register (w ++ w') = lastIer (lastIer register w) w' := List.foldl_append

/-- The interrupt enables an active core asks for. -/
def wantedIer (s : Uart16550 I) : UInt8 :=
  if s.tx.isEmpty then ierRdiRlsi else ierRdiRlsi ||| ierThri

/-- The receive ring is what is left of an intake, and the overrun counter has
counted its losses on top of `c`. -/
structure Holds (c : UInt32) (i : Intake UInt8) (s : Uart16550 I) : Prop where
  gone_le : i.gone ≤ i.kept.length
  queue : i.queue = s.rx.toList
  overrun : s.errors.rxSoftwareOverrunBytes.toNat = min (c.toNat + i.lost) 4294967295

structure Effect {α : Type} (bound : Nat) (s : Uart16550 I) (outcome : Outcome CoreError α)
    (s' : Uart16550 I) (w : List Access) : Prop where
  length : w.length ≤ bound
  tx : s.tx.toList = sent w ++ s'.tx.toList
  rx : ∀ c i, Holds c i s → Holds c (i.run ringCapacity (arrived w)) s'
  ok : ∀ a, outcome = .ok a → s'.state = .active ∧
    lastIer (some (wantedIer s)) w = some (wantedIer s')
  err : ∀ e, outcome = .err e → s'.state = .failed e ∧ ∀ register, lastIer register w = some 0
  total : outcome ≠ .panic

/-- A program does this to every active core. -/
def Serves {α : Type} (bound : Nat) (m : Core I α) : Prop :=
  ∀ s, s.state = .active → Effect bound s (m s).1 (m s).2.1 (m s).2.2

namespace Serves

variable {α β : Type} {bound bound' : Nat} {m : Core I α}

theorem mono (h : Serves bound m) (hle : bound ≤ bound') : Serves bound' m :=
  fun s hs => { h s hs with length := (h s hs).length.trans hle }

theorem quiet {a : α} {f : Uart16550 I → Uart16550 I} {w : Uart16550 I → List Access}
    (hrun : ∀ s, m s = (.ok a, f s, w s)) (hlen : ∀ s, (w s).length ≤ bound)
    (hw : ∀ s, ∀ access ∈ w s, ∃ offset value, access = .read offset value ∧ offset ≠ rbrThrDll)
    (hrx : ∀ s, (f s).rx = s.rx) (htx : ∀ s, (f s).tx = s.tx) (hstate : ∀ s, (f s).state = s.state)
    (herrors : ∀ s, (f s).errors.rxSoftwareOverrunBytes = s.errors.rxSoftwareOverrunBytes) :
    Serves bound m := by
  intro s hs
  have hsent : sent (w s) = [] := List.filterMap_eq_nil_iff.mpr fun access ha => by
    obtain ⟨offset, value, rfl, -⟩ := hw s access ha
    rfl
  have harrived : arrived (w s) = [] := by
    have hnone : (w s).filterMap Access.received? = [] :=
      List.filterMap_eq_nil_iff.mpr fun access ha => by
        obtain ⟨offset, value, rfl, hne⟩ := hw s access ha
        exact if_neg hne
    rw [arrived, hnone]
    rfl
  have hier : ∀ register, lastIer register (w s) = register := fun register => by
    refine List.foldlRecOn (motive := fun r => r = register) (w s) _ rfl fun r hr access ha => ?_
    obtain ⟨offset, value, rfl, -⟩ := hw s access ha
    exact hr
  rw [hrun s]
  refine ⟨hlen s, ?_, fun c i h => ?_, fun _ _ => ⟨(hstate s).trans hs, ?_⟩, fun e h => ?_, ?_⟩
  · rw [hsent, htx s]
    rfl
  · rw [harrived]
    exact ⟨h.gone_le, h.queue.trans (congrArg _ (hrx s).symm), by rw [herrors s]; exact h.overrun⟩
  · rw [hier, wantedIer, wantedIer, htx s]
  · cases h
  · exact Outcome.ok_ne_panic _

theorem pure (a : α) : Serves 0 (Pure.pure a : Core I α) :=
  quiet (f := id) (w := fun _ => []) (fun _ => rfl) (fun _ => Nat.le_refl _)
    (fun _ => List.forall_mem_nil _) (fun _ => rfl) (fun _ => rfl) (fun _ => rfl) fun _ => rfl

theorem bind {k n : Nat} {f : α → Core I β} (hm : Serves k m)
    (hf : ∀ a, Serves n (f a)) : Serves (k + n) (m >>= f) := by
  intro s hs
  have hfirst := hm s hs
  rcases hrun : m s with ⟨a | e | _, s', w⟩
  · rw [hrun] at hfirst
    obtain ⟨hstate, hier⟩ := hfirst.ok a rfl
    have hnext := hf a s' hstate
    rw [Prog.bind_run_ok hrun]
    refine ⟨?_, ?_, fun c i h => ?_, fun b hb => ?_, fun e he => ?_, hnext.total⟩
    · rw [List.length_append]
      exact Nat.add_le_add hfirst.length hnext.length
    · rw [hfirst.tx, sent_append, hnext.tx, List.append_assoc]
    · rw [arrived_append, Intake.run_append]
      exact hnext.rx c _ (hfirst.rx c i h)
    · obtain ⟨hstate', hier'⟩ := hnext.ok b hb
      exact ⟨hstate', by rw [lastIer_append, hier, hier']⟩
    · obtain ⟨hstate', hier'⟩ := hnext.err e he
      exact ⟨hstate', fun register => by rw [lastIer_append, hier']⟩
  · rw [hrun] at hfirst
    rw [Prog.bind_run_err hrun]
    refine ⟨hfirst.length.trans (Nat.le_add_right _ _), hfirst.tx, hfirst.rx, fun b hb => ?_,
      fun e' he => ?_, Outcome.err_ne_panic _⟩
    · cases hb
    · obtain rfl := Outcome.err.inj he
      exact hfirst.err e rfl
  · rw [hrun] at hfirst
    exact absurd rfl hfirst.total

theorem ite {c : Prop} [Decidable c] {m' : Core I α} (h : Serves bound m) (h' : Serves bound m') :
    Serves bound (if c then m else m') := by
  split_ifs
  · exact h
  · exact h'

theorem accountLineStatus (status : UInt8) :
    Serves 0 (Uart16550.accountLineStatus status : Core I Unit) :=
  quiet (a := ()) (w := fun _ => []) (fun _ => rfl) (fun _ => Nat.le_refl _)
    (fun _ => List.forall_mem_nil _) (fun _ => rfl) (fun _ => rfl) (fun _ => rfl) fun _ => rfl

section Registers

variable [ByteRegisterIo I]

theorem readReg {offset : UInt8} (h : offset ≠ rbrThrDll) :
    Serves 1 (Uart16550.readReg offset : Core I UInt8) := by
  intro s hs
  have hsent : sent [.read offset (ByteRegisterIo.read s.io offset).1] = [] := rfl
  have harrived : arrived [.read offset (ByteRegisterIo.read s.io offset).1] = [] := by
    have hnone : (Access.read offset (ByteRegisterIo.read s.io offset).1).received? = none := if_neg h
    rw [arrived, List.filterMap_cons_none hnone]
    rfl
  refine ⟨Nat.le_refl _, ?_, fun c i hi => ?_, fun _ _ => ⟨hs, rfl⟩, fun e he => ?_,
    Outcome.ok_ne_panic _⟩
  · show _ = sent [_] ++ _
    rw [hsent]
    rfl
  · show Holds c (i.run ringCapacity (arrived [_])) _
    rw [harrived]
    exact ⟨hi.gone_le, hi.queue, hi.overrun⟩
  · cases he

theorem fail {error : CoreError} : Serves 1 (Uart16550.fail error : Core I α) := by
  intro s hs
  refine ⟨Nat.le_refl _, rfl, fun c i hi => ⟨hi.gone_le, hi.queue, hi.overrun⟩, fun a ha => ?_,
    fun e he => ?_, Outcome.err_ne_panic _⟩
  · cases ha
  · obtain rfl := Outcome.err.inj he
    exact ⟨rfl, fun _ => rfl⟩

end Registers

end Serves

/-! ## Receiving -/

theorem toNat_saturatingSucc32 (value : UInt32) :
    (saturatingSucc32 value).toNat = min (value.toNat + 1) 4294967295 := by
  unfold saturatingSucc32
  split_ifs with h
  · subst h
    rfl
  · have hne : value.toNat ≠ 4294967295 := fun heq => h (UInt32.toNat_inj.mp heq)
    have hlt := value.toNat_lt
    rw [UInt32.toNat_add]
    simp only [UInt32.toNat_one]
    omega

theorem Holds.store {c : UInt32} {i : Intake UInt8} {s : Uart16550 I} (h : Holds c i s)
    (byte : UInt8) : Holds c (i.step ringCapacity (.arrive byte)) (store byte s) := by
  have hheld : i.kept.length - i.gone = s.rx.toList.length := by
    rw [← h.queue, Intake.queue, List.length_drop]
  unfold Uart16550.store
  by_cases hroom : s.rx.toList.length < ringCapacity
  · obtain ⟨hpush, hlist⟩ := RingBuffer.push_room (a := byte) hroom
    rw [Intake.step_room (by rw [hheld]; exact hroom), if_pos hpush]
    refine ⟨?_, ?_, h.overrun⟩
    · rw [List.length_append]
      exact Nat.le_add_right_of_le h.gone_le
    · show (i.kept ++ [byte]).drop i.gone = _
      rw [hlist, List.drop_append_of_le_length h.gone_le]
      exact congrArg (· ++ [byte]) h.queue
  · have hfull : s.rx.toList.length = ringCapacity := by
      have hle := s.rx.len_le
      rw [← RingBuffer.length_toList] at hle
      omega
    rw [Intake.step_full (by rw [hheld]; exact hroom), RingBuffer.push_full hfull,
      if_neg Bool.false_ne_true]
    refine ⟨h.gone_le, h.queue, ?_⟩
    show (saturatingSucc32 _).toNat = _
    rw [toNat_saturatingSucc32, h.overrun]
    show min (min (c.toNat + i.lost) _ + 1) _ = min (c.toNat + (i.lost + 1)) _
    omega

variable [ByteRegisterIo I]

theorem receiveOne_serves (work : InterruptWork) : Serves 1 (receiveOne work : Core I _) := by
  intro s hs
  have hkeeps : ∀ byte (t : Uart16550 I), (store byte t).tx = t.tx ∧ (store byte t).state = t.state := by
    intro byte t
    unfold store
    split_ifs
    · exact ⟨rfl, rfl⟩
    · exact ⟨rfl, rfl⟩
  obtain ⟨htx, hstate⟩ := hkeeps (ByteRegisterIo.read s.io rbrThrDll).1
    { s with io := (ByteRegisterIo.read s.io rbrThrDll).2 }
  refine ⟨Nat.le_refl _, ?_, fun c i hi => ?_, fun _ _ => ⟨hstate.trans hs, ?_⟩, fun e he => ?_,
    Outcome.ok_ne_panic _⟩
  · exact congrArg RingBuffer.toList htx.symm
  · have hio : Holds c i { s with io := (ByteRegisterIo.read s.io rbrThrDll).2 } :=
      ⟨hi.gone_le, hi.queue, hi.overrun⟩
    exact hio.store _
  · exact congrArg some (congrArg (fun tx : RingBuffer UInt8 ringCapacity =>
      if tx.isEmpty then ierRdiRlsi else ierRdiRlsi ||| ierThri) htx.symm)
  · cases he

theorem handleLineStatus_serves (work : InterruptWork) :
    Serves 2 (handleLineStatus work : Core I _) := by
  unfold handleLineStatus
  refine (Serves.readReg (by decide)).bind (n := 1) fun status => ?_
  refine (Serves.accountLineStatus status).bind (n := 1) fun _ => ?_
  exact .ite (receiveOne_serves work) ((Serves.pure work).mono (Nat.zero_le 1))

theorem drainReceive_serves (remaining : Nat) : ∀ work : InterruptWork,
    Serves (remaining * 2 + 2) (drainReceive remaining work : Core I _) := by
  induction remaining with
  | zero =>
      intro work
      unfold drainReceive
      refine (Serves.readReg (by decide)).bind (n := 1) fun status => ?_
      refine (Serves.accountLineStatus status).bind (n := 1) fun _ => ?_
      exact .ite ((Serves.pure work).mono (Nat.zero_le 1)) .fail
  | succ remaining ih =>
      intro work
      unfold drainReceive
      have hturn : ∀ work, Serves (1 + (remaining * 2 + 2)) (do
          let work ← receiveOne work
          drainReceive remaining work : Core I _) := fun work =>
        (receiveOne_serves work).bind ih
      refine Serves.mono ((Serves.readReg (by decide)).bind (n := remaining * 2 + 3)
        fun status => ?_) (by omega)
      refine Serves.mono ((Serves.accountLineStatus status).bind (n := remaining * 2 + 3)
        fun _ => ?_) (by omega)
      exact .ite ((Serves.pure work).mono (Nat.zero_le _)) ((hturn work).mono (by omega))

/-! ## Transmitting -/

/-- The FIFO is filled from the front of the transmit ring; the interrupt
enables are put right only behind the loop. -/
theorem fillFifo_run (remaining : Nat) : ∀ (work : InterruptWork) (s : Uart16550 I),
    ∃ work' s' w, fillFifo remaining work s = (.ok work', s', w) ∧ w.length ≤ remaining ∧
      s.tx.toList = sent w ++ s'.tx.toList ∧ arrived w = [] ∧
      (∀ register, lastIer register w = register) ∧ s'.rx = s.rx ∧ s'.state = s.state ∧
      s'.errors = s.errors := by
  induction remaining with
  | zero =>
      intro work s
      exact ⟨work, s, [], rfl, Nat.le_refl _, rfl, rfl, fun _ => rfl, rfl, rfl, rfl⟩
  | succ remaining ih =>
      intro work s
      rw [fillFifo, Prog.get_bind_run]
      cases hpop : s.tx.pop with
      | none =>
          exact ⟨work, s, [], rfl, Nat.zero_le _, rfl, rfl, fun _ => rfl, rfl, rfl, rfl⟩
      | some front =>
          obtain ⟨byte, tx⟩ := front
          obtain ⟨work', s', w, hrun, hlen, htx, harrived, hier, hrx, hstate, herrors⟩ :=
            ih { work with transmitted := saturatingSucc16 work.transmitted }
              { s with tx, io := ByteRegisterIo.write s.io rbrThrDll byte }
          refine ⟨work', s', .write rbrThrDll byte :: w, ?_, Nat.succ_le_succ hlen, ?_, ?_, ?_, hrx,
            hstate, herrors⟩
          · show (.modify _ >>= fun _ => writeReg rbrThrDll byte >>= fun _ => _ : Core I _) s = _
            rw [Prog.bind_run_ok (Prog.modify_run _ _)]
            rw [Prog.bind_run_ok (m := writeReg rbrThrDll byte) rfl, hrun]
            rfl
          · rw [RingBuffer.pop_eq_some hpop]
            exact congrArg (byte :: ·) htx
          · exact harrived
          · exact fun register => hier register

theorem fillTransmit_serves (work : InterruptWork) :
    Serves 17 (fillTransmit work : Core I _) := by
  intro s hs
  obtain ⟨work', s', w, hrun, hlen, htx, harrived, hier, hrx, hstate, herrors⟩ :=
    fillFifo_run txFifoCapacity work s
  have hlen : w.length ≤ 16 := hlen
  have hholds : ∀ c i, Holds c i s → Holds c i s' := fun c i h =>
    ⟨h.gone_le, h.queue.trans (congrArg _ hrx.symm), by rw [herrors]; exact h.overrun⟩
  rw [fillTransmit, Prog.bind_run_ok hrun, Prog.get_bind_run]
  by_cases hempty : s'.tx.isEmpty = true
  · rw [if_pos hempty]
    refine ⟨?_, ?_, fun c i h => ?_, fun _ _ => ⟨hstate.trans hs, ?_⟩, fun e he => ?_,
      Outcome.ok_ne_panic _⟩
    · show (w ++ [_]).length ≤ 17
      rw [List.length_append]
      exact Nat.succ_le_succ hlen
    · show _ = sent (w ++ [_]) ++ _
      rw [htx, sent_append, List.append_assoc]
      rfl
    · show Holds c (i.run ringCapacity (arrived (w ++ [_]))) _
      rw [arrived_append, harrived]
      have hkept := hholds c i h
      exact ⟨hkept.gone_le, hkept.queue, hkept.overrun⟩
    · show lastIer _ (w ++ [_]) = _
      rw [lastIer_append]
      exact congrArg some (if_pos hempty).symm
    · cases he
  · rw [if_neg hempty]
    have hwas : s.tx.isEmpty = false := by
      rw [Bool.eq_false_iff]
      intro hnone
      have hnil := (RingBuffer.toList_eq_nil).mpr hnone
      rw [htx, List.append_eq_nil_iff] at hnil
      exact hempty (RingBuffer.toList_eq_nil.mp hnil.2)
    refine ⟨?_, ?_, fun c i h => ?_, fun _ _ => ⟨hstate.trans hs, ?_⟩, fun e he => ?_,
      Outcome.ok_ne_panic _⟩
    · show (w ++ []).length ≤ 17
      rw [List.append_nil]
      omega
    · show _ = sent (w ++ []) ++ _
      rw [List.append_nil]
      exact htx
    · show Holds c (i.run ringCapacity (arrived (w ++ []))) _
      rw [List.append_nil, harrived]
      exact hholds c i h
    · show lastIer _ (w ++ []) = _
      rw [List.append_nil, hier]
      have hwanted : wantedIer s = ierRdiRlsi ||| ierThri :=
        if_neg (by rw [hwas]; exact Bool.false_ne_true)
      exact congrArg some (hwanted.trans (if_neg hempty).symm)
    · cases he

/-! ## The drain of the causes -/

theorem serviceCause_serves (iir : UInt8) (work : InterruptWork) :
    Serves 514 (serviceCause iir work : Core I _) := by
  unfold serviceCause
  refine .ite ((handleLineStatus_serves work).mono (by decide)) (.ite
    ((drainReceive_serves drainLimit work).mono (by decide)) (.ite
      ((fillTransmit_serves work).mono (by decide)) (.ite ?_ (Serves.fail.mono (by decide)))))
  refine (Serves.readReg (by decide)).bind (n := 513) fun _ => ?_
  refine Serves.mono (Serves.bind (k := 0) (n := 0) ?_ fun _ => .pure work) (by decide)
  exact .quiet (a := ()) (w := fun _ => []) (fun _ => rfl) (fun _ => Nat.le_refl _)
    (fun _ => List.forall_mem_nil _) (fun _ => rfl) (fun _ => rfl) (fun _ => rfl) fun _ => rfl

theorem drainCauses_serves (remaining : Nat) : ∀ work : InterruptWork,
    Serves (remaining * 515 + 2) (drainCauses remaining work : Core I _) := by
  induction remaining with
  | zero =>
      intro work
      unfold drainCauses
      refine (Serves.readReg (by decide)).bind (n := 1) fun iir => ?_
      exact .ite ((Serves.pure work).mono (Nat.zero_le 1)) .fail
  | succ remaining ih =>
      intro work
      unfold drainCauses
      have hturn : ∀ iir work, Serves (514 + (remaining * 515 + 2)) (do
          let work ← serviceCause iir work
          drainCauses remaining work : Core I _) := fun iir work =>
        (serviceCause_serves iir work).bind ih
      refine Serves.mono ((Serves.readReg (by decide)).bind (n := remaining * 515 + 516)
        fun iir => ?_) (by omega)
      exact .ite ((Serves.pure work).mono (Nat.zero_le _)) ((hturn iir _).mono (by omega))

/-- The accesses of one interrupt. -/
def interruptBound : Nat := 131842

theorem handleInterrupt_serves : Serves interruptBound (handleInterrupt : Core I _) := by
  intro s hs
  have hne : ¬ s.state ≠ .active := not_not.mpr hs
  rw [handleInterrupt, Prog.get_bind_run, if_neg hne]
  exact drainCauses_serves drainLimit _ s hs

theorem handleInterrupt_idle {s : Uart16550 I} (h : s.state ≠ .active) :
    handleInterrupt s = (.ok ⟨0, 0, 0⟩, s, []) := by
  rw [handleInterrupt, Prog.get_bind_run, if_pos h]
  rfl

end Wyrmroot.Uart
