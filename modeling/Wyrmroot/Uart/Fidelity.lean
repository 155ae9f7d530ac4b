import Wyrmroot.Lib.Run
import Wyrmroot.Uart.Quiesced

/-!
# No byte is lost between the registers and the rings

A history of the core after `initialize_quiesced`. What was written to the
transmit register and what is in the transmit ring is what `enqueue_tx`
accepted. What was taken out of the receive ring and what is still in it is
what an intake of the ring's capacity keeps of the bytes read from the receive
register; the others arrived when the ring was full, and were counted.
-/

namespace Wyrmroot.Uart

open Uart16550

variable {I : Type}

/-- The calls of a core but `initialize_quiesced`. -/
inductive Op where
  | enqueueTx (bytes : List UInt8)
  | handleInterrupt
  | copyRx (room : Nat)
  | copyRxFrom (offset room : Nat)
  | discardRx (count : Nat)
  | dequeueRx
  | activateInterrupts
  | disableInterrupts
  | transportEmpty
  | interruptsDisabled
deriving DecidableEq

inductive Reply where
  | done
  | count (n : Nat)
  | work (work : InterruptWork)
  | bytes (bytes : List UInt8)
  | byte (byte : Option UInt8)
  | flag (flag : Bool)
deriving DecidableEq

def exec [ByteRegisterIo I] : Op → Core I Reply
  | .enqueueTx bytes => .count <$> enqueueTx bytes
  | .handleInterrupt => .work <$> handleInterrupt
  | .copyRx room => .bytes <$> copyRx room
  | .copyRxFrom offset room => .bytes <$> copyRxFrom offset room
  | .discardRx count => .count <$> discardRx count
  | .dequeueRx => .byte <$> dequeueRx
  | .activateInterrupts => (fun _ => .done) <$> activateInterrupts
  | .disableInterrupts => (fun _ => .done) <$> disableInterrupts
  | .transportEmpty => .flag <$> transportEmpty
  | .interruptsDisabled => .flag <$> interruptsDisabled

abbrev CoreCall (I : Type) := Call Op (Uart16550 I) Access CoreError Reply

/-! ## What a history says of the bytes -/

/-- The bytes an `enqueue_tx` reported accepted. -/
def acceptedOf (c : CoreCall I) : List UInt8 :=
  match c.op, c.outcome with
  | .enqueueTx bytes, .ok (.count n) => bytes.take n
  | _, _ => []

/-- The bytes a call took out of the receive ring. -/
def consumedOf (c : CoreCall I) : List UInt8 :=
  match c.op, c.outcome with
  | .dequeueRx, .ok (.byte (some byte)) => [byte]
  | .discardRx _, .ok (.count n) => c.before.rx.toList.take n
  | _, _ => []

/-- The traffic of the receive ring in a call, by the registers and the reply. -/
def trafficOf (c : CoreCall I) : List (Traffic UInt8) :=
  match c.op, c.outcome with
  | .dequeueRx, .ok (.byte (some _)) => [.leave 1]
  | .discardRx _, .ok (.count n) => [.leave n]
  | _, _ => arrived c.events

def accesses (h : List (CoreCall I)) : List Access := h.flatMap Call.events

def accepted (h : List (CoreCall I)) : List UInt8 := h.flatMap acceptedOf

def consumed (h : List (CoreCall I)) : List UInt8 := h.flatMap consumedOf

/-- The bytes read from the receive register. -/
def received (h : List (CoreCall I)) : List UInt8 := (accesses h).filterMap Access.received?

def intake (h : List (CoreCall I)) : Intake UInt8 :=
  Intake.run ringCapacity .empty (h.flatMap trafficOf)

/-! ## One call -/

/-- What a call from `s` does to the bytes. -/
structure Moves (s : Uart16550 I) (c : CoreCall I) : Prop where
  tx : s.tx.toList ++ acceptedOf c = sent c.events ++ c.after.tx.toList
  rx : ∀ n i, Holds n i s → Holds n (i.run ringCapacity (trafficOf c)) c.after
  consumed : consumedOf c = s.rx.toList.take (Intake.run ringCapacity .empty (trafficOf c)).gone
  departs : (Intake.run ringCapacity .empty (trafficOf c)).gone ≤ s.rx.toList.length
  received : Intake.arrivals (trafficOf c) = c.events.filterMap Access.received?
  length : c.op = .handleInterrupt → c.events.length ≤ interruptBound
  total : c.outcome ≠ .panic

theorem run_arrive_gone (bytes : List UInt8) : ∀ i : Intake UInt8,
    (i.run ringCapacity (bytes.map .arrive)).gone = i.gone := by
  induction bytes with
  | nil => exact fun _ => rfl
  | cons byte bytes ih =>
      intro i
      rw [List.map_cons, Intake.run, List.foldl_cons, ← Intake.run, ih, Intake.step]
      split_ifs <;> rfl

theorem arrivals_arrive (bytes : List UInt8) :
    Intake.arrivals (bytes.map Traffic.arrive) = bytes := by
  induction bytes with
  | nil => rfl
  | cons byte bytes ih => exact congrArg (byte :: ·) ih

variable {s : Uart16550 I}

/-- A call that only has to do with the registers it reads, and not with the
receive register. -/
theorem Moves.quiet {c : CoreCall I} (haccepted : acceptedOf c = [])
    (hconsumed : consumedOf c = []) (htraffic : trafficOf c = []) (hop : c.op ≠ .handleInterrupt)
    (hrx : c.after.rx = s.rx) (htx : c.after.tx = s.tx) (herrors : c.after.errors = s.errors)
    (hsent : sent c.events = []) (hreceived : c.events.filterMap Access.received? = [])
    (htotal : c.outcome ≠ .panic) : Moves s c where
  tx := by rw [haccepted, hsent, htx, List.append_nil, List.nil_append]
  rx := fun n i h => by
    rw [htraffic]
    exact ⟨h.gone_le, h.queue.trans (congrArg _ hrx.symm), by rw [herrors]; exact h.overrun⟩
  consumed := by
    rw [hconsumed, htraffic]
    exact List.take_zero.symm
  departs := by
    rw [htraffic]
    exact Nat.zero_le _
  received := by rw [htraffic, hreceived]; rfl
  length := fun h => absurd h hop
  total := htotal

theorem pushAll_eq (bytes : List UInt8) : ∀ tx : RingBuffer UInt8 ringCapacity,
    (pushAll bytes tx).1 ≤ bytes.length ∧
      (pushAll bytes tx).2.toList = tx.toList ++ bytes.take (pushAll bytes tx).1 := by
  induction bytes with
  | nil => exact fun tx => ⟨Nat.le_refl _, (List.append_nil _).symm⟩
  | cons byte bytes ih =>
      intro tx
      unfold pushAll
      split_ifs with hpush
      · obtain ⟨hle, hlist⟩ := ih (tx.push byte).2
        have hroom : tx.toList.length < ringCapacity := by
          refine Nat.lt_of_le_of_ne (tx.length_toList ▸ tx.len_le) fun hfull => ?_
          rw [RingBuffer.push_full hfull] at hpush
          cases hpush
        refine ⟨Nat.succ_le_succ hle, ?_⟩
        rw [hlist, (RingBuffer.push_room hroom).2, List.take_succ_cons, List.append_assoc]
        rfl
      · exact ⟨Nat.zero_le _, (List.append_nil _).symm⟩

variable {n : UInt32}

theorem Holds.leave {i : Intake UInt8} {t : Uart16550 I} {count : Nat}
    (h : Holds n i s) (hcount : count ≤ s.rx.toList.length)
    (hrx : t.rx.toList = s.rx.toList.drop count) (herrors : t.errors = s.errors) :
    Holds n (i.run ringCapacity [.leave count]) t := by
  have hlen : s.rx.toList.length = i.kept.length - i.gone := by
    rw [← h.queue, Intake.queue, List.length_drop]
  refine ⟨?_, ?_, by rw [herrors]; exact h.overrun⟩
  · show i.gone + count ≤ i.kept.length
    have hle := h.gone_le
    omega
  · show i.kept.drop (i.gone + count) = _
    rw [← List.drop_drop, hrx]
    exact congrArg (List.drop count) h.queue

/-! ## Histories -/

/-- What holds of the bytes of a history that began with `n` counted overruns. -/
structure Faithful (n : UInt32) (h : List (CoreCall I)) (s : Uart16550 I) : Prop where
  transmit : sent (accesses h) ++ s.tx.toList = accepted h
  receive : consumed h ++ s.rx.toList = (intake h).kept
  kept_sublist : (intake h).kept.Sublist (received h)
  lost_count : (intake h).kept.length + (intake h).lost = (received h).length
  overrun : s.errors.rxSoftwareOverrunBytes.toNat = min (n.toNat + (intake h).lost) 4294967295
  bounded : ∀ c ∈ h, c.op = .handleInterrupt → c.events.length ≤ interruptBound
  total : ∀ c ∈ h, c.outcome ≠ .panic

/-- The invariant behind it: the receive ring is what is left of the intake. -/
structure Tracked (n : UInt32) (h : List (CoreCall I)) (s : Uart16550 I) : Prop where
  transmit : sent (accesses h) ++ s.tx.toList = accepted h
  holds : Holds n (intake h) s
  taken : consumed h = (intake h).kept.take (intake h).gone
  arrivals : Intake.arrivals (h.flatMap trafficOf) = received h
  bounded : ∀ c ∈ h, c.op = .handleInterrupt → c.events.length ≤ interruptBound
  total : ∀ c ∈ h, c.outcome ≠ .panic

theorem arrivals_append (t t' : List (Traffic UInt8)) :
    Intake.arrivals (t ++ t') = Intake.arrivals t ++ Intake.arrivals t' := by
  induction t with
  | nil => rfl
  | cons event t ih =>
      cases event with
      | arrive byte => exact congrArg (byte :: ·) ih
      | leave count => exact ih

theorem run_gone (t : List (Traffic UInt8)) : ∀ i : Intake UInt8,
    (i.run ringCapacity t).gone = i.gone + (Intake.run ringCapacity .empty t).gone := by
  have hsum : ∀ i : Intake UInt8, (i.run ringCapacity t).gone =
      i.gone + (t.map fun
        | .arrive _ => 0
        | .leave count => count).sum := by
    induction t with
    | nil => exact fun _ => rfl
    | cons event t ih =>
        intro i
        rw [Intake.run, List.foldl_cons, ← Intake.run, ih, List.map_cons, List.sum_cons,
          ← Nat.add_assoc]
        cases event with
        | leave count => rfl
        | arrive byte =>
            rw [Intake.step]
            split_ifs <;> rfl
  intro i
  rw [hsum, hsum]
  exact congrArg (i.gone + ·) (Nat.zero_add _).symm

theorem Tracked.faithful {h : List (CoreCall I)} (ht : Tracked n h s) : Faithful n h s := by
  obtain ⟨more, hmore, hsub⟩ := Intake.run_sublist ringCapacity (h.flatMap trafficOf)
    (.empty : Intake UInt8)
  have hkept : (intake h).kept = more := hmore
  have hcount := Intake.run_count ringCapacity (h.flatMap trafficOf)
    (.empty : Intake UInt8)
  refine ⟨ht.transmit, ?_, ?_, ?_, ht.holds.overrun, ht.bounded, ht.total⟩
  · rw [ht.taken, ← ht.holds.queue]
    exact List.take_append_drop _ _
  · rw [hkept, ← ht.arrivals]
    exact hsub
  · rw [← ht.arrivals]
    exact hcount.trans (Nat.zero_add _)

theorem Tracked.start (hrx : s.rx.toList = []) (htx : s.tx.toList = []) :
    Tracked s.errors.rxSoftwareOverrunBytes [] s where
  transmit := htx
  holds := by
    refine ⟨Nat.le_refl _, hrx.symm, ?_⟩
    have hlt := s.errors.rxSoftwareOverrunBytes.toNat_lt
    show _ = min (_ + 0) _
    omega
  taken := rfl
  arrivals := rfl
  bounded := List.forall_mem_nil _
  total := List.forall_mem_nil _

/-! ## The calls -/

variable [ByteRegisterIo I]

theorem enqueueTx_run (bytes : List UInt8) (s : Uart16550 I) : ∃ s' w,
    enqueueTx bytes s = (.ok (pushAll bytes s.tx).1, s', w) ∧ s'.tx = (pushAll bytes s.tx).2 ∧
      s'.rx = s.rx ∧ s'.errors = s.errors ∧ s'.state = s.state ∧
      w = if (pushAll bytes s.tx).1 ≠ 0 ∧ s.tx.isEmpty = true ∧ s.state = .active then
        [.write ierDlm (ierRdiRlsi ||| ierThri)] else [] := by
  rw [enqueueTx, Prog.get_bind_run]
  rcases hpush : pushAll bytes s.tx with ⟨count, tx⟩
  simp only
  rw [Prog.bind_run_ok (Prog.modify_run _ _)]
  by_cases hwrite : count ≠ 0 ∧ s.tx.isEmpty = true ∧ s.state = .active
  · have htest : (decide (count ≠ 0) && s.tx.isEmpty && decide (s.state = .active)) = true := by
      simp [hwrite.1, hwrite.2.1, hwrite.2.2]
    rw [if_pos htest, if_pos hwrite]
    exact ⟨_, _, rfl, rfl, rfl, rfl, rfl, rfl⟩
  · have htest : ¬ (decide (count ≠ 0) && s.tx.isEmpty && decide (s.state = .active)) = true := by
      intro h
      simp only [Bool.and_eq_true, decide_eq_true_eq] at h
      exact hwrite ⟨h.1.1, h.1.2, h.2⟩
    rw [if_neg htest, if_neg hwrite]
    exact ⟨_, _, rfl, rfl, rfl, rfl, rfl, rfl⟩

theorem enqueueTx_moves (bytes : List UInt8) (s : Uart16550 I) :
    Moves s (callOf exec (.enqueueTx bytes) s) := by
  obtain ⟨s', w, hrun, htx, hrx, herrors, -, hw⟩ := enqueueTx_run bytes s
  have hexec : exec (.enqueueTx bytes) s = (.ok (.count (pushAll bytes s.tx).1), s', w) := by
    rw [exec, Prog.map_run, hrun]
    rfl
  have hsent : sent w = [] := by
    rw [hw]
    split_ifs <;> rfl
  have hreceived : w.filterMap Access.received? = [] := by
    rw [hw]
    split_ifs <;> rfl
  rw [callOf, hexec]
  have hquiet : arrived w = [] := by
    rw [arrived, hreceived]
    rfl
  refine ⟨?_, fun n i h => ?_, ?_, ?_, ?_, fun h => (by cases h), Outcome.ok_ne_panic _⟩
  · show s.tx.toList ++ bytes.take _ = sent w ++ s'.tx.toList
    rw [hsent, htx, (pushAll_eq bytes s.tx).2, List.nil_append]
  · show Holds n (i.run ringCapacity (arrived w)) s'
    rw [hquiet]
    exact ⟨h.gone_le, h.queue.trans (congrArg _ hrx.symm), by rw [herrors]; exact h.overrun⟩
  · show [] = s.rx.toList.take (Intake.run ringCapacity .empty (arrived w)).gone
    rw [hquiet]
    exact List.take_zero.symm
  · show (Intake.run ringCapacity .empty (arrived w)).gone ≤ _
    rw [hquiet]
    exact Nat.zero_le _
  · show Intake.arrivals (arrived w) = _
    rw [arrived, arrivals_arrive]

theorem handleInterrupt_moves (s : Uart16550 I) : Moves s (callOf exec .handleInterrupt s) := by
  by_cases hs : s.state = .active
  · have h := handleInterrupt_serves (I := I) s hs
    have hexec : exec .handleInterrupt s = ((handleInterrupt s).1.map .work,
        (handleInterrupt s).2.1, (handleInterrupt s).2.2) := Prog.map_run ..
    rw [callOf, hexec]
    have hstays : (Intake.run ringCapacity .empty (arrived (handleInterrupt s).2.2)).gone = 0 :=
      run_arrive_gone _ _
    refine ⟨?_, h.rx, ?_, ?_, arrivals_arrive _, fun _ => h.length, ?_⟩
    · show s.tx.toList ++ [] = _
      rw [List.append_nil]
      exact h.tx
    · show [] = s.rx.toList.take (Intake.run ringCapacity .empty (arrived _)).gone
      rw [hstays]
      exact List.take_zero.symm
    · show (Intake.run ringCapacity .empty (arrived _)).gone ≤ _
      rw [hstays]
      exact Nat.zero_le _
    · intro hpanic
      cases hout : (handleInterrupt s).1 with
      | panic => exact h.total hout
      | _ => rw [hout] at hpanic; cases hpanic
  · have hexec : exec .handleInterrupt s = (.ok (.work ⟨0, 0, 0⟩), s, []) := by
      rw [exec, Prog.map_run, handleInterrupt_idle hs]
      rfl
    rw [callOf, hexec]
    exact ⟨List.append_nil _, fun _ _ h => h, List.take_zero.symm, Nat.zero_le _, rfl,
      fun _ => Nat.zero_le _, Outcome.ok_ne_panic _⟩

theorem dequeueRx_moves (s : Uart16550 I) : Moves s (callOf exec .dequeueRx s) := by
  cases hpop : s.rx.pop with
  | none =>
      have hexec : exec .dequeueRx s = (.ok (.byte none), s, []) := by
        rw [exec, Prog.map_run, dequeueRx, Prog.get_bind_run, hpop]
        rfl
      rw [callOf, hexec]
      exact .quiet rfl rfl rfl (by rintro ⟨⟩) rfl rfl rfl rfl rfl (Outcome.ok_ne_panic _)
  | some front =>
      obtain ⟨byte, rx⟩ := front
      have hexec : exec .dequeueRx s = (.ok (.byte (some byte)), { s with rx }, []) := by
        rw [exec, Prog.map_run, dequeueRx, Prog.get_bind_run, hpop]
        rfl
      have hlist := RingBuffer.pop_eq_some hpop
      rw [callOf, hexec]
      have hone : 1 ≤ s.rx.toList.length := by
        rw [hlist]
        exact Nat.succ_le_succ (Nat.zero_le _)
      refine ⟨List.append_nil _, fun n i h => h.leave hone ?_ rfl, ?_, hone, rfl,
        fun h => (by cases h), Outcome.ok_ne_panic _⟩
      · rw [hlist]
        rfl
      · show [byte] = s.rx.toList.take 1
        rw [hlist]
        rfl

theorem discardRx_moves (count : Nat) (s : Uart16550 I) :
    Moves s (callOf exec (.discardRx count) s) := by
  have hexec : exec (.discardRx count) s = (.ok (.count (s.rx.discard count).1),
      { s with rx := (s.rx.discard count).2 }, []) := rfl
  rw [callOf, hexec]
  have hle : (s.rx.discard count).1 ≤ s.rx.toList.length := by
    rw [RingBuffer.discard_fst]
    exact Nat.min_le_right _ _
  have hgone : (Intake.run ringCapacity Intake.empty
      [(.leave (s.rx.discard count).1 : Traffic UInt8)]).gone = (s.rx.discard count).1 :=
    Nat.zero_add _
  refine ⟨List.append_nil _, fun n i h => h.leave hle (RingBuffer.toList_discard count) rfl,
    congrArg (fun k => s.rx.toList.take k) hgone.symm, hgone.le.trans hle, rfl,
    fun h => (by cases h), Outcome.ok_ne_panic _⟩

theorem activateInterrupts_run (s : Uart16550 I) :
    exec .activateInterrupts s = if s.state = .quiesced then
      (.ok .done, { s with io := ByteRegisterIo.write s.io ierDlm (wantedIer s), state := .active },
        [.write ierDlm (wantedIer s)]) else (.ok .done, s, []) := by
  rw [exec, Prog.map_run, activateInterrupts, Prog.get_bind_run]
  by_cases h : s.state = .quiesced
  · rw [if_pos h, if_pos h]
    rfl
  · rw [if_neg h, if_neg h]
    rfl

theorem exec_moves (op : Op) (s : Uart16550 I) : Moves s (callOf exec op s) := by
  cases op with
  | enqueueTx bytes => exact enqueueTx_moves bytes s
  | handleInterrupt => exact handleInterrupt_moves s
  | discardRx count => exact discardRx_moves count s
  | dequeueRx => exact dequeueRx_moves s
  | activateInterrupts =>
      rw [callOf, activateInterrupts_run]
      split_ifs
      · exact .quiet rfl rfl rfl (by rintro ⟨⟩) rfl rfl rfl rfl rfl (Outcome.ok_ne_panic _)
      · exact .quiet rfl rfl rfl (by rintro ⟨⟩) rfl rfl rfl rfl rfl (Outcome.ok_ne_panic _)
  | _ => exact .quiet rfl rfl rfl (by rintro ⟨⟩) rfl rfl rfl rfl rfl (Outcome.ok_ne_panic _)

theorem Tracked.call {h : List (CoreCall I)} (ht : Tracked n h s)
    (op : Op) : Tracked n (h ++ [callOf exec op s]) (exec op s).2.1 := by
  have hm := exec_moves op s
  have hintake : intake (h ++ [callOf exec op s]) =
      (intake h).run ringCapacity (trafficOf (callOf exec op s)) := by
    rw [intake, List.flatMap_append, Intake.run_append]
    simp only [List.flatMap_cons, List.flatMap_nil, List.append_nil]
    rfl
  refine ⟨?_, ?_, ?_, ?_, ?_, ?_⟩
  · rw [accesses, accepted, List.flatMap_append, List.flatMap_append, sent_append, List.append_assoc]
    simp only [List.flatMap_cons, List.flatMap_nil, List.append_nil]
    rw [← accepted, ← ht.transmit, List.append_assoc, hm.tx]
    rfl
  · rw [hintake]
    exact hm.rx n _ ht.holds
  · obtain ⟨more, hmore, -⟩ := Intake.run_sublist ringCapacity
      (trafficOf (callOf exec op s)) (intake h)
    have hqueue : (intake h).kept.drop (intake h).gone = s.rx.toList := ht.holds.queue
    rw [hintake, run_gone, consumed, List.flatMap_append, ← consumed, ht.taken]
    simp only [List.flatMap_cons, List.flatMap_nil, List.append_nil]
    rw [hm.consumed, List.take_add, hmore, List.take_append_of_le_length ht.holds.gone_le,
      List.drop_append_of_le_length ht.holds.gone_le, hqueue,
      List.take_append_of_le_length hm.departs]
  · rw [List.flatMap_append, arrivals_append, ht.arrivals, received, received, accesses, accesses,
      List.flatMap_append, List.filterMap_append]
    simp only [List.flatMap_cons, List.flatMap_nil, List.append_nil, hm.received]
  · intro c hc
    rcases List.mem_append.mp hc with hc | hc
    · exact ht.bounded c hc
    · rw [List.mem_singleton.mp hc]
      exact hm.length
  · intro c hc
    rcases List.mem_append.mp hc with hc | hc
    · exact ht.total c hc
    · rw [List.mem_singleton.mp hc]
      exact hm.total

theorem Tracked.replay (ht : Tracked n [] s) (ops : List Op) :
    Tracked n (replay exec ops s).1 (replay exec ops s).2 :=
  replay_keeps (fun _ _ op h => h.call op) ops ht

/-- After `initialize_quiesced`, from any core and over any registers. -/
theorem uart_fidelity (s : Uart16550 I) (ops : List Op) :
    Faithful (initializeQuiesced s).2.1.errors.rxSoftwareOverrunBytes
      (replay exec ops (initializeQuiesced s).2.1).1
      (replay exec ops (initializeQuiesced s).2.1).2 := by
  have hinit := initializeQuiesced_initialized s
  exact ((Tracked.start hinit.rx hinit.tx).replay ops).faithful

end Wyrmroot.Uart
