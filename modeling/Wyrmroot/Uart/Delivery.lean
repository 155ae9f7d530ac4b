import Wyrmroot.Uart.Driver

/-!
# Every received byte is delivered once

A history of the production driver that leaves its core alone. A record is
prepared from a copy of the receive ring's front and the bytes leave the ring
when its send is reported; in between interrupts append, sends are refused,
and streams are detached and attached again. The copy is a prefix of the ring
all along (`Pending`), so a commit finds its bytes, and what was sent is what
has left an intake of the ring (`Ledger`).

Only a drain, a prepare, a commit and a detach touch any of this. Every other
call is `Quiet`.
-/

namespace Wyrmroot.Uart

open Outcome
open Devmgr (ControlMessageV1_1 ControlIdentityV1_1)
open StreamProto (maxPayloadBytes maxRecordBytes headerBytes decodeData)
open ProductionDriver

variable {I : Type}

/-- The calls of a driver. What a record is prepared into is an array. -/
inductive DriverOp where
  | activate
  | attachStream (message : ControlMessageV1_1) (endpoint : ReceivedStreamEndpoint)
  | detachStream
  | drainInterrupt
  | acceptStreamRecord (wire : List UInt8) (receivedHandles : Nat)
  | prepareStreamSend (output : Vector UInt8 maxRecordBytes)
  | commitStreamSend
  | resolveStreamSend (drain : PeerCloseDrain) (result : StreamSendResult)
  | beginGracefulRetire

inductive DriverReply where
  | message (message : ControlMessageV1_1)
  | detached (given : Option (ControlMessageV1_1 × ReceivedStreamEndpoint))
  | drained (interrupt : DrainedInterrupt)
  | accepted (count : Nat)
  | prepared (size : Option Nat) (output : List UInt8)
  | resolved (action : StreamSendAction) (drain : PeerCloseDrain)
  | done

inductive DriverFailure where
  | driver (error : DriverError)
  | attach (error : StreamAttachError)

def driverExec [ByteRegisterIo I] :
    DriverOp → Prog (ProductionDriver I) Access DriverFailure DriverReply
  | .activate => driver (.message <$> activate)
  | .attachStream message endpoint => .within id (fun s _ => s) .attach
      (.message <$> attachStream message endpoint)
  | .detachStream => driver (.detached <$> detachStream)
  | .drainInterrupt => driver (.drained <$> drainInterrupt)
  | .acceptStreamRecord wire receivedHandles => driver
      (.accepted <$> acceptStreamRecord wire receivedHandles)
  | .prepareStreamSend output => driver
      ((fun record => .prepared record.1 record.2) <$> prepareStreamSend output.toList)
  | .commitStreamSend => driver ((fun _ => .done) <$> commitStreamSend)
  | .resolveStreamSend drain result => driver
      ((fun resolved => .resolved resolved.1 resolved.2) <$> resolveStreamSend drain result)
  | .beginGracefulRetire => driver ((fun _ => .done) <$> beginGracefulRetire)
where
  driver (m : Driver I DriverReply) : Prog (ProductionDriver I) Access DriverFailure DriverReply :=
    .within id (fun s _ => s) .driver m

abbrev DriverCall (I : Type) := Call DriverOp (ProductionDriver I) Access DriverFailure DriverReply

/-! ## What a history says of the records -/

/-- The payload of a record that was handed out. -/
def payloadOf (record : List UInt8) : List UInt8 :=
  match decodeData record with
  | .ok payload => payload
  | _ => []

/-- `record` is the payload of the record prepared last, until its send is
decided. `sent` are the payloads reported sent, and the intake is fed with
what was read from the receive register. -/
structure Delivery where
  record : List UInt8
  sent : List UInt8
  intake : Intake UInt8

namespace Delivery

/-- The driver's receive ring as it was when the history began. -/
def start (queued : List UInt8) : Delivery := ⟨[], [], ⟨queued, 0, 0⟩⟩

def receive (d : Delivery) (w : List Access) : Delivery :=
  { d with intake := d.intake.run ringCapacity (arrived w) }

def commit (d : Delivery) : Delivery :=
  ⟨[], d.sent ++ d.record, d.intake.run ringCapacity [.leave d.record.length]⟩

def step (d : Delivery) (c : DriverCall I) : Delivery :=
  match c.op, c.outcome with
  | .prepareStreamSend _, .ok (.prepared (some size) output) =>
      { d.receive c.events with record := payloadOf (output.take size) }
  | .commitStreamSend, _ => d.commit
  | .resolveStreamSend _ .sent, _ => d.commit
  | .detachStream, _ => { d.receive c.events with record := [] }
  | .resolveStreamSend _ .failed, _ => { d.receive c.events with record := [] }
  | _, _ => d.receive c.events

def of (queued : List UInt8) (h : List (DriverCall I)) : Delivery := h.foldl step (start queued)

theorem of_snoc (queued : List UInt8) (h : List (DriverCall I)) (c : DriverCall I) :
    of queued (h ++ [c]) = (of queued h).step c := List.foldl_concat ..

end Delivery

/-! ## The invariant -/

/-- The copy is what the front of the receive ring still is. -/
structure Pending (s : ProductionDriver I) : Prop where
  size : s.pendingRx.length = maxPayloadBytes
  fits : s.pendingRxLen ≤ maxPayloadBytes
  queued : s.pending <+: s.uart.rx.toList

structure Ledger (n : UInt32) (d : Delivery) (s : ProductionDriver I) : Prop where
  pending : Pending s
  record : d.record = s.pending
  holds : Holds n d.intake s.uart
  sent : d.sent = d.intake.kept.take d.intake.gone

/-- What is kept of `queued` and the bytes read from the receive register. -/
structure Received (queued bytes : List UInt8) (i : Intake UInt8) : Prop where
  kept : ∃ more, i.kept = queued ++ more ∧ more.Sublist bytes
  count : i.kept.length + i.lost = queued.length + bytes.length

variable {queued : List UInt8}

theorem Received.run {bytes : List UInt8} {i : Intake UInt8} (h : Received queued bytes i)
    (t : List (Traffic UInt8)) :
    Received queued (bytes ++ Intake.arrivals t) (i.run ringCapacity t) := by
  obtain ⟨more, hkept, hsub⟩ := h.kept
  obtain ⟨later, hlater, hsub'⟩ := Intake.run_sublist ringCapacity t i
  refine ⟨⟨more ++ later, ?_, hsub.append hsub'⟩, ?_⟩
  · rw [hlater, hkept, List.append_assoc]
  · rw [Intake.run_count, h.count, List.length_append, Nat.add_assoc]

theorem Holds.grows {n : UInt32} {i : Intake UInt8} {u u' : Uart16550 I} {bytes : List UInt8}
    (h : Holds n i u)
    (h' : Holds n (i.run ringCapacity (bytes.map .arrive)) u') : u.rx.toList <+: u'.rx.toList := by
  obtain ⟨more, hmore, -⟩ := Intake.run_sublist ringCapacity (bytes.map .arrive) i
  rw [← h.queue, ← h'.queue, Intake.queue, Intake.queue, run_arrive_gone, hmore,
    List.drop_append_of_le_length h.gone_le]
  exact List.prefix_append _ _

theorem Pending.length {s : ProductionDriver I} (h : Pending s) :
    s.pending.length = s.pendingRxLen := by
  rw [ProductionDriver.pending, List.length_take_of_le]
  exact Nat.le_trans h.fits (Nat.le_of_eq h.size.symm)

theorem pending_empty {s : ProductionDriver I} (h : s.pendingRxLen = 0) : s.pending = [] := by
  rw [ProductionDriver.pending, h, List.take_zero]

/-- A call that leaves the copy and the ring alone. -/
structure Same (s s' : ProductionDriver I) (w : List Access) : Prop where
  pendingRx : s'.pendingRx = s.pendingRx
  pendingRxLen : s'.pendingRxLen = s.pendingRxLen
  rx : s'.uart.rx = s.uart.rx
  errors : s'.uart.errors = s.uart.errors
  received : w.filterMap Access.received? = []

namespace Same

variable {s s' s'' : ProductionDriver I} {w w' : List Access}

theorem refl (s : ProductionDriver I) : Same s s [] := ⟨rfl, rfl, rfl, rfl, rfl⟩

theorem trans (h : Same s s' w) (h' : Same s' s'' w') : Same s s'' (w ++ w') where
  pendingRx := h'.pendingRx.trans h.pendingRx
  pendingRxLen := h'.pendingRxLen.trans h.pendingRxLen
  rx := h'.rx.trans h.rx
  errors := h'.errors.trans h.errors
  received := by rw [List.filterMap_append, h.received, h'.received]; rfl

theorem pending (h : Same s s' w) (hp : Pending s) : Pending s' where
  size := h.pendingRx ▸ hp.size
  fits := h.pendingRxLen ▸ hp.fits
  queued := by
    rw [ProductionDriver.pending, h.pendingRx, h.pendingRxLen, h.rx]
    exact hp.queued

theorem ledger {n : UInt32} {d : Delivery} (h : Same s s' w) (hl : Ledger n d s) :
    Ledger n (d.receive w) s' := by
  have hnone : d.receive w = d := by
    rw [Delivery.receive, arrived, h.received]
    rfl
  rw [hnone]
  refine ⟨h.pending hl.pending, ?_, ⟨hl.holds.gone_le, ?_, ?_⟩, hl.sent⟩
  · rw [hl.record, ProductionDriver.pending, ProductionDriver.pending, h.pendingRx, h.pendingRxLen]
  · rw [h.rx]
    exact hl.holds.queue
  · rw [h.errors]
    exact hl.holds.overrun

end Same

/-- Whatever the state, the program ends and leaves the copy and the ring alone. -/
def Quiet {ε α : Type} (m : Prog (ProductionDriver I) Access ε α) : Prop :=
  ∀ s, (m s).1 ≠ .panic ∧ Same s (m s).2.1 (m s).2.2

namespace Quiet

variable {ε α β : Type}

theorem pure (a : α) : Quiet (Pure.pure a : Prog (ProductionDriver I) Access ε α) :=
  fun s => ⟨ok_ne_panic _, .refl s⟩

theorem throw (e : ε) : Quiet (.throw e : Prog (ProductionDriver I) Access ε α) :=
  fun s => ⟨err_ne_panic _, .refl s⟩

theorem lift {x : Outcome ε α} (h : x ≠ .panic) :
    Quiet (.lift x : Prog (ProductionDriver I) Access ε α) := fun s => ⟨h, .refl s⟩

theorem modify {f : ProductionDriver I → ProductionDriver I} (h : ∀ s, Same s (f s) []) :
    Quiet (.modify f : Prog (ProductionDriver I) Access ε Unit) := fun s => ⟨ok_ne_panic _, h s⟩

theorem bind {m : Prog (ProductionDriver I) Access ε α}
    {f : α → Prog (ProductionDriver I) Access ε β} (hm : Quiet m) (hf : ∀ a, Quiet (f a)) :
    Quiet (m >>= f) := by
  intro s
  obtain ⟨htotal, hsame⟩ := hm s
  rcases hrun : m s with ⟨a | e | _, s', w⟩
  · rw [hrun] at hsame
    rw [Prog.bind_run_ok hrun]
    exact ⟨(hf a s').1, hsame.trans (hf a s').2⟩
  · rw [hrun] at hsame
    rw [Prog.bind_run_err hrun]
    exact ⟨err_ne_panic _, hsame⟩
  · rw [hrun] at htotal
    exact absurd rfl htotal

theorem get_bind {f : ProductionDriver I → Prog (ProductionDriver I) Access ε α}
    (h : ∀ s, Quiet (f s)) : Quiet (.get >>= f) := fun s => h s s

theorem ite {c : Prop} [Decidable c] {m m' : Prog (ProductionDriver I) Access ε α} (h : Quiet m)
    (h' : Quiet m') : Quiet (if c then m else m') := by
  split_ifs
  · exact h
  · exact h'

theorem onUart {m : Core I α} (h : ∀ s, (m s).1 ≠ .panic ∧ (m s).2.1.rx = s.rx ∧
    (m s).2.1.errors = s.errors ∧ (m s).2.2.filterMap Access.received? = []) :
    Quiet (ProductionDriver.onUart m) := by
  intro s
  obtain ⟨htotal, hrx, herrors, hreceived⟩ := h s.uart
  refine ⟨?_, ⟨rfl, rfl, hrx, herrors, hreceived⟩⟩
  show (m s.uart).1.mapErr _ ≠ .panic
  cases hout : (m s.uart).1 with
  | ok a => exact ok_ne_panic _
  | err e => exact err_ne_panic _
  | panic => exact absurd hout htotal

end Quiet

/-! ## Preparing, committing and detaching -/

section Records

variable {n : UInt32} {d : Delivery} {s : ProductionDriver I}

theorem refill_run (hp : Pending s) : ∃ s', (refill : Driver I Unit) s = (.ok (), s', []) ∧
    s'.uart = s.uart ∧ s'.stream = s.stream ∧ Pending s' ∧
      (s'.pendingRxLen = 0 → s.pendingRxLen = 0) := by
  rw [refill, Prog.get_bind_run]
  by_cases hempty : s.pendingRxLen = 0
  · rw [if_pos hempty]
    have hbytes : s.uart.rx.copyTo maxPayloadBytes = s.uart.rx.toList.take maxPayloadBytes :=
      RingBuffer.copyTo_eq _
    have hlen : (s.uart.rx.copyTo maxPayloadBytes).length ≤ maxPayloadBytes := by
      rw [hbytes]
      exact List.length_take_le _ _
    refine ⟨_, rfl, rfl, rfl, ⟨?_, hlen, ?_⟩, fun _ => hempty⟩
    · show (s.uart.rx.copyTo maxPayloadBytes ++ s.pendingRx.drop _).length = _
      rw [List.length_append, List.length_drop, hp.size]
      omega
    · show (s.uart.rx.copyTo maxPayloadBytes ++ s.pendingRx.drop _).take
        (s.uart.rx.copyTo maxPayloadBytes).length <+: s.uart.rx.toList
      rw [List.take_left, hbytes]
      exact List.take_prefix _ _
  · rw [if_neg hempty]
    exact ⟨s, rfl, rfl, rfl, hp, fun h => h⟩

theorem prepareStreamSend_run (hp : Pending s) {output : List UInt8}
    (houtput : output.length = maxRecordBytes) : ∃ s' size output',
      prepareStreamSend output s = (.ok (size, output'), s', []) ∧ s'.uart = s.uart ∧
        Pending s' ∧ match size with
          | none => s'.pending = s.pending
          | some size => decodeData (output'.take size) = .ok s'.pending := by
  rw [prepareStreamSend, Prog.get_bind_run]
  by_cases hactive : s.stream.active.isNone = true
  · rw [if_pos hactive]
    exact ⟨s, none, output, rfl, rfl, hp, rfl⟩
  rw [if_neg hactive]
  obtain ⟨s', hrun, huart, -, hpending, hempty⟩ := refill_run hp
  rw [Prog.bind_run_ok hrun, Prog.get_bind_run]
  by_cases hnone : s'.pendingRxLen = 0
  · rw [if_pos hnone]
    refine ⟨s', none, output, rfl, huart, hpending, ?_⟩
    show s'.pending = s.pending
    rw [pending_empty hnone, pending_empty (hempty hnone)]
  rw [if_neg hnone]
  have hslice : (sliceAt s'.pendingRx 0 s'.pendingRxLen : Outcome DriverError _) =
      .ok s'.pending := by
    rw [sliceAt_ok (by rw [hpending.size, Nat.zero_add]; exact hpending.fits)]
    rfl
  have hlarge : s'.pending.length ≤ maxPayloadBytes := hpending.length ▸ hpending.fits
  have hroom : headerBytes + s'.pending.length ≤ output.length := by
    rw [houtput]
    exact Nat.add_le_add_left hlarge _
  obtain ⟨output', hencode, htext⟩ := StreamProto.encodeData_run hlarge hroom
  refine ⟨s', some (headerBytes + s'.pending.length), output', ?_, huart, hpending, ?_⟩
  · rw [hslice, Prog.lift_ok_bind, hencode]
    rfl
  · show decodeData _ = _
    rw [htext]
    exact StreamProto.decodeData_record hlarge

theorem commitStreamSend_ledger (hl : Ledger n d s) : Prog.wp commitStreamSend (fun o s' w =>
    o ≠ .panic ∧ w = [] ∧ Ledger n d.commit s') s := by
  have hfront : s.uart.rx.toList.take s.pending.length = s.pending :=
    (List.prefix_iff_eq_take.mp hl.pending.queued).symm
  have hgone : ∀ s' : ProductionDriver I, s'.pendingRxLen = 0 → s'.pendingRx = s.pendingRx →
      s'.uart.errors = s.uart.errors →
        s'.uart.rx.toList = s.uart.rx.toList.drop s.pending.length → Ledger n d.commit s' := by
    intro s' hlen hrx herrors hring
    have hnil := pending_empty hlen
    have hholds := hl.holds.leave (t := s'.uart) hl.pending.queued.length_le hring herrors
    rw [← hl.record] at hholds
    refine ⟨⟨hrx ▸ hl.pending.size, hlen ▸ Nat.zero_le _, ?_⟩, hnil.symm, hholds, ?_⟩
    · rw [hnil]
      exact List.nil_prefix
    · show d.sent ++ d.record = d.intake.kept.take (d.intake.gone + d.record.length)
      have hqueue : d.intake.kept.drop d.intake.gone = s.uart.rx.toList := hl.holds.queue
      rw [List.take_add, ← hl.sent, hqueue, hl.record, hfront]
  rw [commitStreamSend, Prog.wp_get_bind]
  by_cases hempty : s.pendingRxLen = 0
  · rw [if_neg (not_not.mpr hempty)]
    refine ⟨ok_ne_panic _, rfl, hgone s hempty rfl rfl ?_⟩
    rw [hl.pending.length, hempty]
    rfl
  · rw [if_pos hempty]
    have hdiscard : (s.uart.rx.discard s.pendingRxLen).1 = s.pendingRxLen := by
      rw [RingBuffer.discard_fst, ← hl.pending.length]
      exact Nat.min_eq_left hl.pending.queued.length_le
    have hrun : (onUart (Uart16550.discardRx s.pendingRxLen) : Driver I Nat) s =
        (.ok s.pendingRxLen, { s with
          uart := { s.uart with rx := (s.uart.rx.discard s.pendingRxLen).2 } }, []) := by
      rw [onUart, Prog.within]
      refine Prod.ext (congrArg Outcome.ok hdiscard) rfl
    rw [Prog.wp_bind_ok hrun, if_pos rfl]
    refine ⟨ok_ne_panic _, rfl, hgone _ rfl rfl rfl ?_⟩
    show (s.uart.rx.discard s.pendingRxLen).2.toList = _
    rw [RingBuffer.toList_discard, hdiscard, hl.pending.length]

theorem detachStream_ledger (hl : Ledger n d s) : Prog.wp detachStream (fun o s' w =>
    o ≠ .panic ∧ w = [] ∧ Ledger n { d with record := [] } s') s := by
  obtain ⟨given, hdetach⟩ := detach_run s.stream
  have hrun : (onStream StreamAttachment.detach (fun _ => DriverError.streamProtocol) :
      Driver I _) { s with pendingRxLen := 0 } = (.ok given,
        { s with pendingRxLen := 0, stream := { s.stream with active := none } }, []) := by
    rw [onStream, hdetach]
    rfl
  have hdropped : ∀ s' : ProductionDriver I, s'.pendingRxLen = 0 → s'.pendingRx = s.pendingRx →
      s'.uart = s.uart → Ledger n { d with record := [] } s' := by
    intro s' hlen hrx huart
    have hnil := pending_empty hlen
    refine ⟨⟨hrx ▸ hl.pending.size, hlen ▸ Nat.zero_le _, ?_⟩, hnil.symm, huart ▸ hl.holds, hl.sent⟩
    rw [hnil]
    exact List.nil_prefix
  rw [detachStream, Prog.wp_modify_bind, Prog.wp_bind_ok hrun, Prog.wp_modify_bind]
  refine ⟨ok_ne_panic _, rfl, ?_⟩
  split_ifs
  · exact hdropped _ rfl rfl rfl
  · exact hdropped _ rfl rfl rfl

/-- What a call leaves of the ledger. -/
structure Keeps (n : UInt32) (d : Delivery) (c : DriverCall I) : Prop where
  total : c.outcome ≠ .panic
  ledger : Ledger n (d.step c) c.after
  traffic : ∃ t, (d.step c).intake = d.intake.run ringCapacity t ∧
    Intake.arrivals t = c.events.filterMap Access.received?

variable {c : DriverCall I}

theorem Keeps.receive (hstep : d.step c = d.receive c.events)
    (htotal : c.outcome ≠ .panic) (hl : Ledger n (d.receive c.events) c.after) : Keeps n d c where
  total := htotal
  ledger := hstep ▸ hl
  traffic := ⟨arrived c.events, hstep ▸ rfl, arrivals_arrive _⟩

theorem Keeps.commit (hstep : d.step c = d.commit) (htotal : c.outcome ≠ .panic)
    (hevents : c.events = []) (hl : Ledger n d.commit c.after) : Keeps n d c where
  total := htotal
  ledger := hstep ▸ hl
  traffic := ⟨[.leave d.record.length], hstep ▸ rfl, by rw [hevents]; rfl⟩

theorem Keeps.drop (hstep : d.step c = { d.receive c.events with record := [] })
    (htotal : c.outcome ≠ .panic) (hevents : c.events = [])
    (hl : Ledger n { d with record := [] } c.after) : Keeps n d c where
  total := htotal
  ledger := by
    rw [hstep, hevents]
    exact hl
  traffic := ⟨[], by rw [hstep, hevents]; rfl, by rw [hevents]; rfl⟩

theorem reply_ne_panic {ε ε' α β : Type} {o : Outcome ε α} (h : o ≠ .panic) (f : α → β)
    (g : ε → ε') : (o.map f).mapErr g ≠ .panic := by
  cases o with
  | ok a => exact ok_ne_panic _
  | err e => exact err_ne_panic _
  | panic => exact absurd rfl h

/-! ## What a history says -/

/-- The bytes read from the receive register. -/
def receivedBytes (h : List (DriverCall I)) : List UInt8 :=
  (h.flatMap Call.events).filterMap Access.received?

/-- A refused record puts nothing into the transmit ring or the transmit register. -/
def Refusal (c : DriverCall I) : Prop :=
  ∀ wire receivedHandles e, c.op = .acceptStreamRecord wire receivedHandles → c.outcome = .err e →
    c.after.uart.tx = c.before.uart.tx ∧ sent c.events = []

/-- What a history from a driver whose receive ring held `queued` says of the bytes. -/
structure ExactlyOnce (queued : List UInt8) (h : List (DriverCall I)) (s : ProductionDriver I) :
    Prop where
  total : ∀ c ∈ h, c.outcome ≠ .panic
  pending : s.pending <+: s.uart.rx.toList
  record : (Delivery.of queued h).record = s.pending
  inOrder : (Delivery.of queued h).sent ++ s.uart.rx.toList = (Delivery.of queued h).intake.kept
  received : Received queued (receivedBytes h) (Delivery.of queued h).intake
  lossless : (Delivery.of queued h).intake.lost = 0 →
    (Delivery.of queued h).sent ++ s.uart.rx.toList = queued ++ receivedBytes h
  refusal : ∀ c ∈ h, Refusal c

structure DriverTracked (n : UInt32) (queued : List UInt8) (h : List (DriverCall I))
    (s : ProductionDriver I) : Prop where
  ledger : Ledger n (Delivery.of queued h) s
  received : Received queued (receivedBytes h) (Delivery.of queued h).intake
  total : ∀ c ∈ h, c.outcome ≠ .panic
  refusal : ∀ c ∈ h, Refusal c

theorem DriverTracked.exactlyOnce {h : List (DriverCall I)}
    (ht : DriverTracked n queued h s) : ExactlyOnce queued h s := by
  have hinOrder : (Delivery.of queued h).sent ++ s.uart.rx.toList =
      (Delivery.of queued h).intake.kept := by
    rw [ht.ledger.sent, ← ht.ledger.holds.queue]
    exact List.take_append_drop _ _
  refine ⟨ht.total, ht.ledger.pending.queued, ht.ledger.record, hinOrder, ht.received, ?_,
    ht.refusal⟩
  intro hlost
  obtain ⟨more, hkept, hsub⟩ := ht.received.kept
  have hcount := ht.received.count
  rw [hlost, hkept, List.length_append] at hcount
  rw [hinOrder, hkept, hsub.eq_of_length (by omega)]

theorem DriverTracked.start (readyIdentity : ControlIdentityV1_1) (interruptHandle : Nat)
    (uart : Uart16550 I) : DriverTracked uart.errors.rxSoftwareOverrunBytes uart.rx.toList []
      (.joined readyIdentity interruptHandle uart) where
  ledger := by
    refine ⟨⟨List.length_replicate, Nat.zero_le _, List.nil_prefix⟩, rfl,
      ⟨Nat.zero_le _, rfl, ?_⟩, rfl⟩
    have hlt := uart.errors.rxSoftwareOverrunBytes.toNat_lt
    show uart.errors.rxSoftwareOverrunBytes.toNat = min (_ + 0) _
    omega
  received := ⟨⟨[], (List.append_nil _).symm, List.Sublist.refl _⟩, rfl⟩
  total := List.forall_mem_nil _
  refusal := List.forall_mem_nil _

end Records

/-! ## The quiet calls -/

theorem malformed_quiet {α : Type} (error : DriverError) : Quiet (malformed error : Driver I α) :=
  .bind (.modify fun _ => ⟨rfl, rfl, rfl, rfl, rfl⟩) fun _ => .throw _

theorem attachStream_quiet (message : ControlMessageV1_1) (endpoint : ReceivedStreamEndpoint) :
    Quiet (attachStream message endpoint : Prog (ProductionDriver I) Access _ _) := by
  intro s
  have htotal : Prog.wp (StreamAttachment.attach message endpoint) (fun o _ _ => o ≠ .panic)
      s.stream := by
    rw [StreamAttachment.attach, Prog.wp_get_bind, Prog.wp_rejectIf_bind]
    refine ⟨fun _ => err_ne_panic _, fun _ => ?_⟩
    cases message with
    | attachStream =>
        rw [Prog.wp_rejectIf_bind]
        refine ⟨fun _ => err_ne_panic _, fun _ => ?_⟩
        rw [Prog.wp_rejectIf_bind]
        exact ⟨fun _ => err_ne_panic _, fun _ => ok_ne_panic _⟩
    | _ => exact err_ne_panic _
  refine ⟨?_, ⟨rfl, rfl, rfl, rfl, rfl⟩⟩
  show (StreamAttachment.attach message endpoint s.stream).1.mapErr id ≠ .panic
  cases hout : (StreamAttachment.attach message endpoint s.stream).1 with
  | ok reply => exact ok_ne_panic _
  | err e => exact err_ne_panic _
  | panic => exact absurd hout htotal

variable [ByteRegisterIo I]

theorem activate_quiet : Quiet (activate : Driver I _) := by
  have huart : ∀ s : Uart16550 I, (Uart16550.activateInterrupts s).1 ≠ .panic ∧
      (Uart16550.activateInterrupts s).2.1.rx = s.rx ∧
      (Uart16550.activateInterrupts s).2.1.errors = s.errors ∧
      (Uart16550.activateInterrupts s).2.2.filterMap Access.received? = [] := by
    intro s
    rw [Uart16550.activateInterrupts, Prog.get_bind_run]
    by_cases h : s.state = .quiesced
    · rw [if_pos h]
      exact ⟨ok_ne_panic _, rfl, rfl, rfl⟩
    · rw [if_neg h]
      exact ⟨ok_ne_panic _, rfl, rfl, rfl⟩
  unfold activate
  refine .get_bind fun s => .bind (.lift (rejectIf_ne_panic _ _)) fun _ => ?_
  refine .bind (.onUart huart) fun _ => .get_bind fun s' => ?_
  refine .bind (.lift (rejectIf_ne_panic _ _)) fun _ => .bind (.modify fun s => ?_) fun _ => .pure _
  exact ⟨rfl, rfl, rfl, rfl, rfl⟩

theorem beginGracefulRetire_quiet : Quiet (beginGracefulRetire : Driver I _) :=
  .onUart fun _ => ⟨ok_ne_panic _, rfl, rfl, rfl⟩

theorem enqueueTx_quiet (bytes : List UInt8) :
    Quiet (onUart (Uart16550.enqueueTx bytes) : Driver I _) := by
  refine .onUart fun s => ?_
  obtain ⟨s', w, hrun, -, hrx, herrors, -, hw⟩ := enqueueTx_run bytes s
  rw [hrun]
  refine ⟨ok_ne_panic _, hrx, herrors, ?_⟩
  rw [hw]
  split_ifs <;> rfl

theorem acceptStreamRecord_quiet (wire : List UInt8) (receivedHandles : Nat) :
    Quiet (acceptStreamRecord wire receivedHandles : Driver I _) := by
  unfold acceptStreamRecord
  refine .ite (malformed_quiet _) (.get_bind fun s => .bind (.lift (rejectIf_ne_panic _ _))
    fun _ => ?_)
  cases hdecode : decodeData wire with
  | ok payload =>
      refine .bind (enqueueTx_quiet payload) fun accepted => ?_
      refine .bind (.lift (rejectIf_ne_panic _ _)) fun _ => .bind (.modify fun _ => ?_)
        fun _ => .pure _
      exact ⟨rfl, rfl, rfl, rfl, rfl⟩
  | err e => exact malformed_quiet _
  | panic => exact absurd hdecode (StreamProto.decodeData_ne_panic wire)

/-! ## What an accepted record does -/

theorem pushAll_room (bytes : List UInt8) : ∀ tx : RingBuffer UInt8 ringCapacity,
    tx.toList.length + bytes.length ≤ ringCapacity → (Uart16550.pushAll bytes tx).1 = bytes.length := by
  induction bytes with
  | nil => exact fun _ _ => rfl
  | cons byte bytes ih =>
      intro tx hroom
      rw [List.length_cons] at hroom
      obtain ⟨hpush, hlist⟩ := RingBuffer.push_room (r := tx) (a := byte) (by omega)
      have hrest : (tx.push byte).2.toList.length + bytes.length ≤ ringCapacity := by
        rw [hlist, List.length_append, List.length_singleton]
        omega
      rw [Uart16550.pushAll, if_pos hpush, ih _ hrest, List.length_cons]

/-- A record is enqueued whole or not at all. -/
def Whole (wire : List UInt8) (s : ProductionDriver I) {ε : Type} (outcome : Outcome ε Nat)
    (s' : ProductionDriver I) (w : List Access) : Prop :=
  match outcome with
  | .ok count => ∃ payload, decodeData wire = .ok payload ∧ count = payload.length ∧
      s'.uart.tx.toList = s.uart.tx.toList ++ payload
  | .err _ => s'.uart = s.uart ∧ w = []
  | .panic => False

theorem acceptStreamRecord_whole (wire : List UInt8) (receivedHandles : Nat)
    (s : ProductionDriver I) :
    Prog.wp (acceptStreamRecord wire receivedHandles) (Whole wire s) s := by
  unfold acceptStreamRecord
  by_cases hhandles : receivedHandles ≠ 0
  · rw [if_pos hhandles]
    exact ⟨rfl, rfl⟩
  rw [if_neg hhandles, Prog.wp_get_bind, Prog.wp_rejectIf_bind]
  refine ⟨fun _ => ⟨rfl, rfl⟩, fun hroom => ?_⟩
  cases hdecode : decodeData wire with
  | panic => exact absurd hdecode (StreamProto.decodeData_ne_panic wire)
  | err e => exact ⟨rfl, rfl⟩
  | ok payload =>
      obtain ⟨uart, w, hrun, htx, -⟩ := enqueueTx_run payload s.uart
      have hfree : maxPayloadBytes ≤ s.txFree := by
        rw [Bool.or_eq_false_iff, decide_eq_false_iff_not] at hroom
        exact Nat.not_lt.mp hroom.2
      have hfits : s.uart.tx.toList.length + payload.length ≤ ringCapacity := by
        have hpayload := StreamProto.decodeData_length hdecode
        have hlen := s.uart.tx.len_le
        rw [ProductionDriver.txFree] at hfree
        rw [RingBuffer.length_toList]
        omega
      have hall := pushAll_room payload s.uart.tx hfits
      have henqueue : onUart (Uart16550.enqueueTx payload) s =
          (.ok payload.length, { s with uart }, w) := by
        rw [onUart, Prog.within, hrun, hall]
        rfl
      have hwhole : uart.tx.toList = s.uart.tx.toList ++ payload := by
        rw [htx, (pushAll_eq payload s.uart.tx).2, hall, List.take_length]
      show Prog.wp (onUart (Uart16550.enqueueTx payload) >>= _) _ s
      rw [Prog.wp_bind_ok henqueue, Prog.wp_rejectIf_bind]
      refine ⟨fun hshort => ?_, fun _ => ⟨payload, hdecode, rfl, hwhole⟩⟩
      exact absurd rfl (decide_eq_true_iff.mp hshort)

/-! ## A history -/

variable {n : UInt32} {d : Delivery} {s : ProductionDriver I}

theorem drainInterrupt_ledger (hl : Ledger n d s) : Prog.wp drainInterrupt (fun o s' w =>
    o ≠ .panic ∧ Ledger n (d.receive w) s') s := by
  unfold drainInterrupt
  rw [Prog.wp_get_bind, Prog.wp_rejectIf_bind]
  refine ⟨fun _ => ⟨err_ne_panic _, hl⟩, fun _ => ?_⟩
  rcases hrun : Uart16550.handleInterrupt s.uart with ⟨outcome, uart, w⟩
  have hserved : outcome ≠ .panic ∧ Holds n (d.intake.run ringCapacity (arrived w)) uart := by
    by_cases hactive : s.uart.state = .active
    · have heffect := handleInterrupt_serves (I := I) s.uart hactive
      rw [hrun] at heffect
      exact ⟨heffect.total, heffect.rx n _ hl.holds⟩
    · rw [handleInterrupt_idle hactive] at hrun
      obtain ⟨rfl, hrest⟩ := Prod.mk.inj hrun
      obtain ⟨rfl, rfl⟩ := Prod.mk.inj hrest
      exact ⟨ok_ne_panic _, hl.holds⟩
  obtain ⟨htotal, hholds⟩ := hserved
  -- whatever the counters say by then
  have hledger : ∀ s' : ProductionDriver I, s'.uart = uart → s'.pendingRx = s.pendingRx →
      s'.pendingRxLen = s.pendingRxLen → Ledger n (d.receive w) s' := by
    intro s' huart hrx hlen
    have hpending : s'.pending = s.pending := by
      rw [ProductionDriver.pending, ProductionDriver.pending, hrx, hlen]
    obtain ⟨more, hmore, -⟩ := Intake.run_sublist ringCapacity (arrived w) d.intake
    refine ⟨⟨hrx ▸ hl.pending.size, hlen ▸ hl.pending.fits, ?_⟩, hl.record.trans hpending.symm,
      huart ▸ hholds, ?_⟩
    · rw [hpending, huart]
      exact hl.pending.queued.trans (hl.holds.grows hholds)
    · show d.sent = (d.intake.run ringCapacity _).kept.take (d.intake.run ringCapacity _).gone
      rw [hmore, arrived, run_arrive_gone, List.take_append_of_le_length hl.holds.gone_le]
      exact hl.sent
  rw [Prog.wp_modify_bind, Prog.wp_bind, Prog.wp_attempt, onUart, Prog.wp_within]
  show Prog.wp Uart16550.handleInterrupt _ s.uart
  rw [Prog.wp, hrun]
  cases outcome with
  | ok work =>
      refine ⟨ok_ne_panic _, ?_⟩
      show Ledger n (d.receive (w ++ [])) _
      rw [List.append_nil]
      exact hledger _ rfl rfl rfl
  | err e =>
      refine ⟨err_ne_panic _, ?_⟩
      show Ledger n (d.receive (w ++ [])) _
      rw [List.append_nil]
      exact hledger _ rfl rfl rfl
  | panic => exact absurd rfl htotal

theorem Quiet.keeps {ε α : Type} {m : Prog (ProductionDriver I) Access ε α} (hm : Quiet m)
    (hl : Ledger n d s) {op : DriverOp} {f : α → DriverReply} {err : ε → DriverFailure}
    (hexec : driverExec op = .within id (fun s _ => s) err (f <$> m))
    (hstep : ∀ c : DriverCall I, c.op = op → d.step c = d.receive c.events) :
    Keeps n d (callOf driverExec op s) := by
  obtain ⟨htotal, hsame⟩ := hm s
  have hrun : driverExec op s = (((m s).1.map f).mapErr err, (m s).2.1, (m s).2.2) := by
    rw [hexec, Prog.within, id, Prog.map_run]
  rw [callOf, hrun]
  exact .receive (hstep _ rfl) (reply_ne_panic htotal f err) (hsame.ledger hl)

theorem keeps_of_wp {α : Type} {m : Driver I α} {f : α → DriverReply} {op : DriverOp}
    (hexec : driverExec op = .within id (fun s _ => s) .driver (f <$> m))
    (h : Prog.wp m (fun o s' w => Keeps n d ⟨s, op, (o.map f).mapErr .driver, s', w⟩) s) :
    Keeps n d (callOf driverExec op s) := by
  have hrun : driverExec op s = (((m s).1.map f).mapErr .driver, (m s).2.1, (m s).2.2) := by
    rw [hexec, Prog.within, id, Prog.map_run]
  rw [callOf, hrun]
  exact h

theorem prepareStreamSend_keeps (hl : Ledger n d s) (output : Vector UInt8 maxRecordBytes) :
    Keeps n d (callOf driverExec (.prepareStreamSend output) s) := by
  have hlen : output.toList.length = maxRecordBytes := Vector.length_toList
  obtain ⟨s', size, output', hrun, huart, hpending, hsize⟩ := prepareStreamSend_run hl.pending hlen
  refine keeps_of_wp rfl ?_
  rw [Prog.wp]
  show Keeps n d ⟨s, _, ((prepareStreamSend output.toList s).1.map _).mapErr _, _, _⟩
  rw [hrun]
  cases size with
  | none =>
      have hrecord : d.record = s'.pending := hl.record.trans hsize.symm
      exact .receive rfl (ok_ne_panic _) ⟨hpending, hrecord, huart ▸ hl.holds, hl.sent⟩
  | some size =>
      have hrecord : payloadOf (output'.take size) = s'.pending := by
        rw [payloadOf, hsize]
      exact ⟨ok_ne_panic _, ⟨hpending, hrecord, huart ▸ hl.holds, hl.sent⟩, [], rfl, rfl⟩

theorem resolveStreamSend_keeps (hl : Ledger n d s) (drain : PeerCloseDrain)
    (result : StreamSendResult) :
    Keeps n d (callOf driverExec (.resolveStreamSend drain result) s) := by
  cases result with
  | wouldBlock | peerClosed =>
      exact (Quiet.pure _).keeps hl rfl fun c hop => by rw [Delivery.step, hop]
  | sent =>
      refine keeps_of_wp rfl ?_
      rw [resolveStreamSend, Prog.wp_bind_pure]
      refine Prog.wp_mono (commitStreamSend_ledger hl) fun o s' w h => ?_
      obtain ⟨htotal, hevents, hledger⟩ := h
      refine .commit rfl (reply_ne_panic ?_ _ _) hevents hledger
      cases o with
      | ok a => exact ok_ne_panic _
      | err e => exact err_ne_panic _
      | panic => exact absurd rfl htotal
  | failed =>
      refine keeps_of_wp rfl ?_
      rw [resolveStreamSend, Prog.wp_bind]
      refine Prog.wp_mono (detachStream_ledger hl) fun o s' w h => ?_
      obtain ⟨htotal, hevents, hledger⟩ := h
      subst hevents
      cases o with
      | ok given =>
          cases given with
          | none | some given => exact .drop rfl (ok_ne_panic _) rfl hledger
      | err e => exact .drop rfl (err_ne_panic _) rfl hledger
      | panic => exact absurd rfl htotal

theorem driverExec_keeps (hl : Ledger n d s) (op : DriverOp) :
    Keeps n d (callOf driverExec op s) := by
  cases op with
  | activate => exact activate_quiet.keeps hl rfl fun c hop => by rw [Delivery.step, hop]
  | attachStream message endpoint =>
      exact (attachStream_quiet message endpoint).keeps hl rfl
        fun c hop => by rw [Delivery.step, hop]
  | acceptStreamRecord wire receivedHandles =>
      exact (acceptStreamRecord_quiet wire receivedHandles).keeps hl rfl
        fun c hop => by rw [Delivery.step, hop]
  | beginGracefulRetire =>
      exact beginGracefulRetire_quiet.keeps hl rfl fun c hop => by rw [Delivery.step, hop]
  | drainInterrupt =>
      refine keeps_of_wp rfl (Prog.wp_mono (drainInterrupt_ledger hl) fun o s' w h => ?_)
      exact .receive rfl (reply_ne_panic h.1 _ _) h.2
  | prepareStreamSend output => exact prepareStreamSend_keeps hl output
  | commitStreamSend =>
      refine keeps_of_wp rfl (Prog.wp_mono (commitStreamSend_ledger hl) fun o s' w h => ?_)
      exact .commit rfl (reply_ne_panic h.1 _ _) h.2.1 h.2.2
  | detachStream =>
      refine keeps_of_wp rfl (Prog.wp_mono (detachStream_ledger hl) fun o s' w h => ?_)
      exact .drop rfl (reply_ne_panic h.1 _ _) h.2.1 h.2.2
  | resolveStreamSend drain result => exact resolveStreamSend_keeps hl drain result

/-! ## Every history -/

theorem DriverTracked.call {h : List (DriverCall I)}
    (ht : DriverTracked n queued h s) (op : DriverOp) :
    DriverTracked n queued (h ++ [callOf driverExec op s]) (driverExec op s).2.1 := by
  have hkeeps := driverExec_keeps ht.ledger op
  obtain ⟨t, ht', harrivals⟩ := hkeeps.traffic
  have hlast : ∀ {P : DriverCall I → Prop}, (∀ c ∈ h, P c) → P (callOf driverExec op s) →
      ∀ c ∈ h ++ [callOf driverExec op s], P c := by
    intro P hearlier hnew c hc
    rcases List.mem_append.mp hc with hc | hc
    · exact hearlier c hc
    · rw [List.mem_singleton.mp hc]
      exact hnew
  refine ⟨?_, ?_, hlast ht.total hkeeps.total, hlast ht.refusal ?_⟩
  · rw [Delivery.of_snoc]
    exact hkeeps.ledger
  · rw [Delivery.of_snoc, ht', receivedBytes, List.flatMap_append, List.filterMap_append,
      ← receivedBytes]
    simp only [List.flatMap_cons, List.flatMap_nil, List.append_nil]
    rw [← harrivals]
    exact ht.received.run t
  · intro wire receivedHandles e hop hout
    obtain rfl : op = .acceptStreamRecord wire receivedHandles := hop
    have hwhole := acceptStreamRecord_whole wire receivedHandles s
    have hrun : driverExec (.acceptStreamRecord wire receivedHandles) s =
        (((acceptStreamRecord wire receivedHandles s).1.map .accepted).mapErr .driver,
          (acceptStreamRecord wire receivedHandles s).2.1,
          (acceptStreamRecord wire receivedHandles s).2.2) := by
      rw [driverExec, driverExec.driver, Prog.within, id, Prog.map_run]
    rw [callOf, hrun] at hout ⊢
    rw [Prog.wp] at hwhole
    cases hresult : (acceptStreamRecord wire receivedHandles s).1 with
    | ok count =>
        rw [hresult] at hout
        cases hout
    | err error =>
        rw [hresult] at hwhole
        obtain ⟨huart, hevents⟩ := hwhole
        exact ⟨congrArg _ huart, congrArg sent hevents⟩
    | panic =>
        rw [hresult] at hwhole
        exact hwhole.elim

/-- Whatever is called from the join on, each byte that the receive ring takes
in goes out once, in order. -/
theorem driver_exactly_once (readyIdentity : ControlIdentityV1_1) (interruptHandle : Nat)
    (uart : Uart16550 I) (ops : List DriverOp) :
    ExactlyOnce uart.rx.toList
      (replay driverExec ops (.joined readyIdentity interruptHandle uart)).1
      (replay driverExec ops (.joined readyIdentity interruptHandle uart)).2 := by
  have hstart := DriverTracked.start readyIdentity interruptHandle uart
  exact (replay_keeps (fun _ _ op h => h.call op) ops hstart).exactlyOnce

end Wyrmroot.Uart
