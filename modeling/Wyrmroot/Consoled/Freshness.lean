import Wyrmroot.Lib.Ascending
import Wyrmroot.Consoled.Containment

/-!
# Nothing stale is accepted

What the calls of a run hand out comes from three counters and is handed out
once, and the serial correlations that are accepted go up. So what belongs to a
child, a launch or a reservation that is over never becomes current again
(`Op.Current`), and every call on it fails and leaves the model alone.
-/

namespace Wyrmroot.Consoled

open Outcome ConsoleModel

/-! ## What a call hands out -/

/-- The console and child generations. -/
def generationsOf : Outcome ModelError Reply → List Nat
  | .ok (.attached console) => [console]
  | .ok (.launching tx) => [tx.childGeneration]
  | _ => []

def endpointsOf : Outcome ModelError Reply → List Endpoint
  | .ok (.launching tx) => tx.consoled.toList ++ tx.childPeers.toList
  | _ => []

def tokensOf : Outcome ModelError Reply → List Nat
  | .ok (.reserved (some (reservation, _))) => [reservation.token]
  | _ => []

/-- The correlation that an attachment accepted. -/
def acceptedOf : Op → Outcome ModelError Reply → List SerialCorrelation
  | .attachConnected serial _, .ok _ => [serial]
  | _, _ => []

/-- A correlation that can be accepted behind another one. -/
structure SerialCorrelation.Follows (later earlier : SerialCorrelation) : Prop where
  transaction : earlier.connectorClientTransaction < later.connectorClientTransaction
  attach : earlier.attachTransaction < later.attachTransaction
  stream : earlier.streamGeneration < later.streamGeneration
  publication : earlier.publicationGeneration ≤ later.publicationGeneration

theorem SerialCorrelation.Follows.trans {a b c : SerialCorrelation} (hab : a.Follows b)
    (hbc : b.Follows c) : a.Follows c where
  transaction := UInt64.lt_trans hbc.transaction hab.transaction
  attach := UInt64.lt_trans hbc.attach hab.attach
  stream := UInt64.lt_trans hbc.stream hab.stream
  publication := UInt64.le_trans hbc.publication hab.publication

theorem SerialCorrelation.follows_of {serial previous : SerialCorrelation}
    (h : serial.validTransitionFrom previous = true) : serial.Follows previous := by
  unfold validTransitionFrom at h
  split_ifs at h with hstale hsame
  · simp only [Bool.or_eq_true, not_or, decide_eq_true_eq, UInt64.not_le] at hstale
    simp only [Bool.and_eq_true, decide_eq_true_eq] at h
    exact ⟨hstale.2, h.1.2, h.2, UInt64.le_of_eq hsame.symm⟩
  · simp only [Bool.or_eq_true, not_or, decide_eq_true_eq, UInt64.not_le] at hstale
    simp only [Bool.and_eq_true, decide_eq_true_eq] at h
    exact ⟨hstale.2, h.1.1.2, h.1.2, UInt64.le_of_lt h.1.1.1.1.1⟩

/-! ## The counters -/

variable {m m' : ConsoleModel} {op : Op} {o : Outcome ModelError Reply}

theorem generations_moves (hmove : Moves m op o m') :
    Granted m.nextGeneration m'.nextGeneration (generationsOf o) := by
  cases hmove with
  | attached | launching => exact .one
  | launchFailed _ hle => exact .none hle
  | polled _ hquiets => cases hquiets <;> exact .none (Nat.le_refl _)
  | _ => exact .none (Nat.le_refl _)

theorem endpoints_moves (hmove : Moves m op o m') :
    Granted m.nextEndpoint m'.nextEndpoint (endpointsOf o) := by
  cases hmove with
  | launching =>
      refine ⟨Nat.le_add_right _ 6, ?_, ?_⟩
      · simp [endpointsOf, LaunchTransaction.fresh]
      · intro n hn
        simp only [endpointsOf, LaunchTransaction.fresh, Vector.toList_mk, List.cons_append,
          List.nil_append, List.mem_cons, List.not_mem_nil, or_false] at hn
        show m.nextEndpoint ≤ n ∧ n < m.nextEndpoint + 6
        omega
  | launchFailed _ _ hle => exact .none hle
  | polled _ hquiets => cases hquiets <;> exact .none (Nat.le_refl _)
  | _ => exact .none (Nat.le_refl _)

theorem tokens_moves (hmove : Moves m op o m') :
    Granted m.nextReservation m'.nextReservation (tokensOf o) := by
  cases hmove with
  | reservedStdin | reservedTx => exact .one
  | polled _ hquiets => cases hquiets <;> exact .none (Nat.le_refl _)
  | _ => exact .none (Nat.le_refl _)

theorem accepted_moves (hmove : Moves m op o m') :
    (acceptedOf op o = [] ∧ m'.lastSerial = m.lastSerial) ∨
      ∃ serial, acceptedOf op o = [serial] ∧ m'.lastSerial = some serial ∧
        ∀ previous ∈ m.lastSerial, serial.Follows previous := by
  cases hmove with
  | @attached serial _ _ _ _ hvalid =>
      refine .inr ⟨serial, rfl, rfl, fun previous hprevious => ?_⟩
      exact SerialCorrelation.follows_of (hvalid previous hprevious)
  | refused | failed =>
      refine .inl ⟨?_, rfl⟩
      cases op <;> rfl
  | retire hretires => cases hretires <;> exact .inl ⟨rfl, rfl⟩
  | closed hcloses => cases hcloses <;> exact .inl ⟨rfl, rfl⟩
  | reservedNothing hreserves => cases hreserves <;> exact .inl ⟨rfl, rfl⟩
  | _ => exact .inl ⟨rfl, rfl⟩

/-- What a history has handed out and accepted, and where the counters of a model stand. -/
structure Ledger (h : List ConsoleCall) (m : ConsoleModel) : Prop where
  generations : Ascends (h.flatMap fun call => generationsOf call.outcome) m.nextGeneration
  endpoints : Ascends (h.flatMap fun call => endpointsOf call.outcome) m.nextEndpoint
  tokens : Ascends (h.flatMap fun call => tokensOf call.outcome) m.nextReservation
  accepted : (h.flatMap fun call => acceptedOf call.op call.outcome).Pairwise fun a b => b.Follows a
  last : ∀ serial ∈ h.flatMap fun call => acceptedOf call.op call.outcome,
    ∃ last ∈ m.lastSerial, last = serial ∨ last.Follows serial

variable {w : World} {h : List ConsoleCall}

theorem Ledger.follows (hledger : Ledger h m) {serial : SerialCorrelation}
    (hfollows : ∀ previous ∈ m.lastSerial, serial.Follows previous) :
    ∀ earlier ∈ h.flatMap fun call => acceptedOf call.op call.outcome, serial.Follows earlier := by
  intro earlier hearlier
  obtain ⟨last, hlast, rfl | hafter⟩ := hledger.last earlier hearlier
  · exact hfollows _ hlast
  · exact (hfollows last hlast).trans hafter

theorem ledger_snoc (call : ConsoleCall) (hledger : Ledger h m)
    (hmove : Moves m call.op call.outcome m') : Ledger (h ++ [call]) m' := by
  have hsnoc {α : Type} (f : ConsoleCall → List α) : (h ++ [call]).flatMap f = h.flatMap f ++ f call := by
    rw [List.flatMap_append, List.flatMap_singleton]
  refine ⟨?_, ?_, ?_, ?_, ?_⟩
  · rw [hsnoc]
    exact hledger.generations.append (generations_moves hmove)
  · rw [hsnoc]
    exact hledger.endpoints.append (endpoints_moves hmove)
  · rw [hsnoc]
    exact hledger.tokens.append (tokens_moves hmove)
  · rw [hsnoc]
    rcases accepted_moves hmove with ⟨hnone, -⟩ | ⟨serial, hone, -, hfollows⟩
    · rw [hnone, List.append_nil]
      exact hledger.accepted
    · rw [hone]
      refine List.pairwise_append.mpr ⟨hledger.accepted, List.pairwise_singleton _ _, ?_⟩
      intro earlier hearlier _ hlater
      rw [List.mem_singleton.mp hlater]
      exact hledger.follows hfollows earlier hearlier
  · rw [hsnoc]
    rcases accepted_moves hmove with ⟨hnone, hlast⟩ | ⟨serial, hone, hlast, hfollows⟩
    · rw [hnone, List.append_nil, hlast]
      exact hledger.last
    · rw [hone, hlast]
      intro earlier hearlier
      refine ⟨serial, rfl, ?_⟩
      rcases List.mem_append.mp hearlier with hearlier | hearlier
      · exact .inr (hledger.follows hfollows earlier hearlier)
      · exact .inl (List.mem_singleton.mp hearlier).symm

theorem ledger_notHeld (call : ConsoleCall) (hledger : Ledger h m)
    (hsome : call.op.transaction.isSome = true) (hout : call.outcome = .ok .notHeld) :
    Ledger (h ++ [call]) m := by
  have hsnoc {α : Type} (f : ConsoleCall → List α) (hnone : f call = []) :
      (h ++ [call]).flatMap f = h.flatMap f := by
    rw [List.flatMap_append, List.flatMap_singleton, hnone, List.append_nil]
  have haccepted : acceptedOf call.op call.outcome = [] := by
    cases hop : call.op
    case attachConnected => rw [hop] at hsome; cases hsome
    all_goals rfl
  refine ⟨?_, ?_, ?_, ?_, ?_⟩
  · exact (hsnoc (fun call => generationsOf call.outcome) (by rw [hout]; rfl)) ▸ hledger.generations
  · exact (hsnoc (fun call => endpointsOf call.outcome) (by rw [hout]; rfl)) ▸ hledger.endpoints
  · exact (hsnoc (fun call => tokensOf call.outcome) (by rw [hout]; rfl)) ▸ hledger.tokens
  · exact (hsnoc (fun call => acceptedOf call.op call.outcome) haccepted) ▸ hledger.accepted
  · exact (hsnoc (fun call => acceptedOf call.op call.outcome) haccepted) ▸ hledger.last

theorem ledger_run (ops : List Op) :
    Ledger (replay exec ops World.new).1 (replay exec ops World.new).2.model := by
  have hnew : Ledger [] ConsoleModel.new :=
    ⟨.nil, .nil, .nil, .nil, List.forall_mem_nil _⟩
  have hkeeps : (replay exec ops World.new).2.Sound ∧
      Ledger ([] ++ (replay exec ops World.new).1) (replay exec ops World.new).2.model := by
    refine replay_keeps (P := fun h (w : World) => w.Sound ∧ Ledger h w.model) ?_ ops ⟨sound_new, hnew⟩
    rintro h w op ⟨hsound, hledger⟩
    refine ⟨exec_sound op w hsound, ?_⟩
    rcases exec_moves hsound op with ⟨hsome, hnot⟩ | ⟨-, hmove⟩
    · have hkept := ledger_notHeld (callOf exec op w) hledger hsome (by rw [callOf, hnot])
      rw [hnot]
      exact hkept
    · exact ledger_snoc (callOf exec op w) hledger hmove
  exact hkeeps.2

/-! ## What a call is made on -/

/-- The event that a call is made on. -/
def Op.event : Op → Option EventGeneration
  | .stageSerialInput event _ | .stageChildOutput event _ _ | .pollOutputQuiescence event _
  | .wrongDirectionData event _ | .childTerminal event _ | .childTerminalPrecursor event _
  | .childPeerClosed event _ _ | .statusPeerClosed event _ | .observeChildPeerClosed event _ _
  | .childStreamsClosed event _ | .childTerminated event _ | .childReaped event _
  | .observeChildReady event _ => some event
  | _ => none

/-- What a call is made on belongs to the installed child, or is pending. -/
def Op.Current (m : ConsoleModel) : Op → Prop
  | .observeReady _ token => m.child.map ChildSession.ids = some token.ids
  | .commitChildStdin reservation | .releaseChildStdin reservation =>
      m.pendingStdin = some reservation
  | .commitSerialTx reservation | .releaseSerialTx reservation => m.pendingTx = some reservation
  | .moveChildPeer tx _ | .commitChildLaunch tx _ | .abortChildLaunch tx =>
      m.pendingLaunch = some tx.identity
  | .completeAbortChildLaunch token _ => m.pendingLaunch = some token.identity
  | op => ∀ event ∈ op.event, m.event = some event

/-- Up to the last time, the last failure, and having failed closed. -/
def ConsoleModel.Touched (m m' : ConsoleModel) : Prop :=
  m.Unchanged m' ∨ ∃ t e, m' = ConsoleModel.failed { m with lastNow := t } e

theorem event_of_child {event : EventGeneration} {child : ChildSession}
    (hchild : m.child = some child) (hids : child.ids.event = event) : m.event = some event := by
  rw [ConsoleModel.event, hchild, ← hids]
  rfl

theorem ids_of_readyToken {token : ReadyToken} (h : m.readyToken = some token) :
    m.child.map ChildSession.ids = some token.ids := by
  obtain ⟨child, hchild, htoken⟩ := Option.bind_eq_some_iff.mp h
  split_ifs at htoken
  rw [hchild, ← Option.some.inj htoken]
  rfl

theorem stale_moves {held : List LaunchTransaction}
    (hcustody : Custody held m.pendingLaunch m.pendingLaunchCleanup m.nextGeneration)
    (hop : ∀ tx ∈ op.transaction, tx ∈ held) (hstale : ¬ op.Current m) (hmove : Moves m op o m') :
    (∃ e, o = .err e) ∧ m.Touched m' := by
  have hevent {event : EventGeneration} (h : m.eventIsCurrent event = true) :
      ∀ event' ∈ some event, m.event = some event' := by
    rintro _ ⟨⟩
    exact (eventIsCurrent_iff.mp h).2
  cases hmove with
  | @refused _ _ t f => exact ⟨⟨_, rfl⟩, .inl ⟨t, f, rfl⟩⟩
  | @failed _ e t => exact ⟨⟨e, rfl⟩, .inr ⟨t, e, rfl⟩⟩
  | launched _ _ _ _ _ _ _ _ hpending | aborting _ hpending | aborted hpending
  | abortedAfterLoss hpending | abortFailed hpending | committedStdin _ hpending
  | releasedStdin hpending | committedTx _ hpending | releasedTx hpending =>
      exact absurd hpending hstale
  | moved hmove =>
      have hopen := (moveChildPeer_eq_ok hmove).1
      exact absurd (hcustody.pending _ (hop _ rfl) hopen) hstale
  | stagedInput hcurrent | stagedOutput hcurrent | polled hcurrent | terminal _ hcurrent
  | precursor _ hcurrent | readied _ hcurrent => exact absurd (hevent hcurrent) hstale
  | terminated _ _ hcurrent | incomplete _ _ _ hcurrent | reapedAfterLoss _ _ hcurrent
  | replaced _ _ hcurrent | escalated _ _ hcurrent =>
      refine absurd ?_ hstale
      rintro _ ⟨⟩
      exact hcurrent
  | retire hretires _ _ hchild hids =>
      have hcurrent := event_of_child hchild hids
      refine absurd ?_ hstale
      cases hretires <;> · rintro _ ⟨⟩; exact hcurrent
  | closed hcloses _ _ hchild hids =>
      have hcurrent := event_of_child hchild hids
      refine absurd ?_ hstale
      cases hcloses <;> · rintro _ ⟨⟩; exact hcurrent
  | unstable _ htoken | stable _ htoken | restabilized _ htoken =>
      exact absurd (ids_of_readyToken htoken) hstale
  | reservedNothing hreserves =>
      refine absurd ?_ hstale
      cases hreserves <;> rintro _ ⟨⟩
  | _ => exact absurd (by rintro _ ⟨⟩) hstale

/-! ## What is over stays over -/

theorem child_moves (hmove : Moves m op o m') : ∀ c' ∈ m'.child, (∃ c ∈ m.child, c'.ids = c.ids) ∨
    ∃ id ∈ m.pendingLaunch, c'.ids.childGeneration = id.childGeneration := by
  have hsame : ∀ c' ∈ m.child, (∃ c ∈ m.child, c'.ids = c.ids) ∨
      ∃ id ∈ m.pendingLaunch, c'.ids.childGeneration = id.childGeneration :=
    fun c' hc' => .inl ⟨c', hc', rfl⟩
  cases hmove with
  | launched _ _ _ _ _ _ _ _ hpending =>
      rintro _ ⟨⟩
      exact .inr ⟨_, hpending, rfl⟩
  | retire _ _ _ hchild _ hids | closed _ _ _ hchild _ hids =>
      rintro _ ⟨⟩
      exact .inl ⟨_, hchild, hids⟩
  | replaced | escalated | cleaned | cleanupFailed => rintro _ ⟨⟩
  | _ => exact hsame

theorem launch_moves (hmove : Moves m op o m') : ∀ id ∈ m'.pendingLaunch,
    id ∈ m.pendingLaunch ∨ id.childGeneration = m.nextGeneration := by
  have hsame : ∀ id ∈ m.pendingLaunch, id ∈ m.pendingLaunch ∨ id.childGeneration = m.nextGeneration :=
    fun id hid => .inl hid
  cases hmove with
  | launching =>
      rintro _ ⟨⟩
      exact .inr rfl
  | launched | aborted | abortedAfterLoss | abortFailed => rintro _ ⟨⟩
  | _ => exact hsame

/-- Pending behind a call: pending before it, or handed out by it. -/
def Carried (before : Option Reservation) (next next' : Nat) (after : Option Reservation) : Prop :=
  ∀ r ∈ after, r ∈ before ∨ (r.token = next ∧ next < next')

variable {next' : Nat}

theorem Carried.refl {pending : Option Reservation} {next : Nat} :
    Carried pending next next' pending := fun _ hr => .inl hr

theorem Carried.none {pending : Option Reservation} {next : Nat} :
    Carried pending next next' none := by
  rintro _ ⟨⟩

theorem Carried.reserved {pending : Option Reservation} {next : Nat} {r : Reservation}
    (h : r.token = next) : Carried pending next (next + 1) (some r) := by
  rintro _ ⟨⟩
  exact .inr ⟨h, Nat.lt_succ_self _⟩

theorem reservations_moves (hmove : Moves m op o m') :
    Carried m.pendingStdin m.nextReservation m'.nextReservation m'.pendingStdin ∧
      Carried m.pendingTx m.nextReservation m'.nextReservation m'.pendingTx := by
  cases hmove with
  | attached | abortedAfterLoss | retire | terminal | lostChild | lostIdle | lostIdleFailed | lostBusy
  | replaced | escalated | cleaned => exact ⟨.none, .none⟩
  | reservedStdin => exact ⟨.reserved rfl, .refl⟩
  | reservedTx => exact ⟨.refl, .reserved rfl⟩
  | committedStdin | releasedStdin => exact ⟨.none, .refl⟩
  | committedTx | releasedTx => exact ⟨.refl, .none⟩
  | _ => exact ⟨.refl, .refl⟩

/-- A generation whose launch is over. -/
def ConsoleModel.Launched (m : ConsoleModel) (generation : Nat) : Prop :=
  generation < m.nextGeneration ∧ ∀ id ∈ m.pendingLaunch, id.childGeneration ≠ generation

theorem launched_moves {generation : Nat} (h : m.Launched generation) (hmove : Moves m op o m') :
    m'.Launched generation := by
  refine ⟨h.1.trans_le (generations_moves hmove).le, fun id hid => ?_⟩
  rcases launch_moves hmove id hid with hid | hnew
  · exact h.2 id hid
  · exact hnew ▸ h.1.ne'

theorem World.Sound.launched (h : w.Sound) {child : ChildSession}
    (hchild : w.model.child = some child) :
    w.model.Launched child.ids.childGeneration := by
  refine ⟨(h.identities.ofChild child hchild).2.1, ?_⟩
  rw [(h.lifecycle.ofChild (hchild ▸ rfl)).2.2]
  rintro _ ⟨⟩

/-- What a call is made on has been handed out, and is not pending as a launch any more. -/
def Op.Issued (m : ConsoleModel) : Op → Prop
  | .observeReady _ token => m.Launched token.ids.childGeneration
  | .commitChildStdin reservation | .releaseChildStdin reservation | .commitSerialTx reservation
  | .releaseSerialTx reservation => reservation.token < m.nextReservation
  | .moveChildPeer tx _ | .commitChildLaunch tx _ | .abortChildLaunch tx =>
      tx.childGeneration < m.nextGeneration
  | .completeAbortChildLaunch token _ => token.identity.childGeneration < m.nextGeneration
  | op => ∀ event ∈ op.event, m.Launched event.childGeneration

/-- The pending reservations were handed out. -/
def ConsoleModel.ReservedBelow (m : ConsoleModel) : Prop :=
  (∀ r ∈ m.pendingStdin, r.token < m.nextReservation) ∧ ∀ r ∈ m.pendingTx, r.token < m.nextReservation

theorem Carried.below {pending after : Option Reservation} {next : Nat}
    (h : Carried pending next next' after) (hle : next ≤ next')
    (hbelow : ∀ r ∈ pending, r.token < next) :
    ∀ r ∈ after, r.token < next' := by
  intro r hr
  rcases h r hr with hr | ⟨htoken, hlt⟩
  · exact (hbelow r hr).trans_le hle
  · exact htoken ▸ hlt

theorem Carried.stays {pending after : Option Reservation} {next : Nat}
    (h : Carried pending next next' after) {r : Reservation} (hissued : r.token < next)
    (hnot : pending ≠ some r) : after ≠ some r := by
  intro hafter
  rcases h r hafter with hr | ⟨htoken, -⟩
  · exact hnot hr
  · exact absurd htoken hissued.ne

theorem reservedBelow_moves (h : m.ReservedBelow) (hmove : Moves m op o m') : m'.ReservedBelow := by
  have hle := (tokens_moves hmove).le
  obtain ⟨hstdin, htx⟩ := reservations_moves hmove
  exact ⟨hstdin.below hle h.1, htx.below hle h.2⟩

theorem issued_of_current (h : w.Sound) (hbelow : w.model.ReservedBelow)
    (hcurrent : op.Current w.model) :
    op.Issued w.model := by
  have hevent {event : EventGeneration} (hevent : ∀ event' ∈ some event, w.model.event = some event') :
      ∀ event' ∈ some event, w.model.Launched event'.childGeneration := by
    rintro _ ⟨⟩
    obtain ⟨child, hchild, rfl⟩ := exists_child (hevent event rfl)
    exact h.launched hchild
  cases op with
  | observeReady _ token =>
      obtain ⟨child, hchild, hids⟩ := Option.map_eq_some_iff.mp hcurrent
      show w.model.Launched token.ids.childGeneration
      exact hids ▸ h.launched hchild
  | commitChildStdin | releaseChildStdin => exact hbelow.1 _ hcurrent
  | commitSerialTx | releaseSerialTx => exact hbelow.2 _ hcurrent
  | moveChildPeer | commitChildLaunch | abortChildLaunch | completeAbortChildLaunch =>
      exact (h.identities.ofLaunch _ hcurrent).2.1
  | beginConnect | abortConnect | attachConnected | beginChildLaunch | serialPeerClosed
  | completeSerialCleanup | serialReconnectFailed | reserveChildStdin | reserveSerialTx
  | takeRecoveryAction => rintro _ ⟨⟩
  | _ => exact hevent hcurrent

variable {op' : Op}

theorem issued_moves (h : op.Issued m) (hmove : Moves m op' o m') : op.Issued m' := by
  cases op with
  | observeReady => exact launched_moves h hmove
  | commitChildStdin | releaseChildStdin | commitSerialTx | releaseSerialTx =>
      exact Nat.lt_of_lt_of_le h (tokens_moves hmove).le
  | moveChildPeer | commitChildLaunch | abortChildLaunch | completeAbortChildLaunch =>
      exact Nat.lt_of_lt_of_le h (generations_moves hmove).le
  | _ => exact fun event hevent => launched_moves (h event hevent) hmove

theorem gone_stays {P : SessionIds → Prop} {generation : Nat}
    (hP : ∀ ids, P ids → ids.childGeneration = generation) (hlaunched : m.Launched generation)
    (hgone : ∀ child ∈ m.child, ¬ P child.ids) (hmove : Moves m op' o m') :
    ∀ child ∈ m'.child, ¬ P child.ids := by
  intro child' hchild' hP'
  rcases child_moves hmove child' hchild' with ⟨child, hchild, hids⟩ | ⟨id, hid, hgeneration⟩
  · exact hgone child hchild (hids ▸ hP')
  · exact hlaunched.2 id hid (hgeneration.symm.trans (hP _ hP'))

theorem launch_stays (id : LaunchIdentity) (hissued : id.childGeneration < m.nextGeneration)
    (hover : m.pendingLaunch ≠ some id)
    (hmove : Moves m op' o m') : m'.pendingLaunch ≠ some id := by
  intro hpending
  rcases launch_moves hmove id hpending with hid | hnew
  · exact hover hid
  · exact absurd hnew hissued.ne

theorem event_stays {event : EventGeneration}
    (hissued : ∀ event' ∈ some event, m.Launched event'.childGeneration)
    (hstale : ¬ ∀ event' ∈ some event, m.event = some event') (hmove : Moves m op' o m') :
    ¬ ∀ event' ∈ some event, m'.event = some event' := by
  intro hcurrent
  obtain ⟨child', hchild', hids'⟩ := exists_child (hcurrent event rfl)
  refine gone_stays (P := fun ids => ids.event = event) ?_ (hissued event rfl) ?_ hmove child' hchild' hids'
  · rintro ids rfl
    rfl
  · rintro child hchild hids
    refine hstale ?_
    rintro _ ⟨⟩
    exact event_of_child hchild hids

theorem stale_stays (hissued : op.Issued m) (hstale : ¬ op.Current m)
    (hmove : Moves m op' o m') : ¬ op.Current m' := by
  cases op with
  | observeReady _ token =>
      intro hcurrent
      obtain ⟨child', hchild', hids'⟩ := Option.map_eq_some_iff.mp hcurrent
      refine gone_stays (P := fun ids => ids = token.ids) ?_ hissued ?_ hmove child' hchild' hids'
      · rintro _ rfl
        rfl
      · exact fun child hchild hids => hstale (Option.map_eq_some_iff.mpr ⟨child, hchild, hids⟩)
  | commitChildStdin | releaseChildStdin => exact (reservations_moves hmove).1.stays hissued hstale
  | commitSerialTx | releaseSerialTx => exact (reservations_moves hmove).2.stays hissued hstale
  | moveChildPeer tx | commitChildLaunch tx | abortChildLaunch tx =>
      exact launch_stays tx.identity hissued hstale hmove
  | completeAbortChildLaunch token => exact launch_stays token.identity hissued hstale hmove
  | beginConnect | abortConnect | attachConnected | beginChildLaunch | serialPeerClosed
  | completeSerialCleanup | serialReconnectFailed | reserveChildStdin | reserveSerialTx
  | takeRecoveryAction => exact absurd (by rintro _ ⟨⟩) hstale
  | _ => exact event_stays hissued hstale hmove

theorem replay_stale {op : Op} (later : List Op) (hsound : w.Sound) (hissued : op.Issued w.model)
    (hstale : ¬ op.Current w.model) : ¬ op.Current (replay exec later w).2.model :=
  (replay_sound_keeps (P := fun m => op.Issued m ∧ ¬ op.Current m)
    (fun _ h hmove => ⟨issued_moves h.1 hmove, stale_stays h.1 h.2 hmove⟩) later hsound
    ⟨hissued, hstale⟩).2

theorem replay_issued {op : Op} (later : List Op) (hsound : w.Sound) (hissued : op.Issued w.model) :
    op.Issued (replay exec later w).2.model :=
  replay_sound_keeps (P := fun m => op.Issued m) (fun _ h hmove => issued_moves h hmove) later hsound
    hissued

theorem run_reservedBelow (ops : List Op) : (replay exec ops World.new).2.model.ReservedBelow :=
  replay_sound_keeps (P := ConsoleModel.ReservedBelow) (fun _ h hmove => reservedBelow_moves h hmove)
    ops sound_new ⟨by rintro _ ⟨⟩, by rintro _ ⟨⟩⟩

/-- Nothing is handed out twice, the accepted correlations go up, a call on something stale fails
and changes nothing but the clock and the failure, and what has become stale stays so. -/
theorem run_fresh (ops : List Op) :
    ((replay exec ops World.new).1.flatMap fun call => generationsOf call.outcome).Nodup ∧
    ((replay exec ops World.new).1.flatMap fun call => endpointsOf call.outcome).Nodup ∧
    ((replay exec ops World.new).1.flatMap fun call => tokensOf call.outcome).Nodup ∧
    ((replay exec ops World.new).1.flatMap fun call => acceptedOf call.op call.outcome).Pairwise
      (fun earlier later => later.Follows earlier) ∧
    (∀ call ∈ (replay exec ops World.new).1, call.outcome ≠ .ok .notHeld →
      ¬ call.op.Current call.before.model →
        (∃ e, call.outcome = .err e) ∧ call.before.model.Touched call.after.model) ∧
    ∀ (op : Op) (earlier middle later : List Op), ops = earlier ++ middle ++ later →
      op.Current (replay exec earlier World.new).2.model →
        ¬ op.Current (replay exec (earlier ++ middle) World.new).2.model →
          ¬ op.Current (replay exec ops World.new).2.model := by
  have hledger := ledger_run ops
  refine ⟨hledger.generations.nodup, hledger.endpoints.nodup, hledger.tokens.nodup,
    hledger.accepted, ?_, ?_⟩
  · intro call hcall hheld hstale
    obtain ⟨hbefore, heq⟩ := replay_mem exec_sound ops sound_new hcall
    rw [heq] at hheld ⊢
    rcases exec_moves hbefore call.op with ⟨-, hnot⟩ | ⟨hop, hmove⟩
    · exact absurd (congrArg Prod.fst hnot) hheld
    · exact stale_moves hbefore.custody hop hstale hmove
  · rintro op earlier middle later rfl hcurrent hstale
    have hsound := run_sound earlier
    have hissued := issued_of_current hsound (run_reservedBelow earlier) hcurrent
    rw [replay_append] at hstale
    rw [replay_append, replay_append]
    refine replay_stale later ?_ (replay_issued middle hsound hissued) hstale
    have hmiddle := run_sound (earlier ++ middle)
    rw [replay_append] at hmiddle
    exact hmiddle

end Wyrmroot.Consoled
