import Wyrmroot.Consoled.Traffic

/-!
# The bytes of a session

While a child stays installed, each of the three streams is carried by its
normalizer and its queue: what was committed is a prefix of the normalized
stream, and as long as the child is in service the rest is in the queue
(`Conveying`). The outputs take turns.
-/

namespace Wyrmroot.Consoled

open Outcome ConsoleModel

variable {start : InputNormalizer} {T : Traffic} {m m' : ConsoleModel} {op : Op}
  {o : Outcome ModelError Reply} {w : World}

structure Conveying (start : InputNormalizer) (T : Traffic) (state : ConnectionState)
    (input : BoundedQueue) (inputNormalizer : InputNormalizer) (queue : OutputSource → BoundedQueue)
    (normalizer : OutputSource → OutputNormalizer) (nextOutput : OutputSource)
    (stdin tx : Option Reservation) : Prop where
  stdinPrefix : T.stdin <+: InputNormalizer.machine.output start T.input
  sentPrefix : ∀ source, T.sent source <+: OutputNormalizer.machine.output .new (T.output source)
  ofInput : state = .active →
    InputNormalizer.machine.Conveys start T.input inputNormalizer T.stdin input.toList
  ofOutput : state = .active → ∀ source, OutputNormalizer.machine.Conveys .new (T.output source)
    (normalizer source) (T.sent source) (queue source).toList
  ofStdin : ∀ r ∈ stdin, T.offered r = input.toList.take r.length
  ofTx : ∀ r ∈ tx, ∀ source ∈ r.source, T.offered r = (queue source).toList.take r.length ∧
    (T.overdue r = true → ∀ last ∈ T.last, source = other last)
  ofTurn : state = .active → ∀ last ∈ T.last, nextOutput = other last

abbrev ConsoleModel.conveying (m : ConsoleModel) (start : InputNormalizer) (T : Traffic) : Prop :=
  Conveying start T m.state m.input m.inputNormalizer m.queueFor m.normalizerFor m.nextOutput
    m.pendingStdin m.pendingTx

variable {source : OutputSource} {r : Reservation}

namespace Conveying

variable {state state' : ConnectionState} {input input' : BoundedQueue}
  {inputNormalizer inputNormalizer' : InputNormalizer}
  {queue queue' : OutputSource → BoundedQueue}
  {normalizer normalizer' : OutputSource → OutputNormalizer} {nextOutput nextOutput' : OutputSource}
  {stdin stdin' tx tx' : Option Reservation}

theorem vacant (h : Vacant input queue normalizer) :
    Conveying inputNormalizer .new state input inputNormalizer queue normalizer nextOutput none none where
  stdinPrefix := List.prefix_rfl
  sentPrefix _ := List.prefix_rfl
  ofInput _ := by
    rw [h.input]
    exact .start _ _
  ofOutput _ source := by
    rw [h.queue, h.normalizer]
    exact .start _ _
  ofStdin := by rintro _ ⟨⟩
  ofTx := by rintro _ ⟨⟩
  ofTurn := by rintro _ _ ⟨⟩

theorem retired (h : Conveying start T state input inputNormalizer queue normalizer nextOutput stdin tx)
    (hstate : state' ≠ .active) :
    Conveying start T state' input' inputNormalizer' queue' normalizer' nextOutput' none none where
  stdinPrefix := h.stdinPrefix
  sentPrefix := h.sentPrefix
  ofInput hactive := absurd hactive hstate
  ofOutput hactive := absurd hactive hstate
  ofStdin := by rintro _ ⟨⟩
  ofTx := by rintro _ ⟨⟩
  ofTurn hactive := absurd hactive hstate

theorem stopped (h : Conveying start T state input inputNormalizer queue normalizer nextOutput stdin tx)
    (hstate : state' ≠ .active) :
    Conveying start T state' input inputNormalizer queue normalizer nextOutput stdin tx :=
  { h with
    ofInput := fun hactive => absurd hactive hstate
    ofOutput := fun hactive => absurd hactive hstate
    ofTurn := fun hactive => absurd hactive hstate }

theorem releasedStdin
    (h : Conveying start T state input inputNormalizer queue normalizer nextOutput stdin tx) :
    Conveying start T state input inputNormalizer queue normalizer nextOutput none tx :=
  { h with ofStdin := by rintro _ ⟨⟩ }

theorem releasedTx
    (h : Conveying start T state input inputNormalizer queue normalizer nextOutput stdin tx) :
    Conveying start T state input inputNormalizer queue normalizer nextOutput stdin none :=
  { h with ofTx := by rintro _ ⟨⟩ }

theorem stagedInput
    (h : Conveying start T .active input inputNormalizer queue normalizer nextOutput stdin tx)
    (hstdin : ∀ r ∈ stdin, r.length ≤ input.len) {bytes : List UInt8}
    (hstage : inputNormalizer.stage bytes input = .ok (inputNormalizer', input')) :
    Conveying start { T with input := T.input ++ bytes } .active input' inputNormalizer' queue
      normalizer nextOutput stdin tx := by
  obtain ⟨rfl, hqueue⟩ := InputNormalizer.stage_toList hstage
  have hfeed := (h.ofInput rfl).feed bytes
  rw [← hqueue] at hfeed
  refine { h with stdinPrefix := hfeed.isPrefix, ofInput := fun _ => hfeed, ofStdin := fun r hr => ?_ }
  rw [hqueue, List.take_append_of_le_length]
  · exact h.ofStdin r hr
  · exact BoundedQueue.length_toList.symm ▸ hstdin r hr

theorem stagedOutput
    (h : Conveying start T .active input inputNormalizer queue normalizer nextOutput stdin tx)
    (htx : ∀ r ∈ tx, ∀ source ∈ r.source, r.length ≤ (queue source).len)
    {bytes : List UInt8} {after : OutputNormalizer} {staged : BoundedQueue}
    (hstage : (normalizer source).stage bytes (queue source) = .ok (after, staged)) :
    Conveying start { T with output := Function.update T.output source (T.output source ++ bytes) }
      .active input inputNormalizer (Function.update queue source staged)
      (Function.update normalizer source after) nextOutput stdin tx := by
  obtain ⟨rfl, hqueue⟩ := OutputNormalizer.stage_toList hstage
  have hfeed := (h.ofOutput rfl source).feed bytes
  rw [← hqueue] at hfeed
  refine { h with sentPrefix := fun s => ?_, ofOutput := fun _ s => ?_, ofTx := fun r hr s hs => ?_ }
  · rcases eq_or_ne s source with rfl | hne
    · simpa only [Function.update_self] using hfeed.isPrefix
    · simpa only [Function.update_of_ne hne] using h.sentPrefix s
  · rcases eq_or_ne s source with rfl | hne
    · simpa only [Function.update_self] using hfeed
    · simpa only [Function.update_of_ne hne] using h.ofOutput rfl s
  · refine ⟨?_, (h.ofTx r hr s hs).2⟩
    rcases eq_or_ne s source with rfl | hne
    · rw [Function.update_self, hqueue, List.take_append_of_le_length]
      · exact (h.ofTx r hr s hs).1
      · exact BoundedQueue.length_toList.symm ▸ htx r hr s hs
    · rw [Function.update_of_ne hne]
      exact (h.ofTx r hr s hs).1

theorem reservedStdin
    (h : Conveying start T state input inputNormalizer queue normalizer nextOutput stdin tx)
    (htx : ∀ r ∈ tx, r.source.isSome = true) (hr : r.source = none)
    {bytes : List UInt8} (hbytes : bytes = input.toList.take r.length) :
    Conveying start (T.offer r bytes) state input inputNormalizer queue normalizer nextOutput
      (some r) tx := by
  refine { h with ofStdin := ?_, ofTx := fun s hs => ?_ }
  · rintro _ ⟨⟩
    exact (Function.update_self _ _ _).trans hbytes
  · have hne : s ≠ r := by
      rintro rfl
      have hsome := htx s hs
      rw [hr] at hsome
      cases hsome
    show ∀ source ∈ s.source, Function.update T.offered r bytes s = _ ∧ _
    rw [Function.update_of_ne hne]
    exact h.ofTx s hs

theorem committedStdin
    (h : Conveying start T .active input inputNormalizer queue normalizer nextOutput (some r) tx)
    (hfits : r.length ≤ input.len) (hconsume : input.consume r.length = .ok input') :
    Conveying start { T with stdin := T.stdin ++ T.offered r } .active input' inputNormalizer queue
      normalizer nextOutput none tx := by
  obtain ⟨_, heq, hqueue, -⟩ := BoundedQueue.consume_eq hfits
  obtain rfl := Outcome.ok.inj (heq.symm.trans hconsume)
  have hsend := (h.ofInput rfl).send r.length
  rw [← hqueue, ← h.ofStdin r rfl] at hsend
  exact { h with
    stdinPrefix := hsend.isPrefix
    ofInput := fun _ => hsend
    ofStdin := by rintro _ ⟨⟩ }

theorem reservedTx
    (h : Conveying start T .active input inputNormalizer queue normalizer nextOutput stdin tx)
    (hstdin : ∀ r ∈ stdin, r.source = none)
    (hr : r.source = some source)
    (hturn : source = if (queue nextOutput).isEmpty then other nextOutput else nextOutput)
    {bytes : List UInt8} (hbytes : bytes = (queue source).toList.take r.length) :
    Conveying start
      { T.offer r bytes with
        overdue := Function.update T.overdue r
          (T.last.any fun last => !(queue (other last)).isEmpty) }
      .active input inputNormalizer queue normalizer nextOutput stdin (some r) := by
  refine { h with ofStdin := fun s hs => ?_, ofTx := ?_ }
  · have hne : s ≠ r := by
      rintro rfl
      cases hr.symm.trans (hstdin s hs)
    exact (Function.update_of_ne hne _ _).trans (h.ofStdin s hs)
  · rintro _ ⟨⟩ _ hsource
    obtain rfl := Option.some.inj (hr.symm.trans hsource)
    refine ⟨(Function.update_self _ _ _).trans hbytes, fun hoverdue last hlast => ?_⟩
    have hwaits : (T.last.any fun last => !(queue (other last)).isEmpty) = true :=
      (Function.update_self r _ T.overdue).symm.trans hoverdue
    have hlast' : T.last = some last := hlast
    rw [hlast', Option.any_some, Bool.not_eq_true'] at hwaits
    rw [hturn, h.ofTurn rfl last hlast, hwaits]
    rfl

theorem committedTx {rest : BoundedQueue}
    (h : Conveying start T .active input inputNormalizer queue normalizer nextOutput stdin (some r))
    (hr : r.source = some source) (hfits : r.length ≤ (queue source).len)
    (hconsume : (queue source).consume r.length = .ok rest) :
    Conveying start (T.send r source) .active input inputNormalizer
      (Function.update queue source rest) normalizer (other source) stdin none := by
  obtain ⟨_, heq, hqueue, -⟩ := BoundedQueue.consume_eq hfits
  obtain rfl := Outcome.ok.inj (heq.symm.trans hconsume)
  have hsend := (h.ofOutput rfl source).send r.length
  rw [← hqueue, ← (h.ofTx r rfl source hr).1] at hsend
  refine { h with
    sentPrefix := fun s => ?_, ofOutput := fun _ s => ?_, ofTx := by rintro _ ⟨⟩, ofTurn := ?_ }
  · rcases eq_or_ne s source with rfl | hne
    · simpa only [Traffic.send, Function.update_self] using hsend.isPrefix
    · simpa only [Traffic.send, Function.update_of_ne hne] using h.sentPrefix s
  · rcases eq_or_ne s source with rfl | hne
    · simpa only [Traffic.send, Function.update_self] using hsend
    · simpa only [Traffic.send, Function.update_of_ne hne] using h.ofOutput rfl s
  · rintro _ _ ⟨⟩
    rfl

end Conveying

/-! ## Every call carries on -/

/-- A poll reads bytes that its arguments do not show. -/
def Op.polls : Op → Bool
  | .pollOutputQuiescence _ _ => true
  | _ => false

theorem setOutput_eq (m : ConsoleModel) (normalizer : OutputNormalizer) (queue : BoundedQueue)
    (source : OutputSource) :
    (m.setOutput normalizer queue source).queueFor = Function.update m.queueFor source queue ∧
    (m.setOutput normalizer queue source).normalizerFor =
      Function.update m.normalizerFor source normalizer := by
  constructor
  · funext s
    cases source <;> cases s <;> rfl
  · funext s
    cases source <;> cases s <;> rfl

theorem setQueue_eq_update (m : ConsoleModel) (queue : BoundedQueue) (source : OutputSource) :
    (m.setQueue queue source).queueFor = Function.update m.queueFor source queue := by
  funext s
  cases source <;> cases s <;> rfl

theorem Reserving.tx_le {state : ConnectionState} {event : Option EventGeneration}
    {input : BoundedQueue} {queue : OutputSource → BoundedQueue} {stdin tx : Option Reservation}
    (h : Reserving state event input queue stdin tx) (hr : tx = some r)
    (hsource : r.source = some source) : r.length ≤ (queue source).len := by
  obtain ⟨-, _, hsource', hle⟩ := h.ofTx r hr
  obtain rfl := Option.some.inj (hsource.symm.trans hsource')
  exact hle

theorem conveying_moves (h : m.conveying start T) (hsound : w.Sound) (hw : w.model = m)
    (hpolls : op.polls = false) (hchild : m.child.isSome = true) (hchild' : m'.child.isSome = true)
    (hmove : Moves m op o m') : m'.conveying start (T.next m op o) := by
  subst hw
  have hfailed : ConnectionState.failClosed ≠ .active := by decide
  have hretiring : ConnectionState.retiringChild ≠ .active := by decide
  have hreaping : ConnectionState.awaitingReap ≠ .active := by decide
  have hlife := hsound.lifecycle
  have hreserving := hsound.reserving
  have hnone {P : Prop} (hchildless : w.model.child = none) : P := by
    rw [hchildless] at hchild
    cases hchild
  have hconnected {P : Prop} (hstate : w.model.state = .reconnecting) : P :=
    hnone (hlife.ofReconnecting hstate).2.1
  cases hmove with
  | refused => exact (Traffic.next_err _).symm ▸ h
  | failed => exact (Traffic.next_err _).symm ▸ h.stopped hfailed
  | launchFailed => exact h.stopped hfailed
  | connecting hstate | attached _ hstate | retrying _ hstate | serialExhausted _ hstate
  | reconnectFailed _ hstate => exact hconnected hstate
  | launching _ _ _ _ hidle | launched _ _ _ hidle | abortedAfterLoss _ _ _ _ hidle
  | abortFailed _ _ _ _ hidle | lostIdle _ _ _ _ _ hidle | lostIdleFailed _ _ _ _ _ hidle =>
      exact hnone hidle
  | replaced | escalated | cleaned | cleanupFailed => cases hchild'
  | stagedInput hcurrent hstage =>
      rw [ConsoleModel.conveying, active_of_current hcurrent] at h ⊢
      exact h.stagedInput (fun r hr => (hreserving.ofStdin r hr).2.2) hstage
  | @stagedOutput _ source _ _ _ _ _ hcurrent hstaged =>
      obtain ⟨normalizer, queue, hstage, heq⟩ := hstaged
      rw [ConsoleModel.conveying, active_of_current hcurrent] at h
      have hconveys := h.stagedOutput (fun r hr s hs => hreserving.tx_le hr hs) hstage
      rw [← (setOutput_eq _ normalizer queue source).1, ← (setOutput_eq _ normalizer queue source).2,
        ← active_of_current hcurrent] at hconveys
      rw [heq]
      cases source <;> exact hconveys
  | polled => cases hpolls
  | retire hretires =>
      cases hretires <;> exact h.retired hretiring
  | terminal => exact h.retired hreaping
  | lostChild => exact h.retired hretiring
  | closed hcloses => cases hcloses <;> exact h
  | lostBusy _ _ _ _ _ hbusy =>
      rcases hbusy with ⟨-, hstate⟩ | ⟨hidle, -⟩
      · exact h.retired hstate
      · exact hnone hidle
  | terminated => exact h.stopped hreaping
  | reservedNothing hreserves => cases hreserves <;> exact h
  | reservedStdin =>
      refine h.reservedStdin (fun r hr => ?_) rfl (BoundedQueue.copyPrefix_take _ _ _)
      obtain ⟨-, _, hsource, -⟩ := hreserving.ofTx r hr
      exact hsource ▸ rfl
  | committedStdin hstate hpending _ hconsume =>
      rw [ConsoleModel.conveying, hstate, hpending] at h
      have hcommitted := h.committedStdin (hreserving.ofStdin _ hpending).2.2 hconsume
      rw [← hstate] at hcommitted
      exact hcommitted
  | @reservedTx room event hstate =>
      rw [ConsoleModel.conveying, hstate] at h
      have hreserved := h.reservedTx (r := w.model.txReservation room event)
        (fun r hr => (hreserving.ofStdin r hr).2.1) rfl rfl (BoundedQueue.copyPrefix_take _ _ _)
      rw [← hstate] at hreserved
      exact hreserved
  | @committedTx r source queue _ _ hstate hpending _ hsource hconsume hset =>
      rw [ConsoleModel.conveying, hstate, hpending] at h
      have hcommitted := h.committedTx hsource (hreserving.tx_le hpending hsource) hconsume
      rw [← setQueue_eq_update _ queue source, hset, ← hstate] at hcommitted
      show Conveying start (r.source.elim T (T.send r)) _ _ _ _ _ _ _ _
      rw [hsource]
      exact hcommitted
  | releasedStdin => exact h.releasedStdin
  | releasedTx => exact h.releasedTx
  | _ => exact h

/-- A stage call, or one that gives a reservation back. -/
def Op.stages : Op → Bool
  | .stageSerialInput _ _ => true
  | .stageChildOutput _ _ _ => true
  | _ => false

def Op.releases : Op → Bool
  | .releaseChildStdin _ => true
  | .releaseSerialTx _ => true
  | _ => false

/-- The queues and the CR/LF states are the same. -/
def ConsoleModel.SameStreams (m m' : ConsoleModel) : Prop :=
  m'.input = m.input ∧ m'.queueFor = m.queueFor ∧ m'.inputNormalizer = m.inputNormalizer ∧
    m'.normalizerFor = m.normalizerFor

theorem sameStreams_moves (hop : op.stages = true ∧ o.isOk = false ∨ op.releases = true)
    (hmove : Moves m op o m') : m.SameStreams m' := by
  have hsame : m.SameStreams m := ⟨rfl, rfl, rfl, rfl⟩
  cases hmove with
  | refused | failed | releasedStdin | releasedTx | reservedNothing | moved => exact hsame
  | stagedInput | stagedOutput =>
      rcases hop with ⟨-, hfailed⟩ | hreleases
      · cases hfailed
      · cases hreleases
  | retire hretires => cases hretires <;> exact absurd hop (by simp [Op.stages, Op.releases])
  | closed hcloses => cases hcloses <;> exact absurd hop (by simp [Op.stages, Op.releases])
  | _ => exact absurd hop (by simp [Op.stages, Op.releases])

theorem alternates_moves (h : m.conveying start T)
    (hmove : Moves m (.commitSerialTx r) o m') (hok : o.isOk = true)
    (hoverdue : T.overdue r = true) :
    ∀ last ∈ T.last, r.source = some (other last) := by
  intro last hlast
  cases hmove with
  | refused | failed => cases hok
  | retire hother | closed hother | reservedNothing hother => cases hother
  | committedTx _ hpending _ hsource =>
      exact hsource.trans (congrArg some ((h.ofTx r hpending _ hsource).2 hoverdue last hlast))

/-! ## Every session -/

/-- What the calls of a run leave to the session that begins. -/
structure Between (h : List ConsoleCall) (w : World) : Prop where
  sound : w.Sound
  continues : w.model.Continues (arrived h)
  quiescent : w.model.Quiescent

theorem between_new : Between [] World.new where
  sound := sound_new
  continues := by rintro ⟨⟩
  quiescent _ := vacant_clearVolatile .new

variable {h : List ConsoleCall}

theorem between_exec (hbetween : Between h w) (op : Op) :
    Between (h ++ [callOf exec op w]) (exec op w).2.1 := by
  refine ⟨exec_sound op w hbetween.sound, ?_, ?_⟩
  · rw [arrived_snoc]
    show ConsoleModel.Continues _ (arrive (arrived h) op (exec op w).1)
    rcases exec_moves hbetween.sound op with ⟨hsome, hnot⟩ | ⟨-, hmove⟩
    · rw [hnot, arrive_notHeld hsome]
      exact hbetween.continues
    · exact continues_moves hbetween.continues hmove
  · rcases exec_moves hbetween.sound op with ⟨-, hnot⟩ | ⟨-, hmove⟩
    · rw [hnot]
      exact hbetween.quiescent
    · exact quiescent_moves hbetween.quiescent hbetween.sound.lifecycle hmove

theorem between_run (ops : List Op) :
    Between (replay exec ops World.new).1 (replay exec ops World.new).2 :=
  replay_keeps (P := Between) (fun _ _ op hbetween => between_exec hbetween op) ops (h := [])
    between_new

/-- The child is installed behind the call, and the call is no poll. -/
def Serves (ids : SessionIds) (call : ConsoleCall) : Prop :=
  call.op.polls = false ∧ call.after.model.child.map ChildSession.ids = some ids

instance (ids : SessionIds) (call : ConsoleCall) : Decidable (Serves ids call) :=
  inferInstanceAs (Decidable (_ ∧ _))

theorem isSome_of_ids {child : Option ChildSession} {ids : SessionIds}
    (h : child.map ChildSession.ids = some ids) : child.isSome = true := by
  rw [← Option.isSome_map, h]
  rfl

theorem launched_session (hbetween : Between h w) {tx tx' : LaunchTransaction}
    {childJob : UInt64} {child : ChildSession}
    (hmove : Moves w.model (.commitChildLaunch tx childJob) (.ok (.launched child tx')) m') :
    m'.child = some child ∧
      m'.conveying (InputNormalizer.machine.after .new (arrived h)) .new := by
  cases hmove with
  | launched _ _ _ hchild hvalid hserial =>
      refine ⟨rfl, ?_⟩
      have hevent : w.model.event = none := congrArg (Option.map _) hchild
      obtain ⟨hstdin, htx⟩ := hbetween.sound.reserving.childless hevent
      rw [ConsoleModel.conveying, ← hbetween.continues (hserial ▸ rfl) hvalid]
      show Conveying _ _ _ _ _ _ _ _ w.model.pendingStdin w.model.pendingTx
      rw [hstdin, htx]
      exact .vacant (hbetween.quiescent (.inl hchild))

structure Session (ids : SessionIds) (start : InputNormalizer) (h : List ConsoleCall) (w : World) :
    Prop where
  sound : w.Sound
  child : w.model.child.map ChildSession.ids = some ids
  conveying : w.model.conveying start (carried h)

theorem session_exec {ids : SessionIds} (hsession : Session ids start h w)
    (op : Op) (hserves : Serves ids (callOf exec op w)) :
    Session ids start (h ++ [callOf exec op w]) (exec op w).2.1 := by
  refine ⟨exec_sound op w hsession.sound, hserves.2, ?_⟩
  rw [carried_snoc]
  show ConsoleModel.conveying _ start ((carried h).next w.model op (exec op w).1)
  rcases exec_moves hsession.sound op with ⟨hsome, hnot⟩ | ⟨-, hmove⟩
  · rw [hnot, Traffic.next_notHeld hsome]
    exact hsession.conveying
  · exact conveying_moves hsession.conveying hsession.sound rfl hserves.1
      (isSome_of_ids hsession.child) (isSome_of_ids hserves.2) hmove

theorem session_run {ids : SessionIds} (hsession : Session ids start [] w) (later : List Op)
    (hserves : ∀ call ∈ (replay exec later w).1, Serves ids call) :
    Session ids start (replay exec later w).1 (replay exec later w).2 := by
  refine replay_keeps (P := fun h w => (∀ call ∈ h, Serves ids call) → Session ids start h w)
    (fun h w op hkept hcalls => ?_) later (h := []) (fun _ => hsession) hserves
  refine session_exec (hkept fun call hcall => hcalls call (List.mem_append_left _ hcall)) op ?_
  exact hcalls _ (List.mem_append_right _ (List.mem_singleton_self _))

/-- What is committed in a session is a prefix of its normalized streams, and while the child is in
service the queues hold the rest; a stage call that fails and a release change no stream; and an
output that waited for the other is committed next. -/
theorem session_fidelity (earlier : List Op) (tx : LaunchTransaction) (childJob : UInt64)
    (later : List Op) (op : Op) {child : ChildSession} {tx' : LaunchTransaction}
    (hlaunch : (exec (.commitChildLaunch tx childJob) (replay exec earlier World.new).2).1 =
      .ok (.launched child tx'))
    (hserves : ∀ call ∈ (replay exec later
      (exec (.commitChildLaunch tx childJob) (replay exec earlier World.new).2).2.1).1,
      Serves child.ids call) :
    let A := arrived (replay exec earlier World.new).1
    let session := replay exec later
      (exec (.commitChildLaunch tx childJob) (replay exec earlier World.new).2).2.1
    let T := carried session.1
    let m := session.2.model
    (lfEndings A ++ T.stdin <+: lfEndings (A ++ T.input) ∧
      ∀ source, T.sent source <+: crlfEndings (T.output source)) ∧
    (m.state = .active →
      lfEndings A ++ (T.stdin ++ m.input.toList) = lfEndings (A ++ T.input) ∧
      ∀ source, T.sent source ++ (m.queueFor source).toList = crlfEndings (T.output source)) ∧
    (op.stages = true ∧ (exec op session.2).1.isOk = false ∨ op.releases = true →
      m.SameStreams (exec op session.2).2.1.model) ∧
    ∀ r, op = .commitSerialTx r → (exec op session.2).1.isOk = true → T.overdue r = true →
      ∀ last ∈ T.last, r.source = some (other last) := by
  intro A session T m
  have hbetween := between_run earlier
  have hmove := (exec_moves hbetween.sound (.commitChildLaunch tx childJob)).resolve_left (by
    rintro ⟨-, hnot⟩
    rw [hnot] at hlaunch
    cases hlaunch)
  rw [hlaunch] at hmove
  obtain ⟨hchild, hconveying⟩ := launched_session hbetween hmove.2
  have hbegin : Session child.ids (InputNormalizer.machine.after .new A) []
      (exec (.commitChildLaunch tx childJob) (replay exec earlier World.new).2).2.1 :=
    ⟨exec_sound _ _ hbetween.sound, congrArg (Option.map _) hchild, hconveying⟩
  have hsession := session_run hbegin later hserves
  have hfed : lfEndings (A ++ T.input) = lfEndings A ++
      InputNormalizer.machine.output (InputNormalizer.machine.after .new A) T.input := by
    rw [lfEndings_eq, lfEndings_eq, Transducer.output_append]
  have hlaw := hsession.conveying
  refine ⟨⟨?_, fun source => ?_⟩, fun hactive => ⟨?_, fun source => ?_⟩, fun hop => ?_, ?_⟩
  · rw [hfed]
    exact (List.prefix_append_right_inj _).mpr hlaw.stdinPrefix
  · rw [crlfEndings_eq]
    exact hlaw.sentPrefix source
  · rw [hfed, (hlaw.ofInput hactive).balance]
  · rw [crlfEndings_eq]
    exact (hlaw.ofOutput hactive source).balance
  · rcases exec_moves hsession.sound op with ⟨-, hnot⟩ | ⟨-, hmove⟩
    · rw [hnot]
      exact ⟨rfl, rfl, rfl, rfl⟩
    · exact sameStreams_moves hop hmove
  · rintro r rfl hok hoverdue
    rcases exec_moves hsession.sound (.commitSerialTx r) with ⟨hsome, -⟩ | ⟨-, hmove⟩
    · cases hsome
    · exact alternates_moves hlaw hmove hok hoverdue

/-- A shell is started, and a line is typed whose CR LF comes in two pieces. -/
def started : List Op :=
  [.beginConnect sampleRequest, .attachConnected sampleSerial 1, .beginChildLaunch 7,
    .moveChildPeer sampleLaunch .stdin, .moveChildPeer (sampleGiven true false false) .stdout,
    .moveChildPeer (sampleGiven true true false) .stderr]

def typed : List Op :=
  [.stageSerialInput sampleEvent [108, 115, 13], .reserveChildStdin 2,
    .stageSerialInput sampleEvent [10, 97], .commitChildStdin ⟨1, none, 2, sampleEvent⟩]

theorem started_launched : (exec (.commitChildLaunch (sampleGiven true true true) 8)
    (replay exec started World.new).2).1 =
      .ok (.launched ((sampleGiven true true true).session 8)
        { sampleGiven true true true with childJob := 8, committed := true }) := by
  rfl

def typedSession : List ConsoleCall × World :=
  replay exec typed
    (exec (.commitChildLaunch (sampleGiven true true true) 8) (replay exec started World.new).2).2.1

theorem typed_serves : ∀ call ∈ typedSession.1,
    Serves ((sampleGiven true true true).session 8).ids call := by
  decide +kernel

/-- `ls` is with the child, and a LF and an `a` are in the queue. -/
theorem typed_fidelity :
    [108, 115] ++ typedSession.2.model.input.toList = lfEndings [108, 115, 13, 10, 97] := by
  have hsession := session_fidelity started (sampleGiven true true true) 8 typed
    .takeRecoveryAction started_launched typed_serves
  have hbalance := (hsession.2.1 (by decide +kernel)).1
  have harrived : arrived (replay exec started World.new).1 = [] := by decide +kernel
  have hstdin : (carried typedSession.1).stdin = [108, 115] := by decide +kernel
  have hinput : (carried typedSession.1).input = [108, 115, 13, 10, 97] := by decide +kernel
  rw [← hstdin, ← hinput]
  rw [harrived] at hbalance
  exact hbalance

end Wyrmroot.Consoled
