import Wyrmroot.Consoled.Budget

/-!
# Restarts over whole runs

A stable run is one READY session from an observation of it on
(`Uninterrupted`), and only the end of one clears the failures of the child.
With the two windows held to the history of the run, `run_budget` is the law of
every restart, and of what an exhausted console still admits.
-/

namespace Wyrmroot.Consoled

open Outcome ConsoleModel
open Loader (checkedAdd)

variable {W : Watch} {m m' : ConsoleModel} {op : Op} {o : Outcome ModelError Reply} {w : World}

/-! ## Stable runs -/

/-- The call observed the session of a token as READY at `since`. -/
def Observes (op : Op) (o : Outcome ModelError Reply) (token : ReadyToken) (since : Nat) : Prop :=
  (∃ event, op = .observeChildReady event since ∧ o = .ok (.ready token)) ∨
    ∃ stable, op = .observeReady since token ∧ o = .ok (.stable stable)

/-- What runs stably is READY. -/
def ConsoleModel.ReadyStable (m : ConsoleModel) : Prop :=
  ∀ stable ∈ m.stable, m.readyToken = some stable.1

theorem stable_moves (hmove : Moves m op o m') : ∀ stable ∈ m'.stable,
    stable ∈ m.stable ∨ Observes op o stable.1 stable.2 := by
  have hsame : ∀ stable ∈ m.stable, stable ∈ m.stable ∨ Observes op o stable.1 stable.2 :=
    fun _ hstable => .inl hstable
  cases hmove with
  | failed | launchFailed | abortFailed | lostIdleFailed | cleanupFailed | reconnectFailed | attached
  | launched | abortedAfterLoss | retire | terminal | lostChild | lostIdle | lostBusy | replaced
  | escalated | cleaned => rintro _ ⟨⟩
  | @readied event now token =>
      show ∀ stable ∈ (if m.stable.map Prod.fst = some token then m.stable else some (token, now)), _
      split_ifs
      · exact hsame
      · rintro _ ⟨⟩
        exact .inr (.inl ⟨event, rfl, rfl⟩)
  | stable =>
      rintro _ ⟨⟩
      exact .inr (.inr ⟨true, rfl, rfl⟩)
  | restabilized =>
      rintro _ ⟨⟩
      exact .inr (.inr ⟨false, rfl, rfl⟩)
  | _ => exact hsame

theorem readyStable_moves (h : m.ReadyStable) (hmove : Moves m op o m') : m'.ReadyStable := by
  have hinactive {state : ConnectionState} (hstate : m.state = state) (hne : state ≠ .active) :
      m.stable = none := by
    refine Option.eq_none_iff_forall_ne_some.mpr fun stable hstable => ?_
    exact hne (hstate.symm.trans (active_of_readyToken (h stable hstable)))
  have hnone {stable : Option (ReadyToken × Nat)} (hstable : stable = none) {P : ReadyToken × Nat → Prop} :
      ∀ s ∈ stable, P s := by
    rw [hstable]
    rintro _ ⟨⟩
  cases hmove with
  | failed | launchFailed | abortFailed | lostIdleFailed | cleanupFailed | reconnectFailed | attached
  | launched | abortedAfterLoss | retire | terminal | lostChild | lostIdle | lostBusy | replaced
  | escalated | cleaned => rintro _ ⟨⟩
  | closed _ _ hstate =>
      rcases hstate with hstate | hstate
      · exact hnone (hinactive hstate (by decide))
      · exact hnone (hinactive hstate (by decide))
  | terminated _ hstate | serialExhausted _ hstate => exact hnone (hinactive hstate (by decide))
  | @readied event now token _ _ htoken =>
      intro settled hsettled
      have hkept : settled.1 = token := by
        have hmem : settled ∈
          (if m.stable.map Prod.fst = some token then m.stable else some (token, now)) := hsettled
        split_ifs at hmem with hsame
        · have hmap : m.stable.map Prod.fst = some settled.1 := congrArg (Option.map Prod.fst) hmem
          exact Option.some.inj (hmap.symm.trans hsame)
        · exact congrArg Prod.fst (Option.some.inj hmem).symm
      rw [hkept]
      exact htoken
  | stable _ htoken | restabilized _ htoken =>
      rintro _ ⟨⟩
      exact htoken
  | _ => exact h

/-- Since some call of the history observed it, the session of the token was READY all the time. -/
def Uninterrupted (h : List ConsoleCall) (token : ReadyToken) (since : Nat) : Prop :=
  ∃ h₁ call h₂, h = h₁ ++ call :: h₂ ∧ Observes call.op call.outcome token since ∧
    ∀ c ∈ call :: h₂, c.after.model.readyToken = some token

variable {h : List ConsoleCall}

theorem Uninterrupted.snoc {token : ReadyToken} {since : Nat}
    (hrun : Uninterrupted h token since) {call : ConsoleCall}
    (hready : call.after.model.readyToken = some token) : Uninterrupted
    (h ++ [call]) token since := by
  obtain ⟨h₁, first, h₂, rfl, hobserves, hkept⟩ := hrun
  refine ⟨h₁, first, h₂ ++ [call], List.append_assoc _ _ _, hobserves, fun c hc => ?_⟩
  rw [← List.cons_append] at hc
  rcases List.mem_append.mp hc with hc | hc
  · exact hkept c hc
  · rw [List.mem_singleton.mp hc]
    exact hready

/-! ## Every run -/

/-- What every call keeps of a history and the model behind it. -/
structure Budgeted (h : List ConsoleCall) (w : World) : Prop where
  sound : w.Sound
  capture : w.model.capture (watched h)
  child : w.model.childBudget (watched h)
  serial : w.model.serialBudget (watched h)
  ready : w.model.ReadyStable
  stable : ∀ stable ∈ w.model.stable, Uninterrupted h stable.1 stable.2

theorem budgeted_new : Budgeted [] World.new where
  sound := sound_new
  capture := ⟨rfl, rfl, fun _ _ _ => rfl, fun _ => rfl, fun _ => rfl, by decide, by rintro ⟨⟩, by rintro ⟨⟩⟩
  child := ⟨.nil, List.forall_mem_nil _, List.forall_mem_nil _, fun _ => by decide, by rintro ⟨⟩⟩
  serial := ⟨fun _ => .new, List.forall_mem_nil _, by rintro ⟨⟩⟩
  ready := by rintro _ ⟨⟩
  stable := by rintro _ ⟨⟩

theorem budgeted_exec (hbudget : Budgeted h w) (op : Op) :
    Budgeted (h ++ [callOf exec op w]) (exec op w).2.1 := by
  have hsound := exec_sound op w hbudget.sound
  rcases exec_moves hbudget.sound op with ⟨hsome, hnot⟩ | ⟨-, hmove⟩
  · have hwatch : watched (h ++ [callOf exec op w]) = watched h := by
      rw [watched_snoc]
      show (watched h).next op (exec op w).1 = _
      rw [hnot]
      exact Watch.next_notHeld hsome
    have hafter : (callOf exec op w).after = w := by
      rw [callOf, hnot]
    rw [hnot]
    refine ⟨hbudget.sound, hwatch ▸ hbudget.capture, hwatch ▸ hbudget.child, hwatch ▸ hbudget.serial,
      hbudget.ready, fun stable hstable => ?_⟩
    refine (hbudget.stable stable hstable).snoc ?_
    rw [hafter]
    exact hbudget.ready stable hstable
  · have hwatch : watched (h ++ [callOf exec op w]) = (watched h).next op (exec op w).1 :=
      watched_snoc _ _
    have hlife := hbudget.sound.lifecycle
    have hready := readyStable_moves hbudget.ready hmove
    refine ⟨hsound, ?_, ?_, ?_, hready, fun stable hstable => ?_⟩
    · rw [hwatch]
      exact capture_moves hbudget.capture hlife hmove
    · rw [hwatch]
      exact childBudget_moves hbudget.child hbudget.capture hlife hbudget.sound.timing hmove
    · rw [hwatch]
      exact serialBudget_moves hbudget.serial hlife hmove
    · rcases stable_moves hmove stable hstable with hold | hobserves
      · exact (hbudget.stable stable hold).snoc (hready stable hstable)
      · refine ⟨h, callOf exec op w, [], rfl, hobserves, ?_⟩
        exact List.forall_mem_singleton.mpr (hready stable hstable)

theorem budgeted_run (ops : List Op) :
    Budgeted (replay exec ops World.new).1 (replay exec ops World.new).2 :=
  replay_keeps (P := Budgeted) (fun _ _ op hbudget => budgeted_exec hbudget op) ops (h := [])
    budgeted_new

/-- A failure of the child at its captured time, with its serial line still there: whether it is the
fourth in the last minute. -/
def CountsChild (W : Watch) (op : Op) (full : Bool) : Prop :=
  ∃ event now failedAt, op = .childReaped event now ∧ W.lost = false ∧ W.symptom = some failedAt ∧
    full = decide (maxFailuresPerWindow ≤ (counting W.failures failedAt).length)

/-- The same of a failed reconnect. -/
def CountsReconnect (W : Watch) (op : Op) (full : Bool) : Prop :=
  ∃ now, op = .serialReconnectFailed now ∧
    full = decide (maxFailuresPerWindow ≤ (counting W.reconnects now).length)

variable {now : Nat}

theorem countsChild (hbudget : Budgeted h w) {event : EventGeneration} {full : Bool}
    {window : RestartWindow} (htime : w.model.Timely now)
    (hreap : w.model.state = .awaitingReap) (hclean : w.model.serialCleanup = true)
    (hadd : w.model.childWindow.add (w.model.childFailureAt.getD now) = .ok (full, window)) :
    CountsChild (watched h) (.childReaped event now) full := by
  have hcapture := hbudget.capture
  have hchild := hbudget.sound.lifecycle.ofRetiring (.inr hreap)
  have hvalid : w.model.serialInvalidated = false := by
    have hpaired := hcapture.paired
    rw [hclean] at hpaired
    simpa using hpaired.symm
  obtain ⟨failedAt, hfailed⟩ := Option.isSome_iff_exists.mp (hcapture.captured (.inr hreap) hvalid)
  have hsymptom : (watched h).symptom = some failedAt := hcapture.symptom ▸ hfailed
  obtain ⟨-, -, hfull⟩ := childBudget_add hbudget.child hcapture hchild htime hadd
  rw [hsymptom] at hfull
  exact ⟨event, now, failedAt, rfl, (hcapture.lost hchild).trans hvalid, hsymptom, hfull⟩

theorem escalate_moves (hbudget : Budgeted h w)
    (hmove : Moves w.model op (.ok (.action .escalate)) m') :
    (CountsChild (watched h) op true ∧ m'.childExhausted = true) ∨
      (CountsReconnect (watched h) op true ∧ m'.serialExhausted = true) := by
  cases hmove with
  | polled _ hquiets => cases hquiets
  | escalated htime hreap _ hclean hadd =>
      exact .inl ⟨countsChild hbudget htime hreap hclean hadd, rfl⟩
  | serialExhausted htime hstate hadd =>
      exact .inr ⟨⟨_, rfl, (serialBudget_add hbudget.serial hstate htime hadd).2.2⟩, rfl⟩

theorem replace_moves (hbudget : Budgeted h w)
    (hmove : Moves w.model op (.ok (.action .replaceChild)) m') :
    CountsChild (watched h) op false := by
  cases hmove with
  | polled _ hquiets => cases hquiets
  | replaced htime hreap _ hclean hadd => exact countsChild hbudget htime hreap hclean hadd

theorem retry_moves (hbudget : Budgeted h w) {time : Nat}
    (hmove : Moves w.model (.serialReconnectFailed now) (.ok (.action (.retrySerialAt time))) m') :
    CountsReconnect (watched h) (.serialReconnectFailed now) false := by
  cases hmove with
  | retrying htime hstate hadd =>
      exact ⟨now, rfl, (serialBudget_add hbudget.serial hstate htime hadd).2.2⟩

theorem lost_moves (hbudget : Budgeted h w) {event : EventGeneration} {action : RecoveryAction}
    (hlost : (watched h).lost = true)
    (hmove : Moves w.model (.childReaped event now) (.ok (.action action)) m') : action = .none := by
  have hcounted {full : Bool} (hcounts : CountsChild (watched h) (.childReaped event now) full) :
      action = .none := by
    obtain ⟨_, _, _, -, hkept, -⟩ := hcounts
    exact absurd (hkept.symm.trans hlost) Bool.false_ne_true
  cases hmove with
  | retire hretires => cases hretires
  | reapedAfterLoss => rfl
  | replaced htime hreap _ hclean hadd | escalated htime hreap _ hclean hadd =>
      exact hcounted (countsChild hbudget htime hreap hclean hadd)

theorem cleared_moves (hbudget : Budgeted h w) {token : ReadyToken}
    (hmove : Moves w.model (.observeReady now token) (.ok (.stable true)) m') :
    ∃ since, since + stableRunMillis ≤ now ∧ Uninterrupted h token since := by
  cases hmove with
  | stable _ _ hstable hlong => exact ⟨_, hlong, hbudget.stable _ hstable⟩

/-! ## What is answered -/

/-- The answer to a failure: escalation at the bound, and `retry` below it. -/
def answer (counted : List Nat) (retry : RecoveryAction) : RecoveryAction :=
  if maxFailuresPerWindow ≤ counted.length then .escalate else retry

theorem answer_of_full {counted : List Nat} {retry : RecoveryAction} {full : Bool}
    (h : full = decide (maxFailuresPerWindow ≤ counted.length)) :
    answer counted retry = if full = true then .escalate else retry := by
  rw [h, answer]
  simp only [decide_eq_true_eq]

theorem reaped_moves (hbudget : Budgeted h w) {event : EventGeneration}
    (hkept : (watched h).lost = false) (hok : o.isOk = true)
    (hmove : Moves w.model (.childReaped event now) o m') :
    ∃ failedAt, (watched h).symptom = some failedAt ∧
      o = .ok (.action (answer (counting (watched h).failures failedAt) .replaceChild)) := by
  have hcounted {full : Bool} (hcounts : CountsChild (watched h) (.childReaped event now) full)
      (ho : o = .ok (.action (if full = true then .escalate else .replaceChild))) :
      ∃ failedAt, (watched h).symptom = some failedAt ∧
        o = .ok (.action (answer (counting (watched h).failures failedAt) .replaceChild)) := by
    obtain ⟨_, _, failedAt, -, -, hsymptom, hfull⟩ := hcounts
    exact ⟨failedAt, hsymptom, answer_of_full hfull ▸ ho⟩
  cases hmove with
  | refused | failed | incomplete => cases hok
  | retire hother | closed hother | reservedNothing hother => cases hother
  | reapedAfterLoss _ hreap _ hclean =>
      have hlost := hbudget.capture.lost (hbudget.sound.lifecycle.ofRetiring (.inr hreap))
      have hpaired := hbudget.capture.paired
      rw [hclean, ← hlost, hkept] at hpaired
      cases hpaired
  | replaced htime hreap _ hclean hadd | escalated htime hreap _ hclean hadd =>
      exact hcounted (countsChild hbudget htime hreap hclean hadd) rfl

theorem reconnect_moves (hbudget : Budgeted h w)
    (hok : o.isOk = true) (hmove : Moves w.model (.serialReconnectFailed now) o m') :
    o = .ok (.action (answer (counting (watched h).reconnects now)
      (.retrySerialAt (now + serialRetryBackoffMillis)))) := by
  cases hmove with
  | refused | failed | reconnectFailed => cases hok
  | retire hother | closed hother | reservedNothing hother => cases hother
  | retrying htime hstate hadd | serialExhausted htime hstate hadd =>
      rw [answer_of_full (serialBudget_add hbudget.serial hstate htime hadd).2.2]
      rfl

/-! ## What is accepted -/

theorem lift_add {window window' : RestartWindow} {full : Bool}
    (hadd : window.add now = .ok (full, window')) (m : ConsoleModel) :
    (Prog.lift (window.add now) : Operation _) m = (.ok (full, window'), m, []) := by
  rw [hadd]
  rfl

theorem childReaped_isOk (hm : m.Regular) {event : EventGeneration}
    (h : m.Reapable event now) : (childReaped event now m).1.isOk = true := by
  obtain ⟨htime, hreap, hterminated, hevent, child, hchild, hclosed⟩ := h
  obtain ⟨full, window, hadd⟩ := hm.countsFailure htime
  have hchild' : (m.atTime now).child = some child := hchild
  have hlive : ¬child.anyPeerLive = true := by simp [hclosed]
  rw [childReaped_run htime hreap hterminated hevent, completeRetirement, Prog.get_bind_run, hchild',
    Prog.okOr_some]
  show Prog.wp (if child.anyPeerLive = true then _ else _) (fun o _ _ => o.isOk = true) _
  rw [if_neg hlive]
  by_cases hcleanup : m.serialCleanup = true
  · rw [if_neg (by simp [atTime, hcleanup])]
    refine (Prog.wp_modify_bind _ _ _ _).mpr ((Prog.wp_modify_bind _ _ _ _).mpr ?_)
    refine (Prog.wp_get_bind _ _ _).mpr ((Prog.wp_modify_bind _ _ _ _).mpr ?_)
    refine (Prog.wp_bind_ok (lift_add hadd _) _ _).mpr ?_
    cases full <;> rfl
  · rw [if_pos (by simp [atTime, hcleanup])]
    rfl

theorem serialReconnectFailed_isOk (hm : m.Regular) (htime : m.Timely now)
    (hstate : m.state = .reconnecting)
    (hroom : ∀ window, m.serialWindow.add now = .ok (false, window) →
      now + serialRetryBackoffMillis < 2 ^ 64) : (serialReconnectFailed now m).1.isOk = true := by
  obtain ⟨full, window, hadd⟩ := hm.countsReconnect htime
  have hstate' : (m.atTime now).state = .reconnecting := hstate
  rw [serialReconnectFailed, Prog.bind_run_ok (time_run_ok htime), Prog.get_bind_run, hstate']
  refine (Prog.wp_rejectIf_bind _ _ _ (fun o _ _ => o.isOk = true) _).mpr ⟨by simp, fun _ => ?_⟩
  refine (Prog.wp_modify_bind _ _ _ _).mpr ?_
  refine (Prog.wp_bind_ok (lift_add hadd _) _ _).mpr ((Prog.wp_modify_bind _ _ _ _).mpr ?_)
  cases full with
  | true => rfl
  | false =>
      rw [if_neg Bool.false_ne_true, checkedAdd, if_pos (hroom window hadd)]
      rfl

theorem free_moves (hbudget : Budgeted h w) {op : Op}
    (hfree : op.transaction = none) : Moves w.model op (exec op w).1 (exec op w).2.1.model := by
  rcases exec_moves hbudget.sound op with ⟨hsome, -⟩ | ⟨-, hmove⟩
  · rw [hfree] at hsome
    cases hsome
  · exact hmove

/-- A call that is made on no transaction is accepted when its operation is. -/
theorem exec_isOk {α : Type} {op : Op} {reply : α → Reply} {p : Operation α}
    (hfree : op.transaction = none) (hp : perform op = reply <$> p)
    (hok : (p w.model).1.isOk = true) : (exec op w).1.isOk = true := by
  rw [exec, if_pos (by simp [hfree]), hp]
  refine (Prog.wp_map reply p (fun o _ _ => o.isOk = true) w.model).mpr ?_
  show ((p w.model).1.map reply).isOk = true
  rwa [isOk_map]

theorem reapable_moves {event : EventGeneration} (hok : o.isOk = true)
    (hmove : Moves m (.childReaped event now) o m') : m.Reapable event now := by
  cases hmove with
  | retire hother | closed hother | reservedNothing hother => cases hother
  | refused | failed | incomplete => cases hok
  | reapedAfterLoss _ _ _ _ hreapable | replaced _ _ _ _ _ hreapable
  | escalated _ _ _ _ _ hreapable => exact hreapable

theorem reap_accepted (hbudget : Budgeted h w) (event : EventGeneration)
    (now : Nat) : (exec (.childReaped event now) w).1.isOk = true ↔ w.model.Reapable event now := by
  exact ⟨fun hok => reapable_moves hok (free_moves hbudget rfl),
    fun h => exec_isOk rfl rfl (childReaped_isOk hbudget.sound.regular h)⟩

/-- A failed reconnect can be counted, and retried unless it is the last. -/
structure ConsoleModel.Retriable (m : ConsoleModel) (reconnects : List Nat) (now : Nat) : Prop where
  timely : m.Timely now
  state : m.state = .reconnecting
  room : (counting reconnects now).length < maxFailuresPerWindow →
    now + serialRetryBackoffMillis < 2 ^ 64

theorem retriable_moves (h : m.serialBudget W) (hok : o.isOk = true)
    (hmove : Moves m (.serialReconnectFailed now) o m') : m.Retriable W.reconnects now := by
  cases hmove with
  | retire hother | closed hother | reservedNothing hother => cases hother
  | refused | failed | reconnectFailed => cases hok
  | retrying htime hstate _ hroom => exact ⟨htime, hstate, fun _ => hroom⟩
  | serialExhausted htime hstate hadd =>
      have hreached := of_decide_eq_true (serialBudget_add h hstate htime hadd).2.2.symm
      exact ⟨htime, hstate, fun hbelow => absurd hreached (Nat.not_le.mpr hbelow)⟩

theorem reconnect_accepted (hbudget : Budgeted h w) (now : Nat) :
    (exec (.serialReconnectFailed now) w).1.isOk = true ↔
      w.model.Retriable (watched h).reconnects now := by
  constructor
  · exact fun hok => retriable_moves hbudget.serial hok (free_moves hbudget rfl)
  · rintro ⟨htime, hstate, hroom⟩
    refine exec_isOk rfl rfl (serialReconnectFailed_isOk hbudget.sound.regular htime hstate ?_)
    intro window hadd
    have hfull := (serialBudget_add hbudget.serial hstate htime hadd).2.2
    exact hroom (Nat.not_le.mp (of_decide_eq_false hfull.symm))

/-! ## Exhaustion -/

theorem exhausted_moves (hmove : Moves m op o m') :
    (m.childExhausted = true → m'.childExhausted = true) ∧
      (m.serialExhausted = true → m'.serialExhausted = true) := by
  cases hmove with
  | escalated => exact ⟨fun _ => rfl, id⟩
  | serialExhausted => exact ⟨id, fun _ => rfl⟩
  | _ => exact ⟨id, id⟩

/-- A call that begins or finishes a connection. -/
def Op.connects : Op → Bool
  | .beginConnect _ => true
  | .attachConnected _ _ => true
  | _ => false

theorem not_connects_of_transaction
    (hsome : op.transaction.isSome = true) : op.connects = false := by
  cases op
  case beginConnect => cases hsome
  case attachConnected => cases hsome
  all_goals rfl

theorem noLaunch_moves {childLaunch : UInt64} (hexhausted : m.childExhausted = true)
    (hmove : Moves m (.beginChildLaunch childLaunch) o m') : o.isOk = false := by
  cases hmove with
  | launching _ hopen => exact absurd (hopen.symm.trans hexhausted) Bool.false_ne_true
  | retire hother | closed hother | reservedNothing hother => cases hother
  | _ => rfl

theorem noConnect_moves (h : m.serialBudget W) (hexhausted : m.serialExhausted = true)
    (hop : op.connects = true) (hmove : Moves m op o m') : o.isOk = false := by
  have hidle := (h.idle hexhausted).1
  cases hmove with
  | refused | failed => rfl
  | connecting hstate | attached _ hstate =>
      rw [hstate] at hidle
      exact absurd hidle (by decide)
  | retire hretires => cases hretires <;> cases hop
  | closed hcloses => cases hcloses <;> cases hop
  | reservedNothing hreserves => cases hreserves <;> cases hop
  | _ => cases hop

theorem budgeted_later (hbudget : Budgeted h w) (later : List Op) {P : ConsoleModel → Prop}
    (hP : ∀ {m m' : ConsoleModel} {op : Op} {o : Outcome ModelError Reply}, P m → Moves m op o m' → P m')
    (hw : P w.model) : ∀ call ∈ (replay exec later w).1,
      (∃ h', Budgeted h' call.before) ∧ P call.before.model ∧ call = callOf exec call.op call.before := by
  intro call hcall
  have hkept := replay_mem (I := fun w => (∃ h', Budgeted h' w) ∧ P w.model) (fun op w hw => ?_) later
    ⟨⟨h, hbudget⟩, hw⟩ hcall
  · exact ⟨hkept.1.1, hkept.1.2, hkept.2⟩
  · obtain ⟨⟨h', hbudget'⟩, hw⟩ := hw
    refine ⟨⟨_, budgeted_exec hbudget' op⟩, ?_⟩
    rcases exec_moves hbudget'.sound op with ⟨-, hnot⟩ | ⟨-, hmove⟩
    · rw [hnot]
      exact hw
    · exact hP hw hmove

/-- A reap is accepted when nothing is left to wait for, and answered by a replacement when fewer
than four failures count and by escalation otherwise, unless its serial line was lost, and then it
does not count; only a stable run clears the failures; the same law holds of failed reconnects; and
what is exhausted is not begun again. -/
theorem run_budget (earlier : List Op) (op : Op) (later : List Op) :
    let h := (replay exec earlier World.new).1
    let w := (replay exec earlier World.new).2
    (∀ event now, op = .childReaped event now →
      ((exec op w).1.isOk = true ↔ w.model.Reapable event now) ∧
      ((exec op w).1.isOk = true → (watched h).lost = false → ∃ failedAt,
        (watched h).symptom = some failedAt ∧ (exec op w).1 =
          .ok (.action (answer (counting (watched h).failures failedAt) .replaceChild)))) ∧
    (∀ now, op = .serialReconnectFailed now →
      ((exec op w).1.isOk = true ↔ w.model.Retriable (watched h).reconnects now) ∧
      ((exec op w).1.isOk = true → (exec op w).1 =
        .ok (.action (answer (counting (watched h).reconnects now)
          (.retrySerialAt (now + serialRetryBackoffMillis)))))) ∧
    (((exec op w).1 = .ok (.action .replaceChild) → CountsChild (watched h) op false) ∧
    ((exec op w).1 = .ok (.action .escalate) →
      (CountsChild (watched h) op true ∧ ∀ call ∈ (replay exec later (exec op w).2.1).1,
        ∀ childLaunch, call.op = .beginChildLaunch childLaunch → call.outcome.isOk = false) ∨
      (CountsReconnect (watched h) op true ∧ ∀ call ∈ (replay exec later (exec op w).2.1).1,
        call.op.connects = true → call.outcome.isOk = false)) ∧
    (∀ event now action, op = .childReaped event now → (exec op w).1 = .ok (.action action) →
      (watched h).lost = true → action = .none)) ∧
    (∀ now time, op = .serialReconnectFailed now →
      (exec op w).1 = .ok (.action (.retrySerialAt time)) → CountsReconnect (watched h) op false) ∧
    ∀ now token, op = .observeReady now token → (exec op w).1 = .ok (.stable true) →
      ∃ since, since + stableRunMillis ≤ now ∧ Uninterrupted h token since := by
  have hbudget := budgeted_run earlier
  generalize (replay exec earlier World.new).1 = h at hbudget
  generalize (replay exec earlier World.new).2 = w at hbudget
  have hmove {reply : Reply} (hne : reply ≠ .notHeld) (ho : (exec op w).1 = .ok reply) :
      Moves w.model op (.ok reply) (exec op w).2.1.model := by
    rcases exec_moves hbudget.sound op with ⟨-, hnot⟩ | ⟨-, hmove⟩
    · rw [hnot] at ho
      exact absurd (Outcome.ok.inj ho).symm hne
    · exact ho ▸ hmove
  have hlater := budgeted_exec hbudget op
  refine ⟨?_, ?_, ⟨fun ho => ?_, fun ho => ?_, ?_⟩, ?_, ?_⟩
  · rintro event now rfl
    exact ⟨reap_accepted hbudget event now, fun hok hkept =>
      reaped_moves hbudget hkept hok (free_moves hbudget rfl)⟩
  · rintro now rfl
    exact ⟨reconnect_accepted hbudget now, fun hok =>
      reconnect_moves hbudget hok (free_moves hbudget rfl)⟩
  · exact replace_moves hbudget (hmove (by rintro ⟨⟩) ho)
  · rcases escalate_moves hbudget (hmove (by rintro ⟨⟩) ho) with
      ⟨hcounts, hexhausted⟩ | ⟨hcounts, hexhausted⟩
    · refine .inl ⟨hcounts, fun call hcall childLaunch hop => ?_⟩
      obtain ⟨⟨_, hbefore⟩, hkept, heq⟩ := budgeted_later (P := fun m => m.childExhausted = true)
        hlater later (fun hm hmove => (exhausted_moves hmove).1 hm) hexhausted call hcall
      rw [heq, hop]
      exact noLaunch_moves hkept (free_moves hbefore rfl)
    · refine .inr ⟨hcounts, fun call hcall hop => ?_⟩
      obtain ⟨⟨_, hbefore⟩, hkept, heq⟩ := budgeted_later (P := fun m => m.serialExhausted = true)
        hlater later (fun hm hmove => (exhausted_moves hmove).2 hm) hexhausted call hcall
      rw [heq]
      rcases exec_moves hbefore.sound call.op with ⟨hsome, -⟩ | ⟨-, hmove⟩
      · rw [not_connects_of_transaction hsome] at hop
        cases hop
      · exact noConnect_moves hbefore.serial hkept hop hmove
  · rintro event now action rfl ho hlost
    exact lost_moves hbudget hlost (hmove (by rintro ⟨⟩) ho)
  · rintro now time rfl ho
    exact retry_moves hbudget (hmove (by rintro ⟨⟩) ho)
  · rintro now token rfl ho
    exact cleared_moves hbudget (hmove (by rintro ⟨⟩) ho)

end Wyrmroot.Consoled
