import Wyrmroot.Consoled.Lifecycle

/-!
# Queues, reservations and times

The bounds behind the unchecked arithmetic of a model: the queues keep their
capacity, a pending reservation is the installed child's and no longer than its
queue, and whatever is subtracted from a time is not later than it.
-/

namespace Wyrmroot.Consoled

open Outcome ConsoleModel

/-! ## Staging -/

theorem InputNormalizer.len_stageAll (normalizer : InputNormalizer) (queue : BoundedQueue)
    (input : List UInt8) : (normalizer.stageAll queue input).2.len =
      queue.len + outputLen normalizer.suppressLfAfterCr input := by
  induction input generalizing normalizer queue with
  | nil => rfl
  | cons byte rest ih =>
      unfold stageAll outputLen
      split_ifs with hsuppressed hcr
      · exact ih _ _
      · rw [ih, BoundedQueue.len_push, decide_eq_true hcr]
        exact Nat.add_assoc _ _ _
      · rw [ih, BoundedQueue.len_push, decide_eq_false hcr]
        exact Nat.add_assoc _ _ _

theorem OutputNormalizer.len_stageAll (normalizer : OutputNormalizer) (queue : BoundedQueue)
    (input : List UInt8) : (normalizer.stageAll queue input).2.len =
      queue.len + outputLen normalizer.previousWasCr input := by
  induction input generalizing normalizer queue with
  | nil => rfl
  | cons byte rest ih =>
      unfold stageAll outputLen
      rw [ih]
      split_ifs with hbare
      · simp only [BoundedQueue.len_push, List.length_singleton]
        omega
      · simp only [BoundedQueue.len_push, List.length_singleton]
        omega

theorem staged_eq_ok {queue : BoundedQueue} {bytes : List UInt8} {length : Nat} {α : Type} {a b : α}
    (h : (do
      rejectIf (fairSourceBytesPerTurn < bytes.length) ModelError.tooLarge
      rejectIf ((← queue.available) < length) .backpressure
      pure a : ModelCheck α) = .ok b) : a = b ∧ queue.len + length ≤ stagingCapacity := by
  obtain ⟨_, _, hrest⟩ := bind_eq_ok.mp h
  obtain ⟨room, hroom, hrest⟩ := bind_eq_ok.mp hrest
  obtain ⟨_, hfits, hok⟩ := bind_eq_ok.mp hrest
  unfold BoundedQueue.available at hroom
  split_ifs at hroom with hlen
  obtain rfl := Outcome.ok.inj hroom
  have hlength := of_decide_eq_false (rejectIf_eq_ok.mp hfits)
  exact ⟨Outcome.ok.inj hok, by omega⟩

theorem InputNormalizer.stage_eq_ok {self normalizer : InputNormalizer} {bytes : List UInt8}
    {queue queue' : BoundedQueue} (h : self.stage bytes queue = .ok (normalizer, queue')) :
    self.stageAll queue bytes = (normalizer, queue') ∧
      queue.len + outputLen self.suppressLfAfterCr bytes ≤ stagingCapacity :=
  staged_eq_ok h

theorem OutputNormalizer.stage_eq_ok {self normalizer : OutputNormalizer} {bytes : List UInt8}
    {queue queue' : BoundedQueue} (h : self.stage bytes queue = .ok (normalizer, queue')) :
    self.stageAll queue bytes = (normalizer, queue') ∧
      queue.len + outputLen self.previousWasCr bytes ≤ stagingCapacity :=
  staged_eq_ok h

theorem InputNormalizer.stage_len {self normalizer : InputNormalizer} {bytes : List UInt8}
    {queue queue' : BoundedQueue} (h : self.stage bytes queue = .ok (normalizer, queue')) :
    queue'.Fits ∧ queue.len ≤ queue'.len := by
  obtain ⟨hstage, hroom⟩ := stage_eq_ok h
  have hlen := len_stageAll self queue bytes
  rw [hstage] at hlen
  exact ⟨hlen.trans_le hroom, hlen ▸ Nat.le_add_right _ _⟩

theorem OutputNormalizer.stage_len {self normalizer : OutputNormalizer} {bytes : List UInt8}
    {queue queue' : BoundedQueue} (h : self.stage bytes queue = .ok (normalizer, queue')) :
    queue'.Fits ∧ queue.len ≤ queue'.len := by
  obtain ⟨hstage, hroom⟩ := stage_eq_ok h
  have hlen := len_stageAll self queue bytes
  rw [hstage] at hlen
  exact ⟨hlen.trans_le hroom, hlen ▸ Nat.le_add_right _ _⟩

/-! ## Reservations -/

structure Reserving (state : ConnectionState) (event : Option EventGeneration)
    (input : BoundedQueue) (queue : OutputSource → BoundedQueue) (stdin tx : Option Reservation) :
    Prop where
  ofInput : input.Fits
  ofQueue : ∀ source, (queue source).Fits
  ofStdin : ∀ r ∈ stdin, event = some r.event ∧ r.source = none ∧ r.length ≤ input.len
  ofTx : ∀ r ∈ tx, event = some r.event ∧
    ∃ source, r.source = some source ∧ r.length ≤ (queue source).len
  ofRetiring : state = .retiringChild ∨ state = .awaitingReap → stdin = none ∧ tx = none

abbrev ConsoleModel.reserving (m : ConsoleModel) : Prop :=
  Reserving m.state m.event m.input m.queueFor m.pendingStdin m.pendingTx

namespace Reserving

variable {state state' : ConnectionState} {event event' : Option EventGeneration}
  {input input' : BoundedQueue} {queue queue' : OutputSource → BoundedQueue}
  {stdin tx : Option Reservation}

theorem none (hinput : input.Fits) (hqueue : ∀ source, (queue source).Fits) :
    Reserving state event input queue none none where
  ofInput := hinput
  ofQueue := hqueue
  ofStdin := by rintro _ ⟨⟩
  ofTx := by rintro _ ⟨⟩
  ofRetiring _ := ⟨rfl, rfl⟩

theorem childless (h : Reserving state event input queue stdin tx) (hevent : event = .none) :
    stdin = .none ∧ tx = .none := by
  subst hevent
  constructor
  · refine Option.eq_none_iff_forall_ne_some.mpr fun r hr => ?_
    exact absurd (h.ofStdin r hr).1 (Option.some_ne_none _).symm
  · refine Option.eq_none_iff_forall_ne_some.mpr fun r hr => ?_
    exact absurd (h.ofTx r hr).1 (Option.some_ne_none _).symm

theorem at_state (h : Reserving state event input queue stdin tx)
    (hstate : state' ≠ .retiringChild ∧ state' ≠ .awaitingReap) :
    Reserving state' event input queue stdin tx :=
  { h with ofRetiring := fun hretiring => absurd hretiring (not_or.mpr hstate) }

theorem grow (h : Reserving state event input queue stdin tx) (hinput : input'.Fits)
    (hqueue : ∀ source, (queue' source).Fits) (hlen : input.len ≤ input'.len)
    (hlens : ∀ source, (queue source).len ≤ (queue' source).len) :
    Reserving state event input' queue' stdin tx where
  ofInput := hinput
  ofQueue := hqueue
  ofStdin r hr := ⟨(h.ofStdin r hr).1, (h.ofStdin r hr).2.1, (h.ofStdin r hr).2.2.trans hlen⟩
  ofTx r hr := by
    obtain ⟨hevent, source, hsource, hle⟩ := h.ofTx r hr
    exact ⟨hevent, source, hsource, hle.trans (hlens source)⟩
  ofRetiring := h.ofRetiring

end Reserving

variable {m m' : ConsoleModel} {op : Op} {o : Outcome ModelError Reply} {source : OutputSource}

theorem Staged.grows {bytes : List UInt8} (h : Staged m source bytes m')
    (hm : m.reserving) : m'.reserving := by
  obtain ⟨normalizer, queue, hstage, rfl⟩ := h
  obtain ⟨hfits, hlen⟩ := OutputNormalizer.stage_len hstage
  cases source with
  | stdout =>
      refine hm.grow hm.ofInput ?_ (Nat.le_refl _) ?_
      · rintro (_ | _)
        · exact hfits
        · exact hm.ofQueue .stderr
      · rintro (_ | _)
        · exact hlen
        · exact Nat.le_refl _
  | stderr =>
      refine hm.grow hm.ofInput ?_ (Nat.le_refl _) ?_
      · rintro (_ | _)
        · exact hm.ofQueue .stdout
        · exact hfits
      · rintro (_ | _)
        · exact Nat.le_refl _
        · exact hlen

theorem Polls.grows (h : Polls m source m') (hm : m.reserving) :
    m'.reserving := by
  rcases h with rfl | ⟨_, hstaged⟩
  · exact hm
  · exact hstaged.grows hm

theorem cleared_reserving {state : ConnectionState} {event : Option EventGeneration} :
    Reserving state event m.clearVolatile.input m.clearVolatile.queueFor none none := by
  refine .none BoundedQueue.fits_clear ?_
  rintro (_ | _)
  · exact BoundedQueue.fits_clear
  · exact BoundedQueue.fits_clear

theorem reserving_new : ConsoleModel.new.reserving := by
  refine .none BoundedQueue.fits_new ?_
  rintro (_ | _)
  · exact BoundedQueue.fits_new
  · exact BoundedQueue.fits_new

theorem length_copyPrefix_le (queue : BoundedQueue) (room maximum : Nat) :
    (queue.copyPrefix room maximum).length ≤ queue.len := by
  rw [BoundedQueue.copyPrefix_eq, List.length_take, BoundedQueue.length_toList]
  exact Nat.min_le_right _ _

theorem setQueue_queueFor (m : ConsoleModel) (queue : BoundedQueue)
    (source source' : OutputSource) :
    (m.setQueue queue source).queueFor source' = if source' = source then queue else m.queueFor source' := by
  cases source <;> cases source' <;> rfl

theorem committedTx_reserving (h : m.reserving) {queue : BoundedQueue}
    {count : Nat} (hconsume : (m.queueFor source).consume count = .ok queue) :
    Reserving m.state m.event m.input (m.setQueue queue source).queueFor m.pendingStdin none := by
  have hfits : queue.Fits := by
    unfold BoundedQueue.consume at hconsume
    split_ifs at hconsume
    obtain rfl := Outcome.ok.inj hconsume
    exact Nat.le_trans (Nat.sub_le _ _) (h.ofQueue source)
  refine ⟨h.ofInput, fun source' => ?_, h.ofStdin, by rintro _ ⟨⟩, fun hretiring => ?_⟩
  · rw [setQueue_queueFor]
    split_ifs
    · exact hfits
    · exact h.ofQueue source'
  · exact ⟨(h.ofRetiring hretiring).1, rfl⟩

theorem reserving_moves (h : m.reserving) (hmove : Moves m op o m') : m'.reserving := by
  have hopen : ConnectionState.failClosed ≠ .retiringChild ∧
      ConnectionState.failClosed ≠ .awaitingReap := by decide
  cases hmove with
  | failed | launchFailed | abortFailed | reconnectFailed => exact h.at_state hopen
  | serialExhausted => exact h.at_state ⟨by rintro ⟨⟩, by rintro ⟨⟩⟩
  | attached | abortedAfterLoss | retire | terminal | lostChild | lostIdle | replaced | escalated
  | cleaned => exact cleared_reserving
  | launched _ _ _ hchild =>
      obtain ⟨hstdin, htx⟩ := h.childless (by rw [ConsoleModel.event, hchild]; rfl)
      show Reserving _ _ _ _ m.pendingStdin m.pendingTx
      rw [hstdin, htx]
      exact .none h.ofInput h.ofQueue
  | stagedInput _ hstage =>
      obtain ⟨hfits, hlen⟩ := InputNormalizer.stage_len hstage
      exact h.grow hfits h.ofQueue hlen fun _ => Nat.le_refl _
  | stagedOutput _ hstaged => exact hstaged.grows h
  | polled _ _ hfirst hsecond => exact Polls.grows hsecond (Polls.grows hfirst h)
  | closed _ _ hstate =>
      obtain ⟨hstdin, htx⟩ := h.ofRetiring hstate
      show Reserving _ _ _ _ m.pendingStdin m.pendingTx
      rw [hstdin, htx]
      exact .none h.ofInput h.ofQueue
  | lostIdleFailed | lostBusy => exact .none h.ofInput h.ofQueue
  | terminated _ hretiring =>
      exact { h with ofRetiring := fun _ => h.ofRetiring (.inl hretiring) }
  | cleanupFailed _ hreap =>
      obtain ⟨hstdin, htx⟩ := h.ofRetiring (.inr hreap)
      show Reserving _ _ _ _ m.pendingStdin m.pendingTx
      rw [hstdin, htx]
      exact .none h.ofInput h.ofQueue
  | reservedStdin hactive hevent =>
      refine { h with ofStdin := ?_, ofRetiring := ?_ }
      · rintro _ ⟨⟩
        exact ⟨hevent, rfl, length_copyPrefix_le _ _ _⟩
      · rintro hretiring
        exact absurd hretiring (by rw [hactive]; rintro (⟨⟨⟩⟩ | ⟨⟨⟩⟩))
  | committedStdin _ _ _ hconsume =>
      unfold BoundedQueue.consume at hconsume
      split_ifs at hconsume
      obtain rfl := Outcome.ok.inj hconsume
      refine { h with ofInput := Nat.le_trans (Nat.sub_le _ _) h.ofInput, ofStdin := ?_, ofRetiring := ?_ }
      · rintro _ ⟨⟩
      · exact fun hretiring => ⟨rfl, (h.ofRetiring hretiring).2⟩
  | releasedStdin =>
      refine { h with ofStdin := ?_, ofRetiring := fun hretiring => ⟨rfl, (h.ofRetiring hretiring).2⟩ }
      rintro _ ⟨⟩
  | reservedTx hactive hevent =>
      refine { h with ofTx := ?_, ofRetiring := ?_ }
      · rintro _ ⟨⟩
        exact ⟨hevent, _, rfl, length_copyPrefix_le _ _ _⟩
      · rintro hretiring
        exact absurd hretiring (by rw [hactive]; rintro (⟨⟨⟩⟩ | ⟨⟨⟩⟩))
  | committedTx _ _ _ _ hconsume hset =>
      have hcommitted := committedTx_reserving h hconsume
      rw [hset] at hcommitted
      exact hcommitted
  | releasedTx =>
      refine { h with ofTx := ?_, ofRetiring := fun hretiring => ⟨(h.ofRetiring hretiring).1, rfl⟩ }
      rintro _ ⟨⟩
  | _ => exact h

/-! ## Times -/

variable {now : Nat}

theorem RestartWindow.recent_eq_ok : ∀ {times kept : List Nat},
    RestartWindow.recent now times = .ok kept →
      (∀ t ∈ times, t ≤ now) ∧ kept = times.filter fun t => now - t < restartWindowMillis
  | [], _, h => ⟨List.forall_mem_nil _, (Outcome.ok.inj h).symm⟩
  | time :: rest, kept, h => by
      have hturn := h
      rw [RestartWindow.recent] at hturn
      split_ifs at hturn with htime
      · obtain ⟨_, -, hrest⟩ := bind_eq_ok.mp hturn
        obtain ⟨kept', hkept, -⟩ := bind_eq_ok.mp hrest
        have hall : ∀ t ∈ time :: rest, t ≤ now :=
          List.forall_mem_cons.mpr ⟨htime, (recent_eq_ok hkept).1⟩
        exact ⟨hall, Outcome.ok.inj (h.symm.trans (recent_ok hall))⟩
      · cases hturn

/-- The times behind a failure. -/
def RestartWindow.counted (window : RestartWindow) (now : Nat) : List Nat :=
  if (window.kept now).length < maxFailuresPerWindow then window.kept now ++ [now]
  else window.kept now

theorem RestartWindow.add_eq_ok {window window' : RestartWindow} {full : Bool}
    (h : window.add now = .ok (full, window')) : (∀ t ∈ window.times, t ≤ now) ∧
      window' = ⟨window.counted now⟩ ∧ full = decide (maxFailuresPerWindow ≤ window'.failures) := by
  obtain ⟨kept, hkept, hok⟩ := bind_eq_ok.mp h
  obtain ⟨hall, rfl⟩ := recent_eq_ok hkept
  obtain ⟨rfl, rfl⟩ := Prod.mk.inj (Outcome.ok.inj hok)
  exact ⟨hall, rfl, rfl⟩

theorem RestartWindow.mem_counted {window : RestartWindow} {t : Nat}
    (h : t ∈ window.counted now) : t ∈ window.times ∨ t = now := by
  unfold counted kept at h
  split_ifs at h
  · rcases List.mem_append.mp h with h | h
    · exact .inl (List.mem_filter.mp h).1
    · exact .inr (List.mem_singleton.mp h)
  · exact .inl (List.mem_filter.mp h).1

theorem RestartWindow.length_counted_le {window : RestartWindow}
    (h : window.failures ≤ maxFailuresPerWindow) (now : Nat) :
    (window.counted now).length ≤ maxFailuresPerWindow := by
  unfold counted
  split_ifs with hroom
  · rw [List.length_append]
    exact hroom
  · exact (List.length_filter_le _ _).trans h

/-- No later than the last time. -/
def Past (lastNow : Option Nat) (t : Nat) : Prop := ∃ now ∈ lastNow, t ≤ now

structure Timing (lastNow : Option Nat) (childWindow serialWindow : RestartWindow)
    (failureAt : Option Nat) (stable : Option (ReadyToken × Nat)) : Prop where
  ofChildWindow : ∀ t ∈ childWindow.times, Past lastNow t
  ofFailure : ∀ t ∈ childWindow.times, ∀ failedAt ∈ failureAt, t ≤ failedAt
  ofFailureAt : ∀ failedAt ∈ failureAt, Past lastNow failedAt
  ofSerialWindow : ∀ t ∈ serialWindow.times, Past lastNow t
  ofStable : ∀ settled ∈ stable, Past lastNow settled.2
  ofChildFailures : childWindow.failures ≤ maxFailuresPerWindow
  ofSerialFailures : serialWindow.failures ≤ maxFailuresPerWindow

abbrev ConsoleModel.timing (m : ConsoleModel) : Prop :=
  Timing m.lastNow m.childWindow m.serialWindow m.childFailureAt m.stable

theorem ConsoleModel.Clock.past {t : Option Nat} {time : Nat} (h : m.Clock t)
    (hpast : Past m.lastNow time) : Past t time := by
  obtain ⟨last, hlast, hle⟩ := hpast
  rcases h with rfl | ⟨now, rfl, htimely⟩
  · exact ⟨last, hlast, hle⟩
  · exact ⟨now, rfl, hle.trans (htimely last hlast)⟩

theorem ConsoleModel.Timely.clock (h : m.Timely now) : m.Clock (some now) :=
  .inr ⟨now, rfl, h⟩

namespace Timing

variable {lastNow failureAt : Option Nat} {childWindow serialWindow : RestartWindow}
  {stable : Option (ReadyToken × Nat)}

theorem unsettled (h : Timing lastNow childWindow serialWindow failureAt stable) :
    Timing lastNow childWindow serialWindow failureAt none :=
  { h with ofStable := by rintro _ ⟨⟩ }

theorem settled (h : Timing (some now) childWindow serialWindow failureAt stable)
    (token : ReadyToken) : Timing (some now) childWindow serialWindow failureAt
    (some (token, now)) :=
  { h with ofStable := by rintro _ ⟨⟩; exact ⟨now, rfl, Nat.le_refl _⟩ }

theorem forgotten (h : Timing lastNow childWindow serialWindow failureAt stable) :
    Timing lastNow childWindow serialWindow none stable :=
  { h with ofFailure := by rintro _ _ _ ⟨⟩, ofFailureAt := by rintro _ ⟨⟩ }

theorem captured (h : Timing (some now) childWindow serialWindow failureAt stable) :
    Timing (some now) childWindow serialWindow (some now) stable where
  ofChildWindow := h.ofChildWindow
  ofFailure t ht := by
    rintro _ ⟨⟩
    obtain ⟨_, ⟨⟩, hle⟩ := h.ofChildWindow t ht
    exact hle
  ofFailureAt := by rintro _ ⟨⟩; exact ⟨now, rfl, Nat.le_refl _⟩
  ofSerialWindow := h.ofSerialWindow
  ofStable := h.ofStable
  ofChildFailures := h.ofChildFailures
  ofSerialFailures := h.ofSerialFailures

theorem cleared (h : Timing lastNow childWindow serialWindow failureAt stable) :
    Timing lastNow .new serialWindow failureAt stable :=
  { h with
    ofChildWindow := List.forall_mem_nil _
    ofFailure := List.forall_mem_nil _
    ofChildFailures := Nat.zero_le _ }

theorem connected (h : Timing lastNow childWindow serialWindow failureAt stable) :
    Timing lastNow childWindow .new failureAt stable :=
  { h with ofSerialWindow := List.forall_mem_nil _, ofSerialFailures := Nat.zero_le _ }

theorem counted {full : Bool} {window : RestartWindow}
    (h : Timing (some now) childWindow serialWindow failureAt stable)
    (hadd : childWindow.add (failureAt.getD now) = .ok (full, window)) :
    Timing (some now) window serialWindow none stable := by
  obtain ⟨-, rfl, -⟩ := RestartWindow.add_eq_ok hadd
  refine { h.forgotten with ofChildWindow := fun t ht => ?_, ofFailure := by rintro _ _ _ ⟨⟩
                            ofChildFailures := RestartWindow.length_counted_le h.ofChildFailures _ }
  rcases RestartWindow.mem_counted ht with ht | rfl
  · exact h.ofChildWindow t ht
  · rcases Option.eq_none_or_eq_some failureAt with rfl | ⟨failedAt, rfl⟩
    · exact ⟨now, rfl, Nat.le_refl _⟩
    · exact h.ofFailureAt failedAt rfl

theorem reconnected {full : Bool} {window : RestartWindow}
    (h : Timing (some now) childWindow serialWindow failureAt stable)
    (hadd : serialWindow.add now = .ok (full, window)) :
    Timing (some now) childWindow window failureAt stable := by
  obtain ⟨-, rfl, -⟩ := RestartWindow.add_eq_ok hadd
  refine { h with ofSerialWindow := fun t ht => ?_
                  ofSerialFailures := RestartWindow.length_counted_le h.ofSerialFailures _ }
  rcases RestartWindow.mem_counted ht with ht | rfl
  · exact h.ofSerialWindow t ht
  · exact ⟨t, rfl, Nat.le_refl _⟩

end Timing

theorem timing_later {t : Option Nat} (h : m.timing) (hclock : m.Clock t) :
    Timing t m.childWindow m.serialWindow m.childFailureAt m.stable where
  ofChildWindow time ht := hclock.past (h.ofChildWindow time ht)
  ofFailure := h.ofFailure
  ofFailureAt time ht := hclock.past (h.ofFailureAt time ht)
  ofSerialWindow time ht := hclock.past (h.ofSerialWindow time ht)
  ofStable settled hs := hclock.past (h.ofStable settled hs)
  ofChildFailures := h.ofChildFailures
  ofSerialFailures := h.ofSerialFailures

theorem timing_new : ConsoleModel.new.timing where
  ofChildWindow := List.forall_mem_nil _
  ofFailure := List.forall_mem_nil _
  ofFailureAt := by rintro _ ⟨⟩
  ofSerialWindow := List.forall_mem_nil _
  ofStable := by rintro _ ⟨⟩
  ofChildFailures := Nat.zero_le _
  ofSerialFailures := Nat.zero_le _

theorem timing_moves (h : m.timing) (hmove : Moves m op o m') : m'.timing := by
  have hlater {now : Nat} (htime : m.Timely now) := timing_later h htime.clock
  cases hmove with
  | refused hclock =>
      have hkept := timing_later h hclock
      exact hkept
  | failed hclock => exact (timing_later h hclock).unsettled
  | launchFailed | launched | abortedAfterLoss | abortFailed => exact h.unsettled
  | attached htime => exact (hlater htime).connected.unsettled
  | retire _ htime =>
      show Timing _ _ _ (if (true && m.childFailureAt.isNone) = true then some _ else m.childFailureAt) _
      split_ifs
      · exact (hlater htime).unsettled.captured
      · exact (hlater htime).unsettled
  | terminal htime => exact (hlater htime).unsettled.captured
  | precursor htime | closed _ htime | terminated htime | incomplete htime | reapedAfterLoss htime
  | unstable htime => exact hlater htime
  | lostChild htime | lostIdle htime | lostIdleFailed htime | lostBusy htime =>
      exact (hlater htime).forgotten.unsettled
  | replaced htime _ _ _ hadd | escalated htime _ _ _ hadd =>
      exact ((hlater htime).counted hadd).unsettled
  | cleaned htime | cleanupFailed htime => exact (hlater htime).unsettled
  | retrying htime _ hadd | serialExhausted htime _ hadd => exact (hlater htime).reconnected hadd
  | reconnectFailed htime _ hadd => exact ((hlater htime).reconnected hadd).unsettled
  | readied htime =>
      show Timing _ _ _ _ (if _ then m.stable else _)
      split_ifs
      · exact hlater htime
      · exact (hlater htime).settled _
  | stable htime => exact (hlater htime).cleared.settled _
  | restabilized htime => exact (hlater htime).settled _
  | _ => exact h

end Wyrmroot.Consoled
