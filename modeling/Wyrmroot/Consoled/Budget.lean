import Wyrmroot.Consoled.Watching

/-!
# The restart budget of a console

The two windows of a model are the failures of the whole history with the old
ones dropped, and a window that is full belongs to a console that is exhausted.
So the law of a restart is a law about the history: a child is replaced when
fewer than four failures fall into the last minute, its own included, and
otherwise the console escalates.
-/

namespace Wyrmroot.Consoled

open Outcome ConsoleModel

variable {W : Watch} {m m' : ConsoleModel} {op : Op} {o : Outcome ModelError Reply}

/-- The failures that count against one at `now`, itself included. -/
def counting (failures : List Nat) (now : Nat) : List Nat :=
  recent restartWindowMillis now (failures ++ [now])

/-- A window that stands for a history and is not full. -/
structure Stands (window : RestartWindow) (failures : List Nat) : Prop where
  compacts : Compacts restartWindowMillis window.times failures
  room : window.failures < maxFailuresPerWindow

theorem Stands.new : Stands .new [] := ⟨.nil, by decide⟩

theorem Stands.add {window window' : RestartWindow} {failures : List Nat} {now : Nat} {full : Bool}
    (h : Stands window failures) (hlast : ∀ t ∈ failures, t ≤ now)
    (hadd : window.add now = .ok (full, window')) :
    Compacts restartWindowMillis window'.times (failures ++ [now]) ∧
      window'.failures = (counting failures now).length ∧
      full = decide (maxFailuresPerWindow ≤ (counting failures now).length) := by
  obtain ⟨-, rfl, hfull⟩ := RestartWindow.add_eq_ok hadd
  have hkept : (window.kept now).length < maxFailuresPerWindow :=
    Nat.lt_of_le_of_lt (List.length_filter_le _ _) h.room
  have htimes : window.counted now = recent restartWindowMillis now window.times ++ [now] :=
    if_pos hkept
  have hlength : (window.counted now).length = (counting failures now).length := by
    rw [htimes, counting, recent_snoc (by decide), h.compacts now hlast]
  refine ⟨htimes ▸ h.compacts.push hlast, hlength, ?_⟩
  rw [hfull, ← hlength]
  rfl

/-! ## The window of a child -/

structure ChildBudget (lastNow : Option Nat) (window : RestartWindow) (failureAt : Option Nat)
    (child : Option ChildSession) (launch : Option LaunchIdentity) (exhausted : Bool)
    (failures : List Nat) : Prop where
  compacts : Compacts restartWindowMillis window.times failures
  past : ∀ t ∈ failures, Past lastNow t
  before : ∀ t ∈ failures, ∀ failedAt ∈ failureAt, t ≤ failedAt
  room : exhausted = false → window.failures < maxFailuresPerWindow
  idle : exhausted = true → child = none ∧ launch = none

abbrev ConsoleModel.childBudget (m : ConsoleModel) (W : Watch) : Prop :=
  ChildBudget m.lastNow m.childWindow m.childFailureAt m.child m.pendingLaunch m.childExhausted
    W.failures

namespace ChildBudget

variable {lastNow failureAt : Option Nat} {window : RestartWindow} {child child' : Option ChildSession}
  {launch launch' : Option LaunchIdentity} {exhausted : Bool} {failures : List Nat} {now : Nat}

theorem forgotten (h : ChildBudget lastNow window failureAt child launch exhausted failures) :
    ChildBudget lastNow window none child launch exhausted failures :=
  { h with before := by rintro _ _ _ ⟨⟩ }

theorem captured (h : ChildBudget (some now) window failureAt child launch exhausted failures) :
    ChildBudget (some now) window (some now) child launch exhausted failures := by
  refine { h with before := ?_ }
  rintro t ht _ ⟨⟩
  obtain ⟨_, ⟨⟩, hle⟩ := h.past t ht
  exact hle

theorem fresh (h : ChildBudget lastNow window failureAt child launch exhausted failures) :
    ChildBudget lastNow .new failureAt child launch exhausted [] where
  compacts := .nil
  past := List.forall_mem_nil _
  before := List.forall_mem_nil _
  room _ := by decide
  idle := h.idle

theorem moved (h : ChildBudget lastNow window failureAt child launch exhausted failures)
    (hopen : exhausted = true → child' = none ∧ launch' = none) :
    ChildBudget lastNow window failureAt child' launch' exhausted failures :=
  { h with idle := hopen }

end ChildBudget

theorem childBudget_later {t : Option Nat} (h : m.childBudget W) (hclock : m.Clock t) :
    ChildBudget t m.childWindow m.childFailureAt m.child m.pendingLaunch m.childExhausted W.failures :=
  { h with past := fun time ht => hclock.past (h.past time ht) }

theorem not_exhausted (h : m.childBudget W) (hchild : m.child.isSome = true) :
    m.childExhausted = false := by
  refine Bool.eq_false_iff.mpr fun hexhausted => ?_
  rw [(h.idle hexhausted).1] at hchild
  cases hchild

theorem childBudget_add (h : m.childBudget W) (hcapture : m.capture W)
    (hchild : m.child.isSome = true) {now : Nat} (htime : m.Timely now) {full : Bool}
    {window : RestartWindow}
    (hadd : m.childWindow.add (m.childFailureAt.getD now) = .ok (full, window)) :
    Compacts restartWindowMillis window.times (W.failures ++ [W.symptom.getD now]) ∧
      window.failures = (counting W.failures (W.symptom.getD now)).length ∧
      full = decide (maxFailuresPerWindow ≤ (counting W.failures (W.symptom.getD now)).length) := by
  have hstands : Stands m.childWindow W.failures := ⟨h.compacts, h.room (not_exhausted h hchild)⟩
  have hlast : ∀ t ∈ W.failures, t ≤ m.childFailureAt.getD now := by
    intro t ht
    rcases Option.eq_none_or_eq_some m.childFailureAt with hnone | ⟨failedAt, hsome⟩
    · rw [hnone]
      obtain ⟨last, hlast, hle⟩ := h.past t ht
      exact hle.trans (htime last hlast)
    · rw [hsome]
      exact h.before t ht failedAt hsome
  rw [← hcapture.symptom]
  exact hstands.add hlast hadd

theorem counted_past (h : m.childBudget W) (hcapture : m.capture W) (htiming : m.timing) {now : Nat}
    (htime : m.Timely now) : ∀ t ∈ W.failures ++ [W.symptom.getD now], Past (some now) t := by
  intro t ht
  rcases List.mem_append.mp ht with ht | ht
  · exact htime.clock.past (h.past t ht)
  · rw [List.mem_singleton.mp ht, ← hcapture.symptom]
    rcases Option.eq_none_or_eq_some m.childFailureAt with hnone | ⟨failedAt, hsome⟩
    · rw [hnone]
      exact ⟨now, rfl, Nat.le_refl _⟩
    · rw [hsome]
      exact htime.clock.past (htiming.ofFailureAt failedAt hsome)

theorem childBudget_moves (h : m.childBudget W) (hcapture : m.capture W) (hlife : m.lifecycle)
    (htiming : m.timing) (hmove : Moves m op o m') : m'.childBudget (W.next op o) := by
  have hlater {now : Nat} (htime : m.Timely now) := childBudget_later h htime.clock
  have hopen {P : Prop} (hexhausted : m.childExhausted = false) : m.childExhausted = true → P :=
    fun htrue => absurd (hexhausted.symm.trans htrue) Bool.false_ne_true
  have hinstalled {P : Prop} (hchild : m.child.isSome = true) : m.childExhausted = true → P :=
    hopen (not_exhausted h hchild)
  cases hmove with
  | @refused op e t _ hclock | @failed op e t hclock =>
      have hkept := childBudget_later h hclock
      rw [Watch.next_err]
      exact hkept
  | launching _ hexhausted | launched _ hexhausted => exact h.moved (hopen hexhausted)
  | aborted | abortedAfterLoss | abortFailed => exact h.moved fun htrue => ⟨(h.idle htrue).1, rfl⟩
  | polled _ hquiets => cases hquiets <;> exact h
  | attached htime | precursor htime | terminated htime | incomplete htime | reapedAfterLoss htime
  | retrying htime | serialExhausted htime | reconnectFailed htime | readied htime | unstable htime
  | restabilized htime => exact hlater htime
  | @retire _ _ now _ _ _ hretires htime hstate hchild =>
      have hsome : m.child.isSome = true := hchild ▸ rfl
      have hsee (reply : Reply) : W.next op (.ok reply) = W.see now := by cases hretires <;> rfl
      rw [hsee]
      show ChildBudget _ _ (if (true && m.childFailureAt.isNone) = true then _ else _) _ _ _ _
      rw [(capture_active hcapture hlife hstate hsome).2.2.1]
      exact (hlater htime).captured.moved (hinstalled hsome)
  | terminal htime => exact (hlater htime).captured
  | closed hcloses htime _ hchild =>
      have hsome : m.child.isSome = true := hchild ▸ rfl
      cases hcloses <;> exact (hlater htime).moved (hinstalled hsome)
  | lostChild htime | lostIdle htime | lostIdleFailed htime | lostBusy htime =>
      exact (hlater htime).forgotten
  | replaced htime hreap _ _ hadd =>
      have hchild := hlife.ofRetiring (.inr hreap)
      obtain ⟨hcompacts, hlength, hfull⟩ := childBudget_add h hcapture hchild htime hadd
      refine ⟨hcompacts, counted_past h hcapture htiming htime, by rintro _ _ _ ⟨⟩, fun _ => ?_,
        hinstalled hchild⟩
      exact hlength.trans_lt (Nat.not_le.mp (of_decide_eq_false hfull.symm))
  | escalated htime hreap _ _ hadd =>
      have hchild := hlife.ofRetiring (.inr hreap)
      obtain ⟨hcompacts, -⟩ := childBudget_add h hcapture hchild htime hadd
      refine ⟨hcompacts, counted_past h hcapture htiming htime, by rintro _ _ _ ⟨⟩, by rintro ⟨⟩,
        fun _ => ⟨rfl, (hlife.ofChild hchild).2.2⟩⟩
  | cleaned htime | cleanupFailed htime =>
      exact (hlater htime).moved fun htrue => ⟨rfl, (h.idle htrue).2⟩
  | stable htime => exact (hlater htime).fresh
  | reservedNothing hreserves => cases hreserves <;> exact h
  | _ => exact h

/-! ## The window of the serial line -/

structure SerialBudget (lastNow : Option Nat) (state : ConnectionState)
    (serial : Option SerialCorrelation) (window : RestartWindow) (exhausted : Bool)
    (reconnects : List Nat) : Prop where
  stands : state = .reconnecting ∨ serial.isSome = true → Stands window reconnects
  past : ∀ t ∈ reconnects, Past lastNow t
  idle : exhausted = true → (state = .exhausted ∨ state = .failClosed) ∧ serial = none

abbrev ConsoleModel.serialBudget (m : ConsoleModel) (W : Watch) : Prop :=
  SerialBudget m.lastNow m.state m.serial m.serialWindow m.serialExhausted W.reconnects

namespace SerialBudget

variable {lastNow : Option Nat} {state state' : ConnectionState} {serial : Option SerialCorrelation}
  {window : RestartWindow} {exhausted : Bool} {reconnects : List Nat}

theorem failed (h : SerialBudget lastNow state serial window exhausted reconnects) :
    SerialBudget lastNow .failClosed serial window exhausted reconnects where
  stands := by
    rintro (⟨⟨⟩⟩ | hserial)
    exact h.stands (.inr hserial)
  past := h.past
  idle htrue := ⟨.inr rfl, (h.idle htrue).2⟩

theorem connected (h : SerialBudget lastNow state serial window exhausted reconnects)
    (hserial : serial.isSome = true) {serial' : Option SerialCorrelation} :
    SerialBudget lastNow state' serial' window exhausted reconnects where
  stands _ := h.stands (.inr hserial)
  past := h.past
  idle htrue := by
    rw [(h.idle htrue).2] at hserial
    cases hserial

end SerialBudget

theorem serialBudget_later {t : Option Nat} (h : m.serialBudget W) (hclock : m.Clock t) :
    SerialBudget t m.state m.serial m.serialWindow m.serialExhausted W.reconnects :=
  { h with past := fun time ht => hclock.past (h.past time ht) }

theorem serialBudget_add (h : m.serialBudget W) (hstate : m.state = .reconnecting) {now : Nat}
    (htime : m.Timely now) {full : Bool} {window : RestartWindow}
    (hadd : m.serialWindow.add now = .ok (full, window)) :
    Compacts restartWindowMillis window.times (W.reconnects ++ [now]) ∧
      window.failures = (counting W.reconnects now).length ∧
      full = decide (maxFailuresPerWindow ≤ (counting W.reconnects now).length) := by
  refine (h.stands (.inl hstate)).add (fun t ht => ?_) hadd
  obtain ⟨last, hlast, hle⟩ := h.past t ht
  exact hle.trans (htime last hlast)

theorem reconnected_past (h : m.serialBudget W) {now : Nat} (htime : m.Timely now) :
    ∀ t ∈ W.reconnects ++ [now], Past (some now) t := by
  intro t ht
  rcases List.mem_append.mp ht with ht | ht
  · exact htime.clock.past (h.past t ht)
  · rw [List.mem_singleton.mp ht]
    exact ⟨now, rfl, Nat.le_refl _⟩

theorem serialBudget_moves (h : m.serialBudget W) (hlife : m.lifecycle) (hmove : Moves m op o m') :
    m'.serialBudget (W.next op o) := by
  have hlater {now : Nat} (htime : m.Timely now) := serialBudget_later h htime.clock
  cases hmove with
  | refused hclock =>
      have hkept := serialBudget_later h hclock
      rw [Watch.next_err]
      exact hkept
  | failed hclock =>
      rw [Watch.next_err]
      exact (serialBudget_later h hclock).failed
  | launchFailed | abortFailed => exact h.failed
  | attached _ hstate =>
      refine ⟨fun _ => .new, List.forall_mem_nil _, fun htrue => ?_⟩
      have hidle : m.state = .exhausted ∨ m.state = .failClosed := (h.idle htrue).1
      rw [hstate] at hidle
      exact absurd hidle (by decide)
  | abortedAfterLoss hlaunch => exact h.connected (hlife.ofLaunch (hlaunch ▸ rfl)).1
  | polled _ hquiets => cases hquiets <;> exact h
  | @retire _ _ now _ _ _ hretires htime hstate hchild =>
      have hsee (reply : Reply) : W.next op (.ok reply) = W.see now := by cases hretires <;> rfl
      rw [hsee]
      exact (hlater htime).connected (hlife.ofActive hstate)
  | terminal htime hcurrent =>
      exact (hlater htime).connected (hlife.ofActive (eventIsCurrent_iff.mp hcurrent).1)
  | precursor htime | incomplete htime | reapedAfterLoss htime | readied htime | unstable htime
  | stable htime | restabilized htime => exact hlater htime
  | closed hcloses htime => cases hcloses <;> exact hlater htime
  | lostChild htime _ hserial | lostIdle htime _ _ hserial | lostIdleFailed htime _ _ hserial
  | lostBusy htime _ _ hserial => exact (hlater htime).connected (hserial ▸ rfl)
  | terminated htime hstate =>
      exact (hlater htime).connected (hlife.ofChild (hlife.ofRetiring (.inl hstate))).1
  | replaced htime hreap | escalated htime hreap | cleaned htime hreap | cleanupFailed htime hreap =>
      exact (hlater htime).connected (hlife.ofChild (hlife.ofRetiring (.inr hreap))).1
  | retrying htime hstate hadd =>
      obtain ⟨hcompacts, hlength, hfull⟩ := serialBudget_add h hstate htime hadd
      refine ⟨fun _ => ⟨hcompacts, ?_⟩, reconnected_past h htime, h.idle⟩
      exact hlength.trans_lt (Nat.not_le.mp (of_decide_eq_false hfull.symm))
  | serialExhausted htime hstate hadd =>
      have hserial : m.serial = none := (hlife.ofReconnecting hstate).1
      refine ⟨?_, reconnected_past h htime, fun _ => ⟨.inl rfl, hserial⟩⟩
      rintro (⟨⟨⟩⟩ | hsome)
      have hsome' : m.serial.isSome = true := hsome
      rw [hserial] at hsome'
      cases hsome'
  | reconnectFailed htime hstate hadd =>
      have hserial : m.serial = none := (hlife.ofReconnecting hstate).1
      refine ⟨?_, (hlater htime).past, fun _ => ⟨.inr rfl, hserial⟩⟩
      rintro (⟨⟨⟩⟩ | hsome)
      have hsome' : m.serial.isSome = true := hsome
      rw [hserial] at hsome'
      cases hsome'
  | reservedNothing hreserves => cases hreserves <;> exact h
  | _ => exact h

end Wyrmroot.Consoled
