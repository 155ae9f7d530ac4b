import Wyrmroot.Consoled.Steps

/-!
# The lifecycle of a console

What the optional fields and flags of a model have to do with each other, and
that every call keeps it: one lemma for each way the lifecycle can move, and
`lifecycle_moves` from them. Nothing but custody keeps a launch that is being
cleaned up from being committed: `commit_child_launch` has no check for it, and
relies on the transaction having been taken by `abort_child_launch`
(`Entitled`).
-/

namespace Wyrmroot.Consoled

open Outcome ConsoleModel

/-- A call on a transaction is not on one whose launch is being cleaned up. -/
def Entitled (m : ConsoleModel) (op : Op) : Prop :=
  ∀ tx ∈ op.transaction, ∀ id ∈ m.pendingLaunchCleanup, tx.childGeneration ≠ id.childGeneration

structure Lifecycle (state : ConnectionState) (serial : Option SerialCorrelation)
    (console : Option Nat) (child : Option ChildSession) (launch cleanup : Option LaunchIdentity)
    (connect : Option ConnectRequest) (invalidated serialCleanup : Bool) : Prop where
  ofCleanup : ∀ id ∈ cleanup, launch = some id
  ofLaunch : launch.isSome = true → serial.isSome = true ∧ child = none ∧ connect = none
  ofReconnecting : state = .reconnecting →
    serial = none ∧ child = none ∧ launch = none ∧ invalidated = false ∧ serialCleanup = true
  ofActive : state = .active → serial.isSome = true
  ofConnect : connect.isSome = true → (state = .reconnecting ∨ state = .failClosed) ∧
    serial = none ∧ child = none ∧ launch = none
  ofChild : child.isSome = true → serial.isSome = true ∧ connect = none ∧ launch = none
  ofSerial : serial.isSome = console.isSome
  ofInvalidated : invalidated = true → serialCleanup = false
  ofRetiring : state = .retiringChild ∨ state = .awaitingReap → child.isSome = true

abbrev ConsoleModel.lifecycle (m : ConsoleModel) : Prop :=
  Lifecycle m.state m.serial m.consoleGeneration m.child m.pendingLaunch m.pendingLaunchCleanup
    m.pendingConnect m.serialInvalidated m.serialCleanup

namespace Lifecycle

variable {state state' : ConnectionState} {serial : Option SerialCorrelation}
  {console : Option Nat} {child child' : Option ChildSession}
  {launch cleanup : Option LaunchIdentity} {connect : Option ConnectRequest}
  {invalidated serialCleanup serialCleanup' : Bool}

theorem idle : Lifecycle .reconnecting none none none none none connect false true := by
  constructor <;> simp

theorem failed (h : Lifecycle state serial console child launch cleanup connect invalidated
    serialCleanup) :
    Lifecycle .failClosed serial console child launch cleanup connect invalidated serialCleanup where
  ofCleanup := h.ofCleanup
  ofLaunch := h.ofLaunch
  ofReconnecting := by rintro ⟨⟩
  ofActive := by rintro ⟨⟩
  ofConnect hsome := ⟨.inr rfl, (h.ofConnect hsome).2⟩
  ofChild := h.ofChild
  ofSerial := h.ofSerial
  ofInvalidated := h.ofInvalidated
  ofRetiring := by rintro (⟨⟨⟩⟩ | ⟨⟨⟩⟩)

theorem connecting (h : Lifecycle state serial console child launch cleanup connect invalidated
    serialCleanup) (hstate : state = .reconnecting) (request : ConnectRequest) :
    Lifecycle state serial console child launch cleanup (some request) invalidated
      serialCleanup := by
  obtain ⟨rfl, rfl, rfl, -, -⟩ := h.ofReconnecting hstate
  exact { h with
    ofLaunch := by rintro ⟨⟩
    ofConnect := fun _ => ⟨.inl hstate, rfl, rfl, rfl⟩
    ofChild := by rintro ⟨⟩ }

theorem abandoned (h : Lifecycle state serial console child launch cleanup connect invalidated
    serialCleanup) :
    Lifecycle state serial console child launch cleanup none invalidated serialCleanup := by
  exact { h with
    ofLaunch := fun hsome => ⟨(h.ofLaunch hsome).1, (h.ofLaunch hsome).2.1, rfl⟩
    ofConnect := by rintro ⟨⟩
    ofChild := fun hsome => ⟨(h.ofChild hsome).1, rfl, (h.ofChild hsome).2.2⟩ }

theorem attached (h : Lifecycle state serial console child launch cleanup connect invalidated
    serialCleanup) (hstate : state = .reconnecting) (serial' : SerialCorrelation) (console' : Nat) :
    Lifecycle .active (some serial') (some console') child launch cleanup none invalidated
      serialCleanup := by
  obtain ⟨-, rfl, rfl, rfl, rfl⟩ := h.ofReconnecting hstate
  exact {
    ofCleanup := h.ofCleanup
    ofLaunch := by rintro ⟨⟩
    ofReconnecting := by rintro ⟨⟩
    ofActive := fun _ => rfl
    ofConnect := by rintro ⟨⟩
    ofChild := by rintro ⟨⟩
    ofSerial := rfl
    ofInvalidated := by rintro ⟨⟩
    ofRetiring := by rintro (⟨⟨⟩⟩ | ⟨⟨⟩⟩) }

theorem launching (h : Lifecycle state serial console child launch cleanup connect invalidated
    serialCleanup) (hstate : state = .active) (hchild : child = none) (hlaunch : launch = none)
    (id : LaunchIdentity) :
    Lifecycle state serial console child (some id) cleanup connect invalidated serialCleanup := by
  subst hstate hchild hlaunch
  have hconnect : connect = none := by
    refine Option.not_isSome_iff_eq_none.mp fun hsome => ?_
    rcases (h.ofConnect hsome).1 with ⟨⟨⟩⟩ | ⟨⟨⟩⟩
  subst hconnect
  exact { h with
    ofCleanup := fun id' hid => absurd (h.ofCleanup id' hid) (Option.some_ne_none _).symm
    ofLaunch := fun _ => ⟨h.ofActive rfl, rfl, rfl⟩
    ofReconnecting := by rintro ⟨⟩
    ofConnect := by rintro ⟨⟩
    ofChild := by rintro ⟨⟩ }

theorem launched (h : Lifecycle state serial console child launch cleanup connect invalidated
    serialCleanup) (hstate : state = .active) (hlaunch : launch.isSome = true)
    (hcleanup : cleanup = none) (session : ChildSession) :
    Lifecycle state serial console (some session) none cleanup connect invalidated serialCleanup := by
  subst hstate hcleanup
  obtain ⟨hserial, -, rfl⟩ := h.ofLaunch hlaunch
  exact { h with
    ofCleanup := by rintro _ ⟨⟩
    ofLaunch := by rintro ⟨⟩
    ofReconnecting := by rintro ⟨⟩
    ofConnect := by rintro ⟨⟩
    ofChild := fun _ => ⟨hserial, rfl, rfl⟩
    ofRetiring := by rintro (⟨⟨⟩⟩ | ⟨⟨⟩⟩) }

theorem aborting (h : Lifecycle state serial console child launch cleanup connect invalidated
    serialCleanup) {id : LaunchIdentity} (hlaunch : launch = some id) :
    Lifecycle state serial console child launch (some id) connect invalidated serialCleanup :=
  { h with ofCleanup := fun _ hid => hlaunch.trans hid }

theorem aborted (h : Lifecycle state serial console child launch cleanup connect invalidated
    serialCleanup) :
    Lifecycle state serial console child none none connect invalidated serialCleanup where
  ofCleanup := by rintro _ ⟨⟩
  ofLaunch := by rintro ⟨⟩
  ofReconnecting hstate :=
    ⟨(h.ofReconnecting hstate).1, (h.ofReconnecting hstate).2.1, rfl, (h.ofReconnecting hstate).2.2.2⟩
  ofActive := h.ofActive
  ofConnect hsome := ⟨(h.ofConnect hsome).1, (h.ofConnect hsome).2.1, (h.ofConnect hsome).2.2.1, rfl⟩
  ofChild hsome := ⟨(h.ofChild hsome).1, (h.ofChild hsome).2.1, rfl⟩
  ofSerial := h.ofSerial
  ofInvalidated := h.ofInvalidated
  ofRetiring := h.ofRetiring

theorem lost (h : Lifecycle state serial console child launch cleanup connect invalidated
    serialCleanup) (hstate : state ≠ .reconnecting) :
    Lifecycle state serial console child launch cleanup connect true false :=
  { h with
    ofReconnecting := fun hreconnecting => absurd hreconnecting hstate
    ofInvalidated := fun _ => rfl }

theorem retiringChild (h : Lifecycle state serial console child launch cleanup connect invalidated
    serialCleanup) (hchild : child.isSome = true) (hchild' : child'.isSome = true)
    (hstate : state' = .retiringChild ∨ state' = .awaitingReap)
    (hclean : invalidated = true → serialCleanup' = false) :
    Lifecycle state' serial console child' launch cleanup connect invalidated serialCleanup' := by
  obtain ⟨hserial, rfl, rfl⟩ := h.ofChild hchild
  refine ⟨h.ofCleanup, ?_, ?_, fun _ => hserial, ?_, fun _ => ⟨hserial, rfl, rfl⟩, h.ofSerial, hclean,
    fun _ => hchild'⟩
  · rintro ⟨⟩
  · rintro rfl
    rcases hstate with ⟨⟨⟩⟩ | ⟨⟨⟩⟩
  · rintro ⟨⟩

theorem reaped (h : Lifecycle state serial console child launch cleanup connect invalidated
    serialCleanup) (hreap : state = .awaitingReap)
    (hstate : state' = .active ∨ state' = .exhausted ∨ state' = .failClosed) :
    Lifecycle state' serial console none launch cleanup connect invalidated serialCleanup := by
  obtain ⟨hserial, rfl, rfl⟩ := h.ofChild (h.ofRetiring (.inr hreap))
  refine ⟨h.ofCleanup, ?_, ?_, fun _ => hserial, ?_, ?_, h.ofSerial, h.ofInvalidated, ?_⟩
  · rintro ⟨⟩
  · rintro rfl
    rcases hstate with ⟨⟨⟩⟩ | ⟨⟨⟩⟩ | ⟨⟨⟩⟩
  · rintro ⟨⟩
  · rintro ⟨⟩
  · rintro (rfl | rfl) <;> rcases hstate with ⟨⟨⟩⟩ | ⟨⟨⟩⟩ | ⟨⟨⟩⟩

theorem exhausted (h : Lifecycle state serial console child launch cleanup none invalidated
    serialCleanup) :
    Lifecycle .exhausted serial console child launch cleanup none invalidated serialCleanup :=
  { h with
    ofReconnecting := by rintro ⟨⟩
    ofActive := by rintro ⟨⟩
    ofConnect := by rintro ⟨⟩
    ofRetiring := by rintro (⟨⟨⟩⟩ | ⟨⟨⟩⟩) }

theorem noCleanup (h : Lifecycle state serial console child launch cleanup connect invalidated
    serialCleanup) (hlaunch : launch = none) : cleanup = none := by
  refine Option.eq_none_iff_forall_ne_some.mpr fun id hid => ?_
  exact absurd (hlaunch.symm.trans (h.ofCleanup id hid)) (Option.some_ne_none _).symm

end Lifecycle

/-! ## Every call keeps it -/

variable {m m' : ConsoleModel} {op : Op} {o : Outcome ModelError Reply}

theorem lifecycle_new : ConsoleModel.new.lifecycle := .idle

theorem disconnected_lifecycle (hchild : m.child = none) (hlaunch : m.pendingLaunch = none)
    (hcleanup : m.pendingLaunchCleanup = none) : m.disconnected.lifecycle := by
  show Lifecycle _ _ _ m.child m.pendingLaunch m.pendingLaunchCleanup _ _ _
  rw [hchild, hlaunch, hcleanup]
  exact .idle

theorem lifecycle_moves (h : m.lifecycle) (hop : Entitled m op) (hmove : Moves m op o m') :
    m'.lifecycle := by
  cases hmove with
  | failed | launchFailed => exact h.failed
  | connecting hstate => exact h.connecting hstate _
  | abandoned | retrying => exact h.abandoned
  | attached _ hstate => exact h.attached hstate _ _
  | launching hactive _ _ _ hchild hlaunch => exact h.launching hactive hchild hlaunch _
  | @launched tx childJob hactive _ _ _ _ _ _ _ hpending =>
      refine h.launched hactive (hpending ▸ rfl) ?_ _
      refine Option.eq_none_iff_forall_ne_some.mpr fun id hid => hop tx rfl id hid ?_
      obtain rfl := Option.some.inj (hpending.symm.trans (h.ofCleanup id hid))
      rfl
  | aborting _ hpending => exact h.aborting hpending
  | aborted => exact h.aborted
  | abortedAfterLoss _ _ _ _ hchild =>
      exact disconnected_lifecycle (m := { m with pendingLaunch := none, pendingLaunchCleanup := none })
        hchild rfl rfl
  | abortFailed => exact h.aborted.failed
  | retire _ _ _ hchild => exact h.retiringChild (hchild ▸ rfl) rfl (.inl rfl) h.ofInvalidated
  | terminal _ hcurrent =>
      obtain ⟨child, hchild, -⟩ := exists_child (eventIsCurrent_iff.mp hcurrent).2
      have hsome : m.child.isSome = true := hchild ▸ rfl
      exact h.retiringChild hsome hsome (.inr rfl) h.ofInvalidated
  | closed _ _ hstate hchild => exact h.retiringChild (hchild ▸ rfl) rfl hstate h.ofInvalidated
  | lostChild _ hactive _ _ hchild =>
      have hsome : m.child.isSome = true := hchild ▸ rfl
      have hlost := h.lost (by rw [hactive]; decide)
      exact hlost.retiringChild hsome hsome (.inl rfl) fun _ => rfl
  | lostIdle _ _ _ _ _ hchild hlaunch =>
      exact disconnected_lifecycle (m := { (m.atTime _).lost with childTerminated := true, childReaped := true })
        hchild hlaunch (h.noCleanup hlaunch)
  | lostIdleFailed _ hopen => exact (h.lost hopen).failed
  | lostBusy _ hopen => exact h.lost hopen
  | terminated _ hretiring =>
      have hsome := h.ofRetiring (.inl hretiring)
      exact h.retiringChild hsome hsome (.inr rfl) h.ofInvalidated
  | replaced _ hreap => exact h.reaped hreap (.inl rfl)
  | escalated _ hreap => exact h.reaped hreap (.inr (.inl rfl))
  | cleaned _ hreap =>
      have hlaunch := (h.ofChild (h.ofRetiring (.inr hreap))).2.2
      exact disconnected_lifecycle (m := { m.atTime _ with child := none })
        rfl hlaunch (h.noCleanup hlaunch)
  | cleanupFailed _ hreap => exact h.reaped hreap (.inr (.inr rfl))
  | serialExhausted => exact h.abandoned.exhausted
  | reconnectFailed => exact h.abandoned.failed
  | _ => exact h

end Wyrmroot.Consoled
