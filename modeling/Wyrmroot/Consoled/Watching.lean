import Wyrmroot.Lib.Replay
import Wyrmroot.Consoled.Containment

/-!
# What a console has seen fail

`Watch` is read off the calls of a run alone: when the installed child first
failed, whether the serial line was lost since it was launched, and which
failures were counted. `capture_moves` holds the model to it: the captured time
is the first symptom, and it is gone as soon as the serial line is.
-/

namespace Wyrmroot.Consoled

open Outcome ConsoleModel

structure Watch where
  /-- The failures counted since the last stable run, at their captured times. -/
  failures : List Nat
  /-- When the installed child first failed. -/
  symptom : Option Nat
  /-- Whether the serial line was lost since the child was launched. -/
  lost : Bool
  /-- The failed reconnects since the last attachment. -/
  reconnects : List Nat

def Watch.new : Watch := ⟨[], none, false, []⟩

/-- A symptom, if there was none before. -/
def Watch.see (W : Watch) (now : Nat) : Watch := { W with symptom := some (W.symptom.getD now) }

def Watch.next (W : Watch) : Op → Outcome ModelError Reply → Watch
  | .attachConnected _ _, .ok _ => { W with reconnects := [] }
  | .commitChildLaunch _ _, .ok (.launched _ _) => { W with symptom := none, lost := false }
  | .wrongDirectionData _ now, .ok _ => W.see now
  | .childTerminal _ now, .ok _ => W.see now
  | .childPeerClosed _ _ now, .ok _ => W.see now
  | .statusPeerClosed _ now, .ok _ => W.see now
  | .serialPeerClosed _ _ _, .ok _ => { W with symptom := none, lost := true }
  | .childReaped _ now, .ok (.action .replaceChild) =>
      { W with failures := W.failures ++ [W.symptom.getD now], symptom := none }
  | .childReaped _ now, .ok (.action .escalate) =>
      { W with failures := W.failures ++ [W.symptom.getD now], symptom := none }
  | .serialReconnectFailed now, .ok _ => { W with reconnects := W.reconnects ++ [now] }
  | .observeReady _ _, .ok (.stable true) => { W with failures := [] }
  | _, _ => W

/-- What a history has seen. -/
def watched (h : List ConsoleCall) : Watch :=
  h.foldl (fun W call => W.next call.op call.outcome) .new

theorem watched_snoc (h : List ConsoleCall) (call : ConsoleCall) :
    watched (h ++ [call]) = (watched h).next call.op call.outcome := by
  rw [watched, List.foldl_append]
  rfl

variable {W : Watch} {m m' : ConsoleModel} {op : Op} {o : Outcome ModelError Reply}

theorem Watch.next_err (e : ModelError) : W.next op (.err e) = W := by
  cases op <;> rfl

theorem Watch.next_notHeld (h : op.transaction.isSome = true) : W.next op (.ok .notHeld) = W := by
  cases op
  case moveChildPeer | commitChildLaunch | abortChildLaunch => rfl
  all_goals cases h

/-! ## The failure of a child -/

structure Capture (state : ConnectionState) (child : Option ChildSession)
    (launch : Option LaunchIdentity) (invalidated serialCleanup : Bool)
    (failureAt symptom : Option Nat) (lost : Bool) : Prop where
  paired : serialCleanup = !invalidated
  symptom : failureAt = symptom
  quiet : state ≠ .retiringChild → state ≠ .awaitingReap → state ≠ .failClosed → failureAt = none
  launching : launch.isSome = true → failureAt = none
  invalid : invalidated = true → failureAt = none
  captured : state = .retiringChild ∨ state = .awaitingReap → invalidated = false →
    failureAt.isSome = true
  lost : child.isSome = true → lost = invalidated
  stuck : state = .active → invalidated = true → launch.isSome = true

abbrev ConsoleModel.capture (m : ConsoleModel) (W : Watch) : Prop :=
  Capture m.state m.child m.pendingLaunch m.serialInvalidated m.serialCleanup m.childFailureAt
    W.symptom W.lost

namespace Capture

variable {state state' : ConnectionState} {child child' : Option ChildSession}
  {launch launch' : Option LaunchIdentity} {invalidated serialCleanup lost : Bool}
  {failureAt symptom : Option Nat}

theorem calm (hfailure : failureAt = none) (hsymptom : failureAt = symptom)
    (hpaired : serialCleanup = !invalidated)
    (hstate : state ≠ .retiringChild ∧ state ≠ .awaitingReap)
    (hlost : child.isSome = true → lost = invalidated)
    (hstuck : state = .active → invalidated = true → launch.isSome = true) :
    Capture state child launch invalidated serialCleanup failureAt symptom lost where
  paired := hpaired
  symptom := hsymptom
  quiet _ _ _ := hfailure
  launching _ := hfailure
  invalid _ := hfailure
  captured hretiring := absurd hretiring (not_or.mpr hstate)
  lost := hlost
  stuck := hstuck

theorem severed (hsymptom : symptom = none) (hlost : child.isSome = true → lost = true)
    (hstuck : state = .active → launch.isSome = true) :
    Capture state child launch true false none symptom lost where
  paired := rfl
  symptom := hsymptom.symm
  quiet _ _ _ := rfl
  launching _ := rfl
  invalid _ := rfl
  captured _ := by rintro ⟨⟩
  lost := hlost
  stuck hactive _ := hstuck hactive

theorem failed (h : Capture state child launch invalidated serialCleanup failureAt symptom lost) :
    Capture .failClosed child launch invalidated serialCleanup failureAt symptom lost :=
  { h with
    quiet := fun _ _ hopen => absurd rfl hopen
    captured := by rintro (⟨⟨⟩⟩ | ⟨⟨⟩⟩)
    stuck := by rintro ⟨⟩ }

theorem unlaunched (h : Capture .failClosed child launch invalidated serialCleanup failureAt symptom
    lost) : Capture .failClosed child none invalidated serialCleanup failureAt symptom lost :=
  { h with launching := by rintro ⟨⟩, stuck := by rintro ⟨⟩ }

theorem failing (h : Capture state child launch invalidated serialCleanup failureAt symptom lost)
    (hvalid : invalidated = false) (hlaunch : launch = none) {failedAt : Nat}
    (hstate : state' = .retiringChild ∨ state' = .awaitingReap)
    (hchild : child.isSome = true) :
    Capture state' child' launch invalidated serialCleanup (some failedAt) (some failedAt) lost := by
  subst hvalid hlaunch
  refine ⟨h.paired, rfl, ?_, by rintro ⟨⟩, by rintro ⟨⟩, fun _ _ => rfl, fun _ => h.lost hchild, ?_⟩
  · intro hretiring hreaping
    exact absurd hstate (not_or.mpr ⟨hretiring, hreaping⟩)
  · rintro rfl
    rcases hstate with ⟨⟨⟩⟩ | ⟨⟨⟩⟩

theorem same (h : Capture state child launch invalidated serialCleanup failureAt symptom lost)
    (hchild : child.isSome = true) (hretiring : state = .retiringChild ∨ state = .awaitingReap)
    (hstate : state' = .retiringChild ∨ state' = .awaitingReap) :
    Capture state' child' launch invalidated serialCleanup failureAt symptom lost := by
  refine { h with quiet := ?_, captured := fun _ => h.captured hretiring
                  lost := fun _ => h.lost hchild, stuck := ?_ }
  · intro hne hne'
    exact absurd hstate (not_or.mpr ⟨hne, hne'⟩)
  · rintro rfl
    rcases hstate with ⟨⟨⟩⟩ | ⟨⟨⟩⟩

end Capture

theorem capture_active (h : m.capture W) (hlife : m.lifecycle) (hactive : m.state = .active)
    (hchild : m.child.isSome = true) :
    m.serialInvalidated = false ∧ m.pendingLaunch = none ∧ m.childFailureAt = none ∧ W.symptom = none := by
  have hlaunch := (hlife.ofChild hchild).2.2
  have hnone : m.childFailureAt = none := h.quiet (by rw [hactive]; decide) (by rw [hactive]; decide)
    (by rw [hactive]; decide)
  refine ⟨?_, hlaunch, hnone, h.symptom ▸ hnone⟩
  refine Bool.eq_false_iff.mpr fun hinvalid => ?_
  have hsome := h.stuck hactive hinvalid
  rw [hlaunch] at hsome
  cases hsome

theorem capture_moves (h : m.capture W) (hlife : m.lifecycle) (hmove : Moves m op o m') :
    m'.capture (W.next op o) := by
  have hquiet {state : ConnectionState} (hstate : m.state = state)
      (hne : state ≠ .retiringChild ∧ state ≠ .awaitingReap ∧ state ≠ .failClosed) :
      m.childFailureAt = none :=
    h.quiet (hstate ▸ hne.1) (hstate ▸ hne.2.1) (hstate ▸ hne.2.2)
  have hnone {child : Option ChildSession} (hchild : child = none) {P : Prop} :
      child.isSome = true → P := by
    rw [hchild]
    rintro ⟨⟩
  have hvalid {P : Prop} (hvalid : m.serialInvalidated = false) : m.serialInvalidated = true → P :=
    fun hinvalid => absurd (hvalid.symm.trans hinvalid) Bool.false_ne_true
  have hsound (hclean : m.serialCleanup = true) : m.serialInvalidated = false := by
    have hpaired := h.paired
    rw [hclean] at hpaired
    simpa using hpaired.symm
  have hactive : ConnectionState.active ≠ .retiringChild ∧ ConnectionState.active ≠ .awaitingReap := by
    decide
  have hopen : ConnectionState.reconnecting ≠ .retiringChild ∧
      ConnectionState.reconnecting ≠ .awaitingReap := by decide
  have hexhausted : ConnectionState.exhausted ≠ .retiringChild ∧
      ConnectionState.exhausted ≠ .awaitingReap := by decide
  cases hmove with
  | refused =>
      rw [Watch.next_err]
      exact h
  | failed =>
      rw [Watch.next_err]
      exact h.failed
  | launchFailed | reconnectFailed => exact h.failed
  | attached _ hstate =>
      obtain ⟨-, hchild, -, hinvalid, -⟩ := hlife.ofReconnecting hstate
      exact .calm (hquiet hstate (by decide)) h.symptom h.paired hactive (hnone hchild)
        fun _ => hvalid hinvalid
  | launching hstate _ _ _ hchild =>
      exact .calm (hquiet hstate (by decide)) h.symptom h.paired (hstate ▸ hactive) (hnone hchild)
        fun _ _ => rfl
  | launched hstate _ _ _ hinvalid =>
      have hfailure := hquiet hstate (by decide)
      exact .calm hfailure hfailure h.paired (hstate ▸ hactive) (fun _ => hinvalid.symm)
        fun _ => hvalid hinvalid
  | aborted hlaunch _ hkept =>
      have hchild := (hlife.ofLaunch (hlaunch ▸ rfl)).2.1
      refine { h with launching := by rintro ⟨⟩, stuck := fun _ hinvalid => ?_ }
      exact absurd ⟨hinvalid, hchild⟩ hkept
  | abortedAfterLoss hlaunch _ _ _ hchild =>
      refine .calm (h.launching (hlaunch ▸ rfl)) h.symptom rfl hopen (hnone hchild) ?_
      rintro ⟨⟩
  | abortFailed => exact h.failed.unlaunched
  | polled _ hquiets => cases hquiets <;> exact h
  | @retire _ _ now _ _ _ hretires _ hstate hchild =>
      have hsome : m.child.isSome = true := hchild ▸ rfl
      obtain ⟨hinvalid, hlaunch, hfailure, hsymptom⟩ := capture_active h hlife hstate hsome
      have hsee (reply : Reply) : W.next op (.ok reply) = W.see now := by
        cases hretires <;> rfl
      rw [hsee, Watch.see, hsymptom]
      show Capture _ _ _ _ _ (if (true && m.childFailureAt.isNone) = true then _ else _) _ _
      rw [hfailure]
      exact h.failing hinvalid hlaunch (.inl rfl) hsome
  | @terminal _ now _ hcurrent =>
      obtain ⟨hstate, hevent⟩ := eventIsCurrent_iff.mp hcurrent
      obtain ⟨child, hchild, -⟩ := exists_child hevent
      have hsome : m.child.isSome = true := hchild ▸ rfl
      obtain ⟨hinvalid, hlaunch, -, hsymptom⟩ := capture_active h hlife hstate hsome
      show Capture _ _ _ _ _ _ (some (W.symptom.getD now)) _
      rw [hsymptom]
      exact h.failing hinvalid hlaunch (.inr rfl) hsome
  | closed hcloses _ hstate hchild =>
      have hsome : m.child.isSome = true := hchild ▸ rfl
      cases hcloses <;> exact h.same hsome hstate hstate
  | lostChild =>
      refine .severed rfl (fun _ => rfl) ?_
      rintro ⟨⟩
  | lostIdle _ _ _ _ _ hchild =>
      refine .calm rfl rfl rfl hopen (hnone hchild) ?_
      rintro ⟨⟩
  | lostIdleFailed _ hne hne' _ _ hchild =>
      have hfailure : m.childFailureAt = none := by
        refine h.quiet (fun hstate => ?_) (fun hstate => ?_) hne'
        · exact hnone hchild (hlife.ofRetiring (.inl hstate))
        · exact hnone hchild (hlife.ofRetiring (.inr hstate))
      refine .severed (h.symptom ▸ hfailure) (hnone hchild) ?_
      rintro ⟨⟩
  | lostBusy _ _ _ _ _ hbusy =>
      refine .severed rfl (fun _ => rfl) fun hstate => ?_
      rcases hbusy with ⟨-, hne⟩ | ⟨-, hlaunch⟩
      · exact absurd hstate hne
      · exact hlaunch
  | terminated _ hretiring =>
      exact h.same (hlife.ofRetiring (.inl hretiring)) (.inl hretiring) (.inr rfl)
  | replaced _ _ _ hclean =>
      exact .calm rfl rfl h.paired hactive (by rintro ⟨⟩) fun _ => hvalid (hsound hclean)
  | escalated =>
      refine .calm rfl rfl h.paired hexhausted (by rintro ⟨⟩) ?_
      rintro ⟨⟩
  | cleaned _ _ hclean =>
      have hinvalid : m.serialInvalidated = true := by
        have hpaired := h.paired
        rw [hclean] at hpaired
        simpa using hpaired.symm
      refine .calm (h.invalid hinvalid) h.symptom rfl hopen (by rintro ⟨⟩) ?_
      rintro ⟨⟩
  | cleanupFailed => exact { h.failed with lost := by rintro ⟨⟩ }
  | serialExhausted _ hstate =>
      have hchild := (hlife.ofReconnecting hstate).2.1
      refine .calm (hquiet hstate (by decide)) h.symptom h.paired hexhausted (hnone hchild) ?_
      rintro ⟨⟩
  | reservedNothing hreserves => cases hreserves <;> exact h
  | _ => exact h

end Wyrmroot.Consoled
