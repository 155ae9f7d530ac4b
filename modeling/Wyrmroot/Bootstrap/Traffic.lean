import Wyrmroot.Lib.Digest
import Wyrmroot.Bootfs.Reading
import Wyrmroot.Bootstrap.Model
import Wyrmroot.Loader.Custody

/-!
# What the bootstrap does with handles

A trace of the bootstrap is read as a list of `Step`s: the handles that came
with the INIT, the process a load returned, an unmap that failed, what the
wait for READY observed, and the terminations, closes and sends. Each part of
the program is described by the steps it takes, exactly.
-/

namespace Wyrmroot.Bootstrap

open Outcome
open Loader (LoadedProcess LaunchProfile ReceivedHandleInfo)
open Supervision (TerminationAbi)

inductive Step where
  | received (handles : List Nat)
  | loaded (child : LoadedProcess)
  | unmapFailed
  | accepted (channel : Nat)
  | exited (process : Nat)
  | terminated (process : Nat)
  | closed (handle : Nat) (ok : Bool)
  | sent
deriving DecidableEq

/-- The observations of a supervision event. -/
def observed (profile : LaunchProfile) (e : Supervision.Event) : List Step :=
  (e.accepted profile systemInitTransactionId).toList.map .accepted ++
    e.exited.toList.map .exited

def Event.steps (profile : LaunchProfile) : Event → List Step
  | .done (.receiveChannel _ _ _) r => [.received ((Received.initialized r).map (·.handle))]
  | .done (.closeHandle h) _ => [.closed h true]
  | .failed (.closeHandle h) => [.closed h false]
  | .done (.sendChannel _ _) _ => [.sent]
  | .failed (.sendChannel _ _) => [.sent]
  | .failed (.unmapBootfs _ _ _) => [.unmapFailed]
  | .loadReturned child => [.loaded child]
  | .reclaim (.done (.processTerminate process) _) => [.terminated process]
  | .reclaim (.failed (.processTerminate process)) => [.terminated process]
  | .supervisor e => observed profile e
  | _ => []

/-- The steps of a trace. -/
def traffic (profile : LaunchProfile) (w : List Event) : List Step :=
  Prog.digest (Event.steps profile) w

def Step.receivedHandles : Step → List Nat
  | .received handles => handles
  | _ => []

def Step.child : Step → List LoadedProcess
  | .loaded child => [child]
  | _ => []

def Step.close : Step → List Nat
  | .closed handle _ => [handle]
  | _ => []

/-- The handles that came with the INIT. -/
def received (t : List Step) : List Nat := t.flatMap Step.receivedHandles

/-- The processes that loads returned. -/
def children (t : List Step) : List LoadedProcess := t.flatMap Step.child

/-- The handles that were closed, or tried to be, as often as they were. -/
def closes (t : List Step) : List Nat := t.flatMap Step.close

/-- What a load leaves its caller to close. -/
def childHandles (t : List Step) : List Nat :=
  (children t).flatMap fun child => [child.launchChannel, child.process]

@[simp] theorem received_append (t t' : List Step) : received
    (t ++ t') = received t ++ received t' :=
  List.flatMap_append

@[simp] theorem children_append (t t' : List Step) : children
    (t ++ t') = children t ++ children t' :=
  List.flatMap_append

@[simp] theorem closes_append (t t' : List Step) : closes (t ++ t') = closes t ++ closes t' :=
  List.flatMap_append

@[simp] theorem received_cons (x : Step) (t : List Step) :
    received (x :: t) = x.receivedHandles ++ received t := List.flatMap_cons

@[simp] theorem children_cons (x : Step) (t : List Step) :
    children (x :: t) = x.child ++ children t := List.flatMap_cons

@[simp] theorem closes_cons (x : Step) (t : List Step) : closes (x :: t) = x.close ++ closes t :=
  List.flatMap_cons

@[simp] theorem received_nil : received [] = [] := rfl

@[simp] theorem children_nil : children [] = [] := rfl

@[simp] theorem closes_nil : closes [] = [] := rfl

attribute [simp] Step.receivedHandles Step.child Step.close

/-! ## Calls -/

variable {τ ε α β : Type} {p : Platform τ ε} {abi : TerminationAbi} {profile : LaunchProfile}

/-- The variable `loaded` is left alone. -/
def Keeps (s s' : BootState τ) : Prop := s'.loaded = s.loaded

theorem Keeps.refl (s : BootState τ) : Keeps s s := rfl

variable {s : BootState τ}

theorem Keeps.trans {s' s'' : BootState τ} (h : Keeps s s') (h' : Keeps s' s'') : Keeps s s'' :=
  Eq.trans h' h

/-- A program that takes no step. -/
abbrev Idle {ε' : Type} (profile : LaunchProfile) (m : Io τ ε' α) (P : α → Prop) : Prop :=
  Prog.Silent (Event.steps profile) Keeps m P

/-- The steps that a program takes. -/
abbrev Steps {ε' : Type} (profile : LaunchProfile) (m : Io τ ε' α)
    (Q : Outcome ε' α → BootState τ → List Step → Prop) (s : BootState τ) : Prop :=
  Prog.Sees (Event.steps profile) m Q s

variable {c : Call}

theorem request_steps {Q : Outcome ε c.Result → BootState τ → List Step → Prop}
    (hok : ∀ r s', Keeps s s' → Q (.ok r) s' (Event.steps profile (.done c r)))
    (herr : ∀ e s', Keeps s s' → Q (.err e) s' (Event.steps profile (.failed c))) :
    Steps profile (request p c) Q s := by
  unfold Steps Prog.Sees Prog.wp request
  rcases p.system c s.io with ⟨e | r, io⟩
  · simpa using herr e { s with io } rfl
  · simpa using hok r { s with io } rfl

theorem native_steps {Q : Outcome (BootstrapError ε) c.Result → BootState τ → List Step → Prop}
    (hok : ∀ r s', Keeps s s' → Q (.ok r) s' (Event.steps profile (.done c r)))
    (herr : ∀ e s', Keeps s s' → Q (.err (.native e)) s' (Event.steps profile (.failed c))) :
    Steps profile (native p c) Q s :=
  Prog.Sees.recast (request_steps hok herr)

theorem native_idle (hok : ∀ r, Event.steps profile (.done c r) = [])
    (herr : Event.steps profile (.failed c) = []) : Idle profile (native p c) fun _ => True :=
  fun _ => native_steps (fun r _ hI => ⟨ok_ne_panic r, fun _ _ => trivial, hI, hok r⟩)
    fun _ _ hI => ⟨err_ne_panic _, fun _ _ => trivial, hI, herr⟩

theorem query_idle (handle : Nat) :
    Idle profile (native p (.queryCapabilityInfo handle)) fun _ => True :=
  native_idle (fun _ => rfl) rfl

section

variable {ε' : Type} {P : α → Prop} {R : β → Prop}

theorem Idle.pure {a : α} (h : P a) : Idle profile (pure a : Io τ ε' α) P :=
  Prog.Silent.pure Keeps.refl h

theorem Idle.throw (e : ε') : Idle (τ := τ) profile (Prog.throw e) P :=
  Prog.Silent.throw Keeps.refl e

theorem Idle.bind {m : Io τ ε' α} {f : α → Io τ ε' β} (h : Idle profile m P)
    (hf : ∀ a, P a → Idle profile (f a) R) : Idle profile (m >>= f) R :=
  Prog.Silent.bind (I := Keeps) Keeps.trans h hf

end

theorem check_idle {ε' ε'' : Type} {x : Outcome ε'' α} (f : ε'' → ε') (h : x ≠ .panic) :
    Idle (τ := τ) profile (Prog.lift (x.mapErr f)) fun _ => True :=
  (Prog.Silent.lift Keeps.refl (mapErr_ne_panic h)).mono fun _ _ => trivial

/-! ## Closing -/

/-- The steps close these handles, and do nothing else; under `ok` no close
failed. -/
structure Closing (handles : List Nat) (ok : Prop) (t : List Step) : Prop where
  closes : closes t = handles
  only : ∀ x ∈ t, ∃ h b, x = .closed h b
  all : ok → ∀ h, .closed h false ∉ t

namespace Closing

variable {handles handles' : List Nat} {ok ok' : Prop} {t t' : List Step}

theorem nil (ok : Prop) : Closing [] ok [] :=
  ⟨rfl, List.forall_mem_nil _, fun _ _ => List.not_mem_nil⟩

theorem append (h : Closing handles ok t) (h' : Closing handles' ok' t') {both : Prop}
    (hok : both → ok ∧ ok') : Closing (handles ++ handles') both (t ++ t') := by
  refine ⟨by rw [closes_append, h.closes, h'.closes], fun x hx => ?_, fun hboth handle hmem => ?_⟩
  · rcases List.mem_append.mp hx with hx | hx
    · exact h.only x hx
    · exact h'.only x hx
  · rcases List.mem_append.mp hmem with hmem | hmem
    · exact h.all (hok hboth).1 handle hmem
    · exact h'.all (hok hboth).2 handle hmem

theorem one (handle : Nat) (b : Bool) : Closing [handle] (b = true) [.closed handle b] := by
  refine ⟨rfl, fun x hx => ⟨handle, b, List.mem_singleton.mp hx⟩, fun hb h hmem => ?_⟩
  have heq := List.mem_singleton.mp hmem
  rw [hb] at heq
  cases heq

theorem quiet (h : Closing handles ok t) : received t = [] ∧ children t = [] := by
  constructor <;>
  · refine List.flatMap_eq_nil_iff.mpr fun x hx => ?_
    obtain ⟨_, _, rfl⟩ := h.only x hx
    rfl

end Closing

theorem close_steps (handle : Nat) (s : BootState τ) :
    Steps profile (request p (.closeHandle handle)) (fun o s' t => o ≠ .panic ∧ Keeps s s' ∧
      Closing [handle] (o = .ok ()) t) s := by
  refine request_steps (fun r s' h => ⟨ok_ne_panic _, h, ?_⟩) fun e s' h => ⟨err_ne_panic _, h, ?_⟩
  · have hone := Closing.one handle true
    exact ⟨hone.closes, hone.only, fun _ => hone.all rfl⟩
  · have hone := Closing.one handle false
    exact ⟨hone.closes, hone.only, fun hok => by cases hok⟩

theorem nativeClose_steps (handle : Nat) (s : BootState τ) :
    Steps profile (native p (.closeHandle handle)) (fun o s' t => o ≠ .panic ∧ Keeps s s' ∧
      Closing [handle] (o = .ok ()) t) s := by
  refine Prog.Sees.recast ((close_steps handle s).mono fun o s' t h => ?_)
  obtain ⟨hpanic, hkeeps, hclosing⟩ := h
  exact ⟨mapErr_ne_panic hpanic, hkeeps, hclosing.closes, hclosing.only,
    fun hok => hclosing.all (mapErr_eq_ok.mp hok)⟩

theorem closeEach_steps {handles : List ReceivedHandleInfo} :
    ∀ {first : Option (BootstrapError ε)} {s : BootState τ},
      Steps profile (closeEach p first handles) (fun o s' t => ∃ last, o = .ok last ∧ Keeps s s' ∧
        Closing (handles.map (·.handle)) (last = none) t ∧ (last = none → first = none)) s := by
  induction handles with
  | nil => exact fun {first} {s} => ⟨first, rfl, Keeps.refl s, Closing.nil _, id⟩
  | cons info rest ih =>
      intro first s
      refine (nativeClose_steps info.handle s).attempt_bind (fun u s₁ t₁ h => ?_)
        (fun e s₁ t₁ h => ?_) fun s₁ t₁ h => absurd rfl h.1
      · obtain ⟨-, h₁, hone⟩ := h
        refine ih.mono fun o s₂ t h => ?_
        obtain ⟨last, ho, h₂, hclosing, hfirst⟩ := h
        exact ⟨last, ho, h₁.trans h₂, hone.append hclosing fun hlast => ⟨rfl, hlast⟩, hfirst⟩
      · obtain ⟨-, h₁, hone⟩ := h
        refine ih.mono fun o s₂ t h => ?_
        obtain ⟨last, ho, h₂, hclosing, hfirst⟩ := h
        have hnever : last ≠ none := fun hlast => by
          have := hfirst hlast
          cases first <;> cases this
        exact ⟨last, ho, h₁.trans h₂, hone.append hclosing fun hlast => absurd hlast hnever,
          fun hlast => absurd hlast hnever⟩

theorem orFirst_steps {ε' : Type} {first : Option ε'}
    {Q : Outcome ε' Unit → BootState τ → List Step → Prop}
    (hok : first = none → Q (.ok ()) s []) (herr : ∀ e, first = some e → Q (.err e) s []) :
    Steps profile (orFirst first) Q s := by
  cases first with
  | none => exact hok rfl
  | some e => exact herr e rfl

theorem closeReceivedHandles_steps (handles : List ReceivedHandleInfo) (s : BootState τ) :
    Steps profile (closeReceivedHandles p handles) (fun o s' t => o ≠ .panic ∧ Keeps s s' ∧
      Closing (handles.map (·.handle)) (o = .ok ()) t) s := by
  refine Prog.Sees.bind_value closeEach_steps fun last s₁ t h => ?_
  obtain ⟨hkeeps, hclosing, -⟩ := h
  refine orFirst_steps (fun hlast => ?_) fun e _ => ?_
  · rw [List.append_nil]
    exact ⟨ok_ne_panic _, hkeeps, hclosing.closes, hclosing.only, fun _ => hclosing.all hlast⟩
  · rw [List.append_nil]
    exact ⟨err_ne_panic e, hkeeps, hclosing.closes, hclosing.only, fun hok => by cases hok⟩

/-! ## The cleanup of a child -/

variable {child : LoadedProcess}

/-- The steps of a cleanup: the termination that was asked for, and the two
closes. -/
structure Reclaimed (child : LoadedProcess) (terminate : Bool) (ok : Prop) (t : List Step) : Prop where
  split : ∃ closing, t = (if terminate then [.terminated child.process] else []) ++ closing ∧
    Closing [child.launchChannel, child.process] ok closing

theorem cleanupStep_steps {first : Option (ChildCleanupError ε)} {stage : ChildCleanupStage}
    {body : Io τ ε Unit} {T : Prop → List Step → Prop}
    (h : Steps profile body (fun o s' t => o ≠ .panic ∧ Keeps s s' ∧ T (o = .ok ()) t) s) :
    Steps profile (cleanupStep first stage body) (fun o s' t => ∃ last, o = .ok last ∧
      ∃ ok, Keeps s s' ∧ T ok t ∧ (last = none → first = none ∧ ok)) s := by
  refine h.attempt_bind (fun u s₁ t₁ h => ?_) (fun e s₁ t₁ h => ?_) fun s₁ t₁ h => absurd rfl h.1
  · obtain ⟨-, hkeeps, hT⟩ := h
    refine ⟨first, rfl, True, hkeeps, ?_, fun hfirst => ⟨hfirst, trivial⟩⟩
    simpa using hT
  · obtain ⟨-, hkeeps, hT⟩ := h
    refine ⟨first.or (some ⟨stage, e⟩), rfl, False, hkeeps, by simpa using hT, fun hnone => ?_⟩
    cases first <;> cases hnone

theorem terminate_steps (process : Nat) (s : BootState τ) :
    Steps profile (hostLoader .reclaim (Loader.request p.loader (.processTerminate process)))
      (fun o s' t => o ≠ .panic ∧ Keeps s s' ∧ t = [.terminated process]) s := by
  refine Prog.Sees.hosted ?_
  unfold Prog.wp Loader.request
  rcases p.loader.call (.processTerminate process) s.io with ⟨e | r, io⟩
  · exact ⟨err_ne_panic e, rfl, rfl⟩
  · exact ⟨ok_ne_panic r, rfl, rfl⟩

theorem terminateStep_steps (process : Nat) (terminate : Bool) (s : BootState τ) :
    Steps profile (terminateStep p process terminate) (fun o s' t => ∃ last, o = .ok last ∧
        Keeps s s' ∧ t = if terminate then [.terminated process] else []) s := by
  cases terminate with
  | false => exact ⟨none, rfl, Keeps.refl s, rfl⟩
  | true =>
      have h : Steps profile (hostLoader .reclaim (Loader.request p.loader
          (.processTerminate process))) _ s := terminate_steps process s
      refine (cleanupStep_steps (T := fun _ t => t = [.terminated process]) h).mono ?_
      intro o s' t h
      obtain ⟨last, ho, _, hkeeps, rfl, -⟩ := h
      exact ⟨last, ho, hkeeps, rfl⟩

theorem cleanupLoadedProcess_steps (child : LoadedProcess) (terminate : Bool) (s : BootState τ) :
    Steps profile (cleanupLoadedProcess p child terminate) (fun o s' t => o ≠ .panic ∧ Keeps s s' ∧
      Reclaimed child terminate (o = .ok ()) t) s := by
  refine Prog.Sees.bind_value (terminateStep_steps child.process terminate s) fun first s₁ t₁ h => ?_
  obtain ⟨h₁, rfl⟩ := h
  refine Prog.Sees.bind_value (cleanupStep_steps (close_steps child.launchChannel s₁)) ?_
  intro second s₂ t₂ h
  obtain ⟨ok₂, h₂, hlaunch, hsecond⟩ := h
  refine Prog.Sees.bind_value (cleanupStep_steps (close_steps child.process s₂)) ?_
  intro third s₃ t₃ h
  obtain ⟨ok₃, h₃, hprocess, hthird⟩ := h
  have hkeeps : Keeps s s₃ := (h₁.trans h₂).trans h₃
  refine orFirst_steps (fun hnone => ?_) fun e _ => ?_
  · obtain ⟨hnone₂, hok₃⟩ := hthird hnone
    refine ⟨ok_ne_panic _, hkeeps, t₂ ++ t₃, by rw [List.append_nil], ?_⟩
    exact hlaunch.append hprocess fun _ => ⟨(hsecond hnone₂).2, hok₃⟩
  · refine ⟨err_ne_panic e, hkeeps, t₂ ++ t₃, by rw [List.append_nil], ?_⟩
    exact hlaunch.append hprocess fun hok => by cases hok

end Wyrmroot.Bootstrap
