import Wyrmroot.Bootstrap.Family

/-!
# Which call an exit code names

A native error that the bootstrap returns is that of the first call of
`BootstrapSystem` that failed: a cleanup that follows keeps the error in front
of its own. The operation in the code is that of the last call that failed.
-/

namespace Wyrmroot.Bootstrap

open Outcome
open Loader (LoadedProcess LaunchProfile ReceivedHandleInfo)
open Supervision (Deadline TerminationAbi)

variable {τ α β : Type} {p : Platform τ Cause} {abi : TerminationAbi}

/-- The platform names the calls of the system in their errors. -/
def Naming (p : Platform τ Cause) : Prop :=
  ∀ c s cause io, p.system c s = (.error cause, io) → cause.operation = c.operation

theorem nativeSystem_naming (p : Platform τ KernelError) : Naming (nativeSystem p) := by
  intro c s cause io h
  obtain ⟨h, -⟩ := Prod.mk.inj h
  cases hanswer : (p.system c s).1 with
  | ok r =>
      rw [hanswer] at h
      cases h
  | error e =>
      rw [hanswer] at h
      obtain rfl := Except.error.inj h
      rfl

/-- What the failing calls say of an outcome: where it is a native error, the
first of them returned it, and where it is a value, there is none. -/
def Blamed : Outcome (BootstrapError Cause) α → List Nat → Prop
  | .ok _, t => t = []
  | .err (.native cause), t => t.head? = some cause.operation
  | _, _ => True

/-- A program whose failing calls say that of how it ends. -/
def Blames (m : Boot τ Cause α) : Prop :=
  ∀ s, Prog.Sees Event.failedOperation m (fun o _ t => Blamed o t) s

/-- An error that no call of the system returned. -/
def Foreign (e : BootstrapError Cause) : Prop := ∀ cause, e ≠ .native cause

variable {e : BootstrapError Cause}

theorem Foreign.blamed (h : Foreign e) (t : List Nat) :
    Blamed (.err e : Outcome _ α) t := by
  cases e with
  | native cause => exact absurd rfl (h cause)
  | _ => trivial

/-- A pure result without a native error. -/
def Outside (x : Outcome (BootstrapError Cause) α) : Prop := ∀ e, x = .err e → Foreign e

variable {ε' : Type}

theorem Outside.mapErr (x : Outcome ε' α) {f : ε' → BootstrapError Cause}
    (hf : ∀ e, Foreign (f e)) : Outside (x.mapErr f) := by
  intro e he
  obtain ⟨e', -, rfl⟩ := mapErr_eq_err.mp he
  exact hf e'

variable {x : Outcome (BootstrapError Cause) α}

theorem Outside.bind
    {f : α → Outcome (BootstrapError Cause) β} (hx : Outside x) (hf : ∀ a, Outside (f a)) :
    Outside (x >>= f) := by
  intro e he
  cases x with
  | ok a => exact hf a e he
  | err e' => exact err.inj he ▸ hx e' rfl
  | panic => cases he

theorem Outside.rejectIf {c : Bool} (h : Foreign e) :
    Outside (rejectIf c e) := by
  intro e' he
  cases c with
  | false => cases he
  | true => exact err.inj he ▸ h

theorem Outside.okOr {x : Option α} (h : Foreign e) :
    Outside (Outcome.okOr x e) := by
  intro e' he
  cases x with
  | none => exact err.inj he ▸ h
  | some a => cases he

theorem Blamed.append {t : List Nat} (h : Blamed (.err e : Outcome _ α) t) (t' : List Nat) :
    Blamed (.err e : Outcome _ β) (t ++ t') := by
  cases e with
  | native cause =>
      cases t with
      | nil => cases h
      | cons n rest => exact h
  | _ => trivial

variable {m : Boot τ Cause α}

namespace Blames

theorem pure (a : α) : Blames (pure a : Boot τ Cause α) := fun _ => rfl

theorem throw (h : Foreign e) :
    Blames (Prog.throw e : Boot τ Cause α) := fun _ => h.blamed []

theorem bind {f : α → Boot τ Cause β} (hm : Blames m)
    (hf : ∀ a, Blames (f a)) : Blames (m >>= f) := by
  intro s
  refine (hm s).bind (fun a s' t h => ?_) (fun e s' t h => ?_) fun s' t h => trivial
  · obtain rfl : t = [] := h
    exact hf a s'
  · have hend := Blamed.append (β := β) h []
    rwa [List.append_nil] at hend

theorem get_bind {f : BootState τ → Boot τ Cause α} (hf : ∀ s, Blames (f s)) :
    Blames (Prog.get >>= f) := fun s => Prog.Sees.get_bind (hf s s)

theorem lift (h : Outside x) :
    Blames (Prog.lift x : Boot τ Cause α) := by
  intro s
  cases x with
  | ok a => rfl
  | err e => exact (h e rfl).blamed []
  | panic => trivial

theorem okOr {x : Option α} (h : Foreign e) :
    Blames (Prog.okOr x e : Boot τ Cause α) := by
  cases x with
  | none => exact throw h
  | some a => exact pure a

end Blames

theorem request_blames (hp : Naming p) (c : Call) (s : BootState τ) :
    Prog.Sees Event.failedOperation (request p c) (fun o _ t =>
      (∃ r, o = .ok r ∧ t = []) ∨ ∃ cause, o = .err cause ∧ t = [cause.operation]) s := by
  unfold Prog.Sees Prog.wp request
  rcases hanswer : p.system c s.io with ⟨cause | r, io⟩
  · refine .inr ⟨cause, rfl, ?_⟩
    rw [hp c s.io cause io hanswer]
    rfl
  · exact .inl ⟨r, rfl, rfl⟩

theorem native_blames (hp : Naming p) (c : Call) : Blames (native p c) := by
  intro s
  refine Prog.Sees.recast ((request_blames hp c s).mono fun o s' t h => ?_)
  rcases h with ⟨r, rfl, rfl⟩ | ⟨cause, rfl, rfl⟩
  · rfl
  · rfl

theorem hosted_quiet {ω' σ : Type} {part : BootState τ → σ} {put : σ → BootState τ → BootState τ}
    {event : ω' → Event} (hevent : ∀ e, (event e).failedOperation = []) {m : Prog σ ω' ε' α}
    (s : BootState τ) :
    Prog.Sees Event.failedOperation (Prog.hosted part put event m) (fun _ _ t => t = []) s :=
  Prog.Sees.hosted (Prog.digest_eq_nil fun e _ => hevent e)

/-! ## Closing -/

/-- The first error of a loop that closes, and the failing calls. -/
def FirstFailed (first : Option (BootstrapError Cause)) (t : List Nat) : Prop :=
  match first with
  | none => t = []
  | some e => Blamed (.err e : Outcome _ Unit) t

/-- A loop that closes, or one of its steps: it does not fail itself. -/
def Gathered (before : List Nat) : Outcome (BootstrapError Cause) (Option (BootstrapError Cause)) →
    List Nat → Prop
  | .ok last, t => FirstFailed last (before ++ t)
  | .err _, _ => False
  | .panic, _ => True

theorem closeEach_blames (hp : Naming p) {handles : List ReceivedHandleInfo} :
    ∀ {first : Option (BootstrapError Cause)} {before : List Nat}, FirstFailed first before →
      ∀ s : BootState τ, Prog.Sees Event.failedOperation (closeEach p first handles)
        (fun o _ t => Gathered before o t) s := by
  induction handles with
  | nil =>
      intro first before h s
      show FirstFailed first (before ++ [])
      rwa [List.append_nil]
  | cons info rest ih =>
      intro first before h s
      refine (native_blames hp (.closeHandle info.handle) s).attempt_bind (fun u s₁ t₁ h₁ => ?_)
        (fun e s₁ t₁ h₁ => ?_) fun _ _ _ => trivial
      · obtain rfl : t₁ = [] := h₁
        exact ih h s₁
      · have hfirst : FirstFailed (first.or (some e)) (before ++ t₁) := by
          cases first with
          | none =>
              obtain rfl : before = [] := h
              exact h₁
          | some e' => exact Blamed.append (α := Unit) h t₁
        refine (ih hfirst s₁).mono fun o s₂ t h => ?_
        cases o with
        | ok last =>
            show FirstFailed last (before ++ (t₁ ++ t))
            rw [← List.append_assoc]
            exact h
        | err e => exact h
        | panic => trivial

theorem closeReceivedHandles_blames (hp : Naming p) (handles : List ReceivedHandleInfo) :
    Blames (closeReceivedHandles p handles) := by
  intro s
  have hnone : FirstFailed none [] := rfl
  refine (closeEach_blames hp hnone s).bind (fun last s₁ t h => ?_) (fun e s₁ t h => h.elim)
    fun _ _ _ => trivial
  cases last with
  | none =>
      obtain rfl : t = [] := h
      rfl
  | some e =>
      have hend := Blamed.append (β := Unit) h []
      exact hend

/-! ## A child's cleanup -/

/-- A program of which nothing failed where it returns a value. -/
def Flawless {ε' : Type} (m : Io τ ε' α) : Prop :=
  ∀ s, Prog.Sees Event.failedOperation m (fun o _ t => ∀ a, o = .ok a → t = []) s

/-- Whether a cleanup is still without an error. -/
def Unfailed (first : Option (ChildCleanupError Cause)) (t : List Nat) : Prop :=
  first = none → t = []

theorem cleanupStep_blames {first : Option (ChildCleanupError Cause)} {stage : ChildCleanupStage}
    {body : Io τ Cause Unit} {before : List Nat} (hbody : Flawless body)
    (h : Unfailed first before) (s : BootState τ) :
    Prog.Sees Event.failedOperation (cleanupStep first stage body)
      (fun o _ t => ∀ last, o = .ok last → Unfailed last (before ++ t)) s := by
  refine (hbody s).attempt_bind (fun u s₁ t h₁ => ?_) (fun e s₁ t h₁ => ?_) fun s₁ t h₁ => ?_
  · intro last hlast
    obtain rfl := ok.inj hlast
    obtain rfl := h₁ u rfl
    simpa using h
  · intro last hlast
    obtain rfl := ok.inj hlast
    intro hnone
    cases first <;> cases hnone
  · intro last hlast
    cases hlast

theorem close_flawless (hp : Naming p) (handle : Nat) :
    Flawless (request p (.closeHandle handle)) := by
  intro s
  refine (request_blames hp (.closeHandle handle) s).mono fun o s' t h => ?_
  rcases h with ⟨r, rfl, rfl⟩ | ⟨cause, rfl, -⟩
  · exact fun _ _ => rfl
  · intro a ha
    cases ha

theorem terminateStep_blames (process : Nat) (terminate : Bool) (s : BootState τ) :
    Prog.Sees Event.failedOperation (terminateStep p process terminate)
      (fun o _ t => ∀ last, o = .ok last → Unfailed last t) s := by
  cases terminate with
  | false => exact fun _ _ _ => rfl
  | true =>
      have hbody : Flawless (hostLoader .reclaim
          (Loader.request p.loader (.processTerminate process)) : Io τ Cause Unit) :=
        fun s => (hosted_quiet (fun _ => rfl) s).mono fun _ _ _ h _ _ => h
      have hfresh : Unfailed none [] := fun _ => rfl
      exact cleanupStep_blames hbody hfresh s

theorem cleanupLoadedProcess_flawless (hp : Naming p) (child : LoadedProcess) (terminate : Bool) :
    Flawless (cleanupLoadedProcess p child terminate) := by
  intro s
  refine (terminateStep_blames child.process terminate s).bind (fun first s₁ t₁ h₁ => ?_)
    (fun e s₁ t₁ _ _ ha => by cases ha) fun s₁ t₁ _ _ ha => by cases ha
  refine (cleanupStep_blames (close_flawless hp child.launchChannel) (h₁ first rfl) s₁).bind
    (fun second s₂ t₂ h₂ => ?_) (fun e s₂ t₂ _ _ ha => by cases ha) fun s₂ t₂ _ _ ha => by cases ha
  refine (cleanupStep_blames (close_flawless hp child.process) (h₂ second rfl) s₂).bind
    (fun third s₃ t₃ h₃ => ?_) (fun e s₃ t₃ _ _ ha => by cases ha) fun s₃ t₃ _ _ ha => by cases ha
  cases third with
  | none =>
      intro a _
      have hall := h₃ none rfl rfl
      show t₁ ++ (t₂ ++ (t₃ ++ [])) = []
      simpa using hall
  | some e =>
      intro a ha
      cases ha

theorem superviseInit_blames (hp : Naming p) (profile : LaunchProfile) (child : LoadedProcess)
    (deadline : Deadline) : Blames (superviseInit p abi profile child deadline) := by
  intro s
  have hcleanup : ∀ terminate, Blames (Prog.within id (fun s _ => s) BootstrapError.cleanup
      (cleanupLoadedProcess p child terminate)) := by
    intro terminate s
    refine Prog.Sees.recast ((cleanupLoadedProcess_flawless hp child terminate s).mono ?_)
    intro o s' t h
    cases o with
    | ok u => exact h u rfl
    | err e | panic => trivial
  have hawait : Prog.Sees Event.failedOperation (hostSupervisor
      (Supervision.awaitChildReadyProfileObserved abi p.supervisor child.process
        child.launchChannel profile systemInitTransactionId deadline)) (fun _ _ t => t = []) s :=
    hosted_quiet (fun _ => rfl) s
  refine hawait.attempt_bind (fun u s₁ t₁ h₁ => ?_) (fun e s₁ t₁ h₁ => ?_) fun _ _ _ => trivial
  · obtain rfl := h₁
    exact hcleanup false s₁
  · obtain rfl := h₁
    refine Blames.bind (hcleanup _) (fun _ => ?_) s₁
    split
    · exact .throw fun _ h => by cases h
    · exact .throw fun _ h => by cases h

/-! ## Loading -/

theorem requiredEntry_outside (bytes : List UInt8) : Outside (requiredEntry bytes) := by
  refine (Outside.mapErr _ fun _ _ h => by cases h).bind fun archive => ?_
  refine (Outside.mapErr _ fun _ _ h => by cases h).bind fun entry => ?_
  refine (Outside.rejectIf fun _ h => by cases h).bind fun _ => ?_
  refine (Outside.okOr fun _ h => by cases h).bind fun path => ?_
  intro e he
  cases he

theorem loadInit_blames (launch : Launcher τ Cause) (bootfs : List UInt8) (s : BootState τ) :
    Prog.Sees Event.failedOperation (loadInit launch bootfs) (fun o _ t => t = [] ∧ Outside o) s := by
  have hentry : Prog.Sees Event.failedOperation (Prog.lift (requiredEntry bootfs) : Boot τ Cause _)
      (fun o _ t => t = [] ∧ Outside o) s := ⟨rfl, requiredEntry_outside bootfs⟩
  refine hentry.bind (fun entry s₁ t₁ h₁ => ?_) (fun e s₁ t₁ h₁ => ⟨h₁.1, ?_⟩)
    fun s₁ t₁ h₁ => ⟨h₁.1, fun _ he => by cases he⟩
  · obtain ⟨rfl, -⟩ := h₁
    have hload : Prog.Sees Event.failedOperation (Prog.within id (fun s _ => s)
        BootstrapError.loader (hostLoader .loader (launch entry.1 entry.2)))
        (fun o _ t => t = [] ∧ Outside o) s₁ := by
      refine Prog.Sees.recast ((hosted_quiet (fun _ => rfl) s₁).mono fun o s' t h => ⟨h, ?_⟩)
      exact .mapErr o fun _ _ h => by cases h
    refine hload.bind (fun loaded s₂ t₂ h₂ => ?_) (fun e s₂ t₂ h₂ => ⟨?_, ?_⟩)
      fun s₂ t₂ h₂ => ⟨?_, fun _ he => by cases he⟩
    · obtain ⟨rfl, -⟩ := h₂
      exact ⟨rfl, fun _ he => by cases he⟩
    · rw [h₂.1]
      rfl
    · exact fun e' he => err.inj he ▸ h₂.2 e rfl
    · rw [h₂.1]
      rfl
  · exact fun e' he => err.inj he ▸ h₁.2 e rfl

/-- What the mapping of the bootfs comes to: a native error is that of the
call that failed, and the callback's is not native. -/
def Mapping : Outcome (BootstrapError Cause) (Except (BootstrapError Cause) α) → List Nat → Prop
  | .ok (.error e), t => t = [] ∧ Foreign e
  | o, t => Blamed o t

theorem withBootfsBytes_blames (hp : Naming p) (root bootfs : Nat) (plan : MappingPlan)
    (launch : Launcher τ Cause) (s : BootState τ) :
    Prog.Sees Event.failedOperation (Prog.within id (fun s _ => s) BootstrapError.native
      (withBootfsBytes p root bootfs plan (loadInit launch))) (fun o _ t => Mapping o t) s := by
  refine Prog.Sees.recast ((request_blames hp (.mapBootfs root bootfs plan) s).bind
    (fun bytes s₁ t₁ h₁ => ?_) (fun cause s₁ t₁ h₁ => ?_) fun _ _ _ => trivial)
  · obtain rfl : t₁ = [] := by
      rcases h₁ with ⟨r, -, h⟩ | ⟨cause, h, -⟩
      · exact h
      · cases h
    have hunmap : ∀ (result : Except (BootstrapError Cause) Unit) (s₂ : BootState τ),
        (∀ e, result = .error e → Foreign e) →
        Prog.Sees Event.failedOperation (request p (.unmapBootfs root bootfs plan) >>= fun _ =>
          (pure result : Io τ Cause (Except (BootstrapError Cause) Unit)))
          (fun o _ t => Mapping (o.mapErr .native) t) s₂ := by
      intro result s₂ hforeign
      refine (request_blames hp (.unmapBootfs root bootfs plan) s₂).bind (fun r s₃ t h => ?_)
        (fun cause s₃ t h => ?_) fun _ _ _ => trivial
      · obtain rfl : t = [] := by
          rcases h with ⟨r, -, h⟩ | ⟨cause, h, -⟩
          · exact h
          · cases h
        cases result with
        | ok u => rfl
        | error e => exact ⟨rfl, hforeign e rfl⟩
      · rcases h with ⟨r, h, -⟩ | ⟨cause', h, rfl⟩
        · cases h
        · obtain rfl := err.inj h
          rfl
    refine (loadInit_blames launch bytes s₁).attempt_bind (fun u s₂ t₂ h₂ => ?_)
      (fun e s₂ t₂ h₂ => ?_) fun _ _ _ => trivial
    · obtain ⟨rfl, -⟩ := h₂
      exact hunmap (.ok u) s₂ fun e he => by cases he
    · obtain ⟨rfl, hout⟩ := h₂
      exact hunmap (.error e) s₂ fun e' he => Except.error.inj he ▸ hout e rfl
  · rcases h₁ with ⟨r, h, -⟩ | ⟨cause', h, rfl⟩
    · cases h
    · obtain rfl := err.inj h
      rfl

/-! ## Whole runs -/

/-- What a run needs of its entry point. -/
structure Handoff.Blaming (h : Handoff τ Cause) : Prop where
  authority : ∀ r, Blames (h.authority r)

theorem queryEach_blames (hp : Naming p) (handles : List ReceivedHandleInfo) :
    Blames (queryEach p handles) := by
  induction handles with
  | nil => exact .pure _
  | cons info rest ih =>
      exact (native_blames hp _).bind fun fresh => ih.bind fun others => .pure _

theorem validatedLoadAuthority_blames (hp : Naming p) (handles : List ReceivedHandleInfo) :
    Blames (validatedLoadAuthority p handles) := by
  unfold validatedLoadAuthority
  split
  · exact (queryEach_blames hp _).bind fun _ =>
      (Blames.lift (.mapErr _ fun _ _ h => by cases h)).bind fun _ => .pure _
  · exact .throw fun _ h => by cases h

theorem validatedResourceDomainAuthority_blames (hp : Naming p)
    (handles : Vector ReceivedHandleInfo maxBootstrapHandles) :
    Blames (validatedResourceDomainAuthority p handles) := by
  unfold validatedResourceDomainAuthority
  split
  · exact (native_blames hp _).bind fun _ => (queryEach_blames hp _).bind fun _ =>
      (Blames.lift (.mapErr _ fun _ _ h => by cases h)).bind fun _ => .pure _
  · exact fun _ => trivial

theorem supervisorHandoff_blaming (hp : Naming p) : (supervisorHandoff p).Blaming :=
  ⟨fun _ => (validatedLoadAuthority_blames hp _).bind fun _ => .pure _⟩

theorem resourceDomainHandoff_blaming (hp : Naming p) : (resourceDomainHandoff p).Blaming :=
  ⟨fun _ => (validatedResourceDomainAuthority_blames hp _).bind fun _ => .pure _⟩

theorem bootfsMappingPlan_blames (hp : Naming p) (bootfs : Nat) :
    Blames (bootfsMappingPlan p bootfs) :=
  (native_blames hp _).bind fun _ => .lift (.mapErr _ fun _ _ h => by cases h)

variable {h : Handoff τ Cause}

theorem operation_blames (hp : Naming p) (hh : h.Blaming)
    (r : Received h.bytesLen h.handlesLen) (deadline : Deadline) :
    Blames (operation p abi h r deadline) := by
  refine (Blames.lift (.mapErr _ fun _ _ h => by cases h)).bind fun message => ?_
  refine (Blames.okOr fun _ h => by cases h).bind fun transactionId => ?_
  refine (Blames.lift (.rejectIf fun _ h => by cases h)).bind fun _ => ?_
  refine (hh.authority r).bind fun authority => ?_
  refine (bootfsMappingPlan_blames hp _).bind fun plan => ?_
  intro s
  refine (withBootfsBytes_blames hp _ _ plan authority.2 s).bind (fun result s₁ t h => ?_)
    (fun e s₁ t h => ?_) fun _ _ _ => trivial
  · cases result with
    | ok u =>
        obtain rfl : t = [] := h
        refine Blames.bind (.lift fun e he => by cases he) (fun _ => ?_) s₁
        refine .get_bind fun s₂ => (Blames.okOr fun _ h => by cases h).bind fun loaded => ?_
        exact (superviseInit_blames hp h.profile loaded deadline).bind fun _ => .pure _
    | error e =>
        obtain ⟨rfl, hforeign⟩ := h
        exact hforeign.blamed []
  · have hend := Blamed.append (β := UInt64) h []
    rwa [List.append_nil] at hend

theorem sendReady_blames (hp : Naming p) (encode : UInt64 → Decode (List UInt8))
    (bootstrapChannel : Nat) (transactionId : UInt64) :
    Blames (sendReady p encode bootstrapChannel transactionId) :=
  (Blames.lift (.mapErr _ fun _ _ h => by cases h)).bind fun _ =>
    (native_blames hp _).bind fun _ => native_blames hp _

/-- Two parts, of which the second runs whatever comes of the first, and the
first error is the one that is returned. -/
theorem settled_blames {m' : Boot τ Cause β}
    {rest : α → β → Boot τ Cause Unit} (hm : Blames m) (hm' : Blames m')
    (hrest : ∀ a b, Blames (rest a b)) :
    Blames (do
      let first ← Prog.attempt m
      let second ← Prog.attempt m'
      let a ← Prog.lift (ofExcept first)
      let b ← Prog.lift (ofExcept second)
      rest a b) := by
  intro s
  refine (hm s).attempt_bind (fun a s₁ t₁ h₁ => ?_) (fun e s₁ t₁ h₁ => ?_) fun _ _ _ => trivial
  · obtain rfl : t₁ = [] := h₁
    refine (hm' s₁).attempt_bind (fun b s₂ t₂ h₂ => ?_) (fun e s₂ t₂ h₂ => ?_)
      fun _ _ _ => trivial
    · obtain rfl : t₂ = [] := h₂
      exact hrest a b s₂
    · exact Blamed.append (β := Unit) h₂ []
  · refine (hm' s₁).attempt_bind (fun b s₂ t₂ h₂ => ?_) (fun e' s₂ t₂ h₂ => ?_)
      fun _ _ _ => trivial
    · exact Blamed.append (β := Unit) h₁ _
    · exact Blamed.append (β := Unit) h₁ _

theorem settle_blames (hp : Naming p) (hh : h.Blaming)
    (r : Received h.bytesLen h.handlesLen) (bootstrapChannel : Nat) (deadline : Deadline) :
    Blames (settle p abi h r bootstrapChannel deadline) :=
  settled_blames (operation_blames hp hh r deadline) (closeReceivedHandles_blames hp _)
    fun transactionId _ => sendReady_blames hp h.encodeReady bootstrapChannel transactionId

theorem refuseCounts_blames (hp : Naming p) {b h : Nat} (bootstrapChannel : Nat)
    (r : Received b h) : Blames (refuseCounts p bootstrapChannel r) :=
  settled_blames (closeReceivedHandles_blames hp _) (native_blames hp _)
    fun _ _ => .throw fun _ h => by cases h

theorem runHandoff_blames (hp : Naming p) (hh : h.Blaming)
    (bootstrapChannel : Nat) (deadline : Deadline) :
    Blames (runHandoff p abi h bootstrapChannel deadline) := by
  refine (native_blames hp _).bind fun info => ?_
  refine (Blames.lift (.mapErr _ fun _ _ h => by cases h)).bind fun _ => ?_
  refine (native_blames hp _).bind fun r => ?_
  split
  · exact refuseCounts_blames hp bootstrapChannel r
  · exact settle_blames hp hh r bootstrapChannel deadline

/-! ## Diagnoses -/

theorem Call.operation_bounds (c : Call) : 0 < c.operation ∧ c.operation < 2 ^ 4 := by
  cases c <;> simp [Call.operation]

variable {w : List Event}

theorem failedOperations_bounds {n : Nat} (h : n ∈ failedOperations w) :
    0 < n ∧ n < 2 ^ 4 := by
  obtain ⟨e, -, he⟩ := List.mem_flatMap.mp h
  cases e with
  | failed c =>
      obtain rfl := List.mem_singleton.mp he
      exact c.operation_bounds
  | _ => cases he

/-- The code of a run that failed tells the family of its error, unless the
code is a descendant's, and the operation of a native one. -/
def Diagnosed (abi : TerminationAbi) (error : BootstrapError Cause) (w : List Event) : Prop :=
  let code := nativeSystemExitCode abi (failedNativeOperation w) error
  (∀ f, family abi error = some f → readFamily code = f) ∧
    ∀ cause, error = .native cause → Packed.field code 20 4 = cause.operation

/-- The first and the last call of the system to fail are the same operation. -/
def SameOperation (w : List Event) : Prop :=
  (failedOperations w).head? = (failedOperations w).getLast?

theorem diagnosed_iff {error : BootstrapError Cause}
    (h : Blamed (.err error : Outcome _ Unit) (failedOperations w)) :
    Diagnosed abi error w ↔
      ¬Misread error ∧ ((∃ cause, error = .native cause) → SameOperation w) := by
  have hlast : ∀ cause, error = .native cause → ∃ n, failedOperations w ≠ [] ∧
      n ∈ failedOperations w ∧ failedNativeOperation w = n ∧
      (failedOperations w).getLast? = some n ∧ (failedOperations w).head? = some cause.operation := by
    rintro cause rfl
    have hne : failedOperations w ≠ [] := by
      intro hnil
      rw [hnil] at h
      cases h
    refine ⟨(failedOperations w).getLast hne, hne, List.getLast_mem hne, ?_,
      List.getLast?_eq_some_getLast hne, h⟩
    rw [failedNativeOperation, List.getLastD_eq_getLast?, List.getLast?_eq_some_getLast hne]
    rfl
  have hbounds : ∀ cause, error = .native cause →
      0 < failedNativeOperation w ∧ failedNativeOperation w < 2 ^ 4 := by
    intro cause hcause
    obtain ⟨n, -, hmem, hn, -⟩ := hlast cause hcause
    rw [hn]
    exact failedOperations_bounds hmem
  have hfamily : (∀ f, family abi error = some f →
      readFamily (nativeSystemExitCode abi (failedNativeOperation w) error) = f) ↔
        ¬Misread error := by
    cases hown : family abi error with
    | none =>
        refine iff_of_true (fun f hf => by cases hf) fun hmisread => ?_
        rw [hmisread.own abi] at hown
        cases hown
    | some f =>
        rw [← readFamily_iff abi hbounds hown]
        constructor
        · intro hread
          exact hread f rfl
        · rintro hread _ ⟨⟩
          exact hread
  refine and_congr hfamily ?_
  constructor
  · rintro hnamed ⟨cause, hcause⟩
    obtain ⟨n, -, -, hn, hgetLast, hhead⟩ := hlast cause hcause
    have hread := hnamed cause hcause
    subst hcause
    rw [(native_fields abi cause (hbounds cause rfl).2).2.1, hn] at hread
    rw [SameOperation, hgetLast, hhead, hread]
  · intro hsame cause hcause
    obtain ⟨n, -, -, hn, hgetLast, hhead⟩ := hlast cause hcause
    have heq := hsame ⟨cause, hcause⟩
    subst hcause
    rw [SameOperation, hgetLast, hhead, Option.some.injEq] at heq
    rw [(native_fields abi cause (hbounds cause rfl).2).2.1, hn, heq]

/-- A run of the supervisor bootstrap that fails tells the family of its error
and the operation that failed, but where the error shares its code with a
native one, and where it is native and a later call of the system failed too,
in another operation. The reader takes a code that two families share for the
native one. -/
theorem exitCode_diagnoses (abi : TerminationAbi) (p : Platform τ KernelError)
    (bootstrapChannel : Nat) (deadline : Deadline) (t : τ) (error : BootstrapError Cause) :
    (let r := runSupervisorResourceDomainBootstrap (nativeSystem p) abi bootstrapChannel deadline
        ⟨t, none⟩;
      r.1 = .err error → (Diagnosed abi error r.2.2 ↔
        ¬Misread error ∧ ((∃ cause, error = .native cause) → SameOperation r.2.2))) ∧
    (let r := runSupervisorBootstrap (nativeSystem p) abi bootstrapChannel deadline ⟨t, none⟩;
      r.1 = .err error → (Diagnosed abi error r.2.2 ↔
        ¬Misread error ∧ ((∃ cause, error = .native cause) → SameOperation r.2.2))) := by
  have hp := nativeSystem_naming p
  constructor
  · intro r hr
    have hblamed : Blamed r.1 (failedOperations r.2.2) :=
      runHandoff_blames hp (resourceDomainHandoff_blaming hp) bootstrapChannel deadline ⟨t, none⟩
    rw [hr] at hblamed
    exact diagnosed_iff hblamed
  · intro r hr
    have hblamed : Blamed r.1 (failedOperations r.2.2) :=
      runHandoff_blames hp (supervisorHandoff_blaming hp) bootstrapChannel deadline ⟨t, none⟩
    rw [hr] at hblamed
    exact diagnosed_iff hblamed

/-! ## A close that hides a query -/

/-- The INIT of the kernel, with its four roles. -/
def domainInit : List UInt8 :=
  headerText protocolMinorV3 initType bootstrapInitV3Size 4 1 ++ leBytes 8 selfRootAddressRegion ++
    leBytes 8 bootfsMemoryObject ++ leBytes 8 loaderTaskGroup ++ leBytes 8 resourceDomainTaskGroup

/-- A kernel that answers for no handle but the bootstrap channel's: the
handles of the INIT cannot be queried, and can be closed if `closes`. -/
def strictPlatform (closes : Bool) : Platform Nat KernelError where
  system
    | .queryCapabilityInfo 1, n => (.ok bootstrapChannelExpectation, n)
    | .queryCapabilityInfo _, n => (.error ⟨.status (-5), by show 5 < statusLimit; decide⟩, n)
    | .receiveChannel _ _ _, n => (.ok ⟨⟨72, 4⟩, Vector.ofFn fun i => domainInit.getD i 0,
        Vector.ofFn fun i => ⟨i + 2, .other 0, ∅, 0, []⟩⟩, n)
    | .queryMemoryObjectSize _, n => (.ok (0 : Nat), n)
    | .mapBootfs _ _ _, n => (.ok [], n)
    | .unmapBootfs _ _ _, n => (.ok (), n)
    | .sendChannel _ _, n => (.ok (), n)
    | .closeHandle _, n =>
        (if closes then .ok () else .error ⟨.status (-6), by show 6 < statusLimit; decide⟩, n)
  loader := ⟨fun _ n => (.error ⟨.status (-1), by show 1 < statusLimit; decide⟩, n)⟩
  supervisor := ⟨fun _ n => (.error ⟨.status (-1), by show 1 < statusLimit; decide⟩, n)⟩

def strictRun (closes : Bool) : Outcome (BootstrapError Cause) Unit × BootState Nat × List Event :=
  runSupervisorResourceDomainBootstrap (nativeSystem (strictPlatform closes)) ⟨0, 0, 0⟩ 1
    (.monotonic 0) ⟨0, none⟩

theorem strictRun_queries (closes : Bool) :
    ∃ cause, (strictRun closes).1 = .err (.native cause) ∧ cause.operation = 1 ∧
      cause.error = .status (-5) := by
  cases closes <;> exact ⟨_, rfl, rfl, rfl⟩

/-- The query of the first handle fails, and then every close: the code says
that a close failed, with the status of the query. -/
theorem strictRun_blames_close :
    ∃ error, (strictRun false).1 = .err error ∧
      nativeSystemExitCode ⟨0, 0, 0⟩ (failedNativeOperation (strictRun false).2.2) error =
        0xB0710005 ∧
      ¬Diagnosed ⟨0, 0, 0⟩ error (strictRun false).2.2 := by
  obtain ⟨cause, hrun, hoperation, herror⟩ := strictRun_queries false
  have hlast : failedNativeOperation (strictRun false).2.2 = 7 := by decide +kernel
  refine ⟨_, hrun, ?_, fun hdiagnosed => ?_⟩
  · rw [hlast]
    obtain ⟨error, hbounded, operation⟩ := cause
    cases herror
    show 0xB0000000 ||| 0x00010000 ||| Diagnostics.unsignedAbs (-5) ||| 7 <<< 20 = 0xB0710005
    decide
  · have hnamed := hdiagnosed.2 cause rfl
    rw [(native_fields _ cause (by rw [hlast]; decide)).2.1, hlast, hoperation] at hnamed
    cases hnamed

/-- The same query, where the handles can be closed. -/
theorem strictRun_names_query :
    ∃ error, (strictRun true).1 = .err error ∧ (Diagnosed ⟨0, 0, 0⟩ error (strictRun true).2.2 ↔
      ¬Misread error ∧ ((∃ cause, error = .native cause) → SameOperation (strictRun true).2.2)) := by
  obtain ⟨cause, hrun, -, -⟩ := strictRun_queries true
  exact ⟨_, hrun, (exitCode_diagnoses ⟨0, 0, 0⟩ (strictPlatform true) 1 (.monotonic 0) 0 _).1 hrun⟩

end Wyrmroot.Bootstrap
