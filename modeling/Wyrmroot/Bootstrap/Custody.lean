import Wyrmroot.Bootfs.Agreement
import Wyrmroot.Bootstrap.Traffic

/-!
# Custody in the primordial bootstrap

The handles of the INIT and the two handles that the load of `system/init`
returns are all the bootstrap has to give back. `Ran` lists the shapes of the
traffic of a whole run; in all but one everything is given back. The odd one is
an unmap that fails behind a load that succeeded: the error of the unmap is
returned in the place of the callback's result, and the process is forgotten.
-/

namespace Wyrmroot.Bootstrap

open Outcome
open Loader (Load LoadedProcess LoadState LaunchProfile LoadAuthority)
open Supervision (Deadline TerminationAbi)

variable {τ ε : Type} {p : Platform τ ε} {abi : TerminationAbi} {profile : LaunchProfile}
  {child : LoadedProcess}

/-! ## READY -/

/-- The steps of watching a child. -/
def Step.watches : Step → Prop
  | .accepted _ | .exited _ | .terminated _ => True
  | _ => False

/-- What the wait for READY reports. -/
def Reports (child : LoadedProcess) (t : List Step) :
    Outcome (Supervision.ObservedSupervisionError ε) Unit → Prop
  | .ok _ => .accepted child.launchChannel ∈ t
  | .err e => e.processExitObserved = true → .exited child.process ∈ t
  | .panic => False

theorem observed_watches {w : List Supervision.Event} :
    ∀ x ∈ Prog.digest (observed profile) w, x.watches := by
  intro x hx
  obtain ⟨e, -, hx⟩ := List.mem_flatMap.mp hx
  rcases List.mem_append.mp hx with hx | hx
  · obtain ⟨_, -, rfl⟩ := List.mem_map.mp hx
    exact trivial
  · obtain ⟨_, -, rfl⟩ := List.mem_map.mp hx
    exact trivial

theorem await_steps (child : LoadedProcess) (deadline : Deadline) (s : BootState τ) :
    Steps profile (hostSupervisor (Supervision.awaitChildReadyProfileObserved abi p.supervisor
        child.process child.launchChannel profile systemInitTransactionId deadline))
      (fun o s' t => Keeps s s' ∧ (∀ x ∈ t, x.watches) ∧ Reports child t o) s := by
  refine Prog.Sees.hosted (Prog.wp_mono
    (Supervision.awaitChildReady_spec child.process child.launchChannel profile
      systemInitTransactionId deadline s.io) fun o t w h => ⟨rfl, observed_watches, ?_⟩)
  cases o with
  | ok u =>
      obtain ⟨e, he, haccepted⟩ := h
      refine List.mem_flatMap.mpr ⟨e, he, List.mem_append_left _ ?_⟩
      rw [haccepted]
      exact .head _
  | err error =>
      intro hexit
      obtain ⟨e, he, hexited⟩ := h hexit
      refine List.mem_flatMap.mpr ⟨e, he, List.mem_append_right _ ?_⟩
      rw [hexited]
      exact .head _
  | panic => exact h

/-- The steps from the wait for READY to the end of the cleanup. -/
structure Supervised (child : LoadedProcess) (o : Outcome (BootstrapError ε) Unit)
    (seen closing : List Step) : Prop where
  watching : ∀ x ∈ seen, x.watches
  closing : Closing [child.launchChannel, child.process] (o = .ok ()) closing
  accepted : o = .ok () → .accepted child.launchChannel ∈ seen
  ended : .accepted child.launchChannel ∈ seen ∨ .terminated child.process ∈ seen ∨
    .exited child.process ∈ seen

theorem cleanup_steps (child : LoadedProcess) (terminate : Bool) (s : BootState τ) :
    Steps profile (Prog.within id (fun s _ => s) BootstrapError.cleanup
        (cleanupLoadedProcess p child terminate)) (fun o s' t => o ≠ .panic ∧ Keeps s s' ∧
      Reclaimed child terminate (o = .ok ()) t) s := by
  refine Prog.Sees.recast ((cleanupLoadedProcess_steps child terminate s).mono fun o s' t h => ?_)
  obtain ⟨hpanic, hkeeps, closing, ht, hclosing⟩ := h
  exact ⟨mapErr_ne_panic hpanic, hkeeps, closing, ht, hclosing.closes, hclosing.only,
    fun hok => hclosing.all (mapErr_eq_ok.mp hok)⟩

theorem superviseInit_steps (child : LoadedProcess) (deadline : Deadline) (s : BootState τ) :
    Steps profile (superviseInit p abi profile child deadline) (fun o _ t => o ≠ .panic ∧
      ∃ seen closing, t = seen ++ closing ∧ Supervised child o seen closing) s := by
  refine (await_steps child deadline s).attempt_bind (fun u s₁ t₁ h => ?_) (fun error s₁ t₁ h => ?_)
    fun s₁ t₁ h => h.2.2.elim
  · obtain ⟨-, hwatch, haccepted⟩ := h
    refine (cleanup_steps child false s₁).mono fun o s₂ t₂ h => ?_
    obtain ⟨hpanic, -, closing, ht, hclosing⟩ := h
    exact ⟨hpanic, t₁, closing, by rw [ht]; rfl, hwatch, hclosing, fun _ => haccepted, .inl haccepted⟩
  · obtain ⟨-, hwatch, hexit⟩ := h
    have hended : ∀ closing, Closing [child.launchChannel, child.process] False closing →
        ∀ e : BootstrapError ε, ∃ seen closing', t₁ ++
          ((if !error.processExitObserved then [.terminated child.process] else []) ++ closing) =
            seen ++ closing' ∧ Supervised child (.err e) seen closing' := by
      intro closing hclosing e
      have hclosed : Closing [child.launchChannel, child.process]
          (Outcome.err e = (.ok () : Outcome (BootstrapError ε) Unit)) closing :=
        ⟨hclosing.closes, hclosing.only, fun hok => absurd hok.symm (ok_ne_err _ _)⟩
      refine ⟨_, closing, (List.append_assoc ..).symm, fun x hx => ?_, hclosed,
        fun hok => absurd hok.symm (ok_ne_err _ _), .inr ?_⟩
      · rcases List.mem_append.mp hx with hx | hx
        · exact hwatch x hx
        · split at hx
          · obtain rfl := List.mem_singleton.mp hx
            exact trivial
          · cases hx
      · cases hobserved : error.processExitObserved with
        | true => exact .inr (List.mem_append_left _ (hexit hobserved))
        | false => exact .inl (List.mem_append_right _ (.head _))
    have hweak : ∀ {ok : Prop} {closing : List Step},
        Closing [child.launchChannel, child.process] ok closing →
          Closing [child.launchChannel, child.process] False closing := fun h =>
      ⟨h.closes, h.only, fun hfalse => hfalse.elim⟩
    refine (cleanup_steps child (!error.processExitObserved) s₁).bind (fun u s₂ t₂ h => ?_)
      (fun e s₂ t₂ h => ?_) fun s₂ t₂ h => absurd rfl h.1
    · obtain ⟨-, -, closing, rfl, hclosing⟩ := h
      cases error <;> exact ⟨err_ne_panic _, by simpa using hended closing (hweak hclosing) _⟩
    · obtain ⟨-, -, closing, rfl, hclosing⟩ := h
      exact ⟨err_ne_panic e, hended closing (hweak hclosing) e⟩

/-! ## Loading -/

theorem Archive.new_ne_panic (bytes : List UInt8) : Bootfs.Archive.new bytes ≠ .panic := by
  refine bind_ne_panic (rejectIf_ne_panic _ _) fun _ hlen => ?_
  rw [Bootfs.checkArchiveLength, rejectIf_eq_ok, decide_eq_false_iff_not, Nat.not_lt] at hlen
  have hfits : bytes.length < 2 ^ 63 := Nat.lt_of_le_of_lt hlen (by decide)
  exact bind_ne_panic (Bootfs.validateRecords_ne_panic hfits _ _ _) fun _ _ => pure_ne_panic _

theorem requiredEntry_ne_panic (bytes : List UInt8) :
    (requiredEntry bytes : Outcome (BootstrapError ε) _) ≠ .panic := by
  refine bind_ne_panic (mapErr_ne_panic (Archive.new_ne_panic bytes)) fun archive harchive => ?_
  obtain ⟨-, hvalid, rfl⟩ := Bootfs.Archive.new_eq_ok.mp (mapErr_eq_ok.mp harchive)
  obtain ⟨records, trailer, htiles, -, -⟩ := Bootfs.validateRecords_tiles 0 hvalid
  obtain ⟨entries, hentries, -⟩ := htiles.entries
  refine bind_ne_panic (mapErr_ne_panic (Bootfs.lookup_ne_panic hentries _)) fun _ _ => ?_
  exact bind_ne_panic (rejectIf_ne_panic _ _) fun _ _ =>
    bind_ne_panic (okOr_ne_panic _ _) fun _ _ => pure_ne_panic _

/-- A load that does not panic. -/
def Launcher.Safe (launch : Launcher τ ε) : Prop :=
  ∀ image path t, (launch image path ⟨t, false⟩).1 ≠ .panic

/-- The callback takes no step, or leaves a process behind. -/
inductive LoadEnded (s s' : BootState τ) : Outcome (BootstrapError ε) Unit → List Step → Prop
  | failed (e : BootstrapError ε) (h : Keeps s s') : LoadEnded s s' (.err e) []
  | loaded (child : LoadedProcess) (h : s'.loaded = some child) :
      LoadEnded s s' (.ok ()) [.loaded child]

theorem loadInit_steps {launch : Launcher τ ε} (hsafe : launch.Safe) (bytes : List UInt8)
    (s : BootState τ) :
    Steps profile (loadInit launch bytes) (fun o s' t => LoadEnded s s' o t) s := by
  refine (Prog.Silent.lift Keeps.refl (requiredEntry_ne_panic bytes)).then_sees
    (fun entry s₁ _ h₁ => ?_) fun e s₁ h₁ => LoadEnded.failed e h₁
  have hload : Steps profile (Prog.within id (fun s _ => s) BootstrapError.loader
      (hostLoader .loader (launch entry.1 entry.2))) (fun o s' t => o ≠ .panic ∧ Keeps s₁ s' ∧
        t = []) s₁ := by
    refine Prog.Sees.recast (Prog.Sees.hosted ?_)
    refine ⟨mapErr_ne_panic (hsafe entry.1 entry.2 s₁.io), rfl, ?_⟩
    exact Prog.digest_eq_nil fun e _ => rfl
  refine hload.bind (fun loaded s₂ t₂ h => ?_) (fun e s₂ t₂ h => ?_) fun s₂ t₂ h => absurd rfl h.1
  · obtain ⟨-, -, rfl⟩ := h
    exact .loaded loaded rfl
  · obtain ⟨-, h₂, rfl⟩ := h
    exact .failed e (h₁.trans h₂)

/-- The mapping around the callback. -/
inductive Mapped (s s' : BootState τ) :
    Outcome (BootstrapError ε) (Except (BootstrapError ε) Unit) → List Step → Prop
  | refused (e : BootstrapError ε) : Mapped s s' (.err e) []
  | failed (e : BootstrapError ε) : Mapped s s' (.ok (.error e)) []
  | unmapped (e : BootstrapError ε) : Mapped s s' (.err e) [.unmapFailed]
  | loaded (child : LoadedProcess) (h : s'.loaded = some child) :
      Mapped s s' (.ok (.ok ())) [.loaded child]
  | lost (child : LoadedProcess) (e : BootstrapError ε) :
      Mapped s s' (.err e) [.loaded child, .unmapFailed]

theorem map_steps (root bootfs : Nat) (plan : MappingPlan) (s : BootState τ) :
    Steps profile (request p (.mapBootfs root bootfs plan))
      (fun o _ t => o ≠ .panic ∧ t = []) s :=
  request_steps (fun _ _ _ => ⟨ok_ne_panic _, rfl⟩) fun _ _ _ => ⟨err_ne_panic _, rfl⟩

theorem unmap_steps (root bootfs : Nat) (plan : MappingPlan) (s : BootState τ) :
    Steps profile (request p (.unmapBootfs root bootfs plan)) (fun o s' t =>
      (∃ r, o = .ok r ∧ Keeps s s' ∧ t = []) ∨ ∃ e, o = .err e ∧ t = [.unmapFailed]) s :=
  request_steps (fun r _ h => .inl ⟨r, rfl, h, rfl⟩) fun e _ _ => .inr ⟨e, rfl, rfl⟩

theorem withBootfsBytes_steps {launch : Launcher τ ε} (hsafe : launch.Safe) (root bootfs : Nat)
    (plan : MappingPlan) (s : BootState τ) :
    Steps profile (Prog.within id (fun s _ => s) BootstrapError.native
      (withBootfsBytes p root bootfs plan (loadInit launch))) (fun o s' t => Mapped s s' o t) s := by
  refine Prog.Sees.recast ((map_steps root bootfs plan s).bind (fun bytes s₁ t₁ h => ?_)
    (fun e s₁ t₁ h => ?_) fun s₁ t₁ h => absurd rfl h.1)
  · obtain ⟨-, rfl⟩ := h
    refine (loadInit_steps hsafe bytes s₁).attempt_bind (fun u s₂ t₂ h => ?_)
      (fun e s₂ t₂ h => ?_) fun s₂ t₂ h => by cases h
    · cases h with
      | loaded child hchild =>
          refine (unmap_steps root bootfs plan s₂).bind (fun r s₃ t₃ h => ?_)
            (fun e s₃ t₃ h => ?_) fun s₃ t₃ h => ?_
          · obtain ⟨_, -, h₃, rfl⟩ | ⟨e, he, -⟩ := h
            · exact .loaded child (Eq.trans h₃ hchild)
            · cases he
          · obtain ⟨_, he, -⟩ | ⟨e, -, rfl⟩ := h
            · cases he
            · exact .lost child _
          · obtain ⟨_, he, -⟩ | ⟨e, he, -⟩ := h
            · cases he
            · cases he
    · cases h with
      | failed e h₂ =>
          refine (unmap_steps root bootfs plan s₂).bind (fun r s₃ t₃ h => ?_)
            (fun e s₃ t₃ h => ?_) fun s₃ t₃ h => ?_
          · obtain ⟨_, -, -, rfl⟩ | ⟨e, he, -⟩ := h
            · exact .failed e
            · cases he
          · obtain ⟨_, he, -⟩ | ⟨e, -, rfl⟩ := h
            · cases he
            · exact .unmapped _
          · obtain ⟨_, he, -⟩ | ⟨e, he, -⟩ := h
            · cases he
            · cases he
  · obtain ⟨-, rfl⟩ := h
    exact .refused _

/-! ## The two entry points -/

/-- What `runHandoff` needs of an entry point. -/
structure Handoff.Sound (h : Handoff τ ε) : Prop where
  authority : ∀ r, Idle h.profile (h.authority r) fun a => a.2.Safe
  encode : ∀ transactionId, h.encodeReady transactionId ≠ .panic

theorem queryEach_idle (handles : List Loader.ReceivedHandleInfo) :
    Idle profile (queryEach p handles) fun _ => True := by
  induction handles with
  | nil => exact .pure trivial
  | cons info rest ih =>
      exact (query_idle info.handle).bind fun _ _ =>
        ih.bind fun _ _ => .pure trivial

theorem validateEach_ne_panic (pairs : List (InitCapability × CapabilityExpectation)) :
    validateEach pairs ≠ .panic := by
  induction pairs with
  | nil => exact ok_ne_panic ()
  | cons pair rest ih =>
      exact bind_ne_panic (rejectIf_ne_panic _ _) fun _ _ =>
        bind_ne_panic (rejectIf_ne_panic _ _) fun _ _ => ih

theorem validate_idle (capabilities : List InitCapability)
    (expectations : List CapabilityExpectation) :
    Idle profile (Prog.lift ((validateInitCapabilities capabilities expectations).mapErr
      .capability) : Io τ (BootstrapError ε) _) fun _ => True :=
  check_idle _ (bind_ne_panic (rejectIf_ne_panic _ _) fun _ _ => validateEach_ne_panic _)

theorem validatedLoadAuthority_idle (handles : List Loader.ReceivedHandleInfo) :
    Idle profile (validatedLoadAuthority p handles) fun _ => True := by
  unfold validatedLoadAuthority
  split
  · exact (queryEach_idle _).bind fun _ _ =>
      (validate_idle _ _).bind fun _ _ => .pure trivial
  · exact .throw _

theorem validatedResourceDomainAuthority_idle
    (handles : Vector Loader.ReceivedHandleInfo maxBootstrapHandles) :
    Idle profile (validatedResourceDomainAuthority p handles) fun _ => True := by
  unfold validatedResourceDomainAuthority
  split
  · exact (query_idle _).bind fun _ _ => (queryEach_idle _).bind fun _ _ =>
      (validate_idle _ _).bind fun _ _ => .pure trivial
  · rename_i hfour
    obtain ⟨root, bootfs, taskGroup, domain, hlist⟩ :=
      List.length_eq_four.mp handles.length_toList
    exact absurd hlist (hfour root bootfs taskGroup domain)

/-- A load that moves nothing of its caller's does not panic, whatever the
platform answers. -/
theorem loadChecked_ne_panic {tr : Loader.LoaderPlatform τ ε} {authority : LoadAuthority}
    {request : Loader.InternalLoadRequest} {fault : Loader.LoadFault} (hmoved : request.moved = [])
    (hdomain : request.profile.needsDomain = true → request.resourceDomain.isSome)
    (s : LoadState τ) (hs : s.consumed = false) :
    (Loader.loadChecked tr authority (.ok request) fault s).1 ≠ .panic := by
  have hset := Loader.anyError_setting tr []
  have hchannels : request.channels = [] := (List.append_eq_nil_iff.mp hmoved).1
  have hphase := Loader.loadProcessInternal_phase authority request fault hset (G := True)
    (fun h hh => by rw [hmoved] at hh; exact hh)
    (fun hshape _ pc created ranges thread L hL =>
      (Loader.stageCapabilities_phase hset hshape hdomain hL).mono fun r L h => ⟨h, trivial⟩)
    fun _ _ => trivial
  have hfresh : ∀ e : Loader.Event, e.fresh [] = true := by
    intro e
    cases e with
    | done c r => simp [Loader.Event.fresh]
    | failed c => rfl
  obtain ⟨L, -, -, -, hend⟩ := hphase s ⟨by simp [hs, hchannels], fun _ h => by cases h⟩
    (fun h hh => absurd hh (Multiset.notMem_zero h)) fun e _ => hfresh e
  intro hpanic
  have heq : Loader.loadChecked tr authority (.ok request) fault s =
      Loader.loadProcessInternal tr authority request fault s := rfl
  rw [heq] at hpanic
  rw [hpanic] at hend
  exact hend

theorem reporting_ne_panic {τ ε ε' α : Type} {report : Loader.LoadError ε → Bool → ε'}
    {body : Load τ ε α} {t : τ} (h : (body ⟨t, false⟩).1 ≠ .panic) :
    (Loader.reporting report body ⟨t, false⟩).1 ≠ .panic := by
  unfold Loader.reporting
  split
  · exact ok_ne_panic _
  · exact err_ne_panic _
  · rename_i heq
    exact absurd (congrArg Prod.fst heq) h

theorem encodeReady_ne_panic (minor size : Nat) (transactionId : UInt64) :
    encodeReady minor size transactionId ≠ .panic := by
  unfold encodeReady
  split
  · exact err_ne_panic _
  · exact ok_ne_panic _

theorem supervisorHandoff_sound (p : Platform τ ε) : (supervisorHandoff p).Sound := by
  refine ⟨fun r => ?_, fun transactionId => encodeReady_ne_panic _ _ _⟩
  refine (validatedLoadAuthority_idle r.initialized).bind fun authority _ =>
    .pure fun image path t => reporting_ne_panic ?_
  exact loadChecked_ne_panic rfl (fun h => by cases h) ⟨t, false⟩ rfl

theorem resourceDomainHandoff_sound (p : Platform τ ε) : (resourceDomainHandoff p).Sound := by
  refine ⟨fun r => ?_, fun transactionId => encodeReady_ne_panic _ _ _⟩
  refine (validatedResourceDomainAuthority_idle r.handles).bind fun authority _ =>
    .pure fun image path t => reporting_ne_panic ?_
  exact loadChecked_ne_panic rfl (fun _ => rfl) ⟨t, false⟩ rfl

/-- The steps of the closure `operation`. -/
inductive Operated (o : Outcome (BootstrapError ε) UInt64) : List Step → Prop
  | unloaded (he : ∃ e, o = .err e) : Operated o []
  | unmapped (he : ∃ e, o = .err e) : Operated o [.unmapFailed]
  | lost (child : LoadedProcess) (he : ∃ e, o = .err e) :
      Operated o [.loaded child, .unmapFailed]
  | supervised (child : LoadedProcess) (seen closing : List Step)
      (h : Supervised child (o.map fun _ => ()) seen closing) :
      Operated o (.loaded child :: (seen ++ closing))

theorem bootfsMappingPlan_idle (bootfs : Nat) :
    Idle profile (bootfsMappingPlan p bootfs) fun _ => True := by
  refine (native_idle (fun _ => rfl) rfl).bind fun size _ => check_idle _ ?_
  exact bind_ne_panic (rejectIf_ne_panic _ _) fun _ _ => bind_ne_panic (rejectIf_ne_panic _ _)
    fun _ _ => bind_ne_panic (okOr_ne_panic _ _) fun _ _ => pure_ne_panic _

theorem okOr_idle {α : Type} (x : Option α) (e : BootstrapError ε) :
    Idle (τ := τ) profile (Prog.okOr x e) fun _ => True := by
  cases x with
  | none => exact .throw e
  | some a => exact .pure trivial

theorem supervised_steps {h : Handoff τ ε} {transactionId : UInt64} {deadline : Deadline}
    (child : LoadedProcess) (s : BootState τ) :
    Steps h.profile (superviseInit p abi h.profile child deadline >>= fun _ => pure transactionId)
      (fun o _ t => o ≠ .panic ∧ Operated o (.loaded child :: t)) s := by
  refine (superviseInit_steps child deadline s).bind (fun u s₁ t₁ h => ?_) (fun e s₁ t₁ h => ?_)
    fun s₁ t₁ h => absurd rfl h.1
  · obtain ⟨-, seen, closing, rfl, hsupervised⟩ := h
    refine ⟨ok_ne_panic transactionId, ?_⟩
    rw [Prog.pure_run, Prog.digest_nil, List.append_nil]
    exact .supervised child seen closing hsupervised
  · obtain ⟨-, seen, closing, rfl, hsupervised⟩ := h
    exact ⟨err_ne_panic e, .supervised child seen closing hsupervised⟩

theorem operation_steps {h : Handoff τ ε} (hsound : h.Sound)
    (r : Received h.bytesLen h.handlesLen) (deadline : Deadline) (s : BootState τ) :
    Steps h.profile (operation p abi h r deadline)
      (fun o _ t => o ≠ .panic ∧ Operated o t) s := by
  have herr : ∀ (e : BootstrapError ε) (s' s'' : BootState τ), Keeps s' s'' →
      (Outcome.err e : Outcome (BootstrapError ε) UInt64) ≠ .panic ∧
        Operated (.err e : Outcome (BootstrapError ε) UInt64) [] :=
    fun e _ _ _ => ⟨err_ne_panic e, .unloaded ⟨e, rfl⟩⟩
  refine (check_idle _ (decode_ne_panic _ _)).then_sees (fun message s₁ _ _ => ?_)
    fun e s' => herr e s s'
  refine (okOr_idle _ _).then_sees (fun transactionId s₂ _ _ => ?_) fun e s' => herr e s₁ s'
  refine (Prog.Silent.lift Keeps.refl (rejectIf_ne_panic _ _)).then_sees (fun _ s₃ _ _ => ?_)
    fun e s' => herr e s₂ s'
  refine (hsound.authority r).then_sees (fun authority s₄ hsafe _ => ?_) fun e s' => herr e s₃ s'
  refine (bootfsMappingPlan_idle _).then_sees (fun plan s₅ _ _ => ?_) fun e s' => herr e s₄ s'
  refine (withBootfsBytes_steps hsafe _ _ plan s₅).bind (fun result s₆ t h => ?_)
    (fun e s₆ t h => ?_) fun s₆ t h => by cases h
  · cases h with
    | failed e => exact ⟨err_ne_panic e, .unloaded ⟨e, rfl⟩⟩
    | loaded child hchild =>
        have hpassed : (Outcome.ofExcept (.ok ()) : Outcome (BootstrapError ε) Unit) = .ok () := rfl
        rw [hpassed, Prog.lift_ok_bind]
        refine Prog.Sees.get_bind ?_
        rw [hchild]
        exact supervised_steps child s₆
  · cases h with
    | refused => exact ⟨err_ne_panic e, .unloaded ⟨e, rfl⟩⟩
    | unmapped => exact ⟨err_ne_panic e, .unmapped ⟨e, rfl⟩⟩
    | lost child => exact ⟨err_ne_panic e, .lost child ⟨e, rfl⟩⟩

/-! ## Whole runs -/

/-- The steps of READY to the kernel. -/
inductive Answered (bootstrapChannel : Nat) (o : Outcome (BootstrapError ε) Unit) :
    List Step → Prop
  | unsent (he : ∃ e, o = .err e) : Answered bootstrapChannel o []
  | refused (he : ∃ e, o = .err e) : Answered bootstrapChannel o [.sent]
  | sent (b : Bool) : Answered bootstrapChannel o [.sent, .closed bootstrapChannel b]

/-- The steps of a run. -/
inductive Ran (bootstrapChannel : Nat) (o : Outcome (BootstrapError ε) Unit) : List Step → Prop
  | early (he : ∃ e, o = .err e) : Ran bootstrapChannel o []
  | oversized (he : ∃ e, o = .err e) (handles : List Nat) (closing : List Step)
      (h : Closing (handles ++ [bootstrapChannel]) False closing) :
      Ran bootstrapChannel o (.received handles :: closing)
  | failed (he : ∃ e, o = .err e) (handles : List Nat)
      (operated : Outcome (BootstrapError ε) UInt64) (working closing : List Step)
      (hworking : Operated operated working) (h : Closing handles False closing) :
      Ran bootstrapChannel o (.received handles :: (working ++ closing))
  | finished (handles : List Nat) (transactionId : UInt64) (working closing answer : List Step)
      (hworking : Operated (.ok transactionId : Outcome (BootstrapError ε) UInt64) working)
      (h : Closing handles True closing) (hanswer : Answered bootstrapChannel o answer) :
      Ran bootstrapChannel o (.received handles :: (working ++ closing ++ answer))

theorem sendReady_steps {encode : UInt64 → Decode (List UInt8)}
    (hencode : ∀ transactionId, encode transactionId ≠ .panic) (bootstrapChannel : Nat)
    (transactionId : UInt64) (s : BootState τ) :
    Steps profile (sendReady p encode bootstrapChannel transactionId)
      (fun o _ t => o ≠ .panic ∧ Answered bootstrapChannel o t) s := by
  refine (check_idle _ (hencode transactionId)).then_sees (fun ready s₁ _ _ => ?_)
    fun e s₁ _ => ⟨err_ne_panic e, .unsent ⟨e, rfl⟩⟩
  have hsend : Steps profile (native p (.sendChannel bootstrapChannel ready))
      (fun o _ t => o ≠ .panic ∧ t = [.sent]) s₁ :=
    native_steps (fun _ _ _ => ⟨ok_ne_panic _, rfl⟩) fun _ _ _ => ⟨err_ne_panic _, rfl⟩
  refine hsend.bind (fun _ s₂ t h => ?_) (fun e s₂ t h => ?_) fun s₂ t h => absurd rfl h.1
  · obtain ⟨-, rfl⟩ := h
    exact native_steps (fun _ _ _ => ⟨ok_ne_panic _, .sent true⟩)
      fun _ _ _ => ⟨err_ne_panic _, .sent false⟩
  · obtain ⟨-, rfl⟩ := h
    exact ⟨err_ne_panic e, .refused ⟨e, rfl⟩⟩

theorem settle_steps {h : Handoff τ ε} (hsound : h.Sound) (r : Received h.bytesLen h.handlesLen)
    (bootstrapChannel : Nat) (deadline : Deadline) (s : BootState τ) :
    Steps h.profile (settle p abi h r bootstrapChannel deadline) (fun o _ t => o ≠ .panic ∧
      Ran bootstrapChannel o (.received (r.initialized.map (·.handle)) :: t)) s := by
  have hfailed : ∀ {operated : Outcome (BootstrapError ε) UInt64} {ok : Prop} {t₁ t₂ : List Step}
      (e : BootstrapError ε), Operated operated t₁ → Closing (r.initialized.map (·.handle)) ok t₂ →
        (Outcome.err e : Outcome (BootstrapError ε) Unit) ≠ .panic ∧
          Ran bootstrapChannel (.err e : Outcome (BootstrapError ε) Unit)
            (.received (r.initialized.map (·.handle)) :: (t₁ ++ (t₂ ++ []))) := fun e h₁ h₂ => by
    rw [List.append_nil]
    exact ⟨err_ne_panic e,
      .failed ⟨e, rfl⟩ _ _ _ _ h₁ ⟨h₂.closes, h₂.only, fun h => h.elim⟩⟩
  refine (operation_steps hsound r deadline s).attempt_bind (fun transactionId s₁ t₁ h => ?_)
    (fun e s₁ t₁ h => ?_) fun s₁ t₁ h => absurd rfl h.1
  · refine (closeReceivedHandles_steps r.initialized s₁).attempt_bind (fun u s₂ t₂ h₂ => ?_)
      (fun e s₂ t₂ h₂ => ?_) fun s₂ t₂ h₂ => absurd rfl h₂.1
    · refine (sendReady_steps hsound.encode bootstrapChannel transactionId s₂).mono ?_
      intro o s₃ t₃ h₃
      refine ⟨h₃.1, ?_⟩
      rw [← List.append_assoc]
      exact .finished _ transactionId t₁ t₂ t₃ h.2
        ⟨h₂.2.2.closes, h₂.2.2.only, fun _ => h₂.2.2.all rfl⟩ h₃.2
    · exact hfailed e h.2 h₂.2.2
  · refine (closeReceivedHandles_steps r.initialized s₁).attempt_bind
      (fun u s₂ t₂ h₂ => hfailed e h.2 h₂.2.2) (fun _ s₂ t₂ h₂ => hfailed e h.2 h₂.2.2)
      fun s₂ t₂ h₂ => absurd rfl h₂.1

theorem refuseCounts_steps {b h : Nat} (bootstrapChannel : Nat) (r : Received b h)
    (s : BootState τ) :
    Steps profile (refuseCounts p bootstrapChannel r) (fun o _ t => (∃ e, o = .err e) ∧
      Closing (r.initialized.map (·.handle) ++ [bootstrapChannel]) False t) s := by
  have hboth : ∀ {ok ok' : Prop} {t₁ t₂ : List Step},
      Closing (r.initialized.map (·.handle)) ok t₁ → Closing [bootstrapChannel] ok' t₂ →
        Closing (r.initialized.map (·.handle) ++ [bootstrapChannel]) False (t₁ ++ (t₂ ++ [])) :=
    fun h₁ h₂ => by
      rw [List.append_nil]
      exact h₁.append h₂ fun h => h.elim
  refine (closeReceivedHandles_steps r.initialized s).attempt_bind (fun u s₁ t₁ h₁ => ?_)
    (fun e s₁ t₁ h₁ => ?_) fun s₁ t₁ h₁ => absurd rfl h₁.1
  all_goals
    refine (nativeClose_steps bootstrapChannel s₁).attempt_bind (fun u s₂ t₂ h₂ => ?_)
      (fun e s₂ t₂ h₂ => ?_) fun s₂ t₂ h₂ => absurd rfl h₂.1
    all_goals exact ⟨⟨_, rfl⟩, hboth h₁.2.2 h₂.2.2⟩

theorem runHandoff_steps {h : Handoff τ ε} (hsound : h.Sound) (bootstrapChannel : Nat)
    (deadline : Deadline) (s : BootState τ) :
    Steps h.profile (runHandoff p abi h bootstrapChannel deadline)
      (fun o _ t => o ≠ .panic ∧ Ran bootstrapChannel o t) s := by
  refine (query_idle bootstrapChannel).then_sees (fun info s₁ _ _ => ?_)
    fun e _ _ => ⟨err_ne_panic e, .early ⟨e, rfl⟩⟩
  have hchannel : validateBootstrapChannel info bootstrapChannelExpectation ≠ .panic := by
    unfold validateBootstrapChannel
    split
    · exact ok_ne_panic ()
    · exact err_ne_panic _
  refine (check_idle _ hchannel).then_sees (fun _ s₂ _ _ => ?_)
    fun e _ _ => ⟨err_ne_panic e, .early ⟨e, rfl⟩⟩
  have hreceive : Steps h.profile (native p (.receiveChannel bootstrapChannel h.bytesLen h.handlesLen))
      (fun o _ t => o ≠ .panic ∧ (∀ r, o = .ok r →
        t = [.received ((Received.initialized r).map (·.handle))]) ∧ ∀ e, o = .err e → t = []) s₂ :=
    native_steps (fun r _ _ => ⟨ok_ne_panic _, fun _ hr => by cases hr; rfl, fun e he => by cases he⟩)
      fun e _ _ => ⟨err_ne_panic _, fun _ hr => (by cases hr), fun _ _ => rfl⟩
  refine hreceive.bind (fun r s₃ t h => ?_) (fun e s₃ t h => ?_) fun s₃ t h => absurd rfl h.1
  · obtain rfl := h.2.1 r rfl
    split
    · refine (refuseCounts_steps bootstrapChannel r s₃).mono fun o s₄ t h => ?_
      obtain ⟨⟨e, rfl⟩, hclosing⟩ := h
      exact ⟨err_ne_panic e, .oversized ⟨e, rfl⟩ _ t hclosing⟩
    · exact settle_steps hsound r bootstrapChannel deadline s₃
  · obtain rfl := h.2.2 e rfl
    exact ⟨err_ne_panic e, .early ⟨e, rfl⟩⟩

/-! ## Custody -/

/-- Everything that came to hand is given back. A close or a termination
counts whether or not the platform reports that it worked. -/
structure Custody (bootstrapChannel : Nat) (o : Outcome (BootstrapError ε) Unit) (t : List Step) :
    Prop where
  /-- Each received handle and both handles of a loaded process are closed,
  once, and besides them at most the bootstrap channel. -/
  closed : ∃ own, (own = [] ∨ own = [bootstrapChannel]) ∧
    (closes t).Perm (received t ++ childHandles t ++ own)
  /-- A process that was not accepted does not outlive an error. -/
  ended : ∀ e, o = .err e → ∀ child ∈ children t, .accepted child.launchChannel ∈ t ∨
    .terminated child.process ∈ t ∨ .exited child.process ∈ t
  /-- READY goes out behind the child's READY and behind closes that all
  succeeded. -/
  ready : ∀ before after, t = before ++ .sent :: after →
    (∃ child ∈ children before, .accepted child.launchChannel ∈ before) ∧
      (closes before).Perm (received t ++ childHandles t) ∧ ∀ handle, .closed handle false ∉ before

/-- An unmap failed, and a load had returned a process. -/
def Lost (t : List Step) : Prop := .unmapFailed ∈ t ∧ ∃ child, .loaded child ∈ t

/-- What a working stretch amounts to, when no process was lost in it. -/
structure Balanced (o : Outcome (BootstrapError ε) UInt64) (t : List Step) : Prop where
  unreceived : received t = []
  unsent : .sent ∉ t
  closed : closes t = childHandles t
  ended : ∀ child ∈ children t, .accepted child.launchChannel ∈ t ∨
    .terminated child.process ∈ t ∨ .exited child.process ∈ t
  accepted : ∀ n, o = .ok n → (∃ child ∈ children t, .accepted child.launchChannel ∈ t) ∧
    ∀ handle, .closed handle false ∉ t

variable {t : List Step}

theorem watches_quiet (h : ∀ x ∈ t, x.watches) :
    received t = [] ∧ children t = [] ∧ closes t = [] := by
  refine ⟨?_, ?_, ?_⟩ <;>
  · refine List.flatMap_eq_nil_iff.mpr fun x hx => ?_
    have hx := h x hx
    cases x <;> first | rfl | cases hx

/-- A process that was lost is not closed. -/
structure Forgotten (o : Outcome (BootstrapError ε) UInt64) (t : List Step) : Prop where
  lost : Lost t
  failed : ∃ e, o = .err e
  unreceived : received t = []
  child : ∃ child, children t = [child]
  unclosed : closes t = []

theorem Operated.balanced {o : Outcome (BootstrapError ε) UInt64}
    (h : Operated o t) : Forgotten o t ∨ (Balanced o t ∧ ¬ Lost t) := by
  cases h with
  | unloaded he =>
      obtain ⟨e, rfl⟩ := he
      refine .inr ⟨⟨rfl, List.not_mem_nil, rfl, List.forall_mem_nil _, fun n hn => ?_⟩, ?_⟩
      · cases hn
      · exact fun h => absurd h.1 List.not_mem_nil
  | unmapped he =>
      obtain ⟨e, rfl⟩ := he
      refine .inr ⟨⟨rfl, by simp, rfl, List.forall_mem_nil _, fun n hn => ?_⟩, ?_⟩
      · cases hn
      · intro ⟨_, child, hchild⟩
        simp at hchild
  | lost child he => exact .inl ⟨⟨by simp, child, .head _⟩, he, rfl, ⟨child, rfl⟩, rfl⟩
  | supervised child seen closing h =>
      obtain ⟨hreceived, hchildren, hcloses⟩ := watches_quiet h.watching
      obtain ⟨hreceived', hchildren'⟩ := h.closing.quiet
      have hchildren : children (.loaded child :: (seen ++ closing)) = [child] := by
        simp [hchildren, hchildren']
      have hmem : ∀ {x : Step}, x ∈ seen → x ∈ Step.loaded child :: (seen ++ closing) :=
        fun hx => .tail _ (List.mem_append_left _ hx)
      have hclosed : ∀ {x : Step}, ¬ x.watches → x ∉ closing → x ≠ .loaded child →
          x ∉ Step.loaded child :: (seen ++ closing) := by
        intro x hwatch hclosing hne hx
        rcases List.mem_cons.mp hx with hx | hx
        · exact hne hx
        · rcases List.mem_append.mp hx with hx | hx
          · exact hwatch (h.watching x hx)
          · exact hclosing hx
      refine .inr ⟨⟨?_, ?_, ?_, fun c hc => ?_, fun n hn => ⟨⟨child, ?_, ?_⟩, ?_⟩⟩, ?_⟩
      · simp [hreceived, hreceived']
      · refine hclosed id (fun hx => ?_) (by simp)
        obtain ⟨_, _, hx⟩ := h.closing.only _ hx
        cases hx
      · rw [childHandles, hchildren]
        simp [hcloses, h.closing.closes]
      · rw [hchildren] at hc
        obtain rfl := List.mem_singleton.mp hc
        exact h.ended.imp hmem (Or.imp hmem hmem)
      · rw [hchildren]
        exact .head _
      · exact hmem (h.accepted (by rw [hn]; rfl))
      · exact fun handle => hclosed id (h.closing.all (by rw [hn]; rfl) handle) (by simp)
      · intro ⟨hunmap, _⟩
        refine hclosed id (fun hx => ?_) (by simp) hunmap
        obtain ⟨_, _, hx⟩ := h.closing.only _ hx
        cases hx

variable {bootstrapChannel : Nat} {o : Outcome (BootstrapError ε) Unit}

/-- The end of a run, without READY or with it. -/
inductive Answer (bootstrapChannel : Nat) (o : Outcome (BootstrapError ε) Unit)
    (operated : Outcome (BootstrapError ε) UInt64) (ok : Prop) : List Step → Prop
  | none : Answer bootstrapChannel o operated ok []
  | sent (n : UInt64) (h : operated = .ok n) (hok : ok) (rest : List Step)
      (hrest : rest = [] ∨ ∃ b, rest = [.closed bootstrapChannel b]) :
      Answer bootstrapChannel o operated ok (.sent :: rest)

theorem custody_of_balanced {operated : Outcome (BootstrapError ε) UInt64} {ok : Prop}
    {handles : List Nat} {working closing answer : List Step} (hworking : Balanced operated working)
    (hclosing : Closing handles ok closing)
    (hanswer : Answer bootstrapChannel o operated ok answer) :
    Custody bootstrapChannel o (.received handles :: (working ++ closing ++ answer)) := by
  obtain ⟨hreceived, hchildren⟩ := hclosing.quiet
  have hunsent : Step.sent ∉ Step.received handles :: (working ++ closing) := by
    intro h
    rcases List.mem_cons.mp h with h | h
    · cases h
    · rcases List.mem_append.mp h with h | h
      · exact hworking.unsent h
      · obtain ⟨_, _, h⟩ := hclosing.only _ h
        cases h
  have hfacts : received answer = [] ∧ children answer = [] ∧
      (closes answer = [] ∨ closes answer = [bootstrapChannel]) := by
    cases hanswer with
    | none => exact ⟨rfl, rfl, .inl rfl⟩
    | sent n h hok rest hrest =>
        rcases hrest with rfl | ⟨b, rfl⟩
        · exact ⟨rfl, rfl, .inl rfl⟩
        · exact ⟨rfl, rfl, .inr rfl⟩
  have hperm : (closes (working ++ closing)).Perm (handles ++ childHandles working) := by
    rw [closes_append, hworking.closed, hclosing.closes]
    exact List.perm_append_comm
  have hall : received (.received handles :: (working ++ closing ++ answer)) = handles := by
    simp [hworking.unreceived, hreceived, hfacts.1]
  have hborn : children (.received handles :: (working ++ closing ++ answer)) = children working := by
    simp [hchildren, hfacts.2.1]
  have hdue : childHandles (.received handles :: (working ++ closing ++ answer)) =
      childHandles working := by rw [childHandles, hborn, childHandles]
  have hmem : ∀ {x : Step}, x ∈ working → x ∈ Step.received handles :: (working ++ closing) :=
    fun hx => .tail _ (List.mem_append_left _ hx)
  refine ⟨⟨closes answer, hfacts.2.2, ?_⟩, fun e _ child hchild => ?_, fun before after h => ?_⟩
  · rw [hall, hdue, closes_cons, closes_append]
    exact hperm.append_right _
  · rw [hborn] at hchild
    have hin : ∀ {x : Step}, x ∈ working →
        x ∈ Step.received handles :: (working ++ closing ++ answer) := fun hx =>
      .tail _ (List.mem_append_left _ (List.mem_append_left _ hx))
    exact (hworking.ended child hchild).imp hin (Or.imp hin hin)
  · cases hanswer with
    | none =>
        rw [List.append_nil] at h
        rw [h] at hunsent
        exact absurd (List.mem_append_right _ (.head _)) hunsent
    | sent n hn hok rest hrest =>
        have hafter : Step.sent ∉ rest := by
          rcases hrest with rfl | ⟨b, rfl⟩ <;> simp
        rw [← List.cons_append] at h
        obtain ⟨rfl, -, -⟩ := (List.append_cons_inj_of_notMem hunsent hafter).mp h
        obtain ⟨⟨child, hchild, haccepted⟩, hall'⟩ := hworking.accepted n hn
        refine ⟨⟨child, ?_, hmem haccepted⟩, ?_, fun handle hfailed => ?_⟩
        · simp [hchild]
        · rw [hall, hdue]
          exact hperm
        · rcases List.mem_cons.mp hfailed with hfailed | hfailed
          · cases hfailed
          · rcases List.mem_append.mp hfailed with hfailed | hfailed
            · exact hall' handle hfailed
            · exact hclosing.all hok handle hfailed

theorem lost_iff {operated : Outcome (BootstrapError ε) UInt64} {ok : Prop} {handles : List Nat}
    {working closing answer : List Step} (hclosing : Closing handles ok closing)
    (hanswer : Answer bootstrapChannel o operated ok answer) :
    Lost (.received handles :: (working ++ closing ++ answer)) ↔ Lost working := by
  have hout : ∀ {x : Step}, (∀ h, x ≠ .received h) → (∀ h b, x ≠ .closed h b) → x ≠ .sent →
      (x ∈ Step.received handles :: (working ++ closing ++ answer) ↔ x ∈ working) := by
    intro x hreceived hclosed hsent
    have hclosing : x ∉ closing := fun hx => by
      obtain ⟨h, b, rfl⟩ := hclosing.only x hx
      exact hclosed h b rfl
    have hanswer : x ∉ answer := fun hx => by
      cases hanswer with
      | none => cases hx
      | sent n h hok rest hrest =>
          rcases hrest with rfl | ⟨b, rfl⟩
          · exact hsent (List.mem_singleton.mp hx)
          · rcases List.mem_cons.mp hx with hx | hx
            · exact hsent hx
            · exact hclosed _ _ (List.mem_singleton.mp hx)
    simp [hreceived, hclosing, hanswer]
  unfold Lost
  rw [hout (by simp) (by simp) (by simp)]
  refine and_congr_right fun _ => exists_congr fun child => ?_
  exact hout (by simp) (by simp) (by simp)

theorem Ran.custody_iff (h : Ran bootstrapChannel o t) :
    Custody bootstrapChannel o t ↔ ¬ Lost t := by
  cases h with
  | early he =>
      refine iff_of_true ⟨⟨[], .inl rfl, .refl _⟩, fun _ _ => List.forall_mem_nil _, ?_⟩ ?_
      · intro before after h
        cases before <;> cases h
      · exact fun h => absurd h.1 List.not_mem_nil
  | oversized he handles closing h =>
      obtain ⟨hreceived, hchildren⟩ := h.quiet
      have hnone : children (.received handles :: closing) = [] := by simp [hchildren]
      have honly : ∀ {x : Step}, (∀ h, x ≠ .received h) → (∀ h b, x ≠ .closed h b) →
          x ∉ Step.received handles :: closing := by
        intro x hx hx' hmem
        rcases List.mem_cons.mp hmem with hmem | hmem
        · exact hx _ hmem
        · obtain ⟨_, _, rfl⟩ := h.only x hmem
          exact hx' _ _ rfl
      refine iff_of_true ⟨⟨[bootstrapChannel], .inr rfl, ?_⟩, ?_, ?_⟩ ?_
      · rw [childHandles, hnone]
        simp [hreceived, h.closes]
      · intro e _ child hchild
        rw [hnone] at hchild
        cases hchild
      · intro before after heq
        have hsent := honly (x := .sent) (by simp) (by simp)
        rw [heq] at hsent
        exact absurd (List.mem_append_right _ (.head _)) hsent
      · exact fun hlost => honly (by simp) (by simp) hlost.1
  | failed he handles operated working closing hworking h =>
      have hanswer : Answer bootstrapChannel o operated False [] := .none
      rw [← List.append_nil (working ++ closing), lost_iff h hanswer]
      rcases hworking.balanced with hlost | ⟨hbalanced, hkept⟩
      · refine iff_of_false (fun hcustody => ?_) (not_not_intro hlost.lost)
        obtain ⟨own, -, hperm⟩ := hcustody.closed
        obtain ⟨child, hchild⟩ := hlost.child
        have hlen := hperm.length_eq
        simp [childHandles, hchild, hlost.unclosed, hlost.unreceived, h.closes, h.quiet.1,
          h.quiet.2] at hlen
      · exact iff_of_true (custody_of_balanced hbalanced h hanswer) hkept
  | finished handles transactionId working closing answer hworking h hanswer =>
      have hanswer : Answer bootstrapChannel o
          (.ok transactionId : Outcome (BootstrapError ε) UInt64) True answer := by
        cases hanswer with
        | unsent _ => exact .none
        | refused _ => exact .sent transactionId rfl trivial [] (.inl rfl)
        | sent b => exact .sent transactionId rfl trivial _ (.inr ⟨b, rfl⟩)
      rw [lost_iff h hanswer]
      rcases hworking.balanced with hlost | ⟨hbalanced, hkept⟩
      · obtain ⟨e, he⟩ := hlost.failed
        cases he
      · exact iff_of_true (custody_of_balanced hbalanced h hanswer) hkept

/-- The bootstrap returns, and keeps custody of what came to its hands exactly
in the runs in which no unmap fails behind a load that returned a process. -/
theorem bootstrap_custody_iff (abi : TerminationAbi) (p : Platform τ ε) (bootstrapChannel : Nat)
    (deadline : Deadline) (t : τ) :
    (let r := runSupervisorBootstrap p abi bootstrapChannel deadline ⟨t, none⟩;
      r.1 ≠ .panic ∧ (Custody bootstrapChannel r.1 (traffic .supervisor r.2.2) ↔
        ¬ Lost (traffic .supervisor r.2.2))) ∧
    (let r := runSupervisorResourceDomainBootstrap p abi bootstrapChannel deadline ⟨t, none⟩;
      r.1 ≠ .panic ∧ (Custody bootstrapChannel r.1 (traffic .supervisorResourceDomain r.2.2) ↔
        ¬ Lost (traffic .supervisorResourceDomain r.2.2))) := by
  obtain ⟨hreturns, hran⟩ := runHandoff_steps (p := p) (supervisorHandoff_sound p)
    bootstrapChannel deadline ⟨t, none⟩
  obtain ⟨hreturns', hran'⟩ := @runHandoff_steps _ _ p abi _
    (resourceDomainHandoff_sound p) bootstrapChannel deadline ⟨t, none⟩
  exact ⟨⟨hreturns, hran.custody_iff⟩, hreturns', hran'.custody_iff⟩

/-! ## A process that is forgotten -/

/-- A bootfs with nothing but an executable `system/init`. -/
def initBootfs : List UInt8 :=
  Bootfs.archiveText 0 [⟨⟨systemInitPath, by decide⟩, Loader.tinyElf, .executable⟩]

/-- The INIT of the kernel, with its three roles. -/
def primordialInit : List UInt8 :=
  headerText protocolMinorV2 initType bootstrapInitV2Size 3 1 ++ leBytes 8 selfRootAddressRegion ++
    leBytes 8 bootfsMemoryObject ++ leBytes 8 loaderTaskGroup

def primordialHandles : List Loader.ReceivedHandleInfo :=
  [⟨2, selfRootExpectation.objectType, selfRootExpectation.rights, 0, [0, 0]⟩,
    ⟨3, bootfsExpectation.objectType, bootfsExpectation.rights, 0, [0, 0]⟩,
    ⟨4, loaderTaskGroupExpectation.objectType, loaderTaskGroupExpectation.rights, 0, [0, 0]⟩]

/-- A kernel on which everything works but the unmap of the bootfs. -/
def stickyPlatform : Platform Nat Unit where
  system
    | .queryCapabilityInfo 1, n => (.ok bootstrapChannelExpectation, n)
    | .queryCapabilityInfo 2, n => (.ok selfRootExpectation, n)
    | .queryCapabilityInfo 3, n => (.ok bootfsExpectation, n)
    | .queryCapabilityInfo _, n => (.ok loaderTaskGroupExpectation, n)
    | .receiveChannel _ _ _, n => (.ok ⟨⟨64, 3⟩, Vector.ofFn fun i => primordialInit.getD i 0,
        Vector.ofFn fun i => primordialHandles.getD i ⟨0, .other 0, ∅, 0, []⟩⟩, n)
    | .queryMemoryObjectSize _, n => (.ok initBootfs.length, n)
    | .mapBootfs _ _ _, n => (.ok initBootfs, n)
    | .unmapBootfs _ _ _, n => (.error (), n)
    | .sendChannel _ _, n => (.ok (), n)
    | .closeHandle _, n => (.ok (), n)
  loader := Loader.countingPlatform 5
  supervisor := ⟨fun _ n => (.error (), n)⟩

/-- The process 8 and its launch channel 7 are never closed. -/
theorem stickyPlatform_forgets :
    let r := runSupervisorBootstrap stickyPlatform ⟨0, 0, 0⟩ 1 (.monotonic 0) ⟨0, none⟩;
    traffic .supervisor r.2.2 = [.received [2, 3, 4], .loaded ⟨8, 7⟩, .unmapFailed, .closed 2 true,
      .closed 3 true, .closed 4 true] ∧ ¬ Custody 1 r.1 (traffic .supervisor r.2.2) := by
  intro r
  have htraffic : traffic .supervisor r.2.2 = [.received [2, 3, 4], .loaded ⟨8, 7⟩, .unmapFailed,
      .closed 2 true, .closed 3 true, .closed 4 true] := by decide +kernel
  refine ⟨htraffic, fun hcustody => ?_⟩
  obtain ⟨own, -, hperm⟩ := hcustody.closed
  rw [htraffic] at hperm
  have hlen := hperm.length_eq
  simp [childHandles] at hlen

end Wyrmroot.Bootstrap
