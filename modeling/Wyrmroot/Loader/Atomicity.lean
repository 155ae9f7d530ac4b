import Wyrmroot.Loader.Entry
import Wyrmroot.Loader.InitParsing
import Wyrmroot.Loader.Phases

/-!
# Failure atomicity and custody of a load

The phases put together. Before the first call an error has nothing to undo;
after it the phases answer for the ledger. One way out does neither: a
request without the resource domain its profile hands on is only refused
when the capabilities are staged, and that return skips the rollback
(`stageCapabilities_leaks`).
-/

namespace Wyrmroot.Loader

open Outcome

variable {τ ε α β : Type} {tr : LoaderPlatform τ ε} {caller : List Nat} {assume : Event → Prop}
  {E : LoadError ε → Ledger → Prop} {L : Ledger} {request : InternalLoadRequest}
  {authority : LoadAuthority} {P : α → Ledger → Prop}

theorem lift_phase {x : Outcome (LoadError ε) β} {f : β → Load τ ε α}
    (hpanic : x ≠ .panic) (herr : ∀ e, x = .err e → E e L)
    (hok : ∀ b, x = .ok b → Phase E request caller assume L (f b) P) :
    Phase E request caller assume L (Prog.lift x >>= f) P := by
  cases x with
  | ok b =>
      have heq : (Prog.lift (.ok b) : Load τ ε β) >>= f = f b := pure_bind b f
      rw [heq]
      exact hok b rfl
  | err e => exact fun s hs hown => .silent rfl ⟨hs, hown, herr e rfl⟩
  | panic => exact absurd rfl hpanic

/-- Staging as the rest of the load needs it. `G` is what else is known when
it succeeds. -/
def StagesWith (tr : LoaderPlatform τ ε) (E : LoadError ε → Ledger → Prop)
    (request : InternalLoadRequest) (caller : List Nat) (assume : Event → Prop)
    (authority : LoadAuthority) (G : Prop) : Prop :=
  ∀ pc created ranges thread (L : Ledger),
    Unsent (constructing authority.parentRoot pc created ranges (some thread)) L →
      Phase E request caller assume L (stageCapabilities tr authority request
          (constructing authority.parentRoot pc created ranges (some thread)) created.root)
        fun r L => StagedIn request
          (constructing authority.parentRoot pc created ranges (some thread)) r L ∧ G

theorem loadProcessMaterialized_phase (hset : Setting tr caller assume E) {fault : LoadFault}
    {plan : ElfLoadPlan} {startup : StartupMaterialization} (startupOffset stackPointer
    startupAbi : Nat) {bytes : List UInt8} {G : Prop}
    (hmoved : ∀ h ∈ request.moved, h ∈ caller)
    (hstage : (∃ init, initMessage request fault = .ok init) →
      StagesWith tr E request caller assume authority G)
    (hsegments : plan.segments.length ≤ maxLoadSegments)
    (hin : ∀ segment ∈ plan.segments, segment.FileIn request.image)
    (hstartup : (startupBytes startup fault : Load τ ε (List UInt8)) = pure bytes)
    (herr : ∀ e, initMessage request fault = .err e → E (.launch e) {}) :
    Phase E request caller assume {} (loadProcessMaterialized tr authority request fault plan
        startup startupOffset stackPointer startupAbi)
      fun r L => Loaded r L ∧ L.sent.isSome ∧ G := by
  unfold loadProcessMaterialized
  refine lift_phase (mapErr_ne_panic (initMessage_ne_panic request fault)) (fun e he => ?_)
    fun init hinit => ?_
  · obtain ⟨e', he', rfl⟩ := mapErr_eq_err.mp he
    exact herr e' he'
  have hstage := hstage ⟨init, mapErr_eq_ok.mp hinit⟩
  refine .bind (openLaunchChannel_phase hset authority) fun r L₁ h => ?_
  obtain ⟨tx, pc, child⟩ := r
  obtain ⟨htx, hL₁⟩ := h
  dsimp only at htx hL₁ ⊢
  subst htx
  refine .bind (createProcess_phase hset hL₁) fun r L₂ h => ?_
  obtain ⟨tx, created⟩ := r
  obtain ⟨htx, hL₂⟩ := h
  dsimp only at htx hL₂ ⊢
  subst htx
  refine .bind (placeSegments_phase hset hin (by simp [maxChildRanges]; omega) hL₂)
    fun tx L₃ h => ?_
  obtain ⟨⟨ranges, rfl, hranges⟩, hL₃⟩ := h
  have hroom : ranges.length < maxChildRanges := by
    rw [hranges, maxChildRanges]
    simp
    omega
  refine .bind (placeObject_phase hset _ _ _ _ hstartup hroom rfl rfl rfl hL₃)
    fun tx L₄ h => ?_
  obtain ⟨rfl, hL₄⟩ := h
  rw [ranged_constructing] at hL₄ ⊢
  refine .bind (createThread_phase hset hL₄) fun r L₅ h => ?_
  obtain ⟨tx, thread⟩ := r
  obtain ⟨htx, hL₅⟩ := h
  dsimp only at htx hL₅ ⊢
  subst htx
  refine .bind (hstage pc created _ thread L₅ hL₅) fun r L₆ h => ?_
  obtain ⟨tx, transfers⟩ := r
  obtain ⟨⟨hstaged, hL₆⟩, hG⟩ := h
  refine .bind (deliverInit_phase hset rfl (hstaged.fault fault) hmoved hL₆)
    fun tx L₇ h => ?_
  obtain ⟨rfl, hL₇, hsent₇⟩ := h
  exact (startChild_phase hset _ _ _ hL₇ hsent₇).mono fun r L h => ⟨h.1, h.2, hG⟩

/-- The checks on the startup text, which come before the first call. -/
def startupCheck : StartupSpec → Outcome StartupBlockError Unit
  | .legacy displayPath =>
      (writeStartupBlock initialStackPointer displayPath (List.replicate pageSize 0)).1
  | .jobV2 path argv environment =>
      (StartupBlockV2Plan.new startupV2BlockBytes startupV2BlockAddress path argv
        environment).map fun _ => ()

/-- The load is refused before its first call. -/
def Early (request : InternalLoadRequest) (fault : LoadFault) : Prop :=
  (∃ e, checkShape request = .err e) ∨ fault = .malformedElf ∨
    (∃ e, plan request.image maxLoadSegments = .err e) ∨
    (∃ e, startupCheck request.startup = .err e) ∨ ∃ e, initMessage request fault = .err e

theorem throw_phase {e : LoadError ε} (h : E e L) :
    Phase E request caller assume L (Prog.throw e : Load τ ε α) P :=
  fun _ hs hown => .silent rfl ⟨hs, hown, h⟩

theorem writtenBlock_eq (fault : LoadFault)
    {r : Outcome StartupBlockError Unit × List UInt8 × List Empty} (h : r.1 = .ok ()) :
    ∃ bytes, (writtenBlock fault r : Load τ ε (List UInt8)) = pure bytes := by
  obtain ⟨o, block, w⟩ := r
  obtain rfl : o = .ok () := h
  exact ⟨_, rfl⟩

theorem startupBytes_jobV2 (fault : LoadFault) {path : String} {argv environment : List String}
    {block : StartupBlockV2Plan} (h : StartupBlockV2Plan.new startupV2BlockBytes
      startupV2BlockAddress path argv environment = .ok block) :
    ∃ bytes, (startupBytes (.jobV2 block) fault : Load τ ε (List UInt8)) = pure bytes := by
  obtain ⟨hsound, -⟩ := StartupBlockV2Plan.new_sound h
  have hfill := (hsound.write_fills (List.replicate startupV2BlockBytes 0) (by simp)).1
  obtain ⟨bytes, hbytes⟩ := writtenBlock_eq (τ := τ) (ε := ε) fault hfill
  exact ⟨bytes, by rw [startupBytes, hbytes]⟩

section Load

variable {fault : LoadFault} {plan : ElfLoadPlan} {G : Prop} (hset : Setting tr caller assume E)
  (hmoved : ∀ h ∈ request.moved, h ∈ caller)
  (hstage : (∃ init, initMessage request fault = .ok init) →
    startupCheck request.startup = .ok () → StagesWith tr E request caller assume authority G)
  (hsegments : plan.segments.length ≤ maxLoadSegments)
  (hin : ∀ segment ∈ plan.segments, segment.FileIn request.image)
  (hearly : Early request fault → ∀ e, E e {})

include hset hmoved hstage hsegments hin hearly

theorem loadLegacyProcessMaterialized_phase {path : String}
    (hstartup : request.startup = .legacy path) :
    Phase E request caller assume {}
      (loadLegacyProcessMaterialized tr authority request path fault plan)
      fun r L => Loaded r L ∧ L.sent.isSome ∧ G := by
  have hpage : (writeStartupBlock initialStackPointer path (List.replicate pageSize 0)).1 ≠ .panic :=
    (writeStartupBlock_page (by simp) _ _).1
  unfold loadLegacyProcessMaterialized
  rcases hrun : writeStartupBlock initialStackPointer path (List.replicate pageSize 0)
    with ⟨_ | e | _, block, w⟩
  · refine loadProcessMaterialized_phase hset _ _ _ hmoved (fun hinit => hstage hinit ?_)
      hsegments hin rfl fun e he => hearly (.inr (.inr (.inr (.inr ⟨e, he⟩)))) _
    rw [hstartup]
    exact congrArg Prod.fst hrun
  · refine throw_phase (hearly (.inr (.inr (.inr (.inl ⟨e, ?_⟩)))) _)
    rw [hstartup]
    exact congrArg Prod.fst hrun
  · rw [hrun] at hpage
    exact absurd rfl hpage

theorem loadJobV2ProcessMaterialized_phase {path : String} {argv environment : List String}
    (hstartup : request.startup = .jobV2 path argv environment) :
    Phase E request caller assume {} (loadJobV2ProcessMaterialized tr authority request path argv
        environment fault plan)
      fun r L => Loaded r L ∧ L.sent.isSome ∧ G := by
  unfold loadJobV2ProcessMaterialized
  refine lift_phase (mapErr_ne_panic (StartupBlockV2Plan.new_ne_panic _ _ _ _ _)) (fun e he => ?_)
    fun block hblock => ?_
  · obtain ⟨e', he', rfl⟩ := mapErr_eq_err.mp he
    refine hearly (.inr (.inr (.inr (.inl ⟨e', ?_⟩)))) _
    rw [hstartup, startupCheck, he']
    rfl
  · obtain ⟨bytes, hbytes⟩ := startupBytes_jobV2 (τ := τ) (ε := ε) fault
      (mapErr_eq_ok.mp hblock)
    refine loadProcessMaterialized_phase hset _ _ _ hmoved (fun hinit => hstage hinit ?_)
      hsegments hin hbytes fun e he => hearly (.inr (.inr (.inr (.inr ⟨e, he⟩)))) _
    rw [hstartup, startupCheck, mapErr_eq_ok.mp hblock]
    rfl

end Load

theorem checkShape_ne_panic (request : InternalLoadRequest) : checkShape request ≠ .panic := by
  unfold checkShape
  iterate 4 refine bind_ne_panic (rejectIf_ne_panic _ _) fun _ _ => ?_
  exact rejectIf_ne_panic _ _

theorem plan_zeros : plan (List.replicate 64 0) maxLoadSegments = .err .badMagic := by
  rfl

theorem loadProcessInternal_phase (authority : LoadAuthority) (request : InternalLoadRequest)
    (fault : LoadFault) (hset : Setting tr caller assume E) {G : Prop}
    (hmoved : ∀ h ∈ request.moved, h ∈ caller)
    (hstage : Shaped request → ¬ Early request fault →
      StagesWith tr E request caller assume authority G)
    (hearly : Early request fault → ∀ e, E e {}) :
    Phase E request caller assume {} (loadProcessInternal tr authority request fault)
      fun r L => Loaded r L ∧ L.sent.isSome ∧ G := by
  unfold loadProcessInternal
  refine lift_phase (mapErr_ne_panic (checkShape_ne_panic request)) (fun e he => ?_)
    fun _ hshape => ?_
  · obtain ⟨e', he', rfl⟩ := mapErr_eq_err.mp he
    exact hearly (.inl ⟨e', he'⟩) _
  have hshape := mapErr_eq_ok.mp hshape
  by_cases hfault : fault = .malformedElf
  · rw [if_pos hfault, plan_zeros]
    exact throw_phase (hearly (.inr (.inl hfault)) _)
  · rw [if_neg hfault]
    obtain ⟨hpanic, hplan⟩ := plan_spec request.image maxLoadSegments
    refine lift_phase (mapErr_ne_panic hpanic) (fun e he => ?_) fun elf helf => ?_
    · obtain ⟨e', he', rfl⟩ := mapErr_eq_err.mp he
      exact hearly (.inr (.inr (.inl ⟨e', he'⟩))) _
    · obtain ⟨hsegments, hin⟩ := hplan elf (mapErr_eq_ok.mp helf)
      have hstage : (∃ init, initMessage request fault = .ok init) →
          startupCheck request.startup = .ok () →
            StagesWith tr E request caller assume authority G := by
        rintro ⟨init, hinit⟩ hcheck
        refine hstage (checkShape_shaped hshape) ?_
        simp [Early, hshape, hfault, mapErr_eq_ok.mp helf, hcheck, hinit]
      cases hstartup : request.startup with
      | legacy path =>
          exact loadLegacyProcessMaterialized_phase hset hmoved hstage hsegments hin hearly hstartup
      | jobV2 path argv environment =>
          exact loadJobV2ProcessMaterialized_phase hset hmoved hstage hsegments hin hearly hstartup

/-! ## Staging without the resource domain -/

/-- The return that skips the rollback: the parent channel at least is left
open. -/
def Leaked (L : Ledger) : Prop := L.handles ≠ 0

theorem holds_leaked {tx : Transaction} {pc : Nat} (hL : Holds tx L)
    (hpc : tx.parentChannel = some pc) : Leaked L := by
  intro h
  have hmem : pc ∈ L.handles := hL.mem (by simp [Transaction.owned, hpc])
  rw [h] at hmem
  exact Multiset.notMem_zero _ hmem

theorem stageCapabilities_leaks (hset : Setting tr caller assume E)
    (hE : ∀ L, Leaked L → E (.launch .handleCount) L)
    (hp : request.profile = .supervisorResourceDomain ∨ request.profile = .d6ResourceOwner)
    (hnone : request.resourceDomain = none) :
    StagesWith tr E request caller assume authority False := by
  intro pc created ranges thread L hL
  set base := constructing authority.parentRoot pc created ranges (some thread) with hbase
  rcases hp with hp | hp
  · have hstage : stageCapabilities tr authority request base created.root =
        stageAuthority tr authority request base created.root := by
      unfold stageCapabilities
      rw [hp]
      rfl
    rw [hstage]
    refine .bind (duplicateFor_phase hset base none none none some (fun _ => none)
      (fun _ => none) _ _ hL fun d => ?_) fun bootfs L₁ hL₁ => ?_
    · show [thread, created.root, created.process, d, pc].Perm
        [d, thread, created.root, created.process, pc]
      grind
    refine .bind (duplicateFor_phase hset base (some bootfs) none none (fun _ => some bootfs)
      some (fun _ => none) _ _ hL₁ fun d => ?_) fun taskGroup L₂ hL₂ => ?_
    · show [thread, created.root, created.process, d, bootfs, pc].Perm
        [d, thread, created.root, created.process, bootfs, pc]
      grind
    rw [if_pos (by rw [hp]; rfl), hnone]
    exact throw_phase (hE L₂ (holds_leaked hL₂.toHolds rfl))
  · have hstage : stageCapabilities tr authority request base created.root =
        stageResourceOwner tr request base := by
      unfold stageCapabilities
      rw [hp]
      rfl
    rw [hstage, stageResourceOwner, hnone]
    exact throw_phase (hE L (holds_leaked hL.toHolds rfl))

/-! ## The entry points -/

/-- The ledger after a whole trace. -/
def Ledger.replay (caller : List Nat) (events : List Event) : Option Ledger :=
  events.foldlM (Ledger.step caller) {}

/-- A handle the platform hands out is none of those the caller holds. -/
def Event.fresh (caller : List Nat) : Event → Bool
  | .done c r => (created c r).all fun h => decide (h ∉ caller)
  | .failed _ => true

variable {e : EntryPoint}

theorem checked_spec (h : (e.checked : Checked ε _) = .ok request) :
    request.moved = e.supplied ∧ request.resourceDomain = e.domain ∧
      (request.channels = [] → e.supplied = []) := by
  cases e
  case process | processWithFault | resourceDomain | d6ResourceOwner =>
    obtain rfl := Outcome.ok.inj h
    exact ⟨rfl, rfl, fun _ => rfl⟩
  case job r =>
    obtain ⟨profile, -, h⟩ := bind_eq_ok.mp h
    obtain rfl := Outcome.ok.inj h
    exact ⟨List.append_nil _, rfl, id⟩
  case service | wyrmsh =>
    obtain ⟨-, -, h⟩ := bind_eq_ok.mp h
    obtain ⟨startup, -, h⟩ := bind_eq_ok.mp h
    obtain rfl := Outcome.ok.inj h
    exact ⟨rfl, rfl, nofun⟩
  case launchClient r =>
    obtain ⟨-, -, h⟩ := bind_eq_ok.mp h
    obtain ⟨-, -, h⟩ := bind_eq_ok.mp h
    obtain ⟨environment, -, h⟩ := bind_eq_ok.mp h
    obtain rfl := Outcome.ok.inj h
    exact ⟨rfl, rfl, nofun⟩
  all_goals
    obtain ⟨-, -, h⟩ := bind_eq_ok.mp h
    obtain rfl := Outcome.ok.inj h
    exact ⟨rfl, rfl, nofun⟩

theorem checked_domain (h : (e.checked : Checked ε _) = .ok request) {d : Nat}
    (hd : e.domain = some d) : d ∉ e.supplied := by
  cases e
  case deviceCoordinatorResource r =>
    obtain ⟨_, hcheck, _⟩ := bind_eq_ok.mp h
    obtain rfl := Option.some.inj hd
    simp only [rejectIf_eq_ok, Bool.or_eq_false_iff, decide_eq_false_iff_not] at hcheck
    simp [EntryPoint.supplied, eq_comm, hcheck]
  all_goals simp_all [EntryPoint.supplied, EntryPoint.domain]

theorem checked_needsDomain (h : (e.checked : Checked ε _) = .ok request)
    (hneeds : request.profile.needsDomain = true) :
    e.domain.isSome ∨ ∃ r, request = processRequest r ∧
      (e = .process r ∨ ∃ fault, e = .processWithFault r fault) := by
  cases e
  case process r => exact .inr ⟨r, (Outcome.ok.inj h).symm, .inl rfl⟩
  case processWithFault r fault => exact .inr ⟨r, (Outcome.ok.inj h).symm, .inr ⟨fault, rfl⟩⟩
  case resourceDomain | d6ResourceOwner | deviceCoordinatorResource => exact .inl rfl
  case job r =>
    obtain ⟨profile, hprofile, h⟩ := bind_eq_ok.mp h
    obtain rfl := Outcome.ok.inj h
    simp only [jobProfile] at hprofile
    split at hprofile
    · obtain rfl := Outcome.ok.inj hprofile
      cases hneeds
    · obtain rfl := Outcome.ok.inj hprofile
      cases hneeds
    · cases hprofile
  case service r =>
    obtain ⟨_, hrole, h⟩ := bind_eq_ok.mp h
    obtain ⟨startup, _, h⟩ := bind_eq_ok.mp h
    obtain rfl := Outcome.ok.inj h
    rw [rejectIf_eq_ok] at hrole
    simp only [LaunchProfile.needsDomain, Bool.or_eq_true, decide_eq_true_eq] at hneeds
    rcases hneeds with (hp | hp) | hp <;> simp [hp, LaunchProfile.channelRole] at hrole
  case launchClient r =>
    obtain ⟨_, _, h⟩ := bind_eq_ok.mp h
    obtain ⟨_, _, h⟩ := bind_eq_ok.mp h
    obtain ⟨_, _, h⟩ := bind_eq_ok.mp h
    obtain rfl := Outcome.ok.inj h
    cases hneeds
  case wyrmsh r =>
    obtain ⟨_, _, h⟩ := bind_eq_ok.mp h
    obtain ⟨_, _, h⟩ := bind_eq_ok.mp h
    obtain rfl := Outcome.ok.inj h
    cases hneeds
  all_goals
    obtain ⟨_, _, h⟩ := bind_eq_ok.mp h
    obtain rfl := Outcome.ok.inj h
    cases hneeds

theorem entries_ne_panic (c : CorrelationEnvironment) : c.entries ≠ .panic := by
  exact nofun

theorem checked_ne_panic (e : EntryPoint) : (e.checked : Checked ε _) ≠ .panic := by
  cases e
  case job r =>
    refine bind_ne_panic ?_ fun _ _ => nofun
    unfold jobProfile
    split <;> exact nofun
  case service r =>
    refine bind_ne_panic (rejectIf_ne_panic _ _) fun _ _ => ?_
    refine bind_ne_panic (mapErr_ne_panic ?_) fun _ _ => nofun
    unfold serviceStartup
    split
    · refine bind_ne_panic (okOr_ne_panic _ _) fun c _ => ?_
      exact bind_ne_panic (entries_ne_panic c) fun _ _ => nofun
    · split <;> exact nofun
  case launchClient r =>
    iterate 2 refine bind_ne_panic (rejectIf_ne_panic _ _) fun _ _ => ?_
    exact bind_ne_panic (mapErr_ne_panic (entries_ne_panic _)) fun _ _ => nofun
  case wyrmsh r =>
    refine bind_ne_panic (rejectIf_ne_panic _ _) fun _ _ => ?_
    exact bind_ne_panic (rejectIf_ne_panic _ _) fun _ _ => nofun
  case process | processWithFault | resourceDomain | d6ResourceOwner => exact nofun
  all_goals exact bind_ne_panic (rejectIf_ne_panic _ _) fun _ _ => nofun

/-- Where an entry point ends: with the child, or with an error and the
report that goes with it. -/
def LoadEnd (e : EntryPoint) (E : LoadError ε → Ledger → Prop) (G : Prop) :
    Outcome (LoadFailure ε) LoadedProcess → Ledger → Prop
  | .ok loaded, L => Loaded loaded L ∧ L.sent.isSome ∧ G
  | .err f, L => f.custody = e.supplied.map (·, !e.supplied.isEmpty && L.sent.isSome) ∧ E f.error L
  | .panic, _ => False

theorem reporting_ends {ε' : Type} {report : LoadError ε → Bool → ε'} {body : Load τ ε α}
    {M : Monitor Event Ledger} {Q : Outcome ε' α → LoadState τ → Ledger → Prop} {s : LoadState τ}
    (h : M.Ends L body (fun o s' L' => Q (o.mapErr (report · s'.consumed)) s' L')
      { s with consumed := false }) :
    M.Ends L (reporting report body) Q s := by
  unfold Monitor.Ends Prog.wp at h ⊢
  unfold reporting
  generalize body { s with consumed := false } = r at h ⊢
  obtain ⟨_ | _ | _, s', w⟩ := r
  · exact h
  · exact h
  · exact h

theorem load_ends {given : LoadAuthority} {G : Prop}
    (hset : Setting tr (e.callerHandles given) assume E)
    (hrefused : ∀ err, e.checked = .err err → E err {})
    (hearly : ∀ request, e.checked = (.ok request : Checked ε _) → Early request e.fault →
      ∀ err, E err {})
    (hstage : ∀ request, e.checked = (.ok request : Checked ε _) → Shaped request →
      ¬ Early request e.fault →
        StagesWith tr E request (e.callerHandles given) assume (e.authority given) G)
    (s : LoadState τ) :
    (monitor (e.callerHandles given) assume).Ends {} (e.load tr given) (fun o _ L =>
      (∀ hs, L.sent = some hs → ∀ h ∈ e.callerHandles given, (h ∈ hs ↔ h ∈ e.supplied)) ∧
        LoadEnd e E G o L) s := by
  rw [EntryPoint.load_eq]
  refine reporting_ends ?_
  unfold loadChecked
  cases hchecked : (e.checked : Checked ε _) with
  | err err => exact .silent rfl ⟨nofun, by simp, hrefused err hchecked⟩
  | panic => exact absurd hchecked (checked_ne_panic e)
  | ok request =>
      obtain ⟨hmoved, -, hempty⟩ := checked_spec hchecked
      have hflag : request.channels.isEmpty = e.supplied.isEmpty := by
        rw [Bool.eq_iff_iff, List.isEmpty_iff, List.isEmpty_iff]
        refine ⟨hempty, fun h => ?_⟩
        rw [h] at hmoved
        exact (List.append_eq_nil_iff.mp hmoved).1
      have hphase := loadProcessInternal_phase (e.authority given) request e.fault hset
        (fun h hh => by simp [EntryPoint.callerHandles, ← hmoved, hh]) (hstage request hchecked)
        (hearly request hchecked)
      have heq : (Prog.lift (.ok request) : Load τ ε _) >>=
          (fun r => loadProcessInternal tr (e.authority given) r e.fault) =
            loadProcessInternal tr (e.authority given) request e.fault := pure_bind _ _
      rw [heq]
      refine (hphase _ ⟨by simp, nofun⟩ (fun h hh => absurd hh (Multiset.notMem_zero h))).mono ?_
      intro o s' L h
      obtain ⟨hcustody, -, hend⟩ := h
      refine ⟨fun hs hsent h hcaller => by rw [hcustody.exact hs hsent h hcaller, hmoved], ?_⟩
      cases o with
      | ok loaded | panic => exact hend
      | err err =>
          refine ⟨?_, hend⟩
          rw [hcustody.flag, hflag]

theorem freshUnder_fresh (tr : LoaderPlatform τ ε) (caller : List Nat) :
    FreshUnder tr caller fun ev => ev.fresh caller = true := by
  intro c t r t' _ h
  simpa [Event.fresh] using h

theorem fresh_of_run {L L' : Ledger} {events : List Event}
    (h : (monitor caller assume).run L events = some L') :
    ∀ ev ∈ events, ev.fresh caller = true := by
  refine Monitor.run_forall (I := fun _ => True) (fun L ev L' hstep _ => ⟨?_, trivial⟩) h trivial
  cases ev with
  | done c r =>
      simp only [monitor, Ledger.step, Option.ite_none_right_eq_some, Bool.and_eq_true] at hstep
      exact hstep.1.2
  | failed c => rfl

/-! ## Failure atomicity -/

/-- A request to the plain entry points for a profile that hands on a
resource domain, which such a request cannot name, and that nothing else
stops before the first call. -/
def LoadRequest.Leaks (request : LoadRequest) (fault : LoadFault) : Prop :=
  (request.profile = .supervisorResourceDomain ∨ request.profile = .d6ResourceOwner) ∧
    fault ≠ .malformedElf ∧ (plan request.image maxLoadSegments).isOk = true ∧
    (writeStartupBlock initialStackPointer request.displayPath
      (List.replicate pageSize 0)).1.isOk = true ∧
    request.transactionId ≠ 0

def EntryPoint.Leaks : EntryPoint → Prop
  | .process request => request.Leaks .none
  | .processWithFault request fault => request.Leaks fault
  | _ => False

/-- Everything the load made is accounted for: the trace never releases a
thing twice or a thing that is not the load's, and at its end nothing is left
but what a success returns. -/
def Accounted (caller : List Nat) (events : List Event) :
    Outcome (LoadFailure ε) LoadedProcess → Prop
  | .ok loaded => ∃ L, Ledger.replay caller events = some L ∧ Loaded loaded L
  | .err f => f.error.rollbackFailed = false →
      ∃ L, Ledger.replay caller events = some L ∧ L.Clear
  | .panic => False

/-- On every platform, whichever of its calls fail. -/
def FailureAtomic (e : EntryPoint) (given : LoadAuthority) : Prop :=
  ∀ (τ ε : Type) (tr : LoaderPlatform τ ε) (t : τ),
    (∀ ev ∈ (e.load tr given ⟨t, false⟩).2.2, ev.fresh (e.callerHandles given) = true) →
      Accounted (e.callerHandles given) (e.load tr given ⟨t, false⟩).2.2
        (e.load tr given ⟨t, false⟩).1

variable {x : Outcome ε α}

theorem isOk_of_not_err (hpanic : x ≠ .panic) (herr : ¬ ∃ e, x = .err e) :
    x.isOk = true := by
  cases x with
  | ok a => rfl
  | err e => exact absurd ⟨e, rfl⟩ herr
  | panic => exact absurd rfl hpanic

variable {r : LoadRequest}

theorem Shaped.needsDomain_cases (hshape : Shaped (processRequest r))
    (hneeds : r.profile.needsDomain = true) :
    r.profile = .supervisorResourceDomain ∨ r.profile = .d6ResourceOwner := by
  have hchannels : r.profile.expectedChannels = 0 := hshape.channels.symm
  simp only [LaunchProfile.needsDomain, Bool.or_eq_true, decide_eq_true_eq] at hneeds
  rcases hneeds with hp | hp
  · exact hp
  · rw [hp] at hchannels
    cases hchannels

theorem leaks_of_not_early {fault : LoadFault}
    (hshape : Shaped (processRequest r)) (hearly : ¬ Early (processRequest r) fault)
    (hneeds : r.profile.needsDomain = true) : r.Leaks fault := by
  simp only [Early, not_or] at hearly
  obtain ⟨-, hfault, hplan, hstartup, hinit⟩ := hearly
  refine ⟨hshape.needsDomain_cases hneeds, hfault, isOk_of_not_err (plan_spec _ _).1 hplan,
    ?_, ?_⟩
  · exact isOk_of_not_err (writeStartupBlock_page (by simp) _ _).1 hstartup
  · rcases initMessage_cases (processRequest r) fault with ⟨-, h⟩ | ⟨hc, -⟩
    · exact absurd ⟨_, h⟩ hinit
    · exact hc.transaction

/-- The errors of an atomic load. -/
def Atomic (err : LoadError ε) (L : Ledger) : Prop := err.rollbackFailed = false → L.Clear

theorem atomic_setting (tr : LoaderPlatform τ ε) (caller : List Nat) :
    Setting tr caller (fun ev => ev.fresh caller = true) Atomic :=
  ⟨freshUnder_fresh tr caller, fun _ _ h => h.clear⟩

theorem atomic_empty (err : LoadError ε) : Atomic err {} := fun _ => ⟨rfl, rfl, rfl⟩

theorem stagesWith_of_not_leaks {given : LoadAuthority} (he : ¬ e.Leaks)
    (hset : Setting tr caller assume E) (hchecked : (e.checked : Checked ε _) = .ok request)
    (hshape : Shaped request) (hearly : ¬ Early request e.fault) :
    StagesWith tr E request caller assume (e.authority given) True := by
  intro pc created ranges thread L hL
  refine (stageCapabilities_phase hset hshape (fun hneeds => ?_) hL).mono fun r L h => ⟨h, trivial⟩
  rw [(checked_spec hchecked).2.1]
  refine (checked_needsDomain hchecked hneeds).resolve_right fun h => ?_
  obtain ⟨r, rfl, rfl | ⟨fault, rfl⟩⟩ := h
  · exact he (leaks_of_not_early hshape hearly hneeds)
  · exact he (leaks_of_not_early hshape hearly hneeds)

theorem failureAtomic_of_not_leaks {given : LoadAuthority} (he : ¬ e.Leaks) :
    FailureAtomic e given := by
  intro τ ε tr t hfresh
  have hset := atomic_setting tr (e.callerHandles given)
  obtain ⟨L, hrun, -, hend⟩ := load_ends hset (fun err _ => atomic_empty err)
    (fun _ _ _ err => atomic_empty err)
    (fun request hchecked hshape hearly => stagesWith_of_not_leaks he hset hchecked hshape hearly)
    ⟨t, false⟩ hfresh
  cases ho : (e.load tr given ⟨t, false⟩).1 with
  | ok loaded =>
      rw [ho] at hend
      exact ⟨L, hrun, hend.1⟩
  | err f =>
      rw [ho] at hend
      exact fun hf => ⟨L, hrun, hend.2 hf⟩
  | panic =>
      rw [ho] at hend
      exact hend.elim

theorem countingPlatform_reliable (base : Nat) : (countingPlatform base).Reliable := by
  intro c t
  cases c <;> exact ⟨_, _, rfl⟩

theorem countingPlatform_fresh {base : Nat} (hbase : ∀ h ∈ caller, h < base) :
    FreshUnder (countingPlatform base) caller fun _ => True := by
  intro c t r t' h _ x hx hcaller
  have hlt := hbase x hcaller
  cases c
  case channelCreate | processCreate =>
    obtain ⟨hr, -⟩ := Prod.mk.inj h
    obtain rfl := Except.ok.inj hr
    simp only [created, List.mem_cons, List.not_mem_nil, or_false] at hx
    omega
  case duplicate | memoryCreate | threadCreate =>
    obtain ⟨hr, -⟩ := Prod.mk.inj h
    obtain rfl := Except.ok.inj hr
    obtain rfl := List.mem_singleton.mp hx
    omega
  all_goals cases hx

/-- The return without a rollback, on a platform that never fails. -/
def LeakedBy (tr : LoaderPlatform τ ε) (err : LoadError ε) (L : Ledger) : Prop :=
  tr.Reliable → Leaked L ∧ err.rollbackFailed = false

theorem eq_ok_of_isOk (h : x.isOk = true) : ∃ a, x = .ok a := by
  cases x with
  | ok a => exact ⟨a, rfl⟩
  | err e | panic => cases h

theorem leaks_shape {fault : LoadFault} (h : r.Leaks fault) :
    checkShape (processRequest r) = .ok () := by
  obtain ⟨hp | hp, -⟩ := h
  · simp [checkShape, processRequest, hp, LaunchProfile.expectedChannels,
      LaunchProfile.channelRole]
  · simp [checkShape, processRequest, hp, LaunchProfile.expectedChannels,
      LaunchProfile.channelRole]

theorem not_early_of_leaks {fault : LoadFault} (h : r.Leaks fault) :
    ¬ Early (processRequest r) fault := by
  have hshape := leaks_shape h
  obtain ⟨hp, hfault, hplan, hstartup, htransaction⟩ := h
  obtain ⟨elf, hplan⟩ := eq_ok_of_isOk hplan
  obtain ⟨_, hstartup⟩ := eq_ok_of_isOk hstartup
  rintro (⟨e, he⟩ | he | ⟨e, he⟩ | ⟨e, he⟩ | ⟨e, he⟩)
  · rw [hshape] at he
    cases he
  · exact hfault he
  · have he : plan r.image maxLoadSegments = .err e := he
    rw [hplan] at he
    cases he
  · have he : (writeStartupBlock initialStackPointer r.displayPath
      (List.replicate pageSize 0)).1 = .err e := he
    rw [hstartup] at he
    cases he
  · have hcorrelated : Correlated (processRequest r) := by
      rcases hp with hp | hp
      · exact ⟨htransaction, by simp [InternalLoadRequest.words, processRequest, hp,
          LaunchProfile.wordCount], by simp [InternalLoadRequest.words, processRequest, hp]⟩
      · exact ⟨htransaction, by simp [InternalLoadRequest.words, processRequest, hp,
          LaunchProfile.wordCount], by simp [InternalLoadRequest.words, processRequest, hp]⟩
    rcases initMessage_cases (processRequest r) fault with ⟨hn, -⟩ | ⟨-, hok⟩
    · exact hn hcorrelated
    · rw [hok] at he
      cases he

theorem exists_above (caller : List Nat) : ∃ base, ∀ h ∈ caller, h < base := by
  induction caller with
  | nil => exact ⟨0, nofun⟩
  | cons h rest ih =>
      obtain ⟨base, hbase⟩ := ih
      refine ⟨base + h + 1, fun x hx => ?_⟩
      rcases List.mem_cons.mp hx with rfl | hx
      · omega
      · have := hbase x hx
        omega

theorem leaks_request (he : e.Leaks) :
    ∃ r : LoadRequest, (e.checked : Checked ε _) = .ok (processRequest r) ∧ r.Leaks e.fault := by
  cases e
  case process r => exact ⟨r, rfl, he⟩
  case processWithFault r fault => exact ⟨r, rfl, he⟩
  all_goals exact he.elim

theorem not_failureAtomic_of_leaks (given : LoadAuthority) (he : e.Leaks) :
    ¬ FailureAtomic e given := by
  intro hatomic
  obtain ⟨base, hbase⟩ := exists_above (e.callerHandles given)
  obtain ⟨r, hchecked, hleaks⟩ := leaks_request (ε := Unit) he
  have hset : Setting (countingPlatform base) (e.callerHandles given) (fun _ => True)
      (LeakedBy (countingPlatform base)) :=
    ⟨countingPlatform_fresh hbase, fun _ _ h hr => absurd hr h.unreliable⟩
  have hsame : ∀ request, e.checked = (.ok request : Checked Unit _) →
      request = processRequest r := fun request h =>
    Outcome.ok.inj (h.symm.trans hchecked)
  obtain ⟨L, hrun, -, hend⟩ := load_ends (G := False) hset
    (fun err h => by rw [hchecked] at h; cases h)
    (fun request h hearly => absurd (hsame request h ▸ hearly) (not_early_of_leaks hleaks))
    (fun request h _ _ => hsame request h ▸ stageCapabilities_leaks hset
      (fun L hL _ => ⟨hL, rfl⟩) hleaks.1 rfl) ⟨0, false⟩ fun _ _ => trivial
  have haccounted := hatomic Nat Unit (countingPlatform base) 0 (fresh_of_run hrun)
  generalize (e.load (countingPlatform base) given ⟨0, false⟩).1 = o at hend haccounted
  cases o with
  | ok loaded => exact hend.2.2
  | err f =>
      obtain ⟨hleaked, hf⟩ := hend.2 (countingPlatform_reliable base)
      obtain ⟨L', hrun', hclear⟩ := haccounted hf
      obtain rfl : L = L' := Option.some.inj (hrun.symm.trans hrun')
      exact hleaked hclear.handles
  | panic => exact hend

/-- A load is failure-atomic on every platform, except for the requests whose
missing resource domain is noticed too late. -/
theorem failureAtomic_iff_not_leaks (e : EntryPoint) (given : LoadAuthority) :
    FailureAtomic e given ↔ ¬ e.Leaks :=
  ⟨fun h he => not_failureAtomic_of_leaks given he h, failureAtomic_of_not_leaks⟩

/-- Asking `load_process` for the resource owner leaves the channel, the
process and the thread behind. -/
theorem d6ResourceOwner_not_failureAtomic :
    ¬ FailureAtomic (.process ⟨tinyElf, "a", .d6ResourceOwner, 1⟩) ⟨1, 2, 3⟩ := by
  have hleaks : (EntryPoint.process ⟨tinyElf, "a", .d6ResourceOwner, 1⟩).Leaks :=
    ⟨.inr rfl, by decide, by decide +kernel, by decide +kernel, by decide⟩
  exact not_failureAtomic_of_leaks _ hleaks

end Wyrmroot.Loader
