import Wyrmroot.Loader.Atomicity

/-!
# Sender and receiver of an INIT

The loader assembles an INIT in two places: the encoder lists roles in the
bytes, the staging lists handles in the transfer. The parser of the child
pairs them by position and checks kinds and rights. `staged_supplies` says
that the two lists of the loader run in step, whatever the platform does;
with what the kernel reports of a received handle, the parser of the same
profile accepts (`init_agreement`).

Three profiles are the same on the wire: `init0`, `i2Stress` and
`capabilityController` are all launched with the authority trio of protocol
1.0, and each of their parsers takes the INIT of the others. Every other
parser refuses.
-/

namespace Wyrmroot.Loader

open Outcome

/-! ## The parser of a profile -/

/-- What the child of a profile calls on its INIT: the transaction and the
correlation words, in the order of the fields. -/
def childParser (profile : LaunchProfile) (bytes : List UInt8)
    (handles : List ReceivedHandleInfo) : Launch (UInt64 × List UInt64) :=
  match profile with
  | .deviceCoordinator => do
      let i ← parseDeviceCoordinatorInit bytes handles
      pure (i.transactionId, [i.supervisorGeneration])
  | .deviceCoordinatorResourceDomain => do
      let i ← parseDeviceCoordinatorResourceInit bytes handles
      pure (i.transactionId, [i.supervisorGeneration])
  | .deviceDriver => do
      let i ← parseDeviceDriverInit bytes handles
      pure (i.transactionId, [i.supervisorGeneration, i.roleId, i.attemptGeneration,
        i.launchSession, i.endpointId, i.endpointGeneration])
  | .consoled => do
      let i ← parseConsoledInit bytes handles
      pure (i.transactionId, [i.registryGeneration, i.registryEndpointId,
        i.registryEndpointGeneration, i.launchConnectionId, i.launchConnectionGeneration])
  | .wyrmsh => do
      let i ← parseWyrmshInit bytes handles
      pure (i.transactionId, [i.registryGeneration, i.registryEndpointId,
        i.registryEndpointGeneration, i.launchConnectionId, i.launchConnectionGeneration,
        i.consoleGeneration, i.statusGeneration, i.childGeneration, i.outerLaunchTransaction])
  | profile => do
      let message ← parseInit profile bytes handles
      pure (message.transactionId, [])

variable {e : LaunchError}

theorem childParser_err {profile : LaunchProfile} {bytes : List UInt8}
    {handles : List ReceivedHandleInfo}
    (h : parseInit profile bytes handles = .err e) :
    childParser profile bytes handles = .err e := by
  cases profile <;> simp [childParser, parseDeviceCoordinatorInit,
    parseDeviceCoordinatorResourceInit, parseDeviceDriverInit, parseConsoledInit, parseWyrmshInit,
    parseCorrelated, h]

theorem parseCorrelated_initText {profile : LaunchProfile} {transactionId : UInt64}
    {words : List UInt64} {handles : List ReceivedHandleInfo}
    (hparse : parseInit profile (initText profile transactionId words) handles =
      .ok { transactionId, profile })
    (hwords : words.contains 0 = false) :
    parseCorrelated profile profile.wordOffset words.length (initText profile transactionId words)
      handles = .ok (transactionId, words) := by
  unfold parseCorrelated
  rw [hparse, ok_bind, getWords_initText, ok_bind, hwords]
  rfl

theorem childParser_initText {profile : LaunchProfile} {transactionId : UInt64}
    {words : List UInt64} {handles : List ReceivedHandleInfo} (htx : transactionId ≠ 0)
    (hcount : words.length = profile.wordCount) (hwords : words.contains 0 = false)
    (hhandles : List.Forall₂ Grants profile.capabilities handles) :
    childParser profile (initText profile transactionId words) handles =
      .ok (transactionId, words) := by
  have hparse := parseInit_initText htx hcount hwords hhandles
  have hcorrelated := parseCorrelated_initText hparse hwords
  have hread := getWords_initText profile transactionId words
  generalize initText profile transactionId words = text at hparse hcorrelated hread ⊢
  cases profile
  case deviceCoordinator =>
    obtain ⟨g, rfl⟩ := List.length_eq_one_iff.mp hcount
    have h : parseCorrelated .deviceCoordinator 64 1 text handles = _ := hcorrelated
    rw [childParser, parseDeviceCoordinatorInit, h]
    rfl
  case deviceCoordinatorResourceDomain =>
    obtain ⟨g, rfl⟩ := List.length_eq_one_iff.mp hcount
    have h : parseCorrelated .deviceCoordinatorResourceDomain 72 1 text handles = _ := hcorrelated
    rw [childParser, parseDeviceCoordinatorResourceInit, h]
    rfl
  case deviceDriver =>
    obtain ⟨a, b, c, d, e, f, rfl⟩ : ∃ a b c d e f, [a, b, c, d, e, f] = words := by
      simpa [LaunchProfile.wordCount, List.length_eq_succ_iff] using hcount
    have h : parseCorrelated .deviceDriver 56 6 text handles = _ := hcorrelated
    rw [childParser, parseDeviceDriverInit, h]
    rfl
  case consoled =>
    obtain ⟨a, b, c, d, e, rfl⟩ : ∃ a b c d e, [a, b, c, d, e] = words := by
      simpa [LaunchProfile.wordCount, List.length_eq_succ_iff] using hcount
    have h : parseCorrelated .consoled 88 5 text handles = _ := hcorrelated
    rw [childParser, parseConsoledInit, h]
    rfl
  case wyrmsh =>
    obtain ⟨a, b, c, d, e, f, g, i, j, rfl⟩ :
        ∃ a b c d e f g i j, [a, b, c, d, e, f, g, i, j] = words := by
      simpa [LaunchProfile.wordCount, List.length_eq_succ_iff] using hcount
    have h : getWords text 88 9 = _ := hread
    rw [childParser, parseWyrmshInit, hparse, ok_bind, h]
    rfl
  all_goals
    obtain rfl := List.length_eq_zero_iff.mp hcount
    simp only [childParser, hparse, ok_bind]
    rfl

/-! ## The staged handles -/

/-- The platform made `copy` out of `handle`. -/
def CopyOf (events : List Event) (handle copy : Nat) : Prop :=
  ∃ rights, Event.done (.duplicate handle rights) copy ∈ events

/-- The handle at a capability's place is the one its role is about, with
the rights it is granted. -/
structure Supplies (authority : LoadAuthority) (request : InternalLoadRequest) (root : Nat)
    (events : List Event) (c : Capability) (t : HandleTransfer) : Prop where
  rights : t.requestedRights = c.rights
  root : c.role = roleSelfRoot → t.handle = root
  bootfs : c.role = roleBootfs → CopyOf events authority.bootfs t.handle
  taskGroup : c.role = roleLoaderTaskGroup → CopyOf events authority.taskGroup t.handle
  domain : c.role = roleResourceDomain ∨ c.role = roleD6ResourceDomain →
    ∃ d, request.resourceDomain = some d ∧ CopyOf events d t.handle
  manifest : c.role = roleDeviceManifest → request.deviceManifest = some t.handle
  channel : c.objectType = .channel → t.handle ∈ request.channels

/-- The handles at the places of channels. -/
def channelsSent (capabilities : List Capability) (transfers : List HandleTransfer) : List Nat :=
  ((capabilities.zip transfers).filter fun pair => pair.1.objectType = .channel).map (·.2.handle)

variable {τ ε : Type} {tr : LoaderPlatform τ ε} {authority : LoadAuthority}
  {request : InternalLoadRequest} {root : Nat} {tx tx' : Transaction}
  {transfers : List HandleTransfer} {s s' : LoadState τ} {events w : List Event}

theorem fail_ne_ok {α : Type} {stage : LoadStage} {cause : ε} {a : α} :
    (fail tr tx stage cause : Load τ ε α) s ≠ (.ok a, s', w) := by
  intro h
  obtain ⟨_, _, _, _, _, hthrow, _⟩ := Prog.bind_run_eq_ok h
  cases hthrow

variable {copy handle : Nat} {rights : Rights}

theorem duplicateFor_event (h : duplicateFor tr tx handle rights s = (.ok copy, s', events)) :
    CopyOf events handle copy := by
  obtain ⟨result, s₁, w₁, w₂, hcall, h, rfl⟩ := Prog.bind_run_eq_ok h
  cases result with
  | error cause => exact absurd h fail_ne_ok
  | ok value =>
      obtain rfl : value = copy := by
        obtain ⟨h, -⟩ := Prod.mk.inj h
        exact Outcome.ok.inj h
      refine ⟨rights, List.mem_append_left _ ?_⟩
      unfold Prog.attempt Loader.request at hcall
      rcases hc : tr.call (.duplicate handle rights) s.io with ⟨_ | r, io⟩
      · rw [hc] at hcall
        cases hcall
      · rw [hc] at hcall
        cases hcall
        exact .head _

theorem CopyOf.mono {events' : List Event} (h : CopyOf events handle copy)
    (hsub : ∀ ev ∈ events, ev ∈ events') : CopyOf events' handle copy :=
  h.imp fun _ hr => hsub _ hr

theorem supplies_root : Supplies authority request root events selfRootCapability
    (transfer root selfRootRights) :=
  ⟨rfl, fun _ => rfl, nofun, nofun, nofun, nofun, nofun⟩

theorem supplies_bootfs (h : CopyOf events authority.bootfs copy) :
    Supplies authority request root events ⟨roleBootfs, .memoryObject, bootfsRights⟩
      (transfer copy bootfsRights) :=
  ⟨rfl, nofun, fun _ => h, nofun, nofun, nofun, nofun⟩

theorem supplies_taskGroup (h : CopyOf events authority.taskGroup copy) :
    Supplies authority request root events ⟨roleLoaderTaskGroup, .taskGroup, loaderTaskGroupRights⟩
      (transfer copy loaderTaskGroupRights) :=
  ⟨rfl, nofun, nofun, fun _ => h, nofun, nofun, nofun⟩

theorem supplies_domain {d role : Nat} (hd : request.resourceDomain = some d)
    (h : CopyOf events d copy) (hrole : role = roleResourceDomain ∨ role = roleD6ResourceDomain) :
    Supplies authority request root events ⟨role, .taskGroup, rights⟩ (transfer copy rights) := by
  rcases hrole with rfl | rfl
  · exact ⟨rfl, nofun, nofun, nofun, fun _ => ⟨d, hd, h⟩, nofun, nofun⟩
  · exact ⟨rfl, nofun, nofun, nofun, fun _ => ⟨d, hd, h⟩, nofun, nofun⟩

theorem supplies_manifest {m : Nat} (h : request.deviceManifest = some m) :
    Supplies authority request root events ⟨roleDeviceManifest, .memoryObject, deviceManifestRights⟩
      (transfer m deviceManifestRights) :=
  ⟨rfl, nofun, nofun, nofun, nofun, fun _ => h, nofun⟩

/-- The roles that a channel can have. -/
def channelRoles : List Nat :=
  [roleSupervisorControl, rolePublicationAuthority, roleRegistryClient, roleLaunchSession,
    roleStdin, roleStdout, roleStderr, roleDw1bProgressData, roleDeviceControl, roleConsoleStatus]

variable {channel : Nat}

theorem supplies_channel {role : Nat} (hrole : role ∈ channelRoles)
    (h : channel ∈ request.channels) :
    Supplies authority request root events (channelCapability role)
      (transfer channel childChannelRights) := by
  have hnot : role ≠ roleSelfRoot ∧ role ≠ roleBootfs ∧ role ≠ roleLoaderTaskGroup ∧
      role ≠ roleResourceDomain ∧ role ≠ roleD6ResourceDomain ∧ role ≠ roleDeviceManifest := by
    revert role
    decide
  obtain ⟨h₁, h₂, h₃, h₄, h₅, h₆⟩ := hnot
  refine ⟨rfl, fun hr => absurd hr h₁, fun hr => absurd hr h₂, fun hr => absurd hr h₃,
    fun hr => ?_, fun hr => absurd hr h₆, fun _ => h⟩
  rcases hr with hr | hr
  · exact absurd hr h₄
  · exact absurd hr h₅

/-- Where the staging ends: the transfers run in step with the capabilities. -/
def InStep (authority : LoadAuthority) (request : InternalLoadRequest) (root : Nat)
    (events : List Event) (transfers : List HandleTransfer) : Prop :=
  List.Forall₂ (Supplies authority request root events) request.profile.capabilities transfers ∧
    channelsSent request.profile.capabilities transfers = request.channels

theorem require_eq_ok {β : Type} {value : Option β} {b : β}
    (h : (require value e : Load τ ε β) s = (.ok b, s', w)) : value = some b ∧ s' = s ∧ w = [] := by
  cases value with
  | none => cases h
  | some a =>
      cases h
      exact ⟨rfl, rfl, rfl⟩

theorem stageAuthority_inStep (hchannels : request.channels = [])
    (hauth : (request.profile.hasLoaderAuthorityTrio ||
      request.profile.hasLoaderAuthorityQuartet) = true)
    (h : stageAuthority tr authority request tx root s = (.ok (tx', transfers), s', events)) :
    InStep authority request root events transfers := by
  obtain ⟨bootfs, s₁, w₁, _, hbootfs, h₁, rfl⟩ := Prog.bind_run_eq_ok h
  obtain ⟨taskGroup, s₂, w₂, w, htask, h₂, rfl⟩ := Prog.bind_run_eq_ok h₁
  have hb : CopyOf (w₁ ++ (w₂ ++ w)) authority.bootfs bootfs :=
    (duplicateFor_event hbootfs).mono fun _ hev => by simp [hev]
  have ht : CopyOf (w₁ ++ (w₂ ++ w)) authority.taskGroup taskGroup :=
    (duplicateFor_event htask).mono fun _ hev => by simp [hev]
  unfold InStep
  rw [hchannels]
  by_cases hq : request.profile.hasLoaderAuthorityQuartet = true
  · rw [if_pos hq] at h₂
    obtain ⟨d, s₃, w₃, _, hd, h₃, rfl⟩ := Prog.bind_run_eq_ok h₂
    obtain ⟨copy, s₄, w₄, w, hcopy, h₄, rfl⟩ := Prog.bind_run_eq_ok h₃
    have hc : CopyOf (w₁ ++ (w₂ ++ (w₃ ++ (w₄ ++ w)))) d copy :=
      (duplicateFor_event hcopy).mono fun _ hev => by simp [hev]
    cases h₄
    have hp : request.profile = .supervisorResourceDomain := by
      cases hp : request.profile <;> rw [hp] at hq <;> first | rfl | cases hq
    rw [hp]
    exact ⟨.cons supplies_root (.cons (supplies_bootfs hb) (.cons (supplies_taskGroup ht)
      (.cons (supplies_domain (require_eq_ok hd).1 hc (.inl rfl)) .nil))), rfl⟩
  · rw [if_neg hq] at h₂
    cases h₂
    have hp : request.profile.capabilities = [selfRootCapability,
        ⟨roleBootfs, .memoryObject, bootfsRights⟩,
        ⟨roleLoaderTaskGroup, .taskGroup, loaderTaskGroupRights⟩] := by
      cases hp : request.profile <;> rw [hp] at hauth hq <;>
        first | rfl | exact absurd rfl hq | cases hauth
    rw [hp]
    exact ⟨.cons supplies_root (.cons (supplies_bootfs hb) (.cons (supplies_taskGroup ht) .nil)),
      rfl⟩

theorem stageResourceOwner_inStep (hchannels : request.channels = [])
    (hp : request.profile = .d6ResourceOwner)
    (h : stageResourceOwner tr request tx s = (.ok (tx', transfers), s', events)) :
    InStep authority request root events transfers := by
  obtain ⟨d, s₁, w₁, _, hd, h₁, rfl⟩ := Prog.bind_run_eq_ok h
  obtain ⟨copy, s₂, w₂, w, hcopy, h₂, rfl⟩ := Prog.bind_run_eq_ok h₁
  have hc : CopyOf (w₁ ++ (w₂ ++ w)) d copy :=
    (duplicateFor_event hcopy).mono fun _ hev => by simp [hev]
  cases h₂
  unfold InStep
  rw [hchannels, hp]
  exact ⟨.cons (supplies_domain (require_eq_ok hd).1 hc (.inr rfl)) .nil, rfl⟩

theorem firstChannel_eq_ok (hlen : request.channels.length = 1)
    (h : (firstChannel request : Load τ ε Nat) s = (.ok channel, s', w)) :
    request.channels = [channel] := by
  obtain ⟨c, hc⟩ := List.length_eq_one_iff.mp hlen
  unfold firstChannel at h
  rw [hc] at h ⊢
  cases h
  rfl

theorem stageCoordinator_inStep (hlen : request.channels.length = 1)
    (hp : request.profile = .deviceCoordinator ∨
      request.profile = .deviceCoordinatorResourceDomain)
    (h : stageCoordinator tr request tx root s = (.ok (tx', transfers), s', events)) :
    InStep authority request root events transfers := by
  obtain ⟨m, s₁, w₁, w, hm, h₁, rfl⟩ := Prog.bind_run_eq_ok h
  have hmanifest := (require_eq_ok hm).1
  unfold InStep
  rcases hp with hp | hp
  · rw [if_neg (by rw [hp]; exact nofun)] at h₁
    obtain ⟨channel, s₂, w₂, w, hchannel, h₂, rfl⟩ := Prog.bind_run_eq_ok h₁
    have hc := firstChannel_eq_ok hlen hchannel
    cases h₂
    rw [hp, hc]
    exact ⟨.cons supplies_root (.cons (supplies_channel (by decide) (by simp [hc]))
      (.cons (supplies_manifest hmanifest) .nil)), rfl⟩
  · rw [if_pos hp] at h₁
    obtain ⟨d, s₂, w₂, _, hd, h₂, rfl⟩ := Prog.bind_run_eq_ok h₁
    obtain ⟨copy, s₃, w₃, _, hcopy, h₃, rfl⟩ := Prog.bind_run_eq_ok h₂
    obtain ⟨channel, s₄, w₄, w, hchannel, h₄, rfl⟩ := Prog.bind_run_eq_ok h₃
    have hc := firstChannel_eq_ok hlen hchannel
    have hcopied : CopyOf (w₁ ++ (w₂ ++ (w₃ ++ (w₄ ++ w)))) d copy :=
      (duplicateFor_event hcopy).mono fun _ hev => by simp [hev]
    cases h₄
    rw [hp, hc]
    exact ⟨.cons supplies_root (.cons (supplies_channel (by decide) (by simp [hc]))
      (.cons (supplies_manifest hmanifest)
        (.cons (supplies_domain (require_eq_ok hd).1 hcopied (.inl rfl)) .nil))), rfl⟩

theorem supplies_channels {roles : List Nat} (hroles : ∀ r ∈ roles, r ∈ channelRoles) :
    ∀ {channels : List Nat}, channels.length = roles.length →
      (∀ c ∈ channels, c ∈ request.channels) →
        List.Forall₂ (Supplies authority request root events) (roles.map channelCapability)
          (channels.map (transfer · childChannelRights)) := by
  induction roles with
  | nil =>
      intro channels hlen _
      obtain rfl := List.length_eq_zero_iff.mp hlen
      exact .nil
  | cons r roles ih =>
      intro channels hlen hsub
      obtain ⟨c, channels, rfl⟩ := List.exists_cons_of_length_eq_add_one hlen
      have hrest := ih (fun x hx => hroles x (.tail _ hx)) (Nat.succ.inj hlen)
        fun x hx => hsub x (.tail _ hx)
      exact .cons (supplies_channel (hroles r (.head _)) (hsub c (.head _))) hrest

theorem channelsSent_channels (roles : List Nat) :
    ∀ {channels : List Nat}, channels.length = roles.length →
      channelsSent (roles.map channelCapability) (channels.map (transfer · childChannelRights)) =
        channels := by
  induction roles with
  | nil => exact fun hlen => (List.length_eq_zero_iff.mp hlen).symm
  | cons r roles ih =>
      intro channels hlen
      obtain ⟨c, channels, rfl⟩ := List.exists_cons_of_length_eq_add_one hlen
      exact congrArg (c :: ·) (ih (Nat.succ.inj hlen))

theorem rootAndChannel_inStep {role : Nat} (hlen : request.channels.length = 1)
    (hcaps : request.profile.capabilities = [selfRootCapability, channelCapability role])
    (hrole : role ∈ channelRoles)
    (h : (do
      let channel ← (firstChannel request : Load τ ε Nat)
      pure ({ tx with delegatedChannels := [channel] },
        [transfer root selfRootRights, transfer channel childChannelRights])) s =
          (.ok (tx', transfers), s', events)) :
    InStep authority request root events transfers := by
  obtain ⟨channel, s₁, w₁, w, hchannel, h₁, rfl⟩ := Prog.bind_run_eq_ok h
  have hc := firstChannel_eq_ok hlen hchannel
  cases h₁
  unfold InStep
  rw [hcaps, hc]
  exact ⟨.cons supplies_root (.cons (supplies_channel hrole (by simp [hc])) .nil), rfl⟩

/-- The encoder's roles and the staged handles run in step, for every
profile and whatever the platform answers. -/
theorem staged_inStep (hshape : Shaped request)
    (h : stageCapabilities tr authority request tx root s = (.ok (tx', transfers), s', events)) :
    InStep authority request root events transfers := by
  have hlen := hshape.channels
  unfold stageCapabilities at h
  cases hp : request.profile
  all_goals
    rw [hp] at hlen
    simp only [hp] at h
  case init0 | i2Stress | capabilityController | supervisor | supervisorResourceDomain =>
    exact stageAuthority_inStep (List.length_eq_zero_iff.mp hlen) (by rw [hp]; rfl) h
  case d6ResourceOwner =>
    exact stageResourceOwner_inStep (List.length_eq_zero_iff.mp hlen) hp h
  case deviceCoordinator =>
    exact stageCoordinator_inStep hlen (.inl hp) h
  case deviceCoordinatorResourceDomain =>
    exact stageCoordinator_inStep hlen (.inr hp) h
  case bootstrapRegistry | bootstrapService | registryClient | launchClient | deviceDriver =>
    exact rootAndChannel_inStep hlen (by rw [hp]; rfl) (by decide) h
  case dw1bProgress =>
    obtain ⟨channel, s₁, w₁, w, hchannel, h₁, rfl⟩ := Prog.bind_run_eq_ok h
    have hc := firstChannel_eq_ok hlen hchannel
    cases h₁
    unfold InStep
    rw [hp, hc]
    exact ⟨.cons (supplies_channel (by decide) (by simp [hc])) .nil, rfl⟩
  all_goals
    cases h
    unfold InStep
    rw [hp]
  case wyrmsh =>
    let roles := [roleStdin, roleStdout, roleStderr, roleConsoleStatus, roleRegistryClient,
      roleLaunchSession]
    have hroles : ∀ r ∈ roles, r ∈ channelRoles := by decide
    exact ⟨supplies_channels hroles hlen fun _ hc => hc, channelsSent_channels roles hlen⟩
  case consoled =>
    let roles := [roleRegistryClient, roleLaunchSession]
    have hroles : ∀ r ∈ roles, r ∈ channelRoles := by decide
    exact ⟨.cons supplies_root (supplies_channels hroles hlen fun _ hc => hc),
      channelsSent_channels roles hlen⟩
  case jobV2Streams =>
    let roles := [roleStdin, roleStdout, roleStderr]
    have hroles : ∀ r ∈ roles, r ∈ channelRoles := by decide
    exact ⟨supplies_channels hroles hlen fun _ hc => hc, channelsSent_channels roles hlen⟩
  case probeChild =>
    rw [List.length_eq_zero_iff.mp hlen]
    exact ⟨.cons supplies_root .nil, rfl⟩
  case hello | earlyBootStub | jobV2 =>
    rw [List.length_eq_zero_iff.mp hlen]
    exact ⟨.nil, rfl⟩

/-! ## Agreement -/

/-- The kinds of the parent's objects: what the platform creates and copies,
and what the caller hands in. -/
structure Kinds (kind : Nat → ObjectType) (authority : LoadAuthority)
    (request : InternalLoadRequest) (root : Nat) (events : List Event) : Prop where
  root : kind root = .addressRegion
  copy : ∀ h c, CopyOf events h c → kind c = kind h
  bootfs : kind authority.bootfs = .memoryObject
  taskGroup : kind authority.taskGroup = .taskGroup
  domain : ∀ d, request.resourceDomain = some d → kind d = .taskGroup
  manifest : ∀ m, request.deviceManifest = some m → kind m = .memoryObject
  channels : ∀ c ∈ request.channels, kind c = .channel

/-- What the child is told of a handle it receives. -/
structure ReceivedAs (kind : Nat → ObjectType) (t : HandleTransfer) (info : ReceivedHandleInfo) :
    Prop where
  live : info.handle ≠ 0
  objectType : info.objectType = kind t.handle
  rights : info.rights = t.requestedRights
  reserved0 : info.reserved0 = 0
  reserved : info.reserved = [0, 0]

theorem capability_cases (profile : LaunchProfile) :
    ∀ c ∈ profile.capabilities, (c.role = roleSelfRoot ∧ c.objectType = .addressRegion) ∨
      (c.role = roleBootfs ∧ c.objectType = .memoryObject) ∨
      (c.role = roleLoaderTaskGroup ∧ c.objectType = .taskGroup) ∨
      ((c.role = roleResourceDomain ∨ c.role = roleD6ResourceDomain) ∧
        c.objectType = .taskGroup) ∨
      (c.role = roleDeviceManifest ∧ c.objectType = .memoryObject) ∨ c.objectType = .channel := by
  cases profile <;> decide

theorem Supplies.kind_eq {kind : Nat → ObjectType} {c : Capability} {t : HandleTransfer}
    (h : Supplies authority request root events c t)
    (hkinds : Kinds kind authority request root events)
    (hc : c ∈ request.profile.capabilities) : kind t.handle = c.objectType := by
  rcases capability_cases _ c hc with
    ⟨hr, ht⟩ | ⟨hr, ht⟩ | ⟨hr, ht⟩ | ⟨hr, ht⟩ | ⟨hr, ht⟩ | ht
  · rw [h.root hr, hkinds.root, ht]
  · rw [hkinds.copy _ _ (h.bootfs hr), hkinds.bootfs, ht]
  · rw [hkinds.copy _ _ (h.taskGroup hr), hkinds.taskGroup, ht]
  · obtain ⟨d, hd, hcopy⟩ := h.domain hr
    rw [hkinds.copy _ _ hcopy, hkinds.domain d hd, ht]
  · rw [hkinds.manifest _ (h.manifest hr), ht]
  · rw [hkinds.channels _ (h.channel ht), ht]

theorem grants_of_received {kind : Nat → ObjectType} {infos : List ReceivedHandleInfo}
    (hkinds : Kinds kind authority request root events)
    (hreceived : List.Forall₂ (ReceivedAs kind) transfers infos) :
    ∀ {capabilities : List Capability}, (∀ c ∈ capabilities, c ∈ request.profile.capabilities) →
      List.Forall₂ (Supplies authority request root events) capabilities transfers →
        List.Forall₂ Grants capabilities infos := by
  induction hreceived with
  | nil =>
      intro capabilities _ hsupplies
      cases hsupplies
      exact .nil
  | cons hreceived _ ih =>
      intro capabilities hsub hsupplies
      obtain ⟨c, rest, hfirst, hrest, rfl⟩ := List.forall₂_cons_right_iff.mp hsupplies
      have hgrant : Grants c _ :=
        ⟨hreceived.live, hreceived.objectType.trans (hfirst.kind_eq hkinds (hsub c (.head _))),
          hreceived.rights.trans hfirst.rights, hreceived.reserved0, hreceived.reserved⟩
      exact .cons hgrant (ih (fun x hx => hsub x (.tail _ hx)) hrest)

/-- The profiles that cannot be told apart on the wire, by one of them. -/
def LaunchProfile.wire : LaunchProfile → LaunchProfile
  | .i2Stress | .capabilityController => .init0
  | profile => profile

/-- What a parser can tell a profile by. -/
def LaunchProfile.mark (profile : LaunchProfile) : Nat × Nat × List Nat :=
  (profile.protocolMinor, profile.initSize, profile.roles)

/-- The profiles, one for each kind on the wire. -/
def LaunchProfile.kinds : List LaunchProfile :=
  [.init0, .probeChild, .supervisor, .supervisorResourceDomain, .earlyBootStub, .bootstrapRegistry,
    .bootstrapService, .registryClient, .launchClient, .consoled, .wyrmsh, .jobV2, .jobV2Streams,
    .dw1bProgress, .deviceCoordinator, .deviceCoordinatorResourceDomain, .deviceDriver,
    .d6ResourceOwner, .hello]

theorem find_mark (profile : LaunchProfile) :
    LaunchProfile.kinds.find? (fun q => q.mark = profile.mark) = some profile.wire := by
  cases profile <;> decide

variable {p q : LaunchProfile}

/-- Version, size and roles of an INIT tell its profile, up to `wire`. -/
theorem wire_eq (h : p.mark = q.mark) : p.wire = q.wire := by
  have hp := find_mark p
  rw [h, find_mark q] at hp
  exact (Option.some.inj hp).symm

theorem text_wire (profile : LaunchProfile) (transactionId : UInt64) (words : List UInt64) :
    initText profile transactionId words = initText profile.wire transactionId words ∧
      profile.capabilities = profile.wire.capabilities ∧
      profile.wordCount = profile.wire.wordCount := by
  cases profile <;> exact ⟨rfl, rfl, rfl⟩

theorem initText_wire (h : p.wire = q.wire) (transactionId : UInt64)
    (words : List UInt64) : initText p transactionId words = initText q transactionId words ∧
      p.capabilities = q.capabilities ∧ p.wordCount = q.wordCount := by
  obtain ⟨htext, hcaps, hcount⟩ := text_wire p transactionId words
  obtain ⟨htext', hcaps', hcount'⟩ := text_wire q transactionId words
  rw [htext, htext', hcaps, hcaps', hcount, hcount', h]
  exact ⟨rfl, rfl, rfl⟩

/-- The INIT of an accepted request, received with the handles that went with
it: the parser of its profile reads back the transaction and the correlation
words, with every handle at the place of its role; so do the parsers of the
profiles that are launched in the same way, and every other parser refuses
it. -/
theorem init_agreement {kind : Nat → ObjectType} {init : List UInt8}
    {infos : List ReceivedHandleInfo} (hshape : checkShape request = .ok ())
    (hinit : initMessage request .none = .ok init)
    (hstage : stageCapabilities tr authority request tx root s =
      (.ok (tx', transfers), s', events))
    (hkinds : Kinds kind authority request root events)
    (hreceived : List.Forall₂ (ReceivedAs kind) transfers infos) :
    InStep authority request root events transfers ∧
      (∀ q : LaunchProfile, q.wire = request.profile.wire →
        childParser q init infos = .ok (request.transactionId, request.words)) ∧
      ∀ q : LaunchProfile, q.wire ≠ request.profile.wire →
        ∃ e, parseInit q init infos = .err e ∧ childParser q init infos = .err e := by
  obtain ⟨hcorrelated, hok⟩ := (initMessage_cases request .none).resolve_left (by
    rw [hinit]
    exact fun h => nomatch h.2)
  rw [hinit] at hok
  obtain rfl : init = initText request.profile request.transactionId request.words :=
    Outcome.ok.inj hok
  have hstep := staged_inStep (checkShape_shaped hshape) hstage
  have hgrants := grants_of_received hkinds hreceived (fun _ hc => hc) hstep.1
  refine ⟨hstep, fun q hq => ?_, fun q hq => ?_⟩
  · obtain ⟨htext, hcaps, hwords⟩ := initText_wire hq request.transactionId request.words
    rw [← htext]
    exact childParser_initText hcorrelated.transaction (hcorrelated.count.trans hwords.symm)
      hcorrelated.nonzero (hcaps ▸ hgrants)
  · cases hparse : parseInit q (initText request.profile request.transactionId request.words)
      infos with
    | ok parsed =>
        obtain ⟨hminor, hsize, hroles⟩ := wire_of_parseInit hcorrelated.count hparse
        have hmark : request.profile.mark = q.mark := by
          simp only [LaunchProfile.mark, hminor, hsize, hroles]
        exact absurd (wire_eq hmark).symm hq
    | err e => exact ⟨e, rfl, childParser_err hparse⟩
    | panic => exact absurd hparse (parseInit_ne_panic _ _ _)

/-- A request for the first process, and the kinds of what its child gets. -/
def startInit0 : InternalLoadRequest :=
  { image := tinyElf, profile := .init0, transactionId := 1, startup := .legacy "a" }

def trioKind (h : Nat) : ObjectType :=
  if h = 4 then .addressRegion else if h = 3 ∨ h = 5 then .memoryObject else .taskGroup

/-- The copies the platform makes for it. -/
def trioCopies : List Event :=
  [.done (.duplicate 3 bootfsRights) (5 : Nat), .done (.duplicate 2 loaderTaskGroupRights) (6 : Nat)]

def trioHandles : List ReceivedHandleInfo :=
  [⟨1, .addressRegion, selfRootRights, 0, [0, 0]⟩, ⟨2, .memoryObject, bootfsRights, 0, [0, 0]⟩,
    ⟨3, .taskGroup, loaderTaskGroupRights, 0, [0, 0]⟩]

theorem startInit0_init : checkShape startInit0 = .ok () ∧
    initMessage startInit0 .none = .ok (initText .init0 1 []) := by
  decide +kernel

theorem startInit0_staged :
    stageCapabilities (countingPlatform 5) ⟨1, 2, 3⟩ startInit0 { parentRoot := 1 } 4 ⟨0, false⟩ =
      (.ok ({ parentRoot := 1, delegatedBootfs := some 5, delegatedTaskGroup := some 6 },
        [transfer 4 selfRootRights, transfer 5 bootfsRights, transfer 6 loaderTaskGroupRights]),
        ⟨2, false⟩, trioCopies) := rfl

theorem trioKind_kinds : Kinds trioKind ⟨1, 2, 3⟩ startInit0 4 trioCopies := by
  refine ⟨rfl, fun h c hcopy => ?_, rfl, rfl, nofun, nofun, nofun⟩
  obtain ⟨rights, hmem⟩ := hcopy
  rcases List.mem_cons.mp hmem with heq | hmem
  · cases heq
    rfl
  · obtain heq := List.mem_singleton.mp hmem
    cases heq
    rfl

theorem trioHandles_received : List.Forall₂ (ReceivedAs trioKind)
    [transfer 4 selfRootRights, transfer 5 bootfsRights, transfer 6 loaderTaskGroupRights]
    trioHandles :=
  .cons ⟨by decide, rfl, rfl, rfl, rfl⟩ (.cons ⟨by decide, rfl, rfl, rfl, rfl⟩
    (.cons ⟨by decide, rfl, rfl, rfl, rfl⟩ .nil))

theorem startInit0_agreement :
    (∀ q : LaunchProfile, q.wire = .init0 →
        childParser q (initText .init0 1 []) trioHandles = .ok (1, [])) ∧
      ∀ q : LaunchProfile, q.wire ≠ .init0 →
        ∃ e, parseInit q (initText .init0 1 []) trioHandles = .err e ∧
          childParser q (initText .init0 1 []) trioHandles = .err e :=
  (init_agreement startInit0_init.1 startInit0_init.2 startInit0_staged trioKind_kinds
    trioHandles_received).2

/-- The first process and the stress payload take each other's INIT. -/
theorem i2Stress_takes_init0 :
    initMessage startInit0 .none = .ok (initText .init0 1 []) ∧
      ¬ ∀ q : LaunchProfile, q ≠ startInit0.profile →
        ∃ e, parseInit q (initText .init0 1 []) trioHandles = .err e := by
  refine ⟨startInit0_init.2, fun h => ?_⟩
  obtain ⟨e, he⟩ := h .i2Stress (by decide)
  have hok : (parseInit .i2Stress (initText .init0 1 []) trioHandles).isOk = true := by
    decide +kernel
  rw [he] at hok
  cases hok

end Wyrmroot.Loader
