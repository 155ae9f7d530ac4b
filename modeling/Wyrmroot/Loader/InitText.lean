import Wyrmroot.Loader.Process

/-!
# The INIT datagram

What an INIT looks like on the wire, once for the encoders and once for the
parsers: a header, one record per capability, and the correlation words of
the profiles that have them. `encodeRequest_eq` says that every encoder
writes this text; the parsers are then read against it.
-/

namespace Wyrmroot.Loader

open Outcome

/-- The capabilities a profile is launched with, in order. -/
def LaunchProfile.capabilities : LaunchProfile → List Capability
  | .init0 | .i2Stress | .capabilityController | .supervisor =>
      [selfRootCapability, ⟨roleBootfs, .memoryObject, bootfsRights⟩,
        ⟨roleLoaderTaskGroup, .taskGroup, loaderTaskGroupRights⟩]
  | .supervisorResourceDomain =>
      [selfRootCapability, ⟨roleBootfs, .memoryObject, bootfsRights⟩,
        ⟨roleLoaderTaskGroup, .taskGroup, loaderTaskGroupRights⟩,
        ⟨roleResourceDomain, .taskGroup, resourceDomainCustodyRights⟩]
  | .probeChild => [selfRootCapability]
  | .bootstrapRegistry => [selfRootCapability, channelCapability roleSupervisorControl]
  | .bootstrapService => [selfRootCapability, channelCapability rolePublicationAuthority]
  | .registryClient => [selfRootCapability, channelCapability roleRegistryClient]
  | .launchClient => [selfRootCapability, channelCapability roleLaunchSession]
  | .consoled =>
      [selfRootCapability, channelCapability roleRegistryClient,
        channelCapability roleLaunchSession]
  | .wyrmsh =>
      [channelCapability roleStdin, channelCapability roleStdout, channelCapability roleStderr,
        channelCapability roleConsoleStatus, channelCapability roleRegistryClient,
        channelCapability roleLaunchSession]
  | .jobV2Streams =>
      [channelCapability roleStdin, channelCapability roleStdout, channelCapability roleStderr]
  | .dw1bProgress => [channelCapability roleDw1bProgressData]
  | .deviceCoordinator =>
      [selfRootCapability, channelCapability rolePublicationAuthority,
        ⟨roleDeviceManifest, .memoryObject, deviceManifestRights⟩]
  | .deviceCoordinatorResourceDomain =>
      [selfRootCapability, channelCapability rolePublicationAuthority,
        ⟨roleDeviceManifest, .memoryObject, deviceManifestRights⟩,
        ⟨roleResourceDomain, .taskGroup, resourceDomainClaimRights⟩]
  | .deviceDriver => [selfRootCapability, channelCapability roleDeviceControl]
  | .d6ResourceOwner => [⟨roleD6ResourceDomain, .taskGroup, resourceDomainClaimRights⟩]
  | .hello | .earlyBootStub | .jobV2 => []

theorem LaunchProfile.capabilities_length (profile : LaunchProfile) :
    profile.capabilities.length = profile.capabilityCount := by
  cases profile <;> rfl

/-- How many correlation words follow the records. -/
def LaunchProfile.wordCount : LaunchProfile → Nat
  | .deviceCoordinator | .deviceCoordinatorResourceDomain => 1
  | .deviceDriver => 6
  | .consoled => 5
  | .wyrmsh => 9
  | _ => 0

/-- Records left unused between the capabilities and the words. -/
def LaunchProfile.padding : LaunchProfile → Nat
  | .consoled => 24
  | _ => 0

theorem LaunchProfile.initSize_eq (profile : LaunchProfile) :
    profile.initSize = headerBytes + (profile.capabilities.length * 8 + (profile.padding +
      profile.wordCount * 8)) := by
  cases profile <;> rfl

/-! ## The text -/

def headerText (minor messageType totalSize capabilities : Nat) (transactionId : UInt64) :
    List UInt8 :=
  magic ++ (leBytes 2 major ++ (leBytes 2 minor ++ (leBytes 4 messageType ++ (leBytes 4 0 ++
    (leBytes 4 totalSize ++ (leBytes 4 capabilities ++ (leBytes 8 transactionId.toNat ++
      leBytes 8 0)))))))

def recordsText (capabilities : List Capability) : List UInt8 :=
  capabilities.flatMap fun c => leBytes 4 c.role ++ leBytes 4 0

def wordsText (words : List UInt64) : List UInt8 := words.flatMap fun w => leBytes 8 w.toNat

def initText (profile : LaunchProfile) (transactionId : UInt64) (words : List UInt64) :
    List UInt8 :=
  headerText profile.protocolMinor typeInit profile.initSize profile.capabilityCount
      transactionId ++
    (recordsText profile.capabilities ++ (List.replicate profile.padding 0 ++ wordsText words))

@[simp] theorem headerText_length (minor messageType totalSize capabilities : Nat)
    (transactionId : UInt64) :
    (headerText minor messageType totalSize capabilities transactionId).length = headerBytes := by
  simp [headerText, magic, headerBytes]

@[simp] theorem recordsText_length (capabilities : List Capability) :
    (recordsText capabilities).length = capabilities.length * 8 := by
  simp [recordsText, List.length_flatMap]

@[simp] theorem wordsText_length (words : List UInt64) :
    (wordsText words).length = words.length * 8 := by
  simp [wordsText, List.length_flatMap]

/-! ## Encoding -/

theorem writeHeader_turns (minor messageType totalSize capabilities : Nat)
    (transactionId : UInt64) :
    Turns (writeHeader minor messageType totalSize capabilities transactionId) () 0
      (List.replicate headerBytes 0)
      (headerText minor messageType totalSize capabilities transactionId) := by
  have hzeros : List.replicate headerBytes (0 : UInt8) =
      List.replicate 4 0 ++ (List.replicate 2 0 ++ (List.replicate 2 0 ++ (List.replicate 4 0 ++
        (leBytes 4 0 ++ (List.replicate 4 0 ++ (List.replicate 4 0 ++ (List.replicate 8 0 ++
          leBytes 8 0))))))) := by
    simp [headerBytes]
  rw [hzeros]
  unfold writeHeader headerText
  refine .append (.store (by simp [magic])) ?_
  refine .append (.store (by simp)) ?_
  refine .append (.store (by simp)) ?_
  refine .append (.store (by simp)) (.behind ?_)
  refine .append (.store (by simp)) ?_
  refine .append (.store (by simp)) ?_
  exact .before (.store (by simp))

theorem putRoles_turns (capabilities : List Capability) :
    ∀ index, Turns (putRoles index (capabilities.map (·.role))) () (headerBytes + index * 8)
      (List.replicate (capabilities.length * 8) 0) (recordsText capabilities) := by
  induction capabilities with
  | nil => exact fun index => .pure ()
  | cons c rest ih =>
      intro index
      have hzeros : List.replicate ((c :: rest).length * 8) (0 : UInt8) =
          (List.replicate 4 0 ++ leBytes 4 0) ++ List.replicate (rest.length * 8) 0 := by
        simp [Nat.succ_mul, Nat.add_comm _ 8, List.replicate_add]
      rw [hzeros]
      refine .append (.before (.store (by simp))) ?_
      have hnext : headerBytes + index * 8 + (leBytes 4 c.role ++ leBytes 4 0).length =
          headerBytes + (index + 1) * 8 := by
        simp
        omega
      rw [hnext]
      exact ih (index + 1)

theorem putWords_turns (words : List UInt64) :
    ∀ (offset : Nat) (old : List UInt8), old.length = words.length * 8 →
      Turns (putWords offset words) () offset old (wordsText words) := by
  induction words with
  | nil =>
      intro offset old h
      obtain rfl := List.length_eq_zero_iff.mp h
      exact .pure ()
  | cons w rest ih =>
      intro offset old h
      rw [← List.take_append_drop 8 old]
      simp only [List.length_cons] at h
      refine .append (.store (by simp; omega)) ?_
      rw [length_leBytes]
      exact ih (offset + 8) _ (by simp; omega)

theorem writeRoles_eq (profile : LaunchProfile) :
    writeRoles profile = putRoles 0 (profile.capabilities.map (·.role)) := by
  cases profile <;> first | rfl | simp [writeRoles, LaunchProfile.capabilities, putRoles,
    LaunchProfile.hasLoaderAuthorityTrio, LaunchProfile.hasLoaderAuthorityQuartet,
    LaunchProfile.needsSelfRoot, LaunchProfile.channelRole, selfRootCapability,
    channelCapability, bind_assoc]

theorem encodeInitInner_turns (profile : LaunchProfile) {transactionId : UInt64}
    (h : transactionId ≠ 0) {old : List UInt8} (hold : old.length = profile.initSize) :
    Turns (encodeInitInner profile transactionId) profile.initSize 0 old
      (headerText profile.protocolMinor typeInit profile.initSize profile.capabilityCount
          transactionId ++ (recordsText profile.capabilities ++
        List.replicate (profile.padding + profile.wordCount * 8) 0)) := by
  refine .get_bind fun out hout => ?_
  rw [if_neg (by omega), if_neg h]
  have hlen : old.length = (List.replicate profile.initSize (0 : UInt8)).length := by simp [hold]
  refine .bind (.store hlen) ?_
  have hzeros : List.replicate profile.initSize (0 : UInt8) =
      List.replicate headerBytes 0 ++ (List.replicate (profile.capabilities.length * 8) 0 ++
        List.replicate (profile.padding + profile.wordCount * 8) 0) := by
    rw [LaunchProfile.initSize_eq, List.replicate_add, List.replicate_add]
  rw [hzeros]
  refine .append (writeHeader_turns _ _ _ _ _) (.bind (a := ()) (.before ?_) (.pure _))
  rw [writeRoles_eq, headerText_length]
  exact putRoles_turns _ 0

theorem encodeCorrelated_turns (profile : LaunchProfile) {offset : Nat} {transactionId : UInt64}
    {words : List UInt64} (h : transactionId ≠ 0) (hwords : words.contains 0 = false)
    (hcount : words.length = profile.wordCount)
    (hoffset : offset = headerBytes + (profile.capabilities.length * 8 + profile.padding))
    {old : List UInt8} (hold : old.length = profile.initSize) :
    Turns (encodeCorrelated profile offset transactionId words) profile.initSize 0 old
      (initText profile transactionId words) := by
  unfold encodeCorrelated
  rw [hwords]
  refine .bind (encodeInitInner_turns profile h hold) ?_
  unfold initText
  refine .bind (a := ()) (.behind (.behind ?_)) (.pure _)
  rw [List.replicate_add]
  refine .behind ?_
  have hat : offset = 0 + (headerText profile.protocolMinor typeInit profile.initSize
      profile.capabilityCount transactionId).length +
      (recordsText profile.capabilities).length +
        (List.replicate profile.padding (0 : UInt8)).length := by
    simp [hoffset]
    omega
  rw [hat]
  exact putWords_turns words _ _ (by simp [hcount])

/-! ## Requests -/

/-- The correlation words of a request, as its profile has them. -/
def InternalLoadRequest.words (request : InternalLoadRequest) : List UInt64 :=
  match request.profile with
  | .wyrmsh => (request.wyrmshCorrelation.map WyrmshCorrelation.words).getD []
  | .consoled =>
      match request.consoledCorrelation with
      | some (a, b, c, d, e) => [a, b, c, d, e]
      | none => []
  | .deviceCoordinator | .deviceCoordinatorResourceDomain => request.supervisorGeneration.toList
  | .deviceDriver =>
      match request.driverCorrelation with
      | some (a, b, c, d, e, f) => [a, b, c, d, e, f]
      | none => []
  | _ => []

/-- The buffer the loader encodes into. -/
def initBuffer : List UInt8 := List.replicate wyrmshBytes 0

/-- The request has correlation words for its profile, and none of them nor
the transaction is zero. -/
structure Correlated (request : InternalLoadRequest) : Prop where
  transaction : request.transactionId ≠ 0
  count : request.words.length = request.profile.wordCount
  nonzero : request.words.contains 0 = false

theorem initSize_le (profile : LaunchProfile) : profile.initSize ≤ wyrmshBytes := by
  cases profile <;> decide

theorem encodeInitInner_zero (profile : LaunchProfile) :
    encodeInitInner profile 0 initBuffer = (.err .zeroTransaction, initBuffer, []) := by
  have hsize := initSize_le profile
  unfold encodeInitInner
  rw [Prog.bind_run_ok (Prog.get_run _), if_neg (by simp [initBuffer]; omega), if_pos rfl]
  rfl

theorem encodeCorrelated_zero (profile : LaunchProfile) (offset : Nat) {transactionId : UInt64}
    {words : List UInt64} (h : transactionId = 0 ∨ words.contains 0 = true) :
    (encodeCorrelated profile offset transactionId words initBuffer).1 = .err .zeroTransaction := by
  unfold encodeCorrelated
  by_cases hwords : words.contains 0 = true
  · rw [if_pos hwords]
    rfl
  · obtain rfl := h.resolve_right hwords
    rw [if_neg hwords, Prog.bind_run_err (encodeInitInner_zero profile)]

theorem encodeCorrelated_cases (profile : LaunchProfile) (offset : Nat) (transactionId : UInt64)
    (words : List UInt64) (hcount : words.length = profile.wordCount)
    (hoffset : offset = headerBytes + (profile.capabilities.length * 8 + profile.padding)) :
    (transactionId = 0 ∨ words.contains 0 = true) ∧
        (encodeCorrelated profile offset transactionId words initBuffer).1 =
          .err .zeroTransaction ∨
      transactionId ≠ 0 ∧ words.contains 0 = false ∧
        ∀ old : List UInt8, old.length = profile.initSize →
          Turns (encodeCorrelated profile offset transactionId words) profile.initSize 0 old
            (initText profile transactionId words) := by
  by_cases h : transactionId = 0 ∨ words.contains 0 = true
  · exact .inl ⟨h, encodeCorrelated_zero profile offset h⟩
  · rw [not_or, Bool.not_eq_true] at h
    exact .inr ⟨h.1, h.2, fun old hold =>
      encodeCorrelated_turns profile h.1 h.2 hcount hoffset hold⟩

theorem initText_nil (profile : LaunchProfile) (transactionId : UInt64)
    (hp : profile.padding = 0) :
    initText profile transactionId [] = headerText profile.protocolMinor typeInit
      profile.initSize profile.capabilityCount transactionId ++
        recordsText profile.capabilities := by
  simp [initText, hp, wordsText]

/-- An encoder for a request: it refuses the request, or writes its text. -/
def Encodes (request : InternalLoadRequest) (m : Encode Nat) : Prop :=
  ¬ Correlated request ∧ (m initBuffer).1 = .err .zeroTransaction ∨
    Correlated request ∧ ∀ old : List UInt8, old.length = request.profile.initSize →
      Turns m request.profile.initSize 0 old
        (initText request.profile request.transactionId request.words)

theorem encodeInitInner_encodes {request : InternalLoadRequest} {profile : LaunchProfile}
    (hp : request.profile = profile) (hwords : request.words = [])
    (hcount : profile.wordCount = 0) (hpad : profile.padding = 0) :
    Encodes request (encodeInitInner profile request.transactionId) := by
  subst hp
  by_cases h : request.transactionId = 0
  · rw [h]
    exact .inl ⟨fun hc => hc.transaction h, by rw [encodeInitInner_zero]⟩
  · refine .inr ⟨⟨h, by rw [hwords, hcount]; rfl, by rw [hwords]; rfl⟩, fun old hold => ?_⟩
    have hturns := encodeInitInner_turns request.profile h hold
    rw [hwords, initText_nil _ _ hpad]
    simpa [hcount, hpad] using hturns

theorem encodeCorrelated_encodes {request : InternalLoadRequest} {profile : LaunchProfile}
    {offset : Nat} {words : List UInt64} (hp : request.profile = profile)
    (hwords : request.words = words) (hcount : words.length = profile.wordCount)
    (hoffset : offset = headerBytes + (profile.capabilities.length * 8 + profile.padding)) :
    Encodes request (encodeCorrelated profile offset request.transactionId words) := by
  subst hp hwords
  rcases encodeCorrelated_cases request.profile offset request.transactionId request.words hcount
    hoffset with ⟨hzero, h⟩ | ⟨ht, hw, hturns⟩
  · refine .inl ⟨fun hc => ?_, h⟩
    rcases hzero with hzero | hzero
    · exact hc.transaction hzero
    · rw [hc.nonzero] at hzero
      cases hzero
  · exact .inr ⟨⟨ht, hcount, hw⟩, hturns⟩

theorem encodeRequest_encodes (request : InternalLoadRequest) :
    Encodes request (encodeRequest request) := by
  have hmissing : request.words.length ≠ request.profile.wordCount → ¬ Correlated request :=
    fun h hc => h hc.count
  unfold encodeRequest
  cases hp : request.profile
  case wyrmsh =>
    cases hc : request.wyrmshCorrelation with
    | none => exact .inl ⟨hmissing (by simp [InternalLoadRequest.words, hp, hc,
        LaunchProfile.wordCount]), rfl⟩
    | some c =>
        exact encodeCorrelated_encodes hp (by simp [InternalLoadRequest.words, hp, hc,
          WyrmshCorrelation.words]) rfl rfl
  case consoled =>
    cases hc : request.consoledCorrelation with
    | none => exact .inl ⟨hmissing (by simp [InternalLoadRequest.words, hp, hc,
        LaunchProfile.wordCount]), rfl⟩
    | some c =>
        exact encodeCorrelated_encodes hp (by simp [InternalLoadRequest.words, hp, hc]) rfl rfl
  case deviceCoordinator | deviceCoordinatorResourceDomain =>
    cases hc : request.supervisorGeneration with
    | none => exact .inl ⟨hmissing (by simp [InternalLoadRequest.words, hp, hc,
        LaunchProfile.wordCount]), rfl⟩
    | some g =>
        exact encodeCorrelated_encodes hp (by simp [InternalLoadRequest.words, hp, hc]) rfl rfl
  case deviceDriver =>
    cases hc : request.driverCorrelation with
    | none => exact .inl ⟨hmissing (by simp [InternalLoadRequest.words, hp, hc,
        LaunchProfile.wordCount]), rfl⟩
    | some c =>
        exact encodeCorrelated_encodes hp (by simp [InternalLoadRequest.words, hp, hc]) rfl rfl
  all_goals
    exact encodeInitInner_encodes hp (by simp [InternalLoadRequest.words, hp]) rfl rfl

theorem initText_length (request : InternalLoadRequest) (h : Correlated request) :
    (initText request.profile request.transactionId request.words).length =
      request.profile.initSize := by
  simp only [initText, List.length_append, headerText_length, recordsText_length,
    List.length_replicate, wordsText_length, h.count]
  exact (LaunchProfile.initSize_eq request.profile).symm

theorem initMessage_cases (request : InternalLoadRequest) (fault : LoadFault) :
    ¬ Correlated request ∧ initMessage request fault = .err .zeroTransaction ∨
      Correlated request ∧ initMessage request fault = .ok (applyInitFault fault
        (initText request.profile request.transactionId request.words)) := by
  have hbuf : encodeRequest request (List.replicate wyrmshBytes 0) =
      encodeRequest request initBuffer := rfl
  unfold initMessage
  rw [hbuf]
  rcases encodeRequest_encodes request with ⟨hc, h⟩ | ⟨hc, hturns⟩
  · left
    refine ⟨hc, ?_⟩
    rcases hrun : encodeRequest request initBuffer with ⟨o, out, w⟩
    rw [hrun] at h
    obtain rfl : o = .err .zeroTransaction := h
    rfl
  · right
    have hsize := initSize_le request.profile
    have hsplit : initBuffer = List.replicate request.profile.initSize 0 ++
        List.replicate (wyrmshBytes - request.profile.initSize) 0 := by
      rw [← List.replicate_add, Nat.add_sub_cancel' hsize]
      rfl
    have hrun := (hturns (List.replicate request.profile.initSize 0) (by simp)).run
      (List.replicate (wyrmshBytes - request.profile.initSize) 0)
    refine ⟨hc, ?_⟩
    rw [hsplit, hrun]
    show Outcome.ok (applyInitFault fault _) = _
    rw [List.take_left' (initText_length request hc)]

theorem initMessage_ne_panic (request : InternalLoadRequest) (fault : LoadFault) :
    initMessage request fault ≠ .panic := by
  rcases initMessage_cases request fault with ⟨-, h⟩ | ⟨-, h⟩
  · rw [h]
    exact nofun
  · rw [h]
    exact nofun

end Wyrmroot.Loader
