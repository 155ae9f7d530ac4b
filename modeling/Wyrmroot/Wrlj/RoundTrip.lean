import Wyrmroot.Wrlj.Writing

/-!
# The WRLJ codec

`Content` is what a caller hands to one of the encoders. The encoders and
the parser agree on one text for every content: an encoder that succeeds has
written it, the parser accepts it and nothing else, and what the parser
hands out carries the content, field by field and string by string.

Protocol 1.1 has its own minor version in the envelope, so none of its
messages is one of these (`minor_unique`).
-/

namespace Wyrmroot.Wrlj

open Outcome

/-! ## Contents -/

/-- What an encoder is given besides the reservation. -/
inductive Content where
  | launch (path : String) (argv environment : List String) (streams : Bool)
  | job (kind : MessageType) (jobId : UInt64)
  | jobState (jobId : UInt64) (phase : JobPhase)
  | jobResult (jobId : UInt64) (result : TerminationResult)
  | listJobs
  | jobList (jobIds : List UInt64)
  | error (code : ErrorCode)
deriving DecidableEq

/-- The encoder that takes this content. -/
def encodeContent (r : Reservation) : Content → Encoder Nat
  | .launch path argv environment streams => encodeLaunch r path argv environment streams
  | .job kind jobId => encodeJobMessage r kind jobId
  | .jobState jobId phase => encodeJobState r jobId phase
  | .jobResult jobId result => encodeJobResult r jobId result
  | .listJobs => encodeListJobs r
  | .jobList jobIds => encodeJobList r jobIds
  | .error code => encodeError r code

/-- The handles that travel with it. -/
def Content.handles : Content → Nat
  | .launch _ _ _ streams => if streams then 3 else 0
  | _ => 0

/-- The message of a kind that carries one identity. -/
def jobMessage : MessageType → UInt64 → Option Message
  | .launchAccepted, id => some (.launchAccepted id)
  | .query, id => some (.query id)
  | .wait, id => some (.wait id)
  | .terminate, id => some (.terminate id)
  | .terminationAccepted, id => some (.terminationAccepted id)
  | .cancel, id => some (.cancel id)
  | .cancelled, id => some (.cancelled id)
  | .closeJob, id => some (.closeJob id)
  | .closed, id => some (.closed id)
  | _, _ => none

/-- A launch request reads back as these strings. -/
structure LaunchRequest.Reads (request : LaunchRequest) (path : String)
    (argv environment : List String) (streams : Bool) : Prop where
  path_eq : request.path = path
  argc_eq : request.argc = argv.length
  arg_eq : ∀ i, request.arg i = .ok argv[i]?
  environmentCount_eq : request.environmentCount = environment.length
  environmentEntry_eq : ∀ i, request.environmentEntry i = .ok environment[i]?
  streamCount_eq : request.streamCount = if streams then 3 else 0

/-- The message holds the content, as its accessors show it. -/
def Message.Carries (message : Message) : Content → Prop
  | .launch path argv environment streams =>
      ∃ request, message = .launch request ∧ request.Reads path argv environment streams
  | .job kind jobId => jobMessage kind jobId = some message
  | .jobState jobId phase => message = .jobState jobId phase
  | .jobResult jobId result => message = .jobResult jobId result
  | .listJobs => message = .listJobs
  | .jobList jobIds =>
      ∃ ids, message = .jobList ids ∧ ids.len = jobIds.length ∧ ∀ i, ids.get i = jobIds[i]?
  | .error code => message = .error code

/-! ## Their text -/

namespace Content

def kind : Content → MessageType
  | .launch .. => .launch
  | .job kind _ => kind
  | .jobState .. => .jobState
  | .jobResult .. => .jobResult
  | .listJobs => .listJobs
  | .jobList _ => .jobList
  | .error _ => .error

def body : Content → List UInt8
  | .launch path argv environment streams => launchBody path argv environment streams
  | .job _ jobId => u64 jobId
  | .jobState jobId phase => jobStateBody jobId phase
  | .jobResult jobId result => jobResultBody jobId result
  | .listJobs => []
  | .jobList jobIds => jobListBody jobIds
  | .error code => errorBody code

/-- What the encoder requires. -/
def Valid : Content → Prop
  | .launch path argv environment _ => LaunchValid path argv environment
  | .job kind jobId => kind.isJob = true ∧ jobId ≠ 0
  | .jobState jobId _ => jobId ≠ 0
  | .jobResult jobId result => jobId ≠ 0 ∧ result.Valid
  | .listJobs => True
  | .jobList jobIds => JobIdsValid jobIds
  | .error _ => True

/-- What the parser hands out. -/
def message : Content → Option Message
  | .launch path argv environment streams =>
      some (.launch (launchRequest path argv environment streams))
  | .job kind jobId => jobMessage kind jobId
  | .jobState jobId phase => some (.jobState jobId phase)
  | .jobResult jobId result => some (.jobResult jobId result)
  | .listJobs => some .listJobs
  | .jobList jobIds => some (.jobList ⟨u64s jobIds⟩)
  | .error code => some (.error code)

def text (r : Reservation) (c : Content) : List UInt8 := messageText r c.kind c.body

@[simp] theorem length_text (r : Reservation) (c : Content) :
    (c.text r).length = 48 + c.body.length := by
  simp [text, messageText]

theorem length_text_launch (r : Reservation) (path : String) (argv environment : List String)
    (streams : Bool) :
    ((Content.launch path argv environment streams).text r).length =
      launchSize path argv environment streams := by
  rw [length_text]
  exact length_launchBody path argv environment streams

theorem exists_message {c : Content} (h : c.Valid) : ∃ m, c.message = some m := by
  cases c with
  | job kind id =>
      obtain ⟨hkind, -⟩ := h
      cases kind <;> first | exact ⟨_, rfl⟩ | cases hkind
  | _ => exact ⟨_, rfl⟩

end Content

theorem carries_message {c : Content} {m : Message} (hvalid : c.Valid) (h : c.message = some m) :
    m.Carries c := by
  cases c with
  | launch path argv environment streams =>
      obtain rfl := Option.some.inj h
      have hsmall := LaunchValid.small hvalid streams
      obtain ⟨harg, hentry⟩ := @launchRequest_get path argv environment streams
        (LaunchValid.short hvalid) (by omega)
      refine ⟨_, rfl, rfl, rfl, harg, rfl, hentry, ?_⟩
      cases streams <;> rfl
  | job kind id => exact h
  | jobList ids =>
      obtain rfl := Option.some.inj h
      exact ⟨_, rfl, JobIds.len_u64s ids, getU64_u64s ids⟩
  | _ => exact (Option.some.inj h).symm

/-! ## Encoders -/

variable {r : Reservation} {c : Content} {out : List UInt8}

theorem encodeContent_run (hr : r.Valid) (hc : c.Valid) (hroom : (c.text r).length ≤ out.length) :
    encodeContent r c out =
      (.ok (c.text r).length, c.text r ++ out.drop (c.text r).length, []) := by
  cases c with
  | launch path argv environment streams =>
      rw [Content.length_text_launch] at hroom ⊢
      exact encodeLaunch_run hr hc hroom
  | job kind id => exact encodeJobMessage_run hr hc.1 hc.2 (by simpa [Content.body] using hroom)
  | jobState id phase =>
      exact encodeJobState_run hr hc (by simpa [Content.body, jobStateBody] using hroom)
  | jobResult id result =>
      exact encodeJobResult_run hr hc.1 hc.2 (by simpa [Content.body, jobResultBody] using hroom)
  | listJobs => exact encodeListJobs_run hr (by simpa [Content.body] using hroom)
  | jobList ids =>
      have hsize : ((Content.jobList ids).text r).length = 56 + ids.length * 8 := by
        simp [Content.body, jobListBody]
        omega
      rw [hsize] at hroom ⊢
      exact encodeJobList_run hr hc hroom
  | error code => exact encodeError_run hr (by simpa [Content.body, errorBody] using hroom)

theorem encodeContent_valid {n : Nat} {out' : List UInt8} {w : List Empty}
    (h : encodeContent r c out = (.ok n, out', w)) :
    r.Valid ∧ c.Valid ∧ (c.text r).length ≤ out.length := by
  cases c with
  | launch path argv environment streams =>
      rw [Content.length_text_launch]
      exact encodeLaunch_valid h
  | job kind id =>
      obtain ⟨_, hkind, h₁⟩ := Prog.lift_bind_eq_ok h
      obtain ⟨_, hid, h₂⟩ := Prog.lift_bind_eq_ok h₁
      obtain ⟨hroom, hr, -⟩ := framed_ok h₂
      rw [rejectIf_eq_ok, Bool.not_eq_false'] at hkind
      exact ⟨hr, ⟨hkind, (nonzero_eq_ok.mp hid).1⟩, by simpa [Content.body] using hroom⟩
  | jobState id phase =>
      obtain ⟨_, hid, h₁⟩ := Prog.lift_bind_eq_ok h
      obtain ⟨hroom, hr, -⟩ := framed_ok h₁
      exact ⟨hr, (nonzero_eq_ok.mp hid).1, by simpa [Content.body, jobStateBody] using hroom⟩
  | jobResult id result =>
      obtain ⟨_, hid, h₁⟩ := Prog.lift_bind_eq_ok h
      obtain ⟨hroom, hr, s₁, w₁, h₂⟩ := framed_ok h₁
      obtain ⟨_, s₂, _, _, -, h₃, -⟩ := Prog.bind_run_eq_ok h₂
      obtain ⟨_, s₃, _, _, -, h₄, -⟩ := Prog.bind_run_eq_ok h₃
      obtain ⟨_, s₄, _, _, -, h₅, -⟩ := Prog.bind_run_eq_ok h₄
      obtain ⟨_, s₅, _, _, -, h₆, -⟩ := Prog.bind_run_eq_ok h₅
      obtain ⟨_, s₆, _, _, -, h₇, -⟩ := Prog.bind_run_eq_ok h₆
      obtain ⟨_, s₇, _, _, -, h₈, -⟩ := Prog.bind_run_eq_ok h₇
      obtain ⟨_, hcleanup, -⟩ := Prog.lift_bind_eq_ok h₈
      exact ⟨hr, ⟨(nonzero_eq_ok.mp hid).1, (parseCleanupResult_eq_ok.mp hcleanup).1⟩,
        by simpa [Content.body, jobResultBody] using hroom⟩
  | listJobs =>
      obtain ⟨hroom, hr, -⟩ := framed_ok h
      exact ⟨hr, trivial, hroom⟩
  | jobList ids =>
      obtain ⟨_, hmax, h₁⟩ := Prog.lift_bind_eq_ok h
      obtain ⟨hroom, hr, s₁, w₁, h₂⟩ := framed_ok h₁
      obtain ⟨_, s₂, _, _, -, h₃, -⟩ := Prog.bind_run_eq_ok h₂
      obtain ⟨_, s₃, _, _, hids, -, -⟩ := Prog.bind_run_eq_ok h₃
      rw [rejectIf_eq_ok, decide_eq_false_iff_not, Nat.not_lt] at hmax
      refine ⟨hr, ⟨hmax, putJobIds_valid hids⟩, ?_⟩
      simp only [Content.length_text, Content.body, jobListBody, List.length_append, length_u32,
        length_u64s]
      omega
  | error code =>
      obtain ⟨hroom, hr, -⟩ := framed_ok h
      exact ⟨hr, trivial, by simpa [Content.body, errorBody] using hroom⟩

/-! ## The parser -/

variable {bytes : List UInt8} {handles : Nat} {m : Message}

/-- What `parseBody` accepts, kind by kind. -/
def Accepts (kind : MessageType) (bytes : List UInt8) (handles : Nat) (m : Message) (c : Content) :
    Prop :=
  c.kind = kind ∧ c.Valid ∧ c.handles = handles ∧ c.message = some m ∧ Has bytes 48 c.body ∧
    bytes.length = 48 + c.body.length

theorem parseJob_iff {kind : MessageType} (hkind : kind.isJob = true) {id : UInt64} :
    (parseJobId bytes handles = .ok id ∧ jobMessage kind id = some m) ↔
      Accepts kind bytes handles m (.job kind id) := by
  rw [parseJobId_eq_ok]
  constructor
  · rintro ⟨⟨rfl, hid, hbody, hlen⟩, hm⟩
    exact ⟨rfl, ⟨hkind, hid⟩, rfl, hm, hbody, hlen⟩
  · rintro ⟨-, ⟨-, hid⟩, rfl, hm, hbody, hlen⟩
    exact ⟨⟨rfl, hid, hbody, hlen⟩, hm⟩

theorem parseBody_sound {kind : MessageType} (h : parseBody kind bytes handles = .ok m) :
    ∃ c, Accepts kind bytes handles m c := by
  cases kind with
  | launch =>
      obtain ⟨request, hrequest, hm⟩ := bind_eq_ok.mp h
      obtain rfl := Outcome.ok.inj hm
      obtain ⟨path, argv, environment, streams, rfl, rfl, hvalid, hbody, hlen⟩ :=
        parseLaunch_eq_ok.mp hrequest
      refine ⟨.launch path argv environment streams, rfl, hvalid, ?_, rfl, hbody, hlen⟩
      cases streams <;> rfl
  | jobState =>
      obtain ⟨id, phase, rfl, rfl, hid, hbody, hlen⟩ := parseJobState_eq_ok.mp h
      exact ⟨.jobState id phase, rfl, hid, rfl, rfl, hbody, hlen⟩
  | jobResult =>
      obtain ⟨id, result, rfl, rfl, hvalid, hbody, hlen⟩ := parseJobResult_eq_ok.mp h
      exact ⟨.jobResult id result, rfl, hvalid, rfl, rfl, hbody, hlen⟩
  | listJobs =>
      obtain ⟨_, hhandles, h₁⟩ := bind_eq_ok.mp h
      obtain ⟨_, hsize, h₂⟩ := bind_eq_ok.mp h₁
      obtain rfl := Outcome.ok.inj h₂
      rw [requireHandles_eq_ok] at hhandles
      rw [requireSize_eq_ok] at hsize
      exact ⟨.listJobs, rfl, trivial, hhandles.symm, rfl, slice_isSome (Nat.le_of_eq hsize.symm),
        hsize⟩
  | jobList =>
      obtain ⟨borrowed, hids, hm⟩ := bind_eq_ok.mp h
      obtain rfl := Outcome.ok.inj hm
      obtain ⟨ids, rfl, rfl, hvalid, hbody, hlen⟩ := parseJobList_eq_ok.mp hids
      exact ⟨.jobList ids, rfl, hvalid, rfl, rfl, hbody, hlen⟩
  | error =>
      obtain ⟨code, rfl, rfl, hbody, hlen⟩ := parseError_eq_ok.mp h
      exact ⟨.error code, rfl, trivial, rfl, rfl, hbody, hlen⟩
  | _ =>
      obtain ⟨id, hid, hm⟩ := bind_eq_ok.mp h
      obtain rfl := Outcome.ok.inj hm
      exact ⟨.job _ id, (parseJob_iff rfl).mp ⟨hid, rfl⟩⟩

theorem parseBody_complete (h : Accepts c.kind bytes handles m c) :
    parseBody c.kind bytes handles = .ok m := by
  obtain ⟨-, hvalid, rfl, hm, hbody, hlen⟩ := h
  cases c with
  | launch path argv environment streams =>
      obtain rfl := Option.some.inj hm
      have hhandles : (Content.launch path argv environment streams).handles =
          (rolesFor streams).length := by cases streams <;> rfl
      exact bind_eq_ok.mpr ⟨_, hhandles ▸ parseLaunch_complete hvalid hbody hlen, rfl⟩
  | job kind id =>
      have hid : parseJobId bytes 0 = .ok id := parseJobId_eq_ok.mpr ⟨rfl, hvalid.2, hbody, hlen⟩
      cases kind <;> first
        | (obtain rfl := Option.some.inj hm; exact bind_eq_ok.mpr ⟨id, hid, rfl⟩)
        | cases hm
  | jobState id phase =>
      obtain rfl := Option.some.inj hm
      exact parseJobState_eq_ok.mpr ⟨id, phase, rfl, rfl, hvalid, hbody, hlen⟩
  | jobResult id result =>
      obtain rfl := Option.some.inj hm
      exact parseJobResult_eq_ok.mpr ⟨id, result, rfl, rfl, hvalid, hbody, hlen⟩
  | listJobs =>
      obtain rfl := Option.some.inj hm
      exact bind_eq_ok.mpr ⟨(), requireHandles_eq_ok.mpr rfl,
        bind_eq_ok.mpr ⟨(), requireSize_eq_ok.mpr hlen, rfl⟩⟩
  | jobList ids =>
      obtain rfl := Option.some.inj hm
      exact bind_eq_ok.mpr ⟨_, parseJobList_eq_ok.mpr ⟨ids, rfl, rfl, hvalid, hbody, hlen⟩, rfl⟩
  | error code =>
      obtain rfl := Option.some.inj hm
      exact parseError_eq_ok.mpr ⟨code, rfl, rfl, hbody, hlen⟩

theorem parseMessage_iff : parseMessage bytes handles = .ok ⟨r, m⟩ ↔
    ∃ c : Content, r.Valid ∧ c.Valid ∧ c.handles = handles ∧ c.message = some m ∧ bytes = c.text r := by
  rw [parseMessage_eq_ok]
  constructor
  · rintro ⟨kind, hfront, hr, hparsed⟩
    obtain ⟨c, rfl, hc, hhandles, hm, hbody, hlen⟩ := parseBody_sound hparsed
    refine ⟨c, hr, hc, hhandles, hm, has_whole.mp ⟨?_, by rw [hlen, Content.length_text]⟩⟩
    rw [Content.text, messageText, has_append, length_prefixText]
    exact ⟨hfront, hbody⟩
  · rintro ⟨c, hr, hc, hhandles, hm, rfl⟩
    have hwhole := (@has_whole (c.text r) _).mpr rfl
    rw [Content.text, messageText, has_append, length_prefixText, Nat.zero_add] at hwhole
    exact ⟨c.kind, hwhole.1.1, hr,
      parseBody_complete ⟨rfl, hc, hhandles, hm, hwhole.1.2, Content.length_text r c⟩⟩

/-! ## The protocol minor -/

theorem minor_unique {minor₁ minor₂ : UInt16} {r₁ r₂ : Reservation}
    (h₁ : parseEnvelopeVersion bytes minor₁ = .ok r₁)
    (h₂ : parseEnvelopeVersion bytes minor₂ = .ok r₂) : minor₁ = minor₂ := by
  obtain ⟨h₁, -⟩ := parseEnvelopeVersion_eq_ok.mp h₁
  obtain ⟨h₂, -⟩ := parseEnvelopeVersion_eq_ok.mp h₂
  simp only [envelopeText, has_append] at h₁ h₂
  have hbytes := has_unique h₁.2.2.1 h₂.2.2.1 (by rw [length_u16, length_u16])
  have hread := getU16_eq_some.mpr ((@has_whole (u16 minor₁) _).mpr rfl).1
  rw [hbytes, getU16_eq_some.mpr ((@has_whole (u16 minor₂) _).mpr rfl).1] at hread
  exact (Option.some.inj hread).symm

theorem parseMessage_envelope {parsed : ParsedMessage}
    (h : parseMessage bytes handles = .ok parsed) :
    parseEnvelopeVersion bytes minor = .ok parsed.reservation := by
  obtain ⟨_, hlen, h₁⟩ := bind_eq_ok.mp h
  obtain ⟨reservation, hr, h₂⟩ := bind_eq_ok.mp h₁
  obtain ⟨_, _, h₃⟩ := bind_eq_ok.mp h₂
  obtain ⟨_, _, h₄⟩ := bind_eq_ok.mp h₃
  obtain ⟨_, _, h₅⟩ := bind_eq_ok.mp h₄
  obtain ⟨_, _, h₆⟩ := bind_eq_ok.mp h₅
  obtain ⟨_, _, h₇⟩ := bind_eq_ok.mp h₆
  obtain rfl := Outcome.ok.inj h₇
  exact hr

theorem parseShellV1Request_envelope {parsed : ParsedShellV1Request}
    (h : parseShellV1Request bytes handles = .ok parsed) :
    ∃ r, parseEnvelopeVersion bytes shellV1Minor = .ok r := by
  obtain ⟨_, _, h₁⟩ := bind_eq_ok.mp h
  obtain ⟨_, _, h₂⟩ := bind_eq_ok.mp h₁
  obtain ⟨r, hr, -⟩ := bind_eq_ok.mp h₂
  exact ⟨r, hr⟩

theorem parseShellV1Reply_envelope {parsed : ParsedShellV1Reply}
    (h : parseShellV1Reply bytes handles = .ok parsed) :
    ∃ r, parseEnvelopeVersion bytes shellV1Minor = .ok r := by
  obtain ⟨_, _, h₁⟩ := bind_eq_ok.mp h
  obtain ⟨_, _, h₂⟩ := bind_eq_ok.mp h₁
  obtain ⟨r, hr, -⟩ := bind_eq_ok.mp h₂
  exact ⟨r, hr⟩

/-! ## The codec -/

/-- What an encoder wrote, the parser reads: with the handles of the content,
under protocol 1.0, and with every field and string of the content. What the
parser reads, the encoder of what was read writes again, byte for byte. And
what it reads is not a message of protocol 1.1. -/
theorem wrlj_codec :
    (∀ r c out size out', encodeContent r c out = (.ok size, out', []) →
      ∃ m, parseMessage (out'.take size) c.handles = .ok ⟨r, m⟩ ∧ m.Carries c ∧
        readU16 (out'.take size) 6 = .ok minor) ∧
    (∀ bytes handles parsed, parseMessage bytes handles = .ok parsed →
      ∃ c, parsed.message.Carries c ∧ c.handles = handles ∧ ∀ out, bytes.length ≤ out.length →
        encodeContent parsed.reservation c out =
          (.ok bytes.length, bytes ++ out.drop bytes.length, [])) ∧
    ∀ bytes handles handles' parsed, parseMessage bytes handles = .ok parsed →
      (∀ request, parseShellV1Request bytes handles' ≠ .ok request) ∧
        ∀ reply, parseShellV1Reply bytes handles' ≠ .ok reply := by
  refine ⟨?_, ?_, ?_⟩
  · intro r c out size out' h
    obtain ⟨hr, hc, hroom⟩ := encodeContent_valid h
    obtain ⟨m, hm⟩ := Content.exists_message hc
    have hrun := encodeContent_run hr hc hroom
    rw [h] at hrun
    obtain ⟨hsize, hout⟩ := Prod.mk.inj hrun
    obtain rfl := Outcome.ok.inj hsize
    obtain ⟨rfl, -⟩ := Prod.mk.inj hout
    rw [List.take_left]
    have hparse := parseMessage_iff.mpr ⟨c, hr, hc, rfl, hm, rfl⟩
    refine ⟨m, hparse, carries_message hc hm, readU16_eq_ok.mpr ?_⟩
    obtain ⟨henvelope, -⟩ := parseEnvelopeVersion_eq_ok.mp (parseMessage_envelope hparse)
    simp only [envelopeText, has_append] at henvelope
    exact henvelope.2.2.1
  · intro bytes handles parsed h
    obtain ⟨c, hr, hc, hhandles, hm, rfl⟩ := parseMessage_iff.mp h
    exact ⟨c, carries_message hc hm, hhandles, fun out hroom => encodeContent_run hr hc hroom⟩
  · intro bytes handles handles' parsed h
    have hparsed := parseMessage_envelope h
    have hminor : minor ≠ shellV1Minor := by decide
    refine ⟨fun request hrequest => ?_, fun reply hreply => ?_⟩
    · obtain ⟨r, hr⟩ := parseShellV1Request_envelope hrequest
      exact hminor (minor_unique hparsed hr)
    · obtain ⟨r, hr⟩ := parseShellV1Reply_envelope hreply
      exact hminor (minor_unique hparsed hr)

def oneReservation : Reservation := ⟨1, 2, 3⟩

theorem queryJob_codec : ∃ m,
    parseMessage (messageText oneReservation .query (u64 7)) 0 = .ok ⟨oneReservation, m⟩ ∧
      m.Carries (.job .query 7) ∧
        (∃ c, m.Carries c ∧ encodeContent oneReservation c (zeros 56) =
          (.ok 56, messageText oneReservation .query (u64 7), [])) ∧
          ∀ reply, parseShellV1Reply (messageText oneReservation .query (u64 7)) 0 ≠ .ok reply := by
  have hencode : encodeContent oneReservation (.job .query 7) (zeros 56) =
      (.ok 56, messageText oneReservation .query (u64 7), []) := by decide
  obtain ⟨m, hparse, hcarries, -⟩ := wrlj_codec.1 _ _ _ _ _ hencode
  obtain ⟨c, hc, -, hagain⟩ := wrlj_codec.2.1 _ _ _ hparse
  exact ⟨m, hparse, hcarries, ⟨c, hc, hagain (zeros 56) (Nat.le_of_eq (by decide))⟩,
    (wrlj_codec.2.2 _ _ 0 _ hparse).2⟩

end Wyrmroot.Wrlj
