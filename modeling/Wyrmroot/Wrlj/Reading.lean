import Wyrmroot.Wrlj.Proto

/-!
# What the WRLJ parser reads

Every message is one text: the envelope, the type word, the flags and a
body. The parser and the encoders are compared through this text. Here the
parser: each reader succeeds exactly when its part of the text stands at its
offset (`Has`), and these parts, put together, are the message.
-/

namespace Wyrmroot.Wrlj

open Outcome

variable {bytes : List UInt8} {offset : Nat}

/-! ## Words and enumerations -/

theorem readU16_eq_ok {v : UInt16} : readU16 bytes offset = .ok v ↔ Has bytes offset (u16 v) :=
  okOr_eq_ok.trans getU16_eq_some

variable {v : UInt32}

theorem readU32_eq_ok : readU32 bytes offset = .ok v ↔ Has bytes offset (u32 v) :=
  okOr_eq_ok.trans getU32_eq_some

theorem readU64_eq_ok {v : UInt64} : readU64 bytes offset = .ok v ↔ Has bytes offset (u64 v) :=
  okOr_eq_ok.trans getU64_eq_some

theorem nonzero_eq_ok {v w : UInt64} : nonzero v = .ok w ↔ v ≠ 0 ∧ w = v := by
  unfold nonzero
  split <;> simp_all [eq_comm]

variable {u : Unit}

theorem requireSize_eq_ok {n : Nat} : requireSize bytes n = .ok u ↔ bytes.length = n := by
  simp [requireSize, rejectIf_eq_ok]

theorem requireHandles_eq_ok {n m : Nat} : requireHandles n m = .ok u ↔ n = m := by
  simp [requireHandles, rejectIf_eq_ok]

theorem MessageType.parse_eq_ok {t : MessageType} :
    MessageType.parse v = .ok t ↔ v = t.code := by
  constructor
  · intro h
    unfold MessageType.parse at h
    split at h
    all_goals first | (cases h; exact UInt32.toNat_inj.mp ‹_›) | cases h
  · rintro rfl
    cases t <;> rfl

theorem JobPhase.parse_eq_ok {p : JobPhase} :
    JobPhase.parse v = .ok p ↔ v = p.code := by
  constructor
  · intro h
    unfold JobPhase.parse at h
    split at h
    all_goals first | (cases h; exact UInt32.toNat_inj.mp ‹_›) | cases h
  · rintro rfl
    cases p <;> rfl

theorem ErrorCode.parse_eq_ok {c : ErrorCode} :
    ErrorCode.parse v = .ok c ↔ v = c.code := by
  constructor
  · intro h
    unfold ErrorCode.parse at h
    split at h
    all_goals first | (cases h; exact UInt32.toNat_inj.mp ‹_›) | cases h
  · rintro rfl
    cases c <;> rfl

theorem TerminationClassification.parse_eq_ok {c : TerminationClassification} :
    TerminationClassification.parse v = .ok c ↔ v = c.code := by
  constructor
  · intro h
    unfold TerminationClassification.parse at h
    split at h
    all_goals first | (cases h; exact UInt32.toNat_inj.mp ‹_›) | cases h
  · rintro rfl
    cases c <;> rfl

/-! ## Envelope and prefix -/

/-- No identity is zero. -/
def Reservation.Valid (r : Reservation) : Prop :=
  r.connectionId ≠ 0 ∧ r.generation ≠ 0 ∧ r.transactionId ≠ 0

instance (r : Reservation) : Decidable r.Valid := by unfold Reservation.Valid; infer_instance

def envelopeText (minor : UInt16) (r : Reservation) : List UInt8 :=
  magic ++ (u16 major ++ (u16 minor ++ (u64 r.connectionId ++ (u64 r.generation ++
    (u64 r.transactionId ++ u64 0)))))

@[simp] theorem length_envelopeText (minor : UInt16) (r : Reservation) :
    (envelopeText minor r).length = 40 := by
  simp [envelopeText, magic]

theorem parseEnvelopeVersion_eq_ok {minor : UInt16} {r : Reservation} :
    parseEnvelopeVersion bytes minor = .ok r ↔ Has bytes 0 (envelopeText minor r) ∧ r.Valid := by
  simp only [parseEnvelopeVersion, envelopeText, has_append, length_u16, length_u64, bind_eq_ok,
    readU16_eq_ok, readU64_eq_ok, sliceAt_eq_ok, rejectIf_eq_ok, Outcome.pure_eq, Outcome.ok.injEq,
    Bool.or_eq_false_iff, decide_eq_false_iff_not, not_not, ne_eq, exists_const]
  constructor
  · rintro ⟨-, _, ⟨hfirst, -⟩, rfl, _, hmajor, _, hminor, ⟨rfl, rfl⟩, _, hreserved, rfl, c, hc, g, hg,
      t, ht, hvalid, rfl⟩
    exact ⟨⟨hfirst, hmajor, hminor, hc, hg, ht, hreserved⟩, hvalid.1.1, hvalid.1.2, hvalid.2⟩
  · rintro ⟨⟨hmagic, hmajor, hminor, hc, hg, ht, hzero⟩, hc0, hg0, ht0⟩
    have hlen := has_length hzero
    rw [length_u64, show magic.length = 4 from rfl] at hlen
    have hfits : ¬ bytes.length < envelopeBytes := by
      rw [envelopeBytes]
      omega
    exact ⟨hfits, _, ⟨hmagic, rfl⟩, rfl, _, hmajor, _, hminor, ⟨rfl, rfl⟩, _, hzero, rfl, _, hc, _,
      hg, _, ht, ⟨⟨hc0, hg0⟩, ht0⟩, rfl⟩

def prefixText (minor : UInt16) (r : Reservation) (messageType : UInt32) : List UInt8 :=
  envelopeText minor r ++ (u32 messageType ++ u32 0)

@[simp] theorem length_prefixText (minor : UInt16) (r : Reservation) (messageType : UInt32) :
    (prefixText minor r messageType).length = 48 := by
  simp [prefixText]

theorem parseMessage_eq_ok {handles : Nat} {parsed : ParsedMessage} :
    parseMessage bytes handles = .ok parsed ↔ ∃ messageType,
      Has bytes 0 (prefixText minor parsed.reservation messageType.code) ∧
        parsed.reservation.Valid ∧ parseBody messageType bytes handles = .ok parsed.message := by
  simp only [parseMessage, parseEnvelope, prefixText, has_append, length_u32, length_envelopeText,
    bind_eq_ok, parseEnvelopeVersion_eq_ok, readU32_eq_ok, MessageType.parse_eq_ok, rejectIf_eq_ok,
    Outcome.pure_eq, Outcome.ok.injEq, decide_eq_false_iff_not, not_not, ne_eq, exists_const]
  constructor
  · rintro ⟨-, r, ⟨henvelope, hvalid⟩, _, hcode, messageType, rfl, _, hflags, rfl, message, hbody, rfl⟩
    exact ⟨messageType, ⟨henvelope, hcode, hflags⟩, hvalid, hbody⟩
  · rintro ⟨messageType, ⟨henvelope, hcode, hflags⟩, hvalid, hbody⟩
    have hlen := has_length hflags
    rw [length_u32] at hlen
    have hfits : ¬ bytes.length < headerBytes := by
      rw [show headerBytes = 48 from rfl]
      omega
    exact ⟨hfits, _, ⟨henvelope, hvalid⟩, _, hcode, messageType, rfl, _, hflags, rfl, _, hbody, rfl⟩

/-! ## Bodies of fixed size -/

theorem parseJobId_eq_ok {handles : Nat} {id : UInt64} :
    parseJobId bytes handles = .ok id ↔
      handles = 0 ∧ id ≠ 0 ∧ Has bytes 48 (u64 id) ∧ bytes.length = 48 + (u64 id).length := by
  simp only [parseJobId, bind_eq_ok, requireHandles_eq_ok, requireSize_eq_ok, readU64_eq_ok,
    nonzero_eq_ok, exists_const, length_u64]
  constructor
  · rintro ⟨rfl, hsize, _, hid, hne, rfl⟩
    exact ⟨rfl, hne, hid, hsize⟩
  · rintro ⟨rfl, hne, hid, hsize⟩
    exact ⟨rfl, hsize, _, hid, hne, rfl⟩

def jobStateBody (id : UInt64) (phase : JobPhase) : List UInt8 :=
  u64 id ++ (u32 phase.code ++ u32 0)

theorem parseJobState_eq_ok {handles : Nat} {message : Message} :
    parseJobState bytes handles = .ok message ↔ ∃ id phase,
      message = .jobState id phase ∧ handles = 0 ∧ id ≠ 0 ∧ Has bytes 48 (jobStateBody id phase) ∧
        bytes.length = 48 + (jobStateBody id phase).length := by
  simp only [parseJobState, jobStateBody, has_append, List.length_append, length_u32, length_u64,
    bind_eq_ok, requireHandles_eq_ok, requireSize_eq_ok, readU64_eq_ok, readU32_eq_ok,
    nonzero_eq_ok, JobPhase.parse_eq_ok, rejectIf_eq_ok, Outcome.pure_eq, Outcome.ok.injEq,
    decide_eq_false_iff_not, not_not, ne_eq, exists_const]
  constructor
  · rintro ⟨rfl, hsize, id, hid, _, ⟨hne, rfl⟩, _, hphase, phase, rfl, _, hzero, rfl, rfl⟩
    exact ⟨_, phase, rfl, rfl, hne, ⟨hid, hphase, hzero⟩, hsize⟩
  · rintro ⟨id, phase, rfl, rfl, hne, ⟨hid, hphase, hzero⟩, hsize⟩
    exact ⟨rfl, hsize, id, hid, _, ⟨hne, rfl⟩, _, hphase, phase, rfl, _, hzero, rfl, rfl⟩

/-- No cleanup bit outside the mask. -/
def TerminationResult.Valid (result : TerminationResult) : Prop :=
  result.cleanupResult &&& ~~~cleanupResultMask = 0

theorem parseCleanupResult_eq_ok {w : UInt32} :
    parseCleanupResult v = .ok w ↔ v &&& ~~~cleanupResultMask = 0 ∧ w = v := by
  unfold parseCleanupResult
  split <;> simp_all [eq_comm]

def jobResultBody (id : UInt64) (result : TerminationResult) : List UInt8 :=
  u64 id ++ (u32 result.classification.code ++ (u32 result.applicationCode ++
    (u32 result.exceptionClass ++ (u32 result.exceptionDetail ++ (u64 result.exceptionAddress ++
      (u32 result.cleanupResult ++ u32 0))))))

theorem parseJobResult_eq_ok {handles : Nat} {message : Message} :
    parseJobResult bytes handles = .ok message ↔ ∃ id result,
      message = .jobResult id result ∧ handles = 0 ∧ (id ≠ 0 ∧ result.Valid) ∧
        Has bytes 48 (jobResultBody id result) ∧
          bytes.length = 48 + (jobResultBody id result).length := by
  simp only [parseJobResult, jobResultBody, has_append, List.length_append, length_u32, length_u64,
    bind_eq_ok, requireHandles_eq_ok, requireSize_eq_ok, readU64_eq_ok, readU32_eq_ok,
    nonzero_eq_ok, TerminationClassification.parse_eq_ok, parseCleanupResult_eq_ok, rejectIf_eq_ok,
    Outcome.pure_eq, Outcome.ok.injEq, decide_eq_false_iff_not, not_not, ne_eq, exists_const]
  constructor
  · rintro ⟨rfl, hsize, _, hzero, rfl, id, hid, _, ⟨hne, rfl⟩, _, hclass, _, rfl, _, happ, _, hexc, _,
      hdetail, _, haddr, _, hcleanup, _, ⟨hmask, rfl⟩, rfl⟩
    exact ⟨_, _, rfl, rfl, ⟨hne, hmask⟩, ⟨hid, hclass, happ, hexc, hdetail, haddr, hcleanup, hzero⟩,
      hsize⟩
  · rintro ⟨id, result, rfl, rfl, ⟨hne, hmask⟩, ⟨hid, hclass, happ, hexc, hdetail, haddr, hcleanup,
      hzero⟩, hsize⟩
    exact ⟨rfl, hsize, _, hzero, rfl, id, hid, _, ⟨hne, rfl⟩, _, hclass, _, rfl, _, happ, _, hexc, _,
      hdetail, _, haddr, _, hcleanup, _, ⟨hmask, rfl⟩, rfl⟩

def errorBody (code : ErrorCode) : List UInt8 := u32 code.code ++ u32 0

theorem parseError_eq_ok {handles : Nat} {message : Message} :
    parseError bytes handles = .ok message ↔ ∃ code, message = .error code ∧ handles = 0 ∧
      Has bytes 48 (errorBody code) ∧ bytes.length = 48 + (errorBody code).length := by
  simp only [parseError, errorBody, has_append, List.length_append, length_u32, bind_eq_ok,
    requireHandles_eq_ok, requireSize_eq_ok, readU32_eq_ok, ErrorCode.parse_eq_ok, rejectIf_eq_ok,
    Outcome.pure_eq, Outcome.ok.injEq, decide_eq_false_iff_not, not_not, ne_eq, exists_const]
  constructor
  · rintro ⟨rfl, hsize, _, hzero, rfl, _, hcode, code, rfl, rfl⟩
    exact ⟨code, rfl, rfl, ⟨hcode, hzero⟩, hsize⟩
  · rintro ⟨code, rfl, rfl, ⟨hcode, hzero⟩, hsize⟩
    exact ⟨rfl, hsize, _, hzero, rfl, _, hcode, code, rfl, rfl⟩

/-! ## Job lists -/

def jobListBody (ids : List UInt64) : List UInt8 :=
  u32 (UInt32.ofNat ids.length) ++ (u32 0 ++ u64s ids)

def JobIdsValid (ids : List UInt64) : Prop := ids.length ≤ maxLiveJobs ∧ ∀ id ∈ ids, id ≠ 0

@[simp] theorem JobIds.len_u64s (ids : List UInt64) : (JobIds.mk (u64s ids)).len = ids.length := by
  rw [JobIds.len, length_u64s]
  omega

theorem checkJobIds_eq_ok {ids : List UInt64} :
    forRange (checkJobId ⟨u64s ids⟩) 0 ids.length () = .ok u ↔ ∀ id ∈ ids, id ≠ 0 := by
  have hturn : ∀ i (hi : i < ids.length), checkJobId ⟨u64s ids⟩ i () = .ok () ↔ ids[i] ≠ 0 := by
    intro i hi
    simp [checkJobId, JobIds.get, getU64_u64s, List.getElem?_eq_getElem hi, bind_eq_ok,
      nonzero_eq_ok]
  refine forRange_unit.trans ⟨?_, ?_⟩
  · intro h id hid
    obtain ⟨i, hi, rfl⟩ := List.mem_iff_getElem.mp hid
    exact (hturn i hi).mp (h i (Nat.zero_le i) (by omega))
  · intro h i _ hi
    rw [Nat.zero_add] at hi
    exact (hturn i hi).mpr (h _ (List.getElem_mem hi))

theorem parseJobList_eq_ok {handles : Nat} {borrowed : JobIds} :
    parseJobList bytes handles = .ok borrowed ↔ ∃ ids,
      borrowed = ⟨u64s ids⟩ ∧ handles = 0 ∧ JobIdsValid ids ∧ Has bytes 48 (jobListBody ids) ∧
        bytes.length = 48 + (jobListBody ids).length := by
  simp only [parseJobList, jobListBody, has_append, List.length_append, length_u32, length_u64s,
    bind_eq_ok, requireHandles_eq_ok, readU32_eq_ok, sliceFrom_eq_ok, rejectIf_eq_ok,
    Outcome.pure_eq, Outcome.ok.injEq, Bool.or_eq_false_iff, decide_eq_false_iff_not, not_not,
    ne_eq, exists_const]
  constructor
  · rintro ⟨rfl, -, count, hcount, _, hzero, ⟨⟨hmax, rfl⟩, hsize⟩, rest, ⟨hrest, hend⟩, _, hnonzero,
      rfl⟩
    obtain ⟨ids, hids, rfl⟩ := @exists_u64s count.toNat rest (by omega)
    rw [JobIds.len_u64s, checkJobIds_eq_ok] at hnonzero
    have hcode : UInt32.ofNat ids.length = count := by rw [hids, UInt32.ofNat_toNat]
    exact ⟨ids, rfl, rfl, ⟨by omega, hnonzero⟩, ⟨hcode ▸ hcount, hzero, hrest⟩, by omega⟩
  · rintro ⟨ids, rfl, rfl, ⟨hmax, hne⟩, ⟨hcount, hzero, hids⟩, hsize⟩
    have hfew : ids.length ≤ 32 := hmax
    have hcode : (UInt32.ofNat ids.length).toNat = ids.length :=
      UInt32.toNat_ofNat_of_lt (Nat.lt_of_le_of_lt hfew (by decide))
    refine ⟨rfl, by omega, _, hcount, _, hzero, ⟨⟨by omega, rfl⟩, by omega⟩, _,
      ⟨hids, by rw [length_u64s]; omega⟩, (), ?_, rfl⟩
    rw [JobIds.len_u64s, checkJobIds_eq_ok]
    exact hne

end Wyrmroot.Wrlj
