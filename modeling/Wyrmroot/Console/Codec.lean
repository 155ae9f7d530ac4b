import Wyrmroot.Console.Proto

/-!
# The console status codec

Each message is one text. `decode` accepts exactly the texts of valid
messages (`decode_eq_ok`), and the three encoders write them, so neither
side loses anything and neither accepts what the other would refuse.
-/

namespace Wyrmroot.Console

open Outcome

variable {bytes : List UInt8} {offset : Nat}

/-! ## Words and enumerations -/

theorem getU16_eq_ok {v : UInt16} : getU16 bytes offset = .ok v ↔ Has bytes offset (u16 v) :=
  unwrap_eq_ok.trans getU16_eq_some

theorem getU32_eq_ok {v : UInt32} : getU32 bytes offset = .ok v ↔ Has bytes offset (u32 v) :=
  unwrap_eq_ok.trans getU32_eq_some

theorem getU64_eq_ok {v : UInt64} : getU64 bytes offset = .ok v ↔ Has bytes offset (u64 v) :=
  unwrap_eq_ok.trans getU64_eq_some

variable {value : UInt32}

theorem State.parse_eq_ok {state : State} :
    State.parse value = .ok state ↔ value = state.toU32 := by
  constructor
  · intro h
    unfold State.parse at h
    split at h
    all_goals cases h
    all_goals rfl
  · rintro rfl
    cases state <;> rfl

theorem LastFailure.parse_eq_ok {failure : LastFailure} :
    LastFailure.parse value = .ok failure ↔ value = failure.toU32 := by
  constructor
  · intro h
    unfold LastFailure.parse at h
    split at h
    all_goals cases h
    all_goals rfl
  · rintro rfl
    cases failure <;> rfl

theorem ErrorCode.parse_eq_ok {code : ErrorCode} :
    ErrorCode.parse value = .ok code ↔ value = code.toU32 := by
  constructor
  · intro h
    unfold ErrorCode.parse at h
    split at h
    all_goals cases h
    all_goals rfl
  · rintro rfl
    cases code <;> rfl

/-! ## Texts -/

def headerText (header : Header) (messageType : UInt32) (size : Nat) : List UInt8 :=
  magic ++ (u16 major ++ (u16 minor ++ (u32 messageType ++ (u32 0 ++ (u32 (UInt32.ofNat size) ++
    (u32 0 ++ (u64 header.transactionId ++ (u64 header.consoleGeneration ++
      u64 header.statusGeneration))))))))

def snapshotText (snapshot : Snapshot) : List UInt8 :=
  u32 snapshot.state.toU32 ++ (u32 snapshot.flags ++ (u64s (snapshot.serial ++ snapshot.child) ++
    (u32 snapshot.livePeerMask ++ (u32 snapshot.inputQueueBytes ++ (u32 snapshot.stdoutQueueBytes ++
      (u32 snapshot.stderrQueueBytes ++ (u32 snapshot.childFailures ++
        (u32 snapshot.serialFailures ++ (u32 snapshot.lastFailure.toU32 ++ (u32 0 ++ u64 0))))))))))

def errorText (code : ErrorCode) : List UInt8 := u32 code.toU32 ++ u32 0

@[simp] theorem length_headerText (header : Header) (messageType : UInt32) (size : Nat) :
    (headerText header messageType size).length = 48 := by
  simp [headerText, magic]

@[simp] theorem length_snapshotText (snapshot : Snapshot) :
    (snapshotText snapshot).length = 112 := by
  simp [snapshotText, Snapshot.serial, Snapshot.child]

@[simp] theorem length_errorText (code : ErrorCode) : (errorText code).length = 8 := by
  simp [errorText]

namespace Message

def headerOf : Message → Header
  | .query header => header
  | .snapshot header _ => header
  | .error header _ => header

def typeOf : Message → UInt32
  | .query _ => queryStatus
  | .snapshot _ _ => statusSnapshot
  | .error _ _ => Console.error

def sizeOf : Message → Nat
  | .query _ => headerBytes
  | .snapshot _ _ => snapshotBytes
  | .error _ _ => errorBytes

def bodyText : Message → List UInt8
  | .query _ => []
  | .snapshot _ status => snapshotText status
  | .error _ code => errorText code

def text (message : Message) : List UInt8 :=
  headerText message.headerOf message.typeOf message.sizeOf ++ message.bodyText

@[simp] theorem length_text (message : Message) : message.text.length = message.sizeOf := by
  cases message <;> simp [text, bodyText, sizeOf, headerBytes, snapshotBytes, errorBytes]

/-- What either side asks of a message. -/
def Ok : Message → Prop
  | .query header => header.valid = true
  | .snapshot header status => header.valid = true ∧ status.validate = .ok ()
  | .error header _ => header.valid = true

end Message

/-! ## Reading -/

/-- What `parse_header` establishes; the type and the size are left open. -/
structure HeaderAt (bytes : List UInt8) (header : Header) : Prop where
  magic : Has bytes 0 magic
  major : Has bytes 4 (u16 major)
  minor : Has bytes 6 (u16 minor)
  flags : Has bytes 12 (u32 0)
  handles : Has bytes 20 (u32 0)
  transactionId : Has bytes 24 (u64 header.transactionId)
  consoleGeneration : Has bytes 32 (u64 header.consoleGeneration)
  statusGeneration : Has bytes 40 (u64 header.statusGeneration)

theorem parseHeader_eq_ok {handles : Nat}
    {header : Header} : parseHeader bytes handles = .ok header ↔
    handles = 0 ∧ header.valid = true ∧ HeaderAt bytes header := by
  simp only [parseHeader, bind_eq_ok, getU16_eq_ok, getU32_eq_ok, getU64_eq_ok, sliceAt_eq_ok,
    rejectIf_eq_ok, Outcome.pure_eq, Outcome.ok.injEq, exists_const, Bool.or_eq_false_iff,
    Bool.not_eq_false', decide_eq_false_iff_not, not_not, ne_eq]
  constructor
  · rintro ⟨-, _, hcount, ⟨rfl, rfl⟩, _, ⟨hmagic, -⟩, rfl, _, hmajor, _, hminor, ⟨rfl, rfl⟩, _, hflags,
      rfl, transactionId, htransaction, consoleGeneration, hconsole, statusGeneration, hstatus, hvalid,
      rfl⟩
    exact ⟨rfl, hvalid, hmagic, hmajor, hminor, hflags, hcount, htransaction, hconsole, hstatus⟩
  · rintro ⟨rfl, hvalid, h⟩
    have hlen := has_length h.statusGeneration
    rw [length_u64] at hlen
    exact ⟨Nat.not_lt.mpr hlen, _, h.handles, ⟨rfl, rfl⟩, _, ⟨h.magic, rfl⟩, rfl, _, h.major, _, h.minor,
      ⟨rfl, rfl⟩, _, h.flags, rfl, _, h.transactionId, _, h.consoleGeneration, _, h.statusGeneration,
      hvalid, rfl⟩

variable {size : Nat}

theorem has_headerText {header : Header} {messageType : UInt32} :
    Has bytes 0 (headerText header messageType size) ↔ HeaderAt bytes header ∧
      Has bytes 8 (u32 messageType) ∧ Has bytes 16 (u32 (UInt32.ofNat size)) := by
  simp only [headerText, has_append, length_u16, length_u32, length_u64]
  constructor
  · rintro ⟨hmagic, hmajor, hminor, htype, hflags, hsize, hhandles, htransaction, hconsole, hstatus⟩
    exact ⟨⟨hmagic, hmajor, hminor, hflags, hhandles, htransaction, hconsole, hstatus⟩, htype, hsize⟩
  · rintro ⟨h, htype, hsize⟩
    exact ⟨h.magic, h.major, h.minor, htype, h.flags, hsize, h.handles, h.transactionId,
      h.consoleGeneration, h.statusGeneration⟩

theorem decodeSnapshot_eq_ok {snapshot : Snapshot} : decodeSnapshot bytes = .ok snapshot ↔
    snapshot.validate = .ok () ∧ Has bytes 48 (snapshotText snapshot) := by
  simp only [decodeSnapshot, bind_eq_ok, getU32_eq_ok, getU64_eq_ok, rejectIf_eq_ok,
    State.parse_eq_ok, LastFailure.parse_eq_ok, mapErr_eq_ok, Outcome.pure_eq, Outcome.ok.injEq,
    exists_const, Bool.or_eq_false_iff, decide_eq_false_iff_not, not_not, ne_eq]
  simp only [snapshotText, Snapshot.serial, Snapshot.child, List.cons_append, List.nil_append,
    u64s_cons, u64s_nil, has_append, length_u32, length_u64, List.append_assoc]
  constructor
  · rintro ⟨_, hzero, _, hzero', ⟨rfl, rfl⟩, _, hstate, state, rfl, flags, hflags, registry, hregistry,
      publication, hpublication, bundle, hbundle, attempt, hattempt, stream, hstream, child, hchild, job,
      hjob, transaction, htransaction, mask, hmask, input, hinput, stdout, hstdout, stderr, hstderr,
      childFailures, hchildFailures, serialFailures, hserialFailures, _, hlast, failure, rfl, _, hvalid,
      rfl⟩
    exact ⟨hvalid, hstate, hflags, hregistry, hpublication, hbundle, hattempt, hstream, hchild, hjob,
      htransaction, hmask, hinput, hstdout, hstderr, hchildFailures, hserialFailures, hlast, hzero,
      hzero'⟩
  · rintro ⟨hvalid, hstate, hflags, hregistry, hpublication, hbundle, hattempt, hstream, hchild, hjob,
      htransaction, hmask, hinput, hstdout, hstderr, hchildFailures, hserialFailures, hlast, hzero,
      hzero'⟩
    exact ⟨_, hzero, _, hzero', ⟨rfl, rfl⟩, _, hstate, snapshot.state, rfl, _, hflags, _, hregistry, _,
      hpublication, _, hbundle, _, hattempt, _, hstream, _, hchild, _, hjob, _, htransaction, _, hmask,
      _, hinput, _, hstdout, _, hstderr, _, hchildFailures, _, hserialFailures, _, hlast,
      snapshot.lastFailure, rfl, (), hvalid, rfl⟩

theorem decodeError_eq_ok {code : ErrorCode} :
    decodeError bytes = .ok code ↔ Has bytes 48 (errorText code) := by
  simp only [decodeError, bind_eq_ok, getU32_eq_ok, rejectIf_eq_ok, ErrorCode.parse_eq_ok,
    exists_const, decide_eq_false_iff_not, not_not, ne_eq, errorText, has_append, length_u32]
  constructor
  · rintro ⟨_, hzero, rfl, _, hcode, rfl⟩
    exact ⟨hcode, hzero⟩
  · rintro ⟨hcode, hzero⟩
    exact ⟨_, hzero, rfl, _, hcode, rfl⟩

theorem toNat_eq_iff {size : UInt32} {n : Nat} (h : n < 4294967296) :
    size.toNat = n ↔ size = UInt32.ofNat n := by
  constructor
  · rintro rfl
    exact UInt32.ofNat_toNat.symm
  · rintro rfl
    exact UInt32.toNat_ofNat_of_lt h

theorem text_iff {header : Header} {messageType : UInt32} {body : List UInt8} :
    bytes = headerText header messageType size ++ body ↔ (HeaderAt bytes header ∧
      Has bytes 8 (u32 messageType) ∧ Has bytes 16 (u32 (UInt32.ofNat size))) ∧
        Has bytes 48 body ∧ bytes.length = 48 + body.length := by
  rw [← has_headerText, ← has_whole, has_append, List.length_append, length_headerText, and_assoc]

/-- `decode` accepts the texts of valid messages, without handles. -/
theorem decode_eq_ok {handles : Nat} {message : Message} : decode bytes handles = .ok message ↔
    handles = 0 ∧ message.Ok ∧ bytes = message.text := by
  simp only [decode, bind_eq_ok, parseHeader_eq_ok, getU32_eq_ok, rejectIf_eq_ok, exists_const,
    Bool.or_eq_false_iff, decide_eq_false_iff_not, not_not, ne_eq, Message.text, text_iff]
  constructor
  · rintro ⟨header, ⟨rfl, hvalid, hheader⟩, messageType, htype, expected, hexpected, size, hsize,
      ⟨hlen, hsizeNat⟩, harm⟩
    unfold expectedBytes at hexpected
    split_ifs at hexpected harm with hquery hsnapshot herror
    all_goals
      obtain rfl := Outcome.ok.inj hexpected
      rw [toNat_eq_iff (by decide)] at hsizeNat
      subst hsizeNat
    · subst hquery
      obtain rfl := Outcome.ok.inj harm
      have hnil : Has bytes 48 [] := slice_eq_some.mpr ⟨Nat.le_of_eq hlen.symm, rfl⟩
      exact ⟨rfl, hvalid, ⟨hheader, htype, hsize⟩, hnil, hlen⟩
    · subst hsnapshot
      simp only [bind_eq_ok, decodeSnapshot_eq_ok] at harm
      obtain ⟨status, ⟨hstatus, hbody⟩, hmessage⟩ := harm
      obtain rfl := Outcome.ok.inj hmessage
      exact ⟨rfl, ⟨hvalid, hstatus⟩, ⟨hheader, htype, hsize⟩, hbody, hlen⟩
    · subst herror
      simp only [bind_eq_ok, decodeError_eq_ok] at harm
      obtain ⟨code, hbody, hmessage⟩ := harm
      obtain rfl := Outcome.ok.inj hmessage
      exact ⟨rfl, hvalid, ⟨hheader, htype, hsize⟩, hbody, hlen⟩
  · rintro ⟨rfl, hok, ⟨hheader, htype, hsize⟩, hbody, hlen⟩
    have hsizeNat : (UInt32.ofNat message.sizeOf).toNat = message.sizeOf := by
      cases message <;> rfl
    cases message with
    | query header =>
        exact ⟨header, ⟨rfl, hok, hheader⟩, _, htype, _, rfl, _, hsize, ⟨hlen, hsizeNat⟩, rfl⟩
    | snapshot header status =>
        refine ⟨header, ⟨rfl, hok.1, hheader⟩, _, htype, _, rfl, _, hsize, ⟨?_, hsizeNat⟩, ?_⟩
        · rw [hlen, Message.bodyText, length_snapshotText]
          rfl
        · have hother : ¬ statusSnapshot = queryStatus := by decide
          refine (if_neg hother).trans ((if_pos rfl).trans ?_)
          rw [decodeSnapshot_eq_ok.mpr ⟨hok.2, hbody⟩]
          rfl
    | error header code =>
        refine ⟨header, ⟨rfl, hok, hheader⟩, _, htype, _, rfl, _, hsize, ⟨?_, hsizeNat⟩, ?_⟩
        · rw [hlen, Message.bodyText, length_errorText]
          rfl
        · have hother : ¬ error = queryStatus := by decide
          have hother' : ¬ error = statusSnapshot := by decide
          refine (if_neg hother).trans ((if_neg hother').trans ((if_pos rfl).trans ?_))
          rw [decodeError_eq_ok.mpr hbody]
          rfl

/-! ## Writing -/

variable {out : List UInt8}

section Writing

variable {old : List UInt8}

def zeros (n : Nat) : List UInt8 := List.replicate n 0

/-- The encoder of a message. -/
def encodeMessage : Message → Encoder Nat
  | .query header => encodeQuery header
  | .snapshot header snapshot => encodeSnapshot header snapshot
  | .error header code => encodeError header code

theorem encodeHeader_turns {header : Header} {messageType : UInt32}
    (hvalid : header.valid = true) (hsize : 48 ≤ size) (hold : old.length = size) :
    Turns (encodeHeader header messageType size) () 0 old
      (headerText header messageType size ++ zeros (size - 48)) := by
  have hzeros : zeros size = zeros 4 ++ (zeros 2 ++ (zeros 2 ++ (zeros 4 ++ (u32 0 ++ (zeros 4 ++
      (u32 0 ++ (zeros 8 ++ (zeros 8 ++ (zeros 8 ++ zeros (size - 48)))))))))) := by
    rw [show zeros size = zeros 48 ++ zeros (size - 48) by
      rw [zeros, zeros, zeros, ← List.replicate_add, Nat.add_sub_cancel' hsize]]
    rfl
  have htext : headerText header messageType size ++ zeros (size - 48) = magic ++ (u16 major ++
      (u16 minor ++ (u32 messageType ++ (u32 0 ++ (u32 (UInt32.ofNat size) ++ (u32 0 ++
        (u64 header.transactionId ++ (u64 header.consoleGeneration ++
          (u64 header.statusGeneration ++ zeros (size - 48)))))))))) := by
    simp only [headerText, List.append_assoc]
  have hidentity : (rejectIf (!header.valid) .identity : EncodeCheck Unit) = .ok () := by
    rw [hvalid]
    rfl
  rw [htext]
  unfold encodeHeader
  refine .bind (.lift hidentity) (.get_bind fun out hout => ?_)
  have hbuffer : (rejectIf (out.length < size) .buffer : EncodeCheck Unit) = .ok () :=
    rejectIf_eq_ok.mpr (decide_eq_false (by omega))
  refine .bind (.lift hbuffer) (.bind (.storeAt rfl (hold.trans List.length_replicate.symm)) ?_)
  show Turns _ _ _ (zeros size) _
  rw [hzeros]
  refine .append (.storeAt rfl rfl) (.append (.storeAt rfl rfl) (.append (.storeAt rfl rfl)
    (.append (.storeAt rfl rfl) (.behind (.append (.storeAt rfl rfl) (.behind
      (.append (.storeAt rfl rfl) (.append (.storeAt rfl rfl) (.before (.storeAt rfl rfl)))))))))) 

theorem putIds_turns (ids : List UInt64) : ∀ (index : Nat),
    Turns (putIds index ids) () (56 + index * 8) (zeros (ids.length * 8)) (u64s ids) := by
  induction ids with
  | nil => exact fun _ => .pure ()
  | cons value rest ih =>
      intro index
      have hzeros : zeros ((value :: rest).length * 8) = zeros 8 ++ zeros (rest.length * 8) := by
        rw [zeros, zeros, zeros, ← List.replicate_add, List.length_cons]
        congr 1
        omega
      have hnext := ih (index + 1)
      rw [show 56 + (index + 1) * 8 = 56 + index * 8 + 8 by omega] at hnext
      rw [hzeros, u64s_cons]
      exact .append (.storeAt rfl rfl) hnext

theorem encodeMessage_turns {message : Message} (hok : message.Ok)
    (hold : old.length = message.sizeOf) :
    Turns (encodeMessage message) message.sizeOf 0 old message.text := by
  cases message with
  | query header =>
      have hheader : Turns (encodeHeader header queryStatus headerBytes) () 0 old _ :=
        encodeHeader_turns hok (by decide) hold
      exact .bind hheader (.pure _)
  | snapshot header snapshot =>
      have hheader : Turns (encodeHeader header statusSnapshot snapshotBytes) () 0 old _ :=
        encodeHeader_turns hok.1 (by decide) hold
      have hzeros : zeros (snapshotBytes - 48) = zeros 4 ++ (zeros 4 ++
          (zeros ((snapshot.serial ++ snapshot.child).length * 8) ++ (zeros 4 ++ (zeros 4 ++
            (zeros 4 ++ (zeros 4 ++ (zeros 4 ++ (zeros 4 ++ (zeros 4 ++ (u32 0 ++ u64 0)))))))))) := rfl
      have hids := putIds_turns (snapshot.serial ++ snapshot.child) 0
      rw [hzeros] at hheader
      refine .bind (.lift hok.2) (.bind hheader (.behind ?_))
      exact .append (.storeAt rfl rfl) (.append (.storeAt rfl rfl) (.append hids
        (.append (.storeAt rfl rfl) (.append (.storeAt rfl rfl) (.append (.storeAt rfl rfl)
          (.append (.storeAt rfl rfl) (.append (.storeAt rfl rfl) (.append (.storeAt rfl rfl)
            (.append (.storeAt rfl rfl) (.pure _))))))))))
  | error header code =>
      have hheader : Turns (encodeHeader header error errorBytes) () 0 old _ :=
        encodeHeader_turns hok (by decide) hold
      have hbody : Turns (putU32 48 code.toU32) () 48 (zeros 4 ++ u32 0) (errorText code) :=
        .before (.storeAt rfl rfl)
      exact .bind hheader (.bind (.behind hbody) (.pure _))

variable {out' : List UInt8} {w : List Empty}

theorem encodeHeader_sound {header : Header} {messageType : UInt32}
    (h : encodeHeader header messageType size out = (.ok (), out', w)) :
    header.valid = true ∧ size ≤ out.length := by
  obtain ⟨_, hidentity, h⟩ := Prog.lift_bind_eq_ok h
  rw [Prog.get_bind_run] at h
  obtain ⟨_, hbuffer, -⟩ := Prog.lift_bind_eq_ok h
  rw [rejectIf_eq_ok] at hidentity hbuffer
  exact ⟨by simpa using hidentity, by simpa using hbuffer⟩

theorem encodeMessage_sound {message : Message}
    (h : encodeMessage message out = (.ok size, out', w)) :
    message.Ok ∧ message.sizeOf ≤ out.length := by
  cases message with
  | query header | error header code =>
      obtain ⟨_, _, _, _, hheader, -⟩ := Prog.bind_run_eq_ok h
      exact encodeHeader_sound hheader
  | snapshot header snapshot =>
      obtain ⟨_, hvalidate, h⟩ := Prog.lift_bind_eq_ok h
      obtain ⟨_, _, _, _, hheader, -⟩ := Prog.bind_run_eq_ok h
      obtain ⟨hvalid, hroom⟩ := encodeHeader_sound hheader
      exact ⟨⟨hvalid, hvalidate⟩, hroom⟩

theorem encodeMessage_complete {message : Message} {out : List UInt8} (hok : message.Ok)
    (hroom : message.sizeOf ≤ out.length) : encodeMessage message out =
      (.ok message.sizeOf, message.text ++ out.drop message.sizeOf, []) := by
  have hlen : (out.take message.sizeOf).length = message.sizeOf := by
    rw [List.length_take]
    omega
  have hrun := (encodeMessage_turns hok hlen).run (out.drop message.sizeOf)
  rwa [List.take_append_drop] at hrun

end Writing

/-! ## The codec -/

theorem decode_encodeMessage {message : Message} {size : Nat} {out out' : List UInt8}
    {w : List Empty} (h : encodeMessage message out = (.ok size, out', w)) :
    decode (out'.take size) 0 = .ok message := by
  obtain ⟨hok, hroom⟩ := encodeMessage_sound h
  rw [encodeMessage_complete hok hroom] at h
  obtain ⟨hsize, hrest⟩ := Prod.mk.inj h
  obtain rfl := Outcome.ok.inj hsize
  obtain rfl := (Prod.mk.inj hrest).1
  rw [List.take_left' message.length_text]
  exact decode_eq_ok.mpr ⟨rfl, hok, rfl⟩

theorem encodeMessage_decode {handles : Nat} {message : Message}
    (h : decode bytes handles = .ok message) (hroom : bytes.length ≤ out.length) :
    encodeMessage message out = (.ok bytes.length, bytes ++ out.drop bytes.length, []) := by
  obtain ⟨-, hok, rfl⟩ := decode_eq_ok.mp h
  rw [message.length_text] at hroom ⊢
  exact encodeMessage_complete hok hroom

end Wyrmroot.Console
