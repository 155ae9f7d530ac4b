import Wyrmroot.DeviceProto.Controller

/-!
# WRCS 1.1, publication with a service generation

`wyrmroot-device-proto/src/controller_v1_1.rs`. A record is an install or a
rebind of WRCS 1.0 with another minor and another size in its front, and the
service generation behind it. Either side goes through the 1.0 codec, with
the two fields put right afterwards (`header_patched`).
-/

namespace Wyrmroot.DeviceProto

open Outcome

variable {bytes : List UInt8}

structure PublicationMessage where
  controller : ControllerMessage
  serviceGeneration : UInt64
deriving DecidableEq

/-- `matches!(message, ControllerMessage::Status { .. })`. -/
def ControllerMessage.isStatus : ControllerMessage → Bool
  | .status .. => true
  | _ => false

/-- `encode` on `&mut output[..n]`. -/
def onFront {ε α : Type} (n : Nat) (encode : Fill ε α) : Fill ε α := fun output =>
  if n ≤ output.length then
    ((encode (output.take n)).1, (encode (output.take n)).2.1 ++ output.drop n,
      (encode (output.take n)).2.2)
  else (.panic, output, [])

namespace ControllerV11

open Controller (Check MessageType)

def minor : UInt16 := 1
def recordBytes : Nat := 80

def encode (message : PublicationMessage) : Fill ControllerParseError Unit := do
  let output ← .get
  .lift (rejectIf (output.length ≠ recordBytes) .wrongSize)
  .lift (rejectIf message.controller.isStatus .unknownMessage)
  .lift (rejectIf (message.serviceGeneration = 0) .zeroIdentity)
  onFront headerBytes (Controller.encode message.controller)
  storeBytes 6 (u16 minor)
  storeBytes 16 (u32 (UInt32.ofNat recordBytes))
  storeBytes 72 (u64 message.serviceGeneration)

def parse (bytes : List UInt8) : Check PublicationMessage := do
  rejectIf (bytes.length ≠ recordBytes) .wrongSize
  rejectIf ((← sliceAt bytes 0 4) ≠ controllerMagic) .wrongMagic
  rejectIf ((← sliceAt bytes 4 2) ≠ u16 major || (← sliceAt bytes 6 2) ≠ u16 minor) .wrongVersion
  rejectIf ((← sliceAt bytes 16 4) ≠ u32 (UInt32.ofNat recordBytes)) .wrongSize
  let messageType ← sliceAt bytes 8 4
  rejectIf (messageType ≠ u32 MessageType.installPublication.toU32
    && messageType ≠ u32 MessageType.rebindPublication.toU32) .unknownMessage
  let common ← sliceAt bytes 0 headerBytes
  let header := splice (splice common 6 (u16 Controller.minor)) 16
    (u32 (UInt32.ofNat headerBytes))
  let controller ← Controller.parse header
  let serviceGeneration ← get64 bytes 72
  rejectIf (serviceGeneration = 0) .zeroIdentity
  pure { controller, serviceGeneration }

/-! ## Texts -/

/-- The common fields of an install or a rebind, in a given minor and size. -/
def common (message : ControllerMessage) (minor : UInt16) (size : Nat) : List UInt8 :=
  front controllerMagic minor message.messageType.toU32 size message.handleCount ++
    u64s message.words

theorem text_eq_common {message : ControllerMessage} (h : message.isStatus = false) :
    message.text = common message Controller.minor headerBytes := by
  cases message with
  | status => cases h
  | _ =>
      rw [ControllerMessage.text]
      exact congrArg _ (List.append_nil _)

theorem length_common (message : ControllerMessage) (minor : UInt16) (size : Nat) :
    (common message minor size).length = 72 := by
  rw [common, List.length_append, length_front rfl, length_u64s]
  simp only [ControllerMessage.words, List.length_cons, List.length_append,
    ControllerMessage.length_bindingWords, List.length_nil]

theorem common_split (message : ControllerMessage) (minor : UInt16) (size : Nat) :
    common message minor size = (controllerMagic ++ u16 major) ++ (u16 minor ++
      ((u32 message.messageType.toU32 ++ u32 0) ++ (u32 (UInt32.ofNat size) ++
        (u32 message.handleCount ++ u64s message.words)))) := by
  simp only [common, front, List.append_assoc]

def text (message : PublicationMessage) : List UInt8 :=
  common message.controller minor recordBytes ++ u64 message.serviceGeneration

theorem length_text (message : PublicationMessage) : (text message).length = recordBytes := by
  rw [text, List.length_append, length_common, length_u64]
  rfl

/-- What either side asks of a message. -/
def Valid (message : PublicationMessage) : Prop :=
  Controller.Valid message.controller ∧ message.controller.isStatus = false ∧
    message.serviceGeneration ≠ 0

/-! ## Putting the two fields right -/

theorem has_two {p q : List UInt8} {i j : Nat} (hp : Has bytes i p) (hq : Has bytes j q)
    (hij : i + p.length ≤ j) : ∃ a b c, bytes = a ++ (p ++ (b ++ (q ++ c))) ∧ a.length = i ∧
      b.length = j - (i + p.length) := by
  obtain ⟨before, after, rfl, hbefore⟩ := has_iff.mp hq
  have hleft : Has before i p := by
    obtain ⟨hfit, htake⟩ := slice_eq_some.mp hp
    refine slice_eq_some.mpr ⟨by omega, ?_⟩
    rw [List.drop_append, List.take_append] at htake
    rw [show p.length - (before.drop i).length = 0 by rw [List.length_drop]; omega,
      List.take_zero, List.append_nil] at htake
    exact htake
  obtain ⟨a, b, rfl, ha⟩ := has_iff.mp hleft
  refine ⟨a, b, after, by simp only [List.append_assoc], ha, ?_⟩
  simp only [List.length_append] at hbefore
  omega

theorem splice_two {a p u b q v c : List UInt8} {j : Nat} (hp : p.length = u.length)
    (hq : q.length = v.length) (hj : j = a.length + (p.length + b.length)) :
    splice (splice (a ++ (p ++ (b ++ (q ++ c)))) a.length u) j v =
      a ++ (u ++ (b ++ (v ++ c))) := by
  have hshift : j = (a ++ (u ++ b)).length := by
    simp only [List.length_append]
    omega
  have hsecond : splice ((a ++ (u ++ b)) ++ (q ++ c)) (a ++ (u ++ b)).length v =
      (a ++ (u ++ b)) ++ (v ++ c) := Turns.splice_middle hq
  simp only [List.append_assoc] at hsecond
  rw [Turns.splice_middle hp, hshift, hsecond]

/-- The reader's header is a 1.0 record exactly if the common fields are one
of 1.1. -/
theorem header_patched {fields : List UInt8} {message : ControllerMessage}
    (hlen : fields.length = 72) (hminor : Has fields 6 (u16 minor))
    (hsize : Has fields 16 (u32 (UInt32.ofNat recordBytes))) :
    splice (splice fields 6 (u16 Controller.minor)) 16 (u32 (UInt32.ofNat headerBytes)) =
      common message Controller.minor headerBytes ↔ fields = common message minor recordBytes := by
  obtain ⟨a, b, c, rfl, ha, hb⟩ := has_two hminor hsize (by rw [length_u16]; omega)
  rw [length_u16] at hb
  have hpatched := splice_two (a := a) (p := u16 minor) (u := u16 Controller.minor) (b := b)
    (q := u32 (UInt32.ofNat recordBytes)) (v := u32 (UInt32.ofNat headerBytes)) (c := c) (j := 16)
    rfl rfl (by rw [ha, hb, length_u16])
  rw [ha] at hpatched
  rw [hpatched, common_split, common_split]
  have hfront : a.length = (controllerMagic ++ u16 major).length := ha
  have hmiddle : b.length = (u32 message.messageType.toU32 ++ u32 0).length := by
    rw [hb, List.length_append, length_u32, length_u32]
  constructor
  · intro h
    obtain ⟨rfl, hrest⟩ := List.append_inj h hfront
    obtain ⟨rfl, htail⟩ := List.append_inj (List.append_cancel_left hrest) hmiddle
    obtain rfl := List.append_cancel_left htail
    rfl
  · intro h
    obtain ⟨rfl, hrest⟩ := List.append_inj h hfront
    obtain ⟨rfl, htail⟩ := List.append_inj (List.append_cancel_left hrest) hmiddle
    obtain rfl := List.append_cancel_left htail
    rfl

/-! ## Reading -/

theorem has_left {part whole rest : List UInt8} {offset : Nat} (h : Has (whole ++ rest) offset part)
    (hfit : offset + part.length ≤ whole.length) : Has whole offset part := by
  obtain ⟨-, htake⟩ := slice_eq_some.mp h
  refine slice_eq_some.mpr ⟨hfit, ?_⟩
  rw [List.drop_append, List.take_append,
    show part.length - (whole.drop offset).length = 0 by rw [List.length_drop]; omega,
    List.take_zero, List.append_nil] at htake
  exact htake

theorem parse_eq_ok {message : PublicationMessage} :
    parse bytes = .ok message ↔ Valid message ∧ bytes = text message := by
  simp only [parse, bind_eq_ok, rejectIf_eq_ok, sliceAt_eq_ok, get64_eq_ok, Controller.parse_eq_ok,
    Bool.or_eq_false_iff, Bool.and_eq_false_iff, decide_eq_false_iff_not, not_not, ne_eq,
    exists_const, Outcome.pure_eq, Outcome.ok.injEq]
  constructor
  · rintro ⟨hlen, _, ⟨hmagic, -⟩, rfl, _, ⟨hmajor, -⟩, _, ⟨hminor, -⟩, ⟨rfl, rfl⟩, _, ⟨hsize, -⟩,
      rfl, _, -, -, fields, ⟨hfields, hfit⟩, controller, ⟨⟨hvalid, -⟩, htext⟩, service, hservice,
      hnonzero, rfl⟩
    have hbytes : bytes = fields ++ u64 service := by
      refine has_whole.mp ⟨has_append.mpr ⟨hfields, ?_⟩, ?_⟩
      · rw [hfit]
        exact hservice
      · rw [List.length_append, hfit, length_u64]
        exact hlen
    have hstatus : controller.isStatus = false := by
      have hwhole := congrArg List.length htext
      rw [length_splice, length_splice, hfit, controller.length_text] at hwhole
      · cases controller with
        | status =>
            rw [ControllerMessage.wireSize] at hwhole
            exact absurd hwhole (by decide)
        | _ => rfl
      · rw [hfit]
        decide
      · rw [length_splice, hfit]
        · decide
        · rw [hfit]
          decide
    rw [hbytes] at hminor hsize
    have hminor' := has_left hminor (by rw [hfit]; decide)
    have hsize' := has_left hsize (by rw [hfit]; decide)
    rw [text_eq_common hstatus] at htext
    have hsame := (header_patched hfit hminor' hsize').mp htext
    refine ⟨⟨hvalid, hstatus, hnonzero⟩, ?_⟩
    rw [hbytes, text, hsame]
  · rintro ⟨⟨hvalid, hstatus, hnonzero⟩, rfl⟩
    have hfields : Has (text message) 0 (common message.controller minor recordBytes) :=
      (has_append.mp (has_whole.mpr (rfl : text message = _)).1).1
    have hservice : Has (text message) 72 (u64 message.serviceGeneration) := by
      have hrest := (has_append.mp (has_whole.mpr (rfl : text message = _)).1).2
      rwa [length_common] at hrest
    have hfront := (has_front rfl).mp (has_append.mp hfields).1
    have hself := (has_whole.mpr (rfl : common message.controller minor recordBytes = _)).1
    have hinner := (has_front rfl).mp (has_append.mp hself).1
    have hlen72 := length_common message.controller minor recordBytes
    have hattempt : message.controller.attemptGeneration ≠ some 0 := by
      cases hc : message.controller with
      | status => rw [hc] at hstatus; cases hstatus
      | _ => rintro ⟨⟩
    have htype : message.controller.messageType.toU32 = MessageType.installPublication.toU32 ∨
        message.controller.messageType.toU32 = MessageType.rebindPublication.toU32 := by
      cases hc : message.controller with
      | status => rw [hc] at hstatus; cases hstatus
      | installPublication => exact .inl rfl
      | rebindPublication => exact .inr rfl
    refine ⟨length_text message, _, ⟨hfront.magic, rfl⟩, rfl, _, ⟨hfront.major, rfl⟩, _,
      ⟨hfront.minor, rfl⟩, ⟨rfl, rfl⟩, _, ⟨hfront.size, rfl⟩, rfl, _, ⟨hfront.messageType, rfl⟩,
      htype.imp (congrArg u32) (congrArg u32), _, ⟨hfields, hlen72⟩, message.controller,
      ⟨⟨hvalid, hattempt⟩, ?_⟩, _, hservice, hnonzero, rfl⟩
    rw [text_eq_common hstatus]
    exact (header_patched hlen72 hinner.minor hinner.size).mpr rfl

/-! ## Writing -/

theorem encode_text {message : PublicationMessage} {out : List UInt8} (hvalid : Valid message)
    (hlen : out.length = (text message).length) :
    encode message out = (.ok (), text message, []) := by
  obtain ⟨hcontroller, hstatus, hservice⟩ := hvalid
  rw [length_text] at hlen
  have hkind : (rejectIf message.controller.isStatus .unknownMessage : Check Unit) = .ok () :=
    rejectIf_eq_ok.mpr hstatus
  have hnonzero : (rejectIf (message.serviceGeneration = 0) .zeroIdentity : Check Unit) = .ok () :=
    rejectIf_eq_ok.mpr (decide_eq_false hservice)
  have hfit : headerBytes ≤ out.length := by
    rw [hlen]
    decide
  have hheader : onFront headerBytes (Controller.encode message.controller) out =
      (.ok (), common message.controller Controller.minor headerBytes ++ out.drop headerBytes,
        []) := by
    have htake : (out.take headerBytes).length = message.controller.text.length := by
      rw [List.length_take, text_eq_common hstatus, length_common]
      exact Nat.min_eq_left hfit
    rw [onFront, if_pos hfit, Controller.encode_text hcontroller htake, text_eq_common hstatus]
  have hrest : (out.drop headerBytes).length = (u64 message.serviceGeneration).length := by
    rw [List.length_drop, hlen, length_u64]
    rfl
  have hturns : Turns (do
      storeBytes 6 (u16 minor)
      storeBytes 16 (u32 (UInt32.ofNat recordBytes))
      storeBytes 72 (u64 message.serviceGeneration) : Fill ControllerParseError Unit) () 0
      (common message.controller Controller.minor headerBytes ++ out.drop headerBytes)
      (text message) := by
    have hminor : Turns (storeBytes 6 (u16 minor) : Fill ControllerParseError Unit) () 0
        (common message.controller Controller.minor headerBytes)
        (common message.controller minor headerBytes) := by
      rw [common_split, common_split]
      exact .behind (.before (.storeAt rfl rfl))
    have hwords : Turns (storeBytes 16 (u32 (UInt32.ofNat recordBytes)) :
        Fill ControllerParseError Unit) () 0 (common message.controller minor headerBytes)
        (common message.controller minor recordBytes) := by
      rw [common_split, common_split]
      exact .behind (.behind (.behind (.before (.storeAt rfl rfl))))
    refine .bind hminor.before (.bind hwords.before (.behind (.storeAt ?_ hrest)))
    rw [length_common]
  rw [encode, sized_run hlen, hkind, Prog.lift_ok_bind, hnonzero, Prog.lift_ok_bind,
    Prog.bind_run_ok hheader]
  have hrun := hturns.run []
  rw [List.append_nil, List.append_nil] at hrun
  rw [hrun]
  rfl

theorem encode_accepts {message : PublicationMessage} {out out' : List UInt8} {w : List Empty}
    (h : encode message out = (.ok (), out', w)) :
    Valid message ∧ out.length = (text message).length := by
  obtain ⟨hsize, h⟩ := sized_accepts h
  obtain ⟨_, hstatus, h⟩ := Prog.lift_bind_eq_ok h
  obtain ⟨_, hservice, h⟩ := Prog.lift_bind_eq_ok h
  obtain ⟨_, _, _, _, hheader, -⟩ := Prog.bind_run_eq_ok h
  rw [rejectIf_eq_ok] at hstatus hservice
  rw [decide_eq_false_iff_not] at hservice
  have hfit : headerBytes ≤ out.length := by
    rw [hsize]
    decide
  rw [onFront, if_pos hfit] at hheader
  have hinner : Controller.encode message.controller (out.take headerBytes) =
      (.ok (), (Controller.encode message.controller (out.take headerBytes)).2.1,
        (Controller.encode message.controller (out.take headerBytes)).2.2) :=
    Prod.ext (Prod.mk.inj hheader).1 rfl
  obtain ⟨hvalid, -⟩ := Controller.encode_accepts hinner
  exact ⟨⟨hvalid, hstatus, hservice⟩, hsize.trans (length_text message).symm⟩

theorem codec : Inverse encode parse :=
  .of_text Valid text parse_eq_ok encode_accepts encode_text

end ControllerV11

/-! ## Both minors -/

/-- Apart from statuses with the attempt `Some(0)`, which only the writer of
1.0 takes, either codec undoes itself, and the texts of the minors differ. -/
theorem controller_codecs (message : ControllerMessage) (bytes : List UInt8) :
    (∀ out out' w, Controller.encode message out = (.ok (), out', w) →
      (Controller.parse out' = .ok message ↔ message.attemptGeneration ≠ some 0)) ∧
    (∀ out, Controller.parse bytes = .ok message → out.length = bytes.length →
      Controller.encode message out = (.ok (), bytes, [])) ∧
    Inverse ControllerV11.encode ControllerV11.parse ∧
    ∀ message', ¬ (Controller.parse bytes = .ok message ∧
      ControllerV11.parse bytes = .ok message') := by
  refine ⟨fun _ _ _ => Controller.encode_parse_iff, fun _ => Controller.parse_encode,
    ControllerV11.codec, ?_⟩
  rintro message' ⟨hzero, hone⟩
  obtain ⟨-, htext⟩ := Controller.parse_eq_ok.mp hzero
  obtain ⟨-, rfl⟩ := ControllerV11.parse_eq_ok.mp hone
  have hcommon := (has_append.mp (has_whole.mpr (rfl : ControllerV11.text message' = _)).1).1
  have hfront := (has_front rfl).mp (has_append.mp hcommon).1
  have hminor := (Controller.text_iff.mp htext).1.minor_unique hfront
  exact absurd hminor (by decide)

/-- A status in backoff with the attempt `Some(0)`. -/
def zeroAttempt : ControllerMessage :=
  .status 7 (some { generation := 3, endpoint := { id := 11, generation := 4 } }) 2 .backoff (some 0)

/-- It is encoded, and the record is then refused. -/
theorem zeroAttempt_lost : ∃ out',
    Controller.encode zeroAttempt (List.replicate 88 0) = (.ok (), out', []) ∧
      ¬ Controller.parse out' = .ok zeroAttempt := by
  have hwrites := @Controller.encode_text zeroAttempt (List.replicate 88 0) rfl rfl
  refine ⟨_, hwrites, fun h => ?_⟩
  exact (Controller.encode_parse_iff hwrites).mp h rfl

end Wyrmroot.DeviceProto
