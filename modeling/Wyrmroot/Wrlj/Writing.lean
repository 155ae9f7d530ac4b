import Wyrmroot.Wrlj.Launch

/-!
# What the WRLJ encoders write

An encoder clears the front of the caller's buffer, writes the prefix there
and then the body, word by word; the words it skips are the reserved ones
and stay zero. On a buffer with room, and for content that passes its
checks, it leaves the text of the content and touches nothing behind it.
-/

namespace Wyrmroot.Wrlj

open Outcome

variable {offset position : Nat} {old : List UInt8}

/-! ## Single words -/

theorem putU16_turns {v : UInt16} (hat : position = offset) (hold : old.length = 2) :
    Turns (putU16 position v) () offset old (u16 v) :=
  hat ▸ .put (by rw [hold, length_u16])

theorem putU32_turns {v : UInt32} (hat : position = offset) (hold : old.length = 4) :
    Turns (putU32 position v) () offset old (u32 v) :=
  hat ▸ .put (by rw [hold, length_u32])

theorem putU64_turns {v : UInt64} (hat : position = offset) (hold : old.length = 8) :
    Turns (putU64 position v) () offset old (u64 v) :=
  hat ▸ .put (by rw [hold, length_u64])

theorem storeBytes_turns {new : List UInt8} (hat : position = offset)
    (hold : old.length = new.length) :
    Turns (storeBytes position new : Encoder Unit) () offset old new :=
  hat ▸ .store hold

variable {size : Nat}

theorem requireRoom_turns (h : size ≤ old.length) :
    Turns (requireRoom size) () 0 old old := by
  refine .get_bind fun out hout => .lift ?_
  rw [decide_eq_false (by omega), rejectIf_false]

/-! ## Envelope and prefix -/

def zeros (n : Nat) : List UInt8 := List.replicate n 0

@[simp] theorem length_zeros (n : Nat) : (zeros n).length = n := List.length_replicate

theorem zeros_add (n m : Nat) : zeros (n + m) = zeros n ++ zeros m := List.replicate_add ..

theorem encodeEnvelopeVersion_turns {r : Reservation} (hr : r.Valid) (minor : UInt16) :
    Turns (encodeEnvelopeVersion r minor) () 0 (zeros 40) (envelopeText minor r) := by
  obtain ⟨hc, hg, ht⟩ := hr
  have hcheck : (rejectIf (r.connectionId = 0 || r.generation = 0 || r.transactionId = 0)
      .zeroIdentity : Check Unit) = .ok () := by
    simp [hc, hg, ht]
  refine .bind (requireRoom_turns (by simp [envelopeBytes])) (.bind (.lift hcheck) ?_)
  refine .bind (storeBytes_turns rfl (by simp [envelopeBytes])) ?_
  have hzeros : List.replicate envelopeBytes (0 : UInt8) = zeros 4 ++ (zeros 2 ++ (zeros 2 ++
    (zeros 8 ++ (zeros 8 ++ (zeros 8 ++ u64 0))))) := rfl
  rw [hzeros]
  refine .append (storeBytes_turns rfl rfl) (.append (putU16_turns rfl rfl)
    (.append (putU16_turns rfl rfl) (.append (putU64_turns rfl rfl)
      (.append (putU64_turns rfl rfl) (.before (putU64_turns rfl rfl))))))

theorem encodePrefixVersion_turns {r : Reservation} (hr : r.Valid) (minor : UInt16)
    (messageType : UInt32) :
    Turns (encodePrefixVersion r minor messageType) () 0 (zeros 48)
      (prefixText minor r messageType) := by
  refine .bind (requireRoom_turns (by simp [headerBytes, envelopeBytes, prefixBytes])) ?_
  have hzeros : zeros 48 = zeros 40 ++ (zeros 4 ++ u32 0) := rfl
  rw [hzeros]
  refine .append (encodeEnvelopeVersion_turns hr minor) (.before (putU32_turns ?_ rfl))
  rw [length_envelopeText]

theorem encode_run {body : Encoder Nat} {text out : List UInt8}
    (hbody : Turns body size 0 (zeros size) text) (hroom : size ≤ out.length) :
    (do requireRoom size; clear size; body : Encoder Nat) out =
      (.ok size, text ++ out.drop size, []) := by
  have hcheck : requireRoom size out = (.ok (), out, []) := by
    have hfits : ¬ out.length < size := by omega
    simp [requireRoom, Prog.bind_run_ok (Prog.get_run out), hfits]
  have hclear : clear size out = (.ok (), zeros size ++ out.drop size, []) := by
    rw [clear, storeBytes, if_pos (by simpa using hroom)]
    simp [splice, zeros]
  rw [Prog.bind_run_ok hcheck, Prog.bind_run_ok hclear, hbody.run]
  rfl

theorem encodePrefix_turns {r : Reservation} (hr : r.Valid) (kind : MessageType) :
    Turns (encodePrefix r kind) () 0 (zeros 48) (prefixText minor r kind.code) :=
  encodePrefixVersion_turns hr minor kind.code

/-! ## Bodies of fixed size -/

variable {r : Reservation} {out : List UInt8}

def messageText (r : Reservation) (kind : MessageType) (body : List UInt8) : List UInt8 :=
  prefixText minor r kind.code ++ body

theorem encodeJobMessage_run {kind : MessageType} {id : UInt64} (hr : r.Valid)
    (hkind : kind.isJob = true) (hid : id ≠ 0) (hroom : 56 ≤ out.length) :
    encodeJobMessage r kind id out =
      (.ok 56, messageText r kind (u64 id) ++ out.drop 56, []) := by
  have hbody : Turns (do encodePrefix r kind; putU64 48 id; pure 56 : Encoder Nat) 56 0 (zeros 56)
      (messageText r kind (u64 id)) := by
    rw [show zeros 56 = zeros 48 ++ zeros 8 from rfl]
    exact .append (encodePrefix_turns hr kind)
      (.bind (putU64_turns (by rw [length_prefixText]) rfl) (.pure _))
  rw [encodeJobMessage, hkind, nonzero_eq_ok.mpr ⟨hid, rfl⟩]
  exact encode_run hbody hroom

theorem encodeListJobs_run (hr : r.Valid) (hroom : 48 ≤ out.length) :
    encodeListJobs r out = (.ok 48, messageText r .listJobs [] ++ out.drop 48, []) := by
  have hbody : Turns (do encodePrefix r .listJobs; pure 48 : Encoder Nat) 48 0 (zeros 48)
      (messageText r .listJobs []) := by
    rw [messageText, List.append_nil]
    exact .bind (encodePrefix_turns hr .listJobs) (.pure _)
  exact encode_run hbody hroom

theorem encodeJobState_run {id : UInt64} {phase : JobPhase} (hr : r.Valid) (hid : id ≠ 0)
    (hroom : 64 ≤ out.length) : encodeJobState r id phase out =
      (.ok 64, messageText r .jobState (jobStateBody id phase) ++ out.drop 64, []) := by
  have hbody : Turns (do
      encodePrefix r .jobState
      putU64 48 id
      putU32 56 phase.code
      pure 64 : Encoder Nat) 64 0 (zeros 64) (messageText r .jobState (jobStateBody id phase)) := by
    rw [show zeros 64 = zeros 48 ++ (zeros 8 ++ (zeros 4 ++ u32 0)) from rfl]
    exact .append (encodePrefix_turns hr .jobState)
      (.append (putU64_turns (by simp) rfl)
        (.append (putU32_turns (by simp) rfl) (.pure _)))
  rw [encodeJobState, nonzero_eq_ok.mpr ⟨hid, rfl⟩]
  exact encode_run hbody hroom

theorem encodeJobResult_run {id : UInt64} {result : TerminationResult} (hr : r.Valid)
    (hid : id ≠ 0) (hresult : result.Valid) (hroom : 88 ≤ out.length) :
    encodeJobResult r id result out =
      (.ok 88, messageText r .jobResult (jobResultBody id result) ++ out.drop 88, []) := by
  have hbody : Turns (do
      encodePrefix r .jobResult
      putU64 48 id
      putU32 56 result.classification.code
      putU32 60 result.applicationCode
      putU32 64 result.exceptionClass
      putU32 68 result.exceptionDetail
      putU64 72 result.exceptionAddress
      let cleanupResult ← Prog.lift (parseCleanupResult result.cleanupResult)
      putU32 80 cleanupResult
      pure 88 : Encoder Nat) 88 0 (zeros 88)
      (messageText r .jobResult (jobResultBody id result)) := by
    rw [show zeros 88 = zeros 48 ++ (zeros 8 ++ (zeros 4 ++ (zeros 4 ++ (zeros 4 ++ (zeros 4 ++
      (zeros 8 ++ (zeros 4 ++ u32 0))))))) from rfl]
    exact .append (encodePrefix_turns hr .jobResult)
      (.append (putU64_turns (by simp) rfl)
        (.append (putU32_turns (by simp) rfl)
          (.append (putU32_turns (by simp) rfl)
            (.append (putU32_turns (by simp) rfl)
              (.append (putU32_turns (by simp) rfl)
                (.append (putU64_turns (by simp) rfl)
                  (.bind (.lift (parseCleanupResult_eq_ok.mpr ⟨hresult, rfl⟩))
                    (.append (putU32_turns (by simp) rfl) (.pure _)))))))))
  rw [encodeJobResult, nonzero_eq_ok.mpr ⟨hid, rfl⟩]
  exact encode_run hbody hroom

theorem encodeError_run {code : ErrorCode} (hr : r.Valid) (hroom : 56 ≤ out.length) :
    encodeError r code out =
      (.ok 56, messageText r .error (errorBody code) ++ out.drop 56, []) := by
  have hbody : Turns (do
      encodePrefix r .error
      putU32 48 code.code
      pure 56 : Encoder Nat) 56 0 (zeros 56) (messageText r .error (errorBody code)) := by
    rw [show zeros 56 = zeros 48 ++ (zeros 4 ++ u32 0) from rfl]
    exact .append (encodePrefix_turns hr .error)
      (.append (putU32_turns (by simp) rfl) (.pure _))
  exact encode_run hbody hroom

/-! ## Job lists -/

theorem putJobIds_turns : ∀ {ids : List UInt64}, (∀ id ∈ ids, id ≠ 0) → ∀ {position offset : Nat},
    position = offset →
      Turns (putJobIds position ids) () offset (zeros (ids.length * 8)) (u64s ids) := by
  intro ids
  induction ids with
  | nil => exact fun _ _ _ _ => .pure _
  | cons id rest ih =>
      intro hids position offset hat
      rw [show (id :: rest).length * 8 = 8 + rest.length * 8 by rw [List.length_cons]; omega,
        zeros_add, u64s_cons]
      refine .bind (.lift (nonzero_eq_ok.mpr ⟨hids id (List.mem_cons_self ..), rfl⟩))
        (.append (putU64_turns hat (length_zeros 8)) (ih ?_ ?_))
      · exact fun v hv => hids v (List.mem_cons_of_mem _ hv)
      · rw [length_u64, hat]

theorem encodeJobList_run {ids : List UInt64} (hr : r.Valid) (hids : JobIdsValid ids)
    (hroom : 56 + ids.length * 8 ≤ out.length) : encodeJobList r ids out =
      (.ok (56 + ids.length * 8),
        messageText r .jobList (jobListBody ids) ++ out.drop (56 + ids.length * 8), []) := by
  have hbody : Turns (do
      encodePrefix r .jobList
      putU32 48 (UInt32.ofNat ids.length)
      putJobIds 56 ids
      pure (56 + ids.length * 8) : Encoder Nat) (56 + ids.length * 8) 0
      (zeros (56 + ids.length * 8)) (messageText r .jobList (jobListBody ids)) := by
    rw [zeros_add, show zeros 56 = zeros 48 ++ (zeros 4 ++ u32 0) from rfl, List.append_assoc,
      List.append_assoc]
    exact .append (encodePrefix_turns hr .jobList)
      (.append (putU32_turns (by simp) rfl)
        (.bind (.behind (putJobIds_turns hids.2 (by simp))) (.pure _)))
  have hmax : rejectIf (decide (maxLiveJobs < ids.length)) Error.wrongSize = .ok () := by
    rw [decide_eq_false (Nat.not_lt.mpr hids.1), rejectIf_false]
  rw [encodeJobList, hmax]
  exact encode_run hbody hroom

/-! ## Launches -/

theorem putRecords_turns (values : List String) : ∀ {position offset start : Nat},
    position = offset →
      Turns (putRecords position start values) () offset (zeros (values.length * 8))
        (recordsText start values) := by
  induction values with
  | nil => exact fun _ => .pure _
  | cons value rest ih =>
      intro position offset start hat
      rw [show (value :: rest).length * 8 = 4 + (2 + (2 + rest.length * 8)) by
        rw [List.length_cons]; omega, zeros_add, zeros_add, zeros_add, recordsText, recordText,
        List.append_assoc, List.append_assoc]
      refine .append (putU32_turns hat (length_zeros 4))
        (.append (putU16_turns (by rw [length_u32, hat]) (length_zeros 2))
          (.behind (ih ?_)))
      rw [length_u32, length_u16, length_zeros, hat, recordBytes]

theorem putRoles_turns (roles : List StreamRole) : ∀ {position offset : Nat},
    position = offset →
      Turns (putRoles position roles) () offset (zeros (roles.length * 8)) (rolesText roles) := by
  induction roles with
  | nil => exact fun _ => .pure _
  | cons role rest ih =>
      intro position offset hat
      have hcons : rolesText (role :: rest) = u32 role.code ++ (u32 0 ++ rolesText rest) := by
        rw [← List.append_assoc]
        rfl
      rw [show (role :: rest).length * 8 = 4 + (4 + rest.length * 8) by
        rw [List.length_cons]; omega, zeros_add, zeros_add, hcons]
      refine .append (putU32_turns hat (length_zeros 4)) (.behind (ih ?_))
      rw [length_u32, length_zeros, hat, recordBytes]

theorem storeStrings_turns (values : List String) : ∀ {cursor offset : Nat}, cursor = offset →
    Turns (storeStrings cursor values) () offset (zeros (stringsText values).length)
      (stringsText values) := by
  induction values with
  | nil => exact fun _ => .pure _
  | cons value rest ih =>
      intro cursor offset hat
      rw [stringsText_cons, List.length_append, zeros_add]
      exact .append (storeBytes_turns hat (length_zeros _)) (ih (by rw [hat]))

theorem stringArea_length (values : List String) :
    (Loader.stringArea values).length = (stringsText values).length + values.length := by
  induction values with
  | nil => rfl
  | cons value rest ih =>
      rw [Loader.stringArea_cons, stringsText_cons, List.length_append, List.length_append,
        List.length_append, ih, List.length_singleton, List.length_cons]
      omega

theorem totalBytes_eq {values : List String} (h : (stringsText values).length < 2 ^ 64) :
    Loader.totalBytes values = some (stringsText values).length := by
  have hfold : ∀ (values : List String) (start : Nat),
      start + (stringsText values).length < 2 ^ 64 →
        values.foldlM (fun sum value => Loader.checkedAdd sum (utf8 value).length) start =
          some (start + (stringsText values).length) := by
    intro values
    induction values with
    | nil => exact fun _ _ => rfl
    | cons value rest ih =>
        intro start h
        rw [stringsText_cons, List.length_append] at h ⊢
        rw [List.foldlM_cons, Loader.checkedAdd, if_pos (by omega)]
        show rest.foldlM _ (start + (utf8 value).length) = _
        rw [ih _ (by omega), Nat.add_assoc]
  have hall := hfold values 0 (by omega)
  rwa [Nat.zero_add] at hall

theorem zeros_launch (path : String) (argv environment : List String) (streams : Bool) :
    zeros (launchSize path argv environment streams) = zeros 48 ++ (zeros 4 ++ (zeros 4 ++ (zeros 2 ++
      (zeros 2 ++ (zeros 2 ++ (zeros 2 ++ (zeros 4 ++ (u32 0 ++
        (zeros ((argv ++ environment).length * 8) ++ (zeros ((rolesFor streams).length * 8) ++
          (zeros (utf8 path).length ++
            zeros (stringsText (argv ++ environment)).length))))))))))) := by
  rw [← zeros_add, ← zeros_add, ← zeros_add, show u32 0 = zeros 4 from rfl]
  simp only [← zeros_add]
  rw [launchSize, launchFixedBytes, recordBytes, List.length_append]
  exact congrArg zeros (by omega)

variable {argv environment : List String} {streams : Bool}

theorem encodeLaunch_run {path : String} (hr : r.Valid) (hvalid : LaunchValid path argv environment)
    (hroom : launchSize path argv environment streams ≤ out.length) :
    encodeLaunch r path argv environment streams out =
      (.ok (launchSize path argv environment streams),
        messageText r .launch (launchBody path argv environment streams) ++
          out.drop (launchSize path argv environment streams), []) := by
  have hsmall := hvalid.small streams
  have hargv : (argv.isEmpty || decide (maxArgv < argv.length)) = false := by
    have hargv0 := hvalid.argv0
    cases argv with
    | nil => cases hargv0
    | cons first rest => exact decide_eq_false (Nat.not_lt.mpr hvalid.argv_le)
  have htotal := @totalBytes_eq (argv ++ environment) (by omega)
  have hbody : Turns (do
      encodePrefix r .launch
      putU32 48 (UInt32.ofNat (launchSize path argv environment streams))
      putU32 52 (UInt32.ofNat (rolesFor streams).length)
      putU16 56 (UInt16.ofNat (utf8 path).length)
      putU16 58 (UInt16.ofNat argv.length)
      putU16 60 (UInt16.ofNat environment.length)
      putU16 62 (UInt16.ofNat (rolesFor streams).length)
      putU32 64 (UInt32.ofNat (stringsText (argv ++ environment)).length)
      putRecords launchFixedBytes 0 (argv ++ environment)
      putRoles (launchFixedBytes + (argv.length + environment.length) * recordBytes)
        (rolesFor streams)
      storeBytes (launchFixedBytes + (argv.length + environment.length) * recordBytes +
        (rolesFor streams).length * recordBytes) (utf8 path)
      storeStrings (launchFixedBytes + (argv.length + environment.length) * recordBytes +
        (rolesFor streams).length * recordBytes + (utf8 path).length) (argv ++ environment)
      pure (launchSize path argv environment streams) : Encoder Nat)
      (launchSize path argv environment streams) 0 (zeros (launchSize path argv environment streams))
      (messageText r .launch (launchBody path argv environment streams)) := by
    rw [zeros_launch, launchBody, launchCounts, launchTail]
    simp only [List.append_assoc]
    refine .append (encodePrefix_turns hr .launch)
      (.append (putU32_turns (by simp) rfl) (.append (putU32_turns (by simp) rfl)
      (.append (putU16_turns (by simp) rfl) (.append (putU16_turns (by simp) rfl)
      (.append (putU16_turns (by simp) rfl) (.append (putU16_turns (by simp) rfl)
      (.append (putU32_turns (by simp) rfl) (.behind
      (.append (putRecords_turns _ (by simp [launchFixedBytes]))
      (.append (putRoles_turns _ ?_)
      (.append (storeBytes_turns ?_ (length_zeros _))
      (.bind (storeStrings_turns _ ?_) (.pure _)))))))))))))
    all_goals simp [launchFixedBytes, recordBytes]
  rw [encodeLaunch, hvalid.path_ok, hargv, decide_eq_false (Nat.not_lt.mpr hvalid.environment_le),
    hvalid.argv0, validateEnvironment_eq_ok.mpr hvalid.names, htotal]
  simp only [Prog.lift_ok_bind, okOr_some, rejectIf_false, ne_eq, not_true_eq_false, decide_false,
    decide_eq_false (Nat.not_lt.mpr hvalid.strings_le)]
  have hroles : (if streams = true then streamRoles else []) = rolesFor streams := rfl
  have hsize : launchFixedBytes + (argv.length + environment.length) * recordBytes
    + (rolesFor streams).length * recordBytes + (utf8 path).length
    + (stringsText (argv ++ environment)).length =
      launchSize path argv environment streams := rfl
  rw [hroles, hsize]
  exact encode_run hbody hroom

/-! ## What success says

An encoder that returns a size has checked its content, the identities and
the room. -/

section Success

variable {α β : Type} {s s' : List UInt8} {b : β} {w : List Empty} {f : Unit → Encoder β}

theorem requireRoom_bind_eq_ok
    (h : (requireRoom size >>= f) s = (.ok b, s', w)) : size ≤ s.length := by
  obtain ⟨_, s₁, w₁, w₂, hroom, -, -⟩ := Prog.bind_run_eq_ok h
  have hget : requireRoom size s = (rejectIf (decide (s.length < size)) .wrongSize, s, []) := rfl
  rw [hget] at hroom
  have hcheck := congrArg Prod.fst hroom
  rw [rejectIf_eq_ok, decide_eq_false_iff_not] at hcheck
  omega

theorem encodePrefix_valid {kind : MessageType} {u : Unit}
    (h : encodePrefix r kind s = (.ok u, s', w)) : r.Valid := by
  obtain ⟨_, s₁, _, _, -, h₁, -⟩ := Prog.bind_run_eq_ok h
  obtain ⟨_, s₂, _, _, henvelope, -, -⟩ := Prog.bind_run_eq_ok h₁
  obtain ⟨_, s₃, _, _, -, h₃, -⟩ := Prog.bind_run_eq_ok henvelope
  obtain ⟨_, hcheck, -⟩ := Prog.lift_bind_eq_ok h₃
  rw [rejectIf_eq_ok] at hcheck
  simpa [Reservation.Valid, and_assoc] using hcheck

theorem framed_ok {kind : MessageType}
    (h : (do requireRoom size; clear size; encodePrefix r kind >>= f : Encoder β) s =
      (.ok b, s', w)) :
    size ≤ s.length ∧ r.Valid ∧ ∃ s₁ w₁, f () s₁ = (.ok b, s', w₁) := by
  refine ⟨requireRoom_bind_eq_ok h, ?_⟩
  obtain ⟨_, s₁, _, _, -, h₁, -⟩ := Prog.bind_run_eq_ok h
  obtain ⟨_, s₂, _, _, -, h₂, -⟩ := Prog.bind_run_eq_ok h₁
  obtain ⟨_, s₃, _, w₃, hfront, h₃, -⟩ := Prog.bind_run_eq_ok h₂
  exact ⟨encodePrefix_valid hfront, s₃, w₃, h₃⟩

theorem putJobIds_valid {ids : List UInt64} : ∀ {position : Nat} {s : List UInt8} {w : List Empty}
    {u : Unit}, putJobIds position ids s = (.ok u, s', w) → ∀ id ∈ ids, id ≠ 0 := by
  induction ids with
  | nil => exact fun _ _ h => nomatch h
  | cons id rest ih =>
      intro position s w u h v hv
      obtain ⟨_, hid, h₁⟩ := Prog.lift_bind_eq_ok h
      obtain ⟨_, s₂, _, _, -, h₂, -⟩ := Prog.bind_run_eq_ok h₁
      rcases List.mem_cons.mp hv with rfl | hv
      · exact (nonzero_eq_ok.mp hid).1
      · exact ih h₂ v hv

theorem encodeLaunch_valid {path : String}
    {n : Nat} (h : encodeLaunch r path argv environment streams s = (.ok n, s', w)) :
    r.Valid ∧ LaunchValid path argv environment ∧
      launchSize path argv environment streams ≤ s.length := by
  obtain ⟨_, hpath, h₁⟩ := Prog.lift_bind_eq_ok h
  obtain ⟨_, hargv, h₂⟩ := Prog.lift_bind_eq_ok h₁
  obtain ⟨_, henvironment, h₃⟩ := Prog.lift_bind_eq_ok h₂
  obtain ⟨_, hargv0, h₄⟩ := Prog.lift_bind_eq_ok h₃
  obtain ⟨_, hnames, h₅⟩ := Prog.lift_bind_eq_ok h₄
  obtain ⟨stringBytes, htotal, h₆⟩ := Prog.lift_bind_eq_ok h₅
  obtain ⟨_, hstrings, h₇⟩ := Prog.lift_bind_eq_ok h₆
  obtain ⟨hroom, hr, -⟩ := framed_ok h₇
  simp only [rejectIf_eq_ok, Bool.or_eq_false_iff, decide_eq_false_iff_not, not_not, ne_eq]
    at hargv henvironment hargv0 hstrings
  have hlength := Loader.totalBytes_eq_some (okOr_eq_ok.mp htotal)
  rw [stringArea_length, Nat.add_right_cancel_iff] at hlength
  refine ⟨hr, ⟨hpath, hargv0, Nat.not_lt.mp hargv.2, Nat.not_lt.mp henvironment, ?_,
    validateEnvironment_eq_ok.mp hnames⟩, ?_⟩
  · rw [hlength]
    exact Nat.not_lt.mp hstrings
  · rw [launchSize, hlength]
    exact hroom

end Success

end Wyrmroot.Wrlj
