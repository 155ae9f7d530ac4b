import Wyrmroot.Loader.InitText

/-!
# Parsing an INIT

The parsers against the text of a message. No parser panics, whatever it is
given (`parseInit_ne_panic`, `parseReady_ne_panic`): the length test comes
before the first read. On the text of a profile, a parser succeeds just when
it is for the same version, size and roles and the received handles are what
its capabilities ask for (`parseInit_initText`).
-/

namespace Wyrmroot.Loader

open Outcome

/-! ## No panic -/

theorem getU64_ne_panic {bytes : List UInt8} {offset : Nat} (h : offset + 8 ≤ bytes.length) :
    getU64 bytes offset ≠ .panic := by
  rw [getU64, getLE_ok h]
  exact nofun

theorem parseHeader_ne_panic (bytes : List UInt8) (messageType minor capabilities : Nat)
    {size : Nat} (hsize : headerBytes ≤ size) :
    parseHeader bytes messageType minor size capabilities ≠ .panic := by
  refine bind_ne_panic (rejectIf_ne_panic _ _) fun u hu => ?_
  have hlen : 40 ≤ bytes.length := by
    have h := rejectIf_eq_ok.mp hu
    simp only [ne_eq, decide_not, Bool.not_eq_false', decide_eq_true_eq] at h
    exact h ▸ hsize
  iterate 16 first
    | refine bind_ne_panic (sliceAt_ne_panic (by omega)) fun _ _ => ?_
    | refine bind_ne_panic (rejectIf_ne_panic _ _) fun _ _ => ?_
    | refine bind_ne_panic (getLE_ne_panic (by omega)) fun _ _ => ?_
    | refine bind_ne_panic (getU64_ne_panic (by omega)) fun _ _ => ?_
  exact bind_ne_panic (rejectIf_ne_panic _ _) fun _ _ => nofun

theorem parseHeader_length {bytes : List UInt8} {messageType minor size capabilities : Nat}
    {transactionId : UInt64}
    (h : parseHeader bytes messageType minor size capabilities = .ok transactionId) :
    bytes.length = size := by
  obtain ⟨_, hlen, _⟩ := bind_eq_ok.mp h
  simpa [rejectIf_eq_ok] using hlen

theorem parseReady_ne_panic (profile : LaunchProfile) (bytes : List UInt8)
    (transactionId : UInt64) : parseReadyForProfile profile bytes transactionId ≠ .panic :=
  bind_ne_panic (parseHeader_ne_panic _ _ _ _ le_rfl) fun _ _ => rejectIf_ne_panic _ _

theorem checkCapability_ne_panic {bytes : List UInt8} {handles : List ReceivedHandleInfo}
    {index : Nat} (hbytes : headerBytes + index * 8 + 8 ≤ bytes.length)
    (hhandles : index < handles.length) (expected : Capability) :
    checkCapability bytes handles index expected ≠ .panic := by
  refine bind_ne_panic (getLE_ne_panic (by omega)) fun _ _ => ?_
  refine bind_ne_panic (getLE_ne_panic (by omega)) fun _ _ => ?_
  refine bind_ne_panic (rejectIf_ne_panic _ _) fun _ _ => ?_
  rw [List.getElem?_eq_getElem hhandles]
  exact rejectIf_ne_panic _ _

theorem checkCapabilities_ne_panic {bytes : List UInt8} {handles : List ReceivedHandleInfo}
    (expected : List Capability) :
    ∀ {index : Nat}, headerBytes + (index + expected.length) * 8 ≤ bytes.length →
      index + expected.length ≤ handles.length →
        checkCapabilities bytes handles index expected ≠ .panic := by
  induction expected with
  | nil => exact fun _ _ => nofun
  | cons c rest ih =>
      intro index hbytes hhandles
      rw [List.length_cons] at hbytes hhandles
      refine bind_ne_panic (checkCapability_ne_panic (by omega) (by omega) c) fun _ _ => ?_
      exact ih (by omega) (by omega)

theorem getWords_ne_panic {bytes : List UInt8} (count : Nat) :
    ∀ {offset : Nat}, offset + count * 8 ≤ bytes.length → getWords bytes offset count ≠ .panic := by
  induction count with
  | zero => exact fun _ => nofun
  | succ count ih =>
      intro offset h
      refine bind_ne_panic (getU64_ne_panic (by omega)) fun _ _ => ?_
      exact bind_ne_panic (ih (by omega)) fun _ _ => nofun

/-- `parse_init` itself looks at the correlation words of one profile. -/
def checkShellWords (profile : LaunchProfile) (bytes : List UInt8) : Launch Unit :=
  if profile = .wyrmsh then do
    let correlations ← getWords bytes 88 9
    rejectIf (correlations.contains 0) .zeroTransaction
  else pure ()

theorem parseCapabilities_eq (profile : LaunchProfile) (bytes : List UInt8)
    (handles : List ReceivedHandleInfo) :
    parseCapabilities profile bytes handles =
      (do
        checkCapabilities bytes handles 0 profile.capabilities
        checkShellWords profile bytes) := by
  have hunit : ∀ m : Launch Unit, (m >>= fun _ => .ok ()) = m := fun m => by cases m <;> rfl
  have hassoc : ∀ (l m n : Launch Unit),
      ((l >>= fun _ => m) >>= fun _ => n) = l >>= fun _ => m >>= fun _ => n :=
    fun l m n => by cases l <;> rfl
  cases profile <;> simp [parseCapabilities, checkShellWords, checkCapabilities,
    LaunchProfile.capabilities, LaunchProfile.hasLoaderAuthorityTrio,
    LaunchProfile.hasLoaderAuthorityQuartet, LaunchProfile.needsSelfRoot,
    LaunchProfile.channelRole, hunit, hassoc]

theorem LaunchProfile.headerBytes_le_initSize (profile : LaunchProfile) :
    headerBytes ≤ profile.initSize := by
  rw [LaunchProfile.initSize_eq]
  exact Nat.le_add_right _ _

theorem checkShellWords_ne_panic {profile : LaunchProfile} {bytes : List UInt8}
    (h : bytes.length = profile.initSize) : checkShellWords profile bytes ≠ .panic := by
  unfold checkShellWords
  by_cases hp : profile = .wyrmsh
  · rw [if_pos hp]
    have hlen : 88 + 9 * 8 ≤ bytes.length := by
      rw [h, hp]
      decide
    exact bind_ne_panic (getWords_ne_panic 9 hlen) fun _ _ => rejectIf_ne_panic _ _
  · rw [if_neg hp]
    exact nofun

theorem parseInit_ne_panic (profile : LaunchProfile) (bytes : List UInt8)
    (handles : List ReceivedHandleInfo) : parseInit profile bytes handles ≠ .panic := by
  refine bind_ne_panic (parseHeader_ne_panic _ _ _ _ profile.headerBytes_le_initSize)
    fun _ hheader => ?_
  have hlen := parseHeader_length hheader
  refine bind_ne_panic (rejectIf_ne_panic _ _) fun _ hhandles => ?_
  simp only [rejectIf_eq_ok, ne_eq, decide_not, Bool.not_eq_false', decide_eq_true_eq] at hhandles
  have hsize := LaunchProfile.initSize_eq profile
  have hcount := profile.capabilities_length
  rw [parseCapabilities_eq]
  refine bind_ne_panic (bind_ne_panic (checkCapabilities_ne_panic _ ?_ ?_) fun _ _ => ?_)
    fun _ _ => nofun
  · omega
  · omega
  · exact checkShellWords_ne_panic hlen

/-! ## The header -/

@[simp] theorem magic_length : magic.length = 4 := rfl

variable {rest : List UInt8}

theorem getU64_word {w : UInt64} :
    getU64 (leBytes 8 w.toNat ++ rest) 0 = .ok w := by
  rw [getU64, getLE_leBytes w.toNat_lt, Outcome.ok_bind, UInt64.ofNat_toNat]
  rfl

theorem getU64_append_right {part : List UInt8} {offset : Nat} (h : part.length ≤ offset) :
    getU64 (part ++ rest) offset = getU64 rest (offset - part.length) := by
  rw [getU64, getLE_append_right h]
  rfl

theorem parseHeader_text {minor messageType totalSize capabilities : Nat} {transactionId : UInt64}
    (hminor : minor < 256 ^ 2) (htype : messageType < 256 ^ 4)
    (hsize : totalSize < 256 ^ 4) (hcaps : capabilities < 256 ^ 4)
    (expectedType expectedMinor expectedSize expectedCapabilities : Nat) :
    parseHeader (headerText minor messageType totalSize capabilities transactionId ++ rest)
        expectedType expectedMinor expectedSize expectedCapabilities =
      (do
        rejectIf (headerBytes + rest.length ≠ expectedSize) .bufferSize
        rejectIf (minor ≠ expectedMinor) .badVersion
        rejectIf (messageType ≠ expectedType) .badType
        rejectIf (totalSize ≠ expectedSize) .badTotalSize
        rejectIf (capabilities ≠ expectedCapabilities) .badCapabilityCount
        rejectIf (transactionId = 0) .zeroTransaction
        pure transactionId) := by
  have hlen : (headerText minor messageType totalSize capabilities transactionId ++ rest).length =
      headerBytes + rest.length := by simp
  have hzero : getU64 (leBytes 8 0 ++ rest) 0 = .ok 0 := getU64_word (w := 0)
  unfold parseHeader
  rw [hlen]
  simp (disch := first | decide | assumption | simp) only [headerText, List.append_assoc,
    getLE_append_right, getLE_leBytes, sliceAt_append_left, length_leBytes, magic_length,
    getU64_append_right, getU64_word, Nat.reduceSub, ok_bind, ne_eq, not_true_eq_false,
    decide_false, rejectIf_false, hzero, Bool.false_or]

theorem parseHeader_text_eq_ok {minor messageType totalSize capabilities : Nat}
    {transactionId found : UInt64} (hminor : minor < 256 ^ 2)
    (htype : messageType < 256 ^ 4) (hsize : totalSize < 256 ^ 4) (hcaps : capabilities < 256 ^ 4)
    {expectedType expectedMinor expectedSize expectedCapabilities : Nat} :
    parseHeader (headerText minor messageType totalSize capabilities transactionId ++ rest)
        expectedType expectedMinor expectedSize expectedCapabilities = .ok found ↔
      headerBytes + rest.length = expectedSize ∧ minor = expectedMinor ∧
        messageType = expectedType ∧ totalSize = expectedSize ∧
        capabilities = expectedCapabilities ∧ transactionId ≠ 0 ∧ transactionId = found := by
  rw [parseHeader_text hminor htype hsize hcaps]
  simp [bind_eq_ok, rejectIf_eq_ok]

/-! ## The capabilities -/

/-- A received handle is what a capability promises. -/
structure Grants (expected : Capability) (handle : ReceivedHandleInfo) : Prop where
  live : handle.handle ≠ 0
  objectType : handle.objectType = expected.objectType
  rights : handle.rights = expected.rights
  reserved0 : handle.reserved0 = 0
  reserved : handle.reserved = [0, 0]

theorem validateHandle_eq_ok {handle : ReceivedHandleInfo} {expected : Capability} {index : Nat}
    {u : Unit} :
    validateHandle handle expected.objectType expected.rights index = .ok u ↔
      Grants expected handle := by
  rw [validateHandle, rejectIf_eq_ok]
  simp only [ne_eq, Bool.or_eq_false_iff, decide_eq_false_iff_not, not_not]
  constructor
  · intro h
    obtain ⟨⟨⟨⟨h₁, h₂⟩, h₃⟩, h₄⟩, h₅⟩ := h
    exact ⟨h₁, h₂, h₃, h₄, h₅⟩
  · intro h
    exact ⟨⟨⟨⟨h.live, h.objectType⟩, h.rights⟩, h.reserved0⟩, h.reserved⟩

theorem checkCapability_record {before : List UInt8} {handles : List ReceivedHandleInfo}
    {index role : Nat} (hbefore : before.length = headerBytes + index * 8)
    (hrole : role < 256 ^ 4) {expected : Capability} {u : Unit} :
    checkCapability (before ++ ((leBytes 4 role ++ leBytes 4 0) ++ rest)) handles index expected =
        .ok u ↔
      role = expected.role ∧ ∃ h, handles[index]? = some h ∧ Grants expected h := by
  have hfirst : (getLE 4 (before ++ ((leBytes 4 role ++ leBytes 4 0) ++ rest))
      (headerBytes + index * 8) : Launch Nat) = .ok role := by
    rw [getLE_append_right hbefore.le, hbefore, Nat.sub_self, List.append_assoc,
      getLE_leBytes hrole]
  have hsecond : (getLE 4 (before ++ ((leBytes 4 role ++ leBytes 4 0) ++ rest))
      (headerBytes + index * 8 + 4) : Launch Nat) = .ok 0 := by
    rw [getLE_append_right (by omega), hbefore, Nat.add_sub_cancel_left, List.append_assoc,
      getLE_append_right (by simp), length_leBytes, Nat.sub_self, getLE_leBytes (by decide)]
  unfold checkCapability
  rw [hfirst, ok_bind, hsecond, ok_bind, bind_eq_ok]
  simp only [rejectIf_eq_ok, ne_eq, not_true_eq_false, decide_false, Bool.or_false,
    decide_eq_false_iff_not, not_not]
  cases hh : handles[index]? with
  | none => simp
  | some h => simp [validateHandle_eq_ok]

theorem checkCapabilities_records {handles : List ReceivedHandleInfo} (expected : List Capability) :
    ∀ {before rest : List UInt8} {index : Nat} {sent : List Capability} {u : Unit},
      before.length = headerBytes + index * 8 → (∀ c ∈ sent, c.role < 256 ^ 4) →
      sent.length = expected.length → handles.length = index + expected.length →
      (checkCapabilities (before ++ (recordsText sent ++ rest)) handles index expected = .ok u ↔
        sent.map (·.role) = expected.map (·.role) ∧
          List.Forall₂ Grants expected (handles.drop index)) := by
  induction expected with
  | nil =>
      intro before rest index sent u hbefore hrole hlen hhandles
      obtain rfl := List.length_eq_zero_iff.mp hlen
      have hnil : handles.drop index = [] := List.drop_eq_nil_of_le (by simp [hhandles])
      simp [checkCapabilities, hnil]
  | cons e expected ih =>
      intro before rest index sent u hbefore hrole hlen hhandles
      obtain ⟨c, sent, rfl⟩ := List.exists_cons_of_length_eq_add_one hlen
      rw [List.length_cons] at hhandles
      have hindex : index < handles.length := by omega
      have hsplit : before ++ (recordsText (c :: sent) ++ rest) =
          before ++ ((leBytes 4 c.role ++ leBytes 4 0) ++ (recordsText sent ++ rest)) := by
        simp [recordsText]
      have hnext : before ++ (recordsText (c :: sent) ++ rest) =
          (before ++ (leBytes 4 c.role ++ leBytes 4 0)) ++ (recordsText sent ++ rest) := by
        rw [hsplit, List.append_assoc before]
      have hrest := @ih (before ++ (leBytes 4 c.role ++ leBytes 4 0)) rest (index + 1) sent u
        (by simp; omega) (fun x hx => hrole x (.tail _ hx)) (by simpa using hlen) (by omega)
      have hdrop : handles.drop index = handles.get ⟨index, hindex⟩ :: handles.drop (index + 1) :=
        List.drop_eq_getElem_cons hindex
      rw [checkCapabilities, bind_eq_ok, hdrop, List.forall₂_cons]
      rw [← hnext] at hrest
      rw [hrest]
      constructor
      · intro h
        obtain ⟨_, hfirst, hroles, hgrants⟩ := h
        rw [hsplit, checkCapability_record hbefore (hrole c (.head _))] at hfirst
        obtain ⟨hc, g, hg, hgrant⟩ := hfirst
        rw [List.getElem?_eq_getElem hindex] at hg
        obtain rfl := Option.some.inj hg
        exact ⟨by simp [hc, hroles], hgrant, hgrants⟩
      · intro h
        obtain ⟨hroles, hgrant, hgrants⟩ := h
        obtain ⟨hc, hroles⟩ := List.cons.inj hroles
        refine ⟨(), ?_, hroles, hgrants⟩
        rw [hsplit, checkCapability_record hbefore (hrole c (.head _))]
        exact ⟨hc, _, List.getElem?_eq_getElem hindex, hgrant⟩

/-! ## Whole messages -/

theorem getWords_words (words : List UInt64) :
    ∀ {before rest : List UInt8} {offset : Nat}, before.length = offset →
      getWords (before ++ (wordsText words ++ rest)) offset words.length = .ok words := by
  induction words with
  | nil => exact fun _ => rfl
  | cons w words ih =>
      intro before rest offset hbefore
      have hnext : before ++ (wordsText (w :: words) ++ rest) =
          (before ++ leBytes 8 w.toNat) ++ (wordsText words ++ rest) := by
        simp [wordsText]
      have hfirst : getU64 (before ++ (wordsText (w :: words) ++ rest)) offset = .ok w := by
        rw [hnext, List.append_assoc, getU64_append_right hbefore.le, hbefore, Nat.sub_self,
          getU64_word]
      rw [List.length_cons, getWords, hfirst, ok_bind, hnext,
        ih (by simp [hbefore]), ok_bind]
      rfl

/-- Where the correlation words of a profile begin. -/
def LaunchProfile.wordOffset (profile : LaunchProfile) : Nat :=
  headerBytes + (profile.capabilities.length * 8 + profile.padding)

theorem getWords_initText (profile : LaunchProfile) (transactionId : UInt64) (words : List UInt64) :
    getWords (initText profile transactionId words) profile.wordOffset words.length =
      .ok words := by
  have hsplit : initText profile transactionId words =
      (headerText profile.protocolMinor typeInit profile.initSize profile.capabilityCount
        transactionId ++ (recordsText profile.capabilities ++
          List.replicate profile.padding 0)) ++ (wordsText words ++ []) := by
    simp [initText]
  rw [hsplit]
  exact getWords_words words (by simp [LaunchProfile.wordOffset])

/-- The roles of the capabilities of a profile. -/
def LaunchProfile.roles (profile : LaunchProfile) : List Nat :=
  profile.capabilities.map (·.role)

theorem LaunchProfile.role_lt (profile : LaunchProfile) :
    ∀ c ∈ profile.capabilities, c.role < 256 ^ 4 := by
  cases profile <;> decide

theorem LaunchProfile.minor_lt (profile : LaunchProfile) : profile.protocolMinor < 256 ^ 2 := by
  cases profile <;> decide

theorem LaunchProfile.size_lt (profile : LaunchProfile) : profile.initSize < 256 ^ 4 := by
  cases profile <;> decide

theorem LaunchProfile.count_lt (profile : LaunchProfile) :
    profile.capabilityCount < 256 ^ 4 := by
  cases profile <;> decide

theorem parseHeader_initText {p q : LaunchProfile} {transactionId found : UInt64}
    {words : List UInt64} (hcount : words.length = p.wordCount) :
    parseHeader (initText p transactionId words) typeInit q.protocolMinor q.initSize
        q.capabilityCount = .ok found ↔
      p.protocolMinor = q.protocolMinor ∧ p.initSize = q.initSize ∧
        p.capabilityCount = q.capabilityCount ∧ transactionId ≠ 0 ∧ transactionId = found := by
  have hsize : headerBytes + (recordsText p.capabilities ++ (List.replicate p.padding 0 ++
      wordsText words)).length = p.initSize := by
    simp only [List.length_append, recordsText_length, List.length_replicate, wordsText_length,
      hcount]
    exact (LaunchProfile.initSize_eq p).symm
  rw [initText, parseHeader_text_eq_ok p.minor_lt (by decide) p.size_lt p.count_lt, hsize]
  constructor
  · intro h
    obtain ⟨-, hminor, -, hsize, hcaps, htx, hfound⟩ := h
    exact ⟨hminor, hsize, hcaps, htx, hfound⟩
  · intro h
    obtain ⟨hminor, hsize, hcaps, htx, hfound⟩ := h
    exact ⟨hsize, hminor, rfl, hsize, hcaps, htx, hfound⟩

theorem parseInit_initText {profile : LaunchProfile} {transactionId : UInt64}
    {words : List UInt64} {handles : List ReceivedHandleInfo} (htx : transactionId ≠ 0)
    (hcount : words.length = profile.wordCount) (hwords : words.contains 0 = false)
    (hhandles : List.Forall₂ Grants profile.capabilities handles) :
    parseInit profile (initText profile transactionId words) handles =
      .ok { transactionId, profile } := by
  have hlen : handles.length = profile.capabilityCount := by
    rw [← hhandles.length_eq, profile.capabilities_length]
  have hheader := (parseHeader_initText (q := profile) hcount).mpr ⟨rfl, rfl, rfl, htx, rfl⟩
  have hrecords : checkCapabilities (initText profile transactionId words) handles 0
      profile.capabilities = .ok () := by
    rw [initText, checkCapabilities_records profile.capabilities (by simp) profile.role_lt rfl
      (by simp [hlen, profile.capabilities_length])]
    exact ⟨rfl, hhandles⟩
  have hshell : checkShellWords profile (initText profile transactionId words) = .ok () := by
    unfold checkShellWords
    by_cases hp : profile = .wyrmsh
    · rw [if_pos hp]
      have hread := getWords_initText profile transactionId words
      rw [hcount, hp] at hread
      have hread : getWords (initText .wyrmsh transactionId words) 88 9 = .ok words := hread
      rw [hp, hread, ok_bind, hwords]
      rfl
    · rw [if_neg hp]
      rfl
  unfold parseInit
  rw [hheader, ok_bind, hlen, parseCapabilities_eq, hrecords, ok_bind, hshell]
  simp

/-- A parser that accepts the text of a profile is for one that looks the
same on the wire. -/
theorem wire_of_parseInit {p q : LaunchProfile} {transactionId : UInt64} {words : List UInt64}
    {handles : List ReceivedHandleInfo} {parsed : ParsedMessage}
    (hcount : words.length = p.wordCount)
    (h : parseInit q (initText p transactionId words) handles = .ok parsed) :
    p.protocolMinor = q.protocolMinor ∧ p.initSize = q.initSize ∧ p.roles = q.roles := by
  obtain ⟨found, hheader, h⟩ := bind_eq_ok.mp h
  obtain ⟨hminor, hsize, hcaps, -, -⟩ := (parseHeader_initText hcount).mp hheader
  obtain ⟨_, hhandles, h⟩ := bind_eq_ok.mp h
  simp only [rejectIf_eq_ok, ne_eq, decide_not, Bool.not_eq_false', decide_eq_true_eq] at hhandles
  obtain ⟨_, h, -⟩ := bind_eq_ok.mp h
  rw [parseCapabilities_eq] at h
  obtain ⟨_, h, -⟩ := bind_eq_ok.mp h
  have hp := p.capabilities_length
  have hq := q.capabilities_length
  rw [initText, checkCapabilities_records q.capabilities (by simp) p.role_lt (by omega)
    (by omega)] at h
  exact ⟨hminor, hsize, h.1⟩

end Wyrmroot.Loader
