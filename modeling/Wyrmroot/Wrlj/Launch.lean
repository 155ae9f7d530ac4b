import Wyrmroot.Wrlj.Records

/-!
# What `parse_launch` reads

The body of a launch is seven counts, the record table, the stream roles,
the path and the strings. `parse_launch` recomputes every boundary from the
counts; what it accepts is the body of one path, argument vector and
environment (`parseLaunch_eq_ok`).
-/

namespace Wyrmroot.Wrlj

open Outcome
open Startup (NamesOk)

variable {bytes : List UInt8}

/-! ## The text of a launch -/

def rolesFor (streams : Bool) : List StreamRole := if streams then streamRoles else []

def rolesText (roles : List StreamRole) : List UInt8 :=
  roles.flatMap fun role => u32 role.code ++ u32 0

@[simp] theorem length_rolesText (roles : List StreamRole) :
    (rolesText roles).length = roles.length * 8 := by
  induction roles with
  | nil => rfl
  | cons role rest ih =>
      have hcons : rolesText (role :: rest) = (u32 role.code ++ u32 0) ++ rolesText rest := rfl
      rw [hcons, List.length_append, ih, List.length_append, length_u32, length_u32, List.length_cons]
      omega

def launchSize (path : String) (argv environment : List String) (streams : Bool) : Nat :=
  launchFixedBytes + (argv.length + environment.length) * recordBytes
    + (rolesFor streams).length * recordBytes + (utf8 path).length
    + (stringsText (argv ++ environment)).length

def launchCounts (path : String) (argv environment : List String) (streams : Bool) : List UInt8 :=
  u32 (UInt32.ofNat (launchSize path argv environment streams)) ++
    (u32 (UInt32.ofNat (rolesFor streams).length) ++ (u16 (UInt16.ofNat (utf8 path).length) ++
      (u16 (UInt16.ofNat argv.length) ++ (u16 (UInt16.ofNat environment.length) ++
        (u16 (UInt16.ofNat (rolesFor streams).length) ++
          (u32 (UInt32.ofNat (stringsText (argv ++ environment)).length) ++ u32 0))))))

def launchTail (path : String) (argv environment : List String) (streams : Bool) : List UInt8 :=
  recordsText 0 (argv ++ environment) ++ (rolesText (rolesFor streams) ++
    (utf8 path ++ stringsText (argv ++ environment)))

def launchBody (path : String) (argv environment : List String) (streams : Bool) : List UInt8 :=
  launchCounts path argv environment streams ++ launchTail path argv environment streams

@[simp] theorem length_launchCounts (path : String) (argv environment : List String)
    (streams : Bool) : (launchCounts path argv environment streams).length = 24 := by
  simp [launchCounts]

theorem length_launchBody (path : String) (argv environment : List String) (streams : Bool) :
    48 + (launchBody path argv environment streams).length =
      launchSize path argv environment streams := by
  simp only [launchBody, launchTail, launchSize, List.length_append, length_launchCounts,
    length_recordsText, length_rolesText, launchFixedBytes, recordBytes]
  omega

/-- What the encoder checks of a launch. -/
structure LaunchValid (path : String) (argv environment : List String) : Prop where
  path_ok : validatePath path = .ok ()
  argv0 : argv.head? = some path
  argv_le : argv.length ≤ maxArgv
  environment_le : environment.length ≤ maxEnvironment
  strings_le : (stringsText (argv ++ environment)).length ≤ maxStringBytes
  names : NamesOk (environment.map utf8)

/-- What the parser hands out for it. -/
def launchRequest (path : String) (argv environment : List String) (streams : Bool) :
    LaunchRequest where
  path := path
  argv := ⟨recordsText 0 argv, stringsText (argv ++ environment), argv.length⟩
  environment :=
    ⟨recordsText (stringsText argv).length environment, stringsText (argv ++ environment),
      environment.length⟩
  streamCount := (rolesFor streams).length

/-! ## Parts of the parser -/

theorem checkStreamRoles_eq_ok {roles : List StreamRole} {u : Unit} : ∀ {offset : Nat},
    offset ≤ bytes.length →
      (checkStreamRoles bytes offset roles = .ok u ↔ Has bytes offset (rolesText roles)) := by
  induction roles with
  | nil => exact fun h => iff_of_true rfl (slice_isSome h)
  | cons role rest ih =>
      intro offset h
      have hcons : rolesText (role :: rest) = (u32 role.code ++ u32 0) ++ rolesText rest := rfl
      simp only [checkStreamRoles, hcons, has_append, List.length_append, length_u32, bind_eq_ok,
        readU32_eq_ok, rejectIf_eq_ok, decide_eq_false_iff_not, not_not, ne_eq, exists_const]
      constructor
      · rintro ⟨_, hcode, rfl, _, hzero, rfl, hrest⟩
        have hlen := has_length hzero
        rw [length_u32] at hlen
        exact ⟨⟨hcode, hzero⟩, (ih hlen).mp hrest⟩
      · rintro ⟨⟨hcode, hzero⟩, hrest⟩
        have hlen := has_length hzero
        rw [length_u32] at hlen
        exact ⟨_, hcode, rfl, _, hzero, rfl, (ih hlen).mpr hrest⟩

theorem validatePath_length {path : String} (h : validatePath path = .ok ()) :
    (utf8 path).length ≤ maxPathBytes := by
  obtain ⟨_, hfirst, -⟩ := bind_eq_ok.mp h
  rw [rejectIf_eq_ok] at hfirst
  simp only [Bool.or_eq_false_iff, decide_eq_false_iff_not] at hfirst
  omega

theorem launchRequest_get {path : String} {argv environment : List String} {streams : Bool}
    (hshort : Short (argv ++ environment))
    (hsmall : (stringsText (argv ++ environment)).length < 2 ^ 32) :
    (∀ i, (launchRequest path argv environment streams).arg i = .ok argv[i]?) ∧
      ∀ i, (launchRequest path argv environment streams).environmentEntry i =
        .ok environment[i]? := by
  have hboth := (@has_whole (stringsText (argv ++ environment)) _).mpr rfl
  rw [stringsText_append, has_append] at hboth
  refine ⟨fun i => get_records ?_ hsmall (fun v hv => hshort v (List.mem_append_left _ hv)) i,
    fun i => get_records ?_ hsmall (fun v hv => hshort v (List.mem_append_right _ hv)) i⟩
  · rw [stringsText_append]
    exact hboth.1.1
  · rw [stringsText_append]
    simpa using hboth.1.2

variable {n : Nat}

theorem eq_u32 {v : UInt32} (h : v.toNat = n) : v = UInt32.ofNat n := by
  rw [← h, UInt32.ofNat_toNat]

theorem eq_u16 {v : UInt16} (h : v.toNat = n) : v = UInt16.ofNat n := by
  rw [← h, UInt16.ofNat_toNat]

theorem parseLaunch_sound {handles : Nat} {request : LaunchRequest}
    (h : parseLaunch bytes handles = .ok request) : ∃ path argv environment streams,
      request = launchRequest path argv environment streams ∧ handles = (rolesFor streams).length ∧
        LaunchValid path argv environment ∧
          Has bytes 48 (launchBody path argv environment streams) ∧
            bytes.length = 48 + (launchBody path argv environment streams).length := by
  simp only [parseLaunch, bind_eq_ok, readU32_eq_ok, readU16_eq_ok, requireHandles_eq_ok,
    rejectIf_eq_ok, sliceAt_eq_ok, sliceFrom_eq_ok, okOr_eq_ok, fromUtf8_eq_some,
    Bool.or_eq_false_iff, decide_eq_false_iff_not, not_not, ne_eq, Outcome.pure_eq,
    Outcome.ok.injEq, exists_const] at h
  simp only [recordBytes, launchFixedBytes] at h
  obtain ⟨-, total, htotal, hsize, declared, hdeclared, rfl, pathLen, hpathLen, argc, hargc, envc,
    henvc, streamc, hstreamc, stringBytes, hstringBytes, _, hzero, rfl, ⟨hargcMin, hargcMax⟩,
    henvcMax, ⟨hstream, hstreamDeclared⟩, hstringsMax, hend, _, hroles, _, ⟨hpath, hpathLength⟩,
    path, rfl, _, hvalidate, allRecords, ⟨hall, hallLen⟩, strings, ⟨hstrings, hstringsEnd⟩, _,
    hrecords, argvRecords, ⟨hargvRecords, hargvLen⟩, environmentRecords,
    ⟨henvironmentRecords, henvironmentEnd⟩, _, hfirst, rfl, _, hnames, rfl⟩ := h
  obtain ⟨values, hvalues, hshort, rfl, rfl⟩ := (validateRecords_eq_ok hallLen).mp hrecords
  obtain ⟨argv, environment, rfl, hargv⟩ : ∃ argv environment, values = argv ++ environment ∧
      argv.length = argc.toNat :=
    ⟨values.take argc.toNat, values.drop argc.toNat, (List.take_append_drop _ _).symm,
      by rw [List.length_take]; omega⟩
  have henvironment : environment.length = envc.toNat := by
    rw [List.length_append] at hvalues
    omega
  obtain ⟨streams, hstreams⟩ : ∃ streams, streamc.toNat = (rolesFor streams).length := by
    rw [Bool.and_eq_false_iff, decide_eq_false_iff_not, decide_eq_false_iff_not, not_not,
      not_not] at hstream
    rcases hstream with h | h
    · exact ⟨false, h⟩
    · exact ⟨true, h⟩
  have hcut : argvRecords = recordsText 0 argv ∧
      environmentRecords = recordsText (stringsText argv).length environment := by
    have hwhole := (@has_whole (recordsText 0 (argv ++ environment)) _).mpr rfl
    rw [recordsText_append, has_append, length_recordsText, Nat.zero_add, Nat.zero_add] at hwhole
    rw [recordsText_append, Nat.zero_add] at hargvRecords henvironmentRecords henvironmentEnd
    rw [List.length_append, length_recordsText, length_recordsText] at henvironmentEnd
    rw [← hargv] at hargvLen henvironmentRecords henvironmentEnd
    refine ⟨has_unique hargvRecords hwhole.1.1 ?_, has_unique henvironmentRecords hwhole.1.2 ?_⟩
    · rw [hargvLen, length_recordsText]
    · rw [length_recordsText]
      omega
  obtain ⟨rfl, rfl⟩ := hcut
  have hstringsLen : (stringsText (argv ++ environment)).length = stringBytes.toNat := by omega
  have hfewStrings : stringBytes.toNat ≤ 16 * 1024 := Nat.not_lt.mp hstringsMax
  have hget := @launchRequest_get path argv environment streams hshort (by omega)
  have hargv0 : argv.head? = some path := by
    rw [← hargv] at hfirst
    rw [List.head?_eq_getElem?]
    exact Outcome.ok.inj ((hget.1 0).symm.trans hfirst)
  have hnamesOk : NamesOk (environment.map utf8) := by
    rw [← henvironment] at hnames
    exact (validateEnvironmentRecords_eq_ok hget.2 rfl).mp hnames
  have hsizeEq : bytes.length = launchSize path argv environment streams := by
    simp only [launchSize, launchFixedBytes, recordBytes]
    omega
  -- every count is the one that the encoder would have written
  rw [eq_u32 (hsize.trans hsizeEq)] at htotal
  rw [eq_u32 (hstreamDeclared.symm.trans hstreams)] at hdeclared
  rw [eq_u16 hpathLength.symm] at hpathLen
  rw [eq_u16 hargv.symm] at hargc
  rw [eq_u16 henvironment.symm] at henvc
  rw [eq_u16 hstreams] at hstreamc
  rw [eq_u32 hstringsLen.symm] at hstringBytes
  refine ⟨path, argv, environment, streams, ?_, ?_, ⟨hvalidate, hargv0, ?_, ?_, ?_, hnamesOk⟩, ?_, ?_⟩
  · rw [launchRequest, ← hstreams, hargv, henvironment]
  · rw [← hstreamDeclared, hstreams]
  · omega
  · omega
  · omega
  · simp only [launchBody, launchCounts, launchTail, has_append, List.length_append, length_u32,
      length_u16, length_recordsText, length_rolesText]
    rw [← hargv, ← henvironment] at hroles hpath hstrings
    rw [← hpathLength] at hstrings
    refine ⟨⟨htotal, hdeclared, hpathLen, hargc, henvc, hstreamc, hstringBytes, hzero⟩, hall, ?_, ?_, ?_⟩
    · have hfits := has_length hall
      rw [length_recordsText, List.length_append] at hfits
      have hrolesFor : (if streamc.toNat = streamCount then streamRoles else []) = rolesFor streams := by
        rw [hstreams]
        cases streams <;> rfl
      rw [hrolesFor, checkStreamRoles_eq_ok hfits] at hroles
      exact hroles
    · rw [hstreams] at hpath
      exact hpath
    · rw [hstreams] at hstrings
      exact hstrings
  · rw [hsizeEq, length_launchBody]

theorem toNat_u32 (h : n < 2 ^ 32) : (UInt32.ofNat n).toNat = n :=
  UInt32.toNat_ofNat_of_lt h

theorem toNat_u16 (h : n < 2 ^ 16) : (UInt16.ofNat n).toNat = n :=
  UInt16.toNat_ofNat_of_lt h

variable {argv environment : List String}

theorem LaunchValid.short {path : String}
    (h : LaunchValid path argv environment) : Short (argv ++ environment) := by
  intro value hvalue
  have hmax : (stringsText (argv ++ environment)).length ≤ 16 * 1024 := h.strings_le
  obtain ⟨i, hi⟩ := List.mem_iff_getElem?.mp hvalue
  have hinside := has_length (stringsText_has hi)
  omega

theorem LaunchValid.small {path : String} (h : LaunchValid path argv environment) (streams : Bool) :
    (utf8 path).length ≤ 256 ∧ argv.length ≤ 64 ∧ environment.length ≤ 64 ∧
      (rolesFor streams).length ≤ 3 ∧ (stringsText (argv ++ environment)).length ≤ 16384 := by
  refine ⟨validatePath_length h.path_ok, h.argv_le, h.environment_le, ?_, h.strings_le⟩
  cases streams <;> decide

/-- A launch that the encoder would write is accepted. -/
theorem parseLaunch_complete {path : String} {streams : Bool}
    (hvalid : LaunchValid path argv environment)
    (hbody : Has bytes 48 (launchBody path argv environment streams))
    (hlen : bytes.length = 48 + (launchBody path argv environment streams).length) :
    parseLaunch bytes (rolesFor streams).length =
      .ok (launchRequest path argv environment streams) := by
  obtain ⟨hpathLen, hargvLen, henvironmentLen, hrolesLen, hstringsLen⟩ := hvalid.small streams
  have hsize := hlen.trans (length_launchBody path argv environment streams)
  simp only [launchSize, launchFixedBytes, recordBytes] at hsize
  simp only [launchBody, launchCounts, launchTail, has_append, List.length_append, length_u32,
    length_u16, length_recordsText, length_rolesText] at hbody
  obtain ⟨⟨htotal, hdeclared, hpathLen', hargc, henvc, hstreamc, hstringBytes, hzero⟩, hrecords,
    hroles, hpath, hstrings⟩ := hbody
  have hargvPos : argv.length ≠ 0 := by
    intro h
    have hargv0 := hvalid.argv0
    rw [List.length_eq_zero_iff.mp h] at hargv0
    cases hargv0
  simp only [parseLaunch, bind_eq_ok, readU32_eq_ok, readU16_eq_ok, requireHandles_eq_ok,
    rejectIf_eq_ok, sliceAt_eq_ok, sliceFrom_eq_ok, okOr_eq_ok, fromUtf8_eq_some,
    Bool.or_eq_false_iff, decide_eq_false_iff_not, not_not, ne_eq, Outcome.pure_eq,
    Outcome.ok.injEq, exists_const]
  simp only [recordBytes, launchFixedBytes]
  refine ⟨by omega, _, htotal, ?_, _, hdeclared, ?_, _, hpathLen', _, hargc, _, henvc, _, hstreamc, _,
    hstringBytes, _, hzero, rfl, ?_⟩
  · rw [toNat_u32 (by simp only [launchSize, launchFixedBytes, recordBytes]; omega), hlen,
      length_launchBody]
  · rw [toNat_u32 (by omega)]
  rw [toNat_u16 (show argv.length < 2 ^ 16 by omega),
    toNat_u16 (show environment.length < 2 ^ 16 by omega),
    toNat_u16 (show (rolesFor streams).length < 2 ^ 16 by omega),
    toNat_u16 (show (utf8 path).length < 2 ^ 16 by omega),
    toNat_u32 (show (rolesFor streams).length < 2 ^ 32 by omega),
    toNat_u32 (show (stringsText (argv ++ environment)).length < 2 ^ 32 by omega)]
  have hstreams : (decide ¬(rolesFor streams).length = 0 &&
      decide ¬(rolesFor streams).length = streamCount) = false := by
    cases streams <;> rfl
  have hrolesFor : (if (rolesFor streams).length = streamCount then streamRoles else []) =
      rolesFor streams := by
    cases streams <;> rfl
  have hboth := (@has_whole (recordsText 0 (argv ++ environment)) _).mpr rfl
  rw [recordsText_append, has_append, length_recordsText, Nat.zero_add, Nat.zero_add] at hboth
  have hget := @launchRequest_get path argv environment streams hvalid.short (by omega)
  rw [hrolesFor]
  refine ⟨⟨by omega, Nat.not_lt.mpr hvalid.argv_le⟩, Nat.not_lt.mpr hvalid.environment_le,
    ⟨hstreams, rfl⟩, Nat.not_lt.mpr hvalid.strings_le, hsize.symm, (), ?_, _, ⟨hpath, rfl⟩, path, rfl,
    (), hvalid.path_ok, _, ⟨hrecords, by rw [length_recordsText, List.length_append]⟩, _,
    ⟨hstrings, hsize⟩, (), ?_, recordsText 0 argv, ⟨?_, length_recordsText argv 0⟩,
    recordsText (stringsText argv).length environment, ⟨?_, ?_⟩, some path, ?_, rfl, (), ?_, rfl⟩
  · have hfits := has_length hroles
    exact (checkStreamRoles_eq_ok (by omega)).mpr hroles
  · exact (validateRecords_eq_ok (by rw [length_recordsText, List.length_append])).mpr
      ⟨argv ++ environment, List.length_append, hvalid.short, rfl, rfl⟩
  · rw [recordsText_append, Nat.zero_add]
    exact hboth.1.1
  · rw [recordsText_append, Nat.zero_add]
    exact hboth.1.2
  · rw [length_recordsText, length_recordsText, List.length_append]
    omega
  · rw [← hvalid.argv0, List.head?_eq_getElem?]
    exact hget.1 0
  · exact (validateEnvironmentRecords_eq_ok hget.2 rfl).mpr hvalid.names

theorem parseLaunch_eq_ok {handles : Nat} {request : LaunchRequest} :
    parseLaunch bytes handles = .ok request ↔ ∃ path argv environment streams,
      request = launchRequest path argv environment streams ∧ handles = (rolesFor streams).length ∧
        LaunchValid path argv environment ∧
          Has bytes 48 (launchBody path argv environment streams) ∧
            bytes.length = 48 + (launchBody path argv environment streams).length := by
  constructor
  · exact parseLaunch_sound
  · rintro ⟨path, argv, environment, streams, rfl, rfl, hvalid, hbody, hlen⟩
    exact parseLaunch_complete hvalid hbody hlen

end Wyrmroot.Wrlj
