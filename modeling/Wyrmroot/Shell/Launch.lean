import Wyrmroot.Shell.Parser
import Wyrmroot.Wrlj.RoundTrip

/-!
# Sending what was typed

The first half of `launch` in `wyrmsh/src/jobs.rs`: the arguments of a parsed line
become a launch message. The parser's bounds are within those of the protocol, so
a line that is a launch has a message, and the other side reads from it what was
typed.
-/

namespace Wyrmroot.Shell

open Outcome
open Wrlj (Reservation encodeLaunch parseMessage maxArgv LaunchValid)

def maxLaunchMessageBytes : Nat :=
  Wrlj.launchFixedBytes + (maxArgv + Wrlj.maxEnvironment) * Wrlj.recordBytes
    + Wrlj.streamRoles.length * Wrlj.recordBytes + Wrlj.maxPathBytes + Wrlj.maxStringBytes

/-- The exit that `launch` takes where a message cannot be encoded. -/
inductive ShellError where
  | inspectionProtocol
deriving DecidableEq

abbrev Launching (α : Type) := Outcome ShellError α

/-- One turn of the loop over `argv.iter()`, which fills an array of `MAX_ARGV`. -/
def fillArgument (text : String) (arguments : List String) (range : ArgRange) :
    Launching (List String) := do
  let argument ← unwrap (getRange text range)
  if arguments.length < maxArgv then pure (arguments ++ [argument]) else .panic

/-- The message that `launch` sends, up to the call that sends it. -/
def launchMessage (reservation : Reservation) (path : String) (argv : Arguments) (streams : Bool) :
    Launching (List UInt8) := do
  let arguments ← argv.ranges.foldlM (fillArgument argv.text) []
  match encodeLaunch reservation path arguments [] streams
      (List.replicate maxLaunchMessageBytes 0) with
  | (.ok size, request, _) => .ok (request.take size)
  | (.err _, _, _) => .err .inspectionProtocol
  | (.panic, _, _) => .panic

/-- The arguments, as they were typed. -/
def Arguments.AreTyped (argv : Arguments) (typed : List String) : Prop :=
  argv.ranges.map (getRange argv.text) = typed.map some

section Filling

variable {argv : Arguments} {typed : List String}

theorem exists_typed (h : ∀ range ∈ argv.ranges, (getRange argv.text range).isSome) :
    ∃ typed, argv.AreTyped typed := by
  refine ⟨argv.ranges.filterMap (getRange argv.text), ?_⟩
  unfold Arguments.AreTyped
  generalize argv.ranges = ranges at h
  induction ranges with
  | nil => rfl
  | cons range rest ih =>
      obtain ⟨argument, hargument⟩ := Option.isSome_iff_exists.mp (h range List.mem_cons_self)
      rw [List.filterMap_cons_some hargument, List.map_cons, List.map_cons, hargument,
        ih fun r hr => h r (List.mem_cons_of_mem _ hr)]

theorem fillArguments_ok {text : String} : ∀ {ranges : List ArgRange} {filled typed : List String},
    ranges.map (getRange text) = typed.map some → filled.length + ranges.length ≤ maxArgv →
      ranges.foldlM (fillArgument text) filled = .ok (filled ++ typed)
  | [], filled, typed, h, _ => by
      obtain rfl := List.map_eq_nil_iff.mp h.symm
      rw [List.append_nil]
      rfl
  | range :: rest, filled, typed, h, hroom => by
      cases typed with
      | nil => cases h
      | cons argument typed =>
          rw [List.map_cons, List.map_cons] at h
          obtain ⟨hfirst, hrest⟩ := List.cons.inj h
          rw [List.length_cons] at hroom
          have hturn : fillArgument text filled range = .ok (filled ++ [argument]) := by
            have hunwrap : (unwrap (some argument) : Launching String) = .ok argument := rfl
            rw [fillArgument, hfirst, hunwrap, ok_bind, if_pos (by omega)]
            rfl
          rw [List.foldlM_cons, hturn, ok_bind, fillArguments_ok hrest, List.append_assoc]
          · rfl
          · rw [List.length_append, List.length_singleton]
            omega

theorem getRange_length {text argument : String} {range : ArgRange}
    (h : getRange text range = some argument) :
    (utf8 argument).length = range.stop - range.start := by
  unfold getRange at h
  split_ifs at h
  obtain ⟨part, hpart, hargument⟩ := Option.bind_eq_some_iff.mp h
  rw [fromUtf8_eq_some.mp hargument, slice_length hpart]

theorem length_typed (h : argv.AreTyped typed) :
    (Wrlj.stringsText typed).length = Scan.written argv.ranges := by
  unfold Arguments.AreTyped at h
  unfold Scan.written
  generalize argv.ranges = ranges at h
  induction ranges generalizing typed with
  | nil =>
      obtain rfl := List.map_eq_nil_iff.mp h.symm
      rfl
  | cons range rest ih =>
      cases typed with
      | nil => cases h
      | cons argument typed =>
          rw [List.map_cons, List.map_cons] at h
          obtain ⟨hfirst, hrest⟩ := List.cons.inj h
          rw [List.map_cons, List.sum_cons, ← ih hrest, ← getRange_length hfirst]
          exact List.length_append

end Filling

theorem command_launchPath {args : Arguments} {found : Command}
    (h : args.command = .ok found) {path : String} {argv : Arguments}
    (hfound : found = .run path argv ∨ found = .spawn path argv) :
    launchPath args.tail = .ok path ∧ argv = args.tail := by
  unfold Arguments.command at h
  cases hname : args.get 0 with
  | none =>
      rw [hname] at h
      obtain rfl := Outcome.ok.inj h
      rcases hfound with heq | heq <;> cases heq
  | some name =>
      rw [hname] at h
      obtain ⟨spec, -, h⟩ := bind_eq_ok.mp h
      obtain ⟨_, -, h⟩ := bind_eq_ok.mp h
      cases hspec : spec.name with
      | run =>
          rw [hspec] at h
          obtain ⟨p, hp, heq⟩ := bind_eq_ok.mp h
          obtain rfl := Outcome.ok.inj heq
          rcases hfound with hrun | hspawn
          · obtain ⟨rfl, rfl⟩ := Command.run.inj hrun
            exact ⟨hp, rfl⟩
          · cases hspawn
      | spawn =>
          rw [hspec] at h
          obtain ⟨p, hp, heq⟩ := bind_eq_ok.mp h
          obtain rfl := Outcome.ok.inj heq
          rcases hfound with hrun | hspawn
          · cases hrun
          · obtain ⟨rfl, rfl⟩ := Command.spawn.inj hspawn
            exact ⟨hp, rfl⟩
      | wait | terminate =>
          rw [hspec] at h
          obtain ⟨id, -, heq⟩ := bind_eq_ok.mp h
          obtain rfl := Outcome.ok.inj heq
          rcases hfound with heq | heq <;> cases heq
      | _ =>
          rw [hspec] at h
          obtain rfl := Outcome.ok.inj h
          rcases hfound with heq | heq <;> cases heq

theorem launchValid_of_command {args argv : Arguments} {path : String} {typed : List String}
    (hsound : args.Sound) (hcommand : args.command = .ok (.run path argv)
      ∨ args.command = .ok (.spawn path argv)) (htyped : argv.AreTyped typed) :
    LaunchValid path typed [] ∧ argv.ranges.length ≤ maxArgv
      ∧ Scan.written argv.ranges ≤ maxLineBytes := by
  have hpath : launchPath args.tail = .ok path ∧ argv = args.tail := by
    rcases hcommand with h | h
    · exact command_launchPath h (.inl rfl)
    · exact command_launchPath h (.inr rfl)
  obtain ⟨hpath, rfl⟩ := hpath
  simp only [launchPath, bind_eq_ok, okOr_eq_ok, pure_eq, Outcome.ok.injEq] at hpath
  obtain ⟨path, hget, _, hvalid, rfl⟩ := hpath
  have hcount : args.tail.ranges.length ≤ maxArgv := by
    have hle := hsound.count
    unfold Arguments.tail
    rw [List.length_tail]
    exact Nat.le_trans (Nat.sub_le _ _) hle
  have hbytes : Scan.written args.tail.ranges ≤ maxLineBytes := by
    refine Nat.le_trans ?_ hsound.bytes
    unfold Arguments.tail Scan.written
    cases args.ranges with
    | nil => exact Nat.le_refl _
    | cons range rest =>
        rw [List.tail_cons, List.map_cons, List.sum_cons]
        exact Nat.le_add_left _ _
  have hlength : typed.length = args.tail.ranges.length := by
    have hlen := congrArg List.length htyped
    rw [List.length_map, List.length_map] at hlen
    exact hlen.symm
  refine ⟨⟨((validatePath_agrees path).mp hvalid).1, ?_, hlength ▸ hcount, Nat.zero_le _, ?_, ?_⟩,
    hcount, hbytes⟩
  · -- the first range is the path
    unfold Arguments.AreTyped at htyped
    unfold Arguments.get at hget
    cases hranges : args.tail.ranges with
    | nil =>
        rw [hranges] at hget
        cases hget
    | cons range rest =>
        rw [hranges] at hget htyped
        cases typed with
        | nil => cases htyped
        | cons argument typed =>
            have hfirst := (List.cons.inj htyped).1
            have hget : getRange args.tail.text range = some path := hget
            rw [hget] at hfirst
            exact hfirst.symm
  · rw [List.append_nil, length_typed htyped]
    exact Nat.le_trans hbytes (by decide)
  · exact ⟨List.forall_mem_nil _, List.nodup_nil⟩

/-- Whatever was typed as a launch can be sent, and is read as it was typed. -/
theorem launchMessage_reads {line : List UInt8} {args argv : Arguments} {path : String}
    {r : Reservation} (hr : r.Valid) (hparse : parse line = .ok args)
    (hcommand : args.command = .ok (.run path argv) ∨ args.command = .ok (.spawn path argv)) :
    ∃ typed, argv.AreTyped typed ∧ ∀ streams, ∃ bytes,
      launchMessage r path argv streams = .ok bytes ∧ ∃ request,
        parseMessage bytes (if streams then 3 else 0) = .ok ⟨r, .launch request⟩
          ∧ request.Reads path typed [] streams := by
  have hsound := (parse_yields line).2 args hparse
  have htail : argv = args.tail := by
    rcases hcommand with h | h
    · exact (command_launchPath h (.inl rfl)).2
    · exact (command_launchPath h (.inr rfl)).2
  subst htail
  obtain ⟨typed, htyped⟩ : ∃ typed, args.tail.AreTyped typed :=
    exists_typed fun range hrange => hsound.ranges range (List.mem_of_mem_tail hrange)
  obtain ⟨hvalid, hcount, hbytes⟩ := launchValid_of_command hsound hcommand htyped
  refine ⟨typed, htyped, fun streams => ?_⟩
  have hfill : args.tail.ranges.foldlM (fillArgument args.tail.text) [] = .ok typed :=
    fillArguments_ok htyped (by simpa using hcount)
  have hroom : Wrlj.launchSize path typed [] streams ≤
      (List.replicate maxLaunchMessageBytes (0 : UInt8)).length := by
    have hargv := hvalid.argv_le
    have hpath := Wrlj.validatePath_length hvalid.path_ok
    have hstrings := hvalid.strings_le
    have hroles : (Wrlj.rolesFor streams).length ≤ 3 := by cases streams <;> decide
    have hmax : maxLaunchMessageBytes = 72 + (64 + 64) * 8 + 3 * 8 + 256 + 16384 := by decide
    rw [List.length_replicate, hmax, Wrlj.launchSize, Wrlj.launchFixedBytes, Wrlj.recordBytes,
      List.length_nil]
    rw [Wrlj.maxArgv] at hargv
    rw [Wrlj.maxPathBytes] at hpath
    rw [Wrlj.maxStringBytes] at hstrings
    omega
  have hrun := Wrlj.encodeLaunch_run hr hvalid hroom
  have hrun' : Wrlj.encodeContent r (.launch path typed [] streams)
      (List.replicate maxLaunchMessageBytes 0) = _ := hrun
  obtain ⟨m, hm, hcarries, -⟩ := Wrlj.wrlj_codec.1 _ _ _ _ _ hrun'
  obtain ⟨request, rfl, hreads⟩ := hcarries
  refine ⟨_, ?_, request, hm, hreads⟩
  rw [launchMessage, hfill, ok_bind, hrun]

/-- `run bin/ls ''`. -/
def runLine : List UInt8 := [114, 117, 110, 32, 98, 105, 110, 47, 108, 115, 32, 39, 39]

def runArgv : Arguments := ⟨"runbin/ls", [⟨3, 9⟩, ⟨9, 9⟩]⟩

/-- An argument may be empty. -/
theorem launchMessage_run : ∃ typed, runArgv.AreTyped typed ∧ ∃ bytes request,
    launchMessage Wrlj.oneReservation "bin/ls" runArgv true = .ok bytes
      ∧ parseMessage bytes 3 = .ok ⟨Wrlj.oneReservation, .launch request⟩
      ∧ request.Reads "bin/ls" typed [] true := by
  have hvalid : Wrlj.oneReservation.Valid := by decide
  have hparse : parse runLine = .ok ⟨"runbin/ls", [⟨0, 3⟩, ⟨3, 9⟩, ⟨9, 9⟩]⟩ := by decide +kernel
  have hcommand : (⟨"runbin/ls", [⟨0, 3⟩, ⟨3, 9⟩, ⟨9, 9⟩]⟩ : Arguments).command
      = .ok (.run "bin/ls" runArgv) := by decide +kernel
  obtain ⟨typed, htyped, hall⟩ := launchMessage_reads hvalid hparse (.inl hcommand)
  obtain ⟨bytes, hmessage, request, hread, hreads⟩ := hall true
  exact ⟨typed, htyped, bytes, request, hmessage, hread, hreads⟩

end Wyrmroot.Shell
