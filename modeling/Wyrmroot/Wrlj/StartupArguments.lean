import Wyrmroot.Startup.RoundTrip
import Wyrmroot.Wrlj.RoundTrip

/-!
# Launch arguments, from the message to the child

A launch goes through three validators: the WRLJ parser, the loader's plan
of the startup block, and the child's own parser of that block. The first is
at least as strict as the others on counts, sizes, paths and environment
names. It is not on NULs: a WRLJ string may hold one, the loader refuses to
put such a string before a terminal NUL (`nulArgument_rejected`).
-/

namespace Wyrmroot.Wrlj

open Outcome
open Startup (StartupBlock startupAbiV2)
open Loader (StartupBlockV2Plan StartupBlockError startupV2BlockBytes startupV2BlockAddress)

theorem checkEnvironment_eq (values : List String) : ∀ seen : List String,
    Loader.checkEnvironment seen values =
      Startup.checkNames .invalidEnvironment .duplicateEnvironment (seen.map utf8)
        (values.map utf8) := by
  induction values with
  | nil => exact fun _ => rfl
  | cons value rest ih =>
      intro seen
      rw [Loader.checkEnvironment, List.map_cons, Startup.checkNames]
      congr 1
      funext name
      have hseen : (seen.any fun other => decide (Startup.environmentName
          StartupBlockError.invalidEnvironment (utf8 other) = .ok name)) =
          (seen.map utf8).any (Startup.hasName StartupBlockError.invalidEnvironment name) := by
        rw [List.any_map]
        congr 1
        funext other
        show _ = Startup.hasName _ name (utf8 other)
        rw [Startup.hasName]
        cases Startup.environmentName StartupBlockError.invalidEnvironment (utf8 other) with
        | ok found => by_cases h : found = name <;> simp [h]
        | err e | panic => rfl
      rw [hseen, ih, List.map_append]
      rfl

/-- Whether a string past the path has a NUL inside. -/
def hasNul (argv environment : List String) : Bool :=
  (argv.drop 1 ++ environment).any fun value => (utf8 value).contains 0

variable {path : String} {argv environment : List String}

theorem LaunchValid.path_bytes (h : LaunchValid path argv environment) :
    (utf8 path).isEmpty = false ∧ (utf8 path).contains 0 = false := by
  obtain ⟨_, hfirst, -⟩ := bind_eq_ok.mp h.path_ok
  rw [rejectIf_eq_ok] at hfirst
  simp only [Bool.or_eq_false_iff] at hfirst
  exact ⟨hfirst.1.1.1.1, hfirst.2⟩

theorem plan_of_launch (h : LaunchValid path argv environment) :
    StartupBlockV2Plan.new startupV2BlockBytes startupV2BlockAddress path argv environment =
      if hasNul argv environment then .err .stringContainsNul
      else .ok ⟨startupV2BlockAddress, argv, environment,
        (1 + argv.length + 1 + environment.length + (1 + 2)) * 8⟩ := by
  obtain ⟨-, hargvLen, henvironmentLen, -, hstrings⟩ := h.small false
  have hargv : (argv.isEmpty || decide (Loader.maxArgv < argv.length)) = false := by
    have hargv0 := h.argv0
    cases argv with
    | nil => cases hargv0
    | cons first rest => exact decide_eq_false (Nat.not_lt.mpr hargvLen)
  have henvironment : decide (Loader.maxEnvironment < environment.length) = false :=
    decide_eq_false (Nat.not_lt.mpr henvironmentLen)
  have hnames : Loader.checkEnvironment [] environment = .ok () := by
    rw [checkEnvironment_eq]
    exact Startup.checkNames_nil.mpr h.names
  rw [StartupBlockV2Plan.new, hargv, henvironment, h.argv0, h.path_bytes.1, h.path_bytes.2, hnames,
    @totalBytes_eq (argv ++ environment) (by omega)]
  simp only [ne_eq, not_true_eq_false, decide_false, rejectIf_false, ok_bind, okOr_some]
  rw [show ((argv.drop 1 ++ environment).any fun value => (utf8 value).contains 0) =
    hasNul argv environment from rfl]
  cases hasNul argv environment with
  | true => rfl
  | false =>
      have hmax : decide (Loader.maxStringBytes < (stringsText (argv ++ environment)).length) =
          false := decide_eq_false (Nat.not_lt.mpr hstrings)
      have hencoded : (Loader.checkedAdd (stringsText (argv ++ environment)).length argv.length).bind
          (Loader.checkedAdd · environment.length) =
            some ((stringsText (argv ++ environment)).length + argv.length + environment.length) :=
        Option.bind_eq_some_iff.mpr ⟨_, Loader.checkedAdd_eq_some.mpr ⟨by omega, rfl⟩,
          Loader.checkedAdd_eq_some.mpr ⟨by omega, rfl⟩⟩
      have hblock : startupV2BlockBytes = 20480 := rfl
      have haddress : startupV2BlockAddress < 2 ^ 63 := by decide
      have hroom : decide (startupV2BlockBytes <
          (1 + argv.length + 1 + environment.length + (1 + 2)) * 8 +
            ((stringsText (argv ++ environment)).length + argv.length + environment.length)) =
            false := decide_eq_false (by omega)
      have hpointers : Loader.checkedAdd startupV2BlockAddress
          ((1 + argv.length + 1 + environment.length + (1 + 2)) * 8 +
            ((stringsText (argv ++ environment)).length + argv.length + environment.length)) =
              some _ := Loader.checkedAdd_eq_some.mpr ⟨by omega, rfl⟩
      rw [hmax, hencoded]
      simp only [rejectIf_false, ok_bind, okOr_some]
      rw [hroom, hpointers]
      rfl

/-! ## From the message to the child -/

/-- The child that is started for a launch: its block is the loader's, and
it sees these arguments and this environment. -/
def ChildSees (plan : StartupBlockV2Plan) (argv environment : List String) : Prop :=
  ∀ block channel, block.length = startupV2BlockBytes → channel ≠ 0 →
    ∃ text child, plan.write block = (.ok (), text, []) ∧
      StartupBlock.parse ⟨channel, startupAbiV2⟩ startupV2BlockAddress text = .ok child ∧
        child.argc = argv.length ∧ child.envc = environment.length ∧
          (∀ index, child.arg index = .ok (argv[index]?.map utf8)) ∧
            ∀ index, child.env index = .ok (environment[index]?.map utf8)

theorem plan_childSees {plan : StartupBlockV2Plan}
    (h : StartupBlockV2Plan.new startupV2BlockBytes startupV2BlockAddress path argv environment =
      .ok plan) : ChildSees plan argv environment := by
  intro block channel hblock hchannel
  obtain ⟨hwrite, -, -, hparse⟩ := Startup.startupBlock_roundTrip h (by decide) hblock
  obtain ⟨child, hchild, hargc, henvc, harg, henv⟩ := hparse channel hchannel (by decide)
  exact ⟨_, child, hwrite, hchild, hargc, henvc, harg, henv⟩

/-- A launch that the controller accepts reaches the child unchanged, unless an
argument after the path or an environment entry holds a NUL; then the loader
refuses it, for this reason. -/
theorem launch_arguments {bytes : List UInt8} {handles : Nat} {r : Reservation}
    {request : LaunchRequest} (h : parseMessage bytes handles = .ok ⟨r, .launch request⟩) :
    ∃ path argv environment streams, request.Reads path argv environment streams ∧
      (hasNul argv environment = false → ∃ plan,
        StartupBlockV2Plan.new startupV2BlockBytes startupV2BlockAddress path argv environment =
          .ok plan ∧ ChildSees plan argv environment) ∧
      (hasNul argv environment = true →
        StartupBlockV2Plan.new startupV2BlockBytes startupV2BlockAddress path argv environment =
          .err .stringContainsNul) := by
  obtain ⟨c, hr, hc, rfl, hm, rfl⟩ := parseMessage_iff.mp h
  have hcarries := carries_message hc hm
  cases c with
  | launch path argv environment streams =>
      obtain ⟨request', hsame, hreads⟩ := hcarries
      obtain rfl := Message.launch.inj hsame
      have hplan := plan_of_launch hc
      refine ⟨path, argv, environment, streams, hreads, fun hnul => ?_, fun hnul => ?_⟩
      · rw [hnul] at hplan
        exact ⟨_, hplan, plan_childSees hplan⟩
      · rw [hnul] at hplan
        exact hplan
  | job kind id => cases kind <;> cases hcarries
  | jobList ids =>
      obtain ⟨_, hsame, -⟩ := hcarries
      cases hsame
  | _ => cases hcarries

/-- A launch of `a` with one more argument. -/
def launchOf (argument : String) : Content := .launch "a" ["a", argument] [] false

theorem launchOf_accepted {argument : String} (h : (launchOf argument).Valid) :
    parseMessage ((launchOf argument).text oneReservation) 0 =
      .ok ⟨oneReservation, .launch (launchRequest "a" ["a", argument] [] false)⟩ :=
  parseMessage_iff.mpr ⟨launchOf argument, by decide, h, rfl, rfl, rfl⟩

theorem plainLaunch_valid : (launchOf "b").Valid :=
  ⟨by decide +kernel, rfl, by decide, by decide, by decide +kernel, ⟨nofun, List.nodup_nil⟩⟩

theorem nulLaunch_valid : (launchOf "\x00").Valid :=
  ⟨by decide +kernel, rfl, by decide, by decide, by decide +kernel, ⟨nofun, List.nodup_nil⟩⟩

theorem plainLaunch_arguments : ∃ path argv environment streams,
    (launchRequest "a" ["a", "b"] [] false).Reads path argv environment streams ∧
      (hasNul argv environment = false → ∃ plan,
        StartupBlockV2Plan.new startupV2BlockBytes startupV2BlockAddress path argv environment =
          .ok plan ∧ ChildSees plan argv environment) := by
  obtain ⟨path, argv, environment, streams, hreads, hplan, -⟩ :=
    launch_arguments (launchOf_accepted plainLaunch_valid)
  exact ⟨path, argv, environment, streams, hreads, hplan⟩

/-- The controller accepts an argument with a NUL, the loader does not. -/
theorem nulArgument_rejected :
    parseMessage ((launchOf "\x00").text oneReservation) 0 =
        .ok ⟨oneReservation, .launch (launchRequest "a" ["a", "\x00"] [] false)⟩ ∧
      (launchRequest "a" ["a", "\x00"] [] false).Reads "a" ["a", "\x00"] [] false ∧
        StartupBlockV2Plan.new startupV2BlockBytes startupV2BlockAddress "a" ["a", "\x00"] [] =
          .err .stringContainsNul := by
  refine ⟨launchOf_accepted nulLaunch_valid, ?_, plan_of_launch nulLaunch_valid⟩
  obtain ⟨request, hsame, hreads⟩ := carries_message (c := launchOf "\x00") nulLaunch_valid rfl
  obtain rfl := Message.launch.inj hsame
  exact hreads

end Wyrmroot.Wrlj
