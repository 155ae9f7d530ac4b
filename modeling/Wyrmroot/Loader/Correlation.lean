import Wyrmroot.Loader.Entry
import Wyrmroot.Registry.Correlation
import Wyrmroot.Wrlj.StartupArguments

/-!
# The correlation of a launch client

A launch client learns from its environment which launch session is its own. The loader
takes the three entries from the correlation of the request, and the client reads them
back from its startup block, as the probe of `userspace/r1-saturation` does.
-/

namespace Wyrmroot.Loader

open Outcome
open Startup (StartupBlock startupAbiV2)

variable {ε : Type}

/-- `PROBE_ERROR_BASE + 0x000F`. -/
def correlationFailure : Nat := 0x8100000F

/-- `startup.env(index).ok_or(..)?.as_str()`. -/
def envStr (startup : StartupBlock) (index : Nat) : Outcome Nat String := do
  let entry ← (startup.env index).mapErr fun _ => correlationFailure
  let text ← okOr entry correlationFailure
  unwrap (fromUtf8 text)

def correlationFromEnvironment (startup : StartupBlock) : Outcome Nat (UInt64 × UInt64) := do
  rejectIf (startup.envc ≠ 3) correlationFailure
  let entries ← [0, 1, 2].mapM (envStr startup)
  let correlation ← (Registry.parseCorrelationEnvironment entries).mapErr fun _ => correlationFailure
  rejectIf (correlation.endpointId = 0 || correlation.endpointGeneration = 0) correlationFailure
  pure (correlation.endpointId, correlation.endpointGeneration)

theorem CorrelationEnvironment.entries_run (c : CorrelationEnvironment) : ∃ a b d : String,
    c.entries = .ok [a, b, d] ∧ Registry.parseCorrelationEnvironment [a, b, d] =
      .ok ⟨c.registryGeneration, c.endpointId, c.endpointGeneration⟩ :=
  ⟨_, _, _, rfl, Registry.parseCorrelationEnvironment_eq_ok.mpr
    ⟨c.registryGeneration_ne, c.endpointId_ne, c.endpointGeneration_ne, rfl⟩⟩

/-- A launch client finds its arguments as they were given, and its launch session in its environment. -/
theorem launchClient_reads_correlation (request : LaunchClientLoadRequest) : ∃ environment,
    (∀ internal, (launchClientRequest request : Checked ε _) = .ok internal → internal.startup =
      .jobV2 request.displayPath (request.displayPath :: request.arguments) environment) ∧
    ∀ plan, StartupBlockV2Plan.new startupV2BlockBytes startupV2BlockAddress request.displayPath
        (request.displayPath :: request.arguments) environment = .ok plan →
      ∀ block channel, block.length = startupV2BlockBytes → channel ≠ 0 → ∃ text child,
        plan.write block = (.ok (), text, []) ∧
        StartupBlock.parse ⟨channel, startupAbiV2⟩ startupV2BlockAddress text = .ok child ∧
        child.argc = request.arguments.length + 1 ∧
        (∀ index, child.arg index =
          .ok ((request.displayPath :: request.arguments)[index]?.map utf8)) ∧
        correlationFromEnvironment child =
          .ok (request.correlation.endpointId, request.correlation.endpointGeneration) := by
  obtain ⟨a, b, d, hentries, hparse⟩ := request.correlation.entries_run
  refine ⟨[a, b, d], fun internal h => ?_, fun plan hplan block channel hblock hchannel => ?_⟩
  · simp only [launchClientRequest, hentries, bind_eq_ok] at h
    obtain ⟨-, -, -, -, environment, henvironment, hinternal⟩ := h
    obtain rfl := Outcome.ok.inj henvironment
    exact Outcome.ok.inj hinternal ▸ rfl
  · obtain ⟨text, child, hwrite, hchild, hargc, henvc, harg, henv⟩ :=
      Wrlj.plan_childSees hplan block channel hblock hchannel
    have hstr : ∀ index entry, [a, b, d][index]? = some entry → envStr child index = .ok entry := by
      intro index entry hentry
      simp [envStr, henv, hentry, mapErr, unwrap]
    have hread : [0, 1, 2].mapM (envStr child) = .ok [a, b, d] := by
      simp [List.mapM, List.mapM.loop, hstr 0 a rfl, hstr 1 b rfl, hstr 2 d rfl]
    refine ⟨text, child, hwrite, hchild, hargc, harg, ?_⟩
    simp [correlationFromEnvironment, henvc, hread, hparse, mapErr,
      request.correlation.endpointId_ne, request.correlation.endpointGeneration_ne]

end Wyrmroot.Loader
