import Wyrmroot.Loader.Atomicity

/-!
# Custody of the caller's handles

The channels, streams and manifest of a request are moved by the INIT, and
the entry point reports with an error whether they still are the caller's.
A wrong report makes the caller close twice or leak.

Everything here is read off the trace of calls. The INIT that went out is
the only thing that moves a handle (`transferred`); the ledger admits one
such send and no close of a handle it does not own, so the report, which
the ledger fixes too, is compared with a list of at most one send.
-/

namespace Wyrmroot.Loader

/-- The handles a call moves to the child. -/
def Event.moves : Event → List Nat
  | .done (.sendInit _ _ transfers) _ => transfers.map (·.handle)
  | _ => []

/-- The handle a call closes, or would have. -/
def Event.closes : Event → Option Nat
  | .done (.close h) _ => some h
  | .failed (.close h) => some h
  | _ => none

/-- A transfer is a move: one message does not carry a handle twice. -/
def Event.moveOnly (ev : Event) : Bool := decide ev.moves.Nodup

/-- The handles that went out with an INIT, as often as they did. -/
def transferred (events : List Event) : List Nat := events.flatMap Event.moves

variable {τ ε : Type} {tr : LoaderPlatform τ ε} {caller : List Nat} {assume : Event → Prop}
  {L L' : Ledger} {events : List Event}

theorem Ledger.step_moves {ev : Event} (h : L.step caller ev = some L') :
    L'.sent.getD [] = L.sent.getD [] ++ ev.moves ∧ (ev.moves ≠ [] → L.sent = none) := by
  cases ev with
  | failed c =>
      simp only [Ledger.step, Option.ite_none_right_eq_some] at h
      obtain rfl := Option.some.inj h.2
      exact ⟨by simp [Event.moves], fun h => absurd rfl h⟩
  | done c r =>
      simp only [Ledger.step, Option.ite_none_right_eq_some, Bool.and_eq_true] at h
      obtain ⟨⟨hlegal, -⟩, h⟩ := h
      obtain rfl := Option.some.inj h
      cases c
      case sendInit pc init transfers =>
        simp only [Ledger.legal, Bool.and_eq_true, Option.isNone_iff_eq_none] at hlegal
        exact ⟨by simp [Event.moves, Ledger.apply, hlegal.1], fun _ => hlegal.1⟩
      all_goals exact ⟨by simp [Event.moves, Ledger.apply], fun h => absurd rfl h⟩

theorem Ledger.step_closes {ev : Event} (h : L.step caller ev = some L') (hown : L.Own caller)
    {x : Nat} (hx : ev.closes = some x) : x ∉ caller := by
  have hmem : x ∈ L.handles := by
    cases ev with
    | failed c =>
        cases c <;> cases hx
        simp only [Ledger.step, Option.ite_none_right_eq_some, Ledger.legal,
          decide_eq_true_eq] at h
        exact h.1
    | done c r =>
        cases c <;> cases hx
        simp only [Ledger.step, Option.ite_none_right_eq_some, Ledger.legal, Bool.and_eq_true,
          decide_eq_true_eq] at h
        exact h.1.1
  exact hown x hmem

theorem transferred_eq (h : (monitor caller assume).run {} events = some L) :
    transferred events = L.sent.getD [] :=
  (Monitor.run_collect (T := fun L : Ledger => L.sent.getD [])
    (fun _ _ _ hstep => (Ledger.step_moves hstep).1) h).symm

theorem transferred_nodup (h : (monitor caller assume).run {} events = some L)
    (hmove : ∀ ev ∈ events, ev.moveOnly = true) : (transferred events).Nodup := by
  rw [transferred_eq h]
  refine Monitor.run_invariant_of (I := fun L : Ledger => (L.sent.getD []).Nodup)
    (fun L ev L' hev hstep hL => ?_) hmove h List.nodup_nil
  obtain ⟨hsent, honce⟩ := Ledger.step_moves hstep
  rw [hsent]
  by_cases hmoves : ev.moves = []
  · rw [hmoves, List.append_nil]
    exact hL
  · rw [honce hmoves]
    exact of_decide_eq_true hev

theorem closes_not_caller (h : (monitor caller assume).run {} events = some L) :
    ∀ ev ∈ events, ∀ x ∈ caller, ev.closes ≠ some x := by
  have hown : ({} : Ledger).Own caller := fun x hx => absurd hx (Multiset.notMem_zero x)
  refine Monitor.run_forall (I := Ledger.Own caller) (fun L ev L' hstep hL => ⟨?_, ?_⟩) h hown
  · exact fun x hx hclose => Ledger.step_closes hstep hL hclose hx
  · exact Ledger.step_own hstep hL

/-! ## Every request -/

/-- An error of any kind. -/
def AnyError (_ : LoadError ε) (_ : Ledger) : Prop := True

theorem anyError_setting (tr : LoaderPlatform τ ε) (caller : List Nat) :
    Setting tr caller (fun ev => ev.fresh caller = true) AnyError :=
  ⟨freshUnder_fresh tr caller, fun _ _ _ => trivial⟩

theorem stagesWith_anyError {e : EntryPoint} {given : LoadAuthority}
    {request : InternalLoadRequest} (hset : Setting tr caller assume AnyError)
    (hchecked : (e.checked : Checked ε _) = .ok request) (hshape : Shaped request) :
    StagesWith tr AnyError request caller assume (e.authority given) True := by
  by_cases hneeds : request.profile.needsDomain = true → request.resourceDomain.isSome
  · intro pc created ranges thread L hL
    exact (stageCapabilities_phase hset hshape hneeds hL).mono fun r L h => ⟨h, trivial⟩
  · rw [Classical.not_imp, (checked_spec hchecked).2.1] at hneeds
    obtain ⟨hneeds, hnone⟩ := hneeds
    obtain ⟨r, rfl, -⟩ := (checked_needsDomain hchecked hneeds).resolve_left hnone
    have hprofile := hshape.needsDomain_cases hneeds
    intro pc created ranges thread L hL
    exact (stageCapabilities_leaks hset (fun _ _ => trivial) hprofile rfl pc created ranges thread L
      hL).mono fun r L h => ⟨h.1, trivial⟩

/-- The report that goes with the end of a load agrees with the trace. -/
def Reported (e : EntryPoint) (events : List Event) :
    Outcome (LoadFailure ε) LoadedProcess → Prop
  | .ok _ => ∀ h ∈ e.supplied, h ∈ transferred events
  | .err f => f.custody.map (·.1) = e.supplied ∧
      ∀ entry ∈ f.custody, (entry.2 = true ↔ entry.1 ∈ transferred events)
  | .panic => False

/-- The handles of the caller through a load. -/
structure CustodyKept (e : EntryPoint) (given : LoadAuthority) (events : List Event)
    (o : Outcome (LoadFailure ε) LoadedProcess) : Prop where
  reported : Reported e events o
  /-- Nothing else of the caller's is moved. -/
  lent : ∀ h ∈ e.callerHandles given, h ∈ transferred events → h ∈ e.supplied
  domain : ∀ d, e.domain = some d → d ∉ transferred events
  once : ∀ h, (transferred events).count h ≤ 1
  unclosed : ∀ ev ∈ events, ∀ h ∈ e.callerHandles given, ev.closes ≠ some h

theorem load_refused {e : EntryPoint} {err : LoadError ε} (h : e.checked = .err err)
    (given : LoadAuthority) (s : LoadState τ) : (e.load tr given s).2.2 = [] := by
  rw [EntryPoint.load_eq]
  unfold reporting loadChecked
  rw [h]
  rfl

/-- Against the platform's promises, the caller's handles stay in custody:
what is reported consumed is what an INIT that went out moved, once, and
nothing of the caller's is closed. -/
theorem load_custodyKept (e : EntryPoint) (given : LoadAuthority) (tr : LoaderPlatform τ ε) (t : τ)
    (hfresh : ∀ ev ∈ (e.load tr given ⟨t, false⟩).2.2, ev.fresh (e.callerHandles given) = true)
    (hmove : ∀ ev ∈ (e.load tr given ⟨t, false⟩).2.2, ev.moveOnly = true) :
    CustodyKept e given (e.load tr given ⟨t, false⟩).2.2 (e.load tr given ⟨t, false⟩).1 := by
  have hset := anyError_setting tr (e.callerHandles given)
  obtain ⟨L, hrun, hsent, hend⟩ := load_ends hset (fun _ _ => trivial) (fun _ _ _ _ => trivial)
    (fun request hchecked hshape _ => stagesWith_anyError hset hchecked hshape) ⟨t, false⟩ hfresh
  have heq := transferred_eq hrun
  have hmem : ∀ h ∈ e.callerHandles given,
      (h ∈ transferred (e.load tr given ⟨t, false⟩).2.2 ↔ h ∈ e.supplied ∧ L.sent.isSome) := by
    intro h hh
    rw [heq]
    cases hL : L.sent with
    | none => simp
    | some hs => simpa using hsent hs hL h hh
  have hsupplied : ∀ h ∈ e.supplied, h ∈ e.callerHandles given := fun h hh => by
    simp [EntryPoint.callerHandles, hh]
  have hlent : ∀ h ∈ e.callerHandles given,
      h ∈ transferred (e.load tr given ⟨t, false⟩).2.2 → h ∈ e.supplied :=
    fun h hh hm => ((hmem h hh).mp hm).1
  refine ⟨?_, hlent, fun d hd hm => ?_, ?_, closes_not_caller hrun⟩
  · cases ho : (e.load tr given ⟨t, false⟩).1 with
    | ok loaded =>
        rw [ho] at hend
        exact fun h hh => (hmem h (hsupplied h hh)).mpr ⟨hh, hend.2.1⟩
    | err f =>
        rw [ho] at hend
        refine ⟨by simp [hend.1, Function.comp_def], fun entry hentry => ?_⟩
        rw [hend.1] at hentry
        obtain ⟨h, hh, rfl⟩ := List.mem_map.mp hentry
        have hne : e.supplied.isEmpty = false := by
          rw [List.isEmpty_eq_false_iff]
          exact List.ne_nil_of_mem hh
        simp [hmem h (hsupplied h hh), hh, hne]
    | panic =>
        rw [ho] at hend
        exact hend
  · cases hchecked : (e.checked : Checked ε _) with
    | ok request =>
        have hd' : d ∈ e.callerHandles given := by simp [EntryPoint.callerHandles, hd]
        exact checked_domain hchecked hd (hlent d hd' hm)
    | err err =>
        rw [load_refused hchecked] at hm
        cases hm
    | panic => exact absurd hchecked (checked_ne_panic e)
  · exact List.nodup_iff_count_le_one.mp (transferred_nodup hrun hmove)

/-- A registry started with its channel 4, on a platform that never fails. -/
def startRegistry : EntryPoint := .service ⟨tinyElf, "a", .bootstrapRegistry, 4, none, 1⟩

theorem startRegistry_custodyKept :
    transferred (startRegistry.load (countingPlatform 5) ⟨1, 2, 3⟩ ⟨0, false⟩).2.2 = [9, 4] ∧
      CustodyKept startRegistry ⟨1, 2, 3⟩
        (startRegistry.load (countingPlatform 5) ⟨1, 2, 3⟩ ⟨0, false⟩).2.2
        (startRegistry.load (countingPlatform 5) ⟨1, 2, 3⟩ ⟨0, false⟩).1 :=
  ⟨by decide +kernel, load_custodyKept _ _ _ _ (by decide +kernel) (by decide +kernel)⟩

end Wyrmroot.Loader
