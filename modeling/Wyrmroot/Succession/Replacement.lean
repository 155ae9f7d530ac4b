import Wyrmroot.Lib.Replay
import Wyrmroot.Succession.Model

/-!
# A replacement console and the marks of its predecessors

Init's three marks are the generations of the last request it accepted, from
whatever console (`HighWater`). A console's own requests go up, so none of them
is below a mark that it has set itself; a mark left by an earlier console is
another matter, since the counters of the new one start over. So a request is
refused as stale exactly if an earlier console got one accepted that it is not
above.
-/

namespace Wyrmroot.Succession

open Outcome Prog
open Consoled (ShellV1Request)

variable {ω : Type} {top : Option ShellV1Request} {n : Nat}

/-! ## The marks -/

def ShellControllerState.mark (self : ShellControllerState) : Option ShellV1Request :=
  if self.lastConsoleGeneration = 0 then none
  else some ⟨self.lastConsoleGeneration, self.lastStatusGeneration, self.lastChildGeneration⟩

variable {shell : ShellControllerState}

theorem stale_eq_false {request : ShellV1Request} :
    shell.stale request = false ↔ ∀ m ∈ shell.mark, request.Above m := by
  unfold ShellControllerState.stale ShellControllerState.mark
  split_ifs with hzero
  · simp [hzero]
  · simp only [hzero, ne_eq, not_false_eq_true, decide_true, Bool.true_and, Bool.or_eq_false_iff,
      decide_eq_false_iff_not, Nat.not_lt, Nat.not_le, Option.mem_def, Option.some.injEq,
      forall_eq']
    exact ⟨fun h => ⟨h.1.1, h.1.2, h.2⟩, fun h => ⟨⟨h.console, h.status⟩, h.child⟩⟩

/-- The state behind an accepted request. -/
def ShellControllerState.reserved (self : ShellControllerState) (request : ShellV1Request) :
    ShellControllerState :=
  { self with
    lastConsoleGeneration := request.consoleGeneration
    lastStatusGeneration := request.statusGeneration
    lastChildGeneration := request.requestedChildGeneration }

theorem mark_reserved {request : ShellV1Request}
    (h : request.consoleGeneration ≠ 0) : (shell.reserved request).mark = some request :=
  if_neg h

theorem reserveShellGeneration_run (request : ShellV1Request) (shell : ShellControllerState) :
    ShellControllerState.reserveShellGeneration request shell =
      if shell.stale request then (.err (.wyr1bModel .staleGeneration), shell, ([] : List ω))
      else (.ok (), shell.reserved request, []) := by
  unfold ShellControllerState.reserveShellGeneration
  rw [get_bind_run]
  cases h : shell.stale request <;> rfl

/-! ## What leaves the marks alone -/

/-- The marks, and a bound of the transactions to come. -/
def Holds (top : Option ShellV1Request) (n : Nat) (c : Controller) : Prop :=
  c.e6.shell.mark = top ∧ n ≤ c.e6.nextConsoleTransaction

variable {α : Type}

theorem onShell_keeps {m : Prog ShellControllerState ω InitError α}
    (h : Keeps (·.mark = top) m) : Keeps (Holds top n) (onShell m) :=
  Keeps.within fun c hc => h.conseq (by rintro _ rfl; exact hc.1) (fun _ _ hs => ⟨hs, hc.2⟩)
    fun _ hs => ⟨hs, hc.2⟩

namespace ShellControllerState

theorem poison_keeps (generation : Nat) :
    Keeps (·.mark = top) (poison generation : Prog ShellControllerState ω InitError Unit) := by
  refine Keeps.modify fun shell h => ?_
  split_ifs <;> exact h

theorem reserveInstallTransaction_keeps (generation : Nat) : Keeps (·.mark = top)
    (reserveInstallTransaction generation : Prog ShellControllerState ω InitError Nat) := by
  refine Keeps.get_bind fun shell _ => Keeps.bind (Keeps.lift _) fun _ => ?_
  refine Keeps.bind (Keeps.okOr _ _) fun next => Keeps.bind (Keeps.modify fun _ h => h) fun _ => ?_
  exact Keeps.pure _

theorem reserveReplacementGeneration_keeps (generation : Nat) : Keeps (·.mark = top)
    (reserveReplacementGeneration generation : Prog ShellControllerState ω InitError Unit) := by
  refine Keeps.get_bind fun shell _ => Keeps.bind (Keeps.okOr _ _) fun previous => ?_
  refine Keeps.bind (Keeps.lift _) fun _ => Keeps.bind (Keeps.lift _) fun _ => ?_
  refine Keeps.bind (Keeps.modify fun _ h => h) fun _ => ?_
  refine Triple.ite (fun _ => ?_) fun _ => Keeps.pure ()
  exact Keeps.bind (Keeps.modify fun _ h => h) fun _ => .throw _

theorem commitReplacementGeneration_keeps (generation : Nat) : Keeps (·.mark = top)
    (commitReplacementGeneration generation : Prog ShellControllerState ω InitError Unit) := by
  refine Keeps.get_bind fun shell _ => Keeps.bind (Keeps.okOr _ _) fun previous => ?_
  exact Keeps.bind (Keeps.lift _) fun _ => Keeps.modify fun _ h => h

end ShellControllerState

theorem onTopology_keeps {err : JobError → InitError}
    {m : Prog RegistryTopology ω JobError α} (h : Keeps (fun _ => True) m) :
    Keeps (Holds top n) (.within Controller.topology (fun topology c => { c with topology }) err m) :=
  Keeps.within fun _ hc => h.conseq (fun _ _ => trivial) (fun _ _ _ => hc) fun _ _ => hc

theorem issue_keeps (roleGeneration : Nat) (kind : EndpointKind) :
    Keeps (Holds top n) (issue roleGeneration kind : Init ω EndpointGrant) := by
  refine onTopology_keeps (Keeps.bind (Keeps.lift _) fun _ => Keeps.get_bind fun _ _ => ?_)
  refine Keeps.bind (Keeps.okOr _ _) fun _ => Keeps.bind (Keeps.modify fun _ h => h) fun _ => ?_
  exact Keeps.pure _

theorem restart_keeps (nextGeneration : Nat) : Keeps (fun _ => True)
    (RegistryTopology.restart nextGeneration : Prog RegistryTopology ω JobError Unit) :=
  Keeps.get_bind fun _ _ => Keeps.bind (Keeps.lift _) fun _ => Keeps.modify fun _ h => h

theorem sessionClosed_keeps (grant : EndpointGrant) :
    Keeps (Holds top n) (sessionClosed grant : Init ω Unit) := by
  refine Keeps.get_bind fun _ _ => Keeps.bind (Keeps.okOr _ _) fun _ => ?_
  exact Keeps.bind (Keeps.lift _) fun _ => Keeps.modify fun _ h => h

theorem commitRegistryReplacement_keeps (generation : Nat) :
    Keeps (Holds top n) (commitRegistryReplacement generation : Init ω Unit) :=
  Keeps.bind (onShell_keeps (ShellControllerState.commitReplacementGeneration_keeps generation))
    fun _ => Keeps.modify fun _ h => h

/-! ## A launch -/

variable {c : Controller}

theorem Holds.le {m : Nat} (h : Holds top m c) (hle : n ≤ m) : Holds top n c :=
  ⟨h.1, Nat.le_trans hle h.2⟩

theorem takeConsoleTransaction_triple : Triple (Holds top n)
    (takeConsoleTransaction : Init ω Nat) (fun t c => n ≤ t ∧ Holds top (t + 1) c)
    (Holds top n) := by
  refine Triple.get_bind fun c hc => ?_
  have hsame : ∀ c', c' = c → Holds top n c' := by
    rintro _ rfl
    exact hc
  refine Triple.bind (Q := fun _ => (· = c)) (Triple.lift (fun _ _ _ => id) hsame) fun _ => ?_
  refine Triple.bind (Q := fun next c' => c' = c ∧ next = c.e6.nextConsoleTransaction + 1)
    (Triple.okOr (fun next hnext c' heq => ⟨heq, (Loader.checkedAdd_eq_some.mp hnext).2.symm⟩) hsame)
    fun next => ?_
  have hlater : ∀ c', Holds top (c.e6.nextConsoleTransaction + 1) c' → Holds top n c' :=
    fun c' h => h.le (Nat.le_succ_of_le hc.2)
  refine Triple.bind (Q := fun _ => Holds top (c.e6.nextConsoleTransaction + 1))
    ((Triple.modify _).pre ?_) fun _ => ?_
  · rintro _ ⟨rfl, rfl⟩
    exact ⟨hc.1, Nat.le_refl _⟩
  · refine Triple.bind (Triple.lift (fun _ _ _ => id) hlater) fun _ => ?_
    refine Triple.bind (Q := fun _ => Holds top (c.e6.nextConsoleTransaction + 1))
      ((Triple.modify _).pre fun _ h => h) fun _ => ?_
    exact (Triple.pure _).pre fun _ h => ⟨hc.2, h⟩

theorem undone_keeps (a : LaunchAnswers) {step : Init ω α}
    (hstep : Keeps (Holds top n) step) : Keeps (Holds top n) (undone a step) := by
  refine Keeps.bind hstep.attempt fun result => ?_
  cases result with
  | ok value => exact Keeps.pure value
  | error e => exact .throw _

theorem poisoning_keeps (a : LaunchAnswers) {step : Init ω α}
    (hstep : Keeps (Holds top n) step) : Keeps (Holds top n) (poisoning a step) := by
  refine Keeps.bind hstep.attempt fun result => ?_
  cases result with
  | ok value => exact Keeps.pure value
  | error e =>
      refine Keeps.get_bind fun c _ => ?_
      exact Keeps.bind (onShell_keeps (ShellControllerState.poison_keeps _)) fun _ => .throw _

theorem readyDeadline_keeps (a : LaunchAnswers) :
    Keeps (Holds top n) (readyDeadline a : Init ω Nat) := by
  refine Keeps.bind (Keeps.lift _) fun _ => Keeps.get_bind fun _ _ => Keeps.bind (Keeps.lift _) fun _ => ?_
  exact Keeps.bind (Keeps.okOr _ _) fun _ => Keeps.pure _

theorem launchConsole_triple (a : LaunchAnswers) : Triple (Holds top n)
    (launchConsole a : Init ω Launched)
    (fun launched c => n ≤ launched.transaction ∧ Holds top (launched.transaction + 1) c)
    (Holds top n) := by
  refine Triple.get_bind fun c hc => Triple.pre (P := Holds top n) ?_ (by rintro _ rfl; exact hc)
  refine Triple.bind (Keeps.lift _) fun _ => Triple.bind (Keeps.lift _) fun image => ?_
  refine Triple.bind (Keeps.lift _) fun _ => Triple.bind takeConsoleTransaction_triple fun t => ?_
  refine Triple.assume fun hle => ?_
  refine Triple.conseq (P := Holds top (t + 1)) (E := Holds top (t + 1))
    (Q := fun launched c => launched.transaction = t ∧ Holds top (t + 1) c) ?_ (fun _ => id)
    (fun launched c h => ⟨h.1 ▸ hle, h.1 ▸ h.2⟩) fun c h => h.le (Nat.le_succ_of_le hle)
  refine Triple.bind (issue_keeps _ _) fun _ => Triple.bind (issue_keeps _ _) fun launchGrant => ?_
  refine Triple.bind (Keeps.lift _) fun group => ?_
  refine Triple.bind (undone_keeps a (Keeps.lift _)) fun _ => ?_
  refine Triple.bind (undone_keeps a (Keeps.lift _)) fun _ => ?_
  refine Triple.bind (poisoning_keeps a (Keeps.lift _)) fun _ => ?_
  refine Triple.bind (poisoning_keeps a (Keeps.lift _)) fun _ => ?_
  refine Triple.bind (poisoning_keeps a (Keeps.lift _)) fun loaded => ?_
  refine Triple.bind (poisoning_keeps a (readyDeadline_keeps a)) fun deadline => ?_
  refine Triple.bind (poisoning_keeps a (Keeps.lift _)) fun _ => ?_
  refine Triple.bind (Q := fun _ => Holds top (t + 1)) ((Triple.modify _).pre fun _ h => h)
    fun _ => ?_
  exact (Triple.pure _).pre fun _ h => ⟨rfl, h⟩

/-! ## A request -/

theorem onShell_reserve_run (request : ShellV1Request) (c : Controller) :
    onShell (ShellControllerState.reserveShellGeneration request) c =
      if c.e6.shell.stale request then (.err (.wyr1bModel .staleGeneration), c, ([] : List ω))
      else (.ok (), { c with e6 := { c.e6 with shell := c.e6.shell.reserved request } }, []) := by
  unfold onShell Prog.within
  rw [reserveShellGeneration_run]
  split_ifs <;> rfl

/-- A request is refused before its reservation, or it is reserved and the state
is the one behind it, or it is refused as stale and nothing changes. -/
theorem acceptReservedShell_spec (a : AcceptAnswers) (console : Nat) (request : ShellV1Request)
    (c : Controller) : wp (acceptReservedShell a console request) (fun _ c' events =>
      (events = [] ∧ c' = c)
      ∨ (events = [⟨console, request, true⟩] ∧ c.e6.shell.stale request = false
        ∧ c' = { c with e6 := { c.e6 with shell := c.e6.shell.reserved request } })
      ∨ (events = [⟨console, request, false⟩] ∧ c.e6.shell.stale request = true ∧ c' = c)) c := by
  unfold acceptReservedShell
  rw [wp_rejectIf_bind]
  refine ⟨fun _ => Or.inl ⟨rfl, rfl⟩, fun _ => ?_⟩
  rw [wp_lift_bind]
  rcases a.authorizeWyrmsh with _ | _ | _
  · show wp (Prog.lift _ >>= _) _ c
    rw [wp_lift_bind]
    rcases a.beginReservedLaunch with _ | _ | _
    · rw [wp_bind, wp_attempt]
      unfold wp
      rw [onShell_reserve_run]
      split_ifs with hstale
      · exact Or.inr (Or.inr ⟨rfl, hstale, rfl⟩)
      · exact Or.inr (Or.inl ⟨rfl, eq_false_of_ne_true hstale, rfl⟩)
    · exact Or.inl ⟨rfl, rfl⟩
    · exact Or.inl ⟨rfl, rfl⟩
  · exact Or.inl ⟨rfl, rfl⟩
  · exact Or.inl ⟨rfl, rfl⟩

/-! ## The invariant -/

def accepted (l : List Reservation) : List ShellV1Request :=
  (l.filter Reservation.accepted).map Reservation.request

/-- What init has been asked for by the console of a transaction. -/
def servedOf (l : List Reservation) (console : Nat) : List ShellV1Request :=
  (l.filter (·.console = console)).map Reservation.request

structure Sound (l : List Reservation) (w : World) : Prop where
  marks : HighWater ShellV1Request.Above (accepted l) w.controller.e6.shell.mark
  spent : ∀ r ∈ l, r.console < w.controller.e6.nextConsoleTransaction
  console : ∀ p ∈ w.consoled,
    p.authorities.startupTransaction < w.controller.e6.nextConsoleTransaction
      ∧ p.InOrder (servedOf l p.authorities.startupTransaction)

variable {l : List Reservation} {w : World}

theorem Sound.init (h : Sound l w)
    (hc : Holds w.controller.e6.shell.mark w.controller.e6.nextConsoleTransaction c) :
    Sound l { w with controller := c } where
  marks := hc.1 ▸ h.marks
  spent r hr := Nat.lt_of_lt_of_le (h.spent r hr) hc.2
  console p hp := ⟨Nat.lt_of_lt_of_le (h.console p hp).1 hc.2, (h.console p hp).2⟩

theorem onInit_keeps {m : Init Reservation α} (h : ∀ top n, Keeps (Holds top n) m) :
    Keeps (Sound l) (onInit m) :=
  Keeps.within fun w hw => (h _ _).conseq (by rintro _ rfl; exact ⟨rfl, Nat.le_refl _⟩)
    (fun _ _ hc => hw.init hc) fun _ hc => hw.init hc

theorem onConsole_keeps {m : Consoled.Running Unit}
    (h : ∀ served authorities, Keeps (Consoled.Orderly served authorities) m) :
    Keeps (Sound l) (onConsole m) := by
  refine Keeps.iff.mpr ?_
  rintro ⟨controller, _ | p⟩ hw
  · exact ⟨rfl, hw⟩
  · obtain ⟨hspent, horder⟩ := hw.console p rfl
    obtain ⟨-, horder, hauthorities⟩ := Keeps.iff.mp (h _ _) p ⟨horder, rfl⟩
    refine ⟨rfl, hw.marks, hw.spent, ?_⟩
    rintro _ ⟨⟩
    rw [hauthorities]
    exact ⟨hspent, horder⟩

/-! ## One step -/

theorem process_orderly {launched : Launched} {p : Consoled.Process}
    (h : launched.process = some p) : p.InOrder [] ∧
      p.authorities.startupTransaction = launched.transaction := by
  unfold Launched.process at h
  split at h
  · rename_i p' hstart
    obtain rfl := Option.some.inj h
    obtain ⟨horder, hauthorities⟩ := Consoled.start_orderly hstart
    exact ⟨horder, by rw [hauthorities]⟩
  · cases h

theorem servedOf_fresh {console : Nat} (h : ∀ r ∈ l, r.console < console) :
    servedOf l console = [] := by
  unfold servedOf
  rw [List.map_eq_nil_iff, List.filter_eq_nil_iff]
  intro r hr
  simpa using Nat.ne_of_lt (h r hr)

theorem launch_keeps (a : LaunchAnswers) : Keeps (Sound l) (exec (.launchConsole a)) := by
  refine Triple.bind (Q := fun launched w => Sound l w ∧ (∀ r ∈ l, r.console < launched.transaction)
    ∧ launched.transaction < w.controller.e6.nextConsoleTransaction) ?_ fun launched => ?_
  · refine fun w hw => Triple.within ((launchConsole_triple a).conseq (fun _ => id)
      (fun launched c hc => ?_) fun c hc => hw.init hc) ⟨rfl, Nat.le_refl _⟩ w rfl
    obtain ⟨hle, hc⟩ := hc
    exact ⟨hw.init (hc.le (Nat.le_succ_of_le hle)), fun r hr => Nat.lt_of_lt_of_le (hw.spent r hr) hle,
      hc.2⟩
  · refine (Triple.modify _).pre fun w hw => ?_
    obtain ⟨hsound, hold, hnew⟩ := hw
    refine ⟨hsound.marks, hsound.spent, fun p hp => ?_⟩
    obtain ⟨horder, hauthorities⟩ := process_orderly hp
    rw [hauthorities, servedOf_fresh hold]
    exact ⟨hnew, horder⟩

/-- The request is above all that earlier consoles got accepted. -/
def Reservation.Clears (earlier : List Reservation) (r : Reservation) : Prop :=
  ∀ e ∈ earlier, e.accepted = true → e.console ≠ r.console → r.request.Above e.request

theorem mem_accepted {request : ShellV1Request} :
    request ∈ accepted l ↔ ∃ e ∈ l, e.accepted = true ∧ e.request = request := by
  simp [accepted, and_assoc]

theorem mem_servedOf {e : Reservation} (he : e ∈ l) : e.request ∈ servedOf l e.console :=
  List.mem_map_of_mem (List.mem_filter.mpr ⟨he, decide_eq_true rfl⟩)

variable {controller : Controller} {p : Consoled.Process} {reservation : Wrlj.Reservation}
  {request : ShellV1Request} {rest : List (Wrlj.Reservation × ShellV1Request)}

theorem Sound.above_served (h : Sound l ⟨controller, some p⟩)
    (hsent : p.sent = (reservation, request) :: rest) :
    ∀ earlier ∈ servedOf l p.authorities.startupTransaction, request.Above earlier := by
  intro earlier hearlier
  have hascending := (h.console p rfl).2.ascending
  unfold Consoled.Process.asked at hascending
  refine (List.pairwise_append.mp hascending).2.2 earlier hearlier request ?_
  rw [hsent]
  exact List.mem_cons_self ..

theorem Sound.stale_iff (h : Sound l ⟨controller, some p⟩)
    (hsent : p.sent = (reservation, request) :: rest) (accepts : Bool) :
    controller.e6.shell.stale request = false ↔
      Reservation.Clears l ⟨p.authorities.startupTransaction, request, accepts⟩ := by
  rw [stale_eq_false, h.marks.above_iff ShellV1Request.Above.trans]
  constructor
  · intro habove e he haccepted _
    exact habove _ (mem_accepted.mpr ⟨e, he, haccepted, rfl⟩)
  · intro hclears b hb
    obtain ⟨e, he, haccepted, rfl⟩ := mem_accepted.mp hb
    by_cases hconsole : e.console = p.authorities.startupTransaction
    · exact h.above_served hsent _ (hconsole ▸ mem_servedOf he)
    · exact hclears e he haccepted hconsole

theorem Sound.given (h : Sound l ⟨controller, some p⟩)
    (hsent : p.sent = (reservation, request) :: rest) : request.consoleGeneration ≠ 0 := by
  refine ((h.console p rfl).2.issued request ?_).given
  unfold Consoled.Process.asked
  rw [hsent]
  exact List.mem_append_right _ (List.mem_cons_self ..)

theorem Sound.serve (h : Sound l ⟨controller, some p⟩)
    (hsent : p.sent = (reservation, request) :: rest) {accepts : Bool} {controller' : Controller}
    (hnext : controller'.e6.nextConsoleTransaction = controller.e6.nextConsoleTransaction)
    (hmarks : HighWater ShellV1Request.Above
      (accepted (l ++ [⟨p.authorities.startupTransaction, request, accepts⟩]))
      controller'.e6.shell.mark) :
    Sound (l ++ [⟨p.authorities.startupTransaction, request, accepts⟩])
      ⟨controller', some { p with sent := rest }⟩ where
  marks := hmarks
  spent r hr := by
    show r.console < controller'.e6.nextConsoleTransaction
    rw [hnext]
    rcases List.mem_append.mp hr with hr | hr
    · exact h.spent r hr
    · rw [List.mem_singleton.mp hr]
      exact (h.console p rfl).1
  console := by
    rintro _ ⟨⟩
    have hserved : servedOf (l ++ [⟨p.authorities.startupTransaction, request, accepts⟩])
        p.authorities.startupTransaction =
          servedOf l p.authorities.startupTransaction ++ [request] := by
      simp [servedOf]
    show p.authorities.startupTransaction < controller'.e6.nextConsoleTransaction ∧
      Consoled.Process.InOrder (servedOf _ p.authorities.startupTransaction) _
    rw [hnext, hserved]
    exact ⟨(h.console p rfl).1, (h.console p rfl).2.serve hsent⟩

theorem accepted_snoc_true (console : Nat) :
    accepted (l ++ [⟨console, request, true⟩]) = accepted l ++ [request] := by
  simp [accepted]

theorem accepted_snoc_false (console : Nat) :
    accepted (l ++ [⟨console, request, false⟩]) = accepted l := by
  simp [accepted]

theorem serve_wp (a : AcceptAnswers) (hsent : p.sent = (reservation, request) :: rest)
    (Q : Outcome Fault Unit → World → List Reservation → Prop) :
    wp (serve a) Q ⟨controller, some p⟩ ↔
      wp (acceptReservedShell a p.authorities.startupTransaction request)
        (fun o c events => Q (o.mapErr .init) ⟨c, some { p with sent := rest }⟩ events) controller := by
  have hrun : serve a ⟨controller, some p⟩ =
      onInit (acceptReservedShell a p.authorities.startupTransaction request)
        ⟨controller, some { p with sent := rest }⟩ := by
    simp only [serve, hsent]
  unfold wp
  rw [hrun]
  rfl

theorem serve_idle (a : AcceptAnswers) (hsent : p.sent = []) :
    serve a ⟨controller, some p⟩ = (.ok (), ⟨controller, some p⟩, []) := by
  simp only [serve, hsent]

theorem serve_step (a : AcceptAnswers) (h : Sound l w) :
    wp (serve a) (fun _ w' events => Sound (l ++ events) w' ∧
      (events = [] ∨ ∃ r, events = [r] ∧ (r.accepted = true ↔ r.Clears l))) w := by
  obtain ⟨controller, _ | p⟩ := w
  · exact ⟨(List.append_nil l).symm ▸ h, Or.inl rfl⟩
  · rcases hsent : p.sent with _ | ⟨⟨reservation, request⟩, rest⟩
    · unfold wp
      rw [serve_idle a hsent]
      exact ⟨(List.append_nil l).symm ▸ h, Or.inl rfl⟩
    · rw [serve_wp a hsent]
      refine wp_mono (acceptReservedShell_spec a _ request controller) fun o c' events hcase => ?_
      rcases hcase with ⟨rfl, rfl⟩ | ⟨rfl, hfresh, rfl⟩ | ⟨rfl, hstale, rfl⟩
      · refine ⟨(List.append_nil l).symm ▸ ⟨h.marks, h.spent, ?_⟩, Or.inl rfl⟩
        rintro _ ⟨⟩
        exact ⟨(h.console p rfl).1, (h.console p rfl).2.drop hsent⟩
      · refine ⟨h.serve hsent rfl ?_, Or.inr ⟨_, rfl, ?_⟩⟩
        · rw [accepted_snoc_true]
          show HighWater _ _ (controller.e6.shell.reserved request).mark
          rw [mark_reserved (h.given hsent)]
          exact h.marks.pass ShellV1Request.Above.trans (stale_eq_false.mp hfresh)
        · exact ⟨fun _ => (h.stale_iff hsent true).mp hfresh, fun _ => rfl⟩
      · refine ⟨h.serve hsent rfl ?_, Or.inr ⟨_, rfl, ?_⟩⟩
        · rw [accepted_snoc_false]
          exact h.marks
        · refine ⟨(by rintro ⟨⟩), fun hclears => ?_⟩
          rw [(h.stale_iff hsent false).mpr hclears] at hstale
          cases hstale

theorem exec_keeps (op : Op) (hop : ∀ a, op ≠ .acceptReservedShell a) :
    Keeps (Sound l) (exec op) := by
  cases op with
  | launchConsole answers => exact launch_keeps answers
  | sessionClosed grant =>
      refine Keeps.bind (onInit_keeps fun _ _ => sessionClosed_keeps grant) fun _ => ?_
      exact Keeps.modify fun w hw => ⟨hw.marks, hw.spent, by rintro p ⟨⟩⟩
  | poison generation =>
      exact onInit_keeps fun _ _ => onShell_keeps (ShellControllerState.poison_keeps generation)
  | reserveReplacementGeneration generation =>
      exact onInit_keeps fun _ _ =>
        onShell_keeps (ShellControllerState.reserveReplacementGeneration_keeps generation)
  | commitRegistryReplacement generation =>
      exact onInit_keeps fun _ _ => commitRegistryReplacement_keeps generation
  | restartTopology generation =>
      exact onInit_keeps fun _ _ => onTopology_keeps (restart_keeps generation)
  | issue roleGeneration kind =>
      exact Keeps.bind (onInit_keeps fun _ _ => issue_keeps roleGeneration kind) fun _ => Keeps.pure ()
  | reserveInstallTransaction generation =>
      exact Keeps.bind (onInit_keeps fun _ _ => onShell_keeps
        (ShellControllerState.reserveInstallTransaction_keeps generation)) fun _ => Keeps.pure ()
  | acceptReservedShell answers => exact absurd rfl (hop answers)
  | model op =>
      exact onConsole_keeps fun _ _ => Keeps.bind (Consoled.console_keeps op 0) fun _ => Keeps.pure ()
  | takeTransaction =>
      exact onConsole_keeps fun _ _ => Keeps.bind Consoled.takeTransaction_keeps fun _ => Keeps.pure ()
  | launchChildOnce facts => exact onConsole_keeps fun _ _ => Consoled.launchChildOnce_keeps facts

theorem exec_step (op : Op) (h : Sound l w) :
    wp (exec op) (fun _ w' events => Sound (l ++ events) w' ∧
      (events = [] ∨ ∃ r, events = [r] ∧ (r.accepted = true ↔ r.Clears l))) w := by
  by_cases hop : ∃ a, op = .acceptReservedShell a
  · obtain ⟨a, rfl⟩ := hop
    exact serve_step a h
  · obtain ⟨hevents, hsound⟩ := Keeps.iff.mp (exec_keeps op fun a heq => hop ⟨a, heq⟩) w h
    refine ⟨?_, Or.inl hevents⟩
    rw [hevents, List.append_nil]
    exact hsound

/-! ## Every run -/

/-- Each request of the list is accepted exactly if it clears those before it. -/
def Judged (l : List Reservation) : Prop :=
  ∀ before r behind, l = before ++ r :: behind → (r.accepted = true ↔ r.Clears before)

theorem Judged.snoc (h : Judged l) {r : Reservation} (hr : r.accepted = true ↔ r.Clears l) :
    Judged (l ++ [r]) := by
  intro before r' behind heq
  rcases snoc_eq_append_cons heq with ⟨rfl, rfl, -⟩ | ⟨t, -, hl⟩
  · exact hr
  · exact h before r' t hl

theorem fresh_sound (h : Fresh w) : Sound [] w := by
  obtain ⟨registryGeneration, hstate, -, hnone⟩ := h
  obtain ⟨shell, hshell, hstate⟩ := bind_eq_ok.mp hstate
  obtain ⟨-, -, hshell⟩ := bind_eq_ok.mp hshell
  have hmark : w.controller.e6.shell.mark = none := by
    rw [← Outcome.ok.inj hstate, ← Outcome.ok.inj hshell]
    rfl
  refine ⟨hmark ▸ HighWater.empty, List.forall_mem_nil _, ?_⟩
  rw [hnone]
  rintro p ⟨⟩

theorem run_judged {h : List SuccessionCall} (hrun : Run exec Fresh h w) :
    Sound (reservations h) w ∧ Judged (reservations h) := by
  induction hrun with
  | start hfresh =>
      refine ⟨fresh_sound hfresh, fun before r behind heq => ?_⟩
      exact absurd heq (List.append_ne_nil_of_right_ne_nil _ (List.cons_ne_nil _ _)).symm
  | @call h w op _ _ ih =>
      have hsnoc : reservations (h ++ [callOf exec op w]) = reservations h ++ (exec op w).2.2 := by
        simp [reservations, callOf]
      obtain ⟨hsound, hjudged⟩ := exec_step op ih.1
      rw [hsnoc]
      refine ⟨hsound, ?_⟩
      rcases hjudged with hnone | ⟨r, hr, hjudged⟩
      · rw [hnone, List.append_nil]
        exact ih.2
      · rw [hr]
        exact ih.2.snoc hjudged

/-! ## A replacement console starts its shell -/

def freshWorld : World where
  controller.e6 := {
    console := none
    shell := {
      health := .healthy 7, nextInstallTransaction := wyrmshFirstInstallTransaction
      replacementAttempts := 0, lastConsoleGeneration := 0, lastStatusGeneration := 0
      lastChildGeneration := 0, recoveryDeadline := none }
    awaitingReady := false, bootstrapReleased := false, readyDeadline := 0, consoleTransaction := 0
    nextConsoleTransaction := firstConsoleTransaction, consoleLaunchAttempts := 0 }
  controller.topology := ⟨7, 1⟩
  consoled := none

/-- A launch in which nothing fails. -/
def goodLaunch : LaunchAnswers where
  image := .ok ⟨true, false⟩
  group := .ok 1
  registryPair := .ok (2, 3)
  installClient := .ok ()
  launchPair := .ok (4, 5)
  installScopedSession := .ok ()
  load := .ok ⟨6, 7⟩
  now := .ok 0
  attachSessionOwner := .ok ()
  closed := true

/-- A console is launched with this transaction and these endpoints, attaches
its serial line and asks for its first shell, which init reserves. -/
def consoleLife (transaction : Nat) (endpoint : UInt64) : List Op :=
  [.launchConsole goodLaunch, .takeTransaction, .takeTransaction, .takeTransaction,
    .model (.beginConnect ⟨7, endpoint, 1, 1, .ofNat (transaction + 3)⟩), .takeTransaction,
    .model (.attachConnected ⟨7, endpoint, 1, 1, .ofNat (transaction + 3), 2, 1, 1, 1, 1, 1, 1⟩ 1),
    .launchChildOnce ⟨true, true, true, true, true⟩,
    .acceptReservedShell ⟨false, .ok (), .ok (), true⟩]

/-- The first console dies with its shell, and init launches another one. -/
def twoConsoles : List Op :=
  consoleLife 0xE6000001 1 ++ [.sessionClosed ⟨7, 2, 1, 0xE6000001, .launchSession⟩]
    ++ consoleLife 0xE6000002 3

theorem twoConsoles_reservations : reservations (replay exec twoConsoles freshWorld).1 =
    [⟨0xE6000001, ⟨1, 0xE6000007, 2⟩, true⟩, ⟨0xE6000002, ⟨1, 0xE6000008, 2⟩, false⟩] := by
  decide +kernel

/-- No request is refused as stale, and one that does not exceed what the
console that runs has asked before would be. -/
def StartsShells (h : List SuccessionCall) (w : World) : Prop :=
  (∀ r ∈ reservations h, r.accepted = true) ∧
    ∀ p ∈ w.consoled, ∀ e ∈ reservations h, e.console = p.authorities.startupTransaction →
      ∀ request : ShellV1Request, request.statusGeneration ≤ e.request.statusGeneration ∨
        request.requestedChildGeneration ≤ e.request.requestedChildGeneration →
        (ShellControllerState.reserveShellGeneration request w.controller.e6.shell :
          Outcome InitError Unit × ShellControllerState × List Empty).1 =
            .err (.wyr1bModel .staleGeneration)

/-- Every console, a replacement too, gets the shells it asks for exactly when each
request is above all that the consoles before it got accepted. -/
theorem starts_shells_iff {h : List SuccessionCall} (hrun : Run exec Fresh h w) :
    StartsShells h w ↔ ∀ before r behind, reservations h = before ++ r :: behind →
      r.Clears before := by
  obtain ⟨hsound, hjudged⟩ := run_judged hrun
  constructor
  · intro hstarts before r behind heq
    refine (hjudged before r behind heq).mp (hstarts.1 r ?_)
    rw [heq]
    exact List.mem_append_right _ (List.mem_cons_self ..)
  · intro hclears
    have haccepted : ∀ r ∈ reservations h, r.accepted = true := by
      intro r hr
      obtain ⟨before, behind, heq⟩ := List.append_of_mem hr
      exact (hjudged before r behind heq).mpr (hclears before r behind heq)
    refine ⟨haccepted, fun p _ e he _ request hle => ?_⟩
    rw [reserveShellGeneration_run, if_pos ?_]
    by_contra hfresh
    have habove := (hsound.marks.above_iff ShellV1Request.Above.trans).mp
      (stale_eq_false.mp (eq_false_of_ne_true hfresh)) e.request
      (mem_accepted.mpr ⟨e, he, haccepted e he, rfl⟩)
    have hstatus := habove.status
    have hchild := habove.child
    omega

/-- A console that loses its first serial line before it asks for a shell. -/
def reattachedLife (transaction : Nat) (endpoint : UInt64) : List Op :=
  (consoleLife transaction endpoint).take 7 ++
    [.model (.serialPeerClosed ⟨7, endpoint, 1, 1, .ofNat (transaction + 3), 2, 1, 1, 1, 1, 1, 1⟩ 1 2),
      .takeTransaction,
      .model (.beginConnect ⟨7, endpoint, 1, 1, .ofNat (transaction + 4)⟩), .takeTransaction,
      .model (.attachConnected ⟨7, endpoint, 1, 1, .ofNat (transaction + 4), 2, 1, 1, 1, 1, 2, 2⟩ 3)]
    ++ (consoleLife transaction endpoint).drop 7

/-- A console whose shell starts, and a replacement whose request is above the marks. -/
def reattached : List Op :=
  consoleLife 0xE6000001 1 ++ [.sessionClosed ⟨7, 2, 1, 0xE6000001, .launchSession⟩]
    ++ reattachedLife 0xE6000002 3

/-- The shell of the replacement starts too. -/
theorem starts_shells_iff_reattached :
    reservations (replay exec reattached freshWorld).1 =
      [⟨0xE6000001, ⟨1, 0xE6000007, 2⟩, true⟩, ⟨0xE6000002, ⟨2, 0xE600000A, 3⟩, true⟩] ∧
    StartsShells (replay exec reattached freshWorld).1 (replay exec reattached freshWorld).2 := by
  have hpanic : ∀ o ∈ (replay exec reattached freshWorld).1.map Call.outcome, o ≠ .panic := by
    decide +kernel
  have htwo : reservations (replay exec reattached freshWorld).1 =
      [⟨0xE6000001, ⟨1, 0xE6000007, 2⟩, true⟩, ⟨0xE6000002, ⟨2, 0xE600000A, 3⟩, true⟩] := by
    decide +kernel
  have hrun : Run exec Fresh _ _ := Run.replay reattached (.start ⟨7, rfl, rfl, rfl⟩)
    fun c hc => hpanic _ (List.mem_map_of_mem hc)
  refine ⟨htwo, (starts_shells_iff hrun).mpr fun before r behind heq => ?_⟩
  rw [List.nil_append, htwo] at heq
  rcases before with _ | ⟨first, _ | ⟨second, before⟩⟩
  · exact List.forall_mem_nil _
  · obtain ⟨rfl, hrest⟩ := List.cons.inj heq
    obtain ⟨rfl, -⟩ := List.cons.inj hrest
    refine List.forall_mem_singleton.mpr fun _ _ => ?_
    decide
  · have hlength := congrArg List.length heq
    simp at hlength

/-- The replacement's first request is refused: its child generation is the one
that the first console's shell had. -/
theorem marks_outlive_console :
    ¬ ∀ (h : List SuccessionCall) (w : World), Run exec Fresh h w → StartsShells h w := by
  intro hall
  have hpanic : ∀ o ∈ (replay exec twoConsoles freshWorld).1.map Call.outcome, o ≠ .panic := by
    decide +kernel
  have hrun : Run exec Fresh _ _ := Run.replay twoConsoles (.start ⟨7, rfl, rfl, rfl⟩)
    fun c hc => hpanic _ (List.mem_map_of_mem hc)
  have hrefused := (hall _ _ hrun).1 ⟨0xE6000002, ⟨1, 0xE6000008, 2⟩, false⟩ (by
    rw [List.nil_append, twoConsoles_reservations]
    exact List.mem_cons_of_mem _ (List.mem_cons_self ..))
  cases hrefused

end Wyrmroot.Succession
