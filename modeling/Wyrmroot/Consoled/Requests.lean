import Wyrmroot.Lib.Component
import Wyrmroot.Consoled.Freshness
import Wyrmroot.Wrlj.Proto

/-!
# Asking for a shell

`consoled/src/main.rs`: `launch_child_once` up to the request it sends, in a
build that launches `wyrmsh`. The process owns a console model, the counter of
its transactions, and its end of the launch channel; what the kernel answers is
an argument (`LaunchFacts`). All generations of a request come from the model,
its status generation from the counter.
-/

namespace Wyrmroot.Consoled

open Outcome
open Loader (checkedAdd)

/-- What the process returns when it gives up. -/
abbrev ExitCode := Nat

/-! ## Transactions -/

structure TransactionIds where
  next : Nat
deriving DecidableEq

namespace TransactionIds

def after (startup : Nat) : Outcome ExitCode TransactionIds := do
  let next ← okOr (checkedAdd startup 1) 1
  rejectIf (next = 0) 1
  pure ⟨next⟩

def take : Prog TransactionIds Empty ExitCode Nat := do
  let self ← .get
  let next ← .okOr (checkedAdd self.next 1) 2
  .set ⟨next⟩
  .lift (rejectIf (self.next = 0) 2)
  pure self.next

end TransactionIds

/-! ## The process -/

structure ShellV1Request where
  consoleGeneration : Nat
  statusGeneration : Nat
  requestedChildGeneration : Nat
deriving DecidableEq

/-- The part of `StartupAuthorities` that a request carries. -/
structure StartupAuthorities where
  launchConnectionId : UInt64
  launchConnectionGeneration : UInt64
  startupTransaction : Nat
deriving DecidableEq

structure Process where
  authorities : StartupAuthorities
  transactions : TransactionIds
  world : World
  sent : List (Wrlj.Reservation × ShellV1Request)

abbrev Running (α : Type) := Prog Process Empty ExitCode α

/-- How the process starts. -/
def Process.start (authorities : StartupAuthorities) : Outcome ExitCode Process := do
  let transactions ← TransactionIds.after authorities.startupTransaction
  pure ⟨authorities, transactions, .new, []⟩

def takeTransaction : Running Nat :=
  .within Process.transactions (fun transactions p => { p with transactions }) id TransactionIds.take

/-- A call of the model; what it refuses ends the process. -/
def console (op : Op) (code : ExitCode) : Running Reply :=
  .within Process.world (fun world p => { p with world }) (fun _ => code) (exec op)

def Reply.launch : Reply → Option LaunchTransaction
  | .launching tx => some tx
  | _ => none

def Reply.token : Reply → Option LaunchCleanupToken
  | .aborting token => some token
  | _ => none

/-! ## A launch up to its request -/

/-- What the kernel answers: whether the pairs are created, whether the six
stream handles and the two status handles are closed, and whether the request
is sent. -/
structure LaunchFacts where
  streamPairs : Bool
  statusPair : Bool
  streamCloses : Bool
  statusCloses : Bool
  sends : Bool
deriving DecidableEq

/-- Every endpoint is given and given once, the three of the console are to be
closed, and the three of the child are to be closed unmoved. -/
def LaunchCleanup.unmoved (cleanup : LaunchCleanup) : Bool :=
  (∀ entry ∈ cleanup.entries.toList, entry.endpoint ≠ 0)
    && (cleanup.entries.toList.map EndpointCleanup.endpoint).Nodup
    && (∀ entry ∈ cleanup.entries.toList.take 3, entry.disposition = .closeConsoledPeer)
    && (∀ entry ∈ cleanup.entries.toList.drop 3, entry.disposition = .closeUnmovedChildPeer)

def finishLaunchAbort (facts : LaunchFacts) (transaction : LaunchTransaction) : Running Unit := do
  let reply ← console (.abortChildLaunch transaction) 95
  let token ← .okOr reply.token 95
  .lift (rejectIf (!token.cleanup.unmoved) 96)
  .lift (rejectIf (!facts.streamCloses) 97)
  let _ ← console (.completeAbortChildLaunch token
    ⟨.replicate 3 true, .replicate 3 true, .replicate 3 false⟩) 98
  pure ()

def closeStatusPair (facts : LaunchFacts) : Running Unit :=
  .lift (rejectIf (!facts.statusCloses) 93)

/-- A step of a launch: where it fails, `closes` is done and the launch aborted. -/
def orAbort {α : Type} (facts : LaunchFacts) (transaction : LaunchTransaction)
    (closes : Running Unit) (step : Running α) : Running α := do
  match ← .attempt step with
  | .ok a => pure a
  | .error code => do
      closes
      finishLaunchAbort facts transaction
      .throw code

/-- `Relationship::valid`, for the relationship of a launch. -/
def ShellV1Request.related (request : ShellV1Request) (outerLaunchTransaction : Nat) : Bool :=
  request.consoleGeneration ≠ 0 && request.statusGeneration ≠ 0
    && request.requestedChildGeneration ≠ 0 && outerLaunchTransaction ≠ 0

/-- What `encode_shell_v1_request` refuses to write. -/
def encodable (reservation : Wrlj.Reservation) (request : ShellV1Request) : Bool :=
  request.consoleGeneration ≠ 0 && request.statusGeneration ≠ 0
    && request.requestedChildGeneration ≠ 0 && reservation.connectionId ≠ 0
    && reservation.generation ≠ 0 && reservation.transactionId ≠ 0

def sendRequest (facts : LaunchFacts)
    (reservation : Wrlj.Reservation) (request : ShellV1Request) : Running Unit := do
  .lift (rejectIf (!encodable reservation request) 43)
  .lift (rejectIf (!facts.sends) 44)
  .modify fun p => { p with sent := p.sent ++ [(reservation, request)] }

/-- The launch from `begin_child_launch` on. -/
def requestShell (facts : LaunchFacts) (transactionId : Nat) (launch : LaunchTransaction) :
    Running Unit := do
  let statusGeneration ← orAbort facts launch (pure ()) takeTransaction
  let p ← .get
  let request : ShellV1Request := ⟨launch.consoleGeneration, statusGeneration, launch.childGeneration⟩
  let reservation : Wrlj.Reservation := ⟨p.authorities.launchConnectionId,
    p.authorities.launchConnectionGeneration, .ofNat transactionId⟩
  orAbort facts launch (pure ()) (.lift (rejectIf (!facts.statusPair) 42))
  orAbort facts launch (closeStatusPair facts)
    (.lift (rejectIf (!request.related transactionId) 42))
  orAbort facts launch (closeStatusPair facts) (sendRequest facts reservation request)

/-- `launch_child_once` up to `send_channel`. -/
def launchChildOnce (facts : LaunchFacts) : Running Unit := do
  let transactionId ← takeTransaction
  .lift (rejectIf (!facts.streamPairs) 42)
  let reply ← console (.beginChildLaunch (.ofNat transactionId)) 41
  let launch ← .okOr reply.launch 41
  requestShell facts transactionId launch

/-!
## A console's requests go up

A console asks for its shells in order: each request has a later status and a
later child generation than those before it, and no earlier console generation.
`InOrder` is the invariant of the process; the generations of its model and the
next transaction are above all that it has asked for, and no call and no aborted
launch takes one back.
-/

open ConsoleModel Prog

/-- A request behind another one of the same console. -/
structure ShellV1Request.Above (later earlier : ShellV1Request) : Prop where
  console : earlier.consoleGeneration ≤ later.consoleGeneration
  status : earlier.statusGeneration < later.statusGeneration
  child : earlier.requestedChildGeneration < later.requestedChildGeneration

namespace ShellV1Request

instance (later earlier : ShellV1Request) : Decidable (later.Above earlier) :=
  decidable_of_iff (earlier.consoleGeneration ≤ later.consoleGeneration
      ∧ earlier.statusGeneration < later.statusGeneration
      ∧ earlier.requestedChildGeneration < later.requestedChildGeneration)
    ⟨fun h => ⟨h.1, h.2.1, h.2.2⟩, fun h => ⟨h.console, h.status, h.child⟩⟩

theorem Above.trans {a b c : ShellV1Request} (hab : a.Above b) (hbc : b.Above c) : a.Above c where
  console := Nat.le_trans hbc.console hab.console
  status := Nat.lt_trans hbc.status hab.status
  child := Nat.lt_trans hbc.child hab.child

/-- The generations of the request have been handed out. -/
structure Issued (request : ShellV1Request) (m : ConsoleModel) (next : Nat) : Prop where
  given : request.consoleGeneration ≠ 0
  console : ∀ c ∈ m.consoleGeneration, request.consoleGeneration ≤ c
  consoleBelow : request.consoleGeneration < m.nextGeneration
  child : request.requestedChildGeneration < m.nextGeneration
  status : request.statusGeneration < next

end ShellV1Request

open ShellV1Request

variable {m m' : ConsoleModel} {op : Op} {o : Outcome ModelError Reply} {request : ShellV1Request}
  {next next' : Nat}

theorem console_moves (hmove : Moves m op o m') :
    ∀ c ∈ m'.consoleGeneration, c ∈ m.consoleGeneration ∨ m.nextGeneration ≤ c := by
  intro c hc
  cases hmove with
  | attached => exact .inr (Nat.le_of_eq (Option.some.inj hc))
  | abortedAfterLoss | lostIdle | cleaned => cases hc
  | _ => exact .inl hc

theorem ShellV1Request.Issued.moves (h : request.Issued m next) (hmove : Moves m op o m') :
    request.Issued m' next where
  given := h.given
  console c hc := by
    rcases console_moves hmove c hc with hc | hle
    · exact h.console c hc
    · exact Nat.le_trans (Nat.le_of_lt h.consoleBelow) hle
  consoleBelow := Nat.lt_of_lt_of_le h.consoleBelow (generations_moves hmove).le
  child := Nat.lt_of_lt_of_le h.child (generations_moves hmove).le
  status := h.status

theorem ShellV1Request.Issued.later (h : request.Issued m next) (hle : next ≤ next') :
    request.Issued m next' :=
  { h with status := Nat.lt_of_lt_of_le h.status hle }

/-! ## The process -/

namespace Process

/-- All that the console has asked for: `served` has reached init, the rest is
on the channel. -/
def asked (p : Process) (served : List ShellV1Request) : List ShellV1Request :=
  served ++ p.sent.map Prod.snd

structure InOrder (served : List ShellV1Request) (p : Process) : Prop where
  sound : p.world.Sound
  ascending : (p.asked served).Pairwise fun earlier later => later.Above earlier
  issued : ∀ r ∈ p.asked served, r.Issued p.world.model p.transactions.next

end Process

open Process

variable {served : List ShellV1Request} {authorities : StartupAuthorities}

/-- A step that leaves the process in order, under the same authorities. -/
abbrev Orderly (served : List ShellV1Request) (authorities : StartupAuthorities) (p : Process) :
    Prop :=
  p.InOrder served ∧ p.authorities = authorities

theorem exec_silent (op : Op) (w : World) : (exec op w).2.2 = [] := by
  unfold exec
  split_ifs <;> rfl

theorem exec_issued {w : World} (h : w.Sound) (op : Op) (hr : request.Issued w.model next) :
    request.Issued (exec op w).2.1.model next := by
  rcases exec_moves h op with ⟨-, hnot⟩ | ⟨-, hmove⟩
  · rw [hnot]
    exact hr
  · exact hr.moves hmove

variable {p : Process}

theorem Process.InOrder.exec (h : p.InOrder served) (op : Op) :
    Process.InOrder served { p with world := (exec op p.world).2.1 } where
  sound := exec_sound op _ h.sound
  ascending := h.ascending
  issued r hr := exec_issued h.sound op (h.issued r hr)

theorem console_keeps (op : Op) (code : ExitCode) :
    Keeps (Orderly served authorities) (console op code) := by
  refine Keeps.within fun p hp => ?_
  rintro _ rfl
  refine ⟨exec_silent op _, ?_⟩
  have hnext : Orderly served authorities { p with world := (exec op p.world).2.1 } :=
    ⟨hp.1.exec op, hp.2⟩
  rcases (exec op p.world).1 with reply | e | _ <;> exact hnext

theorem Process.InOrder.spend (h : p.InOrder served) {next : Nat}
    (hle : p.transactions.next ≤ next) :
    Process.InOrder served { p with transactions := ⟨next⟩ } where
  sound := h.sound
  ascending := h.ascending
  issued r hr := (h.issued r hr).later hle

theorem takeTransaction_triple {I : Process → Prop} (hI : ∀ p, I p → Orderly served authorities p)
    (hspend : ∀ p next, I p → p.transactions.next ≤ next → I { p with transactions := ⟨next⟩ }) :
    Triple I takeTransaction (fun n p => I p ∧ n < p.transactions.next
      ∧ ∀ r ∈ p.asked served, r.statusGeneration < n) (Orderly served authorities) := by
  intro p hp
  unfold takeTransaction TransactionIds.take
  rw [wp_within, wp_get_bind]
  cases hnext : checkedAdd p.transactions.next 1 with
  | none => exact ⟨rfl, hI p hp⟩
  | some next =>
      obtain rfl := (Loader.checkedAdd_eq_some.mp hnext).2
      have hle : p.transactions.next ≤ p.transactions.next + 1 := Nat.le_succ _
      rw [Prog.okOr_some, pure_bind, wp_bind, wp_set, wp_rejectIf_bind]
      refine ⟨fun _ => ⟨rfl, (hI p hp).1.spend hle, (hI p hp).2⟩, fun _ => ⟨rfl, ?_⟩⟩
      exact ⟨hspend p _ hp hle, Nat.lt_succ_self _, fun r hr => ((hI p hp).1.issued r hr).status⟩

theorem takeTransaction_keeps : Keeps (Orderly served authorities) takeTransaction :=
  (takeTransaction_triple (I := Orderly served authorities) (fun _ => id)
    fun _ _ hp hle => ⟨hp.1.spend hle, hp.2⟩).post fun _ _ hp => hp.1

theorem start_orderly (h : Process.start authorities = .ok p) :
    Orderly [] authorities p := by
  obtain ⟨transactions, -, hp⟩ := bind_eq_ok.mp h
  obtain rfl := Outcome.ok.inj hp
  exact ⟨⟨sound_new, .nil, List.forall_mem_nil _⟩, rfl⟩

variable {reservation : Wrlj.Reservation} {rest : List (Wrlj.Reservation × ShellV1Request)}

theorem Process.InOrder.serve (h : p.InOrder served)
    (hsent : p.sent = (reservation, request) :: rest) :
    Process.InOrder (served ++ [request]) { p with sent := rest } := by
  have hasked : Process.asked { p with sent := rest } (served ++ [request]) = p.asked served := by
    simp [Process.asked, hsent]
  exact ⟨h.sound, hasked ▸ h.ascending, hasked ▸ h.issued⟩

theorem Process.InOrder.drop (h : p.InOrder served)
    (hsent : p.sent = (reservation, request) :: rest) :
    Process.InOrder served { p with sent := rest } := by
  have hasked : (Process.asked { p with sent := rest } served).Sublist (p.asked served) := by
    refine (List.Sublist.refl served).append ?_
    rw [hsent]
    exact List.sublist_cons_self _ _
  exact ⟨h.sound, h.ascending.sublist hasked, fun r hr => h.issued r (hasked.subset hr)⟩

/-! ## A launch -/

/-- A launch that the model has begun: its generations are behind all that has
been asked for. -/
structure Began (served : List ShellV1Request) (authorities : StartupAuthorities)
    (launch : LaunchTransaction) (p : Process) : Prop where
  orderly : Orderly served authorities p
  given : launch.consoleGeneration ≠ 0
  current : ∀ c ∈ p.world.model.consoleGeneration, launch.consoleGeneration ≤ c
  consoleBelow : launch.consoleGeneration < p.world.model.nextGeneration
  childBelow : launch.childGeneration < p.world.model.nextGeneration
  console : ∀ r ∈ p.asked served, r.consoleGeneration ≤ launch.consoleGeneration
  child : ∀ r ∈ p.asked served, r.requestedChildGeneration < launch.childGeneration

theorem Reply.launch_eq_some {reply : Reply} {launch : LaunchTransaction} :
    reply.launch = some launch ↔ reply = .launching launch := by
  cases reply <;> simp [Reply.launch]

/-- `begin_child_launch` hands out a child generation that is behind all others. -/
theorem beginLaunch_began (hp : Orderly served authorities p) {childLaunch : UInt64}
    {launch : LaunchTransaction}
    (hreply : (exec (.beginChildLaunch childLaunch) p.world).1 = .ok (.launching launch)) :
    Began served authorities launch
      { p with world := (exec (.beginChildLaunch childLaunch) p.world).2.1 } := by
  have horderly : Orderly served authorities
      { p with world := (exec (.beginChildLaunch childLaunch) p.world).2.1 } :=
    ⟨hp.1.exec _, hp.2⟩
  rcases exec_moves hp.1.sound (.beginChildLaunch childLaunch) with ⟨hsome, -⟩ | ⟨-, hmove⟩
  · cases hsome
  · rw [hreply] at hmove
    generalize (exec (.beginChildLaunch childLaunch) p.world).2.1 = w at horderly hmove ⊢
    obtain ⟨model, held⟩ := w
    cases hmove with
    | launching _ _ _ hconsole =>
        have hgiven := hp.1.sound.identities.ofConsole _ hconsole
        exact {
          orderly := horderly
          given := Nat.ne_of_gt hgiven.1
          current := fun c hc => Nat.le_of_eq (Option.some.inj (hconsole.symm.trans hc))
          consoleBelow := Nat.lt_succ_of_lt hgiven.2
          childBelow := Nat.lt_succ_self _
          console := fun r hr => (hp.1.issued r hr).console _ hconsole
          child := fun r hr => (hp.1.issued r hr).child }

theorem Began.spend {launch : LaunchTransaction}
    (h : Began served authorities launch p) {next : Nat} (hle : p.transactions.next ≤ next) :
    Began served authorities launch { p with transactions := ⟨next⟩ } :=
  { h with orderly := ⟨h.orderly.1.spend hle, h.orderly.2⟩ }

theorem Began.send {launch : LaunchTransaction}
    (h : Began served authorities launch p) {statusGeneration : Nat}
    (hspent : statusGeneration < p.transactions.next)
    (hstatus : ∀ r ∈ p.asked served, r.statusGeneration < statusGeneration)
    (reservation : Wrlj.Reservation) :
    Orderly served authorities { p with sent := p.sent ++
      [(reservation, ⟨launch.consoleGeneration, statusGeneration, launch.childGeneration⟩)] } := by
  have hasked : Process.asked { p with sent := p.sent ++
      [(reservation, ⟨launch.consoleGeneration, statusGeneration, launch.childGeneration⟩)] } served =
      p.asked served ++ [⟨launch.consoleGeneration, statusGeneration, launch.childGeneration⟩] := by
    simp [Process.asked]
  refine ⟨⟨h.orderly.1.sound, ?_, ?_⟩, h.orderly.2⟩
  · rw [hasked]
    refine List.pairwise_append.mpr ⟨h.orderly.1.ascending, List.pairwise_singleton _ _, ?_⟩
    intro r hr later hlater
    rw [List.mem_singleton.mp hlater]
    exact ⟨h.console r hr, hstatus r hr, h.child r hr⟩
  · rw [hasked]
    intro r hr
    rcases List.mem_append.mp hr with hr | hr
    · exact h.orderly.1.issued r hr
    · rw [List.mem_singleton.mp hr]
      exact ⟨h.given, h.current, h.consoleBelow, h.childBelow, hspent⟩

/-! ## The program -/

theorem finishLaunchAbort_keeps (facts : LaunchFacts) (launch : LaunchTransaction) :
    Keeps (Orderly served authorities) (finishLaunchAbort facts launch) := by
  refine Keeps.bind (console_keeps _ _) fun reply => Keeps.bind (Keeps.okOr _ _) fun token => ?_
  refine Keeps.bind (Keeps.lift _) fun _ => Keeps.bind (Keeps.lift _) fun _ => ?_
  exact Keeps.bind (console_keeps _ _) fun _ => Keeps.pure ()

theorem closeStatusPair_keeps (facts : LaunchFacts) :
    Keeps (Orderly served authorities) (closeStatusPair facts) := Keeps.lift _

theorem orAbort_triple {α : Type} {P : Process → Prop} {Q : α → Process → Prop}
    {closes : Running Unit} {step : Running α} (facts : LaunchFacts) (launch : LaunchTransaction)
    (hcloses : Keeps (Orderly served authorities) closes)
    (hstep : Triple P step Q (Orderly served authorities)) :
    Triple P (orAbort facts launch closes step) Q (Orderly served authorities) := by
  refine hstep.attempt.bind fun result => ?_
  cases result with
  | ok a => exact .pure a
  | error code =>
      refine Triple.bind hcloses fun _ => ?_
      exact Triple.bind (finishLaunchAbort_keeps facts launch) fun _ => .throw code

theorem orAbort_check {closes : Running Unit} (facts : LaunchFacts)
    (launch : LaunchTransaction) (hcloses : Keeps (Orderly served authorities) closes)
    (hp : Orderly served authorities p) (x : Outcome ExitCode Unit) :
    Triple (· = p) (orAbort facts launch closes (.lift x)) (fun _ => (· = p))
      (Orderly served authorities) :=
  orAbort_triple facts launch hcloses
    (Triple.lift (fun _ _ _ => id) (by rintro _ rfl; exact hp))

theorem requestShell_triple (facts : LaunchFacts) (transactionId : Nat)
    (launch : LaunchTransaction) :
    Triple (Began served authorities launch) (requestShell facts transactionId launch)
      (fun _ => Orderly served authorities) (Orderly served authorities) := by
  have hnothing : Keeps (Orderly served authorities) (Pure.pure () : Running Unit) := Keeps.pure ()
  refine (orAbort_triple facts launch hnothing (takeTransaction_triple (fun _ h => h.orderly)
    fun _ _ h hle => h.spend hle)).bind fun statusGeneration => ?_
  refine Triple.get_bind fun p hp => ?_
  obtain ⟨hbegan, hspent, hstatus⟩ := hp
  refine (orAbort_check facts launch hnothing hbegan.orderly _).bind fun _ => ?_
  refine (orAbort_check facts launch (closeStatusPair_keeps facts) hbegan.orderly _).bind fun _ => ?_
  refine orAbort_triple facts launch (closeStatusPair_keeps facts) ?_
  have hcheck : ∀ x : Outcome ExitCode Unit, Triple (· = p) (Prog.lift x : Running Unit)
      (fun _ => (· = p)) (Orderly served authorities) := fun x =>
    Triple.lift (fun _ _ _ => id) (by rintro _ rfl; exact hbegan.orderly)
  refine (hcheck _).bind fun _ => (hcheck _).bind fun _ => ?_
  refine (Triple.modify _).pre ?_
  rintro _ rfl
  exact hbegan.send hspent hstatus _

theorem launchChildOnce_keeps (facts : LaunchFacts) :
    Keeps (Orderly served authorities) (launchChildOnce facts) := by
  refine Keeps.bind takeTransaction_keeps fun transactionId => Keeps.bind (Keeps.lift _) fun _ => ?_
  refine Triple.bind (Q := fun reply p => Orderly served authorities p ∧
    ∀ launch, reply = .launching launch → Began served authorities launch p) ?_ fun reply => ?_
  · intro p hp
    have hnext : Orderly served authorities
        { p with world := (exec (.beginChildLaunch (.ofNat transactionId)) p.world).2.1 } :=
      ⟨hp.1.exec _, hp.2⟩
    have hbegan := fun launch => @beginLaunch_began _ _ p hp (.ofNat transactionId) launch
    unfold console
    rw [wp_within]
    refine ⟨exec_silent _ _, ?_⟩
    rcases hreply : (exec (.beginChildLaunch (.ofNat transactionId)) p.world).1 with reply | e | _
    · exact ⟨hnext, fun launch heq => hbegan launch (hreply.trans (congrArg Outcome.ok heq))⟩
    · exact hnext
    · exact hnext
  · refine Triple.bind (Q := fun launch => Began served authorities launch) ?_
      fun launch => requestShell_triple facts transactionId launch
    exact Triple.okOr (fun launch hsome _ h => h.2 launch (Reply.launch_eq_some.mp hsome))
      fun _ h => h.1

end Wyrmroot.Consoled
