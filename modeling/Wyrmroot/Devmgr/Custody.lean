import Wyrmroot.Lib.Monitor
import Wyrmroot.Devmgr.Connector

/-!
# Who holds the endpoints

The life of the two endpoints of each attach, seen from outside the broker:
what its answers have the native code do, and what the accepted observations
say. `custody` reads these events, keeps a ledger of every attach, and
refuses an event that the holder of the endpoint could not cause: devmgr
closes and moves only what it holds, and a client or driver gives back only
what was moved to it.

`Effect` is the connector without its states: at most one pair is held, and
what becomes of it. `Effect.ledger` says that each effect is lawful custody.
-/

namespace Wyrmroot.Devmgr

open Function

inductive Side where
  | client
  | driver
deriving DecidableEq

/-- What happens to endpoints. -/
inductive Event where
  | allocated (attach : AttachCorrelation)
  | driverMoved (attach : AttachCorrelation)
  | clientMoved (identity : ConnectorIdentity)
  | closed (side : Side) (attach : AttachCorrelation)
  | clientReleased (attach : AttachCorrelation)
  | driverDetached (message : ControlMessageV1_1)
  | reaped (driver : PublishedDriver)
deriving DecidableEq

def actionEvents : ConnectorAction → List Event
  | .allocatePair attach _ => [.allocated attach]
  | .moveDriverEndpoint attach => [.driverMoved attach]
  | .moveClientEndpoint (.connected identity) => [.clientMoved identity]
  | .moveClientEndpoint _ => []
  | .closePreMovePair attach => [.closed .client attach, .closed .driver attach]
  | .closeRetainedClientAndRequestDriverRelease attach => [.closed .client attach]
  | .closeRetainedClient attach => [.closed .client attach]

/-- The events of a call: those of the action it returned, and the release
that it accepted. -/
def eventsOf (op : Op) (o : Outcome ConnectorModelError Reply) : List Event :=
  match op, o with
  | .driverAttemptReaped driver, .ok (.optional action) =>
      .reaped driver :: action.toList.flatMap actionEvents
  | .activeClientReleased attach, .ok _ => [.clientReleased attach]
  | .clientReleaseObserved attach, .ok _ => [.clientReleased attach]
  | .driverDetached message, .ok _ => [.driverDetached message]
  | _, .ok (.action action) => actionEvents action
  | _, .ok (.optional action) => action.toList.flatMap actionEvents
  | _, .ok (.attach attach) => [.clientReleased attach]
  | _, _ => []

/-! ## The ledger -/

/-- The two endpoints of an attach: who holds each, and how often it was
released. -/
structure Entry where
  attach : AttachCorrelation
  owner : Side → EndpointOwner
  releases : Side → Nat

namespace Entry

def new (attach : AttachCorrelation) : Entry := ⟨attach, fun _ => .devmgr, fun _ => 0⟩

def move (side : Side) (taker : EndpointOwner) (e : Entry) : Entry :=
  { e with owner := update e.owner side taker }

def release (side : Side) (e : Entry) : Entry :=
  { e with owner := update e.owner side .released,
           releases := update e.releases side (e.releases side + 1) }

end Entry

abbrev Ledger := List Entry

/-- Change the entries of an attach, if there are any and `owner` holds the
endpoint in each. -/
def change (ledger : Ledger) (who : Entry → Bool) (side : Side) (owner : EndpointOwner)
    (f : Entry → Entry) : Option Ledger :=
  if ledger.any who && ledger.all (fun e => !who e || e.owner side = owner) then
    some (ledger.map fun e => if who e then f e else e)
  else none

def custodyStep (ledger : Ledger) : Event → Option Ledger
  | .allocated attach => some (ledger ++ [.new attach])
  | .driverMoved attach =>
      change ledger (·.attach = attach) .driver .devmgr (.move .driver .driver)
  | .clientMoved identity =>
      change ledger (·.attach.connectorIdentity = identity) .client .devmgr (.move .client .client)
  | .closed side attach => change ledger (·.attach = attach) side .devmgr (.release side)
  | .clientReleased attach => change ledger (·.attach = attach) .client .client (.release .client)
  | .driverDetached message =>
      change ledger (·.attach.detachedMessage = message) .driver .driver (.release .driver)
  | .reaped driver => some (ledger.map fun e =>
      if e.attach.driver = driver ∧ e.owner .driver = .driver then e.release .driver else e)

def custody : Monitor Event Ledger where
  step := custodyStep
  assume _ := True

/-! ## The pair in the slot -/

def PairOwnership.at (pair : PairOwnership) : Side → EndpointOwner
  | .client => pair.client
  | .driver => pair.driver

def PairOwnership.give (pair : PairOwnership) (side : Side) (taker : EndpointOwner) :
    PairOwnership :=
  match side with
  | .client => { pair with client := taker }
  | .driver => { pair with driver := taker }

/-- The entry of a pair that was released where its owner says so. -/
def entryOf (attach : AttachCorrelation) (pair : PairOwnership) : Entry where
  attach := attach
  owner := pair.at
  releases side := if pair.at side = .released then 1 else 0

/-- Both endpoints were released, each once. -/
def Settled (e : Entry) : Prop := ∀ side, e.owner side = .released ∧ e.releases side = 1

abbrev Held := Option (AttachCorrelation × PairOwnership)

/-- A pair is held until both endpoints are released. -/
def heldOf (attach : AttachCorrelation) (pair : PairOwnership) : Held :=
  if pair = ⟨.released, .released⟩ then none else some (attach, pair)

/-- What can become of the pair that is held. -/
inductive Effect : Held → List Event → Held → Prop
  | nothing (held : Held) : Effect held [] held
  | allocate (attach : AttachCorrelation) :
      Effect none [.allocated attach] (some (attach, ⟨.devmgr, .devmgr⟩))
  | moveDriver (attach : AttachCorrelation) :
      Effect (some (attach, ⟨.devmgr, .devmgr⟩)) [.driverMoved attach]
        (some (attach, ⟨.devmgr, .driver⟩))
  | moveClient (attach : AttachCorrelation) :
      Effect (some (attach, ⟨.devmgr, .driver⟩)) [.clientMoved attach.connectorIdentity]
        (some (attach, ⟨.client, .driver⟩))
  | closePair (attach : AttachCorrelation) :
      Effect (some (attach, ⟨.devmgr, .devmgr⟩)) [.closed .client attach, .closed .driver attach]
        none
  | closeClient (attach : AttachCorrelation) :
      Effect (some (attach, ⟨.devmgr, .driver⟩)) [.closed .client attach]
        (some (attach, ⟨.released, .driver⟩))
  | releaseClient (attach : AttachCorrelation) (other : EndpointOwner) :
      Effect (some (attach, ⟨.client, other⟩)) [.clientReleased attach]
        (heldOf attach ⟨.released, other⟩)
  | detach (attach : AttachCorrelation) (other : EndpointOwner) :
      Effect (some (attach, ⟨other, .driver⟩)) [.driverDetached attach.detachedMessage]
        (heldOf attach ⟨other, .released⟩)
  | reapNothing (driver : PublishedDriver) {held : Held}
      (h : ∀ attach pair, held = some (attach, pair) → pair.driver ≠ .driver) :
      Effect held [.reaped driver] held
  | reap (attach : AttachCorrelation) (other : EndpointOwner) :
      Effect (some (attach, ⟨other, .driver⟩)) [.reaped attach.driver]
        (heldOf attach ⟨other, .released⟩)
  | reapPair (attach : AttachCorrelation) :
      Effect (some (attach, ⟨.devmgr, .devmgr⟩))
        [.reaped attach.driver, .closed .client attach, .closed .driver attach] none
  | reapClient (attach : AttachCorrelation) :
      Effect (some (attach, ⟨.devmgr, .driver⟩)) [.reaped attach.driver, .closed .client attach]
        none

/-- The attaches that are allocated. -/
def allocations (events : List Event) : List AttachCorrelation :=
  events.filterMap fun
    | .allocated attach => some attach
    | _ => none

variable {events : List Event}

theorem Effect.same {held held' : Held} (h : Effect held events held')
    (hnone : allocations events = []) {attach : AttachCorrelation} {pair : PairOwnership}
    (hheld : held' = some (attach, pair)) : ∃ pair₀, held = some (attach, pair₀) := by
  have hof : ∀ {attach' : AttachCorrelation} {pair' : PairOwnership},
      heldOf attach' pair' = some (attach, pair) → attach' = attach := by
    intro attach' pair' hof
    unfold heldOf at hof
    split_ifs at hof
    exact congrArg Prod.fst (Option.some.inj hof)
  cases h with
  | nothing | reapNothing _ _ => exact ⟨pair, hheld⟩
  | allocate _ => cases hnone
  | releaseClient _ _ | detach _ _ | reap _ _ => exact ⟨_, by rw [hof hheld]⟩
  | closePair _ | reapPair _ | reapClient _ => cases hheld
  | moveDriver _ | moveClient _ | closeClient _ =>
      cases hheld
      exact ⟨_, rfl⟩

/-! ## Effects are lawful -/

section Lawful

variable {done : Ledger} {e : Entry} {attach : AttachCorrelation} {pair : PairOwnership}
  {side : Side} {who : Entry → Bool}

theorem change_last {owner : EndpointOwner} {f : Entry → Entry}
    (hdone : ∀ d ∈ done, who d = false) (hwho : who e = true) (howner : e.owner side = owner) :
    change (done ++ [e]) who side owner f = some (done ++ [f e]) := by
  have hany : (done ++ [e]).any who = true :=
    List.any_eq_true.mpr ⟨e, List.mem_append_right _ (List.mem_singleton_self e), hwho⟩
  have hall : (done ++ [e]).all (fun d => !who d || d.owner side = owner) = true := by
    rw [List.all_eq_true]
    intro d hd
    rcases List.mem_append.mp hd with hd | hd
    · rw [hdone d hd]
      rfl
    · rw [List.mem_singleton.mp hd, decide_eq_true howner, Bool.or_true]
  have hmap : done.map (fun d => if who d then f d else d) = done := by
    refine (List.map_congr_left fun d hd => ?_).trans (List.map_id done)
    rw [hdone d hd]
    rfl
  rw [change, hany, hall, List.map_append, List.map_singleton, hmap, hwho]
  rfl

theorem entryOf_move {taker : EndpointOwner} (h : pair.at side ≠ .released)
    (htaker : taker ≠ .released) :
    (entryOf attach pair).move side taker = entryOf attach (pair.give side taker) := by
  cases side
  all_goals
    simp only [PairOwnership.at] at h
    simp only [Entry.move, entryOf, PairOwnership.give, Entry.mk.injEq, true_and]
    refine ⟨funext fun other => ?_, funext fun other => ?_⟩
    all_goals cases other
    all_goals first
      | rfl
      | simp [PairOwnership.at, h, htaker]

theorem entryOf_release (h : pair.at side ≠ .released) :
    (entryOf attach pair).release side = entryOf attach (pair.give side .released) := by
  cases side
  all_goals
    simp only [PairOwnership.at] at h
    simp only [Entry.release, entryOf, PairOwnership.give, Entry.mk.injEq, true_and]
    refine ⟨funext fun other => ?_, funext fun other => ?_⟩
    all_goals cases other
    all_goals first
      | rfl
      | simp [PairOwnership.at, h]

theorem change_move {owner taker : EndpointOwner}
    (hdone : ∀ d ∈ done, who d = false) (hwho : who (entryOf attach pair) = true)
    (howner : pair.at side = owner) (hheld : owner ≠ .released) (htaker : taker ≠ .released) :
    change (done ++ [entryOf attach pair]) who side owner (.move side taker) =
      some (done ++ [entryOf attach (pair.give side taker)]) := by
  rw [change_last hdone hwho howner, entryOf_move (howner.symm ▸ hheld) htaker]

theorem change_release {owner : EndpointOwner}
    (hdone : ∀ d ∈ done, who d = false) (hwho : who (entryOf attach pair) = true)
    (howner : pair.at side = owner) (hheld : owner ≠ .released) :
    change (done ++ [entryOf attach pair]) who side owner (.release side) =
      some (done ++ [entryOf attach (pair.give side .released)]) := by
  rw [change_last hdone hwho howner, entryOf_release (howner.symm ▸ hheld)]

theorem reaped_idle {driver : PublishedDriver} {ledger : Ledger}
    (h : ∀ d ∈ ledger, d.owner .driver ≠ .driver) :
    custodyStep ledger (.reaped driver) = some ledger := by
  refine congrArg some ((List.map_congr_left fun d hd => ?_).trans (List.map_id ledger))
  rw [if_neg fun hreaped => h d hd hreaped.2]
  rfl

theorem reaped_last (hdone : ∀ d ∈ done, Settled d) (h : pair.driver = .driver) :
    custodyStep (done ++ [entryOf attach pair]) (.reaped attach.driver) =
      some (done ++ [entryOf attach (pair.give .driver .released)]) := by
  have hidle : done.map (fun d => if d.attach.driver = attach.driver ∧ d.owner .driver = .driver then
      d.release .driver else d) = done := by
    refine (List.map_congr_left fun d hd => ?_).trans (List.map_id done)
    have hreleased := (hdone d hd .driver).1
    rw [if_neg fun hreaped => by rw [hreleased] at hreaped; cases hreaped.2]
    rfl
  have hlast : (entryOf attach pair).release .driver = entryOf attach (pair.give .driver .released) :=
    entryOf_release (by rw [PairOwnership.at, h]; decide)
  rw [custodyStep, List.map_append, hidle, List.map_singleton, if_pos ⟨rfl, h⟩, hlast]

def entries : Held → Ledger
  | none => []
  | some held => [entryOf held.1 held.2]

/-- The ledger of a connector that holds this pair: every other attach is
settled. -/
def Tracks (ledger : Ledger) (held : Held) : Prop :=
  ∃ done, ledger = done ++ entries held ∧ ∀ e ∈ done, Settled e

theorem tracks_heldOf (hdone : ∀ d ∈ done, Settled d) :
    Tracks (done ++ [entryOf attach pair]) (heldOf attach pair) := by
  unfold heldOf
  split_ifs with h
  · refine ⟨done ++ [entryOf attach pair], (List.append_nil _).symm, fun e he => ?_⟩
    rcases List.mem_append.mp he with he | he
    · exact hdone e he
    · rw [List.mem_singleton.mp he, h]
      intro side
      cases side <;> exact ⟨rfl, rfl⟩
  · exact ⟨done, rfl, hdone⟩

theorem lawful_of_run {pair' : PairOwnership} (hdone : ∀ d ∈ done, Settled d)
    (hrun : custody.run (done ++ [entryOf attach pair]) events =
      some (done ++ [entryOf attach pair'])) (hnone : allocations events = []) :
    ∃ ledger, custody.run (done ++ entries (some (attach, pair))) events = some ledger ∧
      Tracks ledger (heldOf attach pair') ∧ ledger.map Entry.attach =
        (done ++ entries (some (attach, pair))).map Entry.attach ++ allocations events := by
  refine ⟨_, hrun, tracks_heldOf hdone, ?_⟩
  rw [hnone, List.append_nil, List.map_append, List.map_append]
  rfl

theorem run_cons {ledger ledger₁ ledger₂ : Ledger} {event : Event}
    (hstep : custodyStep ledger event = some ledger₁)
    (hrun : custody.run ledger₁ events = some ledger₂) :
    custody.run ledger (event :: events) = some ledger₂ := by
  rw [Monitor.run_cons]
  show (custodyStep ledger event).bind _ = _
  rw [hstep, Option.bind_some, hrun]

theorem other_attach
    (hother : ∀ d ∈ done, d.attach.attachTransactionId ≠ attach.attachTransactionId) :
    ∀ d ∈ done, decide (d.attach = attach) = false := fun d hd =>
  decide_eq_false fun hsame => hother d hd (congrArg _ hsame)

theorem other_identity
    (hother : ∀ d ∈ done, d.attach.attachTransactionId ≠ attach.attachTransactionId) :
    ∀ d ∈ done, decide (d.attach.connectorIdentity = attach.connectorIdentity) = false :=
  fun d hd => decide_eq_false fun hsame =>
    hother d hd (congrArg ConnectorIdentity.attachTransactionId hsame)

theorem other_message
    (hother : ∀ d ∈ done, d.attach.attachTransactionId ≠ attach.attachTransactionId) :
    ∀ d ∈ done, decide (d.attach.detachedMessage = attach.detachedMessage) = false := by
  intro d hd
  refine decide_eq_false fun hsame => hother d hd ?_
  simp only [AttachCorrelation.detachedMessage, ControlMessageV1_1.streamDetached.injEq] at hsame
  exact congrArg ControlIdentityV1_1.transactionId hsame.1

/-- Each effect is lawful custody of the endpoints. -/
theorem Effect.lawful {held held' : Held} (h : Effect held events held')
    (hdone : ∀ d ∈ done, Settled d)
    (hother : ∀ attach pair, held = some (attach, pair) →
      ∀ d ∈ done, d.attach.attachTransactionId ≠ attach.attachTransactionId) :
    ∃ ledger, custody.run (done ++ entries held) events = some ledger ∧ Tracks ledger held' ∧
      ledger.map Entry.attach = (done ++ entries held).map Entry.attach ++ allocations events := by
  have hidle : ∀ d ∈ done, d.owner .driver ≠ .driver := fun d hd hdriver => by
    rw [(hdone d hd .driver).1] at hdriver
    cases hdriver
  cases h with
  | nothing =>
      exact ⟨_, rfl, ⟨done, rfl, hdone⟩, (List.append_nil _).symm⟩
  | allocate attach =>
      have hnew : Entry.new attach = entryOf attach ⟨.devmgr, .devmgr⟩ := by
        simp only [Entry.new, entryOf, Entry.mk.injEq, true_and]
        exact ⟨funext fun side => by cases side <;> rfl, funext fun side => by cases side <;> rfl⟩
      refine ⟨done ++ [.new attach], ?_, ⟨done, ?_, hdone⟩, ?_⟩
      · rw [entries, List.append_nil]
        rfl
      · rw [hnew]
        rfl
      · simp [entries, allocations, Entry.new]
  | moveDriver attach =>
      have hne := other_attach (hother _ _ rfl)
      have hmove : custodyStep (done ++ [entryOf attach ⟨.devmgr, .devmgr⟩]) (.driverMoved attach) =
          some (done ++ [entryOf attach ⟨.devmgr, .driver⟩]) :=
        change_move hne (decide_eq_true rfl) rfl nofun nofun
      have hrun := run_cons hmove (Monitor.run_nil _)
      exact lawful_of_run hdone hrun rfl
  | moveClient attach =>
      have hne := other_identity (hother _ _ rfl)
      have hmove : custodyStep (done ++ [entryOf attach ⟨.devmgr, .driver⟩])
          (.clientMoved attach.connectorIdentity) =
            some (done ++ [entryOf attach ⟨.client, .driver⟩]) :=
        change_move hne (decide_eq_true rfl) rfl nofun nofun
      have hrun := run_cons hmove (Monitor.run_nil _)
      exact lawful_of_run hdone hrun rfl
  | closePair attach =>
      have hne := other_attach (hother _ _ rfl)
      have hclient : custodyStep (done ++ [entryOf attach ⟨.devmgr, .devmgr⟩])
          (.closed .client attach) = some (done ++ [entryOf attach ⟨.released, .devmgr⟩]) :=
        change_release hne (decide_eq_true rfl) rfl nofun
      have hdriver : custodyStep (done ++ [entryOf attach ⟨.released, .devmgr⟩])
          (.closed .driver attach) = some (done ++ [entryOf attach ⟨.released, .released⟩]) :=
        change_release hne (decide_eq_true rfl) rfl nofun
      have hrun := run_cons hclient (run_cons hdriver (Monitor.run_nil _))
      exact lawful_of_run hdone hrun rfl
  | closeClient attach =>
      have hne := other_attach (hother _ _ rfl)
      have hclient : custodyStep (done ++ [entryOf attach ⟨.devmgr, .driver⟩])
          (.closed .client attach) = some (done ++ [entryOf attach ⟨.released, .driver⟩]) :=
        change_release hne (decide_eq_true rfl) rfl nofun
      have hrun := run_cons hclient (Monitor.run_nil _)
      exact lawful_of_run hdone hrun rfl
  | releaseClient attach other =>
      have hne := other_attach (hother _ _ rfl)
      have hclient : custodyStep (done ++ [entryOf attach ⟨.client, other⟩])
          (.clientReleased attach) = some (done ++ [entryOf attach ⟨.released, other⟩]) :=
        change_release hne (decide_eq_true rfl) rfl nofun
      have hrun := run_cons hclient (Monitor.run_nil _)
      exact lawful_of_run hdone hrun rfl
  | detach attach other =>
      have hne := other_message (hother _ _ rfl)
      have hdriver : custodyStep (done ++ [entryOf attach ⟨other, .driver⟩])
          (.driverDetached attach.detachedMessage) =
            some (done ++ [entryOf attach ⟨other, .released⟩]) :=
        change_release hne (decide_eq_true rfl) rfl nofun
      have hrun := run_cons hdriver (Monitor.run_nil _)
      exact lawful_of_run hdone hrun rfl
  | reapNothing driver h =>
      have hnone : ∀ d ∈ done ++ entries held, d.owner .driver ≠ .driver := by
        intro d hd
        rcases List.mem_append.mp hd with hd | hd
        · exact hidle d hd
        · cases held with
          | none => cases hd
          | some pair =>
              rw [List.mem_singleton.mp hd]
              exact h pair.1 pair.2 rfl
      exact ⟨_, run_cons (reaped_idle hnone) rfl, ⟨done, rfl, hdone⟩, (List.append_nil _).symm⟩
  | reap attach other =>
      have hreaped := @reaped_last done attach ⟨other, .driver⟩ hdone rfl
      have hrun := run_cons hreaped (Monitor.run_nil _)
      exact lawful_of_run hdone hrun rfl
  | reapPair attach =>
      have hne := other_attach (hother _ _ rfl)
      have hreaped : custodyStep (done ++ [entryOf attach ⟨.devmgr, .devmgr⟩])
          (.reaped attach.driver) = some (done ++ [entryOf attach ⟨.devmgr, .devmgr⟩]) := by
        refine reaped_idle fun d hd => ?_
        rcases List.mem_append.mp hd with hd | hd
        · exact hidle d hd
        · rw [List.mem_singleton.mp hd]
          exact nofun
      have hclient : custodyStep (done ++ [entryOf attach ⟨.devmgr, .devmgr⟩])
          (.closed .client attach) = some (done ++ [entryOf attach ⟨.released, .devmgr⟩]) :=
        change_release hne (decide_eq_true rfl) rfl nofun
      have hdriver : custodyStep (done ++ [entryOf attach ⟨.released, .devmgr⟩])
          (.closed .driver attach) = some (done ++ [entryOf attach ⟨.released, .released⟩]) :=
        change_release hne (decide_eq_true rfl) rfl nofun
      have hrun := run_cons hreaped (run_cons hclient (run_cons hdriver (Monitor.run_nil _)))
      exact lawful_of_run hdone hrun rfl
  | reapClient attach =>
      have hne := other_attach (hother _ _ rfl)
      have hreaped := @reaped_last done attach ⟨.devmgr, .driver⟩ hdone rfl
      have hclient : custodyStep (done ++ [entryOf attach ⟨.devmgr, .released⟩])
          (.closed .client attach) = some (done ++ [entryOf attach ⟨.released, .released⟩]) :=
        change_release hne (decide_eq_true rfl) rfl nofun
      have hrun := run_cons hreaped (run_cons hclient (Monitor.run_nil _))
      exact lawful_of_run hdone hrun rfl

end Lawful

end Wyrmroot.Devmgr
