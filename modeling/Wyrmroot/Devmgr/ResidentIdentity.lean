import Wyrmroot.Lib.Ascending
import Wyrmroot.Devmgr.ResidentAtomicity

/-!
# The numbers a resident controller hands out

Five counters hand out numbers, and only their replies show them. A reply of
any operation takes a stretch of each counter, so what a run handed out of one
kind is counted up without a gap; where the stretch of a supervisor generation
ends follows from how many replies took from it. The numbers a controller
accepts are the registry's, held to those accepted before.
-/

namespace Wyrmroot.Devmgr

open Outcome ResidentController
open Device (RegistryBinding)

/-! ## What was handed out -/

inductive IdKind where
  | attempt
  | session
  | endpoint
  | transaction
  | generation
deriving DecidableEq

/-- The numbers of one kind in a reply, oldest first. -/
def ResidentReply.ids : IdKind → ResidentReply → List Nat
  | .attempt, .request launch => [launch.attemptGeneration]
  | .session, .request launch => [launch.launchSession]
  | .endpoint, .request launch => [launch.endpoint.id]
  | .transaction, .request launch => [launch.transactionId]
  | .transaction, .stages stage =>
      [stage.deviceTransactionId, stage.interruptTransactionId, stage.readyTransactionId]
  | .transaction, .connector attachTransaction _ => [attachTransaction]
  | .generation, .stages stage => [stage.stageGeneration]
  | .generation, .connector _ streamGeneration => [streamGeneration]
  | _, _ => []

/-- The numbers of one kind that a call handed out. -/
def handed (kind : IdKind) : Outcome DevmgrError ResidentReply → List Nat
  | .ok reply => reply.ids kind
  | _ => []

def ids (kind : IdKind) (h : List ResidentCall) : List Nat :=
  h.flatMap fun c => handed kind c.outcome

/-- How many calls reserved numbers of one kind. -/
def reservations (kind : IdKind) (h : List ResidentCall) : Nat :=
  h.countP fun c => handed kind c.outcome ≠ []

def offset : IdKind → Nat
  | .attempt => driverAttemptOffset
  | .session => driverSessionOffset
  | .endpoint => driverEndpointOffset
  | .transaction => driverTransactionOffset
  | .generation => driverAttemptOffset

def counter (s : ResidentController) : IdKind → Nat
  | .attempt => s.nextDriverAttempt
  | .session => s.nextDriverSession
  | .endpoint => s.nextDriverEndpoint
  | .transaction => s.nextDriverTransaction
  | .generation => s.nextDriverStageGeneration

/-! ## What was accepted -/

def ControllerMessage.binding : ControllerMessage → Option (RegistryBinding × Nat)
  | .installPublication _ binding transactionId => some (binding, transactionId)
  | .rebindPublication _ binding transactionId => some (binding, transactionId)
  | .status .. => none

/-- The binding and the transaction that an operation brings. -/
def ResidentOp.binding : ResidentOp → Option (RegistryBinding × Nat)
  | .accept message _ => message.binding
  | .acceptPublication message _ => message.controller.binding
  | _ => none

def ResidentOp.service : ResidentOp → Option Nat
  | .acceptPublication message _ => some message.serviceGeneration
  | _ => none

def acceptedBinding (c : ResidentCall) : Option (RegistryBinding × Nat) :=
  match c.outcome with
  | .ok (.action _) => c.op.binding
  | _ => none

def acceptedService (c : ResidentCall) : Option Nat :=
  match c.outcome with
  | .ok (.action _) => c.op.service
  | _ => none

def bindings (h : List ResidentCall) : List RegistryBinding :=
  (h.filterMap acceptedBinding).map Prod.fst

def controllerTransactions (h : List ResidentCall) : List Nat :=
  (h.filterMap acceptedBinding).map Prod.snd

def services (h : List ResidentCall) : List Nat := h.filterMap acceptedService

/-- A later binding: its generation is not smaller and its endpoint is greater. -/
def Newer (old binding : RegistryBinding) : Prop :=
  old.generation ≤ binding.generation ∧
    (old.endpoint.id < binding.endpoint.id ∨ old.endpoint.id = binding.endpoint.id ∧
      old.endpoint.generation < binding.endpoint.generation)

instance : IsTrans RegistryBinding Newer where
  trans := by
    rintro a b c ⟨hab, hab'⟩ ⟨hbc, hbc'⟩
    refine ⟨hab.trans hbc, ?_⟩
    omega

theorem newer_of_fresh {old binding : RegistryBinding} (h : staleBinding old binding = false) :
    Newer old binding := by
  simp only [staleBinding, Bool.or_eq_false_iff, Bool.and_eq_false_iff, decide_eq_false_iff_not,
    Nat.not_lt, Nat.not_le] at h
  obtain ⟨⟨hgeneration, hid⟩, hlater⟩ := h
  refine ⟨hgeneration, ?_⟩
  omega

/-! ## One call -/

variable {s s' : ResidentController} {op : ResidentOp} {o : Outcome DevmgrError ResidentReply}
  {h : List ResidentCall} {supervisorGeneration : Nat} {kind : IdKind}

/-- No transaction is left. -/
def Full (s : ResidentController) : Prop := 2 ^ 64 ≤ s.nextDriverTransaction + 1

theorem room_of_below (hfull : ¬ Full s)
    (hbelow : ∀ kind, counter s kind ≤ s.nextDriverTransaction) : Room s := by
  have hattempt := hbelow .attempt
  have hsession := hbelow .session
  have hendpoint := hbelow .endpoint
  simp only [counter] at hattempt hsession hendpoint
  rw [Full] at hfull
  rw [Room]
  omega

theorem Advances.hands (hadvances : Advances s op o s') (hsound : Sound s) (hroom : Room s)
    (kind : IdKind) : Counted (counter s kind) (handed kind o) (counter s' kind) := by
  cases hadvances with
  | halfLaunched _ hnot => exact absurd hroom hnot
  | halfReserved hspare hfull =>
      have hbehind := hsound.behind
      omega
  | issued | staged | connected => cases kind <;> exact ⟨rfl, rfl⟩
  | _ => cases kind <;> exact .nil

theorem Advances.full (hadvances : Advances s op o s') (hfull : Full s) (kind : IdKind) :
    Full s' ∧ handed kind o = [] := by
  have hfull' := hfull
  rw [Full] at hfull'
  cases hadvances with
  | halfReserved hspare | staged _ hspare | connected _ _ hspare => omega
  | issued _ hroom =>
      have hspare := hroom.2.2.2
      omega
  | _ => exact ⟨hfull, by cases kind <;> rfl⟩

theorem Delivers.accepts {message : ControllerMessage} {service : Nat}
    (h : Delivers s op message service) : op.binding = message.binding ∧
      (op.service = none ∧ service = s.publicationServiceGeneration ∨
        op.service = some service ∧ s.publicationServiceGeneration < service) := by
  cases h with
  | legacy _ _ hlegacy _ => exact ⟨rfl, .inl ⟨rfl, hlegacy.symm⟩⟩
  | publication _ _ hnewer _ => exact ⟨rfl, .inr ⟨rfl, hnewer⟩⟩

theorem Advances.accepts (hadvances : Advances s op o s') (w : List Empty) :
    (acceptedBinding ⟨s, op, o, s', w⟩ = none ∧ acceptedService ⟨s, op, o, s', w⟩ = none ∧
      s'.lastBinding = s.lastBinding ∧ s'.lastTransactionId = s.lastTransactionId ∧
      s'.publicationServiceGeneration = s.publicationServiceGeneration) ∨
    ∃ binding, acceptedBinding ⟨s, op, o, s', w⟩ = some (binding, s'.lastTransactionId) ∧
      s'.lastBinding = some binding ∧
      (∀ old, s.lastBinding = some old →
        Newer old binding ∧ s.lastTransactionId < s'.lastTransactionId) ∧
      (acceptedService ⟨s, op, o, s', w⟩ = none ∧
          s'.publicationServiceGeneration = s.publicationServiceGeneration ∨
        acceptedService ⟨s, op, o, s', w⟩ = some s'.publicationServiceGeneration ∧
          s.publicationServiceGeneration < s'.publicationServiceGeneration) := by
  cases hadvances with
  | installed hdelivers _ hlast =>
      obtain ⟨hbinding, hservice⟩ := hdelivers.accepts
      refine .inr ⟨_, hbinding, rfl, fun old hold => ?_, hservice⟩
      cases hlast.symm.trans hold
  | rebound hrebinds =>
      obtain ⟨hdelivers, -, hlast, hfresh, -, hnewer⟩ := hrebinds
      obtain ⟨hbinding, hservice⟩ := hdelivers.accepts
      refine .inr ⟨_, hbinding, rfl, fun old hold => ?_, hservice⟩
      obtain rfl := Option.some.inj (hlast.symm.trans hold)
      exact ⟨newer_of_fresh hfresh, hnewer⟩
  | _ => exact .inl ⟨rfl, rfl, rfl, rfl, rfl⟩

/-! ## A history -/

theorem ids_snoc (kind : IdKind) (h : List ResidentCall) (c : ResidentCall) :
    ids kind (h ++ [c]) = ids kind h ++ handed kind c.outcome := by
  rw [ids, List.flatMap_append, List.flatMap_singleton]
  rfl

theorem ids_length_le (kind : IdKind) (h : List ResidentCall) :
    (ids kind h).length ≤ (ids .transaction h).length := by
  induction h with
  | nil => exact Nat.le_refl _
  | cons c rest ih =>
      have hhead : (handed kind c.outcome).length ≤ (handed .transaction c.outcome).length := by
        rcases c.outcome with reply | _ | _
        · cases reply <;> cases kind <;> simp [handed, ResidentReply.ids]
        · exact Nat.le_refl _
        · exact Nat.le_refl _
      simp only [ids, List.flatMap_cons, List.length_append] at ih ⊢
      exact Nat.add_le_add hhead ih

theorem ids_length_le_reservations (kind : IdKind) (h : List ResidentCall) :
    (ids kind h).length ≤ 3 * reservations kind h := by
  induction h with
  | nil => exact Nat.le_refl _
  | cons c rest ih =>
      have hhead : (handed kind c.outcome).length ≤
          3 * if handed kind c.outcome ≠ [] then 1 else 0 := by
        rcases c.outcome with reply | _ | _
        · cases reply <;> cases kind <;> simp [handed, ResidentReply.ids]
        · exact Nat.le_refl _
        · exact Nat.le_refl _
      simp only [ids, reservations, List.flatMap_cons, List.length_append, List.countP_cons,
        decide_eq_true_eq] at ih hhead ⊢
      omega

def start (supervisorGeneration : Nat) (kind : IdKind) : Nat :=
  supervisorGeneration * driverCorrelationStride + offset kind

structure Handing (supervisorGeneration : Nat) (h : List ResidentCall) (s : ResidentController) :
    Prop where
  sound : Sound s
  counted : ∀ kind, ∃ next, Counted (start supervisorGeneration kind) (ids kind h) next ∧
    (¬ Full s → counter s kind = next)

theorem Handing.room (hhanding : Handing supervisorGeneration h s) (hfull : ¬ Full s) : Room s := by
  have hcounter : ∀ kind, counter s kind = start supervisorGeneration kind + (ids kind h).length := by
    intro kind
    obtain ⟨next, hcounted, hnext⟩ := hhanding.counted kind
    rw [hnext hfull, hcounted.next_eq]
  refine room_of_below hfull fun kind => ?_
  have hoffset : offset kind ≤ offset .transaction := by cases kind <;> decide
  have hlength := ids_length_le kind h
  have htransaction := hcounter .transaction
  rw [hcounter kind, start]
  rw [counter, start] at htransaction
  omega

theorem Handing.fresh {status : OperationalStatus} {startup : Nat} {fresh : ResidentController}
    (hnew : ResidentController.new status startup = .ok fresh) :
    Handing status.supervisorGeneration [] fresh := by
  have hsound := Sound.fresh hnew
  obtain ⟨rfl, -⟩ := new_eq_ok hnew
  exact ⟨hsound, fun kind => ⟨_, .nil, fun _ => by cases kind <;> rfl⟩⟩

theorem Handing.snoc (ih : Handing supervisorGeneration h s) (hadvances : Advances s op o s')
    (w : List Empty) : Handing supervisorGeneration (h ++ [⟨s, op, o, s', w⟩]) s' := by
  refine ⟨hadvances.sound ih.sound, fun kind => ?_⟩
  obtain ⟨next, hcounted, hnext⟩ := ih.counted kind
  rw [ids_snoc]
  by_cases hfull : Full s
  · obtain ⟨hfull', hnone⟩ := hadvances.full hfull kind
    rw [hnone, List.append_nil]
    exact ⟨next, hcounted, fun hnot => absurd hfull' hnot⟩
  · have hhands := hadvances.hands ih.sound (ih.room hfull) kind
    rw [hnext hfull] at hhands
    exact ⟨_, hcounted.append hhands, fun _ => rfl⟩

structure Accepting (h : List ResidentCall) (s : ResidentController) : Prop where
  newer : (bindings h).Pairwise Newer
  last : (bindings h).getLast? = s.lastBinding
  transactions : Ascends (controllerTransactions h) (s.lastTransactionId + 1)
  services : Ascends (Devmgr.services h) (s.publicationServiceGeneration + 1)

theorem bindings_snoc (h : List ResidentCall) (c : ResidentCall) :
    bindings (h ++ [c]) = bindings h ++ ((acceptedBinding c).map Prod.fst).toList := by
  cases hc : acceptedBinding c <;> simp [bindings, hc]

theorem controllerTransactions_snoc (h : List ResidentCall) (c : ResidentCall) :
    controllerTransactions (h ++ [c]) =
      controllerTransactions h ++ ((acceptedBinding c).map Prod.snd).toList := by
  cases hc : acceptedBinding c <;> simp [controllerTransactions, hc]

theorem services_snoc (h : List ResidentCall) (c : ResidentCall) :
    services (h ++ [c]) = services h ++ (acceptedService c).toList := by
  cases hc : acceptedService c <;> simp [services, hc]

theorem Accepting.first (ih : Accepting h s) (hnone : s.lastBinding = none) :
    controllerTransactions h = [] := by
  have hlast := ih.last
  rw [hnone, List.getLast?_eq_none_iff, bindings, List.map_eq_nil_iff] at hlast
  rw [controllerTransactions, hlast, List.map_nil]

theorem Accepting.snoc (ih : Accepting h s) (hadvances : Advances s op o s') (w : List Empty) :
    Accepting (h ++ [⟨s, op, o, s', w⟩]) s' := by
  rcases hadvances.accepts w with ⟨hnone, hservice, hlast, htransaction, hgeneration⟩ |
    ⟨binding, hsome, hlast, hnewer, hservice⟩
  · refine ⟨?_, ?_, ?_, ?_⟩
    · simpa [bindings_snoc, hnone] using ih.newer
    · simpa [bindings_snoc, hnone, hlast] using ih.last
    · simpa [controllerTransactions_snoc, hnone, htransaction] using ih.transactions
    · simpa [services_snoc, hservice, hgeneration] using ih.services
  · refine ⟨?_, ?_, ?_, ?_⟩
    · rw [bindings_snoc, hsome, ← List.isChain_iff_pairwise]
      refine List.isChain_append.mpr ⟨List.isChain_iff_pairwise.mpr ih.newer, .singleton _, ?_⟩
      rintro old hold _ ⟨⟩
      rw [ih.last] at hold
      exact (hnewer old hold).1
    · rw [bindings_snoc, hsome, hlast]
      exact List.getLast?_concat
    · rw [controllerTransactions_snoc, hsome]
      cases hold : s.lastBinding with
      | none =>
          rw [ih.first hold]
          exact Ascends.nil.snoc (Nat.le_refl _) (Nat.lt_succ_self _)
      | some old => exact ih.transactions.snoc (hnewer old hold).2 (Nat.lt_succ_self _)
    · rw [services_snoc]
      rcases hservice with ⟨hnone, hgeneration⟩ | ⟨hsome, hnewer⟩
      · rw [hnone, hgeneration, Option.toList_none, List.append_nil]
        exact ih.services
      · rw [hsome]
        exact ih.services.snoc hnewer (Nat.lt_succ_self _)

variable {abi : DeviceResourceAbi} {status : OperationalStatus} {startup : Nat}
  {fresh : ResidentController} {ops : List ResidentOp}

theorem resident_handing (hnew : ResidentController.new status startup = .ok fresh)
    (hrun : replay (serve abi) ops fresh = (h, s)) :
    Handing status.supervisorGeneration h s ∧ Accepting h s := by
  have hstep : ∀ (h : List ResidentCall) (s : ResidentController) (op : ResidentOp),
      Handing status.supervisorGeneration h s ∧ Accepting h s →
        Handing status.supervisorGeneration (h ++ [callOf (serve abi) op s]) (serve abi op s).2.1 ∧
          Accepting (h ++ [callOf (serve abi) op s]) (serve abi op s).2.1 := by
    rintro h s op ⟨hhanding, haccepting⟩
    have hadvances := serve_advances abi hhanding.sound.live op
    exact ⟨hhanding.snoc hadvances _, haccepting.snoc hadvances _⟩
  have hfresh : Accepting [] fresh := by
    obtain ⟨rfl, -⟩ := new_eq_ok hnew
    exact ⟨.nil, rfl, .nil, .nil⟩
  have hkeeps := replay_keeps hstep ops (h := []) ⟨.fresh hnew, hfresh⟩
  rw [hrun] at hkeeps
  exact hkeeps

/-- The numbers of a run ascend; those of a controller whose supervisor generation is
smaller are smaller, unless it reserved numbers of that kind too often. -/
theorem resident_identities (abi : DeviceResourceAbi) (status : OperationalStatus) (startup : Nat)
    (fresh s : ResidentController) (ops : List ResidentOp) (h : List ResidentCall)
    (hnew : ResidentController.new status startup = .ok fresh)
    (hrun : replay (serve abi) ops fresh = (h, s)) :
    (∀ kind, (ids kind h).Pairwise (· < ·)) ∧ (bindings h).Pairwise Newer ∧
      (controllerTransactions h).Pairwise (· < ·) ∧ (services h).Pairwise (· < ·) ∧
      ∀ (abi' : DeviceResourceAbi) (status' : OperationalStatus) (startup' : Nat)
        (fresh' s' : ResidentController) (ops' : List ResidentOp) (h' : List ResidentCall),
        ResidentController.new status' startup' = .ok fresh' →
          replay (serve abi') ops' fresh' = (h', s') →
          status.supervisorGeneration < status'.supervisorGeneration →
          ∀ kind, reservations kind h < 2 ^ 30 →
            ∀ n ∈ ids kind h, ∀ n' ∈ ids kind h', n < n' := by
  obtain ⟨hhanding, haccepting⟩ := resident_handing hnew hrun
  refine ⟨fun kind => ?_, haccepting.newer, haccepting.transactions.sorted,
    haccepting.services.sorted, ?_⟩
  · obtain ⟨next, hcounted, -⟩ := hhanding.counted kind
    exact hcounted.sorted
  intro abi' status' startup' fresh' s' ops' h' hnew' hrun' hlater kind hfew n hn n' hn'
  obtain ⟨next, hcounted, -⟩ := hhanding.counted kind
  obtain ⟨next', hcounted', -⟩ := (resident_handing hnew' hrun').1.counted kind
  have hbelow : n < next := (hcounted.mem.mp hn).2
  have habove : start status'.supervisorGeneration kind ≤ n' := (hcounted'.mem.mp hn').1
  have hlength := ids_length_le_reservations kind h
  have hstride : (status.supervisorGeneration + 1) * driverCorrelationStride ≤
      status'.supervisorGeneration * driverCorrelationStride := Nat.mul_le_mul_right _ hlater
  rw [hcounted.next_eq, start] at hbelow
  rw [start] at habove
  rw [Nat.succ_mul, driverCorrelationStride] at hstride
  rw [driverCorrelationStride] at hbelow habove
  omega

/-- Supervisors 7 and 8 launch a driver each. -/
theorem later_supervisor :
    (ids .transaction (replay (serve resourceAbi) (residentLaunch 7) (freshResident 7)).1 ++
      ids .transaction (replay (serve resourceAbi) (residentLaunch 8) (freshResident 8)).1).Pairwise
        (· < ·) := by
  obtain ⟨hsorted, -, -, -, hlater⟩ := resident_identities resourceAbi (operational 7) 41
    (freshResident 7) _ (residentLaunch 7) _ (by decide +kernel) rfl
  obtain ⟨hsorted', -⟩ := resident_identities resourceAbi (operational 8) 41
    (freshResident 8) _ (residentLaunch 8) _ (by decide +kernel) rfl
  exact List.pairwise_append.mpr ⟨hsorted .transaction, hsorted' .transaction,
    hlater resourceAbi (operational 8) 41 (freshResident 8) _ (residentLaunch 8) _
      (by decide +kernel) rfl (by decide) .transaction (by decide +kernel)⟩

end Wyrmroot.Devmgr
