import Wyrmroot.Loader.Ledger

/-!
# The phases of a load against the ledger

`Phase` is the contract every phase of the load keeps. It starts and ends
with the caller's flag in step with the ledger (`Custody`); an error means
that the platform failed a call, and the ledger is clear unless the error
says that the rollback failed; it never panics.

The transaction has one form per phase, so the contracts name it outright:
`constructing` from the creation of the process to the staging of the
capabilities.
-/

namespace Wyrmroot.Loader

variable {τ ε α β : Type} {tr : LoaderPlatform τ ε} {caller : List Nat}
  {assume : Event → Prop} {E : LoadError ε → Ledger → Prop} {L L' : Ledger}
  {request : InternalLoadRequest}

/-- The handles the INIT moves for the caller. -/
def InternalLoadRequest.moved (request : InternalLoadRequest) : List Nat :=
  request.channels ++ request.deviceManifest.toList

def LoadError.rollbackFailed : LoadError ε → Bool
  | .platform _ _ failed => failed
  | _ => false

/-- The flag is up exactly when an INIT has moved the caller's channels, and
of the caller's handles an INIT has moved those it was given to move. -/
structure Custody (request : InternalLoadRequest) (caller : List Nat) (consumed : Bool)
    (L : Ledger) : Prop where
  flag : consumed = (!request.channels.isEmpty && L.sent.isSome)
  exact : ∀ hs, L.sent = some hs → ∀ h ∈ caller, (h ∈ hs ↔ h ∈ request.moved)

theorem Custody.of_sent {consumed : Bool} (h : Custody request caller consumed L)
    (hs : L'.sent = L.sent) : Custody request caller consumed L' :=
  ⟨by rw [hs]; exact h.flag, by rw [hs]; exact h.exact⟩

/-- An error after the first call. -/
structure Undone (tr : LoaderPlatform τ ε) (e : LoadError ε) (L : Ledger) : Prop where
  unreliable : ¬ tr.Reliable
  clear : e.rollbackFailed = false → L.Clear

/-- What the platform promises, and which errors a load may end in: at
least those it has undone. -/
structure Setting (tr : LoaderPlatform τ ε) (caller : List Nat) (assume : Event → Prop)
    (E : LoadError ε → Ledger → Prop) : Prop where
  fresh : FreshUnder tr caller assume
  undone : ∀ e L, Undone tr e L → E e L

def PhaseEnd (E : LoadError ε → Ledger → Prop) (P : α → Ledger → Prop) :
    Outcome (LoadError ε) α → Ledger → Prop
  | .ok a, L => P a L
  | .err e, L => E e L
  | .panic, _ => False

def Phase (E : LoadError ε → Ledger → Prop) (request : InternalLoadRequest) (caller : List Nat)
    (assume : Event → Prop) (L : Ledger) (p : Load τ ε α) (P : α → Ledger → Prop) : Prop :=
  ∀ s, Custody request caller s.consumed L → L.Own caller →
    (monitor caller assume).Ends L p (fun o s' L' =>
      Custody request caller s'.consumed L' ∧ L'.Own caller ∧ PhaseEnd E P o L') s

variable {P : α → Ledger → Prop} {a : α}

theorem Phase.pure (h : P a L) :
    Phase E request caller assume L (pure a : Load τ ε α) P :=
  fun _ hs hL => .silent rfl ⟨hs, hL, h⟩

variable {p : Load τ ε α} {f : α → Load τ ε β}

theorem Phase.bind {P' : β → Ledger → Prop} (hp : Phase E request caller assume L p P)
    (hf : ∀ a L', P a L' → Phase E request caller assume L' (f a) P') :
    Phase E request caller assume L (p >>= f) P' := by
  intro s hs hL
  refine .bind ((hp s hs hL).mono fun o s' L' h => ?_)
  obtain ⟨hs', hL', ho⟩ := h
  cases o with
  | ok a => exact hf a L' ho s' hs' hL'
  | err e => exact ⟨hs', hL', ho⟩
  | panic => exact ho.elim

theorem Phase.mono {P' : α → Ledger → Prop}
    (hp : Phase E request caller assume L p P) (h : ∀ a L', P a L' → P' a L') :
    Phase E request caller assume L p P' := by
  intro s hs hL
  refine (hp s hs hL).mono fun o s' L' hq => ⟨hq.1, hq.2.1, ?_⟩
  cases o with
  | ok a => exact h a L' hq.2.2
  | err e | panic => exact hq.2.2

/-- The one way out of a phase: the platform has failed, everything is
undone. -/
theorem fail_phase (hset : Setting tr caller assume E) {tx : Transaction} (hL : Holds tx L)
    (hrel : ¬ tr.Reliable) (stage : LoadStage) (cause : ε) (P : α → Ledger → Prop) :
    Phase E request caller assume L (fail tr tx stage cause) P := by
  intro s hs hown
  have hroll := (rollback_quiet hset.fresh hL s).invariant (fun _ _ _ => Ledger.step_own) hown
  refine .bind (hroll.mono fun o s' L' h => ?_)
  obtain ⟨⟨hs', failed, rfl, hsent, hclear⟩, hown'⟩ := h
  exact Monitor.Ends.silent rfl ⟨hs' ▸ hs.of_sent hsent, hown', hset.undone _ _ ⟨hrel, hclear⟩⟩

theorem callOrFail_phase (hset : Setting tr caller assume E) {tx : Transaction}
    (hL : Holds tx L) {stage : LoadStage} {c : Call} (hc : L.legal caller c = true)
    {P : c.Result → Ledger → Prop} (hsent : ∀ r, (L.apply caller c r).sent = L.sent)
    (hok : ∀ r, (∀ h ∈ created c r, h ∉ caller) → P r (L.apply caller c r)) :
    Phase E request caller assume L (callOrFail tr tx stage c) P := by
  intro s hs hown
  refine attempt_ends hset.fresh hc (fun r s' hs' hr => ?_) fun e s' hs' hrel => ?_
  · exact .silent rfl ⟨hs' ▸ hs.of_sent (hsent r), Ledger.apply_own hr hown, hok r hr⟩
  · exact fail_phase hset hL hrel stage e P s' (hs' ▸ hs) hown

/-! ## Construction -/

variable {tx' : Transaction}

theorem HoldsChild.congr {tx : Transaction} {child : Option Child} (h : HoldsChild tx child)
    (hp : tx'.process = tx.process) (ht : tx'.thread = tx.thread) (hr : tx'.root = tx.root)
    (hranges : tx'.ranges = tx.ranges) : HoldsChild tx' child :=
  ⟨by rw [hp]; exact h.process, by rw [ht]; exact h.thread,
    by rw [hr, hranges]; exact h.ranges⟩

variable {h : Nat}

theorem Holds.gain {tx : Transaction} (hL : Holds tx L)
    (hp : tx'.owned.Perm (h :: tx.owned)) (ha : tx'.parentMapping = tx.parentMapping)
    (hc : HoldsChild tx' L.child) : Holds tx' { L with handles := h ::ₘ L.handles } :=
  ⟨by rw [hL.handles, Multiset.cons_coe, Multiset.coe_eq_coe]; exact hp.symm,
    by rw [ha]; exact hL.aliases, hc⟩

theorem Holds.lose {tx : Transaction} (hL : Holds tx L)
    (hp : tx.owned.Perm (h :: tx'.owned)) (ha : tx'.parentMapping = tx.parentMapping)
    (hc : HoldsChild tx' L.child) : Holds tx' { L with handles := L.handles.erase h } :=
  ⟨by rw [hL.handles, Multiset.coe_eq_coe.mpr hp, ← Multiset.cons_coe,
      Multiset.erase_cons_head],
    by rw [ha]; exact hL.aliases, hc⟩

theorem Holds.mem {tx : Transaction} (hL : Holds tx L) (hh : h ∈ tx.owned) :
    h ∈ L.handles := by
  rw [hL.handles]
  exact Multiset.mem_coe.mpr hh

/-- The transaction between two objects, and until capabilities are staged. -/
def constructing (parentRoot parentChannel : Nat) (created : ProcessCreateResult)
    (ranges : List Range) (thread : Option Nat) : Transaction :=
  { parentRoot, parentChannel := some parentChannel, process := some created.process,
    root := some created.root, thread, ranges }

/-- The transaction while the launch channel is the only thing it has. -/
def opening (parentRoot : Nat) (broadParent parentChannel childEndpoint : Option Nat) :
    Transaction :=
  { parentRoot, broadParent, parentChannel, childEndpoint }

/-- The transaction holds what the load owns, and no INIT has been sent. -/
structure Unsent (tx : Transaction) (L : Ledger) : Prop extends Holds tx L where
  sent : L.sent = none

theorem call_phase (hset : Setting tr caller assume E) {tx : Transaction} (hL : Unsent tx L)
    {stage : LoadStage} {c : Call} {tx' : c.Result → Transaction} (hc : L.legal caller c = true)
    (hsent : ∀ r, (L.apply caller c r).sent = L.sent)
    (hok : ∀ r, (∀ h ∈ created c r, h ∉ caller) → Holds (tx' r) (L.apply caller c r)) :
    Phase E request caller assume L (callOrFail tr tx stage c) fun r L => Unsent (tx' r) L :=
  callOrFail_phase hset hL.toHolds hc hsent fun r hr => ⟨hok r hr, (hsent r).trans hL.sent⟩

theorem reduceLaunchChannel_phase (hset : Setting tr caller assume E) {parentRoot broad child : Nat}
    (hL : Unsent (opening parentRoot (some broad) none (some child)) L) :
    Phase E request caller assume L (reduceLaunchChannel tr { parentRoot } broad child)
      fun r L => r.1 = opening parentRoot none (some r.2.1) (some r.2.2) ∧ Unsent r.1 L := by
  refine .bind (P := fun pc => Unsent (opening parentRoot (some broad) (some pc) (some child)))
    (call_phase hset hL rfl (fun _ => rfl) fun pc _ => ?_) fun pc L₁ hL₁ => ?_
  · refine hL.gain ?_ rfl (hL.child.congr rfl rfl rfl rfl)
    show [child, broad, pc].Perm [pc, child, broad]
    grind
  have hmem : broad ∈ L₁.handles := hL₁.mem (by simp [opening, Transaction.owned])
  refine .bind (P := fun _ => Unsent (opening parentRoot none (some pc) (some child)))
    (call_phase hset hL₁ (by simpa [Ledger.legal] using hmem) (fun _ => rfl) fun _ _ => ?_)
    fun _ L₂ hL₂ => ?_
  · refine hL₁.lose ?_ rfl (hL₁.child.congr rfl rfl rfl rfl)
    show [child, broad, pc].Perm [broad, child, pc]
    grind
  exact .pure ⟨rfl, hL₂⟩

theorem openLaunchChannel_phase (hset : Setting tr caller assume E) (authority : LoadAuthority) :
    Phase E request caller assume {} (openLaunchChannel tr authority) fun r L =>
      r.1 = opening authority.parentRoot none (some r.2.1) (some r.2.2) ∧ Unsent r.1 L := by
  intro s hs hown
  refine attempt_ends hset.fresh rfl (fun r s' hs' hr => ?_) fun e s' hs' hrel => ?_
  · have hL : Holds (opening authority.parentRoot (some r.1) none (some r.2))
        (Ledger.apply caller {} (.channelCreate channelBroadRights) r) :=
      ⟨(Multiset.cons_swap r.1 r.2 0 :), rfl, rfl, rfl, nofun⟩
    exact reduceLaunchChannel_phase hset ⟨hL, rfl⟩ s' (hs' ▸ hs.of_sent rfl)
      (Ledger.apply_own hr hown)
  · exact .silent rfl ⟨hs' ▸ hs, hown, hset.undone _ _ ⟨hrel, fun _ => ⟨rfl, rfl, rfl⟩⟩⟩

theorem createProcess_phase (hset : Setting tr caller assume E) {authority : LoadAuthority}
    {pc child : Nat} (hL : Unsent (opening authority.parentRoot none (some pc) (some child)) L) :
    Phase E request caller assume L
      (createProcess tr authority (opening authority.parentRoot none (some pc) (some child)) child)
      fun r L => r.1 = constructing authority.parentRoot pc r.2 [] none ∧ Unsent r.1 L := by
  have hchild : L.child = none := by simpa [opening] using hL.child.process
  have hmem : child ∈ L.handles := hL.mem (by simp [opening, Transaction.owned])
  refine .bind (P := fun r => Unsent (constructing authority.parentRoot pc r [] none))
    (call_phase hset hL (by simp [Ledger.legal, hchild, hmem]) (fun _ => rfl)
      fun r _ => ⟨?_, hL.aliases, rfl, rfl, ?_⟩) fun r L h => .pure ⟨rfl, h⟩
  · have herase : L.handles.erase child = {pc} := by
      rw [hL.handles]
      exact Multiset.erase_cons_head child {pc}
    show r.process ::ₘ r.root ::ₘ L.handles.erase child = _
    rw [herase]
    exact Multiset.cons_swap r.process r.root {pc}
  · intro root _
    exact ⟨_, rfl, rfl⟩

/-- The transaction while a MemoryObject is being filled. -/
def placing (tx : Transaction) (memory : Nat) (mapping : Option ParentMapping) : Transaction :=
  { tx with scratchMemory := some memory, parentMapping := mapping }

section Placing

variable {tx : Transaction} {memory : Nat}

theorem placing_owned (hs : tx.scratchMemory = none) (mapping : Option ParentMapping) :
    (placing tx memory mapping).owned.Perm (memory :: tx.owned) := by
  simp only [Transaction.owned, placing, hs, List.filterMap_cons, id]
  grind

theorem Holds.created (hL : Holds tx L) (hs : tx.scratchMemory = none)
    (hm : tx.parentMapping = none) :
    Holds (placing tx memory none) { L with handles := memory ::ₘ L.handles } :=
  hL.gain (placing_owned hs _) hm.symm (hL.child.congr rfl rfl rfl rfl)

theorem Holds.materialized {mapping : ParentMapping} (hL : Holds (placing tx memory none) L) :
    Holds (placing tx memory (some mapping)) { L with aliases := mapping ::ₘ L.aliases } :=
  ⟨hL.handles, by rw [hL.aliases]; rfl, hL.child.congr rfl rfl rfl rfl⟩

theorem Holds.unmapped {mapping : ParentMapping} (hL : Holds (placing tx memory (some mapping)) L) :
    Holds (placing tx memory none) { L with aliases := L.aliases.erase mapping } :=
  ⟨hL.handles, by rw [hL.aliases]; simp [placing], hL.child.congr rfl rfl rfl rfl⟩

/-- The transaction with one more range. -/
def ranged (tx : Transaction) (address bytes : Nat) : Transaction :=
  { tx with ranges := tx.ranges ++ [⟨address, bytes⟩] }

theorem Holds.mapped {address bytes : Nat} (hL : Holds (placing tx memory none) L) :
    Holds (placing (ranged tx address bytes) memory none)
      { L with child := L.child.map fun c =>
                 { c with ranges := ⟨address, bytes⟩ ::ₘ c.ranges } } := by
  refine ⟨hL.handles, hL.aliases, ?_, ?_, ?_⟩
  · rw [Option.map_map]
    exact hL.child.process
  · have h := hL.child.thread
    cases hc : L.child with
    | none | some c => rwa [hc] at h
  · intro root hroot
    obtain ⟨c, hc, hr⟩ := hL.child.ranges root hroot
    refine ⟨{ c with ranges := ⟨address, bytes⟩ ::ₘ c.ranges }, by rw [hc]; rfl, ?_⟩
    simp only [hr, placing, ranged, Multiset.cons_coe, Multiset.coe_eq_coe]
    exact (List.perm_append_singleton _ _).symm

theorem Holds.closed (hL : Holds (placing tx memory none) L) (hs : tx.scratchMemory = none)
    (hm : tx.parentMapping = none) : Holds tx { L with handles := L.handles.erase memory } :=
  hL.lose (placing_owned hs _) hm (hL.child.congr rfl rfl rfl rfl)

end Placing

variable {root : Nat}

theorem placeObject_phase (hset : Setting tr caller assume E) {authority : LoadAuthority}
    {tx : Transaction} {bytes : List UInt8} {contents : Load τ ε (List UInt8)}
    (objectSize offset address : Nat) (protection : SegmentProtection)
    (hcontents : contents = pure bytes) (hroom : tx.ranges.length < maxChildRanges)
    (hs : tx.scratchMemory = none) (hm : tx.parentMapping = none) (hroot : tx.root = some root)
    (hL : Unsent tx L) :
    Phase E request caller assume L
      (placeObject tr authority root tx objectSize offset contents address protection)
      fun tx' L => tx' = ranged tx address objectSize ∧ Unsent tx' L := by
  subst hcontents
  unfold placeObject
  refine .bind (P := fun memory : Nat => Unsent (placing tx memory none))
    (call_phase hset hL rfl (fun _ => rfl) fun _ _ => hL.created hs hm) fun memory L₁ hL₁ => ?_
  rw [pure_bind]
  refine .bind (P := fun mapping : ParentMapping => Unsent (placing tx memory (some mapping)))
    (call_phase hset (hm ▸ hL₁) rfl (fun _ => rfl) fun _ _ => hL₁.materialized)
    fun mapping L₂ hL₂ => ?_
  have halias : mapping ∈ L₂.aliases := by
    rw [hL₂.aliases]
    simp [placing]
  refine .bind (P := fun _ => Unsent (placing tx memory none))
    (call_phase hset hL₂ (by simpa [Ledger.legal] using halias) (fun _ => rfl)
      fun _ _ => hL₂.unmapped) fun _ L₃ hL₃ => ?_
  obtain ⟨c, hc, -⟩ := hL₃.child.ranges root hroot
  refine .bind (P := fun _ => Unsent (placing (ranged tx address objectSize) memory none))
    (call_phase hset hL₃ (by simp [Ledger.legal, hc]) (fun _ => rfl) fun _ _ => hL₃.mapped)
    fun _ L₄ hL₄ => ?_
  rw [if_pos hroom]
  have hmem : memory ∈ L₄.handles :=
    hL₄.mem ((placing_owned hs none).mem_iff.mpr (List.mem_cons_self ..))
  refine .bind (P := fun _ => Unsent (ranged tx address objectSize))
    (call_phase hset hL₄ (by simpa [Ledger.legal] using hmem) (fun _ => rfl)
      fun _ _ => hL₄.closed hs hm) fun _ L₅ hL₅ => ?_
  have htx : { placing (ranged tx address objectSize) memory none with scratchMemory := none } =
      ranged tx address objectSize := by
    cases tx
    simp only at hs hm
    subst hs hm
    rfl
  exact .pure ⟨htx, htx ▸ hL₅⟩

theorem ranged_constructing (parentRoot pc : Nat) (created : ProcessCreateResult)
    (ranges : List Range) (address bytes : Nat) :
    ranged (constructing parentRoot pc created ranges none) address bytes =
      constructing parentRoot pc created (ranges ++ [⟨address, bytes⟩]) none := rfl

variable {image : List UInt8}

theorem segmentBytes_eq {segment : LoadSegment} (h : segment.FileIn image) : ∃ bytes,
      (segmentBytes image (MaterializationPlan.ofSegment segment) : Load τ ε (List UInt8)) =
        pure bytes :=
  ⟨_, congrArg Prog.lift (sliceAt_ok h)⟩

theorem placeSegments_phase (hset : Setting tr caller assume E) {authority : LoadAuthority}
    {pc : Nat} {created : ProcessCreateResult}
    {segments : List LoadSegment} :
    ∀ {ranges : List Range} {L : Ledger}, (∀ segment ∈ segments, segment.FileIn image) →
      ranges.length + segments.length ≤ maxChildRanges →
      Unsent (constructing authority.parentRoot pc created ranges none) L →
      Phase E request caller assume L (placeSegments tr authority created.root image
          (constructing authority.parentRoot pc created ranges none) segments)
        fun tx L => (∃ ranges', tx = constructing authority.parentRoot pc created ranges' none ∧
          ranges'.length = ranges.length + segments.length) ∧ Unsent tx L := by
  induction segments with
  | nil =>
      intro ranges L _ _ hL
      exact .pure ⟨⟨ranges, rfl, rfl⟩, hL⟩
  | cons segment rest ih =>
      intro ranges L hin hroom hL
      rw [List.length_cons] at hroom
      obtain ⟨bytes, hbytes⟩ := segmentBytes_eq (τ := τ) (ε := ε) (hin segment (.head _))
      refine .bind (placeObject_phase hset _ _ _ _ hbytes (show ranges.length < _ by omega)
        rfl rfl rfl hL) fun tx L₁ h => ?_
      obtain ⟨rfl, hL₁⟩ := h
      rw [ranged_constructing] at hL₁ ⊢
      refine (ih (fun s hs => hin s (.tail _ hs)) ?_ hL₁).mono fun tx L₂ h => ?_
      · rw [List.length_append, List.length_singleton]
        omega
      · obtain ⟨⟨ranges', rfl, hlen⟩, h⟩ := h
        refine ⟨⟨ranges', rfl, ?_⟩, h⟩
        rw [hlen, List.length_append, List.length_singleton, List.length_cons]
        omega

theorem createThread_phase (hset : Setting tr caller assume E) {parentRoot pc : Nat}
    {created : ProcessCreateResult} {ranges : List Range}
    (hL : Unsent (constructing parentRoot pc created ranges none) L) :
    Phase E request caller assume L
      (createThread tr (constructing parentRoot pc created ranges none) created.process)
      fun r L => r.1 = constructing parentRoot pc created ranges (some r.2) ∧ Unsent r.1 L := by
  obtain ⟨c, hc, hcp⟩ := Option.map_eq_some_iff.mp hL.child.process
  have hct : c.thread = none := by simpa [hc, constructing] using hL.child.thread
  refine .bind
    (P := fun thread : Nat => Unsent (constructing parentRoot pc created ranges (some thread)))
    (call_phase hset hL (by simp [Ledger.legal, hc, hcp, hct]) (fun _ => rfl)
      fun thread _ => ⟨?_, hL.aliases, ?_, ?_, ?_⟩) fun thread L₁ h => .pure ⟨rfl, h⟩
  · show thread ::ₘ L.handles = _
    rw [hL.handles]
    rfl
  · simp [Ledger.apply, hc, hcp, constructing]
  · simp [Ledger.apply, hc, constructing]
  · intro root hroot
    obtain ⟨c', hc', hr⟩ := hL.child.ranges root hroot
    exact ⟨{ c' with thread := some thread }, by simp [Ledger.apply, hc'], hr⟩

/-! ## The INIT -/

/-- A transfer list for a request: handles of the load's own, which leave
the transaction with the send, and the handles the caller gave to move. Past
the send nothing of the staging is left in the transaction. -/
structure Staged (request : InternalLoadRequest) (base tx : Transaction)
    (transfers : List HandleTransfer) : Prop where
  split : ∃ own, (transfers.map (·.handle)).Perm (own ++ request.moved) ∧
    (keepSupplied tx).owned.Perm (own ++ (releaseMoved request.profile tx).owned)
  root : tx.root = base.root
  final : { releaseMoved request.profile tx with root := none } = { base with root := none }

theorem applyCapabilityFault_handles (fault : LoadFault) (transfers : List HandleTransfer) :
    ((applyCapabilityFault fault transfers).map (·.handle)).Perm (transfers.map (·.handle)) := by
  unfold applyCapabilityFault
  split
  · simp only [List.map_cons, List.map_nil]
    grind
  · rfl
  · rfl

variable {transfers : List HandleTransfer}

theorem Staged.fault {base tx : Transaction}
    (h : Staged request base tx transfers) (fault : LoadFault) :
    Staged request base tx (applyCapabilityFault fault transfers) := by
  obtain ⟨⟨own, hsplit, howned⟩, hroot, hfinal⟩ := h
  exact ⟨⟨own, (applyCapabilityFault_handles fault transfers).trans hsplit, howned⟩, hroot, hfinal⟩

theorem ownMoves_of_perm {own moved : List Nat}
    (hsplit : (transfers.map (·.handle)).Perm (own ++ moved)) (hown : ∀ h ∈ own, h ∉ caller)
    (hmoved : ∀ h ∈ moved, h ∈ caller) : (ownMoves caller transfers).Perm own := by
  refine (hsplit.filter _).trans ?_
  rw [List.filter_append, List.filter_eq_self.mpr (by simpa using hown),
    List.filter_eq_nil_iff.mpr (by simpa using hmoved), List.append_nil]

theorem releaseMoved_child (profile : LaunchProfile) (tx : Transaction) :
    (releaseMoved profile tx).process = tx.process ∧
      (releaseMoved profile tx).thread = tx.thread ∧
      (releaseMoved profile tx).ranges = tx.ranges ∧
      (releaseMoved profile tx).parentMapping = tx.parentMapping ∧
      (releaseMoved profile tx).root = if profile.needsSelfRoot then none else tx.root := by
  cases profile <;> exact ⟨rfl, rfl, rfl, rfl, rfl⟩

theorem Holds.sent {base tx : Transaction}
    (hL : Holds (keepSupplied tx) L) (sent : Option (List Nat))
    (hstaged : Staged request base tx transfers)
    (hown : L.Own caller) (hmoved : ∀ h ∈ request.moved, h ∈ caller) :
    (ownMoves caller transfers : Multiset Nat) ≤ L.handles ∧
      Holds (releaseMoved request.profile tx)
        { L with handles := L.handles - (ownMoves caller transfers : Multiset Nat), sent } := by
  obtain ⟨own, hsplit, howned⟩ := hstaged.split
  have hsum : L.handles = (own : Multiset Nat) +
      ((releaseMoved request.profile tx).owned : Multiset Nat) := by
    rw [hL.handles, Multiset.coe_eq_coe.mpr howned, Multiset.coe_add]
  have howncaller : ∀ h ∈ own, h ∉ caller := by
    intro h hh
    refine hown h ?_
    rw [hsum]
    exact Multiset.mem_add.mpr (.inl (Multiset.mem_coe.mpr hh))
  have hmoves : (ownMoves caller transfers : Multiset Nat) = own :=
    Multiset.coe_eq_coe.mpr (ownMoves_of_perm hsplit howncaller hmoved)
  obtain ⟨hp, ht, hr, hm, hroot⟩ := releaseMoved_child request.profile tx
  rw [hmoves]
  refine ⟨hsum ▸ Multiset.le_add_right _ _, ?_, ?_, ?_, ?_, ?_⟩
  · show L.handles - (own : Multiset Nat) = _
    rw [hsum, Multiset.add_comm, Multiset.add_sub_cancel_right]
  · rw [hm]
    exact hL.aliases
  · rw [hp]
    exact hL.child.process
  · rw [ht]
    exact hL.child.thread
  · intro root h
    rw [hroot] at h
    rw [hr]
    split at h
    · cases h
    · exact hL.child.ranges root h

theorem commitInit_phase (hset : Setting tr caller assume E) {base tx : Transaction} {pc : Nat}
    {init : List UInt8}
    (hstaged : Staged request base tx transfers)
    (hmoved : ∀ h ∈ request.moved, h ∈ caller) (hL : Unsent (keepSupplied tx) L) :
    Phase E request caller assume L (commitInit tr request tx pc init transfers)
      fun _ L => Holds (releaseMoved request.profile tx) L ∧ L.sent.isSome := by
  intro s hs hown
  obtain ⟨hle, hL'⟩ := hL.toHolds.sent (some (transfers.map (·.handle))) hstaged hown hmoved
  have hlegal : L.legal caller (.sendInit pc init transfers) = true := by
    simp [Ledger.legal, hL.sent, hle]
  refine .bind (attempt_ends hset.fresh hlegal (fun r s' hs' hr => ?_) fun e s' hs' hrel => ?_)
  · refine .silent rfl (.silent rfl ⟨⟨?_, ?_⟩, Ledger.apply_own hr hown, hL', rfl⟩)
    · simp [Ledger.apply]
    · intro hs heq h hcaller
      obtain rfl := Option.some.inj heq
      obtain ⟨own, hsplit, howned⟩ := hstaged.split
      rw [hsplit.mem_iff, List.mem_append]
      refine ⟨fun hh => hh.resolve_left fun hmem => hown h (hL.mem ?_) hcaller, .inr⟩
      exact howned.mem_iff.mpr (List.mem_append_left _ hmem)
  · refine (fail_phase hset hL.toHolds hrel .initSend e (fun _ _ => False) s' (hs' ▸ hs) hown).mono ?_
    intro o s'' L'' h
    cases o with
    | ok a => exact h.2.2.elim
    | err e | panic => exact h

theorem deliverInit_phase (hset : Setting tr caller assume E) {base tx : Transaction}
    {pc : Nat} {init : List UInt8}
    (hbase : base.root = some root) (hstaged : Staged request base tx transfers)
    (hmoved : ∀ h ∈ request.moved, h ∈ caller) (hL : Unsent (keepSupplied tx) L) :
    Phase E request caller assume L (deliverInit tr request tx pc root init transfers)
      fun tx' L => tx' = { base with root := none } ∧ Holds tx' L ∧ L.sent.isSome := by
  rw [← hstaged.final]
  have hroot : tx.root = some root := hstaged.root.trans hbase
  obtain ⟨-, -, -, -, hroot'⟩ := releaseMoved_child request.profile tx
  refine .bind (commitInit_phase hset hstaged hmoved hL) fun _ L₁ h => ?_
  obtain ⟨hL₁, hsent₁⟩ := h
  by_cases hself : request.profile.needsSelfRoot = true
  · rw [if_pos hself]
    have htx : { releaseMoved request.profile tx with root := none } =
        releaseMoved request.profile tx := by
      rw [if_pos hself] at hroot'
      rw [← hroot']
    exact .pure ⟨htx.symm, hL₁, hsent₁⟩
  · rw [if_neg hself]
    rw [if_neg hself, hroot] at hroot'
    have hperm : (releaseMoved request.profile tx).owned.Perm
        (root :: { releaseMoved request.profile tx with root := none }.owned) := by
      simp only [Transaction.owned, hroot', Option.toList_some, Option.toList_none]
      grind
    have hmem : root ∈ L₁.handles := hL₁.mem (hperm.mem_iff.mpr (List.mem_cons_self ..))
    refine .bind (P := fun _ L => Holds { releaseMoved request.profile tx with root := none } L ∧
        L.sent.isSome)
      (callOrFail_phase hset hL₁ (by simpa [Ledger.legal] using hmem) (fun _ => rfl)
        fun _ _ => ⟨hL₁.lose hperm rfl ⟨hL₁.child.process, hL₁.child.thread, nofun⟩, hsent₁⟩)
      fun _ L₂ h => .pure ⟨rfl, h⟩

theorem staged_supplied {parentRoot pc : Nat} {created : ProcessCreateResult}
    {ranges : List Range} {thread : Option Nat} {channels : List Nat}
    (hch : request.channels = channels) (hman : request.deviceManifest = none)
    (hself : request.profile.needsSelfRoot = false) (hd6 : request.profile ≠ .d6ResourceOwner) :
    Staged request (constructing parentRoot pc created ranges thread)
      { constructing parentRoot pc created ranges thread with delegatedChannels := channels }
      (channels.map (transfer · childChannelRights)) := by
  have hrelease : releaseMoved request.profile
      { constructing parentRoot pc created ranges thread with delegatedChannels := channels } =
        constructing parentRoot pc created ranges thread := by
    have hdomain : request.profile ≠ .deviceCoordinatorResourceDomain := by
      intro h
      simp [h, LaunchProfile.needsSelfRoot] at hself
    simp [releaseMoved, hself, hd6, hdomain, constructing]
  refine ⟨⟨[], ?_, ?_⟩, rfl, ?_⟩
  · simp [InternalLoadRequest.moved, hch, hman, transfer, Function.comp_def]
  · rw [hrelease]
    exact .refl _
  · rw [hrelease]

theorem staged_root {parentRoot pc : Nat} {created : ProcessCreateResult}
    {ranges : List Range} {thread : Option Nat} {channels : List Nat}
    (hch : request.channels = channels) (hman : request.deviceManifest = none)
    (hself : request.profile.needsSelfRoot = true)
    (hauth : (request.profile.hasLoaderAuthorityTrio ||
      request.profile.hasLoaderAuthorityQuartet) = false)
    (hdomain : request.profile ≠ .deviceCoordinatorResourceDomain) :
    Staged request (constructing parentRoot pc created ranges thread)
      { constructing parentRoot pc created ranges thread with delegatedChannels := channels }
      (transfer created.root selfRootRights :: channels.map (transfer · childChannelRights)) := by
  have hrelease : releaseMoved request.profile
      { constructing parentRoot pc created ranges thread with delegatedChannels := channels } =
        { constructing parentRoot pc created ranges thread with root := none } := by
    simp [releaseMoved, hself, hauth, hdomain, constructing]
  refine ⟨⟨[created.root], ?_, ?_⟩, rfl, ?_⟩
  · simp [InternalLoadRequest.moved, hch, hman, transfer, Function.comp_def]
  · rw [hrelease]
    simp only [keepSupplied, constructing, Transaction.owned]
    grind
  · rw [hrelease]

/-- The request passed the checks of its profile. -/
structure Shaped (request : InternalLoadRequest) : Prop where
  channels : request.channels.length = request.profile.expectedChannels
  manifest : request.profile = .deviceCoordinator ∨
    request.profile = .deviceCoordinatorResourceDomain → ∃ m, request.deviceManifest = some m
  noManifest : request.profile ≠ .deviceCoordinator →
    request.profile ≠ .deviceCoordinatorResourceDomain → request.deviceManifest = none

theorem checkShape_shaped (h : checkShape request = .ok ()) : Shaped request := by
  simp only [checkShape, Outcome.bind_eq_ok, Outcome.rejectIf_eq_ok, exists_const] at h
  obtain ⟨hch, hman, -⟩ := h
  have hman : (decide (request.profile = .deviceCoordinator) ||
      decide (request.profile = .deviceCoordinatorResourceDomain)) =
        request.deviceManifest.isSome := by simpa using hman
  refine ⟨by simpa using hch, fun hp => ?_, fun h₁ h₂ => ?_⟩
  · rw [← Option.isSome_iff_exists, ← hman]
    simpa using hp
  · simpa [h₁, h₂] using hman.symm

theorem Shaped.moved_nil (h : Shaped request) (hch : request.profile.expectedChannels = 0)
    (h₁ : request.profile ≠ .deviceCoordinator)
    (h₂ : request.profile ≠ .deviceCoordinatorResourceDomain) : request.moved = [] := by
  have hlen := h.channels
  rw [hch, List.length_eq_zero_iff] at hlen
  rw [InternalLoadRequest.moved, hlen, h.noManifest h₁ h₂]
  rfl

/-- The profiles that hand the child a claim on a resource domain. -/
def LaunchProfile.needsDomain (profile : LaunchProfile) : Bool :=
  profile = .supervisorResourceDomain || profile = .d6ResourceOwner ||
    profile = .deviceCoordinatorResourceDomain

section Staging

variable {authority : LoadAuthority} {parentRoot pc thread : Nat} {created : ProcessCreateResult}
  {ranges : List Range}

/-- The transaction with the load's own capabilities staged. -/
def staging (tx : Transaction) (bootfs taskGroup domain : Option Nat) : Transaction :=
  { tx with delegatedBootfs := bootfs, delegatedTaskGroup := taskGroup,
            delegatedResourceDomain := domain }

theorem duplicateFor_phase (hset : Setting tr caller assume E) (tx : Transaction)
    (bootfs taskGroup domain : Option Nat) (bootfs' taskGroup' domain' : Nat → Option Nat)
    (handle : Nat) (rights : Rights) (hL : Unsent (staging tx bootfs taskGroup domain) L)
    (howned : ∀ d, (staging tx (bootfs' d) (taskGroup' d)
      (domain' d)).owned.Perm (d :: (staging tx bootfs taskGroup domain).owned)) :
    Phase E request caller assume L
      (duplicateFor tr (staging tx bootfs taskGroup domain) handle rights) fun d L =>
        Unsent (staging tx (bootfs' d) (taskGroup' d) (domain' d)) L :=
  call_phase hset hL rfl (fun _ => rfl) fun d _ =>
    hL.gain (howned d) rfl (hL.child.congr rfl rfl rfl rfl)

theorem require_phase {value : Option α} {e : LaunchError}
    {P : β → Ledger → Prop} (hv : value = some a) (h : Phase E request caller assume L (f a) P) :
    Phase E request caller assume L (require value e >>= f) P := by
  subst hv
  have heq : (require (some a) e : Load τ ε α) >>= f = f a := pure_bind a f
  rw [heq]
  exact h

/-- Where the staging of capabilities ends. -/
def StagedIn (request : InternalLoadRequest) (base : Transaction)
    (r : Transaction × List HandleTransfer) (L : Ledger) : Prop :=
  Staged request base r.1 r.2 ∧ Unsent (keepSupplied r.1) L

theorem releaseMoved_authority {profile : LaunchProfile}
    (hauth : (profile.hasLoaderAuthorityTrio || profile.hasLoaderAuthorityQuartet) = true)
    (parentRoot pc : Nat) (created : ProcessCreateResult) (ranges : List Range) (thread : Nat)
    (bootfs taskGroup domain : Option Nat) :
    releaseMoved profile (staging (constructing parentRoot pc created ranges (some thread)) bootfs
        taskGroup domain) =
      { constructing parentRoot pc created ranges (some thread) with root := none } := by
  cases profile <;> first | rfl | cases hauth

theorem duplicateDomain_phase (hset : Setting tr caller assume E) (bootfs taskGroup : Option Nat)
    (handle : Nat) (rights : Rights)
    (hL : Unsent (staging (constructing parentRoot pc created ranges (some thread)) bootfs
      taskGroup none) L) :
    Phase E request caller assume L (duplicateFor tr (staging (constructing parentRoot pc created
        ranges (some thread)) bootfs taskGroup none) handle rights) fun d =>
      Unsent (staging (constructing parentRoot pc created ranges (some thread)) bootfs taskGroup
        (some d)) := by
  refine duplicateFor_phase hset _ bootfs taskGroup none (fun _ => bootfs) (fun _ => taskGroup)
    some handle rights hL fun d => ?_
  cases bootfs <;> cases taskGroup <;> simp [Transaction.owned, staging, constructing] <;> grind

theorem stageAuthority_phase (hset : Setting tr caller assume E)
    (hauth : (request.profile.hasLoaderAuthorityTrio ||
      request.profile.hasLoaderAuthorityQuartet) = true)
    (hmoved : request.moved = [])
    (hdomain : request.profile.needsDomain = true → request.resourceDomain.isSome)
    (hL : Unsent (constructing parentRoot pc created ranges (some thread)) L) :
    Phase E request caller assume L (stageAuthority tr authority request
        (constructing parentRoot pc created ranges (some thread)) created.root)
      (StagedIn request (constructing parentRoot pc created ranges (some thread))) := by
  set base := constructing parentRoot pc created ranges (some thread) with hbase
  refine .bind (duplicateFor_phase hset base none none none some (fun _ => none) (fun _ => none)
    _ _ hL fun d => ?_) fun bootfs L₁ hL₁ => ?_
  · show [thread, created.root, created.process, d, pc].Perm
      [d, thread, created.root, created.process, pc]
    grind
  refine .bind (duplicateFor_phase hset base (some bootfs) none none (fun _ => some bootfs) some
    (fun _ => none) _ _ hL₁ fun d => ?_) fun taskGroup L₂ hL₂ => ?_
  · show [thread, created.root, created.process, d, bootfs, pc].Perm
      [d, thread, created.root, created.process, bootfs, pc]
    grind
  have hrelease := releaseMoved_authority hauth parentRoot pc created ranges thread (some bootfs)
    (some taskGroup)
  by_cases hq : request.profile.hasLoaderAuthorityQuartet = true
  · rw [if_pos hq]
    obtain ⟨domain, hdom⟩ := Option.isSome_iff_exists.mp (hdomain (by
      cases h : request.profile <;>
        simp_all [LaunchProfile.hasLoaderAuthorityQuartet, LaunchProfile.needsDomain]))
    refine require_phase hdom ?_
    refine .bind (duplicateDomain_phase hset (some bootfs) (some taskGroup) _ _ hL₂)
      fun domain L₃ h => .pure ⟨⟨⟨[created.root, bootfs, taskGroup, domain], ?_, ?_⟩, rfl, ?_⟩, h⟩
    · rw [hmoved]
      exact .refl _
    · show (keepSupplied (staging base (some bootfs) (some taskGroup) (some domain))).owned.Perm
        (_ ++ (releaseMoved _ (staging base (some bootfs) (some taskGroup) (some domain))).owned)
      rw [hrelease]
      show [thread, created.root, created.process, taskGroup, domain, bootfs, pc].Perm
        [created.root, bootfs, taskGroup, domain, thread, created.process, pc]
      grind
    · exact congrArg (fun tx : Transaction => { tx with root := none }) (hrelease (some domain))
  · rw [if_neg hq]
    refine .pure ⟨⟨⟨[created.root, bootfs, taskGroup], ?_, ?_⟩, rfl, ?_⟩, hL₂⟩
    · rw [hmoved]
      exact .refl _
    · show (keepSupplied (staging base (some bootfs) (some taskGroup) none)).owned.Perm
        (_ ++ (releaseMoved _ (staging base (some bootfs) (some taskGroup) none)).owned)
      rw [hrelease]
      show [thread, created.root, created.process, taskGroup, bootfs, pc].Perm
        [created.root, bootfs, taskGroup, thread, created.process, pc]
      grind
    · exact congrArg (fun tx : Transaction => { tx with root := none }) (hrelease none)

theorem stageResourceOwner_phase (hset : Setting tr caller assume E)
    (hprofile : request.profile = .d6ResourceOwner) (hmoved : request.moved = [])
    (hdomain : request.resourceDomain.isSome)
    (hL : Unsent (constructing parentRoot pc created ranges (some thread)) L) :
    Phase E request caller assume L (stageResourceOwner tr request
        (constructing parentRoot pc created ranges (some thread)))
      (StagedIn request (constructing parentRoot pc created ranges (some thread))) := by
  obtain ⟨domain, hdom⟩ := Option.isSome_iff_exists.mp hdomain
  refine require_phase hdom ?_
  refine .bind (duplicateDomain_phase hset none none _ _ hL) fun domain L₁ h =>
    .pure ⟨⟨⟨[domain], ?_, ?_⟩, rfl, ?_⟩, h⟩
  · rw [hmoved]
    exact .refl _
  · rw [hprofile]
    show [thread, created.root, created.process, domain, pc].Perm
      [domain, thread, created.root, created.process, pc]
    grind
  · rw [hprofile]
    rfl

variable {channel : Nat}

theorem stageCoordinator_phase (hset : Setting tr caller assume E)
    (hprofile : request.profile = .deviceCoordinator ∨
      request.profile = .deviceCoordinatorResourceDomain) {manifest : Nat}
    (hch : request.channels = [channel]) (hman : request.deviceManifest = some manifest)
    (hdomain : request.profile.needsDomain = true → request.resourceDomain.isSome)
    (hL : Unsent (constructing parentRoot pc created ranges (some thread)) L) :
    Phase E request caller assume L (stageCoordinator tr request
        (constructing parentRoot pc created ranges (some thread)) created.root)
      (StagedIn request (constructing parentRoot pc created ranges (some thread))) := by
  have hmoved : request.moved = [channel, manifest] := by
    simp [InternalLoadRequest.moved, hch, hman]
  unfold stageCoordinator firstChannel
  rw [hch]
  refine require_phase hman ?_
  rcases hprofile with hprofile | hprofile
  · rw [if_neg (by rw [hprofile]; exact nofun)]
    refine .pure ⟨⟨⟨[created.root], ?_, ?_⟩, rfl, ?_⟩, hL⟩
    · rw [hmoved]
      exact .refl _
    · rw [hprofile]
      show [thread, created.root, created.process, pc].Perm
        [created.root, thread, created.process, pc]
      grind
    · rw [hprofile]
      rfl
  · rw [if_pos hprofile]
    obtain ⟨domain, hdom⟩ := Option.isSome_iff_exists.mp (hdomain (by rw [hprofile]; rfl))
    refine require_phase hdom ?_
    refine .bind (duplicateDomain_phase hset none none _ _ hL) fun domain L₁ h =>
      .pure ⟨⟨⟨[created.root, domain], ?_, ?_⟩, rfl, ?_⟩, h⟩
    · rw [hmoved]
      show [created.root, channel, manifest, domain].Perm [created.root, domain, channel, manifest]
      grind
    · rw [hprofile]
      show [thread, created.root, created.process, domain, pc].Perm
        [created.root, domain, thread, created.process, pc]
      grind
    · rw [hprofile]
      rfl

theorem firstChannel_phase {f : Nat → Load τ ε β} {P : β → Ledger → Prop}
    (hch : request.channels = [channel]) (h : Phase E request caller assume L (f channel) P) :
    Phase E request caller assume L (firstChannel request >>= f) P := by
  have heq : (firstChannel request : Load τ ε Nat) >>= f = f channel := by
    unfold firstChannel
    rw [hch]
    exact pure_bind channel f
  rw [heq]
  exact h

theorem stageCapabilities_phase (hset : Setting tr caller assume E) (hshape : Shaped request)
    (hdomain : request.profile.needsDomain = true → request.resourceDomain.isSome)
    (hL : Unsent (constructing parentRoot pc created ranges (some thread)) L) :
    Phase E request caller assume L (stageCapabilities tr authority request
        (constructing parentRoot pc created ranges (some thread)) created.root)
      (StagedIn request (constructing parentRoot pc created ranges (some thread))) := by
  have hlen := hshape.channels
  have hman := hshape.noManifest
  unfold stageCapabilities
  cases hp : request.profile
  case init0 | i2Stress | capabilityController | supervisor | supervisorResourceDomain =>
    exact stageAuthority_phase hset (by rw [hp]; rfl)
      (hshape.moved_nil (by rw [hp]; rfl) (by simp [hp]) (by simp [hp])) hdomain hL
  case d6ResourceOwner =>
    exact stageResourceOwner_phase hset hp
      (hshape.moved_nil (by rw [hp]; rfl) (by simp [hp]) (by simp [hp]))
      (hdomain (by rw [hp]; rfl)) hL
  case deviceCoordinator | deviceCoordinatorResourceDomain =>
    rw [hp] at hlen
    obtain ⟨channel, hch⟩ := List.length_eq_one_iff.mp hlen
    obtain ⟨manifest, hm⟩ := hshape.manifest (by simp [hp])
    exact stageCoordinator_phase hset (by simp [hp]) hch hm hdomain hL
  case dw1bProgress =>
    rw [hp] at hlen
    obtain ⟨channel, hch⟩ := List.length_eq_one_iff.mp hlen
    exact firstChannel_phase hch (.pure ⟨staged_supplied hch (hman (by simp [hp]) (by simp [hp]))
      (by rw [hp]; rfl) (by simp [hp]), hL⟩)
  case wyrmsh | jobV2Streams =>
    exact .pure ⟨staged_supplied rfl (hman (by simp [hp]) (by simp [hp])) (by rw [hp]; rfl)
      (by simp [hp]), hL⟩
  case consoled =>
    exact .pure ⟨staged_root rfl (hman (by simp [hp]) (by simp [hp])) (by rw [hp]; rfl)
      (by rw [hp]; rfl) (by simp [hp]), hL⟩
  case bootstrapRegistry | bootstrapService | registryClient | launchClient | deviceDriver =>
    rw [hp] at hlen
    obtain ⟨channel, hch⟩ := List.length_eq_one_iff.mp hlen
    exact firstChannel_phase hch (.pure ⟨staged_root hch (hman (by simp [hp]) (by simp [hp]))
      (by rw [hp]; rfl) (by rw [hp]; rfl) (by simp [hp]), hL⟩)
  case probeChild =>
    rw [hp] at hlen
    exact .pure ⟨staged_root (List.length_eq_zero_iff.mp hlen)
      (hman (by simp [hp]) (by simp [hp])) (by rw [hp]; rfl) (by rw [hp]; rfl) (by simp [hp]),
      hL⟩
  case earlyBootStub | jobV2 | hello =>
    rw [hp] at hlen
    exact .pure ⟨staged_supplied (List.length_eq_zero_iff.mp hlen)
      (hman (by simp [hp]) (by simp [hp])) (by rw [hp]; rfl) (by simp [hp]), hL⟩

end Staging

/-! ## The start -/

/-- The transaction once nothing is left but to start the child. -/
def launching (parentRoot pc : Nat) (created : ProcessCreateResult) (ranges : List Range)
    (thread : Nat) : Transaction :=
  { constructing parentRoot pc created ranges (some thread) with root := none }

/-- What a load leaves in the parent. -/
structure Loaded (loaded : LoadedProcess) (L : Ledger) : Prop where
  handles : L.handles = {loaded.process, loaded.launchChannel}
  aliases : L.aliases = 0
  child : ∃ c, L.child = some c ∧ c.process = loaded.process ∧ c.started = true

theorem stopChild_quiet (hfresh : FreshUnder tr caller assume) {c : Child} {process thread : Nat}
    (hc : L.child = some c) (hp : c.process = process) (ht : c.thread = some thread) :
    Quiet caller assume L (stopChild tr process thread) fun running L' =>
      (running = false → L'.child = none) ∧ L' = { L with child := L'.child } := by
  refine .bind (R := fun running L' => (running = false → L'.child = none) ∧
      (running = true → L' = L) ∧ L' = { L with child := L'.child })
    (isErr_quiet hfresh (by simp [Ledger.legal, hc, hp]) (fun _ => ⟨fun _ => rfl, nofun, rfl⟩)
      ⟨nofun, fun _ => rfl, rfl⟩) fun running L₁ h => ?_
  obtain ⟨hstop, hsame, hrest⟩ := h
  cases running with
  | false => exact .pure ⟨hstop, hrest⟩
  | true =>
      obtain rfl := hsame rfl
      exact isErr_quiet hfresh (by simp [Ledger.legal, hc, ht]) (fun _ => ⟨fun _ => rfl, rfl⟩)
        ⟨nofun, rfl⟩

theorem abandonChild_phase (hset : Setting tr caller assume E) {parentRoot pc thread : Nat}
    {created : ProcessCreateResult} {ranges : List Range}
    (hL : Holds (launching parentRoot pc created ranges thread) L) (hrel : ¬ tr.Reliable)
    (cause : ε) (P : α → Ledger → Prop) :
    Phase E request caller assume L (abandonChild tr created.process thread pc cause) P := by
  intro s hs hown
  obtain ⟨c, hc, hp⟩ := Option.map_eq_some_iff.mp hL.child.process
  have ht : c.thread = some thread := by
    have h := hL.child.thread
    rwa [hc] at h
  have hstop := (stopChild_quiet hset.fresh hc hp ht s).invariant
    (fun _ _ _ => Ledger.step_own) hown
  refine .bind (hstop.mono fun o s₁ L₁ h => ?_)
  obtain ⟨⟨hs₁, running, rfl, hstop, h₁⟩, hown₁⟩ := h
  have howed : Owing ([thread, created.process, pc] ++ []) false L₁ := by
    rw [h₁]
    exact ⟨hL.handles.ge, fun _ => hL.handles⟩
  have hclose := (closeEach_quiet hset.fresh howed s₁).invariant
    (fun _ _ _ => Ledger.step_own) hown₁
  refine .bind (hclose.mono fun o s₂ L₂ h => ?_)
  obtain ⟨⟨hs₂, failed, rfl, howed₂, h₂⟩, hown₂⟩ := h
  have hsent : L₂.sent = L.sent := by rw [h₂, h₁]
  refine .silent rfl ⟨hs₂ ▸ hs₁ ▸ hs.of_sent hsent, hown₂, hset.undone _ _ ⟨hrel, fun hf => ?_⟩⟩
  obtain ⟨rfl, rfl⟩ := Bool.or_eq_false_iff.mp hf
  refine ⟨howed₂.exact rfl, ?_, ?_⟩
  · rw [h₂, h₁]
    exact hL.aliases
  · rw [h₂]
    exact hstop rfl

theorem startChild_phase (hset : Setting tr caller assume E) {parentRoot pc thread : Nat}
    {created : ProcessCreateResult} {ranges : List Range} (entry stackPointer startupAbi : Nat)
    (hL : Holds (launching parentRoot pc created ranges thread) L) (hsent : L.sent.isSome) :
    Phase E request caller assume L (startChild tr (launching parentRoot pc created ranges thread)
        created thread pc entry stackPointer startupAbi)
      fun r L => Loaded r L ∧ L.sent.isSome := by
  obtain ⟨c, hc, hp⟩ := Option.map_eq_some_iff.mp hL.child.process
  have ht : c.thread = some thread := by
    have h := hL.child.thread
    rwa [hc] at h
  refine .bind (P := fun _ L => Holds (launching parentRoot pc created ranges thread) L ∧
      L.sent.isSome ∧ L.child.any (·.started) = true)
    (callOrFail_phase hset hL (by simp [Ledger.legal, hc, ht]) (fun _ => rfl) fun _ _ => ?_)
    fun _ L₁ h => ?_
  · refine ⟨⟨hL.handles, hL.aliases, ?_, ?_, fun root hroot => ?_⟩, hsent,
      by simp [Ledger.apply, hc]⟩
    · simp [Ledger.apply, hc, hp, launching, constructing]
    · simp [Ledger.apply, hc, ht, launching, constructing]
    · cases hroot
  obtain ⟨hL₁, hsent₁, hstarted⟩ := h
  have hmem : thread ∈ L₁.handles :=
    hL₁.mem (by simp [launching, constructing, Transaction.owned])
  intro s hs hown
  refine attempt_ends hset.fresh (by simpa [Ledger.legal] using hmem) (fun r s' hs' hr => ?_)
    fun e s' hs' hrel => ?_
  · refine .silent rfl ⟨hs' ▸ hs.of_sent rfl, Ledger.apply_own hr hown, ⟨?_, hL₁.aliases, ?_⟩,
      hsent₁⟩
    · show L₁.handles.erase thread = _
      rw [hL₁.handles]
      exact Multiset.erase_cons_head thread {created.process, pc}
    · obtain ⟨c₁, hc₁, hp₁⟩ := Option.map_eq_some_iff.mp hL₁.child.process
      exact ⟨c₁, hc₁, hp₁, by simpa [hc₁] using hstarted⟩
  · exact abandonChild_phase hset hL₁ hrel e _ s' (hs' ▸ hs) hown

end Wyrmroot.Loader
