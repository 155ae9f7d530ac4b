import Wyrmroot.Lib.Digest
import Wyrmroot.Loader.Process

/-!
# The mappings of a load

A load creates one process, fills each object of the child through a mapping
of its own, and maps the object into the child. A trace is read as a list of
`MappingStep`s: the process and the objects as they are created, the parent's
mappings as they come and go, the child's mappings, done or refused, and the
start. `Trail` lists what can be seen of a load that has the objects of a plan
still to place; every prefix of a load, and so every failure, is in one of its
seven forms.
-/

namespace Wyrmroot.Loader

open Outcome

/-- A mapping in the child's address space. -/
structure ChildMapping where
  address : Nat
  bytes : Nat
  protection : SegmentProtection
deriving DecidableEq

inductive MappingStep where
  | born (childRoot : Nat)
  | created (memory : Nat)
  | aliased (parentRoot memory : Nat) (mapping : ParentMapping)
  | unaliased (parentRoot : Nat) (mapping : ParentMapping)
  | mapped (childRoot memory : Nat) (mapping : ChildMapping) (ok : Bool)
  | started (ok : Bool)
deriving DecidableEq

def Event.mappingSteps : Event → List MappingStep
  | .done (.processCreate _) created => [.born created.root]
  | .done (.memoryCreate _ _) memory => [.created memory]
  | .done (.materializeParent parentRoot memory _ _ _) mapping =>
      [.aliased parentRoot memory mapping]
  | .done (.unmapParent parentRoot mapping) _ => [.unaliased parentRoot mapping]
  | .done (.mapChild childRoot memory address bytes protection) _ =>
      [.mapped childRoot memory ⟨address, bytes, protection⟩ true]
  | .failed (.mapChild childRoot memory address bytes protection) =>
      [.mapped childRoot memory ⟨address, bytes, protection⟩ false]
  | .done (.threadStart _ _ _ _ _) _ => [.started true]
  | .failed (.threadStart _ _ _ _ _) => [.started false]
  | _ => []

def mappingSteps (w : List Event) : List MappingStep := Prog.digest Event.mappingSteps w

def ChildMapping.ofPlan (m : MaterializationPlan) : ChildMapping :=
  ⟨m.childAddress, m.objectSize, m.protection⟩

/-- The stack of the child, with the startup block at its end. -/
def stackMapping : ChildMapping := ⟨initialStack.childAddress, initialStack.objectSize, .readWrite⟩

/-- The mappings that a child is to have, in the order in which they are made. -/
def plannedMappings (plan : ElfLoadPlan) : List ChildMapping :=
  plan.segments.map (fun segment => .ofPlan (.ofSegment segment)) ++ [stackMapping]

/-- What is seen of a load with these objects to place, from here on. -/
inductive Trail (parentRoot childRoot : Nat) : List ChildMapping → List MappingStep → Prop
  | stopped (plan : List ChildMapping) : Trail parentRoot childRoot plan []
  | created (next : ChildMapping) (plan : List ChildMapping) (memory : Nat) :
      Trail parentRoot childRoot (next :: plan) [.created memory]
  | filled (next : ChildMapping) (plan : List ChildMapping) (memory : Nat)
      (mapping : ParentMapping) :
      Trail parentRoot childRoot (next :: plan)
        [.created memory, .aliased parentRoot memory mapping]
  | released (next : ChildMapping) (plan : List ChildMapping) (memory : Nat)
      (mapping : ParentMapping) :
      Trail parentRoot childRoot (next :: plan)
        [.created memory, .aliased parentRoot memory mapping, .unaliased parentRoot mapping]
  | refused (next : ChildMapping) (plan : List ChildMapping) (memory : Nat)
      (mapping : ParentMapping) :
      Trail parentRoot childRoot (next :: plan)
        [.created memory, .aliased parentRoot memory mapping, .unaliased parentRoot mapping,
          .mapped childRoot memory next false]
  | placed {next : ChildMapping} {plan : List ChildMapping} {t : List MappingStep} (memory : Nat)
      (mapping : ParentMapping) (h : Trail parentRoot childRoot plan t) :
      Trail parentRoot childRoot (next :: plan)
        (.created memory :: .aliased parentRoot memory mapping ::
          .unaliased parentRoot mapping :: .mapped childRoot memory next true :: t)
  | started (ok : Bool) : Trail parentRoot childRoot [] [.started ok]

/-! ## Parts of a load -/

variable {τ ε ε' α β : Type} {tr : LoaderPlatform τ ε} {P : α → Prop} {R : β → Prop}

/-- The program shows nothing, and a value that it returns satisfies `P`. -/
def Unseen (m : Io τ ε' α) (P : α → Prop) : Prop :=
  ∀ s, Prog.Sees Event.mappingSteps m (fun o _ t => t = [] ∧ ∀ a, o = .ok a → P a) s

variable {m : Io τ ε' α} {s : LoadState τ} {f : α → Io τ ε' β}

namespace Unseen

theorem pure {a : α} (h : P a) : Unseen (pure a : Io τ ε' α) P := by
  intro s
  refine ⟨rfl, fun b hb => ?_⟩
  obtain rfl := ok.inj hb
  exact h

theorem panic : Unseen (Prog.panic : Io τ ε' α) P := by
  intro s
  refine ⟨rfl, fun b hb => ?_⟩
  cases hb

theorem throw (e : ε') : Unseen (Prog.throw e : Io τ ε' α) P := by
  intro s
  refine ⟨rfl, fun b hb => ?_⟩
  cases hb

theorem lift (x : Outcome ε' α) : Unseen (Prog.lift x : Io τ ε' α) fun _ => True :=
  fun _ => ⟨rfl, fun _ _ => trivial⟩

theorem then_sees {Q : Outcome ε' β → LoadState τ → List MappingStep → Prop} (h : Unseen m P)
    (hf : ∀ a s', P a → Prog.Sees Event.mappingSteps (f a) Q s') (herr : ∀ e s', Q (.err e) s' [])
    (hpanic : ∀ s', Q .panic s' []) : Prog.Sees Event.mappingSteps (m >>= f) Q s := by
  refine (h s).bind (fun a s' t hq => ?_) (fun e s' t hq => ?_) fun s' t hq => ?_
  · obtain ⟨rfl, hP⟩ := hq
    exact hf a s' (hP a rfl)
  · obtain ⟨rfl, -⟩ := hq
    exact herr e s'
  · obtain ⟨rfl, -⟩ := hq
    exact hpanic s'

theorem bind (h : Unseen m P) (hf : ∀ a, P a → Unseen (f a) R) : Unseen (m >>= f) R := by
  intro s
  refine h.then_sees (fun a s' ha => hf a ha s') (fun e s' => ⟨rfl, fun b hb => ?_⟩)
    fun s' => ⟨rfl, fun b hb => ?_⟩
  · cases hb
  · cases hb

theorem ite {c : Prop} [Decidable c] {m' : Io τ ε' α} (h : c → Unseen m P)
    (h' : ¬c → Unseen m' P) : Unseen (if c then m else m') P := by
  split_ifs with hc
  · exact h hc
  · exact h' hc

end Unseen

/-- A call that creates neither a process nor an object, changes no mapping of
the child and starts nothing. -/
def Call.hidden : Call → Bool
  | .processCreate .. | .memoryCreate .. | .materializeParent .. | .unmapParent .. | .mapChild ..
  | .threadStart .. => false
  | _ => true

variable {c : Call}

theorem Call.hidden_done (h : c.hidden = true) (r : c.Result) :
    Event.mappingSteps (.done c r) = [] := by
  cases c <;> first | rfl | cases h

theorem Call.hidden_failed (h : c.hidden = true) :
    Event.mappingSteps (.failed c) = [] := by
  cases c <;> first | rfl | cases h

theorem attempt_sees {f : Except ε c.Result → Io τ ε' α}
    {Q : Outcome ε' α → LoadState τ → List MappingStep → Prop}
    (hok : ∀ r s', Prog.Sees Event.mappingSteps (f (.ok r))
      (fun o s'' t => Q o s'' (Event.mappingSteps (.done c r) ++ t)) s')
    (herr : ∀ e s', Prog.Sees Event.mappingSteps (f (.error e))
      (fun o s'' t => Q o s'' (Event.mappingSteps (.failed c) ++ t)) s') :
    Prog.Sees Event.mappingSteps (Prog.attempt (request tr c) >>= f) Q s := by
  have hcall : Prog.Sees Event.mappingSteps (request tr c) (fun o _ t =>
      (∃ r, o = .ok r ∧ t = Event.mappingSteps (.done c r)) ∨
        ∃ e, o = .err e ∧ t = Event.mappingSteps (.failed c)) s := by
    unfold Prog.Sees Prog.wp request
    rcases tr.call c s.io with ⟨e | r, io⟩
    · exact .inr ⟨e, rfl, List.append_nil _⟩
    · exact .inl ⟨r, rfl, List.append_nil _⟩
  refine hcall.attempt_bind (fun r s' t h => ?_) (fun e s' t h => ?_) fun s' t h => ?_
  · rcases h with ⟨r', hr, rfl⟩ | ⟨e, he, -⟩
    · obtain rfl := ok.inj hr
      exact hok _ s'
    · cases he
  · rcases h with ⟨r, hr, -⟩ | ⟨e', he, rfl⟩
    · cases hr
    · exact herr e s'
  · rcases h with ⟨r, hr, -⟩ | ⟨e', he, -⟩
    · cases hr
    · cases he

theorem isErr_unseen (h : c.hidden = true) :
    Unseen (isErr tr c : Load τ ε Bool) fun _ => True := by
  intro s
  refine attempt_sees (fun r s' => ?_) fun e s' => ?_
  · rw [Call.hidden_done h]
    exact Unseen.pure (P := fun _ => True) trivial s'
  · rw [Call.hidden_failed h]
    exact Unseen.pure (P := fun _ => True) trivial s'

/-! ## Rollback -/

variable {γ : Type}

theorem whenSome_unseen {slot : Option γ} {body : γ → Load τ ε Bool}
    (h : ∀ b, Unseen (body b) fun _ => True) : Unseen (whenSome slot body) fun _ => True := by
  cases slot with
  | none => exact .pure trivial
  | some b => exact h b

theorem unmapRanges_unseen (root : Nat) (ranges : List Range) :
    Unseen (unmapRanges tr root ranges : Load τ ε Bool) fun _ => True := by
  induction ranges with
  | nil => exact .pure trivial
  | cons range rest ih =>
      exact (isErr_unseen rfl).bind fun _ _ => ih.bind fun _ _ => .pure trivial

theorem closeEach_unseen (handles : List Nat) :
    Unseen (closeEach tr handles : Load τ ε Bool) fun _ => True := by
  induction handles with
  | nil => exact .pure trivial
  | cons handle rest ih =>
      exact (isErr_unseen rfl).bind fun _ _ => ih.bind fun _ _ => .pure trivial

theorem endThread_unseen (thread : Option Nat) :
    Unseen (endThread tr thread : Load τ ε (Bool × Bool)) fun _ => True := by
  cases thread with
  | none => exact .pure trivial
  | some thread =>
      exact (isErr_unseen rfl).bind fun _ _ => (isErr_unseen rfl).bind fun _ _ => .pure trivial

theorem endProcess_unseen (threadTerminated : Bool) (process : Nat) :
    Unseen (endProcess tr threadTerminated process : Load τ ε Bool) fun _ => True := by
  cases threadTerminated with
  | true => exact (isErr_unseen rfl).bind fun _ _ => .pure trivial
  | false =>
      exact (isErr_unseen rfl).bind fun _ _ => (isErr_unseen rfl).bind fun _ _ => .pure trivial

theorem unwinding_unseen (tx : Transaction) (mapping : Bool) :
    Unseen (do
      let ranges ← whenSome tx.root fun root => unmapRanges tr root tx.ranges.reverse
      let (threadTerminated, thread) ← endThread tr tx.thread
      let root ← whenSome tx.root fun root => isErr tr (.close root)
      let process ← whenSome tx.process (endProcess tr threadTerminated)
      let staged ← closeEach tr ([tx.scratchMemory, tx.delegatedTaskGroup,
        tx.delegatedResourceDomain, tx.delegatedBootfs].filterMap id)
      let channels ← closeEach tr tx.delegatedChannels
      let endpoints ← closeEach tr ([tx.delegatedManifest, tx.childEndpoint, tx.broadParent,
        tx.parentChannel].filterMap id)
      pure (mapping || ranges || thread || root || process || staged || channels || endpoints) :
        Load τ ε Bool) fun _ => True := by
  refine (whenSome_unseen fun _ => unmapRanges_unseen _ _).bind fun _ _ => ?_
  refine (endThread_unseen _).bind fun _ _ => ?_
  refine (whenSome_unseen fun _ => isErr_unseen rfl).bind fun _ _ => ?_
  refine (whenSome_unseen fun _ => endProcess_unseen _ _).bind fun _ _ => ?_
  refine (closeEach_unseen _).bind fun _ _ => (closeEach_unseen _).bind fun _ _ => ?_
  exact (closeEach_unseen _).bind fun _ _ => .pure trivial

theorem rollback_unseen {tx : Transaction} (h : tx.parentMapping = none) :
    Unseen (rollback tr tx : Load τ ε Bool) fun _ => True := by
  unfold rollback
  rw [h]
  exact (Unseen.pure (P := fun _ => True) trivial).bind fun _ _ => unwinding_unseen tx _

theorem rollback_sees {tx : Transaction} {mapping : ParentMapping}
    (h : tx.parentMapping = some mapping) (s : LoadState τ) :
    Prog.Sees Event.mappingSteps (rollback tr tx : Load τ ε Bool)
      (fun _ _ t => t = [] ∨ t = [.unaliased tx.parentRoot mapping]) s := by
  have hunmap : Prog.Sees Event.mappingSteps (isErr tr (.unmapParent tx.parentRoot mapping) :
      Load τ ε Bool) (fun _ _ t => t = [] ∨ t = [.unaliased tx.parentRoot mapping]) s :=
    attempt_sees (fun r s' => .inr rfl) fun e s' => .inl rfl
  unfold rollback
  rw [h]
  refine hunmap.bind (fun failed s₁ t₁ h₁ => ?_) (fun e s₁ t₁ h₁ => h₁) fun s₁ t₁ h₁ => h₁
  refine (unwinding_unseen tx failed s₁).mono fun o s₂ t₂ h₂ => ?_
  rw [h₂.1, List.append_nil]
  exact h₁

/-! ## Calls of a phase -/

/-- The outcome of a phase that does not go on, and the steps it ends in. -/
def Stops (o : Outcome ε' α) : Prop := ∀ a, o ≠ .ok a

theorem fail_sees {tx : Transaction} {stage : LoadStage} {cause : ε} {T : List MappingStep → Prop}
    (h : Prog.Sees Event.mappingSteps (rollback tr tx : Load τ ε Bool) (fun _ _ t => T t) s) :
    Prog.Sees Event.mappingSteps (fail tr tx stage cause : Load τ ε α)
      (fun o _ t => Stops o ∧ T t) s := by
  unfold fail
  refine h.bind (fun failed s₁ t h₁ => ⟨fun a ha => (by cases ha), ?_⟩)
    (fun e s₁ t h₁ => ⟨fun a ha => (by cases ha), h₁⟩)
    fun s₁ t h₁ => ⟨fun a ha => (by cases ha), h₁⟩
  show T (t ++ [])
  rwa [List.append_nil]

theorem callOrFail_sees {tx : Transaction} {stage : LoadStage}
    (h : tx.parentMapping = none) (s : LoadState τ) :
    Prog.Sees Event.mappingSteps (callOrFail tr tx stage c) (fun o _ t =>
      (∃ r, o = .ok r ∧ t = Event.mappingSteps (.done c r)) ∨
        (Stops o ∧ t = Event.mappingSteps (.failed c))) s := by
  refine attempt_sees (fun r s' => .inl ⟨r, rfl, List.append_nil _⟩) fun e s' => ?_
  refine (fail_sees (T := fun t => t = [])
    ((rollback_unseen h s').mono fun o s'' t ht => ht.1)).mono fun o s'' t ht => .inr ⟨ht.1, ?_⟩
  rw [ht.2, List.append_nil]

theorem stops_err (e : ε') : Stops (.err e : Outcome ε' α) := by
  intro a ha
  cases ha

theorem stops_panic : Stops (.panic : Outcome ε' α) := by
  intro a ha
  cases ha

theorem callOrFail_unseen {tx : Transaction} {stage : LoadStage}
    (h : tx.parentMapping = none) (hc : c.hidden = true) :
    Unseen (callOrFail tr tx stage c) fun _ => True := by
  intro s
  refine (callOrFail_sees h s).mono fun o s' t ht => ⟨?_, fun _ _ => trivial⟩
  rcases ht with ⟨r, -, rfl⟩ | ⟨-, rfl⟩
  · exact Call.hidden_done hc r
  · exact Call.hidden_failed hc

theorem bind_sees {T : α → List MappingStep → Prop}
    {E : List MappingStep → Prop} {Q : Outcome ε' β → List MappingStep → Prop}
    (h : Prog.Sees Event.mappingSteps m
      (fun o _ t => (∃ a, o = .ok a ∧ T a t) ∨ (Stops o ∧ E t)) s)
    (hok : ∀ a s' t, T a t → Prog.Sees Event.mappingSteps (f a) (fun o _ t' => Q o (t ++ t')) s')
    (hstop : ∀ o t, Stops o → E t → Q o t) :
    Prog.Sees Event.mappingSteps (m >>= f) (fun o _ t => Q o t) s := by
  refine h.bind (fun a s' t ht => ?_) (fun e s' t ht => ?_) fun s' t ht => ?_
  · rcases ht with ⟨a', ha, hT⟩ | ⟨hstops, -⟩
    · obtain rfl := ok.inj ha
      exact hok a s' t hT
    · exact absurd rfl (hstops a)
  · rcases ht with ⟨a, ha, -⟩ | ⟨-, hT⟩
    · cases ha
    · exact hstop _ t (stops_err e) hT
  · rcases ht with ⟨a, ha, -⟩ | ⟨-, hT⟩
    · cases ha
    · exact hstop _ t stops_panic hT

theorem unmapParent_sees {tx : Transaction} {stage : LoadStage} {mapping : ParentMapping}
    {parentRoot : Nat} (h : tx.parentMapping = some mapping) (hroot : tx.parentRoot = parentRoot)
    (s : LoadState τ) :
    Prog.Sees Event.mappingSteps (callOrFail tr tx stage (.unmapParent parentRoot mapping))
      (fun o _ t => (∃ u, o = .ok u ∧ t = [.unaliased parentRoot mapping]) ∨
        (Stops o ∧ (t = [] ∨ t = [.unaliased parentRoot mapping]))) s := by
  subst hroot
  exact attempt_sees (fun u _ => .inl ⟨u, rfl, rfl⟩) fun _ s' =>
    (fail_sees (rollback_sees h s')).mono fun _ _ _ ht => .inr ht

/-! ## Placing an object -/

/-- The transaction between two objects: nothing of the child's is mapped in
the parent. -/
structure Between (authority : LoadAuthority) (tx : Transaction) : Prop where
  parentMapping : tx.parentMapping = none
  parentRoot : tx.parentRoot = authority.parentRoot

variable {authority : LoadAuthority} {tx : Transaction}

/-- Steps that place these objects, whatever a load shows after them. -/
def Whole (authority : LoadAuthority) (childRoot : Nat) (placed : List ChildMapping)
    (t : List MappingStep) : Prop :=
  ∀ plan t', Trail authority.parentRoot childRoot plan t' →
    Trail authority.parentRoot childRoot (placed ++ plan) (t ++ t')

/-- How placing these objects ends. -/
def Placing (authority : LoadAuthority) (childRoot : Nat) (planned : List ChildMapping)
    (o : Outcome (LoadError ε) Transaction) (t : List MappingStep) : Prop :=
  (∃ tx', o = .ok tx' ∧ Between authority tx' ∧ Whole authority childRoot planned t) ∨
    (Stops o ∧ ∀ plan, Trail authority.parentRoot childRoot (planned ++ plan) t)

theorem placeObject_sees (hb : Between authority tx) (childRoot objectSize offset : Nat)
    {contents : Load τ ε (List UInt8)} (hcontents : Unseen contents fun _ => True) (address : Nat)
    (protection : SegmentProtection) (s : LoadState τ) :
    Prog.Sees Event.mappingSteps
      (placeObject tr authority childRoot tx objectSize offset contents address protection)
      (fun o _ t => Placing authority childRoot [⟨address, objectSize, protection⟩] o t) s := by
  have hnothing : ∀ o : Outcome (LoadError ε) Transaction, Stops o →
      Placing authority childRoot [⟨address, objectSize, protection⟩] o [] :=
    fun o ho => .inr ⟨ho, fun plan => .stopped _⟩
  unfold placeObject
  refine bind_sees (callOrFail_sees hb.parentMapping s) (fun memory s₁ t ht => ?_)
    fun o t ho ht => ht ▸ hnothing o ho
  subst ht
  have hcreated : ∀ o : Outcome (LoadError ε) Transaction, Stops o →
      Placing authority childRoot [⟨address, objectSize, protection⟩] o [.created memory] :=
    fun o ho => .inr ⟨ho, fun plan => .created _ plan memory⟩
  refine hcontents.then_sees (fun bytes s₂ _ => ?_)
    (fun e s' => hcreated _ (stops_err e)) fun s' => hcreated _ stops_panic
  have hscratch : ({ tx with scratchMemory := some memory } : Transaction).parentMapping = none :=
    hb.parentMapping
  refine bind_sees (callOrFail_sees hscratch s₂) (fun mapping s₃ t ht => ?_) fun o t ho ht => ?_
  · subst ht
    have hmapping : ({ tx with scratchMemory := some memory, parentMapping := some mapping } :
      Transaction).parentMapping = some mapping := rfl
    refine bind_sees (unmapParent_sees hmapping hb.parentRoot s₃) (fun u s₄ t ht => ?_)
      fun o t ho ht => .inr ⟨ho, fun plan => ?_⟩
    · subst ht
      have hreleased : ({ tx with scratchMemory := some memory, parentMapping := none } :
        Transaction).parentMapping = none := rfl
      refine bind_sees (callOrFail_sees hreleased s₄) (fun u s₅ t ht => ?_)
        fun o t ho ht => .inr ⟨ho, fun plan => ?_⟩
      · subst ht
        have hplaced : ∀ plan, Trail authority.parentRoot childRoot
            (⟨address, objectSize, protection⟩ :: plan) [.created memory,
              .aliased authority.parentRoot memory mapping, .unaliased authority.parentRoot mapping,
              .mapped childRoot memory ⟨address, objectSize, protection⟩ true] :=
          fun plan => .placed memory mapping (.stopped plan)
        split_ifs
        · have hranged : Transaction.parentMapping
              { tx with
                scratchMemory := some memory
                parentMapping := none
                ranges := tx.ranges ++ [⟨address, objectSize⟩] } = none := rfl
          refine (callOrFail_unseen hranged rfl).then_sees (fun u s₆ _ => ?_)
            (fun e s' => .inr ⟨stops_err e, hplaced⟩) fun s' => .inr ⟨stops_panic, hplaced⟩
          exact .inl ⟨_, rfl, ⟨rfl, hb.parentRoot⟩, fun plan t' ht' => .placed memory mapping ht'⟩
        · exact .inr ⟨stops_panic, hplaced⟩
      · subst ht
        exact .refused _ plan memory mapping
    · rcases ht with rfl | rfl
      · exact .filled _ plan memory mapping
      · exact .released _ plan memory mapping
  · subst ht
    exact hcreated o ho

theorem placeSegments_sees (childRoot : Nat) (image : List UInt8) :
    ∀ (segments : List LoadSegment) (tx : Transaction), Between authority tx → ∀ s : LoadState τ,
      Prog.Sees Event.mappingSteps (placeSegments tr authority childRoot image tx segments)
        (fun o _ t => Placing authority childRoot
          (segments.map fun segment => .ofPlan (.ofSegment segment)) o t) s
  | [], tx, hb, _ => .inl ⟨tx, rfl, hb, fun _ _ ht => ht⟩
  | segment :: rest, tx, hb, s => by
      have hcontents : Unseen (segmentBytes image (.ofSegment segment) : Load τ ε (List UInt8))
          fun _ => True := .lift _
      refine bind_sees (T := fun tx' t => Between authority tx' ∧
          Whole authority childRoot [.ofPlan (.ofSegment segment)] t)
        (E := fun t => ∀ plan, Trail authority.parentRoot childRoot
          ([.ofPlan (.ofSegment segment)] ++ plan) t)
        (placeObject_sees hb childRoot _ _ hcontents _ _ s) (fun tx' s' t ht => ?_)
        fun o t ho ht => .inr ⟨ho, fun plan => ht _⟩
      obtain ⟨hb', hwhole⟩ := ht
      refine (placeSegments_sees childRoot image rest tx' hb' s').mono fun o s'' t' ht' => ?_
      rcases ht' with ⟨tx'', ho, hb'', hrest⟩ | ⟨ho, hrest⟩
      · refine .inl ⟨tx'', ho, hb'', fun plan t'' ht'' => ?_⟩
        rw [List.append_assoc]
        exact hwhole _ _ (hrest plan t'' ht'')
      · exact .inr ⟨ho, fun plan => hwhole _ _ (hrest plan)⟩

/-! ## The rest of a load -/

theorem reduceLaunchChannel_unseen (hb : Between authority tx) (broadParent childEndpoint : Nat) :
    Unseen (reduceLaunchChannel tr tx broadParent childEndpoint)
      fun r => Between authority r.1 := by
  have hbroad : Transaction.parentMapping { tx with
      broadParent := some broadParent, childEndpoint := some childEndpoint } = none :=
    hb.parentMapping
  refine (callOrFail_unseen hbroad rfl).bind fun parentChannel _ => ?_
  have hreduced : Transaction.parentMapping { tx with
      broadParent := some broadParent, childEndpoint := some childEndpoint,
      parentChannel := some parentChannel } = none := hb.parentMapping
  exact (callOrFail_unseen hreduced rfl).bind fun _ _ => .pure ⟨hb.parentMapping, hb.parentRoot⟩

theorem openLaunchChannel_unseen :
    Unseen (openLaunchChannel tr authority) fun r => Between authority r.1 := by
  intro s
  refine attempt_sees (fun r s' => ?_) fun e s' => ?_
  · have hfresh : Between authority { parentRoot := authority.parentRoot } := ⟨rfl, rfl⟩
    exact reduceLaunchChannel_unseen hfresh _ _ s'
  · exact Unseen.throw _ s'

theorem createProcess_sees (hb : Between authority tx) (childEndpoint : Nat) (s : LoadState τ) :
    Prog.Sees Event.mappingSteps (createProcess tr authority tx childEndpoint) (fun o _ t =>
      (∃ r, o = .ok r ∧ Between authority r.1 ∧ t = [.born r.2.root]) ∨ (Stops o ∧ t = [])) s := by
  refine bind_sees (callOrFail_sees hb.parentMapping s) (fun created s₁ t ht => ?_)
    fun o t ho ht => .inr ⟨ho, ht⟩
  subst ht
  exact .inl ⟨_, rfl, ⟨hb.parentMapping, hb.parentRoot⟩, rfl⟩

theorem createThread_unseen (hb : Between authority tx) (process : Nat) :
    Unseen (createThread tr tx process) fun r => Between authority r.1 :=
  (callOrFail_unseen hb.parentMapping rfl).bind fun _ _ => .pure ⟨hb.parentMapping, hb.parentRoot⟩

theorem duplicateFor_unseen (hb : Between authority tx) (handle : Nat) (rights : Rights) :
    Unseen (duplicateFor tr tx handle rights) fun _ => True :=
  callOrFail_unseen hb.parentMapping rfl

theorem require_unseen (value : Option γ) (e : LaunchError) :
    Unseen (require value e : Load τ ε γ) fun _ => True := .lift _

theorem firstChannel_unseen (request : InternalLoadRequest) :
    Unseen (firstChannel request : Load τ ε Nat) fun _ => True := by
  unfold firstChannel Prog.unwrap
  cases request.channels.head? with
  | none => exact .panic
  | some channel => exact .pure trivial

variable {request : InternalLoadRequest} {root : Nat}

theorem stageAuthority_unseen (hb : Between authority tx) :
    Unseen (stageAuthority tr authority request tx root) fun r => Between authority r.1 := by
  unfold stageAuthority
  refine (duplicateFor_unseen hb _ _).bind fun bootfs _ => ?_
  have hbootfs : Between authority { tx with delegatedBootfs := some bootfs } :=
    ⟨hb.parentMapping, hb.parentRoot⟩
  refine (duplicateFor_unseen hbootfs _ _).bind fun taskGroup _ => ?_
  have htaskGroup : Between authority { tx with
      delegatedBootfs := some bootfs, delegatedTaskGroup := some taskGroup } :=
    ⟨hb.parentMapping, hb.parentRoot⟩
  refine .ite (fun _ => ?_) fun _ => .pure ⟨hb.parentMapping, hb.parentRoot⟩
  refine (require_unseen _ _).bind fun domain _ => ?_
  exact (duplicateFor_unseen htaskGroup _ _).bind fun _ _ =>
    .pure ⟨hb.parentMapping, hb.parentRoot⟩

theorem stageResourceOwner_unseen (hb : Between authority tx) :
    Unseen (stageResourceOwner tr request tx) fun r => Between authority r.1 :=
  (require_unseen _ _).bind fun _ _ => (duplicateFor_unseen hb _ _).bind fun _ _ =>
    .pure ⟨hb.parentMapping, hb.parentRoot⟩

theorem stageCoordinator_unseen (hb : Between authority tx) :
    Unseen (stageCoordinator tr request tx root) fun r => Between authority r.1 := by
  unfold stageCoordinator
  refine (require_unseen _ _).bind fun manifest _ => .ite (fun _ => ?_) fun _ => ?_
  · refine (require_unseen _ _).bind fun domain _ => (duplicateFor_unseen hb _ _).bind fun _ _ => ?_
    exact (firstChannel_unseen _).bind fun _ _ => .pure ⟨hb.parentMapping, hb.parentRoot⟩
  · exact (firstChannel_unseen _).bind fun _ _ => .pure ⟨hb.parentMapping, hb.parentRoot⟩

theorem stageCapabilities_unseen (hb : Between authority tx) :
    Unseen (stageCapabilities tr authority request tx root) fun r => Between authority r.1 := by
  have hmoved : ∀ (channels : List Nat) (transfers : List HandleTransfer),
      Unseen (pure ({ tx with delegatedChannels := channels }, transfers) :
        Load τ ε (Transaction × List HandleTransfer)) fun r => Between authority r.1 :=
    fun _ _ => .pure ⟨hb.parentMapping, hb.parentRoot⟩
  have hkept : ∀ transfers : List HandleTransfer, Unseen (pure (tx, transfers) :
      Load τ ε (Transaction × List HandleTransfer)) fun r => Between authority r.1 :=
    fun _ => .pure hb
  unfold stageCapabilities
  refine .ite (fun _ => stageAuthority_unseen hb) fun _ => ?_
  refine .ite (fun _ => stageResourceOwner_unseen hb) fun _ => ?_
  refine .ite (fun _ => (firstChannel_unseen _).bind fun _ _ => hmoved _ _) fun _ => ?_
  refine .ite (fun _ => stageCoordinator_unseen hb) fun _ => ?_
  refine .ite (fun _ => hmoved _ _) fun _ => .ite (fun _ => hmoved _ _) fun _ => ?_
  refine .ite (fun _ => (firstChannel_unseen _).bind fun _ _ => hmoved _ _) fun _ => ?_
  refine .ite (fun _ => hkept _) fun _ => .ite (fun _ => hmoved _ _) fun _ => hkept _

theorem releaseMoved_between (hb : Between authority tx) (profile : LaunchProfile) :
    Between authority (releaseMoved profile tx) := by
  unfold releaseMoved
  refine ⟨?_, ?_⟩ <;> dsimp only <;> split_ifs <;>
    first | exact hb.parentMapping | exact hb.parentRoot

theorem deliverInit_unseen (hb : Between authority tx) (parentChannel : Nat) (init : List UInt8)
    (transfers : List HandleTransfer) :
    Unseen (deliverInit tr request tx parentChannel root init transfers)
      fun tx' => Between authority tx' := by
  have hreleased := releaseMoved_between hb request.profile
  have hkept : (keepSupplied tx).parentMapping = none := hb.parentMapping
  have hmodify : ∀ f : LoadState τ → LoadState τ,
      Unseen (Prog.modify f : Load τ ε Unit) fun _ => True := fun f s => ⟨rfl, fun _ _ => trivial⟩
  refine ((callOrFail_unseen hkept rfl).bind fun _ _ => hmodify _).bind fun _ _ => ?_
  refine .ite (fun _ => .pure hreleased) fun _ => ?_
  exact (callOrFail_unseen hreleased.parentMapping rfl).bind fun _ _ =>
    .pure ⟨hreleased.parentMapping, hreleased.parentRoot⟩

theorem abandonChild_unseen (process thread parentChannel : Nat) (cause : ε) :
    Unseen (abandonChild tr process thread parentChannel cause : Load τ ε α) P := by
  have hstop : Unseen (stopChild tr process thread : Load τ ε Bool) fun _ => True :=
    (isErr_unseen rfl).bind fun _ _ => .ite (fun _ => isErr_unseen rfl) fun _ => .pure trivial
  exact hstop.bind fun _ _ => (closeEach_unseen _).bind fun _ _ => .throw _

theorem startChild_sees (hb : Between authority tx) (created : ProcessCreateResult)
    (thread parentChannel entry stackPointer startupAbi : Nat) (s : LoadState τ) :
    Prog.Sees Event.mappingSteps
      (startChild tr tx created thread parentChannel entry stackPointer startupAbi)
      (fun o _ t => t = [.started true] ∨ (Stops o ∧ t = [.started false])) s := by
  refine bind_sees (callOrFail_sees hb.parentMapping s) (fun u s₁ t ht => ?_)
    fun o t ho ht => .inr ⟨ho, ht⟩
  subst ht
  have hclose : ∀ {f : Except ε Unit → Load τ ε LoadedProcess}, (∀ r, Unseen (f r) fun _ => True) →
      Unseen (Prog.attempt (Loader.request tr (.close thread)) >>= f) fun _ => True := by
    intro f hf s'
    exact attempt_sees (fun r s'' => hf (.ok r) s'') fun e s'' => hf (.error e) s''
  refine (hclose (fun r => ?_) s₁).mono fun o s' t ht => .inl ?_
  · cases r with
    | ok _ => exact Unseen.pure (P := fun _ => True) trivial
    | error e => exact abandonChild_unseen _ _ _ e
  · rw [ht.1]
    rfl

/-! ## Whole loads -/

/-- What is seen of a load of `plan`. -/
def Loads (authority : LoadAuthority) (plan : ElfLoadPlan)
    (o : Outcome (LoadError ε) LoadedProcess) (t : List MappingStep) : Prop :=
  (t = [] ∨ ∃ childRoot t', t = .born childRoot :: t' ∧
    Trail authority.parentRoot childRoot (plannedMappings plan) t') ∧
    ((∃ loaded, o = .ok loaded) → .started true ∈ t)

variable {o : Outcome (LoadError ε) LoadedProcess}

theorem Loads.stopped {plan : ElfLoadPlan} (h : Stops o) : Loads authority plan o [] := by
  refine ⟨.inl rfl, ?_⟩
  rintro ⟨loaded, ho⟩
  exact absurd ho (h loaded)

/-- A load that ends before its start shows the process and a trail. -/
theorem Loads.ended {plan : ElfLoadPlan} {childRoot : Nat} {t : List MappingStep} (ho : Stops o)
    (h : Trail authority.parentRoot childRoot (plannedMappings plan) t) :
    Loads authority plan o (.born childRoot :: t) := by
  refine ⟨.inr ⟨childRoot, t, rfl, h⟩, ?_⟩
  rintro ⟨loaded, rfl⟩
  exact absurd rfl (ho loaded)

theorem writtenBlock_unseen (fault : LoadFault)
    (written : Outcome StartupBlockError Unit × List UInt8 × List Empty) :
    Unseen (writtenBlock fault written : Load τ ε (List UInt8)) fun _ => True := by
  obtain ⟨o, block, w⟩ := written
  cases o with
  | ok u => exact .pure trivial
  | err e | panic => exact .panic

theorem startupBytes_unseen (startup : StartupMaterialization) (fault : LoadFault) :
    Unseen (startupBytes startup fault : Load τ ε (List UInt8)) fun _ => True := by
  cases startup with
  | legacy block => exact .pure trivial
  | jobV2 plan =>
      rw [startupBytes]
      exact writtenBlock_unseen fault _

theorem loadProcessMaterialized_sees (request : InternalLoadRequest) (fault : LoadFault)
    (plan : ElfLoadPlan) (startup : StartupMaterialization)
    (startupOffset stackPointer startupAbi : Nat) (s : LoadState τ) :
    Prog.Sees Event.mappingSteps (loadProcessMaterialized tr authority request fault plan startup
      startupOffset stackPointer startupAbi) (fun o _ t => Loads authority plan o t) s := by
  unfold loadProcessMaterialized
  refine (Unseen.lift _).then_sees (fun init s₁ _ => ?_) (fun e _ => .stopped (stops_err e))
    fun _ => .stopped stops_panic
  refine openLaunchChannel_unseen.then_sees (fun r s₂ hr => ?_) (fun e _ => .stopped (stops_err e))
    fun _ => .stopped stops_panic
  obtain ⟨tx₁, parentChannel, childEndpoint⟩ := r
  refine bind_sees (T := fun r t => Between authority r.1 ∧ t = [.born r.2.root])
    (E := fun t => t = []) (createProcess_sees hr childEndpoint s₂) (fun r s₃ t ht => ?_)
    fun o t ho ht => ht ▸ .stopped ho
  obtain ⟨tx₂, created⟩ := r
  obtain ⟨hr, rfl⟩ := ht
  refine bind_sees (T := fun tx' t => Between authority tx' ∧ Whole authority created.root
      (plan.segments.map fun segment => .ofPlan (.ofSegment segment)) t)
    (E := fun t => ∀ rest, Trail authority.parentRoot created.root
      ((plan.segments.map fun segment => .ofPlan (.ofSegment segment)) ++ rest) t)
    (placeSegments_sees created.root request.image plan.segments tx₂ hr s₃)
    (fun tx₃ s₄ t ht => ?_) fun o t ho ht => .ended ho (ht _)
  obtain ⟨hb₃, hsegments⟩ := ht
  refine bind_sees (T := fun tx' t => Between authority tx' ∧
      Whole authority created.root [stackMapping] t)
    (E := fun t => ∀ rest, Trail authority.parentRoot created.root ([stackMapping] ++ rest) t)
    (placeObject_sees hb₃ created.root _ _ (startupBytes_unseen startup fault) _ _ s₄)
    (fun tx₄ s₅ t' ht' => ?_) fun o t' ho ht' => .ended ho ?_
  · obtain ⟨hb₄, hstack⟩ := ht'
    have hall : ∀ t'', Trail authority.parentRoot created.root [] t'' →
        Trail authority.parentRoot created.root (plannedMappings plan) (t ++ (t' ++ t'')) := by
      intro t'' ht''
      have h := hsegments _ _ (hstack _ _ ht'')
      rwa [List.append_nil] at h
    have hstopped : ∀ o : Outcome (LoadError ε) LoadedProcess, Stops o →
        Loads authority plan o (.born created.root :: (t ++ (t' ++ []))) :=
      fun o ho => .ended ho (hall [] (.stopped []))
    refine (createThread_unseen hb₄ created.process).then_sees (fun r s₆ hr => ?_)
      (fun e _ => hstopped _ (stops_err e)) fun _ => hstopped _ stops_panic
    obtain ⟨tx₅, thread⟩ := r
    refine (stageCapabilities_unseen hr).then_sees (fun r s₇ hr => ?_)
      (fun e _ => hstopped _ (stops_err e)) fun _ => hstopped _ stops_panic
    obtain ⟨tx₆, transfers⟩ := r
    refine (deliverInit_unseen hr parentChannel init _).then_sees (fun tx₇ s₈ hb₇ => ?_)
      (fun e _ => hstopped _ (stops_err e)) fun _ => hstopped _ stops_panic
    refine (startChild_sees hb₇ created thread parentChannel _ _ _ s₈).mono fun o s₉ t'' ht'' => ?_
    rcases ht'' with rfl | ⟨ho, rfl⟩
    · exact ⟨.inr ⟨created.root, _, rfl, hall _ (.started true)⟩, fun _ => by simp⟩
    · exact .ended ho (hall _ (.started false))
  · have h := ht' []
    rw [List.append_nil] at h
    exact hsegments _ _ h

theorem loadLegacyProcessMaterialized_sees (request : InternalLoadRequest) (displayPath : String)
    (fault : LoadFault) (plan : ElfLoadPlan) (s : LoadState τ) :
    Prog.Sees Event.mappingSteps
      (loadLegacyProcessMaterialized tr authority request displayPath fault plan)
      (fun o _ t => Loads authority plan o t) s := by
  unfold loadLegacyProcessMaterialized
  split
  · exact .stopped (stops_err _)
  · exact .stopped stops_panic
  · exact loadProcessMaterialized_sees request fault plan _ _ _ _ s

theorem loadJobV2ProcessMaterialized_sees (request : InternalLoadRequest) (path : String)
    (argv environment : List String) (fault : LoadFault) (plan : ElfLoadPlan) (s : LoadState τ) :
    Prog.Sees Event.mappingSteps
      (loadJobV2ProcessMaterialized tr authority request path argv environment fault plan)
      (fun o _ t => Loads authority plan o t) s := by
  refine (Unseen.lift _).then_sees (fun startup s₁ _ => ?_) (fun e _ => .stopped (stops_err e))
    fun _ => .stopped stops_panic
  exact loadProcessMaterialized_sees request fault plan _ _ _ _ s₁

theorem loadProcessInternal_sees (request : InternalLoadRequest) (fault : LoadFault)
    (s : LoadState τ) :
    Prog.Sees Event.mappingSteps (loadProcessInternal tr authority request fault)
      (fun o _ t => (Stops o ∧ t = []) ∨ ∃ elf, plan request.image maxLoadSegments = .ok elf ∧
        Loads authority elf o t) s := by
  unfold loadProcessInternal
  refine (Unseen.lift _).then_sees (fun u s₁ _ => ?_) (fun e _ => .inl ⟨stops_err e, rfl⟩)
    fun _ => .inl ⟨stops_panic, rfl⟩
  split_ifs
  · split
    · exact .inl ⟨stops_err _, rfl⟩
    · exact .inl ⟨stops_panic, rfl⟩
  · cases hplan : plan request.image maxLoadSegments with
    | err e => exact .inl ⟨stops_err _, rfl⟩
    | panic => exact .inl ⟨stops_panic, rfl⟩
    | ok elf =>
        have hload : ∀ {m : Load τ ε LoadedProcess}, Prog.Sees Event.mappingSteps m
            (fun o _ t => Loads authority elf o t) s₁ → Prog.Sees Event.mappingSteps m
              (fun o _ t => (Stops o ∧ t = []) ∨ ∃ elf', (.ok elf : Plan ElfLoadPlan) = .ok elf' ∧
                Loads authority elf' o t) s₁ :=
          fun h => h.mono fun _ _ _ ht => .inr ⟨elf, rfl, ht⟩
        rw [mapErr, Prog.lift_ok_bind]
        cases request.startup with
        | legacy displayPath =>
            exact hload (loadLegacyProcessMaterialized_sees request displayPath fault elf s₁)
        | jobV2 path argv environment =>
            exact hload (loadJobV2ProcessMaterialized_sees request path argv environment fault elf s₁)

end Wyrmroot.Loader
