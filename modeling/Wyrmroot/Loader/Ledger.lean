import Wyrmroot.Lib.Monitor
import Wyrmroot.Loader.Process

/-!
# What a load owns

`Ledger` is the loader's side of the books, kept from the calls alone: the
handles it has made in the parent's table, the parent aliases, the child with
its thread and ranges, and the handles the INIT has moved. It is strict. A
call that releases something must name something live, and a second release
or the release of a handle the caller supplied is refused, whether or not
the platform would have answered it.

`Holds` relates a `Transaction` to the ledger. `rollback_spec` then says what
the rollback is for: it makes no refused call, and when it reports no failure
the ledger is clear.

The exit of a process takes its thread, its address space and its handle
table with it; ending the sole thread of a process that was never started is
an exit.
-/

namespace Wyrmroot.Loader

/-- The child process while it lives. -/
structure Child where
  process : Nat
  thread : Option Nat := none
  ranges : Multiset Range := 0
  started : Bool := false

structure Ledger where
  handles : Multiset Nat := 0
  aliases : Multiset ParentMapping := 0
  child : Option Child := none
  sent : Option (List Nat) := none

/-- Nothing of the load is left. -/
structure Ledger.Clear (L : Ledger) : Prop where
  handles : L.handles = 0
  aliases : L.aliases = 0
  child : L.child = none

/-- The handles a call makes in the parent's table. -/
def created : (c : Call) → c.Result → List Nat
  | .channelCreate _, r => [r.1, r.2]
  | .duplicate _ _, h => [h]
  | .processCreate _, r => [r.process, r.root]
  | .memoryCreate _ _, h => [h]
  | .threadCreate _ _, h => [h]
  | _, _ => []

/-- The handles a transfer list takes from the load itself. -/
def ownMoves (caller : List Nat) (transfers : List HandleTransfer) : List Nat :=
  (transfers.map (·.handle)).filter fun h => decide (h ∉ caller)

variable {c : Call}

namespace Ledger

def legal (caller : List Nat) (L : Ledger) : Call → Bool
  | .close h => decide (h ∈ L.handles)
  | .processCreate r => L.child.isNone && decide (r.bootstrapChannel ∈ L.handles)
  | .unmapParent _ mapping => decide (mapping ∈ L.aliases)
  | .mapChild _ _ _ _ _ => L.child.isSome
  | .unmapChild _ address bytes => L.child.any fun c => decide (⟨address, bytes⟩ ∈ c.ranges)
  | .threadCreate p _ => L.child.any fun c => c.process == p && c.thread.isNone
  | .sendInit _ _ transfers =>
      L.sent.isNone && decide ((ownMoves caller transfers : Multiset Nat) ≤ L.handles)
  | .threadStart t _ _ _ _ => L.child.any fun c => c.thread == some t
  | .threadTerminate t => L.child.any fun c => c.thread == some t
  | .processTerminate p => L.child.any fun c => c.process == p
  | _ => true

def apply (caller : List Nat) (L : Ledger) : (c : Call) → c.Result → Ledger
  | .close h, _ => { L with handles := L.handles.erase h }
  | .processCreate request, r =>
      { L with handles := r.process ::ₘ r.root ::ₘ L.handles.erase request.bootstrapChannel,
               child := some { process := r.process } }
  | .materializeParent _ _ _ _ _, mapping => { L with aliases := mapping ::ₘ L.aliases }
  | .unmapParent _ mapping, _ => { L with aliases := L.aliases.erase mapping }
  | .mapChild _ _ address bytes _, _ =>
      { L with child := L.child.map fun c => { c with ranges := ⟨address, bytes⟩ ::ₘ c.ranges } }
  | .unmapChild _ address bytes, _ =>
      { L with child := L.child.map fun c => { c with ranges := c.ranges.erase ⟨address, bytes⟩ } }
  | .threadCreate _ _, t =>
      { L with handles := t ::ₘ L.handles
               child := L.child.map fun c => { c with thread := some t } }
  | .sendInit _ _ transfers, _ =>
      { L with handles := L.handles - (ownMoves caller transfers : Multiset Nat)
               sent := some (transfers.map (·.handle)) }
  | .threadStart _ _ _ _ _, _ =>
      { L with child := L.child.map fun c => { c with started := true } }
  | .threadTerminate _, _ => { L with child := none }
  | .processTerminate _, _ => { L with child := none }
  | .channelCreate _, r => { L with handles := r.1 ::ₘ r.2 ::ₘ L.handles }
  | .duplicate _ _, h => { L with handles := h ::ₘ L.handles }
  | .memoryCreate _ _, h => { L with handles := h ::ₘ L.handles }

/-- A failed call has no effect, but it must have been one the load may
make. A handle of the caller's is not handed out again. -/
def step (caller : List Nat) (L : Ledger) : Event → Option Ledger
  | .done c r =>
      if L.legal caller c && (created c r).all fun h => decide (h ∉ caller) then
        some (L.apply caller c r)
      else none
  | .failed c => if L.legal caller c then some L else none

/-- The load makes no handle that the caller holds. -/
def Own (caller : List Nat) (L : Ledger) : Prop := ∀ h ∈ L.handles, h ∉ caller

variable {caller : List Nat} {L L' : Ledger}

theorem apply_own {r : c.Result} (hr : ∀ h ∈ created c r, h ∉ caller)
    (h : L.Own caller) : (L.apply caller c r).Own caller := by
  cases c with
  | channelCreate rights =>
      intro x hx
      simp only [apply, Multiset.mem_cons] at hx
      rcases hx with rfl | rfl | hx
      · exact hr _ (by simp [created])
      · exact hr _ (by simp [created])
      · exact h x hx
  | processCreate request =>
      intro x hx
      simp only [apply, Multiset.mem_cons] at hx
      rcases hx with rfl | rfl | hx
      · exact hr _ (by simp [created])
      · exact hr _ (by simp [created])
      · exact h x (Multiset.mem_of_mem_erase hx)
  | duplicate _ _ | memoryCreate _ _ | threadCreate _ _ =>
      intro x hx
      rcases Multiset.mem_cons.mp hx with rfl | hx
      · exact hr _ (by simp [created])
      · exact h x hx
  | close _ => exact fun x hx => h x (Multiset.mem_of_mem_erase hx)
  | sendInit _ _ _ => exact fun x hx => h x (Multiset.mem_of_le (Multiset.sub_le_self _ _) hx)
  | _ => exact h

theorem step_own {e : Event} (h : L.step caller e = some L') (hL : L.Own caller) :
    L'.Own caller := by
  cases e with
  | done c r =>
      simp only [step, Option.ite_none_right_eq_some, Option.some.injEq, Bool.and_eq_true,
        List.all_eq_true, decide_eq_true_eq] at h
      obtain ⟨⟨-, hr⟩, rfl⟩ := h
      exact apply_own hr hL
  | failed c =>
      simp only [step, Option.ite_none_right_eq_some, Option.some.injEq] at h
      exact h.2 ▸ hL

end Ledger

/-! ## Programs and the ledger -/

/-- Every call succeeds. -/
def LoaderPlatform.Reliable {τ ε : Type} (tr : LoaderPlatform τ ε) : Prop :=
  ∀ c t, ∃ r t', tr.call c t = (.ok r, t')

def monitor (caller : List Nat) (assume : Event → Prop) : Monitor Event Ledger :=
  ⟨Ledger.step caller, assume⟩

/-- Under the promise, the platform hands out no handle of the caller's. -/
def FreshUnder {τ ε : Type} (tr : LoaderPlatform τ ε) (caller : List Nat)
    (assume : Event → Prop) : Prop :=
  ∀ c t r t', tr.call c t = (.ok r, t') → assume (.done c r) → ∀ h ∈ created c r, h ∉ caller

section Spec

variable {τ ε ε' α β : Type} {tr : LoaderPlatform τ ε} {caller : List Nat} {assume : Event → Prop}
  {L L' : Ledger} {s : LoadState τ}

theorem request_ends (hfresh : FreshUnder tr caller assume)
    (hc : L.legal caller c = true) {Q : Outcome ε c.Result → LoadState τ → Ledger → Prop}
    (hok : ∀ r s', s'.consumed = s.consumed → (∀ h ∈ created c r, h ∉ caller) →
      Q (.ok r) s' (L.apply caller c r))
    (herr : ∀ e s', s'.consumed = s.consumed → ¬ tr.Reliable → Q (.err e) s' L) :
    (monitor caller assume).Ends L (request tr c) Q s := by
  unfold Monitor.Ends Prog.wp request
  rcases hcall : tr.call c s.io with ⟨_ | r, t⟩
  · intro _
    refine ⟨L, ?_, herr _ _ rfl ?_⟩
    · simp [monitor, Ledger.step, hc]
    · intro h
      obtain ⟨r, t', hr⟩ := h c s.io
      rw [hcall] at hr
      cases hr
  · intro ha
    have hr := hfresh c _ _ _ hcall (ha _ (.head _))
    refine ⟨L.apply caller c r, ?_, hok _ _ rfl hr⟩
    simpa [monitor, Ledger.step, hc] using hr

/-- A program that cannot fail, leaves the consumed flag alone, and ends in
`R` with its value. -/
def Quiet (caller : List Nat) (assume : Event → Prop) (L : Ledger) (p : Load τ ε α)
    (R : α → Ledger → Prop) : Prop :=
  ∀ s, (monitor caller assume).Ends L p
    (fun o s' L' => s'.consumed = s.consumed ∧ ∃ a, o = .ok a ∧ R a L') s

variable {R : α → Ledger → Prop}

theorem Quiet.pure {a : α} (h : R a L) :
    Quiet caller assume L (pure a : Load τ ε α) R :=
  fun _ => .silent rfl ⟨rfl, a, rfl, h⟩

variable {p : Load τ ε α}

theorem Quiet.bind {f : α → Load τ ε β} {R' : β → Ledger → Prop} (hp : Quiet caller assume L p R)
    (hf : ∀ a L', R a L' → Quiet caller assume L' (f a) R') :
    Quiet caller assume L (p >>= f) R' := by
  intro s
  refine .bind ((hp s).mono fun o s' L' h => ?_)
  obtain ⟨hs, a, rfl, hR⟩ := h
  exact (hf a L' hR s').mono fun o s'' L'' h' => ⟨h'.1.trans hs, h'.2⟩

theorem Quiet.mono {R' : α → Ledger → Prop} (hp : Quiet caller assume L p R)
    (h : ∀ a L', R a L' → R' a L') : Quiet caller assume L p R' :=
  fun s => (hp s).mono fun _ _ _ hq => ⟨hq.1, hq.2.imp fun a ha => ⟨ha.1, h a _ ha.2⟩⟩

theorem attempt_ends (hfresh : FreshUnder tr caller assume)
    (hc : L.legal caller c = true) {f : Except ε c.Result → Load τ ε β}
    {Q : Outcome (LoadError ε) β → LoadState τ → Ledger → Prop}
    (hok : ∀ r s', s'.consumed = s.consumed → (∀ h ∈ created c r, h ∉ caller) →
      (monitor caller assume).Ends (L.apply caller c r) (f (.ok r)) Q s')
    (herr : ∀ e s', s'.consumed = s.consumed → ¬ tr.Reliable →
      (monitor caller assume).Ends L (f (.error e)) Q s') :
    (monitor caller assume).Ends L (Prog.attempt (request tr c) >>= f) Q s :=
  .bind (.attempt (request_ends hfresh hc hok herr))

theorem isErr_quiet (hfresh : FreshUnder tr caller assume)
    (hc : L.legal caller c = true) {R : Bool → Ledger → Prop}
    (hok : ∀ r, R false (L.apply caller c r)) (herr : R true L) :
    Quiet caller assume L (isErr tr c) R := by
  intro s
  refine attempt_ends hfresh hc (fun r s' hs _ => ?_) fun e s' hs _ => ?_
  · exact .silent rfl ⟨hs, false, rfl, hok r⟩
  · exact .silent rfl ⟨hs, true, rfl, herr⟩

/-! ## Rollback -/

/-- `owed` is still to be closed, and nothing else unless a close failed. -/
structure Owing (owed : List Nat) (failed : Bool) (L : Ledger) : Prop where
  handles : (owed : Multiset Nat) ≤ L.handles
  exact : failed = false → L.handles = (owed : Multiset Nat)

variable {owed : List Nat}

theorem close_quiet (hfresh : FreshUnder tr caller assume) {h : Nat}
    {failed : Bool} (hL : Owing (h :: owed) failed L) :
    Quiet caller assume L (isErr tr (.close h)) fun g L' =>
      Owing owed (failed || g) L' ∧ L' = { L with handles := L'.handles } := by
  have hmem : h ∈ L.handles := Multiset.mem_of_le hL.handles (by simp)
  have hle := hL.handles
  rw [← Multiset.cons_coe] at hle
  refine isErr_quiet hfresh (by simpa [Ledger.legal] using hmem) (fun _ => ⟨⟨?_, ?_⟩, rfl⟩)
    ⟨⟨?_, ?_⟩, rfl⟩
  · simpa [Ledger.apply] using Multiset.erase_le_erase h hle
  · intro hf
    have hex := hL.exact (by simpa using hf)
    simp [Ledger.apply, hex]
  · exact (Multiset.le_cons_self _ _).trans hle
  · simp

variable {rest : List Nat}

theorem closeEach_quiet (hfresh : FreshUnder tr caller assume) {hs : List Nat} :
    ∀ {failed : Bool} {L : Ledger}, Owing (hs ++ rest) failed L →
      Quiet caller assume L (closeEach tr hs) fun g L' =>
        Owing rest (failed || g) L' ∧ L' = { L with handles := L'.handles } := by
  induction hs with
  | nil =>
      intro failed L hL
      exact .pure ⟨by simpa using hL, rfl⟩
  | cons h hs ih =>
      intro failed L hL
      refine .bind (close_quiet hfresh hL) fun f L₁ h => ?_
      obtain ⟨h₁, he₁⟩ := h
      refine .bind (ih h₁) fun g L₂ h => ?_
      obtain ⟨h₂, he₂⟩ := h
      refine .pure ⟨?_, ?_⟩
      · rwa [Bool.or_assoc] at h₂
      · rw [he₂, he₁]

/-- The transaction's slots, in the order the rollback closes them. -/
def Transaction.owned (tx : Transaction) : List Nat :=
  tx.thread.toList ++ (tx.root.toList ++ (tx.process.toList ++
    ([tx.scratchMemory, tx.delegatedTaskGroup, tx.delegatedResourceDomain,
      tx.delegatedBootfs].filterMap id ++ (tx.delegatedChannels ++
    [tx.delegatedManifest, tx.childEndpoint, tx.broadParent, tx.parentChannel].filterMap id))))

structure HoldsChild (tx : Transaction) (child : Option Child) : Prop where
  process : child.map (·.process) = tx.process
  thread : child.bind (·.thread) = tx.thread
  ranges : ∀ root, tx.root = some root →
    ∃ c, child = some c ∧ c.ranges = (tx.ranges : Multiset Range)

/-- The transaction knows of everything the load owns. -/
structure Holds (tx : Transaction) (L : Ledger) : Prop where
  handles : L.handles = (tx.owned : Multiset Nat)
  aliases : L.aliases = (tx.parentMapping.toList : Multiset ParentMapping)
  child : HoldsChild tx L.child

variable {tx : Transaction}

theorem unmapParent_quiet (hfresh : FreshUnder tr caller assume)
    (hL : L.aliases = (tx.parentMapping.toList : Multiset ParentMapping)) :
    Quiet caller assume L
      (whenSome tx.parentMapping fun mapping => isErr tr (.unmapParent tx.parentRoot mapping))
      fun g L' => (g = false → L'.aliases = 0) ∧ L' = { L with aliases := L'.aliases } := by
  rcases hm : tx.parentMapping with _ | mapping
  · refine .pure ⟨fun _ => ?_, rfl⟩
    simpa [hm] using hL
  · have ha : L.aliases = {mapping} := by simpa [hm] using hL
    refine isErr_quiet hfresh (by simp [Ledger.legal, ha]) (fun _ => ⟨fun _ => ?_, rfl⟩)
      ⟨nofun, rfl⟩
    simp [Ledger.apply, ha]

theorem unmapRanges_quiet (hfresh : FreshUnder tr caller assume) {root : Nat}
    {ranges : List Range} :
    ∀ {L : Ledger} {c : Child}, L.child = some c → (ranges : Multiset Range) ≤ c.ranges →
      Quiet caller assume L (unmapRanges tr root ranges) fun _ L' =>
        ∃ r, L' = { L with child := some { c with ranges := r } } := by
  induction ranges with
  | nil =>
      intro L c hc _
      exact .pure ⟨c.ranges, by rw [← hc]⟩
  | cons range ranges ih =>
      intro L c hc hle
      rw [← Multiset.cons_coe] at hle
      have hmem : range ∈ c.ranges := Multiset.mem_of_le hle (Multiset.mem_cons_self _ _)
      refine .bind (R := fun _ L' => ∃ r, (ranges : Multiset Range) ≤ r ∧
        L' = { L with child := some { c with ranges := r } })
        (isErr_quiet hfresh (by simpa [Ledger.legal, hc] using hmem) (fun _ => ?_) ?_)
        fun f L₁ h => ?_
      · refine ⟨c.ranges.erase range, ?_, by simp [Ledger.apply, hc]⟩
        simpa using Multiset.erase_le_erase range hle
      · exact ⟨c.ranges, (Multiset.le_cons_self _ _).trans hle, by rw [← hc]⟩
      · obtain ⟨r, hr, h₁⟩ := h
        refine .bind (ih (L := L₁) (c := { c with ranges := r }) (by rw [h₁]) hr) fun g L₂ h₂ => ?_
        obtain ⟨r', h₂⟩ := h₂
        exact .pure ⟨r', by rw [h₂, h₁]⟩

theorem endThread_quiet (hfresh : FreshUnder tr caller assume) {thread : Option Nat} {failed : Bool}
    (hL : Owing (thread.toList ++ rest) failed L)
    (ht : L.child.bind (·.thread) = thread) :
    Quiet caller assume L (endThread tr thread) fun r L' =>
      Owing rest (failed || r.2) L' ∧
        L' = { L with handles := L'.handles, child := if r.1 then none else L.child } := by
  cases thread with
  | none => exact .pure ⟨by simpa using hL, rfl⟩
  | some t =>
      obtain ⟨c, hc, hct⟩ := Option.bind_eq_some_iff.mp ht
      refine .bind (R := fun running L' => L' = { L with child := if running then L.child else none })
        (isErr_quiet hfresh (by simp [Ledger.legal, hc, hct]) (fun _ => rfl) rfl)
        fun running L₁ h₁ => ?_
      have hL₁ : Owing (t :: rest) failed L₁ := by
        rw [h₁]
        exact ⟨hL.handles, hL.exact⟩
      refine .bind (close_quiet hfresh hL₁) fun g L₂ h => ?_
      obtain ⟨h₂, he₂⟩ := h
      refine .pure ⟨h₂, ?_⟩
      rw [he₂, h₁]
      cases running <;> rfl

theorem endProcess_eq (terminated : Bool) (process : Nat) :
    endProcess tr terminated process =
      (if terminated then pure false else isErr tr (.processTerminate process)) >>= fun running =>
        isErr tr (.close process) >>= fun failed => pure (running || failed) := by
  cases terminated <;> rfl

theorem endProcess_quiet (hfresh : FreshUnder tr caller assume) {process : Option Nat}
    {failed terminated : Bool}
    (hL : Owing (process.toList ++ rest) failed L)
    (hdead : terminated = true → L.child = none)
    (hlive : terminated = false → L.child.map (·.process) = process) :
    Quiet caller assume L (whenSome process (endProcess tr terminated)) fun g L' =>
      Owing rest (failed || g) L' ∧ (g = false → L'.child = none) ∧
        L' = { L with handles := L'.handles, child := L'.child } := by
  cases process with
  | none =>
      refine .pure ⟨by simpa using hL, fun _ => ?_, rfl⟩
      cases terminated with
      | true => exact hdead rfl
      | false => simpa using hlive rfl
  | some p =>
      show Quiet caller assume L (endProcess tr terminated p) _
      rw [endProcess_eq]
      refine .bind (R := fun running L' => (running = false → L'.child = none) ∧
        L' = { L with child := L'.child }) ?_ fun running L₁ h => ?_
      · cases terminated with
        | true => exact .pure ⟨fun _ => hdead rfl, rfl⟩
        | false =>
            obtain ⟨c, hc, hcp⟩ := Option.map_eq_some_iff.mp (hlive rfl)
            exact isErr_quiet hfresh (by simp [Ledger.legal, hc, hcp])
              (fun _ => ⟨fun _ => rfl, rfl⟩) ⟨nofun, rfl⟩
      · obtain ⟨hr, h₁⟩ := h
        have hL₁ : Owing (p :: rest) failed L₁ := by
          rw [h₁]
          exact ⟨hL.handles, hL.exact⟩
        refine .bind (close_quiet hfresh hL₁) fun g L₂ h => ?_
        obtain ⟨h₂, he₂⟩ := h
        refine .pure ⟨⟨h₂.handles, fun hf => h₂.exact ?_⟩, fun hg => ?_, by rw [he₂, h₁]⟩
        · simp only [Bool.or_eq_false_iff] at hf ⊢
          exact ⟨hf.1, hf.2.2⟩
        · rw [he₂]
          exact hr (Bool.or_eq_false_iff.mp hg).1

theorem closeSlot_quiet (hfresh : FreshUnder tr caller assume) {slot : Option Nat} {failed : Bool}
    (hL : Owing (slot.toList ++ rest) failed L) :
    Quiet caller assume L (whenSome slot fun h => isErr tr (.close h)) fun g L' =>
      Owing rest (failed || g) L' ∧ L' = { L with handles := L'.handles } := by
  cases slot with
  | none => exact .pure ⟨by simpa using hL, rfl⟩
  | some h => exact close_quiet hfresh hL

theorem unmapRoot_quiet (hfresh : FreshUnder tr caller assume) (hL : HoldsChild tx L.child) :
    Quiet caller assume L (whenSome tx.root fun root => unmapRanges tr root tx.ranges.reverse)
      fun _ L' => L'.child.map (·.process) = tx.process ∧ L'.child.bind (·.thread) = tx.thread ∧
        L' = { L with child := L'.child } := by
  cases hroot : tx.root with
  | none => exact .pure ⟨hL.process, hL.thread, rfl⟩
  | some root =>
      obtain ⟨c, hc, hr⟩ := hL.ranges root hroot
      have hle : (tx.ranges.reverse : Multiset Range) ≤ c.ranges := by simp [hr]
      refine (unmapRanges_quiet hfresh hc hle).mono fun _ L' h' => ?_
      obtain ⟨r, h'⟩ := h'
      have hp := hL.process
      have ht := hL.thread
      rw [hc] at hp ht
      rw [h']
      exact ⟨hp, ht, rfl⟩

theorem Owing.of_handles {failed : Bool} (h : Owing owed failed L)
    (he : L'.handles = L.handles) : Owing owed failed L' :=
  ⟨he ▸ h.handles, he ▸ h.exact⟩

/-- The rollback makes no refused call, and reports a failure unless
everything is gone. -/
theorem rollback_quiet (hfresh : FreshUnder tr caller assume) (hL : Holds tx L) :
    Quiet caller assume L (rollback tr tx) fun failed L' =>
      L'.sent = L.sent ∧ (failed = false → L'.Clear) := by
  have howed : Owing tx.owned false L := ⟨hL.handles.ge, fun _ => hL.handles⟩
  unfold rollback
  refine .bind (unmapParent_quiet hfresh hL.aliases) fun f₁ L₁ h => ?_
  obtain ⟨ha, h₁⟩ := h
  have hchild : HoldsChild tx L₁.child := by
    rw [h₁]
    exact hL.child
  refine .bind (unmapRoot_quiet hfresh hchild) fun f₂ L₂ h => ?_
  obtain ⟨hp, ht, h₂⟩ := h
  have howed₂ : Owing tx.owned false L₂ := howed.of_handles (by rw [h₂, h₁])
  refine .bind (endThread_quiet hfresh howed₂ ht) fun r₃ L₃ h => ?_
  obtain ⟨howed₃, h₃⟩ := h
  refine .bind (closeSlot_quiet hfresh howed₃) fun f₄ L₄ h => ?_
  obtain ⟨howed₄, h₄⟩ := h
  have hc₄ : L₄.child = if r₃.1 then none else L₂.child := by rw [h₄, h₃]
  refine .bind (endProcess_quiet hfresh howed₄ (fun h => by simp [hc₄, h])
    (fun h => by simpa [hc₄, h] using hp)) fun f₅ L₅ h => ?_
  obtain ⟨howed₅, hdead, h₅⟩ := h
  refine .bind (closeEach_quiet hfresh howed₅) fun f₆ L₆ h => ?_
  obtain ⟨howed₆, h₆⟩ := h
  refine .bind (closeEach_quiet hfresh howed₆) fun f₇ L₇ h => ?_
  obtain ⟨howed₇, h₇⟩ := h
  rw [← List.append_nil (List.filterMap id _)] at howed₇
  refine .bind (closeEach_quiet hfresh howed₇) fun f₈ L₈ h => ?_
  obtain ⟨howed₈, h₈⟩ := h
  have hsent : L₈.sent = L.sent := by rw [h₈, h₇, h₆, h₅, h₄, h₃, h₂, h₁]
  refine .pure ⟨hsent, fun hf => ?_⟩
  simp only [Bool.or_eq_false_iff] at hf
  obtain ⟨⟨⟨⟨⟨⟨⟨rfl, rfl⟩, hr⟩, rfl⟩, rfl⟩, rfl⟩, rfl⟩, rfl⟩ := hf
  refine ⟨by simpa using howed₈.exact (by simp [hr]), ?_, ?_⟩
  · rw [h₈, h₇, h₆, h₅, h₄, h₃, h₂]
    exact ha rfl
  · rw [h₈, h₇, h₆]
    exact hdead rfl

end Spec

end Wyrmroot.Loader
