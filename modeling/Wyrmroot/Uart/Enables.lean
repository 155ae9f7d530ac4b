import Mathlib.Data.List.Induction
import Wyrmroot.Uart.Fidelity

/-!
# The interrupt enables of a core

The last value written to the interrupt-enable register follows the state and
the transmit ring in every history (`Enabled`). Behind a failure the same is
not true of the state: `disable_interrupts` quiesces a failed core as any
other, and a quiesced core may be activated. Only a history that never calls
it on a failed core needs `initialize_quiesced` to become active again.
-/

namespace Wyrmroot.Uart

open Uart16550

variable {I : Type}

/-- All calls of a core. -/
inductive CoreOp where
  | initializeQuiesced
  | op (op : Op)
deriving DecidableEq

def execCore [ByteRegisterIo I] : CoreOp → Core I Reply
  | .initializeQuiesced => (fun _ => .done) <$> initializeQuiesced
  | .op op => exec op

abbrev LifeCall (I : Type) := Call CoreOp (Uart16550 I) Access CoreError Reply

def CoreState.isFailed : CoreState → Bool
  | .failed _ => true
  | _ => false

/-- The register is what state and transmit ring ask for. -/
structure Enabled (register : Option UInt8) (s : Uart16550 I) : Prop where
  active : s.state = .active → register = some (wantedIer s)
  idle : s.state = .quiesced ∨ s.state.isFailed = true → register = some 0

theorem wantedIer_thri (s : Uart16550 I) :
    wantedIer s &&& ierThri ≠ 0 ↔ s.tx.toList ≠ [] := by
  unfold wantedIer
  rw [ne_eq, ne_eq, RingBuffer.toList_eq_nil]
  cases s.tx.isEmpty
  · exact ⟨fun _ => Bool.false_ne_true, fun _ => by decide⟩
  · exact ⟨fun h => absurd rfl h, fun h => absurd rfl h⟩

variable {s : Uart16550 I}

theorem wantedIer_congr {s' : Uart16550 I} (h : s.tx.toList = [] ↔ s'.tx.toList = []) :
    wantedIer s = wantedIer s' := by
  rw [RingBuffer.toList_eq_nil, RingBuffer.toList_eq_nil, ← Bool.eq_iff_iff] at h
  rw [wantedIer, wantedIer, h]

variable {register : Option UInt8}

theorem Enabled.quiet {s' : Uart16550 I} {w : List Access}
    (h : Enabled register s) (hw : lastIer register w = register) (htx : s'.tx = s.tx)
    (hstate : s'.state = s.state) : Enabled (lastIer register w) s' := by
  have hwanted : wantedIer s' = wantedIer s := by rw [wantedIer, wantedIer, htx]
  rw [hw]
  exact ⟨fun hactive => hwanted ▸ h.active (hstate ▸ hactive), fun hidle => h.idle (hstate ▸ hidle)⟩

variable [ByteRegisterIo I]

theorem enqueueTx_enabled (h : Enabled register s) (bytes : List UInt8) :
    Enabled (lastIer register (enqueueTx bytes s).2.2) (enqueueTx bytes s).2.1 := by
  obtain ⟨s', w, hrun, htx, -, -, hstate, hw⟩ := enqueueTx_run bytes s
  obtain ⟨hle, hlist⟩ := pushAll_eq bytes s.tx
  rw [← htx] at hlist
  rw [hrun]
  show Enabled (lastIer register w) s'
  by_cases hwrite : (pushAll bytes s.tx).1 ≠ 0 ∧ s.tx.isEmpty = true ∧ s.state = .active
  · rw [if_pos hwrite] at hw
    obtain ⟨hcount, -, hactive⟩ := hwrite
    have hfilled : ¬ s'.tx.isEmpty = true := by
      rw [← RingBuffer.toList_eq_nil, hlist, List.append_eq_nil_iff]
      rintro ⟨-, hnone⟩
      have hlen := congrArg List.length hnone
      rw [List.length_take, Nat.min_eq_left hle] at hlen
      exact hcount hlen
    rw [hw]
    refine ⟨fun _ => congrArg some (if_neg hfilled).symm, fun hidle => ?_⟩
    rw [hstate, hactive] at hidle
    rcases hidle with h | h <;> cases h
  · rw [if_neg hwrite] at hw
    rw [hw]
    refine ⟨fun hactive => ?_, fun hidle => h.idle (hstate ▸ hidle)⟩
    rw [hstate] at hactive
    have hsame : s.tx.toList = [] ↔ s'.tx.toList = [] := by
      rw [hlist, List.append_eq_nil_iff]
      refine ⟨fun hnil => ⟨hnil, ?_⟩, And.left⟩
      have hzero : (pushAll bytes s.tx).1 = 0 := by
        by_contra hcount
        exact hwrite ⟨hcount, RingBuffer.toList_eq_nil.mp hnil, hactive⟩
      rw [hzero, List.take_zero]
    rw [← wantedIer_congr hsame]
    exact h.active hactive

theorem handleInterrupt_enabled (h : Enabled register s) :
    Enabled (lastIer register (handleInterrupt s).2.2) (handleInterrupt s).2.1 := by
  by_cases hs : s.state = .active
  · have heffect := handleInterrupt_serves (I := I) s hs
    rw [h.active hs]
    cases hout : (handleInterrupt s).1 with
    | ok work =>
        obtain ⟨hstate, hier⟩ := heffect.ok work hout
        refine ⟨fun _ => hier, fun hidle => ?_⟩
        rw [hstate] at hidle
        rcases hidle with h | h <;> cases h
    | err e =>
        obtain ⟨hstate, hier⟩ := heffect.err e hout
        refine ⟨fun hactive => ?_, fun _ => hier _⟩
        rw [hstate] at hactive
        cases hactive
    | panic => exact absurd hout heffect.total
  · rw [handleInterrupt_idle hs]
    exact h

theorem exec_enabled (h : Enabled register s) (op : Op) :
    Enabled (lastIer register (exec op s).2.2) (exec op s).2.1 := by
  cases op with
  | enqueueTx bytes =>
      rw [exec, Prog.map_run]
      exact enqueueTx_enabled h bytes
  | handleInterrupt =>
      rw [exec, Prog.map_run]
      exact handleInterrupt_enabled h
  | dequeueRx =>
      rw [exec, Prog.map_run, dequeueRx, Prog.get_bind_run]
      cases s.rx.pop with
      | none => exact h
      | some front => exact h.quiet rfl rfl rfl
  | activateInterrupts =>
      rw [activateInterrupts_run]
      split_ifs with hs
      · refine ⟨fun _ => rfl, fun hidle => ?_⟩
        rcases hidle with h | h <;> cases h
      · exact h
  | disableInterrupts => exact ⟨fun hactive => (by cases hactive), fun _ => rfl⟩
  | _ => exact h.quiet rfl rfl rfl

theorem initialized_enabled (register : Option UInt8) (s : Uart16550 I) :
    Enabled (lastIer register (initializeQuiesced s).2.2) (initializeQuiesced s).2.1 := by
  have hinit := initializeQuiesced_initialized s
  refine ⟨fun hactive => ?_, fun _ => hinit.ier _⟩
  cases hout : (initializeQuiesced s).1 with
  | ok a => rw [hinit.ok hout] at hactive; cases hactive
  | err e => rw [hinit.err e hout] at hactive; cases hactive
  | panic => exact absurd hout hinit.total

theorem execCore_enabled (h : Enabled register s)
    (op : CoreOp) : Enabled (lastIer register (execCore op s).2.2) (execCore op s).2.1 := by
  cases op with
  | initializeQuiesced =>
      rw [execCore, Prog.map_run]
      exact initialized_enabled register s
  | op op => exact exec_enabled h op

/-- What was last written to the interrupt-enable register in a history. -/
def ierOf (h : List (LifeCall I)) : Option UInt8 := lastIer none (h.flatMap Call.events)

theorem replay_enabled (io : I) (ops : List CoreOp) :
    Enabled (ierOf (replay execCore ops (new io)).1) (replay execCore ops (new io)).2 := by
  have hnew : Enabled (ierOf ([] : List (LifeCall I))) (new io) := by
    refine ⟨fun h => (by cases h), fun h => ?_⟩
    rcases h with h | h <;> cases h
  refine replay_keeps (P := fun h s => Enabled (ierOf h) s) (fun h s op hs => ?_) ops hnew
  have hcall := execCore_enabled hs op
  rw [ierOf, List.flatMap_append, lastIer_append]
  simp only [List.flatMap_cons, List.flatMap_nil, List.append_nil]
  exact hcall

/-! ## Behind a failure -/

/-- The call that quiesces a failed core. -/
def Revives (c : LifeCall I) : Prop :=
  c.op = .op .disableInterrupts ∧ c.before.state.isFailed = true

/-- A call of `initialize_quiesced` that succeeded. -/
def Reinitializes (c : LifeCall I) : Prop :=
  c.op = .initializeQuiesced ∧ c.outcome.isOk = true

theorem exec_failed (h : s.state.isFailed = true) {op : Op}
    (hop : op ≠ .disableInterrupts) : (exec op s).2.1.state = s.state := by
  have hactive : s.state ≠ .active := by
    intro hs
    rw [hs] at h
    cases h
  have hquiesced : s.state ≠ .quiesced := by
    intro hs
    rw [hs] at h
    cases h
  cases op with
  | enqueueTx bytes =>
      obtain ⟨s', w, hrun, -, -, -, hstate, -⟩ := enqueueTx_run bytes s
      rw [exec, Prog.map_run, hrun]
      exact hstate
  | handleInterrupt => rw [exec, Prog.map_run, handleInterrupt_idle hactive]
  | dequeueRx =>
      rw [exec, Prog.map_run, dequeueRx, Prog.get_bind_run]
      cases s.rx.pop with
      | none | some front => rfl
  | activateInterrupts => rw [activateInterrupts_run, if_neg hquiesced]
  | disableInterrupts => exact absurd rfl hop
  | _ => rfl

theorem failed_stays (h : s.state.isFailed = true) {op : CoreOp}
    (hrevives : ¬ Revives (callOf execCore op s))
    (hreinitializes : ¬ Reinitializes (callOf execCore op s)) :
    (execCore op s).2.1.state.isFailed = true := by
  cases op with
  | op op =>
      have hop : op ≠ .disableInterrupts := by
        rintro rfl
        exact hrevives ⟨rfl, h⟩
      rw [execCore, exec_failed h hop]
      exact h
  | initializeQuiesced =>
      have hinit := initializeQuiesced_initialized s
      rw [execCore, Prog.map_run]
      cases hout : (initializeQuiesced s).1 with
      | ok a =>
          refine absurd ⟨rfl, ?_⟩ hreinitializes
          rw [callOf, execCore, Prog.map_run, hout]
          rfl
      | err e => rw [hinit.err e hout]; rfl
      | panic => exact absurd hout hinit.total

theorem failed_not_active (h : s.state.isFailed = true) (op : CoreOp) :
    (execCore op s).2.1.state ≠ .active := by
  intro hactive
  cases op with
  | op op =>
      by_cases hop : op = .disableInterrupts
      · subst hop
        cases hactive
      · rw [execCore, exec_failed h hop] at hactive
        rw [hactive] at h
        cases h
  | initializeQuiesced =>
      have hinit := initializeQuiesced_initialized s
      rw [execCore, Prog.map_run] at hactive
      cases hout : (initializeQuiesced s).1 with
      | ok a => rw [hinit.ok hout] at hactive; cases hactive
      | err e => rw [hinit.err e hout] at hactive; cases hactive
      | panic => exact absurd hout hinit.total

/-- Between a failure and the next time the core is active, it was initialized
again. -/
def Retired (h : List (LifeCall I)) : Prop :=
  ∀ h₁ c h₂ d h₃, h = h₁ ++ c :: (h₂ ++ d :: h₃) → c.after.state.isFailed = true →
    d.after.state = .active → ∃ e ∈ h₂, Reinitializes e

theorem failed_until {init : Uart16550 I → Prop} {h₁ : List (LifeCall I)} {c : LifeCall I}
    (hc : c.after.state.isFailed = true) (h₂ : List (LifeCall I)) :
    ∀ {s : Uart16550 I}, Run execCore init (h₁ ++ c :: h₂) s → (∀ e ∈ h₂, ¬ Revives e) →
      (∀ e ∈ h₂, ¬ Reinitializes e) → s.state.isFailed = true := by
  induction h₂ using List.reverseRecOn with
  | nil =>
      intro s hrun _ _
      obtain ⟨-, rfl⟩ := hrun.last
      exact hc
  | append_singleton h₂ e ih =>
      intro s hrun hrevives hreinitializes
      have hassoc : h₁ ++ c :: (h₂ ++ [e]) = (h₁ ++ c :: h₂) ++ [e] := by simp
      rw [hassoc] at hrun
      obtain ⟨hbefore, rfl⟩ := hrun.last
      obtain ⟨-, hcall, -⟩ := hrun.split
      have hmem : e ∈ h₂ ++ [e] := List.mem_append_right _ (List.mem_singleton_self e)
      have hfailed := ih hbefore (fun x hx => hrevives x (List.mem_append_left _ hx))
        fun x hx => hreinitializes x (List.mem_append_left _ hx)
      have hlast := hrevives e hmem
      have hlast' := hreinitializes e hmem
      rw [hcall] at hlast hlast'
      rw [hcall]
      exact failed_stays hfailed hlast hlast'

theorem execCore_total (op : CoreOp) (s : Uart16550 I) : (execCore op s).1 ≠ .panic := by
  cases op with
  | op op => exact (exec_moves op s).total
  | initializeQuiesced =>
      have hinit := initializeQuiesced_initialized s
      rw [execCore, Prog.map_run]
      cases hout : (initializeQuiesced s).1 with
      | panic => exact absurd hout hinit.total
      | ok a => exact Outcome.ok_ne_panic _
      | err e => exact Outcome.err_ne_panic _

theorem retired_of_run {init : Uart16550 I → Prop} {h : List (LifeCall I)}
    (hrun : Run execCore init h s) (hrevives : ∀ c ∈ h, ¬ Revives c) : Retired h := by
  rintro h₁ c h₂ d h₃ rfl hfailed hactive
  by_contra hnone
  have hassoc : h₁ ++ c :: (h₂ ++ d :: h₃) = (h₁ ++ c :: h₂) ++ d :: h₃ := by simp
  rw [hassoc] at hrun hrevives
  obtain ⟨hbefore, hcall, -⟩ := hrun.split
  have hstill := failed_until hfailed h₂ hbefore
    (fun e he => hrevives e (List.mem_append_left _ (List.mem_append_right _ (.tail _ he))))
    fun e he hre => hnone ⟨e, he, hre⟩
  rw [hcall] at hactive
  exact failed_not_active hstill d.op hactive

/-- Over any registers: the enables follow in every history, and a failed core
needs `initialize_quiesced` in those that do not quiesce it otherwise. -/
theorem uart_enables (io : I) (ops : List CoreOp) :
    ((replay execCore ops (new io)).2.state = .active →
      ∃ value, ierOf (replay execCore ops (new io)).1 = some value ∧
        (value &&& ierThri ≠ 0 ↔ (replay execCore ops (new io)).2.tx.toList ≠ [])) ∧
    ((replay execCore ops (new io)).2.state = .quiesced ∨
      (replay execCore ops (new io)).2.state.isFailed = true →
        ierOf (replay execCore ops (new io)).1 = some 0) ∧
    ((∀ c ∈ (replay execCore ops (new io)).1, ¬ Revives c) →
      Retired (replay execCore ops (new io)).1) := by
  have henabled := replay_enabled io ops
  have hrun : Run execCore (· = new io) (replay execCore ops (new io)).1
      (replay execCore ops (new io)).2 :=
    replay_run (I := fun _ => True) (fun s (_ : s = new io) => trivial)
      (fun op s _ => ⟨execCore_total op s, trivial⟩) rfl ops
  exact ⟨fun hactive => ⟨_, henabled.active hactive, wantedIer_thri _⟩, henabled.idle,
    retired_of_run hrun⟩

/-! ## A failed core that is active again -/

/-- Registers that answer from a script, and with "no interrupt" behind it. -/
instance : ByteRegisterIo (List UInt8) where
  read script _ := (script.headD iirNoInterrupt, script.tail)
  write script _ _ := script

/-- A core fails on an unknown cause, and is initialized again before it is activated. -/
def reinitialized : List CoreOp :=
  [.initializeQuiesced, .op .activateInterrupts, .op .handleInterrupt, .initializeQuiesced,
   .op .activateInterrupts]

theorem uart_enables_reinitialized :
    let r := replay execCore reinitialized
      (new ([0, 0, iirNoInterrupt, 8, 0, 0, iirNoInterrupt] : List UInt8))
    r.1.map (fun c => c.after.state.isFailed) = [false, false, true, false, false] ∧
      r.2.state = .active ∧ ierOf r.1 = some 5 ∧ Retired r.1 := by
  intro r
  have hkept : ∀ c ∈ r.1, c.op ≠ .op .disableInterrupts := by
    have hops : r.1.map Call.op = reinitialized := rfl
    intro c hc hop
    have hmem : c.op ∈ reinitialized := hops ▸ List.mem_map_of_mem hc
    rw [hop] at hmem
    exact absurd hmem (by decide)
  exact ⟨by decide +kernel, by decide +kernel, by decide +kernel,
    (uart_enables _ reinitialized).2.2 fun c hc hrevives => hkept c hc hrevives.1⟩

/-- A core is initialized and activated, fails on an unknown cause, is quiesced and activated. -/
def revival : List CoreOp :=
  [.initializeQuiesced, .op .activateInterrupts, .op .handleInterrupt, .op .disableInterrupts,
   .op .activateInterrupts]

theorem revival_not_retired :
    ¬ Retired (replay execCore revival (new ([0, 0, iirNoInterrupt, 8] : List UInt8))).1 := by
  intro h
  obtain ⟨e, he, hop, -⟩ := h [_, _] _ [_] _ [] rfl (by decide +kernel) (by decide +kernel)
  obtain rfl := List.mem_singleton.mp he
  cases hop

end Wyrmroot.Uart
