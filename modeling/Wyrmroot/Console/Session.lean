import Mathlib.Data.List.Nodup
import Wyrmroot.Lib.Run
import Wyrmroot.Console.Codec

/-!
# The status session

`StatusSession`: one relationship between a console and a shell. A query is
admitted with a ticket, the ticket is completed when the answer is sent, and
at most one is open at a time. `admitQuery` consumes a fresh transaction before it
looks at anything else, so an error leaves the high water behind.

A ticket is its header and says nothing of the session it came from.
`complete` compares its transaction and no more (`complete_of_another`), so
tickets are told apart by their transactions and only within one session.
-/

namespace Wyrmroot.Console

open Outcome

structure Relationship where
  consoleGeneration : UInt64
  statusGeneration : UInt64
  childGeneration : UInt64
  outerLaunchTransaction : UInt64
deriving DecidableEq

def Relationship.valid (self : Relationship) : Bool :=
  self.consoleGeneration ≠ 0 && self.statusGeneration ≠ 0 && self.childGeneration ≠ 0
    && self.outerLaunchTransaction ≠ 0

structure QueryTicket where
  header : Header
deriving DecidableEq

structure StatusSession where
  relationship : Relationship
  highWater : UInt64
  outstanding : Option UInt64
  isOpen : Bool
deriving DecidableEq

abbrev Session (α : Type) := Prog StatusSession Empty ErrorCode α

namespace StatusSession

def new (relationship : Relationship) : Outcome ErrorCode StatusSession := do
  rejectIf (!relationship.valid) .staleGeneration
  pure { relationship, highWater := 0, outstanding := none, isOpen := true }

def admitQuery (header : Header) : Session QueryTicket := do
  let self ← .get
  .lift (rejectIf (!self.isOpen) .unavailable)
  .lift (rejectIf (header.transactionId ≤ self.highWater) .replay)
  .modify ({ · with highWater := header.transactionId })
  .lift (rejectIf (header.consoleGeneration ≠ self.relationship.consoleGeneration
    || header.statusGeneration ≠ self.relationship.statusGeneration) .staleGeneration)
  .lift (rejectIf self.outstanding.isSome .unavailable)
  .modify ({ · with outstanding := some header.transactionId })
  pure { header }

def complete (ticket : QueryTicket) : Session Unit := do
  let self ← .get
  .lift (rejectIf (!self.isOpen || self.outstanding ≠ some ticket.header.transactionId) .unavailable)
  .modify ({ · with outstanding := none })

def close : Session Unit := .modify ({ · with isOpen := false, outstanding := none })

end StatusSession

open StatusSession

/-! ## Runs of a session -/

inductive Op where
  | admitQuery (header : Header)
  | complete (ticket : QueryTicket)
  | close
deriving DecidableEq

/-- An operation and the ticket it issues. -/
def exec : Op → Session (Option QueryTicket)
  | .admitQuery header => do
      let ticket ← admitQuery header
      pure (some ticket)
  | .complete ticket => do
      complete ticket
      pure none
  | .close => do
      close
      pure none

abbrev SessionCall := Call Op StatusSession Empty ErrorCode (Option QueryTicket)

/-- A session as `new` makes it. -/
def Fresh (s : StatusSession) : Prop := ∃ relationship, new relationship = .ok s

abbrev SessionRun : List SessionCall → StatusSession → Prop := Run exec Fresh

def QueryTicket.id (ticket : QueryTicket) : UInt64 := ticket.header.transactionId

/-- The ticket a call issued. -/
def ticketOf (c : SessionCall) : Option QueryTicket :=
  match c.outcome with
  | .ok ticket => ticket
  | _ => none

/-- All tickets a history issued, in order. -/
def issued (h : List SessionCall) : List QueryTicket := h.filterMap ticketOf

/-- What a call does to the outstanding tickets: it issues one, completes
the one of its transaction, or revokes them all. -/
def outstandingAfter (tickets : List QueryTicket) (c : SessionCall) : List QueryTicket :=
  match c.op, c.outcome with
  | .admitQuery _, .ok (some ticket) => tickets ++ [ticket]
  | .complete ticket, .ok _ => tickets.filter fun other => other.id ≠ ticket.id
  | .close, _ => []
  | _, _ => tickets

/-- The tickets issued and neither completed nor revoked since. -/
def outstandingOf (h : List SessionCall) : List QueryTicket := h.foldl outstandingAfter []

/-! ## What one call can do -/

/-- The effects of a call, with what it needs for each. -/
inductive Taken (s : StatusSession) : Op → Outcome ErrorCode (Option QueryTicket) → StatusSession →
    Prop
  | admitted {header : Header} : s.isOpen = true → s.highWater < header.transactionId →
      s.outstanding = none → Taken s (.admitQuery header) (.ok (some ⟨header⟩))
        { s with highWater := header.transactionId, outstanding := some header.transactionId }
  | consumed {header : Header} {code : ErrorCode} : s.highWater < header.transactionId →
      Taken s (.admitQuery header) (.err code) { s with highWater := header.transactionId }
  | refused {op : Op} {code : ErrorCode} : op ≠ .close → Taken s op (.err code) s
  | completed {ticket : QueryTicket} : s.isOpen = true → s.outstanding = some ticket.id →
      Taken s (.complete ticket) (.ok none) { s with outstanding := none }
  | closed : Taken s .close (.ok none) { s with isOpen := false, outstanding := none }

theorem exec_taken (op : Op) (s : StatusSession) : Taken s op (exec op s).1 (exec op s).2.1 := by
  show Prog.wp (exec op) (fun o s' _ => Taken s op o s') s
  cases op with
  | admitQuery header =>
      rw [exec, Prog.wp_bind_pure, admitQuery, Prog.wp_get_bind, Prog.wp_rejectIf_bind]
      refine ⟨fun _ => .refused nofun, fun hopen => ?_⟩
      rw [Prog.wp_rejectIf_bind]
      refine ⟨fun _ => .refused nofun, fun hfresh => ?_⟩
      simp only [Bool.not_eq_false', decide_eq_false_iff_not, UInt64.not_le] at hopen hfresh
      rw [Prog.wp_bind, Prog.wp_modify, Prog.wp_rejectIf_bind]
      refine ⟨fun _ => .consumed hfresh, fun _ => ?_⟩
      rw [Prog.wp_rejectIf_bind]
      refine ⟨fun _ => .consumed hfresh, fun hnone => ?_⟩
      exact .admitted hopen hfresh (Option.isNone_iff_eq_none.mp (Option.isSome_eq_false_iff.mp hnone))
  | complete ticket =>
      rw [exec, Prog.wp_bind, complete, Prog.wp_get_bind, Prog.wp_rejectIf_bind]
      refine ⟨fun _ => .refused nofun, fun hmatch => ?_⟩
      simp only [Bool.or_eq_false_iff, Bool.not_eq_false', decide_eq_false_iff_not, not_not,
        ne_eq] at hmatch
      exact .completed hmatch.1 hmatch.2
  | close => exact .closed

variable {s : StatusSession}

theorem complete_ok_iff {ticket : QueryTicket} :
    (exec (.complete ticket) s).1.isOk = true ↔
      s.isOpen = true ∧ s.outstanding = some ticket.id := by
  constructor
  · intro h
    have htaken := exec_taken (.complete ticket) s
    generalize (exec (.complete ticket) s).1 = o at h htaken
    generalize (exec (.complete ticket) s).2.1 = s' at htaken
    cases htaken with
    | refused _ => cases h
    | completed hopen hid => exact ⟨hopen, hid⟩
  · rintro ⟨hopen, hid⟩
    have hsame : s.outstanding = some ticket.header.transactionId := hid
    have hmatch : (!s.isOpen || decide (s.outstanding ≠ some ticket.header.transactionId)) = false := by
      simp [hopen, hsame]
    rw [exec, Prog.bind_run, complete, Prog.get_bind_run, hmatch]
    rfl

/-! ## What a run keeps -/

/-- The session remembers the one outstanding ticket by its transaction, and
no issued ticket is above the high water. -/
structure Tracked (h : List SessionCall) (s : StatusSession) : Prop where
  outstanding : (outstandingOf h).map QueryTicket.id = s.outstanding.toList
  open_of_some : ∀ id, s.outstanding = some id → s.isOpen = true
  ascending : (issued h).Pairwise fun a b => a.id < b.id
  bounded : ∀ ticket ∈ issued h, ticket.id ≤ s.highWater
  among : ∀ ticket ∈ outstandingOf h, ticket ∈ issued h
  closed : (∃ c ∈ h, c.op = .close) → s.isOpen = false

theorem issued_snoc (h : List SessionCall) (c : SessionCall) :
    issued (h ++ [c]) = issued h ++ (ticketOf c).toList := by
  rw [issued, List.filterMap_append, ← issued]
  cases hc : ticketOf c <;> simp [hc]

theorem outstandingOf_snoc (h : List SessionCall) (c : SessionCall) :
    outstandingOf (h ++ [c]) = outstandingAfter (outstandingOf h) c := by
  rw [outstandingOf, List.foldl_append, ← outstandingOf]
  rfl

theorem Tracked.start {s : StatusSession} (h : Fresh s) : Tracked [] s := by
  obtain ⟨relationship, hnew⟩ := h
  obtain ⟨_, -, hs⟩ := bind_eq_ok.mp hnew
  obtain rfl := Outcome.ok.inj hs
  refine ⟨rfl, fun _ h => ?_, .nil, List.forall_mem_nil _, List.forall_mem_nil _, fun h => ?_⟩
  · cases h
  · obtain ⟨c, hc, -⟩ := h
    exact absurd hc List.not_mem_nil

theorem outstandingAfter_err {tickets : List QueryTicket} {c : SessionCall} {code : ErrorCode}
    (hop : c.op ≠ .close) (h : c.outcome = .err code) : outstandingAfter tickets c = tickets := by
  unfold outstandingAfter
  rw [h]
  cases hc : c.op with
  | close => exact absurd hc hop
  | _ => rfl

variable {h : List SessionCall}

theorem Tracked.quiet {c : SessionCall} (ih : Tracked h c.before)
    (hop : c.op ≠ .close) (hticket : ticketOf c = none)
    (hle : c.before.highWater ≤ c.after.highWater) (hopen : c.after.isOpen = c.before.isOpen)
    (hids : (outstandingAfter (outstandingOf h) c).map QueryTicket.id =
      c.after.outstanding.toList)
    (hsome : ∀ id, c.after.outstanding = some id → c.before.outstanding = some id)
    (hsub : ∀ ticket ∈ outstandingAfter (outstandingOf h) c, ticket ∈ outstandingOf h) :
    Tracked (h ++ [c]) c.after := by
  have hissued : issued (h ++ [c]) = issued h := by
    rw [issued_snoc, hticket, Option.toList_none, List.append_nil]
  refine ⟨?_, fun id hid => ?_, ?_, fun ticket hmem => ?_, fun ticket hmem => ?_, ?_⟩
  · rw [outstandingOf_snoc, hids]
  · rw [hopen]
    exact ih.open_of_some id (hsome id hid)
  · rw [hissued]
    exact ih.ascending
  · rw [hissued] at hmem
    exact UInt64.le_trans (ih.bounded ticket hmem) hle
  · rw [outstandingOf_snoc] at hmem
    rw [hissued]
    exact ih.among ticket (hsub ticket hmem)
  · rintro ⟨d, hd, hclose⟩
    rw [hopen]
    rcases List.mem_append.mp hd with hd | hd
    · exact ih.closed ⟨d, hd, hclose⟩
    · rw [List.mem_singleton.mp hd] at hclose
      exact absurd hclose hop

theorem Tracked.admitted {c : SessionCall} {header : Header}
    (ih : Tracked h c.before) (hop : c.op = .admitQuery header)
    (hticket : c.outcome = .ok (some ⟨header⟩)) (hnone : c.before.outstanding = none)
    (hfresh : c.before.highWater < header.transactionId)
    (hwater : c.after.highWater = header.transactionId)
    (hid : c.after.outstanding = some header.transactionId)
    (hopen : c.before.isOpen = true) (hopen' : c.after.isOpen = true) :
    Tracked (h ++ [c]) c.after := by
  have hids := ih.outstanding
  rw [hnone] at hids
  have hnil : outstandingOf h = [] := List.map_eq_nil_iff.mp hids
  have hout : outstandingOf (h ++ [c]) = [⟨header⟩] := by
    rw [outstandingOf_snoc, outstandingAfter, hop, hticket, hnil]
    rfl
  have hissued : issued (h ++ [c]) = issued h ++ [⟨header⟩] := by
    rw [issued_snoc, ticketOf, hticket]
    rfl
  refine ⟨?_, fun _ _ => hopen', ?_, fun ticket hmem => ?_, fun ticket hmem => ?_, ?_⟩
  · rw [hout, hid]
    rfl
  · rw [hissued, List.pairwise_append]
    refine ⟨ih.ascending, List.pairwise_singleton _ _, fun a ha b hb => ?_⟩
    rw [List.mem_singleton.mp hb]
    exact UInt64.lt_of_le_of_lt (ih.bounded a ha) hfresh
  · rw [hissued] at hmem
    rw [hwater]
    rcases List.mem_append.mp hmem with hmem | hmem
    · exact UInt64.le_trans (ih.bounded ticket hmem) (UInt64.le_of_lt hfresh)
    · rw [List.mem_singleton.mp hmem]
      exact UInt64.le_refl _
  · rw [hout] at hmem
    rw [hissued]
    exact List.mem_append_right _ hmem
  · rintro ⟨d, hd, hclose⟩
    rcases List.mem_append.mp hd with hd | hd
    · rw [ih.closed ⟨d, hd, hclose⟩] at hopen
      cases hopen
    · rw [List.mem_singleton.mp hd, hop] at hclose
      cases hclose

theorem Tracked.call {h : List SessionCall} {c : SessionCall} (ih : Tracked h c.before)
    (htaken : Taken c.before c.op c.outcome c.after) : Tracked (h ++ [c]) c.after := by
  obtain ⟨s, op, outcome, s', w⟩ := c
  change Taken s op outcome s' at htaken
  cases htaken with
  | admitted hopen hfresh hnone => exact ih.admitted rfl rfl hnone hfresh rfl rfl hopen hopen
  | @consumed header code hfresh =>
      exact ih.quiet nofun rfl (UInt64.le_of_lt hfresh) rfl ih.outstanding (fun _ hid => hid)
        fun _ hmem => hmem
  | @refused _ code hop =>
      have hsame := @outstandingAfter_err (outstandingOf h) ⟨s, op, .err code, s, w⟩ code hop rfl
      refine ih.quiet hop rfl (UInt64.le_refl _) rfl ?_ (fun _ hid => hid) ?_
      · rw [hsame]
        exact ih.outstanding
      · rw [hsame]
        exact fun _ hmem => hmem
  | @completed ticket hopen hid =>
      have hids := ih.outstanding
      rw [hid] at hids
      refine ih.quiet nofun rfl (UInt64.le_refl _) rfl ?_ nofun fun _ hmem => (List.mem_filter.mp hmem).1
      have hall : ∀ other ∈ outstandingOf h, other.id = ticket.id := by
        intro other hother
        have hmem := List.mem_map_of_mem (f := QueryTicket.id) hother
        rw [hids] at hmem
        exact List.mem_singleton.mp hmem
      have hnil : (outstandingOf h).filter (fun other => other.id ≠ ticket.id) = [] :=
        List.filter_eq_nil_iff.mpr fun other hother => by simp [hall other hother]
      exact congrArg (List.map QueryTicket.id) hnil
  | closed =>
      let closed : SessionCall :=
        ⟨s, .close, .ok none, { s with isOpen := false, outstanding := none }, w⟩
      have hissued : issued (h ++ [closed]) = issued h := by
        rw [issued_snoc]
        exact List.append_nil _
      have hout : outstandingOf (h ++ [closed]) = [] := outstandingOf_snoc ..
      refine ⟨by rw [hout]; rfl, nofun, hissued ▸ ih.ascending, hissued ▸ ih.bounded, ?_, fun _ => rfl⟩
      rw [hout]
      exact nofun

theorem SessionRun.tracked (hrun : SessionRun h s) :
    Tracked h s := by
  induction hrun with
  | start hfresh => exact .start hfresh
  | call op _ _ ih => exact ih.call (exec_taken op _)

theorem exec_ne_panic (op : Op) (s : StatusSession) : (exec op s).1 ≠ .panic := by
  intro h
  have htaken := exec_taken op s
  rw [h] at htaken
  cases htaken

theorem session_run (hfresh : Fresh s) (ops : List Op) :
    SessionRun (replay exec ops s).1 (replay exec ops s).2 :=
  replay_run (fun _ _ => trivial) (fun op s (_ : True) => ⟨exec_ne_panic op s, trivial⟩) hfresh ops

/-! ## Codec and session -/

theorem Tracked.complete_iff (ih : Tracked h s)
    (ticket : QueryTicket) : (exec (.complete ticket) s).1.isOk = true ↔
      ∃ own ∈ outstandingOf h, own.id = ticket.id := by
  have hids := ih.outstanding
  rw [complete_ok_iff]
  constructor
  · rintro ⟨-, hid⟩
    rw [hid] at hids
    have hmem : ticket.id ∈ (outstandingOf h).map QueryTicket.id := by
      rw [hids]
      exact List.mem_singleton_self _
    exact List.mem_map.mp hmem
  · rintro ⟨own, hown, hsame⟩
    have hmem := List.mem_map_of_mem (f := QueryTicket.id) hown
    rw [hids, hsame] at hmem
    have hid := Option.mem_toList.mp hmem
    exact ⟨ih.open_of_some _ hid, hid⟩

theorem Tracked.eq_of_id (ih : Tracked h s)
    {a b : QueryTicket} (ha : a ∈ issued h) (hb : b ∈ issued h) (hid : a.id = b.id) : a = b := by
  have hnodup : ((issued h).map QueryTicket.id).Nodup :=
    List.pairwise_map.mpr (ih.ascending.imp fun hlt => UInt64.ne_of_lt hlt)
  exact List.inj_on_of_nodup_map hnodup ha hb hid

/-- The codec is exact, and a session issues tickets of ascending transactions,
one at a time. A ticket completes where the session has a ticket of its own of
the same transaction outstanding; among its own tickets that is the
outstanding one, and after a close there is none. -/
theorem console_status :
    (∀ (header : Header) (snapshot : Snapshot) (out out' : List UInt8) (size : Nat)
      (w : List Empty), encodeSnapshot header snapshot out = (.ok size, out', w) →
        decode (out'.take size) 0 = .ok (.snapshot header snapshot)) ∧
    (∀ (bytes : List UInt8) (handles : Nat) (message : Message),
      decode bytes handles = .ok message → ∀ out : List UInt8, bytes.length ≤ out.length →
        encodeMessage message out = (.ok bytes.length, bytes ++ out.drop bytes.length, [])) ∧
    ∀ (relationship : Relationship) (fresh s : StatusSession) (ops : List Op)
      (h : List SessionCall), StatusSession.new relationship = .ok fresh →
        replay exec ops fresh = (h, s) →
          (issued h).Pairwise (fun a b => a.id < b.id) ∧ (outstandingOf h).length ≤ 1 ∧
          (∀ ticket, (exec (.complete ticket) s).1.isOk = true ↔
            ∃ own ∈ outstandingOf h, own.id = ticket.id) ∧
          (∀ ticket ∈ issued h, (exec (.complete ticket) s).1.isOk = true ↔
            ticket ∈ outstandingOf h) ∧
          ((∃ c ∈ h, c.op = .close) → ∀ ticket, (exec (.complete ticket) s).1.isOk = false) := by
  refine ⟨fun header snapshot out out' size w h => ?_, fun bytes handles message h out hroom => ?_,
    fun relationship fresh s ops h hnew hreplay => ?_⟩
  · exact @decode_encodeMessage (.snapshot header snapshot) size out out' w h
  · exact encodeMessage_decode h hroom
  · have hrun := session_run ⟨relationship, hnew⟩ ops
    rw [hreplay] at hrun
    have htracked := SessionRun.tracked hrun
    refine ⟨htracked.ascending, ?_, htracked.complete_iff, fun ticket hticket => ?_,
      fun hclose ticket => ?_⟩
    · have hlen := congrArg List.length htracked.outstanding
      rw [List.length_map] at hlen
      rw [hlen]
      cases s.outstanding <;> simp
    · rw [htracked.complete_iff]
      constructor
      · rintro ⟨own, hown, hsame⟩
        rwa [← htracked.eq_of_id (htracked.among own hown) hticket hsame]
      · exact fun hmem => ⟨ticket, hmem, rfl⟩
    · rw [Bool.eq_false_iff, ne_eq, complete_ok_iff, htracked.closed hclose]
      exact nofun

/-! ## Two sessions -/

/-- A relationship and the one that replaces it. -/
def replaced : Relationship := ⟨11, 13, 17, 19⟩

def replacement : Relationship := ⟨11, 14, 18, 20⟩

def replacedSession : StatusSession := ⟨replaced, 0, none, true⟩

def replacementSession : StatusSession := ⟨replacement, 0, none, true⟩

def replacedQuery : Header := ⟨7, 11, 13⟩

def replacementQuery : Header := ⟨7, 11, 14⟩

def fullSnapshot : Snapshot :=
  { state := .active, flags := flagsMask, serialRegistryGeneration := 1, publicationGeneration := 2,
    deviceBundle := 3, driverAttempt := 4, rawStreamGeneration := 5, childGeneration := 6,
    outerJob := 7, outerLaunchTransaction := 8, livePeerMask := 0b111, inputQueueBytes := 4096,
    stdoutQueueBytes := 4096, stderrQueueBytes := 4096, childFailures := 4, serialFailures := 4,
    lastFailure := .wrongDirection }

theorem fullSnapshot_status :
    (∃ out : List UInt8, decode (out.take 160) 0 = .ok (.snapshot replacedQuery fullSnapshot)) ∧
      (∃ out, encodeMessage (.query replacedQuery) (List.replicate 48 0) = (.ok 48, out, [])) ∧
      (outstandingOf (replay exec [.admitQuery replacedQuery] replacedSession).1).length ≤ 1 := by
  have hroom : snapshotBytes ≤ (List.replicate 160 (0 : UInt8)).length := by
    rw [List.length_replicate]
    exact Nat.le_refl 160
  have hencode : encodeSnapshot replacedQuery fullSnapshot (List.replicate 160 0) = _ :=
    @encodeMessage_complete (.snapshot replacedQuery fullSnapshot) (List.replicate 160 0)
      ⟨rfl, by decide⟩ hroom
  have hdecode : decode (Message.query replacedQuery).text 0 = .ok (.query replacedQuery) :=
    decode_eq_ok.mpr ⟨rfl, rfl, rfl⟩
  have hwritten := console_status.2.1 _ _ _ hdecode (List.replicate 48 0) (by
    rw [Message.length_text, List.length_replicate]
    exact Nat.le_refl 48)
  rw [Message.length_text] at hwritten
  have hstatus := console_status.1 _ _ _ _ _ _ hencode
  exact ⟨⟨_, hstatus⟩, ⟨_, hwritten⟩,
    (console_status.2.2 replaced replacedSession _ _ _ rfl rfl).2.1⟩

/-- A ticket of one session completes on another, which did not issue it. -/
theorem complete_of_another :
    StatusSession.new replaced = .ok replacedSession ∧
      StatusSession.new replacement = .ok replacementSession ∧
      (⟨replacedQuery⟩ : QueryTicket) ∈
        issued (replay exec [.admitQuery replacedQuery] replacedSession).1 ∧
      (⟨replacedQuery⟩ : QueryTicket) ∉
        issued (replay exec [.admitQuery replacementQuery] replacementSession).1 ∧
      (exec (.complete ⟨replacedQuery⟩)
        (replay exec [.admitQuery replacementQuery] replacementSession).2).1 = .ok none := by
  refine ⟨rfl, rfl, ?_, ?_, rfl⟩
  · exact List.mem_singleton_self _
  · decide

end Wyrmroot.Console
