import Mathlib.Algebra.BigOperators.Group.List.Basic
import Mathlib.Algebra.Order.Ring.Nat
import Wyrmroot.Runtime.Streams

/-!
# What a read returns

A queue of datagrams: some that are records, one that no reader takes (or a native
failure), and whatever follows. A read takes bytes until its buffer is full, and
drops what it has copied when it comes to the datagram that no reader takes. The
bytes in front of that datagram are thus all returned exactly where the end of a
buffer falls on their end.
-/

namespace Wyrmroot.Runtime

open Uart.StreamProto (decodeData maxRecordBytes)

variable {η : Type}

/-- What the receives on a channel bring, in their order, and the handles that have been closed. -/
structure Queue (η : Type) where
  pending : List (Except NativeError (Received η))
  closed : List η

def Queue.receive (queue : Queue η) : Except NativeError (Received η) × Queue η :=
  match queue.pending with
  | [] => (.error .wouldBlock, queue)
  | next :: rest => (next, { queue with pending := rest })

/-- A reader's side of a channel; nothing is sent on it. -/
def Queue.system : StreamSystem η (Queue η) where
  receive _ _ _ queue := queue.receive
  send _ _ queue := (.error .wouldBlock, queue)
  close handle queue := (.ok (), { queue with closed := queue.closed ++ [handle] })

/-- A record that a reader takes, with its payload. -/
structure Valid (received : Received η) (payload : List UInt8) : Prop where
  bytes : received.counts.bytes ≤ maxRecordBytes
  handles : received.counts.handles = 0
  decodes : decodeData (received.bytes.take received.counts.bytes) = .ok payload

/-- What no reader takes: a datagram beyond its buffer, one with handles, one that is no record, and
a native failure. -/
def Bad : Except NativeError (Received η) → Prop
  | .ok received => maxRecordBytes < received.counts.bytes ∨ received.counts.handles ≠ 0 ∨
      (decodeData (received.bytes.take received.counts.bytes)).isOk = false
  | .error e => e = .other

namespace NativeInput

/-- `NativeInput::new`. -/
def new (endpoint : η) : NativeInput η := ⟨endpoint, [], false, false⟩

/-- One read for each buffer, until one fails: the bytes they return, and the error. -/
def reads (turns : Nat) : List Nat → NativeInput η × Queue η → List UInt8 × Option StreamError
  | [], _ => ([], none)
  | room :: rooms, s =>
      match read Queue.system turns room s with
      | (.ok bytes, s', _) =>
          let behind := reads turns rooms s'
          (bytes ++ behind.1, behind.2)
      | (.err e, _, _) => ([], some e)
      | (.panic, _, _) => ([], some .protocol)

/-- Where a read fails, those that have returned have returned all of the bytes. -/
def Lossless (bytes : List UInt8) (r : List UInt8 × Option StreamError) : Prop :=
  ∀ e, r.2 = some e → r.1 = bytes

/-- One of the buffers begins in front of the end of so many bytes and ends behind it. -/
def Straddles (rooms : List Nat) (length : Nat) : Prop :=
  ∃ i, (rooms.take i).sum < length ∧ length < (rooms.take (i + 1)).sum

/-! ## One read -/

section Read

variable {bad : Except NativeError (Received η)} {rest : List (Except NativeError (Received η))}

/-- In front of the datagram that no reader takes there are these bytes, in the input and behind it. -/
structure Ahead (bad : Except NativeError (Received η))
    (rest : List (Except NativeError (Received η))) (bytes : List UInt8)
    (s : NativeInput η × Queue η) : Prop where
  working : s.1.failed = false
  unclosed : s.1.eof = false
  queued : ∃ good : List (Received η × List UInt8), (∀ p ∈ good, Valid p.1 p.2) ∧
    s.2.pending = good.map (fun p => .ok p.1) ++ bad :: rest ∧
    s.1.record ++ (good.map (·.2)).flatten = bytes

/-- The turns a read has left at most. -/
def turnsLeft (s : NativeInput η × Queue η) : Nat :=
  2 * s.2.pending.length + if s.1.record = [] then 0 else 1

variable {bytes copied : List UInt8} {room bound turns : Nat} {s : NativeInput η × Queue η}

/-- A read under way. -/
structure Copying (bad : Except NativeError (Received η))
    (rest : List (Except NativeError (Received η))) (bytes : List UInt8) (bound : Nat)
    (copied : List UInt8) (s : NativeInput η × Queue η) : Prop where
  ahead : ∃ left, Ahead bad rest left s ∧ copied ++ left = bytes
  turns : turnsLeft s ≤ bound

/-- How a read ends: with a full buffer, or with an error that swallows less than a buffer. -/
def Ends (bad : Except NativeError (Received η)) (rest : List (Except NativeError (Received η)))
    (bytes : List UInt8) (bound room : Nat) :
    Outcome StreamError (List UInt8) → NativeInput η × Queue η → Prop
  | .ok copied, s => copied.length = room ∧ Copying bad rest bytes bound copied s
  | .err _, _ => bytes.length < room
  | .panic, _ => False

theorem accept_bad {received : Received η} {input : NativeInput η} {queue : Queue η}
    (h : Bad (.ok received)) :
    ∃ e s', accept Queue.system received (input, queue) = (.err e, s', []) := by
  unfold accept
  split_ifs with hbeyond hhandles
  · exact ⟨_, _, rfl⟩
  · exact ⟨_, _, rfl⟩
  · cases hdecode : decodeData (received.bytes.take received.counts.bytes) with
    | ok payload =>
        rcases h with h | h | h
        · rw [decide_eq_true h] at hbeyond
          exact absurd rfl hbeyond
        · exact absurd h hhandles
        · rw [hdecode] at h
          cases h
    | err e => exact ⟨_, _, rfl⟩
    | panic => exact absurd hdecode (Uart.StreamProto.decodeData_ne_panic _)

theorem readTurn_bad (hbad : Bad bad) (hrecord : s.1.record = []) (heof : s.1.eof = false)
    (hpending : s.2.pending = bad :: rest) :
    ∃ e s', readTurn Queue.system room copied s = (.err e, s', []) := by
  obtain ⟨input, queue⟩ := s
  have hreceive : Queue.system.receive input.endpoint maxRecordBytes maxReceivedHandles queue =
      (bad, { queue with pending := rest }) := by
    show queue.receive = _
    unfold Queue.receive
    rw [hpending]
  rcases bad with e | received
  · obtain ⟨⟩ := hbad
    exact ⟨_, _, readTurn_fails hrecord heof hreceive⟩
  · obtain ⟨e, s', haccept⟩ := @accept_bad _ received input { queue with pending := rest } hbad
    exact ⟨e, s', (readTurn_receives hrecord heof hreceive).trans (Prog.bind_run_err haccept)⟩

theorem readTurn_wp (hbad : Bad bad) (h : Copying bad rest bytes bound copied s)
    (hroom : copied.length < room) :
    Prog.wp (readTurn Queue.system room copied) (fun o s' v => v = [] ∧
      Prog.Continues (fun copied s => Copying bad rest bytes bound copied s ∧ copied.length < room)
        (fun _ => turnsLeft) (Ends bad rest bytes bound room) (turnsLeft s) o s') s := by
  obtain ⟨left, ⟨hworking, hopen, good, hgood, hpending, hleft⟩, hbytes⟩ := h.ahead
  unfold Prog.wp
  by_cases hrecord : s.1.record = []
  · cases good with
    | nil =>
        obtain ⟨e, s', hturn⟩ := @readTurn_bad _ _ _ copied room s hbad hrecord hopen hpending
        rw [hturn]
        refine ⟨rfl, ?_⟩
        rw [hrecord] at hleft
        show bytes.length < room
        rwa [← hbytes, ← hleft, List.map_nil, List.flatten_nil, List.append_nil, List.append_nil]
    | cons p good =>
        obtain ⟨hvalid, hgood⟩ := List.forall_mem_cons.mp hgood
        obtain ⟨input, queue⟩ := s
        have hreceive : Queue.system.receive input.endpoint maxRecordBytes maxReceivedHandles queue =
            (.ok p.1, { queue with pending := good.map (fun p => .ok p.1) ++ bad :: rest }) := by
          show queue.receive = _
          unfold Queue.receive
          rw [hpending]
          rfl
        rw [readTurn_accepts hrecord hopen hreceive
          (accept_run hvalid.bytes hvalid.handles hvalid.decodes)]
        have hlower : turnsLeft ({ input with record := p.2 },
            { queue with pending := good.map (fun p => .ok p.1) ++ bad :: rest }) <
              turnsLeft (input, queue) := by
          unfold turnsLeft
          dsimp only at hpending ⊢
          rw [hpending, List.map_cons, List.cons_append, List.length_cons]
          split_ifs <;> omega
        refine ⟨rfl, ⟨⟨⟨left, ⟨hworking, hopen, good, hgood, rfl, ?_⟩, hbytes⟩, ?_⟩, hroom⟩, hlower⟩
        · rw [← hleft, hrecord, List.map_cons, List.flatten_cons, List.nil_append]
        · exact Nat.le_of_lt (Nat.lt_of_lt_of_le hlower h.turns)
  · obtain ⟨input, queue⟩ := s
    rw [readTurn_copies hrecord]
    dsimp only at hrecord hleft ⊢
    refine ⟨rfl, ?_⟩
    have hlower : turnsLeft ({ input with record := input.record.drop (room - copied.length) }, queue) ≤
        turnsLeft (input, queue) := by
      unfold turnsLeft
      dsimp only
      rw [if_neg hrecord]
      split_ifs <;> omega
    have hcopying : Copying bad rest bytes bound
        (copied ++ input.record.take (room - copied.length))
        ({ input with record := input.record.drop (room - copied.length) }, queue) := by
      refine ⟨⟨_, ⟨hworking, hopen, good, hgood, hpending, rfl⟩, ?_⟩, Nat.le_trans hlower h.turns⟩
      rw [← hbytes, ← hleft, List.append_assoc, ← List.append_assoc (input.record.take _),
        List.take_append_drop]
    have hlength : (copied ++ input.record.take (room - copied.length)).length ≤ room := by
      rw [List.length_append, List.length_take]
      omega
    split_ifs with hfull
    · exact ⟨hfull, hcopying⟩
    · refine ⟨⟨hcopying, by omega⟩, ?_⟩
      have hall : input.record.drop (room - copied.length) = [] := by
        rw [List.length_append, List.length_take] at hfull hlength
        exact List.drop_eq_nil_of_le (by omega)
      unfold turnsLeft
      dsimp only
      rw [if_pos hall, if_neg hrecord]
      omega

theorem read_wp (hbad : Bad bad) (h : Ahead bad rest bytes s) (hbound : turnsLeft s ≤ bound)
    (hturns : bound < turns) (hroom : 0 < room) :
    Prog.wp (read Queue.system turns room)
      (fun o s' v => v = [] ∧ Ends bad rest bytes bound room o s') s := by
  unfold read
  rw [if_neg (Nat.ne_of_gt hroom), Prog.wp_get_bind]
  dsimp only
  rw [h.working, Prog.wp_rejectIf_bind]
  refine ⟨by rintro ⟨⟩, fun _ => ?_⟩
  refine Prog.wp_loop (I := fun copied s => Copying bad rest bytes bound copied s ∧
    copied.length < room) (μ := fun _ => turnsLeft) (fun copied s hs => readTurn_wp hbad hs.1 hs.2)
      ⟨⟨⟨bytes, h, rfl⟩, hbound⟩, hroom⟩ (Nat.lt_of_le_of_lt hbound hturns)

end Read

/-! ## Successive reads -/

theorem straddles_cons {room length : Nat} {rooms : List Nat} (h : room ≤ length) :
    Straddles (room :: rooms) length ↔ Straddles rooms (length - room) := by
  constructor
  · rintro ⟨i, hbegins, hends⟩
    cases i with
    | zero =>
        rw [List.take_succ_cons, List.take_zero, List.sum_cons, List.sum_nil] at hends
        omega
    | succ i =>
        rw [List.take_succ_cons, List.sum_cons] at hbegins hends
        exact ⟨i, by omega, by omega⟩
  · rintro ⟨i, hbegins, hends⟩
    refine ⟨i + 1, ?_, ?_⟩ <;> rw [List.take_succ_cons, List.sum_cons] <;> omega

variable {bad : Except NativeError (Received η)} {rest : List (Except NativeError (Received η))}
  {turns bound : Nat}

theorem reads_lossless (hbad : Bad bad) (hturns : bound < turns) :
    ∀ {rooms : List Nat} {bytes : List UInt8} {s : NativeInput η × Queue η},
      Ahead bad rest bytes s → turnsLeft s ≤ bound →
        (Lossless bytes (reads turns rooms s) ↔ ¬ Straddles rooms bytes.length)
  | [], bytes, s, _, _ => by
      refine iff_of_true (by rintro _ ⟨⟩) ?_
      rintro ⟨i, hbegins, hends⟩
      rw [List.take_nil] at hbegins hends
      exact Nat.lt_asymm hbegins hends
  | 0 :: rooms, bytes, s, h, hbound => by
      have hrest : Lossless bytes (reads turns rooms s) ↔ _ := reads_lossless hbad hturns h hbound
      rw [straddles_cons (Nat.zero_le _), Nat.sub_zero, ← hrest]
      rfl
  | (room + 1) :: rooms, bytes, s, h, hbound => by
      have hread := read_wp hbad h hbound hturns (Nat.succ_pos room)
      unfold Prog.wp at hread
      unfold reads
      generalize read Queue.system turns (room + 1) s = r at hread ⊢
      rcases r with ⟨copied | e | _, s', v⟩
      · obtain ⟨-, hfull, ⟨left, hahead, rfl⟩, hbound⟩ := hread
        have hlength : (copied ++ left).length = room + 1 + left.length := by
          rw [List.length_append, hfull]
        have hrest : Lossless left (reads turns rooms s') ↔ _ :=
          reads_lossless hbad hturns hahead hbound
        rw [straddles_cons (by omega), hlength, Nat.add_sub_cancel_left, ← hrest]
        exact forall₂_congr fun e _ => List.append_right_inj copied
      · obtain ⟨-, hless : bytes.length < room + 1⟩ := hread
        constructor
        · intro hlossless
          obtain rfl : [] = bytes := hlossless e rfl
          rintro ⟨i, hbegins, -⟩
          exact Nat.not_lt_zero _ hbegins
        · intro hstraddles
          have hnone : bytes.length = 0 := Nat.eq_zero_of_not_pos fun hpos =>
            hstraddles ⟨0, hpos, by rwa [List.take_succ_cons, List.take_zero, List.sum_singleton]⟩
          rw [List.length_eq_zero_iff.mp hnone]
          exact fun _ _ => rfl
      · exact hread.2.elim

/-- What the reads return, buffer after buffer, is the bytes in front of the datagram that no reader
takes, whole, exactly where no buffer straddles their end. -/
theorem reads_lossless_iff {endpoint : η} {good : List (Received η × List UInt8)} {queue : Queue η}
    (hgood : ∀ p ∈ good, Valid p.1 p.2) (hbad : Bad bad)
    (hqueue : queue.pending = good.map (fun p => .ok p.1) ++ bad :: rest)
    (hturns : 2 * queue.pending.length < turns) (rooms : List Nat) :
    Lossless (good.map (·.2)).flatten (reads turns rooms (new endpoint, queue)) ↔
      ¬ Straddles rooms (good.map (·.2)).flatten.length :=
  reads_lossless hbad hturns ⟨rfl, rfl, good, hgood, hqueue, rfl⟩ (Nat.le_refl _)

/-- A letter, and behind it a native failure. -/
def letter : Received Unit × List UInt8 := (⟨⟨25, 0⟩, Uart.StreamProto.record [97], []⟩, [97])

theorem letter_valid : ∀ p ∈ [letter], Valid p.1 p.2 := by
  intro p hp
  obtain rfl := List.mem_singleton.mp hp
  exact ⟨by decide, rfl, Uart.StreamProto.decodeData_record (by decide)⟩

theorem reads_lossless_iff_letter : Lossless [97]
      (reads 5 [1, 1] (new (), ⟨[.ok letter.1, .error .other], []⟩)) ↔ ¬ Straddles [1, 1] 1 :=
  @reads_lossless_iff Unit (.error .other) [] 5 () [letter] _ letter_valid rfl rfl (by decide) [1, 1]

/-- A read of two bytes takes the letter and swallows it at the failure behind it. -/
theorem read_swallows :
    ¬ Lossless [97] (reads 5 [2] (new (), ⟨[.ok letter.1, .error .other], []⟩)) := by
  have hbad : Bad (.error .other : Except NativeError (Received Unit)) := rfl
  have hahead : Ahead (.error .other) [] [97]
      (new (), ⟨[.ok letter.1, .error .other], []⟩) := ⟨rfl, rfl, [letter], letter_valid, rfl, rfl⟩
  have hends : Straddles [2] 1 := ⟨0, by decide, by decide⟩
  exact fun h => (reads_lossless hbad (Nat.lt_succ_self 4) hahead (by decide)).mp h hends

end NativeInput

end Wyrmroot.Runtime
