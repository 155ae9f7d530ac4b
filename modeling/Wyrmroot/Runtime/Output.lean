import Wyrmroot.Runtime.Streams

/-!
# What a write commits

`NativeOutput::write` cuts its bytes into payloads and sends one record for each.
What the system makes of these records, in their order, is `delivered`: those it
takes and the status that stops it. A write then says of itself what it has
committed, except where a native status that means nothing to a stream stops it
behind its first record: there it fails and the records it has committed are not
mentioned.
-/

namespace Wyrmroot.Runtime

open Uart.StreamProto (maxPayloadBytes record encodeData_wire)

variable {η τ : Type}

/-- A system that keeps the records it has taken. -/
def StreamSystem.recorded (system : StreamSystem η τ) : StreamSystem η (τ × List (List UInt8)) where
  receive endpoint bytes handles s :=
    let received := system.receive endpoint bytes handles s.1
    (received.1, received.2, s.2)
  send endpoint wire s :=
    let sent := system.send endpoint wire s.1
    (sent.1, sent.2, match sent.1 with
      | .ok () => s.2 ++ [wire]
      | .error _ => s.2)
  close endpoint s :=
    let closed := system.close endpoint s.1
    (closed.1, closed.2, s.2)

variable {system : StreamSystem η τ} {endpoint : η}

theorem StreamSystem.recorded_ok {t t' : τ} {wire : List UInt8} {log : List (List UInt8)}
    (h : system.send endpoint wire t = (.ok (), t')) :
    system.recorded.send endpoint wire (t, log) = (.ok (), t', log ++ [wire]) := by
  simp only [recorded, h]

theorem StreamSystem.recorded_error {t t' : τ} {wire : List UInt8} {log : List (List UInt8)}
    {e : NativeError} (h : system.send endpoint wire t = (.error e, t')) :
    system.recorded.send endpoint wire (t, log) = (.error e, t', log) := by
  simp only [recorded, h]

namespace NativeOutput

/-- The payloads that bytes are sent as. -/
def payloads (bytes : List UInt8) : List (List UInt8) :=
  if _h : bytes = [] then []
  else bytes.take maxPayloadBytes :: payloads (bytes.drop maxPayloadBytes)
termination_by bytes.length
decreasing_by
  have := List.length_pos_of_ne_nil _h
  rw [List.length_drop, maxPayloadBytes]
  omega

/-- The payloads whose records a system takes, and the error at the first it does not. -/
def delivered (system : StreamSystem η τ) (endpoint : η) :
    List (List UInt8) → τ → List (List UInt8) × Option NativeError
  | [], _ => ([], none)
  | payload :: rest, t =>
      let sent := system.send endpoint (record payload) t
      match sent.1 with
      | .ok () =>
          let behind := delivered system endpoint rest sent.2
          (payload :: behind.1, behind.2)
      | .error e => ([], some e)

/-- The write says what it has committed: nothing where it fails, and the first `n` bytes where it
returns `n`. -/
def Honest (bytes : List UInt8) (committed : List (List UInt8)) :
    Outcome StreamError Nat → Prop
  | .ok n => n ≤ bytes.length ∧
      ∃ packets : List (List UInt8), committed = packets.map record ∧ packets.flatten = bytes.take n
  | .err _ => committed = []
  | .panic => False

/-- How a write of so many bytes ends, by what it has committed and what has stopped it. -/
def ending (length committed : Nat) : Option NativeError → Outcome StreamError Nat
  | none => .ok length
  | some e =>
      if (sendError e = .wouldBlock || sendError e = .broken) && committed ≠ 0 then .ok committed
      else .err (sendError e)

theorem payloads_nil : payloads [] = [] := by
  rw [payloads, dif_pos rfl]

theorem payloads_of_ne_nil {bytes : List UInt8} (h : bytes ≠ []) :
    payloads bytes = bytes.take maxPayloadBytes :: payloads (bytes.drop maxPayloadBytes) := by
  rw [payloads, dif_neg h]

theorem flatten_payloads (bytes : List UInt8) : (payloads bytes).flatten = bytes := by
  induction bytes using payloads.induct with
  | case1 => rw [payloads_nil, List.flatten_nil]
  | case2 bytes h ih => rw [payloads_of_ne_nil h, List.flatten_cons, ih, List.take_append_drop]

theorem ne_nil_of_mem_payloads {bytes payload : List UInt8} (h : payload ∈ payloads bytes) :
    payload ≠ [] := by
  induction bytes using payloads.induct with
  | case1 => rw [payloads_nil] at h; cases h
  | case2 bytes hne ih =>
      rw [payloads_of_ne_nil hne] at h
      rcases List.mem_cons.mp h with rfl | hrest
      · intro hnil
        rcases List.take_eq_nil_iff.mp hnil with hzero | hbytes
        · exact absurd hzero (by decide)
        · exact hne hbytes
      · exact ih hrest

theorem delivered_prefix : ∀ (packets : List (List UInt8)) (t : τ),
    (delivered system endpoint packets t).1 <+: packets ∧
      ((delivered system endpoint packets t).2 = none →
        (delivered system endpoint packets t).1 = packets)
  | [], _ => ⟨List.prefix_rfl, fun _ => rfl⟩
  | payload :: rest, t => by
      obtain ⟨hpre, hall⟩ := delivered_prefix rest (system.send endpoint (record payload) t).2
      unfold delivered
      dsimp only
      cases (system.send endpoint (record payload) t).1 with
      | ok u =>
          dsimp only
          refine ⟨List.cons_prefix_cons.mpr ⟨rfl, hpre⟩, fun hnone => ?_⟩
          rw [hall hnone]
      | error e => exact ⟨List.nil_prefix, by rintro ⟨⟩⟩

theorem flatten_length_ne_zero {bytes : List UInt8} {packets : List (List UInt8)}
    (hpre : packets <+: payloads bytes) (h : packets ≠ []) : packets.flatten.length ≠ 0 := by
  obtain ⟨first, rest, rfl⟩ := List.exists_cons_of_ne_nil h
  have hfirst : first ≠ [] := ne_nil_of_mem_payloads (hpre.subset List.mem_cons_self)
  have hpos := List.length_pos_of_ne_nil hfirst
  rw [List.flatten_cons, List.length_append]
  omega

/-! ## The loop

A loop that has committed `front` sends the payloads of `rest`. -/

section Loop

variable {output : NativeOutput η} {front rest : List UInt8} {t t' : τ} {log : List (List UInt8)}

theorem writeTurn_sends {system : StreamSystem η τ} (hrest : rest ≠ []) :
    output.writeTurn system (front ++ rest) front.length t =
      (match system.send output.endpoint (record (rest.take maxPayloadBytes)) t with
      | (.ok (), t') => (.ok (.inl (front.length + (rest.take maxPayloadBytes).length)), t', [])
      | (.error e, t') =>
          (if (sendError e = .wouldBlock || sendError e = .broken) && front.length ≠ 0 then
            .ok (.inr front.length) else .err (sendError e), t', [])) := by
  have hsize : min ((front ++ rest).length - front.length) maxPayloadBytes =
      (rest.take maxPayloadBytes).length := by
    rw [List.length_append, Nat.add_sub_cancel_left, List.length_take, Nat.min_comm]
  have hpacket : rest.take (rest.take maxPayloadBytes).length = rest.take maxPayloadBytes :=
    List.take_eq_take_iff.mpr (by rw [List.length_take, Nat.min_assoc, Nat.min_self])
  have hgoes : front.length ≠ (front ++ rest).length := by
    rw [List.length_append]
    exact Nat.ne_of_lt (Nat.lt_add_of_pos_right (List.length_pos_of_ne_nil hrest))
  obtain ⟨wire, hencode, hwire⟩ := encodeData_wire (List.length_take_le maxPayloadBytes rest)
  unfold writeTurn
  rw [if_neg hgoes, Prog.get_bind_run]
  dsimp only
  rw [hsize, List.drop_left, hpacket, hencode]
  dsimp only
  rw [hwire]
  rcases system.send output.endpoint (record (rest.take maxPayloadBytes)) t with ⟨e | _, t'⟩
  · dsimp only
    split_ifs <;> rfl
  · rfl

theorem loop_stops {system : StreamSystem η τ} {e : NativeError} (hrest : rest ≠ [])
    (hsend : system.send output.endpoint (record (rest.take maxPayloadBytes)) t = (.error e, t'))
    (turns length : Nat) :
    Prog.loop (output.writeTurn system (front ++ rest)) .unfinished (turns + 1) front.length t =
      (ending length front.length (some e), t', []) := by
  have hturn : output.writeTurn system (front ++ rest) front.length t = _ := writeTurn_sends hrest
  rw [hsend] at hturn
  dsimp only at hturn
  unfold ending
  dsimp only
  split_ifs at hturn ⊢
  · exact Prog.loop_break _ hturn _
  · exact Prog.loop_fails hturn _

theorem loop_commits {system : StreamSystem η τ} (hrest : rest ≠ [])
    (hsend : system.send output.endpoint (record (rest.take maxPayloadBytes)) t = (.ok (), t'))
    (turns : Nat) :
    Prog.loop (output.writeTurn system (front ++ rest)) .unfinished (turns + 1) front.length t =
      Prog.loop (output.writeTurn system ((front ++ rest.take maxPayloadBytes) ++
          rest.drop maxPayloadBytes)) .unfinished turns (front ++ rest.take maxPayloadBytes).length
        t' := by
  have hturn : output.writeTurn system (front ++ rest) front.length t = _ := writeTurn_sends hrest
  rw [hsend] at hturn
  have hstep : Prog.Turn (output.writeTurn system (front ++ rest)) (front.length, t)
      (front.length + (rest.take maxPayloadBytes).length, t') := hturn
  refine (Prog.loop_turn hstep turns).trans ?_
  rw [List.append_assoc, List.take_append_drop, List.length_append]

theorem loop_run {turns : Nat} (hturns : rest.length < turns) :
    ∃ t', Prog.loop (output.writeTurn system.recorded (front ++ rest)) .unfinished turns front.length
        (t, log) =
      (ending (front.length + rest.length)
          (front.length + (delivered system output.endpoint (payloads rest) t).1.flatten.length)
          (delivered system output.endpoint (payloads rest) t).2,
        (t', log ++ (delivered system output.endpoint (payloads rest) t).1.map record), []) := by
  obtain ⟨turns, rfl⟩ : ∃ n, turns = n + 1 := ⟨turns - 1, by omega⟩
  induction rest using payloads.induct generalizing front t log turns with
  | case1 =>
      have hturn : output.writeTurn system.recorded (front ++ []) front.length (t, log) =
          (.ok (.inr front.length), (t, log), []) := by
        unfold writeTurn
        rw [List.append_nil, if_pos rfl]
        rfl
      refine ⟨t, (Prog.loop_break _ hturn turns).trans ?_⟩
      rw [payloads_nil, delivered, List.map_nil, List.append_nil]
      rfl
  | case2 rest hrest ih =>
      have hsplit : (rest.take maxPayloadBytes).length + (rest.drop maxPayloadBytes).length =
          rest.length := by rw [← List.length_append, List.take_append_drop]
      have hpos : 0 < (rest.take maxPayloadBytes).length :=
        List.length_pos_of_ne_nil (ne_nil_of_mem_payloads
          (by rw [payloads_of_ne_nil hrest]; exact List.mem_cons_self))
      rw [payloads_of_ne_nil hrest]
      rcases hsend : system.send output.endpoint (record (rest.take maxPayloadBytes)) t with
        ⟨e | _, t'⟩
      · refine ⟨t', (loop_stops hrest (StreamSystem.recorded_error hsend) turns
          (front.length + rest.length)).trans ?_⟩
        rw [delivered, hsend, List.map_nil, List.append_nil]
        rfl
      · obtain ⟨turns, rfl⟩ : ∃ n, turns = n + 1 := ⟨turns - 1, by omega⟩
        obtain ⟨t'', hloop⟩ := @ih (front ++ rest.take maxPayloadBytes) t'
          (log ++ [record (rest.take maxPayloadBytes)]) turns (by omega)
        refine ⟨t'', (loop_commits hrest (StreamSystem.recorded_ok hsend) _).trans
          (hloop.trans ?_)⟩
        rw [delivered, hsend]
        dsimp only
        rw [List.length_append, Nat.add_assoc, hsplit, List.flatten_cons, List.length_append,
          Nat.add_assoc, List.map_cons, List.append_assoc, List.singleton_append]

end Loop

theorem write_run (system : StreamSystem η τ) (output : NativeOutput η) (bytes : List UInt8)
    (t : τ) :
    ∃ t', output.write system.recorded bytes (t, []) =
      (ending bytes.length (delivered system output.endpoint (payloads bytes) t).1.flatten.length
          (delivered system output.endpoint (payloads bytes) t).2,
        (t', (delivered system output.endpoint (payloads bytes) t).1.map record), []) := by
  unfold write
  split_ifs with hempty
  · rw [List.isEmpty_iff.mp hempty, payloads_nil]
    exact ⟨t, rfl⟩
  · obtain ⟨t', hloop⟩ := @loop_run _ _ system output [] bytes t [] _ (Nat.lt_succ_self bytes.length)
    rw [List.length_nil, Nat.zero_add, Nat.zero_add, List.nil_append] at hloop
    exact ⟨t', hloop⟩

theorem honest_ending {bytes : List UInt8} {t : τ} :
    Honest bytes ((delivered system endpoint (payloads bytes) t).1.map record)
        (ending bytes.length (delivered system endpoint (payloads bytes) t).1.flatten.length
          (delivered system endpoint (payloads bytes) t).2) ↔
      ((delivered system endpoint (payloads bytes) t).2 = some .other →
        (delivered system endpoint (payloads bytes) t).1 = []) := by
  obtain ⟨hpre, hall⟩ : _ ∧ ((delivered system endpoint (payloads bytes) t).2 = none → _) :=
    delivered_prefix (payloads bytes) t
  generalize hpackets : (delivered system endpoint (payloads bytes) t).1 = packets at *
  have hfront : packets.flatten <+: bytes := by
    obtain ⟨behind, hbehind⟩ := hpre
    refine ⟨behind.flatten, ?_⟩
    rw [← List.flatten_append, hbehind, flatten_payloads]
  have htaken : packets.flatten = bytes.take packets.flatten.length :=
    List.prefix_iff_eq_take.mp hfront
  have hcount : packets.flatten.length ≤ bytes.length := hfront.length_le
  cases hstop : (delivered system endpoint (payloads bytes) t).2 with
  | none =>
      have hwhole : packets.flatten = bytes := by rw [hall hstop, flatten_payloads]
      refine iff_of_true ⟨Nat.le_refl _, packets, rfl, ?_⟩ (by rintro ⟨⟩)
      rw [hwhole, List.take_length]
  | some e =>
      by_cases hnone : packets = []
      · subst hnone
        refine iff_of_true ?_ fun _ => rfl
        cases e <;> rfl
      · have hsome : packets.flatten.length ≠ 0 := flatten_length_ne_zero hpre hnone
        have hpartial : Honest bytes (packets.map record) (.ok packets.flatten.length) :=
          ⟨hcount, packets, rfl, htaken⟩
        cases e with
        | wouldBlock | peerClosed =>
            refine iff_of_true ?_ (by rintro ⟨⟩)
            rwa [ending, decide_eq_true hsome]
        | other =>
            refine iff_of_false ?_ fun h => hnone (h rfl)
            exact fun h : packets.map record = [] => hnone (List.map_eq_nil_iff.mp h)

/-- The write is honest exactly where no native status of no meaning to a stream stops it behind its
first record. -/
theorem write_honest_iff (system : StreamSystem η τ) (output : NativeOutput η) (bytes : List UInt8)
    (t : τ) :
    Honest bytes (output.write system.recorded bytes (t, [])).2.1.2
        (output.write system.recorded bytes (t, [])).1 ↔
      ((delivered system output.endpoint (payloads bytes) t).2 = some .other →
        (delivered system output.endpoint (payloads bytes) t).1 = []) := by
  obtain ⟨t', hrun⟩ := write_run system output bytes t
  rw [hrun]
  exact honest_ending

/-- The first send is taken, and each one behind it fails with a status of no meaning to a stream. -/
def failing : StreamSystem Unit Bool where
  receive _ _ _ t := (.error .wouldBlock, t)
  send _ _ t := if t then (.ok (), false) else (.error .other, false)
  close _ t := (.ok (), t)

theorem failing_not_honest {bytes : List UInt8} (h : maxPayloadBytes < bytes.length) :
    ¬ Honest bytes ((⟨()⟩ : NativeOutput Unit).write failing.recorded bytes (true, [])).2.1.2
      ((⟨()⟩ : NativeOutput Unit).write failing.recorded bytes (true, [])).1 := by
  obtain ⟨t', hrun⟩ := write_run failing ⟨()⟩ bytes true
  have hbytes : bytes ≠ [] := List.ne_nil_of_length_pos (Nat.zero_lt_of_lt h)
  have hrest : bytes.drop maxPayloadBytes ≠ [] := by
    rw [ne_eq, List.drop_eq_nil_iff]
    exact Nat.not_le.mpr h
  rw [hrun, honest_ending, payloads_of_ne_nil hbytes, payloads_of_ne_nil hrest]
  exact fun hfails => absurd (hfails rfl) (List.cons_ne_nil _ _)

/-- A write of 1025 bytes whose second record fails: the first is committed, and an error comes
back. -/
theorem write_hides_commit :
    ¬ ∀ (system : StreamSystem Unit Bool) (output : NativeOutput Unit) (bytes : List UInt8) (t : Bool),
      Honest bytes (output.write system.recorded bytes (t, [])).2.1.2
        (output.write system.recorded bytes (t, [])).1 := by
  intro h
  have hlong : maxPayloadBytes < (List.replicate 1025 (0 : UInt8)).length := by
    rw [List.length_replicate]
    decide
  generalize List.replicate 1025 (0 : UInt8) = bytes at hlong
  exact failing_not_honest hlong (h failing ⟨()⟩ bytes true)

end NativeOutput

end Wyrmroot.Runtime
