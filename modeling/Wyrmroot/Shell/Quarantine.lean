import Wyrmroot.Lib.Matching
import Wyrmroot.Shell.Decoding

/-!
# Quarantine of pastes and control strings

A paste, or a control string, is a region of the input with its own
terminators. Inside it the decoder is a matcher for the terminator; no
content makes it leave early, and no terminator is missed.
-/

namespace Wyrmroot.Shell

/-- The regions whose content is never text. -/
inductive Region where
  | paste
  | osc
  | dcs
  | apc
  | pm
  | sos
deriving DecidableEq

variable {byte : UInt8}

namespace Region

/-- The bytes that open a region. -/
def opening : Region → List UInt8
  | .paste => [27, 91] ++ pasteStart
  | .osc => [27, 93]
  | .dcs => [27, 80]
  | .apc => [27, 95]
  | .pm => [27, 94]
  | .sos => [27, 88]

/-- The sequence that closes a region. -/
def terminator : Region → List UInt8
  | .paste => pasteEnd
  | _ => [27, 92]

/-- Everything that closes a region: an OSC also ends at a BEL. -/
def closings (region : Region) : List (List UInt8) :=
  if region = .osc then [region.terminator, [7]] else [region.terminator]

/-- The decoder's mode in a region, `matched` bytes into the terminator. -/
def mode (region : Region) (matched : Nat) : Escape :=
  if region = .paste then .paste matched else .string (region == .osc) (matched == 1)

theorem terminator_head (region : Region) :
    ∃ rest, region.terminator = 27 :: rest ∧ 27 ∉ rest ∧ rest ≠ [] := by
  cases region <;> exact ⟨_, rfl, by decide⟩

theorem terminator_plain (region : Region) :
    ∀ byte ∈ region.terminator, byte ≠ 3 ∧ byte ≠ 7 ∧ byte ≠ 10 ∧ byte ≠ 13 := by
  cases region <;> simp [terminator, pasteEnd]

theorem notMem_terminator {region : Region} (h : byte = 10 ∨ byte = 13) :
    byte ∉ region.terminator := by
  intro hmem
  obtain ⟨-, -, h10, h13⟩ := region.terminator_plain byte hmem
  exact h.elim h10 h13

end Region

namespace InputDecoder

/-- The decoder is in a region, `matched` bytes into its terminator. -/
structure Inside (region : Region) (d : InputDecoder) (matched : Nat) : Prop where
  escape : d.escape = region.mode matched
  utf8Len : d.utf8Len = 0
  suppressLf : d.suppressLf = true → matched = 0
  matched : matched < region.terminator.length

/-- An event that edits nothing and runs nothing. -/
def Inert (event : InputEvent) : Prop := event = .none ∨ ∃ error, event = .rejected error

/-- Whether a byte leaves the decoder inside, by the count it is at then. -/
def Follows (region : Region) (next : InputDecoder) (matched : Nat) : Prop :=
  (matched = region.terminator.length → next.isPending = false) ∧
    (matched < region.terminator.length → Inside region next matched)

/-- A carriage return matches nothing, so a line feed it suppresses is no
part of a terminator. -/
theorem advance_of_cr (region : Region) (h : (byte == 13) = true) (matched : Nat) :
    advance region.terminator matched byte = 0 := by
  exact advance_of_notMem (Region.notMem_terminator (.inr (beq_iff_eq.mp h))) matched

variable {d : InputDecoder}

theorem pasteByte_follows {matched : Nat} (hutf8 : d.utf8Len = 0)
    (hlf : d.suppressLf = (byte == 13)) (hmatched : matched < pasteEnd.length) :
    ∃ next, d.pasteByte matched byte = .ok (.none, next) ∧
      Follows .paste next (advance pasteEnd matched byte) := by
  have hnext : (if byte = pasteEnd[matched] then matched + 1 else if byte = 27 then 1 else 0) =
      advance pasteEnd matched byte := by
    have hhead : pasteEnd.head? = some 27 := rfl
    simp only [advance, List.getElem?_eq_getElem hmatched, hhead, Option.some.injEq, eq_comm]
  unfold pasteByte
  rw [List.getElem?_eq_getElem hmatched]
  simp only [hnext]
  split_ifs with hfull
  · refine ⟨_, rfl, fun _ => ?_, fun hlt => absurd hfull (Nat.ne_of_lt hlt)⟩
    simp [isPending, endEscape, hutf8]
  · refine ⟨_, rfl, fun h => absurd h hfull, fun hlt => ⟨rfl, hutf8, fun h => ?_, hlt⟩⟩
    exact advance_of_cr .paste (hlf ▸ h) matched

theorem stringByte_follows {region : Region} {matched : Nat}
    (hregion : region ≠ .paste) (h7 : region = .osc → byte ≠ 7) (hutf8 : d.utf8Len = 0)
    (hlf : d.suppressLf = (byte == 13)) (hmatched : matched < 2) :
    Follows region (d.stringByte (region == .osc) (matched == 1) byte)
      (advance region.terminator matched byte) := by
  have hterminator : region.terminator = [27, 92] := by
    cases region <;> first | rfl | exact absurd rfl hregion
  have hbell : (region == .osc && byte == 7) = false := by
    by_cases hosc : region = .osc
    · simp [h7 hosc]
    · simp [hosc]
  have hcr := fun h : d.suppressLf = true => advance_of_cr region (hlf ▸ h) matched
  have hmode : ∀ m, m < 2 → region.mode m = .string (region == .osc) (m == 1) :=
    fun m _ => if_neg hregion
  have hinside : ∀ m, m < 2 → (d.suppressLf = true → m = 0) →
      Inside region { d with escape := .string (region == .osc) (m == 1) } m := by
    refine fun m hm hsuppressed => ⟨(hmode m hm).symm, hutf8, hsuppressed, ?_⟩
    rw [hterminator]
    exact hm
  rw [hterminator] at hcr ⊢
  unfold stringByte Follows
  rw [hbell, Bool.false_or, hterminator]
  by_cases hlast : matched = 1 ∧ byte = 92
  · obtain ⟨rfl, rfl⟩ := hlast
    exact ⟨fun _ => by simp [isPending, endEscape, hutf8], fun h => absurd h (by decide)⟩
  · have hnext : advance [27, 92] matched byte = if byte = 27 then 1 else 0 := by
      obtain rfl | rfl : matched = 0 ∨ matched = 1 := by omega
      · simp [advance, eq_comm]
      · have h92 : byte ≠ 92 := fun h => hlast ⟨rfl, h⟩
        simp [advance, eq_comm, h92]
    have hstays : (matched == 1 && byte == 92) = false := by simpa using hlast
    rw [hnext] at hcr
    rw [hnext, hstays, if_neg Bool.false_ne_true]
    by_cases hesc : byte = 27
    · rw [if_pos hesc] at hcr ⊢
      rw [beq_iff_eq.mpr hesc]
      exact ⟨fun h => absurd h (by decide), fun _ => hinside 1 (by decide) hcr⟩
    · rw [if_neg hesc] at hcr ⊢
      rw [beq_eq_false_iff_ne.mpr hesc]
      exact ⟨fun h => absurd h (by decide), fun _ => hinside 0 (by decide) hcr⟩

theorem feed_inside {region : Region} {matched : Nat}
    (h : Inside region d matched) (h3 : byte ≠ 3) (h7 : region = .osc → byte ≠ 7) :
    ∃ next, d.feed byte = .ok (.none, next) ∧
      Follows region next (advance region.terminator matched byte) := by
  obtain ⟨hmode, hutf8, hlf, hmatched⟩ := h
  unfold feed
  rw [if_neg h3]
  split_ifs with hsuppressed
  · -- A suppressed line feed comes right after a carriage return, in the middle of nothing.
    rw [Bool.and_eq_true, beq_iff_eq] at hsuppressed
    obtain rfl := hlf hsuppressed.1
    rw [advance_of_notMem (Region.notMem_terminator (.inl hsuppressed.2))]
    refine ⟨_, rfl, fun h => absurd h (Nat.ne_of_lt hmatched), fun _ => ?_⟩
    exact ⟨hmode, hutf8, fun _ => rfl, hmatched⟩
  · by_cases hregion : region = .paste
    · subst hregion
      have hpaste : d.escape = .paste matched := hmode
      simp only [hpaste]
      exact pasteByte_follows hutf8 rfl hmatched
    · have hstring : d.escape = .string (region == .osc) (matched == 1) := by
        rw [hmode, Region.mode, if_neg hregion]
      have htwo : matched < 2 := by
        cases region <;> first | exact hmatched | exact absurd rfl hregion
      simp only [hstring]
      exact ⟨_, rfl, stringByte_follows hregion h7 hutf8 rfl htwo⟩

theorem feed_bell {matched : Nat} (h : Inside .osc d matched) :
    ∃ next, d.feed 7 = .ok (.none, next) ∧ next.isPending = false := by
  have hstring : d.escape = .string true (matched == 1) := h.escape
  have hfeed : d.feed 7 = .ok (.none, { d with suppressLf := false }.endEscape) := by
    simp [feed, hstring, stringByte]
  exact ⟨_, hfeed, by simp [isPending, endEscape, h.utf8Len]⟩

/-! ## Bodies and terminators -/

/-- A run that edits nothing and runs nothing. -/
def Quarantined (d : InputDecoder) (input : List UInt8) (last : InputDecoder) : Prop :=
  ∃ events, d.feedAll input = .ok (events, last) ∧ ∀ event ∈ events, Inert event

theorem Quarantined.append {next last : InputDecoder} {xs ys : List UInt8}
    (hx : Quarantined d xs next) (hy : Quarantined next ys last) :
    Quarantined d (xs ++ ys) last := by
  obtain ⟨events, hrun, hevents⟩ := hx
  obtain ⟨later, hrun', hlater⟩ := hy
  refine ⟨events ++ later, ?_, fun event hevent => ?_⟩
  · rw [feedAll_append, hrun]
    simp only [Outcome.ok_bind, hrun', Outcome.pure_eq]
  · exact (List.mem_append.mp hevent).elim (hevents event) (hlater event)

theorem quarantined_nil (d : InputDecoder) : Quarantined d [] d := ⟨[], rfl, nofun⟩

theorem quarantined_singleton {next : InputDecoder} {event : InputEvent}
    (h : d.feed byte = .ok (event, next)) (hevent : Inert event) :
    Quarantined d [byte] next := by
  refine ⟨[event], ?_, fun e he => List.mem_singleton.mp he ▸ hevent⟩
  simp only [feedAll, h, Outcome.ok_bind, Outcome.pure_eq]

/-- A body without terminators keeps the decoder inside. What the count
says is that the text so far ends in that much of the terminator. -/
theorem quarantined_body {region : Region} {body : List UInt8} (h3 : (3 : UInt8) ∉ body)
    (h7 : region = .osc → (7 : UInt8) ∉ body) :
    ∀ {text : List UInt8} {d : InputDecoder} {matched : Nat}, Inside region d matched →
      region.terminator.take matched <:+ text → ¬ region.terminator <:+: text ++ body →
        ∃ next matched', Quarantined d body next ∧ Inside region next matched' := by
  induction body with
  | nil => exact fun h _ _ => ⟨_, _, quarantined_nil _, h⟩
  | cons byte body ih =>
      intro text d matched h hsuffix hnot
      rw [List.mem_cons, not_or] at h3
      have hbyte := fun hosc => (not_or.mp (mt List.mem_cons.mpr (h7 hosc)))
      obtain ⟨next, hfeed, -, hstays⟩ := feed_inside h (Ne.symm h3.1)
        fun hosc => Ne.symm (hbyte hosc).1
      rw [List.append_cons] at hnot
      have hlt : advance region.terminator matched byte < region.terminator.length :=
        advance_lt h.matched hsuffix fun hin => hnot (hin.trans (List.infix_append' [] _ _))
      obtain ⟨last, matched', hrun, hinside⟩ := ih h3.2 (fun hosc => (hbyte hosc).2) (hstays hlt)
        (take_advance_suffix hsuffix byte) hnot
      exact ⟨last, matched', (quarantined_singleton hfeed (.inl rfl)).append hrun, hinside⟩

theorem quarantined_rest {region : Region} {rest : List UInt8} :
    ∀ {d : InputDecoder} {matched : Nat}, Inside region d matched →
      region.terminator.drop matched = rest →
        ∃ last, Quarantined d rest last ∧ last.isPending = false := by
  induction rest with
  | nil =>
      intro d matched h hdrop
      exact absurd (List.drop_eq_nil_iff.mp hdrop) (Nat.not_le.mpr h.matched)
  | cons byte rest ih =>
      intro d matched h hdrop
      have hbyte : region.terminator[matched]? = some byte := by
        rw [← List.head?_drop, hdrop]
        rfl
      obtain ⟨h3, h7, -⟩ := region.terminator_plain byte (List.mem_of_getElem? hbyte)
      obtain ⟨next, hfeed, hends, hstays⟩ := feed_inside h h3 fun _ => h7
      rw [advance_of_getElem? hbyte] at hends hstays
      have hquiet := quarantined_singleton hfeed (.inl rfl)
      rcases Nat.lt_or_eq_of_le (Nat.succ_le_of_lt h.matched) with hlt | heq
      · have hdrop' : region.terminator.drop (matched + 1) = rest := by
          rw [← List.drop_drop, hdrop]
          rfl
        obtain ⟨last, hrun, hlast⟩ := ih (hstays hlt) hdrop'
        exact ⟨last, hquiet.append hrun, hlast⟩
      · have hrest : rest = [] := by
          have hlen := congrArg List.length hdrop
          rw [List.length_drop, List.length_cons] at hlen
          exact List.eq_nil_of_length_eq_zero (by omega)
        rw [hrest]
        exact ⟨next, hquiet, hends heq⟩

theorem quarantined_terminator {region : Region} {matched : Nat} (h : Inside region d matched) :
    ∃ last, Quarantined d region.terminator last ∧ last.isPending = false := by
  obtain ⟨tail, hterminator, hfirst, htail⟩ := region.terminator_head
  have h3 : (27 : UInt8) ≠ 3 := by decide
  obtain ⟨next, hfeed, -, hstays⟩ := feed_inside h h3 fun _ => by decide
  have hone : advance region.terminator matched 27 = 1 := by
    rw [hterminator]
    exact advance_first hfirst matched
  rw [hone] at hstays
  have hlt : 1 < region.terminator.length := by
    rw [hterminator, List.length_cons]
    exact Nat.succ_lt_succ (List.length_pos_of_ne_nil htail)
  have hdrop : region.terminator.drop 1 = tail := by rw [hterminator]; rfl
  obtain ⟨last, hrun, hlast⟩ := quarantined_rest (hstays hlt) hdrop
  refine ⟨last, ?_, hlast⟩
  rw [hterminator]
  exact (quarantined_singleton hfeed (.inl rfl)).append hrun

/-! ## Openings -/

theorem feed_escape (hd : d.isPending = false) :
    d.feed 27 = .ok (.none, { d with suppressLf := false }.beginEscape) := by
  have hidle : d.utf8Len = 0 ∧ d.escape = .none := by simpa [isPending] using hd
  simp [feed, hidle, groundByte]

/-- No Ctrl-C, no end of line, no escape. -/
def Plain (byte : UInt8) : Prop := byte ≠ 3 ∧ byte ≠ 10 ∧ byte ≠ 13 ∧ byte ≠ 27

instance (byte : UInt8) : Decidable (Plain byte) := inferInstanceAs (Decidable (_ ∧ _))

theorem feed_start {d : InputDecoder} {byte : UInt8} (hstart : d.escape = .start)
    (hlen : d.escapeLen = 1) (hplain : Plain byte) :
    d.feed byte = .ok ({ d with suppressLf := false, escapeBytes := d.escapeBytes.set 1 byte,
                                escapeLen := 2 }.startByte byte) := by
  obtain ⟨h3, h10, h13, h27⟩ := hplain
  have hcr : (byte == 13) = false := beq_eq_false_iff_ne.mpr h13
  simp [feed, h3, h10, h13, h27, hcr, hstart, hlen, escapeByte, collectByte, storeByte]

/-- A control sequence whose bytes so far are `bytes`. -/
structure Collected (d : InputDecoder) (bytes : List UInt8) : Prop where
  escape : d.escape = .csi
  utf8Len : d.utf8Len = 0
  escapeLen : d.escapeLen = bytes.length
  kept : d.escapeBytes.toList.take d.escapeLen = bytes

theorem Collected.feed_eq {bytes : List UInt8}
    (h : Collected d bytes) (hroom : d.escapeLen < 12) (hplain : Plain byte) :
    d.feed byte = { d with suppressLf := false,
                           escapeBytes := d.escapeBytes.set d.escapeLen byte hroom,
                           escapeLen := d.escapeLen + 1 }.csiByte byte := by
  obtain ⟨h3, h10, h13, h27⟩ := hplain
  have hfull : d.escapeLen ≠ 12 := Nat.ne_of_lt hroom
  have hcr : (byte == 13) = false := beq_eq_false_iff_ne.mpr h13
  simp [feed, h3, h10, h13, h27, hcr, h.escape, escapeByte, collectByte, storeByte, hroom, hfull]

theorem Collected.feed_parameter {bytes : List UInt8}
    (h : Collected d bytes) (hroom : bytes.length < 12) (hbyte : within 0x20 0x3f byte = true)
    (hplain : Plain byte) :
    ∃ next, d.feed byte = .ok (.none, next) ∧ Collected next (bytes ++ [byte]) := by
  rw [← h.escapeLen] at hroom
  have hstored := take_set_succ d.escapeBytes hroom byte
  rw [h.kept] at hstored
  have hfinal : within 0x40 0x7e byte = false := by
    rw [← Bool.not_eq_true, within_eq_true]
    exact fun hin => absurd (Nat.le_trans hin.1 (within_eq_true.mp hbyte).2) (by decide)
  rw [h.feed_eq hroom hplain, csiByte, if_neg (by rw [hfinal]; exact Bool.false_ne_true),
    if_pos hbyte]
  refine ⟨_, rfl, h.escape, h.utf8Len, ?_, hstored⟩
  simp [h.escapeLen]

theorem Collected.feed_tilde (h : Collected d [27, 91, 50, 48, 48]) :
    ∃ next, d.feed 126 = .ok (.rejected .unsupportedEscape, next) ∧ Inside .paste next 0 := by
  have hlen : d.escapeLen = 5 := h.escapeLen
  have hroom : d.escapeLen < 12 := by omega
  have hstored := take_set_succ d.escapeBytes hroom 126
  rw [h.kept] at hstored
  have hslice : 2 ≤ d.escapeLen + 1 ∧ d.escapeLen + 1 ≤ 12 := by omega
  rw [h.feed_eq hroom (by decide), csiByte, if_pos (by decide)]
  simp only [sliceOf, if_pos hslice, hstored, Outcome.ok_bind]
  exact ⟨_, rfl, rfl, h.utf8Len, by rintro ⟨⟩, by decide⟩

theorem quarantined_pasteStart (h : Collected d [27, 91]) :
    ∃ next, Quarantined d pasteStart next ∧ Inside .paste next 0 := by
  have h50 : Plain 50 := by decide
  have h48 : Plain 48 := by decide
  obtain ⟨d1, hfeed1, h1⟩ := h.feed_parameter (by decide) rfl h50
  obtain ⟨d2, hfeed2, h2⟩ := h1.feed_parameter (by decide) rfl h48
  obtain ⟨d3, hfeed3, h3⟩ := h2.feed_parameter (by decide) rfl h48
  obtain ⟨next, hfeed, hnext⟩ := h3.feed_tilde
  refine ⟨next, ?_, hnext⟩
  have hparameters := ((quarantined_singleton hfeed1 (.inl rfl)).append
    (quarantined_singleton hfeed2 (.inl rfl))).append (quarantined_singleton hfeed3 (.inl rfl))
  exact hparameters.append (quarantined_singleton hfeed (.inr ⟨_, rfl⟩))

theorem quarantined_opening (region : Region) (hd : d.isPending = false) :
    ∃ next, Quarantined d region.opening next ∧ Inside region next 0 := by
  have hidle : d.utf8Len = 0 ∧ d.escape = .none := by simpa [isPending] using hd
  have hescape := quarantined_singleton (feed_escape hd) (.inl rfl)
  have hstart := fun byte (hplain : Plain byte) =>
    @feed_start ({ d with suppressLf := false }.beginEscape) byte rfl rfl hplain
  -- The introducer of a control string takes the decoder inside at once.
  have hstring : ∀ byte, Plain byte → opensString byte = true → byte ≠ 91 → byte ≠ 79 →
      ∃ next, Quarantined d [27, byte] next ∧ next.escape = .string (byte == 93) false ∧
        next.utf8Len = 0 ∧ next.suppressLf = false := by
    intro byte hplain hopens h91 h79
    have hfeed := hstart byte hplain
    rw [startByte, if_neg h91, if_neg h79, if_pos hopens] at hfeed
    exact ⟨_, hescape.append (quarantined_singleton hfeed (.inr ⟨_, rfl⟩)), rfl, hidle.1, rfl⟩
  have hregion : region ≠ .paste → ∀ byte, region.opening = [27, byte] → Plain byte →
      opensString byte = true → byte ≠ 91 → byte ≠ 79 → (byte == 93) = (region == .osc) →
        ∃ next, Quarantined d region.opening next ∧ Inside region next 0 := by
    intro hpaste byte hopening hplain hopens h91 h79 hosc
    obtain ⟨next, hrun, hmode, hutf8, hlf⟩ := hstring byte hplain hopens h91 h79
    obtain ⟨rest, hterminator, -, -⟩ := region.terminator_head
    refine ⟨next, hopening ▸ hrun, ?_, hutf8, fun _ => rfl, ?_⟩
    · rw [hmode, hosc, Region.mode, if_neg hpaste]
      rfl
    · rw [hterminator]
      exact Nat.succ_pos _
  cases region with
  | paste =>
      have hcsi := quarantined_singleton (hstart 91 (by decide)) (.inl rfl)
      have hone := take_set_succ d.escapeBytes (by decide : 0 < 12) 27
      have htwo := take_set_succ (d.escapeBytes.set 0 27) (by decide : 1 < 12) 91
      rw [hone] at htwo
      have hopen : ∀ csi, Quarantined d [27, 91] csi → Collected csi [27, 91] →
          ∃ next, Quarantined d Region.paste.opening next ∧ Inside .paste next 0 := by
        intro csi hcsi hcollected
        obtain ⟨next, hrun, hnext⟩ := quarantined_pasteStart hcollected
        exact ⟨next, hcsi.append hrun, hnext⟩
      exact hopen _ (hescape.append hcsi) ⟨rfl, hidle.1, rfl, htwo⟩
  | osc => exact hregion (by decide) 93 rfl (by decide) rfl (by decide) (by decide) rfl
  | dcs => exact hregion (by decide) 80 rfl (by decide) rfl (by decide) (by decide) rfl
  | apc => exact hregion (by decide) 95 rfl (by decide) rfl (by decide) (by decide) rfl
  | pm => exact hregion (by decide) 94 rfl (by decide) rfl (by decide) (by decide) rfl
  | sos => exact hregion (by decide) 88 rfl (by decide) rfl (by decide) (by decide) rfl

end InputDecoder

open InputDecoder

/-- Quarantine: a paste or a control string, whatever its content short of
a Ctrl-C or a terminator of its own, edits nothing and runs nothing, and
leaves nothing pending. -/
theorem quarantine (region : Region) (body closing : List UInt8) (d : InputDecoder)
    (hd : d.isPending = false) (hclosing : closing ∈ region.closings)
    (hcancel : (3 : UInt8) ∉ body) (hbody : ∀ c ∈ region.closings, ¬ c <:+: body) :
    ∃ events last, d.feedAll (region.opening ++ body ++ closing) = .ok (events, last) ∧
      (∀ event ∈ events, event = .none ∨ ∃ error, event = .rejected error) ∧
      last.isPending = false := by
  have hterminator : ¬ region.terminator <:+: body := by
    refine hbody _ ?_
    cases region <;> simp [Region.closings]
  have hbell : region = .osc → (7 : UInt8) ∉ body := by
    rintro rfl hmem
    obtain ⟨before, after, rfl⟩ := List.append_of_mem hmem
    exact hbody [7] (by decide) ⟨before, after, by simp⟩
  obtain ⟨d1, hopening, hinside⟩ := quarantined_opening region hd
  obtain ⟨d2, matched, hrun, hinside'⟩ := quarantined_body hcancel hbell hinside
    (List.nil_suffix (l := [])) hterminator
  have hlast : ∃ last, Quarantined d2 closing last ∧ last.isPending = false := by
    by_cases hosc : closing = region.terminator
    · rw [hosc]
      exact quarantined_terminator hinside'
    · have hseven : region = .osc ∧ closing = [7] := by
        cases region <;> simp_all [Region.closings]
      obtain ⟨rfl, rfl⟩ := hseven
      obtain ⟨last, hfeed, hlast⟩ := feed_bell hinside'
      exact ⟨last, quarantined_singleton hfeed (.inl rfl), hlast⟩
  obtain ⟨last, hclose, hpending⟩ := hlast
  obtain ⟨events, hall, hinert⟩ := (hopening.append hrun).append hclose
  exact ⟨events, last, hall, hinert, hpending⟩

/-- A paste of a line that would otherwise be run. -/
theorem quarantine_pastedLine : ∃ events last,
    new.feedAll (Region.paste.opening ++ [108, 115, 13, 10, 27, 91] ++ pasteEnd) =
      .ok (events, last) ∧
    (∀ event ∈ events, event = .none ∨ ∃ error, event = .rejected error) ∧
    last.isPending = false :=
  quarantine .paste [108, 115, 13, 10, 27, 91] pasteEnd new rfl (by decide) (by decide) (by decide)

end Wyrmroot.Shell
