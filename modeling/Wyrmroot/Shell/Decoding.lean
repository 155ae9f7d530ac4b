import Wyrmroot.Shell.Input

/-!
# What the terminal decoder reads

`Sound` is the invariant of a decoder: at most one of its two accumulators
is in use, and every index is in range, so that no byte makes it panic.
`Taken` says what one byte can do: it is quiet, it extends the UTF-8
sequence that is pending, or it completes an insertion. A run then gives
every insertion its place in the input.
-/

namespace Wyrmroot.Shell

/-- The escape bytes that are kept in a mode. -/
def Escape.Holds : Escape → Nat → Prop
  | .none, len => len = 0
  | .start, len => len = 1
  | .csi, len => 2 ≤ len ∧ len ≤ 12
  | .paste matched, len => matched < pasteEnd.length ∧ len = 0
  | _, len => len ≤ 12

theorem Escape.Holds.le_twelve {e : Escape} {len : Nat} (h : e.Holds len) : len ≤ 12 := by
  cases e <;> simp only [Holds] at h <;> omega

namespace InputDecoder

/-- The bytes of the sequence that is not complete yet. -/
def pending (self : InputDecoder) : List UInt8 := self.utf8.toList.take self.utf8Len

/-- The invariant of a decoder. -/
structure Sound (d : InputDecoder) : Prop where
  escape : d.escape.Holds d.escapeLen
  idle : d.utf8Len ≠ 0 → d.escape = .none ∧ d.suppressLf = false
  partway : d.utf8Len ≠ 0 → d.utf8Len < d.utf8Need
  lead : d.utf8Len ≠ 0 → ∃ lead, d.utf8.toList.head? = some lead ∧ 0xc2 ≤ lead ∧
    d.utf8Need = utf8NeedOf lead

theorem utf8NeedOf_le (lead : UInt8) : utf8NeedOf lead ≤ 4 := by
  unfold utf8NeedOf
  split_ifs <;> omega

theorem two_le_utf8NeedOf (lead : UInt8) : 2 ≤ utf8NeedOf lead := by
  unfold utf8NeedOf
  split_ifs <;> omega

theorem Sound.utf8Len_lt {d : InputDecoder} (hd : d.Sound) : d.utf8Len < 4 := by
  by_cases h : d.utf8Len = 0
  · omega
  · obtain ⟨lead, -, -, hneed⟩ := hd.lead h
    have hlt := hd.partway h
    have hle := utf8NeedOf_le lead
    omega

theorem Sound.length_pending {d : InputDecoder} (hd : d.Sound) : d.pending.length = d.utf8Len := by
  have hlt := hd.utf8Len_lt
  simp [pending]
  omega

theorem sound_new : new.Sound where
  escape := rfl
  idle h := absurd rfl h
  partway h := absurd rfl h
  lead h := absurd rfl h

theorem sound_of_escape {d : InputDecoder} (h : d.escape.Holds d.escapeLen) (hlen : d.utf8Len = 0) :
    d.Sound where
  escape := h
  idle hne := absurd hlen hne
  partway hne := absurd hlen hne
  lead hne := absurd hlen hne

theorem Sound.utf8Len_of_escape {d : InputDecoder} (hd : d.Sound) (h : d.escape ≠ .none) :
    d.utf8Len = 0 :=
  Decidable.by_contra fun hne => h (hd.idle hne).1

/-! ## What one byte does -/

/-- The effect of a byte on the text. -/
inductive Taken (d : InputDecoder) (byte : UInt8) : InputEvent → InputDecoder → Prop
  | quiet {event : InputEvent} {next : InputDecoder} (hevent : ∀ ch, event ≠ .insert ch)
      (hnext : next.utf8Len = 0) : Taken d byte event next
  | extended {next : InputDecoder} (hopen : d.escape = .none)
      (hnext : next.pending = d.pending ++ [byte]) : Taken d byte .none next
  | inserted {ch : Char} {next : InputDecoder} (hopen : d.escape = .none)
      (hch : isPrintableScalar ch = true)
      (hspelled : d.pending ++ [byte] = String.utf8EncodeChar ch ∨
        d.pending ++ [byte] = [9] ∧ ch = ' ')
      (hnext : next.utf8Len = 0) : Taken d byte (.insert ch) next

/-- A step that shows no text and keeps the decoder sound. -/
def Quiet (result : InputEvent × InputDecoder) : Prop :=
  (∀ ch, result.1 ≠ .insert ch) ∧ result.2.utf8Len = 0 ∧
    result.2.escape.Holds result.2.escapeLen

/-- A step that is sound and does what `Taken` allows. -/
def Reads (d : InputDecoder) (byte : UInt8) (step : Step) : Prop :=
  ∃ event next, step = .ok (event, next) ∧ next.Sound ∧ Taken d byte event next

variable {byte : UInt8}

theorem reads_of_quiet {d : InputDecoder} {result : InputEvent × InputDecoder}
    (h : Quiet result) : Reads d byte (.ok result) :=
  ⟨result.1, result.2, rfl, sound_of_escape h.2.2 h.2.1, .quiet h.1 h.2.1⟩

/-! ## Escapes -/

section Escapes

variable {d : InputDecoder} (hutf8 : d.utf8Len = 0) (hlen : d.escapeLen ≤ 12)

include hutf8 hlen

theorem quiet_discardStart (he : d.escape = .discardStart) (byte : UInt8) :
    Quiet (.none, d.discardStart byte) := by
  unfold discardStart
  split_ifs <;> simp [Quiet, Escape.Holds, endEscape, he, hlen, hutf8]

theorem quiet_discardNestedCsi (pasteMatched byte : UInt8) :
    Quiet (.none, d.discardNestedCsi pasteMatched byte) := by
  unfold discardNestedCsi
  simp only
  generalize (if pasteStart[pasteMatched.toNat]? = some byte then pasteMatched + 1 else 255) = next
  split_ifs <;> simp [Quiet, Escape.Holds, endEscape, pasteEnd, hlen, hutf8]

theorem quiet_discardIntermediate (he : d.escape = .discardIntermediate) (byte : UInt8) :
    Quiet (.none, d.discardIntermediate byte) := by
  unfold discardIntermediate
  split_ifs <;> simp [Quiet, Escape.Holds, endEscape, he, hlen, hutf8]

theorem quiet_discardFinal (he : d.escape = .discardCsi ∨ d.escape = .discardSs3) (byte : UInt8) :
    Quiet (.none, d.discardFinal byte) := by
  unfold discardFinal
  rcases he with he | he
  all_goals split_ifs <;> simp [Quiet, Escape.Holds, endEscape, he, hlen, hutf8]

theorem quiet_stringByte (osc escaped : Bool) (byte : UInt8) :
    Quiet (.none, d.stringByte osc escaped byte) := by
  unfold stringByte
  split_ifs <;> simp [Quiet, Escape.Holds, endEscape, hlen, hutf8]

end Escapes

theorem quiet_escapeTooLong {d : InputDecoder} (hutf8 : d.utf8Len = 0) (byte : UInt8) :
    Quiet (d.escapeTooLong byte) := by
  unfold escapeTooLong
  split_ifs <;> simp [Quiet, Escape.Holds, endEscape, hutf8]

theorem quiet_startByte {d : InputDecoder} (hutf8 : d.utf8Len = 0) (htwo : d.escapeLen = 2)
    (byte : UInt8) : Quiet (d.startByte byte) := by
  unfold startByte
  split_ifs <;> simp [Quiet, Escape.Holds, endEscape, htwo, hutf8]

theorem quiet_intermediateByte {d : InputDecoder} (hutf8 : d.utf8Len = 0) (hlen : d.escapeLen ≤ 12)
    (he : d.escape = .intermediate) (byte : UInt8) : Quiet (d.intermediateByte byte) := by
  unfold intermediateByte
  split_ifs <;> simp [Quiet, Escape.Holds, endEscape, he, hlen, hutf8]

theorem quiet_beginEscape {d : InputDecoder} (hutf8 : d.utf8Len = 0) {event : InputEvent}
    (hevent : ∀ ch, event ≠ .insert ch) :
    Quiet (event, d.beginEscape) := by
  simpa [Quiet, Escape.Holds, beginEscape, hutf8] using hevent

theorem csiEvent_ne_insert (sequence : List UInt8) (ch : Char) :
    csiEvent sequence ≠ .insert ch := by
  unfold csiEvent
  split_ifs <;> exact nofun

theorem csiByte_quiet {d : InputDecoder} (hutf8 : d.utf8Len = 0) (hcsi : d.escape = .csi)
    (htwo : 2 ≤ d.escapeLen) (hlen : d.escapeLen ≤ 12) (byte : UInt8) :
    ∃ result, d.csiByte byte = .ok result ∧ Quiet result := by
  unfold csiByte sliceOf
  split_ifs with hfinal hslice hrest
  · rw [Outcome.ok_bind]
    split_ifs
    · exact ⟨_, rfl, csiEvent_ne_insert _, hutf8, by simp [Escape.Holds, endEscape, pasteEnd]⟩
    · exact ⟨_, rfl, csiEvent_ne_insert _, hutf8, by simp [Escape.Holds, endEscape]⟩
  · exact absurd ⟨htwo, hlen⟩ hslice
  · exact ⟨_, rfl, nofun, hutf8, by simp [hcsi, Escape.Holds, htwo, hlen]⟩
  · exact ⟨_, rfl, nofun, hutf8, by simp [Escape.Holds]⟩

theorem collectByte_quiet {d : InputDecoder} (hutf8 : d.utf8Len = 0)
    (hescape : d.escape.Holds d.escapeLen)
    (hmode : d.escape = .start ∨ d.escape = .intermediate ∨ d.escape = .csi) (byte : UInt8) :
    ∃ result, d.collectByte byte = .ok result ∧ Quiet result := by
  have hlen := hescape.le_twelve
  unfold collectByte
  split_ifs with hesc hfull
  · exact ⟨_, rfl, quiet_beginEscape hutf8 nofun⟩
  · exact ⟨_, rfl, quiet_escapeTooLong hutf8 byte⟩
  · have hroom : d.escapeLen < 12 := by omega
    rw [storeByte, dif_pos hroom, Outcome.ok_bind]
    rcases hmode with he | he | he
    all_goals simp only [he] at hescape ⊢
    · have hone : d.escapeLen = 1 := hescape
      refine ⟨_, rfl, quiet_startByte ?_ ?_ byte⟩
      · exact hutf8
      · exact congrArg (· + 1) hone
    · refine ⟨_, rfl, quiet_intermediateByte ?_ ?_ ?_ byte⟩
      · exact hutf8
      · exact hroom
      · rfl
    · refine csiByte_quiet ?_ ?_ ?_ ?_ byte
      · exact hutf8
      · rfl
      · exact Nat.le_succ_of_le hescape.1
      · exact hroom

theorem escapeByte_quiet {d : InputDecoder} (hutf8 : d.utf8Len = 0)
    (hescape : d.escape.Holds d.escapeLen) (hopen : d.escape ≠ .none)
    (hstring : ∀ osc escaped, d.escape ≠ .string osc escaped)
    (hpaste : ∀ matched, d.escape ≠ .paste matched) (byte : UInt8) :
    ∃ result, d.escapeByte byte = .ok result ∧ Quiet result := by
  have hlen := hescape.le_twelve
  unfold escapeByte
  cases he : d.escape with
  | none => exact absurd he hopen
  | start => exact collectByte_quiet hutf8 hescape (.inl he) byte
  | intermediate => exact collectByte_quiet hutf8 hescape (.inr (.inl he)) byte
  | csi => exact collectByte_quiet hutf8 hescape (.inr (.inr he)) byte
  | discardStart => exact ⟨_, rfl, quiet_discardStart hutf8 hlen he byte⟩
  | discardIntermediate => exact ⟨_, rfl, quiet_discardIntermediate hutf8 hlen he byte⟩
  | discardCsi => exact ⟨_, rfl, quiet_discardFinal hutf8 hlen (.inl he) byte⟩
  | discardNestedCsi pasteMatched =>
      exact ⟨_, rfl, quiet_discardNestedCsi hutf8 hlen pasteMatched byte⟩
  | discardSs3 => exact ⟨_, rfl, quiet_discardFinal hutf8 hlen (.inr he) byte⟩
  | string osc escaped => exact absurd he (hstring osc escaped)
  | paste matched => exact absurd he (hpaste matched)

theorem pasteByte_quiet {d : InputDecoder} {matched : Nat} (hutf8 : d.utf8Len = 0)
    (hmatched : matched < pasteEnd.length) (hlen : d.escapeLen = 0) (byte : UInt8) :
    ∃ result, d.pasteByte matched byte = .ok result ∧ Quiet result := by
  unfold pasteByte
  rw [List.getElem?_eq_getElem hmatched]
  simp only
  generalize hcount : (if byte = pasteEnd[matched] then matched + 1 else if byte = 27 then 1 else 0)
    = next
  have hle : next ≤ pasteEnd.length := by
    rw [← hcount]
    split_ifs
    · exact hmatched
    · exact Nat.succ_le_of_lt (by decide)
    · exact Nat.zero_le _
  split_ifs with hlast
  · exact ⟨_, rfl, nofun, hutf8, rfl⟩
  · exact ⟨_, rfl, nofun, hutf8, Nat.lt_of_le_of_ne hle hlast, hlen⟩

/-! ## Text -/

variable {ch : Char}

theorem firstScalar_sound {bytes : List UInt8} {lead : UInt8}
    (h : firstScalar bytes = some ch) (hhead : bytes.head? = some lead) (hlead : 0xc2 ≤ lead)
    (hlen : bytes.length = utf8NeedOf lead) : bytes = String.utf8EncodeChar ch := by
  obtain ⟨text, htext, hfirst⟩ := Option.bind_eq_some_iff.mp h
  obtain ⟨rest, hrest⟩ := List.head?_eq_some_iff.mp hfirst
  have hbytes := fromUtf8_eq_some.mp htext
  rw [utf8_eq_flatMap, hrest, List.flatMap_cons] at hbytes
  rcases Nat.lt_or_ge 0x7f ch.toNat with hwide | hascii
  · obtain ⟨first, tail, henc, -, -, hcount, -⟩ := utf8EncodeChar_multibyte hwide
    rw [henc] at hbytes
    obtain rfl : first = lead := by
      rw [← hbytes] at hhead
      exact Option.some.inj hhead
    have hrestnil : rest.flatMap String.utf8EncodeChar = [] := by
      apply List.eq_nil_of_length_eq_zero
      have hcong := congrArg List.length hbytes
      simp only [List.cons_append, List.length_cons, List.length_append, hlen, utf8NeedOf] at hcong
      rcases hcount with ⟨hlt, hn⟩ | ⟨⟨hge, hlt⟩, hn⟩ | ⟨hge, hn⟩
      all_goals simp only [UInt8.le_iff_toNat_le, UInt8.lt_iff_toNat_lt] at *
      all_goals split_ifs at hcong <;> omega
    rw [← hbytes, hrestnil, List.append_nil, henc]
  · rw [utf8EncodeChar_ascii hascii] at hbytes
    have heq : UInt8.ofNat ch.toNat = lead := by
      rw [← hbytes] at hhead
      exact Option.some.inj hhead
    rw [← heq, UInt8.le_iff_toNat_le] at hlead
    simp at hlead
    omega

theorem pending_of_utf8Len {d : InputDecoder} (h : d.utf8Len = 0) : d.pending = [] := by
  rw [pending, h, List.take_zero]

theorem take_set_succ {n : Nat} (array : Vector UInt8 n) {index : Nat} (h : index < n)
    (byte : UInt8) :
    (array.set index byte h).toList.take (index + 1) = array.toList.take index ++ [byte] := by
  have hlen : index < array.toList.length := by simpa using h
  rw [Vector.toList_set, List.take_add_one, List.take_set_of_le (Nat.le_refl index),
    List.getElem?_set_self hlen, Option.toList_some]

theorem continuationByte_reads {d : InputDecoder} (hopen : d.escape = .none)
    (hlf : d.suppressLf = false) (hescape : d.escapeLen = 0) (hpartway : d.utf8Len < d.utf8Need)
    (hne : d.utf8Len ≠ 0) {lead : UInt8} (hhead : d.utf8.toList.head? = some lead)
    (hlead : 0xc2 ≤ lead) (hneed : d.utf8Need = utf8NeedOf lead) (byte : UInt8) :
    Reads d byte (d.continuationByte byte) := by
  have hroom : d.utf8Len < 4 := by
    have hle := utf8NeedOf_le lead
    omega
  have hholds : d.escape.Holds d.escapeLen := by rw [hopen, hescape]; rfl
  unfold continuationByte
  split_ifs with htail hesc
  · rw [storeByte, dif_pos hroom, Outcome.ok_bind]
    have hstored := take_set_succ d.utf8 hroom byte
    have hfirst : (d.utf8.set d.utf8Len byte hroom).toList.head? = some lead := by
      rw [Vector.toList_set, List.head?_eq_getElem?, List.getElem?_set_ne hne,
        ← List.head?_eq_getElem?, hhead]
    simp only
    split_ifs with hmore
    · refine ⟨_, _, rfl, ⟨hholds, fun _ => ⟨hopen, hlf⟩, fun _ => ?_, fun _ => ?_⟩, ?_⟩
      · exact Nat.lt_of_le_of_ne hpartway hmore
      · exact ⟨lead, hfirst, hlead, hneed⟩
      · exact .extended hopen hstored
    · rw [sliceOf, if_pos ⟨Nat.zero_le _, hroom⟩, Outcome.ok_bind, List.drop_zero, hstored]
      have hquiet : ∀ event : InputEvent, (∀ ch, event ≠ .insert ch) → Reads d byte (.ok (event,
          { d with utf8 := d.utf8.set d.utf8Len byte hroom, utf8Len := 0, utf8Need := 0 })) :=
        fun event hevent => reads_of_quiet ⟨hevent, rfl, hholds⟩
      cases hscalar : firstScalar (d.utf8.toList.take d.utf8Len ++ [byte]) with
      | none => exact hquiet _ nofun
      | some ch =>
          simp only
          split_ifs with hch
          · have hhead' : (d.utf8.toList.take d.utf8Len ++ [byte]).head? = some lead := by
              rw [← hstored, List.head?_take, if_neg (Nat.succ_ne_zero _), hfirst]
            have hlen : (d.utf8.toList.take d.utf8Len ++ [byte]).length = utf8NeedOf lead := by
              rw [← hstored, List.length_take, Vector.length_toList]
              omega
            have hspelled := firstScalar_sound hscalar hhead' hlead hlen
            exact ⟨_, _, rfl, sound_of_escape hholds rfl, .inserted hopen hch (.inl hspelled) rfl⟩
          · exact hquiet _ nofun
  · exact reads_of_quiet (quiet_beginEscape rfl nofun)
  · exact reads_of_quiet ⟨nofun, rfl, hholds⟩

theorem within_eq_true {first last : UInt8} :
    within first last byte = true ↔ first.toNat ≤ byte.toNat ∧ byte.toNat ≤ last.toNat := by
  simp [within, UInt8.le_iff_toNat_le]

theorem isPrintableScalar_ascii (hlow : 0x20 ≤ ch.toNat) (hhigh : ch.toNat ≤ 0x7e) :
    isPrintableScalar ch = true := by
  have hcontrol : isControl ch = false := by
    simp [isControl]
    omega
  have hformat : isFormatOrLineSeparator ch = false := by
    simp [isFormatOrLineSeparator]
    omega
  simp [isPrintableScalar, hcontrol, hformat]

theorem toNat_ofNat_byte (byte : UInt8) : (Char.ofNat byte.toNat).toNat = byte.toNat := by
  have hvalid : byte.toNat.isValidChar := .inl (Nat.lt_trans byte.toNat_lt (by decide))
  rw [Char.toNat, Char.ofNat, dif_pos hvalid]
  rfl

theorem groundByte_reads {d : InputDecoder} (hopen : d.escape = .none)
    (hlf : byte ≠ 13 → d.suppressLf = false) (hescape : d.escapeLen = 0) (hutf8 : d.utf8Len = 0) :
    Reads d byte (.ok (d.groundByte byte)) := by
  have hholds : d.escape.Holds d.escapeLen := by rw [hopen, hescape]; rfl
  have hpending := pending_of_utf8Len hutf8
  unfold groundByte
  split_ifs with hesc hback heof hsubmit htab hascii hlead hcontrol
  · exact reads_of_quiet (quiet_beginEscape hutf8 nofun)
  · exact reads_of_quiet ⟨nofun, hutf8, hholds⟩
  · exact reads_of_quiet ⟨nofun, hutf8, hholds⟩
  · exact reads_of_quiet ⟨nofun, hutf8, hholds⟩
  · refine ⟨_, _, rfl, sound_of_escape hholds hutf8, .inserted hopen (by decide) (.inr ?_) hutf8⟩
    simp [hpending, htab]
  · obtain ⟨hlow, hhigh⟩ := within_eq_true.mp hascii
    have hch := toNat_ofNat_byte byte
    refine ⟨_, _, rfl, sound_of_escape hholds hutf8, .inserted hopen ?_ (.inl ?_) hutf8⟩
    · exact isPrintableScalar_ascii (hch.symm ▸ hlow) (hch.symm ▸ hhigh)
    · rw [utf8EncodeChar_ascii (hch.symm ▸ Nat.le_succ_of_le hhigh), hch, UInt8.ofNat_toNat, hpending]
      rfl
  · obtain ⟨hlow, hhigh⟩ := within_eq_true.mp hlead
    refine ⟨_, _, rfl, ⟨hholds, fun _ => ⟨hopen, hlf ?_⟩, fun _ => ?_, fun _ => ?_⟩, ?_⟩
    · rintro rfl
      exact absurd hlow (by decide)
    · exact two_le_utf8NeedOf byte
    · refine ⟨byte, ?_, UInt8.le_iff_toNat_le.mpr hlow, rfl⟩
      simp [Vector.toList_set, List.head?_eq_getElem?]
    · refine .extended hopen ?_
      rw [hpending]
      exact take_set_succ d.utf8 (by decide) byte
  · exact reads_of_quiet ⟨nofun, hutf8, hholds⟩
  · exact reads_of_quiet ⟨nofun, hutf8, hholds⟩

/-! ## One byte, and then all of them -/

theorem Taken.of_suppressLf {d next : InputDecoder} {b : Bool} {event : InputEvent}
    (h : Taken { d with suppressLf := b } byte event next) : Taken d byte event next := by
  cases h with
  | quiet hevent hnext => exact .quiet hevent hnext
  | extended hopen hnext => exact .extended hopen hnext
  | inserted hopen hch hspelled hnext => exact .inserted hopen hch hspelled hnext

theorem Reads.of_suppressLf {d : InputDecoder} {b : Bool} {step : Step}
    (h : Reads { d with suppressLf := b } byte step) : Reads d byte step := by
  obtain ⟨event, next, hstep, hsound, htaken⟩ := h
  exact ⟨event, next, hstep, hsound, htaken.of_suppressLf⟩

theorem reads_of_quiet_step {d : InputDecoder} {step : Step}
    (h : ∃ result, step = .ok result ∧ Quiet result) : Reads d byte step := by
  obtain ⟨result, rfl, hquiet⟩ := h
  exact reads_of_quiet hquiet

/-- The step lemma: no byte makes a sound decoder panic. -/
theorem feed_reads {d : InputDecoder} (hd : d.Sound) (byte : UInt8) :
    Reads d byte (d.feed byte) := by
  have hescape := hd.escape
  unfold feed
  split_ifs with hcancel hsuppressed
  · exact reads_of_quiet ⟨nofun, rfl, rfl⟩
  · have hlf : d.suppressLf = true := by
      rw [Bool.and_eq_true] at hsuppressed
      exact hsuppressed.1
    have hutf8 : d.utf8Len = 0 := by
      by_contra hne
      rw [(hd.idle hne).2] at hlf
      exact absurd hlf (by decide)
    exact reads_of_quiet ⟨nofun, hutf8, hescape⟩
  · simp only
    split
    case h_1 osc escaped he =>
      have hutf8 := hd.utf8Len_of_escape (by rw [he]; exact nofun)
      refine reads_of_quiet (quiet_stringByte ?_ ?_ osc escaped byte)
      · exact hutf8
      · exact hescape.le_twelve
    case h_2 matched he =>
      have hutf8 := hd.utf8Len_of_escape (by rw [he]; exact nofun)
      rw [he] at hescape
      refine reads_of_quiet_step (pasteByte_quiet ?_ ?_ ?_ byte)
      · exact hutf8
      · exact hescape.1
      · exact hescape.2
    case h_3 hstring hpaste =>
      split_ifs with hline hlen hopen hlen
      · exact reads_of_quiet ⟨nofun, rfl, rfl⟩
      · exact reads_of_quiet ⟨nofun, rfl, rfl⟩
      · have hutf8 := hd.utf8Len_of_escape hopen
        refine reads_of_quiet_step (escapeByte_quiet ?_ ?_ ?_ ?_ ?_ byte)
        · exact hutf8
        · exact hescape
        · exact hopen
        · exact hstring
        · exact hpaste
      · have hnone : d.escape = .none := Decidable.not_not.mp hopen
        rw [hnone] at hescape
        obtain ⟨lead, hhead, hlead, hneed⟩ := hd.lead hlen
        have hlf : (byte == 13) = false := by
          rw [beq_eq_false_iff_ne]
          rintro rfl
          exact hline ⟨.inl rfl, by simp [isPending, hlen]⟩
        have hpartway := hd.partway hlen
        refine Reads.of_suppressLf (continuationByte_reads ?_ ?_ ?_ ?_ ?_ ?_ hlead ?_ byte)
        · exact hnone
        · exact hlf
        · exact hescape
        · exact hpartway
        · exact hlen
        · exact hhead
        · exact hneed
      · have hnone : d.escape = .none := Decidable.not_not.mp hopen
        rw [hnone] at hescape
        refine Reads.of_suppressLf (groundByte_reads ?_ ?_ ?_ ?_)
        · exact hnone
        · exact fun hne => beq_eq_false_iff_ne.mpr hne
        · exact hescape
        · exact Decidable.not_not.mp hlen

theorem feedAll_append (d : InputDecoder) (xs ys : List UInt8) :
    d.feedAll (xs ++ ys) = (do
      let first ← d.feedAll xs
      let second ← first.2.feedAll ys
      pure (first.1 ++ second.1, second.2)) := by
  induction xs generalizing d with
  | nil =>
      simp only [List.nil_append, feedAll, Outcome.ok_bind]
      cases d.feedAll ys <;> rfl
  | cons byte xs ih =>
      simp only [List.cons_append, feedAll]
      rcases d.feed byte with ⟨event, next⟩ | e | _
      · simp only [Outcome.ok_bind, ih]
        rcases next.feedAll xs with ⟨events, next'⟩ | e | _
        · simp only [Outcome.ok_bind, Outcome.pure_eq]
          rcases next'.feedAll ys with ⟨later, last⟩ | e | _ <;> rfl
        · rfl
        · rfl
      · rfl
      · rfl

variable {events : List InputEvent}

theorem feedAll_snoc {d next last : InputDecoder} {xs : List UInt8} {event : InputEvent}
    (hxs : d.feedAll xs = .ok (events, next))
    (hbyte : next.feed byte = .ok (event, last)) :
    d.feedAll (xs ++ [byte]) = .ok (events ++ [event], last) := by
  rw [feedAll_append, hxs]
  simp only [Outcome.ok_bind, feedAll, hbyte, Outcome.pure_eq]

/-! ## Where an insertion comes from -/

/-- After `input` no escape, control string or paste is open, and `k` bytes
of a UTF-8 sequence are pending. -/
def OpenAfter (input : List UInt8) (k : Nat) : Prop :=
  ∃ events d, new.feedAll input = .ok (events, d) ∧ d.escape = .none ∧ d.utf8Len = k

/-- `taken` is the end of the input, and each of its bytes was read as text. -/
def ReadAsText (input taken : List UInt8) : Prop :=
  ∃ before, input = before ++ taken ∧ ∀ k, k < taken.length → OpenAfter (before ++ taken.take k) k

/-- The scalar is printable and its encoding was just read as text; a tab
reads as a space. -/
def Shown (input : List UInt8) (ch : Char) : Prop :=
  isPrintableScalar ch = true ∧ ∃ taken, ReadAsText input taken ∧
    (taken = String.utf8EncodeChar ch ∨ taken = [9] ∧ ch = ' ')

theorem readAsText_nil (input : List UInt8) : ReadAsText input [] :=
  ⟨input, (List.append_nil input).symm, nofun⟩

theorem ReadAsText.snoc {input : List UInt8} {d : InputDecoder}
    (h : ReadAsText input d.pending) (hd : d.Sound) (hrun : new.feedAll input = .ok (events, d))
    (hopen : d.escape = .none) (byte : UInt8) :
    ReadAsText (input ++ [byte]) (d.pending ++ [byte]) := by
  obtain ⟨before, hinput, hbefore⟩ := h
  refine ⟨before, by rw [hinput, List.append_assoc], fun k hk => ?_⟩
  rw [List.length_append, List.length_singleton] at hk
  rcases Nat.lt_or_eq_of_le (Nat.le_of_lt_succ hk) with hlt | heq
  · rw [List.take_append_of_le_length (Nat.le_of_lt hlt)]
    exact hbefore k hlt
  · rw [heq, List.take_left, ← hinput]
    exact ⟨events, d, hrun, hopen, hd.length_pending.symm⟩

/-- What holds after every input. -/
structure Read (input : List UInt8) (events : List InputEvent) (d : InputDecoder) : Prop where
  run : new.feedAll input = .ok (events, d)
  length : events.length = input.length
  sound : d.Sound
  pending : ReadAsText input d.pending
  shown : ∀ n ch, events[n]? = some (.insert ch) → Shown (input.take (n + 1)) ch

theorem Read.feed {input : List UInt8} {d : InputDecoder} (h : Read input events d) (byte : UInt8) :
    ∃ event next, d.feed byte = .ok (event, next) ∧
      Read (input ++ [byte]) (events ++ [event]) next := by
  obtain ⟨event, next, hfeed, hsound, htaken⟩ := feed_reads h.sound byte
  -- An event of before is shown as before; the new one is all there is to show.
  have hshown : (∀ ch, event = .insert ch → Shown (input ++ [byte]) ch) →
      ∀ n ch, (events ++ [event])[n]? = some (.insert ch) →
        Shown ((input ++ [byte]).take (n + 1)) ch := by
    intro hlast n ch hn
    rcases Nat.lt_or_ge n events.length with hlt | hge
    · rw [List.getElem?_append_left hlt] at hn
      rw [List.take_append_of_le_length (by rw [← h.length]; exact hlt)]
      exact h.shown n ch hn
    · rw [List.getElem?_append_right hge, List.getElem?_singleton] at hn
      obtain ⟨hzero, heq⟩ := Option.ite_none_right_eq_some.mp hn
      rw [List.take_of_length_le (by simp [← h.length]; omega)]
      exact hlast ch (Option.some.inj heq)
  have hlen : (events ++ [event]).length = (input ++ [byte]).length := by simp [h.length]
  refine ⟨event, next, hfeed, feedAll_snoc h.run hfeed, hlen, hsound, ?_, hshown ?_⟩
  · cases htaken with
    | quiet hevent hnext | inserted hopen hch hspelled hnext =>
        rw [pending_of_utf8Len hnext]; exact readAsText_nil _
    | extended hopen hnext => rw [hnext]; exact h.pending.snoc h.sound h.run hopen byte
  · rintro ch rfl
    cases htaken with
    | quiet hevent hnext => exact absurd rfl (hevent ch)
    | inserted hopen hch hspelled hnext =>
        exact ⟨hch, _, h.pending.snoc h.sound h.run hopen byte, hspelled⟩

theorem firstScalar_utf8EncodeChar (ch : Char) :
    firstScalar (String.utf8EncodeChar ch) = some ch := by
  have hbytes : Wyrmroot.utf8 (String.ofList [ch]) = String.utf8EncodeChar ch := by
    rw [utf8_eq_flatMap, String.toList_ofList, List.flatMap_cons, List.flatMap_nil, List.append_nil]
  rw [firstScalar, ← hbytes, fromUtf8_utf8, Option.bind_some, String.toList_ofList]
  rfl

theorem isControl_false_of_printable (h : isPrintableScalar ch = true) :
    0x20 ≤ ch.toNat ∧ (ch.toNat < 0x7f ∨ 0x9f < ch.toNat) := by
  have hcontrol : isControl ch = false := by
    simp only [isPrintableScalar, Bool.and_eq_true, Bool.not_eq_true'] at h
    exact h.1
  simp [isControl] at hcontrol
  omega

/-- The decoder is `need - bytes.length` bytes short of a scalar. -/
structure Assembling (d : InputDecoder) (bytes : List UInt8) (need : Nat) : Prop where
  escape : d.escape = .none
  pending : d.pending = bytes
  utf8Len : d.utf8Len = bytes.length
  utf8Need : d.utf8Need = need

/-- The events of a scalar of `n + 1` bytes. -/
def insertion (n : Nat) (ch : Char) : List InputEvent := List.replicate n .none ++ [.insert ch]

theorem feed_continuation {d : InputDecoder} {bytes : List UInt8} {need : Nat}
    (h : Assembling d bytes need) (hne : bytes ≠ []) (hroom : bytes.length < need)
    (hneed : need ≤ 4) (hbyte : 0x80 ≤ byte ∧ byte ≤ 0xbf) :
    (bytes.length + 1 ≠ need → ∃ next, d.feed byte = .ok (.none, next) ∧
      Assembling next (bytes ++ [byte]) need) ∧
    (∀ ch, bytes.length + 1 = need → firstScalar (bytes ++ [byte]) = some ch →
      isPrintableScalar ch = true →
        ∃ next, d.feed byte = .ok (.insert ch, next) ∧ next.isPending = false) := by
  obtain ⟨hopen, hpending, hlen, hfour⟩ := h
  have htail : within 0x80 0xbf byte = true := by simp [within, hbyte]
  have hlow : 0x80 ≤ byte.toNat := UInt8.le_iff_toNat_le.mp hbyte.1
  have h3 : byte ≠ 3 := by rintro rfl; exact absurd hlow (by decide)
  have h10 : byte ≠ 10 := by rintro rfl; exact absurd hlow (by decide)
  have h13 : byte ≠ 13 := by rintro rfl; exact absurd hlow (by decide)
  have hlen0 : d.utf8Len ≠ 0 := by
    rw [hlen]
    exact fun h0 => hne (List.eq_nil_of_length_eq_zero h0)
  have hstore : d.utf8Len < 4 := by omega
  have hfeed : d.feed byte = { d with suppressLf := byte == 13 }.continuationByte byte := by
    simp [feed, h3, h10, h13, hopen, hlen0]
  have hstored := take_set_succ d.utf8 hstore byte
  rw [hfeed]
  unfold continuationByte
  rw [if_pos htail]
  simp only [storeByte, dif_pos hstore, Outcome.ok_bind]
  constructor
  · intro hmore
    rw [if_pos (by omega)]
    refine ⟨_, rfl, hopen, ?_, ?_, hfour⟩
    · rw [← hpending]
      exact hstored
    · rw [List.length_append, List.length_singleton, ← hlen]
  · intro ch hlast hscalar hch
    rw [if_neg (by omega), sliceOf, if_pos ⟨Nat.zero_le _, hstore⟩, Outcome.ok_bind,
      List.drop_zero, hstored, ← pending, hpending, hscalar]
    simp only [hch, if_true]
    exact ⟨_, rfl, by simp [isPending, hopen]⟩

theorem feedAll_continuation {rest : List UInt8}
    (hch : isPrintableScalar ch = true) (htail : ∀ b ∈ rest, 0x80 ≤ b ∧ b ≤ 0xbf) :
    ∀ {d : InputDecoder} {bytes : List UInt8}, Assembling d bytes (bytes.length + rest.length) →
      bytes ≠ [] → rest ≠ [] → bytes.length + rest.length ≤ 4 →
        firstScalar (bytes ++ rest) = some ch →
          ∃ next, d.feedAll rest = .ok (insertion (rest.length - 1) ch, next) ∧
            next.isPending = false := by
  induction rest with
  | nil => exact fun _ _ hrest => absurd rfl hrest
  | cons byte rest ih =>
      intro d bytes h hne _ hfour hscalar
      obtain ⟨hmore, hlast⟩ := feed_continuation h hne (by simp) hfour
        (htail byte List.mem_cons_self)
      rcases List.eq_nil_or_concat rest with rfl | ⟨front, final, hrest⟩
      · obtain ⟨next, hfeed, hnext⟩ := hlast ch rfl hscalar hch
        refine ⟨next, ?_, hnext⟩
        simp [feedAll, hfeed, insertion]
      · have hrestne : rest ≠ [] := by simp [hrest]
        have hpos : 0 < rest.length := List.length_pos_of_ne_nil hrestne
        rw [List.length_cons] at hfour hmore
        obtain ⟨next, hfeed, hnext⟩ := hmore (by omega)
        have hassembling : Assembling next (bytes ++ [byte])
            ((bytes ++ [byte]).length + rest.length) := by
          rw [List.length_append, List.length_singleton, Nat.add_assoc, Nat.add_comm 1]
          exact hnext
        obtain ⟨last, hrun, hpending⟩ := ih (fun b hb => htail b (List.mem_cons_of_mem _ hb))
          hassembling (by simp) hrestne (by simp; omega) (by simpa using hscalar)
        refine ⟨last, ?_, hpending⟩
        simp only [feedAll, hfeed, Outcome.ok_bind, hrun, Outcome.pure_eq]
        have hcount : (byte :: rest).length - 1 = rest.length - 1 + 1 := by
          rw [List.length_cons]
          omega
        rw [hcount, insertion, insertion, List.replicate_succ, List.cons_append]

theorem feed_ground {d : InputDecoder} (hd : d.isPending = false) (hbyte : 0x20 ≤ byte.toNat) :
    d.feed byte = .ok ({ d with suppressLf := byte == 13 }.groundByte byte) := by
  have hidle : d.utf8Len = 0 ∧ d.escape = .none := by simpa [isPending] using hd
  have h3 : byte ≠ 3 := by rintro rfl; exact absurd hbyte (by decide)
  have h10 : byte ≠ 10 := by rintro rfl; exact absurd hbyte (by decide)
  have h13 : byte ≠ 13 := by rintro rfl; exact absurd hbyte (by decide)
  simp [feed, h3, h10, h13, hidle]

theorem feed_ascii {d : InputDecoder} (hd : d.isPending = false)
    (hlow : 0x20 ≤ byte.toNat) (hhigh : byte.toNat ≤ 0x7e) :
    ∃ next, d.feed byte = .ok (.insert (Char.ofNat byte.toNat), next) ∧ next.isPending = false := by
  have hascii : within 0x20 0x7e byte = true := within_eq_true.mpr ⟨hlow, hhigh⟩
  have hplain : ∀ b : UInt8, b.toNat < 0x20 ∨ 0x7e < b.toNat → byte ≠ b := by
    rintro b hb rfl
    omega
  rw [feed_ground hd hlow]
  simp only [groundByte, hplain 27 (by decide), hplain 8 (by decide), hplain 127 (by decide),
    hplain 4 (by decide), hplain 13 (by decide), hplain 10 (by decide), hplain 9 (by decide),
    or_self, if_false, hascii, if_true]
  exact ⟨_, rfl, hd⟩

theorem feed_lead {d : InputDecoder} (hd : d.isPending = false)
    (hlow : 0xc2 ≤ byte.toNat) (hhigh : byte.toNat ≤ 0xf4) :
    ∃ next, d.feed byte = .ok (.none, next) ∧ Assembling next [byte] (utf8NeedOf byte) := by
  have hidle : d.utf8Len = 0 ∧ d.escape = .none := by simpa [isPending] using hd
  have hlead : within 0xc2 0xf4 byte = true := within_eq_true.mpr ⟨hlow, hhigh⟩
  have hascii : within 0x20 0x7e byte = false := by
    rw [← Bool.not_eq_true, within_eq_true]
    exact fun h => absurd (Nat.le_trans hlow h.2) (by decide)
  have hhigh' : ∀ b : UInt8, b.toNat < 0xc2 → byte ≠ b := by
    rintro b hb rfl
    omega
  rw [feed_ground hd (Nat.le_trans (by decide) hlow)]
  simp only [groundByte, hhigh' 27 (by decide), hhigh' 8 (by decide), hhigh' 127 (by decide),
    hhigh' 4 (by decide), hhigh' 13 (by decide), hhigh' 10 (by decide), hhigh' 9 (by decide),
    or_self, if_false, hascii, hlead, if_true]
  exact ⟨_, rfl, hidle.2, take_set_succ d.utf8 (by decide) byte, rfl, rfl⟩

theorem feedAll_scalar {d : InputDecoder} (hd : d.isPending = false)
    (hch : isPrintableScalar ch = true) :
    ∃ next, d.feedAll (String.utf8EncodeChar ch) = .ok (insertion (ch.utf8Size - 1) ch, next) ∧
      next.isPending = false := by
  obtain ⟨hlow, hcontrol⟩ := isControl_false_of_printable hch
  rw [← String.length_utf8EncodeChar]
  rcases Nat.lt_or_ge 0x7f ch.toNat with hwide | hascii
  · obtain ⟨lead, tail, henc, hlead, hlead', hcount, htail⟩ := utf8EncodeChar_multibyte hwide
    obtain ⟨next, hfeed, hnext⟩ := feed_lead hd (UInt8.le_iff_toNat_le.mp hlead)
      (UInt8.le_iff_toNat_le.mp hlead')
    have hneed : utf8NeedOf lead = [lead].length + tail.length := by
      have h240 : (240 : UInt8).toNat = 240 := rfl
      have h224 : (224 : UInt8).toNat = 224 := rfl
      simp only [List.length_singleton, utf8NeedOf, UInt8.lt_iff_toNat_lt,
        UInt8.le_iff_toNat_le] at hcount ⊢
      rcases hcount with ⟨hlt, hn⟩ | ⟨⟨hge, hlt⟩, hn⟩ | ⟨hge, hn⟩
      all_goals split_ifs <;> omega
    have hpos : 0 < tail.length := by omega
    have hscalar : firstScalar ([lead] ++ tail) = some ch := by
      rw [← firstScalar_utf8EncodeChar ch, henc]
      rfl
    obtain ⟨last, hrun, hlast⟩ := feedAll_continuation hch htail (hneed ▸ hnext) (by simp)
      (List.ne_nil_of_length_pos hpos) (hneed ▸ utf8NeedOf_le lead) hscalar
    refine ⟨last, ?_, hlast⟩
    have hcons : (lead :: tail).length - 1 = tail.length - 1 + 1 := by
      rw [List.length_cons]
      omega
    rw [henc, hcons]
    simp only [feedAll, hfeed, hrun, Outcome.ok_bind, Outcome.pure_eq, insertion,
      List.replicate_succ, List.cons_append]
  · have hbyte : (UInt8.ofNat ch.toNat).toNat = ch.toNat := by
      rw [UInt8.toNat_ofNat']
      exact Nat.mod_eq_of_lt (by omega)
    have hlow' : 0x20 ≤ (UInt8.ofNat ch.toNat).toNat := by rw [hbyte]; exact hlow
    have hhigh' : (UInt8.ofNat ch.toNat).toNat ≤ 0x7e := by omega
    obtain ⟨next, hfeed, hnext⟩ := feed_ascii hd hlow' hhigh'
    rw [hbyte, Char.ofNat_toNat] at hfeed
    refine ⟨next, ?_, hnext⟩
    rw [utf8EncodeChar_ascii hascii]
    simp [feedAll, hfeed, insertion]

theorem feedAll_text {text : List Char} (htext : ∀ ch ∈ text, isPrintableScalar ch = true) :
    ∀ {d : InputDecoder}, d.isPending = false →
      ∃ last, d.feedAll (text.flatMap String.utf8EncodeChar) =
          .ok (text.flatMap fun ch => insertion (ch.utf8Size - 1) ch, last) ∧
        last.isPending = false := by
  induction text with
  | nil => exact fun hd => ⟨_, rfl, hd⟩
  | cons ch text ih =>
      intro d hd
      obtain ⟨next, hscalar, hnext⟩ := feedAll_scalar hd (htext ch List.mem_cons_self)
      obtain ⟨last, hrun, hlast⟩ := ih (fun c hc => htext c (List.mem_cons_of_mem _ hc)) hnext
      refine ⟨last, ?_, hlast⟩
      rw [List.flatMap_cons, List.flatMap_cons, feedAll_append, hscalar]
      simp only [Outcome.ok_bind, hrun, Outcome.pure_eq]

end InputDecoder

open InputDecoder

end Wyrmroot.Shell
