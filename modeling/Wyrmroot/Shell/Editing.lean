import Wyrmroot.Shell.Editor

/-!
# What the editor does to a line

An array holds the bytes of the characters in front of the cursor and of those behind
it (`Held`). Each event moves or shifts these bytes as the reference moves or shifts
the characters, and a whole session stays with that of the reference (`run_follows`).
-/

namespace Wyrmroot.Shell

open Outcome

variable {ε : Type}

/-! ## Encodings -/

theorem encoded_eq_nil {cs : List Char} : encoded cs = [] ↔ cs = [] := by
  cases cs with
  | nil => exact iff_of_true rfl rfl
  | cons c cs =>
      obtain ⟨lead, tail, heq, -, -⟩ := utf8EncodeChar_lead c
      rw [encoded_cons, heq]
      exact iff_of_false (List.cons_ne_nil _ _) (List.cons_ne_nil _ _)

theorem encoded_inj {cs ds : List Char} : encoded cs = encoded ds ↔ cs = ds := by
  refine ⟨fun h => ?_, congrArg encoded⟩
  rw [← utf8_ofList, ← utf8_ofList] at h
  rw [← String.toList_ofList (l := cs), utf8_inj h, String.toList_ofList]

theorem length_encoded_snoc (cs : List Char) (c : Char) :
    (encoded (cs ++ [c])).length = (encoded cs).length + (String.utf8EncodeChar c).length := by
  rw [encoded_append, List.length_append, encoded_cons, encoded_nil, List.append_nil]

theorem flatten_map_encoded (lines : List (List Char)) :
    (lines.map encoded).flatten = encoded lines.flatten := by
  induction lines with
  | nil => rfl
  | cons line lines ih =>
      rw [List.map_cons, List.flatten_cons, ih, List.flatten_cons, encoded_append]

/-! ## Arrays -/

theorem cut {α : Type} {l : List α} {n : Nat} (h : n ≤ l.length) :
    ∃ front behind, l = front ++ behind ∧ front.length = n :=
  ⟨l.take n, l.drop n, (List.take_append_drop n l).symm, List.length_take_of_le h⟩

theorem copyInto_run {array a b c x : List UInt8} (harray : array = a ++ (b ++ c))
    (hlength : x.length = b.length) : (copyInto array a.length x : Outcome ε _) = .ok
    (a ++ (x ++ c)) := by
  have hfits : a.length + x.length ≤ array.length := by
    rw [harray, List.length_append, List.length_append]
    omega
  unfold copyInto splice
  rw [if_pos hfits, hlength, harray, List.take_left, ← List.append_assoc, ← List.length_append,
    List.drop_left, List.append_assoc]

theorem copyWithin_eq {array : List UInt8} {first last : Nat} (hle : first ≤ last)
    (hlast : last ≤ array.length) (dest : Nat) :
    (copyWithin array first last dest : Outcome ε _) =
      copyInto array dest ((array.take last).drop first) := by
  have hlength : ((array.take last).drop first).length = last - first := by
    rw [List.length_drop, List.length_take_of_le hlast]
  unfold copyWithin copyInto
  rw [hlength]
  exact if_congr (by simp [hle, hlast]) rfl rfl

theorem copyWithin_run {array a b c front part behind : List UInt8} (harray : array = a ++ (b ++ c))
    (hpart : array = front ++ (part ++ behind)) (hlength : part.length = b.length) :
    (copyWithin array front.length (front.length + part.length) a.length : Outcome ε _) =
      .ok (a ++ (part ++ c)) := by
  have hlast : front.length + part.length ≤ array.length := by
    rw [hpart, List.length_append, List.length_append]
    omega
  have hcopied : (array.take (front.length + part.length)).drop front.length = part := by
    rw [hpart, ← List.append_assoc, ← List.length_append, List.take_left, List.drop_left]
  rw [copyWithin_eq (Nat.le_add_right _ _) hlast, hcopied]
  exact copyInto_run harray hlength

/-- The array holds a text, and the cursor stands behind these characters of it. -/
structure Held (array : List UInt8) (len cursor : Nat) (before after : List Char) : Prop where
  size : array.length = maxLineBytes
  bytes : ∃ spare, array = encoded before ++ (encoded after ++ spare)
  len_eq : len = (encoded before).length + (encoded after).length
  cursor_eq : cursor = (encoded before).length

namespace Held

variable {array other : List UInt8} {len cursor : Nat} {before after before' after' : List Char}
  {ch : Char}

theorem len_le (h : Held array len cursor before after) : len ≤ maxLineBytes := by
  obtain ⟨spare, hbytes⟩ := h.bytes
  have hsize := h.size
  rw [hbytes, List.length_append, List.length_append] at hsize
  rw [h.len_eq]
  omega

theorem take_len (h : Held array len cursor before after) :
    array.take len = encoded (before ++ after) := by
  obtain ⟨spare, hbytes⟩ := h.bytes
  rw [h.len_eq, hbytes, ← List.append_assoc, ← List.length_append, List.take_left, encoded_append]

theorem slice_run (h : Held array len cursor before after) :
    (sliceAt array 0 len : Outcome ε _) = .ok (encoded (before ++ after)) := by
  rw [sliceAt_ok (by rw [Nat.zero_add, h.size]; exact h.len_le), List.drop_zero, h.take_len]

theorem none (hsize : array.length = maxLineBytes) : Held array 0 0 [] [] :=
  ⟨hsize, ⟨array, rfl⟩, rfl, rfl⟩

theorem moved (h : Held array len cursor before after)
    (hsplit : before ++ after = before' ++ after') :
    Held array len (encoded before').length before' after' := by
  have hbytes : encoded before ++ encoded after = encoded before' ++ encoded after' := by
    rw [← encoded_append, hsplit, encoded_append]
  obtain ⟨spare, harray⟩ := h.bytes
  refine ⟨h.size, ⟨spare, ?_⟩, ?_, rfl⟩
  · rw [harray, ← List.append_assoc, hbytes, List.append_assoc]
  · rw [h.len_eq, ← List.length_append, hbytes, List.length_append]

theorem insert_run (h : Held array len cursor before after)
    (hroom : len + (String.utf8EncodeChar ch).length ≤ maxLineBytes) : ∃ shifted inserted,
      (copyWithin array cursor len (cursor + (String.utf8EncodeChar ch).length) : Outcome ε _) =
        .ok shifted ∧
      (copyInto shifted cursor (String.utf8EncodeChar ch) : Outcome ε _) = .ok inserted ∧
      Held inserted (len + (String.utf8EncodeChar ch).length)
        (cursor + (String.utf8EncodeChar ch).length) (before ++ [ch]) after := by
  obtain ⟨hsize, ⟨spare, harray⟩, hlen, hcursor⟩ := h
  have hchar : encoded (before ++ [ch]) = encoded before ++ String.utf8EncodeChar ch := by
    rw [encoded_append, encoded_cons, encoded_nil, List.append_nil]
  generalize String.utf8EncodeChar ch = bytes at *
  -- `gap` is what the bytes behind the cursor leave free, `tail` what they move over
  have htotal := congrArg List.length harray
  rw [List.length_append, List.length_append] at htotal
  obtain ⟨gap, moved, hmoved, hgap⟩ := cut (l := encoded after ++ spare) (n := bytes.length)
    (by rw [List.length_append]; omega)
  obtain ⟨tail, rest, hrest, htail⟩ := cut (l := moved) (n := (encoded after).length) (by
    have hlength := congrArg List.length hmoved
    rw [List.length_append, List.length_append] at hlength
    omega)
  have hsplit : encoded after ++ spare = gap ++ (tail ++ rest) := by rw [hmoved, hrest]
  have hover : array = (encoded before ++ gap) ++ (tail ++ rest) := by
    rw [harray, hsplit, List.append_assoc]
  have hshift := copyWithin_run (ε := ε) hover harray htail.symm
  rw [← hlen, List.length_append, hgap, ← hcursor] at hshift
  have hfill := copyInto_run (ε := ε) (List.append_assoc (encoded before) gap (encoded after ++ rest))
    hgap.symm
  rw [← hcursor] at hfill
  refine ⟨_, _, hshift, hfill, ?_, ⟨rest, ?_⟩, ?_, ?_⟩
  · rw [← hsize, hover]
    simp only [List.length_append]
    omega
  · rw [hchar, List.append_assoc]
  · rw [hchar, List.length_append, hlen]
    omega
  · rw [hchar, List.length_append, hcursor]

theorem remove_run (h : Held array len cursor (before ++ [ch]) after) : ∃ removed,
    (copyWithin array cursor len (encoded before).length : Outcome ε _) = .ok removed ∧
      Held removed (len - (String.utf8EncodeChar ch).length) (encoded before).length before after := by
  obtain ⟨hsize, ⟨spare, harray⟩, hlen, hcursor⟩ := h
  obtain ⟨tail, rest, hsplit, htail⟩ := cut (l := encoded [ch] ++ (encoded after ++ spare))
    (n := (encoded after).length) (by rw [List.length_append, List.length_append]; omega)
  have hover : array = encoded before ++ (tail ++ rest) := by
    rw [harray, ← hsplit, encoded_append, List.append_assoc]
  have hmove := copyWithin_run (ε := ε) hover harray htail.symm
  rw [← hlen, ← hcursor] at hmove
  refine ⟨_, hmove, ?_, ⟨rest, rfl⟩, ?_, rfl⟩
  · rw [← hsize, hover]
    simp only [List.length_append]
    omega
  · rw [hlen, length_encoded_snoc]
    omega

theorem copy_run (h : Held array len cursor before after) (hsize : other.length = maxLineBytes) :
    ∃ copied, (copyInto other 0 (encoded (before ++ after)) : Outcome ε _) = .ok copied ∧
      Held copied len cursor before after := by
  have hle := h.len_le
  have hlength : (encoded (before ++ after)).length = len := by
    rw [encoded_append, List.length_append, h.len_eq]
  have hfront : (encoded (before ++ after)).length = (other.take len).length := by
    rw [hlength, List.length_take_of_le (hsize ▸ hle)]
  have hcopy := copyInto_run (ε := ε) (a := []) (List.take_append_drop len other).symm hfront
  refine ⟨_, hcopy, ?_, ⟨other.drop len, ?_⟩, h.len_eq, h.cursor_eq⟩
  · rw [List.nil_append, List.length_append, List.length_drop, hlength, hsize]
    omega
  · rw [List.nil_append, encoded_append, List.append_assoc]

end Held

/-! ## Events -/

/-- The array holds the text, with this index as its cursor. -/
def Holding (array : List UInt8) (len cursor : Nat) (text : List Char) (index : Nat) : Prop :=
  ∃ before after, text = before ++ after ∧ index = before.length ∧ Held array len cursor before after

structure Refines (editor : Editor) (reference : ReferenceEditor) : Prop where
  line : Holding editor.line editor.len editor.cursor reference.line reference.cursor
  draft : Holding editor.draft editor.draftLen editor.draftCursor reference.draft
    reference.draftCursor
  history : Holds editor.history (reference.history.map encoded)
  short : ∀ line ∈ reference.history, (encoded line).length ≤ maxLineBytes
  browsing : editor.browsing = reference.browsing
  age : ∀ age, reference.browsing = some age → age < reference.history.length
  pending : editor.submissionPending = reference.submissionPending

/-- The editor answers as the reference does and still refines it. -/
def Follows (r : Outcome ε Editor.Edited) (r' : ReferenceEditor.Edited) : Prop :=
  ∃ editor, r = .ok (r'.1, editor) ∧ Refines editor r'.2

section Events

variable {editor : Editor} {reference : ReferenceEditor} {before after : List Char}

theorem Refines.follows (h : Refines editor reference) (outcome : EditOutcome) :
    Follows (.ok (outcome, editor) : Outcome ε _) (outcome, reference) := ⟨editor, rfl, h⟩

theorem Refines.line_size (h : Refines editor reference) : editor.line.length = maxLineBytes := by
  obtain ⟨before, after, -, -, hheld⟩ := h.line
  exact hheld.size

theorem Refines.draft_size (h : Refines editor reference) : editor.draft.length = maxLineBytes := by
  obtain ⟨before, after, -, -, hheld⟩ := h.draft
  exact hheld.size

theorem Refines.historyLen (h : Refines editor reference) :
    editor.history.len = reference.history.length := by
  obtain ⟨cells, ring, hlaid⟩ := h.history
  rw [hlaid.len_eq, List.length_map]

theorem lineText_run (h : Held editor.line editor.len editor.cursor before after) :
    (editor.lineText : Outcome ε _) = .ok (String.ofList (before ++ after)) := by
  have htext := fromUtf8_eq_some.mpr (utf8_ofList (before ++ after))
  unfold Editor.lineText
  rw [h.slice_run, ok_bind, htext]
  rfl

theorem charBefore_run (h : Held editor.line editor.len editor.cursor before after) :
    (editor.charBefore : Outcome ε _) = .ok before.getLast? := by
  have hfront := @getRange_parts [] before after (String.ofList (before ++ after))
    String.toList_ofList
  rw [List.nil_append, encoded_nil, List.length_nil, ← h.cursor_eq] at hfront
  unfold Editor.charBefore
  rw [lineText_run h, ok_bind, hfront]
  exact congrArg (fun cs : List Char => (.ok cs.getLast? : Outcome ε _)) String.toList_ofList

theorem charAfter_run (h : Held editor.line editor.len editor.cursor before after) :
    (editor.charAfter : Outcome ε _) = .ok after.head? := by
  have hbehind := @getRange_parts before after [] (String.ofList (before ++ after))
    (String.toList_ofList.trans (by rw [List.append_nil]))
  rw [← h.cursor_eq, ← utf8_ofList] at hbehind
  unfold Editor.charAfter
  rw [lineText_run h, ok_bind, hbehind]
  exact congrArg (fun cs : List Char => (.ok cs.head? : Outcome ε _)) String.toList_ofList

theorem insertIdx_length (before after : List Char) (ch : Char) :
    (before ++ after).insertIdx before.length ch = before ++ ch :: after := by
  induction before with
  | nil => rfl
  | cons first before ih => exact congrArg (first :: ·) ih

theorem insert_follows (h : Refines editor reference) (ch : Char) :
    Follows (editor.insert ch : Outcome ε _) (reference.insert ch) := by
  rcases reference with ⟨text, index, history, draft, draftCursor, browsing, pending⟩
  obtain ⟨before, after, rfl, rfl, hheld⟩ := h.line
  have hlong : maxLineBytes < (encoded (ch :: (before ++ after))).length ↔
      maxLineBytes - editor.len < (String.utf8EncodeChar ch).length := by
    have hle := hheld.len_le
    rw [encoded_cons, List.length_append, encoded_append, List.length_append, ← hheld.len_eq]
    omega
  unfold Editor.insert ReferenceEditor.insert
  rw [Unchecked.sub_ok hheld.len_le, ok_bind]
  simp only [hlong]
  split_ifs with hprintable hroom
  · exact h.follows _
  · exact h.follows _
  · have hfits : editor.len + (String.utf8EncodeChar ch).length ≤ maxLineBytes := by
      have hle := hheld.len_le
      omega
    obtain ⟨shifted, inserted, hshift, hfill, hheld'⟩ := hheld.insert_run (ε := ε) hfits
    rw [hshift, ok_bind, hfill, ok_bind]
    refine ⟨_, rfl, { h with line := ⟨before ++ [ch], after, ?_, ?_, hheld'⟩ }⟩
    · exact (insertIdx_length before after ch).trans (List.append_assoc before [ch] after).symm
    · rw [List.length_append]
      rfl

theorem Refines.moved (h : Refines editor reference)
    (hheld : Held editor.line editor.len editor.cursor before after) {before' after' : List Char}
    (hline : reference.line = before' ++ after') (hsplit : before ++ after = before' ++ after') :
    Refines { editor with cursor := (encoded before').length }
      { reference with cursor := before'.length } :=
  { h with line := ⟨before', after', hline, rfl, hheld.moved hsplit⟩ }

theorem left_follows (h : Refines editor reference) :
    Follows (editor.left : Outcome ε _) (reference.moveTo (reference.cursor - 1)) := by
  rcases reference with ⟨text, index, history, draft, draftCursor, browsing, pending⟩
  obtain ⟨before, after, rfl, rfl, hheld⟩ := h.line
  unfold Editor.left ReferenceEditor.moveTo
  rw [charBefore_run hheld, ok_bind]
  rcases List.eq_nil_or_concat' before with rfl | ⟨front, ch, rfl⟩
  · exact h.follows _
  · have hcursor := hheld.cursor_eq.trans (length_encoded_snoc front ch)
    have hsplit : front ++ [ch] ++ after = front ++ ch :: after := List.append_assoc ..
    rw [List.getLast?_concat]
    dsimp only
    rw [Unchecked.sub_ok (hcursor ▸ Nat.le_add_left _ _), ok_bind, hcursor, Nat.add_sub_cancel,
      List.length_append, List.length_singleton, Nat.add_sub_cancel, if_neg (Nat.succ_ne_self _)]
    exact ⟨_, rfl, h.moved hheld hsplit hsplit⟩

theorem right_follows (h : Refines editor reference) :
    Follows (editor.right : Outcome ε _)
      (reference.moveTo (min (reference.cursor + 1) reference.line.length)) := by
  rcases reference with ⟨text, index, history, draft, draftCursor, browsing, pending⟩
  obtain ⟨before, after, rfl, rfl, hheld⟩ := h.line
  unfold Editor.right ReferenceEditor.moveTo
  rw [charAfter_run hheld, ok_bind]
  cases after with
  | nil =>
      have hlast : min (before.length + 1) (before ++ []).length = before.length := by
        rw [List.append_nil]
        exact Nat.min_eq_right (Nat.le_succ _)
      rw [hlast, if_pos rfl]
      exact h.follows _
  | cons ch after =>
      have hsplit : before ++ ch :: after = before ++ [ch] ++ after :=
        (List.append_assoc before [ch] after).symm
      have hlength : min (before.length + 1) (before ++ ch :: after).length =
          (before ++ [ch]).length := by
        rw [List.length_append, List.length_append, List.length_cons, List.length_singleton]
        omega
      dsimp only [List.head?_cons]
      rw [hlength, hheld.cursor_eq, ← length_encoded_snoc, if_neg (by rw [List.length_append]; exact (Nat.succ_ne_self _).symm)]
      exact ⟨_, rfl, h.moved hheld hsplit hsplit⟩

theorem home_follows (h : Refines editor reference) :
    Follows (editor.setCursor 0 : Outcome ε _) (reference.moveTo 0) := by
  rcases reference with ⟨text, index, history, draft, draftCursor, browsing, pending⟩
  obtain ⟨before, after, rfl, rfl, hheld⟩ := h.line
  have hzero : editor.cursor = 0 ↔ before.length = 0 := by
    rw [hheld.cursor_eq, List.length_eq_zero_iff, List.length_eq_zero_iff, encoded_eq_nil]
  unfold Editor.setCursor ReferenceEditor.moveTo
  simp only [hzero]
  split_ifs
  · exact h.follows _
  · exact ⟨_, rfl, @Refines.moved _ _ before after h hheld [] _ rfl rfl⟩

theorem end_follows (h : Refines editor reference) :
    Follows (editor.setCursor editor.len : Outcome ε _) (reference.moveTo reference.line.length) := by
  rcases reference with ⟨text, index, history, draft, draftCursor, browsing, pending⟩
  obtain ⟨before, after, rfl, rfl, hheld⟩ := h.line
  have hlast : editor.cursor = editor.len ↔ before.length = (before ++ after).length := by
    rw [hheld.cursor_eq, hheld.len_eq, List.length_append, Nat.left_eq_add,
      Nat.left_eq_add, List.length_eq_zero_iff, List.length_eq_zero_iff, encoded_eq_nil]
  have hlen : editor.len = (encoded (before ++ after)).length := by
    rw [encoded_append, List.length_append, hheld.len_eq]
  unfold Editor.setCursor ReferenceEditor.moveTo
  simp only [hlast]
  split_ifs
  · exact h.follows _
  · have hmoved := h.moved hheld (List.append_nil _).symm (List.append_nil _).symm
    rw [← hlen] at hmoved
    exact ⟨_, rfl, hmoved⟩

theorem delete_follows (h : Refines editor reference) :
    Follows (editor.delete : Outcome ε _) reference.delete := by
  rcases reference with ⟨text, index, history, draft, draftCursor, browsing, pending⟩
  obtain ⟨before, after, rfl, rfl, hheld⟩ := h.line
  unfold Editor.delete ReferenceEditor.delete
  rw [charAfter_run hheld, ok_bind]
  cases after with
  | nil =>
      have hlast : before.length = (before ++ []).length := by rw [List.append_nil]
      rw [if_pos hlast]
      exact h.follows _
  | cons ch after =>
      have hbehind := hheld.moved (List.append_assoc before [ch] after).symm
      obtain ⟨removed, hremove, hheld'⟩ := hbehind.remove_run (ε := ε)
      have hle : (String.utf8EncodeChar ch).length ≤ editor.len := by
        rw [hheld.len_eq, encoded_cons, List.length_append]
        omega
      rw [length_encoded_snoc, ← hheld.cursor_eq] at hremove
      rw [← hheld.cursor_eq] at hheld'
      dsimp only [List.head?_cons]
      rw [hremove, ok_bind, Unchecked.sub_ok hle, ok_bind, if_neg (by simp),
        List.eraseIdx_append_of_length_le (Nat.le_refl _), Nat.sub_self]
      exact ⟨_, rfl, { h with line := ⟨before, after, rfl, rfl, hheld'⟩ }⟩

theorem backspace_follows (h : Refines editor reference) :
    Follows (editor.backspace : Outcome ε _) reference.backspace := by
  rcases reference with ⟨text, index, history, draft, draftCursor, browsing, pending⟩
  obtain ⟨before, after, rfl, rfl, hheld⟩ := h.line
  unfold Editor.backspace ReferenceEditor.backspace
  rw [charBefore_run hheld, ok_bind]
  rcases List.eq_nil_or_concat' before with rfl | ⟨front, ch, rfl⟩
  · exact h.follows _
  · have hcursor := hheld.cursor_eq.trans (length_encoded_snoc front ch)
    have hle : (String.utf8EncodeChar ch).length ≤ editor.len := by
      rw [hheld.len_eq, ← hheld.cursor_eq, hcursor]
      omega
    obtain ⟨removed, hremove, hheld'⟩ := hheld.remove_run (ε := ε)
    rw [List.getLast?_concat]
    dsimp only
    rw [Unchecked.sub_ok (hcursor ▸ Nat.le_add_left _ _), ok_bind, hcursor, Nat.add_sub_cancel,
      ← hcursor, hremove, ok_bind, Unchecked.sub_ok hle, ok_bind, List.length_append,
      List.length_singleton, if_neg (Nat.succ_ne_zero _), Nat.add_sub_cancel, List.append_assoc,
      List.eraseIdx_append_of_length_le (Nat.le_refl _), Nat.sub_self]
    exact ⟨_, rfl, { h with line := ⟨front, after, rfl, rfl, hheld'⟩ }⟩

/-! ### The history -/

theorem browse_follows (h : Refines editor reference) {age : Nat}
    (hage : age < reference.history.length) :
    Follows (editor.browse age : Outcome ε _) (reference.browse age) := by
  obtain ⟨cells, ring, hlaid⟩ := h.history
  have hindex : reference.history.length - 1 - age < reference.history.length := by omega
  have hentry : reference.history.reverse.getD age [] =
      reference.history[reference.history.length - 1 - age] := by
    rw [List.getD_eq_getElem _ _ (by rwa [List.length_reverse]), List.getElem_reverse]
  have hshort := h.short _ (List.getElem_mem hindex)
  rw [← hentry] at hshort
  have hplace : reference.history.length - 1 - age < (reference.history.map encoded).length := by
    rwa [List.length_map]
  have hline : (reference.history.map encoded)[reference.history.length - 1 - age] =
      encoded (reference.history.reverse.getD age []) := by
    rw [List.getElem_map, hentry]
  have hroom : (reference.history.map encoded)[reference.history.length - 1 - age].length ≤
      editor.line.length := by rwa [hline, h.line_size]
  have hcopy := hlaid.copyEntry_run (ε := ε) hplace hroom
  rw [hline] at hcopy
  unfold Editor.browse ReferenceEditor.browse
  rw [h.historyLen, Unchecked.sub_ok (by omega), ok_bind, Unchecked.sub_ok (by omega), ok_bind, hcopy,
    ok_bind]
  generalize reference.history.reverse.getD age [] = line at *
  have hholding : Held (encoded line ++ editor.line.drop (encoded line).length)
      (encoded line).length (encoded line).length line [] := by
    refine ⟨?_, ⟨_, rfl⟩, rfl, rfl⟩
    rw [List.length_append, List.length_drop, h.line_size]
    omega
  exact ⟨_, rfl, { h with
    line := ⟨line, [], (List.append_nil _).symm, rfl, hholding⟩
    browsing := rfl
    age := fun _ heq => Option.some.inj heq ▸ hage }⟩

theorem up_follows (h : Refines editor reference) :
    Follows (editor.up : Outcome ε _) reference.up := by
  unfold Editor.up ReferenceEditor.up
  rw [h.historyLen, h.browsing]
  simp only [List.length_eq_zero_iff]
  split_ifs with hnone
  · exact h.follows _
  cases hbrowsing : reference.browsing with
  | none =>
      obtain ⟨before, after, hline, hindex, hheld⟩ := h.line
      obtain ⟨copied, hcopy, hheld'⟩ := hheld.copy_run (ε := ε) h.draft_size
      have hsaved : (editor.saveDraft : Outcome ε _) =
          .ok { editor with draft := copied, draftLen := editor.len, draftCursor := editor.cursor } := by
        unfold Editor.saveDraft
        rw [hheld.slice_run, ok_bind, hcopy, ok_bind]
        rfl
      have hdrafted : Refines
          { editor with draft := copied, draftLen := editor.len, draftCursor := editor.cursor }
          { reference with draft := reference.line, draftCursor := reference.cursor } :=
        { h with draft := ⟨before, after, hline, hindex, hheld'⟩ }
      dsimp only
      rw [hsaved, ok_bind]
      exact browse_follows hdrafted (List.length_pos_of_ne_nil hnone)
  | some age =>
      dsimp only
      split_ifs with hold
      · exact browse_follows h hold
      · exact h.follows _

theorem down_follows (h : Refines editor reference) :
    Follows (editor.down : Outcome ε _) reference.down := by
  unfold Editor.down ReferenceEditor.down
  rw [h.browsing]
  cases hbrowsing : reference.browsing with
  | none => exact h.follows _
  | some age =>
      dsimp only
      split_ifs with hnewest
      · exact browse_follows h (Nat.lt_of_le_of_lt (Nat.sub_le _ _) (h.age age hbrowsing))
      · obtain ⟨before, after, hline, hindex, hdraft⟩ := h.draft
        obtain ⟨copied, hcopy, hheld'⟩ := hdraft.copy_run (ε := ε) h.line_size
        unfold Editor.restoreDraft
        rw [hdraft.slice_run, ok_bind, hcopy, ok_bind]
        exact ⟨_, rfl, { h with
          line := ⟨before, after, hline, hindex, hheld'⟩
          browsing := rfl
          age := fun _ heq => absurd heq (Option.some_ne_none _).symm }⟩

theorem clearDraft_refines (hline : editor.line.length = maxLineBytes)
    (hdraft : editor.draft.length = maxLineBytes)
    (hhistory : Holds editor.history (reference.history.map encoded))
    (hshort : ∀ line ∈ reference.history, (encoded line).length ≤ maxLineBytes)
    (hpending : editor.submissionPending = reference.submissionPending) :
    Refines editor.clearDraft reference.clearDraft where
  line := ⟨[], [], rfl, rfl, .none hline⟩
  draft := ⟨[], [], rfl, rfl, .none hdraft⟩
  history := hhistory
  short := hshort
  browsing := rfl
  age _ heq := absurd heq (Option.some_ne_none _).symm
  pending := hpending

theorem apply_follows (h : Refines editor reference) (event : InputEvent) :
    Follows (editor.apply event : Outcome ε _) (reference.apply event) := by
  unfold Editor.apply ReferenceEditor.apply
  rw [h.pending]
  by_cases hpending : reference.submissionPending = true
  · rw [if_pos hpending, if_pos hpending]
    exact h.follows _
  rw [if_neg hpending, if_neg hpending]
  cases event with
  | none | rejected error => exact h.follows _
  | insert ch => exact insert_follows h ch
  | left => exact left_follows h
  | right => exact right_follows h
  | home => exact home_follows h
  | «end» => exact end_follows h
  | delete => exact delete_follows h
  | backspace => exact backspace_follows h
  | up => exact up_follows h
  | down => exact down_follows h
  | submit => exact ⟨_, rfl, { h with pending := rfl }⟩
  | cancel =>
      exact ⟨_, rfl, clearDraft_refines h.line_size h.draft_size h.history h.short h.pending⟩
  | eof =>
      obtain ⟨before, after, hline, -, hheld⟩ := h.line
      have hempty : editor.len = 0 ↔ reference.line = [] := by
        rw [hheld.len_eq, hline, ← encoded_eq_nil, encoded_append, ← List.length_append,
          List.length_eq_zero_iff]
      simp only [hempty]
      exact h.follows _

/-! ### Submissions -/

theorem dropOldest_map (lines : List (List Char)) :
    dropOldest (lines.map encoded) = (ReferenceEditor.forget lines).map encoded := by
  induction lines with
  | nil => rfl
  | cons oldest lines ih =>
      have hbytes := flatten_map_encoded (oldest :: lines)
      rw [List.map_cons] at hbytes
      rw [List.map_cons, dropOldest, ReferenceEditor.forget, hbytes, List.length_cons,
        List.length_map, ← List.length_cons (a := oldest), ih, ← List.map_cons, apply_ite (List.map encoded)]

theorem remember_map (lines : List (List Char)) (line : List Char) :
    remember (lines.map encoded) (encoded line) = (ReferenceEditor.keep lines line).map encoded := by
  have hlast : (lines.map encoded).getLast? = some (encoded line) ↔ lines.getLast? = some line := by
    rw [List.getLast?_map, Option.map_eq_some_iff]
    constructor
    · rintro ⟨last, hlast, heq⟩
      rw [hlast, encoded_inj.mp heq]
    · exact fun heq => ⟨line, heq, rfl⟩
  unfold remember ReferenceEditor.keep
  rw [apply_ite (List.map encoded), ← dropOldest_map, List.map_append]
  exact if_congr (or_congr encoded_eq_nil hlast) rfl rfl

theorem acceptSubmission_refines (h : Refines editor reference) : ∃ editor',
    (editor.acceptSubmission : Outcome ε _) = .ok editor' ∧
      Refines editor' reference.acceptSubmission := by
  unfold Editor.acceptSubmission ReferenceEditor.acceptSubmission
  rw [h.pending]
  by_cases hpending : (!reference.submissionPending) = true
  · rw [if_pos hpending, if_pos hpending]
    exact ⟨editor, rfl, h⟩
  rw [if_neg hpending, if_neg hpending]
  obtain ⟨before, after, hline, -, hheld⟩ := h.line
  have hlength : (encoded reference.line).length ≤ maxLineBytes := by
    rw [hline, encoded_append, List.length_append, ← hheld.len_eq]
    exact hheld.len_le
  have hfits : (encoded reference.line).length ≤ historyArenaBytes :=
    Nat.le_trans hlength (by decide)
  obtain ⟨history, hpush, hholds⟩ := push_run (ε := ε) h.history hfits
  have hshort : ∀ line ∈ ReferenceEditor.keep reference.history reference.line,
      (encoded line).length ≤ maxLineBytes := by
    intro line hmem
    have hremembered := List.mem_map_of_mem (f := encoded) hmem
    rw [← remember_map] at hremembered
    rcases mem_remember hremembered with hold | hnew
    · obtain ⟨other, hother, heq⟩ := List.mem_map.mp hold
      exact heq ▸ h.short other hother
    · rwa [hnew]
  rw [remember_map] at hholds
  rw [hheld.slice_run, ok_bind, ← hline, hpush, ok_bind]
  exact ⟨_, rfl, clearDraft_refines h.line_size h.draft_size hholds hshort rfl⟩

end Events

/-! ## Sessions -/

theorem new_refines : Refines .new .new where
  line := ⟨[], [], rfl, rfl, .none List.length_replicate⟩
  draft := ⟨[], [], rfl, rfl, .none List.length_replicate⟩
  history := new_holds
  short := List.forall_mem_nil _
  browsing := rfl
  age := by rintro _ ⟨⟩
  pending := rfl

theorem run_follows {actions : List Action} : ∀ {editor : Editor} {reference : ReferenceEditor},
    Refines editor reference → ∃ editor', (editor.run actions : Outcome ε _) =
      .ok ((reference.run actions).1, editor') ∧ Refines editor' (reference.run actions).2 := by
  induction actions with
  | nil => exact fun {editor _} h => ⟨editor, rfl, h⟩
  | cons action actions ih =>
      intro editor reference h
      cases action with
      | event event =>
          obtain ⟨applied, happly, hnext⟩ := apply_follows (ε := ε) h event
          obtain ⟨editor', hrun, hlast⟩ := ih hnext
          refine ⟨editor', ?_, hlast⟩
          rw [Editor.run, happly, ok_bind, hrun]
          rfl
      | acceptSubmission =>
          obtain ⟨accepted, haccept, hnext⟩ := acceptSubmission_refines (ε := ε) h
          obtain ⟨editor', hrun, hlast⟩ := ih hnext
          refine ⟨editor', ?_, hlast⟩
          rw [Editor.run, haccept, ok_bind, hrun]
          rfl

/-- What can be seen of an editor is what the reference holds. -/
structure Mirrors (editor : Editor) (reference : ReferenceEditor) : Prop where
  bytes : editor.line.take editor.len = encoded reference.line
  line : (editor.lineText : Outcome ε _) = .ok (String.ofList reference.line)
  short : (encoded reference.line).length ≤ maxLineBytes
  index : reference.cursor ≤ reference.line.length
  cursor : editor.cursor = (encoded (reference.line.take reference.cursor)).length
  boundary : isCharBoundary (String.ofList reference.line) editor.cursor = true
  historyLen : editor.history.len = reference.history.length
  historyBytes : editor.history.bytes = (encoded reference.history.flatten).length
  entries : ∀ i line, reference.history[i]? = some line →
    ∀ output : List UInt8, output.length = maxLineBytes →
      (editor.history.copyEntry i output : Outcome ε _) =
        .ok ((encoded line).length, encoded line ++ output.drop (encoded line).length)

theorem Refines.mirrors {editor : Editor} {reference : ReferenceEditor}
    (h : Refines editor reference) :
    Mirrors (ε := ε) editor reference := by
  obtain ⟨before, after, hline, hindex, hheld⟩ := h.line
  obtain ⟨cells, ring, hlaid⟩ := h.history
  have hbefore : reference.line.take reference.cursor = before := by
    rw [hline, hindex, List.take_left]
  refine ⟨hline ▸ hheld.take_len, hline ▸ lineText_run hheld, ?_, ?_, ?_, ?_, h.historyLen, ?_, ?_⟩
  · rw [hline, encoded_append, List.length_append, ← hheld.len_eq]
    exact hheld.len_le
  · rw [hindex, hline, List.length_append]
    exact Nat.le_add_right _ _
  · rw [hbefore, hheld.cursor_eq]
  · exact isCharBoundary_iff.mpr ⟨before, after, String.toList_ofList.trans hline, hheld.cursor_eq.symm⟩
  · rw [hlaid.bytes_eq, flatten_map_encoded]
  · intro i line hi output houtput
    have hentry : (reference.history.map encoded)[i]? = some (encoded line) := by
      rw [List.getElem?_map, hi, Option.map_some]
    obtain ⟨hlt, heq⟩ := List.getElem?_eq_some_iff.mp hentry
    have hroom : (reference.history.map encoded)[i].length ≤ output.length := by
      rw [heq, houtput]
      exact h.short line (List.mem_of_getElem? hi)
    have hcopy := hlaid.copyEntry_run (ε := ε) hlt hroom
    rwa [heq] at hcopy

/-- Whatever is done to a new editor, its outcomes are those of the reference, and so are its line, its
cursor and its history. -/
theorem editor_refines (actions : List Action) : ∃ editor,
    (Editor.new.run actions : Outcome ε _) = .ok ((ReferenceEditor.new.run actions).1, editor) ∧
      Mirrors (ε := ε) editor (ReferenceEditor.new.run actions).2 := by
  obtain ⟨editor, hrun, hrefines⟩ := @run_follows ε actions _ _ new_refines
  exact ⟨editor, hrun, hrefines.mirrors⟩

end Wyrmroot.Shell
