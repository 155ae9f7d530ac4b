import Wyrmroot.Shell.Decoding
import Wyrmroot.Shell.Editing

/-!
# The terminal of the shell

What a user sees of the editor behind the input decoder. Nothing but printable
characters gets into a line, so that no line brings an escape sequence to the
terminal; the history gives back what was submitted, and the draft that was put aside
for it.
-/

namespace Wyrmroot.Shell

open Outcome

variable {ε : Type}

/-! ## Printable lines -/

def Printable (cs : List Char) : Prop := ∀ ch ∈ cs, isPrintableScalar ch = true

theorem Printable.bytes {cs : List Char} (h : Printable cs) :
    ∀ byte ∈ encoded cs, 0x20 ≤ byte.toNat ∧ byte.toNat ≠ 0x7f := by
  intro byte hbyte
  obtain ⟨ch, hch, hmem⟩ := List.mem_flatMap.mp hbyte
  obtain ⟨hlow, hhigh⟩ := InputDecoder.isControl_false_of_printable (h ch hch)
  rcases Nat.lt_or_ge 0x7f ch.toNat with hwide | hascii
  · obtain ⟨lead, tail, heq, hlead, -, -, htail⟩ := utf8EncodeChar_multibyte hwide
    have hbig : 0x80 ≤ byte.toNat := by
      rw [heq] at hmem
      rcases List.mem_cons.mp hmem with rfl | hrest
      · exact Nat.le_trans (by decide) (UInt8.le_iff_toNat_le.mp hlead)
      · exact UInt8.le_iff_toNat_le.mp (htail byte hrest).1
    omega
  · rw [utf8EncodeChar_ascii hascii, List.mem_singleton] at hmem
    rw [hmem, UInt8.toNat_ofNat_of_lt' (Nat.lt_of_le_of_lt hascii (by decide))]
    omega

namespace ReferenceEditor

structure Clean (r : ReferenceEditor) : Prop where
  line : Printable r.line
  draft : Printable r.draft
  history : ∀ line ∈ r.history, Printable line

variable {r : ReferenceEditor}

theorem Clean.browse (h : r.Clean) (age : Nat) : (r.browse age).2.Clean := by
  refine { h with line := fun ch hch => ?_ }
  have hch : ch ∈ r.history.reverse.getD age [] := hch
  rcases Nat.lt_or_ge age r.history.reverse.length with hlt | hge
  · have hmem : r.history.reverse[age] ∈ r.history := List.mem_reverse.mp (List.getElem_mem hlt)
    refine h.history _ hmem ch ?_
    rwa [← List.getD_eq_getElem _ [] hlt]
  · have hnone : r.history.reverse.getD age [] = [] := List.getD_eq_default _ _ hge
    rw [hnone] at hch
    exact absurd hch List.not_mem_nil

theorem Clean.insert (h : r.Clean) (ch : Char) : (r.insert ch).2.Clean := by
  unfold ReferenceEditor.insert
  split_ifs with hprintable
  · exact h
  · exact h
  · refine { h with line := fun c hc => ?_ }
    rcases List.eq_or_mem_of_mem_insertIdx hc with rfl | hold
    · simpa using hprintable
    · exact h.line c hold

theorem Clean.erased (h : r.Clean) (index cursor : Nat) :
    { r with line := r.line.eraseIdx index, cursor : ReferenceEditor }.Clean :=
  { h with line := fun c hc => h.line c (List.mem_of_mem_eraseIdx hc) }

theorem Clean.moveTo (h : r.Clean) (cursor : Nat) : (r.moveTo cursor).2.Clean := by
  unfold ReferenceEditor.moveTo
  split_ifs
  · exact h
  · exact { h with }

theorem Clean.up (h : r.Clean) : r.up.2.Clean := by
  unfold ReferenceEditor.up
  split_ifs
  · exact h
  cases r.browsing with
  | none =>
      have hdrafted : { r with draft := r.line, draftCursor := r.cursor : ReferenceEditor }.Clean :=
        ⟨h.line, h.line, h.history⟩
      exact hdrafted.browse 0
  | some age =>
      dsimp only
      split_ifs
      · exact h.browse (age + 1)
      · exact h

theorem Clean.down (h : r.Clean) : r.down.2.Clean := by
  unfold ReferenceEditor.down
  cases r.browsing with
  | none => exact h
  | some age =>
      dsimp only
      split_ifs
      · exact h.browse (age - 1)
      · exact ⟨h.draft, h.draft, h.history⟩

theorem Clean.apply (h : r.Clean) (event : InputEvent) : (r.apply event).2.Clean := by
  unfold ReferenceEditor.apply
  by_cases hpending : r.submissionPending = true
  · rw [if_pos hpending]
    exact h
  rw [if_neg hpending]
  cases event with
  | insert ch => exact h.insert ch
  | left | right | home | «end» => exact h.moveTo _
  | delete =>
      show r.delete.2.Clean
      unfold ReferenceEditor.delete
      split_ifs
      · exact h
      · exact h.erased _ _
  | backspace =>
      show r.backspace.2.Clean
      unfold ReferenceEditor.backspace
      split_ifs
      · exact h
      · exact h.erased _ _
  | up => exact h.up
  | down => exact h.down
  | cancel => exact ⟨List.forall_mem_nil _, List.forall_mem_nil _, h.history⟩
  | submit => exact { h with }
  | none | eof | rejected error => exact h

theorem forget_suffix : ∀ lines, forget lines <:+ lines
  | [] => List.suffix_rfl
  | oldest :: lines => by
      unfold forget
      split_ifs
      · exact List.suffix_rfl
      · exact (forget_suffix lines).trans (List.suffix_cons oldest lines)

theorem Clean.acceptSubmission (h : r.Clean) : r.acceptSubmission.Clean := by
  unfold ReferenceEditor.acceptSubmission
  split_ifs
  · exact h
  refine ⟨List.forall_mem_nil _, List.forall_mem_nil _, fun line hline => ?_⟩
  have hkept : line ∈ keep r.history r.line := hline
  unfold keep at hkept
  split_ifs at hkept
  · exact h.history line hkept
  · rcases List.mem_append.mp ((forget_suffix _).subset hkept) with hold | hnew
    · exact h.history line hold
    · rw [List.mem_singleton.mp hnew]
      exact h.line

theorem Clean.run {actions : List Action} : ∀ {r : ReferenceEditor}, r.Clean →
    (r.run actions).2.Clean := by
  induction actions with
  | nil => exact fun h => h
  | cons action actions ih =>
      intro r h
      cases action with
      | event event => exact ih (h.apply event)
      | acceptSubmission => exact ih h.acceptSubmission

theorem clean_new : new.Clean :=
  ⟨List.forall_mem_nil _, List.forall_mem_nil _, List.forall_mem_nil _⟩

end ReferenceEditor

/-- Whatever has been done to an editor, its line is redrawn, up to the end of the frame, and what the
frame shows of the line has no control in it. -/
theorem redraw_inert (actions : List Action) : ∃ outcomes editor redraw,
    (Editor.new.run actions : Outcome ε _) = .ok (outcomes, editor) ∧
    (editor.redraw : Outcome ε _) = .ok redraw ∧
    ∃ shown back, (∀ byte ∈ shown, 0x20 ≤ byte.toNat ∧ byte.toNat ≠ 0x7f) ∧
      shown <:+: editor.line.take editor.len ∧
      ∀ rooms, ∃ redraw', (redraw.reads rooms : Outcome ε _) =
        .ok ((promptAndErase ++ (shown ++ cursorBackText back)).take rooms.sum, redraw') := by
  obtain ⟨editor, hrun, hrefines⟩ := @run_follows ε actions _ _ new_refines
  have hclean := @ReferenceEditor.Clean.run actions _ ReferenceEditor.clean_new
  generalize ReferenceEditor.new.run actions = reached at *
  obtain ⟨outcomes, reference⟩ := reached
  have hmirrors := hrefines.mirrors (ε := ε)
  obtain ⟨w, redraw, hnew, hshows⟩ := Redraw.new_run (ε := ε) hmirrors.boundary
  have hparts : reference.line = w.before ++ ((w.left ++ w.right) ++ w.after) := by
    rw [List.append_assoc, ← w.line_eq, String.toList_ofList]
  refine ⟨_, editor, redraw, hrun, ?_, encoded (w.left ++ w.right), w.right.length, ?_, ?_,
    fun rooms => ?_⟩
  · unfold Editor.redraw
    rw [hmirrors.line, ok_bind, hnew]
  · refine Printable.bytes fun ch hch => hclean.line ch ?_
    rw [hparts]
    exact List.mem_append_right _ (List.mem_append_left _ hch)
  · have hbytes := congrArg encoded hparts
    rw [encoded_append, encoded_append (w.left ++ w.right)] at hbytes
    rw [hmirrors.bytes]
    exact ⟨_, _, (List.append_assoc ..).trans hbytes.symm⟩
  · obtain ⟨redraw', hreads, -⟩ := @Redraw.reads_run ε _ _ w rooms _ _ hshows
    exact ⟨redraw', hreads⟩

/-! ## The history and the draft -/

namespace ReferenceEditor

variable {r : ReferenceEditor}

def after (event : InputEvent) (r : ReferenceEditor) : ReferenceEditor := (r.apply event).2

theorem run_append (xs ys : List Action) : r.run (xs ++ ys) =
    ((r.run xs).1 ++ ((r.run xs).2.run ys).1, ((r.run xs).2.run ys).2) := by
  induction xs generalizing r with
  | nil => rfl
  | cons action xs ih =>
      cases action with
      | event event =>
          rw [List.cons_append, ReferenceEditor.run, ih]
          rfl
      | acceptSubmission => exact ih

theorem run_replicate (event : InputEvent) (n : Nat) :
    (r.run (List.replicate n (.event event))).2 = (after event)^[n] r := by
  induction n generalizing r with
  | zero => rfl
  | succ n ih =>
      rw [List.replicate_succ, Function.iterate_succ_apply]
      exact ih

/-- The line is put aside. -/
def drafted (r : ReferenceEditor) : ReferenceEditor :=
  { r with draft := r.line, draftCursor := r.cursor }

/-- The line of this age stands in for it. -/
def aged (r : ReferenceEditor) (age : Nat) : ReferenceEditor := (r.drafted.browse age).2

theorem after_up_idle (hidle : r.submissionPending = false) (hbrowsing : r.browsing = none)
    (hhistory : r.history ≠ []) : after .up r = r.aged 0 := by
  unfold after ReferenceEditor.apply
  rw [hidle]
  show r.up.2 = _
  unfold ReferenceEditor.up
  rw [if_neg hhistory, hbrowsing]
  rfl

theorem after_up_aged (hidle : r.submissionPending = false) (hhistory : r.history ≠ [])
    (age : Nat) :
    after .up (r.aged age) = if age + 1 < r.history.length then r.aged (age + 1) else r.aged age := by
  unfold after ReferenceEditor.apply
  rw [show (r.aged age).submissionPending = false from hidle]
  show (r.aged age).up.2 = _
  unfold ReferenceEditor.up
  rw [if_neg (show (r.aged age).history ≠ [] from hhistory)]
  show (if age + 1 < r.history.length then (r.aged age).browse (age + 1) else _).2 = _
  split_ifs <;> rfl

theorem after_down_aged (hidle : r.submissionPending = false) (hbrowsing : r.browsing = none)
    (age : Nat) :
    after .down (r.aged age) = if age = 0 then r.drafted else r.aged (age - 1) := by
  unfold after ReferenceEditor.apply
  rw [show (r.aged age).submissionPending = false from hidle]
  show (if age ≠ 0 then (r.aged age).browse (age - 1) else (EditOutcome.changed,
    { r.aged age with line := r.line, cursor := r.cursor, browsing := none })).2 = _
  rw [← hbrowsing]
  cases age <;> rfl

theorem ups (hidle : r.submissionPending = false) (hbrowsing : r.browsing = none)
    (hhistory : r.history ≠ []) (n : Nat) :
    (after .up)^[n + 1] r = r.aged (min n (r.history.length - 1)) := by
  have hpos := List.length_pos_of_ne_nil hhistory
  induction n with
  | zero => exact after_up_idle hidle hbrowsing hhistory
  | succ n ih =>
      rw [Function.iterate_succ_apply', ih, after_up_aged hidle hhistory]
      split_ifs <;> congr 1 <;> omega

theorem downs (hidle : r.submissionPending = false) (hbrowsing : r.browsing = none) (n : Nat) :
    ∀ {age : Nat}, age ≤ n → (after .down)^[n + 1] (r.aged age) = r.drafted := by
  have hstays : after .down r.drafted = r.drafted := by
    unfold after ReferenceEditor.apply
    rw [show r.drafted.submissionPending = false from hidle]
    show r.drafted.down.2 = _
    unfold ReferenceEditor.down
    rw [show r.drafted.browsing = none from hbrowsing]
  induction n with
  | zero =>
      intro age hage
      exact (after_down_aged hidle hbrowsing age).trans (if_pos (Nat.le_zero.mp hage))
  | succ n ih =>
      intro age hage
      rw [Function.iterate_succ_apply, after_down_aged hidle hbrowsing]
      split_ifs
      · exact Function.iterate_fixed hstays (n + 1)
      · exact ih (by omega)

theorem returns (hbrowsing : r.browsing = none) (n k : Nat) :
    ((r.run (List.replicate n (.event .up) ++ List.replicate (n + k) (.event .down))).2.line,
      (r.run (List.replicate n (.event .up) ++ List.replicate (n + k) (.event .down))).2.cursor) =
        (r.line, r.cursor) := by
  have hdown : after .down r = r := by
    unfold after ReferenceEditor.apply
    by_cases hpending : r.submissionPending = true
    · rw [if_pos hpending]
    · rw [if_neg hpending]
      show r.down.2 = r
      rw [ReferenceEditor.down, hbrowsing]
  rw [run_append, run_replicate, run_replicate]
  by_cases hup : after .up r = r
  · rw [Function.iterate_fixed hup, Function.iterate_fixed hdown]
  cases n with
  | zero =>
      rw [Function.iterate_zero_apply, Function.iterate_fixed hdown]
  | succ n =>
      have hidle : r.submissionPending = false := by
        refine Bool.eq_false_iff.mpr fun hpending => hup ?_
        rw [after, ReferenceEditor.apply, if_pos hpending]
      have hhistory : r.history ≠ [] := by
        refine fun hnone => hup ?_
        unfold after ReferenceEditor.apply
        rw [hidle]
        show r.up.2 = r
        rw [ReferenceEditor.up, if_pos hnone]
      rw [ups hidle hbrowsing hhistory, Nat.succ_add,
        downs hidle hbrowsing (n + k) (Nat.le_trans (Nat.min_le_left _ _) (Nat.le_add_right n k))]
      rfl

end ReferenceEditor

/-- Whoever goes back in the history and then forward at least as far finds the line as it was left, with
the cursor where it stood. -/
theorem browsing_returns (actions : List Action) (n k : Nat) : ∃ outcomes editor,
    (Editor.new.run actions : Outcome ε _) = .ok (outcomes, editor) ∧
    (editor.browsing = none → ∃ outcomes' editor',
      (editor.run (List.replicate n (.event .up) ++ List.replicate (n + k) (.event .down)) :
        Outcome ε _) = .ok (outcomes', editor') ∧
      editor'.line.take editor'.len = editor.line.take editor.len ∧
      editor'.cursor = editor.cursor) := by
  obtain ⟨editor, hrun, hrefines⟩ := @run_follows ε actions _ _ new_refines
  refine ⟨_, editor, hrun, fun hbrowsing => ?_⟩
  obtain ⟨editor', hrun', hrefines'⟩ := @run_follows ε (List.replicate n (.event .up) ++
    List.replicate (n + k) (.event .down)) _ _ hrefines
  have hmirrors := hrefines.mirrors (ε := ε)
  have hmirrors' := hrefines'.mirrors (ε := ε)
  obtain ⟨hline, hcursor⟩ :=
    Prod.mk.inj (ReferenceEditor.returns (hrefines.browsing.symm.trans hbrowsing) n k)
  refine ⟨_, editor', hrun', ?_, ?_⟩
  · rw [hmirrors.bytes, hmirrors'.bytes, hline]
  · rw [hmirrors.cursor, hmirrors'.cursor, hline, hcursor]

end Wyrmroot.Shell
