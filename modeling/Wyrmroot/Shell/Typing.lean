import Wyrmroot.Shell.Quoting
import Wyrmroot.Shell.Terminal
import Wyrmroot.Wrlj.StartupArguments

/-!
# From the keyboard to the child

A command is typed, decoded, edited, parsed, sent as a launch message, read by the
controller and laid out for the child. What the child finds as its arguments are the
words that were meant, however they were quoted.
-/

namespace Wyrmroot.Shell

open Outcome
open Wrlj (Reservation Content LaunchValid ChildSees hasNul parseMessage)
open Loader (StartupBlockV2Plan startupV2BlockBytes startupV2BlockAddress)

variable {ε : Type}

/-! ## Typing -/

namespace ReferenceEditor

theorem after_insert {r : ReferenceEditor} {ch : Char} (hidle : r.submissionPending = false)
    (hend : r.cursor = r.line.length) (hprintable : isPrintableScalar ch = true)
    (hroom : (encoded (r.line ++ [ch])).length ≤ maxLineBytes) :
    after (.insert ch) r = { r with line := r.line ++ [ch], cursor := (r.line ++ [ch]).length } := by
  have hfits : ¬ maxLineBytes < (encoded (ch :: r.line)).length := by
    rw [length_encoded_snoc] at hroom
    rw [encoded_cons, List.length_append]
    omega
  have hline : r.line.insertIdx r.line.length ch = r.line ++ [ch] := by
    have hback := insertIdx_length r.line [] ch
    rwa [List.append_nil] at hback
  unfold after ReferenceEditor.apply
  rw [if_neg (Bool.eq_false_iff.mp hidle)]
  show (r.insert ch).2 = _
  unfold ReferenceEditor.insert
  rw [hprintable, Bool.not_true, if_neg Bool.false_ne_true, if_neg hfits, hend, hline, List.length_append]
  rfl

theorem run_typed {text : List Char} : ∀ {r : ReferenceEditor}, r.submissionPending = false →
    r.cursor = r.line.length → Printable text → (encoded (r.line ++ text)).length ≤ maxLineBytes →
      (r.run ((text.flatMap fun ch => InputDecoder.insertion (ch.utf8Size - 1) ch).map .event)).2 =
        { r with line := r.line ++ text, cursor := (r.line ++ text).length } := by
  induction text with
  | nil =>
      intro r hidle hend _ _
      rw [List.append_nil, ← hend]
      rfl
  | cons ch text ih =>
      intro r hidle hend hprintable hroom
      obtain ⟨hch, htext⟩ := List.forall_mem_cons.mp hprintable
      have hsplit : r.line ++ ch :: text = r.line ++ [ch] ++ text :=
        (List.append_assoc r.line [ch] text).symm
      rw [hsplit] at hroom ⊢
      have hfirst : (encoded (r.line ++ [ch])).length ≤ maxLineBytes := by
        rw [encoded_append, List.length_append] at hroom
        omega
      have hstays : after .none r = r := by
        unfold after ReferenceEditor.apply
        rw [hidle]
        rfl
      rw [List.flatMap_cons, List.map_append, run_append, InputDecoder.insertion, List.map_append,
        List.map_replicate, run_append, run_replicate, Function.iterate_fixed hstays]
      show ((after (.insert ch) r).run _).2 = _
      rw [after_insert hidle hend hch hfirst]
      exact ih hidle rfl htext hroom

end ReferenceEditor

theorem feed_return {d : InputDecoder} (hd : d.isPending = false) :
    ∃ next, d.feed 13 = .ok (.submit, next) := by
  have hidle : d.utf8Len = 0 ∧ d.escape = .none := by simpa [InputDecoder.isPending] using hd
  refine ⟨{ d with suppressLf := true }, ?_⟩
  simp [InputDecoder.feed, InputDecoder.groundByte, InputDecoder.isPending, hidle]

theorem typed_run {text : List Char} (hprintable : Printable text)
    (hroom : (encoded text).length ≤ maxLineBytes) : ∃ events decoder outcomes editor,
    InputDecoder.new.feedAll (encoded text ++ [13]) = .ok (events, decoder) ∧
      (Editor.new.run (events.map .event) : Outcome ε _) = .ok (outcomes, editor) ∧
      outcomes.getLast? = some .submitted ∧ editor.line.take editor.len = encoded text := by
  obtain ⟨last, hfeed, hlast⟩ := @InputDecoder.feedAll_text text hprintable InputDecoder.new rfl
  obtain ⟨decoder, hreturn⟩ := feed_return hlast
  have htyped := @ReferenceEditor.run_typed text ReferenceEditor.new rfl rfl hprintable hroom
  have hrun := InputDecoder.feedAll_snoc hfeed hreturn
  generalize text.flatMap (fun ch => InputDecoder.insertion (ch.utf8Size - 1) ch) = events at *
  have hreference := @ReferenceEditor.run_append .new (events.map .event) [.event .submit]
  rw [htyped] at hreference
  obtain ⟨editor, hedit, hrefines⟩ := @run_follows ε (events.map .event ++ [.event .submit]) _ _
    new_refines
  have hbytes := (hrefines.mirrors (ε := ε)).bytes
  rw [hreference] at hbytes hedit
  rw [show [Action.event .submit] = [InputEvent.submit].map .event from rfl, ← List.map_append] at hedit
  refine ⟨_, decoder, _, editor, hrun, hedit, ?_, hbytes⟩
  show (_ ++ [EditOutcome.submitted]).getLast? = _
  exact List.getLast?_concat

/-! ## The launch -/

theorem launchMessage_text {r : Reservation} {path : String} {argv : Arguments}
    {typed : List String}
    (hr : r.Valid) (hvalid : LaunchValid path typed []) (hcount : argv.ranges.length ≤ Wrlj.maxArgv)
    (htyped : argv.AreTyped typed) (streams : Bool) :
    launchMessage r path argv streams = .ok ((Content.launch path typed [] streams).text r) := by
  have hfill : argv.ranges.foldlM (fillArgument argv.text) [] = .ok typed :=
    fillArguments_ok htyped (by simpa using hcount)
  have hsmall := hvalid.small streams
  have hroom : ((Content.launch path typed [] streams).text r).length ≤
      (List.replicate maxLaunchMessageBytes (0 : UInt8)).length := by
    have hmax : maxLaunchMessageBytes = 72 + (64 + 64) * 8 + 3 * 8 + 256 + 16384 := by decide
    rw [Content.length_text_launch, List.length_replicate, hmax, Wrlj.launchSize,
      Wrlj.launchFixedBytes, Wrlj.recordBytes, List.length_nil]
    omega
  rw [launchMessage, hfill, ok_bind]
  have hencode := Wrlj.encodeContent_run hr (c := .launch path typed [] streams) hvalid hroom
  rw [show Wrlj.encodeLaunch r path typed [] streams (List.replicate maxLaunchMessageBytes 0) = _
    from hencode]
  dsimp only
  rw [List.take_left]

/-- Typed and entered, the line is a command with these words, and those behind the path are what a child
that is launched with it finds as its arguments. -/
def ReachesChild (ε : Type) (r : Reservation) (line : String) (words : List String) : Prop :=
  ∃ events decoder outcomes editor args,
    InputDecoder.new.feedAll (utf8 line ++ [13]) = .ok (events, decoder) ∧
    (Editor.new.run (events.map .event) : Outcome ε _) = .ok (outcomes, editor) ∧
    outcomes.getLast? = some .submitted ∧
    parse (editor.line.take editor.len) = .ok args ∧
    args.AreTyped words ∧
    ∀ path argv, (args.command = .ok (.run path argv) ∨ args.command = .ok (.spawn path argv)) →
      ∀ streams, ∃ bytes request plan, launchMessage r path argv streams = .ok bytes ∧
        parseMessage bytes (if streams then 3 else 0) = .ok ⟨r, .launch request⟩ ∧
        request.Reads path words.tail [] streams ∧
        StartupBlockV2Plan.new startupV2BlockBytes startupV2BlockAddress path words.tail [] =
          .ok plan ∧ ChildSees plan words.tail []

/-- However the words of a command are quoted, they are what the launched child finds. -/
theorem typed_reaches_child {words texts : List String} {r : Reservation} (hr : r.Valid)
    (hcount : words.length ≤ maxArguments) (hnul : ∀ word ∈ words, Char.ofNat 0 ∉ word.toList)
    (hspells : List.Forall₂ (fun word text => Grammar.Spells word.toList text.toList) words texts)
    (hline : (utf8 (" ".intercalate texts)).length ≤ maxLineBytes)
    (hprintable : Printable (" ".intercalate texts).toList) :
    ReachesChild ε r (" ".intercalate texts) words := by
  unfold ReachesChild
  rw [utf8_eq_encoded] at hline ⊢
  obtain ⟨events, decoder, outcomes, editor, hfeed, hrun, hsubmitted, hbytes⟩ :=
    typed_run (ε := ε) hprintable hline
  rw [← utf8_eq_encoded] at hbytes hline
  have hagrees := parse_agrees (utf8 (" ".intercalate texts))
  rw [reference_spelled hcount hnul hspells hline] at hagrees
  obtain ⟨args, hargs, htyped, -⟩ := hagrees
  refine ⟨events, decoder, outcomes, editor, args, hfeed, hrun, hsubmitted, hbytes ▸ hargs, htyped,
    fun path argv hcommand streams => ?_⟩
  have hsound := (parse_yields (utf8 (" ".intercalate texts))).2 args hargs
  obtain rfl : argv = args.tail := by
    rcases hcommand with h | h
    · exact (command_launchPath h (.inl rfl)).2
    · exact (command_launchPath h (.inr rfl)).2
  have htail : args.tail.AreTyped words.tail := by
    unfold Arguments.AreTyped Arguments.tail at *
    rw [List.map_tail, htyped, List.map_tail]
  obtain ⟨hvalid, hlength, -⟩ := launchValid_of_command hsound hcommand htail
  have hmessage := launchMessage_text hr hvalid hlength htail streams
  have hcontent : (Content.launch path words.tail [] streams).Valid := hvalid
  obtain ⟨m, hm⟩ := Content.exists_message hcontent
  obtain ⟨request, rfl, hreads⟩ := Wrlj.carries_message hcontent hm
  have hclean : hasNul words.tail [] = false := by
    unfold hasNul
    rw [List.append_nil, List.any_eq_false]
    intro word hword
    have hmem : word ∈ words := List.mem_of_mem_tail (List.mem_of_mem_drop hword)
    rw [utf8_eq_encoded, Grammar.contains_nul]
    exact mt List.contains_iff_mem.mp (hnul word hmem)
  have hplan := Wrlj.plan_of_launch hvalid
  rw [hclean] at hplan
  exact ⟨_, request, _, hmessage, Wrlj.parseMessage_iff.mpr ⟨_, hr, hcontent, rfl, hm, rfl⟩, hreads, hplan,
    Wrlj.plan_childSees hplan⟩

theorem typed_reaches_child_quoted : ReachesChild Empty Wrlj.oneReservation
    (" ".intercalate ["'run'", "'bin/ls'", "''"]) ["run", "bin/ls", ""] := by
  have hquoted : ∀ word text : String, text.toList = Grammar.singleQuoted word.toList →
      Grammar.apostrophe ∉ word.toList → Grammar.Spells word.toList text.toList :=
    fun word text heq hplain => heq ▸ Grammar.spells_single hplain
  refine typed_reaches_child (by decide) (by decide) (by decide +kernel)
    (.cons (hquoted _ _ ?_ ?_) (.cons (hquoted _ _ ?_ ?_) (.cons (hquoted _ _ ?_ ?_) .nil)))
    (by decide +kernel) (List.all_eq_true.mp ?_)
  all_goals decide +kernel

end Wyrmroot.Shell
