import Wyrmroot.Launching.TransactionLife

/-!
# The arena keeps lives apart

A call on the arena does one of six things (`Effect`), and to the transaction of
any token it does what its mark says (`Effect.tells`): the arena is a family of
lives, one for each token, and a token that has been closed names none of them
again. So what a transaction may do in its life holds of every sequence of calls
(`launch_arena`).
-/

namespace Wyrmroot.Launching

open Function Outcome
open Loader (LaunchProfile checkedAdd checkedAdd_eq_some)
open Succession (EndpointGrant)

variable {s s' : LaunchTransactions} {t u : LaunchToken} {slot slot' : LaunchSlot} {α : Type}

namespace LaunchTransactions

/-- The slot of an open transaction. -/
def look (s : LaunchTransactions) (t : LaunchToken) : Option LaunchSlot :=
  (s.getSlot t.slot).filter fun slot => slot.opened && slot.generation = t.generation

theorem look_eq_some : s.look t = some slot ↔
    s.getSlot t.slot = some slot ∧ slot.opened = true ∧ slot.generation = t.generation := by
  simp [look, Option.filter_eq_some_iff]

theorem filter_stale (h : slot.generation ≠ u.generation) :
    ((some slot).filter fun slot => slot.opened && slot.generation = u.generation) = none := by
  simp [Option.filter, h]

theorem ne_generation (hne : u ≠ t) (hslot : u.slot = t.slot) : t.generation ≠ u.generation := by
  cases t
  cases u
  obtain rfl : _ = _ := hslot
  exact fun h => hne (congrArg (LaunchToken.mk _) h.symm)

theorem getSlot_val (s : LaunchTransactions) (i : Fin launchTransactionSlots) :
    s.getSlot i.val = s.slots i := by
  simp [getSlot]

theorem exists_of_getSlot {index : Nat} (h : s.getSlot index = some slot) :
    ∃ i : Fin launchTransactionSlots, i.val = index ∧ s.slots i = some slot := by
  unfold getSlot at h
  split_ifs at h with hindex
  exact ⟨⟨index, hindex⟩, rfl, h⟩

theorem getSlot_putSlot {index j : Nat} {x : Option LaunchSlot} (h : s.getSlot index = some slot) :
    (putSlot index x s).getSlot j = if j = index then x else s.getSlot j := by
  obtain ⟨i, rfl, -⟩ := exists_of_getSlot h
  unfold getSlot putSlot
  by_cases hj : j < launchTransactionSlots
  · rw [dif_pos hj, dif_pos hj]
  · rw [dif_neg hj, dif_neg hj, if_neg]
    rintro rfl
    exact hj i.isLt

theorem putSlot_same (h : s.look t = some slot) : putSlot t.slot (some slot) s = s := by
  obtain ⟨i, hi, hslot⟩ := exists_of_getSlot (look_eq_some.mp h).1
  have hslots : (fun j : Fin launchTransactionSlots => if j.val = t.slot then some slot else s.slots j) =
      s.slots := by
    funext j
    split_ifs with hj
    · rw [← hslot, Fin.ext (hj.trans hi.symm)]
    · rfl
  unfold putSlot
  rw [hslots]

/-! ## Reaching a slot -/

theorem slot_run (t : LaunchToken) (s : LaunchTransactions) : LaunchTransactions.slot t s =
    match s.look t with
    | some slot => (.ok slot, s, [])
    | none => (.err .stale, s, []) := by
  unfold LaunchTransactions.slot look
  rw [Prog.get_bind_run]
  cases s.getSlot t.slot with
  | none => rfl
  | some slot =>
      rw [Prog.okOr_some, pure_bind, Option.filter_some]
      cases hopen : slot.opened <;> by_cases hgen : slot.generation = t.generation <;>
        simp [hgen, Prog.bind_run]

theorem slotMut_run {body : OnSlot α} (h : s.look t = some slot) : slotMut t body s =
    ((body slot).1, putSlot t.slot (some (body slot).2.1) s, (body slot).2.2) := by
  have hrun : LaunchTransactions.slot t s = (.ok slot, s, []) := by rw [slot_run, h]
  unfold slotMut
  rw [Prog.bind_run_ok hrun, Prog.within]
  cases hbody : (body slot).1 <;> simp [mapErr]

theorem slotMut_stale {body : OnSlot α} (h : s.look t = none) :
    slotMut t body s = (.err .stale, s, []) := by
  have hrun : LaunchTransactions.slot t s = (.err .stale, s, []) := by rw [slot_run, h]
  exact Prog.bind_run_err hrun

theorem findToken_look {p : LaunchSlot → Bool} {order : List (Fin launchTransactionSlots)}
    (h : s.findToken p order = some t) : (s.look t).isSome = true := by
  obtain ⟨i, -, hi⟩ := List.exists_of_findSome?_eq_some h
  cases hslot : s.slots i with
  | none =>
      rw [hslot] at hi
      cases hi
  | some slot =>
      simp only [hslot, Option.ite_none_right_eq_some, Bool.and_eq_true] at hi
      obtain ⟨⟨hopen, -⟩, ht⟩ := hi
      obtain rfl := Option.some.inj ht
      exact Option.isSome_iff_exists.mpr
        ⟨slot, look_eq_some.mpr ⟨(getSlot_val s i).trans hslot, hopen, rfl⟩⟩

end LaunchTransactions

open LaunchTransactions

/-! ## What a call can do -/

def Query.reply (slot : LaunchSlot) : Query → Reply
  | .stage => .stage slot.stage
  | .scope => .scope slot.scope
  | .responseEnvelope => .envelope (slot.session, slot.reservation)
  | .grant => .grant slot.grant
  | .jobId => .jobId slot.jobId
  | .resources => .resources slot.resources
  | .profile => .profile slot.profile
  | .requestFacts => .requestFacts slot.requestFacts
  | .triggerAction => .triggerAction slot.triggerAction
  | .readyDeadline => .readyDeadline slot.readyDeadline
  | .failure => .failure slot.failure

/-- What a call writes into the slot of its token. -/
inductive Writes (token : LaunchToken) (old : LaunchSlot) : Op → LaunchSlot → Reply → Prop
  | advanced {next : LaunchStage} (h : old.stage.mayAdvanceTo next = true) :
      Writes token old (.advance token next) { old with stage := next } .done
  | attachedJob (jobId : Nat) : Writes token old (.attachJob token jobId) { old with jobId } .done
  | attached (profile : LaunchProfile) (resources : LaunchResources) (h : old.resources = none) :
      Writes token old (.attachResources token profile resources)
        { old with profile := some profile, resources := some resources } .done
  | taken : Writes token old (.takeResources token) { old with resources := none }
      (.resources old.resources)
  | attachedFacts (facts : LaunchRequestFacts) :
      Writes token old (.attachRequestFacts token facts) { old with requestFacts := some facts } .done
  | attachedAction (action : E8RecoveryAction) : Writes token old (.attachTriggerAction token action)
      { old with triggerAction := some action } .done
  | armed (deadline : Nat) : Writes token old (.armReadyDeadline token deadline)
      { old with readyDeadline := some deadline } .done
  | failed (failure : LaunchFailure) : Writes token old (.fail token failure)
      { old with failure := some (merged old.failure failure) }
      (.failure (some (merged old.failure failure)))

inductive Effect (before : LaunchTransactions) :
    Op → Outcome LaunchTransactionError Reply → LaunchTransactions → Prop
  | refused (op : Op) (e : LaunchTransactionError) : Effect before op (.err e) before
  | answered {token : LaunchToken} {old : LaunchSlot} (query : Query)
      (hlook : before.look token = some old) :
      Effect before (.query query token) (.ok (query.reply old)) before
  | searched {op : Op} {reply : Reply} (htoken : op.token? = none)
      (hreply : ∀ token, reply ≠ .token token)
      (hfound : ∀ token, reply = .found (some token) → (before.look token).isSome = true) :
      Effect before op (.ok reply) before
  | opened {i : Fin launchTransactionSlots} {grant : EndpointGrant} {session : Nat}
      {scope : LaunchSessionScope} {reservation : Wrlj.Reservation} (hfree : before.slots i = none)
      (hgrant : ∀ j old, before.slots j = some old → old.opened = true → old.grant ≠ grant) :
      Effect before (.openLaunch grant session scope reservation)
        (.ok (.token ⟨i, before.generations i + 1⟩))
        (place i (openedSlot (before.generations i + 1) grant session scope reservation) before)
  | wrote {op : Op} {token : LaunchToken} {old after : LaunchSlot} {reply : Reply}
      (hlook : before.look token = some old) (h : Writes token old op after reply) :
      Effect before op (.ok reply) (putSlot token.slot (some after) before)
  | closed {token : LaunchToken} {old : LaunchSlot} (hlook : before.look token = some old)
      (hstage : old.stage = .complete) (hheld : old.resources = none) :
      Effect before (.close token) (.ok (.jobId old.jobId))
        (retire token.slot old.generation (putSlot token.slot none before))

/-- A program that has one of the effects of a call. -/
def Does (op : Op) (m : Arena Reply) (s : LaunchTransactions) : Prop :=
  Effect s op (m s).1 (m s).2.1

variable {f : α → Reply} {e : LaunchTransactionError}

theorem does_reject {op : Op} {c : Bool} {m : Arena α}
    (h : c = false → Does op (f <$> m) s) : Does op
    (f <$> (.lift (rejectIf c e) >>= fun _ => m)) s := by
  cases c with
  | false => exact h rfl
  | true => exact .refused op e

theorem does_slot {op : Op} {m : LaunchSlot → Arena α}
    (h : ∀ slot, s.look t = some slot → Does op (f <$> m slot) s) :
    Does op (f <$> (LaunchTransactions.slot t >>= m)) s := by
  cases hlook : s.look t with
  | none =>
      have hrun : LaunchTransactions.slot t s = (.err .stale, s, []) := by rw [slot_run, hlook]
      unfold Does
      rw [Prog.map_run, Prog.bind_run_err hrun]
      exact .refused op .stale
  | some slot =>
      have hrun : LaunchTransactions.slot t s = (.ok slot, s, []) := by rw [slot_run, hlook]
      have hdoes := h slot hlook
      unfold Does at hdoes ⊢
      rw [Prog.map_run] at hdoes ⊢
      rw [Prog.bind_run_ok hrun]
      exact hdoes

theorem does_slotMut {op : Op} {body : OnSlot α} (hbody : ∀ slot, s.look t = some slot →
      (∃ e w, body slot = (.err e, slot, w)) ∨
        ∃ a slot' w, body slot = (.ok a, slot', w) ∧ Writes t slot op slot' (f a)) :
    Does op (f <$> slotMut t body) s := by
  unfold Does
  rw [Prog.map_run]
  cases hlook : s.look t with
  | none =>
      rw [slotMut_stale hlook]
      exact .refused op .stale
  | some slot =>
      rw [slotMut_run hlook]
      rcases hbody slot hlook with ⟨e, w, hrun⟩ | ⟨a, slot', w, hrun, hwrites⟩
      · rw [hrun]
        show Effect s op (.err e) (putSlot t.slot (some slot) s)
        rw [putSlot_same hlook]
        exact .refused op e
      · rw [hrun]
        exact .wrote hlook hwrites

theorem does_checked {op : Op} {c : LaunchSlot → Bool} {write : LaunchSlot → LaunchSlot}
    (hwrites : ∀ slot, c slot = false → Writes t slot op (write slot) .done) :
    Does op ((fun _ => .done) <$> slotMut t (do
      let slot ← .get
      .lift (rejectIf (c slot) e)
      .modify write)) s := by
  refine does_slotMut fun slot _ => ?_
  rw [Prog.get_bind_run]
  cases hc : c slot with
  | true => exact .inl ⟨e, [], rfl⟩
  | false => exact .inr ⟨(), write slot, [], rfl, hwrites slot hc⟩

theorem read_run (field : LaunchSlot → α) (f : α → Reply) (t : LaunchToken)
    (s : LaunchTransactions) : (f <$> LaunchTransactions.read field t) s =
      match s.look t with
      | some slot => (.ok (f (field slot)), s, [])
      | none => (.err .stale, s, []) := by
  rw [Prog.map_run, LaunchTransactions.read, Prog.bind_run, slot_run]
  cases s.look t <;> rfl

theorem answer_run (query : Query) (t : LaunchToken) (s : LaunchTransactions) :
    answer t query s = match s.look t with
      | some slot => (.ok (query.reply slot), s, [])
      | none => (.err .stale, s, []) := by
  cases query <;> exact read_run _ _ t s

theorem openLaunch_does (grant : EndpointGrant) (session : Nat) (scope : LaunchSessionScope)
    (reservation : Wrlj.Reservation) (s : LaunchTransactions) :
    Does (.openLaunch grant session scope reservation)
      (.token <$> openLaunch grant session scope reservation) s := by
  unfold openLaunch
  refine does_reject fun _ => ?_
  unfold Does
  rw [Prog.map_run, Prog.get_bind_run, ← Prog.map_run]
  refine does_reject fun hbusy => ?_
  unfold Does
  cases hindex : position fun i => (s.slots i).isNone && !s.retired i with
  | none => exact .refused _ .capacity
  | some i =>
      rw [Prog.okOr_some, pure_bind]
      cases hgeneration : checkedAdd (s.generations i) 1 with
      | none => exact .refused _ .generationExhausted
      | some generation =>
          rw [Prog.okOr_some, pure_bind]
          obtain ⟨-, rfl⟩ := checkedAdd_eq_some.mp hgeneration
          have hfree := position_some hindex
          rw [Bool.and_eq_true, Option.isNone_iff_eq_none] at hfree
          refine .opened hfree.1 fun j slot hslot hopen hgrant => ?_
          rw [List.any_eq_false] at hbusy
          exact hbusy j (List.mem_finRange j) (by simp [hslot, hopen, hgrant])

theorem close_does (t : LaunchToken) (s : LaunchTransactions) :
    Does (.close t) (.jobId <$> close t) s := by
  refine does_slot fun slot hlook => does_reject fun hstage => does_reject fun hheld => ?_
  have hcomplete : slot.stage = .complete := by simpa using hstage
  exact .closed hlook hcomplete (Option.isNone_iff_eq_none.mp (Option.isSome_eq_false_iff.mp hheld))

theorem exec_effect (op : Op) (s : LaunchTransactions) :
    Effect s op (exec op s).1 (exec op s).2.1 := by
  cases op with
  | openLaunch grant session scope reservation => exact openLaunch_does ..
  | query query t =>
      rw [exec, answer_run]
      cases hlook : s.look t with
      | none => exact .refused _ .stale
      | some slot => exact .answered query hlook
  | sessionTransaction grant | awaitingReadyFrom start =>
      refine .searched rfl (fun _ => Reply.noConfusion) fun t ht => ?_
      exact findToken_look (Reply.found.inj ht)
  | jobTransaction jobId =>
      refine .searched rfl (fun _ => Reply.noConfusion) fun t ht => ?_
      have hfound := Reply.found.inj ht
      split_ifs at hfound
      exact findToken_look hfound
  | openCount => exact .searched rfl (fun _ => Reply.noConfusion) fun _ => Reply.noConfusion
  | advance t next =>
      exact does_checked fun slot hcheck => .advanced (Bool.not_eq_eq_eq_not.mp hcheck)
  | attachJob t jobId => exact does_reject fun _ => does_checked fun slot _ => .attachedJob jobId
  | attachResources t profile resources =>
      refine does_reject fun _ => does_checked fun slot hcheck => ?_
      exact .attached profile resources (Option.isNone_iff_eq_none.mp (Option.isSome_eq_false_iff.mp hcheck))
  | takeResources t => exact does_slotMut fun slot _ => .inr ⟨_, _, _, rfl, .taken⟩
  | attachRequestFacts t facts =>
      refine does_slot fun slot _ => does_reject fun _ => ?_
      exact does_checked (c := fun slot => slot.requestFacts.isSome) fun slot _ => .attachedFacts facts
  | attachTriggerAction t action => exact does_checked fun slot _ => .attachedAction action
  | armReadyDeadline t deadline =>
      exact does_slotMut fun slot _ => .inr ⟨(), _, _, rfl, .armed deadline⟩
  | fail t failure =>
      exact does_reject fun _ => does_slotMut fun slot _ => .inr ⟨_, _, _, rfl, .failed failure⟩
  | close t => exact close_does t s

/-! ## The marks of a call -/

/-- What a call says of the transaction of a token. -/
def mark (t : LaunchToken) : Op → Outcome LaunchTransactionError Reply → Option Mark
  | .openLaunch .., .ok (.token u) => if u = t then some .opened else none
  | .advance u next, .ok _ => if u = t then some (.advanced next) else none
  | .attachResources u _ resources, .ok _ => if u = t then some (.attached resources) else none
  | .takeResources u, .ok (.resources (some resources)) =>
      if u = t then some (.taken resources) else none
  | .fail u reason, .ok _ => if u = t then some (.failed reason) else none
  | .close u, .ok _ => if u = t then some .closed else none
  | _, _ => none

abbrev LaunchCall := Call Op LaunchTransactions Empty LaunchTransactionError Reply

/-- The marks of the transaction of a token in a history. -/
def story (t : LaunchToken) (h : List LaunchCall) : List Mark :=
  h.filterMap fun c => mark t c.op c.outcome

theorem mark_err (t : LaunchToken) (op : Op) (e : LaunchTransactionError) :
    mark t op (.err e) = none := by
  cases op <;> rfl

theorem mark_search {op : Op} {reply : Reply} (htoken : op.token? = none)
    (hreply : ∀ u, reply ≠ .token u) : mark t op (.ok reply) = none := by
  cases op with
  | openLaunch grant session scope reservation =>
      cases reply with
      | token u => exact absurd rfl (hreply u)
      | _ => rfl
  | sessionTransaction grant | awaitingReadyFrom start | jobTransaction jobId | openCount => rfl
  | _ => cases htoken

theorem mark_other {op : Op} (o : Outcome LaunchTransactionError Reply)
    (htoken : op.token? = some t) (hne : u ≠ t) : mark u op o = none := by
  cases op <;> cases htoken <;> cases o with
  | ok reply => cases reply with
    | resources r => cases r <;> simp [mark, hne.symm]
    | _ => simp [mark, hne.symm]
  | _ => rfl

/-! ## Lives in the arena -/

def LaunchSlot.live (slot : LaunchSlot) : Live := ⟨slot.stage, slot.resources, slot.failure⟩

/-- The generation of a token has been given out. -/
def Issued (s : LaunchTransactions) (t : LaunchToken) : Prop :=
  0 < t.generation ∧
    ∃ i : Fin launchTransactionSlots, i.val = t.slot ∧ t.generation ≤ s.generations i

def InLife (s : LaunchTransactions) (t : LaunchToken) : Life → Prop
  | .fresh => ¬ Issued s t
  | .live l => ∃ slot, s.look t = some slot ∧ slot.live = l
  | .closed => s.look t = none ∧ Issued s t

structure Sound (s : LaunchTransactions) : Prop where
  current : ∀ i slot, s.slots i = some slot →
    slot.opened = true ∧ slot.generation = s.generations i ∧ 0 < slot.generation
  apart : ∀ i j a b, s.slots i = some a → s.slots j = some b → a.grant = b.grant → i = j

theorem Sound.new : Sound new := ⟨fun _ _ h => (by cases h), fun _ _ _ _ h => (by cases h)⟩

theorem look_putSlot (h : s.look t = some slot) (hopen : slot'.opened = slot.opened)
    (hgeneration : slot'.generation = slot.generation) (u : LaunchToken) :
    (putSlot t.slot (some slot') s).look u = if u = t then some slot' else s.look u := by
  obtain ⟨hget, ho, hg⟩ := look_eq_some.mp h
  by_cases hu : u = t
  · rw [if_pos hu, look_eq_some, getSlot_putSlot hget, hu, if_pos rfl]
    exact ⟨rfl, hopen.trans ho, hgeneration.trans hg⟩
  · rw [if_neg hu]
    unfold look
    rw [getSlot_putSlot hget]
    by_cases hslot : u.slot = t.slot
    · have hne := ne_generation hu hslot
      have hne' : slot'.generation ≠ u.generation := (hgeneration.trans hg).symm ▸ hne
      rw [if_pos hslot, hslot, hget, filter_stale hne', filter_stale (hg.symm ▸ hne)]
    · rw [if_neg hslot]

theorem look_close (h : s.look t = some slot) (generation : Nat) (u : LaunchToken) :
    (retire t.slot generation (putSlot t.slot none s)).look u = if u = t then none else s.look u := by
  obtain ⟨hget, -, hg⟩ := look_eq_some.mp h
  show ((putSlot t.slot none s).getSlot u.slot).filter _ = _
  rw [getSlot_putSlot hget]
  by_cases hu : u = t
  · rw [if_pos hu, hu, if_pos rfl]
    rfl
  · rw [if_neg hu]
    by_cases hslot : u.slot = t.slot
    · rw [if_pos hslot, look, hslot, hget, filter_stale (hg.symm ▸ ne_generation hu hslot)]
      rfl
    · rw [if_neg hslot]
      rfl

variable {i : Fin launchTransactionSlots}

theorem look_place (hfree : s.slots i = none) (hopen : slot.opened = true) (u : LaunchToken) :
    (place i slot s).look u = if u = ⟨i, slot.generation⟩ then some slot else s.look u := by
  have hget : ∀ j, (place i slot s).getSlot j = if j = i.val then some slot else s.getSlot j := by
    intro j
    unfold getSlot
    by_cases hj : j < launchTransactionSlots
    · rw [dif_pos hj, dif_pos hj]
      show update s.slots i (some slot) ⟨j, hj⟩ = _
      rw [update_apply]
      exact if_congr Fin.ext_iff rfl rfl
    · rw [dif_neg hj, dif_neg hj, if_neg]
      rintro rfl
      exact hj i.isLt
  have hnone : s.getSlot i.val = none := (getSlot_val s i).trans hfree
  unfold look
  rw [hget]
  by_cases hu : u = ⟨i, slot.generation⟩
  · rw [if_pos hu, hu, if_pos rfl]
    simp [hopen]
  · rw [if_neg hu]
    by_cases hslot : u.slot = i.val
    · rw [if_pos hslot, hslot, hnone, filter_stale (ne_generation hu hslot)]
      rfl
    · rw [if_neg hslot]

theorem slots_place (i j : Fin launchTransactionSlots) :
    (place i slot s).slots j = if j = i then some slot else s.slots j := update_apply ..

theorem generations_place (i j : Fin launchTransactionSlots) :
    (place i slot s).generations j = if j = i then slot.generation else s.generations j :=
  update_apply ..

theorem issued_place {u : LaunchToken}
    (hgeneration : slot.generation = s.generations i + 1) (hne : u ≠ ⟨i, slot.generation⟩) :
    Issued (place i slot s) u ↔ Issued s u := by
  refine and_congr_right fun _ => exists_congr fun j => and_congr_right fun hj => ?_
  rw [generations_place]
  by_cases hji : j = i
  · have hgen : slot.generation ≠ u.generation :=
      ne_generation hne (hj.symm.trans (congrArg Fin.val hji))
    rw [if_pos hji, hji]
    omega
  · rw [if_neg hji]

/-! ## A call and a life -/

theorem Sound.issued (h : Sound s) (hlook : s.look t = some slot) : Issued s t := by
  obtain ⟨hget, -, hgeneration⟩ := look_eq_some.mp hlook
  obtain ⟨i, hi, hslot⟩ := exists_of_getSlot hget
  obtain ⟨-, hcurrent, hpos⟩ := h.current i slot hslot
  exact ⟨hgeneration ▸ hpos, i, hi, (hgeneration.symm.trans hcurrent).le⟩

variable {life : Life}

theorem Sound.live (h : Sound s) (hlook : s.look t = some slot)
    (hlife : InLife s t life) : life = .live slot.live := by
  cases life with
  | fresh => exact absurd (h.issued hlook) hlife
  | live l =>
      obtain ⟨slot', hlook', rfl⟩ := hlife
      rw [Option.some.inj (hlook.symm.trans hlook')]
  | closed =>
      rw [hlife.1] at hlook
      cases hlook

theorem InLife.congr (hlook : s'.look t = s.look t)
    (hissued : Issued s' t ↔ Issued s t) (h : InLife s t life) : InLife s' t life := by
  cases life with
  | fresh => exact fun h' => h (hissued.mp h')
  | live l =>
      obtain ⟨slot, hslot, hl⟩ := h
      exact ⟨slot, hlook.trans hslot, hl⟩
  | closed => exact ⟨hlook.trans h.1, hissued.mpr h.2⟩

namespace Writes

variable {op : Op} {reply : Reply}

theorem token (h : Writes t slot op slot' reply) : op.token? = some t := by
  cases h <;> rfl

theorem keeps (h : Writes t slot op slot' reply) :
    slot'.opened = slot.opened ∧ slot'.generation = slot.generation ∧ slot'.grant = slot.grant := by
  cases h <;> exact ⟨rfl, rfl, rfl⟩

theorem reply_ne (h : Writes t slot op slot' reply) (u : LaunchToken) :
    reply ≠ .token u ∧ reply ≠ .found (some u) := by
  cases h <;> exact ⟨Reply.noConfusion, Reply.noConfusion⟩

theorem tells (h : Writes t slot op slot' reply) :
    (mark t op (.ok reply)).toList.foldlM Life.next (.live slot.live) = some
    (.live slot'.live) := by
  cases h with
  | advanced h | attached profile resources h => simp [mark, Life.next, LaunchSlot.live, h]
  | attachedJob jobId | attachedFacts facts | attachedAction action | armed deadline => rfl
  | taken =>
      cases hheld : slot.resources with
      | none =>
          show some (Life.live ⟨slot.stage, slot.resources, slot.failure⟩) = _
          rw [hheld]
          rfl
      | some resources => simp [mark, Life.next, LaunchSlot.live, hheld]
  | failed failure => simp [mark, Life.next, LaunchSlot.live]

end Writes

namespace Effect

variable {op : Op} {o : Outcome LaunchTransactionError Reply}

theorem tells (h : Effect s op o s') (hsound : Sound s) (hlife : InLife s t life) :
    ∃ life', (mark t op o).toList.foldlM Life.next life = some life' ∧ InLife s' t life' := by
  cases h with
  | refused op e =>
      rw [mark_err]
      exact ⟨life, rfl, hlife⟩
  | answered query hlook => exact ⟨life, rfl, hlife⟩
  | searched htoken hreply hfound =>
      rw [mark_search htoken hreply]
      exact ⟨life, rfl, hlife⟩
  | @opened i grant session scope reservation hfree hgrant =>
      have hopen : (openedSlot (s.generations i + 1) grant session scope reservation).opened :=
        rfl
      have hlook := look_place (u := t) hfree hopen
      by_cases ht : t = ⟨i, s.generations i + 1⟩
      · have hnone : s.look t = none := by
          rw [look, ht, getSlot_val, hfree]
          rfl
        have hfresh : ¬ Issued s t := by
          rintro ⟨-, j, hj, hle⟩
          rw [ht] at hj hle
          rw [Fin.ext hj] at hle
          exact absurd hle (Nat.not_succ_le_self _)
        have hlife' : life = .fresh := by
          cases life with
          | fresh => rfl
          | live l =>
              obtain ⟨slot, hslot, -⟩ := hlife
              rw [hnone] at hslot
              cases hslot
          | closed => exact absurd hlife.2 hfresh
        refine ⟨.live ⟨.reserved, none, none⟩, ?_, _, hlook.trans (if_pos ht), rfl⟩
        rw [hlife', mark, if_pos ht.symm]
        rfl
      · refine ⟨life, ?_, hlife.congr (hlook.trans (if_neg ht)) (issued_place rfl ht)⟩
        rw [mark, if_neg (Ne.symm ht)]
        rfl
  | @wrote op token old after reply hlook hwrites =>
      obtain ⟨hopen, hgeneration, -⟩ := hwrites.keeps
      have hlook' := look_putSlot hlook hopen hgeneration t
      by_cases ht : t = token
      · rw [hsound.live (ht ▸ hlook) hlife, ht]
        exact ⟨_, hwrites.tells, _, ht ▸ hlook'.trans (if_pos ht), rfl⟩
      · rw [mark_other _ hwrites.token ht]
        exact ⟨life, rfl, hlife.congr (hlook'.trans (if_neg ht)) Iff.rfl⟩
  | @closed token old hlook hstage hheld =>
      have hlook' := look_close hlook old.generation t
      by_cases ht : t = token
      · refine ⟨.closed, ?_, hlook'.trans (if_pos ht), hsound.issued (ht ▸ hlook)⟩
        rw [hsound.live (ht ▸ hlook) hlife, mark, if_pos ht.symm]
        simp [Life.next, LaunchSlot.live, hstage, hheld]
      · rw [mark, if_neg (Ne.symm ht)]
        exact ⟨life, rfl, hlife.congr (hlook'.trans (if_neg ht)) Iff.rfl⟩

theorem sound (h : Effect s op o s') (hsound : Sound s) : Sound s' := by
  cases h with
  | refused op e | answered query hlook | searched htoken hreply hfound => exact hsound
  | @opened i grant session scope reservation hfree hgrant =>
      have hapart : ∀ j slot, s.slots j = some slot → slot.grant ≠ grant :=
        fun j slot hslot => hgrant j slot hslot (hsound.current j slot hslot).1
      constructor
      · intro j slot hslot
        rw [generations_place]
        rw [slots_place] at hslot
        split_ifs at hslot ⊢ with hj
        · obtain rfl := Option.some.inj hslot
          exact ⟨rfl, rfl, Nat.succ_pos _⟩
        · exact hsound.current j slot hslot
      · intro j k a b ha hb hab
        rw [slots_place] at ha hb
        split_ifs at ha hb with hj hk hk
        · rw [hj, hk]
        · obtain rfl := Option.some.inj ha
          exact absurd hab.symm (hapart k b hb)
        · obtain rfl := Option.some.inj hb
          exact absurd hab (hapart j a ha)
        · exact hsound.apart j k a b ha hb hab
  | @wrote op token old after reply hlook hwrites =>
      obtain ⟨hopen, hgeneration, hgrant⟩ := hwrites.keeps
      obtain ⟨i, hi, hslot⟩ := exists_of_getSlot (look_eq_some.mp hlook).1
      -- the slot of an entry is the old one, up to what is not written
      have hentry : ∀ j slot, (putSlot token.slot (some after) s).slots j = some slot →
          ∃ before, s.slots j = some before ∧ slot.opened = before.opened ∧
            slot.generation = before.generation ∧ slot.grant = before.grant := by
        intro j slot hj
        simp only [putSlot] at hj
        split_ifs at hj with hji
        · obtain rfl := Option.some.inj hj
          rw [Fin.ext (hji.trans hi.symm)]
          exact ⟨old, hslot, hopen, hgeneration, hgrant⟩
        · exact ⟨slot, hj, rfl, rfl, rfl⟩
      constructor
      · intro j slot hj
        obtain ⟨before, hbefore, ho, hg, -⟩ := hentry j slot hj
        obtain ⟨ho', hg', hpos⟩ := hsound.current j before hbefore
        exact ⟨ho.trans ho', hg.trans hg', hg ▸ hpos⟩
      · intro j k a b ha hb hab
        obtain ⟨a', ha', -, -, hga⟩ := hentry j a ha
        obtain ⟨b', hb', -, -, hgb⟩ := hentry k b hb
        exact hsound.apart j k a' b' ha' hb' (hga.symm.trans (hab.trans hgb))
  | @closed token old hlook hstage hheld =>
      have hentry : ∀ j slot, (putSlot token.slot none s).slots j = some slot →
          s.slots j = some slot := by
        intro j slot hj
        simp only [putSlot] at hj
        split_ifs at hj
        exact hj
      exact ⟨fun j slot hj => hsound.current j slot (hentry j slot hj),
        fun j k a b ha hb => hsound.apart j k a b (hentry j a ha) (hentry k b hb)⟩

end Effect

end Wyrmroot.Launching
