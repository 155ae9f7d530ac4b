import Wyrmroot.Launching.TransactionLaw

/-!
# Every sequence of calls on the arena

The law of one life, read off the history of the arena: over any calls with any
tokens, forged, closed or used before.
-/

namespace Wyrmroot.Launching

open Outcome LaunchTransactions

variable {h h₁ h₂ : List LaunchCall} {s s' : LaunchTransactions} {t : LaunchToken} {c : LaunchCall}

abbrev LaunchRun (h : List LaunchCall) (s : LaunchTransactions) : Prop :=
  Run exec (· = new) h s

theorem exec_ne_panic (op : Op) (s : LaunchTransactions) : (exec op s).1 ≠ .panic := by
  have heffect := exec_effect op s
  generalize (exec op s).1 = o, (exec op s).2.1 = s' at heffect
  cases heffect with
  | refused op e => exact err_ne_panic e
  | _ => exact ok_ne_panic _

/-- The history and the state agree on every transaction. -/
def Told (h : List LaunchCall) (s : LaunchTransactions) : Prop :=
  Sound s ∧ ∀ t, ∃ life, lifeAfter (story t h) = some life ∧ InLife s t life

theorem story_snoc (t : LaunchToken) (h : List LaunchCall) (c : LaunchCall) :
    story t (h ++ [c]) = story t h ++ (mark t c.op c.outcome).toList := filterMap_snoc _ _ _

theorem story_append (t : LaunchToken) (h h' : List LaunchCall) :
    story t (h ++ h') = story t h ++ story t h' := List.filterMap_append

theorem Told.call (htold : Told h s) (op : Op) :
    Told (h ++ [callOf exec op s]) (exec op s).2.1 := by
  have heffect := exec_effect op s
  refine ⟨heffect.sound htold.1, fun t => ?_⟩
  obtain ⟨life, hlife, hin⟩ := htold.2 t
  obtain ⟨life', hnext, hin'⟩ := heffect.tells htold.1 hin
  refine ⟨life', ?_, hin'⟩
  rw [story_snoc, lifeAfter_append, hlife]
  exact hnext

theorem LaunchRun.told (hrun : LaunchRun h s) : Told h s := by
  induction hrun with
  | start hs =>
      subst hs
      refine ⟨Sound.new, fun t => ⟨.fresh, rfl, ?_⟩⟩
      rintro ⟨hpos, i, -, hle⟩
      exact absurd hle (Nat.not_le_of_gt hpos)
  | call op hr hp ih => exact ih.call op

/-! ## Behind a close -/

theorem Effect.of_gone {op : Op} {o : Outcome LaunchTransactionError Reply}
    (heffect : Effect s op o s') (hlook : s.look t = none) (hissued : Issued s t) :
    (op.token? = some t → ∃ e, o = .err e) ∧ o ≠ .ok (.token t) ∧ o ≠ .ok (.found (some t)) := by
  have hnot : ∀ {u slot}, s.look u = some slot → some u ≠ some t := by
    intro u slot hu heq
    rw [Option.some.inj heq, hlook] at hu
    cases hu
  cases heffect with
  | refused op e => exact ⟨fun _ => ⟨e, rfl⟩, (ok_ne_err _ e).symm, (ok_ne_err _ e).symm⟩
  | answered query hslot =>
      refine ⟨fun htoken => absurd htoken (hnot hslot), ?_, ?_⟩
      · intro heq
        cases query <;> cases heq
      · intro heq
        cases query <;> cases heq
  | searched htoken hreply hfound =>
      refine ⟨fun h => ?_, fun heq => hreply t (ok.inj heq), fun heq => ?_⟩
      · rw [htoken] at h
        cases h
      · have hsome := hfound t (ok.inj heq)
        rw [hlook] at hsome
        cases hsome
  | @opened i grant session scope reservation hfree hgrant =>
      refine ⟨fun h => (by cases h), fun heq => ?_, fun heq => (by cases heq)⟩
      obtain rfl := Reply.token.inj (ok.inj heq)
      obtain ⟨-, j, hj, hle⟩ := hissued
      rw [Fin.ext hj] at hle
      exact absurd hle (Nat.not_succ_le_self _)
  | wrote hslot hwrites =>
      refine ⟨fun htoken => absurd (hwrites.token.symm.trans htoken) (hnot hslot), ?_, ?_⟩
      · exact fun heq => (hwrites.reply_ne t).1 (ok.inj heq)
      · exact fun heq => (hwrites.reply_ne t).2 (ok.inj heq)
  | closed hslot hstage hheld =>
      refine ⟨fun htoken => absurd htoken (hnot hslot), fun heq => ?_, fun heq => ?_⟩
      · cases ok.inj heq
      · cases ok.inj heq

theorem mark_close (hop : c.op = .close t) (hok : c.outcome.isOk = true) :
    mark t c.op c.outcome = some .closed := by
  obtain ⟨reply, hreply⟩ := exists_of_isOk hok
  rw [hop, hreply, mark, if_pos rfl]

theorem LaunchRun.closed (hrun : LaunchRun (h₁ ++ c :: h₂) s) (hop : c.op = .close t)
    (hok : c.outcome.isOk = true) :
    story t (h₁ ++ c :: h₂) = story t (h₁ ++ [c]) ∧ s.look t = none ∧ Issued s t := by
  obtain ⟨life, hlife, hin⟩ := hrun.told.2 t
  obtain ⟨hbefore, hc, -⟩ := hrun.split
  obtain ⟨first, hfirst, -⟩ := (LaunchRun.told hbefore).2 t
  have hsplit : story t (h₁ ++ c :: h₂) = story t h₁ ++ [.closed] ++ story t h₂ := by
    rw [List.append_cons, story_append, story_snoc, mark_close hop hok]
    rfl
  have hnext : lifeAfter (story t h₁ ++ [.closed]) = some .closed := by
    have hwhole := hlife
    rw [hsplit, lifeAfter_append, lifeAfter_snoc, hfirst] at hwhole
    rw [lifeAfter_snoc, hfirst]
    cases first with
    | live l =>
        by_cases hcomplete : l.stage = .complete ∧ l.held = none
        · exact if_pos hcomplete
        · rw [show (some (Life.live l) >>= fun life => life.next .closed) = none from
            if_neg hcomplete] at hwhole
          cases hwhole
    | fresh | closed => cases hwhole
  rw [hsplit] at hlife
  obtain ⟨hnone, rfl⟩ := lifeAfter_closed hnext hlife
  refine ⟨?_, hin⟩
  rw [hsplit, hnone, List.append_nil, story_snoc, mark_close hop hok]
  rfl

/-! ## The law of the arena -/

/-- What an open transaction holds. -/
def heldBy (s : LaunchTransactions) (t : LaunchToken) : Option LaunchResources :=
  (s.look t).bind (·.resources)

theorem heldBy_life {life : Life} (hin : InLife s t life)
    (hnone : life = .fresh → s.look t = none) :
    heldBy s t = life.held := by
  unfold heldBy
  cases life with
  | fresh =>
      rw [hnone rfl]
      rfl
  | live l =>
      obtain ⟨slot, hslot, rfl⟩ := hin
      rw [hslot]
      rfl
  | closed =>
      rw [hin.1]
      rfl

/-- What holds of any history of the arena and the state it leads to. -/
structure Governed (h : List LaunchCall) (s : LaunchTransactions) : Prop where
  total : ∀ c ∈ h, c.outcome ≠ .panic
  unchanged : ∀ c ∈ h, ∀ e, c.outcome = .err e → c.after = c.before
  /-- No two open transactions have one grant. -/
  apart : ∀ i j a b, s.slots i = some a → s.slots j = some b → a.grant = b.grant → i = j
  /-- What was attached has been handed out, in order, or is held. -/
  custody : ∀ t, attached (story t h) = taken (story t h) ++ (heldBy s t).toList
  emptied : ∀ h₁ c h₂ t, h = h₁ ++ c :: h₂ → c.op = .close t → c.outcome.isOk = true →
    heldBy c.before t = none
  /-- A closed token is refused from then on, and no call returns it. -/
  gone : ∀ h₁ c h₂ t, h = h₁ ++ c :: h₂ → c.op = .close t → c.outcome.isOk = true → ∀ later ∈ h₂,
    (later.op.token? = some t → ∃ e, later.outcome = .err e) ∧
      later.outcome ≠ .ok (.token t) ∧ later.outcome ≠ .ok (.found (some t))
  path : ∀ t, Path (stages (story t h)) ∧
    ∀ slot, s.look t = some slot → (stages (story t h)).getLast? = some slot.stage
  published : ∀ h₁ c h₂ t, h = h₁ ++ c :: h₂ → c.op = .advance t .published →
    c.outcome.isOk = true → (c.before.look t).map (·.stage) = some .awaitingReady ∧
      .failing ∉ stages (story t h)
  /-- The code that is reported is the first that was recorded. -/
  reported : ∀ h₁ c h₂ t failure, h = h₁ ++ c :: h₂ →
    (c.op = .query .failure t ∨ ∃ reason, c.op = .fail t reason) →
    c.outcome = .ok (.failure (some failure)) → firstCode (story t (h₁ ++ [c])) = some failure.code

theorem Told.held (htold : Told h s) (t : LaunchToken) :
    attached (story t h) = taken (story t h) ++ (heldBy s t).toList := by
  obtain ⟨life, hlife, hin⟩ := htold.2 t
  have hnone : life = .fresh → s.look t = none := by
    intro hfresh
    rw [hfresh] at hin
    cases hlook : s.look t with
    | none => rfl
    | some slot => exact absurd (htold.1.issued hlook) hin
  rw [heldBy_life hin hnone]
  exact (Law.of_life hlife).custody

theorem Told.law (htold : Told h s) {slot : LaunchSlot} (hlook : s.look t = some slot) :
    Law (story t h) (.live slot.live) := by
  obtain ⟨life, hlife, hin⟩ := htold.2 t
  exact htold.1.live hlook hin ▸ Law.of_life hlife

theorem LaunchRun.effect (hrun : LaunchRun (h₁ ++ c :: h₂) s) :
    Effect c.before c.op c.outcome c.after ∧ Told h₁ c.before ∧ Told (h₁ ++ [c]) c.after := by
  obtain ⟨hbefore, hc, -⟩ := hrun.split
  have htold := LaunchRun.told hbefore
  have heffect : Effect c.before c.op c.outcome c.after := by
    rw [hc]
    exact exec_effect c.op c.before
  have hafter : Told (h₁ ++ [c]) c.after := by
    rw [hc]
    exact htold.call c.op
  exact ⟨heffect, htold, hafter⟩

namespace Effect

variable {reply : Reply}

theorem unchanged {op : Op} {e : LaunchTransactionError}
    (h : Effect s op (.err e) s') : s' = s := by
  cases h
  rfl

theorem advanced {next : LaunchStage} (h : Effect s (.advance t next) (.ok reply) s') :
    ∃ slot, s.look t = some slot ∧ slot.stage.mayAdvanceTo next = true := by
  cases h with
  | searched htoken => cases htoken
  | wrote hlook hwrites =>
      cases hwrites with
      | advanced h => exact ⟨_, hlook, h⟩

theorem closes (h : Effect s (.close t) (.ok reply) s') : heldBy s t = none := by
  cases h with
  | searched htoken => cases htoken
  | wrote hlook hwrites => cases hwrites
  | closed hlook hstage hheld =>
      rw [heldBy, hlook]
      exact hheld

theorem reported {op : Op} {failure : LaunchFailure}
    (hop : op = .query .failure t ∨ ∃ reason, op = .fail t reason)
    (h : Effect s op (.ok (.failure (some failure))) s') :
    ∃ slot, s'.look t = some slot ∧ slot.failure = some failure := by
  rcases hop with rfl | ⟨reason, rfl⟩
  · generalize hreply : (.ok (.failure (some failure)) : Outcome LaunchTransactionError Reply) = o at h
    cases h with
    | refused op e => cases hreply
    | searched htoken => cases htoken
    | answered query hlook => exact ⟨_, hlook, (Reply.failure.inj (ok.inj hreply)).symm⟩
    | wrote hlook hwrites => cases hwrites
  · generalize hreply : (.ok (.failure (some failure)) : Outcome LaunchTransactionError Reply) = o at h
    cases h with
    | refused op e => cases hreply
    | searched htoken => cases htoken
    | wrote hlook hwrites =>
        have hkeeps := hwrites.keeps
        have hlook' := look_putSlot hlook hkeeps.1 hkeeps.2.1
        cases hwrites with
        | failed reason =>
            exact ⟨_, (hlook' t).trans (if_pos rfl), (Reply.failure.inj (ok.inj hreply)).symm⟩

end Effect

/-- Every sequence of calls on the arena is governed. -/
theorem launch_arena (ops : List Op) :
    Governed (replay exec ops new).1 (replay exec ops new).2 := by
  have hrun : LaunchRun (replay exec ops new).1 (replay exec ops new).2 :=
    @replay_run _ _ _ _ _ exec (· = new) (fun _ => True) (fun _ _ => trivial)
      (fun op s _ => ⟨exec_ne_panic op s, trivial⟩) new rfl ops
  generalize (replay exec ops new).1 = h, (replay exec ops new).2 = s at hrun
  have htold := hrun.told
  constructor
  · intro c hc
    obtain ⟨-, -, hpanic⟩ := hrun.mem hc
    exact hpanic
  · intro c hc e herr
    obtain ⟨h₁, h₂, rfl⟩ := List.append_of_mem hc
    obtain ⟨heffect, -, -⟩ := hrun.effect
    rw [herr] at heffect
    exact heffect.unchanged
  · exact htold.1.apart
  · exact htold.held
  · intro h₁ c h₂ t hh hop hok
    subst hh
    obtain ⟨heffect, -, -⟩ := hrun.effect
    obtain ⟨reply, hreply⟩ := exists_of_isOk hok
    rw [hop, hreply] at heffect
    exact heffect.closes
  · intro h₁ c h₂ t hh hop hok later hlater
    subst hh
    obtain ⟨a, b, rfl⟩ := List.append_of_mem hlater
    rw [← List.cons_append, ← List.append_assoc] at hrun
    obtain ⟨hbefore, -, -⟩ := hrun.split
    obtain ⟨-, hlook, hissued⟩ := LaunchRun.closed hbefore hop hok
    exact hrun.effect.1.of_gone hlook hissued
  · intro t
    obtain ⟨life, hlife, -⟩ := htold.2 t
    exact ⟨(Law.of_life hlife).path, fun slot hlook => (htold.law hlook).stage _ rfl⟩
  · intro h₁ c h₂ t hh hop hok
    subst hh
    obtain ⟨heffect, -, -⟩ := hrun.effect
    obtain ⟨reply, hreply⟩ := exists_of_isOk hok
    rw [hop, hreply] at heffect
    obtain ⟨slot, hlook, hstage⟩ := heffect.advanced
    constructor
    · have hready : slot.stage = .awaitingReady := by
        revert hstage
        cases slot.stage <;> decide
      rw [hlook, Option.map_some, hready]
    · obtain ⟨life, hlife, -⟩ := htold.2 t
      refine (Law.of_life hlife).apart ?_
      have hmark : mark t c.op c.outcome = some (.advanced .published) := by
        rw [hop, hreply, mark, if_pos rfl]
      rw [List.append_cons, story_append, story_snoc, hmark]
      exact List.mem_filterMap.mpr ⟨.advanced .published, by simp, rfl⟩
  · intro h₁ c h₂ t failure hh hop hok
    subst hh
    obtain ⟨heffect, -, htold'⟩ := hrun.effect
    rw [hok] at heffect
    obtain ⟨slot, hlook, hfailure⟩ := heffect.reported hop
    rw [← (htold'.law hlook).code _ rfl]
    exact congrArg (Option.map _) hfailure

end Wyrmroot.Launching
