import Wyrmroot.Consoled.Bounds

/-!
# Identities and custody

Where the numbers of a session come from, and who holds a launch. A transaction
that is held and not committed is the pending launch, and no transaction of a
launch that is being cleaned up is held: that is why `commit_child_launch` can
do without a check for it. It is so while the process has one `ConsoleModel`;
`Calls` says why. `Sound` is everything that every call keeps.
-/

namespace Wyrmroot.Consoled

open Outcome ConsoleModel

structure Identities (state : ConnectionState) (serial : Option SerialCorrelation)
    (console : Option Nat) (child : Option ChildSession) (launch : Option LaunchIdentity)
    (nextGeneration : Nat) : Prop where
  ofNext : 0 < nextGeneration ∧ nextGeneration < 2 ^ 64
  ofSerial : ∀ s ∈ serial, s.connected = true
  ofConsole : ∀ g ∈ console, 0 < g ∧ g < nextGeneration
  ofLaunch : ∀ id ∈ launch,
    0 < id.childGeneration ∧ id.childGeneration < nextGeneration ∧ id.childLaunch ≠ 0
  ofChild : ∀ c ∈ child, c.ids.complete = true ∧ c.ids.childGeneration < nextGeneration ∧
    serial = some c.ids.serial ∧ console = some c.ids.consoleGeneration
  ofPeers : state = .active → ∀ c ∈ child, c.allPeersLive = true

abbrev ConsoleModel.identities (m : ConsoleModel) : Prop :=
  Identities m.state m.serial m.consoleGeneration m.child m.pendingLaunch m.nextGeneration

namespace Identities

variable {state state' : ConnectionState} {serial : Option SerialCorrelation}
  {console : Option Nat} {child : Option ChildSession} {launch : Option LaunchIdentity}
  {nextGeneration next' : Nat}

theorem later (h : Identities state serial console child launch nextGeneration)
    (hle : nextGeneration ≤ next') (hlt : next' < 2 ^ 64) :
    Identities state serial console child launch next' where
  ofNext := ⟨h.ofNext.1.trans_le hle, hlt⟩
  ofSerial := h.ofSerial
  ofConsole g hg := ⟨(h.ofConsole g hg).1, (h.ofConsole g hg).2.trans_le hle⟩
  ofLaunch id hid := ⟨(h.ofLaunch id hid).1, (h.ofLaunch id hid).2.1.trans_le hle, (h.ofLaunch id hid).2.2⟩
  ofChild c hc := ⟨(h.ofChild c hc).1, (h.ofChild c hc).2.1.trans_le hle, (h.ofChild c hc).2.2⟩
  ofPeers := h.ofPeers

theorem inactive (h : Identities state serial console child launch nextGeneration)
    (hstate : state' ≠ .active) : Identities state' serial console child launch nextGeneration :=
  { h with ofPeers := fun hactive => absurd hactive hstate }

theorem unlaunched (h : Identities state serial console child launch nextGeneration) :
    Identities state serial console child none nextGeneration :=
  { h with ofLaunch := by rintro _ ⟨⟩ }

theorem childless (h : Identities state serial console child launch nextGeneration) :
    Identities state' serial console none launch nextGeneration :=
  { h with ofChild := by rintro _ ⟨⟩, ofPeers := by rintro _ _ ⟨⟩ }

theorem disconnected (h : Identities state serial console child launch nextGeneration)
    (hchild : child = none) : Identities state' none none child launch nextGeneration := by
  subst hchild
  exact { h with
    ofSerial := by rintro _ ⟨⟩
    ofConsole := by rintro _ ⟨⟩
    ofChild := by rintro _ ⟨⟩
    ofPeers := by rintro _ _ ⟨⟩ }

theorem closed (h : Identities state serial console child launch nextGeneration)
    {c c' : ChildSession} (hchild : child = some c) (hids : c'.ids = c.ids)
    (hstate : state' ≠ .active) :
    Identities state' serial console (some c') launch nextGeneration := by
  refine { h with ofChild := ?_, ofPeers := fun hactive => absurd hactive hstate }
  rintro _ ⟨⟩
  rw [hids]
  exact h.ofChild c hchild

theorem attached (h : Identities state serial console child launch nextGeneration)
    (hchild : child = none) (hroom : nextGeneration + 1 < 2 ^ 64) {s : SerialCorrelation}
    (hs : s.connected = true) :
    Identities .active (some s) (some nextGeneration) child launch (nextGeneration + 1) := by
  subst hchild
  have hlater := h.later (Nat.le_succ _) hroom
  refine { hlater with ofSerial := ?_, ofConsole := ?_, ofChild := ?_, ofPeers := ?_ }
  · rintro _ ⟨⟩
    exact hs
  · rintro _ ⟨⟩
    exact ⟨h.ofNext.1, Nat.lt_succ_self _⟩
  · rintro _ ⟨⟩
  · rintro _ _ ⟨⟩

theorem launching (h : Identities state serial console child launch nextGeneration)
    (hroom : nextGeneration + 1 < 2 ^ 64) {id : LaunchIdentity}
    (hid : id.childGeneration = nextGeneration) (hlaunch : id.childLaunch ≠ 0) :
    Identities state serial console child (some id) (nextGeneration + 1) := by
  refine { h.later (Nat.le_succ _) hroom with ofLaunch := ?_ }
  rintro _ ⟨⟩
  rw [hid]
  exact ⟨h.ofNext.1, Nat.lt_succ_self _, hlaunch⟩

theorem launched (h : Identities state serial console child launch nextGeneration)
    {tx : LaunchTransaction} {childJob : UInt64} (hserial : serial = some tx.serial)
    (hconsole : console = some tx.consoleGeneration) (hjob : childJob ≠ 0)
    (hlaunch : launch = some tx.identity) :
    Identities state serial console (some (tx.session childJob)) none nextGeneration := by
  obtain ⟨hpos, hlt, hid⟩ := h.ofLaunch _ hlaunch
  have hcomplete : (tx.session childJob).ids.complete = true := by
    have hne : tx.consoleGeneration ≠ 0 := (h.ofConsole _ hconsole).1.ne'
    have hne' : tx.childGeneration ≠ 0 := hpos.ne'
    have hid' : tx.childLaunch ≠ 0 := hid
    simp [SessionIds.complete, LaunchTransaction.session, h.ofSerial _ hserial, hne, hne', hjob, hid']
  have hlive : (tx.session childJob).allPeersLive = true := by
    simp [ChildSession.allPeersLive, LaunchTransaction.session]
  refine { h.unlaunched with ofChild := ?_, ofPeers := ?_ }
  · rintro _ ⟨⟩
    exact ⟨hcomplete, hlt, hserial, hconsole⟩
  · rintro _ _ ⟨⟩
    exact hlive

end Identities

variable {m m' : ConsoleModel} {op : Op} {o : Outcome ModelError Reply}

theorem identities_new : ConsoleModel.new.identities where
  ofNext := by decide
  ofSerial := by rintro _ ⟨⟩
  ofConsole := by rintro _ ⟨⟩
  ofLaunch := by rintro _ ⟨⟩
  ofChild := by rintro _ ⟨⟩
  ofPeers := by rintro ⟨⟩

theorem identities_moves (h : m.identities) (hlife : m.lifecycle) (hmove : Moves m op o m') :
    m'.identities := by
  have hfailed : ConnectionState.failClosed ≠ .active := by decide
  have hretiring : ConnectionState.retiringChild ≠ .active := by decide
  have hreaping : ConnectionState.awaitingReap ≠ .active := by decide
  cases hmove with
  | failed | reconnectFailed | lostIdleFailed => exact h.inactive hfailed
  | launchFailed _ hle _ hbound =>
      refine (h.inactive hfailed).later hle ?_
      rcases hbound with hlt | rfl
      · exact hlt
      · exact h.ofNext.2
  | serialExhausted => exact h.inactive (by rintro ⟨⟩)
  | attached _ hstate hserial _ _ hroom =>
      exact h.attached (hlife.ofReconnecting hstate).2.1 hroom hserial
  | launching _ _ _ _ _ _ hlaunch hroom => exact h.launching hroom rfl hlaunch
  | launched _ _ _ _ _ hserial hconsole hjob hpending => exact h.launched hserial hconsole hjob hpending
  | aborted => exact h.unlaunched
  | abortedAfterLoss _ _ _ _ hchild => exact h.unlaunched.disconnected hchild
  | abortFailed => exact h.unlaunched.inactive hfailed
  | retire _ _ _ hchild _ hids => exact h.closed hchild hids hretiring
  | terminal | terminated => exact h.inactive hreaping
  | closed _ _ hstate hchild _ hids =>
      refine h.closed hchild hids ?_
      show m.state ≠ .active
      rcases hstate with hstate | hstate
      · exact hstate ▸ hretiring
      · exact hstate ▸ hreaping
  | lostChild => exact h.inactive hretiring
  | lostIdle _ _ _ _ _ hchild => exact h.disconnected hchild
  | replaced | escalated | cleanupFailed => exact h.childless
  | cleaned =>
      have hchildless : Identities .reconnecting _ _ none _ _ := h.childless
      exact hchildless.disconnected rfl
  | _ => exact h

/-! ## Custody -/

structure Custody (held : List LaunchTransaction) (launch cleanup : Option LaunchIdentity)
    (nextGeneration : Nat) : Prop where
  distinct : (held.map LaunchTransaction.childGeneration).Nodup
  issued : ∀ tx ∈ held, tx.childGeneration < nextGeneration
  pending : ∀ tx ∈ held, tx.committed = false → launch = some tx.identity
  taken : ∀ tx ∈ held, ∀ id ∈ cleanup, tx.childGeneration ≠ id.childGeneration

namespace Custody

variable {held held' : List LaunchTransaction} {launch cleanup : Option LaunchIdentity}
  {nextGeneration next' : Nat} {tx : LaunchTransaction}

theorem later (h : Custody held launch cleanup nextGeneration) (hle : nextGeneration ≤ next') :
    Custody held launch cleanup next' :=
  { h with issued := fun tx htx => (h.issued tx htx).trans_le hle }

theorem sublist (h : Custody held launch cleanup nextGeneration) (hsub : held'.Sublist held) :
    Custody held' launch cleanup nextGeneration where
  distinct := h.distinct.sublist (hsub.map _)
  issued tx htx := h.issued tx (hsub.subset htx)
  pending tx htx := h.pending tx (hsub.subset htx)
  taken tx htx := h.taken tx (hsub.subset htx)

theorem ne_of_mem_erase (h : Custody held launch cleanup nextGeneration) (htx : tx ∈ held)
    {other : LaunchTransaction} (hother : other ∈ held.erase tx) :
    other.childGeneration ≠ tx.childGeneration := by
  have hnodup := ((List.perm_cons_erase htx).map LaunchTransaction.childGeneration).nodup_iff.mp h.distinct
  rw [List.map_cons, List.nodup_cons] at hnodup
  exact fun heq => hnodup.1 (heq ▸ List.mem_map_of_mem hother)

theorem began (h : Custody held none cleanup nextGeneration) (hcleanup : cleanup = none)
    (hgeneration : tx.childGeneration = nextGeneration) :
    Custody (tx :: held) (some tx.identity) cleanup (nextGeneration + 1) := by
  subst hcleanup
  have hfresh : ∀ other ∈ held, other.childGeneration ≠ tx.childGeneration :=
    fun other hother heq => absurd (h.issued other hother) (by omega)
  refine ⟨?_, ?_, ?_, by rintro _ _ _ ⟨⟩⟩
  · refine List.nodup_cons.mpr ⟨fun hmem => ?_, h.distinct⟩
    obtain ⟨other, hother, heq⟩ := List.mem_map.mp hmem
    exact hfresh other hother heq
  · refine List.forall_mem_cons.mpr ⟨by omega, fun other hother => ?_⟩
    exact (h.issued other hother).trans (Nat.lt_succ_self _)
  · refine List.forall_mem_cons.mpr ⟨fun _ => rfl, fun other hother hopen => ?_⟩
    exact absurd (h.pending other hother hopen) (Option.some_ne_none _).symm

theorem exchanged (h : Custody held launch cleanup nextGeneration) (htx : tx ∈ held)
    {tx' : LaunchTransaction} {launch' : Option LaunchIdentity}
    (hgeneration : tx'.childGeneration = tx.childGeneration)
    (hopen : tx'.committed = false → launch' = some tx'.identity)
    (hothers : ∀ other ∈ held.erase tx, other.committed = false → launch' = some other.identity) :
    Custody (tx' :: held.erase tx) launch' cleanup nextGeneration := by
  have hsub := h.sublist (List.erase_sublist (a := tx))
  refine ⟨?_, ?_, ?_, ?_⟩
  · refine List.nodup_cons.mpr ⟨fun hmem => ?_, hsub.distinct⟩
    obtain ⟨other, hother, heq⟩ := List.mem_map.mp hmem
    exact h.ne_of_mem_erase htx hother (heq.trans hgeneration)
  · exact List.forall_mem_cons.mpr ⟨hgeneration ▸ h.issued tx htx, hsub.issued⟩
  · exact List.forall_mem_cons.mpr ⟨hopen, hothers⟩
  · refine List.forall_mem_cons.mpr ⟨fun id hid => ?_, hsub.taken⟩
    exact hgeneration ▸ h.taken tx htx id hid

theorem aborting (h : Custody held launch cleanup nextGeneration) (htx : tx ∈ held) :
    Custody (held.erase tx) launch (some tx.identity) nextGeneration := by
  refine { h.sublist List.erase_sublist with taken := ?_ }
  rintro other hother _ ⟨⟩
  exact h.ne_of_mem_erase htx hother

theorem aborted (h : Custody held launch cleanup nextGeneration) {id : LaunchIdentity}
    (hlaunch : launch = some id) (hcleanup : cleanup = some id) :
    Custody held none none nextGeneration := by
  refine { h with pending := fun tx htx hopen => ?_, taken := by rintro _ _ _ ⟨⟩ }
  obtain rfl := Option.some.inj (hlaunch.symm.trans (h.pending tx htx hopen))
  exact absurd rfl (h.taken tx htx _ hcleanup)

end Custody

theorem heldAfter_err (held : List LaunchTransaction) (op : Op) (e : ModelError) :
    (heldAfter held op (.err e)).Sublist held := by
  cases op
  case abortChildLaunch => exact List.erase_sublist
  all_goals exact List.Sublist.refl _

theorem moveChildPeer_eq_ok {tx tx' : LaunchTransaction} {kind : StreamKind} {endpoint : Endpoint}
    (h : tx.moveChildPeer kind = .ok (endpoint, tx')) : tx.committed = false ∧
      ∃ hindex, tx' = { tx with moved := tx.moved.set kind.index true hindex } := by
  unfold LaunchTransaction.moveChildPeer at h
  split_ifs at h with hclosed
  obtain ⟨-, rfl⟩ := Prod.mk.inj (Outcome.ok.inj h)
  simp only [Bool.or_eq_true, not_or, Bool.not_eq_true] at hclosed
  exact ⟨hclosed.1, _, rfl⟩

theorem custody_moves {held : List LaunchTransaction} (hlife : m.lifecycle)
    (h : Custody held m.pendingLaunch m.pendingLaunchCleanup m.nextGeneration)
    (hop : ∀ tx ∈ op.transaction, tx ∈ held) (hmove : Moves m op o m') :
    Custody (heldAfter held op o) m'.pendingLaunch m'.pendingLaunchCleanup m'.nextGeneration := by
  cases hmove with
  | refused | failed => exact h.sublist (heldAfter_err held op _)
  | attached => exact h.later (Nat.le_succ _)
  | launching _ _ _ _ _ hlaunch =>
      rw [hlaunch] at h
      exact h.began (hlife.noCleanup hlaunch) rfl
  | launchFailed _ hle => exact h.later hle
  | @moved tx tx' _ _ hmove =>
      obtain ⟨hopen, _, rfl⟩ := moveChildPeer_eq_ok hmove
      have htx := hop tx rfl
      refine h.exchanged htx rfl (fun _ => h.pending tx htx hopen) fun other hother => ?_
      exact h.pending other (List.mem_of_mem_erase hother)
  | @launched tx _ _ _ _ _ _ _ _ _ hpending =>
      have htx := hop tx rfl
      refine h.exchanged htx rfl (by rintro ⟨⟩) fun other hother hopen => ?_
      have hsame := hpending.symm.trans (h.pending other (List.mem_of_mem_erase hother) hopen)
      have hgeneration := congrArg LaunchIdentity.childGeneration (Option.some.inj hsame)
      exact absurd hgeneration.symm (h.ne_of_mem_erase htx hother)
  | @aborting tx => exact h.aborting (hop tx rfl)
  | aborted hlaunch hcleanup | abortedAfterLoss hlaunch hcleanup | abortFailed hlaunch hcleanup =>
      exact h.aborted hlaunch hcleanup
  | retire hretires => cases hretires <;> exact h
  | closed hcloses => cases hcloses <;> exact h
  | reservedNothing hreserves => cases hreserves <;> exact h
  | _ => exact h

/-! ## Every run -/

structure World.Sound (w : World) : Prop where
  lifecycle : w.model.lifecycle
  reserving : w.model.reserving
  timing : w.model.timing
  identities : w.model.identities
  custody : Custody w.held w.model.pendingLaunch w.model.pendingLaunchCleanup w.model.nextGeneration

theorem sound_new : World.new.Sound where
  lifecycle := lifecycle_new
  reserving := reserving_new
  timing := timing_new
  identities := identities_new
  custody := ⟨List.nodup_nil, List.forall_mem_nil _, List.forall_mem_nil _, List.forall_mem_nil _⟩

variable {w : World}

theorem World.Sound.regular (h : w.Sound) : w.model.Regular where
  input := h.reserving.ofInput
  stdout := h.reserving.ofQueue .stdout
  stderr := h.reserving.ofQueue .stderr
  stdin r hr := (h.reserving.ofStdin r hr).2.2
  tx r hr source hsource := by
    obtain ⟨-, source', hsource', hle⟩ := h.reserving.ofTx r hr
    obtain rfl := Option.some.inj (hsource.symm.trans hsource')
    exact hle
  childWindow := h.timing.ofChildWindow
  failure := h.timing.ofFailure
  serialWindow := h.timing.ofSerialWindow
  stable := h.timing.ofStable
  console := h.lifecycle.ofSerial
  ready hactive child hchild :=
    ⟨(h.identities.ofChild child hchild).1, h.identities.ofPeers hactive child hchild⟩

theorem World.Sound.entitled (h : w.Sound) {op : Op} (hop : ∀ tx ∈ op.transaction, tx ∈ w.held) :
    Entitled w.model op := fun tx htx => h.custody.taken tx (hop tx htx)

theorem exec_moves (h : w.Sound) (op : Op) :
    (op.transaction.isSome = true ∧ exec op w = (.ok .notHeld, w, [])) ∨
    (∀ tx ∈ op.transaction, tx ∈ w.held) ∧ Moves w.model op (exec op w).1
    (exec op w).2.1.model := by
  by_cases hop : ∀ tx ∈ op.transaction, tx ∈ w.held
  · refine .inr ⟨hop, ?_⟩
    rw [exec, if_pos hop]
    exact perform_moves h.regular op
  · refine .inl ⟨?_, by rw [exec, if_neg hop]⟩
    refine Option.isSome_iff_ne_none.mpr fun hnone => hop ?_
    rw [hnone]
    rintro _ ⟨⟩

theorem exec_held {op : Op} (hop : ∀ tx ∈ op.transaction, tx ∈ w.held) :
    (exec op w).2.1.held = heldAfter w.held op (exec op w).1 := by
  rw [exec, if_pos hop]

theorem exec_sound (op : Op) (w : World) (h : w.Sound) : (exec op w).2.1.Sound := by
  rcases exec_moves h op with ⟨-, hnot⟩ | ⟨hop, hmove⟩
  · rw [hnot]
    exact h
  · exact {
      lifecycle := lifecycle_moves h.lifecycle (h.entitled hop) hmove
      reserving := reserving_moves h.reserving hmove
      timing := timing_moves h.timing hmove
      identities := identities_moves h.identities h.lifecycle hmove
      custody := exec_held hop ▸ custody_moves h.lifecycle h.custody hop hmove }

theorem run_sound (ops : List Op) : (replay exec ops World.new).2.Sound :=
  replay_keeps (P := fun _ w => w.Sound) (fun _ w op hw => exec_sound op w hw) ops (h := []) sound_new

theorem replay_sound_keeps {P : ConsoleModel → Prop}
    (hmoves : ∀ {w : World} {op : Op} {o : Outcome ModelError Reply} {m' : ConsoleModel},
      w.Sound → P w.model → Moves w.model op o m' → P m') (ops : List Op)
    (hsound : w.Sound) (hw : P w.model) : P (replay exec ops w).2.model := by
  have hkeeps : (replay exec ops w).2.Sound ∧ P (replay exec ops w).2.model := by
    refine replay_keeps (P := fun _ (w : World) => w.Sound ∧ P w.model) ?_ ops (h := []) ⟨hsound, hw⟩
    rintro _ w op ⟨hsound, hw⟩
    refine ⟨exec_sound op w hsound, ?_⟩
    rcases exec_moves hsound op with ⟨-, hnot⟩ | ⟨-, hmove⟩
    · rw [hnot]
      exact hw
    · exact hmoves hsound hw hmove
  exact hkeeps.2

end Wyrmroot.Consoled
