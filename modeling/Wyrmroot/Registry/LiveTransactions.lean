import Wyrmroot.Registry.ReplayProtection

/-!
# Live transactions

What keeps an id in a client's `live_transactions`: a pending watch, or an
enumeration that was begun and not completed. A ticket outlives its
enumeration, so this is exact as long as no completed enumeration is
completed again; presenting an old ticket once its id has left the replay
ring and belongs to a watch frees the id under the watch.
-/

namespace Wyrmroot.Registry

open Function RegistryState

/-- An enumeration of client `e` under the id `t` was begun. -/
def Begins (e : EndpointIdentity) (t : Nat) : TicketOp → Outcome RegistryError Reply → Prop
  | _, .ok (.begun ticket) => ticket.client = e ∧ ticket.transaction = t
  | _, _ => False

/-- An enumeration of client `e` under the id `t` was completed. -/
def Ends (e : EndpointIdentity) (t : Nat) : TicketOp → Outcome RegistryError Reply → Prop
  | .enumerationComplete ticket, .ok .enumerated => ticket.client = e ∧ ticket.transaction = t
  | _, _ => False

/-- Some pending watch of client `e` holds the id `t`. -/
def WatchHolds (s : RegistryState) (e : EndpointIdentity) (t : Nat) : Prop :=
  ∃ k w, s.watches k = some w ∧ w.client = e ∧ w.transaction = t

/-- `opened e t`: the enumerations that are open. Every live id has exactly
one reason to be live. -/
structure LiveExact (opened : EndpointIdentity → Nat → Prop) (s : RegistryState) : Prop where
  exact : ∀ i c, s.clients i = some c → ∀ t, t ∈ c.liveTransactions ↔
    WatchHolds s c.endpoint t ∨ opened c.endpoint t
  watch_unique : ∀ k k' w w', s.watches k = some w → s.watches k' = some w' →
    w.client = w'.client → w.transaction = w'.transaction → k = k'
  watch_closed : ∀ k w, s.watches k = some w → ¬ opened w.client w.transaction
  opened_issued : ∀ e t, opened e t → e.id ∈ s.issuedEndpointIds
  nodup : ∀ i c, s.clients i = some c → c.liveTransactions.Nodup

variable {o : Outcome RegistryError Reply} {evs : List TxEvent}

section Step

variable {opened : EndpointIdentity → Nat → Prop} {s s' : RegistryState}
  {opened' : EndpointIdentity → Nat → Prop}

theorem LiveExact.congr (h : LiveExact opened s)
    (heq : ∀ e t, opened' e t ↔ opened e t) : LiveExact opened' s := by
  have hfun : opened' = opened := funext fun e => funext fun t => propext (heq e t)
  exact hfun ▸ h

theorem LiveExact.frame (h : LiveExact opened s) (hwatches : s'.watches = s.watches)
    (hissued : s'.issuedEndpointIds = s.issuedEndpointIds)
    (hclients : ∀ i c, s'.clients i = some c → ∃ c₀, s.clients i = some c₀
      ∧ c.endpoint = c₀.endpoint ∧ (∀ t, t ∈ c.liveTransactions ↔ t ∈ c₀.liveTransactions)
      ∧ c.liveTransactions.Nodup) :
    LiveExact opened s' := by
  have hholds : ∀ e t, WatchHolds s' e t ↔ WatchHolds s e t := by
    intro e t
    simp [WatchHolds, hwatches]
  constructor
  · intro i c hc t
    obtain ⟨c₀, hc₀, hendpoint, hlive, -⟩ := hclients i c hc
    rw [hlive, hendpoint, hholds]
    exact h.exact i c₀ hc₀ t
  · rw [hwatches]
    exact h.watch_unique
  · rw [hwatches]
    exact h.watch_closed
  · rw [hissued]
    exact h.opened_issued
  · intro i c hc
    obtain ⟨-, -, -, -, hnodup⟩ := hclients i c hc
    exact hnodup

variable {i : Fin maxClients} {c : Client}

theorem LiveExact.frame_client (h : LiveExact opened s) {c' : Client}
    (hc : s.clients i = some c) (hclients : s'.clients = update s.clients i (some c'))
    (hwatches : s'.watches = s.watches) (hissued : s'.issuedEndpointIds = s.issuedEndpointIds)
    (hsame : c'.endpoint = c.endpoint)
    (hmem : ∀ t, t ∈ c'.liveTransactions ↔ t ∈ c.liveTransactions)
    (hnodup : c'.liveTransactions.Nodup) : LiveExact opened s' := by
  refine h.frame hwatches hissued fun i' d hd => ?_
  rw [hclients] at hd
  by_cases hi : i' = i
  · subst hi
    obtain rfl : c' = d := by simpa using hd
    exact ⟨c, hc, hsame, hmem, hnodup⟩
  · have hd' : s.clients i' = some d := by simpa [hi] using hd
    exact ⟨d, hd', rfl, fun _ => Iff.rfl, h.nodup i' d hd'⟩

theorem LiveExact.setClient (h : LiveExact opened s)
    (hcore : Core s) {c' : Client} (hc : s.clients i = some c)
    (hclients : s'.clients = update s.clients i (some c')) (hsame : c'.endpoint = c.endpoint)
    (hother : ∀ e t, e ≠ c.endpoint →
      (WatchHolds s' e t ∨ opened' e t ↔ WatchHolds s e t ∨ opened e t))
    (hexact : ∀ t, t ∈ c'.liveTransactions ↔
      WatchHolds s' c.endpoint t ∨ opened' c.endpoint t)
    (hunique : ∀ k k' w w', s'.watches k = some w → s'.watches k' = some w' →
      w.client = w'.client → w.transaction = w'.transaction → k = k')
    (hclosed : ∀ k w, s'.watches k = some w → ¬ opened' w.client w.transaction)
    (hissued : ∀ e t, opened' e t → e.id ∈ s'.issuedEndpointIds)
    (hnodup : c'.liveTransactions.Nodup) : LiveExact opened' s' := by
  have hcases : ∀ i' d, s'.clients i' = some d →
      d = c' ∨ (s.clients i' = some d ∧ d.endpoint ≠ c.endpoint) := by
    intro i' d hd
    rw [hclients] at hd
    by_cases hi : i' = i
    · subst hi
      exact Or.inl (by simpa using hd.symm)
    · have hd' : s.clients i' = some d := by simpa [hi] using hd
      exact Or.inr ⟨hd', fun heq => hi (hcore.client_unique i' i d c hd' hc (by rw [heq]))⟩
  refine ⟨fun i' d hd t => ?_, hunique, hclosed, hissued, fun i' d hd => ?_⟩
  · rcases hcases i' d hd with rfl | ⟨hd', hne⟩
    · rw [hsame]
      exact hexact t
    · rw [hother d.endpoint t hne]
      exact h.exact i' d hd' t
  · rcases hcases i' d hd with rfl | ⟨hd', -⟩
    · exact hnodup
    · exact h.nodup i' d hd'

variable {k : Fin maxPendingWatches} {w : PendingWatch}

theorem LiveExact.drop (h : LiveExact opened s) (hcore : Core s) (hk : s.watches k = some w)
    (hc : s.clients i = some c) (hendpoint : c.endpoint = w.client) :
    LiveExact opened (s.drop k i c w.transaction) := by
  have hold : ∀ k' w', (s.drop k i c w.transaction).watches k' = some w' ↔
      k' ≠ k ∧ s.watches k' = some w' := by
    intro k' w'
    by_cases hk' : k' = k <;> simp [RegistryState.drop, hk']
  have hholds : ∀ e t, WatchHolds (s.drop k i c w.transaction) e t ↔
      WatchHolds s e t ∧ ¬ (e = w.client ∧ t = w.transaction) := by
    intro e t
    constructor
    · rintro ⟨k', w', hw', rfl, rfl⟩
      obtain ⟨hne, hw''⟩ := (hold k' w').mp hw'
      exact ⟨⟨k', w', hw'', rfl, rfl⟩,
        fun heq => hne (h.watch_unique k' k w' w hw'' hk heq.1 heq.2)⟩
    · rintro ⟨⟨k', w', hw', rfl, rfl⟩, hne⟩
      refine ⟨k', w', (hold k' w').mpr ⟨fun heq => hne ?_, hw'⟩, rfl, rfl⟩
      obtain rfl := Option.some.inj (hk.symm.trans (heq ▸ hw'))
      exact ⟨rfl, rfl⟩
  refine h.setClient hcore hc rfl (by simp) (fun e t hne => ?_) (fun t => ?_)
    (fun k₁ k₂ w₁ w₂ h₁ h₂ => h.watch_unique k₁ k₂ w₁ w₂ ((hold k₁ w₁).mp h₁).2 ((hold k₂ w₂).mp h₂).2)
    (fun k' w' hw' => h.watch_closed k' w' ((hold k' w').mp hw').2) h.opened_issued
    (Client.nodup_complete (h.nodup i c hc))
  · have hne' : ¬ (e = w.client ∧ t = w.transaction) := fun heq => hne (heq.1.trans hendpoint.symm)
    rw [hholds, and_iff_left hne']
  · rw [Client.mem_complete (h.nodup i c hc), h.exact i c hc, hholds]
    by_cases ht : t = w.transaction
    · subst ht
      have hopen : ¬ opened c.endpoint w.transaction := hendpoint ▸ h.watch_closed k w hk
      simp [hendpoint, hendpoint ▸ hopen]
    · simp [ht]

theorem Drops.liveExact (hdrops : Drops s evs s') (hcore : Core s)
    (h : LiveExact opened s) : LiveExact opened s' := by
  induction hdrops with
  | nil => exact h
  | cons hk hc hendpoint _ ih => exact ih (hcore.drop hc) (h.drop hcore hk hc hendpoint)

theorem LiveExact.installClient (h : LiveExact opened s) (hcore : Core s)
    {g handle : Nat} {install : InstallClient} {clientIds : List Nat}
    (hfresh : FreshEndpoint s g ⟨install.endpointId, install.endpointGeneration⟩ handle) :
    LiveExact opened { s.setClient i (some (install.client handle)) with
      issuedEndpointIds := s.issuedEndpointIds ++ [install.endpointId],
      issuedClientIds := clientIds } := by
  have hnew : install.endpointId ∉ s.issuedEndpointIds := hfresh.fresh
  have hcases : ∀ i' c, (s.setClient i (some (install.client handle))).clients i' = some c →
      c = install.client handle ∨ s.clients i' = some c := by
    intro i' c hc
    by_cases heq : i' = i
    · subst heq
      exact Or.inl (by simpa using hc.symm)
    · exact Or.inr (by simpa [heq] using hc)
  refine ⟨fun i' c hc t => ?_, h.watch_unique, h.watch_closed, fun e t hopen => ?_,
    fun i' c hc => ?_⟩
  · rcases hcases i' c hc with rfl | hc'
    · have hholds : ¬ WatchHolds s (install.client handle).endpoint t := by
        rintro ⟨k, w, hw, hclient, -⟩
        obtain ⟨i₀, c₀, hc₀, hendpoint, -⟩ := hcore.watch_client k w hw
        have hissued := hcore.client_issued i₀ c₀ hc₀
        rw [hendpoint, hclient] at hissued
        exact hnew hissued
      have hopen : ¬ opened (install.client handle).endpoint t :=
        fun hopen => hnew (h.opened_issued _ _ hopen)
      constructor
      · exact fun hmem => absurd hmem List.not_mem_nil
      · rintro (hmem | hmem)
        · exact absurd hmem hholds
        · exact absurd hmem hopen
    · exact h.exact i' c hc' t
  · simp [h.opened_issued e t hopen]
  · rcases hcases i' c hc with rfl | hc'
    · exact List.nodup_nil
    · exact h.nodup i' c hc'

theorem LiveExact.closeClient (h : LiveExact opened s) (hcore : Core s)
    (hc : s.clients i = some c) :
    LiveExact opened { s.setClient i none with
      watches := fun k => (s.watches k).filter (·.client ≠ c.endpoint) } := by
  have hold : ∀ k w, (s.watches k).filter (·.client ≠ c.endpoint) = some w ↔
      s.watches k = some w ∧ w.client ≠ c.endpoint := by
    intro k w
    rw [Option.filter_eq_some_iff]
    simp
  have hcases : ∀ i' d, (s.setClient i none).clients i' = some d →
      s.clients i' = some d ∧ d.endpoint ≠ c.endpoint := by
    intro i' d hd
    by_cases hi : i' = i
    · simp [hi] at hd
    · have hd' : s.clients i' = some d := by simpa [hi] using hd
      exact ⟨hd', fun heq => hi (hcore.client_unique i' i d c hd' hc (by rw [heq]))⟩
  refine ⟨fun i' d hd t => ?_, fun k k' w w' hw hw' => ?_, fun k w hw => ?_, h.opened_issued,
    fun i' d hd => h.nodup i' d (hcases i' d hd).1⟩
  · obtain ⟨hd', hne⟩ := hcases i' d hd
    rw [h.exact i' d hd' t]
    refine or_congr_left ⟨?_, ?_⟩
    · rintro ⟨k, w, hw, hclient, htx⟩
      exact ⟨k, w, (hold k w).mpr ⟨hw, hclient ▸ hne⟩, hclient, htx⟩
    · rintro ⟨k, w, hw, hclient, htx⟩
      exact ⟨k, w, ((hold k w).mp hw).1, hclient, htx⟩
  · exact h.watch_unique k k' w w' ((hold k w).mp hw).1 ((hold k' w').mp hw').1
  · exact h.watch_closed k w ((hold k w).mp hw).1

variable {tx : Nat}

theorem LiveExact.accept (h : LiveExact opened s) (hcore : Core s) (hc : s.clients i = some c)
    (haccepts : c.Accepts tx) (hclients : s'.clients = update s.clients i (some (c.accept tx)))
    (hreason : ∀ e t, WatchHolds s' e t ∨ opened' e t ↔
      (WatchHolds s e t ∨ opened e t) ∨ (e = c.endpoint ∧ t = tx))
    (hunique : ∀ k k' w w', s'.watches k = some w → s'.watches k' = some w' →
      w.client = w'.client → w.transaction = w'.transaction → k = k')
    (hclosed : ∀ k w, s'.watches k = some w → ¬ opened' w.client w.transaction)
    (hissued : ∀ e t, opened' e t → e.id ∈ s'.issuedEndpointIds) : LiveExact opened' s' := by
  refine h.setClient hcore hc hclients rfl (fun e t hne => ?_) (fun t => ?_) hunique hclosed
    hissued ?_
  · rw [hreason]
    exact or_iff_left fun heq => hne heq.1
  · rw [hreason, ← h.exact i c hc t]
    simp [Client.accept]
  · exact List.nodup_append'.mpr ⟨h.nodup i c hc, by simp, by simpa using haccepts.not_live⟩

theorem LiveExact.free (h : LiveExact opened s)
    (hc : s.clients i = some c) (hnot : tx ∉ c.liveTransactions) :
    ¬ WatchHolds s c.endpoint tx ∧ ¬ opened c.endpoint tx := by
  rw [h.exact i c hc, not_or] at hnot
  exact hnot

theorem LiveExact.addWatch (h : LiveExact opened s) (hcore : Core s) (hc : s.clients i = some c)
    (haccepts : c.Accepts w.transaction) (hk : s.watches k = none)
    (hclient : w.client = c.endpoint) :
    LiveExact opened ((s.setClient i (some (c.accept w.transaction))).setWatch k (some w)) := by
  obtain ⟨hholds, hopen⟩ := h.free hc haccepts.not_live
  have hcases : ∀ k' w', update s.watches k (some w) k' = some w' ↔
      (k' = k ∧ w' = w) ∨ (k' ≠ k ∧ s.watches k' = some w') := by
    intro k' w'
    by_cases heq : k' = k <;> simp [heq, eq_comm]
  refine h.accept hcore hc haccepts rfl (fun e t => ?_) (fun k₁ k₂ w₁ w₂ h₁ h₂ hclients htxs => ?_)
    (fun k' w' hw' => ?_) h.opened_issued
  · have hnext : WatchHolds ((s.setClient i (some (c.accept w.transaction))).setWatch k (some w))
        e t ↔ WatchHolds s e t ∨ (e = c.endpoint ∧ t = w.transaction) := by
      constructor
      · rintro ⟨k', w', hw', rfl, rfl⟩
        rcases (hcases k' w').mp hw' with ⟨-, rfl⟩ | ⟨-, hw''⟩
        · exact Or.inr ⟨hclient, rfl⟩
        · exact Or.inl ⟨k', w', hw'', rfl, rfl⟩
      · rintro (⟨k', w', hw', rfl, rfl⟩ | ⟨rfl, rfl⟩)
        · have heq : k' ≠ k := fun heq => by simp [heq ▸ hw'] at hk
          exact ⟨k', w', (hcases k' w').mpr (Or.inr ⟨heq, hw'⟩), rfl, rfl⟩
        · exact ⟨k, w, (hcases k w).mpr (Or.inl ⟨rfl, rfl⟩), hclient, rfl⟩
    rw [hnext, or_right_comm]
  · rcases (hcases k₁ w₁).mp h₁ with ⟨rfl, rfl⟩ | ⟨-, h₁'⟩ <;>
      rcases (hcases k₂ w₂).mp h₂ with ⟨rfl, rfl⟩ | ⟨-, h₂'⟩
    · rfl
    · exact absurd ⟨k₂, w₂, h₂', hclients.symm.trans hclient, htxs.symm⟩ hholds
    · exact absurd ⟨k₁, w₁, h₁', hclients.trans hclient, htxs⟩ hholds
    · exact h.watch_unique k₁ k₂ w₁ w₂ h₁' h₂' hclients htxs
  · rcases (hcases k' w').mp hw' with ⟨-, rfl⟩ | ⟨-, hw''⟩
    · rw [hclient]
      exact hopen
    · exact h.watch_closed k' w' hw''

theorem LiveExact.cancel (h : LiveExact opened s) (hcore : Core s)
    (hc : s.clients i = some c) (haccepts : c.Accepts tx) (hk : s.watches k = some w)
    (hw : w.client = c.endpoint) :
    LiveExact opened ((s.setWatch k none).setClient i
      (some (((c.accept tx).complete w.transaction).complete tx))) := by
  have hnodup := h.nodup i c hc
  have haccepted : (c.accept tx).liveTransactions.Nodup :=
    List.nodup_append'.mpr ⟨hnodup, by simp, by simpa using haccepts.not_live⟩
  have hdone : ((c.accept tx).complete w.transaction).liveTransactions.Nodup :=
    Client.nodup_complete haccepted
  have hlast : (((c.accept tx).complete w.transaction).complete tx).liveTransactions.Nodup :=
    Client.nodup_complete hdone
  have hdropped : (s.drop k i c w.transaction).clients i = some (c.complete w.transaction) := by
    simp [RegistryState.drop]
  refine (h.drop hcore hk hc hw.symm).frame_client hdropped ?_ rfl rfl ?_ (fun t => ?_)
    hlast
  · simp [RegistryState.drop]
  · simp
  · rw [Client.mem_complete hdone, Client.mem_complete haccepted, Client.mem_complete hnodup]
    have hmem : t ∈ (c.accept tx).liveTransactions ↔ t ∈ c.liveTransactions ∨ t = tx := by
      simp [Client.accept]
    rw [hmem]
    constructor
    · rintro ⟨⟨hmem | heq, hne⟩, hne'⟩
      · exact ⟨hmem, hne⟩
      · exact absurd heq hne'
    · rintro ⟨hmem, hne⟩
      exact ⟨⟨Or.inl hmem, hne⟩, fun heq => haccepts.not_live (heq ▸ hmem)⟩

theorem LiveExact.beginEnumeration (h : LiveExact opened s) (hcore : Core s)
    (hc : s.clients i = some c)
    (haccepts : c.Accepts tx) :
    LiveExact (fun e t => opened e t ∨ (e = c.endpoint ∧ t = tx))
      (s.setClient i (some (c.accept tx))) := by
  obtain ⟨hholds, -⟩ := h.free hc haccepts.not_live
  refine h.accept hcore hc haccepts rfl (fun e t => or_assoc.symm) h.watch_unique
    (fun k w hw => ?_) fun e t hopen => ?_
  · rintro (hopen | ⟨hclient, htx⟩)
    · exact h.watch_closed k w hw hopen
    · exact hholds ⟨k, w, hw, hclient, htx⟩
  · rcases hopen with hopen | ⟨rfl, -⟩
    · exact h.opened_issued e t hopen
    · exact hcore.client_issued i c hc

theorem LiveExact.endEnumeration (h : LiveExact opened s) (hcore : Core s)
    (hc : s.clients i = some c)
    (hopen : opened c.endpoint tx) :
    LiveExact (fun e t => opened e t ∧ ¬ (c.endpoint = e ∧ tx = t))
      (s.setClient i (some (c.complete tx))) := by
  have hnot : ¬ WatchHolds s c.endpoint tx := by
    rintro ⟨k, w, hw, hclient, htx⟩
    exact h.watch_closed k w hw (by rw [hclient, htx]; exact hopen)
  refine h.setClient hcore hc rfl (by simp) (fun e t hne => ?_) (fun t => ?_) h.watch_unique
    (fun k w hw hreopen => h.watch_closed k w hw hreopen.1)
    (fun e t hreopen => h.opened_issued e t hreopen.1) (Client.nodup_complete (h.nodup i c hc))
  · rw [and_iff_left fun heq => hne heq.1.symm]
    rfl
  · rw [Client.mem_complete (h.nodup i c hc), h.exact i c hc]
    by_cases ht : t = tx
    · subst ht
      constructor
      · exact fun hmem => absurd rfl hmem.2
      · rintro (hmem | hmem)
        · exact absurd hmem hnot
        · exact absurd ⟨rfl, rfl⟩ hmem.2
    · rw [and_iff_left ht, and_iff_left fun heq => ht heq.2.symm]
      rfl

theorem Concludes.not_begins {op : TicketOp}
    (ho : Concludes s op o) (e : EndpointIdentity) (t : Nat) :
    ¬ Begins e t op o ∧ ¬ Ends e t op o := by
  cases o with
  | ok reply => cases ho <;> exact ⟨id, id⟩
  | err _ => cases op <;> exact ⟨id, id⟩
  | panic => exact ho.elim

/-- The step: live ids keep their reasons, as long as only open enumerations
are completed. -/
theorem Transition.liveExact {op : TicketOp} (h : Transition s op o evs s') (hcore : Core s)
    (hp : o ≠ .panic)
    (hlive : LiveExact opened s) (hends : ∀ e t, Ends e t op o → opened e t) :
    LiveExact (fun e t => (opened e t ∧ ¬ Ends e t op o) ∨ Begins e t op o) s' := by
  have hold : LiveExact opened s' → (∀ e t, ¬ Begins e t op o ∧ ¬ Ends e t op o) →
      LiveExact (fun e t => (opened e t ∧ ¬ Ends e t op o) ∨ Begins e t op o) s' := by
    intro hnext hnot
    refine hnext.congr fun e t => ?_
    rw [or_iff_left (hnot e t).1, and_iff_left (hnot e t).2]
  -- slots do not matter here
  have hslots : ∀ j slot, LiveExact opened (s.setSlot j slot) := fun _ _ =>
    ⟨hlive.exact, hlive.watch_unique, hlive.watch_closed, hlive.opened_issued, hlive.nodup⟩
  cases h with
  | refused => exact hold hlive fun _ _ => by cases op <;> exact ⟨id, id⟩
  | panicked _ => exact absurd rfl hp
  | publicationInstalled _ _ =>
      refine hold ⟨hlive.exact, hlive.watch_unique, hlive.watch_closed, fun e t hopen => ?_,
        hlive.nodup⟩ fun _ _ => ⟨id, id⟩
      simp [hlive.opened_issued e t hopen]
  | clientInstalled hfresh _ =>
      exact hold (hlive.installClient hcore hfresh) fun _ _ => ⟨id, id⟩
  | @clientTouched _ _ i c tx hc _ ho =>
      have hnodup : (c.touch tx).liveTransactions.Nodup := hlive.nodup i c hc
      exact hold (hlive.frame_client hc rfl rfl rfl rfl (fun _ => Iff.rfl) hnodup) ho.not_begins
  | publicationTouched _ _ _ ho => exact hold (hslots _ _) ho.not_begins
  | @watchAdded i c tx request k hc haccepts hk _ =>
      refine hold ?_ fun _ _ => ⟨id, id⟩
      exact hlive.addWatch (w := ⟨c.endpoint, c.handle, tx, request.protocolId,
        request.lastObservedGeneration, request.serviceName⟩) hcore hc haccepts hk rfl
  | cancelled hc haccepts hk hw =>
      exact hold (hlive.cancel hcore hc haccepts hk hw) fun _ _ => ⟨id, id⟩
  | enumerationBegun hc haccepts =>
      refine (hlive.beginEnumeration hcore hc haccepts).congr fun e t => ?_
      simp [Begins, Ends, eq_comm]
  | enumerationCompleted hc hticket _ =>
      have hopen := hends _ _ ⟨rfl, rfl⟩
      rw [hticket] at hopen
      refine (hlive.endEnumeration hcore hc hopen).congr fun e t => ?_
      simp [Begins, Ends, hticket]
  | prepared _ _ _ _ => exact hold (hslots _ _) fun _ _ => ⟨id, id⟩
  | committed hslot hactive _ hnotified =>
      refine hold (hnotified.drops.liveExact (hcore.setActive hslot hactive ?_) (hslots _ _))
        fun _ _ => ⟨id, id⟩
      rintro _ ⟨⟩
      rfl
  | retired hslot hactive _ hnotified | publicationClosed hslot hactive hnotified =>
      exact hold (hnotified.drops.liveExact (hcore.setActive hslot hactive (by simp)) (hslots _ _))
        fun _ _ => ⟨id, id⟩
  | clientClosed hc => exact hold (hlive.closeClient hcore hc) fun _ _ => ⟨id, id⟩

end Step

/-! ## Histories -/

/-- The enumeration was begun, and not completed since. -/
def OpenEnumeration (h : List RegistryCall) (e : EndpointIdentity) (t : Nat) : Prop :=
  ∃ h₁ d h₂, h = h₁ ++ d :: h₂ ∧ Did (Begins e t) d ∧ ∀ c ∈ h₂, ¬ Did (Ends e t) c

/-- Every enumeration that a call completed was open then. -/
def EndsOpen (h : List RegistryCall) : Prop :=
  ∀ h₁ c h₂, h = h₁ ++ c :: h₂ → ∀ e t, Did (Ends e t) c → OpenEnumeration h₁ e t

variable {h : List RegistryCall} {e : EndpointIdentity}

theorem openEnumeration_snoc {c : RegistryCall} {t : Nat} : OpenEnumeration (h ++ [c]) e t ↔
      (OpenEnumeration h e t ∧ ¬ Did (Ends e t) c) ∨ Did (Begins e t) c := by
  constructor
  · rintro ⟨h₁, d, h₂, heq, hbegins, hrest⟩
    rcases snoc_eq_append_cons heq with ⟨rfl, rfl, rfl⟩ | ⟨h₃, rfl, rfl⟩
    · exact Or.inr hbegins
    · exact Or.inl ⟨⟨h₁, d, h₃, rfl, hbegins, fun c' hc' => hrest c' (by simp [hc'])⟩,
        hrest c (by simp)⟩
  · rintro (⟨⟨h₁, d, h₂, rfl, hbegins, hrest⟩, hends⟩ | hbegins)
    · refine ⟨h₁, d, h₂ ++ [c], by simp, hbegins, fun c' hc' => ?_⟩
      rcases List.mem_append.mp hc' with hmem | hmem
      · exact hrest c' hmem
      · obtain rfl := List.mem_singleton.mp hmem
        exact hends
    · exact ⟨h, c, [], rfl, hbegins, by simp⟩

theorem EndsOpen.init {c : RegistryCall} (hends : EndsOpen (h ++ [c])) :
    EndsOpen h ∧ ∀ e t, Did (Ends e t) c → OpenEnumeration h e t := by
  refine ⟨fun h₁ d h₂ heq => hends h₁ d (h₂ ++ [c]) (by simp [heq]), hends h c [] rfl⟩

theorem RegistryRun.liveExact {s : Session} (hrun : RegistryRun h s)
    (hends : EndsOpen h) : LiveExact (OpenEnumeration h) s.state := by
  revert hends
  refine hrun.induct (P := fun h s => EndsOpen h → LiveExact (OpenEnumeration h) s.state)
    (fun s hs _ => ?_) ?_
  · obtain ⟨generation, hnew, -⟩ := hs
    unfold RegistryState.new at hnew
    split at hnew
    · cases hnew
    · rw [← Outcome.ok.inj hnew]
      constructor <;> simp [OpenEnumeration]
  · rintro h _ ⟨before, op, o, after, evs⟩ - ih hcore rfl hp hstep hends
    obtain ⟨hends', hlast⟩ := hends.init
    have hlive := ih hends'
    cases hstep with
    | absent hnone =>
        refine hlive.congr fun e t => ?_
        rw [openEnumeration_snoc, or_iff_left (not_did hnone), and_iff_left (not_did hnone)]
    | call hop htrans _ =>
        refine (htrans.liveExact hcore hp hlive
          fun e t hE => hlast e t ((did_iff hop).mpr hE)).congr fun e t => ?_
        rw [openEnumeration_snoc, did_iff hop, did_iff hop]

theorem Transition.introduces_fresh {s s' : RegistryState} {op : TicketOp}
    (h : Transition s op o evs s') {kind : EndpointKind} (hintro : Introduces e kind op o) :
    e.id ∉ s.issuedEndpointIds := by
  cases h with
  | publicationInstalled hfresh _ | clientInstalled hfresh _ =>
      obtain ⟨rfl, -⟩ := hintro
      exact hfresh.fresh
  | clientTouched _ _ ho | publicationTouched _ _ _ ho =>
      exact absurd hintro (ho.not_introduces e kind)
  | refused | panicked _ => cases op <;> exact hintro.elim
  | watchAdded _ _ _ _ | cancelled _ _ _ _ | enumerationBegun _ _ | enumerationCompleted _ _ _
  | prepared _ _ _ _ | committed _ _ _ _ | retired _ _ _ _ | publicationClosed _ _ _
  | clientClosed _ => exact hintro.elim

/-- No two calls install endpoints with one id. -/
def DistinctIds (h : List RegistryCall) : Prop :=
  h.Pairwise fun c c' => ∀ e kind e' kind', Did (Introduces e kind) c →
    Did (Introduces e' kind') c' → e.id ≠ e'.id

theorem RegistryRun.distinctIds {s : Session} (hrun : RegistryRun h s) :
    DistinctIds h := by
  refine hrun.induct (P := fun h _ => DistinctIds h) (fun _ _ => .nil) ?_
  rintro h _ ⟨before, op, o, after, evs⟩ hr ih _ rfl hp hstep
  refine List.pairwise_append.mpr ⟨ih, List.pairwise_singleton _ _, ?_⟩
  intro c hc d hd e kind e' kind' hold hnew heq
  obtain rfl := List.mem_singleton.mp hd
  cases hstep with
  | absent hnone => exact not_did hnone hnew
  | call hop htrans _ =>
      exact htrans.introduces_fresh ((did_iff hop).mp hnew)
        (heq ▸ (RegistryRun.logged hr).1.known_issued e kind ⟨c, hc, hold⟩)

theorem endpoints_length_le (s : RegistryState) : s.endpoints.length ≤ maxEndpoints := by
  have hpublications : (s.slots.filterMap fun slot => slot.active.map (·.installed)).length
      ≤ maxServices := by
    calc _ ≤ s.slots.length := List.length_filterMap_le _ _
      _ ≤ (List.finRange maxServices).length := List.length_filterMap_le _ _
      _ = maxServices := List.length_finRange
  have hclients : (((List.finRange maxClients).filterMap s.clients).map (·.installed)).length
      ≤ maxClients := by
    calc _ ≤ (List.finRange maxClients).length := by
          rw [List.length_map]
          exact List.length_filterMap_le _ _
      _ = maxClients := List.length_finRange
  rw [endpoints, List.length_append]
  have hsum : maxServices + maxClients = maxEndpoints := rfl
  omega

/-! ## The representation -/

/-- What holds of the tables whatever tickets are presented. -/
structure Consistent (h : List RegistryCall) (s : RegistryState) : Prop where
  watch_client : ∀ k w, s.watches k = some w → ∃ i c, s.clients i = some c
    ∧ c.endpoint = w.client ∧ c.handle = w.clientHandle
  live_nodup : ∀ i c, s.clients i = some c → c.liveTransactions.Nodup
  live_nonzero : ∀ i c, s.clients i = some c → 0 ∉ c.liveTransactions
  name_unique : UniqueNames s.services
  distinct_ids : DistinctIds h
  endpoints_le : s.endpoints.length ≤ maxEndpoints

/-- The whole representation invariant. -/
structure Represented (h : List RegistryCall) (s : RegistryState) : Prop
    extends Consistent h s where
  watch_live : ∀ k w i c, s.watches k = some w → s.clients i = some c → c.endpoint = w.client →
    w.transaction ∈ c.liveTransactions
  live_exact : ∀ i c, s.clients i = some c → ∀ t, t ∈ c.liveTransactions ↔
    WatchHolds s c.endpoint t ∨ OpenEnumeration h c.endpoint t

theorem RegistryRun.consistent {s : Session} (hrun : RegistryRun h s) :
    Consistent h s.state := by
  obtain ⟨hlog, -⟩ := hrun.logged
  have hcore := hrun.core
  refine ⟨hcore.watch_client, fun i c hc => (hlog.client i c hc).2.nodup, fun i c hc hzero => ?_,
    hcore.name_unique, hrun.distinctIds, endpoints_length_le _⟩
  have haccepted := (hlog.client i c hc).2.tracked.guarded.accepted_of_live hzero
  exact hlog.nonzero _ (mem_logFor.mp haccepted) 0 rfl rfl

/-- The tables are consistent after every history; live ids are exactly the
pending watches' and the open enumerations' as long as no completed
enumeration is completed again. -/
theorem representation {h : List RegistryCall} {s : Session} (hrun : RegistryRun h s) :
    Consistent h s.state ∧ (EndsOpen h → Represented h s.state) := by
  refine ⟨hrun.consistent, fun hends => ?_⟩
  have hlive := hrun.liveExact hends
  refine ⟨hrun.consistent, fun k w i c hk hc hendpoint => ?_, hlive.exact⟩
  rw [hlive.exact i c hc]
  exact Or.inl ⟨k, w, hk, hendpoint.symm, rfl⟩

/-- A client with a pending watch and an open enumeration. -/
def watchAndEnumerate : List (Op Nat Nat) :=
  [.installClient 7 9 ⟨3, 1, 5, 1, .bootstrapMetadata⟩, .enumerateBegin ⟨3, 1⟩ 5,
    .watch ⟨3, 1⟩ 6 ⟨77, 0, [97]⟩]

theorem Ends.outcome {t : Nat} {op : TicketOp} (h : Ends e t op o) : o = .ok .enumerated := by
  unfold Ends at h
  split at h
  · rfl
  · exact h.elim

theorem representation_watchAndEnumerate :
    ((replay Session.exec watchAndEnumerate emptySession).2.state.clients ⟨0, by decide⟩).map
        (·.liveTransactions) = some [5, 6]
      ∧ Represented (replay Session.exec watchAndEnumerate emptySession).1
          (replay Session.exec watchAndEnumerate emptySession).2.state := by
  have hrun := emptySession_run watchAndEnumerate (by decide +kernel)
  have hnone : ∀ c ∈ (replay Session.exec watchAndEnumerate emptySession).1,
      c.outcome ≠ .ok .enumerated := by decide +kernel
  refine ⟨by decide +kernel, (representation hrun).2 ?_⟩
  rintro h₁ c h₂ heq e t ⟨op, -, hends⟩
  exact absurd hends.outcome (hnone c (by simp [heq]))

/-- An enumeration is completed, its id leaves the ring and is taken by a
watch, and the old ticket is presented once more. -/
def reusedTicket : List (Op Nat Nat) :=
  [.installClient 7 9 ⟨3, 1, 5, 1, .bootstrapMetadata⟩, .enumerateBegin ⟨3, 1⟩ 5,
      .enumerationComplete 0]
    ++ (List.range 32).map (fun k => .completeTransaction ⟨3, 1⟩ .client (100 + k))
    ++ [.watch ⟨3, 1⟩ 5 ⟨77, 0, [97]⟩, .enumerationComplete 0]

theorem represented_fails_reusedTicket :
    RegistryRun (replay Session.exec reusedTicket emptySession).1
        (replay Session.exec reusedTicket emptySession).2
      ∧ ¬ Represented (replay Session.exec reusedTicket emptySession).1
          (replay Session.exec reusedTicket emptySession).2.state := by
  refine ⟨emptySession_run reusedTicket (by decide +kernel), fun hrep => ?_⟩
  have hwatch : (replay Session.exec reusedTicket emptySession).2.state.watches ⟨0, by decide⟩
      = some ⟨⟨3, 1⟩, 9, 5, 77, 0, [97]⟩ := by decide +kernel
  have hclient : ((replay Session.exec reusedTicket emptySession).2.state.clients ⟨0, by decide⟩).map
      (fun c => (c.endpoint, c.liveTransactions)) = some (⟨3, 1⟩, []) := by decide +kernel
  obtain ⟨c, hc, heq⟩ := Option.map_eq_some_iff.mp hclient
  obtain ⟨hendpoint, hlive⟩ := Prod.mk.inj heq
  have hmem := hrep.watch_live _ _ _ c hwatch hc hendpoint
  rw [hlive] at hmem
  exact List.not_mem_nil hmem

end Wyrmroot.Registry
