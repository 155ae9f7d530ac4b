import Wyrmroot.Rrc.Dependencies
import Wyrmroot.Rrc.Writing

/-!
# Parsing a manifest

`Manifest::parse_structural` over arbitrary bytes. It never panics, so neither
do the accessors that validation itself uses; what it accepts is `Accepted`;
and of the manifests that keep every other rule it refuses exactly those whose
roles wait for one another in a circle.
-/

namespace Wyrmroot.Rrc

open Outcome Relation

/-- No accessor of the edge panics. -/
structure DependencyEdge.Total (edge : DependencyEdge) : Prop where
  owner : ∃ owner, edge.owner = .ok owner
  kind : ∃ kind, edge.kind = .ok kind
  targetRole : ∃ target, edge.targetRole = .ok target
  targetPath : ∃ path, edge.targetPath = .ok path

/-- The edge lies in the range of the role. -/
def Role.Contains (role : Role) (edge : Nat) : Prop :=
  ∃ start stop, role.edgeRange = .ok (start, stop) ∧ start ≤ edge ∧ edge < stop

structure Accepted (m : Manifest) : Prop where
  increasing : ∀ i j id id', i < j → j < m.roleCount → (m.roleAt i).id = .ok id →
    (m.roleAt j).id = .ok id' → id.toNat < id'.toNat
  paths : ∀ i j path path', i < j → j < m.roleCount → (m.roleAt i).path = .ok path →
    (m.roleAt j).path = .ok path' → path ≠ path'
  /-- The ranges follow one another over all edges. -/
  ranges : ∃ first : Nat → Nat, first 0 = 0 ∧ first m.roleCount = m.edgeCount ∧
    ∀ i < m.roleCount, first i ≤ first (i + 1) ∧
      (m.roleAt i).edgeRange = .ok (first i, first (i + 1))
  contained : ∀ edge < m.edgeCount, ∃! i, i < m.roleCount ∧ (m.roleAt i).Contains edge
  owned : ∀ edge i, i < m.roleCount → (m.roleAt i).Contains edge →
    (m.edgeAt edge).owner = (m.roleAt i).id
  strings : ∃ spans, m.spans = .ok spans ∧ Tiles 0 spans (m.bytes.length - m.stringsOffset)
  roles : ∀ i < m.roleCount, (m.roleAt i).Total
  edges : ∀ edge < m.edgeCount, (m.edgeAt edge).Total
  acyclic : ∀ a, ¬ TransGen (Ready m) a a

variable {m : Manifest}

theorem Validated.accepted {stringBytes : Nat} (hm : Sized m stringBytes)
    (h : Validated m stringBytes) (hacyclic : ∀ a, ¬ TransGen (Ready m) a a) : Accepted m := by
  obtain ⟨id, first, ht, he⟩ := h.tables
  have hcontains : ∀ {i edge}, i < m.roleCount → ((m.roleAt i).Contains edge ↔
      first i ≤ edge ∧ edge < first (i + 1)) := by
    intro i edge hi
    constructor
    · rintro ⟨start, stop, hrange, hin⟩
      rw [ht.ranges i hi] at hrange
      obtain ⟨rfl, rfl⟩ := Prod.mk.inj (Outcome.ok.inj hrange)
      exact hin
    · exact fun hin => ⟨_, _, ht.ranges i hi, hin⟩
  have hlength : m.bytes.length - m.stringsOffset = stringBytes := by
    rw [hm.length, Nat.add_sub_cancel_left]
  refine {
    increasing := fun i j a b hij hj ha hb => ?_
    paths := h.paths
    ranges := ⟨first, ht.first_zero, ht.first_last, fun i hi => ⟨ht.first_le i hi, ht.ranges i hi⟩⟩
    contained := fun edge hedge => ?_
    owned := fun edge i hi hin => ?_
    strings := hlength ▸ h.strings
    roles := ht.total
    edges := fun edge hedge => ?_
    acyclic := hacyclic }
  · rw [ht.ids i (Nat.lt_trans hij hj)] at ha
    rw [ht.ids j hj] at hb
    rw [← Outcome.ok.inj ha, ← Outcome.ok.inj hb]
    exact ht.increasing i j hij hj
  · obtain ⟨i, hi, hin⟩ := ht.exists_owner hedge
    refine ⟨i, ⟨hi, (hcontains hi).mpr hin⟩, ?_⟩
    rintro j ⟨hj, hj'⟩
    exact ht.owner_unique hj hi ((hcontains hj).mp hj') hin
  · have hrange := (hcontains hi).mp hin
    obtain ⟨k, hk, hin', howner⟩ := he.owners edge (Manifest.inside ht hi hrange.2)
    rw [howner, ht.owner_unique hi hk hrange hin', ht.ids k hk]
  · obtain ⟨k, -, -, howner⟩ := he.owners edge hedge
    obtain ⟨kind, target, hkind, htarget, -⟩ := he.targets edge hedge
    exact ⟨⟨_, howner⟩, ⟨kind, hkind⟩, ⟨target, htarget⟩, he.paths edge hedge⟩

/-- What keeps every rule but the last. -/
def WellFormed (bytes : List UInt8) (expectedBootGeneration : Vector UInt8 32)
    (m : Manifest) : Prop :=
  ∃ stringBytes, Manifest.header bytes expectedBootGeneration = .ok (m, stringBytes) ∧
    m.checkRecords stringBytes = .ok ()

theorem parseStructural_wellFormed {bytes : List UInt8} {expectedBootGeneration : Vector UInt8 32}
    (h : WellFormed bytes expectedBootGeneration m) :
    Manifest.parseStructural bytes expectedBootGeneration = .ok m ∧ Accepted m ∨
      Manifest.parseStructural bytes expectedBootGeneration = .err .dependencyCycle ∧
        ∃ a, TransGen (Ready m) a a := by
  obtain ⟨stringBytes, hheader, hrecords⟩ := h
  have hsized := ((Manifest.header_yields bytes expectedBootGeneration).2 _ hheader).2
  have hvalid := (Manifest.checkRecords_yields hsized).2 _ hrecords
  have hrun : Manifest.parseStructural bytes expectedBootGeneration = (do
      m.validateAcyclicRoleDependencies
      pure m) := by
    rw [Manifest.parseStructural, hheader, ok_bind]
    show (m.validateRecords stringBytes >>= fun _ => pure m) = _
    rw [Manifest.validateRecords, hrecords, ok_bind]
  rw [hrun]
  rcases Manifest.validateAcyclicRoleDependencies_eq hvalid with ⟨hsearch, hclear⟩ | ⟨hsearch, hcycle⟩
  · rw [hsearch]
    exact .inl ⟨rfl, hvalid.accepted hsized hclear⟩
  · rw [hsearch]
    exact .inr ⟨rfl, hcycle⟩

/-- Whatever the bytes, the parse returns; it accepts only what is `Accepted`;
and a cycle is what it says it is. -/
theorem parseStructural_strict (bytes : List UInt8) (expectedBootGeneration : Vector UInt8 32) :
    Manifest.parseStructural bytes expectedBootGeneration ≠ .panic ∧
      (∀ m, Manifest.parseStructural bytes expectedBootGeneration = .ok m →
        m.bytes = bytes ∧ Accepted m) ∧
      ∀ m, WellFormed bytes expectedBootGeneration m →
        (Manifest.parseStructural bytes expectedBootGeneration = .err .dependencyCycle ↔
          ∃ a, TransGen (Ready m) a a) ∧
        ((∀ a, ¬ TransGen (Ready m) a a) →
          Manifest.parseStructural bytes expectedBootGeneration = .ok m) := by
  have hparse : Yields (Manifest.parseStructural bytes expectedBootGeneration) fun m =>
      m.bytes = bytes ∧ Accepted m := by
    unfold Manifest.parseStructural
    refine (Manifest.header_yields bytes expectedBootGeneration).bind ?_
    rintro ⟨m, stringBytes⟩ ⟨hbytes, hsized⟩
    refine Yields.bind (P := fun _ => Accepted m) ?_ fun _ haccepted => .ok ⟨hbytes, haccepted⟩
    refine (Manifest.checkRecords_yields hsized).bind fun _ hvalid => ?_
    rcases Manifest.validateAcyclicRoleDependencies_eq hvalid with ⟨hsearch, hclear⟩ | ⟨hsearch, -⟩
    · rw [hsearch]
      exact .ok (hvalid.accepted hsized hclear)
    · rw [hsearch]
      exact .err _
  refine ⟨hparse.1, hparse.2, fun m hm => ?_⟩
  rcases parseStructural_wellFormed hm with ⟨hrun, haccepted⟩ | ⟨hrun, a, hcycle⟩
  · rw [hrun]
    refine ⟨iff_of_false (ok_ne_err _ _) ?_, fun _ => rfl⟩
    rintro ⟨a, ha⟩
    exact haccepted.acyclic a ha
  · rw [hrun]
    exact ⟨iff_of_true rfl ⟨a, hcycle⟩, fun hacyclic => absurd hcycle (hacyclic a)⟩

namespace Sample

def identity : Vector UInt8 32 := Vector.replicate 32 1

def role (id : RoleId) (activation : Activation) (profile : StartupProfile) (path : String) : RoleSpec :=
  ⟨id, true, true, activation, profile, path, "resident", identity⟩

def roles : List RoleSpec :=
  [role .registryd .early .bootstrapRegistry "a", role .devmgr .early .deviceCoordinator "b",
    role .uart16550d .deviceBound .retained "c", role .consoled .consoleBound .retained "d",
    role .wyrmsh .consoleBound .retained "e"]

/-- Each role waits for the one before, and `devmgr` has a file of its own. -/
def edges : List DependencySpec :=
  [⟨.devmgr, .config, none, some "cfg"⟩, ⟨.devmgr, .roleReady, some .registryd, none⟩,
    ⟨.uart16550d, .roleReady, some .devmgr, none⟩, ⟨.consoled, .roleReady, some .uart16550d, none⟩,
    ⟨.wyrmsh, .roleReady, some .consoled, none⟩]

def manifestOf (edges : List DependencySpec) : Manifest :=
  ⟨manifestText identity roles edges, 5, edges.length, headerSize + 5 * roleRecordSize,
    stringsAt 5 edges.length⟩

def manifest : Manifest := manifestOf edges

/-- The first role waits for the last one, too. -/
def circle : Manifest := manifestOf (⟨.registryd, .roleReady, some .wyrmsh, none⟩ :: edges)

theorem wellFormed : WellFormed manifest.bytes identity manifest :=
  ⟨48, by decide +kernel, by decide +kernel⟩

theorem circle_wellFormed : WellFormed circle.bytes identity circle :=
  ⟨48, by decide +kernel, by decide +kernel⟩

theorem acyclic (a : RoleId) : ¬ TransGen (Ready manifest) a a := by
  have hedge : ∀ edge : Fin 5, ∃ spec ∈ edges, (manifest.edgeAt edge).owner = .ok spec.owner ∧
      (manifest.edgeAt edge).targetRole = .ok spec.targetRole := by decide +kernel
  have hstep : ∀ a b, Ready manifest a b → b.toNat < a.toNat := by
    rintro a b ⟨edge, hlt, howner, -, htarget⟩
    obtain ⟨spec, hspec, howner', htarget'⟩ := hedge ⟨edge, hlt⟩
    obtain rfl := Outcome.ok.inj (howner'.symm.trans howner)
    have htarget := Outcome.ok.inj (htarget'.symm.trans htarget)
    have hdescends : ∀ spec ∈ edges, ∀ target ∈ spec.targetRole, target.toNat < spec.owner.toNat := by
      decide
    exact hdescends spec hspec b htarget
  intro hcycle
  have hall : ∀ {a b}, TransGen (Ready manifest) a b → b.toNat < a.toNat := by
    intro a b h
    induction h with
    | single h => exact hstep _ _ h
    | tail _ h ih => exact (hstep _ _ h).trans ih
  exact Nat.lt_irrefl _ (hall hcycle)

theorem cyclic : TransGen (Ready circle) .registryd .registryd := by
  have hready : Ready circle .registryd .wyrmsh ∧ Ready circle .wyrmsh .consoled ∧
      Ready circle .consoled .uart16550d ∧ Ready circle .uart16550d .devmgr ∧
        Ready circle .devmgr .registryd := by
    unfold Ready
    decide +kernel
  obtain ⟨hfirst, hsecond, hthird, hfourth, hlast⟩ := hready
  exact .head hfirst (.head hsecond (.head hthird (.head hfourth (.single hlast))))

end Sample

/-- The roles in a line are accepted, and in a circle refused. -/
theorem parseStructural_strict_samples :
    Manifest.parseStructural Sample.manifest.bytes Sample.identity = .ok Sample.manifest ∧
      Accepted Sample.manifest ∧
        Manifest.parseStructural Sample.circle.bytes Sample.identity = .err .dependencyCycle := by
  obtain ⟨-, haccepted, hwell⟩ := parseStructural_strict Sample.manifest.bytes Sample.identity
  obtain ⟨-, -, hcircle⟩ := parseStructural_strict Sample.circle.bytes Sample.identity
  have hparse := (hwell _ Sample.wellFormed).2 Sample.acyclic
  exact ⟨hparse, (haccepted _ hparse).2, (hcircle _ Sample.circle_wellFormed).1.mpr ⟨_, Sample.cyclic⟩⟩

theorem parseStructural_validated {bytes : List UInt8} {boot : Vector UInt8 32}
    (h : Manifest.parseStructural bytes boot = .ok m) :
    ∃ stringBytes, Manifest.header bytes boot = .ok (m, stringBytes) ∧ Sized m stringBytes ∧
      m.checkRecords stringBytes = .ok () ∧ Validated m stringBytes := by
  rw [Manifest.parseStructural, bind_eq_ok] at h
  obtain ⟨⟨m', stringBytes⟩, hheader, h⟩ := h
  simp only [Manifest.validateRecords, bind_eq_ok, Outcome.pure_eq, Outcome.ok.injEq] at h
  obtain ⟨_, ⟨_, hrecords, -⟩, rfl⟩ := h
  have hsized := ((Manifest.header_yields bytes boot).2 _ hheader).2
  exact ⟨stringBytes, hheader, hsized, hrecords, (Manifest.checkRecords_yields hsized).2 _ hrecords⟩

end Wyrmroot.Rrc
