import Wyrmroot.Lib.Yields
import Wyrmroot.Bootfs.Reading
import Wyrmroot.Rrc.Format

/-!
# The records of a manifest

What `validate_records` has made sure of when a turn of one of its loops is
over, said by the accessors: they read the record again and find what the turn
found. No turn panics; the reads stay inside the sections the header has
measured (`Sized`).
-/

namespace Wyrmroot.Rrc

open Outcome
open Bootfs (ArchivePath)
open Loader (checkedAdd_eq_some)

/-! ## Strings that tile -/

/-- The spans, as offset and length, follow one another from `start` to `stop`. -/
def Tiles (start : Nat) (spans : List (Nat × Nat)) (stop : Nat) : Prop :=
  match spans with
  | [] => start = stop
  | (offset, len) :: rest => offset = start ∧ 0 < len ∧ Tiles (start + len) rest stop

theorem Tiles.append {spans spans' : List (Nat × Nat)} : ∀ {start middle stop : Nat},
    Tiles start spans middle → Tiles middle spans' stop → Tiles start (spans ++ spans') stop := by
  induction spans with
  | nil =>
      rintro start _ stop rfl h
      exact h
  | cons span spans ih =>
      intro start middle stop h h'
      exact ⟨h.1, h.2.1, ih h.2.2 h'⟩

/-- The strings a role refers to. -/
def Role.spans (self : Role) : ManifestCheck (List (Nat × Nat)) := do
  let record ← self.bytes
  pure [((← get32 record 16).toNat, (← get16 record 20).toNat),
    ((← get32 record 24).toNat, (← get16 record 28).toNat)]

/-- The string an edge refers to, if it refers to one. -/
def DependencyEdge.spans (self : DependencyEdge) : ManifestCheck (List (Nat × Nat)) := do
  let record ← self.bytes
  let len := (← get16 record 16).toNat
  if len = 0 then pure [] else pure [((← get32 record 12).toNat, len)]

/-! ## The header -/

/-- The sections lie behind one another and fill the bytes. -/
structure Sized (m : Manifest) (stringBytes : Nat) : Prop where
  edges : m.edgesOffset = headerSize + m.roleCount * roleRecordSize
  strings : m.stringsOffset = m.edgesOffset + m.edgeCount * edgeRecordSize
  length : m.bytes.length = m.stringsOffset + stringBytes

theorem toUsize_yields (value : UInt32) : Yields (toUsize value) fun n => n = value.toNat := .ok rfl

theorem get16_yields {bytes : List UInt8} {offset : Nat} (h : offset + 2 ≤ bytes.length) :
    Yields (get16 bytes offset : ManifestCheck _) fun v => get16 bytes offset = (.ok v : ManifestCheck _) :=
  .self (get16_ne_panic h)

theorem get32_yields {bytes : List UInt8} {offset : Nat} (h : offset + 4 ≤ bytes.length) :
    Yields (get32 bytes offset : ManifestCheck _) fun v => get32 bytes offset = (.ok v : ManifestCheck _) :=
  .self (get32_ne_panic h)

theorem sliceAt_yields {bytes : List UInt8} {offset len : Nat} (h : offset + len ≤ bytes.length) :
    Yields (sliceAt bytes offset len : ManifestCheck _) fun part =>
      sliceAt bytes offset len = (.ok part : ManifestCheck _) ∧ part.length = len := by
  refine ⟨sliceAt_ne_panic h, fun part hpart => ⟨hpart, ?_⟩⟩
  rw [sliceAt_ok h] at hpart
  rw [← Outcome.ok.inj hpart, List.length_take_of_le]
  rw [List.length_drop]
  omega

namespace Manifest

theorem header_yields (bytes : List UInt8) (expectedBootGeneration : Vector UInt8 32) :
    Yields (header bytes expectedBootGeneration) fun p => p.1.bytes = bytes ∧ Sized p.1 p.2 := by
  unfold header
  refine (Yields.rejectIf _ _).bind fun _ _ => (Yields.rejectIf _ _).bind fun _ hshort => ?_
  have hlen : 80 ≤ bytes.length := Nat.not_lt.mp (of_decide_eq_false hshort)
  refine (sliceAt_yields (by omega)).bind fun _ _ => (Yields.rejectIf _ _).bind fun _ _ => ?_
  refine (get16_yields (by omega)).bind fun _ _ => (get16_yields (by omega)).bind fun _ _ => ?_
  iterate 4 first
    | refine (Yields.rejectIf _ _).bind fun _ _ => ?_
    | refine (get16_yields (by omega)).bind fun _ _ => (Yields.rejectIf _ _).bind fun _ _ => ?_
  refine (get16_yields (by omega)).bind fun _ _ => (get32_yields (by omega)).bind fun _ _ => ?_
  refine (Yields.rejectIf _ _).bind fun _ _ => ?_
  refine (get32_yields (by omega)).bind fun _ _ => (Yields.rejectIf _ _).bind fun _ _ => ?_
  refine (get32_yields (by omega)).bind fun _ _ => (toUsize_yields _).bind fun _ _ => ?_
  refine (Yields.rejectIf _ _).bind fun _ _ => ?_
  refine (get16_yields (by omega)).bind fun roles _ => (Yields.rejectIf _ _).bind fun _ _ => ?_
  refine (get16_yields (by omega)).bind fun edges _ => (Yields.rejectIf _ _).bind fun _ _ => ?_
  refine (get32_yields (by omega)).bind fun _ _ => (toUsize_yields _).bind fun strings _ => ?_
  refine (Yields.rejectIf _ _).bind fun _ _ => ?_
  refine (Yields.okOr _ _).bind fun roleBytes hroles => (Yields.okOr _ _).bind fun _ hedges => ?_
  refine (Yields.okOr _ _).bind fun edgeBytes hmul => (Yields.okOr _ _).bind fun _ hstrings => ?_
  refine (Yields.okOr _ _).bind fun total htotal => ?_
  iterate 3 refine (get32_yields (by omega)).bind fun _ _ => (toUsize_yields _).bind fun _ _ => ?_
  refine (Yields.rejectIf _ _).bind fun _ _ => (Yields.rejectIf _ _).bind fun _ hwhole => ?_
  refine (sliceAt_yields (by omega)).bind fun _ _ => (Yields.rejectIf _ _).bind fun _ _ => ?_
  refine (Yields.rejectIf _ _).bind fun _ _ => .ok ⟨rfl, ?_⟩
  have hmul_eq : ∀ {a b c : Nat}, Startup.checkedMul a b = some c → c = a * b := by
    intro a b c h
    unfold Startup.checkedMul at h
    split_ifs at h
    exact (Option.some.inj h).symm
  obtain rfl := hmul_eq hroles
  obtain rfl := hmul_eq hmul
  obtain ⟨-, hedges⟩ := checkedAdd_eq_some.mp hedges
  obtain ⟨-, hstrings⟩ := checkedAdd_eq_some.mp hstrings
  obtain ⟨-, htotal⟩ := checkedAdd_eq_some.mp htotal
  have hbytes : total = bytes.length := not_not.mp (of_decide_eq_false hwhole)
  exact ⟨hedges.symm, hstrings.symm, (htotal.trans hbytes).symm⟩

variable {m : Manifest} {stringBytes : Nat}

theorem roleBytes_yields (hm : Sized m stringBytes) {index : Nat} (h : index < m.roleCount) :
    Yields (m.roleBytes index) fun record => m.roleBytes index = .ok record ∧
      record.length = 96 := by
  refine sliceAt_yields ?_
  have hle : index * 96 + 96 ≤ m.roleCount * 96 := by omega
  rw [hm.length, hm.strings, hm.edges]
  simp only [headerSize, roleRecordSize, edgeRecordSize]
  omega

theorem edgeBytes_yields (hm : Sized m stringBytes) {index : Nat} (h : index < m.edgeCount) :
    Yields (m.edgeBytes index) fun record => m.edgeBytes index = .ok record ∧
      record.length = 32 := by
  refine sliceAt_yields ?_
  have hle : index * 32 + 32 ≤ m.edgeCount * 32 := by omega
  rw [hm.length, hm.strings]
  simp only [edgeRecordSize]
  omega

theorem string_yields (hm : Sized m stringBytes) (relativeOffset len : Nat) :
    Yields (m.string relativeOffset len stringBytes) fun part =>
      sliceAt m.bytes (m.stringsOffset + relativeOffset) len =
        (.ok part : ManifestCheck _) := by
  unfold string
  refine (Yields.okOr _ _).bind fun stop hstop => (Yields.rejectIf _ _).bind fun _ hfits => ?_
  obtain ⟨-, rfl⟩ := checkedAdd_eq_some.mp hstop
  have hle : relativeOffset + len ≤ stringBytes := Nat.not_lt.mp (of_decide_eq_false hfits)
  rw [Nat.add_sub_cancel_left]
  refine (sliceAt_yields ?_).mono fun part hpart => hpart.1
  rw [hm.length]
  omega

theorem text_ok {offset len : Nat} {part : List UInt8} {s : String}
    (hslice : sliceAt m.bytes (m.stringsOffset + offset) len = (.ok part : ManifestCheck _))
    (htext : fromUtf8 part = some s) : m.text offset len = .ok s := by
  rw [text, hslice, ok_bind, htext]
  rfl

end Manifest

/-! ## A role -/

/-- No accessor of the role panics. -/
structure Role.Total (role : Role) : Prop where
  id : ∃ id, role.id = .ok id
  required : ∃ b, role.required = .ok b
  requiresReady : ∃ b, role.requiresReady = .ok b
  activation : ∃ activation, role.activation = .ok activation
  startupProfile : ∃ profile, role.startupProfile = .ok profile
  path : ∃ path, role.path = .ok path
  justification : ∃ justification, role.justification = .ok justification
  executableIdentity : ∃ identity, role.executableIdentity = .ok identity
  edges : ∃ edges, role.edges = .ok edges

/-- What a turn of the loop over the roles has seen. -/
structure RoleTurn (m : Manifest) (index : Nat) (scan scan' : Manifest.RoleScan) : Prop where
  id : ∃ id, (m.roleAt index).id = .ok id ∧ scan'.previousRoleId = some id ∧
    ∀ previous, scan.previousRoleId = some previous → previous.toNat < id.toNat
  range : (m.roleAt index).edgeRange = .ok (scan.expectedFirstEdge, scan'.expectedFirstEdge)
  ordered : scan.expectedFirstEdge ≤ scan'.expectedFirstEdge
  inside : scan'.expectedFirstEdge ≤ m.edgeCount
  total : (m.roleAt index).Total
  spans : ∃ spans, (m.roleAt index).spans = .ok spans ∧
    Tiles scan.stringCursor spans scan'.stringCursor

theorem RoleId.fromWire_ne_panic (value : UInt32) : fromWire value ≠ .panic := by
  unfold fromWire
  split_ifs <;> first | exact ok_ne_panic _ | exact err_ne_panic _

theorem Activation.fromWire_ne_panic (value : UInt16) : fromWire value ≠ .panic := by
  unfold fromWire
  split_ifs <;> first | exact ok_ne_panic _ | exact err_ne_panic _

theorem StartupProfile.fromWire_ne_panic (value : UInt16) : fromWire value ≠ .panic := by
  unfold fromWire
  split_ifs <;> first | exact ok_ne_panic _ | exact err_ne_panic _

theorem DependencyKind.fromWire_ne_panic (value : UInt16) : fromWire value ≠ .panic := by
  unfold fromWire
  split_ifs <;> first | exact ok_ne_panic _ | exact err_ne_panic _

theorem validateActivationProfile_ne_panic (activation : Activation) (profile : StartupProfile) :
    validateActivationProfile activation profile ≠ .panic := by
  cases activation <;> cases profile <;>
    first | exact ok_ne_panic _ | exact err_ne_panic _

namespace Manifest

variable {m : Manifest} {stringBytes : Nat}

theorem archivePath_yields (part : List UInt8) :
    Yields ((ArchivePath.new part).mapErr fun _ => ParseError.invalidPath) fun _ => True :=
  ((Yields.self (Bootfs.ArchivePath.new_ne_panic part)).mapErr _).mono fun _ _ => trivial

theorem checkRole_yields (hm : Sized m stringBytes) {index : Nat} (hindex : index < m.roleCount)
    (scan : RoleScan) :
    Yields (m.checkRole stringBytes index scan) (RoleTurn m index scan) := by
  unfold checkRole
  refine (roleBytes_yields hm hindex).bind fun record hrecord => ?_
  obtain ⟨hrecord, hlen⟩ := hrecord
  refine (get32_yields (by omega)).bind fun w0 h0 => ?_
  refine (Yields.self (RoleId.fromWire_ne_panic w0)).bind fun id hid => ?_
  refine (Yields.rejectIf _ _).bind fun _ horder => ?_
  refine (get32_yields (by omega)).bind fun w4 h4 => (Yields.rejectIf _ _).bind fun _ _ => ?_
  refine (get16_yields (by omega)).bind fun _ _ => (Yields.rejectIf _ _).bind fun _ _ => ?_
  refine (get16_yields (by omega)).bind fun w10 h10 => ?_
  refine (Yields.self (Activation.fromWire_ne_panic w10)).bind fun activation hactivation => ?_
  refine (get16_yields (by omega)).bind fun _ _ => (Yields.rejectIf _ _).bind fun _ _ => ?_
  refine (get16_yields (by omega)).bind fun w14 h14 => ?_
  refine (Yields.self (StartupProfile.fromWire_ne_panic w14)).bind fun profile hprofile => ?_
  refine (Yields.self (validateActivationProfile_ne_panic activation profile)).bind fun _ _ => ?_
  refine (get16_yields (by omega)).bind fun _ _ => (get16_yields (by omega)).bind fun _ _ => ?_
  refine (get32_yields (by omega)).bind fun _ _ => (sliceAt_yields (by omega)).bind fun _ _ => ?_
  refine (Yields.rejectIf _ _).bind fun _ _ => ?_
  refine (sliceAt_yields (by omega)).bind fun identity hidentity => ?_
  refine (Yields.rejectIf _ _).bind fun _ _ => ?_
  -- the path
  refine (get32_yields (by omega)).bind fun w16 h16 => (toUsize_yields _).bind ?_
  rintro _ rfl
  refine (get16_yields (by omega)).bind fun w20 h20 => (Yields.rejectIf _ _).bind fun _ hpathLen => ?_
  refine (Yields.rejectIf _ _).bind fun _ hpathAt => ?_
  refine (string_yields hm _ _).bind fun path hpath => (Yields.okOr _ _).bind fun pathText hutf8 => ?_
  refine (archivePath_yields _).bind fun _ _ => (Yields.okOr _ _).bind fun cursor hcursor => ?_
  -- the justification
  refine (get32_yields (by omega)).bind fun w24 h24 => (toUsize_yields _).bind ?_
  rintro _ rfl
  refine (get16_yields (by omega)).bind fun w28 h28 => (Yields.rejectIf _ _).bind fun _ hwhyLen => ?_
  refine (Yields.rejectIf _ _).bind fun _ hwhyAt => ?_
  refine (string_yields hm _ _).bind fun why hwhy => (Yields.okOr _ _).bind fun whyText hwhyUtf8 => ?_
  refine (Yields.okOr _ _).bind fun cursor' hcursor' => ?_
  -- the edges
  refine (get16_yields (by omega)).bind fun w32 h32 => (get16_yields (by omega)).bind fun w34 h34 => ?_
  refine (Yields.okOr _ _).bind fun stop hstop => (Yields.rejectIf _ _).bind fun _ hrange => ?_
  obtain ⟨-, rfl⟩ := checkedAdd_eq_some.mp hcursor
  obtain ⟨-, rfl⟩ := checkedAdd_eq_some.mp hcursor'
  obtain ⟨-, rfl⟩ := checkedAdd_eq_some.mp hstop
  have hbytes : (m.roleAt index).bytes = .ok record := hrecord
  obtain ⟨hfirst, hinside⟩ := Bool.or_eq_false_iff.mp hrange
  have hfirst : w32.toNat = scan.expectedFirstEdge := not_not.mp (of_decide_eq_false hfirst)
  have hat : w16.toNat = scan.stringCursor := not_not.mp (of_decide_eq_false hpathAt)
  have hat' : w24.toNat = scan.stringCursor + w20.toNat := not_not.mp (of_decide_eq_false hwhyAt)
  have hid : (m.roleAt index).id = .ok id := by
    rw [Role.id, hbytes, ok_bind, h0, ok_bind, hid]
    rfl
  have hedges : (m.roleAt index).edgeRange = .ok (w32.toNat, w32.toNat + w34.toNat) := by
    rw [Role.edgeRange, hbytes, ok_bind, h32, ok_bind, h34]
    rfl
  have hspans : (m.roleAt index).spans =
      .ok [(w16.toNat, w20.toNat), (w24.toNat, w28.toNat)] := by
    rw [Role.spans, hbytes, ok_bind, h16, ok_bind, h20, ok_bind, h24, ok_bind, h28]
    rfl
  have htotal : (m.roleAt index).Total := by
    refine ⟨⟨id, hid⟩, ⟨decide (w4 &&& roleFlagRequired ≠ 0), ?_⟩,
      ⟨decide (w4 &&& roleFlagRequiresReady ≠ 0), ?_⟩, ⟨activation, ?_⟩, ⟨profile, ?_⟩,
      ⟨pathText, ?_⟩, ⟨whyText, ?_⟩, ⟨identity, ?_⟩,
      ⟨m.edgesBetween w32.toNat (w32.toNat + w34.toNat), ?_⟩⟩
    · rw [Role.required, hbytes, ok_bind, h4]
      rfl
    · rw [Role.requiresReady, hbytes, ok_bind, h4]
      rfl
    · rw [Role.activation, hbytes, ok_bind, h10, ok_bind, hactivation]
      rfl
    · rw [Role.startupProfile, hbytes, ok_bind, h14, ok_bind, hprofile]
      rfl
    · rw [Role.path, hbytes, ok_bind, h16, ok_bind, h20]
      exact text_ok hpath hutf8
    · rw [Role.justification, hbytes, ok_bind, h24, ok_bind, h28]
      exact text_ok hwhy hwhyUtf8
    · rw [Role.executableIdentity, hbytes]
      exact hidentity.1
    · rw [Role.edges, hedges]
      rfl
  have horder : ∀ previous, scan.previousRoleId = some previous → previous.toNat < id.toNat := by
    intro previous hprevious
    rw [hprevious] at horder
    exact Nat.not_le.mp (of_decide_eq_false horder)
  have hpositive : 0 < w20.toNat := by
    rw [Bool.not_eq_false', Bool.and_eq_true, decide_eq_true_eq] at hpathLen
    exact hpathLen.1
  have hpositive' : 0 < w28.toNat := by
    rw [Bool.not_eq_false', Bool.and_eq_true, decide_eq_true_eq] at hwhyLen
    exact hwhyLen.1
  exact .ok {
    id := ⟨id, hid, rfl, horder⟩
    range := hfirst ▸ hedges
    ordered := hfirst ▸ Nat.le_add_right _ _
    inside := Nat.not_lt.mp (of_decide_eq_false hinside)
    total := htotal
    spans := ⟨_, hspans, hat, hpositive, hat', hpositive', rfl⟩ }

end Manifest

end Wyrmroot.Rrc
