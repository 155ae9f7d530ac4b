import Wyrmroot.Bootfs.Archive

/-!
# Reading is safe and complete

No byte string makes the reader panic, and on an archive that
`Archive::new` accepted, the later walk sees what the validation saw: the
bytes are records one behind the other up to a trailer that ends them
(`Tiles`), the entries are these records, and a lookup finds the entry of a
name exactly when there is one.
-/

namespace Wyrmroot.Bootfs

open Outcome

/-- A `&[u8]`, which is never longer than `isize::MAX`. -/
structure ByteSlice where
  bytes : List UInt8
  fits : bytes.length < 2 ^ 63

variable {bytes : List UInt8} {start cursor : Nat}

/-! ## No panic -/

theorem scanPath_ne_panic {rest : List UInt8} : ∀ {componentStart index : Nat},
    componentStart ≤ index → index + rest.length = bytes.length →
      scanPath bytes componentStart index rest ≠ .panic := by
  have hcomponent : ∀ component, validateComponent component ≠ .panic := by
    intro component
    unfold validateComponent
    split
    · exact err_ne_panic _
    split
    · exact err_ne_panic _
    split
    · exact err_ne_panic _
    · exact ok_ne_panic _
  induction rest with
  | nil =>
      intro componentStart index hle hlen
      rw [List.length_nil] at hlen
      refine bind_ne_panic ?_ fun part _ => hcomponent part
      rw [sliceFrom, if_pos (by omega)]
      exact ok_ne_panic _
  | cons byte rest ih =>
      intro componentStart index hle hlen
      rw [List.length_cons] at hlen
      rw [scanPath]
      by_cases hzero : byte = 0
      · rw [if_pos hzero]
        exact err_ne_panic _
      by_cases hback : byte = backslash
      · rw [if_neg hzero, if_pos hback]
        exact err_ne_panic _
      rw [if_neg hzero, if_neg hback]
      by_cases hsep : byte = slash
      · rw [if_pos hsep]
        refine bind_ne_panic (sliceAt_ne_panic (by omega)) fun part _ => ?_
        exact bind_ne_panic (hcomponent part) fun _ _ => ih (Nat.le_refl _) (by omega)
      · rw [if_neg hsep]
        exact ih (by omega) (by omega)

theorem validateArchivePath_ne_panic (bytes : List UInt8) : validateArchivePath bytes ≠ .panic :=
  bind_ne_panic (rejectIf_ne_panic _ _) fun _ _ =>
    bind_ne_panic (rejectIf_ne_panic _ _) fun _ _ =>
      bind_ne_panic (rejectIf_ne_panic _ _) fun _ _ =>
        bind_ne_panic (rejectIf_ne_panic _ _) fun _ _ =>
          scanPath_ne_panic (Nat.le_refl 0) (Nat.zero_add _)

theorem ArchivePath.new_ne_panic (bytes : List UInt8) : ArchivePath.new bytes ≠ .panic := by
  unfold ArchivePath.new
  split
  · exact nofun
  · exact nofun
  · rename_i h
    exact absurd h (validateArchivePath_ne_panic bytes)

theorem plus_ne_panic {ε : Type} {a b : Nat} (h : a + b < 2 ^ 64) :
    (plus a b : Outcome ε Nat) ≠ .panic := by
  rw [plus, if_pos h]
  exact nofun

theorem hexDigits_ne_panic (offset : Nat) (field : List UInt8) : ∀ value,
    hexDigits offset value field ≠ .panic := by
  induction field with
  | nil => exact fun _ => nofun
  | cons byte rest ih =>
      exact fun _ => bind_ne_panic (okOr_ne_panic _ _) fun _ _ =>
        bind_ne_panic (okOr_ne_panic _ _) fun _ _ => ih _

theorem headerField_ne_panic {header : List UInt8} {column : Nat}
    (hheader : headerSize ≤ header.length) (hcolumn : column + 8 ≤ headerSize)
    (hstart : start + column < 2 ^ 64) : headerField header start column ≠ .panic :=
  bind_ne_panic (sliceAt_ne_panic (by omega)) fun _ _ =>
    bind_ne_panic (plus_ne_panic hstart) fun _ _ => hexDigits_ne_panic _ _ _

theorem parseFields_fits {fields : Fields} (h : parseFields bytes start = .ok fields) :
    start + headerSize ≤ bytes.length := by
  obtain ⟨header, hheader, h₁⟩ := bind_eq_ok.mp h
  obtain ⟨_, hsize, -⟩ := bind_eq_ok.mp h₁
  rw [okOr_eq_ok] at hheader
  rw [rejectIf_eq_ok, decide_eq_false_iff_not] at hsize
  by_cases hstart : start ≤ bytes.length
  · rw [if_pos hstart] at hheader
    obtain rfl := Option.some.inj hheader
    rw [List.length_drop] at hsize
    omega
  · rw [if_neg hstart] at hheader
    cases hheader

theorem parseFields_ne_panic
    (hbytes : bytes.length < 2 ^ 63) : parseFields bytes start ≠ .panic := by
  refine bind_ne_panic (okOr_ne_panic _ _) fun header hheader => ?_
  refine bind_ne_panic (rejectIf_ne_panic _ _) fun _ hsize => ?_
  rw [okOr_eq_ok] at hheader
  rw [rejectIf_eq_ok, decide_eq_false_iff_not, Nat.not_lt] at hsize
  have hstart : start ≤ bytes.length := by
    by_contra hnot
    rw [if_neg hnot] at hheader
    cases hheader
  have hfield : ∀ column, column + 8 ≤ headerSize → headerField header start column ≠ .panic := by
    intro column hcolumn
    refine headerField_ne_panic hsize hcolumn ?_
    have hheaderSize : headerSize = 110 := rfl
    omega
  have hmagic : (sliceAt header 0 6 : ParseCheck _) ≠ .panic :=
    sliceAt_ne_panic (Nat.le_trans (by decide) hsize)
  exact bind_ne_panic hmagic fun _ _ => bind_ne_panic (rejectIf_ne_panic _ _) fun _ _ =>
    bind_ne_panic (hfield 6 (by decide)) fun _ _ => bind_ne_panic (hfield 14 (by decide)) fun _ _ =>
    bind_ne_panic (hfield 22 (by decide)) fun _ _ => bind_ne_panic (hfield 30 (by decide)) fun _ _ =>
    bind_ne_panic (hfield 38 (by decide)) fun _ _ => bind_ne_panic (hfield 46 (by decide)) fun _ _ =>
    bind_ne_panic (hfield 54 (by decide)) fun _ _ => bind_ne_panic (hfield 62 (by decide)) fun _ _ =>
    bind_ne_panic (hfield 70 (by decide)) fun _ _ => bind_ne_panic (hfield 78 (by decide)) fun _ _ =>
    bind_ne_panic (hfield 86 (by decide)) fun _ _ => bind_ne_panic (hfield 94 (by decide)) fun _ _ =>
    bind_ne_panic (hfield 102 (by decide)) fun _ _ => pure_ne_panic _

theorem getRange_ne_panic {first last : Nat} {e : ParseError} :
    getRange bytes first last e ≠ .panic := okOr_ne_panic _ _

theorem parseExtent_ne_panic {namesize filesize : Nat} (hstart : start + headerSize ≤ bytes.length)
    (hbytes : bytes.length < 2 ^ 63) : parseExtent bytes start namesize filesize ≠ .panic := by
  have hheader : headerSize = 110 := rfl
  have hplus : (plus start 94 : ParseCheck Nat) ≠ .panic := plus_ne_panic (by omega)
  refine bind_ne_panic hplus fun _ _ => bind_ne_panic (rejectIf_ne_panic _ _) fun _ _ =>
    bind_ne_panic hplus fun _ _ => bind_ne_panic (rejectIf_ne_panic _ _) fun _ _ =>
    bind_ne_panic (okOr_ne_panic _ _) fun _ _ => bind_ne_panic hplus fun _ _ =>
    bind_ne_panic (okOr_ne_panic _ _) fun _ _ => bind_ne_panic getRange_ne_panic fun nameWithNul _ =>
    bind_ne_panic (sliceAt_ne_panic (by omega)) fun _ _ =>
    bind_ne_panic (rejectIf_ne_panic _ _) fun _ _ => bind_ne_panic (okOr_ne_panic _ _) fun _ _ =>
    bind_ne_panic getRange_ne_panic fun _ _ => bind_ne_panic (rejectIf_ne_panic _ _) fun _ _ =>
    bind_ne_panic (okOr_ne_panic _ _) fun dataEnd _ => bind_ne_panic getRange_ne_panic fun _ _ =>
    bind_ne_panic (okOr_ne_panic _ _) fun next hnext => bind_ne_panic (rejectIf_ne_panic _ _)
      fun _ hfits => bind_ne_panic (sliceAt_ne_panic ?_) fun _ _ =>
        bind_ne_panic (rejectIf_ne_panic _ _) fun _ _ => pure_ne_panic _
  obtain ⟨-, rfl⟩ := align4_eq_some.mp (okOr_eq_ok.mp hnext)
  rw [rejectIf_eq_ok, decide_eq_false_iff_not] at hfits
  omega

theorem parseRecord_ne_panic (hbytes : bytes.length < 2 ^ 63) (start : Nat) :
    parseRecord bytes start ≠ .panic := by
  refine bind_ne_panic (parseFields_ne_panic hbytes) fun fields hfields =>
    bind_ne_panic (parseExtent_ne_panic (parseFields_fits hfields) hbytes) fun extent _ => ?_
  by_cases hname : extent.name = trailerName
  · rw [if_pos hname]
    exact bind_ne_panic (rejectIf_ne_panic _ _) fun _ _ => pure_ne_panic _
  · rw [if_neg hname]
    refine bind_ne_panic (rejectIf_ne_panic _ _) fun _ _ =>
      bind_ne_panic (rejectIf_ne_panic _ _) fun _ _ => bind_ne_panic ?_ fun _ _ =>
        bind_ne_panic (mapErr_ne_panic (ArchivePath.new_ne_panic _)) fun _ _ => pure_ne_panic _
    unfold isExecutable
    split
    · exact nofun
    split <;> exact nofun

/-! ## One turn of the validation -/

variable {previousName : Option (List UInt8)} {recordCount : Nat} {record : Record}

/-- The names go up. -/
def Above (previousName : Option (List UInt8)) (name : List UInt8) : Prop :=
  ∀ previous, previousName = some previous → previous < name

theorem validateRecords_trailer (hparse : parseRecord bytes cursor = .ok record)
    (htrailer : record.isTrailer = true) : validateRecords bytes cursor previousName recordCount =
      rejectIf (record.next ≠ bytes.length) (.trailingBytes record.next) := by
  rw [validateRecords]
  split <;> rename_i h <;> cases hparse.symm.trans h
  rw [htrailer]
  rfl

/-- A record that is not the trailer ends the loop with an error, or the loop
goes on behind it. -/
theorem validateRecords_record (hparse : parseRecord bytes cursor = .ok record)
    (hrecord : record.isTrailer = false) :
    (recordCount < maxRecords ∧ Above previousName record.name ∧
      validateRecords bytes cursor previousName recordCount =
        validateRecords bytes record.next (some record.name) (recordCount + 1)) ∨
      (¬ (recordCount < maxRecords ∧ Above previousName record.name) ∧
        ∃ e, validateRecords bytes cursor previousName recordCount = .err e) := by
  rw [validateRecords]
  split <;> rename_i h <;> cases hparse.symm.trans h
  rw [hrecord]
  by_cases hmax : maxRecords < recordCount + 1
  · exact .inr ⟨fun hroom => by omega, _, if_pos (by simpa using hmax)⟩
  · rw [if_neg (by simpa using hmax), if_neg Bool.false_ne_true]
    cases previousName with
    | none => exact .inl ⟨by omega, by rintro _ ⟨⟩, rfl⟩
    | some previous =>
        dsimp only
        by_cases hsame : record.name = previous
        · refine .inr ⟨fun hroom => ?_, _, if_pos hsame⟩
          have hbelow := hroom.2 previous rfl
          rw [hsame] at hbelow
          exact List.lt_irrefl _ hbelow
        · rw [if_neg hsame]
          by_cases hbelow : record.name < previous
          · exact .inr ⟨fun hroom => List.lt_asymm (hroom.2 previous rfl) hbelow, _, if_pos hbelow⟩
          · refine .inl ⟨by omega, fun p hp => ?_, if_neg hbelow⟩
            obtain rfl := Option.some.inj hp
            rcases List.le_iff_lt_or_eq.mp (List.not_lt.mp hbelow) with hlt | heq
            · exact hlt
            · exact absurd heq.symm hsame

theorem record_induction (bytes : List UInt8) {motive : Nat → Prop}
    (step : ∀ cursor, (∀ record, parseRecord bytes cursor = .ok record → motive record.next) →
      motive cursor) (cursor : Nat) : motive cursor := by
  induction hn : bytes.length - cursor using Nat.strong_induction_on generalizing cursor with
  | _ n ih =>
      refine step cursor fun record hparse => ?_
      obtain ⟨hnext, hend⟩ := parseRecord_next hparse
      exact ih (bytes.length - record.next) (by omega) record.next rfl

theorem validateRecords_ne_panic (hbytes : bytes.length < 2 ^ 63) (cursor : Nat) :
    ∀ (previousName : Option (List UInt8)) (recordCount : Nat),
      validateRecords bytes cursor previousName recordCount ≠ .panic := by
  induction cursor using record_induction bytes with
  | step cursor ih =>
      intro previousName recordCount
      cases hparse : parseRecord bytes cursor with
      | panic => exact absurd hparse (parseRecord_ne_panic hbytes cursor)
      | err e =>
          rw [validateRecords]
          split <;> rename_i h <;> cases hparse.symm.trans h
          exact err_ne_panic _
      | ok record =>
          cases htrailer : record.isTrailer with
          | true =>
              rw [validateRecords_trailer hparse htrailer]
              exact rejectIf_ne_panic _ _
          | false =>
              rcases validateRecords_record hparse htrailer with ⟨-, -, hgo⟩ | ⟨-, e, herr⟩
              · rw [hgo]
                exact ih record hparse _ _
              · rw [herr]
                exact err_ne_panic _

/-! ## The records of an archive -/

/-- From `cursor` on the bytes are these records, one behind the other, and
then the trailer, which ends them. -/
inductive Tiles (bytes : List UInt8) : Nat → List Record → Record → Prop where
  | trailer {cursor : Nat} {trailer : Record} (hparse : parseRecord bytes cursor = .ok trailer)
      (htrailer : trailer.isTrailer = true) (hend : trailer.next = bytes.length) :
      Tiles bytes cursor [] trailer
  | record {cursor : Nat} {record trailer : Record} {rest : List Record}
      (hparse : parseRecord bytes cursor = .ok record) (hrecord : record.isTrailer = false)
      (hrest : Tiles bytes record.next rest trailer) : Tiles bytes cursor (record :: rest) trailer

/-- The entry of a record. -/
structure Yields (record : Record) (entry : Entry) : Prop where
  name_eq : entry.name = record.name
  data_eq : entry.data = record.data
  path_eq : record.path = some entry.path
  executable_eq : entry.executable = record.executable

theorem validateRecords_tiles (cursor : Nat) :
    ∀ {previousName : Option (List UInt8)} {recordCount : Nat},
      validateRecords bytes cursor previousName recordCount = .ok () →
        ∃ records trailer, Tiles bytes cursor records trailer ∧
          (∀ record ∈ records, Above previousName record.name) ∧
            records.Pairwise (fun a b => a.name < b.name) := by
  induction cursor using record_induction bytes with
  | step cursor ih =>
      intro previousName recordCount h
      cases hparse : parseRecord bytes cursor with
      | err e =>
          rw [validateRecords] at h
          split at h
          · cases h
          · rename_i hpanic
            cases hparse.symm.trans hpanic
          · rename_i hok
            cases hparse.symm.trans hok
      | panic =>
          rw [validateRecords] at h
          split at h
          · rename_i herr
            cases hparse.symm.trans herr
          · cases h
          · rename_i hok
            cases hparse.symm.trans hok
      | ok record =>
          cases htrailer : record.isTrailer with
          | true =>
              rw [validateRecords_trailer hparse htrailer, rejectIf_eq_ok,
                decide_eq_false_iff_not, not_not] at h
              exact ⟨[], record, .trailer hparse htrailer h, List.forall_mem_nil _, .nil⟩
          | false =>
              rcases validateRecords_record hparse htrailer with ⟨-, habove, hgo⟩ | ⟨-, e, herr⟩
              · rw [hgo] at h
                obtain ⟨records, trailer, htiles, hlater, hsorted⟩ := ih record hparse h
                refine ⟨record :: records, trailer, .record hparse htrailer htiles, ?_,
                  List.pairwise_cons.mpr ⟨fun other hother => hlater other hother _ rfl, hsorted⟩⟩
                intro other hother
                rcases List.mem_cons.mp hother with rfl | hother
                · exact habove
                · exact fun previous hprevious =>
                    List.lt_trans (habove previous hprevious) (hlater other hother _ rfl)
              · rw [herr] at h
                cases h

theorem entriesFrom_trailer (hparse : parseRecord bytes cursor = .ok record)
    (htrailer : record.isTrailer = true) : entriesFrom bytes cursor = .ok [] := by
  rw [entriesFrom]
  split <;> rename_i h <;> cases hparse.symm.trans h
  rw [if_pos htrailer]

theorem entriesFrom_record {path : ArchivePath} (hparse : parseRecord bytes cursor = .ok record)
    (hrecord : record.isTrailer = false) (hpath : record.path = some path) :
    entriesFrom bytes cursor = (do
      let rest ← entriesFrom bytes record.next
      pure (⟨record.name, record.data, path, record.executable⟩ :: rest)) := by
  rw [entriesFrom]
  split <;> rename_i h <;> cases hparse.symm.trans h
  rw [if_neg (by rw [hrecord]; exact Bool.false_ne_true), hpath]

variable {records : List Record}

theorem Tiles.entries {trailer : Record} (h : Tiles bytes cursor records trailer) :
    ∃ entries, entriesFrom bytes cursor = .ok entries ∧ List.Forall₂ Yields records entries := by
  induction h with
  | trailer hparse htrailer hend => exact ⟨[], entriesFrom_trailer hparse htrailer, .nil⟩
  | @record cursor record trailer rest hparse hrecord hrest ih =>
      obtain ⟨entries, hentries, hall⟩ := ih
      obtain ⟨path, hpath, -⟩ := (parseRecord_sound hparse).path_eq hrecord
      refine ⟨⟨record.name, record.data, path, record.executable⟩ :: entries, ?_,
        .cons ⟨rfl, rfl, hpath, rfl⟩ hall⟩
      rw [entriesFrom_record hparse hrecord hpath, hentries]
      rfl

theorem yields_names {entries : List Entry}
    (h : List.Forall₂ Yields records entries) : entries.map (·.name) = records.map (·.name) := by
  induction h with
  | nil => rfl
  | cons hfirst _ ih => rw [List.map_cons, List.map_cons, hfirst.name_eq, ih]

theorem yields_sorted {entries : List Entry} (h : List.Forall₂ Yields records entries)
    (hsorted : records.Pairwise fun a b => a.name < b.name) :
    entries.Pairwise fun a b => a.name < b.name := by
  have hnames : (records.map (·.name)).Pairwise (· < ·) := List.pairwise_map.mpr hsorted
  rw [← yields_names h] at hnames
  exact List.pairwise_map.mp hnames

theorem Tiles.paths {trailer : Record}
    (h : Tiles bytes cursor records trailer) {entries : List Entry}
    (hall : List.Forall₂ Yields records entries) :
    ∀ entry ∈ entries, entry.path.bytes = entry.name := by
  induction h generalizing entries with
  | trailer =>
      cases hall
      exact nofun
  | record hparse hrecord _ ih =>
      obtain _ | ⟨hfirst, hrest⟩ := hall
      intro other hother
      rcases List.mem_cons.mp hother with rfl | hother
      · obtain ⟨path, hpath, hname⟩ := (parseRecord_sound hparse).path_eq hrecord
        rw [hfirst.path_eq] at hpath
        rw [Option.some.inj hpath, hname, hfirst.name_eq]
      · exact ih hrest other hother

/-! ## Lookup -/

theorem find_eq_some {entries : List Entry} (hsorted : entries.Pairwise fun a b => a.name < b.name)
    {query : List UInt8} {entry : Entry} :
    entries.find? (fun e => e.name == query) = some entry ↔ entry ∈ entries ∧ entry.name = query := by
  induction entries with
  | nil => simp
  | cons first rest ih =>
      obtain ⟨hbelow, hrest⟩ := List.pairwise_cons.mp hsorted
      by_cases hfirst : first.name = query
      · rw [List.find?_cons_of_pos (by simpa using hfirst)]
        constructor
        · rintro h
          obtain rfl := Option.some.inj h
          exact ⟨List.mem_cons_self .., hfirst⟩
        · rintro ⟨hmem, hname⟩
          rcases List.mem_cons.mp hmem with rfl | hmem
          · rfl
          · have hlt := hbelow entry hmem
            rw [hfirst, hname] at hlt
            exact absurd hlt (List.lt_irrefl _)
      · rw [List.find?_cons_of_neg (by simpa using hfirst), ih hrest, List.mem_cons]
        constructor
        · rintro ⟨hmem, hname⟩
          exact ⟨.inr hmem, hname⟩
        · rintro ⟨rfl | hmem, hname⟩
          · exact absurd hname hfirst
          · exact ⟨hmem, hname⟩

theorem lookup_eq_ok {archive : Archive} {entries : List Entry}
    (hentries : archive.entries = .ok entries)
    (hsorted : entries.Pairwise fun a b => a.name < b.name)
    (hpaths : ∀ entry ∈ entries, entry.path.bytes = entry.name) {query : List UInt8}
    {entry : Entry} :
    archive.lookup query = .ok entry ↔ entry ∈ entries ∧ entry.name = query := by
  have hmap : (archive.entries.mapErr Empty.elim : Outcome LookupError _) = .ok entries := by
    rw [hentries]
    rfl
  rw [Archive.lookup, hmap]
  constructor
  · intro h
    obtain ⟨path, hpath, hfind⟩ := bind_eq_ok.mp h
    rw [ok_bind, okOr_eq_ok, find_eq_some hsorted] at hfind
    cases hnew : ArchivePath.new query with
    | ok path' =>
        rw [hnew] at hpath
        obtain rfl := Outcome.ok.inj hpath
        rw [ArchivePath.new_eq_ok.mp hnew] at hfind
        exact hfind
    | err e | panic =>
        rw [hnew] at hpath
        cases hpath
  · rintro ⟨hmem, rfl⟩
    have hnew : ArchivePath.new entry.name = .ok entry.path :=
      ArchivePath.new_eq_ok.mpr (hpaths entry hmem)
    rw [hnew]
    show okOr (entries.find? fun e => e.name == entry.path.bytes) _ = _
    rw [okOr_eq_ok, find_eq_some hsorted, hpaths entry hmem]
    exact ⟨hmem, rfl⟩

theorem lookup_ne_panic {archive : Archive} {entries : List Entry}
    (hentries : archive.entries = .ok entries) (query : List UInt8) :
    archive.lookup query ≠ .panic := by
  refine bind_ne_panic (mapErr_ne_panic (ArchivePath.new_ne_panic query)) fun _ _ => ?_
  rw [hentries]
  exact okOr_ne_panic _ _

theorem Archive.new_eq_ok {archive : Archive} : Archive.new bytes = .ok archive ↔
    bytes.length ≤ maxArchiveBytes ∧ validateRecords bytes 0 none 0 = .ok () ∧ archive = ⟨bytes⟩ := by
  simp only [Archive.new, checkArchiveLength, bind_eq_ok, rejectIf_eq_ok, decide_eq_false_iff_not,
    Nat.not_lt, exists_const, Outcome.pure_eq, Outcome.ok.injEq]
  constructor
  · rintro ⟨hlen, _, hvalid, rfl⟩
    exact ⟨hlen, hvalid, rfl⟩
  · rintro ⟨hlen, hvalid, rfl⟩
    exact ⟨hlen, (), hvalid, rfl⟩

/-- Nothing in the reader panics, whatever the bytes; and an accepted archive
is a row of records, which the walk yields one by one with names that go up,
and in which a lookup finds exactly the entry of that name. -/
theorem archive_reading (slice : ByteSlice) :
    (∀ start, parseRecord slice.bytes start ≠ .panic) ∧ Archive.new slice.bytes ≠ .panic ∧
      ∀ archive, Archive.new slice.bytes = .ok archive → ∃ records trailer entries,
        Tiles slice.bytes 0 records trailer ∧ archive.entries = .ok entries ∧
          List.Forall₂ Yields records entries ∧ entries.Pairwise (fun a b => a.name < b.name) ∧
            ∀ query, archive.lookup query ≠ .panic ∧ ∀ entry,
              archive.lookup query = .ok entry ↔ entry ∈ entries ∧ entry.name = query := by
  refine ⟨parseRecord_ne_panic slice.fits, ?_, fun archive h => ?_⟩
  · exact bind_ne_panic (rejectIf_ne_panic _ _) fun _ _ =>
      bind_ne_panic (validateRecords_ne_panic slice.fits _ _ _) fun _ _ => pure_ne_panic _
  · obtain ⟨-, hvalid, rfl⟩ := Archive.new_eq_ok.mp h
    obtain ⟨records, trailer, htiles, -, hsorted⟩ := validateRecords_tiles 0 hvalid
    obtain ⟨entries, hentries, hall⟩ := htiles.entries
    exact ⟨records, trailer, entries, htiles, hentries, hall, yields_sorted hall hsorted, fun query =>
      ⟨@lookup_ne_panic ⟨slice.bytes⟩ entries hentries query, fun entry =>
        @lookup_eq_ok ⟨slice.bytes⟩ entries hentries (yields_sorted hall hsorted)
          (htiles.paths hall) query entry⟩⟩

end Wyrmroot.Bootfs
