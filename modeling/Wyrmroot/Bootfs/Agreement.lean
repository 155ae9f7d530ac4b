import Wyrmroot.Bootfs.Builder

/-!
# What is built is read back

The builder's output is one text, `archiveText`, of the sorted entries. The
size pass bounds its length, the sorted names go up strictly because equal
neighbours are refused, and the reader sees one record an entry.
-/

namespace Wyrmroot.Bootfs

open Outcome
open Loader (checkedAdd_eq_some)

/-! ## The text of an archive -/

/-- The records of these entries from `start` on, and the trailer. -/
def archiveText (start : Nat) : List BuilderEntry → List UInt8
  | [] => recordText start trailerName [] 0 0
  | entry :: rest =>
      recordText start entry.path.bytes entry.data entry.mode.newcMode 1 ++
        archiveText
          (start + (recordText start entry.path.bytes entry.data entry.mode.newcMode 1).length) rest

theorem writeEntries_text {entries : List BuilderEntry} : ∀ {output middle bytes : List UInt8},
    Builder.writeEntries output entries = .ok middle →
      writeRecord middle trailerName [] 0 0 0 = .ok bytes →
        bytes = output ++ archiveText output.length entries ∧
          ∀ entry ∈ entries, Encodable entry.path.bytes entry.data := by
  induction entries with
  | nil =>
      intro output middle bytes hentries htrailer
      obtain rfl := Outcome.ok.inj hentries
      exact ⟨(writeRecord_eq_ok.mp htrailer).2, nofun⟩
  | cons entry rest ih =>
      intro output middle bytes hentries htrailer
      obtain ⟨next, hwrite, hrest⟩ := bind_eq_ok.mp hentries
      obtain ⟨hencodable, rfl⟩ := writeRecord_eq_ok.mp hwrite
      obtain ⟨rfl, hall⟩ := ih hrest htrailer
      refine ⟨?_, List.forall_mem_cons.mpr ⟨hencodable, hall⟩⟩
      rw [archiveText, List.length_append, List.append_assoc]

/-! ## The size pass -/

theorem length_recordText_aligned {start : Nat} (hstart : start % 4 = 0) (name data : List UInt8)
    (mode nlink mode' nlink' : Nat) : (recordText start name data mode nlink).length =
      (recordText 0 name data mode' nlink').length ∧
        (start + (recordText start name data mode nlink).length) % 4 = 0 := by
  have hlen := length_recordText start name data mode nlink
  have hlen' := length_recordText 0 name data mode' nlink'
  unfold alignUp headerSize at hlen hlen'
  omega

theorem entriesSize_length {entries : List BuilderEntry} :
    ∀ {start total total' : Nat} {previous : Option (List UInt8)}, start % 4 = 0 →
      total ≤ maxArchiveBytes → Builder.entriesSize total previous entries = .ok total' →
        total' ≤ maxArchiveBytes ∧
          total' + (recordText 0 trailerName [] 0 0).length =
            total + (archiveText start entries).length := by
  induction entries with
  | nil =>
      intro start total total' previous hstart hmax h
      obtain rfl := Outcome.ok.inj h
      rw [archiveText, (length_recordText_aligned hstart trailerName [] 0 0 0 0).1]
      exact ⟨hmax, rfl⟩
  | cons entry rest ih =>
      intro start total total' previous hstart hmax h
      simp only [Builder.entriesSize, bind_eq_ok, rejectIf_eq_ok, okOr_eq_ok, checkedAdd_eq_some,
        recordSize_eq_ok, decide_eq_false_iff_not, Nat.not_lt, exists_const] at h
      obtain ⟨-, _, ⟨-, rfl⟩, _, ⟨-, rfl⟩, hfits, hrest⟩ := h
      have hrecord := length_recordText_aligned hstart entry.path.bytes entry.data
        entry.mode.newcMode 1 0 0
      obtain ⟨hle, heq⟩ := ih hrecord.2 hfits hrest
      refine ⟨hle, ?_⟩
      rw [heq, archiveText, List.length_append, hrecord.1, Nat.add_assoc]

theorem entriesSize_sorted {entries : List BuilderEntry} :
    ∀ {total total' : Nat} {previous : Option (List UInt8)},
      Builder.entriesSize total previous entries = .ok total' →
        entries.Pairwise (fun a b => a.path.bytes ≤ b.path.bytes) →
          (∀ entry ∈ entries, ∀ p, previous = some p → p ≤ entry.path.bytes) →
            (∀ entry ∈ entries, Above previous entry.path.bytes) ∧
              entries.Pairwise (fun a b => a.path.bytes < b.path.bytes) := by
  induction entries with
  | nil => exact fun _ _ _ => ⟨nofun, .nil⟩
  | cons entry rest ih =>
      intro total total' previous h hsorted hprevious
      obtain ⟨hfirst, hrest⟩ := List.pairwise_cons.mp hsorted
      simp only [Builder.entriesSize, bind_eq_ok, rejectIf_eq_ok, decide_eq_false_iff_not,
        exists_const] at h
      obtain ⟨hne, _, -, _, -, -, hgo⟩ := h
      have hbelow : Above previous entry.path.bytes := by
        rintro p rfl
        rcases List.le_iff_lt_or_eq.mp (hprevious entry List.mem_cons_self p rfl) with hlt | heq
        · exact hlt
        · exact absurd (congrArg some heq) hne
      obtain ⟨habove, hstrict⟩ := ih hgo hrest fun other hother p hp =>
        Option.some.inj hp ▸ hfirst other hother
      refine ⟨List.forall_mem_cons.mpr ⟨hbelow, fun other hother p hp => ?_⟩,
        List.pairwise_cons.mpr ⟨fun other hother => habove other hother _ rfl, hstrict⟩⟩
      exact List.lt_trans (hbelow p hp) (habove other hother _ rfl)

/-! ## The reader's side -/

variable {bytes : List UInt8}

/-- The record of an entry of the builder. -/
structure Describes (entry : BuilderEntry) (record : Record) : Prop where
  name_eq : record.name = entry.path.bytes
  data_eq : record.data = entry.data
  executable_eq : record.executable = (entry.mode == .executable)

theorem tiles_archiveText (hbytes : bytes.length < 2 ^ 63) {entries : List BuilderEntry}
    (hencodable : ∀ entry ∈ entries, Encodable entry.path.bytes entry.data) :
    ∀ {start : Nat}, Has bytes start (archiveText start entries) →
      start + (archiveText start entries).length = bytes.length →
        ∃ records trailer, Tiles bytes start records trailer ∧
          List.Forall₂ Describes entries records := by
  induction entries with
  | nil =>
      intro start htext hend
      exact ⟨[], _, .trailer (parseRecord_trailer hbytes htext) rfl hend, .nil⟩
  | cons entry rest ih =>
      intro start htext hend
      rw [archiveText, has_append] at htext
      rw [archiveText, List.length_append, ← Nat.add_assoc] at hend
      have hparse := parseRecord_entry hbytes (hencodable entry List.mem_cons_self) htext.1
      obtain ⟨records, trailer, htiles, hall⟩ :=
        ih (fun e he => hencodable e (List.mem_cons_of_mem _ he)) htext.2 hend
      exact ⟨_ :: records, trailer, .record hparse rfl htiles, .cons ⟨rfl, rfl, rfl⟩ hall⟩

variable {records : List Record}

theorem Tiles.accepted {cursor : Nat} {trailer : Record} (h : Tiles bytes cursor records trailer) :
    ∀ {previousName : Option (List UInt8)} {recordCount : Nat},
      (∀ record ∈ records, Above previousName record.name) →
        records.Pairwise (fun a b => a.name < b.name) →
          recordCount + records.length ≤ maxRecords →
            validateRecords bytes cursor previousName recordCount = .ok () := by
  induction h with
  | trailer hparse htrailer hend =>
      intro previousName recordCount _ _ _
      rw [validateRecords_trailer hparse htrailer, rejectIf_eq_ok, hend]
      simp
  | @record cursor record trailer rest hparse hrecord hrest ih =>
      intro previousName recordCount habove hsorted hcount
      obtain ⟨hfirst, hstrict⟩ := List.pairwise_cons.mp hsorted
      rw [List.length_cons] at hcount
      have hbelow := habove record List.mem_cons_self
      rcases @validateRecords_record bytes cursor previousName recordCount record hparse hrecord with
        ⟨-, -, hgo⟩ | ⟨hnot, -⟩
      · rw [hgo]
        exact ih (fun other hother p hp => Option.some.inj hp ▸ hfirst other hother) hstrict
          (by omega)
      · exact absurd ⟨by omega, hbelow⟩ hnot

theorem describes_names {entries : List BuilderEntry} (h : List.Forall₂ Describes entries records) :
    records.map (·.name) = entries.map (·.path.bytes) := by
  induction h with
  | nil => rfl
  | cons hfirst _ ih => rw [List.map_cons, List.map_cons, hfirst.name_eq, ih]

/-! ## Calls of the builder -/

/-- The arguments of `add`. -/
structure Call where
  path : List UInt8
  data : List UInt8
  mode : FileMode
deriving DecidableEq

def BuilderEntry.call (entry : BuilderEntry) : Call := ⟨entry.path.bytes, entry.data, entry.mode⟩

def Entry.call (entry : Entry) : Call :=
  ⟨entry.name, entry.data, if entry.executable then .executable else .readOnly⟩

/-- The builder after these calls, and the calls that returned `Ok`; a call
that returns an error leaves the builder as it was. -/
def Builder.addAll (self : Builder) : List Call → Builder × List Call
  | [] => (self, [])
  | call :: rest =>
      match self.add call.path call.data call.mode with
      | .ok next => ((next.addAll rest).1, call :: (next.addAll rest).2)
      | _ => self.addAll rest

theorem BuilderEntry.call_inj {a b : BuilderEntry} (h : a.call = b.call) : a = b := by
  obtain ⟨⟨path, hvalid⟩, data, mode⟩ := a
  obtain ⟨⟨path', hvalid'⟩, data', mode'⟩ := b
  obtain ⟨rfl, rfl, rfl⟩ : path = path' ∧ data = data' ∧ mode = mode' := by
    simpa [BuilderEntry.call] using h
  rfl

theorem Builder.add_eq_ok {self next : Builder} {path data : List UInt8} {mode : FileMode} :
    self.add path data mode = .ok next ↔ self.entries.length ≠ maxRecords ∧
      ∃ archivePath : ArchivePath, archivePath.bytes = path ∧
        next = ⟨self.entries ++ [⟨archivePath, data, mode⟩]⟩ := by
  have hmap : ∀ archivePath, ((ArchivePath.new path).mapErr fun _ => BuildError.invalidPath) =
      .ok archivePath ↔ archivePath.bytes = path := by
    intro archivePath
    rw [← ArchivePath.new_eq_ok]
    cases ArchivePath.new path <;> simp [Outcome.mapErr]
  simp only [Builder.add, bind_eq_ok, rejectIf_eq_ok, okOr_eq_ok, checkedAdd_eq_some, hmap,
    decide_eq_false_iff_not, exists_const, Outcome.pure_eq, Outcome.ok.injEq]
  constructor
  · rintro ⟨hroom, _, ⟨-, rfl⟩, -, archivePath, hpath, rfl⟩
    exact ⟨hroom, archivePath, hpath, rfl⟩
  · rintro ⟨hroom, archivePath, rfl, rfl⟩
    obtain ⟨hlen, -⟩ := validateArchivePath_eq_ok.mp archivePath.valid
    have hmax : maxEncodedNameBytes = 4096 := rfl
    exact ⟨hroom, _, ⟨by omega, rfl⟩, by omega, archivePath, rfl, rfl⟩

theorem Builder.addAll_entries (calls : List Call) : ∀ (self : Builder),
    self.entries.length ≤ maxRecords →
      (self.addAll calls).1.entries.map BuilderEntry.call =
          self.entries.map BuilderEntry.call ++ (self.addAll calls).2 ∧
        (self.addAll calls).1.entries.length ≤ maxRecords := by
  induction calls with
  | nil => exact fun self h => ⟨(List.append_nil _).symm, h⟩
  | cons call rest ih =>
      intro self hlen
      rw [Builder.addAll]
      cases hadd : self.add call.path call.data call.mode with
      | ok next =>
          obtain ⟨hroom, archivePath, hpath, rfl⟩ := Builder.add_eq_ok.mp hadd
          have hnext := ih ⟨self.entries ++ [⟨archivePath, call.data, call.mode⟩]⟩
            (by simp; omega)
          refine ⟨hnext.1.trans ?_, hnext.2⟩
          simp [BuilderEntry.call, hpath]
      | err e | panic => exact ih self hlen

/-! ## Agreement -/

theorem perm_sorted (self : Builder) :
    (self.entries.mergeSort Builder.pathOrder).Perm self.entries :=
  List.mergeSort_perm _ _

theorem pathOrder_trans (a b c : BuilderEntry) (hab : Builder.pathOrder a b = true)
    (hbc : Builder.pathOrder b c = true) : Builder.pathOrder a c = true := by
  simp only [Builder.pathOrder, decide_eq_true_eq] at *
  exact List.le_trans hab hbc

theorem pathOrder_total (a b : BuilderEntry) :
    (Builder.pathOrder a b || Builder.pathOrder b a) = true := by
  simp only [Builder.pathOrder, Bool.or_eq_true, decide_eq_true_eq]
  exact List.le_total _ _

theorem pathOrder_sorted (self : Builder) :
    (self.entries.mergeSort Builder.pathOrder).Pairwise fun a b => a.path.bytes ≤ b.path.bytes :=
  (List.pairwise_mergeSort pathOrder_trans pathOrder_total self.entries).imp of_decide_eq_true

/-- What a successful build says of the sorted entries and of the bytes. -/
structure Built (builder : Builder) (bytes : List UInt8) : Prop where
  sorted : (builder.entries.mergeSort Builder.pathOrder).Pairwise
    fun a b => a.path.bytes < b.path.bytes
  encodable : ∀ entry ∈ builder.entries.mergeSort Builder.pathOrder,
    Encodable entry.path.bytes entry.data
  text : bytes = archiveText 0 (builder.entries.mergeSort Builder.pathOrder)
  length_le : bytes.length ≤ maxArchiveBytes

theorem built_of_build {self : Builder} (h : self.build = .ok bytes) : Built self bytes := by
  obtain ⟨trailer, htrailer, h₁⟩ := bind_eq_ok.mp h
  obtain ⟨total, htotal, h₂⟩ := bind_eq_ok.mp h₁
  obtain ⟨middle, hmiddle, hlast⟩ := bind_eq_ok.mp h₂
  rw [(recordSize_eq_ok.mp htrailer).2] at htotal
  have hsorted := entriesSize_sorted htotal (pathOrder_sorted self) fun _ _ _ => nofun
  have hsmall : (recordText 0 trailerName [] 0 0).length ≤ maxArchiveBytes := by
    have hlen := length_recordText 0 trailerName [] 0 0
    rw [Nat.zero_add] at hlen
    rw [hlen]
    simp [alignUp, headerSize, trailerName, maxArchiveBytes]
  obtain ⟨hmax, hsize⟩ := entriesSize_length (Nat.zero_mod 4) hsmall htotal
  obtain ⟨htext, hencodable⟩ := writeEntries_text hmiddle hlast
  rw [List.nil_append, List.length_nil] at htext
  refine ⟨hsorted.2, hencodable, htext, ?_⟩
  rw [htext]
  omega

theorem build_perm {self other : Builder} (h : self.build = .ok bytes)
    (hperm : other.entries.Perm self.entries) : other.build = .ok bytes := by
  have hstrict := (built_of_build h).sorted
  have hsame : other.entries.mergeSort Builder.pathOrder =
      self.entries.mergeSort Builder.pathOrder := by
    have hperm' := ((perm_sorted other).trans hperm).trans (perm_sorted self).symm
    refine hperm'.eq_of_pairwise ?_ (pathOrder_sorted other) (pathOrder_sorted self)
    -- Entries of equal paths are one entry, as the paths go up strictly.
    have hnodup : ((self.entries.mergeSort Builder.pathOrder).map (·.path.bytes)).Nodup := by
      refine List.pairwise_map.mpr (hstrict.imp ?_)
      intro a b hlt heq
      rw [heq] at hlt
      exact List.lt_irrefl _ hlt
    intro a b ha hb hab hba
    exact List.inj_on_of_nodup_map hnodup (hperm'.subset ha) hb (List.le_antisymm hab hba)
  rw [← h, Builder.build, Builder.build, hsame]

theorem yields_calls {entries : List BuilderEntry} {read : List Entry}
    (h : List.Forall₂ Describes entries records) (hread : List.Forall₂ Yields records read) :
    read.map Entry.call = entries.map BuilderEntry.call := by
  induction h generalizing read with
  | nil =>
      cases hread
      rfl
  | @cons entry record entries records hfirst hrest ih =>
      obtain _ | ⟨hyields, hall⟩ := hread
      rename_i first rest
      have hcall : first.call = entry.call := by
        simp only [Entry.call, BuilderEntry.call, hyields.name_eq, hyields.data_eq,
          hyields.executable_eq, hfirst.name_eq, hfirst.data_eq, hfirst.executable_eq]
        cases entry.mode <;> rfl
      rw [List.map_cons, List.map_cons, hcall, ih hall]

theorem Built.read {builder : Builder} (h : Built builder bytes)
    (hcount : builder.entries.length ≤ maxRecords) :
    ∃ entries, Archive.new bytes = .ok ⟨bytes⟩ ∧ Archive.entries ⟨bytes⟩ = .ok entries ∧
      (entries.map Entry.call).Perm (builder.entries.map BuilderEntry.call) ∧
        entries.Pairwise (fun a b => a.name < b.name) ∧
          ∀ query entry, Archive.lookup ⟨bytes⟩ query = .ok entry ↔
            entry ∈ entries ∧ entry.name = query := by
  have hmax : maxArchiveBytes = 33554432 := rfl
  have hbytes : bytes.length < 2 ^ 63 := by
    have hle := h.length_le
    omega
  have htext : Has bytes 0 (archiveText 0 (builder.entries.mergeSort Builder.pathOrder)) :=
    (has_whole.mpr h.text).1
  obtain ⟨records, trailer, htiles, hdescribes⟩ := tiles_archiveText hbytes h.encodable htext
    ((Nat.zero_add _).trans (congrArg List.length h.text).symm)
  have hsorted : records.Pairwise fun a b => a.name < b.name := by
    have hnames : (records.map (·.name)).Pairwise (· < ·) := by
      rw [describes_names hdescribes]
      exact List.pairwise_map.mpr h.sorted
    exact List.pairwise_map.mp hnames
  have hlen : records.length ≤ maxRecords := by
    rw [← hdescribes.length_eq, List.length_mergeSort]
    exact hcount
  have haccepted : validateRecords bytes 0 none 0 = .ok () :=
    htiles.accepted (fun _ _ _ => nofun) hsorted (by omega)
  obtain ⟨entries, hentries, hyields⟩ := htiles.entries
  have hnames := yields_sorted hyields hsorted
  refine ⟨entries, Archive.new_eq_ok.mpr ⟨h.length_le, haccepted, rfl⟩, hentries, ?_, hnames,
    fun query entry => ?_⟩
  · rw [yields_calls hdescribes hyields]
    exact (perm_sorted builder).map _
  · exact @lookup_eq_ok ⟨bytes⟩ entries hentries hnames (htiles.paths hyields) query entry

theorem addAll_sublist (calls : List Call) : ∀ (self : Builder),
    (self.addAll calls).2.Sublist calls := by
  induction calls with
  | nil => exact fun _ => .refl []
  | cons call rest ih =>
      intro self
      rw [Builder.addAll]
      cases self.add call.path call.data call.mode with
      | ok next => exact (ih next).cons_cons call
      | err e | panic => exact (ih self).cons call

/-- Every call is accepted exactly when there is room for all and each path
is canonical. -/
theorem addAll_eq_self (calls : List Call) : ∀ (self : Builder), self.entries.length ≤ maxRecords →
    ((self.addAll calls).2 = calls ↔ self.entries.length + calls.length ≤ maxRecords ∧
      ∀ call ∈ calls, ∃ archivePath : ArchivePath, archivePath.bytes = call.path) := by
  induction calls with
  | nil => exact fun self h => iff_of_true rfl ⟨h, nofun⟩
  | cons call rest ih =>
      intro self hlen
      by_cases hadd : ∃ next, self.add call.path call.data call.mode = .ok next
      · obtain ⟨next, hadd⟩ := hadd
        obtain ⟨hroom, archivePath, hpath, hnext⟩ := Builder.add_eq_ok.mp hadd
        have hnextLen : next.entries.length = self.entries.length + 1 := by
          rw [hnext, List.length_append, List.length_singleton]
        have hrest := ih next (by omega)
        have haccepted : (self.addAll (call :: rest)).2 = call :: (next.addAll rest).2 := by
          rw [Builder.addAll, hadd]
        rw [haccepted, List.cons.injEq, eq_self_iff_true, true_and, hrest, hnextLen,
          List.length_cons, List.forall_mem_cons, Nat.add_assoc, Nat.add_comm 1]
        constructor
        · rintro ⟨hcount, hpaths⟩
          exact ⟨hcount, ⟨archivePath, hpath⟩, hpaths⟩
        · rintro ⟨hcount, -, hpaths⟩
          exact ⟨hcount, hpaths⟩
      · have hrefused : (self.addAll (call :: rest)).2 = (self.addAll rest).2 := by
          rw [Builder.addAll]
          cases hresult : self.add call.path call.data call.mode with
          | ok next => exact absurd ⟨next, hresult⟩ hadd
          | err e | panic => rfl
        rw [hrefused]
        refine iff_of_false (fun heq => ?_) fun hall => hadd ?_
        · have hle := (addAll_sublist rest self).length_le
          rw [heq, List.length_cons] at hle
          omega
        · obtain ⟨archivePath, hpath⟩ := hall.2 call List.mem_cons_self
          have hcount := hall.1
          rw [List.length_cons] at hcount
          exact ⟨_, Builder.add_eq_ok.mpr ⟨by omega, archivePath, hpath, rfl⟩⟩

theorem addAll_perm {calls calls' : List Call} (hperm : calls'.Perm calls)
    (hall : (Builder.new.addAll calls).2 = calls) : (Builder.new.addAll calls').2 = calls' := by
  rw [addAll_eq_self _ _ (Nat.zero_le _)] at hall ⊢
  exact ⟨hperm.length_eq ▸ hall.1, fun call hcall => hall.2 call (hperm.subset hcall)⟩

@[simp] theorem Builder.new_entries : Builder.new.entries = [] := rfl

theorem entries_perm {calls calls' : List Call}
    (hperm : (Builder.new.addAll calls').2.Perm (Builder.new.addAll calls).2) :
    (Builder.new.addAll calls').1.entries.Perm (Builder.new.addAll calls).1.entries := by
  have hcalls := (Builder.addAll_entries calls Builder.new (Nat.zero_le _)).1
  have hcalls' := (Builder.addAll_entries calls' Builder.new (Nat.zero_le _)).1
  rw [Builder.new_entries, List.map_nil, List.nil_append] at hcalls hcalls'
  rw [← hcalls, ← hcalls'] at hperm
  exact (List.map_perm_map_iff fun _ _ => BuilderEntry.call_inj).mp hperm

/-- Build and read agree. Whatever calls of `add` came before a build that
succeeds, the archive is accepted and has exactly the entries of the calls
that were accepted, once each and in strictly increasing order of path, and
lookup finds each; the bytes do not depend on the order of the calls. -/
theorem build_agreement (calls : List Call) (h : (Builder.new.addAll calls).1.build = .ok bytes) :
    (∃ archive entries, Archive.new bytes = .ok archive ∧ archive.entries = .ok entries ∧
      (entries.map Entry.call).Perm (Builder.new.addAll calls).2 ∧
      entries.Pairwise (fun a b => a.name < b.name) ∧
      ∀ call ∈ (Builder.new.addAll calls).2,
        ∃ entry, archive.lookup call.path = .ok entry ∧ entry.call = call) ∧
    (∀ calls', (Builder.new.addAll calls').2.Perm (Builder.new.addAll calls).2 →
      (Builder.new.addAll calls').1.build = .ok bytes) ∧
    ∀ calls' : List Call, calls'.Perm calls → (Builder.new.addAll calls).2 = calls →
      (Builder.new.addAll calls').2 = calls' ∧ (Builder.new.addAll calls').1.build = .ok bytes := by
  obtain ⟨hcalls, hcount⟩ := Builder.addAll_entries calls Builder.new (Nat.zero_le _)
  rw [Builder.new_entries, List.map_nil, List.nil_append] at hcalls
  obtain ⟨entries, hnew, hentries, hperm, hsorted, hlookup⟩ := (built_of_build h).read hcount
  rw [hcalls] at hperm
  refine ⟨⟨⟨bytes⟩, entries, hnew, hentries, hperm, hsorted, fun call hcall => ?_⟩, ?_, ?_⟩
  · obtain ⟨entry, hentry, rfl⟩ := List.mem_map.mp (hperm.symm.subset hcall)
    exact ⟨entry, (hlookup _ entry).mpr ⟨hentry, rfl⟩, rfl⟩
  · exact fun calls' hsame => build_perm h (entries_perm hsame)
  · intro calls' hsame hall
    have hall' := addAll_perm hsame hall
    refine ⟨hall', build_perm h (entries_perm ?_)⟩
    rw [hall, hall']
    exact hsame

/-- Two files. -/
def twoFiles : List Call := [⟨[97], [4], .executable⟩, ⟨[98], [1, 2, 3], .readOnly⟩]

theorem twoFiles_build : ∃ bytes, (Builder.new.addAll twoFiles).1.build = .ok bytes := by
  have hsort : (Builder.new.addAll twoFiles).1.entries.mergeSort Builder.pathOrder =
      (Builder.new.addAll twoFiles).1.entries := List.mergeSort_of_pairwise (by decide +kernel)
  refine exists_of_isOk ?_
  rw [Builder.build, hsort]
  decide +kernel

theorem twoFiles_agreement : ∃ bytes archive entries,
    (Builder.new.addAll twoFiles).1.build = .ok bytes ∧
      Archive.new bytes = .ok archive ∧ archive.entries = .ok entries ∧
        (entries.map Entry.call).Perm (Builder.new.addAll twoFiles).2 := by
  obtain ⟨bytes, h⟩ := twoFiles_build
  obtain ⟨archive, entries, hnew, hentries, hperm, -⟩ := (build_agreement twoFiles h).1
  exact ⟨bytes, archive, entries, h, hnew, hentries, hperm⟩

theorem twoFiles_reading : ∃ bytes archive records trailer entries,
    (Builder.new.addAll twoFiles).1.build = .ok bytes ∧ Archive.new bytes = .ok archive ∧
      Tiles bytes 0 records trailer ∧ archive.entries = .ok entries ∧
        List.Forall₂ Yields records entries ∧ records.length = 2 ∧
          (∃ entry, archive.lookup [98] = .ok entry ∧ entry.data = [1, 2, 3]) ∧
            ∀ entry, archive.lookup [99] ≠ .ok entry := by
  obtain ⟨bytes, h⟩ := twoFiles_build
  obtain ⟨entries, hnew, hentries, hperm, -⟩ := (built_of_build h).read
    (Builder.addAll_entries twoFiles Builder.new (Nat.zero_le _)).2
  have hlength : bytes.length < 2 ^ 63 :=
    Nat.lt_of_le_of_lt (Archive.new_eq_ok.mp hnew).1 (by decide)
  obtain ⟨records, trailer, entries', htiles, hentries', hall, -, hlookup⟩ :=
    (archive_reading ⟨bytes, hlength⟩).2.2 _ hnew
  obtain rfl := Outcome.ok.inj (hentries.symm.trans hentries')
  have hcalls : (Builder.new.addAll twoFiles).1.entries.map BuilderEntry.call = twoFiles := by
    decide +kernel
  rw [hcalls] at hperm
  refine ⟨bytes, _, records, trailer, entries, h, hnew, htiles, hentries, hall, ?_, ?_,
    fun entry hfound => ?_⟩
  · have hlen := hperm.length_eq
    rw [List.length_map] at hlen
    exact hall.length_eq.trans hlen
  · obtain ⟨entry, hentry, hcall⟩ := List.mem_map.mp
      (hperm.symm.subset (List.mem_cons_of_mem _ (List.mem_singleton_self _)))
    exact ⟨entry, ((hlookup _).2 entry).mpr ⟨hentry, congrArg Call.path hcall⟩,
      congrArg Call.data hcall⟩
  · obtain ⟨hentry, hname⟩ := ((hlookup _).2 entry).mp hfound
    have hmem := hperm.subset (List.mem_map_of_mem hentry)
    have hpath : ∀ call ∈ twoFiles, call.path ≠ [99] := by decide
    exact hpath _ hmem hname

end Wyrmroot.Bootfs
