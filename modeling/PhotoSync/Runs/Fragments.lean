import PhotoSync.Runs.Applied
import PhotoSync.Service.Body

set_option autoImplicit false

namespace PhotoSync
open Relational Transaction Store Table

namespace Store

def Pending (s : Store) (job : Nat) (record : NativeRecord) : Prop :=
  ∃ id fragment, s.fragments.get id = some fragment ∧ fragment.job = job ∧ fragment.record = record

end Store

def NativeRecord.isAsset (record : NativeRecord) : Bool := record.recordType == some assetRecordType

def NativeRecord.isMaster (record : NativeRecord) : Bool := record.recordType == some masterRecordType

def NativeRecord.photo (record : NativeRecord) : Option String :=
  if record.isAsset then some record.recordName else stringField record.fields "photoId"

def NativeRecord.path (record : NativeRecord) : Option String := stringField record.fields "relativePath"

def NativeRecord.takesAsset (record : NativeRecord) (row : Entry) : Bool :=
  record.isAsset || (record.isTombstone && row.photoId == some record.recordName)

def Store.matchesRecord (s : Store) (job : Nat) (record : NativeRecord) (id : Nat) (row : Entry) : Bool :=
  row.job == job && (row.photoId == some record.recordName || row.masterId == some record.recordName
    || (record.photo.isSome && row.photoId == record.photo)
    || s.fragments.any (fun _ fragment => fragment.job == job && fragment.entry == id
      && (fragment.record.recordName == record.recordName || (record.photo.isSome && fragment.photoId == record.photo)))
    || record.path.any (fun path => row.relativePath == path
      && (row.photoId.isNone || (record.photo.isSome && row.photoId == record.photo))))

def Store.filed (s : Store) : Bool :=
  !s.fragments.any (fun _ fragment => !(s.entries.get fragment.entry).any (fun row => row.job == fragment.job))

def Store.placeFree (s : Store) (job : Nat) (record : NativeRecord) : Bool :=
  !s.fragments.any (fun _ fragment => (s.entries.get fragment.entry).any (fun row =>
    s.matchesRecord job record fragment.entry row && fragment.master == !record.takesAsset row
      && fragment.record.recordName != record.recordName))

def Store.oneMaster (s : Store) (job : Nat) (record : NativeRecord) : Bool :=
  (record.path.bind (fun path => s.freeEntryAt job path record.photo)).all (fun found =>
    !s.fragments.any (fun _ fragment => fragment.master && fragment.entry != found
      && (s.entries.get fragment.entry).any (fun row =>
        s.matchesRecord job record fragment.entry row && isPlaceholderEntry row)
      && s.fragments.any (fun _ other => other.master && (other.entry == found || other.entry == fragment.entry)
        && other.record != fragment.record)))

def Store.keepsRecords (s : Store) (job : Nat) (record : NativeRecord) : Bool :=
  s.filed && s.placeFree job record && s.oneMaster job record && (record.path.isNone || record.isAsset)

structure Roomy (s : Store) (job : Nat) (record : NativeRecord) : Prop where
  filed : ∀ id fragment, s.fragments.get id = some fragment → ∃ row, s.entries.get fragment.entry = some row ∧ row.job = fragment.job
  free : ∀ id fragment row, s.fragments.get id = some fragment → s.entries.get fragment.entry = some row →
    s.matchesRecord job record fragment.entry row = true → fragment.master = !record.takesAsset row →
    fragment.record.recordName = record.recordName
  master : ∀ path found, record.path = some path → s.freeEntryAt job path record.photo = some found →
    ∀ id fragment row, s.fragments.get id = some fragment → fragment.master = true → fragment.entry ≠ found →
    s.entries.get fragment.entry = some row → s.matchesRecord job record fragment.entry row = true →
    Store.isPlaceholderEntry row = true → ∀ key other, s.fragments.get key = some other → other.master = true →
    other.entry = found ∨ other.entry = fragment.entry → other.record = fragment.record
  asset : record.path.isSome = true → record.isAsset = true

variable {s t start : Store} {id old found : Nat} {fragment : Fragment} {table : Table Fragment}

theorem roomy_of {job : Nat} {record : NativeRecord} (holds : s.keepsRecords job record = true) : Roomy s job record := by
  simp only [Store.keepsRecords, Bool.and_eq_true] at holds
  obtain ⟨⟨⟨filed, free⟩, master⟩, asset⟩ := holds
  constructor
  · intro id fragment read
    rw [Store.filed, Bool.not_eq_true'] at filed
    have held := any_eq_false.mp filed id fragment read
    rw [Bool.not_eq_false', Option.any_eq_true] at held
    obtain ⟨row, found, own⟩ := held
    exact ⟨row, found, beq_iff_eq.mp own⟩
  · intro id fragment row read found matched place
    rw [Store.placeFree, Bool.not_eq_true'] at free
    have held := any_eq_false.mp free id fragment read
    simpa [found, matched, place] using held
  · intro path found given located id fragment row read isMaster apart entry matched placeholder key other there also where_
    simp only [Store.oneMaster, given, Option.bind_some, located, Option.all_some, Bool.not_eq_true'] at master
    have held := any_eq_false.mp master id fragment read
    by_contra different
    have seen : s.fragments.any (fun _ other => other.master && (other.entry == found || other.entry == fragment.entry)
        && other.record != fragment.record) = true := by
      refine any_iff.mpr ⟨key, other, there, ?_⟩
      simpa [also, different] using where_
    simp [isMaster, apart, entry, matched, placeholder, seen] at held
  · intro some
    simpa [Option.isNone_iff_eq_none, Option.isSome_iff_ne_none.mp some] using asset

theorem admitAssetMetadata_fragments {platform : Platform} {job entry : Nat} {fields : Option Fields}
    (done : admitAssetMetadata platform s job entry fields = .ok t) : t.fragments = s.fragments := by
  have placed : ∀ (u : Store) (uri path folder : String) (favorite : Int) (takenAt : Option Int),
      (u.placeMetadata entry uri path folder favorite takenAt).fragments = u.fragments := by
    intro u uri path folder favorite takenAt
    have described : ∀ v : Store, (v.describeCloudMedia uri favorite takenAt).fragments = v.fragments := by
      intro v
      unfold describeCloudMedia
      split
      · rfl
      · split <;> rfl
    unfold placeMetadata
    rw [described]
    unfold linkMedia indexCloudMedia
    dsimp only [updateEntry]
    split <;> rfl
  obtain ⟨row, _, rest⟩ := bind_ok.mp done
  split at rest
  · cases rest
    rfl
  · obtain ⟨_, _, rest⟩ := bind_ok.mp rest
    split at rest
    · cases rest
      rfl
    · obtain ⟨root, _, rest⟩ := bind_ok.mp rest
      cases rest
      unfold admitFields
      dsimp only
      split
      · split
        · rfl
        · split
          · exact placed _ _ _ _ _ _
          · split
            · next followed =>
              rw [placed]
              unfold followRename at followed
              split at followed
              · cases followed
              · dsimp only at followed
                split at followed <;> cases followed <;> rfl
            · rfl
      · exact placed _ _ _ _ _ _

theorem setPending_ok {entry : Nat} {master : Bool} {record : NativeRecord} {row : Entry}
    (read : s.entries.get entry = some row) (done : s.setPending entry master record = .ok t) :
    ∃ fragment : Fragment, fragment.job = row.job ∧ fragment.entry = entry ∧ fragment.master = master ∧
      fragment.record = record ∧ t.entries = s.entries ∧ t.fragments = s.fragments.upsert
        (fun other => other.entry == entry && other.master == master) (fun _ => fragment) fragment := by
  obtain ⟨found, located, rest⟩ := bind_ok.mp done
  rw [requireRow_ok, read, Option.some.injEq] at located
  subst located
  dsimp only at rest
  generalize (if master = true then Option.or _ row.photoId else some record.recordName) = photo at rest
  refine ⟨⟨row.job, entry, master, photo, record⟩, rfl, rfl, rfl, rfl, ?_⟩
  unfold upsert
  split at rest
  · next located =>
    cases rest
    rw [located]
    exact ⟨rfl, rfl⟩
  · next located =>
    cases rest
    rw [located]
    exact ⟨rfl, rfl⟩

theorem upsert_keeps (test : Fragment → Bool) {fresh : Fragment} (read : table.get id = some fragment)
    (outside : test fragment = false) : (table.upsert test (fun _ => fresh) fresh).get id = some fragment := by
  unfold upsert
  split
  · next found value located =>
    have picked := (first?_some located)
    have apart : id ≠ found := by
      rintro rfl
      rw [read, Option.some.injEq] at picked
      rw [← picked.1, outside] at picked
      cases picked.2
    rw [get_modify_of_ne apart, read]
  · rw [get_insert, if_neg (Nat.ne_of_lt (lt_next read)), read]

theorem upsert_holds (table : Table Fragment) (test : Fragment → Bool) (fresh : Fragment) :
    ∃ id, (table.upsert test (fun _ => fresh) fresh).get id = some fresh := by
  unfold upsert
  split
  · next found value located =>
    refine ⟨found, ?_⟩
    rw [get_modify_self, (first?_some located).1]
    rfl
  · exact ⟨table.next, get_insert_next table fresh⟩

theorem upsert_rows (test : Fragment → Bool) {fresh : Fragment}
    (read : (table.upsert test (fun _ => fresh) fresh).get id = some fragment) :
    table.get id = some fragment ∨ fragment = fresh := by
  unfold upsert at read
  split at read
  · rw [get_modify] at read
    split at read
    · obtain ⟨_, _, rfl⟩ := Option.map_eq_some_iff.mp read
      exact .inr rfl
    · exact .inl read
  · rw [get_insert] at read
    split at read
    · exact .inr (Option.some.inj read).symm
    · exact .inl read

theorem setPending_keeps (s t : Store) (entry : Nat) (master : Bool) (record : NativeRecord) (row : Entry)
    (read : s.entries.get entry = some row)
    (free : ∀ id fragment, s.fragments.get id = some fragment → fragment.entry = entry → fragment.master = master →
      fragment.record.recordName = record.recordName) (done : s.setPending entry master record = .ok t) :
    t.Pending row.job record ∧ ∀ job other, s.Pending job other → other.recordName ≠ record.recordName → t.Pending job other := by
  obtain ⟨fresh, own, _, _, holds, _, stored⟩ := setPending_ok read done
  constructor
  · obtain ⟨id, placed⟩ := upsert_holds s.fragments (fun other => other.entry == entry && other.master == master) fresh
    exact ⟨id, fresh, by rw [stored]; exact placed, own, holds⟩
  · rintro job other ⟨id, fragment, present, mine, rfl⟩ different
    refine ⟨id, fragment, ?_, mine, rfl⟩
    rw [stored]
    refine upsert_keeps _ present ?_
    by_contra taken
    simp only [Bool.not_eq_false, Bool.and_eq_true, beq_iff_eq] at taken
    exact different (free id fragment present taken.1 taken.2)

theorem Store.Pending.of_fragments {job : Nat} {record : NativeRecord} (same : t.fragments = s.fragments)
    (pending : s.Pending job record) : t.Pending job record := by
  unfold Store.Pending at pending ⊢
  rw [same]
  exact pending

theorem routed_matches {job : Nat} {record : NativeRecord} (roomy : Roomy s job record) (entry : Nat)
    (routed : (s.knownEntry job record.recordName).or (record.photo.bind (fun photo => ((s.entryOfPhoto job photo).map Prod.fst).or (s.entryOfPendingPhoto job photo))) = some entry) :
    ∃ row, s.entries.get entry = some row ∧ s.matchesRecord job record entry row = true := by
  have pending : ∀ id fragment, s.fragments.get id = some fragment → fragment.job = job →
      (fragment.record.recordName == record.recordName || (record.photo.isSome && fragment.photoId == record.photo)) = true →
      ∃ row, s.entries.get fragment.entry = some row ∧ s.matchesRecord job record fragment.entry row = true := by
    intro id fragment read own names
    obtain ⟨row, found, mine⟩ := roomy.filed id fragment read
    have held : s.fragments.any (fun _ other => other.job == job && other.entry == fragment.entry
        && (other.record.recordName == record.recordName || (record.photo.isSome && other.photoId == record.photo))) = true :=
      any_iff.mpr ⟨id, fragment, read, by simp [own, names]⟩
    refine ⟨row, found, ?_⟩
    simp [matchesRecord, mine, own, held]
  rcases Option.or_eq_some_iff.mp routed with known | ⟨_, byPhoto⟩
  · rcases Option.or_eq_some_iff.mp known with photo | ⟨_, others⟩
    · obtain ⟨⟨id, row⟩, located, rfl⟩ := Option.map_eq_some_iff.mp photo
      obtain ⟨read, own⟩ := first?_some located
      simp only [Bool.and_eq_true, beq_iff_eq] at own
      exact ⟨row, read, by simp [matchesRecord, own.1, own.2]⟩
    · rcases Option.or_eq_some_iff.mp others with master | ⟨_, named⟩
      · obtain ⟨⟨id, row⟩, located, rfl⟩ := Option.map_eq_some_iff.mp master
        obtain ⟨read, own⟩ := first?_some located
        simp only [Bool.and_eq_true, beq_iff_eq] at own
        exact ⟨row, read, by simp [matchesRecord, own.1, own.2]⟩
      · obtain ⟨⟨id, fragment⟩, located, rfl⟩ := Option.map_eq_some_iff.mp named
        obtain ⟨read, own⟩ := first?_some located
        simp only [Bool.and_eq_true, beq_iff_eq] at own
        exact pending id fragment read own.1.1 (by simp [own.1.2])
  · obtain ⟨photo, given, found⟩ := Option.bind_eq_some_iff.mp byPhoto
    rcases Option.or_eq_some_iff.mp found with bound | ⟨_, waiting⟩
    · obtain ⟨⟨id, row⟩, located, rfl⟩ := Option.map_eq_some_iff.mp bound
      obtain ⟨read, own⟩ := first?_some located
      simp only [Bool.and_eq_true, beq_iff_eq] at own
      exact ⟨row, read, by simp [matchesRecord, own.1, own.2, given]⟩
    · obtain ⟨⟨id, fragment⟩, located, rfl⟩ := Option.map_eq_some_iff.mp waiting
      obtain ⟨read, own⟩ := first?_some located
      simp only [Bool.and_eq_true, beq_iff_eq] at own
      exact pending id fragment read own.1 (by simp [own.2, given])

theorem freeEntryAt_matches {job : Nat} {record : NativeRecord} {path : String} (given : record.path = some path)
    (located : s.freeEntryAt job path record.photo = some found) :
    ∃ row, s.entries.get found = some row ∧ s.matchesRecord job record found row = true := by
  obtain ⟨⟨id, row⟩, first, rfl⟩ := Option.map_eq_some_iff.mp located
  obtain ⟨read, own⟩ := first?_some first
  refine ⟨row, read, ?_⟩
  simp only [Bool.and_eq_true, beq_iff_eq] at own
  simp only [matchesRecord, given, Option.any_some, own.1.1, own.1.2, beq_self_eq_true, Bool.true_and, own.2, Bool.or_true]

structure Routed (s t : Store) (job : Nat) (record : NativeRecord) (entry : Option Nat) : Prop where
  kept : ∀ other, s.Pending job other → other.recordName ≠ record.recordName → t.Pending job other
  fragments : ∀ id fragment, t.fragments.get id = some fragment →
    s.fragments.get id = some fragment ∨ fragment.master = true ∧ record.isAsset = true
  found : ∀ id, entry = some id → ∃ row, s.entries.get id = some row ∧ s.matchesRecord job record id row = true ∧
    t.entries.get id = some row
  missing : entry = none → t = s

theorem Routed.stay {job : Nat} {record : NativeRecord} {entry : Option Nat}
    (found : ∀ id, entry = some id → ∃ row, s.entries.get id = some row ∧ s.matchesRecord job record id row = true) :
    Routed s s job record entry where
  kept := fun _ pending _ => pending
  fragments := fun _ _ read => .inl read
  found := fun id given => by
    obtain ⟨row, read, matched⟩ := found id given
    exact ⟨row, read, matched, read⟩
  missing := fun _ => rfl

theorem matchesRecord_job {job : Nat} {record : NativeRecord} {row : Entry}
    (matched : s.matchesRecord job record id row = true) : row.job = job := by
  simp only [matchesRecord, Bool.and_eq_true, beq_iff_eq] at matched
  exact matched.1

theorem movePendingMaster_keeps {job : Nat} {row : Entry} (read : s.entries.get found = some row) (own : row.job = job)
    (done : s.movePendingMaster old found = .ok t) : t.entries = s.entries ∧
    (∀ id fragment, s.fragments.get id = some fragment → t.fragments.get id = some fragment) ∧
    (∀ id fragment, t.fragments.get id = some fragment → s.fragments.get id = some fragment ∨ fragment.master = true) ∧
    ∀ id fragment, s.fragments.get id = some fragment → fragment.entry = old → fragment.master = true →
      ∃ key other, t.fragments.get key = some other ∧ other.entry = found ∧ other.master = true ∧
        ((∃ source, s.fragments.get source = some other) ∨ other.job = job ∧
          ∃ source first, s.fragments.get source = some first ∧ first.entry = old ∧ first.master = true ∧
            other.record = first.record) := by
  unfold movePendingMaster at done
  split at done
  · next fragment absent present =>
    obtain ⟨⟨source, _⟩, first, rfl⟩ := Option.map_eq_some_iff.mp present
    obtain ⟨there, picked⟩ := first?_some first
    simp only [Bool.and_eq_true, beq_iff_eq] at picked
    obtain ⟨fresh, freshJob, freshEntry, freshMaster, holds, entries, stored⟩ := setPending_ok read done
    have vacant : ∀ id fragment, s.fragments.get id = some fragment → (fragment.entry == found && fragment.master == true) = false := by
      intro id fragment reads
      exact first?_none.mp (Option.map_eq_none_iff.mp absent) id fragment reads
    refine ⟨entries, fun id other reads => ?_, fun id other reads => ?_, fun id other reads here isMaster => ?_⟩
    · rw [stored]
      exact upsert_keeps _ reads (vacant id other reads)
    · rw [stored] at reads
      rcases upsert_rows _ reads with kept | rfl
      · exact .inl kept
      · exact .inr freshMaster
    · obtain ⟨key, placed⟩ := upsert_holds s.fragments (fun other => other.entry == found && other.master == true) fresh
      refine ⟨key, fresh, by rw [stored]; exact placed, freshEntry, freshMaster, .inr ⟨freshJob.trans own, ?_⟩⟩
      exact ⟨source, _, there, picked.1, picked.2, holds⟩
  · next unmoved =>
    cases done
    refine ⟨rfl, fun _ _ reads => reads, fun _ _ reads => .inl reads, fun id other reads here isMaster => ?_⟩
    cases target : s.pendingFragment found true with
    | some =>
      obtain ⟨⟨key, _⟩, first, rfl⟩ := Option.map_eq_some_iff.mp target
      obtain ⟨there, picked⟩ := first?_some first
      simp only [Bool.and_eq_true, beq_iff_eq] at picked
      exact ⟨key, _, there, picked.1, picked.2, .inl ⟨key, there⟩⟩
    | none =>
      cases source : s.pendingFragment old true with
      | some fragment => exact absurd source (unmoved fragment target)
      | none =>
        have nothing := first?_none.mp (Option.map_eq_none_iff.mp source) id other reads
        simp [here, isMaster] at nothing

theorem dropPlaceholder_entry {row : Entry} (read : s.entries.get id = some row)
    (spared : id ≠ old ∨ isPlaceholderEntry row = false) : (s.dropPlaceholder old).entries.get id = some row := by
  simp only [dropPlaceholder, deleteEntries, get_delete, read]
  rcases spared with apart | kept
  · simp [apart]
  · simp [kept]

theorem dropPlaceholder_fragment {row : Entry} (read : s.fragments.get id = some fragment)
    (entry : s.entries.get fragment.entry = some row) (spared : fragment.entry ≠ old ∨ isPlaceholderEntry row = false) :
    (s.dropPlaceholder old).fragments.get id = some fragment := by
  have stays := dropPlaceholder_entry entry spared
  simp only [dropPlaceholder, deleteEntries] at stays ⊢
  rw [get_delete, read, Option.filter_eq_some_iff]
  exact ⟨rfl, by rw [stays]; rfl⟩

theorem giveWay_routed {moved : Store} {job : Nat} {record : NativeRecord} (roomy : Roomy s job record) {path : String}
    {row : Entry} (given : record.path = some path) (located : s.freeEntryAt job path record.photo = some found)
    (apart : old ≠ found) (read : s.entries.get old = some row) (matched : s.matchesRecord job record old row = true)
    (copied : s.movePendingMaster old found = .ok moved) : Routed s (moved.dropPlaceholder old) job record (some found) := by
  have asset : record.isAsset = true := roomy.asset (by rw [given]; rfl)
  obtain ⟨target, targetRead, targetMatched⟩ := freeEntryAt_matches given located
  have own := matchesRecord_job targetMatched
  obtain ⟨entries, grows, shrinks, moves⟩ := movePendingMaster_keeps targetRead own copied
  have targetStays : moved.entries.get found = some target := by
    rw [entries]
    exact targetRead
  refine ⟨?_, fun id fragment reads => ?_, fun id same => ?_, fun none => by cases none⟩
  · rintro other ⟨id, fragment, reads, mine, rfl⟩ different
    obtain ⟨holder, holderRead, _⟩ := roomy.filed id fragment reads
    have present := grows id fragment reads
    have holderStays : moved.entries.get fragment.entry = some holder := by
      rw [entries]
      exact holderRead
    by_cases here : fragment.entry = old
    · rw [here, read, Option.some.injEq] at holderRead
      subst holderRead
      cases placeholder : isPlaceholderEntry row with
      | false =>
        exact ⟨id, fragment, dropPlaceholder_fragment present holderStays (.inr placeholder), mine, rfl⟩
      | true =>
        cases isMaster : fragment.master with
        | false =>
          refine absurd (roomy.free id fragment row reads (by rw [here]; exact read) (by rw [here]; exact matched) ?_)
            different
          simp [NativeRecord.takesAsset, asset, isMaster]
        | true =>
          have same := roomy.master path found given located id fragment row reads isMaster (by rw [here]; exact apart)
            (by rw [here]; exact read) (by rw [here]; exact matched) placeholder
          obtain ⟨key, other, stored, onFound, otherMaster, source⟩ := moves id fragment reads here isMaster
          refine ⟨key, other, dropPlaceholder_fragment stored (by rw [onFound]; exact targetStays)
            (.inl (by rw [onFound]; exact apart.symm)), ?_⟩
          rcases source with ⟨origin, there⟩ | ⟨ours, origin, first, there, onOld, firstMaster, equal⟩
          · obtain ⟨again, againRead, job⟩ := roomy.filed origin other there
            rw [onFound, targetRead, Option.some.injEq] at againRead
            subst againRead
            exact ⟨job.symm.trans own, same origin other there otherMaster (.inl onFound)⟩
          · exact ⟨ours, equal.trans (same origin first there firstMaster (.inr (onOld.trans here.symm)))⟩
    · exact ⟨id, fragment, dropPlaceholder_fragment present holderStays (.inl here), mine, rfl⟩
  · simp only [dropPlaceholder, deleteEntries, get_delete, Option.filter_eq_some_iff] at reads
    exact (shrinks id fragment reads.1).imp_right (fun isMaster => ⟨isMaster, asset⟩)
  · rw [Option.some.injEq] at same
    subst same
    exact ⟨target, targetRead, targetMatched, dropPlaceholder_entry targetStays (.inl apart.symm)⟩

theorem entryForPath_routed {job : Nat} {record : NativeRecord} (roomy : Roomy s job record) {entry : Option Nat}
    (matched : ∀ id, entry = some id → ∃ row, s.entries.get id = some row ∧ s.matchesRecord job record id row = true)
    {after : Store × Option Nat} (done : s.entryForPath job record.path record.photo entry = .ok after) :
    Routed s after.1 job record after.2 := by
  cases given : record.path with
  | none =>
    rw [given] at done
    cases done
    exact .stay matched
  | some =>
    rw [given] at done
    obtain ⟨_, _, rest⟩ := bind_ok.mp done
    split at rest
    · cases rest
      exact .stay matched
    · next located =>
      cases rest
      refine .stay (fun id same => ?_)
      cases same
      exact freeEntryAt_matches given located
    · next found old located =>
      split at rest
      · next same =>
        cases rest
        refine .stay (fun id equal => ?_)
        cases equal
        exact freeEntryAt_matches given located
      · next apart =>
        obtain ⟨moved, copied, rest⟩ := bind_ok.mp rest
        cases rest
        obtain ⟨row, read, holds⟩ := matched old rfl
        exact giveWay_routed roomy given located
          (fun same => apart (beq_iff_eq.mpr same)) read holds copied

theorem ensureEntry_ok {job : Nat} {path : Option String} {name : String} {entry : Option Nat} {after : Store × Nat}
    (done : s.ensureEntry job path name entry = .ok after) : entry = some after.2 ∧ after.1 = s ∨
    entry = none ∧ after.2 = s.entries.next ∧ after.1.fragments = s.fragments ∧
      ∃ row, after.1.entries.get after.2 = some row ∧ row.job = job ∧ row.photoId = none := by
  cases entry with
  | some =>
    cases done
    exact .inl ⟨rfl, rfl⟩
  | none =>
    obtain ⟨made, stored, rest⟩ := bind_ok.mp done
    cases rest
    obtain ⟨_, rfl⟩ := insertEntry_ok stored
    exact .inr ⟨rfl, rfl, rfl, _, get_insert_next _ _, rfl, rfl⟩

theorem leavePlaceholder_row (job : Nat) {entry : Nat} (path : Option String) {row : Entry}
    (read : s.entries.get entry = some row) : (s.leavePlaceholder job entry path).fragments = s.fragments ∧
    ∃ later, (s.leavePlaceholder job entry path).entries.get entry = some later ∧ later.job = row.job ∧ later.photoId = row.photoId := by
  unfold leavePlaceholder
  split
  · exact ⟨rfl, row, read, rfl, rfl⟩
  · split
    · next path _ =>
      exact ⟨rfl, { row with relativePath := path },
        by simp only [updateEntry, get_modify_self, read, Option.map_some], rfl, rfl⟩
    · exact ⟨rfl, row, read, rfl, rfl⟩

theorem stageRecord_keeps {platform : Platform} {job : Nat} {record : NativeRecord} (roomy : Roomy s job record)
    (done : stageRecord platform job s record = .ok t) :
    (record.isAsset = true ∨ record.isMaster = true ∨ (s.knownEntry job record.recordName).isSome = true →
      t.Pending job record) ∧ ∀ other, s.Pending job other → other.recordName ≠ record.recordName → t.Pending job other := by
  unfold stageRecord at done
  dsimp only at done
  split at done
  · next skipped =>
    cases done
    simp only [Bool.and_eq_true, Bool.not_eq_true', Option.isNone_iff_eq_none] at skipped
    refine ⟨fun kind => ?_, fun _ pending _ => pending⟩
    rcases kind with asset | master | known
    · exact absurd (asset.symm.trans skipped.1.1) Bool.noConfusion
    · exact absurd (master.symm.trans skipped.1.2) Bool.noConfusion
    · rw [skipped.2] at known
      cases known
  · obtain ⟨⟨first, chosen⟩, placed, ⟨made, entry⟩, ensured, row, read, stored, set, rest⟩ := bind4_ok done
    rw [requireRow_ok] at read
    have routed : Routed s first job record chosen := entryForPath_routed roomy (routed_matches roomy) placed
    have room : made.fragments = first.fragments ∧ row.job = job ∧
        ∀ id fragment, first.fragments.get id = some fragment → fragment.entry = entry →
          fragment.master = !record.takesAsset row → fragment.record.recordName = record.recordName := by
      rcases ensureEntry_ok ensured with ⟨given, rfl⟩ | ⟨none, fresh, same, new⟩
      · obtain ⟨old, before, matched, after⟩ := routed.found entry given
        obtain ⟨_, later, reads, sameJob, samePhoto⟩ := leavePlaceholder_row job record.path after
        have equal : later = row := Option.some.inj (reads.symm.trans read)
        subst equal
        refine ⟨rfl, sameJob.trans (matchesRecord_job matched), ?_⟩
        intro id fragment present here place
        rcases routed.fragments id fragment present with kept | ⟨master, asset⟩
        · subst here
          refine roomy.free id fragment old kept before matched ?_
          rw [place]
          simp only [NativeRecord.takesAsset, samePhoto]
        · simp [master, NativeRecord.takesAsset, asset] at place
      · have unmoved := routed.missing none
        obtain ⟨old, after, own, _⟩ := new
        obtain ⟨_, later, reads, sameJob, _⟩ := leavePlaceholder_row job record.path after
        have equal : later = row := Option.some.inj (reads.symm.trans read)
        subst equal
        refine ⟨same, sameJob.trans own, fun id fragment present here => ?_⟩
        rw [unmoved] at present
        obtain ⟨holder, there, _⟩ := roomy.filed id fragment present
        have given := lt_next there
        rw [here, show entry = first.entries.next from fresh, unmoved] at given
        exact absurd given (Nat.lt_irrefl _)
    have placeholder : (made.leavePlaceholder job entry record.path).fragments = made.fragments := by
      unfold leavePlaceholder
      split
      · rfl
      · split <;> rfl
    have settled := setPending_keeps (made.leavePlaceholder job entry record.path) stored entry (!record.takesAsset row)
      record row read (fun id fragment present => by
        rw [placeholder, room.1] at present
        exact room.2.2 id fragment present) set
    rw [room.2.1] at settled
    have last : t.fragments = stored.fragments := by
      split at rest
      · exact admitAssetMetadata_fragments rest
      · cases rest
        rfl
    refine ⟨fun _ => settled.1.of_fragments last, fun other pending different => ?_⟩
    refine (settled.2 job other ?_ different).of_fragments last
    exact (routed.kept other pending different).of_fragments (placeholder.trans room.1)

theorem knownEntry_of_pending {job : Nat} {record held : NativeRecord} (roomy : Roomy s job record)
    (pending : s.Pending job held) (same : held.recordName = record.recordName) :
    (s.knownEntry job record.recordName).isSome = true := by
  obtain ⟨id, fragment, read, mine, rfl⟩ := pending
  obtain ⟨row, entry, _⟩ := roomy.filed id fragment read
  have found : (s.entryOfRecord job record.recordName).isSome = true := by
    unfold entryOfRecord
    rw [Option.isSome_map, Option.isSome_iff_ne_none]
    intro nowhere
    have passed := first?_none.mp nowhere id fragment read
    simp [mine, same, entry] at passed
  simp [knownEntry, found]

def newest (received : List NativeRecord) (name : String) : Option NativeRecord :=
  (received.filter (fun record => record.recordName == name)).getLast?

theorem newest_named {received : List NativeRecord} {name : String} {record : NativeRecord}
    (last : newest received name = some record) : record.recordName = name := by
  have member := List.mem_filter.mp (List.mem_of_getLast? last)
  exact beq_iff_eq.mp member.2

theorem newest_same (received : List NativeRecord) (record : NativeRecord) :
    newest (received ++ [record]) record.recordName = some record := by
  simp [newest]

theorem newest_other (received : List NativeRecord) {record : NativeRecord} {name : String}
    (different : name ≠ record.recordName) : newest (received ++ [record]) name = newest received name := by
  simp [newest, different.symm]

-- What has been received since is pending in its newest version, and what was
-- pending before is, unless its name was received again.
structure Covers (start : Store) (job : Nat) (received : List NativeRecord) (s : Store) : Prop where
  newest : ∀ record ∈ received, record.isAsset = true ∨ record.isMaster = true →
    ∃ latest, newest received record.recordName = some latest ∧ s.Pending job latest
  before : ∀ record, start.Pending job record → (∀ other ∈ received, other.recordName ≠ record.recordName) → s.Pending job record

theorem stageRecord_covers {platform : Platform} {job : Nat} {received : List NativeRecord} {record : NativeRecord}
    (covers : Covers start job received s) (met : s.keepsRecords job record = true)
    (done : stageRecord platform job s record = .ok t) : Covers start job (received ++ [record]) t := by
  have roomy := roomy_of met
  obtain ⟨taken, kept⟩ := stageRecord_keeps roomy done
  constructor
  · intro other member kind
    by_cases same : other.recordName = record.recordName
    · rw [same]
      refine ⟨record, newest_same received record, taken ?_⟩
      rcases List.mem_append.mp member with earlier | now
      · obtain ⟨latest, last, pending⟩ := covers.newest other earlier kind
        have named := (newest_named last).trans same
        exact .inr (.inr (knownEntry_of_pending roomy pending named))
      · rw [List.mem_singleton] at now
        subst now
        exact kind.imp_right .inl
    · have earlier : other ∈ received := by
        rcases List.mem_append.mp member with earlier | now
        · exact earlier
        · exact absurd (congrArg NativeRecord.recordName (List.mem_singleton.mp now)) same
      obtain ⟨latest, last, pending⟩ := covers.newest other earlier kind
      refine ⟨latest, by rw [newest_other received same, last], kept latest pending ?_⟩
      rw [newest_named last]
      exact same
  · intro held pending unnamed
    refine kept held (covers.before held pending (fun other member => unnamed other (List.mem_append_left _ member))) ?_
    exact (unnamed record (List.mem_append_right _ List.mem_cons_self)).symm

abbrev Page := List NativeRecord × String

def savePage (platform : Platform) (job : Nat) (s : Store) (page : Page) : Result Store :=
  Store.saveDeltaPage platform s job page.1 page.2

def pageKeeps (platform : Platform) (job : Nat) (s : Store) (page : Page) : Prop :=
  Meets (Store.stageRecord platform job) (fun s record => s.keepsRecords job record = true) s page.1

instance (platform : Platform) (job : Nat) (s : Store) (page : Page) : Decidable (pageKeeps platform job s page) :=
  inferInstanceAs (Decidable (Meets _ _ _ _))

theorem savePage_covers {platform : Platform} {job : Nat} {received : List NativeRecord} {page : Page}
    (covers : Covers start job received s) (met : pageKeeps platform job s page)
    (done : savePage platform job s page = .ok t) : Covers start job (received ++ page.1) t := by
  obtain ⟨progress, read, staged, each, rest⟩ := bind2_ok done
  cases rest
  obtain ⟨_, _, own⟩ := requireProgress_row read
  rw [own] at each
  have covered := loop_met _ (Covers start job)
    (fun sofar record before after held room => stageRecord_covers held room)
    page.1 received s staged covers met each
  exact ⟨covered.newest, covered.before⟩

-- In every sequence of pages whose records find their places free, each asset
-- and each master received is pending in its newest version.
theorem staging_loses_nothing (platform : Platform) (job : Nat) (pages : List Page) (s t : Store)
    (met : Meets (savePage platform job) (pageKeeps platform job) s pages)
    (done : pages.foldlM (savePage platform job) s = .ok t) : Covers s job (pages.flatMap Prod.fst) t := by
  refine loop_met (pageKeeps platform job)
    (fun sofar t => Covers s job (sofar.flatMap Prod.fst) t) ?_ pages [] s t ?_ met done
  · intro sofar page before after covers room saved
    rw [List.flatMap_append, List.flatMap_singleton]
    exact savePage_covers covers room saved
  · exact ⟨fun _ member => absurd member List.not_mem_nil, fun _ pending _ => pending⟩

def liveIn (received : List NativeRecord) (record : NativeRecord) : Bool :=
  newest received record.recordName == some record && record.isAsset && !record.isTombstone

-- What the cloud promises: a page names a record once, and the live assets at its end have paths of their own.
def pagesSound (pages : List Page) : Bool := pages.all (fun page => (page.1.map NativeRecord.recordName).Nodup)
    && pages.inits.all (fun sofar =>
      let received := sofar.flatMap Prod.fst
      received.all (fun one => received.all (fun other => one.recordName == other.recordName
        || !liveIn received one || !liveIn received other || one.path.isNone || one.path != other.path)))

namespace Sample

def assetAt (name path : String) : NativeRecord :=
  ⟨name, some assetRecordType, none, some "1", some [("relativePath", textField path)], none, false⟩

def masterOf (name photo : String) : NativeRecord :=
  ⟨name, some masterRecordType, none, some "1", some [("photoId", textField photo)], none, false⟩

def enumerated : Store := run (Command.execute platform) .empty listing

def apart : List Page := [([masterOf "m1" "p1", assetAt "p1" "x"], "one"), ([assetAt "p2" "y", masterOf "m2" "p2"], "two")]

def swapped : List Page := [([masterOf "m1" "p1", assetAt "p1" "x"], "one"), ([assetAt "p2" "x", assetAt "p1" "y"], "two")]

end Sample

open Sample in
theorem two_photos_are_pending : ∃ t, apart.foldlM (savePage platform 1) enumerated = .ok t ∧
    Covers enumerated 1 (apart.flatMap Prod.fst) t := by
  obtain ⟨t, done, _⟩ := ok_of_any (apart.foldlM (savePage platform 1) enumerated)
    (fun _ => true) (by decide +kernel)
  exact ⟨t, done, staging_loses_nothing platform 1 apart enumerated t (by decide +kernel) done⟩

-- The record that comes in at the path is staged on the entry of the photo that
-- still has it, and gives its place up when that photo moves on.
open Sample in
theorem staging_loses_swapped_photo : pagesSound swapped = true ∧ ∃ t, swapped.foldlM (savePage platform 1) enumerated = .ok t ∧
      newest (swapped.flatMap Prod.fst) "p2" = some (assetAt "p2" "x") ∧
      (assetAt "p2" "x").isAsset = true ∧ ¬t.Pending 1 (assetAt "p2" "x") := by
  obtain ⟨t, done, lost⟩ := ok_of_any (swapped.foldlM (savePage platform 1) enumerated)
    (fun t => !t.fragments.any (fun _ row => row.record == assetAt "p2" "x")) (by decide +kernel)
  refine ⟨by decide +kernel, t, done, by decide +kernel, by decide +kernel, ?_⟩
  rintro ⟨id, fragment, read, _, same⟩
  rw [Bool.not_eq_true'] at lost
  have other := Table.any_eq_false.mp lost id fragment read
  simp [same] at other

end PhotoSync
