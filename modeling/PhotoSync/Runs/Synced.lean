import PhotoSync.Runs.Recording
import PhotoSync.Store.LocalOperation

set_option autoImplicit false

namespace PhotoSync
open Relational Transaction Store Table

section Unique
variable {s t : Store}

theorem Store.PathsUnique.same (unique : s.PathsUnique)
    (same : ∀ id row, t.entries.get id = some row → ∃ old, s.entries.get id = some old ∧ old.job = row.job ∧
      old.relativePath = row.relativePath) : t.PathsUnique := by
  intro first second one other here there job path
  obtain ⟨before, read, ownJob, ownPath⟩ := same first one here
  obtain ⟨after, also, otherJob, otherPath⟩ := same second other there
  exact unique first second before after read also (ownJob.trans (job.trans otherJob.symm))
    (ownPath.trans (path.trans otherPath.symm))

theorem Store.PathsUnique.modify (unique : s.PathsUnique) (target : Nat) (change : Entry → Entry)
    (job : ∀ row, (change row).job = row.job) (path : ∀ row, (change row).relativePath = row.relativePath)
    (entries : t.entries = s.entries.modify target change) : t.PathsUnique := by
  refine unique.same (fun id row read => ?_)
  rw [entries, get_modify] at read
  split at read
  · obtain ⟨old, present, rfl⟩ := Option.map_eq_some_iff.mp read
    exact ⟨old, present, (job old).symm, (path old).symm⟩
  · exact ⟨row, read, rfl, rfl⟩

theorem Store.PathsUnique.insertEntry (unique : s.PathsUnique) (row : Entry) (done : s.insertEntry row = .ok t) : t.PathsUnique := by
  obtain ⟨free, rfl⟩ := insertEntry_ok done
  have clash : ∀ id old, s.entries.get id = some old → old.job = row.job → old.relativePath = row.relativePath →
      False := by
    intro id old present job path
    have taken := any_eq_false.mp free id old present
    simp [job, path, Nat.ne_of_lt (lt_next present)] at taken
  intro first second one other here there job path
  simp only [get_insert] at here there
  split at here
  · next isFirst =>
    cases here
    split at there
    · next isSecond => rw [isFirst, isSecond]
    · exact (clash second other there job.symm path.symm).elim
  · split at there
    · cases there
      exact (clash first one here job path).elim
    · exact unique first second one other here there job path

theorem Store.PathsUnique.setEntryPath (unique : s.PathsUnique) (id : Nat) (path : String)
    (done : s.setEntryPath id path (fun entry => entry) = .ok t) : t.PathsUnique := by
  unfold Store.setEntryPath at done
  split at done
  · cases done
    exact unique
  · next row present =>
    split at done
    · cases done
    · next free =>
      cases done
      rw [Bool.not_eq_true] at free
      have clash : ∀ other old, s.entries.get other = some old → other ≠ id → old.job = row.job → old.relativePath = path → False := by
        intro other old read different job here
        have taken := any_eq_false.mp free other old read
        simp [different, job, here] at taken
      intro first second one other here there job same
      simp only [Store.updateEntry, get_modify] at here there
      by_cases isFirst : first = id
      · by_cases isSecond : second = id
        · rw [isFirst, isSecond]
        · rw [if_pos isFirst, isFirst, present] at here
          rw [if_neg isSecond] at there
          cases here
          exact (clash second other there isSecond job.symm same.symm).elim
      · rw [if_neg isFirst] at here
        by_cases isSecond : second = id
        · rw [if_pos isSecond, isSecond, present] at there
          cases there
          exact (clash first one here isFirst job same).elim
        · rw [if_neg isSecond] at there
          exact unique first second one other here there job same

end Unique

theorem Entry.mark_path (entry : Entry) (category : ChangeCategory) (stamp : EditEvent) :
    (entry.mark category stamp).relativePath = entry.relativePath := by
  cases category <;> rfl

theorem mark_unique {s t : Store} {id : Nat} {category : ChangeCategory} {stamp : EditEvent} {outcome : DirtyOutcome}
    (unique : s.PathsUnique) (done : s.mark id category stamp = .ok (t, outcome)) : t.PathsUnique := by
  obtain ⟨row, _, _, rfl⟩ := mark_ok done
  exact unique.modify id (Entry.mark category stamp) (fun row => row.mark_job category stamp)
    (fun row => row.mark_path category stamp) rfl

section Note
variable {media : Nat} {category : ChangeCategory} {stamp : EditEvent}

theorem noteClaim_unique {now after : Store × List DirtyOutcome} {claim : Nat × Option Nat}
    (unique : now.1.PathsUnique) (done : noteClaim media category stamp now claim = .ok after) : after.1.PathsUnique := by
  obtain ⟨rfl, _⟩ | ⟨_, _, _, _, _, _, marked⟩ | ⟨path, enrolled, _, inserted, marked⟩ := noteClaim_ok done
  · exact unique
  · exact mark_unique unique marked
  · exact mark_unique (unique.insertEntry _ inserted) marked

theorem noteClaim_foreign {now after : Store × List DirtyOutcome} {claim : Nat × Option Nat} {id : Nat} {row : Entry}
    (foreign : claim.2 ≠ some id) (read : now.1.entries.get id = some row)
    (done : noteClaim media category stamp now claim = .ok after) : after.1.entries.get id = some row := by
  obtain ⟨rfl, _⟩ | ⟨other, _, _, linked, _, _, marked⟩ | ⟨path, enrolled, _, inserted, marked⟩ := noteClaim_ok done
  · exact read
  · obtain ⟨_, _, _, same⟩ := mark_ok marked
    have different : id ≠ other := fun equal => foreign (equal ▸ linked)
    rw [same]
    exact (get_modify_of_ne different).trans read
  · obtain ⟨_, rfl⟩ := insertEntry_ok inserted
    obtain ⟨_, _, _, same⟩ := mark_ok marked
    have different : id ≠ now.1.entries.next := Nat.ne_of_lt (lt_next read)
    rw [same]
    refine (get_modify_of_ne different).trans ?_
    rw [get_insert, if_neg different]
    exact read

theorem note_frame {s t : Store} {outcome : Option DirtyOutcome} (done : s.note media category stamp = .ok (t, outcome)) :
    (s.PathsUnique → t.PathsUnique) ∧ ∀ id row, s.entries.get id = some row → row.media ≠ some media → t.entries.get id = some row := by
  refine ⟨fun unique => note_keeps Store.PathsUnique unique (fun _ _ _ _ => noteClaim_unique) done, fun id row read foreign => ?_⟩
  refine note_keeps (fun now => now.entries.get id = some row) read (fun claim member now after held stepped => ?_) done
  refine noteClaim_foreign (fun linked => ?_) held stepped
  obtain ⟨⟨path, _, link⟩, _⟩ := claim_ready s media s member (.refl _ s)
  rw [link] at linked
  obtain ⟨found, hit, rfl⟩ := Option.map_eq_some_iff.mp linked
  obtain ⟨present, chosen⟩ := first?_some hit
  simp only [Bool.and_eq_true, beq_iff_eq] at chosen
  rw [present] at read
  cases read
  exact foreign chosen.1.2

end Note

structure Synced (s : Store) (entry media : Nat) (row : Entry) (item : Media) : Prop where
  entry : s.entries.get entry = some row
  indexed : s.media.get media = some item
  link : row.media = some media
  active : row.retired = false
  here : s.claimedPath media row.job = some row.relativePath
  recording : s.recording = true
  unique : s.PathsUnique

section Synced
variable {s t : Store} {entry media : Nat} {row : Entry} {item : Media}

section
variable (synced : Synced s entry media row item)

include synced

theorem Synced.note_own {category : ChangeCategory} {stamp : EditEvent}
    {outcome : Option DirtyOutcome} (done : s.note media category stamp = .ok (t, outcome)) :
    Synced t entry media (row.mark category stamp) item := by
  obtain ⟨entries, journal, same⟩ := note_recorded done
  have unique := (note_frame done).1
  rw [note_on s media category stamp synced.recording] at done
  obtain ⟨last, loop, rest⟩ := bind_ok.mp done
  cases rest
  have link := entryLinkedAt_unique s media synced.unique row.job row.relativePath synced.entry rfl rfl
  rw [if_pos synced.link] at link
  have member : (row.job, some entry) ∈ s.claims media :=
    (s.mem_claims media row.job (some entry)).mpr ⟨row.relativePath, synced.here, by rw [link]; rfl⟩
  obtain ⟨now, after, start, noted, kept⟩ := note_turn s media category stamp loop member
  obtain ⟨_, again, rows, _⟩ := noteClaim_linked media category stamp now (row.job, some entry) rfl
    ((start.entries entry row rfl).mpr synced.entry)
  rw [noted] at again
  cases again
  have marked : row.noted category stamp = row.mark category stamp := by
    rw [Entry.noted, if_pos (by simp [Entry.takes, synced.active])]
  have found : last.1.entries.get entry = some (row.mark category stamp) := by
    refine (kept.entries entry _ (row.mark_job category stamp)).mpr ?_
    rw [rows entry, if_pos rfl, marked]
  refine ⟨found, ?_, ?_, ?_, ?_, ?_, unique synced.unique⟩
  · rw [same]
    exact synced.indexed
  · cases category <;> exact synced.link
  · cases category <;> exact synced.active
  · rw [row.mark_job, row.mark_path, same]
    exact synced.here
  · rw [same]
    exact synced.recording

theorem Synced.note_other {other : Nat} {category : ChangeCategory}
    {stamp : EditEvent} {outcome : Option DirtyOutcome} (different : other ≠ media)
    (done : s.note other category stamp = .ok (t, outcome)) : Synced t entry media row item := by
  obtain ⟨unique, foreign⟩ := note_frame done
  obtain ⟨entries, journal, rfl⟩ := note_recorded done
  have apart : row.media ≠ some other := by
    rw [synced.link]
    exact fun same => different (Option.some.inj same).symm
  exact ⟨foreign entry row synced.entry apart, synced.indexed, synced.link, synced.active, synced.here,
    synced.recording, unique synced.unique⟩

theorem Synced.replace (later : Media) (table : Table Media)
    (indexed : table.get media = some later) (path : later.path = item.path) (folder : later.folderPath = item.folderPath) :
    Synced { s with media := table } entry media row later := by
  refine ⟨synced.entry, indexed, synced.link, synced.active, ?_, synced.recording, synced.unique⟩
  obtain ⟨found, job, read, present, covered, under⟩ := claimedPath_eq_some.mp synced.here
  rw [synced.indexed] at read
  cases read
  refine claimedPath_eq_some.mpr ⟨later, job, indexed, present, ?_, by rw [path]; exact under⟩
  unfold covers at covered ⊢
  rw [folder]
  exact covered

theorem Synced.updateMedia (change : Media → Media)
    (path : (change item).path = item.path) (folder : (change item).folderPath = item.folderPath) :
    Synced (s.updateMedia media change) entry media row (change item) :=
  synced.replace (change item) _ (by rw [get_modify_self, synced.indexed]; rfl) path folder

theorem Synced.updateOther {other : Nat} (change : Media → Media)
    (different : other ≠ media) : Synced (s.updateMedia other change) entry media row item :=
  synced.replace item _ (by rw [get_modify_of_ne (Ne.symm different)]; exact synced.indexed) rfl rfl

theorem Synced.insertMedia (fresh : Media) : Synced { s with media := s.media.insert fresh } entry media row item := by
  refine synced.replace item _ ?_ rfl rfl
  rw [get_insert, if_neg (Nat.ne_of_lt (lt_next synced.indexed))]
  exact synced.indexed

theorem Synced.localMetadata : s.localMetadata entry = .ok (row.localMetadata (some item)) := by
  refine bind_ok.mpr ⟨row, requireRow_ok.mpr synced.entry, ?_⟩
  rw [synced.link, Option.bind_some, synced.indexed]
  rfl

end
end Synced
end PhotoSync
