import PhotoSync.Store.Basic
import PhotoSync.Store.Lifecycle

set_option autoImplicit false

namespace PhotoSync
open Relational Store

-- What one command is allowed to do beyond the unconditional steps of an entry: which rows it may drop, which
-- cloud-only rows it may make available again, and which captures it may store.
structure Policy where
  guards : Guards
  drop : Nat → Entry → Prop
  place : Nat → Media → Prop
  save : Issued → Prop

def Guards.none : Guards :=
  ⟨fun _ _ _ => False, fun _ _ _ => False, fun _ _ => False, fun _ _ _ => False, fun _ _ => False, fun _ _ _ => False, fun _ => False⟩

def Policy.none : Policy := ⟨.none, fun _ _ => False, fun _ _ => False, fun _ => False⟩

def mediaRules (place : Nat → Media → Prop) : Rules Media where
  born := fun _ => True
  step := fun id before after =>
    before.storageLocation = .cloudOnly → after.storageLocation = .cloudOnly ∨ place id before
  gone := fun _ _ => True

structure TaskFrame (before after : Task) : Prop where
  operationId : after.operationId = before.operationId
  issued : after.issued = before.issued
  entry : after.entry = before.entry ∨ after.entry = none
  state : after.state = before.state ∨ after.state ≠ .issued

inductive TaskStep (save : Issued → Prop) : Task → Task → Prop where
  | frame (before after : Task) (same : TaskFrame before after) : TaskStep save before after
  | rewrite (task : Task) (issued : Issued) (same : task.operationId = issued.id) (open_ : task.state = .issued)
    (allowed : save issued) : TaskStep save task { task with issued := issued }

def taskRules (save : Issued → Prop) : Rules Task where
  born := fun task => save task.issued ∧ task.entry = some task.issued.entry ∧ task.operationId = task.issued.id
  step := fun _ => TaskStep save
  gone := fun _ _ => True

structure Moves (policy : Policy) (before after : Store) : Prop where
  entries : Evolves (entryRules policy.guards policy.drop) before.entries after.entries
  media : Evolves (mediaRules policy.place) before.media after.media
  tasks : Evolves (taskRules policy.save) before.tasks after.tasks

namespace Moves

variable {policy : Policy} {s t u : Store}

theorem refl : Moves policy s s := ⟨.refl, .refl, .refl⟩

theorem trans (first : Moves policy s t) (second : Moves policy t u) : Moves policy s u :=
  ⟨first.entries.trans second.entries, first.media.trans second.media, first.tasks.trans second.tasks⟩

theorem elsewhere (entries : t.entries = s.entries) (media : t.media = s.media) (tasks : t.tasks = s.tasks) : Moves policy s t :=
  ⟨.of_eq entries, .of_eq media, .of_eq tasks⟩

theorem entry (id : Nat) (change : Entry → Entry)
    (allowed : ∀ row, s.entries.get id = some row → EntryStep policy.guards id row (change row)) :
    Moves policy s (s.updateEntry id change) :=
  ⟨.modify id change (fun row read => .single (allowed row read)), .refl, .refl⟩

theorem entry_frame (id : Nat) (change : Entry → Entry) (same : ∀ row, Frame row (change row)) :
    Moves policy s (s.updateEntry id change) :=
  entry id change (fun row _ => .frame row (change row) (same row))

theorem entries_frame (change : Nat → Entry → Entry) (same : ∀ id row, Frame row (change id row)) :
    Moves policy s { s with entries := s.entries.update change } :=
  ⟨.update change (fun id row _ => .single (.frame row (change id row) (same id row))), .refl, .refl⟩

theorem mediaRow (id : Nat) (change : Media → Media) (allowed : ∀ row, s.media.get id = some row → row.storageLocation = .cloudOnly →
      (change row).storageLocation = .cloudOnly ∨ policy.place id row) : Moves policy s (s.updateMedia id change) :=
  ⟨.refl, .modify id change (fun row read => .single (allowed row read)), .refl⟩

theorem media_same (id : Nat) (change : Media → Media)
    (same : ∀ row, (change row).storageLocation = row.storageLocation) : Moves policy s (s.updateMedia id change) :=
  mediaRow id change (fun row _ cloud => .inl ((same row).trans cloud))

theorem media_all (change : Nat → Media → Media)
    (same : ∀ id row, row.storageLocation = .cloudOnly → (change id row).storageLocation = .cloudOnly) :
    Moves policy s { s with media := s.media.update change } :=
  ⟨.refl, .update change (fun id row _ => .single (fun cloud => .inl (same id row cloud))), .refl⟩

theorem entry_media (id : Nat) (change : Media → Media)
    (allowed : ∀ media row, s.media.get media = some row → (s.entries.get id).bind Entry.media = some media →
      row.storageLocation = .cloudOnly → (change row).storageLocation = .cloudOnly ∨ policy.place media row) :
    Moves policy s (s.updateEntryMedia id change) := by
  unfold updateEntryMedia
  cases linked : (s.entries.get id).bind Entry.media with
  | none => exact refl
  | some media => exact mediaRow media change (fun row read => allowed media row read linked)

theorem insertMedia (row : Media) : Moves policy s { s with media := s.media.insert row } := ⟨.refl, .insert row trivial, .refl⟩

theorem insertEntry (row : Entry) (born : EntryBorn row) (done : s.insertEntry row = .ok t) : Moves policy s t := by
  obtain ⟨_, rfl⟩ := insertEntry_ok done
  exact ⟨.insert row born, .refl, .refl⟩

theorem setEntryPhoto (id : Nat) (photo : String) (change : Entry → Entry) (done : s.setEntryPhoto id photo change = .ok t)
    (allowed : ∀ row, s.entries.get id = some row →
      EntryStep policy.guards id row { change row with photoId := some photo }) : Moves policy s t := by
  obtain rfl := setEntryPhoto_eq done
  exact entry id _ allowed

theorem setEntryPath (id : Nat) (path : String) (change : Entry → Entry) (done : s.setEntryPath id path change = .ok t)
    (allowed : ∀ row, s.entries.get id = some row →
      EntryStep policy.guards id row { change row with relativePath := path }) : Moves policy s t := by
  obtain rfl := setEntryPath_eq done
  exact entry id _ allowed

theorem setMediaUri (id : Nat) (uri : String) (change : Media → Media) (done : s.setMediaUri id uri change = .ok t)
    (same : ∀ row, (change row).storageLocation = row.storageLocation) : Moves policy s t := by
  obtain ⟨_, rfl⟩ := setMediaUri_ok done
  exact media_same id _ same

theorem deleteMedia (test : Nat → Media → Bool) : Moves policy s (s.deleteMedia test) := by
  have links : Moves policy s { s with entries := s.entries.update (fun _ row =>
      { row with media := row.media.filter (fun id => ((s.media.delete test).get id).isSome) }) } :=
    entries_frame _ (fun _ row => by constructor <;> rfl)
  exact ⟨links.entries, .delete test (fun _ _ _ _ => trivial), .refl⟩

theorem tasks_frame (change : Nat → Task → Task) (same : ∀ id task, TaskFrame task (change id task)) :
    Moves policy s { s with tasks := s.tasks.update change } :=
  ⟨.refl, .refl, .update change (fun id task _ => .single (.frame task (change id task) (same id task)))⟩

theorem task (id : Nat) (change : Task → Task) (allowed : ∀ row, s.tasks.get id = some row → TaskStep policy.save row (change row)) :
    Moves policy s { s with tasks := s.tasks.modify id change } :=
  ⟨.refl, .refl, .modify id change (fun row read => .single (allowed row read))⟩

theorem deleteTasks (test : Nat → Task → Bool) : Moves policy s { s with tasks := s.tasks.delete test } :=
  ⟨.refl, .refl, .delete test (fun _ _ _ _ => trivial)⟩

theorem unlinked (kept : Nat → Bool) (task : Task) : TaskFrame task { task with entry := task.entry.filter kept } := by
  refine ⟨rfl, rfl, ?_, .inl rfl⟩
  cases task.entry with
  | none => exact .inl rfl
  | some id => cases here : kept id <;> simp [here]

theorem deleteEntries (test : Nat → Entry → Bool)
    (allowed : ∀ id row, s.entries.get id = some row → test id row = true → policy.drop id row) :
    Moves policy s (s.deleteEntries test) := by
  have links : Moves policy s { s with tasks := s.tasks.update (fun _ task =>
      { task with entry := task.entry.filter (fun id => ((s.entries.delete test).get id).isSome) }) } :=
    tasks_frame _ (fun _ task => unlinked _ task)
  exact ⟨.delete test allowed, .refl, links.tasks⟩

theorem deleteJobs (test : Nat → Job → Bool)
    (allowed : ∀ id row, s.entries.get id = some row → (s.jobs.get row.job).any (test row.job) = true →
      policy.drop id row) : Moves policy s (s.deleteJobs test) := by
  let dropped : Nat → Entry → Bool := fun _ row => (s.jobs.get row.job).any (test row.job)
  have entries : Moves policy s (s.deleteEntries dropped) := deleteEntries dropped allowed
  let gone : Nat → Task → Bool := fun _ task => (s.jobs.get task.job).any (test task.job)
  have tasks : Moves policy (s.deleteEntries dropped)
    { s.deleteEntries dropped with tasks := (s.deleteEntries dropped).tasks.delete gone } := deleteTasks gone
  exact ⟨entries.entries, entries.media, entries.tasks.trans tasks.tasks⟩

theorem deleteConnections (test : Nat → Connection → Bool) (allowed : ∀ id row, policy.drop id row) :
    Moves policy s (s.deleteConnections test) := by
  have jobs : Moves policy s (s.deleteJobs (fun _ job =>
    (s.connections.get job.connection).any (test job.connection))) := deleteJobs _ (fun id row _ _ => allowed id row)
  exact ⟨jobs.entries, jobs.media, jobs.tasks⟩

theorem loop {κ : Type} (body : Store → κ → Result Store) (items : List κ)
    (each : ∀ item ∈ items, ∀ before after, body before item = .ok after → Moves policy before after)
    (done : items.foldlM body s = .ok t) : Moves policy s t :=
  Transaction.loop_relates (Moves policy) (fun _ => refl) (fun _ _ _ => trans) each done

end Moves

-- A write that leaves the receiving side alone: its publications, its resource obligations and its receive positions.
structure Untouched (s t : Store) : Prop where
  publications : t.publications = s.publications
  resources : t.resources = s.resources
  progress : t.progress = s.progress

namespace Untouched

variable {s t u : Store}

theorem refl : Untouched s s := ⟨rfl, rfl, rfl⟩

theorem trans (first : Untouched s t) (second : Untouched t u) : Untouched s u :=
  ⟨second.publications.trans first.publications, second.resources.trans first.resources, second.progress.trans first.progress⟩

theorem loop {κ : Type} (body : Store → κ → Result Store) (items : List κ)
    (each : ∀ item ∈ items, ∀ before after, body before item = .ok after → Untouched before after)
    (done : items.foldlM body s = .ok t) : Untouched s t :=
  Transaction.loop_relates Untouched (fun _ => refl) (fun _ _ _ => trans) each done

theorem updateEntryMedia (entry : Nat) (change : Media → Media) : Untouched s (s.updateEntryMedia entry change) := by
  obtain ⟨_, same⟩ := s.updateEntryMedia_eq entry change
  rw [same]
  exact ⟨rfl, rfl, rfl⟩

theorem insertEntry (row : Entry) (done : s.insertEntry row = .ok t) : Untouched s t := by
  obtain ⟨_, rfl⟩ := insertEntry_ok done
  exact ⟨rfl, rfl, rfl⟩

theorem setEntryPhoto (id : Nat) (photo : String) (change : Entry → Entry)
    (done : s.setEntryPhoto id photo change = .ok t) : Untouched s t := by
  obtain rfl := setEntryPhoto_eq done
  exact ⟨rfl, rfl, rfl⟩

theorem setEntryPath (id : Nat) (path : String) (change : Entry → Entry)
    (done : s.setEntryPath id path change = .ok t) : Untouched s t := by
  obtain rfl := setEntryPath_eq done
  exact ⟨rfl, rfl, rfl⟩

theorem setMediaUri (id : Nat) (uri : String) (change : Media → Media) (done : s.setMediaUri id uri change = .ok t) : Untouched s t := by
  obtain ⟨_, rfl⟩ := setMediaUri_ok done
  exact ⟨rfl, rfl, rfl⟩

end Untouched

structure Steps (policy : Policy) (s t : Store) : Prop extends Moves policy s t, Untouched s t

namespace Steps

variable {policy : Policy} {s t u : Store}

theorem refl : Steps policy s s := ⟨.refl, .refl⟩

theorem trans (first : Steps policy s t) (second : Steps policy t u) : Steps policy s u :=
  ⟨first.toMoves.trans second.toMoves, first.toUntouched.trans second.toUntouched⟩

theorem loop {κ : Type} (body : Store → κ → Result Store) (items : List κ)
    (each : ∀ item ∈ items, ∀ before after, body before item = .ok after → Steps policy before after)
    (done : items.foldlM body s = .ok t) : Steps policy s t :=
  Transaction.loop_relates (Steps policy) (fun _ => refl) (fun _ _ _ => trans) each done

theorem insertEntry (row : Entry) (born : EntryBorn row) (done : s.insertEntry row = .ok t) : Steps policy s t :=
  ⟨.insertEntry row born done, .insertEntry row done⟩

end Steps
end PhotoSync
