import PhotoSync.Runs.Session

set_option autoImplicit false

namespace PhotoSync
open Relational Transaction Store Entry Command

def Fresh (entry : Entry) : Prop := entry.dirty = .new → entry.photoId = none

theorem Fresh.of_born (entry : Entry) (born : EntryBorn entry) : Fresh entry := by
  intro new
  rcases born.work with clean | ⟨_, unbound⟩
  · rw [clean] at new
    cases new
  · exact unbound

theorem Entry.confirmedDirty_ne_new (entry : Entry) (versions : Versions) : entry.confirmedDirty versions ≠ .new := by
  unfold confirmedDirty
  split
  · decide
  · split
    · decide
    · decide

theorem Entry.confirmUpload_dirty_ne_new (entry : Entry) (operation : Issued)
    (assetRevision masterRevision : Option String) (generation : String) :
    (entry.confirmUpload operation assetRevision masterRevision generation).dirty ≠ .new :=
  confirmedDirty_ne_new _ operation.versions

theorem Entry.Settlement.dirty_ne_new (decision : Entry.Settlement) : decision.dirty ≠ .new := by
  unfold Entry.Settlement.dirty
  split
  · decide
  · split
    · decide
    · decide

theorem Entry.markedDirty_new (entry : Entry) {category : ChangeCategory} (new : entry.markedDirty category = .new) :
    entry.photoId = none := by
  unfold markedDirty at new
  split at new
  · cases new
  · split at new
    · next unbound => exact unbound
    · cases new

theorem Entry.adopt_dirty_ne_new (entry : Entry) (media : Nat) (photo : RemotePhoto) (assetRevision masterRevision generation : String) :
    (entry.adopt media photo assetRevision masterRevision generation).dirty ≠ .new := by
  simp only [adopt]
  split
  · decide
  · decide

theorem EntryStep.fresh (guards : Guards) (id : Nat) (before after : Entry)
    (admits : ∀ photo row, guards.admission id photo row → row.dirty ≠ .new)
    (step : EntryStep guards id before after) (fresh : Fresh before) : Fresh after := by
  cases step with
  | frame _ same =>
    intro new
    rw [same.photoId]
    exact fresh (same.dirty ▸ new)
  | mark category =>
    intro new
    have unbound := before.markedDirty_new new
    cases category <;> exact unbound
  | confirmUpload =>
    exact fun new => absurd new (before.confirmUpload_dirty_ne_new _ _ _ _)
  | settle decision | useCloud assetRevision masterRevision decision => exact fun new => absurd new decision.dirty_ne_new
  | adopt =>
    exact fun new => absurd new (before.adopt_dirty_ne_new _ _ _ _ _)
  | confirmDelete | forget | retire => exact fun _ => rfl
  | recreate stamp unbound => exact fun _ => unbound
  | deleteCloud | keepLocal => exact nofun
  | rename | relocate => exact fresh
  | admission media photo assetRevision masterRevision generation path allowed =>
    exact fun new => absurd new (admits photo before allowed)

structure Established (photo : String → Prop) (entry : Entry) : Prop where
  identity : ∃ name, entry.photoId = some name ∧ photo name
  created : entry.dirty ≠ .new

structure KeepsIdentity (guards : Guards) (id : Nat) (photo : String → Prop) : Prop where
  confirmDelete : ∀ operation row, operation.phase = .delete → ¬ guards.confirmDelete id operation row
  forget : ∀ row, ¬ guards.forget id row
  retire : ∀ row name, row.photoId = some name → photo name → ¬ guards.retire id row
  names : (∀ name, photo name) ∨ (∀ operation row, ¬ guards.confirm id operation row) ∧
    (∀ received row, ¬ guards.admission id received row) ∧ ¬ guards.rebind id

theorem EntryStep.established {guards : Guards} {id : Nat} {photo : String → Prop} {before after : Entry}
    (keeps : KeepsIdentity guards id photo) (step : EntryStep guards id before after)
    (held : Established photo before) : Established photo after := by
  obtain ⟨⟨name, bound, good⟩, created⟩ := held
  have named : before.photoId ≠ none := by simp [bound]
  cases step with
  | frame _ same => exact ⟨⟨name, same.photoId.trans bound, good⟩, by rw [same.dirty]; exact created⟩
  | mark category =>
    refine ⟨⟨name, ?_, good⟩, fun new => named (before.markedDirty_new new)⟩
    cases category <;> exact bound
  | rename | relocate | deleteCloud => exact ⟨⟨name, bound, good⟩, by first | exact created | exact nofun⟩
  | confirmUpload operation assetRevision masterRevision generation upload allowed =>
    refine ⟨⟨operation.photo, rfl, ?_⟩, before.confirmUpload_dirty_ne_new _ _ _ _⟩
    rcases keeps.names with any | ⟨never, _, _⟩
    · exact any _
    · exact absurd allowed (never operation before)
  | confirmDelete operation delete allowed => exact absurd allowed (keeps.confirmDelete operation before delete)
  | settle decision guard =>
    refine ⟨⟨name, ?_, good⟩, decision.dirty_ne_new⟩
    rcases guard.identity with unbound | same
    · exact absurd unbound named
    · exact same.symm.trans bound
  | adopt _ _ _ _ _ unbound | recreate _ unbound => exact absurd unbound named
  | forget allowed => exact absurd allowed (keeps.forget before)
  | retire _ allowed => exact absurd allowed (keeps.retire before name bound good)
  | keepLocal received assetRevision masterRevision stamp _ decided =>
    rcases keeps.names with any | ⟨_, _, never⟩
    · exact ⟨⟨received.photoId, rfl, any _⟩, nofun⟩
    · exact absurd decided never
  | useCloud assetRevision masterRevision decision _ guard decided =>
    rcases keeps.names with any | ⟨_, _, never⟩
    · exact ⟨⟨decision.photo.photoId, rfl, any _⟩, decision.dirty_ne_new⟩
    · exact absurd decided never
  | admission media received assetRevision masterRevision generation path allowed =>
    rcases keeps.names with any | ⟨_, never, _⟩
    · exact ⟨⟨received.photoId, rfl, any _⟩, created⟩
    · exact absurd allowed (never received before)

-- The commands that clear the identity of an entry: a confirmed deletion, a tombstone for its photo, a user's
-- decision about a photo the server deleted, and the collision check's forgetting of an identity that a tombstone
-- ended.
def clearsIdentity (s : Store) (id : Nat) : Command → Bool
  | .confirm _ operation _ _ => operation.phase == .delete && operation.entry == id
  | .promote _ graph _ _ => (s.entries.get id).any (fun row => row.photoId.any graph.tombstones.contains)
  | .userAction _ entry _ document _ _ _ => entry == id && document.any ConflictDocument.buries
  | .forgetIdentityForAdoption _ entry _ => entry == id
  | _ => false

variable {platform : Platform} {s t : Store} {id : Nat}

theorem Moves.keeps_established {policy : Policy} (moves : Moves policy s t) {id : Nat} {photo : String → Prop}
    (keeps : KeepsIdentity policy.guards id photo) {before after : Entry} (read : s.entries.get id = some before)
    (held : Established photo before) (present : t.entries.get id = some after) : Established photo after := by
  obtain ⟨old, start, kept⟩ := moves.entries.origin
    (fun other first now => other = id → Established photo first → Established photo now)
    (fun _ _ _ held => held)
    (fun other first before after sofar step own held =>
      EntryStep.established (own ▸ keeps) step (sofar own held))
    id after (Table.lt_next read) present
  rw [read] at start
  cases start
  exact kept rfl held

theorem established_step {command : Command} {before after : Entry} (kept : clearsIdentity s id command = false)
    (read : s.entries.get id = some before) (bound : before.photoId ≠ none) (created : before.dirty ≠ .new)
    (done : command.execute platform s = .ok t) (present : t.entries.get id = some after) :
    after.photoId ≠ none ∧ after.dirty ≠ .new := by
  have moves := execute_moves done
  obtain ⟨name, named⟩ := Option.ne_none_iff_exists'.mp bound
  have conclude : ∀ photo, photo name → KeepsIdentity (command.policyOf s).guards id photo →
      after.photoId ≠ none ∧ after.dirty ≠ .new := by
    intro photo good keeps
    obtain ⟨⟨_, found, _⟩, still⟩ := moves.keeps_established keeps read ⟨⟨name, named, good⟩, created⟩ present
    exact ⟨by simp [found], still⟩
  by_cases promoted : ∃ job graph target digests, command = .promote job graph target digests
  · obtain ⟨job, graph, target, digests, rfl⟩ := promoted
    have alive : name ∉ graph.tombstones := by
      simpa [clearsIdentity, read, named] using kept
    refine conclude (fun live => live ∉ graph.tombstones) alive ⟨?_, ?_, ?_, ?_⟩
    · exact fun _ _ _ never => never
    · exact fun _ never => never
    · rintro row live bound alive ⟨dead, listed, same⟩
      rw [bound] at same
      cases same
      exact alive listed
    · exact .inr ⟨fun _ _ never => never, fun _ _ never => never, fun never => never⟩
  · refine conclude (fun _ => True) trivial ⟨?_, ?_, ?_, .inl (fun _ => trivial)⟩
    · intro operation row delete allowed
      obtain ⟨_, _, _, rfl, own, _⟩ := policyOf_confirmDelete allowed
      simp [clearsIdentity, delete, own] at kept
    · intro row allowed
      obtain ⟨_, _, rfl, _⟩ := policyOf_forget allowed
      simp [clearsIdentity] at kept
    · intro row live _ _ allowed
      rcases policyOf_retire allowed with
        ⟨job, graph, target, digests, same, _⟩ | ⟨_, _, _, _, _, _, rfl, buried⟩
      · exact promoted ⟨job, graph, target, digests, same⟩
      · simp [clearsIdentity, buried] at kept

def CarriesIdentity (s : Store) (id : Nat) : Prop :=
  id < s.entries.next ∧ ∀ row, s.entries.get id = some row → row.photoId ≠ none ∧ row.dirty ≠ .new

theorem carriesIdentity_step (s : Store) (command : Command) (t : Store) (carries : CarriesIdentity s id)
    (kept : clearsIdentity s id command = false) (done : command.execute platform s = .ok t) : CarriesIdentity t id := by
  have moves := execute_moves done
  refine ⟨Nat.lt_of_lt_of_le carries.1 moves.entries.next_le, fun after present => ?_⟩
  obtain ⟨before, read, _⟩ := moves.entries.origin (fun _ _ _ => True) (fun _ _ => trivial)
    (fun _ _ _ _ _ _ => trivial) id after carries.1 present
  obtain ⟨bound, created⟩ := carries.2 before read
  exact established_step kept read bound created done present

-- Admission is the only other way to an identity, and is asked for rows that are not to be created.
def admitsCreated (s : Store) : Command → Bool
  | .admission publication .. =>
    match s.captureOf publication "missing publication capture" with
    | .ok capture => capture.dirty != .new
    | .error _ => true
  | _ => true

theorem fresh_step (s : Store) (command : Command) (t : Store) (fresh : s.entries.All Fresh)
    (permit : admitsCreated s command = true) (done : command.execute platform s = .ok t) : t.entries.All Fresh := by
  have moves := execute_moves done
  refine moves.entries.all Fresh Fresh.of_born (fun id first second step =>
    EntryStep.fresh _ id first second (fun photo row allowed => ?_) step) fresh
  obtain ⟨_, _, _, capture, rfl, captured, _, _, same⟩ := policyOf_admission allowed
  simp only [admitsCreated, captured, bne_iff_ne] at permit
  rw [same]
  exact permit

theorem fresh_empty : empty.entries.All Fresh := by
  intro id row read
  cases read

theorem confirmed_create_is_never_repeated (platform : Platform) (commands : List Command)
    (permitted : Meets (Command.execute platform) (fun s command => admitsCreated s command = true) empty
      commands) :
    (run (Command.execute platform) empty commands).entries.All (fun row => row.dirty = .new → row.photoId = none) ∧
    ∀ (epoch : Epoch) (operation : Issued) (response : Option (List ConfirmedRecord)) (leaseHeld : Bool) (row : Entry)
      (t : Store), operation.phase = .create →
      (run (Command.execute platform) empty commands).entries.get operation.entry = some row →
      (run (Command.execute platform) empty commands).confirm epoch operation response leaseHeld = .ok t →
      (∃ after, t.entries.get operation.entry = some after ∧ after.photoId = some operation.photo ∧
        after.masterId = some operation.master ∧ after.dirty ≠ .new) ∧
      ∀ later, Meets (Command.execute platform) (fun s command => clearsIdentity s operation.entry command = false) t
        later →
        ∀ last, (run (Command.execute platform) t later).entries.get operation.entry = some last →
          last.photoId ≠ none ∧ last.dirty ≠ .new := by
  refine ⟨run_keeps _ (fresh_step) fresh_empty permitted, ?_⟩
  intro epoch operation response leaseHeld row t create read done
  have upload : operation.phase ≠ .delete := by simp [create]
  obtain ⟨assetRevision, masterRevision, generation, baseline, after⟩ := confirm_upload_entry upload read done
  have created := row.confirmUpload_dirty_ne_new operation assetRevision masterRevision generation
  refine ⟨⟨_, after, rfl, rfl, created⟩, fun later kept last present => ?_⟩
  have carries : CarriesIdentity t operation.entry := by
    refine ⟨Table.lt_next after, fun found same => ?_⟩
    rw [after] at same
    cases same
    exact ⟨nofun, created⟩
  exact (run_keeps _ (carriesIdentity_step) carries kept).2 last present

def Sample.createInFlight : List Command :=
  Sample.opening ++ [.save Sample.epoch (Sample.operation .create ⟨1, 0, 1, 0⟩), .noteLocalChange 1 .content Sample.stamp]

theorem edited_create_is_not_repeated : ∃ t, (run (Command.execute Sample.platform) .empty Sample.createInFlight).confirm Sample.epoch
        (Sample.operation .create ⟨1, 0, 1, 0⟩) (some (Sample.answer false)) true = .ok t ∧
      ∃ row, (run (Command.execute Sample.platform) t [.noteLocalChange 1 .metadata Sample.stamp]).entries.get 1 =
        some row ∧ row.ackedContentVersion < row.contentVersion ∧ row.dirty ≠ .new := by
  have present : ((run (Command.execute Sample.platform) .empty Sample.createInFlight).entries.get 1).isSome = true := by
    decide +kernel
  obtain ⟨row, read⟩ := Option.isSome_iff_exists.mp present
  have done := ok_of_isOk (Command.execute Sample.platform)
    (run (Command.execute Sample.platform) .empty Sample.createInFlight)
    (.confirm Sample.epoch (Sample.operation .create ⟨1, 0, 1, 0⟩) (some (Sample.answer false)) true) (by decide +kernel)
  refine ⟨_, done, ?_⟩
  obtain ⟨_, later⟩ := (confirmed_create_is_never_repeated Sample.platform Sample.createInFlight (by decide +kernel)).2
    Sample.epoch (Sample.operation .create ⟨1, 0, 1, 0⟩) (some (Sample.answer false)) true row _ rfl read done
  have edited : ((run (Command.execute Sample.platform) (step (Command.execute Sample.platform)
    (run (Command.execute Sample.platform) .empty Sample.createInFlight)
    (.confirm Sample.epoch (Sample.operation .create ⟨1, 0, 1, 0⟩) (some (Sample.answer false)) true))
    [.noteLocalChange 1 .metadata Sample.stamp]).entries.get 1).any
      (fun row => decide (row.ackedContentVersion < row.contentVersion)) = true := by decide +kernel
  obtain ⟨last, reached, unsent⟩ := (Option.any_eq_true _ _).mp edited
  exact ⟨last, reached, of_decide_eq_true unsent, (later _ (by decide +kernel) last reached).2⟩

end PhotoSync
