import PhotoSync.Runs.DeleteConfirm

set_option autoImplicit false

namespace PhotoSync
open Relational Transaction Store Table

def observes (row : Media) : Command → Bool
  | .upsertMediaItems items => items.any (fun item => item.1.uri == row.uri)
  | .admission .. => true
  | _ => false

def confirmsCloudOnly (s : Store) : Command → Bool
  | .confirm _ operation _ _ =>
    ((s.entries.get operation.entry).bind s.linkedMedia).any (fun row => row.storageLocation == .cloudOnly)
  | _ => false

structure SettlesRow (s : Store) (operation : Issued) (media : Nat) : Prop where
  delete : operation.phase = .delete
  entry : ∃ row, s.entries.get operation.entry = some row ∧ row.media = some media ∧ row.localVersion = operation.versions.localVersion
  alone : ∀ id row, s.entries.get id = some row → id ≠ operation.entry → row.media = some media → row.retired = true

-- Availability is honest across one command: a cloud-only row becomes local only when its file was observed or
-- placed, and a settled deletion takes the cloud-only row and the entry with it.
structure Honest (s t : Store) (command : Command) : Prop where
  lifted : ∀ id before after, s.media.get id = some before → before.storageLocation = .cloudOnly →
    t.media.get id = some after → after.storageLocation ≠ .cloudOnly → observes before command = true
  settled : ∀ epoch operation response leaseHeld media before,
    command = .confirm epoch operation response leaseHeld → SettlesRow s operation media →
    s.media.get media = some before → before.storageLocation = .cloudOnly →
    t.media.get media = none ∧ t.entries.get operation.entry = none

variable {s t : Store} {media : Nat}

def Observed (items : List (NewMediaItem × EditEvent)) (before after : Table Media) : Prop :=
  ∀ id row, after.get id = some row → id < before.next → ∃ old, before.get id = some old ∧ row.uri = old.uri ∧
    (old.storageLocation = .cloudOnly → row.storageLocation = .cloudOnly ∨ ∃ item ∈ items, item.1.uri = old.uri)

theorem Observed.refl (items : List (NewMediaItem × EditEvent)) (media : Table Media) : Observed items media media :=
  fun _ row read _ => ⟨row, read, rfl, fun cloud => .inl cloud⟩

theorem Observed.trans (items : List (NewMediaItem × EditEvent)) (first second third : Table Media)
    (given : first.next ≤ second.next) (before : Observed items first second) (after : Observed items second third) :
    Observed items first third := by
  intro id row read known
  obtain ⟨middle, present, same, lifted⟩ := after id row read (Nat.lt_of_lt_of_le known given)
  obtain ⟨old, start, earlier, raised⟩ := before id middle present known
  refine ⟨old, start, same.trans earlier, fun cloud => ?_⟩
  rcases raised cloud with still | found
  · rcases lifted still with kept | ⟨item, member, named⟩
    · exact .inl kept
    · exact .inr ⟨item, member, named.trans earlier⟩
  · exact .inr found

theorem upsertItem_observed {items : List (NewMediaItem × EditEvent)} {publication : Option String}
    {before after : Store × List Nat} {item : NewMediaItem × EditEvent} (member : item ∈ items)
    (done : upsertItem publication before item = .ok after) : Observed items before.1.media after.1.media := by
  obtain ⟨_, rfl⟩ | ⟨_, found, row, present, named, _, written⟩ | ⟨_, _, rfl⟩ := upsertItem_cases done
  · exact .refl _ _
  · intro id other read known
    rw [upsertItem_media written, get_modify] at read
    by_cases here : id = found
    · rw [if_pos here, here, present] at read
      cases read
      rw [here]
      exact ⟨row, present, rfl, fun _ => .inr ⟨item, member, named.symm⟩⟩
    · rw [if_neg here] at read
      exact ⟨other, read, rfl, fun cloud => .inl cloud⟩
  · intro id other read known
    rw [get_insert, if_neg (Nat.ne_of_lt known)] at read
    exact ⟨other, read, rfl, fun cloud => .inl cloud⟩

theorem upsertMediaItems_observed {s : Store} {items : List (NewMediaItem × EditEvent)} {after : Store × List Nat}
    (done : s.upsertMediaItems items none = .ok after) : Observed items s.media after.1.media := by
  have kept := loop_keeps
    (fun state => s.media.next ≤ state.1.media.next ∧ Observed items s.media state.1.media)
    (fun item member before after ⟨given, sofar⟩ stepped => by
      have moves : Moves { Policy.none with place := fun _ _ => True } before.1 after.1 :=
        (upsertItem_steps (fun _ _ _ => trivial) stepped).toMoves
      exact ⟨Nat.le_trans given moves.media.next_le,
        sofar.trans items _ _ _ given (upsertItem_observed member stepped)⟩) ⟨Nat.le_refl _, .refl _ _⟩ done
  exact kept.2

theorem Moves.keeps_cloudOnly {policy : Policy} (moves : Moves policy s t) {id : Nat} {before after : Media}
    (read : s.media.get id = some before) (cloud : before.storageLocation = .cloudOnly)
    (present : t.media.get id = some after) (never : ∀ row, ¬ policy.place id row) : after.storageLocation = .cloudOnly := by
  obtain ⟨old, start, kept⟩ := moves.media.origin
    (fun other first now => other = id → first.storageLocation = .cloudOnly → now.storageLocation = .cloudOnly)
    (fun _ _ _ cloud => cloud)
    (fun other first before after sofar step own cloud => by
      rcases step (sofar own cloud) with still | placed
      · exact still
      · exact absurd (own ▸ placed) (never before))
    id after (lt_next read) present
  rw [read] at start
  cases start
  exact kept rfl cloud

variable {row : Media} {operation : Issued}

theorem confirmMedia_both (linked : (s.entries.get operation.entry).bind Entry.media = some media)
    (read : s.media.get media = some row) :
    ∃ after, (s.confirmMedia operation).media.get media = some after ∧ after.storageLocation = .both := by
  unfold confirmMedia updateEntryMedia
  rw [linked]
  refine ⟨_, (get_modify_self s.media media _).trans (congrArg _ read), rfl⟩

theorem confirmCleanup_keeps (operation : Issued) (read : s.media.get media = some row)
    (both : row.storageLocation = .both) : (s.confirmCleanup operation).media.get media = some row := by
  unfold confirmCleanup
  split
  · change (s.dropCloudRow _).media.get media = some row
    unfold dropCloudRow
    split
    · exact read
    · change (s.media.delete _).get media = some row
      rw [get_delete, read, Option.filter_some]
      simp [both]
  · exact read

theorem confirm_lifts {epoch : Epoch} {response : Option (List ConfirmedRecord)} {leaseHeld : Bool}
    (linked : (s.entries.get operation.entry).bind Entry.media = some media) (read : s.media.get media = some row)
    (done : s.confirm epoch operation response leaseHeld = .ok t) :
    ∃ after, t.media.get media = some after ∧ after.storageLocation = .both := by
  obtain ⟨records, generation, entered, based, _, _, _, _, bound, baseline, rfl⟩ := confirm_ok done
  obtain ⟨held, files⟩ := confirmBaseline_linked baseline
  have still : (based.entries.get operation.entry).bind Entry.media = some media :=
    (held.trans (confirmEntry_linked s entered operation records generation bound)).trans linked
  have present : based.media.get media = some row := by
    rw [files]
    obtain ⟨_, rfl, _⟩ := confirmEntry_eq bound
    exact read
  obtain ⟨after, lifted, both⟩ := confirmMedia_both still present
  exact ⟨after, confirmCleanup_keeps operation lifted both, both⟩

theorem confirmsCloudOnly_iff (s : Store) (epoch : Epoch) (operation : Issued)
    (response : Option (List ConfirmedRecord)) (leaseHeld : Bool) :
    confirmsCloudOnly s (.confirm epoch operation response leaseHeld) = true ↔
      ∃ media row, (s.entries.get operation.entry).bind Entry.media = some media ∧ s.media.get media = some row ∧
        row.storageLocation = .cloudOnly := by
  simp only [confirmsCloudOnly, Option.any_eq_true, beq_iff_eq]
  constructor
  · rintro ⟨row, found, cloud⟩
    obtain ⟨entry, read, linked⟩ := Option.bind_eq_some_iff.mp found
    obtain ⟨media, held, present⟩ := Option.bind_eq_some_iff.mp linked
    exact ⟨media, row, by rw [read]; exact held, present, cloud⟩
  · rintro ⟨media, row, held, present, cloud⟩
    obtain ⟨entry, read, linked⟩ := Option.bind_eq_some_iff.mp held
    refine ⟨row, ?_, cloud⟩
    rw [read]
    change entry.media.bind s.media.get = some row
    rw [linked]
    exact present

theorem policyOf_place {command : Command} {id : Nat} (placed : (command.policyOf s).place id row) :
    (∃ items, command = .upsertMediaItems items) ∨ (∃ publication photo item stamp, command = .admission publication photo item stamp) ∨
      ∃ epoch operation response leaseHeld, command = .confirm epoch operation response leaseHeld ∧
        (s.entries.get operation.entry).bind Entry.media = some id := by
  cases command with
  | upsertMediaItems items => exact .inl ⟨items, rfl⟩
  | admission publication photo item stamp => exact .inr (.inl ⟨publication, photo, item, stamp, rfl⟩)
  | confirm epoch operation response leaseHeld =>
    exact .inr (.inr ⟨epoch, operation, response, leaseHeld, rfl, placed⟩)
  | _ => exact False.elim placed

def Sample.vanishedUploaded : List Command := Sample.opening ++ [.save Sample.epoch (Sample.operation .create ⟨1, 0, 1, 0⟩),
    .confirm Sample.epoch (Sample.operation .create ⟨1, 0, 1, 0⟩) (some (Sample.answer false)) true,
    Sample.vanished, .save Sample.epoch Sample.removal]

end PhotoSync
