import PhotoSync.Store.Moves

set_option autoImplicit false

namespace PhotoSync
open Relational Transaction Store Entry

structure DirtyOutcome where
  entry : Nat
  dirty : NativeDirty
deriving DecidableEq, Repr

namespace Store

def mark (s : Store) (entry : Nat) (category : ChangeCategory) (stamp : EditEvent) : Result (Store × DirtyOutcome) := do
  let row ← requireRow (s.entries.get entry)
  let marked := row.mark category stamp
  return ({ s.updateEntry entry (Entry.mark category stamp) with
    journal := s.journal ++ [⟨entry, category, marked.localVersion⟩] }, ⟨entry, marked.dirty⟩)

def covers (s : Store) (job : Job) (item : Media) : Bool := s.connectionEnabled job && job.inScope item.folderPath

-- The LEFT JOIN of note: entries linked to this media row at this very path.
def entryLinkedAt (s : Store) (job media : Nat) (path : String) : Option (Nat × Entry) :=
  s.entries.first? (fun _ row => row.job == job && row.media == some media && row.relativePath == path)

def claimOf (s : Store) (media : Nat) (item : Media) (row : Nat × Job) : Option (Nat × Option Nat) :=
  match relativeUnder row.2.localRoot item.path with
  | none => none
  | some relative =>
    if s.covers row.2 item then some (row.1, (s.entryLinkedAt row.1 media relative).map Prod.fst) else none

def claims (s : Store) (media : Nat) : List (Nat × Option Nat) :=
  match s.media.get media with
  | none => []
  | some item => s.jobs.rows.filterMap (s.claimOf media item)

def mediaPath (s : Store) (media : Nat) : Result String :=
  match s.media.get media with
  | some item => .ok item.path
  | none => invalid ("media item " ++ toString media ++ " no longer exists")

def relativeUnderJob (s : Store) (job : Nat) (path : String) : Result String := do
  let row ← requireRow (s.jobs.get job)
  match relativeUnder row.localRoot path with
  | some relative => return relative
  | none => invalid "a media path is outside its job root"

def enrolChanged (s : Store) (job media : Nat) : Result Store := do
  let path ← s.mediaPath media
  let relative ← s.relativeUnderJob job path
  s.insertEntry { Entry.inserted job relative with media := some media, dirty := .new }

def noteClaim (media : Nat) (category : ChangeCategory) (stamp : EditEvent) (sofar : Store × List DirtyOutcome)
    (claim : Nat × Option Nat) : Result (Store × List DirtyOutcome) :=
  match claim.2 with
  | some entry => do
    let row ← requireRow (sofar.1.entries.get entry)
    if row.retired && category != .deletion then return sofar
    let (s, outcome) ← sofar.1.mark entry category stamp
    return (s, sofar.2 ++ [outcome])
  | none =>
    if category == .deletion then .ok sofar
    else do
      let s ← sofar.1.enrolChanged claim.1 media
      let (s, outcome) ← s.mark sofar.1.entries.next category stamp
      return (s, sofar.2 ++ [outcome])

def note (s : Store) (media : Nat) (category : ChangeCategory) (stamp : EditEvent) : Result (Store × Option DirtyOutcome) :=
  if s.reset.isSome || !s.localChangesEnabled then .ok (s, none)
  else do
    let (s, recorded) ← (s.claims media).foldlM (noteClaim media category stamp) (s, [])
    return (s, recorded.head?)

end Store

variable {s t : Store} {category : ChangeCategory} {media : Nat} {outcome : DirtyOutcome}
variable {stamp : EditEvent} {entry job : Nat}

section Moves
variable {policy : Policy}

theorem mark_ok (done : s.mark entry category stamp = .ok (t, outcome)) :
    ∃ row, s.entries.get entry = some row ∧ outcome = ⟨entry, (row.mark category stamp).dirty⟩ ∧
      t = { s.updateEntry entry (mark category stamp) with
        journal := s.journal ++ [⟨entry, category, row.localVersion + 1⟩] } := by
  obtain ⟨row, read, rest⟩ := bind_ok.mp done
  rw [requireRow_ok] at read
  cases rest
  exact ⟨row, read, rfl, rfl⟩

theorem mark_steps (active : ∀ row, s.entries.get entry = some row → row.retired = true → category = .deletion)
    (done : s.mark entry category stamp = .ok (t, outcome)) : Steps policy s t := by
  obtain ⟨row, _, _, rfl⟩ := mark_ok done
  have marked : Moves policy s (s.updateEntry entry (mark category stamp)) :=
    .entry entry _ (fun found read => .mark found category stamp (active found read))
  exact ⟨⟨marked.entries, marked.media, marked.tasks⟩, rfl, rfl, rfl⟩

theorem enrolChanged_ok (done : s.enrolChanged job media = .ok t) :
    ∃ item root relative, s.media.get media = some item ∧ s.jobs.get job = some root ∧
      relativeUnder root.localRoot item.path = some relative ∧
      s.insertEntry { inserted job relative with media := some media, dirty := .new } = .ok t := by
  obtain ⟨path, found, relative, under, inserted⟩ := bind2_ok done
  obtain ⟨root, job, relativeFound⟩ := bind_ok.mp under
  rw [requireRow_ok] at job
  unfold mediaPath at found
  split at found
  · next item read =>
    cases found
    split at relativeFound
    · next here =>
      cases relativeFound
      exact ⟨item, root, relative, read, job, here, inserted⟩
    · cases relativeFound
  · cases found

theorem enrolled_born {path : String} {media : Option Nat} : EntryBorn { inserted job path with media := media, dirty := .new } :=
  ⟨rfl, .inr ⟨rfl, rfl⟩, rfl, rfl, rfl, rfl, rfl, rfl, rfl⟩

theorem noteClaim_ok {now after : Store × List DirtyOutcome} {claim : Nat × Option Nat}
    (done : noteClaim media category stamp now claim = .ok after) : (after = now ∧ (category = .deletion ∨
      ∃ id row, claim.2 = some id ∧ now.1.entries.get id = some row ∧ row.retired = true)) ∨
    (∃ id row outcome, claim.2 = some id ∧ now.1.entries.get id = some row ∧
      (row.retired = true → category = .deletion) ∧ now.1.mark id category stamp = .ok (after.1, outcome)) ∨
    ∃ path enrolled outcome, now.1.insertEntry { inserted claim.1 path with media := some media, dirty := .new } = .ok enrolled ∧
      enrolled.mark now.1.entries.next category stamp = .ok (after.1, outcome) := by
  unfold noteClaim at done
  split at done
  · next id linked =>
    obtain ⟨row, read, rest⟩ := bind_ok.mp done
    rw [requireRow_ok] at read
    split at rest
    · next closed =>
      cases rest
      exact .inl ⟨rfl, .inr ⟨id, row, linked, read, ((Bool.and_eq_true _ _).mp closed).1⟩⟩
    · next active =>
      obtain ⟨⟨t, outcome⟩, marked, rest⟩ := bind_ok.mp rest
      cases rest
      refine .inr (.inl ⟨id, row, outcome, linked, read, fun retired => ?_, marked⟩)
      by_contra other
      exact active (by simp [retired, other])
  · split at done
    · next deletion =>
      cases done
      exact .inl ⟨rfl, .inl (beq_iff_eq.mp deletion)⟩
    · obtain ⟨enrolled, inserted, ⟨t, outcome⟩, marked, rest⟩ := bind2_ok done
      cases rest
      obtain ⟨_, _, _, _, _, _, stored⟩ := enrolChanged_ok inserted
      exact .inr (.inr ⟨_, enrolled, outcome, stored, marked⟩)

theorem note_keeps (inv : Store → Prop) {outcome : Option DirtyOutcome} (start : inv s)
    (each : ∀ claim ∈ s.claims media, ∀ now after : Store × List DirtyOutcome, inv now.1 →
      noteClaim media category stamp now claim = .ok after → inv after.1)
    (done : s.note media category stamp = .ok (t, outcome)) : inv t := by
  unfold note at done
  split at done
  · cases done
    exact start
  · obtain ⟨last, noted, rest⟩ := bind_ok.mp done
    cases rest
    exact loop_keeps (fun now => inv now.1) each start noted

def Recorded (s t : Store) : Prop := ∃ entries journal, t = { s with entries := entries, journal := journal }

theorem note_recorded {outcome : Option DirtyOutcome} (done : s.note media category stamp = .ok (t, outcome)) : Recorded s t := by
  refine note_keeps (Recorded s) ⟨_, _, rfl⟩ (fun claim _ now after sofar stepped => ?_) done
  obtain ⟨rfl, _⟩ | ⟨id, _, _, _, _, _, marked⟩ | ⟨path, enrolled, _, stored, marked⟩ := noteClaim_ok stepped
  · exact sofar
  · obtain ⟨_, _, same⟩ := sofar
    obtain ⟨_, _, _, rest⟩ := mark_ok marked
    rw [rest, same]
    exact ⟨_, _, rfl⟩
  · obtain ⟨_, _, same⟩ := sofar
    obtain ⟨_, rfl⟩ := insertEntry_ok stored
    obtain ⟨_, _, _, rest⟩ := mark_ok marked
    rw [rest, same]
    exact ⟨_, _, rfl⟩

theorem noteClaim_steps {now after : Store × List DirtyOutcome} {claim : Nat × Option Nat}
    (done : noteClaim media category stamp now claim = .ok after) : Steps policy now.1 after.1 := by
  obtain ⟨rfl, _⟩ | ⟨id, row, _, _, read, active, marked⟩ | ⟨path, enrolled, _, stored, marked⟩ := noteClaim_ok done
  · exact .refl
  · refine mark_steps (fun found again => ?_) marked
    cases read.symm.trans again
    exact active
  · refine (Steps.insertEntry _ enrolled_born stored).trans ?_
    refine mark_steps (fun found read retired => ?_) marked
    obtain ⟨_, rfl⟩ := insertEntry_ok stored
    rw [Table.get_insert_next] at read
    cases read
    cases retired

theorem note_steps {outcome : Option DirtyOutcome} (done : s.note media category stamp = .ok (t, outcome)) : Steps policy s t :=
  note_keeps (Steps policy s) .refl (fun _ _ _ _ sofar stepped => sofar.trans (noteClaim_steps stepped)) done

end Moves
end PhotoSync
