import Mathlib
import PhotoSync.Runs.Placed

set_option autoImplicit false

namespace PhotoSync
open Relational Transaction Store Entry

namespace EditEvent

def key (event : EditEvent) : Int ×ₗ String ×ₗ String := toLex (event.editedAtMs, toLex (event.source, event.eventId))

theorem key_injective : Function.Injective key := by
  rintro ⟨time, source, id⟩ ⟨otherTime, otherSource, otherId⟩ same
  simpa [key] using same

theorem atLeast_iff (left right : EditEvent) : left.atLeast right = true ↔ right.key ≤ left.key := by
  simp only [atLeast, key, Prod.Lex.toLex_le_toLex, Bool.or_eq_true, Bool.and_eq_true, decide_eq_true_eq, beq_iff_eq,
    Bool.not_eq_true', decide_eq_false_iff_not, not_lt]
  constructor
  · rintro (later | ⟨time, later | ⟨source, id⟩⟩)
    · exact .inl later
    · exact .inr ⟨time.symm, .inl later⟩
    · exact .inr ⟨time.symm, .inr ⟨source.symm, id⟩⟩
  · rintro (later | ⟨time, later | ⟨source, id⟩⟩)
    · exact .inl later
    · exact .inr ⟨time.symm, .inl later⟩
    · exact .inr ⟨time.symm, .inr ⟨source.symm, id⟩⟩

def rank : Option EditEvent → WithBot (Int ×ₗ String ×ₗ String)
  | none => ⊥
  | some event => event.key

theorem rank_injective : Function.Injective rank := by
  intro left right same
  cases left with
  | none =>
    cases right with
    | none => rfl
    | some => cases same
  | some =>
    cases right with
    | none => cases same
    | some => rw [key_injective (WithBot.coe_injective same)]

theorem rank_latestEvent (left right : Option EditEvent) : rank (latestEvent left right) = max (rank left) (rank right) := by
  cases left with
  | none =>
    cases right with
    | none | some => simp [latestEvent, rank]
  | some left =>
    cases right with
    | none => simp [latestEvent, rank]
    | some right =>
      by_cases least : left.atLeast right = true
      · have above : rank (some right) ≤ rank (some left) := WithBot.coe_le_coe.mpr ((atLeast_iff left right).mp least)
        rw [latestEvent, if_pos least, max_eq_left above]
      · have above : rank (some left) ≤ rank (some right) := by
          rw [atLeast_iff, not_le] at least
          exact WithBot.coe_le_coe.mpr (le_of_lt least)
        rw [latestEvent, if_neg least, max_eq_right above]

end EditEvent

section Latest

theorem latestEvent_comm (left right : Option EditEvent) : latestEvent left right = latestEvent right left := by
  apply EditEvent.rank_injective
  rw [EditEvent.rank_latestEvent, EditEvent.rank_latestEvent, max_comm]

theorem latestEvent_assoc (first second third : Option EditEvent) :
    latestEvent (latestEvent first second) third = latestEvent first (latestEvent second third) := by
  apply EditEvent.rank_injective
  simp only [EditEvent.rank_latestEvent, max_assoc]

theorem latestEvent_idem (event : Option EditEvent) : latestEvent event event = event := by
  apply EditEvent.rank_injective
  rw [EditEvent.rank_latestEvent, max_self]

theorem foldl_latestEvent_rank (events : List (Option EditEvent)) (start : Option EditEvent)
    (bound : WithBot (Int ×ₗ String ×ₗ String)) : EditEvent.rank (events.foldl latestEvent start) ≤ bound ↔
      EditEvent.rank start ≤ bound ∧ ∀ event ∈ events, EditEvent.rank event ≤ bound := by
  induction events generalizing start with
  | nil => simp
  | cons event rest ih => simp [ih, EditEvent.rank_latestEvent, and_assoc]

theorem foldl_latestEvent_eq {events others : List (Option EditEvent)} (same : ∀ event, event ∈ events ↔ event ∈ others)
    (start : Option EditEvent) : events.foldl latestEvent start = others.foldl latestEvent start := by
  apply EditEvent.rank_injective
  refine le_antisymm ?_ ?_
  · rw [foldl_latestEvent_rank]
    obtain ⟨first, each⟩ := (foldl_latestEvent_rank others start _).mp le_rfl
    exact ⟨first, fun event member => each event ((same event).mp member)⟩
  · rw [foldl_latestEvent_rank]
    obtain ⟨first, each⟩ := (foldl_latestEvent_rank events start _).mp le_rfl
    exact ⟨first, fun event member => each event ((same event).mpr member)⟩

theorem localEventWins_opposite (one other : EditEvent) (different : one ≠ other) :
    localEventWins (some one) (some other) = !localEventWins (some other) (some one) := by
  have swap := latestEvent_comm (some one) (some other)
  unfold localEventWins
  rw [swap]
  by_cases later : other.atLeast one = true
  · simp [latestEvent, later, different.symm]
  · simp [latestEvent, later, different]

end Latest

inductive EditCategory where
  | metadata
  | content
deriving DecidableEq, Repr

def EditEvents.of (events : EditEvents) : EditCategory → Option EditEvent
  | .metadata => events.metadata
  | .content => events.content

def Entry.pendingIn (row : Entry) : EditCategory → Bool
  | .metadata => row.metadataPending
  | .content => row.contentPending

def RemotePhoto.sameIn (photo : RemotePhoto) : EditCategory → RemotePhoto → Bool
  | .metadata => photo.sameMetadata
  | .content => photo.sameContent

namespace Store

structure Tracks (s : Store) (job entry : Nat) (row : Entry) (photo : RemotePhoto) : Prop where
  configured : (s.jobs.get job).isSome = true
  read : s.entries.get entry = some row
  own : row.job = job
  bound : row.photoId = some photo.photoId
  alone : s.photoTaken entry job photo.photoId = false
  kept : row.dirty ≠ .delete
  stored : (s.linkedMedia row).any (fun media => media.storageLocation == .cloudOnly) = false

-- An edit stamped `mine` is pending, and the cloud's version carries `theirs`.
structure Contends (s : Store) (job entry : Nat) (row : Entry) (photo : RemotePhoto) (category : EditCategory)
    (mine theirs : EditEvent) : Prop extends Tracks s job entry row photo where
  pending : row.pendingIn category = true
  stamped : row.events.of category = some mine
  carries : photo.events.of category = some theirs
  changed : row.baseline.any (photo.sameIn category) = false

def keeps (s : Store) (entry : Nat) (category : EditCategory) : Bool := (s.entries.get entry).any (fun row => row.pendingIn category)

end Store

section Projection
variable {s : Store} {job entry : Nat} {row : Entry} {photo : RemotePhoto}

theorem repairAvailability_stored (stored : (s.linkedMedia row).any (fun media => media.storageLocation == .cloudOnly) = false) :
    ((s.repairAvailability entry photo).linkedMedia row).any (fun media => media.storageLocation == .cloudOnly) = false := by
  rw [repairAvailability_cloudOnly]
  exact stored

theorem Store.Tracks.repaired (tracks : s.Tracks job entry row photo) :
    (s.repairAvailability entry photo).Tracks job entry row photo := by
  have same := repairAvailability_entries s entry photo
  refine ⟨?_, ?_, tracks.own, tracks.bound, ?_, tracks.kept, repairAvailability_stored tracks.stored⟩
  · rw [repairAvailability_jobs]
    exact tracks.configured
  · rw [same]
    exact tracks.read
  · unfold photoTaken
    rw [same]
    exact tracks.alone

theorem Store.Tracks.located (tracks : s.Tracks job entry row photo) : s.projectedEntry job photo = .ok (s, entry) := by
  have found : s.entryOfPhoto job photo.photoId = some (entry, row) := by
    have alone := tracks.alone
    rw [← tracks.own] at alone ⊢
    exact s.entryOfPhoto_unique tracks.read tracks.bound alone
  unfold projectedEntry
  rw [found]
  rfl

theorem Store.Tracks.missing (tracks : s.Tracks job entry row photo) (digests : LocalDigests) :
    s.missingLocal job entry row photo digests = .ok (s, some false) := by
  unfold missingLocal
  simp [tracks.stored, tracks.bound]

def Entry.Settlement.holds (decision : Entry.Settlement) : EditCategory → Bool
  | .metadata => decision.preserveMetadata
  | .content => decision.keepContent

theorem settle_pendingIn (decision : Entry.Settlement) (row : Entry) (category : EditCategory) :
    (settle decision row).pendingIn category = (decision.holds category && row.pendingIn category) := by
  cases category with
  | metadata =>
    by_cases held : decision.preserveMetadata = true
    · simp [pendingIn, metadataPending, settle, Entry.Settlement.holds, held]
    · simp [pendingIn, metadataPending, settle, Entry.Settlement.holds, held]
  | content =>
    by_cases held : decision.keepContent = true
    · simp [pendingIn, contentPending, settle, Entry.Settlement.holds, held]
    · simp [pendingIn, contentPending, settle, Entry.Settlement.holds, held]

theorem modified_keeps (target : Nat) (change : Entry → Entry) {category : EditCategory}
    (same : ∀ row, (change row).pendingIn category = row.pendingIn category) :
    (s.updateEntry target change).keeps entry category = s.keeps entry category := by
  unfold keeps updateEntry
  rw [Table.get_modify]
  split
  · cases s.entries.get entry with
    | none => rfl
    | some row => exact same row
  · rfl

theorem settleInPlace_keeps (decision : Entry.Settlement) (category : EditCategory) :
    (s.settleInPlace job entry decision).keeps entry category = s.keeps entry category := by
  obtain ⟨_, generation, same⟩ := settleInPlace_eq s job entry decision
  rw [same]
  let confirmed := s.updateEntry entry (fun row => { row with
    contentGeneration := some decision.photo.contentGeneration
    confirmedGeneration := generation })
  calc
    _ = (confirmed.setBaseline entry (some decision.photo)).keeps entry category := rfl
    _ = confirmed.keeps entry category := modified_keeps entry _ (fun _ => by cases category <;> rfl)
    _ = s.keeps entry category := modified_keeps entry _ (fun _ => by cases category <;> rfl)

theorem schedulePlacement_succeeds (platform : Platform) (localVersion : Nat) (decision : Entry.Settlement)
    (configured : (s.jobs.get job).isSome = true) (present : (s.entries.get entry).isSome = true) :
    ∃ t, schedulePlacement platform s job entry localVersion decision = .ok t ∧ t.entries = s.entries := by
  obtain ⟨config, job_⟩ := Option.isSome_iff_exists.mp configured
  obtain ⟨found, entry_⟩ := Option.isSome_iff_exists.mp present
  unfold schedulePlacement
  rw [job_, entry_]
  exact ⟨_, rfl, rfl⟩

theorem Store.Tracks.resolved (tracks : s.Tracks job entry row photo) (visible : photo.isHidden = false)
    (platform : Platform) : ∃ t content, resolveProjection platform s job entry photo false = .ok (t, content) ∧
      ∀ category, t.keeps entry category = ((s.settlement job row photo false).holds category && row.pendingIn category) := by
  have clear : conflictReason row photo false = none := by simp [conflictReason, visible, tracks.bound]
  have alone : s.photoTaken entry row.job photo.photoId = false := by
    rw [tracks.own]
    exact tracks.alone
  have stored : s.setEntryPhoto entry photo.photoId (settle (s.settlement job row photo false)) =
      .ok (s.updateEntry entry (settle (s.settlement job row photo false))) := by
    unfold setEntryPhoto
    rw [tracks.read]
    dsimp only
    rw [alone]
    rfl
  generalize decided : s.settlement job row photo false = decision at stored ⊢
  have settled : ∀ category, (s.updateEntry entry (settle decision)).keeps entry category =
      (decision.holds category && row.pendingIn category) := by
    intro category
    simp only [keeps, updateEntry, Table.get_modify, if_pos, tracks.read, Option.map_some, Option.any_some]
    exact settle_pendingIn decision row category
  generalize updated : s.updateEntry entry (settle decision) = u at stored settled
  have configured : (u.jobs.get job).isSome = true := by
    subst updated
    exact tracks.configured
  have present : (u.entries.get entry).isSome = true := by
    subst updated
    simp [updateEntry, tracks.read]
  unfold resolveProjection
  simp only [tracks.read, requireRow, clear, decided, stored, bind, Except.bind]
  split
  · obtain ⟨t, placed, entries⟩ := schedulePlacement_succeeds (s := u.resolveConflicts entry (fun reason =>
      reason == intersectsReason || reason == differsReason)) platform row.localVersion decision configured present
    rw [placed]
    refine ⟨t, _, rfl, fun category => ?_⟩
    rw [← settled category]
    unfold keeps
    rw [entries]
    rfl
  · refine ⟨_, _, rfl, fun category => ?_⟩
    rw [settleInPlace_keeps]
    exact settled category

theorem RemotePhoto.sameIn_self (photo : RemotePhoto) (category : EditCategory) : photo.sameIn category photo = true := by
  cases category with
  | metadata => simp [RemotePhoto.sameIn, RemotePhoto.sameMetadata]
  | content => simp [RemotePhoto.sameIn, RemotePhoto.sameContent]

variable {category : EditCategory} {mine theirs : EditEvent}

theorem Store.Contends.decision (contends : s.Contends job entry row photo category mine theirs) (t : Store) :
    (t.settlement job row photo false).holds category = localEventWins (some mine) (some theirs) := by
  obtain ⟨tracks, pending, stamped, carries, changed⟩ := contends
  cases category with
  | metadata =>
    simp only [pendingIn, EditEvents.of, RemotePhoto.sameIn] at pending stamped carries changed
    simp [Entry.Settlement.holds, settlement, pending, stamped, carries, changed]
  | content =>
    simp only [pendingIn, EditEvents.of, RemotePhoto.sameIn] at pending stamped carries changed
    simp [Entry.Settlement.holds, settlement, pending, stamped, carries, changed, tracks.kept]

theorem Store.Contends.projected (contends : s.Contends job entry row photo category mine theirs)
    (visible : photo.isHidden = false) (platform : Platform) (digests : LocalDigests) :
    ∃ t content, projectPublication platform s job photo digests = .ok (t, content) ∧
      t.keeps entry category = localEventWins (some mine) (some theirs) := by
  have repaired := contends.toTracks.repaired
  have differs : (row.baseline == some photo) = false := by
    rw [beq_eq_false_iff_ne]
    intro same
    have changed := contends.changed
    rw [same, Option.any_some, RemotePhoto.sameIn_self] at changed
    cases changed
  obtain ⟨t, content, resolved, kept⟩ := repaired.resolved visible platform
  refine ⟨t, content, ?_, ?_⟩
  · unfold projectPublication
    simp only [contends.toTracks.located, bind, Except.bind, repaired.read, requireRow, differs, Bool.false_and, repaired.missing]
    exact resolved
  · rw [kept category, contends.decision, contends.pending, Bool.and_true]

end Projection

namespace Sample

def early : EditEvent := ⟨1, "phone", "first"⟩

def late : EditEvent := ⟨2, "desktop", "second"⟩

def editing (event : EditEvent) : Store :=
  run (Command.execute telling) .empty (connecting ++ placed "A" ++ [.noteLocalChange 1 .metadata event])

def editedBy (event : EditEvent) (hidden : Bool) : RemotePhoto :=
  { version "A" with isFavorite := true, isHidden := hidden, events := ⟨some event, none, none⟩ }

theorem editing_contends (mine theirs : EditEvent) (hidden : Bool) (check : ((editing mine).entries.get 1).any (fun row =>
      row.job == 1 && row.photoId == some (editedBy theirs hidden).photoId && row.dirty == .modified &&
        ((editing mine).linkedMedia row).any (fun media => media.storageLocation == .both) && row.metadataPending &&
        row.events.metadata == some mine && row.baseline == some (version "A")) = true)
    (free : (editing mine).photoTaken 1 1 (editedBy theirs hidden).photoId = false)
    (configured : ((editing mine).jobs.get 1).isSome = true) :
    ∃ row, (editing mine).Contends 1 1 row (editedBy theirs hidden) .metadata mine theirs := by
  obtain ⟨row, read, facts⟩ := (Option.any_eq_true _ _).mp check
  simp only [Bool.and_eq_true, beq_iff_eq] at facts
  obtain ⟨⟨⟨⟨⟨⟨own, bound⟩, dirty⟩, linked⟩, pending⟩, stamped⟩, baseline⟩ := facts
  obtain ⟨media, present, both⟩ := (Option.any_eq_true _ _).mp linked
  refine ⟨row, ⟨configured, read, own, bound, free, by simp [dirty], ?_⟩, pending, stamped, rfl, ?_⟩
  · simp only [beq_iff_eq] at both
    simp [present, both]
  · rw [baseline]
    rfl

end Sample

-- Two clients whose edits of one category cross: exactly one of them keeps its
-- own, and the winner among any events is the same in whichever order they come.
theorem one_edit_wins (platform otherPlatform : Platform) (s other : Store) (job entry otherJob otherEntry : Nat)
    (row otherRow : Entry) (photo otherPhoto : RemotePhoto) (category : EditCategory) (a b : EditEvent)
    (digests otherDigests : LocalDigests) (different : a ≠ b)
    (first : s.Contends job entry row photo category a b) (visible : photo.isHidden = false)
    (second : other.Contends otherJob otherEntry otherRow otherPhoto category b a)
    (otherVisible : otherPhoto.isHidden = false) :
    (∃ t u content otherContent, projectPublication platform s job photo digests = .ok (t, content) ∧
      projectPublication otherPlatform other otherJob otherPhoto otherDigests = .ok (u, otherContent) ∧
      t.keeps entry category = !u.keeps otherEntry category) ∧
    Std.Associative latestEvent ∧ Std.Commutative latestEvent ∧ Std.IdempotentOp latestEvent ∧
    ∀ (events others : List (Option EditEvent)) (start : Option EditEvent), (∀ event, event ∈ events ↔ event ∈ others) →
      events.foldl latestEvent start = others.foldl latestEvent start := by
  refine ⟨?_, ⟨latestEvent_assoc⟩, ⟨latestEvent_comm⟩, ⟨latestEvent_idem⟩,
    fun events others start members => foldl_latestEvent_eq members start⟩
  obtain ⟨t, content, projected, kept⟩ := first.projected visible platform digests
  obtain ⟨u, otherContent, otherProjected, otherKept⟩ := second.projected otherVisible otherPlatform otherDigests
  refine ⟨t, u, content, otherContent, projected, otherProjected, ?_⟩
  rw [kept, otherKept]
  exact localEventWins_opposite a b different

open Sample in
theorem later_favourite_wins : ∃ t u content otherContent,
    projectPublication telling (editing early) 1 (editedBy late false) [] = .ok (t, content) ∧
    projectPublication telling (editing late) 1 (editedBy early false) [] = .ok (u, otherContent) ∧
    t.keeps 1 .metadata = !u.keeps 1 .metadata := by
  obtain ⟨row, first⟩ := editing_contends early late false (by decide +kernel) (by decide +kernel)
    (by decide +kernel)
  obtain ⟨otherRow, second⟩ := editing_contends late early false (by decide +kernel)
    (by decide +kernel) (by decide +kernel)
  exact (one_edit_wins telling telling _ _ 1 1 1 1 row otherRow _ _ .metadata early late [] []
    (by decide) first rfl second rfl).1

-- A hidden photo has no local representation: its conflict leaves both edits pending.
open Sample in
theorem hidden_photo_keeps_both : (∃ row, (editing early).Contends 1 1 row (editedBy late true) .metadata early
      late) ∧
    (∃ row, (editing late).Contends 1 1 row (editedBy early true) .metadata late
      early) ∧
    ∃ t u content otherContent, projectPublication telling (editing early) 1 (editedBy late true) [] = .ok (t, content) ∧
      projectPublication telling (editing late) 1 (editedBy early true) [] = .ok (u, otherContent) ∧
      t.keeps 1 .metadata = true ∧ u.keeps 1 .metadata = true := by
  refine ⟨editing_contends _ _ _ (by decide +kernel) (by decide +kernel) (by decide +kernel),
    editing_contends _ _ _ (by decide +kernel) (by decide +kernel) (by decide +kernel), ?_⟩
  obtain ⟨⟨t, content⟩, projected, kept⟩ := ok_of_any (projectPublication telling
    (editing early) 1 (editedBy late true) []) (fun after => after.1.keeps 1 .metadata)
    (by decide +kernel)
  obtain ⟨⟨u, otherContent⟩, otherProjected, otherKept⟩ := ok_of_any (projectPublication telling
    (editing late) 1 (editedBy early true) []) (fun after => after.1.keeps 1 .metadata)
    (by decide +kernel)
  exact ⟨t, u, content, otherContent, projected, otherProjected, kept, otherKept⟩

end PhotoSync
