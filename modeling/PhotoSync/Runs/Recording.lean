import PhotoSync.Runs.Session

set_option autoImplicit false

namespace PhotoSync
open Relational Transaction Store Table Entry List

namespace Store

def recording (s : Store) : Bool := s.reset.isNone && s.localChangesEnabled

def PathsUnique (s : Store) : Prop := ∀ first second one other, s.entries.get first = some one → s.entries.get second = some other →
    one.job = other.job → one.relativePath = other.relativePath → first = second

-- The schema's uniqueness of entries: of paths, and of photos.
structure EntriesUnique (s : Store) : Prop where
  path : s.PathsUnique
  photo : ∀ first second one other, s.entries.get first = some one → s.entries.get second = some other →
    one.job = other.job → one.photoId ≠ none → one.photoId = other.photoId → first = second

-- The path at which an enabled job whose root and upload scope cover the media row synchronizes it.
def claimedPath (s : Store) (media job : Nat) : Option String :=
  match s.media.get media, s.jobs.get job with
  | some item, some row => if s.covers row item then relativeUnder row.localRoot item.path else none
  | _, _ => none

theorem claimedPath_eq_some {s : Store} {media job : Nat} {path : String} :
    s.claimedPath media job = some path ↔ ∃ item row, s.media.get media = some item ∧ s.jobs.get job = some row ∧
      s.covers row item = true ∧ relativeUnder row.localRoot item.path = some path := by
  unfold claimedPath
  cases s.media.get media with
  | none => simp
  | some =>
    cases s.jobs.get job with
    | none | some => simp

theorem claimOf_eq_some (s : Store) (media : Nat) (item : Media) (row : Nat × Job) (claim : Nat × Option Nat) :
    s.claimOf media item row = some claim ↔ s.covers row.2 item = true ∧ ∃ path, relativeUnder row.2.localRoot item.path = some path ∧
      claim = (row.1, (s.entryLinkedAt row.1 media path).map Prod.fst) := by
  unfold claimOf
  cases relativeUnder row.2.localRoot item.path with
  | none => simp
  | some =>
    by_cases covered : s.covers row.2 item = true
    · simp [covered, eq_comm]
    · simp [covered]

theorem mem_claims (s : Store) (media job : Nat) (link : Option Nat) :
    (job, link) ∈ s.claims media ↔ ∃ path, s.claimedPath media job = some path ∧
      link = (s.entryLinkedAt job media path).map Prod.fst := by
  simp only [claimedPath_eq_some]
  unfold claims
  cases s.media.get media with
  | none => simp
  | some item =>
    simp only [mem_filterMap, claimOf_eq_some, ← get_eq_some, Prod.exists, Prod.mk.injEq]
    constructor
    · rintro ⟨_, row, present, covered, path, under, rfl, rfl⟩
      exact ⟨path, ⟨item, row, rfl, present, covered, under⟩, rfl⟩
    · rintro ⟨path, ⟨_, row, same, present, covered, under⟩, rfl⟩
      cases same
      exact ⟨job, row, present, covered, path, under, rfl, rfl⟩

theorem claims_distinct (s : Store) (media : Nat) : ((s.claims media).map Prod.fst).Nodup := by
  unfold claims
  cases s.media.get media with
  | none => exact nodup_nil
  | some item =>
    rw [nodup_iff_pairwise_ne, pairwise_map]
    refine List.Pairwise.filterMap _ ?_ s.jobs.ascending
    intro first second less one made other also
    obtain ⟨_, _, _, rfl⟩ := (s.claimOf_eq_some media item first one).mp made
    obtain ⟨_, _, _, rfl⟩ := (s.claimOf_eq_some media item second other).mp also
    exact Nat.ne_of_lt less

theorem enrolChanged_claimed (s t : Store) {media job : Nat} {path : String}
    (claimed : s.claimedPath media job = some path) : s.enrolChanged job media = .ok t ↔
      s.insertEntry { inserted job path with media := some media, dirty := .new } = .ok t := by
  obtain ⟨item, row, indexed, present, _, under⟩ := claimedPath_eq_some.mp claimed
  constructor
  · intro done
    obtain ⟨other, root, relative, read, found, below, inserted⟩ := enrolChanged_ok done
    rw [indexed] at read
    rw [present] at found
    cases read
    cases found
    rw [under] at below
    cases below
    exact inserted
  · intro inserted
    have located : s.mediaPath media = .ok item.path := by
      unfold mediaPath
      rw [indexed]
    have inside : s.relativeUnderJob job item.path = .ok path := by
      refine bind_ok.mpr ⟨row, requireRow_ok.mpr present, ?_⟩
      rw [under]
      rfl
    exact bind_ok.mpr ⟨item.path, located, bind_ok.mpr ⟨path, inside, inserted⟩⟩

theorem mark_succeeds (s : Store) {id : Nat} {row : Entry} (category : ChangeCategory) (stamp : EditEvent)
    (read : s.entries.get id = some row) : ∃ t outcome, s.mark id category stamp = .ok (t, outcome) ∧
      t.entries = s.entries.modify id (Entry.mark category stamp) ∧ t.claimedPath = s.claimedPath := by
  unfold mark
  rw [read]
  exact ⟨_, _, rfl, rfl, rfl⟩

end Store

structure SameFor (job : Nat) (before after : Store) : Prop where
  entries : ∀ id row, row.job = job → (after.entries.get id = some row ↔ before.entries.get id = some row)
  claims : after.claimedPath = before.claimedPath

theorem SameFor.refl (job : Nat) (s : Store) : SameFor job s s := ⟨fun _ _ _ => Iff.rfl, rfl⟩

theorem SameFor.trans (job : Nat) (first second third : Store) (one : SameFor job first second)
    (other : SameFor job second third) : SameFor job first third :=
  ⟨fun id row own => (other.entries id row own).trans (one.entries id row own), other.claims.trans one.claims⟩

theorem Entry.mark_job (entry : Entry) (category : ChangeCategory) (stamp : EditEvent) :
    (entry.mark category stamp).job = entry.job := by
  cases category <;> rfl

def Entry.takes (entry : Entry) (category : ChangeCategory) : Bool := !entry.retired || category == .deletion

def Entry.noted (entry : Entry) (category : ChangeCategory) (stamp : EditEvent) : Entry :=
  if entry.takes category then entry.mark category stamp else entry

section Recording
variable (media : Nat) (category : ChangeCategory) (stamp : EditEvent) (now after : Store × List DirtyOutcome) (claim : Nat × Option Nat)

theorem noteClaim_linked {id : Nat} {row : Entry} (linked : claim.2 = some id) (read : now.1.entries.get id = some row) :
    ∃ recorded, noteClaim media category stamp now claim = .ok recorded ∧ (∀ other, recorded.1.entries.get other =
        if other = id then some (row.noted category stamp) else now.1.entries.get other) ∧
      recorded.1.claimedPath = now.1.claimedPath := by
  unfold noteClaim
  rw [linked]
  dsimp only
  rw [read]
  have gate : (row.retired && category != .deletion) = !row.takes category := by
    rw [Entry.takes, Bool.not_or, Bool.not_not]
    rfl
  by_cases taken : row.takes category = true
  · obtain ⟨t, outcome, marked, entries, claims⟩ := now.1.mark_succeeds category stamp read
    refine ⟨(t, now.2 ++ [outcome]), bind_ok.mpr ⟨row, rfl, ?_⟩, fun other => ?_, claims⟩
    · rw [gate, taken]
      exact bind_ok.mpr ⟨(t, outcome), marked, rfl⟩
    · rw [entries, get_modify]
      split
      · next same => rw [same, read, Option.map_some, Entry.noted, if_pos taken]
      · rfl
  · refine ⟨now, bind_ok.mpr ⟨row, rfl, ?_⟩, fun other => ?_, rfl⟩
    · rw [gate, Bool.eq_false_iff.mpr taken]
      rfl
    · split
      · next same => rw [same, read, Entry.noted, if_neg taken]
      · rfl

theorem noteClaim_deletion (unlinked : claim.2 = none) (deletion : category = .deletion) :
    noteClaim media category stamp now claim = .ok now := by
  unfold noteClaim
  rw [unlinked, deletion]
  rfl

theorem noteClaim_unlinked (unlinked : claim.2 = none) (edit : category ≠ .deletion) :
    noteClaim media category stamp now claim = (now.1.enrolChanged claim.1 media).bind (fun s =>
      (s.mark now.1.entries.next category stamp).bind (fun marked => .ok (marked.1, now.2 ++ [marked.2]))) := by
  have skip : ¬ (category == .deletion) = true := by simpa using edit
  unfold noteClaim
  rw [unlinked]
  rw [if_neg skip]
  rfl

theorem noteClaim_taken (path : String) (unlinked : claim.2 = none) (edit : category ≠ .deletion)
    (claimed : now.1.claimedPath media claim.1 = some path)
    (taken : now.1.pathTaken now.1.entries.next claim.1 path = true) :
    noteClaim media category stamp now claim ≠ .ok after := by
  intro done
  rw [noteClaim_unlinked media category stamp now claim unlinked edit] at done
  obtain ⟨enrolled, inserted, _⟩ := bind_ok.mp done
  obtain ⟨free, _⟩ := insertEntry_ok
    ((now.1.enrolChanged_claimed enrolled claimed).mp inserted)
  exact Bool.false_ne_true (free.symm.trans taken)

theorem noteClaim_enrols {path : String} (unlinked : claim.2 = none) (edit : category ≠ .deletion)
    (claimed : now.1.claimedPath media claim.1 = some path)
    (free : now.1.pathTaken now.1.entries.next claim.1 path = false) :
    ∃ recorded, noteClaim media category stamp now claim = .ok recorded ∧
      (∀ other, other ≠ now.1.entries.next → recorded.1.entries.get other = now.1.entries.get other) ∧
      (∃ row, recorded.1.entries.get now.1.entries.next = some row ∧ row.job = claim.1) ∧
      recorded.1.claimedPath = now.1.claimedPath := by
  rw [noteClaim_unlinked media category stamp now claim unlinked edit]
  obtain ⟨fresh, own, inserted⟩ : ∃ fresh : Entry, fresh.job = claim.1 ∧
      now.1.enrolChanged claim.1 media = .ok { now.1 with entries := now.1.entries.insert fresh } := by
    refine ⟨{ inserted claim.1 path with media := some media, dirty := .new }, rfl, ?_⟩
    rw [now.1.enrolChanged_claimed _ claimed, insertEntry]
    exact (if_neg (by rw [Bool.not_eq_true]; exact free)).trans rfl
  obtain ⟨t, outcome, marked, entries, claims⟩ := mark_succeeds { now.1 with entries := now.1.entries.insert fresh } category stamp
    (get_insert_next _ _)
  refine ⟨(t, now.2 ++ [outcome]), bind_ok.mpr ⟨_, inserted, bind_ok.mpr ⟨_, marked, rfl⟩⟩, ?_, ?_, claims⟩
  · intro other different
    rw [entries, get_modify_of_ne different, get_insert, if_neg different]
  · refine ⟨fresh.mark category stamp, ?_, (fresh.mark_job category stamp).trans own⟩
    rw [entries, get_modify_self, get_insert_next]
    rfl

theorem Entry.noted_job (entry : Entry) : (entry.noted category stamp).job = entry.job := by
  unfold noted
  split
  · exact entry.mark_job category stamp
  · rfl

theorem noteClaim_same (job : Nat) (linked : ∀ id, claim.2 = some id → ∃ row, now.1.entries.get id = some row ∧ row.job ≠ job)
    (claimed : ∃ path, now.1.claimedPath media claim.1 = some path)
    (unlinked : claim.2 = none → category ≠ .deletion → claim.1 ≠ job)
    (done : noteClaim media category stamp now claim = .ok after) : SameFor job now.1 after.1 := by
  cases link : claim.2 with
  | some id =>
    obtain ⟨row, read, foreign⟩ := linked id link
    obtain ⟨recorded, noted, entries, claims⟩ := noteClaim_linked media category stamp now claim link read
    rw [done] at noted
    cases noted
    refine ⟨fun other found own => ?_, claims⟩
    rw [entries other]
    split
    · next same =>
      rw [same, read]
      have kept := row.noted_job category stamp
      constructor
      · intro equal
        cases equal
        exact absurd (kept.symm.trans own) foreign
      · intro equal
        cases equal
        exact absurd own foreign
    · rfl
  | none =>
    by_cases deletion : category = .deletion
    · rw [noteClaim_deletion media category stamp now claim link deletion] at done
      cases done
      exact .refl job now.1
    · obtain ⟨path, claimed⟩ := claimed
      have free : now.1.pathTaken now.1.entries.next claim.1 path = false := by
        by_contra taken
        exact noteClaim_taken media category stamp now after claim path link deletion claimed
          (Bool.not_eq_false _ ▸ taken) done
      obtain ⟨recorded, noted, others, ⟨fresh, added, own⟩, claims⟩ :=
        noteClaim_enrols media category stamp now claim link deletion claimed free
      rw [done] at noted
      cases noted
      refine ⟨fun other found held => ?_, claims⟩
      by_cases next : other = now.1.entries.next
      · rw [next, added, get_of_next_le _ _ (Nat.le_refl _)]
        constructor
        · intro equal
          cases equal
          exact absurd (own.symm.trans held) (unlinked link deletion)
        · exact nofun
      · rw [others other next]

end Recording

section Note
variable (s : Store) (media : Nat) (category : ChangeCategory) (stamp : EditEvent)

theorem entryLinkedAt_unique (unique : s.PathsUnique) (job : Nat) {id : Nat} (path : String) {row : Entry}
    (read : s.entries.get id = some row) (own : row.job = job) (here : row.relativePath = path) :
    s.entryLinkedAt job media path = if row.media = some media then some (id, row) else none := by
  split
  · next linked =>
    refine first?_unique _ read (by simp [own, here, linked]) (fun other found present chosen => ?_)
    simp only [Bool.and_eq_true, beq_iff_eq] at chosen
    exact unique other id found row present read (chosen.1.1.trans own.symm) (chosen.2.trans here.symm)
  · next unlinked =>
    cases hit : s.entryLinkedAt job media path with
    | none => rfl
    | some found =>
      obtain ⟨present, chosen⟩ := first?_some hit
      simp only [Bool.and_eq_true, beq_iff_eq] at chosen
      have same := unique found.1 id found.2 row present read (chosen.1.1.trans own.symm)
        (chosen.2.trans here.symm)
      rw [same, read] at present
      cases present
      exact absurd chosen.1.2 unlinked

theorem claim_ready (now : Store) {claim : Nat × Option Nat} (member : claim ∈ s.claims media)
    (same : SameFor claim.1 s now) : (∃ path, now.claimedPath media claim.1 = some path ∧
      claim.2 = (s.entryLinkedAt claim.1 media path).map Prod.fst) ∧
    ∀ id, claim.2 = some id → ∃ row, now.entries.get id = some row ∧ s.entries.get id = some row ∧ row.job = claim.1 := by
  obtain ⟨path, claimed, link⟩ := (s.mem_claims media claim.1 claim.2).mp member
  refine ⟨⟨path, by rw [same.claims]; exact claimed, link⟩, fun id linked => ?_⟩
  rw [link] at linked
  obtain ⟨found, hit, rfl⟩ := Option.map_eq_some_iff.mp linked
  obtain ⟨present, chosen⟩ := first?_some hit
  simp only [Bool.and_eq_true, beq_iff_eq] at chosen
  exact ⟨found.2, (same.entries found.1 found.2 chosen.1.1).mpr present, present, chosen.1.1⟩

theorem claim_others {now after : Store × List DirtyOutcome} {claim : Nat × Option Nat}
    (member : claim ∈ s.claims media) (same : SameFor claim.1 s now.1)
    (done : noteClaim media category stamp now claim = .ok after) (job : Nat) (different : claim.1 ≠ job) :
    SameFor job now.1 after.1 := by
  obtain ⟨⟨path, claimed, _⟩, ready⟩ := claim_ready s media now.1 member same
  refine noteClaim_same media category stamp now after claim job (fun id linked => ?_) ⟨path, claimed⟩
    (fun _ _ => different) done
  obtain ⟨row, read, _, own⟩ := ready id linked
  exact ⟨row, read, own ▸ different⟩

theorem note_turn {last : Store × List DirtyOutcome} (done : (s.claims media).foldlM (noteClaim media category stamp) (s, []) = .ok last)
    {claim : Nat × Option Nat} (member : claim ∈ s.claims media) :
    ∃ now after, SameFor claim.1 s now.1 ∧ noteClaim media category stamp now claim = .ok after ∧ SameFor claim.1 after.1 last.1 := by
  let inv (rest : List (Nat × Option Nat)) (now : Store × List DirtyOutcome) : Prop :=
    (rest.map Prod.fst).Nodup ∧ (∀ other ∈ rest, other ∈ s.claims media ∧ SameFor other.1 s now.1) ∧
      (claim ∈ rest ∨ claim.1 ∉ rest.map Prod.fst ∧ ∃ before after, SameFor claim.1 s before.1 ∧
        noteClaim media category stamp before claim = .ok after ∧ SameFor claim.1 after.1 now.1)
  have finish : inv [] last := by
    refine loop_remaining inv ?_
      ⟨s.claims_distinct media, fun other found => ⟨found, .refl _ s⟩, .inl member⟩ done
    rintro item rest now after ⟨distinct, ready, turn⟩ stepped
    obtain ⟨absent, distinct⟩ := nodup_cons.mp distinct
    obtain ⟨own, same⟩ := ready item mem_cons_self
    have others : ∀ job ∈ rest.map Prod.fst, SameFor job now.1 after.1 := fun job listed =>
      claim_others s media category stamp own same stepped job (fun equal => absent (equal ▸ listed))
    refine ⟨distinct, fun other found => ?_, ?_⟩
    · obtain ⟨listed, kept⟩ := ready other (mem_cons_of_mem _ found)
      exact ⟨listed, kept.trans _ _ _ _ (others other.1 (mem_map_of_mem found))⟩
    · rcases turn with waiting | ⟨passed, before, noted, start, took, kept⟩
      · rcases mem_cons.mp waiting with head | tail
        · rw [head]
          exact .inr ⟨absent, now, after, same, stepped, .refl _ _⟩
        · exact .inl tail
      · rw [map_cons, mem_cons, not_or] at passed
        have foreign := claim_others s media category stamp own same stepped claim.1
          (fun equal => passed.1 equal.symm)
        exact .inr ⟨passed.2, before, noted, start, took, kept.trans _ _ _ _ foreign⟩
  rcases finish.2.2 with never | ⟨_, turn⟩
  · cases never
  · exact turn

theorem note_succeeds (unique : s.PathsUnique)
    (linked : ∀ job path id row, s.claimedPath media job = some path → s.entries.get id = some row → row.job = job →
      row.relativePath = path → row.media = some media) :
    ∃ last, (s.claims media).foldlM (noteClaim media category stamp) (s, []) = .ok last := by
  refine loop_succeeds _ (fun rest now => (rest.map Prod.fst).Nodup ∧
    ∀ other ∈ rest, other ∈ s.claims media ∧ SameFor other.1 s now.1) ?_ (s.claims media) (s, [])
    ⟨s.claims_distinct media, fun other found => ⟨found, .refl _ s⟩⟩
  rintro item rest now ⟨distinct, ready⟩
  obtain ⟨absent, distinct⟩ := nodup_cons.mp distinct
  obtain ⟨own, same⟩ := ready item mem_cons_self
  obtain ⟨⟨path, claimed, link⟩, rows⟩ := claim_ready s media now.1 own same
  have succeeds : ∃ after, noteClaim media category stamp now item = .ok after := by
    cases target : item.2 with
    | some id =>
      obtain ⟨row, read, _, _⟩ := rows id target
      obtain ⟨recorded, noted, _⟩ := noteClaim_linked media category stamp now item target read
      exact ⟨recorded, noted⟩
    | none =>
      by_cases deletion : category = .deletion
      · exact ⟨now, noteClaim_deletion media category stamp now item target deletion⟩
      · have free : now.1.pathTaken now.1.entries.next item.1 path = false := by
          refine Table.any_eq_false.mpr (fun id row present => ?_)
          by_contra taken
          simp only [Bool.not_eq_false, Bool.and_eq_true, beq_iff_eq] at taken
          have read := (same.entries id row taken.1.2).mp present
          have here := linked item.1 path id row (same.claims ▸ claimed) read taken.1.2 taken.2
          rw [target, entryLinkedAt_unique s media unique item.1 path read taken.1.2 taken.2, if_pos here] at link
          cases link
        obtain ⟨recorded, noted, _⟩ := noteClaim_enrols media category stamp now item target deletion claimed free
        exact ⟨recorded, noted⟩
  obtain ⟨after, noted⟩ := succeeds
  refine ⟨after, noted, distinct, fun other found => ?_⟩
  obtain ⟨listed, kept⟩ := ready other (mem_cons_of_mem _ found)
  refine ⟨listed, kept.trans _ _ _ _ (claim_others s media category stamp own same noted other.1 ?_)⟩
  exact fun equal => absent (equal ▸ mem_map_of_mem found)

theorem note_on (on : s.recording = true) : s.note media category stamp =
    ((s.claims media).foldlM (noteClaim media category stamp) (s, [])).bind (fun noted => .ok (noted.1, noted.2.head?)) := by
  simp only [recording, Bool.and_eq_true, Option.isNone_iff_eq_none] at on
  unfold note
  rw [if_neg (by simp [on.1, on.2])]
  rfl

theorem note_off (off : s.recording = false) : s.note media category stamp = .ok (s, none) := by
  have skipped : (s.reset.isSome || !s.localChangesEnabled) = true := by
    simp only [recording, Bool.and_eq_false_iff] at off
    rcases off with pending | disabled
    · cases reset : s.reset with
      | none => simp [reset] at pending
      | some => rfl
    · simp [disabled]
  unfold note
  rw [if_pos skipped]

end Note

-- The change is on the entry that every job in charge already has at the path, and no such job has a new entry. A row
-- takes it as note's own gates have it: while changes are recorded, and on a retired row only a deletion.
def RecordedInPlace (s t : Store) (media : Nat) (category : ChangeCategory) (stamp : EditEvent) : Prop :=
  ∀ job path id row, s.claimedPath media job = some path → s.entries.get id = some row → row.job = job → row.relativePath = path →
    t.entries.get id = some (if s.recording then row.noted category stamp else row) ∧
      ∀ other added, t.entries.get other = some added → added.job = job → ∃ old, s.entries.get other = some old

theorem recording_succeeds_iff (s : Store) (unique : s.EntriesUnique) (media : Nat) (category : ChangeCategory) (stamp : EditEvent) :
    (∃ t outcome, s.note media category stamp = .ok (t, outcome) ∧ RecordedInPlace s t media category stamp) ↔
      (s.recording = true → ∀ job path id row, s.claimedPath media job = some path → s.entries.get id = some row →
        row.job = job → row.relativePath = path → row.media = some media) := by
  by_cases on : s.recording = true
  · rw [note_on s media category stamp on]
    constructor
    · rintro ⟨t, outcome, done, recorded⟩ _ job path id row claimed read own here
      by_contra foreign
      obtain ⟨last, loop, rest⟩ := bind_ok.mp done
      cases rest
      have link := entryLinkedAt_unique s media unique.path job path read own here
      rw [if_neg foreign] at link
      have member : (job, none) ∈ s.claims media := (s.mem_claims media job none).mpr ⟨path, claimed, by rw [link]; rfl⟩
      obtain ⟨now, after, start, noted, rest⟩ := note_turn s media category stamp loop member
      by_cases deletion : category = .deletion
      · -- The deletion is dropped, and the row stays as it was.
        rw [noteClaim_deletion media category stamp now (job, none) rfl deletion] at noted
        cases noted
        have kept := (rest.entries id row own).mpr ((start.entries id row own).mpr read)
        have taken := (recorded job path id row claimed read own here).1
        rw [kept, if_pos on, deletion, Entry.noted, if_pos (by simp [Entry.takes])] at taken
        have same : row = row.mark .deletion stamp := Option.some.inj taken
        have version : row.localVersion = row.localVersion + 1 := congrArg Entry.localVersion same
        omega
      · -- A second entry at the path would be one too many.
        refine noteClaim_taken media category stamp now after (job, none) path rfl deletion
          (by rw [start.claims]; exact claimed) ?_ noted
        have present := (start.entries id row own).mpr read
        refine Table.any_iff.mpr ⟨id, row, present, ?_⟩
        simp [own, here, Nat.ne_of_lt (Table.lt_next present)]
    · intro linked
      obtain ⟨last, loop⟩ := note_succeeds s media category stamp unique.path (linked on)
      refine ⟨last.1, last.2.head?, bind_ok.mpr ⟨last, loop, rfl⟩, ?_⟩
      intro job path id row claimed read own here
      have link := entryLinkedAt_unique s media unique.path job path read own here
      rw [if_pos (linked on job path id row claimed read own here)] at link
      have member : (job, some id) ∈ s.claims media := (s.mem_claims media job (some id)).mpr ⟨path, claimed, by rw [link]; rfl⟩
      obtain ⟨now, after, start, noted, rest⟩ := note_turn s media category stamp loop member
      obtain ⟨_, again, entries, _⟩ := noteClaim_linked media category stamp now (job, some id) rfl
        ((start.entries id row own).mpr read)
      rw [noted] at again
      cases again
      refine ⟨?_, fun other added present held => ?_⟩
      · rw [if_pos on]
        refine (rest.entries id _ ((row.noted_job category stamp).trans own)).mpr ?_
        rw [entries id, if_pos rfl]
      · have before := (rest.entries other added held).mp present
        rw [entries other] at before
        split at before
        · next same => exact ⟨row, same ▸ read⟩
        · exact ⟨added, (start.entries other added held).mp before⟩
  · have off : s.recording = false := Bool.eq_false_iff.mpr on
    constructor
    · exact fun _ claimed => absurd claimed on
    · intro _
      refine ⟨s, none, note_off s media category stamp off, fun job path id row _ read _ _ => ?_⟩
      exact ⟨by rw [if_neg on]; exact read, fun other added present _ => ⟨added, present⟩⟩

theorem Store.EntriesUnique.of_rows (s : Store) (rows : ∀ one ∈ s.entries.rows, ∀ other ∈ s.entries.rows, one.2.job = other.2.job →
      one.2.relativePath = other.2.relativePath ∨ one.2.photoId.isSome = true ∧ one.2.photoId = other.2.photoId →
      one.1 = other.1) : s.EntriesUnique := by
  constructor
  · intro first second one other here there job path
    exact rows (first, one) ((get_eq_some _ _ _).mp here) (second, other) ((get_eq_some _ _ _).mp there) job
      (.inl path)
  · intro first second one other here there job bound photo
    exact rows (first, one) ((get_eq_some _ _ _).mp here) (second, other) ((get_eq_some _ _ _).mp there) job
      (.inr ⟨Option.isSome_iff_ne_none.mpr bound, photo⟩)

theorem second_edit_is_recorded_in_place :
    ∃ t outcome, (run (Command.execute Sample.platform) .empty Sample.opening).note 1 .metadata Sample.stamp = .ok (t, outcome) ∧
      RecordedInPlace (run (Command.execute Sample.platform) .empty Sample.opening) t 1 .metadata Sample.stamp := by
  have unique : (run (Command.execute Sample.platform) .empty Sample.opening).EntriesUnique := .of_rows _ (by decide +kernel)
  refine (recording_succeeds_iff _ unique 1 .metadata Sample.stamp).mpr (fun _ job path id row _ read _ _ => ?_)
  have linked : ∀ found ∈ (run (Command.execute Sample.platform) .empty Sample.opening).entries.rows,
    found.2.media = some 1 := by decide +kernel
  exact linked (id, row) ((Table.get_eq_some _ _ _).mp read)

def Sample.rebuiltIndex : List Command := Sample.opening ++ [.resetLibraryDatabase, .insertMediaItem Sample.item]

theorem rebuilt_index_blocks_recording : (run (Command.execute Sample.platform) .empty Sample.rebuiltIndex).EntriesUnique ∧
    (run (Command.execute Sample.platform) .empty Sample.rebuiltIndex).claimedPath 2 1 = some "a" ∧
    ((run (Command.execute Sample.platform) .empty Sample.rebuiltIndex).entries.get 1).map Entry.relativePath = some "a" ∧
    ∀ t outcome, (run (Command.execute Sample.platform) .empty Sample.rebuiltIndex).note 2 .metadata Sample.stamp ≠
      .ok (t, outcome) := by
  refine ⟨.of_rows _ (by decide +kernel), by decide +kernel, by decide +kernel, fun t outcome done => ?_⟩
  have failed : ((run (Command.execute Sample.platform) .empty Sample.rebuiltIndex).note 2 .metadata
    Sample.stamp).isOk = false := by decide +kernel
  rw [done] at failed
  cases failed

end PhotoSync
