import PhotoSync.Runs.Links
import PhotoSync.Runs.Placed

set_option autoImplicit false

namespace PhotoSync
open Relational Transaction Store Table

def Supported (names : String → Prop) (keep : Nat → Entry → Prop) (s : Store) : Prop :=
  ∀ id row, s.publications.get id = some row → row.unfinished = true ∨ names row.publicationId →
    ∃ entry record, row.entry = some entry ∧ s.entries.get entry = some record ∧ keep entry record

variable {s t : Store} {policy : IntentPolicy} {id : String}
variable {names fewer : String → Prop} {keep weaker : Nat → Entry → Prop} {details : RecoveryDetails}

theorem Supported.mono (supported : Supported names keep s) (listed : ∀ name, fewer name → names name)
    (implies : ∀ id row, keep id row → weaker id row) : Supported fewer weaker s := by
  intro id row read counts
  obtain ⟨entry, record, link, found, kept⟩ := supported id row read (counts.imp_right (listed _))
  exact ⟨entry, record, link, found, implies entry record kept⟩

structure Respects (platform : Platform) (policy : IntentPolicy) (names : String → Prop) (keep : Nat → Entry → Prop) : Prop where
  listed : ∀ job photo, policy.schedule job photo → names (Store.publicationName platform job photo)
  job : ∀ before after, policy.carry before after → SameJob before after
  carry : ∀ id before after, policy.carry before after → keep id before → keep id after
  spared : ∀ id row, policy.drop id row → ¬ keep id row
  fresh : ∀ id row photo, policy.schedule row.job photo → row.photoId = some photo.photoId → row.dirty ≠ .delete → keep id row

theorem deleteEntries_supported (test : Nat → Entry → Bool) (names : String → Prop) (keep : Nat → Entry → Prop)
    (supported : Supported names keep s)
    (spared : ∀ id row, s.entries.get id = some row → test id row = true → ¬ keep id row) :
    Supported names keep (s.deleteEntries test) := by
  intro id row read counts
  simp only [deleteEntries, get_update, Option.map_eq_some_iff] at read
  obtain ⟨old, present, rfl⟩ := read
  obtain ⟨entry, record, link, found, kept⟩ := supported id old present counts
  have stays : (s.entries.delete test).get entry = some record := by
    rw [get_delete, found]
    by_cases picked : test entry record = true
    · exact absurd kept (spared entry record found picked)
    · simp [picked]
  exact ⟨entry, record, Option.filter_eq_some_iff.mpr ⟨link, by rw [stays]; rfl⟩, stays, kept⟩

theorem IntentStep.supported {platform : Platform} (respects : Respects platform policy names keep)
    (distinct : s.Identified) (linked : Linked s)
    (supported : Supported names keep s) (step : IntentStep platform policy s t) : Supported names keep t := by
  cases step with
  | frame _ carried lowered =>
    intro id row read counts
    obtain ⟨old, present, same⟩ := lowered.publications id row read
    obtain ⟨entry, record, link, found, kept⟩ := supported id old present
      (counts.imp same.unfinished (fun listed => by rw [← same.publicationId]; exact listed))
    obtain ⟨later, stays, changed⟩ := carried entry record found
    exact ⟨entry, later, same.entry.trans link, stays, respects.carry entry record later changed kept⟩
  | drop test allowed =>
    exact deleteEntries_supported test names keep supported
      (fun id row read picked => respects.spared id row (allowed id row read picked))
  | schedule _ job entry localVersion decision record found own bound kept allowed done =>
    obtain ⟨capture, fresh, schedule⟩ := schedulePlacement_ok done
    intro id row read counts
    rw [schedule.entries]
    cases schedule.row distinct id row read with
    | other old present different same =>
      subst same
      have lowered := standDown_lowered job decision.photo.photoId (publicationName platform job decision.photo) old
      obtain ⟨other, there, link, stays, worthy⟩ := supported id old present
        (counts.imp lowered.unfinished (fun listed => by rw [← lowered.publicationId]; exact listed))
      exact ⟨other, there, lowered.entry.trans link, stays, worthy⟩
    | named old present known same =>
      subst same
      obtain ⟨other, there, link, stays, worthy⟩ := supported id old present
        (.inr (by rw [known]; exact respects.listed job decision.photo allowed))
      exact ⟨other, there, (reschedule_from capture old).entry.trans link, stays, worthy⟩
    | fresh missing same =>
      obtain ⟨_, _, linkedTo, _⟩ := schedule.opened
      subst same
      exact ⟨entry, record, linkedTo, found, respects.fresh entry record decision.photo (by rw [own]; exact allowed) bound kept⟩
  | resources => exact supported
  | positions _ allowed entries publications =>
    unfold Supported
    rw [entries, publications]
    exact supported
  | jobs test =>
    intro id row read counts
    obtain ⟨present, outside⟩ := deleteJobs_row read
    simp only [deleteEntries, get_update, Option.map_eq_some_iff] at present
    obtain ⟨old, there, rfl⟩ := present
    obtain ⟨entry, record, link, found, kept⟩ := supported id old there counts
    obtain ⟨again, reads, own⟩ := linked id old entry there link
    rw [found, Option.some.injEq] at reads
    subst reads
    have stays : (s.entries.delete (fun _ entry => (s.jobs.get entry.job).any (test entry.job))).get entry = some record := by
      rw [get_delete, found, Option.filter_some, own]
      simp [outside]
    exact ⟨entry, record, Option.filter_eq_some_iff.mpr ⟨link, by rw [stays]; rfl⟩, stays, kept⟩
  | wipe _ allowed publications =>
    intro id row read
    rw [publications] at read
    cases read

structure Rooted (names : String → Prop) (keep : Nat → Entry → Prop) (s : Store) : Prop where
  distinct : s.publications.Distinct Publication.publicationId
  linked : Linked s
  supported : Supported names keep s

theorem Rooted.mono (rooted : Rooted names keep s) (listed : ∀ name, fewer name → names name)
    (implies : ∀ id row, keep id row → weaker id row) : Rooted fewer weaker s :=
  ⟨rooted.distinct, rooted.linked, rooted.supported.mono listed implies⟩

theorem Intends.rooted {platform : Platform} (path : Intends platform policy s t)
    (respects : Respects platform policy names keep) (rooted : Rooted names keep s) : Rooted names keep t := by
  refine path.keeps (Rooted names keep) (fun before after kept step => ?_) rooted
  exact ⟨(Intends.single step).distinct kept.distinct, step.linked respects.job kept.distinct kept.linked,
    step.supported respects kept.distinct kept.linked kept.supported⟩

def Attached : Store → Prop := Rooted (fun _ => False) (fun _ _ => True)

theorem Rooted.attached (rooted : Rooted names keep s) : Attached s := rooted.mono (fun _ => False.elim) (fun _ _ _ => trivial)

theorem Attached.empty : Attached .empty where
  distinct := distinct_empty _
  linked := fun _ _ _ read => (by cases read)
  supported := fun _ _ read => (by cases read)

def promotedName (platform : Platform) (job : Nat) (graph : RemoteGraph) (name : String) : Bool :=
  graph.photos.any (fun photo => name == Store.publicationName platform job photo)

def outlives (tombstones : List String) (row : Entry) : Bool :=
  row.photoId.isSome && !(row.dirty == .delete && tombstones.any (fun name => row.photoId == some name))

def supports (s : Store) (test : Entry → Bool) (row : Publication) : Bool := (row.entry.bind s.entries.get).any test

def leavesNoOrphan (platform : Platform) (s : Store) : Command → Bool
  | .promote job graph _ _ => !s.publications.any (fun _ row =>
    (row.unfinished || promotedName platform job graph row.publicationId) && !supports s (outlives graph.tombstones) row)
  | .saveDeltaPage .. => !s.publications.any (fun _ row => row.unfinished && !supports s (outlives []) row)
  | .userAction job entry _ _ .useCloud _ _ => ((s.openConflict entry).bind (fun found => found.2.remote)).all (fun photo =>
    !s.publications.any (fun _ row => row.publicationId == Store.publicationName platform job photo && row.entry.isNone))
  | .confirm _ operation _ _ => operation.phase != .delete
      || !s.publications.any (fun _ row => row.unfinished && row.entry == some operation.entry)
  | .confirmAbsentDeletion _ entry _ _ => !s.publications.any (fun _ row => row.unfinished && row.entry == some entry)
  | .beginPublication request => request.entry.isSome && namesOwnEntry s (.beginPublication request)
  | .publishing id _ => !s.publications.any (fun _ row => row.publicationId == id && row.entry.isNone)
  | _ => true

theorem supports_iff (test : Entry → Bool) {row : Publication} (holds : supports s test row = true) :
    ∃ entry record, row.entry = some entry ∧ s.entries.get entry = some record ∧ test record = true := by
  obtain ⟨record, found, worthy⟩ := (Option.any_eq_true _ _).mp holds
  obtain ⟨entry, link, read⟩ := Option.bind_eq_some_iff.mp found
  exact ⟨entry, record, link, read, worthy⟩

theorem outlives_received {tombstones : List String} (before after : Entry) (received : Received before after)
    (holds : outlives tombstones before = true) : outlives tombstones after = true := by
  simp only [outlives, Bool.and_eq_true, Bool.not_eq_true', Bool.and_eq_false_iff, beq_eq_false_iff_ne] at holds ⊢
  have same := received.bound holds.1
  rw [same]
  refine ⟨holds.1, ?_⟩
  rcases holds.2 with alive | unnamed
  · exact .inl (fun deleting => alive (received.delete deleting))
  · exact .inr unnamed

theorem outlives_not_placeholder (tombstones : List String) (row : Entry) (holds : outlives tombstones row = true) :
    isPlaceholderEntry row = false := by
  simp only [outlives, Bool.and_eq_true, Option.isSome_iff_ne_none] at holds
  simp [isPlaceholderEntry, holds.1]

def receivingPolicy (schedule : Nat → RemotePhoto → Prop) (positions : Prop) : IntentPolicy :=
  ⟨Received, fun _ row => Store.isPlaceholderEntry row = true, schedule, positions, False⟩

theorem receiving_respects {platform : Platform} (schedule : Nat → RemotePhoto → Prop) (positions : Prop)
    (names : String → Prop) (tombstones : List String)
    (listed : ∀ job photo, schedule job photo → names (publicationName platform job photo)) :
    Respects platform (receivingPolicy schedule positions) names (fun _ row => outlives tombstones row = true) where
  listed := listed
  job := fun _ _ received => received.job
  carry := fun _ => outlives_received
  spared := fun _ row placeholder worthy =>
    Bool.false_ne_true ((outlives_not_placeholder _ row worthy).symm.trans placeholder)
  fresh := fun _ row photo _ bound kept => by simp [outlives, bound, kept]

theorem receivingPolicy_receives (schedule : Nat → RemotePhoto → Prop) (positions : Prop) :
    ReceivePolicy (receivingPolicy schedule positions) :=
  ⟨fun _ _ received => received, fun _ _ placeholder => placeholder⟩

theorem promote_attached {platform : Platform} {job : Nat} {graph : RemoteGraph} {target : String}
    {digests : LocalDigests} (attached : Attached s)
    (careful : leavesNoOrphan platform s (.promote job graph target digests) = true)
    (done : promote platform s job graph target digests = .ok t) : Attached t := by
  obtain ⟨progress, _, projected, photos, promoted, _, rest⟩ := bind3_ok done
  let buryPolicy : IntentPolicy := ⟨Buried, fun _ row => (∃ name ∈ graph.tombstones, row.photoId = some name) ∧
    row.dirty = .delete, fun _ _ => False, True, False⟩
  have start : Rooted (fun name => promotedName platform job graph name = true)
      (fun _ row => outlives graph.tombstones row = true) s := by
    refine ⟨attached.distinct, attached.linked, fun id row read counts => supports_iff _ ?_⟩
    simp only [leavesNoOrphan, Bool.not_eq_true'] at careful
    have held := any_eq_false.mp careful id row read
    rcases counts with unfinished | named
    · simpa [unfinished] using held
    · simpa [named] using held
  have receiving := receiving_respects (fun owner photo => owner = job ∧ photo ∈ graph.photos) False
    (fun name => promotedName platform job graph name = true) graph.tombstones (by
      rintro owner photo ⟨rfl, member⟩
      exact List.any_eq_true.mpr ⟨photo, member, beq_self_eq_true _⟩)
  have first : Intends platform (receivingPolicy (fun owner photo => owner = job ∧ photo ∈ graph.photos) False) s projected :=
    .loop _ _ (fun photo member _ _ stepped =>
      promotePhoto_intends (receivingPolicy_receives _ _) ⟨rfl, member⟩ stepped) photos
  have middle : Rooted (fun _ => False) (fun _ row => row.dirty = .delete → ∀ name ∈ graph.tombstones,
      row.photoId ≠ some name) projected := (first.rooted receiving start).mono (fun _ => False.elim) (by
      intro _ row worthy deleting name member named
      have some : graph.tombstones.any (fun other => row.photoId == Option.some other) = true :=
        List.any_eq_true.mpr ⟨name, member, beq_iff_eq.mpr named⟩
      simp [outlives, deleting, some] at worthy)
  have burying : Respects platform buryPolicy (fun _ => False) (fun _ row =>
      row.dirty = .delete → ∀ name ∈ graph.tombstones, row.photoId ≠ some name) := by
    refine ⟨fun _ _ => False.elim, fun _ _ buried => buried.job, ?_, ?_, fun _ _ _ => False.elim⟩
    · intro _ before after buried worthy deleting name member
      obtain ⟨earlier, same⟩ := buried.delete deleting
      rw [same]
      exact worthy earlier name member
    · rintro _ row ⟨⟨name, member, named⟩, deleting⟩ worthy
      exact worthy deleting name member named
  have moved : ∀ (u : Store) (change : NativeProgress → NativeProgress), (∀ row, (change row).job = row.job) →
      (∀ row, (change row).databaseGeneration = row.databaseGeneration) →
      Intends platform buryPolicy u (u.updateProgress job change) :=
    fun u change own kept => updateProgress_intends u job change trivial own kept
  have buried : Intends platform buryPolicy projected _ := buryRecords_intends job progress.databaseGeneration projected
    graph.tombstones graph.tombstones ⟨fun _ _ => id, fun _ _ named deleting => ⟨named, deleting⟩⟩ (fun _ member => member)
  have second := buried.trans (reopenShared_intends _ job progress.databaseGeneration)
  have targeted := second.trans (moved _ (fun row => { row with targetToken := some target }) (fun _ => rfl) (fun _ => rfl))
  split at rest <;> cases rest
  · exact ((targeted.trans (moved _ (fun row => { row with appliedToken := row.targetToken }) (fun _ => rfl)
      (fun _ => rfl))).rooted burying middle).attached
  · exact (targeted.rooted burying middle).attached

theorem saveDeltaPage_attached {platform : Platform} {job : Nat} {records : List NativeRecord} {next : String}
    (attached : Attached s) (careful : leavesNoOrphan platform s (.saveDeltaPage job records next) = true)
    (done : saveDeltaPage platform s job records next = .ok t) : Attached t := by
  obtain ⟨progress, _, staged, stored, rest⟩ := bind2_ok done
  cases rest
  have start : Rooted (fun _ => False) (fun _ row => outlives [] row = true) s := by
    refine ⟨attached.distinct, attached.linked, fun id row read counts => supports_iff _ ?_⟩
    simp only [leavesNoOrphan, Bool.not_eq_true'] at careful
    have unfinished := counts.resolve_right not_false
    simpa [unfinished] using any_eq_false.mp careful id row read
  have path : Intends platform (receivingPolicy (fun _ _ => False) True) s staged := .loop _ _ (fun record _ _ _ stepped =>
    stageRecord_intends (receivingPolicy_receives _ _) stepped) stored
  exact ((path.trans (updateProgress_intends staged job _ trivial (fun _ => by rfl) (fun _ => by rfl))).rooted
    (receiving_respects _ _ _ [] (fun _ _ => False.elim)) start).attached

theorem discardPendingDeletions_attached (s : Store) (job : Nat) (attached : Attached s) (platform : Platform) :
    Attached (s.discardPendingDeletions job) := by
  let policy : IntentPolicy := ⟨SameJob, fun _ row => row.job = job ∧ row.dirty = .delete, fun _ _ => False, True, False⟩
  have path : Intends platform policy s (s.discardPendingDeletions job) :=
    discardPendingDeletions_intends s trivial (fun _ _ => id) (fun _ _ own deleting => ⟨own, deleting⟩)
  have linked := path.keeps (fun u => u.Identified ∧ Linked u)
    (fun before after kept step => ⟨(Intends.single step).distinct kept.1, step.linked (fun _ _ => id) kept.1 kept.2⟩)
    ⟨attached.distinct, attached.linked⟩
  refine ⟨linked.1, linked.2, ?_⟩
  unfold discardPendingDeletions
  split
  · refine deleteEntries_supported
      (fun _ row => row.job == job && row.dirty == .delete) (fun _ => False)
      (fun _ row => (row.job == job && row.dirty == .delete) = false) ?_ ?_ |>.mono (fun _ => id) (fun _ _ _ => trivial)
    · intro id row read counts
      rw [get_delete, Option.filter_eq_some_iff] at read
      obtain ⟨entry, record, link, found, _⟩ := attached.supported id row read.1 counts
      refine ⟨entry, record, link, found, ?_⟩
      have outside := read.2
      simp only [link, found, Option.any_some, Bool.not_eq_true'] at outside
      exact outside
    · intro _ row _ picked spared
      rw [picked] at spared
      cases spared
  · exact attached.supported

theorem beginPublication_attached {request : Store.PublicationRequest} {platform : Platform} (attached : Attached s)
    (careful : leavesNoOrphan platform s (.beginPublication request) = true) : Attached (s.beginPublication request) := by
  obtain ⟨entry, named⟩ := Option.isSome_iff_exists.mp ((Bool.and_eq_true _ _).mp careful).1
  have requested : request.entry.all (fun id => (s.entries.get id).isSome) = true → ∃ record, s.entries.get entry = some record := by
    intro exists_
    rw [named, Option.all_some] at exists_
    exact Option.isSome_iff_exists.mp exists_
  refine ⟨beginPublication_distinct request attached.distinct,
    beginPublication_linked attached.distinct attached.linked ((Bool.and_eq_true _ _).mp careful).2, ?_⟩
  intro id row read counts
  rw [beginPublication_entries]
  cases beginPublication_row attached.distinct read with
  | other old present different same =>
    subst same
    have lowered := standDown_lowered request.job request.photo request.publication old
    obtain ⟨other, record, link, found, _⟩ := attached.supported id old present (counts.imp_left lowered.unfinished)
    exact ⟨other, record, lowered.entry.trans link, found, trivial⟩
  | named old present held same =>
    rcases same with rfl | ⟨exists_, rfl⟩
    · exact attached.supported id row present counts
    · obtain ⟨record, found⟩ := requested exists_
      exact ⟨entry, record, named, found, trivial⟩
  | fresh exists_ missing same =>
    subst same
    obtain ⟨record, found⟩ := requested exists_
    exact ⟨entry, record, named, found, trivial⟩

theorem publishing_supported {platform : Platform} (attached : Attached s)
    (careful : leavesNoOrphan platform s (.publishing id details) = true) (done : s.publishing id details = .ok t) :
    Supported (fun _ => False) (fun _ _ => True) t := by
  obtain ⟨_, _, _, rfl⟩ := publishing_ok done
  simp only [leavesNoOrphan, Bool.not_eq_true'] at careful
  intro key row read counts
  simp only [updatePublication, get_update, Option.map_eq_some_iff] at read ⊢
  obtain ⟨old, present, changed⟩ := read
  by_cases mine : old.publicationId = id
  · have linked := any_eq_false.mp careful key old present
    rw [beq_iff_eq.mpr mine, Bool.true_and, Option.isNone_eq_false_iff, Option.isSome_iff_exists] at linked
    obtain ⟨entry, link⟩ := linked
    obtain ⟨record, found, _⟩ := attached.linked key old entry present link
    rw [if_pos (beq_iff_eq.mpr mine)] at changed
    subst changed
    exact ⟨entry, record, link, found, trivial⟩
  · rw [if_neg (fun equal => mine (beq_iff_eq.mp equal))] at changed
    subst changed
    exact attached.supported key old present counts

theorem beginCollision_supported {capture : Capture} (attached : Attached s)
    (done : s.beginCollision id capture details = .ok t) : Supported (fun _ => False) (fun _ _ => True) t := by
  obtain ⟨checked, _, rfl⟩ := beginCollision_ok done
  obtain ⟨record, found, _⟩ := checkPublication_own checked
  intro key row read counts
  rw [get_insert] at read
  split at read
  · cases read
    exact ⟨capture.entry, record, rfl, found, trivial⟩
  · exact attached.supported key row read counts

theorem Attached.quiet (platform : Platform) (s t : Store) (command : Command) (attached : Attached s)
    (done : command.execute platform s = .ok t) (indirect : command.addresses = false)
    (spares : ∀ id row, ¬ (command.intentsOf s).drop id row)
    (unscheduled : ∀ job photo, ¬ (command.intentsOf s).schedule job photo) : Attached t := by
  refine (Command.execute_intends indirect done).rooted ?_ attached
  exact ⟨fun job photo scheduled => absurd scheduled (unscheduled job photo), intentsOf_carry,
    fun _ _ _ _ _ => trivial, fun id row dropped => absurd dropped (spares id row), fun _ _ _ _ _ _ => trivial⟩

theorem Attached.drops (platform : Platform) (s t : Store) (command : Command) (attached : Attached s)
    (done : command.execute platform s = .ok t) (indirect : command.addresses = false) (dropped : Nat → Prop)
    (only : ∀ id row, (command.intentsOf s).drop id row → dropped id)
    (unscheduled : ∀ job photo, ¬ (command.intentsOf s).schedule job photo)
    (free : ∀ id row entry, s.publications.get id = some row → row.unfinished = true → row.entry = some entry →
      ¬ dropped entry) : Attached t := by
  have start : Rooted (fun _ => False) (fun id _ => ¬ dropped id) s := by
    refine ⟨attached.distinct, attached.linked, fun id row read counts => ?_⟩
    obtain ⟨entry, record, link, found, _⟩ := attached.supported id row read counts
    exact ⟨entry, record, link, found, free id row entry read (counts.resolve_right not_false) link⟩
  refine ((Command.execute_intends indirect done).rooted ?_ start).attached
  exact ⟨fun job photo scheduled => absurd scheduled (unscheduled job photo), intentsOf_carry,
    fun _ _ _ _ kept => kept, fun id row gone kept => kept (only id row gone),
    fun _ row photo scheduled => absurd scheduled (unscheduled row.job photo)⟩

theorem userAction_attached {platform : Platform} {job entry version : Nat} {document : Option ConflictDocument}
    {action : PhotoAction} {recovery : Option String} {stamp : EditEvent} (attached : Attached s)
    (careful : leavesNoOrphan platform s (.userAction job entry version document action recovery stamp) = true)
    (done : Command.execute platform s (.userAction job entry version document action recovery stamp) = .ok t) :
    Attached t := by
  let chosen : RemotePhoto → Prop := fun photo => action = .useCloud ∧
    ∃ found, s.openConflict entry = some found ∧ found.2.remote = some photo
  have start : Rooted (fun name => ∃ photo, chosen photo ∧ name = publicationName platform job photo)
      (fun _ _ => True) s := by
    refine ⟨attached.distinct, attached.linked, fun id row read counts => ?_⟩
    rcases counts with unfinished | ⟨photo, ⟨rfl, found, conflict, remote⟩, named⟩
    · exact attached.supported id row read (.inl unfinished)
    · simp only [leavesNoOrphan, conflict, Option.bind_some, remote, Option.all_some, Bool.not_eq_true'] at careful
      have linked := any_eq_false.mp careful id row read
      rw [beq_iff_eq.mpr named, Bool.true_and, Option.isNone_eq_false_iff, Option.isSome_iff_exists] at linked
      obtain ⟨owner, link⟩ := linked
      obtain ⟨record, stays, _⟩ := attached.linked id row owner read link
      exact ⟨owner, record, link, stays, trivial⟩
  refine ((Command.execute_intends rfl done).rooted ?_ start).attached
  refine ⟨?_, fun _ _ same => same, fun _ _ _ _ _ => trivial, fun _ _ gone => gone.elim, fun _ _ _ _ _ _ => trivial⟩
  rintro owner photo ⟨rfl, picked⟩
  exact ⟨photo, picked, rfl⟩

theorem execute_attached {platform : Platform} {command : Command} (attached : Attached s)
    (careful : leavesNoOrphan platform s command = true) (done : command.execute platform s = .ok t) : Attached t := by
  have elsewhere : t.entries = s.entries → t.publications = s.publications → Attached t := by
    intro entries publications
    unfold Attached at attached ⊢
    refine ⟨?_, ?_, ?_⟩
    · rw [publications]
      exact attached.distinct
    · unfold Linked
      rw [entries, publications]
      exact attached.linked
    · unfold Supported
      rw [entries, publications]
      exact attached.supported
  have unowed : ∀ entry, (!s.publications.any (fun _ row => row.unfinished && row.entry == some entry)) = true →
      ∀ id row other, s.publications.get id = some row → row.unfinished = true → row.entry = some other → other ≠ entry := by
    intro entry free id row other read unfinished link same
    rw [Bool.not_eq_true'] at free
    have held := any_eq_false.mp free id row read
    simp [unfinished, link, same] at held
  cases command with
  | promote => exact promote_attached attached careful done
  | saveDeltaPage => exact saveDeltaPage_attached attached careful done
  | userAction =>
    exact userAction_attached attached careful done
  | confirm epoch operation =>
    refine attached.drops platform s t _ done rfl (fun id => id = operation.entry ∧ operation.phase = .delete)
      (fun _ _ gone => gone) (fun _ _ => not_false) ?_
    intro id row entry read unfinished link ⟨same, deletes⟩
    simp only [leavesNoOrphan, deletes, bne_self_eq_false, Bool.false_or] at careful
    exact unowed operation.entry careful id row entry read unfinished link same
  | confirmAbsentDeletion epoch entry =>
    exact attached.drops platform s t _ done rfl (fun id => id = entry) (fun _ _ gone => gone) (fun _ _ => not_false)
      (fun id row other read unfinished link same => unowed entry careful id row other read unfinished link same)
  | discardPendingDeletions job =>
    cases done
    exact discardPendingDeletions_attached s job attached platform
  | beginPublication =>
    cases done
    exact beginPublication_attached attached careful
  | publishing =>
    exact ⟨execute_distinct attached.distinct done, execute_linked attached.distinct attached.linked rfl done,
      publishing_supported attached careful done⟩
  | beginCollision =>
    exact ⟨execute_distinct attached.distinct done, execute_linked attached.distinct attached.linked rfl done,
      beginCollision_supported attached done⟩
  | beginReceive =>
    cases done
    unfold beginReceive at elsewhere ⊢
    dsimp only at elsewhere ⊢
    refine elsewhere ?_ ?_ <;> split <;> split <;> rfl
  | stageResource | verifyResource =>
    obtain ⟨_, _, rest⟩ := bind_ok.mp done
    cases rest
    exact elsewhere rfl rfl
  | failResource =>
    cases done
    exact elsewhere rfl rfl
  | _ => exact attached.quiet platform s t _ done rfl (fun _ _ => not_false) (fun _ _ => not_false)

-- In every run that drops no entry with an unfinished publication, every unfinished publication refers to an entry.
theorem no_orphaned_obligation (platform : Platform) (commands : List Command)
    (careful : Meets (Command.execute platform) (fun s command => leavesNoOrphan platform s command = true) .empty
      commands) (id : Nat) (row : Publication)
    (read : (run (Command.execute platform) .empty commands).publications.get id = some row)
    (unfinished : row.unfinished = true) :
    ∃ entry record, row.entry = some entry ∧ (run (Command.execute platform) .empty commands).entries.get entry = some record := by
  have attached : Attached (run (Command.execute platform) .empty commands) :=
    run_keeps Attached (fun before command after attached met done =>
      execute_attached attached met done) .empty careful
  obtain ⟨entry, record, link, found, _⟩ := attached.supported id row read (.inl unfinished)
  exact ⟨entry, record, link, found⟩

namespace Sample

def removing : List Command := [.deleteLiveMediaByPaths [⟨"/p/b", false, 0, fun _ => stamp⟩]]

def burying : List Command := [.promote 1 ⟨[], [], ["photo"]⟩ "C" []]

end Sample

open Sample in
theorem placed_photo_leaves_no_orphan : ∃ row, (run (Command.execute telling) .empty (connecting ++ placed "A" ++ removing ++
      burying ++ receiving "B")).publications.get 2 = some row ∧ row.unfinished = true ∧
    ∃ entry record, row.entry = some entry ∧ (run (Command.execute telling) .empty (connecting ++
      placed "A" ++ removing ++ burying ++ receiving "B")).entries.get entry = some record := by
  have found : ((run (Command.execute telling) .empty (connecting ++ placed "A" ++ removing ++
      burying ++ receiving "B")).publications.get 2).any (fun row => row.unfinished) = true := by
    decide +kernel
  obtain ⟨row, read, unfinished⟩ := (Option.any_eq_true _ _).mp found
  exact ⟨row, read, unfinished, no_orphaned_obligation telling _ (by decide +kernel) 2 row read unfinished⟩

-- A version is still to be placed when its photo is removed on both sides.
open Sample in
theorem tombstone_orphans_publication : ((run (Command.execute telling) .empty (connecting ++ placed "A" ++ receiving "B" ++
      removing ++ burying)).publications.get 2).any (fun row => row.unfinished && row.entry.isNone) = true := by
  decide +kernel

end PhotoSync
