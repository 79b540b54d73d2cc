import PhotoSync.Runs.Links
import PhotoSync.Runs.Placed

set_option autoImplicit false

namespace PhotoSync
open Relational Transaction Store Table Command

def Publication.projects (row : Publication) (photo : RemotePhoto) : Prop :=
  ∃ capture, row.capture = some capture ∧ capture.projection = some photo

def Publication.projected (row : Publication) : Bool := row.capture.any (fun capture => capture.projection.isSome)

theorem Publication.projected_iff (row : Publication) : row.projected = true ↔ ∃ photo, row.projects photo := by
  unfold Publication.projected Publication.projects
  constructor
  · intro holds
    obtain ⟨capture, captured, some⟩ := (Option.any_eq_true _ _).mp holds
    obtain ⟨photo, projection⟩ := Option.isSome_iff_exists.mp some
    exact ⟨photo, capture, captured, projection⟩
  · rintro ⟨photo, capture, captured, projection⟩
    simp [captured, projection]

def Publication.intends (row : Publication) (job : Nat) (photo : String) : Prop :=
  row.job = job ∧ row.photoId = some photo ∧ row.projected = true ∧ row.unfinished = true

def OneIntent (table : Table Publication) : Prop :=
  ∀ job photo first second before after, table.get first = some before → table.get second = some after →
    before.intends job photo → after.intends job photo → first = second

structure WellNamed (platform : Platform) (table : Table Publication) : Prop where
  named : ∀ id row capture photo, table.get id = some row → row.capture = some capture →
    capture.projection = some photo → row.publicationId = Store.publicationName platform row.job photo ∧
      row.photoId = some photo.photoId ∧ capture.job = row.job
  captured : ∀ id row, table.get id = some row → row.state = .publishing → row.capture.isSome = true

structure Clear (job : Nat) (photo name : String) (table : Table Publication) : Prop where
  own : ∀ id row, table.get id = some row → row.publicationId = name → row.job = job ∧ row.photoId = some photo
  idle : ∀ id row, table.get id = some row → row.state = .publishing → row.projected = true → row.job = job →
    row.photoId = some photo → row.publicationId = name

def clearFor (table : Table Publication) (job : Nat) (photo name : String) : Bool :=
  !table.any (fun _ row => row.publicationId == name && !(row.job == job && row.photoId == some photo))
    && !table.any (fun _ row => row.state == .publishing && row.projected && row.job == job && row.photoId == some photo
      && row.publicationId != name)

variable {platform : Platform} {job entry : Nat} {capture : Capture} {decision : Entry.Settlement}
  {fresh : Publication} {photo : RemotePhoto} {details : RecoveryDetails}

theorem clear_of {table : Table Publication} {photo name : String} (holds : clearFor table job photo name = true) :
    Clear job photo name table := by
  simp only [clearFor, Bool.and_eq_true, Bool.not_eq_true'] at holds
  constructor
  · intro id row read named
    simpa [named] using any_eq_false.mp holds.1 id row read
  · intro id row read publishing projected own same
    simpa [publishing, projected, own, same] using any_eq_false.mp holds.2 id row read

structure Orderly (platform : Platform) (schedule : Nat → RemotePhoto → Prop) (table : Table Publication) : Prop where
  distinct : table.Distinct Publication.publicationId
  names : WellNamed platform table
  one : OneIntent table
  clear : ∀ job photo, schedule job photo → Clear job photo.photoId (Store.publicationName platform job photo) table

theorem OneIntent.of_origin (before after : Table Publication) (one : OneIntent before)
    (origin : ∀ id row job photo, after.get id = some row → row.intends job photo →
      ∃ old, before.get id = some old ∧ old.intends job photo) : OneIntent after := by
  intro job photo first second row found readFirst readSecond intends also
  obtain ⟨old, present, earlier⟩ := origin first row job photo readFirst intends
  obtain ⟨other, there, likewise⟩ := origin second found job photo readSecond also
  exact one job photo first second old other present there earlier likewise

-- SHA-256 in hexadecimal has one length.
def Platform.FixedDigest (platform : Platform) : Prop :=
  ∀ photo other, (platform.photoSha256 photo).length = (platform.photoSha256 other).length

variable {s t : Store} {localVersion : Nat} {command : Command} {id : String} {other : RemotePhoto}

theorem publicationName_photo (fixed : platform.FixedDigest)
    (same : publicationName platform job photo = publicationName platform job other) : photo.photoId = other.photoId := by
  unfold publicationName at same
  have lists := congrArg String.toList same
  simp only [String.toList_append, List.append_assoc, List.append_cancel_left_eq] at lists
  have tails : (platform.photoSha256 photo).toList.length = (platform.photoSha256 other).toList.length := by
    rw [String.length_toList, String.length_toList]
    exact fixed photo other
  have split := List.append_inj_left' lists (by simp [tails])
  exact String.toList_inj.mp split

theorem Loosened.intends {before after : Publication} (loosened : Loosened before after) (job : Nat) (photo : String)
    (intends : after.intends job photo) : before.intends job photo := by
  obtain ⟨own, same, projected, unfinished⟩ := intends
  refine ⟨loosened.job.symm.trans own, loosened.photoId.symm.trans same, ?_, loosened.unfinished unfinished⟩
  unfold Publication.projected at projected ⊢
  rw [← loosened.capture]
  exact projected

theorem Orderly.loosen (platform : Platform) (schedule : Nat → RemotePhoto → Prop) (before after : Table Publication)
    (orderly : Orderly platform schedule before) (loosens : Loosens before after) : Orderly platform schedule after where
  distinct := distinct_of_origin _ orderly.distinct (fun id row read => by
    obtain ⟨old, present, loosened⟩ := loosens id row read
    exact ⟨old, present, loosened.publicationId⟩)
  names := by
    constructor
    · intro id row capture photo read captured projection
      obtain ⟨old, present, loosened⟩ := loosens id row read
      rw [loosened.publicationId, loosened.photoId, loosened.job]
      exact orderly.names.named id old capture photo present (loosened.capture.symm.trans captured) projection
    · intro id row read publishing
      obtain ⟨old, present, loosened⟩ := loosens id row read
      rw [loosened.capture]
      exact orderly.names.captured id old present (loosened.publishing publishing)
  one := by
    refine orderly.one.of_origin _ _ (fun id row job photo read intends => ?_)
    obtain ⟨old, present, loosened⟩ := loosens id row read
    exact ⟨old, present, loosened.intends job photo intends⟩
  clear := by
    intro job photo allowed
    constructor
    · intro id row read named
      obtain ⟨old, present, loosened⟩ := loosens id row read
      rw [loosened.job, loosened.photoId]
      exact (orderly.clear job photo allowed).own id old present (loosened.publicationId.symm.trans named)
    · intro id row read publishing projected own same
      obtain ⟨old, present, loosened⟩ := loosens id row read
      rw [loosened.publicationId]
      refine (orderly.clear job photo allowed).idle id old present (loosened.publishing publishing) ?_
        (loosened.job.symm.trans own) (loosened.photoId.symm.trans same)
      unfold Publication.projected at projected ⊢
      rw [← loosened.capture]
      exact projected

theorem reschedule_publishing (capture : Capture) {row : Publication} (captured : row.capture.isSome = true)
    (publishing : row.state = .publishing) : (reschedule capture row).capture = row.capture := by
  simp [reschedule, setCapture, publishing, captured]

section
variable (schedule : Schedule platform s t job entry localVersion decision capture fresh)

include schedule

theorem Schedule.named_row (distinct : s.Identified)
    (clear : Clear job decision.photo.photoId (publicationName platform job decision.photo) s.publications)
    {id : Nat} {row : Publication} (read : t.publications.get id = some row)
    (named : row.publicationId = publicationName platform job decision.photo) :
    row.job = job ∧ row.photoId = some decision.photo.photoId := by
  cases schedule.row distinct id row read with
  | other old present different same =>
    subst same
    exact absurd ((standDown_lowered _ _ _ old).publicationId.symm.trans named) different
  | named old present held same =>
    subst same
    have frame := reschedule_from capture old
    rw [frame.job, frame.photoId]
    exact clear.own id old present held
  | fresh missing same =>
    obtain ⟨_, own, _, photo, _⟩ := schedule.opened
    subst same
    exact ⟨own, photo⟩

theorem Schedule.intends_named (distinct : s.Identified)
    (clear : Clear job decision.photo.photoId (publicationName platform job decision.photo) s.publications)
    {id : Nat} {row : Publication} (read : t.publications.get id = some row)
    (intends : row.intends job decision.photo.photoId) :
    row.publicationId = publicationName platform job decision.photo := by
  cases schedule.row distinct id row read with
  | other old present different same =>
    subst same
    have lowered := (standDown_lowered job decision.photo.photoId (publicationName platform job decision.photo) old)
    obtain ⟨own, photo, projected, unfinished⟩ := lowered.loosened.intends _ _ intends
    have quiet := standDown_not_pending own photo different
    have publishing : (standDown job decision.photo.photoId (publicationName platform job decision.photo) old).state = .publishing := by
      have still := intends.2.2.2
      simp only [Publication.unfinished, Bool.or_eq_true, beq_iff_eq] at still
      exact still.resolve_left quiet
    exact absurd (clear.idle id old present (lowered.publishing publishing) projected own photo) different
  | named old present held same =>
    subst same
    exact (reschedule_from capture old).publicationId.trans held
  | fresh missing same =>
    subst same
    exact schedule.opened.1

theorem Schedule.intends_other (distinct : s.Identified)
    (clear : Clear job decision.photo.photoId (publicationName platform job decision.photo) s.publications)
    {id : Nat} {row : Publication} {owner : Nat} {photo : String} (read : t.publications.get id = some row)
    (other : ¬ (owner = job ∧ photo = decision.photo.photoId)) (intends : row.intends owner photo) :
    ∃ old, s.publications.get id = some old ∧ old.intends owner photo := by
  cases schedule.row distinct id row read with
  | other old present different same =>
    subst same
    exact ⟨old, present, (standDown_lowered _ _ _ old).loosened.intends owner photo intends⟩
  | named old present held same =>
    have mine := schedule.named_row distinct clear read (by
      rw [same]
      exact (reschedule_from capture old).publicationId.trans held)
    exact absurd ⟨intends.1.symm.trans mine.1, Option.some.inj (intends.2.1.symm.trans mine.2)⟩ other
  | fresh missing same =>
    have mine := schedule.named_row distinct clear read (by rw [same]; exact schedule.opened.1)
    exact absurd ⟨intends.1.symm.trans mine.1, Option.some.inj (intends.2.1.symm.trans mine.2)⟩ other

theorem Schedule.one (distinct : s.Identified)
    (clear : Clear job decision.photo.photoId (publicationName platform job decision.photo) s.publications)
    (one : OneIntent s.publications) : OneIntent t.publications := by
  intro owner photo first second row found readFirst readSecond intends also
  by_cases scheduled : owner = job ∧ photo = decision.photo.photoId
  · obtain ⟨rfl, rfl⟩ := scheduled
    refine schedule.distinct distinct first second row found readFirst readSecond ?_
    rw [schedule.intends_named distinct clear readFirst intends, schedule.intends_named distinct clear readSecond also]
  · obtain ⟨old, present, before⟩ := schedule.intends_other distinct clear readFirst scheduled intends
    obtain ⟨earlier, there, alike⟩ := schedule.intends_other distinct clear readSecond scheduled also
    exact one owner photo first second old earlier present there before alike

theorem Schedule.names (distinct : s.Identified)
    (clear : Clear job decision.photo.photoId (publicationName platform job decision.photo) s.publications)
    (names : WellNamed platform s.publications) : WellNamed platform t.publications := by
  obtain ⟨ours, _, _, _, projects⟩ := schedule.captured
  obtain ⟨name, own, _, photoId, _, _, pending, holds⟩ := schedule.opened
  constructor
  · intro id row held photo read captured projection
    cases schedule.row distinct id row read with
    | other old present different same =>
      subst same
      have lowered := standDown_lowered job decision.photo.photoId (publicationName platform job decision.photo) old
      rw [lowered.publicationId, lowered.photoId, lowered.job]
      exact names.named id old held photo present (lowered.capture.symm.trans captured) projection
    | named old present known same =>
      subst same
      have frame := reschedule_from capture old
      obtain ⟨mine, alike⟩ := clear.own id old present known
      rw [frame.publicationId, frame.photoId, frame.job]
      rcases reschedule_capture capture old with kept | replaced
      · exact names.named id old held photo present (kept.symm.trans captured) projection
      · rw [replaced, Option.some.injEq] at captured
        subst captured
        rw [projects, Option.some.injEq] at projection
        subst projection
        exact ⟨known.trans (by rw [mine]), alike, ours.trans mine.symm⟩
    | fresh missing same =>
      subst same
      rw [holds, Option.some.injEq] at captured
      subst captured
      rw [projects, Option.some.injEq] at projection
      subst projection
      exact ⟨name.trans (by rw [own]), photoId, ours.trans own.symm⟩
  · intro id row read publishing
    cases schedule.row distinct id row read with
    | other old present different same =>
      subst same
      have lowered := standDown_lowered job decision.photo.photoId (publicationName platform job decision.photo) old
      rw [lowered.capture]
      exact names.captured id old present (lowered.publishing publishing)
    | named old present known same =>
      subst same
      have state := (reschedule_from capture old).publishing publishing
      have held := names.captured id old present state
      rw [reschedule_publishing capture held state]
      exact held
    | fresh missing same =>
      subst same
      rw [pending] at publishing
      cases publishing

end

theorem Schedule.clear (fixed : platform.FixedDigest) (schedule : Schedule platform s t job entry localVersion decision capture fresh)
    (distinct : s.Identified) (names : WellNamed platform s.publications)
    (photo : RemotePhoto) (clear : Clear job photo.photoId (publicationName platform job photo) s.publications) :
    Clear job photo.photoId (publicationName platform job photo) t.publications := by
  obtain ⟨name, own, _, photoId, _, _, pending, _⟩ := schedule.opened
  constructor
  · intro id row read named
    cases schedule.row distinct id row read with
    | other old present different same =>
      subst same
      have lowered := standDown_lowered job decision.photo.photoId (publicationName platform job decision.photo) old
      rw [lowered.job, lowered.photoId]
      exact clear.own id old present (lowered.publicationId.symm.trans named)
    | named old present known same =>
      subst same
      have frame := reschedule_from capture old
      rw [frame.job, frame.photoId]
      exact clear.own id old present (frame.publicationId.symm.trans named)
    | fresh missing same =>
      subst same
      refine ⟨own, photoId.trans ?_⟩
      rw [publicationName_photo fixed (name.symm.trans named)]
  · intro id row read publishing projected mine alike
    cases schedule.row distinct id row read with
    | other old present different same =>
      subst same
      have lowered := standDown_lowered job decision.photo.photoId (publicationName platform job decision.photo) old
      rw [lowered.publicationId]
      refine clear.idle id old present (lowered.publishing publishing) ?_ (lowered.job.symm.trans mine)
        (lowered.photoId.symm.trans alike)
      unfold Publication.projected at projected ⊢
      rw [← lowered.capture]
      exact projected
    | named old present known same =>
      subst same
      have frame := reschedule_from capture old
      have state := frame.publishing publishing
      rw [frame.publicationId]
      refine clear.idle id old present state ?_ (frame.job.symm.trans mine) (frame.photoId.symm.trans alike)
      unfold Publication.projected at projected ⊢
      rw [← reschedule_publishing capture (names.captured id old present state) state]
      exact projected
    | fresh missing same =>
      subst same
      rw [pending] at publishing
      cases publishing

theorem Orderly.schedule {schedule : Nat → RemotePhoto → Prop} (fixed : platform.FixedDigest)
    (single : ∀ owner photo, schedule owner photo → owner = job) (orderly : Orderly platform schedule s.publications)
    (allowed : schedule job decision.photo)
    (scheduled : Schedule platform s t job entry localVersion decision capture fresh) :
    Orderly platform schedule t.publications where
  distinct := scheduled.distinct orderly.distinct
  names := scheduled.names orderly.distinct (orderly.clear _ _ allowed) orderly.names
  one := scheduled.one orderly.distinct (orderly.clear _ _ allowed) orderly.one
  clear := by
    intro owner photo also
    have clear := orderly.clear owner photo also
    rw [single owner photo also] at clear ⊢
    exact scheduled.clear fixed orderly.distinct orderly.names photo clear

theorem beginPublication_one {request : Store.PublicationRequest} (distinct : s.Identified)
    (clear : Clear request.job request.photo request.publication s.publications) (one : OneIntent s.publications) :
    OneIntent (s.beginPublication request).publications := by
  have named : ∀ id row, (s.beginPublication request).publications.get id = some row →
      row.intends request.job request.photo → row.publicationId = request.publication := by
    intro id row read intends
    cases beginPublication_row distinct read with
    | other old present different same =>
      subst same
      have lowered := standDown_lowered request.job request.photo request.publication old
      obtain ⟨own, photo, projected, _⟩ := lowered.loosened.intends _ _ intends
      have quiet := standDown_not_pending own photo different
      have publishing : (standDown request.job request.photo request.publication old).state = .publishing := by
        have still := intends.2.2.2
        simp only [Publication.unfinished, Bool.or_eq_true, beq_iff_eq] at still
        exact still.resolve_left quiet
      exact absurd (clear.idle id old present (lowered.publishing publishing) projected own photo) different
    | named old present held same =>
      rcases same with rfl | ⟨_, rfl⟩
      · exact held
      · exact held
    | fresh linked missing same =>
      subst same
      rfl
  intro job photo first second row found readFirst readSecond intends also
  by_cases requested : job = request.job ∧ photo = request.photo
  · obtain ⟨rfl, rfl⟩ := requested
    refine beginPublication_distinct request distinct first second row found readFirst readSecond ?_
    rw [named first row readFirst intends, named second found readSecond also]
  · have before : ∀ id row, (s.beginPublication request).publications.get id = some row → row.intends job photo →
        ∃ old, s.publications.get id = some old ∧ old.intends job photo := by
      intro id row read intends
      cases beginPublication_row distinct read with
      | other old present different same =>
        subst same
        exact ⟨old, present, (standDown_lowered _ _ _ old).loosened.intends job photo intends⟩
      | named old present held same =>
        rcases same with rfl | ⟨_, rfl⟩
        · exact ⟨row, present, intends⟩
        · obtain ⟨own, mine⟩ := clear.own id old present held
          exact absurd ⟨intends.1.symm.trans own, Option.some.inj (intends.2.1.symm.trans mine)⟩ requested
      | fresh linked missing same =>
        subst same
        cases intends.2.2.1
    obtain ⟨old, present, earlier⟩ := before first row readFirst intends
    obtain ⟨other, there, likewise⟩ := before second found readSecond also
    exact one job photo first second old other present there earlier likewise

theorem beginPublication_names (request : Store.PublicationRequest)
    (distinct : s.Identified) (names : WellNamed platform s.publications) :
    WellNamed platform (s.beginPublication request).publications := by
  constructor
  · intro id row capture photo read captured projection
    cases beginPublication_row distinct read with
    | other old present different same =>
      subst same
      have lowered := standDown_lowered request.job request.photo request.publication old
      rw [lowered.publicationId, lowered.photoId, lowered.job]
      exact names.named id old capture photo present (lowered.capture.symm.trans captured) projection
    | named old present held same =>
      rcases same with rfl | ⟨_, rfl⟩
      · exact names.named id row capture photo present captured projection
      · exact names.named id old capture photo present captured projection
    | fresh linked missing same =>
      subst same
      cases captured
  · intro id row read publishing
    cases beginPublication_row distinct read with
    | other old present different same =>
      subst same
      have lowered := standDown_lowered request.job request.photo request.publication old
      rw [lowered.capture]
      exact names.captured id old present (lowered.publishing publishing)
    | named old present held same =>
      rcases same with rfl | ⟨_, rfl⟩
      · exact names.captured id row present publishing
      · refine names.captured id old present ?_
        unfold beginAgain at publishing
        split at publishing
        · cases publishing
        · exact publishing
    | fresh linked missing same =>
      subst same
      cases publishing

theorem checkPublication_owner (linked : Linked s) (names : WellNamed platform s.publications)
    (projection : capture.projection = some photo) (checked : s.checkPublication capture = .ok ()) :
    ∃ id row, s.publications.get id = some row ∧ row.intends capture.job photo.photoId ∧
      row.publicationId = publicationName platform capture.job photo := by
  obtain ⟨record, found, own⟩ := checkPublication_own checked
  obtain ⟨_, _, rest⟩ := bind_ok.mp checked
  rw [ensure_ok, projection] at rest
  simp only [Option.isNone_some, Bool.false_or, beq_iff_eq] at rest
  obtain ⟨⟨id, row⟩, last, held⟩ := Option.bind_eq_some_iff.mp rest
  obtain ⟨other, captured, projects⟩ := Option.bind_eq_some_iff.mp held
  obtain ⟨read, test⟩ := last?_some last
  simp only [Bool.and_eq_true, beq_iff_eq] at test
  obtain ⟨named, mine, _⟩ := names.named id row other photo read captured projects
  obtain ⟨later, there, ours⟩ := linked id row capture.entry read test.1.1
  have job : row.job = capture.job := by
    rw [found, Option.some.injEq] at there
    rw [← ours, ← there, own]
  refine ⟨id, row, read, ⟨job, mine, ?_, test.2⟩, by rw [named, job]⟩
  exact row.projected_iff.mpr ⟨photo, other, captured, projects⟩

theorem publishing_intends (distinct : s.Identified) (linked : Linked s)
    (names : WellNamed platform s.publications) (done : s.publishing id details = .ok t) (key : Nat) (row : Publication)
    (job : Nat) (photo : String) (read : t.publications.get key = some row) (intends : row.intends job photo) :
    ∃ old, s.publications.get key = some old ∧ old.intends job photo := by
  obtain ⟨capture, captured, checked, rfl⟩ := publishing_ok done
  obtain ⟨held, owner, present, named, holds⟩ := captureOf_ok captured
  simp only [updatePublication, get_update, Option.map_eq_some_iff] at read
  obtain ⟨old, there, changed⟩ := read
  refine ⟨old, there, ?_⟩
  by_cases mine : old.publicationId = id
  · have same := distinct key held old owner there present (mine.trans named.symm)
    subst same
    rw [there, Option.some.injEq] at present
    subst present
    rw [if_pos (beq_iff_eq.mpr mine)] at changed
    subst changed
    obtain ⟨own, alike, projected, _⟩ := intends
    obtain ⟨version, other, caught, projection⟩ := (Publication.projected_iff _).mp projected
    have which : capture = other := Option.some.inj (holds.symm.trans caught)
    subst which
    obtain ⟨name, _, ours⟩ := names.named key old capture version there holds projection
    obtain ⟨found, first, reads, wants, called⟩ := checkPublication_owner linked names
      projection checked
    have unique := distinct found key first old reads there (by rw [called, name, ours])
    subst unique
    rw [there, Option.some.injEq] at reads
    subst reads
    exact ⟨own, alike, projected, wants.2.2.2⟩
  · rw [if_neg (fun equal => mine (beq_iff_eq.mp equal))] at changed
    subst changed
    exact intends

theorem publishing_names (distinct : s.Identified) (names : WellNamed platform s.publications) (done : s.publishing id details = .ok t) :
    WellNamed platform t.publications := by
  obtain ⟨capture, captured, _, rfl⟩ := publishing_ok done
  obtain ⟨held, owner, present, named, holds⟩ := captureOf_ok captured
  have frame : ∀ key row, (s.updatePublication id (fun row =>
      { row with state := .publishing, details := some details })).publications.get key = some row →
      ∃ old, s.publications.get key = some old ∧ row.capture = old.capture ∧ row.publicationId = old.publicationId ∧
        row.job = old.job ∧ row.photoId = old.photoId ∧ (row.state = old.state ∨ old.publicationId = id) := by
    intro key row read
    simp only [updatePublication, get_update, Option.map_eq_some_iff] at read
    obtain ⟨old, there, rfl⟩ := read
    refine ⟨old, there, ?_⟩
    split
    · next mine => exact ⟨rfl, rfl, rfl, rfl, .inr (beq_iff_eq.mp mine)⟩
    · exact ⟨rfl, rfl, rfl, rfl, .inl rfl⟩
  constructor
  · intro key row capture photo read captured projection
    obtain ⟨old, there, same, name, own, alike, _⟩ := frame key row read
    rw [name, own, alike]
    exact names.named key old capture photo there (same.symm.trans captured) projection
  · intro key row read publishing
    obtain ⟨old, there, same, _, _, _, still⟩ := frame key row read
    rw [same]
    rcases still with kept | mine
    · exact names.captured key old there (kept.symm.trans publishing)
    · have unique := distinct key held old owner there present (mine.trans named.symm)
      subst unique
      rw [there, Option.some.injEq] at present
      rw [present, holds]
      rfl

-- No other version of the photo is being published when one is received, taken
-- or begun; and a name belongs to its photo.
def oneAtATime (platform : Platform) (s : Store) : Command → Bool
  | .promote job graph _ _ => graph.photos.all (fun photo =>
    clearFor s.publications job photo.photoId (Store.publicationName platform job photo))
  | .userAction job entry _ _ .useCloud _ _ => ((s.openConflict entry).bind (fun found => found.2.remote)).all (fun photo =>
    clearFor s.publications job photo.photoId (Store.publicationName platform job photo))
  | .beginPublication request => namesOwnEntry s (.beginPublication request)
    && clearFor s.publications request.job request.photo request.publication
  | .beginCollision _ capture _ => capture.projection.isNone
  | _ => true

theorem oneAtATime_names (careful : oneAtATime platform s command = true) : namesOwnEntry s command = true := by
  cases command with
  | beginPublication => exact ((Bool.and_eq_true _ _).mp careful).1
  | _ => rfl

theorem oneAtATime_clear (careful : oneAtATime platform s command = true) (job : Nat) (photo : RemotePhoto)
    (scheduled : (command.intentsOf s).schedule job photo) :
    Clear job photo.photoId (publicationName platform job photo) s.publications := by
  cases command with
  | promote =>
    obtain ⟨rfl, member⟩ := scheduled
    exact clear_of (List.all_eq_true.mp careful photo member)
  | userAction =>
    obtain ⟨rfl, rfl, found, conflict, remote⟩ := scheduled
    simp only [oneAtATime, conflict, Option.bind_some, remote, Option.all_some] at careful
    exact clear_of careful
  | _ => exact scheduled.elim

theorem intentsOf_single {owner : Nat} (scheduled : (command.intentsOf s).schedule job photo)
    (also : (command.intentsOf s).schedule owner other) : owner = job := by
  cases command with
  | promote | userAction => exact also.1.trans scheduled.1.symm
  | _ => exact scheduled.elim

structure Settled (platform : Platform) (s : Store) : Prop where
  distinct : s.publications.Distinct Publication.publicationId
  names : WellNamed platform s.publications
  one : OneIntent s.publications
  linked : Linked s

theorem Settled.empty (platform : Platform) : Settled platform .empty where
  distinct := distinct_empty _
  names := ⟨fun _ _ _ _ read => (by cases read), fun _ _ read => (by cases read)⟩
  one := fun _ _ _ _ _ _ read => (by cases read)
  linked := fun _ _ _ read => (by cases read)

theorem execute_orderly (fixed : platform.FixedDigest) (settled : Settled platform s)
    (careful : oneAtATime platform s command = true) (done : command.execute platform s = .ok t) :
    Orderly platform (command.intentsOf s).schedule t.publications := by
  have nothing : ∀ {table : Table Publication}, (∀ job photo, ¬ (command.intentsOf s).schedule job photo) →
      table.Distinct Publication.publicationId → WellNamed platform table → OneIntent table →
      Orderly platform (command.intentsOf s).schedule table :=
    fun none distinct names one => ⟨distinct, names, one, fun job photo scheduled => absurd scheduled (none job photo)⟩
  refine command.publications_keep (Orderly platform (command.intentsOf s).schedule)
    ⟨settled.distinct, settled.names, settled.one, oneAtATime_clear careful⟩ done ?_ ?_ ?_ ?_ ?_
  · intro before after kept loosens
    exact kept.loosen _ _ _ _ loosens
  · intro before after job entry localVersion decision capture fresh kept allowed scheduled
    exact kept.schedule fixed (fun owner photo also => intentsOf_single allowed also) allowed scheduled
  · rintro request rfl
    have clear := clear_of ((Bool.and_eq_true _ _).mp careful).2
    exact nothing (fun _ _ => not_false) (beginPublication_distinct request settled.distinct)
      (beginPublication_names request settled.distinct settled.names)
      (beginPublication_one settled.distinct clear settled.one)
  · rintro id capture details rfl collided
    have bare : capture.projection = none := Option.isNone_iff_eq_none.mp careful
    have distinct := execute_distinct settled.distinct done
    obtain ⟨_, _, rfl⟩ := beginCollision_ok collided
    refine nothing (fun _ _ => not_false) distinct ⟨?_, ?_⟩ ?_
    · intro key row held photo read captured projection
      rw [get_insert] at read
      split at read
      · cases read
        cases captured
        rw [bare] at projection
        cases projection
      · exact settled.names.named key row held photo read captured projection
    · intro key row read publishing
      rw [get_insert] at read
      split at read
      · cases read
        rfl
      · exact settled.names.captured key row read publishing
    · refine settled.one.of_origin _ _ (fun key row job photo read intends => ?_)
      rw [get_insert] at read
      split at read
      · cases read
        obtain ⟨version, held, captured, projection⟩ := (Publication.projected_iff _).mp intends.2.2.1
        cases captured
        rw [bare] at projection
        cases projection
      · exact ⟨row, read, intends⟩
  · rintro id details rfl published
    refine nothing (fun _ _ => not_false) (execute_distinct settled.distinct done)
      (publishing_names settled.distinct settled.names published) ?_
    exact settled.one.of_origin _ _ (publishing_intends settled.distinct settled.linked
      settled.names published)

theorem execute_settled (fixed : platform.FixedDigest) (settled : Settled platform s)
    (careful : oneAtATime platform s command = true) (done : command.execute platform s = .ok t) : Settled platform t := by
  have orderly := execute_orderly fixed settled careful done
  exact ⟨orderly.distinct, orderly.names, orderly.one, execute_linked settled.distinct settled.linked
    (oneAtATime_names careful) done⟩

theorem run_settled (fixed : platform.FixedDigest) {commands : List Command}
    (careful : Meets (execute platform) (fun s command => oneAtATime platform s command = true) .empty commands) :
    Settled platform (run (execute platform) .empty commands) :=
  run_keeps (Settled platform) (fun before command after settled met done =>
    execute_settled fixed settled met done) (.empty platform) careful

theorem admission_leaves_none (settled : Settled platform s) {item : NewMediaItem} {stamp : EditEvent}
    {version : RemotePhoto} (captured : s.captureOf id "missing publication capture" = .ok capture)
    (projection : capture.projection = some version) (done : s.admission id photo item stamp = .ok t) (key : Nat)
    (row : Publication) (read : t.publications.get key = some row) : ¬ row.intends capture.job version.photoId := by
  intro intends
  obtain ⟨held, taken, _, checked, _⟩ := bind2_ok done
  rw [captured] at taken
  cases taken
  obtain ⟨found, first, reads, wants, called⟩ := checkPublication_owner settled.linked settled.names projection checked
  obtain ⟨place, owner, present, named, holds⟩ := captureOf_ok captured
  obtain ⟨name, _, ours⟩ := settled.names.named place owner capture version present holds projection
  rw [(admission_receiving done).1] at read
  simp only [updatePublication, get_update, Option.map_eq_some_iff] at read
  obtain ⟨old, there, changed⟩ := read
  by_cases mine : old.publicationId = id
  · rw [if_pos (beq_iff_eq.mpr mine)] at changed
    subst changed
    cases intends.2.2.2
  · rw [if_neg (fun equal => mine (beq_iff_eq.mp equal))] at changed
    subst changed
    have unique := settled.one _ _ key found old first there reads intends wants
    subst unique
    rw [there, Option.some.injEq] at reads
    subst reads
    exact mine (by rw [called, ← named, name, ours])

namespace Sample

theorem telling_fixed : telling.FixedDigest := by
  have length : ∀ photo, (telling.photoSha256 photo).length = 1 := by
    intro photo
    unfold telling
    dsimp only
    split <;> decide
  intro photo other
  rw [length, length]

def publishing (generation : String) : List Command :=
  connecting ++ receiving generation ++ downloading generation ++ [.publishing (nameOf generation) {}]

def placedItem : NewMediaItem := ⟨"file:///p/b", "/p/b", "/p", none, 0, 4⟩

def overtaking : List Command := publishing "A" ++ receiving "B"

end Sample

-- In every run that receives no version of a photo while another is being published, a photo has one unfinished
-- received version at most, and an admission leaves it none.
theorem one_intent_per_photo (platform : Platform) (fixed : platform.FixedDigest) (commands : List Command)
    (careful : Meets (Command.execute platform) (fun s command => oneAtATime platform s command = true) .empty commands) :
    OneIntent (run (Command.execute platform) .empty commands).publications ∧
    ∀ id photo item stamp capture version t,
      (run (Command.execute platform) .empty commands).captureOf id "missing publication capture" = .ok capture →
      capture.projection = some version →
      (run (Command.execute platform) .empty commands).admission id photo item stamp = .ok t →
      ∀ key row, t.publications.get key = some row → ¬ row.intends capture.job version.photoId := by
  have settled := run_settled fixed careful
  refine ⟨settled.one, ?_⟩
  intro id photo item stamp capture version t captured projection done
  exact admission_leaves_none settled captured projection done

open Sample in
theorem admitted_version_was_the_only_one :
    (∃ row, (run (Command.execute telling) .empty (publishing "A")).publications.get 1 = some row ∧ row.intends 1 "photo") ∧
    OneIntent (run (Command.execute telling) .empty (publishing "A")).publications ∧
    ∃ t, (run (Command.execute telling) .empty (publishing "A")).admission (nameOf "A")
      (version "A") Sample.placedItem stamp = .ok t ∧
      ∀ key row, t.publications.get key = some row → ¬ row.intends 1 "photo" := by
  have careful : Meets (Command.execute telling) (fun s command => oneAtATime telling s command = true)
    .empty (publishing "A") := by decide +kernel
  obtain ⟨one, none⟩ := one_intent_per_photo telling telling_fixed (publishing "A") careful
  obtain ⟨capture, captured, holds⟩ := ok_of_any ((run (Command.execute telling) .empty
    (publishing "A")).captureOf (nameOf "A") "missing publication capture")
    (fun capture => capture.projection == some (version "A") && capture.job == 1) (by decide +kernel)
  obtain ⟨t, done, _⟩ := ok_of_any ((run (Command.execute telling) .empty (publishing "A")).admission
    (nameOf "A") (version "A") Sample.placedItem stamp) (fun _ => true) (by decide +kernel)
  have open_ : ((run (Command.execute telling) .empty (publishing "A")).publications.get 1).any (fun row =>
    row.job == 1 && row.photoId == some "photo" && row.projected && row.unfinished) = true := by decide +kernel
  obtain ⟨row, read, intends⟩ := (Option.any_eq_true _ _).mp open_
  simp only [Bool.and_eq_true, beq_iff_eq] at holds intends
  refine ⟨⟨row, read, intends.1.1.1, intends.1.1.2, intends.1.2, intends.2⟩, one, t, done, ?_⟩
  have left := none _ _ _ _ capture (version "A") t captured holds.1 done
  rw [holds.2] at left
  exact left

-- A second version arrives while the first is being published: both are
-- unfinished, and after a rollback the first can be placed over the second.
open Sample in
theorem older_version_placed_over_newer : ¬ OneIntent (run (Command.execute telling) .empty overtaking).publications ∧
    ((run (Command.execute telling) .empty (overtaking ++ [.rollback (nameOf "A")] ++
      downloading "B" ++ placing "B")).entries.get 1).map Entry.baseline = some (some (version "B")) ∧
    ((run (Command.execute telling) .empty (overtaking ++ [.rollback (nameOf "A")] ++
      downloading "B" ++ placing "B" ++ placing "A")).entries.get 1).map Entry.baseline = some (some (version "A")) := by
  refine ⟨fun one => ?_, by decide +kernel, by decide +kernel⟩
  have both : ∀ id ∈ [1, 2], ((run (Command.execute telling) .empty overtaking).publications.get id).any
      (fun row => row.job == 1 && row.photoId == some "photo" && row.projected && row.unfinished) = true := by
    decide +kernel
  have intends : ∀ id ∈ [1, 2], ∃ row, (run (Command.execute telling) .empty overtaking).publications.get id =
      some row ∧ row.intends 1 "photo" := by
    intro id member
    obtain ⟨row, read, holds⟩ := (Option.any_eq_true _ _).mp (both id member)
    simp only [Bool.and_eq_true, beq_iff_eq] at holds
    exact ⟨row, read, holds.1.1.1, holds.1.1.2, holds.1.2, holds.2⟩
  obtain ⟨first, readFirst, wants⟩ := intends 1 (by simp)
  obtain ⟨second, readSecond, also⟩ := intends 2 (by simp)
  cases one 1 "photo" 1 2 first second readFirst readSecond wants also

end PhotoSync
