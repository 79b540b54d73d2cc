import PhotoSync.Store.Projection

set_option autoImplicit false

namespace PhotoSync
open Relational Transaction Store Table

inductive PhotoAction where
  | deleteCloud
  | recreate
  | keepLocal
  | useCloud
deriving DecidableEq, Repr

-- What the decision dialog showed, compared as a whole with what is stored.
structure ConflictDocument where
  reason : String
  remote : Option RemotePhoto
  recovery : Option String
deriving DecidableEq, Repr

def ConflictDocument.buries (document : ConflictDocument) : Bool := document.remote.isNone && document.reason == deletedReason

def Conflict.document (conflict : Conflict) : ConflictDocument := ⟨conflict.reason, conflict.remote, conflict.recovery⟩

namespace Store

def currentRemotePhoto (s : Store) (job : Nat) (photo : String) : Option RemotePhoto :=
  let publication := s.publications.last? (fun _ row => row.job == job && row.photoId == some photo
    && row.capture.any (fun capture => capture.projection.isSome) && (row.state == .pending || row.state == .publishing))
  match publication.bind (fun found => found.2.capture.bind Capture.projection) with
  | some projection => some projection
  | none => (s.entryOfPhoto job photo).bind (fun found => found.2.baseline)

def record (s : Store) (entry : Nat) (category : ChangeCategory) (version : Nat) : Store :=
  { s with journal := s.journal ++ [⟨entry, category, version⟩] }

def requireMedia (s : Store) (entry : Nat) : Result Unit :=
  ensure (((s.entries.get entry).bind s.linkedMedia).any (fun media => media.trashedAt.isNone))
    "restore the local photo before choosing to upload it"

def recreate (s : Store) (entry : Nat) (stamp : EditEvent) : Result Store := do
  s.requireMedia entry
  let row ← requireRow (s.entries.get entry)
  let version := row.localVersion + 1
  return ((s.updateEntry entry (Entry.recreate stamp)).record entry .metadata version).record entry .content version

def retire (s : Store) (entry : Nat) : Store := s.updateEntry entry Entry.retire

def pairOf (photo : RemotePhoto) (job : Nat) (resource : Resource) : Bool :=
  resource.job == job && ((resource.assetId == photo.original.assetId && resource.role == .original)
    || (resource.assetId == photo.thumbnail.assetId && resource.role == .thumbnail))

def retainedPair (s : Store) (job : Nat) (photo : RemotePhoto) : Bool :=
  (s.resources.select (fun _ (row : Resource) => pairOf photo job row
    && (row.state == .staged || row.state == .verified || row.state == .retained))).length == 2

def keepLocal (s : Store) (job entry : Nat) (photo : RemotePhoto) (recovery : Option String) (stamp : EditEvent) : Result Store := do
  s.requireMedia entry
  ensure (s.retainedPair job photo && recovery.isSome)
    "the competing cloud pair must be retained before keeping local content"
  let row ← requireRow (s.entries.get entry)
  let s := { s with resources := s.resources.update (fun _ (resource : Resource) =>
    if pairOf photo job resource && resource.state == ResourceState.staged then { resource with state := .retained } else resource) }
  let s := s.updateEntry entry (Entry.keepLocal stamp)
  let s := (s.record entry .metadata row.localVersion).record entry .content row.localVersion
  return s.setBaseline entry (some photo)

def acceptCloud (s : Store) (job entry : Nat) (photo : RemotePhoto) : Store :=
  { s.updateEntry entry Entry.acceptCloud with
    publications := s.publications.delete (fun _ row => row.entry == some entry && row.state != .publishing)
    resources := s.resources.update (fun _ (resource : Resource) =>
      if pairOf photo job resource then { resource with state := .pending, stagingPath := none } else resource) }

def useCloud (platform : Platform) (s : Store) (job entry : Nat) (photo : RemotePhoto) (recovery : Option String) : Result Store := do
  ensure recovery.isSome "local recovery evidence must be saved before accepting cloud content"
  let (s, _) ← projectPublication platform (s.acceptCloud job entry photo) job photo []
  return s.setBaseline entry (some photo)

def requireRevision (s : Store) (job : Nat) (name message : String) : Result String :=
  match s.recordRevision job name with
  | some revision => .ok revision
  | none => invalid message

def decidePhoto (platform : Platform) (s : Store) (job entry : Nat) (photo : RemotePhoto) (keep : Bool)
    (recovery : Option String) (stamp : EditEvent) : Result Store := do
  ensure (!photo.isHidden) "hidden cloud photos require a supported local representation"
  ensure (s.currentRemotePhoto job photo.photoId == some photo) "cloud projection changed; refresh the conflict"
  let asset ← s.requireRevision job photo.photoId "photo has no asset revision"
  let master ← s.requireRevision job photo.masterId "photo has no master revision"
  let s ← s.setEntryPhoto entry photo.photoId (Entry.bindIdentity photo asset master)
  if keep then s.keepLocal job entry photo recovery stamp else useCloud platform s job entry photo recovery

def decideDeleted (s : Store) (entry : Nat) (reason : String) (keep : Bool) (stamp : EditEvent) : Result Store :=
  if reason == deletedReason then
    if keep then (s.retire entry).recreate entry stamp else .ok (s.retire entry)
  else invalid "this conflict requires recovery before it can be resolved"

def decideOpen (platform : Platform) (s : Store) (job entry : Nat) (conflict : Conflict) (keep : Bool)
    (recovery : Option String) (stamp : EditEvent) : Result Store :=
  match conflict.remote with
  | some photo => decidePhoto platform s job entry photo keep recovery stamp
  | none => s.decideDeleted entry conflict.reason keep stamp

def decideConflict (platform : Platform) (s : Store) (job entry : Nat) (conflict : Option Conflict) (keep : Bool)
    (recovery : Option String) (stamp : EditEvent) : Result Store :=
  match conflict with
  | none => invalid "this conflict was already resolved"
  | some conflict => do
    let s ← decideOpen platform s job entry conflict keep recovery stamp
    return s.resolveConflicts entry (fun _ => true)

def applyAction (platform : Platform) (s : Store) (job entry version : Nat) (conflict : Option ConflictDocument)
    (action : PhotoAction) (recovery : Option String) (stamp : EditEvent) : Result Store := do
  let row ← requireRow ((s.entries.get entry).filter (fun row => row.job == job))
  let current := (s.openConflict entry).map Prod.snd
  ensure (row.localVersion == version && current.map Conflict.document == conflict)
    "photo changed while the decision was open; refresh and retry"
  ensure (!(s.busy entry || s.hasChange job || s.reset.isSome))
    "an operation is still being reconciled; synchronize before choosing a resolution"
  ensure (!(row.dirty == .delete && action != .deleteCloud))
    "the permanent deletion must be confirmed by cloud synchronization first"
  match action with
  | .deleteCloud => do
    ensure ((s.linkedMedia row).isNone) "permanently remove the local file before synchronizing its deletion"
    ensure (!(row.photoId.isNone || current.isSome))
      "cloud deletion requires a confirmed identity without a conflict"
    return (s.updateEntry entry (Entry.deleteCloud stamp)).record entry .deletion (row.localVersion + 1)
  | .recreate => do
    ensure (!(row.photoId.isSome || current.isSome)) "recreation requires a retired identity without a conflict"
    s.recreate entry stamp
  | .keepLocal => decideConflict platform s job entry current true recovery stamp
  | .useCloud => decideConflict platform s job entry current false recovery stamp

end Store

variable {s t bound : Store} {recovery : Option String} {master : String}
variable {entry version job : Nat} {stamp : EditEvent} {row : Entry} {platform : Platform} {photo : RemotePhoto}
  {keep : Bool} {asset : String} {digests : LocalDigests}

section Moves
variable {policy : Policy}

theorem record_moves {category : ChangeCategory} : Moves policy s (s.record entry category version) := .elsewhere rfl rfl rfl

theorem recreate_moves (allowed : ∀ row, s.entries.get entry = some row → row.photoId = none ∧ row.dirty ≠ .delete)
    (done : s.recreate entry stamp = .ok t) : Moves policy s t := by
  obtain ⟨_, _, row, read, rest⟩ := bind2_ok done
  cases rest
  have made : Moves policy s (s.updateEntry entry (Entry.recreate stamp)) :=
    .entry entry _ (fun found read => .recreate found stamp (allowed found read).1 (allowed found read).2)
  exact (made.trans (record_moves)).trans (record_moves)

theorem retire_moves (allowed : ∀ row, s.entries.get entry = some row → row.dirty ≠ .delete ∧ policy.guards.retire entry row) :
    Moves policy s (s.retire entry) :=
  .entry entry _ (fun row read => .retire row (allowed row read).1 (allowed row read).2)

theorem decideDeleted_moves {reason : String}
    (permit : reason = deletedReason → ∀ row, s.entries.get entry = some row → row.dirty ≠ .delete ∧ policy.guards.retire entry row)
    (done : s.decideDeleted entry reason keep stamp = .ok t) : Moves policy s t := by
  unfold decideDeleted at done
  split at done
  · next named =>
    have allowed := permit (beq_iff_eq.mp named)
    split at done
    · refine (retire_moves allowed).trans (recreate_moves (fun row read => ?_) done)
      simp only [retire, updateEntry, get_modify_self, Option.map_eq_some_iff] at read
      obtain ⟨old, _, rfl⟩ := read
      exact ⟨rfl, fun deleting => by cases deleting⟩
    · cases done
      exact retire_moves allowed
  · cases done

theorem Moves.entry_twice (id : Nat) (first second : Entry → Entry)
    (allowed : ∀ row, s.entries.get id = some row → EntryStep policy.guards id row (second (first row))) :
    Moves policy s ((s.updateEntry id first).updateEntry id second) := by
  have same : (s.updateEntry id first).updateEntry id second = s.updateEntry id (fun row => second (first row)) := by
    simp only [updateEntry, modify_modify]
  rw [same]
  exact .entry id _ allowed

theorem keepLocal_moves (read : s.entries.get entry = some row) (kept : row.dirty ≠ .delete) (rebind : policy.guards.rebind entry)
    (stored : s.setEntryPhoto entry photo.photoId (Entry.bindIdentity photo asset master) = .ok bound)
    (done : bound.keepLocal job entry photo recovery stamp = .ok t) : Moves policy s t := by
  obtain ⟨_, rfl⟩ := setEntryPhoto_ok read stored
  obtain ⟨_, _, _, _, _, _, rest⟩ := bind3_ok done
  cases rest
  have decided : Moves policy s ((s.updateEntry entry (fun row => { Entry.bindIdentity photo asset master row with
      photoId := some photo.photoId })).updateEntry entry (Entry.keepLocal stamp)) := by
    refine .entry_twice entry _ _ (fun found again => ?_)
    rw [read] at again
    cases again
    exact .keepLocal row photo asset master stamp kept rebind
  have base := decided.trans (setBaseline_moves _ entry (some photo))
  exact ⟨base.entries, base.media, base.tasks⟩

theorem projectPublication_resolves {after : Store × ProjectedContent} (read : s.entries.get entry = some row)
    (bound : row.photoId = some photo.photoId) (alone : s.photoTaken entry row.job photo.photoId = false)
    (fresh : row.baseline = none) (done : projectPublication platform s row.job photo digests = .ok after) :
    resolveProjection platform (s.repairAvailability entry photo) row.job entry photo
      (((s.repairAvailability entry photo).linkedMedia row).any (fun media => media.storageLocation == .cloudOnly)
        && !(s.repairAvailability entry photo).busy entry && row.dirty != .delete) = .ok after := by
  obtain ⟨⟨t, found⟩, located, rest⟩ := bind_ok.mp done
  obtain ⟨rfl, rfl⟩ : t = s ∧ found = entry := by
    unfold projectedEntry at located
    rw [entryOfPhoto_unique s read bound alone] at located
    cases located
    exact ⟨rfl, rfl⟩
  obtain ⟨row', again, rest⟩ := bind_ok.mp rest
  rw [requireRow_ok, repairAvailability_entries, read] at again
  cases again
  rw [if_neg (by simp [fresh])] at rest
  obtain ⟨⟨u, missing⟩, looked, rest⟩ := bind_ok.mp rest
  unfold missingLocal at looked
  rw [bound] at looked
  split at looked
  · next cloud =>
    cases looked
    rw [cloud]
    exact rest
  · next present =>
    cases looked
    rw [Bool.not_eq_true _ |>.mp present]
    exact rest

theorem projectPublication_bound (policy : Policy) {after : Store × ProjectedContent}
    (read : s.entries.get entry = some row) (bound : row.photoId = some photo.photoId)
    (alone : s.photoTaken entry row.job photo.photoId = false) (fresh : row.baseline = none) (kept : row.dirty ≠ .delete)
    (visible : photo.isHidden = false) (done : projectPublication platform s row.job photo digests = .ok after) :
    ∃ decision : Entry.Settlement, decision.photo = photo ∧ SettleGuard decision row ∧
      Moves policy { s with entries := s.entries.modify entry (Entry.settle decision) } after.1 := by
  have resolved := projectPublication_resolves read bound alone fresh done
  generalize (_ && _ && row.dirty != .delete : Bool) = missing at resolved
  have still : (s.repairAvailability entry photo).entries.get entry = some row := by rw [repairAvailability_entries, read]
  have clear : conflictReason row photo missing = none := by simp [conflictReason, visible, bound]
  rcases resolveProjection_ok policy still resolved with
    ⟨reason, conflicted, _⟩ | ⟨settled, _, stored, moved⟩
  · rw [clear] at conflicted
    cases conflicted
  · refine ⟨(s.repairAvailability entry photo).settlement row.job row photo missing, rfl, settlement_guard _ _ clear (fun _ => kept), ?_⟩
    obtain ⟨_, rfl⟩ := setEntryPhoto_ok still stored
    refine .trans ?_ moved
    have repaired : Moves policy s (s.repairAvailability entry photo) := repairAvailability_moves s entry photo
    exact ⟨.of_eq (by rw [updateEntry, repairAvailability_entries]; rfl), repaired.media, repaired.tasks⟩

theorem useCloud_moves (read : s.entries.get entry = some row) (kept : row.dirty ≠ .delete)
    (rebind : policy.guards.rebind entry) (visible : photo.isHidden = false)
    (stored : s.setEntryPhoto entry photo.photoId (Entry.bindIdentity photo asset master) = .ok bound)
    (done : useCloud platform bound row.job entry photo recovery = .ok t) : Moves policy s t := by
  obtain ⟨alone, same⟩ := setEntryPhoto_ok read stored
  obtain ⟨_, _, ⟨u, content⟩, projected, rest⟩ := bind2_ok done
  cases rest
  have entries : (bound.acceptCloud row.job entry photo).entries =
      s.entries.modify entry (fun row => (row.bindIdentity photo asset master).acceptCloud) := by
    rw [same]
    exact modify_modify _ _ _ _
  have alike : (bound.acceptCloud row.job entry photo).media = s.media ∧ (bound.acceptCloud row.job entry photo).tasks = s.tasks := by
    rw [same]
    exact ⟨rfl, rfl⟩
  have stillAlone : (bound.acceptCloud row.job entry photo).photoTaken entry row.job photo.photoId = false := by
    rw [same]
    exact (photoTaken_updateEntry _).trans ((photoTaken_updateEntry _).trans alone)
  generalize bound.acceptCloud row.job entry photo = accepted at entries alike stillAlone projected
  have readAccepted : accepted.entries.get entry = some (row.bindIdentity photo asset master).acceptCloud := by
    rw [entries, get_modify_self, read]
    rfl
  obtain ⟨decision, rfl, guard, moved⟩ := projectPublication_bound policy readAccepted rfl stillAlone rfl nofun visible projected
  refine .trans (.trans ?_ moved) (setBaseline_moves u entry _)
  have decided : Moves policy s (s.updateEntry entry (fun row =>
      ((row.bindIdentity decision.photo asset master).acceptCloud).settle decision)) := by
    refine .entry entry _ (fun found again => ?_)
    rw [read] at again
    cases again
    exact .useCloud row asset master decision kept guard rebind
  refine ⟨?_, .of_eq alike.1, .of_eq alike.2⟩
  have composed : accepted.entries.modify entry (Entry.settle decision) =
      s.entries.modify entry (fun row => ((row.bindIdentity decision.photo asset master).acceptCloud).settle decision) := by
    rw [entries, modify_modify]
  exact composed ▸ decided.entries

theorem decidePhoto_moves (read : s.entries.get entry = some row) (kept : row.dirty ≠ .delete) (rebind : policy.guards.rebind entry)
    (done : decidePhoto platform s row.job entry photo keep recovery stamp = .ok t) : Moves policy s t := by
  obtain ⟨_, visible, rest⟩ := bind_ok.mp done
  rw [ensure_ok, Bool.not_eq_true'] at visible
  obtain ⟨_, _, asset, _, master, _, bound, stored, rest⟩ := bind4_ok rest
  split at rest
  · exact keepLocal_moves read kept rebind stored rest
  · exact useCloud_moves read kept rebind visible stored rest

theorem decideConflict_moves {conflict : Option Conflict} (read : s.entries.get entry = some row)
    (kept : row.dirty ≠ .delete) (rebind : policy.guards.rebind entry)
    (retire : (conflict.map Conflict.document).any ConflictDocument.buries = true → policy.guards.retire entry row)
    (done : decideConflict platform s row.job entry conflict keep recovery stamp = .ok t) : Moves policy s t := by
  cases conflict with
  | none => cases done
  | some =>
    obtain ⟨decided, chosen, rest⟩ := bind_ok.mp done
    cases rest
    suffices moved : Moves policy s decided from moved.trans (.elsewhere rfl rfl rfl)
    unfold decideOpen at chosen
    split at chosen
    · exact decidePhoto_moves read kept rebind chosen
    · next absent =>
      refine decideDeleted_moves (fun named found again => ?_) chosen
      rw [read] at again
      cases again
      refine ⟨kept, retire ?_⟩
      simp [ConflictDocument.buries, Conflict.document, absent, named]

theorem applyAction_moves {conflict : Option ConflictDocument} {action : PhotoAction} (rebind : policy.guards.rebind entry)
    (retire : conflict.any ConflictDocument.buries = true → ∀ row, s.entries.get entry = some row → policy.guards.retire entry row)
    (done : applyAction platform s job entry version conflict action recovery stamp = .ok t) : Moves policy s t := by
  obtain ⟨row, read, rest⟩ := bind_ok.mp done
  rw [requireRow_ok, Option.filter_eq_some_iff, beq_iff_eq] at read
  obtain ⟨read, rfl⟩ := read
  obtain ⟨_, current, _, _, _, kept, rest⟩ := bind3_ok rest
  rw [ensure_ok] at kept current
  simp only [Bool.and_eq_true, beq_iff_eq] at current
  cases action with
  | deleteCloud =>
    obtain ⟨_, _, _, _, rest⟩ := bind2_ok rest
    cases rest
    have deleted : Moves policy s (s.updateEntry entry (Entry.deleteCloud stamp)) :=
      .entry entry _ (fun found _ => .deleteCloud found stamp)
    exact deleted.trans (record_moves)
  | recreate =>
    obtain ⟨_, unbound, rest⟩ := bind_ok.mp rest
    rw [ensure_ok] at unbound
    refine recreate_moves (fun found again => ?_) rest
    rw [read] at again
    cases again
    constructor
    · cases id : row.photoId with
      | none => rfl
      | some => simp [id] at unbound
    · intro deleting
      simp [deleting] at kept
  | keepLocal | useCloud =>
    refine decideConflict_moves read ?_ rebind
      (fun buried => retire (current.2 ▸ buried) row read) rest
    intro deleting
    simp [deleting] at kept

end Moves
end PhotoSync
