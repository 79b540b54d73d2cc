import PhotoSync.Runs.Patch
import PhotoSync.Runs.Placed
import PhotoSync.Runs.Published

set_option autoImplicit false

namespace PhotoSync
open Relational Transaction Durable Posix Program Store Option
variable {calendar : Calendar} {platform : Platform} {hash : Bytes → String}

def pairTarget (world : World) (call : PairCall calendar) : Result String := do
  let relative ← publicationPath world.store call
  safeDestination world.symlink call.root relative

-- A call of publish_pair on a pending publication. The two identifiers are fresh, the received photo passed
-- build_photo's check of its digests, and what is recorded for other publications concerns other files.
structure Publishes (call : PairCall calendar) (start : World) (site : Site) : Prop where
  id : site.id = call.id
  job : site.job = call.job
  target : pairTarget start call = .ok site.target
  temporaries : ∃ parent, parentPath site.target = some parent ∧
    site.next = nextPath parent site.target call.newName ∧ site.backup = backupPath parent call.backupName
  plain : '/' ∉ call.newName.toList ∧ '/' ∉ call.backupName.toList
  fresh : start.disk.stat site.next = none ∧ start.disk.stat site.backup = none
  old : site.old = start.disk.stat site.target
  content : ∀ inode file, start.disk.stat call.original = some (inode, file) → site.content = file.content
  checked : ContentDigest.hexFromDescriptorBase64 call.photo.original.fileChecksum = some call.photo.thumbnailSourceSha256
  standing : start.store.standing site.id = some ⟨site.job, .pending, none⟩
  distinct : start.store.publications.Distinct Publication.publicationId
  alone : site.Alone start.store

section Prepare
variable {call : PairCall calendar} {start world : World} {site : Site}

structure Quiet (site : Site) (start world : World) : Prop where
  store : world.store = start.store
  links : world.symlink = start.symlink
  target : world.disk.stat site.target = site.old

structure Copied (site : Site) (start world : World) : Prop extends Quiet site start world where
  backup : world.disk.stat site.backup = none
  next : ∃ number modified, world.disk.stat site.next = some (number, ⟨site.content, modified⟩) ∧
    ∀ held, site.old = some held → held.1 ≠ number

structure PairReady (site : Site) (hash : Bytes → String) (start : World) (pair : PreparedPair) (world : World) : Prop
    extends Copied site start world where
  own : pair.target = site.target ∧ pair.next = site.next ∧ pair.backup = site.backup ∧ pair.old = site.old
  described : site.Describes hash start.symlink pair.details

theorem Quiet.interrupted (publishes : Publishes call start site) (quiet : Quiet site start world) :
    site.Interrupted hash start.symlink world := by
  refine ⟨quiet.links, ?_, ?_, .before ?_ quiet.target⟩
  · rw [quiet.store]
    exact publishes.distinct
  · rw [quiet.store]
    exact publishes.alone
  · rw [quiet.store]
    exact publishes.standing

theorem verifyDescriptor_holds {crashed : World → Prop} {ends : Except ServiceError Unit → World → Prop} {path : String}
    {descriptor : AssetDescriptor} (here : crashed world)
    (done : ∀ inode file, world.disk.stat path = some (inode, file) → file.content.length = descriptor.size →
      ContentDigest.hexFromDescriptorBase64 descriptor.fileChecksum = some (hash file.content) → ends (.ok ()) world)
    (failed : ∀ failure, ends (.error failure) world) :
    Holds crashed ends (verifyDescriptor hash path descriptor) world := by
  refine .bind (holds_required here (fun hex decoded => ?_) (fun failure _ => failed _))
  rw [requireText_ok] at decoded
  refine .bind (.read here ?_)
  dsimp only
  split
  · exact .fail here (failed _)
  · next inode file found =>
    refine .bind (holds_demand here (fun size => ?_) (fun _ => failed _))
    refine holds_demand here (fun digest => ?_) (fun _ => failed _)
    rw [beq_iff_eq] at size digest
    exact done inode file found size (by rw [decoded, digest])

theorem restoreModified_holds (media : Option Media) (copied : Copied site start world) :
    Holds (Copied site start) (fun _ _ => True) (restoreModified site.next media) world := by
  cases media with
  | none => exact .pure copied trivial
  | some row =>
    unfold restoreModified
    refine holds_onDisk copied (fun disk changed => ⟨?_, trivial⟩) (fun _ _ => trivial)
    obtain ⟨number, modified, placed, apart⟩ := copied.next
    obtain ⟨inode, file, found, stats⟩ := world.disk.stat_setModified changed
    have same : inode = number := by
      rw [placed] at found
      cases found
      rfl
    subst same
    refine ⟨⟨copied.store, copied.links, ?_⟩, ?_, inode, row.fileMtimeNs, ?_, apart⟩
    · rw [stats, copied.target]
      cases held : site.old with
      | none => rfl
      | some old => simp [apart old held]
    · rw [stats, copied.backup]
      rfl
    · rw [stats, placed]
      simp

theorem refuseUnowned_holds (old : Option (Nat × File Bytes)) (row : Bool × Option Media) (copied : Copied site start world) :
    Holds (Quiet site start) (fun answer after => ∀ value, answer = .ok value → Copied site start after)
      (refuseUnowned site.next site.target old row) world := by
  unfold refuseUnowned
  split
  · refine .bind (.attempt (holds_onDisk copied.toQuiet (fun disk removed => ?_) (fun _ _ => ?_)))
    · have quiet : Quiet site start { world with disk := disk } := by
        refine ⟨copied.store, copied.links, ?_⟩
        rw [(world.disk.stat_remove removed).2, if_neg (Ne.symm site.nextApart), copied.target]
      exact ⟨quiet, .fail quiet (fun _ never => by cases never)⟩
    · exact .fail copied.toQuiet (fun _ never => by cases never)
  · exact .pure copied.toQuiet (fun _ _ => copied)

theorem copy_holds (publishes : Publishes call start site) :
    Holds (Quiet site start) (fun answer after => ∀ value, answer = .ok value → Copied site start after)
      (onDisk (fun disk => disk.copy call.original site.next call.now)) start := by
  have here : Quiet site start start := ⟨rfl, rfl, publishes.old.symm⟩
  refine holds_onDisk here (fun disk copied => ?_) (fun _ _ value never => by cases never)
  obtain ⟨number, source, held, found, apart, stats⟩ := start.disk.stat_copy_fresh publishes.fresh.1 copied
  have bytes := publishes.content source held found
  have target : disk.stat site.target = site.old := by
    rw [stats, if_neg (Ne.symm site.nextApart), publishes.old]
  refine ⟨⟨rfl, rfl, target⟩, fun _ _ => ⟨⟨rfl, rfl, target⟩, ?_, number, call.now, ?_, fun old same => ?_⟩⟩
  · rw [stats, if_neg (Ne.symm site.temporaries), publishes.fresh.2]
  · rw [stats, if_pos rfl, bytes]
  · exact apart site.target old.1 old.2 (publishes.old.symm.trans same)

theorem extensionOf_plain (target : String) : '/' ∉ (extensionOf target).toList := by
  unfold extensionOf
  cases given : (splitExtension (fileName target)).2 with
  | none => decide
  | some =>
    simp only [map_some, getD_some, String.toList_ofList]
    intro member
    exact fileName_plain target (extension_mem given member)

theorem temporaries_beside (publishes : Publishes call start site) :
    parentPath site.backup = parentPath site.target ∧ parentPath site.next = parentPath site.target := by
  obtain ⟨parent, given, next, backup⟩ := publishes.temporaries
  obtain ⟨relative, _, safe⟩ := bind_ok.mp publishes.target
  have beside : ∀ name : String, name.toList ≠ [] → '/' ∉ name.toList → parentPath (joinPath parent name) = some parent := by
    intro name filled slash
    have held := safeDestination_beside _ safe given filled slash
    rw [String.ofList_toList] at held
    exact held
  rw [next, backup, given]
  refine ⟨beside _ ?_ ?_, beside _ ?_ ?_⟩
  · simp [temporaryPrefix]
  · simp [temporaryPrefix, publishes.plain.2]
  · simp [temporaryPrefix]
  · simp [temporaryPrefix, publishes.plain.1, extensionOf_plain]

theorem preparePair_holds (publishes : Publishes call start site) :
    Holds (Quiet site start) (fun answer after => ∀ pair, answer = .ok pair → PairReady site hash start pair after)
      (preparePair platform hash call) start := by
  have here : Quiet site start start := ⟨rfl, rfl, publishes.old.symm⟩
  have fails : ∀ {failure : ServiceError} {after : World} (pair : PreparedPair), (Except.error failure : Except _ PreparedPair) = .ok pair →
    PairReady site hash start pair after := fun _ never => by cases never
  unfold preparePair
  refine .bind (holds_demand here (fun _ => ?_) (fun _ => fails))
  refine .bind (verifyDescriptor_holds here (fun inode file staged size digest => ?_) (fun _ => fails))
  refine .bind (verifyDescriptor_holds here (fun _ _ _ _ _ => ?_) (fun _ => fails))
  have content := publishes.content inode file staged
  have hashed : call.photo.thumbnailSourceSha256 = hash site.content := by
    rw [publishes.checked, some.injEq] at digest
    rw [digest, content]
  refine .bind (holds_queried here (fun capture _ => ?_) (fun _ _ => fails))
  refine .bind (holds_queried here (fun relative located => ?_) (fun _ _ => fails))
  have safe : safeDestination start.symlink call.root relative = .ok site.target := by
    obtain ⟨other, same, reached⟩ := bind_ok.mp publishes.target
    rw [located] at same
    cases same
    exact reached
  refine .bind (holds_destination here (fun target reached => ?_) (fun _ _ => fails))
  rw [safe] at reached
  cases reached
  refine .bind (holds_required here (fun parent given => ?_) (fun _ _ => fails))
  rw [requireText_ok] at given
  obtain ⟨again, known, next, backup⟩ := publishes.temporaries
  rw [given, some.injEq] at known
  subst known
  dsimp only
  rw [← next, ← backup]
  refine .bind ((copy_holds publishes).mono (fun _ held => held) ?_)
  intro answer copying quietCopy copies
  cases answer with
  | error => exact fails
  | ok value =>
    have copied := copies value rfl
    refine .bind (.read quietCopy ?_)
    refine .bind (holds_queried quietCopy (fun row _ => ?_) (fun _ _ => fails))
    refine .bind ((restoreModified_holds row.2 copied).mono (fun _ held => held.toQuiet) ?_)
    intro answer world copied _
    cases answer with
    | error => exact fails
    | ok value =>
      refine .bind ((refuseUnowned_holds _ row copied).mono (fun _ held => held) ?_)
      intro answer world quiet owned
      cases answer with
      | error => exact fails
      | ok value =>
        have copied := owned value rfl
        refine .bind (holds_demand quiet (fun _ => ?_) (fun _ => fails))
        refine .bind (.bind (.read quiet ?_))
        obtain ⟨number, modified, placed, apart⟩ := copied.next
        rw [placed]
        refine .pure quiet ?_
        refine .bind (.read quiet (.pure quiet ?_))
        rintro _ ⟨⟩
        have old : copying.disk.stat site.target = site.old := quietCopy.target
        refine ⟨copied, ⟨rfl, rfl, rfl, old⟩, ⟨rfl, rfl, rfl, rfl, ?_, ?_, ?_, ?_, ?_, temporaries_beside publishes⟩⟩
        · dsimp only
          rw [old]
        · dsimp only
          rw [old]
        · dsimp only
          rw [hashed]
        · dsimp only
          rw [← size, content]
        · obtain ⟨again, under, reached⟩ := safeDestination_again _ safe
          exact ⟨call.root, again, rfl, under, reached⟩

end Prepare

section Place
variable {call : PairCall calendar} {start world : World} {site : Site} {details : RecoveryDetails}

theorem standing_congr (s t : Store) (id : String) (same : s.publications = t.publications) : s.standing id = t.standing id := by
  simp only [standing, publicationOf, same]

structure Journaled (site : Site) (hash : Bytes → String) (symlink : String → Bool) (details : RecoveryDetails)
    (world : World) : Prop where
  links : world.symlink = symlink
  distinct : world.store.publications.Distinct Publication.publicationId
  alone : site.Alone world.store
  described : site.Describes hash symlink details
  standing : world.store.standing site.id = some ⟨site.job, .publishing, some details⟩

variable {symlink : String → Bool}

theorem Journaled.interrupted (recorded : Journaled site hash symlink details world) (disk : Disk String Bytes)
    (files : site.Files disk) :
    site.Interrupted hash symlink { world with disk := disk } := by
  refine ⟨recorded.links, recorded.distinct, recorded.alone, .publishing details ?_ recorded.standing files⟩
  rw [show ({ world with disk := disk } : World).symlink = symlink from recorded.links]
  exact recorded.described

theorem publishing_recorded (publishes : Publishes call start site) (quiet : Quiet site start world)
    (described : site.Describes hash start.symlink details) (store : Store)
    (done : recordDetails details (world.store.publishing call.id details) = .ok store) :
    Journaled site hash start.symlink details { world with store := store } := by
  obtain ⟨written, published, _, _, rest⟩ := bind2_ok done
  cases rest
  obtain ⟨_, _, _, _, rest⟩ := bind2_ok published
  cases rest
  rw [quiet.store, ← publishes.id]
  exact ⟨quiet.links, distinct_updatePublication _ (fun _ => rfl) publishes.distinct,
    alone_update _ _ _ publishes.alone (fun _ => rfl) (fun other => absurd rfl other), described,
    standing_update _ (fun _ => by exact ⟨rfl, rfl⟩)
      (fun _ _ _ => by exact ⟨rfl, rfl⟩) publishes.standing⟩

theorem undoPlacement_holds (world : World) (pair : PreparedPair)
    (own : pair.target = site.target ∧ pair.backup = site.backup ∧ pair.old = site.old ∧ pair.details = details)
    (recorded : Journaled site hash symlink details world) (new : site.New world.disk)
    (backup : world.disk.stat site.backup = site.old) :
    Holds (site.Interrupted hash symlink) (fun _ _ => True) (undoPlacement hash pair) world := by
  have here := recorded.interrupted world.disk (.placed new backup)
  have described : site.Describes hash world.symlink details := by
    rw [recorded.links]
    exact recorded.described
  unfold undoPlacement
  rw [own.1, own.2.1, own.2.2.1, own.2.2.2]
  refine .bind (holds_matchesPublished described here ?_)
  refine .bind (holds_demand here (fun _ => ?_) (fun _ => trivial))
  refine .bind (.read here ?_)
  dsimp only
  split
  · next there =>
    rw [world.disk.present_iff] at there
    refine holds_onDisk here (fun disk renamed => ⟨recorded.interrupted disk ?_, trivial⟩) (fun _ _ => trivial)
    rcases (world.disk.stat_rename renamed).2 with ⟨_, rfl⟩ | ⟨_, stats⟩
    · exact .placed new backup
    · refine .kept ?_ (.inl ?_)
      · rw [stats, if_neg (Ne.symm site.backupApart), if_pos rfl, backup]
      · rw [stats, if_pos rfl]
  · split
    · next none =>
      rw [isNone_iff_eq_none] at none
      refine holds_onDisk here (fun disk removed => ⟨recorded.interrupted disk ?_, trivial⟩) (fun _ _ => trivial)
      have stats := (world.disk.stat_remove removed).2
      refine .kept ?_ (.inl ?_)
      · rw [stats, if_pos rfl, none]
      · rw [stats, if_neg site.backupApart, backup, none]
    · exact .pure here trivial

theorem cleanUp_holds (world : World) (distinct : world.store.Identified)
    (links : world.symlink = symlink) (alone : site.Alone world.store) (described : site.Describes hash symlink details)
    (standing : world.store.standing site.id = some ⟨site.job, .complete, some details⟩) (new : site.New world.disk) :
    Holds (site.Interrupted hash symlink) (fun _ _ => True)
      (do
        removeFile site.backup
        cleanupRenamedSource details
        onStore (fun s => .ok (s.cleanPublication site.id))) world := by
  have crash : ∀ after, NewOnly site world after → site.Interrupted hash symlink after := by
    rintro _ ⟨disk, rfl, held⟩
    refine ⟨links, distinct, alone, .complete (some details) (fun recorded same => ?_) standing held⟩
    cases same
    rw [show ({ world with disk := disk } : World).symlink = symlink from links]
    exact described
  refine .bind (holds_removeFile (crash _ ⟨world.disk, rfl, new⟩) (fun disk stats => ?_))
  have unbacked : NewOnly site world { world with disk := disk } := ⟨disk, rfl, new.remove site.backup site.backupApart stats⟩
  refine ⟨crash _ unbacked, ?_⟩
  refine .bind ((cleanupRenamedSource_new described.target unbacked).mono crash ?_)
  intro answer after here _
  cases answer with
  | error => trivial
  | ok =>
    refine holds_onStore (crash _ here) (fun store done => ⟨?_, trivial⟩) (fun _ _ => trivial)
    cases done
    obtain ⟨last, rfl, held⟩ := here
    exact ⟨links, distinct_updatePublication _ (fun _ => rfl) distinct,
      alone_update _ _ _ alone (fun _ => rfl) (fun other => absurd rfl other),
      .complete none (fun _ never => by cases never)
        (standing_update _ (fun _ => by exact ⟨rfl, rfl⟩) (fun row state _ => by exact ⟨state, rfl⟩) standing) held⟩

theorem placePair_holds (publishes : Publishes call start site) (pair : PreparedPair) (ready : PairReady site hash start pair world) :
    Holds (site.Interrupted hash start.symlink) (fun _ _ => True) (placePair hash call pair) world := by
  have here : site.Interrupted hash start.symlink world := ready.toQuiet.interrupted publishes
  obtain ⟨target, next, backup, old⟩ := ready.own
  unfold placePair
  refine .bind (holds_onStore here (fun store published => ?_) (fun _ _ => trivial))
  have recorded := publishing_recorded publishes ready.toQuiet ready.described store published
  have journaled := recorded.interrupted world.disk (.kept ready.target (.inl ready.backup))
  refine ⟨journaled, .bind (.read journaled (.bind (holds_demand journaled (fun _ => ?_) (fun _ => trivial))))⟩
  rw [target, next, backup]
  have backedUp : Holds (site.Interrupted hash start.symlink) (fun answer after => ∀ value, answer = .ok value →
      ∃ disk, after = { world with store := store, disk := disk } ∧ disk.stat site.target = site.old ∧
        disk.stat site.backup = site.old ∧ disk.stat site.next = world.disk.stat site.next)
      (backUp pair) { world with store := store } := by
    unfold backUp
    rw [target, backup, old]
    split
    · refine holds_onDisk journaled (fun disk linked => ?_) (fun _ _ _ never => by cases never)
      have stats := (world.disk.stat_hardLink linked).2.2
      have first : disk.stat site.target = site.old := by
        rw [stats, if_neg (Ne.symm site.backupApart), ready.target]
      have second : disk.stat site.backup = site.old := by
        rw [stats, if_pos rfl, ready.target]
      refine ⟨recorded.interrupted disk (.kept first (.inr second)), fun _ _ => ⟨disk, rfl, first, second, ?_⟩⟩
      rw [stats, if_neg site.temporaries]
    · next none =>
      rw [not_isSome_iff_eq_none] at none
      exact .pure journaled (fun _ _ => ⟨world.disk, rfl, ready.target, by rw [none]; exact ready.backup, rfl⟩)
  refine .bind (backedUp.mono (fun _ held => held) ?_)
  intro answer after _ backs
  cases answer with
  | error => trivial
  | ok value =>
    obtain ⟨disk, rfl, first, second, third⟩ := backs value rfl
    have linked := recorded.interrupted disk (.kept first (.inr second))
    refine .bind (holds_onDisk linked (fun placed renamed => ?_) (fun _ _ => trivial))
    obtain ⟨number, modified, copy, apart⟩ := ready.next
    rw [← third] at copy
    obtain ⟨new, kept⟩ : site.New placed ∧ placed.stat site.backup = site.old := by
      rcases (disk.stat_rename renamed).2 with ⟨same, _⟩ | ⟨_, stats⟩
      · have equal := disk.stat_of_names same
        rw [copy, first] at equal
        exact absurd rfl (apart _ equal.symm)
      · have bytes : placed.stat site.target = some (number, ⟨site.content, modified⟩) := by
          rw [stats, if_neg (Ne.symm site.nextApart), if_pos rfl, copy]
        have saved : placed.stat site.backup = site.old := by
          rw [stats, if_neg (Ne.symm site.temporaries), if_neg site.backupApart, second]
        refine ⟨⟨⟨number, modified, bytes⟩, fun held found same => ?_⟩, saved⟩
        rw [bytes, some.injEq] at same
        rw [saved] at found
        exact apart held found (by rw [← same])
    have moved := recorded.interrupted placed (.placed new kept)
    refine ⟨moved, .bind (.attempt (holds_onStore moved (fun admitted done => ?_) (fun failure _ => ?_)))⟩
    · have publications := (admission_receiving done).1
      have complete : admitted.standing site.id = some ⟨site.job, .complete, some pair.details⟩ := by
        rw [standing_congr _ _ _ publications, ← publishes.id]
        exact standing_update _ (fun _ => by exact ⟨rfl, rfl⟩) (fun _ _ held => by exact ⟨rfl, held⟩) recorded.standing
      have distinct : admitted.Identified := by
        rw [Store.Identified, publications]
        exact distinct_updatePublication _ (fun _ => rfl) recorded.distinct
      have alone : site.Alone admitted := by
        intro key row read
        rw [publications] at read
        exact alone_update store call.id _ recorded.alone (fun _ => by rfl) (fun _ _ _ same => by exact same) key row read
      have cleans := cleanUp_holds { world with disk := placed, store := admitted } distinct recorded.links alone
        recorded.described complete new
      refine ⟨cleans.crash 0, ?_⟩
      rw [← publishes.id]
      exact cleans
    · have undone := undoPlacement_holds { world with disk := placed, store := store } pair
        ⟨target, backup, old, rfl⟩ ⟨recorded.links, recorded.distinct, recorded.alone, recorded.described, recorded.standing⟩
        new kept
      exact .sequel undone (fun _ _ held => .fail held trivial) (fun _ _ _ => trivial)

theorem publishPair_holds (publishes : Publishes call start site) :
    Holds (site.Interrupted hash start.symlink) (fun _ _ => True) (publishPair platform hash call) start := by
  refine .bind ((preparePair_holds publishes).mono (fun _ quiet => quiet.interrupted publishes) ?_)
  intro answer after _ readies
  cases answer with
  | error => trivial
  | ok pair => exact placePair_holds publishes pair (readies pair rfl)

end Place

section Edited
variable {site : Site} {symlink : String → Bool} {held : Nat × File Bytes} {world : World}

structure Edited (site : Site) (hash : Bytes → String) (symlink : String → Bool) (held : Nat × File Bytes) (world : World) : Prop where
  links : world.symlink = symlink
  distinct : world.store.publications.Distinct Publication.publicationId
  alone : site.Alone world.store
  described : ∀ standing details, world.store.standing site.id = some standing → standing.details = some details →
    site.Describes hash symlink details
  target : world.disk.stat site.target = some held

def Foreign (site : Site) (hash : Bytes → String) (file : File Bytes) : Prop :=
  site.old.map (fun found => fileStamp found.2) ≠ some (fileStamp file) ∧
    verifies hash site.content.length (hash site.content) file = false

section
variable (edited : Edited site hash symlink held world)

include edited

theorem Edited.disk (disk : Disk String Bytes) (target : disk.stat site.target = world.disk.stat site.target) :
    Edited site hash symlink held { world with disk := disk } :=
  ⟨edited.links, edited.distinct, edited.alone, edited.described, target.trans edited.target⟩

theorem edited_removeFile {name : String} (apart : name ≠ site.target) :
    Holds (Edited site hash symlink held) (fun _ _ => True) (removeFile name) world :=
  holds_removeFile edited (fun disk stats =>
    ⟨edited.disk disk (by rw [stats, if_neg (Ne.symm apart)]), trivial⟩)

theorem edited_cleanup {details : RecoveryDetails} (given : details.target = some site.target) :
    Holds (Edited site hash symlink held) (fun _ _ => True) (cleanupRenamedSource details) world := by
  refine holds_cleanupRenamedSource (fun old before disk _ apart kept removed => kept.disk disk ?_) edited
  have other : site.target ≠ old := fun same => apart (by rw [given, same])
  rw [(before.disk.stat_remove removed).2, if_neg other]

theorem edited_restoreTarget {details : RecoveryDetails}
    (foreign : Foreign site hash held.2) (described : site.Describes hash symlink details) :
    Holds (Edited site hash symlink held) (fun _ _ => True) (restoreTarget hash site.target site.backup details) world := by
  rw [← edited.links] at described
  have unpublished : (world.disk.stat site.target).any (fun found =>
      verifies hash site.content.length (hash site.content) found.2) = false := by
    rw [edited.target]
    exact foreign.2
  refine .bind (.read edited ?_)
  dsimp only
  split
  · refine .bind (.read edited ?_)
    dsimp only
    have changed : (world.disk.stat site.target).isSome &&
        (world.disk.stat site.target).map (fun found => fileStamp found.2) != details.oldStamp := by
      rw [edited.target, described.oldStamp]
      simpa using Ne.symm foreign.1
    rw [if_pos changed]
    refine .bind (holds_matchesPublished described edited ?_)
    rw [unpublished]
    exact .bind (holds_demand edited (fun never => by cases never) (fun _ => trivial))
  · refine .bind (.read edited ?_)
    dsimp only
    split
    · refine .bind (holds_matchesPublished described edited ?_)
      rw [unpublished]
      exact .bind (holds_demand edited (fun never => by cases never) (fun _ => trivial))
    · exact .pure edited trivial

theorem Edited.update (change : Publication → Publication)
    (own : ∀ row, (change row).publicationId = row.publicationId) (closes : ∀ row, (change row).details = none) :
    Edited site hash symlink held { world with store := world.store.updatePublication site.id change } := by
  refine ⟨edited.links, distinct_updatePublication _ own edited.distinct,
    alone_update _ _ _ edited.alone own (fun other => absurd rfl other), fun standing details found recorded => ?_,
    edited.target⟩
  unfold Store.standing at found
  rw [publicationOf_update _ _ _ own] at found
  obtain ⟨row, located, same⟩ := map_eq_some_iff.mp found
  obtain ⟨before, _, rfl⟩ := map_eq_some_iff.mp located
  rw [← same, closes] at recorded
  cases recorded

end

theorem edited_recoverPublication (foreign : Foreign site hash held.2) (row : String × PublicationState)
    (edited : Edited site hash symlink held world) :
    Holds (Edited site hash symlink held) (fun _ _ => True) (recoverPublication hash row) world := by
  by_cases own : row.1 = site.id
  · refine .bind (holds_queried edited (fun details found => ?_) (fun _ _ => trivial))
    obtain ⟨key, publication, located, _, _, recorded⟩ := detailsOf_ok found
    rw [own] at located ⊢
    have described : site.Describes hash symlink details :=
      edited.described ⟨publication.job, publication.state, publication.details⟩ details
        (by simp [standing, located]) recorded
    dsimp only
    rw [described.collision, if_neg Bool.false_ne_true]
    refine .bind (holds_given described.target edited (.bind (holds_given described.backup edited ?_)))
    refine .bind (holds_given described.next edited (.bind (holds_required edited (fun root _ => ?_) (fun _ _ => trivial))))
    refine .bind (holds_required edited (fun relative _ => ?_) (fun _ _ => trivial))
    refine .bind (holds_destination edited (fun safe _ => ?_) (fun _ _ => trivial))
    refine .bind (holds_demand edited (fun _ => ?_) (fun _ => trivial))
    dsimp only
    split
    · refine .onward (edited_cleanup edited described.target) (fun _ after held => ?_)
      refine .onward (edited_removeFile held site.backupApart) (fun _ after held => ?_)
      refine .onward (edited_removeFile held site.nextApart) (fun _ after held => ?_)
      refine holds_onStore held (fun store done => ⟨?_, trivial⟩) (fun _ _ => trivial)
      cases done
      exact held.update _ (fun _ => rfl) (fun _ => rfl)
    · refine .onward (edited_restoreTarget edited foreign described) (fun _ after held => ?_)
      refine .onward (edited_removeFile held site.nextApart) (fun _ after held => ?_)
      refine holds_onStore held (fun store done => ⟨?_, trivial⟩) (fun _ _ => trivial)
      cases done
      exact held.update _ (fun _ => rfl) (fun _ => rfl)
  · refine (keeps_recoverPublication own (.refl edited.distinct edited.alone)).mono (fun after same => ?_)
      (fun _ _ _ _ => trivial)
    refine ⟨same.links.trans edited.links, same.distinct, same.alone, fun standing details found => ?_, ?_⟩
    · exact edited.described standing details (same.standing.symm.trans found)
    · rw [same.stats site.target (by simp [Site.names])]
      exact edited.target

theorem edited_recoverPublications (foreign : Foreign site hash held.2) (job : Nat) (edited : Edited site hash symlink held world) :
    Holds (Edited site hash symlink held) (fun _ _ => True) (recoverPublications hash job) world :=
  .bind (.read edited (.forEach edited (fun row _ _ here => edited_recoverPublication foreign row here)))

end Edited

section Results

def crashState (platform : Platform) (hash : Bytes → String) (call : PairCall calendar) (start : World) (count : Nat)
    (recoveries : List Nat) : World :=
  recoveries.foldl (fun world steps => (recoverPublications hash call.job).crash steps world)
    ((publishPair platform hash call).crash count start)

variable {site : Site} {world : World}

theorem crashState_interrupted {call : PairCall calendar} {start : World} (publishes : Publishes call start site)
    (count : Nat) (recoveries : List Nat) :
    site.Interrupted hash start.symlink (crashState platform hash call start count recoveries) := by
  unfold crashState
  have first : site.Interrupted hash start.symlink ((publishPair platform hash call).crash count start) :=
    (publishPair_holds publishes).crash count
  generalize (publishPair platform hash call).crash count start = world at first
  induction recoveries generalizing world with
  | nil => exact first
  | cons steps rest ih =>
    refine ih _ ?_
    rw [← publishes.job]
    exact (recoverPublications_holds first).crash steps

theorem Site.Phase.saved (phase : site.Phase hash world) (held : Nat × File Bytes) (old : site.old = some held)
    (unfinished : ∀ standing, world.store.standing site.id = some standing → standing.state ≠ .complete) :
    world.disk.stat site.target = some held ∨ world.disk.stat site.backup = some held := by
  cases phase with
  | before _ target => exact .inl (target.trans old)
  | publishing _ _ _ files =>
    cases files with
    | kept target => exact .inl (target.trans old)
    | placed _ backup => exact .inr (backup.trans old)
  | complete _ _ standing => exact absurd rfl (unfinished _ standing)

theorem Site.Phase.described (phase : site.Phase hash world) (standing : Standing) (details : RecoveryDetails)
    (found : world.store.standing site.id = some standing) (recorded : standing.details = some details) :
    site.Describes hash world.symlink details := by
  cases phase with
  | before other =>
    rw [found] at other
    cases other
    cases recorded
  | publishing _ described other =>
    rw [found] at other
    cases other
    cases recorded
    exact described
  | complete _ described other =>
    rw [found] at other
    cases other
    exact described details recorded

namespace Sample

def replacing : World where
  disk := ((Disk.empty.create "/s/original" ⟨[1, 2, 3, 4], 0⟩).create "/s/thumbnail" ⟨[1, 2, 3, 4], 0⟩).create "/p/b"
    ⟨[0, 0, 0, 0], 0⟩
  store := run (Command.execute telling) .empty
    (connecting ++ placed "A" ++ [.cleanPublication (nameOf "A")] ++ receiving "B" ++ downloading "B")
  symlink := fun _ => false

def sha (content : Bytes) : String := if content = [1, 2, 3, 4] then digest.hex else ""

def replacement : PairCall Sample.calendar :=
  ⟨version "B", "/p", "/s/original", "/s/thumbnail", 1, nameOf "B", "new", "old", 1, none, true, stamp⟩

def replaced : Site where
  id := nameOf "B"
  job := 1
  target := "/p/b"
  next := "/p/.photoviewer-sync-new.new.bin"
  backup := "/p/.photoviewer-sync-old.old"
  old := some (3, ⟨[0, 0, 0, 0], 0⟩)
  content := [1, 2, 3, 4]
  nextApart := by decide
  backupApart := by decide
  temporaries := by decide

theorem replacement_publishes : Publishes replacement replacing replaced where
  id := rfl
  job := rfl
  target := by decide +kernel
  temporaries := ⟨"/p", by decide +kernel⟩
  plain := by decide
  fresh := by decide +kernel
  old := by decide +kernel
  content := by
    intro inode file found
    have there : replacing.disk.stat "/s/original" = some (1, ⟨[1, 2, 3, 4], 0⟩) := by decide +kernel
    rw [show replacement.original = "/s/original" from rfl, there] at found
    cases found
    rfl
  checked := by decide +kernel
  standing := by decide +kernel
  distinct := run_distinct telling _
  alone := by
    intro key row read _ details recorded
    have none : replacing.store.publications.any (fun _ row => row.details.isSome) = false := by decide +kernel
    have empty := Table.any_eq_false.mp none key row read
    simp [recorded] at empty

def crashed (count : Nat) : World := crashState telling sha replacement replacing count []

def edited : Disk String Bytes := (crashed 15).disk.modify 4 (fun _ => ⟨[9], 7⟩)

end Sample

theorem publication_is_crash_safe (platform : Platform) (hash : Bytes → String) (call : PairCall calendar) (start : World)
    (site : Site) (publishes : Publishes call start site) (count : Nat) (recoveries : List Nat) :
    -- The old file is there while the database still describes the old version.
    (∀ held, site.old = some held →
      (∀ standing, (crashState platform hash call start count recoveries).store.standing site.id = some standing →
        standing.state ≠ .complete) →
      (crashState platform hash call start count recoveries).disk.stat site.target = some held ∨
      (crashState platform hash call start count recoveries).disk.stat site.backup = some held) ∧
    (((recoverPublications hash call.job).run (crashState platform hash call start count recoveries)).2 = .ok () ∨
        site.Only (crashState platform hash call start count recoveries).store →
      site.Settled ((recoverPublications hash call.job).run (crashState platform hash call start count recoveries)).1) ∧
    -- A file that somebody put at the target after the crash stays, whether the recovery ends or crashes.
    (∀ (edited : Disk String Bytes) (held : Nat × File Bytes), edited.stat site.target = some held →
      Foreign site hash held.2 → ∀ steps, ((recoverPublications hash call.job).crash steps
        { crashState platform hash call start count recoveries with disk := edited }).disk.stat site.target = some held ∧
      ((recoverPublications hash call.job).run
        { crashState platform hash call start count recoveries with disk := edited }).1.disk.stat site.target = some held) := by
  have interrupted : site.Interrupted hash start.symlink (crashState platform hash call start count recoveries) :=
    crashState_interrupted publishes count recoveries
  generalize crashState platform hash call start count recoveries = world at interrupted
  rw [← publishes.job]
  refine ⟨fun held old unfinished => interrupted.phase.saved held old unfinished,
    (recoverPublications_holds interrupted).run.2.1, fun edited held found foreign steps => ?_⟩
  have start : Edited site hash start.symlink held { world with disk := edited } := by
    refine ⟨interrupted.links, interrupted.distinct, interrupted.alone, fun standing details there recorded => ?_, found⟩
    rw [← interrupted.links]
    exact interrupted.phase.described standing details there recorded
  have keeps := edited_recoverPublications foreign site.job start
  exact ⟨(keeps.crash steps).target, keeps.run.1.target⟩

theorem replacement_is_crash_safe : (Sample.crashed 15).disk.stat Sample.replaced.backup = Sample.replaced.old ∧
    Sample.replaced.Settled ((recoverPublications Sample.sha 1).run (Sample.crashed 15)).1 ∧
    ((recoverPublications Sample.sha 1).run { Sample.crashed 15 with disk := Sample.edited }).1.disk.stat "/p/b"
      = some (4, ⟨[9], 7⟩) := by
  have foreign : Foreign Sample.replaced Sample.sha ⟨[9], 7⟩ := by
    unfold Foreign
    decide +kernel
  obtain ⟨saved, settled, keeps⟩ := publication_is_crash_safe Sample.telling Sample.sha Sample.replacement Sample.replacing
    Sample.replaced Sample.replacement_publishes 15 []
  refine ⟨?_, settled (.inl (by decide +kernel)), (keeps Sample.edited (4, ⟨[9], 7⟩) (by decide +kernel) foreign 0).2⟩
  refine (saved _ rfl ?_).resolve_left (by decide +kernel)
  intro standing found complete
  have unfinished : ((Sample.crashed 15).store.standing Sample.replaced.id).all
    (fun standing => standing.state != .complete) = true := by decide +kernel
  rw [show (Sample.crashed 15).store.standing Sample.replaced.id = some standing from found] at unfinished
  simp [complete] at unfinished

end Results
end PhotoSync
