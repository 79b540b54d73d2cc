import PhotoSync.Service.Publish
import PhotoSync.Store.IntentCommand

set_option autoImplicit false

namespace PhotoSync
open Relational Transaction Durable Posix Program Store Table Option

-- What the database says of a publication: its job, its state, and the details that are recorded for its recovery.
structure Standing where
  job : Nat
  state : PublicationState
  details : Option RecoveryDetails
deriving DecidableEq

def Store.standing (s : Store) (id : String) : Option Standing :=
  (s.publicationOf id).map (fun found => ⟨found.2.job, found.2.state, found.2.details⟩)

theorem publicationOf_update (s : Store) (id : String) (change : Publication → Publication)
    (own : ∀ row, (change row).publicationId = row.publicationId) :
    (s.updatePublication id change).publicationOf id = (s.publicationOf id).map (fun found => (found.1, change found.2)) := by
  unfold publicationOf updatePublication
  rw [first?_update]
  · cases found : s.publications.first? (fun _ row => row.publicationId == id) with
    | none => rfl
    | some =>
      have named := (first?_some found).2
      simp only [map_some, named, if_true]
  · intro _ row
    split
    · rw [own]
    · rfl

variable {id source target : String} {state : PublicationState} {s : Store}

theorem publicationOf_update_other (s : Store) {other : String} (change : Publication → Publication)
    (own : ∀ row, (change row).publicationId = row.publicationId) (apart : other ≠ id) :
    (s.updatePublication other change).publicationOf id = s.publicationOf id := by
  unfold publicationOf updatePublication
  rw [first?_update]
  · cases found : s.publications.first? (fun _ row => row.publicationId == id) with
    | none => rfl
    | some =>
      have named := (first?_some found).2
      rw [beq_iff_eq] at named
      simp [named, Ne.symm apart]
  · intro _ row
    split
    · rw [own]
    · rfl

-- One publication on the disk: its three names, the file its target held before, and the bytes it publishes.
structure Site where
  id : String
  job : Nat
  target : String
  next : String
  backup : String
  old : Option (Nat × File Bytes)
  content : Bytes
  nextApart : next ≠ target
  backupApart : backup ≠ target
  temporaries : next ≠ backup

namespace Site

def names (site : Site) : List String := [site.target, site.next, site.backup]

structure Describes (site : Site) (hash : Bytes → String) (symlink : String → Bool) (details : RecoveryDetails) : Prop where
  collision : details.collision = false
  target : details.target = some site.target
  next : details.next = some site.next
  backup : details.backup = some site.backup
  hadOld : details.hadOld = some site.old.isSome
  oldStamp : details.oldStamp = site.old.map (fun found => fileStamp found.2)
  digest : details.sha256 = some (hash site.content)
  size : details.size = some site.content.length
  path : ∃ root relative, details.root = some root ∧ relativeUnder root site.target = some relative ∧
    safeDestination symlink root relative = .ok site.target
  parents : parentPath site.backup = parentPath site.target ∧ parentPath site.next = parentPath site.target

structure New (site : Site) (disk : Disk String Bytes) : Prop where
  target : ∃ number modified, disk.stat site.target = some (number, ⟨site.content, modified⟩)
  apart : ∀ held, disk.stat site.backup = some held → disk.stat site.target ≠ some held

inductive Files (site : Site) (disk : Disk String Bytes) : Prop where
  | kept (target : disk.stat site.target = site.old)
    (backup : disk.stat site.backup = none ∨ disk.stat site.backup = site.old)
  | placed (new : site.New disk) (backup : disk.stat site.backup = site.old)

inductive Phase (site : Site) (hash : Bytes → String) (world : World) : Prop where
  | before (standing : world.store.standing site.id = some ⟨site.job, .pending, none⟩)
    (target : world.disk.stat site.target = site.old)
  | publishing (details : RecoveryDetails) (described : site.Describes hash world.symlink details)
    (standing : world.store.standing site.id = some ⟨site.job, .publishing, some details⟩) (files : site.Files world.disk)
  | complete (details : Option RecoveryDetails)
    (described : ∀ recorded, details = some recorded → site.Describes hash world.symlink recorded)
    (standing : world.store.standing site.id = some ⟨site.job, .complete, details⟩) (new : site.New world.disk)

def Apart (site : Site) (details : RecoveryDetails) : Prop :=
  ∀ name, (details.target = some name ∨ details.backup = some name ∨ details.next = some name ∨
    details.oldPath = some name ∨ details.source = some name ∨ details.preserved = some name) → name ∉ site.names

def Alone (site : Site) (s : Store) : Prop := ∀ key row, s.publications.get key = some row → row.publicationId ≠ site.id →
    ∀ details, row.details = some details → site.Apart details

structure Interrupted (site : Site) (hash : Bytes → String) (symlink : String → Bool) (world : World) : Prop where
  links : world.symlink = symlink
  distinct : world.store.publications.Distinct Publication.publicationId
  alone : site.Alone world.store
  phase : site.Phase hash world

-- The publication is settled: it is complete with the new bytes in place, or it
-- is pending and its target is what it was.
inductive Settled (site : Site) (world : World) : Prop where
  | complete (details : Option RecoveryDetails) (standing : world.store.standing site.id = some ⟨site.job, .complete, details⟩)
    (new : ∃ number modified, world.disk.stat site.target = some (number, ⟨site.content, modified⟩))
  | pending (standing : world.store.standing site.id = some ⟨site.job, .pending, none⟩)
    (target : world.disk.stat site.target = site.old)

end Site

section Frames

structure SameSite (site : Site) (start world : World) : Prop where
  links : world.symlink = start.symlink
  standing : world.store.standing site.id = start.store.standing site.id
  distinct : world.store.publications.Distinct Publication.publicationId
  alone : site.Alone world.store
  stats : ∀ name ∈ site.names, world.disk.stat name = start.disk.stat name

variable {site : Site} {start : World}

theorem SameSite.refl (distinct : start.store.Identified) (alone : site.Alone start.store) : SameSite site start start :=
  ⟨rfl, rfl, distinct, alone, fun _ _ => rfl⟩

theorem SameSite.phase {hash : Bytes → String} {world : World} (same : SameSite site start world)
    (phase : site.Phase hash start) : site.Phase hash world := by
  have target := same.stats site.target (by simp [Site.names])
  have backup := same.stats site.backup (by simp [Site.names])
  cases phase with
  | before standing kept => exact .before (same.standing.trans standing) (target.trans kept)
  | publishing details described standing files =>
    rw [← same.links] at described
    refine .publishing details described (same.standing.trans standing) ?_
    cases files with
    | kept old held =>
      refine .kept (target.trans old) ?_
      rw [backup]
      exact held
    | placed new held =>
      refine .placed ⟨?_, ?_⟩ (backup.trans held)
      · rw [target]
        exact new.target
      · rw [target, backup]
        exact new.apart
  | complete details described standing new =>
    rw [← same.links] at described
    refine .complete details described (same.standing.trans standing) ⟨?_, ?_⟩
    · rw [target]
      exact new.target
    · rw [target, backup]
      exact new.apart

theorem SameSite.settled {world : World} (same : SameSite site start world) (settled : site.Settled start) : site.Settled world := by
  have target := same.stats site.target (by simp [Site.names])
  cases settled with
  | complete details standing new =>
    refine .complete details (same.standing.trans standing) ?_
    rw [target]
    exact new
  | pending standing kept => exact .pending (same.standing.trans standing) (target.trans kept)

variable {world : World}

theorem sameSite_disk (same : SameSite site start world) {disk : Disk String Bytes}
    (stats : ∀ name ∈ site.names, disk.stat name = world.disk.stat name) :
    SameSite site start { world with disk := disk } :=
  ⟨same.links, same.standing, same.distinct, same.alone, fun name member => (stats name member).trans (same.stats name member)⟩

theorem alone_update (s : Store) (id : String) (change : Publication → Publication) (alone : site.Alone s)
    (own : ∀ row, (change row).publicationId = row.publicationId)
    (fewer : id ≠ site.id → ∀ row details, (change row).details = some details → row.details = some details) :
    site.Alone (s.updatePublication id change) := by
  intro key row read different details recorded
  simp only [updatePublication, get_update, map_eq_some_iff] at read
  obtain ⟨old, present, rfl⟩ := read
  split at recorded
  · next named =>
    rw [if_pos named, own] at different
    rw [beq_iff_eq] at named
    exact alone key old present different details (fewer (named ▸ different) old details recorded)
  · next unnamed =>
    rw [if_neg unnamed] at different
    exact alone key old present different details recorded

theorem distinct_updatePublication (change : Publication → Publication) (own : ∀ row, (change row).publicationId = row.publicationId)
    (distinct : s.Identified) :
    (s.updatePublication id change).publications.Distinct Publication.publicationId := by
  refine distinct_of_origin _ distinct (fun key row read => ?_)
  simp only [updatePublication, get_update, map_eq_some_iff] at read
  obtain ⟨old, present, rfl⟩ := read
  refine ⟨old, present, ?_⟩
  split
  · exact own old
  · rfl

section
variable (same : SameSite site start world)

include same

theorem sameSite_update (apart : id ≠ site.id) (change : Publication → Publication)
    (own : ∀ row, (change row).publicationId = row.publicationId)
    (fewer : ∀ row details, (change row).details = some details → row.details = some details) :
    SameSite site start { world with store := world.store.updatePublication id change } := by
  refine ⟨same.links, ?_, distinct_updatePublication _ own same.distinct,
    alone_update world.store id change same.alone own (fun _ => fewer), same.stats⟩
  rw [← same.standing]
  unfold standing
  rw [publicationOf_update_other world.store change own apart]

theorem sameSite_remove {name : String} (apart : name ∉ site.names)
    {disk : Disk String Bytes} (removed : world.disk.remove name = .ok disk) :
    SameSite site start { world with disk := disk } := by
  refine sameSite_disk same (fun other member => ?_)
  have different : other ≠ name := fun equal => apart (equal ▸ member)
  rw [(world.disk.stat_remove removed).2 other, if_neg different]

theorem keeps_remove {name : String} (apart : name ∉ site.names) :
    Holds (SameSite site start) (fun _ _ => True) (onDisk (fun disk => disk.remove name)) world :=
  holds_onDisk same (fun disk removed => ⟨sameSite_remove same apart removed, trivial⟩) (fun _ _ => trivial)

theorem keeps_rename (first : source ∉ site.names) (second : target ∉ site.names) :
    Holds (SameSite site start) (fun _ _ => True) (onDisk (fun disk => disk.rename source target)) world := by
  refine holds_onDisk same (fun disk renamed => ⟨sameSite_disk same (fun other member => ?_), trivial⟩)
    (fun _ _ => trivial)
  rcases (world.disk.stat_rename renamed).2 with ⟨_, unchanged⟩ | ⟨_, stats⟩
  · rw [unchanged]
  · have one : other ≠ source := fun equal => first (equal ▸ member)
    have two : other ≠ target := fun equal => second (equal ▸ member)
    rw [stats other, if_neg one, if_neg two]

theorem keeps_hardLink (source target : String) (apart : target ∉ site.names) :
    Holds (SameSite site start) (fun _ _ => True) (onDisk (fun disk => disk.hardLink source target)) world := by
  refine holds_onDisk same (fun disk linked => ⟨sameSite_disk same (fun other member => ?_), trivial⟩)
    (fun _ _ => trivial)
  have different : other ≠ target := fun equal => apart (equal ▸ member)
  rw [(world.disk.stat_hardLink linked).2.2 other, if_neg different]

theorem keeps_required {α : Type} {result : Result α} : Holds (SameSite site start) (fun _ _ => True) (required result) world :=
  holds_required same (fun _ _ => trivial) (fun _ _ => trivial)

theorem keeps_demand {condition : Bool} {message : String} :
    Holds (SameSite site start) (fun _ _ => True) (demand condition message) world :=
  holds_demand same (fun _ => trivial) (fun _ => trivial)

theorem keeps_removeFile {name : String} (apart : name ∉ site.names) :
    Holds (SameSite site start) (fun _ _ => True) (removeFile name) world := by
  refine .bind (.read same ?_)
  dsimp only
  split
  · exact keeps_remove same apart
  · exact .pure same trivial

theorem keeps_matchesPublished {hash : Bytes → String} {path : String} {details : RecoveryDetails} :
    Holds (SameSite site start) (fun _ _ => True) (matchesPublished hash path details) world := by
  unfold matchesPublished
  split
  · exact .fail same trivial
  · exact .fail same trivial
  · exact .bind (.read same (.pure same trivial))

end

theorem holds_cleanupRenamedSource {crashed : World → Prop} {details : RecoveryDetails}
    (removal : ∀ old held disk, details.oldPath = some old → details.target ≠ some old → crashed held →
      held.disk.remove old = .ok disk → crashed { held with disk := disk }) (here : crashed world) :
    Holds crashed (fun _ _ => True) (cleanupRenamedSource details) world := by
  unfold cleanupRenamedSource
  split
  · exact .pure here trivial
  · next old given =>
    split
    · exact .fail here trivial
    · next target placed =>
      split
      · exact .pure here trivial
      · next different =>
        rw [beq_iff_eq] at different
        refine .bind (holds_required here (fun root _ => ?_) (fun _ _ => trivial))
        refine .bind (holds_required here (fun relative _ => ?_) (fun _ _ => trivial))
        refine .bind (holds_destination here (fun _ _ => ?_) (fun _ _ => trivial))
        refine .bind (.read here ?_)
        dsimp only
        split
        · exact .pure here trivial
        · refine .bind (holds_demand here (fun _ => ?_) (fun _ => trivial))
          refine holds_onDisk here (fun disk removed => ⟨removal old world disk given ?_ here removed, trivial⟩)
            (fun _ _ => trivial)
          rw [placed]
          exact fun same => different (some.inj same).symm

theorem keeps_cleanupRenamedSource {details : RecoveryDetails} (apart : site.Apart details) (same : SameSite site start world) :
    Holds (SameSite site start) (fun _ _ => True) (cleanupRenamedSource details) world :=
  holds_cleanupRenamedSource (fun old _ disk given _ kept removed =>
    sameSite_remove kept (apart old (.inr (.inr (.inr (.inl given))))) removed) same

theorem keeps_restoreTarget {hash : Bytes → String} {details : RecoveryDetails} {backup : String}
    (first : target ∉ site.names) (second : backup ∉ site.names) (same : SameSite site start world) :
    Holds (SameSite site start) (fun _ _ => True) (restoreTarget hash target backup details) world := by
  refine .bind (.read same ?_)
  dsimp only
  split
  · refine .bind (.read same ?_)
    dsimp only
    split
    · refine .onward (keeps_matchesPublished same) (fun _ after held => ?_)
      exact .onward (keeps_demand held) (fun _ after held => keeps_rename held second first)
    · exact keeps_rename same second first
  · refine .bind (.read same ?_)
    dsimp only
    split
    · refine .onward (keeps_matchesPublished same) (fun _ after held => ?_)
      exact .onward (keeps_demand held) (fun _ after held => keeps_remove held first)
    · exact .pure same trivial

theorem keeps_ownedPath {root path : String} (same : SameSite site start world) :
    Holds (SameSite site start) (fun _ _ => True) (ownedPath root path) world := by
  refine .onward (keeps_required same) (fun _ after held => ?_)
  refine .bind (holds_destination held (fun _ _ => ?_) (fun _ _ => trivial))
  exact keeps_demand held

theorem keeps_restoreSource {details : RecoveryDetails} {preserved : String} (first : source ∉ site.names)
    (second : preserved ∉ site.names) (same : SameSite site start world) :
    Holds (SameSite site start) (fun _ _ => True) (restoreSource source preserved details) world := by
  refine .bind (.read same ?_)
  dsimp only
  split
  · exact .pure same trivial
  · refine .onward (keeps_demand same) (fun _ after held => ?_)
    refine .onward (.bind (.read held ?_)) (fun _ after held => keeps_remove held second)
    dsimp only
    split
    · exact keeps_demand held
    · exact keeps_hardLink held preserved source first

theorem keeps_recoverCollision {details : RecoveryDetails} (id : String) (other : id ≠ site.id) (apart : site.Apart details)
    (same : SameSite site start world) :
    Holds (SameSite site start) (fun _ _ => True) (recoverCollision id details) world := by
  refine .bind (holds_required same (fun source first => ?_) (fun _ _ => trivial))
  refine .bind (holds_required same (fun preserved second => ?_) (fun _ _ => trivial))
  rw [requireText_ok] at first second
  refine .onward (keeps_required same) (fun root after held => ?_)
  refine .onward (keeps_ownedPath held) (fun _ after held => ?_)
  refine .onward (keeps_ownedPath held) (fun _ after held => ?_)
  refine .onward (keeps_demand held) (fun _ after held => ?_)
  refine .onward (keeps_restoreSource (apart source (.inr (.inr (.inr (.inr (.inl first))))))
    (apart preserved (.inr (.inr (.inr (.inr (.inr second)))))) held) (fun _ after held => ?_)
  refine holds_onStore held (fun store done => ?_) (fun _ _ => trivial)
  cases done
  exact ⟨sameSite_update held other _ (fun _ => rfl) (fun _ _ none => by cases none), trivial⟩

theorem keeps_recoverPublication {hash : Bytes → String} {row : String × PublicationState} (other : row.1 ≠ site.id)
    (same : SameSite site start world) :
    Holds (SameSite site start) (fun _ _ => True) (recoverPublication hash row) world := by
  refine .bind (holds_queried same (fun details found => ?_) (fun _ _ => trivial))
  obtain ⟨key, held, _, read, named, recorded⟩ := detailsOf_ok found
  have apart : site.Apart details := same.alone key held read (by rw [named]; exact other) details recorded
  dsimp only
  split
  · exact keeps_recoverCollision row.1 other apart same
  · refine .bind (holds_required same (fun target first => ?_) (fun _ _ => trivial))
    refine .bind (holds_required same (fun backup second => ?_) (fun _ _ => trivial))
    refine .bind (holds_required same (fun next third => ?_) (fun _ _ => trivial))
    rw [requireText_ok] at first second third
    have targetApart := apart target (.inl first)
    have backupApart := apart backup (.inr (.inl second))
    have nextApart := apart next (.inr (.inr (.inl third)))
    refine .onward (keeps_required same) (fun root after held => ?_)
    refine .onward (keeps_required held) (fun relative after held => ?_)
    refine .bind (holds_destination held (fun safe _ => ?_) (fun _ _ => trivial))
    refine .onward (keeps_demand held) (fun _ after held => ?_)
    split
    · refine .onward (keeps_cleanupRenamedSource apart held) (fun _ after held => ?_)
      refine .onward (keeps_removeFile held backupApart) (fun _ after held => ?_)
      refine .onward (keeps_removeFile held nextApart) (fun _ after held => ?_)
      refine holds_onStore held (fun store done => ?_) (fun _ _ => trivial)
      cases done
      exact ⟨sameSite_update held other _ (fun _ => rfl) (fun _ _ none => by cases none), trivial⟩
    · refine .onward (keeps_restoreTarget targetApart backupApart held) (fun _ after held => ?_)
      refine .onward (keeps_removeFile held nextApart) (fun _ after held => ?_)
      refine holds_onStore held (fun store done => ?_) (fun _ _ => trivial)
      cases done
      exact ⟨sameSite_update held other _ (fun _ => rfl) (fun _ _ none => by cases none), trivial⟩

end Frames

section Recovery
variable {site : Site} {hash : Bytes → String} {world : World}

def Site.Linked (site : Site) (disk : Disk String Bytes) : Prop :=
  ∃ held, disk.stat site.backup = some held ∧ disk.stat site.target = some held

theorem rename_present {disk : Disk String Bytes} (held : (disk.stat source).isSome = true) :
    ∃ after, disk.rename source target = .ok after := by
  unfold Disk.rename
  split
  · next absent =>
    rw [← disk.present_iff, Disk.present, absent] at held
    cases held
  · split
    · exact ⟨_, rfl⟩
    · exact ⟨_, rfl⟩

theorem remove_present {disk : Disk String Bytes} {name : String} (held : disk.present name = true) :
    ∃ after, disk.remove name = .ok after := by
  unfold Disk.remove
  rw [if_pos held]
  exact ⟨_, rfl⟩

theorem holds_changed {crashed : World → Prop} {ends : Except ServiceError Unit → World → Prop}
    {effect : Disk String Bytes → Except Errno (Disk String Bytes)} (here : crashed world)
    (succeeds : ∃ after, effect world.disk = .ok after)
    (done : ∀ disk, effect world.disk = .ok disk → crashed { world with disk := disk } ∧ ends (.ok ()) { world with disk := disk }) :
    Holds crashed ends (onDisk effect) world := by
  refine holds_onDisk here done (fun errno failed => ?_)
  obtain ⟨after, changed⟩ := succeeds
  rw [changed] at failed
  cases failed

theorem holds_removeFile {crashed : World → Prop} {ends : Except ServiceError Unit → World → Prop} {name : String} (here : crashed world)
    (done : ∀ disk : Disk String Bytes, (∀ other, disk.stat other = if other = name then none else world.disk.stat other) →
      crashed { world with disk := disk } ∧ ends (.ok ()) { world with disk := disk }) :
    Holds crashed ends (removeFile name) world := by
  refine .bind (.read here ?_)
  dsimp only
  split
  · next there =>
    refine holds_changed here (remove_present there) (fun disk removed => ?_)
    exact done disk (world.disk.stat_remove removed).2
  · next absent =>
    have gone : world.disk.stat name = none := by
      rw [world.disk.present_iff, not_isSome_iff_eq_none] at absent
      exact absent
    refine .pure here (done world.disk (fun other => ?_)).2
    split
    · next same => rw [same, gone]
    · rfl

theorem holds_matchesPublished {crashed : World → Prop} {ends : Except ServiceError Bool → World → Prop}
    {details : RecoveryDetails} (described : site.Describes hash world.symlink details) {path : String} (here : crashed world)
    (done : ends (.ok ((world.disk.stat path).any (fun found =>
      verifies hash site.content.length (hash site.content) found.2))) world) :
    Holds crashed ends (matchesPublished hash path details) world := by
  unfold matchesPublished
  rw [described.size, described.digest]
  exact .bind (.read here (.pure here done))

theorem Site.New.verifies {disk : Disk String Bytes} (new : site.New disk) :
    (disk.stat site.target).any (fun found => verifies hash site.content.length (hash site.content) found.2) = true := by
  obtain ⟨number, modified, read⟩ := new.target
  simp [read, PhotoSync.verifies]

structure Restored (site : Site) (before disk : Disk String Bytes) : Prop where
  target : disk.stat site.target = site.old
  linked : site.Linked before → disk.stat site.backup = site.old ∧ site.old ≠ none
  gone : ¬site.Linked before → disk.stat site.backup = none

theorem Restored.files {before disk : Disk String Bytes} (restored : Restored site before disk) : site.Files disk := by
  refine .kept restored.target ?_
  by_cases linked : site.Linked before
  · exact .inr (restored.linked linked).1
  · exact .inl (restored.gone linked)

def DiskOnly (site : Site) (world after : World) : Prop := ∃ disk, after = { world with disk := disk } ∧ site.Files disk

theorem restoreTarget_holds {details : RecoveryDetails} (described : site.Describes hash world.symlink details)
    (files : site.Files world.disk) :
    Holds (DiskOnly site world) (fun answer after => answer = .ok () ∧
        ∃ disk, after = { world with disk := disk } ∧ Restored site world.disk disk)
      (restoreTarget hash site.target site.backup details) world := by
  have here : DiskOnly site world world := ⟨world.disk, rfl, files⟩
  refine .bind (.read here ?_)
  dsimp only
  cases files with
  | kept target backup =>
    split
    · next there =>
      rw [world.disk.present_iff] at there
      have same : world.disk.stat site.backup = site.old := by
        rcases backup with absent | same
        · rw [absent] at there
          cases there
        · exact same
      rw [same, isSome_iff_exists] at there
      obtain ⟨⟨inode, file⟩, old⟩ := there
      have unchanged : (site.old.isSome && site.old.map (fun held => fileStamp held.2) != details.oldStamp) = false := by
        simp [described.oldStamp]
      refine .bind (.read here ?_)
      dsimp only
      rw [target, unchanged, if_neg Bool.false_ne_true]
      refine holds_changed here (rename_present (by rw [same, old]; rfl)) (fun disk renamed => ?_)
      have inodes : world.disk.names site.backup = world.disk.names site.target := by
        rw [world.disk.stat_inode (same.trans old), world.disk.stat_inode (target.trans old)]
      rcases (world.disk.stat_rename renamed).2 with ⟨_, rfl⟩ | ⟨apart, _⟩
      · refine ⟨⟨_, rfl, .kept target backup⟩, rfl, _, rfl, target, fun _ => ⟨same, ?_⟩, fun unlinked => ?_⟩
        · rw [old]
          exact some_ne_none _
        · exact absurd ⟨(inode, file), same.trans old, target.trans old⟩ unlinked
      · exact absurd inodes apart
    · next absent =>
      rw [world.disk.present_iff, not_isSome_iff_eq_none] at absent
      refine .bind (.read here ?_)
      dsimp only
      have nothing : (details.hadOld == some false && world.disk.present site.target) = false := by
        rw [described.hadOld, world.disk.present_iff, target]
        cases site.old <;> rfl
      rw [nothing]
      refine .pure here ⟨rfl, world.disk, rfl, target, fun linked => ?_, fun _ => absent⟩
      obtain ⟨held, found, _⟩ := linked
      rw [absent] at found
      cases found
  | placed new backup =>
    have apart : ¬site.Linked world.disk := by
      rintro ⟨held, first, second⟩
      exact new.apart held first second
    split
    · next there =>
      rw [world.disk.present_iff] at there
      have renames : Holds (DiskOnly site world) (fun answer after => answer = .ok () ∧
          ∃ disk, after = { world with disk := disk } ∧ Restored site world.disk disk)
          (onDisk (fun disk => disk.rename site.backup site.target)) world := by
        refine holds_changed here (rename_present there) (fun disk renamed => ?_)
        rcases (world.disk.stat_rename renamed).2 with ⟨equal, _⟩ | ⟨_, stats⟩
        · rw [isSome_iff_exists] at there
          obtain ⟨held, found⟩ := there
          exact absurd ⟨held, found, by rw [← world.disk.stat_of_names equal]; exact found⟩ apart
        · have restored : Restored site world.disk disk := by
            refine ⟨?_, fun linked => absurd linked apart, fun _ => ?_⟩
            · rw [stats, if_neg (Ne.symm site.backupApart), if_pos rfl, backup]
            · rw [stats, if_pos rfl]
          exact ⟨⟨disk, rfl, restored.files⟩, rfl, disk, rfl, restored⟩
      refine .bind (.read here ?_)
      dsimp only
      split
      · refine .bind (holds_matchesPublished described here ?_)
        rw [new.verifies]
        refine .bind (holds_demand here (fun _ => renames) (fun never => by cases never))
      · exact renames
    · next absent =>
      rw [world.disk.present_iff, not_isSome_iff_eq_none] at absent
      refine .bind (.read here ?_)
      obtain ⟨number, modified, read⟩ := new.target
      have none : site.old = none := backup.symm.trans absent
      have there : world.disk.present site.target = true := by
        rw [world.disk.present_iff, read]
        rfl
      rw [described.hadOld, none, there]
      refine .bind (holds_matchesPublished described here ?_)
      rw [new.verifies]
      refine .bind (holds_demand here (fun _ => ?_) (fun never => by cases never))
      refine holds_changed here (remove_present there) (fun disk removed => ?_)
      have stats := (world.disk.stat_remove removed).2
      have restored : Restored site world.disk disk := by
        refine ⟨?_, fun linked => absurd linked apart, fun _ => ?_⟩
        · rw [stats, if_pos rfl, none]
        · rw [stats, if_neg site.backupApart, absent]
      exact ⟨⟨disk, rfl, restored.files⟩, rfl, disk, rfl, restored⟩

def NewOnly (site : Site) (world after : World) : Prop := ∃ disk, after = { world with disk := disk } ∧ site.New disk

theorem Site.New.remove {disk after : Disk String Bytes} (new : site.New disk) (name : String) (apart : name ≠ site.target)
    (stats : ∀ other, after.stat other = if other = name then none else disk.stat other) : site.New after := by
  have target : after.stat site.target = disk.stat site.target := by rw [stats, if_neg (Ne.symm apart)]
  refine ⟨?_, fun held found => ?_⟩
  · rw [target]
    exact new.target
  · rw [target]
    rw [stats] at found
    split at found
    · cases found
    · exact new.apart held found

theorem cleanupRenamedSource_new {details : RecoveryDetails} {start : World} (given : details.target = some site.target)
    (here : NewOnly site start world) :
    Holds (NewOnly site start) (fun _ _ => True) (cleanupRenamedSource details) world := by
  refine holds_cleanupRenamedSource (fun old held disk _ apart kept removed => ?_) here
  obtain ⟨before, rfl, new⟩ := kept
  refine ⟨disk, rfl, new.remove old (fun same => apart ?_) (before.stat_remove removed).2⟩
  rw [given, same]

theorem standing_update (change : Publication → Publication)
    (own : ∀ row, (change row).publicationId = row.publicationId ∧ (change row).job = row.job) {job : Nat}
    {later : PublicationState} {details recorded : Option RecoveryDetails}
    (changes : ∀ row, row.state = state → row.details = details → (change row).state = later ∧ (change row).details = recorded)
    (standing : s.standing id = some ⟨job, state, details⟩) :
    (s.updatePublication id change).standing id = some ⟨job, later, recorded⟩ := by
  unfold Store.standing at standing ⊢
  rw [publicationOf_update s id change (fun row => (own row).1)]
  obtain ⟨⟨key, row⟩, found, same⟩ := map_eq_some_iff.mp standing
  simp only [Standing.mk.injEq] at same
  obtain ⟨first, second⟩ := changes row same.2.1 same.2.2
  simp [found, (own row).2, same.1, first, second]

theorem standing_details {s : Store} {id : String} (message : String) {standing : Standing} (found : s.standing id = some standing) :
    s.detailsOf id message = match standing.details with
      | some details => .ok details
      | none => invalid message := by
  obtain ⟨row, located, rfl⟩ := map_eq_some_iff.mp found
  unfold detailsOf
  rw [located]
  rfl

variable {symlink : String → Bool}

structure Recovered (site : Site) (before : Disk String Bytes) (world : World) : Prop where
  settled : site.Settled world
  closed : ∀ standing, world.store.standing site.id = some standing → standing.details = none
  next : world.disk.stat site.next = none
  backup : world.disk.stat site.backup = none ↔ ¬site.Linked before

theorem recoverPublishing_holds {details : RecoveryDetails} (interrupted : site.Interrupted hash symlink world)
    (described : site.Describes hash world.symlink details)
    (standing : world.store.standing site.id = some ⟨site.job, .publishing, some details⟩)
    (files : site.Files world.disk) :
    Holds (site.Interrupted hash symlink) (fun answer after => answer = .ok () ∧ Recovered site world.disk after)
      (do
        restoreTarget hash site.target site.backup details
        removeFile site.next
        onStore (fun s => .ok (s.rollback site.id))) world := by
  have crash : ∀ after, DiskOnly site world after → site.Interrupted hash symlink after := by
    rintro _ ⟨disk, rfl, held⟩
    exact ⟨interrupted.links, interrupted.distinct, interrupted.alone, .publishing details described standing held⟩
  refine .bind ((restoreTarget_holds described files).mono crash ?_)
  rintro answer _ _ ⟨rfl, disk, rfl, restored⟩
  refine .bind (holds_removeFile (crash _ ⟨disk, rfl, restored.files⟩) (fun later stats => ?_))
  have target : later.stat site.target = site.old := by
    rw [stats, if_neg (Ne.symm site.nextApart), restored.target]
  have backup : later.stat site.backup = disk.stat site.backup := by
    rw [stats, if_neg (Ne.symm site.temporaries)]
  have kept : site.Files later := by
    refine .kept target ?_
    rw [backup]
    by_cases linked : site.Linked world.disk
    · exact .inr (restored.linked linked).1
    · exact .inl (restored.gone linked)
  refine ⟨crash _ ⟨later, rfl, kept⟩, ?_⟩
  have rolled : (world.store.rollback site.id).standing site.id = some ⟨site.job, .pending, none⟩ := standing_update _
    (fun _ => by exact ⟨rfl, rfl⟩)
    (fun row state _ => by exact ⟨by rw [if_pos state], rfl⟩) standing
  refine holds_onStore (crash _ ⟨later, rfl, kept⟩) (fun store done => ?_) (fun failure failed => by cases failed)
  cases done
  refine ⟨⟨interrupted.links, distinct_updatePublication _ (fun _ => rfl) interrupted.distinct,
    alone_update _ _ _ interrupted.alone (fun _ => rfl) (fun other => absurd rfl other), .before rolled target⟩, rfl,
    .pending rolled target, fun held found => ?_, ?_, ?_⟩
  · rw [some.inj (found.symm.trans rolled)]
  · dsimp only
    rw [stats, if_pos rfl]
  · dsimp only
    rw [backup]
    by_cases linked : site.Linked world.disk
    · have held := restored.linked linked
      simp [held.1, held.2, linked]
    · simp [restored.gone linked, linked]

theorem recoverComplete_holds {details : RecoveryDetails} (interrupted : site.Interrupted hash symlink world)
    (described : site.Describes hash world.symlink details)
    (standing : world.store.standing site.id = some ⟨site.job, .complete, some details⟩) (new : site.New world.disk) :
    Holds (site.Interrupted hash symlink) (fun answer after => site.Settled after ∧ (answer = .ok () → Recovered site world.disk after))
      (do
        cleanupRenamedSource details
        removeFile site.backup
        removeFile site.next
        onStore (fun s => .ok (s.cleanPublication site.id))) world := by
  have crash : ∀ after, NewOnly site world after → site.Interrupted hash symlink after := by
    rintro _ ⟨disk, rfl, held⟩
    exact ⟨interrupted.links, interrupted.distinct, interrupted.alone,
      .complete (some details) (fun recorded same => by cases same; exact described) standing held⟩
  have settled : ∀ after, NewOnly site world after → site.Settled after := by
    rintro _ ⟨disk, rfl, held⟩
    exact .complete (some details) standing held.target
  refine .bind ((cleanupRenamedSource_new described.target ⟨world.disk, rfl, new⟩).mono crash ?_)
  intro answer after here _
  cases answer with
  | error => exact ⟨settled after here, fun never => by cases never⟩
  | ok =>
    obtain ⟨disk, rfl, held⟩ := here
    refine .bind (holds_removeFile (crash _ ⟨disk, rfl, held⟩) (fun second stats => ?_))
    have unbacked := held.remove site.backup site.backupApart stats
    refine ⟨crash _ ⟨second, rfl, unbacked⟩, ?_⟩
    refine .bind (holds_removeFile (crash _ ⟨second, rfl, unbacked⟩) (fun third others => ?_))
    have cleared := unbacked.remove site.next site.nextApart others
    refine ⟨crash _ ⟨third, rfl, cleared⟩, ?_⟩
    have cleaned : (world.store.cleanPublication site.id).standing site.id = some ⟨site.job, .complete, none⟩ :=
      standing_update _ (fun _ => by exact ⟨rfl, rfl⟩) (fun row state _ => by exact ⟨state, rfl⟩) standing
    refine holds_onStore (crash _ ⟨third, rfl, cleared⟩) (fun store done => ?_) (fun failure failed => by cases failed)
    cases done
    have finished : site.Settled { world with disk := third, store := world.store.cleanPublication site.id } :=
      .complete none cleaned cleared.target
    refine ⟨⟨interrupted.links, distinct_updatePublication _ (fun _ => rfl) interrupted.distinct,
      alone_update _ _ _ interrupted.alone (fun _ => rfl) (fun other => absurd rfl other),
      .complete none (fun _ never => by cases never) cleaned cleared⟩, finished, fun _ => ⟨finished, ?_, ?_, ?_⟩⟩
    · intro standing found
      rw [some.inj (found.symm.trans cleaned)]
    · dsimp only
      rw [others, if_pos rfl]
    · dsimp only at others stats ⊢
      rw [others, if_neg (Ne.symm site.temporaries), stats, if_pos rfl]
      refine ⟨fun _ linked => ?_, fun _ => rfl⟩
      obtain ⟨held, first, second⟩ := linked
      exact new.apart held first second

theorem holds_checked {crashed : World → Prop} {ends : Except ServiceError Unit → World → Prop} {details : RecoveryDetails}
    {state : PublicationState} (here : crashed world) (described : site.Describes hash world.symlink details)
    (standing : world.store.standing site.id = some ⟨site.job, state, some details⟩)
    (rest : Holds crashed ends (if state == .complete then do
        cleanupRenamedSource details
        removeFile site.backup
        removeFile site.next
        onStore (fun s => .ok (s.cleanPublication site.id))
      else do
        restoreTarget hash site.target site.backup details
        removeFile site.next
        onStore (fun s => .ok (s.rollback site.id))) world) :
    Holds crashed ends (recoverPublication hash (site.id, state)) world := by
  have found := standing_details "missing publication recovery details" standing
  obtain ⟨root, relative, given, under, safe⟩ := described.path
  unfold recoverPublication
  refine .bind (holds_queried here (fun value read => ?_) (fun failure failed => by rw [found] at failed; cases failed))
  rw [found] at read
  cases read
  dsimp only
  rw [described.collision, if_neg Bool.false_ne_true]
  refine .bind (holds_given described.target here (.bind (holds_given described.backup here ?_)))
  refine .bind (holds_given described.next here (.bind (holds_given given here ?_)))
  refine .bind (holds_given under here ?_)
  refine .bind (holds_destination here (fun path reached => ?_) (fun failure failed => by rw [safe] at failed; cases failed))
  rw [safe] at reached
  cases reached
  refine .bind (holds_demand here (fun _ => rest) (fun failed => ?_))
  simp [described.parents] at failed

theorem recoverPublication_own (interrupted : site.Interrupted hash symlink world) {details : RecoveryDetails}
    (standing : world.store.standing site.id = some ⟨site.job, state, some details⟩) :
    Holds (site.Interrupted hash symlink)
      (fun answer after => site.Settled after ∧ (answer = .ok () → Recovered site world.disk after))
      (recoverPublication hash (site.id, state)) world := by
  cases interrupted.phase with
  | before other =>
    rw [standing] at other
    cases other
  | publishing recorded described other files =>
    rw [standing] at other
    cases other
    refine holds_checked interrupted described standing ?_
    refine (recoverPublishing_holds interrupted described standing files).mono (fun _ held => held) ?_
    rintro answer after _ ⟨_, recovered⟩
    exact ⟨recovered.settled, fun _ => recovered⟩
  | complete recorded described other new =>
    rw [standing] at other
    cases other
    have own := described details rfl
    exact holds_checked interrupted own standing (recoverComplete_holds interrupted own standing new)

end Recovery

section Loop
variable {site : Site} {hash : Bytes → String} {symlink : String → Bool}

theorem SameSite.interrupted {start world : World} (same : SameSite site start world)
    (interrupted : site.Interrupted hash symlink start) : site.Interrupted hash symlink world :=
  ⟨same.links.trans interrupted.links, same.distinct, same.alone, same.phase interrupted.phase⟩

theorem SameSite.recovered {before : Disk String Bytes} {start world : World} (same : SameSite site start world)
    (recovered : Recovered site before start) : Recovered site before world := by
  refine ⟨same.settled recovered.settled, fun standing found => ?_, ?_, ?_⟩
  · exact recovered.closed standing (same.standing.symm.trans found)
  · exact (same.stats site.next (by simp [Site.names])).trans recovered.next
  · rw [same.stats site.backup (by simp [Site.names])]
    exact recovered.backup

theorem other_keeps {hold : World → Prop} {world : World} (closed : ∀ start after, SameSite site start after →
      hold start → hold after) (row : String × PublicationState) (other : row.1 ≠ site.id)
    (interrupted : site.Interrupted hash symlink world) (held : hold world) :
    Holds (fun after => site.Interrupted hash symlink after ∧ hold after) (fun _ _ => True) (recoverPublication hash row)
      world :=
  (keeps_recoverPublication other (.refl interrupted.distinct interrupted.alone)).mono
    (fun _ same => ⟨same.interrupted interrupted, closed _ _ same held⟩) (fun _ _ _ _ => trivial)

theorem closed_stays {hold : World → Prop} {world : World} (rows : List (String × PublicationState))
    (closed : ∀ start after, SameSite site start after → hold start → hold after)
    (unrecorded : ∀ start, hold start → ∀ standing, start.store.standing site.id = some standing → standing.details = none)
    (interrupted : site.Interrupted hash symlink world) (held : hold world) :
    Holds (fun after => site.Interrupted hash symlink after ∧ hold after) (fun _ _ => True)
      (forEach (recoverPublication hash) rows) world := by
  refine .forEach ⟨interrupted, held⟩ (fun row _ start here => ?_)
  by_cases own : row.1 = site.id
  · refine .bind (holds_queried here (fun details found => ?_) (fun _ _ => trivial))
    obtain ⟨key, row, located, _, _, recorded⟩ := detailsOf_ok found
    rw [own] at located
    have none := unrecorded start here.2 ⟨row.job, row.state, row.details⟩ (by simp [standing, located])
    rw [recorded] at none
    cases none
  · exact other_keeps closed row own here.1 here.2

theorem loop_recovers {start world : World} (rows : List (String × PublicationState)) {details : RecoveryDetails}
    (interrupted : site.Interrupted hash symlink start)
    (standing : start.store.standing site.id = some ⟨site.job, state, some details⟩)
    (states : ∀ row ∈ rows, row.1 = site.id → row.2 = state) (member : (site.id, state) ∈ rows)
    (same : SameSite site start world) :
    Holds (site.Interrupted hash symlink)
      (fun answer after => (answer = .ok () → Recovered site start.disk after) ∧ ((∀ row ∈ rows, row.1 = site.id) → site.Settled after))
      (forEach (recoverPublication hash) rows) world := by
  induction rows generalizing world with
  | nil => cases member
  | cons row rest ih =>
    have here := same.interrupted interrupted
    by_cases own : row.1 = site.id
    · have shape : row = (site.id, state) := Prod.ext own (states row List.mem_cons_self own)
      have stats : ∀ held, world.disk.stat site.backup = some held ∧ world.disk.stat site.target = some held ↔
          start.disk.stat site.backup = some held ∧ start.disk.stat site.target = some held := fun held => by
        rw [same.stats site.backup (by simp [Site.names]), same.stats site.target (by simp [Site.names])]
      have linked : site.Linked world.disk ↔ site.Linked start.disk := exists_congr stats
      rw [shape]
      refine .bind ((recoverPublication_own here (same.standing.trans standing)).mono
        (fun _ held => held) ?_)
      rintro answer after held ⟨settled, recovers⟩
      cases answer with
      | error => exact ⟨fun never => (by cases never), fun _ => settled⟩
      | ok =>
        have recovered := recovers rfl
        have kept : Recovered site start.disk after :=
          ⟨recovered.settled, recovered.closed, recovered.next, recovered.backup.trans (not_congr linked)⟩
        refine (closed_stays rest (fun _ _ same => same.recovered) (fun _ recovered => recovered.closed) held kept).mono
          (fun _ both => both.1) ?_
        intro answer last both _
        exact ⟨fun _ => both.2, fun _ => both.2.settled⟩
    · have others : (site.id, state) ∈ rest := by
        rcases List.mem_cons.mp member with first | later
        · exact absurd (congrArg Prod.fst first).symm own
        · exact later
      refine .bind ((keeps_recoverPublication own same).mono
        (fun _ held => SameSite.interrupted held interrupted) ?_)
      intro answer after held _
      have notAlone : ¬∀ other ∈ row :: rest, other.1 = site.id := fun all => own (all row List.mem_cons_self)
      cases answer with
      | error => exact ⟨fun never => (by cases never), fun all => absurd all notAlone⟩
      | ok =>
        refine (ih (fun other later => states other (List.mem_cons_of_mem _ later)) others held).mono
          (fun _ kept => kept) ?_
        rintro answer last _ ⟨recovers, _⟩
        exact ⟨recovers, fun all => absurd all notAlone⟩

theorem unrecorded_settled {world : World} (interrupted : site.Interrupted hash symlink world)
    (unrecorded : ∀ standing, world.store.standing site.id = some standing → standing.details = none) :
    site.Settled world := by
  cases interrupted.phase with
  | before standing target => exact .pending standing target
  | publishing details _ standing =>
    have none := unrecorded _ standing
    cases none
  | complete details _ standing new => exact .complete details standing new.target

def Site.Only (site : Site) (s : Store) : Prop :=
  ∀ key row, s.publications.get key = some row → recorded site.job row = true → row.publicationId = site.id

theorem recoverPublications_holds {world : World} (interrupted : site.Interrupted hash symlink world) :
    Holds (site.Interrupted hash symlink)
      (fun answer after => (answer = .ok () ∨ site.Only world.store → site.Settled after) ∧
        (answer = .ok () → ∀ standing details, world.store.standing site.id = some standing →
          standing.details = some details → Recovered site world.disk after))
      (recoverPublications hash site.job) world := by
  refine .bind (.read interrupted ?_)
  generalize listed : (world.store.publications.select (fun _ row => recorded site.job row)).map (fun found =>
    (found.2.publicationId, found.2.state)) = rows
  have origin : ∀ row ∈ rows, ∃ key publication, world.store.publications.get key = some publication ∧
      recorded site.job publication = true ∧ row = (publication.publicationId, publication.state) := by
    intro row member
    rw [← listed, List.mem_map] at member
    obtain ⟨⟨key, publication⟩, there, rfl⟩ := member
    obtain ⟨read, picked⟩ := mem_select.mp there
    exact ⟨key, publication, read, picked, rfl⟩
  by_cases recordedHere : ∃ standing details, world.store.standing site.id = some standing ∧ standing.details = some details
  · obtain ⟨standing, details, found, held⟩ := recordedHere
    obtain ⟨⟨key, own⟩, located, rfl⟩ := map_eq_some_iff.mp found
    obtain ⟨read, named⟩ := first?_some located
    rw [beq_iff_eq] at named
    dsimp only at held
    have unfinished : own.job = site.job ∧ (own.state = .publishing ∨ own.state = .complete) := by
      cases interrupted.phase with
      | before other =>
        rw [found] at other
        simp only [some.injEq, Standing.mk.injEq] at other
        rw [other.2.2] at held
        cases held
      | publishing _ _ other =>
        rw [found] at other
        simp only [some.injEq, Standing.mk.injEq] at other
        exact ⟨other.1, .inl other.2.1⟩
      | complete _ _ other =>
        rw [found] at other
        simp only [some.injEq, Standing.mk.injEq] at other
        exact ⟨other.1, .inr other.2.1⟩
    have member : (site.id, own.state) ∈ rows := by
      rw [← listed, List.mem_map]
      refine ⟨(key, own), mem_select.mpr ⟨read, ?_⟩, by rw [named]⟩
      have isSome : own.details.isSome = true := by
        rw [held]
        rfl
      rcases unfinished with ⟨job, state | state⟩ <;> simp [recorded, job, state, isSome]
    have states : ∀ row ∈ rows, row.1 = site.id → row.2 = own.state := by
      intro row there same
      obtain ⟨other, publication, present, _, rfl⟩ := origin row there
      have equal := interrupted.distinct other key publication own present read (same.trans named.symm)
      subst equal
      rw [some.inj (present.symm.trans read)]
    have standing : world.store.standing site.id = some ⟨site.job, own.state, some details⟩ := by
      rw [found, ← held, unfinished.1]
    refine (loop_recovers rows interrupted standing states member
      (.refl interrupted.distinct interrupted.alone)).mono (fun _ kept => kept) ?_
    rintro answer after _ ⟨recovers, settles⟩
    refine ⟨fun which => ?_, fun done _ _ _ _ => recovers done⟩
    rcases which with done | only
    · exact (recovers done).settled
    · refine settles (fun row there => ?_)
      obtain ⟨other, publication, present, picked, rfl⟩ := origin row there
      exact only other publication present picked
  · have unrecorded : ∀ standing, world.store.standing site.id = some standing → standing.details = none := by
      intro standing found
      cases held : standing.details with
      | none => rfl
      | some details => exact absurd ⟨standing, details, found, held⟩ recordedHere
    have settled := unrecorded_settled interrupted unrecorded
    have stays : Holds (fun after => site.Interrupted hash symlink after ∧ site.Settled after ∧
        ∀ standing, after.store.standing site.id = some standing → standing.details = none) (fun _ _ => True)
        (forEach (recoverPublication hash) rows) world :=
      closed_stays rows (fun _ _ same kept =>
          ⟨same.settled kept.1, fun standing found => kept.2 standing (same.standing.symm.trans found)⟩)
        (fun _ kept => kept.2) interrupted ⟨settled, unrecorded⟩
    refine stays.mono (fun _ both => both.1) ?_
    rintro answer after ⟨_, kept, _⟩ _
    refine ⟨fun _ => kept, fun _ standing details found held => ?_⟩
    exact absurd ⟨standing, details, found, held⟩ recordedHere

end Loop
end PhotoSync
