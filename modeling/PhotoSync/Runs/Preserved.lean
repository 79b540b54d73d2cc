import PhotoSync.Runs.Published
import PhotoSync.Runs.Session

set_option autoImplicit false

namespace PhotoSync
open Relational Transaction Durable Posix Program Store Table Option List
variable {id relative root stem message : String} {s t store : Store} {α : Type}
variable {crashed : World → Prop} {ends : Except ServiceError Unit → World → Prop} {parent path : String} {entry : Nat}

section Names

theorem preservedName_mem {path stem : String} (number : Nat) (letter : Char) (stemmed : fileStem path = some stem)
    (member : letter ∈ (preservedName path stem number).toList) :
    letter ∈ fileName path ∨ letter = '_' ∨ letter = '.' ∨ letter.isDigit = true := by
  have inStem : ∀ letter ∈ stem.toList, letter ∈ fileName path := by
    intro letter inside
    unfold fileStem at stemmed
    dsimp only at stemmed
    split at stemmed
    · cases stemmed
    · cases stemmed
      rw [String.toList_ofList] at inside
      exact stem_mem inside
  unfold preservedName at member
  simp only [String.toList_append, mem_append] at member
  rcases member with ((inside | inside) | inside) | inside
  · exact .inl (inStem letter inside)
  · exact .inr (.inl (mem_singleton.mp inside))
  · refine .inr (.inr (.inr ?_))
    rw [show toString number = number.repr from rfl, Nat.toList_repr] at inside
    exact Nat.isDigit_of_mem_toDigits (by omega) (by omega) inside
  · cases ending : (splitExtension (fileName path)).2 with
    | none => simp [ending] at inside
    | some =>
      simp only [ending, elim_some, String.toList_append, mem_append, String.toList_ofList] at inside
      rcases inside with dot | later
      · exact .inr (.inr (.inl (mem_singleton.mp dot)))
      · exact .inl (extension_mem ending later)

theorem preservedName_normal (path stem : String) (number : Nat) (stemmed : fileStem path = some stem)
    (own : NormalSegment (fileName path)) : NormalSegment (preservedName path stem number).toList := by
  have score : '_' ∈ (preservedName path stem number).toList := by
    unfold preservedName
    simp
  have absent : ∀ letter, letter ∉ fileName path → letter ≠ '_' → letter ≠ '.' → letter.isDigit = false →
      letter ∉ (preservedName path stem number).toList := by
    intro letter outside score dot plain member
    rcases preservedName_mem number letter stemmed member with inside | same | same | digit
    · exact outside inside
    · exact score same
    · exact dot same
    · simp [plain] at digit
  refine ⟨?_, ?_, ?_, absent _ own.slash ?_ ?_ ?_, absent _ own.backslash ?_ ?_ ?_, absent _ own.zero ?_ ?_ ?_⟩
  · intro empty
    simp [empty] at score
  · intro same
    simp [same] at score
  · intro same
    simp [same] at score
  all_goals decide

def Reachable (symlink : String → Bool) (root path : String) : Prop :=
  ∃ relative, relativeUnder root path = some relative ∧ safeDestination symlink root relative = .ok path

theorem preserved_reachable {symlink : String → Bool} {source : String} {number : Nat}
    (safe : safeDestination symlink root relative = .ok source) (above : parentPath source = some parent)
    (stemmed : fileStem source = some stem) (plain : symlink (joinPath parent (preservedName source stem number)) = false) :
    Reachable symlink root (joinPath parent (preservedName source stem number)) ∧
      parentPath (joinPath parent (preservedName source stem number)) = some parent := by
  obtain ⟨segments, some, normal, clear, rfl⟩ := safeDestination_ok safe
  obtain ⟨front, last, rfl⟩ : ∃ front last, segments = front ++ [last] :=
    ⟨segments.dropLast, segments.getLast some, (dropLast_append_getLast some).symm⟩
  have own := normal last (by simp)
  have named := fileName_concat (underRoot_concat root front last) own.slash
  have fresh := preservedName_normal _ stem number stemmed (by rw [named]; exact own)
  generalize preservedName (underRoot root (joinSegments (front ++ [last]))) stem number = name at plain fresh ⊢
  rw [parentPath_concat (underRoot_concat root front last) own.filled own.slash, Option.some.injEq] at above
  have joined : joinPath parent name = underRoot root (joinSegments (front ++ [name.toList])) := by
    rw [← above, ← joinPath_directoryOf root name.toList (fun segment member => normal segment (by simp [member])), String.ofList_toList]
  rw [joined] at plain ⊢
  have everySegment : ∀ segment ∈ front ++ [name.toList], NormalSegment segment := by
    intro segment member
    rcases mem_append.mp member with before | same
    · exact normal segment (mem_append_left _ before)
    · rw [mem_singleton.mp same]
      exact fresh
  refine ⟨⟨joinSegments (front ++ [name.toList]), (relativeUnder_eq_some).mpr rfl, ?_⟩, ?_⟩
  · exact safeDestination_join (by simp) everySegment
      (noSymlink_beside clear plain)
  · rw [parentPath_concat (underRoot_concat root front name.toList) fresh.filled fresh.slash, above]

end Names

section Journal

theorem publicationOf_insert (s : Store) (row : Publication) (absent : s.publicationOf row.publicationId = none) :
    ({ s with publications := s.publications.insert row } : Store).publicationOf row.publicationId =
      some (s.publications.next, row) := by
  unfold publicationOf at *
  rw [first?_insert, absent]
  simp

theorem standing_insert {row : Publication} (absent : s.publicationOf row.publicationId = none) :
    ({ s with publications := s.publications.insert row } : Store).standing id =
      if id = row.publicationId then some ⟨row.job, row.state, row.details⟩ else s.standing id := by
  unfold standing publicationOf at *
  rw [first?_insert]
  by_cases same : id = row.publicationId
  · subst same
    simp [absent]
  · simp [same, Ne.symm same]

theorem standing_update_other (s : Store) {other : String} (change : Publication → Publication)
    (own : ∀ row, (change row).publicationId = row.publicationId) (apart : other ≠ id) :
    (s.updatePublication id change).standing other = s.standing other := by
  unfold standing
  rw [publicationOf_update_other s change own (Ne.symm apart)]

theorem standing_of_publications (same : t.publications = s.publications) (id : String) : t.standing id = s.standing id := by
  unfold standing publicationOf
  rw [same]

theorem relocateEntry_ok {found : Nat × String} (done : s.relocateEntry found = .ok t) :
    t.publications = s.publications ∧ t.media = s.media ∧ t.jobs = s.jobs ∧
      ∀ entry, t.entries.get entry = if entry = found.1 then (s.entries.get entry).map (Entry.relocate found.2)
        else s.entries.get entry := by
  obtain ⟨moved, placed, rest⟩ := bind_ok.mp done
  cases rest
  obtain rfl := setEntryPath_eq placed
  exact ⟨rfl, rfl, rfl, fun entry => get_modify _ _ _ entry⟩

theorem relocated_path (followers : List (Nat × String)) {row : Entry} (read : s.entries.get entry = some row)
    (member : (entry, relative) ∈ followers) (one : ∀ found ∈ followers, found.1 = entry → found.2 = relative)
    (done : followers.foldlM relocateEntry s = .ok t) :
    ∃ after, t.entries.get entry = some after ∧ after.media = row.media ∧ after.relativePath = relative := by
  -- What is still to come leads to the path, or the entry is there already.
  obtain ⟨_, after, found, linked, reached⟩ := loop_remaining
    (fun rest s => (∀ found ∈ rest, found.1 = entry → found.2 = relative) ∧
      ∃ after, s.entries.get entry = some after ∧ after.media = row.media ∧ ((entry, relative) ∈ rest ∨ after.relativePath = relative))
    (fun item rest before after held stepped => by
      obtain ⟨alike, old, present, linked, way⟩ := held
      obtain ⟨_, _, _, entries⟩ := relocateEntry_ok stepped
      refine ⟨fun found later => alike found (mem_cons_of_mem _ later), ?_⟩
      by_cases same : entry = item.1
      · refine ⟨Entry.relocate item.2 old, ?_, linked, .inr (alike item mem_cons_self same.symm)⟩
        rw [entries, if_pos same, present]
        rfl
      · refine ⟨old, by rw [entries, if_neg same, present], linked, ?_⟩
        rcases way with later | arrived
        · rcases mem_cons.mp later with head | tail
          · exact absurd (congrArg Prod.fst head) same
          · exact .inl tail
        · exact .inr arrived) ⟨one, row, read, rfl, .inl member⟩ done
  exact ⟨after, found, linked, reached.resolve_left (by simp)⟩

theorem followers_path {media : Nat} {row : Entry} {owner : Job} (read : s.entries.get entry = some row)
    (linked : row.media = some media) (job : s.jobs.get row.job = some owner)
    (below : relativeUnder owner.localRoot path = some relative) :
    (entry, relative) ∈ s.followers media path ∧ ∀ found ∈ s.followers media path, found.1 = entry → found.2 = relative := by
  unfold followers
  constructor
  · rw [mem_filterMap]
    exact ⟨(entry, row), mem_select.mpr ⟨read, by simp [linked]⟩, by simp [job, below]⟩
  · intro found member same
    rw [mem_filterMap] at member
    obtain ⟨⟨key, other⟩, selected, shape⟩ := member
    have held := (mem_select.mp selected).1
    split at shape
    · cases shape
    · next owner' found' =>
      obtain ⟨relative', below', rfl⟩ := map_eq_some_iff.mp shape
      subst same
      rw [read] at held
      cases held
      rw [job] at found'
      cases found'
      rw [below] at below'
      exact (some.inj below').symm

structure Renames (call : CollisionCall) (s t : Store) (preserved : String) : Prop where
  entry : ∀ owner, s.jobs.get call.job = some owner → owner.localRoot = call.root →
    ∃ after, t.entries.get call.entry.entryId = some after ∧ underRoot call.root after.relativePath = preserved
  media : ∀ row media, s.entries.get call.entry.entryId = some row → row.media = some media →
    ∃ after, t.media.get media = some after ∧ after.path = preserved

theorem captureOf_some (found : Nat × Publication) {capture held : Capture} (located : s.publicationOf id = some found)
    (own : found.2.capture = some capture) (done : s.captureOf id message = .ok held) : held = capture := by
  unfold captureOf at done
  rw [located, bind_some, own] at done
  cases done
  rfl

theorem finishCollision_renames {platform : Platform} {call : CollisionCall} {preserved : String}
    {identity : FileIdentity} {found : Nat × Publication} (located : s.publicationOf id = some found)
    (captured : found.2.capture = some call.capture) (recorded : found.2.details = some (call.details identity preserved))
    (below : (relativeUnder call.root preserved).isSome = true) (done : s.finishCollision platform id = .ok t) :
    Renames call s t preserved ∧ t.jobs = s.jobs ∧ (∀ other, other ≠ id → t.standing other = s.standing other) ∧
      t.standing id = some ⟨found.2.job, .complete, none⟩ := by
  obtain ⟨capture, own, details, told, _, checked, source, first, rest⟩ := bind4_ok done
  obtain ⟨place, second, row, read, media, linked, folder, _, rest⟩ := bind4_ok rest
  obtain ⟨moved, placed, last, followed, rest⟩ := bind2_ok rest
  cases rest
  obtain rfl := captureOf_some found located captured own
  have same : details = call.details identity preserved := by
    unfold detailsOf at told
    rw [located, bind_some, recorded] at told
    cases told
    rfl
  subst same
  rw [requireText_ok] at first second
  cases first
  cases second
  rw [requireRow_ok] at read linked
  obtain ⟨linked, atSource⟩ := filter_eq_some_iff.mp linked
  obtain ⟨item, present, _⟩ := (any_eq_true _ _).mp atSource
  have job : row.job = call.job := by
    obtain ⟨_, fresh, _⟩ := bind_ok.mp checked
    rw [ensure_ok] at fresh
    simp only [Bool.and_eq_true] at fresh
    obtain ⟨held, there, agrees⟩ := (any_eq_true _ _).mp fresh.1.1
    rw [show call.capture.entry = call.entry.entryId from rfl] at there read
    rw [there] at read
    cases read
    simp only [Bool.and_eq_true, beq_iff_eq] at agrees
    exact agrees.1.1
  obtain ⟨_, renamed⟩ := setMediaUri_ok placed
  have sameEntries : moved.entries = s.entries := by rw [renamed]; rfl
  have sameJobs : moved.jobs = s.jobs := by rw [renamed]; rfl
  have frame : last.publications = moved.publications ∧ last.jobs = moved.jobs ∧ last.media = moved.media := by
    refine loop_relates (fun s t : Store => t.publications = s.publications ∧ t.jobs = s.jobs ∧ t.media = s.media)
      (fun _ => ⟨rfl, rfl, rfl⟩) (fun _ _ _ one two => ⟨two.1.trans one.1, two.2.1.trans one.2.1, two.2.2.trans one.2.2⟩)
      (fun found _ before after stepped => ?_) followed
    obtain ⟨publications, rows, jobs, _⟩ := relocateEntry_ok stepped
    exact ⟨publications, jobs, rows⟩
  have publications : last.publications = s.publications := frame.1.trans (by rw [renamed]; rfl)
  refine ⟨⟨fun owner owned root => ?_, fun other media' there link => ?_⟩, frame.2.1.trans sameJobs, fun other apart => ?_, ?_⟩
  · obtain ⟨relative, below⟩ := isSome_iff_exists.mp below
    have present : moved.entries.get call.entry.entryId = some row := by
      rw [sameEntries]
      exact read
    have owned' : moved.jobs.get row.job = some owner := by rw [sameJobs, job, owned]
    obtain ⟨member, one⟩ := followers_path present linked owned'
      (by rw [root, below])
    obtain ⟨after, reached, _, path⟩ := relocated_path _ present member one followed
    refine ⟨after, reached, ?_⟩
    rw [path]
    exact ((relativeUnder_eq_some).mp below).symm
  · rw [show call.capture.entry = call.entry.entryId from rfl, there] at read
    cases read
    rw [link] at linked
    cases linked
    have found := (congrArg (fun store : Store => store.media.get media) renamed).trans
      ((get_modify_self _ _ _).trans (congrArg _ present))
    exact ⟨_, (congrArg (fun table => table.get media) frame.2.2).trans found, rfl⟩
  · refine (standing_update_other last _ (fun _ => ?_) apart).trans ?_
    · rfl
    · exact standing_of_publications publications other
  · have before : last.standing id = some ⟨found.2.job, found.2.state, found.2.details⟩ := by
      rw [standing_of_publications publications id, standing, located]
      rfl
    refine standing_update _ ?_ ?_ before
    · exact fun _ => ⟨rfl, rfl⟩
    · exact fun _ _ _ => ⟨rfl, rfl⟩

end Journal

section Recovery
variable {call : CollisionCall} {start world : World} {held : Nat × File Bytes} {preserved : String}

inductive Stage (before : Disk String Bytes) (source preserved : String) (disk : Disk String Bytes) : Prop where
  | untouched (stats : ∀ name, disk.stat name = before.stat name)
  | linked (stats : ∀ name, disk.stat name = if name = preserved then before.stat source else before.stat name)
  | moved (stats : ∀ name, disk.stat name = if name = preserved then before.stat source
    else if name = source then none else before.stat name)

structure Spare (call : CollisionCall) (start : World) (held : Nat × File Bytes) (preserved : String) : Prop where
  found : start.disk.stat call.entry.localPath = some held
  free : start.disk.stat preserved = none
  source : Reachable start.symlink call.root call.entry.localPath
  target : Reachable start.symlink call.root preserved
  parents : parentPath call.entry.localPath = parentPath preserved

theorem Spare.apart (spare : Spare call start held preserved) : call.entry.localPath ≠ preserved := by
  intro same
  have found := spare.found
  rw [same, spare.free] at found
  cases found

theorem hardLink_free (disk : Disk String Bytes) (source target : String) (there : (disk.stat source).isSome = true)
    (free : disk.stat target = none) : ∃ after, disk.hardLink source target = .ok after := by
  unfold Disk.hardLink
  split
  · next absent =>
    rw [← disk.present_iff, Disk.present, absent] at there
    cases there
  · rw [disk.stat_eq_none] at free
    simp [free]

theorem ownedPath_holds (reachable : Reachable world.symlink root path) (here : crashed world) (done : ends (.ok ()) world) :
    Holds crashed ends (ownedPath root path) world := by
  obtain ⟨relative, below, safe⟩ := reachable
  refine .bind (holds_given below here ?_)
  refine .bind (holds_destination here (fun found reached => ?_) (fun failure failed => ?_))
  · rw [safe] at reached
    cases reached
    refine holds_demand here (fun _ => done) (fun different => ?_)
    simp at different
  · rw [safe] at failed
    cases failed

theorem demand_identity (here : crashed world) (done : ends (.ok ()) world) : Holds crashed ends
      (demand (some (fileIdentity held) == (call.details (fileIdentity held) preserved).identity) message) world :=
  holds_demand here (fun _ => done) (fun different => by simp [CollisionCall.details] at different)

theorem restoreSource_holds (spare : Spare call start held preserved)
    (stage : Stage start.disk call.entry.localPath preserved world.disk)
    (during : ∀ disk, Stage start.disk call.entry.localPath preserved disk → crashed { world with disk := disk })
    (ending : ∀ disk, (∀ name, disk.stat name = start.disk.stat name) → ends (.ok ()) { world with disk := disk }) :
    Holds crashed ends
      (restoreSource call.entry.localPath preserved (call.details (fileIdentity held) preserved)) world := by
  have here : crashed world := during world.disk stage
  have removes : ∀ disk : Disk String Bytes,
      (∀ name, disk.stat name = if name = preserved then start.disk.stat call.entry.localPath else start.disk.stat name) →
      Holds crashed ends (onDisk (fun disk => disk.remove preserved)) { world with disk := disk } := by
    intro disk both
    have there : disk.present preserved = true := by
      rw [disk.present_iff, both, if_pos rfl, spare.found]
      rfl
    refine holds_changed (during disk (.linked both)) (remove_present there) (fun after removed => ?_)
    have stats : ∀ name, after.stat name = start.disk.stat name := by
      intro name
      rw [(disk.stat_remove removed).2 name]
      by_cases same : name = preserved
      · rw [if_pos same, same, spare.free]
      · rw [if_neg same, both, if_neg same]
    exact ⟨during after (.untouched stats), ending after stats⟩
  refine .bind (.read here ?_)
  cases stage with
  | untouched stats =>
    rw [stats, spare.free]
    exact .pure here (ending world.disk stats)
  | linked stats =>
    rw [stats, if_pos rfl, spare.found]
    refine .bind (demand_identity here (.bind (.bind (.read here ?_))))
    rw [stats, if_neg spare.apart, spare.found]
    exact demand_identity here (removes world.disk stats)
  | moved stats =>
    have alone : world.disk.stat call.entry.localPath = none := by
      rw [stats, if_neg spare.apart, if_pos rfl]
    have there : world.disk.stat preserved = some held := by
      rw [stats, if_pos rfl, spare.found]
    rw [there]
    refine .bind (demand_identity here (.bind (.bind (.read here ?_))))
    rw [alone]
    refine holds_changed here (hardLink_free _ _ _ (by rw [there]; rfl) alone) (fun disk linked => ?_)
    have both : ∀ name, disk.stat name =
        if name = preserved then start.disk.stat call.entry.localPath else start.disk.stat name := by
      intro name
      rw [(world.disk.stat_hardLink linked).2.2 name, there]
      by_cases source : name = call.entry.localPath
      · rw [if_pos source, source, if_neg spare.apart, spare.found]
      · rw [if_neg source, stats, if_neg source]
    exact ⟨during disk (.linked both), removes disk both⟩

theorem recoverCollision_holds (id : String) (spare : Spare call start held preserved)
    (links : world.symlink = start.symlink) (stage : Stage start.disk call.entry.localPath preserved world.disk)
    (during : ∀ disk, Stage start.disk call.entry.localPath preserved disk → crashed { world with disk := disk })
    (ending : ∀ disk, (∀ name, disk.stat name = start.disk.stat name) → crashed { world with disk := disk, store := world.store.abortCollision id } ∧ ends (.ok ()) { world with disk := disk, store := world.store.abortCollision id }) :
    Holds crashed ends (recoverCollision id (call.details (fileIdentity held) preserved)) world := by
  have here : crashed world := during world.disk stage
  unfold recoverCollision
  refine .bind (holds_given rfl here ?_)
  refine .bind (holds_given rfl here ?_)
  refine .bind (holds_given rfl here ?_)
  refine .bind (ownedPath_holds (by rw [links]; exact spare.source) here ?_)
  refine .bind (ownedPath_holds (by rw [links]; exact spare.target) here ?_)
  refine .bind (holds_demand here (fun _ => ?_) (fun different => ?_))
  · refine .bind (restoreSource_holds spare stage during (fun disk stats => ?_))
    refine holds_onStore (during disk (.untouched stats)) (fun store done => ?_) (fun failure failed => by cases failed)
    cases done
    exact ending disk stats
  · rw [spare.parents] at different
    simp at different

end Recovery

section Protocol
variable {platform : Platform} {call : CollisionCall} {start world : World} {held : Nat × File Bytes} {preserved : String}

structure Unmoved (start world : World) : Prop where
  links : world.symlink = start.symlink
  entries : world.store.entries = start.store.entries
  media : world.store.media = start.store.media
  jobs : world.store.jobs = start.store.jobs
  older : ∀ id, world.store.standing id = none → start.store.standing id = none

def Opened (start world : World) (id : String) (details : RecoveryDetails) : Prop :=
  start.store.standing id = none ∧ ∃ job, world.store.standing id = some ⟨job, .publishing, some details⟩

structure Idle (start world : World) : Prop extends Unmoved start world where
  stats : ∀ name, world.disk.stat name = start.disk.stat name
  closed : ∀ id details, ¬Opened start world id details

structure Underway (call : CollisionCall) (start : World) (id : String) (held : Nat × File Bytes) (preserved : String)
    (world : World) : Prop extends Unmoved start world where
  spare : Spare call start held preserved
  stage : Stage start.disk call.entry.localPath preserved world.disk
  fresh : start.store.standing id = none
  journal : ∃ found, world.store.publicationOf id = some found ∧ found.2.state = .publishing ∧
    found.2.capture = some call.capture ∧ found.2.details = some (call.details (fileIdentity held) preserved)
  only : ∀ other details, Opened start world other details → other = id

structure Relocated (call : CollisionCall) (start : World) (preserved : String) (world : World) : Prop where
  free : start.disk.stat preserved = none
  apart : call.entry.localPath ≠ preserved
  stats : ∀ name, world.disk.stat name = if name = preserved then start.disk.stat call.entry.localPath
    else if name = call.entry.localPath then none else start.disk.stat name
  renames : Renames call start.store world.store preserved
  closed : ∀ id details, ¬Opened start world id details

inductive Progress (call : CollisionCall) (start world : World) : Prop where
  | idle (idle : Idle start world)
  | underway (id : String) (held : Nat × File Bytes) (preserved : String)
    (underway : Underway call start id held preserved world)
  | settled (preserved : String) (settled : Relocated call start preserved world)

theorem Underway.stands (underway : Underway call start id held preserved world) :
    ∃ job, world.store.standing id = some ⟨job, .publishing, some (call.details (fileIdentity held) preserved)⟩ := by
  obtain ⟨found, located, state, _, details⟩ := underway.journal
  refine ⟨found.2.job, ?_⟩
  unfold standing
  rw [located, map_some, state, details]

theorem Underway.atStage (underway : Underway call start id held preserved world) (disk : Disk String Bytes)
    (stage : Stage start.disk call.entry.localPath preserved disk) :
    Underway call start id held preserved { world with disk := disk } :=
  { underway with stage := stage }

theorem beginCollision_underway (idle : Idle start world) (spare : Spare call start held preserved)
    (done : world.store.beginCollision id call.capture (call.details (fileIdentity held) preserved) = .ok store) :
    Underway call start id held preserved { world with store := store } := by
  obtain ⟨_, _, _, _, rest⟩ := bind2_ok done
  split at rest
  · cases rest
  · next absent =>
    cases rest
    rw [not_isSome_iff_eq_none] at absent
    have fresh : world.store.standing id = none := by
      unfold standing
      rw [absent]
      rfl
    refine ⟨⟨idle.links, idle.entries, idle.media, idle.jobs, fun other gone => ?_⟩, spare, .untouched idle.stats,
      idle.older id fresh, ⟨_, publicationOf_insert _ _ absent, rfl, rfl, rfl⟩, fun other details opened => ?_⟩
    · dsimp only at gone
      rw [standing_insert absent] at gone
      split at gone
      · cases gone
      · exact idle.older other gone
    · by_contra different
      obtain ⟨before, job, stands⟩ := opened
      rw [standing_insert absent, if_neg different] at stands
      exact idle.closed other details ⟨before, job, stands⟩

theorem abortCollision_idle (underway : Underway call start id held preserved world) (disk : Disk String Bytes)
    (stats : ∀ name, disk.stat name = start.disk.stat name) :
    Idle start { world with disk := disk, store := world.store.abortCollision id } := by
  obtain ⟨job, stands⟩ := underway.stands
  have gone : (world.store.abortCollision id).standing id = some ⟨job, .superseded, none⟩ := by
    refine standing_update _ ?_ ?_ stands
    · exact fun _ => ⟨rfl, rfl⟩
    · exact fun _ _ _ => ⟨rfl, rfl⟩
  have others : ∀ other, other ≠ id → (world.store.abortCollision id).standing other = world.store.standing other :=
    fun other apart => standing_update_other world.store _ (fun _ => by rfl) apart
  refine ⟨⟨underway.links, underway.entries, underway.media, underway.jobs, fun other absent => ?_⟩, stats,
    fun other details opened => ?_⟩
  · by_cases same : other = id
    · rw [same]
      exact underway.fresh
    · dsimp only at absent
      rw [others other same] at absent
      exact underway.older other absent
  · obtain ⟨before, owner, there⟩ := opened
    by_cases same : other = id
    · rw [same, gone] at there
      cases there
    · rw [others other same] at there
      exact same (underway.only other details ⟨before, owner, there⟩)

variable {ends : Except ServiceError α → World → Prop}

section
variable (underway : Underway call start id held preserved world)

include underway

theorem abort_holds {next : Routine α} (stats : ∀ name, world.disk.stat name = start.disk.stat name)
    (continues : ∀ after, Idle start after → Holds (Progress call start) ends next after) :
    Holds (Progress call start) ends (do onStore (fun s => .ok (s.abortCollision id)); next) world := by
  refine .bind (holds_onStore (.underway id held preserved underway) (fun store done => ?_)
    (fun failure failed => by cases failed))
  cases done
  have idle := abortCollision_idle underway world.disk stats
  exact ⟨.idle idle, continues _ idle⟩

theorem giveUp_holds {failure : ServiceError} (ending : ∀ after, ends (.error failure) after) : Holds (Progress call start) ends
      (do recoverCollision id (call.details (fileIdentity held) preserved); .fail failure) world := by
  refine .bind (recoverCollision_holds id underway.spare underway.links underway.stage
    (fun disk stage => .underway id held preserved (underway.atStage disk stage)) (fun disk stats => ?_))
  have idle := abortCollision_idle underway disk stats
  exact ⟨.idle idle, .fail (.idle idle) (ending _)⟩

theorem finished_settled
    (moved : ∀ name, world.disk.stat name = if name = preserved then start.disk.stat call.entry.localPath else if name = call.entry.localPath then none else start.disk.stat name)
    (done : world.store.finishCollision platform id = .ok store) :
    Relocated call start preserved { world with store := store } := by
  obtain ⟨found, located, _, captured, told⟩ := underway.journal
  obtain ⟨relative, below, _⟩ := underway.spare.target
  obtain ⟨renames, _, others, gone⟩ := finishCollision_renames located captured told (by rw [below]; rfl) done
  refine ⟨underway.spare.free, underway.spare.apart, moved, ⟨fun owner owned root => ?_, fun row media read link => ?_⟩,
    fun other details opened => ?_⟩
  · exact renames.entry owner (by rw [underway.jobs]; exact owned) root
  · exact renames.media row media (by rw [underway.entries]; exact read) link
  · obtain ⟨before, job, stands⟩ := opened
    by_cases same : other = id
    · rw [same, gone] at stands
      cases stands
    · rw [others other same] at stands
      exact same (underway.only other details ⟨before, job, stands⟩)

end

theorem preserveAs_holds (id : String) (idle : Idle start world) (spare : Spare call start held preserved) :
    Holds (Progress call start) (fun answer after => answer = .ok false → Idle start after)
      (preserveAs platform call (fileIdentity held) id preserved) world := by
  unfold preserveAs
  refine .bind (holds_onStore (.idle idle) (fun store recorded => ?_) (fun _ _ => nofun))
  obtain ⟨written, done, _, _, rest⟩ := bind2_ok recorded
  cases rest
  have underway := beginCollision_underway idle spare done
  have here := Progress.underway id held preserved underway
  refine ⟨here, .bind (.bind (.read here ?_))⟩
  dsimp only
  split
  · exact .fail here nofun
  · refine .bind (.read here ?_)
    dsimp only
    split
    · exact .fail here nofun
    · refine .pure here ?_
      dsimp only
      split
      · exact abort_holds underway idle.stats (fun after held => .fail (.idle held) nofun)
      · refine .bind (.attempt (holds_onDisk here (fun disk linked => ?_) (fun errno _ => ?_)))
        · have both := (world.disk.stat_hardLink linked).2.2
          have stats : ∀ name, disk.stat name =
              if name = preserved then start.disk.stat call.entry.localPath else start.disk.stat name := by
            intro name
            rw [both name, idle.stats, idle.stats]
          have underway := underway.atStage disk (.linked stats)
          have here := Progress.underway id held preserved underway
          refine ⟨here, .bind (.attempt (holds_onDisk here (fun after removed => ?_) (fun errno _ => ?_)))⟩
          · have moved : ∀ name, after.stat name = if name = preserved then start.disk.stat call.entry.localPath
                else if name = call.entry.localPath then none else start.disk.stat name := by
              intro name
              rw [(disk.stat_remove removed).2 name, stats]
              by_cases source : name = call.entry.localPath
              · rw [if_pos source, source, if_neg spare.apart, if_pos rfl]
              · rw [if_neg source, if_neg source]
            have underway := underway.atStage after (.moved moved)
            have here := Progress.underway id held preserved underway
            refine ⟨here, .bind (.attempt (holds_onStore here (fun store finished => ?_) (fun _ _ => ?_)))⟩
            · have settled := finished_settled underway moved finished
              exact ⟨.settled preserved settled, .pure (.settled preserved settled) nofun⟩
            · exact giveUp_holds underway (fun _ => nofun)
          · exact giveUp_holds underway (fun _ => nofun)
        · refine abort_holds underway idle.stats (fun after held => ?_)
          split
          · exact .pure (.idle held) (fun _ => held)
          · exact .fail (.idle held) nofun

theorem preserveFrom_holds (safe : safeDestination start.symlink call.root relative = .ok call.entry.localPath)
    (found : start.disk.stat call.entry.localPath = some held) (above : parentPath call.entry.localPath = some parent)
    (stemmed : fileStem call.entry.localPath = some stem) (left number : Nat) (idle : Idle start world) :
    Holds (Progress call start) (fun _ _ => True)
      (preserveFrom platform call (fileIdentity held) stem parent left number) world := by
  induction left generalizing number world with
  | zero => exact .fail (.idle idle) trivial
  | succ left ih =>
    unfold preserveFrom
    have here : Progress call start world := .idle idle
    refine .bind (holds_required here (fun place _ => ?_) (fun _ _ => trivial))
    refine .bind (.read here ?_)
    dsimp only
    split
    · exact ih (number + 1) idle
    · next vacant =>
      refine .bind (.read here ?_)
      dsimp only
      split
      · exact ih (number + 1) idle
      · simp only [Bool.or_eq_true, not_or, Bool.not_eq_true] at vacant
        obtain ⟨_, plain, absent⟩ := vacant
        rw [idle.links] at plain
        rw [world.disk.present_iff, idle.stats, isSome_eq_false_iff, isNone_iff_eq_none] at absent
        obtain ⟨reachable, parents⟩ := preserved_reachable safe above stemmed plain
        have spare : Spare call start held (joinPath parent (preservedName call.entry.localPath stem number)) :=
          ⟨found, absent, safeDestination_again _ safe, reachable, above.trans parents.symm⟩
        refine .bind ((preserveAs_holds _ idle spare).mono (fun _ kept => kept) (fun answer after kept ends => ?_))
        cases answer with
        | error => trivial
        | ok moved =>
          cases moved with
          | true => exact .pure kept trivial
          | false => exact ih (number + 1) (ends rfl)

theorem preserveLocal_holds (safe : safeDestination start.symlink call.root relative = .ok call.entry.localPath) :
    Holds (Progress call start) (fun _ _ => True) (preserveLocal platform call) start := by
  have idle : Idle start start := by
    refine ⟨⟨rfl, rfl, rfl, rfl, fun _ absent => absent⟩, fun _ => rfl, fun id details opened => ?_⟩
    obtain ⟨absent, job, stands⟩ := opened
    rw [absent] at stands
    cases stands
  have here : Progress call start start := .idle idle
  unfold preserveLocal
  refine .bind (.bind (.read here ?_))
  dsimp only
  split
  · exact .fail here trivial
  · refine .bind (.read here ?_)
    dsimp only
    split
    · exact .fail here trivial
    · next held found =>
      refine .pure here ?_
      refine .bind (holds_required here (fun stem stemmed => ?_) (fun _ _ => trivial))
      refine .bind (holds_required here (fun parent above => ?_) (fun _ _ => trivial))
      rw [requireText_ok] at stemmed above
      exact preserveFrom_holds safe found above stemmed _ 1 idle

end Protocol

section Guard
variable {source preserved : String} {details : RecoveryDetails} {world : World}

-- Whatever file is at the source stays there, and the one at the preserved
-- name stays unless it is the journaled file, which then has the source's name.
structure Guarded (source preserved : String) (identity : Option FileIdentity) (before disk : Disk String Bytes) : Prop where
  kept : ∀ held, before.stat source = some held → disk.stat source = some held
  saved : ∀ held, before.stat preserved = some held → disk.stat preserved = some held ∨
    identity = some (fileIdentity held) ∧ disk.stat source = some held

theorem same_file {disk : Disk String Bytes} {first second : String} {one two : Nat × File Bytes}
    (here : disk.stat first = some one) (there : disk.stat second = some two) (same : fileIdentity one = fileIdentity two) :
    one = two := by
  have numbers : one.1 = two.1 := congrArg FileIdentity.inode same
  have names : disk.names first = disk.names second := by
    rw [disk.stat_inode here, disk.stat_inode there, numbers]
  rw [disk.stat_of_names names, there] at here
  exact (some.inj here).symm

theorem guarded_restoreSource (apart : source ≠ preserved) :
    Holds (fun after => Guarded source preserved details.identity world.disk after.disk) (fun _ _ => True)
      (restoreSource source preserved details) world := by
  have here : Guarded source preserved details.identity world.disk world.disk := ⟨fun _ found => found, fun _ found => .inl found⟩
  refine .bind (.read here ?_)
  dsimp only
  split
  · exact .pure here trivial
  · next found there =>
    refine .bind (holds_demand here (fun own => ?_) (fun _ => trivial))
    rw [beq_iff_eq] at own
    have removes : ∀ disk : Disk String Bytes, Guarded source preserved details.identity world.disk disk →
        disk.stat source = some found →
        Holds (fun after => Guarded source preserved details.identity world.disk after.disk) (fun _ _ => True)
          (onDisk (fun disk => disk.remove preserved)) { world with disk := disk } := by
      intro disk guarded back
      refine holds_onDisk guarded (fun after removed => ⟨⟨fun held before => ?_, fun held before => ?_⟩, trivial⟩)
        (fun _ _ => trivial)
      · dsimp only
        rw [(disk.stat_remove removed).2 source, if_neg apart]
        exact guarded.kept held before
      · dsimp only
        rw [there] at before
        cases before
        rw [(disk.stat_remove removed).2 source, if_neg apart]
        exact .inr ⟨own.symm, back⟩
    refine .bind (.bind (.read here ?_))
    dsimp only
    split
    · next held kept =>
      refine holds_demand here (fun same => ?_) (fun _ => trivial)
      rw [beq_iff_eq, ← own, some.injEq] at same
      rw [same_file kept there same] at kept
      exact removes world.disk here kept
    · next absent =>
      refine holds_onDisk here (fun disk linked => ?_) (fun _ _ => trivial)
      have stats := (world.disk.stat_hardLink linked).2.2
      have guarded : Guarded source preserved details.identity world.disk disk := by
        refine ⟨fun held before => ?_, fun held before => .inl ?_⟩
        · rw [absent] at before
          cases before
        · rw [stats, if_neg (Ne.symm apart), before]
      exact ⟨guarded, removes disk guarded (by rw [stats, if_pos rfl, there])⟩

theorem guarded_recoverCollision (world : World) (id : String) (details : RecoveryDetails) (first : details.source = some source)
    (second : details.preserved = some preserved) (apart : source ≠ preserved) :
    Holds (fun after => Guarded source preserved details.identity world.disk after.disk) (fun _ _ => True)
      (recoverCollision id details) world := by
  have here : Guarded source preserved details.identity world.disk world.disk := ⟨fun _ found => found, fun _ found => .inl found⟩
  have owned : ∀ root path (rest : Routine Unit),
      Holds (fun after => Guarded source preserved details.identity world.disk after.disk) (fun _ _ => True) rest world →
      Holds (fun after => Guarded source preserved details.identity world.disk after.disk) (fun _ _ => True)
        (do ownedPath root path; rest) world := by
    intro root path rest next
    refine .bind (.bind (holds_required here (fun _ _ => ?_) (fun _ _ => trivial)))
    refine .bind (holds_destination here (fun _ _ => ?_) (fun _ _ => trivial))
    exact holds_demand here (fun _ => next) (fun _ => trivial)
  unfold recoverCollision
  refine .bind (holds_given first here ?_)
  refine .bind (holds_given second here ?_)
  refine .bind (holds_required here (fun root _ => ?_) (fun _ _ => trivial))
  refine owned _ _ _ (owned _ _ _ ?_)
  refine .bind (holds_demand here (fun _ => ?_) (fun _ => trivial))
  refine .onward (guarded_restoreSource apart) (fun _ after kept => ?_)
  refine holds_onStore kept (fun store done => ?_) (fun _ _ => trivial)
  cases done
  exact ⟨kept, trivial⟩

end Guard

section Results
variable {call : CollisionCall} {start world : World}

-- The call as preserve_receive_paths makes it: the entry is one of those the query gave, build_photo accepted the
-- received path, and index_receive_paths resolved it below the root.
structure Collides (call : CollisionCall) (start : World) : Prop where
  listed : ∃ paths, call.entry ∈ start.store.localEntriesForPaths call.job paths
  root : (start.store.jobs.get call.job).map Job.localRoot = some call.root
  valid : isSafeRelativePath call.entry.relativePath = true
  indexed : ∃ path, safeDestination start.symlink call.root call.entry.relativePath = .ok path

-- The file has this name and no other, every other file is where it was, and
-- the entry and its media row have the file's path.
structure Located (call : CollisionCall) (start world : World) (location : String) : Prop where
  file : world.disk.stat location = start.disk.stat call.entry.localPath
  elsewhere : ∀ name, name ≠ location → world.disk.stat name = if name = call.entry.localPath then none else start.disk.stat name
  entry : ∃ row, world.store.entries.get call.entry.entryId = some row ∧ underRoot call.root row.relativePath = location
  media : ∀ row media item, start.store.entries.get call.entry.entryId = some row → row.media = some media →
    start.store.media.get media = some item → item.path = call.entry.localPath →
    ∃ after, world.store.media.get media = some after ∧ after.path = location

theorem Collides.row (collides : Collides call start) : ∃ row, start.store.entries.get call.entry.entryId = some row ∧
      underRoot call.root row.relativePath = call.entry.localPath ∧ row.relativePath = call.entry.relativePath := by
  obtain ⟨paths, listed⟩ := collides.listed
  unfold localEntriesForPaths at listed
  split at listed
  · cases listed
  · next owner enabled =>
    obtain ⟨job, _⟩ := filter_eq_some_iff.mp enabled
    obtain ⟨⟨id, row⟩, selected, produced⟩ := mem_flatMap.mp listed
    unfold localEntry at produced
    obtain ⟨⟨media, item⟩, chosen, same⟩ := mem_map.mp produced
    have read := (mem_select.mp selected).1
    have matched := (mem_select.mp chosen).2
    simp only [Bool.and_eq_true, beq_iff_eq] at matched
    have root := collides.root
    rw [job, map_some, some.injEq] at root
    refine ⟨row, ?_, ?_, ?_⟩
    · rw [← same]
      exact read
    · rw [← same, ← root]
      exact matched.1.1.symm
    · rw [← same]

theorem Collides.safe (collides : Collides call start) :
    safeDestination start.symlink call.root call.entry.relativePath = .ok call.entry.localPath := by
  obtain ⟨path, indexed⟩ := collides.indexed
  obtain ⟨row, _, named, same⟩ := collides.row
  rw [indexed, safeDestination_valid collides.valid indexed, ← named, same]

theorem Idle.located (collides : Collides call start) (idle : Idle start world) : Located call start world call.entry.localPath := by
  obtain ⟨row, read, named, _⟩ := collides.row
  refine ⟨idle.stats _, fun name apart => ?_, ⟨row, ?_, named⟩, fun other media item _ _ there own => ⟨item, ?_, own⟩⟩
  · rw [idle.stats, if_neg apart]
  · rw [idle.entries, read]
  · rw [idle.media, there]

variable {preserved : String} {held : Nat × File Bytes}

theorem Relocated.located (collides : Collides call start) (settled : Relocated call start preserved world) :
    Located call start world preserved := by
  obtain ⟨owner, job, root⟩ := map_eq_some_iff.mp collides.root
  refine ⟨?_, fun name apart => ?_, settled.renames.entry owner job root, fun row media item read linked _ _ => ?_⟩
  · rw [settled.stats, if_pos rfl]
  · rw [settled.stats, if_neg apart]
  · exact settled.renames.media row media read linked

-- An open journal is recovered, and the recovery may crash any number of times before it runs to its end.
def recovered (id : String) (details : RecoveryDetails) (crashes : List Nat) (world : World) : World × Except ServiceError Unit :=
  (recoverCollision id details).run
    (crashes.foldl (fun world steps => (recoverCollision id details).crash steps world) world)

structure Recovering (call : CollisionCall) (start : World) (id preserved : String) (world : World) : Prop where
  links : world.symlink = start.symlink
  stage : Stage start.disk call.entry.localPath preserved world.disk
  closing : ∀ disk : Disk String Bytes, (∀ name, disk.stat name = start.disk.stat name) →
    Idle start { world with disk := disk, store := world.store.abortCollision id }

theorem abortCollision_again (s : Store) (id : String) : (s.abortCollision id).abortCollision id = s.abortCollision id := by
  unfold abortCollision updatePublication
  rw [update_update]
  congr 2
  funext key row
  by_cases own : row.publicationId = id
  · simp [own]
  · simp [own]

theorem recoverCollision_again (spare : Spare call start held preserved) (recovering : Recovering call start id preserved world) :
    Holds (Recovering call start id preserved) (fun answer after => answer = .ok () ∧ Idle start after)
      (recoverCollision id (call.details (fileIdentity held) preserved)) world := by
  refine recoverCollision_holds id spare recovering.links recovering.stage
    (fun disk stage => ⟨recovering.links, stage, recovering.closing⟩) (fun disk stats => ⟨⟨recovering.links, .untouched stats,
      fun other back => ?_⟩, rfl, recovering.closing disk stats⟩)
  rw [abortCollision_again]
  exact recovering.closing other back

theorem recovered_idle (crashes : List Nat) (underway : Underway call start id held preserved world) :
    (recovered id (call.details (fileIdentity held) preserved) crashes world).2 = .ok () ∧
      Idle start (recovered id (call.details (fileIdentity held) preserved) crashes world).1 := by
  have spare := underway.spare
  have recovering : Recovering call start id preserved world := ⟨underway.links, underway.stage, abortCollision_idle underway⟩
  clear underway
  unfold recovered
  induction crashes generalizing world with
  | nil => exact (recoverCollision_again spare recovering).run.2
  | cons steps rest ih => exact ih ((recoverCollision_again spare recovering).crash steps)

theorem preserved_file_is_never_lost (platform : Platform) (call : CollisionCall) (start : World)
    (collides : Collides call start) (count : Nat) (crashes : List Nat) :
    -- A journal that the crash left open is recovered: the file is under its own name alone.
    (∀ id details, Opened start ((preserveLocal platform call).crash count start) id details →
      (recovered id details crashes ((preserveLocal platform call).crash count start)).2 = .ok () ∧
      Located call start (recovered id details crashes ((preserveLocal platform call).crash count start)).1
        call.entry.localPath ∧
      ∃ preserved, details.preserved = some preserved ∧
        (recovered id details crashes ((preserveLocal platform call).crash count start)).1.disk.stat preserved = none) ∧
    -- Without one, the file is under its own name or under a name that was free.
    ((∀ id details, ¬Opened start ((preserveLocal platform call).crash count start) id details) →
      ∃ location, (location = call.entry.localPath ∨ start.disk.stat location = none) ∧
        Located call start ((preserveLocal platform call).crash count start) location) ∧
    -- Whatever is at the two names when the recovery runs is neither removed nor overwritten.
    (∀ id details, Opened start ((preserveLocal platform call).crash count start) id details →
      ∃ preserved, details.preserved = some preserved ∧ ∀ (edited : Disk String Bytes) (steps : Nat),
        Guarded call.entry.localPath preserved details.identity edited ((recoverCollision id details).crash steps
          { (preserveLocal platform call).crash count start with disk := edited }).disk ∧
        Guarded call.entry.localPath preserved details.identity edited ((recoverCollision id details).run
          { (preserveLocal platform call).crash count start with disk := edited }).1.disk) := by
  have progress : Progress call start ((preserveLocal platform call).crash count start) :=
    (preserveLocal_holds collides.safe).crash count
  generalize (preserveLocal platform call).crash count start = crashed at progress
  have journal : ∀ id details, Opened start crashed id details → ∃ held preserved,
      Underway call start id held preserved crashed ∧ details = call.details (fileIdentity held) preserved := by
    intro id details opened
    cases progress with
    | idle idle => exact absurd opened (idle.closed id details)
    | settled preserved settled => exact absurd opened (settled.closed id details)
    | underway other held preserved underway =>
      obtain rfl := underway.only id details opened
      obtain ⟨job, stands⟩ := underway.stands
      obtain ⟨_, owner, open_⟩ := opened
      rw [stands] at open_
      cases open_
      exact ⟨held, preserved, underway, rfl⟩
  refine ⟨fun id details opened => ?_, fun closed => ?_, fun id details opened => ?_⟩
  · obtain ⟨held, preserved, underway, rfl⟩ := journal id details opened
    obtain ⟨done, idle⟩ := recovered_idle crashes underway
    refine ⟨done, idle.located collides, preserved, rfl, ?_⟩
    rw [idle.stats, underway.spare.free]
  · cases progress with
    | idle idle => exact ⟨_, .inl rfl, idle.located collides⟩
    | settled preserved settled => exact ⟨preserved, .inr settled.free, settled.located collides⟩
    | underway id held preserved underway =>
      exact absurd ⟨underway.fresh, underway.stands⟩ (closed id _)
  · obtain ⟨held, preserved, underway, rfl⟩ := journal id details opened
    refine ⟨preserved, rfl, fun edited steps => ?_⟩
    have guarded := guarded_recoverCollision { crashed with disk := edited } id
      (call.details (fileIdentity held) preserved) rfl rfl underway.spare.apart
    dsimp only at guarded ⊢
    exact ⟨guarded.crash steps, guarded.run.1⟩

namespace Sample

def colliding : World where
  disk := Disk.empty.create "/p/a" ⟨[1, 2], 0⟩
  store := run (Command.execute platform) .empty (opening.take 3)
  symlink := fun _ => false

def collision : CollisionCall :=
  ⟨1, "/p", 1, ⟨"a", "/p/a", 0, 1, 1, none⟩, .new, "photo", ["a"], fun number => "collision-" ++ toString number⟩

theorem collision_collides : Collides collision colliding where
  listed := ⟨["a"], by decide +kernel⟩
  root := by decide +kernel
  valid := by decide +kernel
  indexed := ⟨"/p/a", by decide +kernel⟩

end Sample

-- The process dies after the file lost its own name, and so does the first recovery.
theorem unlinked_file_comes_back :
    (((preserveLocal Sample.platform Sample.collision).crash 9 Sample.colliding).disk.stat "/p/a") = none ∧
    ∃ details, Opened Sample.colliding ((preserveLocal Sample.platform Sample.collision).crash 9 Sample.colliding)
      "collision-1" details ∧
      Located Sample.collision Sample.colliding (recovered "collision-1" details [3]
        ((preserveLocal Sample.platform Sample.collision).crash 9 Sample.colliding)).1 "/p/a" := by
  have opened : Opened Sample.colliding ((preserveLocal Sample.platform Sample.collision).crash 9 Sample.colliding)
      "collision-1" (Sample.collision.details ⟨1, 2, 0⟩ "/p/a_1") :=
    ⟨by decide +kernel, 1, by decide +kernel⟩
  obtain ⟨recovery, _⟩ := preserved_file_is_never_lost Sample.platform Sample.collision Sample.colliding
    Sample.collision_collides 9 [3]
  exact ⟨by decide +kernel, _, opened, (recovery _ _ opened).2.1⟩

end Results
end PhotoSync
