import PhotoSync.Runs.Pruned

set_option autoImplicit false

namespace PhotoSync
open Relational Transaction Posix Store List

theorem folderOf_absolute (names : List FileName) : folderOf (.absolute names) = .absolute names.dropLast := by
  rcases eq_nil_or_concat names with rfl | ⟨front, last, rfl⟩
  · rfl
  · rw [concat_eq_append, folderOf, Path.parent_absolute, Option.getD_some, dropLast_concat]

structure RowOf (desktop : Desktop) (row : Media) (path : Path) : Prop where
  plain : path.plain = true
  uri : row.uri = desktop.fromPath path
  column : row.path = desktop.text path
  folder : row.folderPath = desktop.text (folderOf path)

-- UNIQUE(uri), and every live row is the row of a file.
structure Catalogued (desktop : Desktop) (s : Store) : Prop where
  rows : ∀ id row, LiveRow s id row → ∃ path, RowOf desktop row path
  unique : ∀ first second row other, s.media.get first = some row → s.media.get second = some other →
    row.uri = other.uri → first = second

section Rows
variable {desktop : Desktop} (nameWise : desktop.NameWise)

include nameWise

theorem text_folder (first second : Path) (plain : first.plain = true) (plain' : second.plain = true)
    (same : desktop.text first = desktop.text second) : desktop.text (folderOf first) = desktop.text (folderOf second) := by
  obtain ⟨names, rfl⟩ := (Path.plain_iff first).mp plain
  obtain ⟨others, rfl⟩ := (Path.plain_iff second).mp plain'
  have read := congrArg Path.ofText same
  rw [nameWise.ofText_text, nameWise.ofText_text] at read
  have legible := Path.absolute_injective _ _ read
  rw [folderOf_absolute, folderOf_absolute, ← nameWise.text_legible, ← nameWise.text_legible others.dropLast,
    map_dropLast, map_dropLast, legible]

theorem matches_path {row other : Media} {path path' : Path} (own : RowOf desktop row path) (own' : RowOf desktop other path')
    (named : row.matches desktop.platform other.path) : row.path = other.path := by
  rcases named with here | uri
  · exact here
  · obtain ⟨names, rfl⟩ := (Path.plain_iff path').mp own'.plain
    rw [own.uri, own'.column] at uri
    change desktop.fromPath path = desktop.fromPath (.ofText _) at uri
    rw [nameWise.ofText_text] at uri
    rw [desktop.fromPath_injective own.plain (Path.absolute_plain _) uri] at own
    rw [own.column, own'.column, nameWise.text_legible]

end Rows

section Index
variable (desktop : Desktop) (volume : Volume) (roots excluded : List Path)

structure Indexable (path : Path) : Prop where
  walked : ∃ root ∈ scannedRoots volume roots, path ∈ walkedPaths volume root excluded
  file : ∃ found, volume.fs.stat path = .ok found ∧ found.kind = .file
  media : isSupportedMediaPath path = true
  extracted : (volume.extract path).isSome = true

def Gone (row : Media) : Prop := Reported volume roots excluded row ∧ volume.fs.unlinked (.ofText row.path) = true

def Lost (path : Path) : Prop := ∃ row, RowOf desktop row path ∧ Gone volume roots excluded row

variable {desktop volume roots excluded}

theorem Indexable.plain {path : Path} (indexable : Indexable volume roots excluded path)
    (plain : ∀ root ∈ roots, root.plain = true) : path.plain = true := by
  obtain ⟨root, member, walked⟩ := indexable.walked
  obtain ⟨names, _, rfl⟩ := mem_map.mp (mem_filter.mp walked).1
  exact root.below_plain names (plain root (mem_filter.mp member).1)

theorem gone_columns {row other : Media} (path : other.path = row.path) (folder : other.folderPath = row.folderPath)
    (live : other.live = true) (gone : Gone volume roots excluded row) : Gone volume roots excluded other := by
  obtain ⟨⟨_, under, kept, missing⟩, away⟩ := gone
  refine ⟨⟨live, ?_, ?_, ?_⟩, ?_⟩
  · rwa [path]
  · rwa [path]
  · unfold looksMissing at missing ⊢
    rwa [path, folder]
  · rwa [path]

theorem gone_together (nameWise : desktop.NameWise) {row other : Media} {at_ at' : Path} (own : RowOf desktop row at_)
    (own' : RowOf desktop other at') (same : other.path = row.path) (live : other.live = true)
    (gone : Gone volume roots excluded row) : Gone volume roots excluded other := by
  refine gone_columns same ?_ live gone
  rw [own.folder, own'.folder]
  refine text_folder nameWise _ _ own'.plain own.plain ?_
  rw [← own.column, ← own'.column, same]

end Index

section Scan
variable (desktop : Desktop) (volume : Volume) (roots excluded : List Path)

structure Writes (path : Path) (id : Nat) (s t : Store) : Prop where
  row : ∃ row, LiveRow t id row ∧ RowOf desktop row path
  others : ∀ other, other ≠ id → t.media.get other = s.media.get other
  own : ∀ other held, s.media.get other = some held → (held.uri = desktop.fromPath path ↔ other = id)

theorem upsertItem_writes {path : Path} (plain : path.plain = true) {before after : Store × List Nat}
    {item : NewMediaItem × EditEvent} (uri : item.1.uri = desktop.fromPath path) (text : item.1.path = desktop.text path)
    (folder : item.1.folderPath = desktop.text (folderOf path)) (catalogued : Catalogued desktop before.1)
    (done : upsertItem none before item = .ok after) :
    (before.1.publishesTo (desktop.text path) none = true ∧ after = before) ∨
    (before.1.publishesTo (desktop.text path) none = false ∧ ∃ id, Writes desktop path id before.1 after.1) := by
  obtain ⟨blocked, same⟩ | ⟨free, id, row, present, named, _, written⟩ | ⟨free, absent, rfl⟩ := upsertItem_cases done
  · exact .inl ⟨by rw [← text]; exact blocked, same⟩
  · refine .inr ⟨by rw [← text]; exact free, id, ?_⟩
    rw [uri] at named
    have media := upsertItem_media written
    refine ⟨⟨item.1.scanned row, ⟨?_, ?_⟩, plain, named, text, folder⟩, fun other different => ?_, fun other held read => ?_⟩
    · rw [media, Table.get_modify_self, present]
      rfl
    · simp only [Media.live, NewMediaItem.scanned, Option.isNone_none, Bool.true_and]
      split
      · rfl
      · next here => exact bne_iff_ne.mpr here
    · rw [media, Table.get_modify_of_ne different]
    · refine ⟨fun same => catalogued.unique other id held row read present (same.trans named.symm), ?_⟩
      rintro rfl
      rw [present] at read
      cases read
      exact named
  · refine .inr ⟨by rw [← text]; exact free, before.1.media.next, ?_⟩
    refine ⟨⟨item.1.indexed, ⟨Table.get_insert_next _ _, rfl⟩, plain, uri, text, folder⟩, fun other different => ?_,
      fun other held read => ⟨fun same => ?_, ?_⟩⟩
    · exact (Table.get_insert _ _ _).trans (if_neg different)
    · have free := Table.first?_none.mp absent other held read
      rw [beq_eq_false_iff_ne, uri] at free
      exact absurd same free
    · rintro rfl
      exact absurd (Table.lt_next read) (Nat.lt_irrefl _)

structure Scans (s t : Store) : Prop where
  catalogued : Catalogued desktop t
  publications : t.publications = s.publications
  rows : ∀ id row, t.media.get id = some row → s.media.get id = some row ∨
    ∃ path, Indexable volume roots excluded path ∧ RowOf desktop row path
  live : ∀ id row, LiveRow s id row → ∃ later, LiveRow t id later ∧ later.uri = row.uri
  fresh : ∀ id row, LiveRow t id row → (∃ old, LiveRow s id old) ∨ ∃ path, Indexable volume roots excluded path ∧
    s.publishesTo (desktop.text path) none = false ∧ ∀ other old, LiveRow s other old → old.uri ≠ desktop.fromPath path

namespace Scans

variable {desktop volume roots excluded} {s t u : Store}

theorem refl (catalogued : Catalogued desktop s) : Scans desktop volume roots excluded s s :=
  ⟨catalogued, rfl, fun _ _ read => .inl read, fun _ row live => ⟨row, live, rfl⟩, fun _ row live => .inl ⟨row, live⟩⟩

theorem publishesTo (scans : Scans desktop volume roots excluded s t) (path : String) (publication : Option String) :
    t.publishesTo path publication = s.publishesTo path publication := by
  unfold Store.publishesTo
  rw [scans.publications]

theorem trans (first : Scans desktop volume roots excluded s t) (second : Scans desktop volume roots excluded t u) :
    Scans desktop volume roots excluded s u := by
  refine ⟨second.catalogued, second.publications.trans first.publications, fun id row read => ?_, fun id row live => ?_,
    fun id row live => ?_⟩
  · rcases second.rows id row read with kept | taken
    · exact first.rows id row kept
    · exact .inr taken
  · obtain ⟨middle, alive, same⟩ := first.live id row live
    obtain ⟨later, still, uri⟩ := second.live id middle alive
    exact ⟨later, still, uri.trans same⟩
  · rcases second.fresh id row live with ⟨middle, alive⟩ | ⟨path, indexable, free, none⟩
    · exact first.fresh id middle alive
    · refine .inr ⟨path, indexable, by rw [← first.publishesTo]; exact free, fun other old alive => ?_⟩
      obtain ⟨middle, still, uri⟩ := first.live other old alive
      rw [← uri]
      exact none other middle still

theorem writes (path : Path) (indexable : Indexable volume roots excluded path)
    (free : s.publishesTo (desktop.text path) none = false) (catalogued : Catalogued desktop s) (id : Nat)
    (untouched : Untouched s t) (writes : Writes desktop path id s t) : Scans desktop volume roots excluded s t := by
  obtain ⟨⟨row, live, own⟩, others, named⟩ := writes
  have back : ∀ other held, t.media.get other = some held →
      (other = id ∧ held = row) ∨ (other ≠ id ∧ s.media.get other = some held) := by
    intro other held read
    by_cases here : other = id
    · rw [here, live.1] at read
      exact .inl ⟨here, (Option.some.inj read).symm⟩
    · exact .inr ⟨here, by rw [← others other here]; exact read⟩
  refine ⟨⟨fun other held alive => ?_, fun first second held held' read read' same => ?_⟩, untouched.publications,
    fun other held read => ?_, fun other held alive => ?_, fun other held alive => ?_⟩
  · rcases back other held alive.1 with ⟨_, rfl⟩ | ⟨_, before⟩
    · exact ⟨path, own⟩
    · exact catalogued.rows other held ⟨before, alive.2⟩
  · rcases back first held read with ⟨here, rfl⟩ | ⟨apart, before⟩ <;>
      rcases back second held' read' with ⟨here', rfl⟩ | ⟨apart', before'⟩
    · rw [here, here']
    · exact absurd ((named second held' before').mp (same.symm.trans own.uri)) apart'
    · exact absurd ((named first held before).mp (same.trans own.uri)) apart
    · exact catalogued.unique first second held held' before before' same
  · rcases back other held read with ⟨_, rfl⟩ | ⟨_, before⟩
    · exact .inr ⟨path, indexable, own⟩
    · exact .inl before
  · by_cases here : other = id
    · exact ⟨row, here ▸ live, own.uri.trans ((named other held alive.1).mpr here).symm⟩
    · exact ⟨held, ⟨by rw [others other here]; exact alive.1, alive.2⟩, rfl⟩
  · rcases back other held alive.1 with ⟨here, rfl⟩ | ⟨_, before⟩
    · by_cases old : ∃ old, LiveRow s other old
      · exact .inl old
      · refine .inr ⟨path, indexable, free, fun another found still uri => old ⟨found, ?_⟩⟩
        rw [here, ← (named another found still.1).mp uri]
        exact still
    · exact .inl ⟨held, before, alive.2⟩

end Scans

theorem scanFile_some {index : String → Option (Int × Nat)} {path : Path} {item : NewMediaItem}
    (found : scanFile desktop volume index path = some item) :
    (∃ stat, volume.fs.stat path = .ok stat ∧ stat.kind = .file) ∧ isSupportedMediaPath path = true ∧
      (volume.extract path).isSome = true ∧ item.uri = desktop.fromPath path ∧ item.path = desktop.text path ∧
      item.folderPath = desktop.text (folderOf path) := by
  unfold scanFile at found
  split at found
  · cases found
  · next stat there =>
    split at found
    · cases found
    · next taken =>
      simp only [Bool.or_eq_true, bne_iff_ne, Bool.not_eq_true', not_or, not_not, Bool.not_eq_false] at taken
      obtain ⟨takenAt, extracted, rfl⟩ := Option.map_eq_some_iff.mp found
      exact ⟨⟨stat, there, taken.1.1⟩, taken.1.2, by rw [extracted]; rfl, rfl, rfl, rfl⟩

theorem scanFile_none (s : Store) (path : Path) (indexable : Indexable volume roots excluded path)
    (skipped : scanFile desktop volume s.unchangedIndex path = none) :
    ∃ id row, LiveRow s id row ∧ row.uri = desktop.fromPath path := by
  obtain ⟨stat, there, file⟩ := indexable.file
  obtain ⟨takenAt, extracted⟩ := Option.isSome_iff_exists.mp indexable.extracted
  unfold scanFile at skipped
  rw [there] at skipped
  simp only [file, bne_self_eq_false, indexable.media, Bool.not_true, Bool.false_or] at skipped
  split at skipped
  · next same =>
    obtain ⟨time, _, indexed⟩ := (Option.any_eq_true _ _).mp same
    rw [beq_iff_eq] at indexed
    obtain ⟨⟨id, row⟩, found, _⟩ := Option.map_eq_some_iff.mp indexed
    obtain ⟨present, chosen⟩ := Table.last?_some found
    rw [Bool.and_eq_true, beq_iff_eq] at chosen
    exact ⟨id, row, ⟨present, chosen.1⟩, chosen.2⟩
  · unfold processFile at skipped
    rw [extracted] at skipped
    cases skipped

def Shown (s : Store) (path : Path) : Prop := ∃ id row, LiveRow s id row ∧ row.uri = desktop.fromPath path

variable {desktop volume roots excluded}

theorem Shown.scans {s t : Store} {path : Path} (shown : Shown desktop s path)
    (scans : Scans desktop volume roots excluded s t) : Shown desktop t path := by
  obtain ⟨id, row, live, uri⟩ := shown
  obtain ⟨later, still, same⟩ := scans.live id row live
  exact ⟨id, later, still, same.trans uri⟩

theorem scanDir_scans (plain : ∀ root ∈ roots, root.plain = true) {root : Path} (member : root ∈ scannedRoots volume roots)
    {clock : Clock} {s t : Store} (catalogued : Catalogued desktop s) (done : scanDir desktop volume root excluded clock s = .ok t) :
    Scans desktop volume roots excluded s t ∧ ∀ path ∈ walkedPaths volume root excluded,
      Indexable volume roots excluded path → s.publishesTo (desktop.text path) none = false → Shown desktop t path := by
  unfold scanDir at done
  obtain ⟨last, loop, rest⟩ := bind_ok.mp done
  cases rest
  let inv (rest : List (NewMediaItem × EditEvent)) (now : Store × List Nat) : Prop := Scans desktop volume roots excluded s now.1 ∧
    (∀ item ∈ rest, ∃ path, Indexable volume roots excluded path ∧ item.1.uri = desktop.fromPath path ∧
      item.1.path = desktop.text path ∧ item.1.folderPath = desktop.text (folderOf path)) ∧
    ∀ path ∈ walkedPaths volume root excluded, Indexable volume roots excluded path → s.publishesTo (desktop.text path) none = false →
      (∃ item ∈ rest, item.1.uri = desktop.fromPath path) ∨ Shown desktop now.1 path
  have each : ∀ item rest before after, inv (item :: rest) before → upsertItem none before item = .ok after → inv rest after := by
    rintro item rest before after ⟨scans, items, covered⟩ stepped
    obtain ⟨path, indexable, uri, text, folder⟩ := items item mem_cons_self
    have others := fun other member => items other (mem_cons_of_mem _ member)
    have only : ∀ other, Indexable volume roots excluded other → item.1.uri = desktop.fromPath other → other = path :=
      fun other found same => desktop.fromPath_injective (found.plain plain) (indexable.plain plain) (same.symm.trans uri)
    rcases upsertItem_writes desktop (indexable.plain plain) uri text folder scans.catalogued stepped with
      ⟨blocked, rfl⟩ | ⟨free, id, writes⟩
    · refine ⟨scans, others, fun other walked found free => ?_⟩
      rcases covered other walked found free with ⟨held, member, named⟩ | shown
      · rcases mem_cons.mp member with rfl | later
        · rw [scans.publishesTo, ← only other found named, free] at blocked
          cases blocked
        · exact .inl ⟨held, later, named⟩
      · exact .inr shown
    · have wrote := Scans.writes path indexable free scans.catalogued id (upsertItem_untouched stepped) writes
      refine ⟨scans.trans wrote, others, fun other walked found free => ?_⟩
      rcases covered other walked found free with ⟨held, member, named⟩ | shown
      · rcases mem_cons.mp member with rfl | later
        · obtain ⟨row, live, own⟩ := writes.row
          exact .inr ⟨id, row, live, by rw [own.uri, only other found named]⟩
        · exact .inl ⟨held, later, named⟩
      · exact .inr (shown.scans wrote)
  have start : inv (((walkedPaths volume root excluded).filterMap (scanFile desktop volume s.unchangedIndex)).map
      (fun item => (item, clock.found item))) (s, []) := by
    refine ⟨.refl catalogued, fun item listed => ?_, fun path walked found _ => ?_⟩
    · obtain ⟨held, taken, rfl⟩ := mem_map.mp listed
      obtain ⟨path, walked, scanned⟩ := mem_filterMap.mp taken
      obtain ⟨file, media, extracted, columns⟩ := scanFile_some desktop volume scanned
      exact ⟨path, ⟨⟨root, member, walked⟩, file, media, extracted⟩, columns⟩
    · cases scanned : scanFile desktop volume s.unchangedIndex path with
      | none => exact .inr (scanFile_none desktop volume roots excluded s path found scanned)
      | some item =>
        refine .inl ⟨(item, clock.found item), mem_map.mpr ⟨item, mem_filterMap.mpr ⟨path, walked, scanned⟩, rfl⟩, ?_⟩
        exact (scanFile_some desktop volume scanned).2.2.2.1
  obtain ⟨scans, _, covered⟩ := loop_remaining inv each start loop
  refine ⟨scans, fun path walked found free => ?_⟩
  rcases covered path walked found free with ⟨_, none, _⟩ | shown
  · exact absurd none not_mem_nil
  · exact shown

theorem scanRoots_scans (plain : ∀ root ∈ roots, root.plain = true) {clock : Clock} {s t : Store}
    (catalogued : Catalogued desktop s) (done : scanRoots desktop volume roots excluded clock s = .ok t) :
    Scans desktop volume roots excluded s t ∧ ∀ path, Indexable volume roots excluded path →
      s.publishesTo (desktop.text path) none = false → Shown desktop t path := by
  let inv (rest : List Path) (now : Store) : Prop :=
    Scans desktop volume roots excluded s now ∧ (∀ root ∈ rest, root ∈ scannedRoots volume roots) ∧
    ∀ path, Indexable volume roots excluded path → s.publishesTo (desktop.text path) none = false →
      (∃ root ∈ rest, path ∈ walkedPaths volume root excluded) ∨ Shown desktop now path
  have each : ∀ root rest before after, inv (root :: rest) before →
      scanDir desktop volume root excluded clock before = .ok after → inv rest after := by
    rintro root rest before after ⟨scans, available, covered⟩ stepped
    obtain ⟨more, shows⟩ := scanDir_scans plain (available root mem_cons_self) scans.catalogued stepped
    refine ⟨scans.trans more, fun other member => available other (mem_cons_of_mem _ member), fun path found free => ?_⟩
    rcases covered path found free with ⟨other, member, walked⟩ | shown
    · rcases mem_cons.mp member with rfl | later
      · exact .inr (shows path walked found (by rw [scans.publishesTo]; exact free))
      · exact .inl ⟨other, later, walked⟩
    · exact .inr (shown.scans more)
  have start : inv (scannedRoots volume roots) s := ⟨.refl catalogued, fun _ member => member, fun _ found _ => .inl found.walked⟩
  obtain ⟨scans, _, covered⟩ := loop_remaining inv each start done
  refine ⟨scans, fun path found free => ?_⟩
  rcases covered path found free with ⟨_, none, _⟩ | shown
  · exact absurd none not_mem_nil
  · exact shown

end Scan

section Unrecorded

theorem upsertItem_unrecorded (item : NewMediaItem × EditEvent) (before : Store × List Nat)
    (off : before.1.recording = false) : ∃ after, upsertItem none before item = .ok after ∧ after.1.recording = false := by
  unfold upsertItem
  split
  · exact ⟨before, rfl, off⟩
  · split
    · next id row _ =>
      have still : (before.1.updateMedia id item.1.scanned).recording = false := off
      dsimp only
      split
      · rw [note_off _ _ _ _ still]
        exact ⟨_, rfl, still⟩
      · exact ⟨_, rfl, still⟩
    · exact ⟨_, rfl, off⟩

theorem removeOrTrashLiveRow_unrecorded {s : Store} {id : Nat} {inTrash : Bool} {now : Int} {stamp : EditEvent}
    (off : s.recording = false) : ∃ t, s.removeOrTrashLiveRow id inTrash now stamp = .ok t ∧ t.recording = false := by
  unfold removeOrTrashLiveRow
  split
  · have still : (s.markTrashed id now).recording = false := off
    rw [note_off _ _ _ _ still]
    exact ⟨_, rfl, still⟩
  · rw [note_off _ _ _ _ off]
    exact ⟨_, rfl, off⟩

variable (desktop : Desktop) (volume : Volume) (clock : Clock)

theorem scanRoots_unrecorded (roots excluded : List Path) (s : Store) (off : s.recording = false) :
    ∃ t, scanRoots desktop volume roots excluded clock s = .ok t ∧ t.recording = false := by
  refine loop_reaches _ (fun now : Store => now.recording = false) _ (fun root before off => ?_) s off
  obtain ⟨after, done, kept⟩ := loop_reaches (upsertItem none) (fun now => now.1.recording = false)
    (((walkedPaths volume root excluded).filterMap (scanFile desktop volume before.unchangedIndex)).map
      (fun item => (item, clock.found item))) upsertItem_unrecorded (before, []) off
  refine ⟨after.1, ?_, kept⟩
  unfold scanDir upsertMediaItems
  dsimp only
  rw [done]
  rfl

theorem pruneMissing_unrecorded (order : List Nat) {s : Store} (off : s.recording = false) :
    ∃ t, pruneMissing desktop volume clock order s = .ok t := by
  unfold pruneMissing deleteLiveMediaByPaths
  refine (loop_reaches _ (fun now => now.recording = false) _ (fun gone before off => ?_) s off).imp (fun _ reached => reached.1)
  split
  · exact removeOrTrashLiveRow_unrecorded off
  · exact ⟨before, rfl, off⟩

end Unrecorded

section Rounds
variable (desktop : Desktop) (volume : Volume) (roots excluded : List Path)

def Round (s t : Store) : Prop := ∃ clock, ScanAndPrune desktop volume roots excluded clock s t

def Wrote (s t : Store) (id : Nat) : Prop := ∃ row, t.media.get id = some row ∧
    (s.media.get id ≠ some row ∨ ∃ path, Indexable volume roots excluded path ∧ RowOf desktop row path)

-- The prune spares what the scan before it wrote, and rounds after the first leave the live rows alone.
def Stable (s : Store) : Prop := (∀ clock indexed order t, scanRoots desktop volume roots excluded clock s = .ok indexed →
    order.Perm (collectMissing volume (scannedRoots volume roots) excluded indexed) →
    pruneMissing desktop volume clock order indexed = .ok t →
    ∀ id, Wrote desktop volume roots excluded s indexed id → Spared id indexed t) ∧
  ∀ first last, Round desktop volume roots excluded s first → Relation.ReflTransGen (Round desktop volume roots excluded) first last →
    ∀ id, (∃ row, LiveRow last id row) ↔ ∃ row, LiveRow first id row

structure Complete (s : Store) : Prop where
  catalogued : Catalogued desktop s
  kept : ∀ id row, LiveRow s id row → ¬ Gone volume roots excluded row
  shown : ∀ path, Indexable volume roots excluded path → s.publishesTo (desktop.text path) none = false → Shown desktop s path

variable {desktop volume roots excluded} (nameWise : desktop.NameWise) (plain : ∀ root ∈ roots, root.plain = true)
  (read : ∀ path, Indexable volume roots excluded path → ¬ Lost desktop volume roots excluded path)

include nameWise read in
theorem prune_spares {clock : Clock} {order : List Nat} {s t : Store} (catalogued : Catalogued desktop s)
    (same : order.Perm (collectMissing volume roots excluded s)) (done : pruneMissing desktop volume clock order s = .ok t)
    {id : Nat} {row : Media} (held : s.media.get id = some row) {path : Path}
    (indexable : Indexable volume roots excluded path) (own : RowOf desktop row path) : Spared id s t := by
  refine pruneMissing_spares desktop volume clock roots excluded order s t same id
    (fun other gone present reported away again live named => ?_) done
  rw [LiveRow, held] at live
  obtain ⟨equal, alive⟩ := live
  cases equal
  obtain ⟨place, owned⟩ := catalogued.rows other gone ⟨present, reported.1⟩
  have path' := matches_path nameWise own owned named
  exact read path indexable ⟨row, own, gone_together nameWise owned own path' alive ⟨reported, away⟩⟩

include nameWise plain read in
theorem round_completes {s t : Store} (catalogued : Catalogued desktop s) (round : Round desktop volume roots excluded s t) :
    Complete desktop volume roots excluded t := by
  obtain ⟨clock, indexed, order, scanned, same, done⟩ := round
  rw [collectMissing_scanned] at same
  obtain ⟨scans, shows⟩ := scanRoots_scans plain catalogued scanned
  have shrinks := deleteLive_shrinks desktop.platform done
  have publications : t.publications = indexed.publications := by
    refine (Untouched.loop _ _ (fun gone _ before after stepped => ?_) done).publications
    split at stepped
    · have steps : Steps .none before after := removeOrTrashLiveRow_steps stepped
      exact steps.toUntouched
    · cases stepped
      exact .refl
  refine ⟨⟨fun id row live => scans.catalogued.rows id row (shrinks id row live), fun first second row other read read' uri => ?_⟩,
    fun id row live gone => ?_, fun path indexable free => ?_⟩
  · obtain ⟨old, held, named⟩ := deleteLive_uri desktop.platform done read
    obtain ⟨old', held', named'⟩ := deleteLive_uri desktop.platform done read'
    exact scans.catalogued.unique first second old old' held held' (by rw [named, named', uri])
  · obtain ⟨path, own⟩ := scans.catalogued.rows id row (shrinks id row live)
    refine pruneMissing_clears desktop volume clock roots excluded order indexed t same gone.2
      (fun other found alive named => ?_) done live (.inl rfl)
    obtain ⟨place, owned⟩ := scans.catalogued.rows other found alive
    have column := matches_path nameWise owned own named
    exact ⟨column, (gone_together nameWise own owned column alive.2 gone).1⟩
  · have blocked : s.publishesTo (desktop.text path) none = false := by
      rw [← scans.publishesTo]
      unfold publishesTo at free ⊢
      rw [← publications]
      exact free
    obtain ⟨id, row, live, uri⟩ := shows path indexable blocked
    obtain ⟨place, own⟩ := scans.catalogued.rows id row live
    have here := desktop.fromPath_injective own.plain (indexable.plain plain) (own.uri.symm.trans uri)
    subst here
    have spared := prune_spares nameWise read scans.catalogued same done live.1 indexable own
    exact ⟨id, row, ⟨by rw [spared.row]; exact live.1, live.2⟩, uri⟩

include plain read in
theorem complete_round (s t : Store) (complete : Complete desktop volume roots excluded s)
    (round : Round desktop volume roots excluded s t) :
    Complete desktop volume roots excluded t ∧ ∀ id, (∃ row, LiveRow t id row) ↔ ∃ row, LiveRow s id row := by
  obtain ⟨clock, indexed, order, scanned, same, done⟩ := round
  rw [collectMissing_scanned] at same
  obtain ⟨scans, shows⟩ := scanRoots_scans plain complete.catalogued scanned
  have kept : ∀ id row, LiveRow indexed id row → ¬ Gone volume roots excluded row := by
    intro id row live gone
    rcases scans.rows id row live.1 with before | ⟨path, indexable, own⟩
    · exact complete.kept id row ⟨before, live.2⟩ gone
    · exact read path indexable ⟨row, own, gone⟩
  have nothing : pruneMissing desktop volume clock order indexed = .ok indexed := by
    refine pruneMissing_nothing desktop volume clock roots excluded order indexed same (fun id row held reported => ?_)
    exact Bool.eq_false_iff.mpr (fun away => kept id row ⟨held, reported.1⟩ ⟨reported, away⟩)
  rw [nothing] at done
  cases done
  refine ⟨⟨scans.catalogued, kept, fun path indexable free => shows path indexable ?_⟩, fun id => ⟨fun ⟨row, live⟩ => ?_, fun ⟨row, live⟩ => ?_⟩⟩
  · rw [← scans.publishesTo]
    exact free
  · rcases scans.fresh id row live with before | ⟨path, indexable, free, none⟩
    · exact before
    · obtain ⟨other, old, alive, uri⟩ := complete.shown path indexable free
      exact absurd uri (none other old alive)
  · obtain ⟨later, still, _⟩ := scans.live id row live
    exact ⟨later, still⟩

include nameWise plain in
theorem scanning_is_stable_iff : (∀ path, Indexable volume roots excluded path → ¬ Lost desktop volume roots excluded path) ↔
      ∀ s, Catalogued desktop s → Stable desktop volume roots excluded s := by
  refine ⟨fun read s catalogued => ⟨fun clock indexed order t scanned same done id wrote => ?_, fun first last start more => ?_⟩,
    fun stable path indexable lost => ?_⟩
  · rw [collectMissing_scanned] at same
    obtain ⟨scans, _⟩ := scanRoots_scans plain catalogued scanned
    obtain ⟨row, held, written⟩ := wrote
    obtain ⟨path, indexable, own⟩ : ∃ path, Indexable volume roots excluded path ∧ RowOf desktop row path := by
      rcases scans.rows id row held with before | taken
      · exact written.resolve_left (fun changed => changed before)
      · exact taken
    exact prune_spares nameWise read scans.catalogued same done held indexable own
  · have complete := round_completes nameWise plain read catalogued start
    have run : Complete desktop volume roots excluded last ∧ ∀ id, (∃ row, LiveRow last id row) ↔ ∃ row, LiveRow first id row := by
      induction more with
      | refl => exact ⟨complete, fun _ => Iff.rfl⟩
      | tail _ step held =>
        obtain ⟨still, same⟩ := complete_round plain read _ _ held.1 step
        exact ⟨still, fun id => (same id).trans (held.2 id)⟩
    exact run.2
  · -- A device that has indexed nothing yet and is not connected.
    let s : Store := { empty with localChangesEnabled := false }
    have catalogued : Catalogued desktop s := by
      refine ⟨fun id row live => ?_, fun first _ row _ read => ?_⟩
      · cases live.1
      · cases read
    let clock : Clock := ⟨0, fun _ => ⟨0, "", ""⟩, fun _ => ⟨0, "", ""⟩⟩
    obtain ⟨indexed, scanned, off⟩ := scanRoots_unrecorded desktop volume clock roots excluded s rfl
    obtain ⟨t, done⟩ := pruneMissing_unrecorded desktop volume clock (collectMissing volume roots excluded indexed) off
    have spared : ∀ id row, indexed.media.get id = some row → Spared id indexed t := fun id row held =>
      (stable s catalogued).1 clock indexed _ t scanned (by rw [collectMissing_scanned]) done id
        ⟨row, held, .inl (fun before => by cases before)⟩
    obtain ⟨scans, shows⟩ := scanRoots_scans plain catalogued scanned
    obtain ⟨id, row, live, uri⟩ := shows path indexable rfl
    obtain ⟨place, own⟩ := scans.catalogued.rows id row live
    have here := desktop.fromPath_injective own.plain (indexable.plain plain) (own.uri.symm.trans uri)
    subst here
    obtain ⟨lostRow, owned, gone⟩ := lost
    obtain ⟨reported, away⟩ := gone_together nameWise owned own (own.column.trans owned.column.symm)
      live.2 gone
    obtain ⟨taken, held, alive, _, dead⟩ := pruneMissing_takes desktop volume clock roots excluded _ indexed t
      (List.Perm.refl _) live.1 reported away done
    exact dead held ⟨by rw [(spared taken held alive.1).row]; exact alive.1, alive.2⟩

end Rounds

def pictureDisk (name : FileName) : Volume where
  fs := (⟨(Tree.ofPaths [("/r", .directory true)]).nodes ++ [((Path.ofText "/r").names ++ [name], .file [1] 7)]⟩ : Tree).fileSystem
  extract := fun _ => some none
  trashRootsFor := fun _ => []

def latinName : FileName := ⟨[0xFF, 46, 106, 112, 103], by decide⟩

def textName : FileName := ⟨[97, 46, 106, 112, 103], by decide⟩

theorem text_name_is_stable : Indexable (pictureDisk textName) [.ofText "/r"] [] ((Path.ofText "/r").child textName) ∧
    ∀ s, Catalogued .replacing s → Stable .replacing (pictureDisk textName) [.ofText "/r"] [] s := by
  refine ⟨⟨⟨.ofText "/r", by decide +kernel, by decide +kernel⟩, ⟨⟨.file, 7, 1⟩, by decide +kernel, rfl⟩, by decide +kernel, rfl⟩, ?_⟩
  refine (scanning_is_stable_iff Desktop.replacing_nameWise ?_).mp ?_
  · intro root member
    rw [List.mem_singleton.mp member]
    decide +kernel
  · rintro path ⟨⟨root, member, walked⟩, _, media, _⟩ ⟨row, own, gone⟩
    obtain rfl := List.mem_singleton.mp (List.mem_filter.mp member).1
    have paths : walkedPaths (pictureDisk textName) (.ofText "/r") [] = [.ofText "/r", .ofText "/r/a.jpg"] := by
      decide +kernel
    rw [paths] at walked
    simp only [List.mem_cons, List.not_mem_nil, or_false] at walked
    rcases walked with rfl | rfl
    · exact absurd media (by decide +kernel)
    · have away := gone.2
      rw [own.column] at away
      exact absurd away (by decide +kernel)

-- The name has a byte that is no text. The scan finds the picture and writes
-- its row, the prune takes the row away and has the deletion sent.
theorem latin_name_is_pruned : ∃ photo, Catalogued .replacing (.ofPhoto "/r" "\uFFFD.jpg" photo) ∧
    ∃ indexed t, scanRoots .replacing (pictureDisk latinName) [.ofText "/r"] [] quietClock
        (.ofPhoto "/r" "\uFFFD.jpg" photo) = .ok indexed ∧
      Wrote .replacing (pictureDisk latinName) [.ofText "/r"] [] (.ofPhoto "/r" "\uFFFD.jpg" photo) indexed 1 ∧
      pruneMissing .replacing (pictureDisk latinName) quietClock (collectMissing (pictureDisk latinName)
        (scannedRoots (pictureDisk latinName) [.ofText "/r"]) [] indexed) indexed = .ok t ∧
      t.media.get 1 = none ∧ t.journal = indexed.journal ++ [⟨1, .deletion, 2⟩] := by
  let path := (Path.ofText "/r").child latinName
  let photo := photoAt (Desktop.replacing.fromPath path) (Desktop.replacing.text path) "/r"
  have own : RowOf .replacing photo path := by
    refine ⟨by decide +kernel, rfl, rfl, by decide +kernel⟩
  refine ⟨photo, ⟨fun id row live => ?_, fun first second row other read read' _ => ?_⟩, ?_⟩
  · obtain ⟨_, rfl⟩ := ofPhoto_only live.1
    exact ⟨path, own⟩
  · rw [(ofPhoto_only read).1, (ofPhoto_only read').1]
  · obtain ⟨indexed, scanned, found⟩ := ok_of_any (scanRoots .replacing (pictureDisk latinName) [.ofText "/r"] [] quietClock
        (.ofPhoto "/r" "\uFFFD.jpg" photo))
      (fun indexed => indexed.media.get 1 == some { photo with fileMtimeNs := 7 } &&
        (pruneMissing .replacing (pictureDisk latinName) quietClock (collectMissing (pictureDisk latinName)
          (scannedRoots (pictureDisk latinName) [.ofText "/r"]) [] indexed) indexed).toOption.any (fun t =>
            t.media.get 1 == none && t.journal == indexed.journal ++ [⟨1, .deletion, 2⟩])) (by decide +kernel)
    rw [Bool.and_eq_true, beq_iff_eq] at found
    obtain ⟨t, pruned, ended⟩ := ok_of_any _ _ found.2
    rw [Bool.and_eq_true, beq_iff_eq, beq_iff_eq] at ended
    refine ⟨indexed, t, scanned, ⟨_, found.1, .inl ?_⟩, pruned, ended⟩
    decide +kernel

end PhotoSync
