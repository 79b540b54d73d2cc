import PhotoSync.Library.Scan
import PhotoSync.Runs.Spared

set_option autoImplicit false

namespace PhotoSync
open Relational Transaction Posix Store Table Option List

def LiveRow (s : Store) (id : Nat) (row : Media) : Prop := s.media.get id = some row ∧ row.live = true

def Media.matches (platform : Platform) (row : Media) (path : String) : Prop := row.path = path ∨ row.uri = platform.fileUri path

variable {id : Nat} {uri : String} {inTrash : Bool} {now : Int}
variable {row : Media} {path : String} {stamp : EditEvent}

theorem liveAt_some {s : Store} (found : s.liveAt path uri = some id) : ∃ row, LiveRow s id row ∧ (row.path = path ∨ row.uri = uri) := by
  obtain ⟨⟨_, row⟩, located, rfl⟩ := map_eq_some_iff.mp found
  obtain ⟨present, chosen⟩ := first?_some located
  simp only [Bool.and_eq_true, Bool.or_eq_true, beq_iff_eq] at chosen
  exact ⟨row, ⟨present, by simp [Media.live, chosen.1.2, chosen.2]⟩, chosen.1.1⟩

theorem liveAt_none {s : Store} (none : s.liveAt path uri = none) (live : LiveRow s id row) : ¬ (row.path = path ∨ row.uri = uri) := by
  intro named
  have unmatched := first?_none.mp (map_eq_none_iff.mp none) id row live.1
  obtain ⟨untrashed, here⟩ := Bool.and_eq_true_iff.mp live.2
  simp only [untrashed, here, Bool.and_true, Bool.or_eq_false_iff, beq_eq_false_iff_ne] at unmatched
  exact named.elim unmatched.1 unmatched.2

theorem removeOrTrashLiveRow_ends {s t : Store} (row : Media) (done : s.removeOrTrashLiveRow id inTrash now stamp = .ok t) :
    ¬ LiveRow t id row := by
  rintro ⟨read, live⟩
  unfold removeOrTrashLiveRow at done
  split at done
  · obtain ⟨⟨last, outcome⟩, noted, rest⟩ := bind_ok.mp done
    cases rest
    obtain ⟨entries, journal, same⟩ := note_recorded noted
    rw [same] at read
    simp only [markTrashed, updateMedia, get_modify_self] at read
    obtain ⟨old, _, rfl⟩ := map_eq_some_iff.mp read
    simp [Media.live] at live
  · obtain ⟨⟨middle, outcome⟩, noted, rest⟩ := bind_ok.mp done
    dsimp only at rest
    split at rest
    · cases rest
      simp only [updateMedia, get_modify_self] at read
      obtain ⟨old, _, rfl⟩ := map_eq_some_iff.mp read
      simp [Media.live] at live
    · cases rest
      simp [deleteMedia] at read

theorem removeOrTrashLiveRow_uri {s t : Store} (done : s.removeOrTrashLiveRow id inTrash now stamp = .ok t)
    (read : t.media.get id = some row) : ∃ old, s.media.get id = some old ∧ old.uri = row.uri := by
  unfold removeOrTrashLiveRow at done
  split at done
  · obtain ⟨⟨last, outcome⟩, noted, rest⟩ := bind_ok.mp done
    cases rest
    obtain ⟨entries, journal, same⟩ := note_recorded noted
    rw [same] at read
    simp only [markTrashed, updateMedia, get_modify_self] at read
    obtain ⟨old, held, rfl⟩ := map_eq_some_iff.mp read
    exact ⟨old, held, rfl⟩
  · obtain ⟨⟨middle, outcome⟩, noted, rest⟩ := bind_ok.mp done
    obtain ⟨entries, journal, same⟩ := note_recorded noted
    dsimp only at rest
    split at rest
    · cases rest
      rw [same] at read
      simp only [updateMedia, get_modify_self] at read
      obtain ⟨old, held, rfl⟩ := map_eq_some_iff.mp read
      exact ⟨old, held, rfl⟩
    · cases rest
      simp [deleteMedia] at read

section Prune
variable (platform : Platform)

theorem deleteLive_step {before after : Store} {gone : Store.Vanished}
    (done : (match before.liveAt gone.path (platform.fileUri gone.path) with
      | some id => before.removeOrTrashLiveRow id gone.inTrash gone.now (gone.stamp id)
      | none => .ok before) = .ok after) :
    (after = before ∧ ∀ id row, LiveRow before id row → ¬ row.matches platform gone.path) ∨
    ∃ id row, LiveRow before id row ∧ row.matches platform gone.path ∧ (∀ other, other ≠ id → Spared other before after) ∧
      ∀ later, ¬ LiveRow after id later := by
  split at done
  · next id found =>
    obtain ⟨row, live, named⟩ := liveAt_some found
    exact .inr ⟨id, row, live, named, fun other different => .removeOrTrashLiveRow id _ _ _ different.symm done,
      fun later => removeOrTrashLiveRow_ends later done⟩
  · next none =>
    cases done
    exact .inl ⟨rfl, fun id row live => liveAt_none none live⟩

theorem deleteLive_live {before after : Store} {gone : Store.Vanished} (id : Nat) (row : Media)
    (done : (match before.liveAt gone.path (platform.fileUri gone.path) with
      | some id => before.removeOrTrashLiveRow id gone.inTrash gone.now (gone.stamp id)
      | none => .ok before) = .ok after) (live : LiveRow after id row) : LiveRow before id row := by
  rcases deleteLive_step platform done with ⟨rfl, _⟩ | ⟨taken, _, _, _, others, ended⟩
  · exact live
  · by_cases same : id = taken
    · subst same
      exact absurd live (ended row)
    · exact ⟨by rw [← (others id same).row]; exact live.1, live.2⟩

theorem deleteLive_shrinks {removed : List Store.Vanished} {s t : Store}
    (done : deleteLiveMediaByPaths platform removed s = .ok t) (id : Nat) (row : Media) (live : LiveRow t id row) :
    LiveRow s id row := by
  refine loop_keeps (fun now => LiveRow now id row → LiveRow s id row)
    (fun gone _ before after shrinks stepped later => ?_) (fun same => same) done live
  exact shrinks (deleteLive_live platform id row stepped later)

theorem deleteLive_clears (path : String) {removed : List Store.Vanished} {s t : Store} (ids : List Nat)
    (often : ids.length ≤ (removed.map Store.Vanished.path).count path)
    (cover : ∀ id row, LiveRow s id row → row.matches platform path → id ∈ ids)
    (done : deleteLiveMediaByPaths platform removed s = .ok t) {id : Nat} {row : Media} (live : LiveRow t id row) :
    ¬ row.matches platform path := by
  let inv (rest : List Store.Vanished) (now : Store) : Prop := ∃ ids : List Nat, ids.length ≤ (rest.map Store.Vanished.path).count path ∧
      ∀ id row, LiveRow now id row → row.matches platform path → id ∈ ids
  have each : ∀ gone rest before after, inv (gone :: rest) before → (match before.liveAt gone.path (platform.fileUri gone.path) with
        | some id => before.removeOrTrashLiveRow id gone.inTrash gone.now (gone.stamp id)
        | none => .ok before) = .ok after → inv rest after := by
    rintro gone rest before after ⟨ids, often, cover⟩ stepped
    have shrinks := fun id row => deleteLive_live platform id row stepped
    rw [map_cons, count_cons] at often
    by_cases here : gone.path = path
    · subst here
      rw [if_pos (beq_self_eq_true _)] at often
      rcases deleteLive_step platform stepped with ⟨rfl, none⟩ | ⟨taken, held, alive, own, _, dead⟩
      · exact ⟨[], Nat.zero_le _, fun id row live named => absurd named (none id row live)⟩
      · have listed := cover taken held alive own
        refine ⟨ids.erase taken, by rw [length_erase_of_mem listed]; omega, fun id row live named => ?_⟩
        have different : id ≠ taken := by
          rintro rfl
          exact dead row live
        exact (mem_erase_of_ne different).mpr (cover id row (shrinks id row live) named)
    · rw [if_neg (by simpa using here), Nat.add_zero] at often
      exact ⟨ids, often, fun id row live named => cover id row (shrinks id row live) named⟩
  obtain ⟨ids, none, cover⟩ := loop_remaining inv each ⟨ids, often, cover⟩ done
  intro named
  have listed := cover id row live named
  rw [eq_nil_of_length_eq_zero (Nat.le_zero.mp none)] at listed
  exact absurd listed not_mem_nil

theorem deleteLive_spares (removed : List Store.Vanished) (s t : Store) (media : Nat)
    (apart : ∀ gone ∈ removed, ∀ row, LiveRow s media row → ¬ row.matches platform gone.path)
    (done : deleteLiveMediaByPaths platform removed s = .ok t) : Spared media s t := by
  refine loop_keeps (Spared media s) (fun gone member before after spared stepped => ?_) .refl done
  refine spared.trans ?_
  rcases deleteLive_step platform stepped with ⟨rfl, _⟩ | ⟨taken, row, live, named, others, _⟩
  · exact .refl
  · refine others media ?_
    rintro rfl
    exact apart gone member row ⟨by rw [← spared.row]; exact live.1, live.2⟩ named

theorem deleteLive_uri {removed : List Store.Vanished} {s t : Store}
    (done : deleteLiveMediaByPaths platform removed s = .ok t) {id : Nat} {row : Media}
    (read : t.media.get id = some row) : ∃ old, s.media.get id = some old ∧ old.uri = row.uri := by
  refine loop_keeps (fun now => ∀ row, now.media.get id = some row → ∃ old, s.media.get id = some old ∧ old.uri = row.uri)
    (fun gone _ before after kept stepped row read => ?_) (fun row read => ⟨row, read, rfl⟩) done row read
  split at stepped
  · next taken _ =>
    by_cases same : id = taken
    · subst same
      obtain ⟨middle, held, uri⟩ := removeOrTrashLiveRow_uri stepped read
      obtain ⟨old, first, again⟩ := kept middle held
      exact ⟨old, first, again.trans uri⟩
    · have spared : Spared id before after := .removeOrTrashLiveRow taken _ _ _ (Ne.symm same) stepped
      exact kept row (by rw [← spared.row]; exact read)
  · cases stepped
    exact kept row read

theorem deleteLive_takes {removed : List Store.Vanished} {s t : Store} {gone : Store.Vanished} (member : gone ∈ removed)
    (id : Nat) (row : Media) (live : LiveRow s id row) (named : row.matches platform gone.path)
    (done : deleteLiveMediaByPaths platform removed s = .ok t) :
    ∃ taken held, LiveRow s taken held ∧ held.matches platform gone.path ∧ ∀ later, ¬ LiveRow t taken later := by
  let ended (now : Store) : Prop :=
    ∃ taken held, LiveRow s taken held ∧ held.matches platform gone.path ∧ ∀ later, ¬ LiveRow now taken later
  let inv (rest : List Store.Vanished) (now : Store) : Prop :=
    (∀ other found, LiveRow now other found → LiveRow s other found) ∧ (gone ∈ rest ∨ ended now)
  have each : ∀ first rest before after, inv (first :: rest) before → (match before.liveAt first.path (platform.fileUri first.path) with
        | some id => before.removeOrTrashLiveRow id first.inTrash first.now (first.stamp id)
        | none => .ok before) = .ok after → inv rest after := by
    intro first rest before after held stepped
    have shrinks : ∀ other found, LiveRow after other found → LiveRow before other found :=
      fun other found => deleteLive_live platform other found stepped
    refine ⟨fun other found alive => held.1 other found (shrinks other found alive), ?_⟩
    have carried : ended before → ended after := fun ⟨taken, found, start, match_, dead⟩ =>
      ⟨taken, found, start, match_, fun later alive => dead later (shrinks taken later alive)⟩
    rcases held.2 with there | dead
    · rcases mem_cons.mp there with rfl | later
      · refine .inr ?_
        rcases deleteLive_step platform stepped with ⟨rfl, none⟩ | ⟨taken, found, alive, own, _, dead⟩
        · refine ⟨id, row, live, named, fun later alive => ?_⟩
          have same := held.1 id later alive
          rw [LiveRow, live.1] at same
          obtain ⟨equal, _⟩ := same
          cases equal
          exact none id row alive named
        · exact ⟨taken, found, held.1 taken found alive, own, dead⟩
      · exact .inl later
    · exact .inr (carried dead)
  have last := loop_remaining inv each ⟨fun _ _ alive => alive, .inl member⟩ done
  exact last.2.resolve_left not_mem_nil

end Prune

section Collected
variable (desktop : Desktop) (volume : Volume)

def Reported (roots excluded : List Path) (row : Media) : Prop :=
  row.live = true ∧ (∃ root ∈ roots, scanRootIsAvailable volume root = true ∧ (Path.ofText row.path).startsWith root = true) ∧
    isExcludedPath (.ofText row.path) excluded = false ∧ looksMissing volume row = true

theorem mem_collectMissing (roots excluded : List Path) (s : Store) (id : Nat) :
    id ∈ collectMissing volume roots excluded s ↔ ∃ row, s.media.get id = some row ∧ Reported volume roots excluded row := by
  unfold collectMissing Reported
  simp only [List.mem_map, Prod.exists, mem_select, Bool.and_eq_true, List.any_eq_true, List.mem_filter, Bool.not_eq_true', and_assoc]
  constructor
  · rintro ⟨other, row, read, live, under, kept, missing, rfl⟩
    exact ⟨row, read, live, under, kept, missing⟩
  · rintro ⟨row, read, live, under, kept, missing⟩
    exact ⟨id, row, read, live, under, kept, missing, rfl⟩

theorem vanished_some {clock : Clock} {path : String} {gone : Store.Vanished} (found : vanished desktop volume clock path = some gone) :
    gone.path = path ∧ volume.fs.unlinked (.ofText path) = true := by
  unfold vanished at found
  split at found
  · next away =>
    cases found
    exact ⟨rfl, away⟩
  · cases found

variable (clock : Clock) (roots excluded : List Path) (order : List Nat) (s t : Store)

section
variable (same : order.Perm (collectMissing volume roots excluded s))

include same

theorem pruneMissing_spares (media : Nat) (apart : ∀ id found, s.media.get id = some found → Reported volume roots excluded found →
      volume.fs.unlinked (.ofText found.path) = true → ∀ row, LiveRow s media row →
      ¬ row.matches desktop.platform found.path)
    (done : pruneMissing desktop volume clock order s = .ok t) : Spared media s t := by
  refine deleteLive_spares desktop.platform _ s t media (fun gone member row live => ?_) done
  obtain ⟨path, listed, found⟩ := mem_filterMap.mp member
  obtain ⟨rfl, away⟩ := vanished_some desktop volume found
  obtain ⟨id, ordered, located⟩ := mem_filterMap.mp listed
  obtain ⟨other, read, path⟩ := map_eq_some_iff.mp located
  obtain ⟨held, _⟩ := filter_eq_some_iff.mp read
  obtain ⟨again, present, reported⟩ := (mem_collectMissing volume roots excluded s id).mp (same.mem_iff.mp ordered)
  rw [held] at present
  cases present
  rw [← path] at away ⊢
  exact apart id other held reported away row live

theorem pruneMissing_clears {path : String} (away : volume.fs.unlinked (.ofText path) = true)
    (all : ∀ id row, LiveRow s id row → row.matches desktop.platform path → row.path = path ∧ Reported volume roots excluded row)
    (done : pruneMissing desktop volume clock order s = .ok t) {id : Nat} {row : Media} (live : LiveRow t id row) :
    ¬ row.matches desktop.platform path := by
  let column (id : Nat) : Option String := ((s.media.get id).filter (fun row => row.trashedAt.isNone)).map Media.path
  refine deleteLive_clears desktop.platform path (order.filter (fun id => column id == some path)) ?_
    (fun id row live named => ?_) done live
  · have read : ∀ other, ((vanished desktop volume clock other).map Store.Vanished.path == some path) = (other == path) := by
      intro other
      unfold vanished
      by_cases here : other = path
      · subst here
        simp [away]
      · split <;> simp [here]
    have counted : ((order.filterMap column).filterMap (vanished desktop volume clock) |>.map Store.Vanished.path).count path =
        order.countP (fun id => column id == some path) := by
      rw [map_filterMap, count_filterMap]
      simp only [read]
      rw [← count_filterMap]
      rfl
    exact Nat.le_of_eq (countP_eq_length_filter.symm.trans counted.symm)
  · obtain ⟨here, reported⟩ := all id row live named
    have untrashed : row.trashedAt = none := by simpa using (Bool.and_eq_true_iff.mp live.2).1
    refine mem_filter.mpr ⟨?_, by simp [column, live.1, untrashed, here]⟩
    exact same.mem_iff.mpr ((mem_collectMissing volume roots excluded s id).mpr ⟨row, live.1, reported⟩)

theorem pruneMissing_nothing (none : ∀ id row, s.media.get id = some row → Reported volume roots excluded row →
      volume.fs.unlinked (.ofText row.path) = false) : pruneMissing desktop volume clock order s = .ok s := by
  have empty : (order.filterMap (fun id => ((s.media.get id).filter (fun row => row.trashedAt.isNone)).map Media.path)).filterMap
      (vanished desktop volume clock) = [] := by
    refine filterMap_eq_nil_iff.mpr (fun path listed => ?_)
    obtain ⟨id, ordered, located⟩ := mem_filterMap.mp listed
    obtain ⟨row, read, rfl⟩ := map_eq_some_iff.mp located
    obtain ⟨held, _⟩ := filter_eq_some_iff.mp read
    obtain ⟨again, present, reported⟩ := (mem_collectMissing volume roots excluded s id).mp (same.mem_iff.mp ordered)
    rw [held] at present
    cases present
    unfold vanished
    rw [if_neg (by rw [none id row held reported]; exact Bool.false_ne_true)]
  unfold pruneMissing
  dsimp only
  rw [empty]
  rfl

theorem pruneMissing_takes {id : Nat} {row : Media} (held : s.media.get id = some row) (reported : Reported volume roots excluded row)
    (away : volume.fs.unlinked (.ofText row.path) = true) (done : pruneMissing desktop volume clock order s = .ok t) :
    ∃ taken found, LiveRow s taken found ∧ found.matches desktop.platform row.path ∧ ∀ later, ¬ LiveRow t taken later := by
  have untrashed : row.trashedAt = none := by simpa using (Bool.and_eq_true_iff.mp reported.1).1
  have ordered : id ∈ order := same.mem_iff.mpr ((mem_collectMissing volume roots excluded s id).mpr ⟨row, held, reported⟩)
  have listed : row.path ∈ order.filterMap (fun id =>
      ((s.media.get id).filter (fun row => row.trashedAt.isNone)).map Media.path) :=
    mem_filterMap.mpr ⟨id, ordered, by simp [held, untrashed]⟩
  have member : (⟨row.path, Trash.isTrashed desktop volume (desktop.platform.fileUri row.path), clock.now,
      clock.stamp⟩ : Store.Vanished) ∈ (order.filterMap (fun id =>
      ((s.media.get id).filter (fun row => row.trashedAt.isNone)).map Media.path)).filterMap
        (vanished desktop volume clock) :=
    mem_filterMap.mpr ⟨row.path, listed, by unfold vanished; rw [if_pos away]⟩
  exact deleteLive_takes desktop.platform member id row ⟨held, reported.1⟩ (.inl rfl) done

end
end Collected

section Offline
variable (desktop : Desktop) (volume : Volume) (clock : Clock) (roots excluded : List Path)

def Offline (path : String) : Prop := ∃ root ∈ roots, scanRootIsAvailable volume root = false ∧ (Path.ofText path).startsWith root = true

-- No row that looks missing below a root that is there lies below one that is
-- not, and no row below such a root has its URI.
def OfflineApart (s : Store) : Prop := ∀ id gone, s.media.get id = some gone → Reported volume roots excluded gone →
    volume.fs.unlinked (.ofText gone.path) = true → ∀ media row, LiveRow s media row →
    row.matches desktop.platform gone.path → ¬ Offline volume roots row.path

theorem collectMissing_scanned (s : Store) :
    collectMissing volume (scannedRoots volume roots) excluded s = collectMissing volume roots excluded s := by
  unfold collectMissing scannedRoots
  simp only [List.filter_filter, Bool.and_self]

theorem offline_rows_kept_iff (s t : Store) (order : List Nat)
    (same : order.Perm (collectMissing volume (scannedRoots volume roots) excluded s))
    (done : pruneMissing desktop volume clock order s = .ok t) :
    (OfflineApart desktop volume roots excluded s → ∀ id row, s.media.get id = some row → Offline volume roots row.path →
      Spared id s t) ∧
    ((∀ first row second other, LiveRow s first row → LiveRow s second other →
        row.uri = desktop.platform.fileUri other.path → row.path = other.path) →
      (∀ id row, s.media.get id = some row → Offline volume roots row.path → Spared id s t) →
      OfflineApart desktop volume roots excluded s) := by
  rw [collectMissing_scanned] at same
  refine ⟨fun apart id row held offline => ?_, fun located kept id gone held reported away media row live named offline => ?_⟩
  · refine pruneMissing_spares desktop volume clock roots excluded order s t same id
      (fun other gone present reported away found live named => ?_) done
    rw [LiveRow, held] at live
    obtain ⟨equal, alive⟩ := live
    cases equal
    exact apart other gone present reported away id row ⟨held, alive⟩ named offline
  · obtain ⟨taken, found, alive, own, dead⟩ :=
      pruneMissing_takes desktop volume clock roots excluded order s t same held reported away done
    have samePath : ∀ one other, LiveRow s one other → other.matches desktop.platform gone.path → other.path = gone.path :=
      fun one other alive own => own.elim (fun here => here) (located one other id gone alive ⟨held, reported.1⟩)
    have path : found.path = row.path := (samePath taken found alive own).trans (samePath media row live named).symm
    have spared := kept taken found alive.1 (by rw [path]; exact offline)
    exact dead found ⟨by rw [spared.row]; exact alive.1, alive.2⟩

end Offline

def unmounted : Volume where
  fs := (Tree.ofPaths [("/p", .directory true)]).fileSystem
  extract := fun _ => some none
  trashRootsFor := fun _ => []

def photoAt (uri path folder : String) : Media := ⟨uri, path, folder, none, 0, 1, 0, none, .localOnly, true⟩

def quietClock : Clock := ⟨0, fun _ => ⟨0, "device", "event"⟩, fun _ => ⟨0, "device", "event"⟩⟩

def offlineLibrary : Store :=
  { Store.empty with
    media := (Table.empty.insert (photoAt "file:///p/b.jpg" "/p/b.jpg" "/p")).insert (photoAt "file:///q/a.jpg" "/q/a.jpg" "/q") }

theorem offlineLibrary_rows (read : offlineLibrary.media.get id = some row) :
    (id = 1 ∧ row = photoAt "file:///p/b.jpg" "/p/b.jpg" "/p") ∨ (id = 2 ∧ row = photoAt "file:///q/a.jpg" "/q/a.jpg" "/q") := by
  simp only [offlineLibrary, get_insert, get_empty] at read
  split at read
  · next second => exact .inr ⟨second, (some.inj read).symm⟩
  · split at read
    · next first => exact .inl ⟨first, (some.inj read).symm⟩
    · cases read

theorem separate_root_is_kept : ∃ t, pruneMissing .verbatim unmounted quietClock [1] offlineLibrary = .ok t ∧ t.media.get 1 = none ∧
      Spared 2 offlineLibrary t := by
  obtain ⟨t, done, gone⟩ := ok_of_any (pruneMissing .verbatim unmounted quietClock [1] offlineLibrary)
    (fun t => (t.media.get 1).isNone) (by decide +kernel)
  refine ⟨t, done, by simpa using gone, ?_⟩
  have collected : collectMissing unmounted (scannedRoots unmounted [.ofText "/p", .ofText "/q"]) [] offlineLibrary = [1] := by
    decide +kernel
  have kept := offline_rows_kept_iff .verbatim unmounted quietClock [.ofText "/p", .ofText "/q"] [] offlineLibrary t [1]
    (by rw [collected]) done
  refine kept.1 ?_ 2 _ rfl ⟨.ofText "/q", by decide +kernel, by decide +kernel, by decide +kernel⟩
  intro id gone held reported _ media row live named offline
  rcases offlineLibrary_rows held with ⟨_, rfl⟩ | ⟨_, rfl⟩
  · rcases offlineLibrary_rows live.1 with ⟨_, rfl⟩ | ⟨_, rfl⟩
    · obtain ⟨root, member, off, under⟩ := offline
      simp only [List.mem_cons, List.not_mem_nil, or_false] at member
      rcases member with rfl | rfl
      · exact absurd off (by decide +kernel)
      · exact absurd under (by decide +kernel)
    · exact absurd named (by unfold Media.matches; decide +kernel)
  · obtain ⟨_, ⟨root, member, there, under⟩, _⟩ := reported
    simp only [List.mem_cons, List.not_mem_nil, or_false] at member
    rcases member with rfl | rfl
    · exact absurd under (by decide +kernel)
    · exact absurd there (by decide +kernel)

-- The drive is offline and its root lies below another: its photo is gone.
theorem nested_root_is_pruned : Offline unmounted [.ofText "/p", .ofText "/p/usb"] "/p/usb/a.jpg" ∧
    collectMissing unmounted (scannedRoots unmounted [.ofText "/p", .ofText "/p/usb"]) []
      (.ofPhoto "/p" "usb/a.jpg" (photoAt "file:///p/usb/a.jpg" "/p/usb/a.jpg" "/p/usb")) = [1] ∧
    ∃ t, pruneMissing .verbatim unmounted quietClock [1]
        (.ofPhoto "/p" "usb/a.jpg" (photoAt "file:///p/usb/a.jpg" "/p/usb/a.jpg" "/p/usb")) = .ok t ∧
      t.media.get 1 = none ∧ t.journal = [⟨1, .deletion, 1⟩] := by
  refine ⟨⟨.ofText "/p/usb", by decide +kernel, by decide +kernel, by decide +kernel⟩, by decide +kernel, ?_⟩
  obtain ⟨t, done, gone⟩ := ok_of_any (pruneMissing .verbatim unmounted quietClock [1]
      (.ofPhoto "/p" "usb/a.jpg" (photoAt "file:///p/usb/a.jpg" "/p/usb/a.jpg" "/p/usb")))
    (fun t => decide (t.media.get 1 = none ∧ t.journal = [⟨1, .deletion, 1⟩])) (by decide +kernel)
  exact ⟨t, done, of_decide_eq_true gone⟩

end PhotoSync
