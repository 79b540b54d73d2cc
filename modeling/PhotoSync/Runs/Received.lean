import PhotoSync.Runs.Synced
import PhotoSync.Service.Transfer

set_option autoImplicit false

namespace PhotoSync
open Relational Transaction Store Table Option

structure Presents (s : Store) (entry media : Nat) (row : Entry) (item : Media) : Prop where
  entry : s.entries.get entry = some row
  link : row.media = some media
  indexed : s.media.get media = some item

structure Shows (photo : RemotePhoto) (date : Option Int) (row : Entry) (item : Media) : Prop where
  baseline : row.baseline = some photo
  path : row.relativePath = photo.relativePath
  favorite : item.isFavorite = photo.favorite
  date : item.takenAt = date

def Displays (photo : RemotePhoto) (date : Option Int) (entry : Nat) (s : Store) : Prop :=
  ∀ media row item, Presents s entry media row item → Shows photo date row item

structure Entry.Quiet (row : Entry) : Prop where
  metadata : row.metadataPending = false
  content : row.photoId ≠ none → row.contentPending = false ∧ row.dirty = .clean

section Presents
variable {s t : Store} {entry media : Nat} {row : Entry} {item : Media}

theorem Presents.same (presents : Presents t entry media row item) (entries : t.entries = s.entries)
    (indexes : t.media = s.media) : Presents s entry media row item :=
  ⟨entries ▸ presents.entry, presents.link, indexes ▸ presents.indexed⟩

theorem Presents.of_updateEntry {change : Entry → Entry}
    (presents : Presents (s.updateEntry entry change) entry media row item) (link : ∀ row, (change row).media = row.media) :
    ∃ old, Presents s entry media old item ∧ row = change old := by
  have read := (get_modify_self s.entries entry change).symm.trans presents.entry
  obtain ⟨old, present, rfl⟩ := map_eq_some_iff.mp read
  exact ⟨old, ⟨present, (link old).symm.trans presents.link, presents.indexed⟩, rfl⟩

theorem Presents.of_updateEntryMedia (change : Media → Media)
    (presents : Presents (s.updateEntryMedia entry change) entry media row item) :
    ∃ old, Presents s entry media row old ∧ item = change old := by
  have found : s.entries.get entry = some row := updateEntryMedia_entries s entry change ▸ presents.entry
  have linked : (s.entries.get entry).bind Entry.media = some media := by
    rw [found]
    exact presents.link
  have indexed := presents.indexed
  unfold updateEntryMedia at indexed
  simp only [linked, updateMedia, get_modify_self] at indexed
  obtain ⟨old, present, rfl⟩ := map_eq_some_iff.mp indexed
  exact ⟨old, ⟨found, presents.link, present⟩, rfl⟩

end Presents

section Projection
variable (platform : Platform) (s t : Store) (job entry : Nat) (photo : RemotePhoto)

theorem settleInPlace_displays {decision : Entry.Settlement}
    (path : ∀ row, s.entries.get entry = some row → row.relativePath = decision.photo.relativePath)
    (applies : decision.preserveMetadata = false) :
    Displays decision.photo decision.photo.takenAt entry (s.settleInPlace job entry decision) := by
  intro media row item presents
  unfold settleInPlace at presents
  simp only [applies, Bool.false_eq_true, if_false] at presents
  have settled := presents.same (s := setBaseline _ entry (some decision.photo)) rfl rfl
  obtain ⟨second, confirmed, rfl⟩ := settled.of_updateEntry (fun _ => rfl)
  obtain ⟨first, updated, rfl⟩ := confirmed.of_updateEntry (fun _ => rfl)
  obtain ⟨old, before, rfl⟩ := updated.of_updateEntryMedia
  exact ⟨rfl, path first before.entry, rfl, rfl⟩

theorem bindIdentical_displays {media : Nat} {observation : LocalDigest} {assetRevision masterRevision : String}
    {row : Entry} {after : Store × Adoption} (read : s.entries.get entry = some row)
    (path : row.relativePath = photo.relativePath) (owes : row.metadataPending = false)
    (done : s.bindIdentical job entry media photo observation assetRevision masterRevision = .ok after) :
    Displays photo photo.takenAt entry after.1 := by
  obtain ⟨same, generation, _, again, rfl⟩ := bindIdentical_eq done
  cases read.symm.trans again
  intro linked later item presents
  have settled := presents.same (s := (setBaseline _ entry (some photo)).setDigest entry observation) rfl rfl
  obtain ⟨third, digested, rfl⟩ := settled.of_updateEntry (fun _ => rfl)
  obtain ⟨second, based, rfl⟩ := digested.of_updateEntry (fun _ => rfl)
  have found := (get_modify_self _ entry _).symm.trans based.entry
  obtain ⟨first, present, rfl⟩ := map_eq_some_iff.mp found
  cases read.symm.trans present
  cases based.link
  have indexed := (get_modify_self s.media media _).symm.trans based.indexed
  obtain ⟨old, _, rfl⟩ := map_eq_some_iff.mp indexed
  simp only [owes, Bool.false_eq_true, if_false]
  exact ⟨rfl, path, rfl, rfl⟩

theorem schedulePlacement_entries (version : Nat) (decision : Entry.Settlement)
    (done : schedulePlacement platform s job entry version decision = .ok t) : t.entries = s.entries := by
  obtain ⟨_, _, _, _, rest⟩ := bind2_ok done
  cases rest
  rfl

theorem writeConflict_entries (reason : String) (remote : Option RemotePhoto) :
    (s.writeConflict job entry reason remote).entries = s.entries := by
  unfold writeConflict
  split
  · rfl
  · rfl

theorem settlement_quiet {row : Entry} {missing : Bool} (quiet : row.Quiet)
    (clear : conflictReason row photo missing = none) : (s.settlement job row photo missing).preserveMetadata = false ∧
      (missing = false → (s.settlement job row photo missing).keepContent = false) := by
  refine ⟨by simp [settlement, quiet.metadata], fun here => ?_⟩
  have known : row.photoId ≠ none := by
    intro unbound
    by_cases hidden : photo.isHidden = true
    · simp [conflictReason, hidden] at clear
    · simp [conflictReason, hidden, here, unbound] at clear
  obtain ⟨pending, clean⟩ := quiet.content known
  simp [settlement, pending, clean]

theorem resolveProjection_displays {missing : Bool} {row later : Entry} {content : ProjectedContent}
    (read : s.entries.get entry = some row) (quiet : row.Quiet) (news : row.baseline ≠ some photo)
    (done : resolveProjection platform s job entry photo missing = .ok (t, content))
    (found : t.entries.get entry = some later) (settled : later.baseline = some photo) :
    Displays photo photo.takenAt entry t := by
  obtain ⟨same, again, rest⟩ := bind_ok.mp done
  rw [requireRow_ok, read] at again
  cases again
  split at rest
  · cases rest
    rw [writeConflict_entries, read] at found
    cases found
    exact absurd settled news
  · next clear =>
    obtain ⟨bound, stored, rest⟩ := bind_ok.mp rest
    obtain ⟨applies, kept⟩ := settlement_quiet s job photo quiet clear
    obtain ⟨_, rfl⟩ := setEntryPhoto_ok read stored
    have settles := (get_modify_self s.entries entry (fun entry => { Entry.settle (s.settlement job row photo missing) entry
      with photoId := some photo.photoId })).trans (congrArg _ read)
    dsimp only at rest
    split at rest
    · obtain ⟨scheduled, planned, rest⟩ := bind_ok.mp rest
      cases rest
      rw [schedulePlacement_entries _ _ _ _ _ _ _ planned] at found
      cases settles.symm.trans found
      exact absurd settled news
    · next placed =>
      cases rest
      refine settleInPlace_displays _ job entry (fun now present => ?_) applies
      cases settles.symm.trans present
      cases missing with
      | true => exact absurd rfl placed
      | false =>
        rw [kept rfl, applies] at placed
        simp only [Bool.false_or, Bool.not_false, Bool.true_and, Bool.or_eq_true, not_or, bne_iff_ne, not_not] at placed
        exact placed.2

theorem adopted_displays {digests : LocalDigests} {row later : Entry} (read : s.entries.get entry = some row)
    (quiet : row.Quiet) (news : row.baseline ≠ some photo) (path : row.relativePath = photo.relativePath)
    {outcome : Adoption} (done : s.adoption job entry photo digests = .ok (t, outcome))
    (found : t.entries.get entry = some later) (settled : later.baseline = some photo) :
    Displays photo photo.takenAt entry t := by
  rcases adoption_ok read done with
    ⟨same, _, _⟩ | ⟨observation, same, _⟩ | ⟨observation, media, item, _, _, _, _, _, bound⟩
  · cases same
    cases read.symm.trans found
    exact absurd settled news
  · cases same
    have digested := (get_modify_self s.entries entry _).symm.trans found
    rw [read] at digested
    cases digested
    exact absurd settled news
  · have digested : (s.setDigest entry observation).entries.get entry = some { row with digest := some observation } := by
      simp [setDigest, updateEntry, read]
    exact bindIdentical_displays _ job entry photo digested path quiet.metadata bound

theorem projectPublication_displays {located : Store} {row later : Entry} {digests : LocalDigests}
    {content : ProjectedContent} (found : s.projectedEntry job photo = .ok (located, entry))
    (read : located.entries.get entry = some row) (quiet : row.Quiet) (news : row.baseline ≠ some photo)
    (done : projectPublication platform s job photo digests = .ok (t, content))
    (now : t.entries.get entry = some later) (settled : later.baseline = some photo) :
    Displays photo photo.takenAt entry t := by
  obtain ⟨⟨_, _⟩, again, rest⟩ := bind_ok.mp done
  rw [found] at again
  cases again
  have repaired : (located.repairAvailability entry photo).entries.get entry = some row := by
    rw [repairAvailability_entries]
    exact read
  obtain ⟨_, same, rest⟩ := bind_ok.mp rest
  rw [requireRow_ok, repaired] at same
  cases same
  split at rest
  · next known =>
    simp only [Bool.and_eq_true, beq_iff_eq] at known
    exact absurd known.1 news
  · obtain ⟨⟨u, missing⟩, looked, rest⟩ := bind_ok.mp rest
    cases missing with
    | none =>
      cases rest
      unfold missingLocal at looked
      split at looked
      · cases looked
      · split at looked
        · next unbound =>
          rw [isNone_iff_eq_none] at unbound
          obtain ⟨⟨v, outcome⟩, adopted, rest⟩ := bind_ok.mp looked
          have path : row.relativePath = photo.relativePath := by
            rcases (projectedEntry_row found read).2 with bound | path
            · cases unbound.symm.trans bound
            · exact path
          have same : v = t := by
            cases outcome <;> cases rest <;> rfl
          subst same
          exact adopted_displays _ _ job entry photo repaired quiet news path adopted now settled
        · cases looked
    | some =>
      obtain ⟨same | ⟨observation, same⟩, _⟩ := missingLocal_ok repaired looked
      · subst same
        exact resolveProjection_displays platform _ t job entry photo repaired quiet news rest
          now settled
      · subst same
        have digested : ((located.repairAvailability entry photo).setDigest entry observation).entries.get entry =
            some { row with digest := some observation } := by
          simp [setDigest, updateEntry, repaired]
        exact resolveProjection_displays platform _ t job entry photo digested ⟨quiet.metadata, quiet.content⟩ news rest now settled

end Projection

section Admission
variable (platform : Platform) (s t : Store) (photo : RemotePhoto)

theorem upsertItem_row {publication : String} {after : Store × List Nat} {item : NewMediaItem × EditEvent} {media : Nat}
    {row : Media} (listed : media ∈ after.2) (read : after.1.media.get media = some row)
    (done : upsertItem (some publication) (s, []) item = .ok after) : row.takenAt = item.1.takenAt := by
  obtain ⟨_, rfl⟩ | ⟨_, id, _, _, _, only, written⟩ | ⟨_, _, rfl⟩ := upsertItem_cases done
  · cases listed
  · rw [only] at listed
    cases List.mem_singleton.mp listed
    rw [upsertItem_media written, get_modify_self] at read
    obtain ⟨_, _, rfl⟩ := map_eq_some_iff.mp read
    rfl
  · cases List.mem_singleton.mp listed
    rw [get_insert_next] at read
    cases read
    rfl

theorem verifyStaged_same {job : Nat} {uri : String} (items : List (String × AssetRole))
    (done : items.foldlM (verifyStaged job uri) s = .ok t) : t.entries = s.entries ∧ t.media = s.media := by
  refine loop_relates (fun before after : Store => after.entries = before.entries ∧ after.media = before.media)
    (fun _ => ⟨rfl, rfl⟩) (fun _ _ _ first second => ⟨second.1.trans first.1, second.2.trans first.2⟩)
    (fun found _ before after stepped => ?_) done
  obtain ⟨_, _, rest⟩ := bind_ok.mp stepped
  cases rest
  exact ⟨rfl, rfl⟩

theorem bindAdmitted_presents {capture : Capture} {media linked : Nat} (old : Entry) {row : Entry} {item : Media}
    (read : s.entries.get capture.entry = some old) (applies : capture.preserveMetadata = false)
    (done : s.bindAdmitted capture photo media = .ok t) (presents : Presents t capture.entry linked row item) :
    linked = media ∧ row.relativePath = photo.relativePath ∧ item.isFavorite = photo.favorite ∧
      ∃ found, s.media.get media = some found ∧ item.takenAt = found.takenAt := by
  obtain ⟨asset, _, master, _, path, placed, rest⟩ := bind3_ok done
  simp only [admittedPath, applies, Bool.false_eq_true, if_false] at placed
  cases placed
  split at rest
  · cases rest
  · obtain ⟨_, rfl⟩ := setEntryPhoto_ok (by exact read) rest
    have found := (get_modify_self _ capture.entry _).symm.trans presents.entry
    obtain ⟨first, _, rfl⟩ := map_eq_some_iff.mp found
    cases presents.link
    have indexed := presents.indexed
    simp only [updateEntry, updateMedia, get_modify_self, map_map] at indexed
    obtain ⟨before, present, rfl⟩ := map_eq_some_iff.mp indexed
    refine ⟨rfl, rfl, ?_, before, present, rfl⟩
    simp [admittedFavorite, applies]

theorem admission_displays {publication : String} {capture : Capture} {item : NewMediaItem} {stamp : EditEvent}
    (captured : s.captureOf publication "missing publication capture" = .ok capture)
    (applies : capture.preserveMetadata = false) (done : s.admission publication photo item stamp = .ok t) :
    Displays photo item.takenAt capture.entry t := by
  obtain ⟨_, again, rest⟩ := bind_ok.mp done
  rw [captured] at again
  cases again
  obtain ⟨_, _, row, read, renamed, previous, ⟨indexed, ids⟩, upserted, rest⟩ := bind4_ok rest
  obtain ⟨media, chosen, bound, binds, verified, verifies, rest⟩ := bind3_ok rest
  cases rest
  rw [requireRow_ok] at read
  obtain ⟨_, kept⟩ : Moves .none s renamed ∧ renamed.entries = s.entries := renamePrevious_moves previous
  obtain ⟨_, once, last⟩ := bind_ok.mp upserted
  cases last
  have entries := (upsertItem_published once).trans kept
  obtain ⟨sameEntries, sameMedia⟩ := verifyStaged_same _ _ _ verifies
  intro linked later shown presents
  have settled := presents.same (s := bound.setBaseline capture.entry (some photo)) sameEntries sameMedia
  obtain ⟨first, binding, rfl⟩ := settled.of_updateEntry (fun _ => rfl)
  obtain ⟨_, path, favorite, found, present, date⟩ := bindAdmitted_presents indexed bound photo row
    ((congrArg (fun table => table.get capture.entry) entries).trans read) applies binds binding
  exact ⟨rfl, path, favorite, date.trans (upsertItem_row renamed
    (requireMediaId_ok chosen) present once)⟩

end Admission

-- How a received photo came to its row: its values were written in place, or
-- its file was downloaded and admitted with the date the file itself records.
inductive Route (calendar : Calendar) where
  | inPlace
  | placed (recorded : Option (DateTime calendar))

def Route.date {calendar : Calendar} (photo : RemotePhoto) : Route calendar → Option Int
  | .inPlace => photo.takenAt
  | .placed recorded =>
    ((photo.assetDateMs.bind (DateTime.fromTimestampMillis calendar)).or recorded).map DateTime.seconds

def KeepsValues (entry : Nat) (s t : Store) : Prop :=
  ∀ media later shown, Presents t entry media later shown → ∃ row item, Presents s entry media row item ∧
    later.baseline = row.baseline ∧ later.relativePath = row.relativePath ∧
    shown.isFavorite = item.isFavorite ∧ shown.takenAt = item.takenAt

-- A state in which a received photo has arrived at an entry that had nothing of its own to upload.
inductive Receipt {calendar : Calendar} (platform : Platform) (photo : RemotePhoto) : Route calendar → Nat → Store → Prop where
  | projected (s located t : Store) (job entry : Nat) (row later : Entry) (digests : LocalDigests)
    (content : ProjectedContent) (found : s.projectedEntry job photo = .ok (located, entry))
    (read : located.entries.get entry = some row) (quiet : row.Quiet) (news : row.baseline ≠ some photo)
    (done : Store.projectPublication platform s job photo digests = .ok (t, content))
    (now : t.entries.get entry = some later) (settled : later.baseline = some photo) : Receipt platform photo .inPlace entry t
  | admitted (s t : Store) (publication : String) (capture : Capture) (target : String)
    (recorded : Option (DateTime calendar)) (mtime : Int) (stamp : EditEvent)
    (captured : s.captureOf publication "missing publication capture" = .ok capture)
    (quiet : capture.preserveMetadata = false)
    (done : s.admission publication photo (placedItem platform capture photo target recorded mtime) stamp = .ok t) :
    Receipt platform photo (.placed recorded) capture.entry t
  | kept (s t : Store) (route : Route calendar) (entry : Nat) (receipt : Receipt platform photo route entry s)
    (same : KeepsValues entry s t) : Receipt platform photo route entry t

theorem Receipt.displays {calendar : Calendar} {platform : Platform} {photo : RemotePhoto} {route : Route calendar}
    {entry : Nat} {s : Store} (receipt : Receipt platform photo route entry s) :
    Displays photo (route.date photo) entry s := by
  induction receipt with
  | projected s located t job entry row later digests content found read quiet news done now settled =>
    exact projectPublication_displays platform s t job entry photo found read quiet news
      done now settled
  | admitted s t publication capture target recorded mtime stamp captured quiet done =>
    have item : placedItem platform capture photo target recorded mtime = mediaItem platform photo target recorded mtime := by
      simp [placedItem, quiet]
    rw [item] at done
    exact admission_displays s t photo captured quiet done
  | kept s t route entry _ same ih =>
    intro media later shown presents
    obtain ⟨row, item, before, baseline, path, favorite, date⟩ := same media later shown presents
    have shows := ih media row item before
    exact ⟨baseline.trans shows.baseline, path.trans shows.path, favorite.trans shows.favorite, date.trans shows.date⟩

end PhotoSync
