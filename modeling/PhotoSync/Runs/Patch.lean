import PhotoSync.Runs.Received
import PhotoSync.Service.Upload

set_option autoImplicit false

namespace PhotoSync
open Relational Transaction Store Table Option

def valueIn (fields : Option Fields) (name : String) : Option FieldValue := (fieldValue fields name).filter (fun value => value != .null)

def sentValue (field : Option Field) : Option FieldValue := (field.bind Field.value).filter (fun value => value != .null)

def metadataNames : List String := ["isTrashed", "isFavorite", "assetDate", "relativePath"]

def RequestBody.metadataFields (body : RequestBody) : Fields :=
  body.operations.flatMap (fun sent => sent.record.fields.filter (fun field => metadataNames.contains field.1))

theorem Issued.bodyFor_metadataFields (operation : Issued) {zone : ZoneId} {body : RequestBody}
    (modify : operation.phase = .modify) (sends : operation.preparation.sendMetadata = true)
    (made : operation.bodyFor zone = .ok body) : body.metadataFields = operation.preparation.metadata.fields := by
  have create : operation.creates = false := by simp [creates, modify]
  rw [bodyFor_ok made]
  unfold RequestBody.metadataFields masterOperations
  cases prepared : operation.preparation.resources with
  | none =>
    simp [photoRecord, metadataPatch, contentFields, sendsMetadata, create, sends, prepared, LocalMetadata.fields, metadataNames]
  | some =>
    simp [photoRecord, metadataPatch, contentFields, sendsMetadata, create, sends, prepared, LocalMetadata.fields,
      masterRecord, resourceFields, metadataNames]

inductive MetadataEdit where
  | favorite (value : Bool)
  | trash (now : Int)
  | rename (path folder : String) (mtime : Int)

def MetadataEdit.field : MetadataEdit → String
  | .favorite _ => "isFavorite"
  | .trash _ => "isTrashed"
  | .rename .. => "relativePath"

theorem MetadataEdit.field_ne_date (edit : MetadataEdit) : "assetDate" ≠ edit.field := by
  cases edit <;> simp [field]

def MetadataEdit.operation (media : Nat) (stamp : EditEvent) : MetadataEdit → LocalOperation
  | .favorite value => .setFavorite [media] value stamp
  | .trash now => .movedToTrash [(media, stamp)] now
  | .rename path folder mtime => .updateMediaLocation media path folder mtime stamp

structure Retouched (field : String) (row later : Entry) (item shown : Media) : Prop where
  baseline : later.baseline = row.baseline
  date : shown.takenAt = item.takenAt
  trashed : field ≠ "isTrashed" → shown.trashedAt = item.trashedAt
  favorite : field ≠ "isFavorite" → shown.isFavorite = item.isFavorite
  path : field ≠ "relativePath" → later.relativePath = row.relativePath

section Edit
variable {s t : Store} {entry media : Nat} {row : Entry} {item : Media}

theorem note_columns {id : Nat} {category : ChangeCategory} {stamp : EditEvent} {outcome : Option DirtyOutcome}
    (read : s.entries.get entry = some row) (done : s.note id category stamp = .ok (t, outcome)) :
    ∃ later, t.entries.get entry = some later ∧ later.media = row.media ∧ later.baseline = row.baseline ∧
      later.relativePath = row.relativePath := by
  have marked : ∀ (now after : Store) (other : Nat) (mark : DirtyOutcome) (old : Entry),
      now.mark other category stamp = .ok (after, mark) → now.entries.get entry = some old →
      ∃ later, after.entries.get entry = some later ∧ later.media = old.media ∧ later.baseline = old.baseline ∧
        later.relativePath = old.relativePath := by
    intro now after other mark old done present
    obtain ⟨_, _, _, rfl⟩ := mark_ok done
    have rows : (now.entries.modify other (Entry.mark category stamp)).get entry =
        some (if entry = other then old.mark category stamp else old) := by
      rw [get_modify, present]
      split <;> rfl
    refine ⟨_, rows, ?_⟩
    split
    · cases category <;> exact ⟨rfl, rfl, rfl⟩
    · exact ⟨rfl, rfl, rfl⟩
  refine note_keeps (fun now => ∃ later, now.entries.get entry = some later ∧ later.media = row.media ∧
    later.baseline = row.baseline ∧ later.relativePath = row.relativePath) ⟨row, read, rfl, rfl, rfl⟩ ?_ done
  rintro claim _ now after ⟨old, present, link, baseline, path⟩ stepped
  obtain ⟨rfl, _⟩ | ⟨other, _, mark, _, _, _, done⟩ | ⟨_, enrolled, mark, inserted, done⟩ := noteClaim_ok stepped
  · exact ⟨old, present, link, baseline, path⟩
  · obtain ⟨later, found, links, baselines, paths⟩ := marked _ _ _ _ old done present
    exact ⟨later, found, links.trans link, baselines.trans baseline, paths.trans path⟩
  · obtain ⟨_, rfl⟩ := insertEntry_ok inserted
    have still : ∀ fresh, (now.1.entries.insert fresh).get entry = some old := fun _ => by
      rw [get_insert, if_neg (Nat.ne_of_lt (lt_next present)), present]
    obtain ⟨later, found, links, baselines, paths⟩ := marked _ _ _ _ old done (still _)
    exact ⟨later, found, links.trans link, baselines.trans baseline, paths.trans path⟩

section
variable (presents : Presents s entry media row item)

include presents

theorem Presents.note (id : Nat) (category : ChangeCategory)
    (stamp : EditEvent) (outcome : Option DirtyOutcome) (done : s.note id category stamp = .ok (t, outcome)) :
    ∃ later, Presents t entry media later item ∧ later.baseline = row.baseline ∧ later.relativePath = row.relativePath := by
  obtain ⟨entries, journal, same⟩ := note_recorded done
  obtain ⟨later, found, link, baseline, path⟩ := note_columns presents.entry done
  refine ⟨later, ⟨found, link.trans presents.link, ?_⟩, baseline, path⟩
  rw [same]
  exact presents.indexed

theorem Presents.updateMedia (change : Media → Media) : Presents (s.updateMedia media change) entry media row (change item) :=
  ⟨presents.entry, presents.link, by rw [Store.updateMedia, get_modify_self, presents.indexed]; rfl⟩

theorem Presents.follow (moved : List (Nat × String))
    (done : moved.foldlM (fun (s : Store) found => s.setEntryPath found.1 found.2 (fun entry => entry)) s = .ok t) :
    ∃ later, Presents t entry media later item ∧ later.baseline = row.baseline := by
  refine loop_keeps (fun now => ∃ later, Presents now entry media later item ∧ later.baseline = row.baseline) ?_
    ⟨row, presents, rfl⟩ done
  rintro found _ before after ⟨later, held, baseline⟩ stepped
  obtain rfl := setEntryPath_eq stepped
  have rows : (before.entries.modify found.1 (fun entry => { entry with relativePath := found.2 })).get entry =
      some (if entry = found.1 then { later with relativePath := found.2 } else later) := by
    rw [get_modify, held.entry]
    split <;> rfl
  refine ⟨_, ⟨rows, ?_, held.indexed⟩, ?_⟩
  · split
    · exact held.link
    · exact held.link
  · split
    · exact baseline
    · exact baseline

end

theorem MetadataEdit.retouches {platform : Platform} (edit : MetadataEdit) {stamp : EditEvent}
    (presents : Presents s entry media row item) (done : (edit.operation media stamp).perform platform s = .ok t) :
    ∃ later shown, Presents t entry media later shown ∧ Retouched edit.field row later item shown := by
  cases edit with
  | favorite =>
    obtain ⟨after, stepped, rest⟩ := bind_ok.mp done
    cases rest
    obtain ⟨changed, set, ⟨noted, outcome⟩, recorded, rest⟩ := bind2_ok stepped
    cases rest
    unfold setMediaFavorite at set
    split at set
    · cases set
      obtain ⟨later, held, baseline, path⟩ := (presents.updateMedia _).note media .metadata stamp outcome recorded
      exact ⟨later, _, held, baseline, rfl, fun _ => rfl, fun other => absurd rfl other, fun _ => path⟩
    · cases set
  | trash =>
    obtain ⟨marked, marks, rest⟩ := bind_ok.mp done
    obtain ⟨again, stepped, last⟩ := bind_ok.mp marks
    cases last
    obtain ⟨_, _, last⟩ := bind_ok.mp stepped
    cases last
    obtain ⟨after, stepped, last⟩ := bind_ok.mp rest
    cases last
    obtain ⟨⟨noted, outcome⟩, recorded, last⟩ := bind_ok.mp stepped
    cases last
    obtain ⟨later, held, baseline, path⟩ := (presents.updateMedia _).note media .metadata stamp outcome recorded
    exact ⟨later, _, held, baseline, rfl, fun other => absurd rfl other, fun _ => rfl, fun _ => path⟩
  | rename =>
    obtain ⟨moved, located, renamed, followed, ⟨noted, outcome⟩, recorded, rest⟩ := bind3_ok done
    cases rest
    obtain ⟨_, rfl⟩ := setMediaUri_ok located
    obtain ⟨middle, follows, based⟩ := (presents.updateMedia _).follow _ followed
    obtain ⟨later, held, baseline, _⟩ := follows.note media .metadata stamp outcome recorded
    exact ⟨later, _, held, baseline.trans based, rfl, fun _ => rfl, fun _ => rfl, fun other => absurd rfl other⟩

theorem Presents.localMetadata (presents : Presents s entry media row item) :
    s.localMetadata entry = .ok (row.localMetadata (some item)) := by
  refine bind_ok.mpr ⟨row, requireRow_ok.mpr presents.entry, ?_⟩
  rw [presents.link, bind_some, presents.indexed]
  rfl

end Edit

section Values
variable (photoId : String) (master asset : NativeRecord) (generation : String) (photo : RemotePhoto)

theorem buildPhoto_ok (built : buildPhoto photoId master asset generation = .ok photo) :
    stringField asset.fields "relativePath" = some photo.relativePath ∧
      photo.isFavorite = ((intField asset.fields "isFavorite").getD 0 != 0) ∧
      photo.assetDateMs = intField asset.fields "assetDate" := by
  obtain ⟨original, _, thumbnail, _, path, found, rest⟩ := bind3_ok built
  have named : stringField asset.fields "relativePath" = some path := by
    cases text : stringField asset.fields "relativePath" with
    | none =>
      rw [text] at found
      cases found
    | some =>
      rw [text] at found
      cases found
      rfl
  split at rest
  · cases rest
  · obtain ⟨source, _, rest⟩ := bind_ok.mp rest
    split at rest
    · cases rest
    · cases rest
      exact ⟨named, rfl, rfl⟩

theorem intField_eq_some (fields : Option Fields) (name : String) (value : Int) :
    intField fields name = some value ↔ valueIn fields name = some (.integer value) := by
  unfold intField valueIn
  cases fieldValue fields name with
  | none => simp
  | some found => cases found <;> simp [FieldValue.asInteger, filter_some]

theorem stringField_value (fields : Option Fields) (name text : String) (read : stringField fields name = some text) :
    valueIn fields name = some (.text text) := by
  unfold stringField at read
  unfold valueIn
  cases found : fieldValue fields name with
  | none => simp [found] at read
  | some value => cases value <;> simp_all [FieldValue.asText, filter_some]

theorem favorite_same_iff (built : buildPhoto photoId master asset generation = .ok photo) :
    some (FieldValue.integer photo.favorite) = valueIn asset.fields "isFavorite" ↔
      valueIn asset.fields "isFavorite" = some (.integer 0) ∨ valueIn asset.fields "isFavorite" = some (.integer 1) := by
  obtain ⟨_, kept, _⟩ := buildPhoto_ok photoId master asset generation photo built
  have flag : photo.favorite = if (intField asset.fields "isFavorite").getD 0 != 0 then 1 else 0 := by
    rw [RemotePhoto.favorite, kept]
  constructor
  · intro same
    rw [← same, flag]
    split
    · exact .inr rfl
    · exact .inl rfl
  · rintro (zero | one)
    · rw [flag, (intField_eq_some _ _ 0).mpr zero, zero]
      rfl
    · rw [flag, (intField_eq_some _ _ 1).mpr one, one]
      rfl

end Values

section Dates
variable {calendar : Calendar}

theorem uploadDate_same {photo : RemotePhoto} {ms : Int} (dated : photo.assetDateMs = some ms) :
    uploadDate (some photo) (ms / 1000) = ms := by
  simp [uploadDate, dated, filter_some]

theorem uploadDate_other {photo : RemotePhoto} {seconds : Int} (other : ∀ ms, photo.assetDateMs = some ms → ms / 1000 ≠ seconds) :
    uploadDate (some photo) seconds = saturatingMillis seconds := by
  unfold uploadDate
  cases dated : photo.assetDateMs with
  | none => simp [dated]
  | some ms => simp [dated, filter_some, other ms dated]

theorem DateTime.millis (date : DateTime calendar) : saturatingMillis date.seconds = date.seconds * 1000 := by
  obtain ⟨low, high⟩ := calendar.fits date.seconds date.held
  unfold saturatingMillis
  omega

def Route.sent (photo : RemotePhoto) (route : Route calendar) : Option Int := (route.date photo).map (uploadDate (some photo))

def Route.KeepsDate : Route calendar → Option FieldValue → Prop
  | .inPlace, value => value = none ∨ ∃ ms, value = some (.integer ms)
  | .placed recorded, value => value = none ∧ recorded = none ∨
    ∃ ms, value = some (.integer ms) ∧ calendar.representable (ms / 1000) = true

theorem Route.sent_inPlace (photo : RemotePhoto) : Route.sent photo (.inPlace : Route calendar) = photo.assetDateMs := by
  unfold Route.sent Route.date RemotePhoto.takenAt
  cases dated : photo.assetDateMs with
  | none => rfl
  | some => simp [uploadDate_same dated]

theorem Route.sent_received {photo : RemotePhoto} (recorded : Option (DateTime calendar)) {ms : Int}
    (dated : photo.assetDateMs = some ms) (held : calendar.representable (ms / 1000) = true) :
    Route.sent photo (.placed recorded) = some ms := by
  simp [Route.sent, Route.date, dated, DateTime.fromTimestampMillis, DateTime.fromTimestamp, held, uploadDate_same dated]

theorem Route.sent_recorded (photo : RemotePhoto) (recorded : Option (DateTime calendar))
    (unheld : ∀ ms, photo.assetDateMs = some ms → calendar.representable (ms / 1000) = false) :
    Route.sent photo (.placed recorded) = recorded.map (fun date => date.seconds * 1000) ∧
      ∀ ms, photo.assetDateMs = some ms → Route.sent photo (.placed recorded) ≠ some ms := by
  have missing : photo.assetDateMs.bind (DateTime.fromTimestampMillis calendar) = none := by
    cases dated : photo.assetDateMs with
    | none => rfl
    | some ms => exact (DateTime.fromTimestamp_eq_none calendar _).mpr (unheld ms dated)
  have sent : Route.sent photo (.placed recorded) = recorded.map (fun date => date.seconds * 1000) := by
    unfold Route.sent Route.date
    dsimp only
    rw [missing, none_or, map_map]
    refine congrArg (fun change => recorded.map change) (funext fun date => ?_)
    have other : ∀ ms, photo.assetDateMs = some ms → ms / 1000 ≠ date.seconds := by
      intro ms dated same
      have refused := unheld ms dated
      rw [same, date.held] at refused
      cases refused
    exact (uploadDate_other other).trans date.millis
  refine ⟨sent, fun ms dated same => ?_⟩
  rw [sent] at same
  obtain ⟨date, _, equal⟩ := map_eq_some_iff.mp same
  have refused := unheld ms dated
  have second : ms / 1000 = date.seconds := by omega
  rw [second, date.held] at refused
  cases refused

theorem Route.date_same_iff {photo : RemotePhoto} {fields : Option Fields} (route : Route calendar)
    (dated : photo.assetDateMs = intField fields "assetDate") :
    (route.sent photo).map FieldValue.integer = valueIn fields "assetDate" ↔ route.KeepsDate (valueIn fields "assetDate") := by
  have reads : ∀ ms, photo.assetDateMs = some ms ↔ valueIn fields "assetDate" = some (.integer ms) := by
    intro ms
    rw [dated]
    exact intField_eq_some fields "assetDate" ms
  cases route with
  | inPlace =>
    rw [Route.sent_inPlace]
    unfold Route.KeepsDate
    constructor
    · intro same
      cases date : photo.assetDateMs with
      | none =>
        rw [date] at same
        exact .inl same.symm
      | some ms => exact .inr ⟨ms, (reads ms).mp date⟩
    · rintro (absent | ⟨ms, present⟩)
      · cases date : photo.assetDateMs with
        | none => rw [absent]; rfl
        | some ms =>
          rw [(reads ms).mp date] at absent
          cases absent
      · rw [(reads ms).mpr present, present]
        rfl
  | placed recorded =>
    unfold Route.KeepsDate
    by_cases held : ∃ ms, photo.assetDateMs = some ms ∧ calendar.representable (ms / 1000) = true
    · obtain ⟨ms, date, representable⟩ := held
      rw [Route.sent_received recorded date representable, (reads ms).mp date]
      exact ⟨fun _ => .inr ⟨ms, rfl, representable⟩, fun _ => rfl⟩
    · have unheld : ∀ ms, photo.assetDateMs = some ms → calendar.representable (ms / 1000) = false := by
        intro ms date
        by_contra present
        exact held ⟨ms, date, Bool.not_eq_false _ ▸ present⟩
      obtain ⟨sent, differs⟩ := Route.sent_recorded photo recorded unheld
      constructor
      · intro same
        cases own : recorded with
        | none =>
          rw [sent, own] at same
          exact .inl ⟨same.symm, rfl⟩
        | some date =>
          rw [sent, own] at same
          have read := (reads (date.seconds * 1000)).mpr same.symm
          exact absurd (sent.trans (by rw [own]; rfl)) (differs _ read)
      · rintro (⟨absent, own⟩ | ⟨ms, present, representable⟩)
        · rw [sent, own, absent]
          rfl
        · exact absurd ⟨ms, (reads ms).mpr present, representable⟩ held

end Dates

theorem sentValue_timestamp (date : Option Int) : sentValue (date.bind timestampField) = date.map FieldValue.integer := by
  cases date with
  | none | some => rfl

theorem sentValue_integer (value : Int) : sentValue (integerField value) = some (.integer value) := rfl

theorem sentValue_text (value : String) : sentValue (textField value) = some (.text value) := rfl

-- The received values that survive an edit of another field.
structure Lossless {calendar : Calendar} (edit : MetadataEdit) (asset : NativeRecord) (route : Route calendar)
    (item : Media) : Prop where
  trashed : edit.field ≠ "isTrashed" → valueIn asset.fields "isTrashed" = some (.integer (if item.trashedAt.isSome then 1 else 0))
  favorite : edit.field ≠ "isFavorite" →
    valueIn asset.fields "isFavorite" = some (.integer 0) ∨ valueIn asset.fields "isFavorite" = some (.integer 1)
  date : route.KeepsDate (valueIn asset.fields "assetDate")

theorem edit_changes_only_its_field_iff {calendar : Calendar} (platform : Platform) (photoId : String)
    (master asset : NativeRecord) (generation : String) (photo : RemotePhoto)
    (built : buildPhoto photoId master asset generation = .ok photo) (route : Route calendar) (s t : Store)
    (entry media : Nat) (row : Entry) (item : Media) (receipt : Receipt platform photo route entry s)
    (presents : Presents s entry media row item) (edit : MetadataEdit) (stamp : EditEvent)
    (edited : (edit.operation media stamp).perform platform s = .ok t) (operation : Issued)
    (captured : t.localMetadata entry = .ok operation.preparation.metadata) (modify : operation.phase = .modify)
    (sends : operation.preparation.sendMetadata = true) (zone : ZoneId) (body : RequestBody)
    (made : operation.bodyFor zone = .ok body) :
    (∀ field ∈ body.metadataFields, field.1 ≠ edit.field → sentValue field.2 = valueIn asset.fields field.1) ↔
      Lossless edit asset route item := by
  obtain ⟨named, _, dated⟩ := buildPhoto_ok photoId master asset generation photo built
  have shows := receipt.displays media row item presents
  obtain ⟨later, shown, held, retouched⟩ := edit.retouches presents edited
  rw [held.localMetadata] at captured
  have values := Except.ok.inj captured
  rw [operation.bodyFor_metadataFields modify sends made, ← values]
  have trashed : edit.field ≠ "isTrashed" → (if shown.trashedAt.isSome then (1 : Int) else 0) =
    if item.trashedAt.isSome then 1 else 0 := fun other => by rw [retouched.trashed other]
  have favorite : edit.field ≠ "isFavorite" → shown.isFavorite = photo.favorite :=
    fun other => (retouched.favorite other).trans shows.favorite
  have date : shown.takenAt.map (uploadDate later.baseline) = route.sent photo := by
    rw [retouched.date, retouched.baseline, shows.date, shows.baseline]
    rfl
  have path : edit.field ≠ "relativePath" → later.relativePath = photo.relativePath :=
    fun other => (retouched.path other).trans shows.path
  have fields : later.localMetadata (some shown) = ⟨if shown.trashedAt.isSome then 1 else 0, shown.isFavorite,
      route.sent photo, later.relativePath⟩ := by
    rw [← date]
    rfl
  rw [fields]
  constructor
  · intro same
    refine ⟨fun other => ?_, fun other => ?_, ?_⟩
    · have sent := same ("isTrashed", _) (by simp [LocalMetadata.fields]; rfl) (Ne.symm other)
      rw [sentValue_integer, trashed other] at sent
      exact sent.symm
    · have sent := same ("isFavorite", _) (by simp [LocalMetadata.fields]; rfl) (Ne.symm other)
      rw [sentValue_integer, favorite other] at sent
      exact (favorite_same_iff photoId master asset generation photo built).mp sent
    · have sent := same ("assetDate", _) (by simp [LocalMetadata.fields]; rfl) edit.field_ne_date
      rw [sentValue_timestamp] at sent
      exact (Route.date_same_iff route dated).mp sent
  · intro lossless field member other
    simp only [LocalMetadata.fields, List.mem_cons, List.not_mem_nil, or_false] at member
    rcases member with rfl | rfl | rfl | rfl
    · rw [sentValue_integer, trashed (Ne.symm other)]
      exact (lossless.trashed (Ne.symm other)).symm
    · rw [sentValue_integer, favorite (Ne.symm other)]
      exact (favorite_same_iff photoId master asset generation photo built).mpr (lossless.favorite (Ne.symm other))
    · rw [sentValue_timestamp]
      exact (Route.date_same_iff route dated).mpr lossless.date
    · rw [sentValue_text, path (Ne.symm other)]
      exact (stringField_value _ _ _ named).symm

namespace Sample

def assetRecord (trashed : Int) : NativeRecord where
  recordName := "photo"
  recordType := some assetRecordType
  zoneId := none
  recordChangeTag := some "1"
  fields := some [("relativePath", textField "a"), ("masterRef", some ⟨some "REFERENCE", some (.reference "master" (some "NONE"))⟩),
    ("contentGeneration", textField "content"), ("isTrashed", integerField trashed), ("isFavorite", integerField 0),
    ("assetDate", timestampField 1500)]
  events := none
  deleted := false

def pairedMaster : NativeRecord where
  recordName := "master"
  recordType := some masterRecordType
  zoneId := none
  recordChangeTag := some "1"
  fields := some [("photoId", textField "photo"), ("contentGeneration", textField "content"),
    ("thumbnailSourceOriginalSHA256", textField digest.hex), ("resOriginalRes", some ⟨some "ASSETID", some (.asset asset)⟩),
    ("resJPEGThumbRes", some ⟨some "ASSETID", some (.asset asset)⟩)]
  events := none
  deleted := false

def photo : RemotePhoto := ⟨"photo", "master", "content", "a", false, some 1500, false, asset, asset, digest.hex, .none⟩

def digests : LocalDigests := [("a", ⟨1, 1, digest⟩)]

def meeting (trashed : Int) : List Command := opening ++ [.saveDeltaPage 1 [pairedMaster, assetRecord trashed] "token"]

def favoriting (trashed : Int) : List ServiceEvent :=
  (meeting trashed ++ [Command.promote 1 ⟨[photo], [], []⟩ "token" digests, Command.setFavorite [1] true stamp]).map
      ServiceEvent.elsewhere ++
    [.list 1 .modify, .check 0, .skipContent 0, .readColumns 0,
      .capture 0 ⟨"operation", "photo", "master", "content"⟩ 1 "generation" zone, .keepContent 0, .verify 0, .save 0 epoch,
      .compose 0 epoch zone]

def prepared (trashed : Int) : Option RequestBody :=
  match (run (Service.perform platform) .empty (favoriting trashed)).activities.head? with
  | some (.executing operation) => operation.body
  | _ => none

def calendar : Calendar where
  representable := fun seconds => decide (0 ≤ seconds ∧ seconds ≤ 1000)
  fits := fun seconds held => by
    have bounds := of_decide_eq_true held
    omega

def favorited (metadata : LocalMetadata) : Issued :=
  { operation .modify ⟨2, 1, 1, 0⟩ with body := none, preparation := ⟨true, metadata, .none, none, none, none⟩ }

end Sample
theorem favorite_is_all_that_is_sent : ∃ (t : Store) (body : RequestBody), t.localMetadata 1 = .ok ⟨0, 1, some 1500, "a"⟩ ∧
    (Sample.favorited ⟨0, 1, some 1500, "a"⟩).bodyFor Sample.zone = .ok body ∧
    ∀ field ∈ body.metadataFields, field.1 ≠ "isFavorite" → sentValue field.2 = valueIn (Sample.assetRecord 0).fields field.1 := by
  obtain ⟨photo, built, same⟩ := ok_of_any (buildPhoto "photo" Sample.pairedMaster (Sample.assetRecord 0) "content")
    (fun photo => photo == Sample.photo) (by decide +kernel)
  rw [beq_iff_eq] at same
  subst same
  obtain ⟨⟨located, entry⟩, found, facts⟩ := ok_of_any
    ((run (Command.execute Sample.platform) .empty (Sample.meeting 0)).projectedEntry 1 Sample.photo)
    (fun found => found.2 == 1 && (found.1.entries.get 1).any (fun row =>
      !row.metadataPending && row.photoId == none && row.baseline != some Sample.photo)) (by decide +kernel)
  simp only [Bool.and_eq_true, beq_iff_eq] at facts
  obtain ⟨rfl, rows⟩ := facts
  obtain ⟨row, read, quiet⟩ := (Option.any_eq_true _ _).mp rows
  simp only [Bool.and_eq_true, Bool.not_eq_true', beq_iff_eq, bne_iff_ne] at quiet
  obtain ⟨⟨s, content⟩, projected, facts⟩ := ok_of_any
    (projectPublication Sample.platform (run (Command.execute Sample.platform) .empty (Sample.meeting 0)) 1
      Sample.photo Sample.digests)
    (fun found => (found.1.entries.get 1).any (fun row => row.baseline == some Sample.photo && row.media == some 1)
      && (found.1.media.get 1).any (fun item => item.trashedAt == none)
      && (((MetadataEdit.favorite true).operation 1 Sample.stamp).perform Sample.platform found.1).toOption.any (fun t =>
        (t.localMetadata 1).toOption.any (fun metadata => metadata == ⟨0, 1, some 1500, "a"⟩))) (by decide +kernel)
  simp only [Bool.and_eq_true] at facts
  obtain ⟨⟨entries, indexed⟩, edits⟩ := facts
  obtain ⟨later, now, settled⟩ := (Option.any_eq_true _ _).mp entries
  obtain ⟨item, present, live⟩ := (Option.any_eq_true _ _).mp indexed
  obtain ⟨t, edited, captures⟩ := ok_of_any _ _ edits
  obtain ⟨metadata, captured, values⟩ := ok_of_any _ _ captures
  simp only [Bool.and_eq_true, beq_iff_eq] at settled live values
  subst values
  obtain ⟨body, made⟩ := (Sample.favorited ⟨0, 1, some 1500, "a"⟩).bodyFor_succeeds Sample.zone (.inl rfl)
  have receipt : Receipt Sample.platform Sample.photo (.inPlace : Route Sample.calendar) 1 s :=
    .projected _ located s 1 1 row later Sample.digests content found read
      ⟨quiet.1.1, fun known => absurd quiet.1.2 known⟩ quiet.2 projected now settled.1
  refine ⟨t, body, captured, made, ?_⟩
  refine (edit_changes_only_its_field_iff Sample.platform "photo" Sample.pairedMaster (Sample.assetRecord 0) "content"
    Sample.photo built .inPlace s t 1 1 later item receipt ⟨now, settled.2, present⟩ (.favorite true) Sample.stamp edited
    (Sample.favorited ⟨0, 1, some 1500, "a"⟩) captured rfl rfl Sample.zone body made).mpr ?_
  refine ⟨fun _ => ?_, fun other => absurd rfl other, .inr ⟨1500, by decide +kernel⟩⟩
  rw [live]
  decide +kernel

-- Another device has moved the photo to its trash: the favourite takes it out.
theorem favorite_takes_photo_out_of_cloud_trash :
    (buildPhoto "photo" Sample.pairedMaster (Sample.assetRecord 1) "content").toOption = some Sample.photo ∧
      valueIn (Sample.assetRecord 1).fields "isTrashed" = some (.integer 1) ∧
      (Sample.prepared 1).any (fun body => body.metadataFields.contains ("isTrashed", integerField 0)) = true := by
  refine ⟨?_, ?_, ?_⟩ <;> decide +kernel

end PhotoSync
