import PhotoSync.Native.Content

set_option autoImplicit false

namespace PhotoSync

-- One category's edit stamp. The source has a second structure with the same
-- three members for stamps of local edits; both are stored in the same columns.
structure EditEvent where
  editedAtMs : Int
  source : String
  eventId : String
deriving DecidableEq, Repr

structure EditEvents where
  metadata : Option EditEvent
  content : Option EditEvent
  deletion : Option EditEvent
deriving DecidableEq, Repr

def EditEvents.none : EditEvents := ⟨Option.none, Option.none, Option.none⟩

-- The order of the triples (edited_at_ms, source, event_id).
def EditEvent.atLeast (left right : EditEvent) : Bool := decide (right.editedAtMs < left.editedAtMs) ||
    (left.editedAtMs == right.editedAtMs && (decide (right.source < left.source) ||
      (left.source == right.source && !decide (left.eventId < right.eventId))))

def latestEvent : Option EditEvent → Option EditEvent → Option EditEvent
  | none, none => none
  | some only, none => some only
  | none, some only => some only
  | some left, some right => if left.atLeast right then some left else some right

structure AssetDescriptor where
  assetId : String
  size : Nat
  fileChecksum : String
  mimeType : String
  width : Option Nat
  height : Option Nat
deriving DecidableEq, Repr

structure RemotePhoto where
  photoId : String
  masterId : String
  contentGeneration : String
  relativePath : String
  isFavorite : Bool
  assetDateMs : Option Int
  isHidden : Bool
  original : AssetDescriptor
  thumbnail : AssetDescriptor
  thumbnailSourceSha256 : String
  events : EditEvents
deriving DecidableEq, Repr

-- The values a record field can hold; `real` keeps a number's text because no reader of it exists.
inductive FieldValue where
  | null
  | text (value : String)
  | integer (value : Int)
  | real (literal : String)
  | boolean (value : Bool)
  | reference (recordName : String) (action : Option String)
  | asset (descriptor : AssetDescriptor)
deriving DecidableEq, Repr

structure Field where
  type : Option String
  value : Option FieldValue
deriving DecidableEq, Repr

-- A field present as JSON null is `none` under its name.
abbrev Fields := List (String × Option Field)

structure ZoneId where
  zoneName : String
  ownerRecordName : String
deriving DecidableEq, Repr

def assetRecordType : String := "CPLAsset"
def masterRecordType : String := "CPLMaster"

structure NativeRecord where
  recordName : String
  recordType : Option String
  zoneId : Option ZoneId
  recordChangeTag : Option String
  fields : Option Fields
  events : Option EditEvents
  deleted : Bool
deriving DecidableEq, Repr

def NativeRecord.isTombstone (record : NativeRecord) : Bool := record.deleted || record.fields.isNone

def fieldValue (fields : Option Fields) (name : String) : Option FieldValue := ((fields.bind (List.lookup name)).join).bind Field.value

def FieldValue.asText : FieldValue → Option String
  | .text value => some value
  | _ => none

def FieldValue.asInteger : FieldValue → Option Int
  | .integer value => some value
  | _ => none

def stringField (fields : Option Fields) (name : String) : Option String := (fieldValue fields name).bind FieldValue.asText

def intField (fields : Option Fields) (name : String) : Option Int := (fieldValue fields name).bind FieldValue.asInteger

def referenceTarget (fields : Option Fields) (name : String) : Option String :=
  match fieldValue fields name with
  | some (.reference recordName _) => some recordName
  | _ => none

inductive GraphError where
  | missingRevision (name : String)
  | danglingMaster (name master : String)
  | unreferencedMaster (master : String)
  | masterPhotoIdMismatch (master claimed actual : String)
  | generationMismatch (name master : String)
  | missingAsset (name field : String)
  | invalidPath (name : String)
  | duplicatePath (name path : String)
  | invalidThumbnailDigest (name : String)
deriving DecidableEq, Repr

def pathSegments (path : String) : List (List Char) := path.toList.splitOn '/'

def isSafeRelativePath (path : String) : Bool :=
  if path.isEmpty || path.toList.head? == some '/' || path.toList.contains '\\' then false
  else (pathSegments path).all (fun segment =>
    !segment.isEmpty && segment != ['.'] && segment != ['.', '.'] && (String.ofList segment).utf8ByteSize ≤ 255)

def isLowerHex (value : String) : Bool := value.utf8ByteSize == 64 &&
    value.toList.all (fun c => ('0' ≤ c && c ≤ '9') || ('a' ≤ c && c ≤ 'f'))

def assetDescriptor (fields : Option Fields) (name photoId : String) : Except GraphError AssetDescriptor :=
  match fieldValue fields name with
  | some (.asset descriptor) =>
    match ContentDigest.hexFromDescriptorBase64 descriptor.fileChecksum with
    | some digest => if isLowerHex digest then .ok descriptor else .error (.missingAsset photoId name)
    | none => .error (.missingAsset photoId name)
  | _ => .error (.missingAsset photoId name)

def buildPhoto (photoId : String) (master asset : NativeRecord) (contentGeneration : String) : Except GraphError RemotePhoto := do
  let original ← assetDescriptor master.fields "resOriginalRes" photoId
  let thumbnail ← assetDescriptor master.fields "resJPEGThumbRes" photoId
  let relativePath ← (stringField asset.fields "relativePath").elim
    (.error (.missingAsset photoId "relativePath")) Except.ok
  if !isSafeRelativePath relativePath then throw (.invalidPath photoId)
  let sourceSha256 ← (stringField master.fields "thumbnailSourceOriginalSHA256").elim
    (.error (.missingAsset photoId "thumbnailSourceOriginalSHA256")) Except.ok
  if !isLowerHex sourceSha256 || ContentDigest.hexFromDescriptorBase64 original.fileChecksum != some sourceSha256 then
    throw (.invalidThumbnailDigest photoId)
  return {
    photoId, masterId := master.recordName, contentGeneration, relativePath
    isFavorite := (intField asset.fields "isFavorite").getD 0 != 0
    assetDateMs := intField asset.fields "assetDate"
    isHidden := (intField asset.fields "isHidden").getD 0 != 0
    original, thumbnail, thumbnailSourceSha256 := sourceSha256
    events := asset.events.getD .none }

-- A record of a type this client does not model: its name and revision, kept as evidence.
structure ProjectedRecord where
  recordName : String
  recordType : String
  recordChangeTag : String
deriving DecidableEq, Repr

structure RemoteGraph where
  photos : List RemotePhoto
  records : List ProjectedRecord
  tombstones : List String
deriving DecidableEq, Repr

def projectedRecord (record : NativeRecord) : Except GraphError ProjectedRecord :=
  match record.recordChangeTag with
  | some tag => .ok ⟨record.recordName, record.recordType.getD "", tag⟩
  | none => .error (.missingRevision record.recordName)

-- One asset of the graph: its master in the same zone, named back, at the same content generation.
def pairedPhoto (zone : ZoneId) (masters : List NativeRecord) (asset : NativeRecord) : Except GraphError RemotePhoto := do
  let photoId := asset.recordName
  let masterRef ← (referenceTarget asset.fields "masterRef").elim
    (.error (.danglingMaster photoId "<missing masterRef>")) Except.ok
  let master ← (masters.find? (fun master => master.recordName == masterRef)).elim
    (.error (.danglingMaster photoId masterRef)) Except.ok
  if master.zoneId.any (fun found => found != zone) then throw (.danglingMaster photoId masterRef)
  let claimed ← (stringField master.fields "photoId").elim
    (.error (.masterPhotoIdMismatch masterRef "<missing photoId>" photoId)) Except.ok
  if claimed != photoId then throw (.masterPhotoIdMismatch masterRef claimed photoId)
  match stringField master.fields "contentGeneration", stringField asset.fields "contentGeneration" with
  | some masterGeneration, some assetGeneration =>
    if masterGeneration == assetGeneration then buildPhoto photoId master asset masterGeneration
    else throw (.generationMismatch photoId masterRef)
  | _, _ => throw (.generationMismatch photoId masterRef)

def collectPhotos (zone : ZoneId) (masters : List NativeRecord) (sofar : List RemotePhoto) (asset : NativeRecord) :
    Except GraphError (List RemotePhoto) := do
  let photo ← pairedPhoto zone masters asset
  if sofar.any (fun other => other.relativePath == photo.relativePath) then throw (.duplicatePath asset.recordName photo.relativePath)
  return sofar ++ [photo]

-- The source keeps the live records in a hash map and walks it in no
-- particular order; here the walk follows the list.
def toGraph (zone : ZoneId) (live : List NativeRecord) : Except GraphError RemoteGraph := do
  let masters := live.filter (fun record => record.recordType == some masterRecordType)
  let assets := live.filter (fun record => record.recordType == some assetRecordType)
  let others := live.filter (fun record =>
    record.recordType != some masterRecordType && record.recordType != some assetRecordType)
  let records ← others.mapM projectedRecord
  let photos ← assets.foldlM (collectPhotos zone masters) []
  match masters.find? (fun master => !photos.any (fun photo => photo.masterId == master.recordName)) with
  | some master => throw (.unreferencedMaster master.recordName)
  | none => return ⟨photos, records.mergeSort (fun left right => decide (left.recordName ≤ right.recordName)), []⟩

-- Replaying one received record: a later one replaces an earlier one of the same name and a tombstone removes it.
def RecordSet.apply (live : List NativeRecord) (record : NativeRecord) : List NativeRecord :=
  let rest := live.filter (fun other => other.recordName != record.recordName)
  if record.isTombstone then rest else rest ++ [record]

end PhotoSync
