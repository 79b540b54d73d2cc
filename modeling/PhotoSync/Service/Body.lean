import PhotoSync.Store.LocalOperation

set_option autoImplicit false

namespace PhotoSync
open Transaction

def textField (value : String) : Option Field := some ⟨some "STRING", some (.text value)⟩

def integerField (value : Int) : Option Field := some ⟨some "INT64", some (.integer value)⟩

def timestampField (value : Int) : Option Field := some ⟨some "TIMESTAMP", some (.integer value)⟩

def LocalMetadata.fields (metadata : LocalMetadata) : Fields :=
  [("isTrashed", integerField metadata.isTrashed), ("isFavorite", integerField metadata.isFavorite),
    ("assetDate", metadata.assetDate.bind timestampField), ("relativePath", textField metadata.relativePath)]

namespace Issued

def creates (operation : Issued) : Bool := operation.phase == .create

def sendsMetadata (operation : Issued) : Bool := operation.creates || operation.preparation.sendMetadata

-- A create leaves null members out, an update clears the field with them.
def metadataPatch (operation : Issued) : Fields :=
  if operation.sendsMetadata then
    if operation.creates then operation.preparation.metadata.fields.filter (fun field => field.2.isSome)
    else operation.preparation.metadata.fields
  else []

def sentEvents (operation : Issued) : EditEvents where
  metadata := if operation.sendsMetadata then operation.preparation.events.metadata else none
  content := if operation.preparation.resources.isSome then operation.preparation.events.content else none
  deletion := none

def contentFields (operation : Issued) : Fields :=
  if operation.preparation.resources.isSome then ("contentGeneration", textField operation.contentGeneration) ::
    (if operation.creates then [("masterRef", some ⟨some "REFERENCE", some (.reference operation.master (some "NONE"))⟩)] else [])
  else []

def photoRecord (operation : Issued) : RequestRecord where
  recordName := operation.photo
  recordType := some assetRecordType
  recordChangeTag := if operation.creates then none else operation.preparation.assetRevision
  fields := operation.metadataPatch ++ operation.contentFields
  events := operation.sentEvents

def assetField (resource : PreparedResource) : Option Field := some ⟨some "ASSETID", resource.asset.map .asset⟩

def resourceFields (operation : Issued) (resources : PreparedResources) : Fields :=
  [("contentGeneration", textField operation.contentGeneration),
    ("thumbnailSourceOriginalSHA256", textField resources.original.digest.hex),
    ("resOriginalRes", assetField resources.original), ("resJPEGThumbRes", assetField resources.thumbnail)]

def masterRecord (operation : Issued) (resources : PreparedResources) : RequestRecord where
  recordName := operation.master
  recordType := some masterRecordType
  recordChangeTag := if operation.creates then none else operation.preparation.masterRevision
  fields := operation.resourceFields resources ++ (if operation.creates then [("photoId", textField operation.photo)] else [])
  events := .none

def kind (operation : Issued) : OperationType := if operation.creates then .create else .update

def masterOperations (operation : Issued) : List RecordOperation :=
  match operation.preparation.resources with
  | some resources => [⟨operation.kind, operation.masterRecord resources⟩]
  | none => []

def bodyFor (operation : Issued) (zone : ZoneId) : Result RequestBody :=
  if operation.photoRecord.fields.isEmpty then invalid "an empty metadata patch is not successful synchronization"
  else .ok ⟨zone, operation.masterOperations ++ [⟨operation.kind, operation.photoRecord⟩]⟩

theorem bodyFor_ok {operation : Issued} {zone : ZoneId} {body : RequestBody} (done : operation.bodyFor zone = .ok body) :
    body = ⟨zone, operation.masterOperations ++ [⟨operation.kind, operation.photoRecord⟩]⟩ := by
  unfold bodyFor at done
  split at done
  · cases done
  · cases done
    rfl

theorem bodyFor_succeeds (operation : Issued) (zone : ZoneId)
    (owes : operation.sendsMetadata = true ∨ operation.preparation.resources.isSome = true) :
    ∃ body, operation.bodyFor zone = .ok body := by
  have filled : ¬ operation.photoRecord.fields.isEmpty = true := by
    rw [List.isEmpty_iff]
    simp only [photoRecord, List.append_eq_nil_iff, not_and_or]
    rcases owes with metadata | content
    · left
      simp only [metadataPatch, metadata, if_true]
      split
      · simp [LocalMetadata.fields, integerField]
      · simp [LocalMetadata.fields]
    · right
      simp [contentFields, content]
  unfold bodyFor
  rw [if_neg filled]
  exact ⟨_, rfl⟩

end Issued

-- The request carries the captured values of the photo: as they are, or on a create without the absent ones.
def RequestBody.CarriesMetadata (body : RequestBody) (operation : Issued) : Prop :=
  ∃ sent ∈ body.operations, sent.record.recordName = operation.photo ∧ sent.record.recordType = some assetRecordType ∧
    ∀ field ∈ operation.preparation.metadata.fields, field ∈ sent.record.fields ∨ operation.phase = .create ∧ field.2 = none

def RequestBody.CarriesContent (body : RequestBody) (operation : Issued) (resources : PreparedResources) : Prop :=
  ∃ sent ∈ body.operations, sent.record.recordName = operation.master ∧ sent.record.recordType = some masterRecordType ∧
    ("resOriginalRes", Issued.assetField resources.original) ∈ sent.record.fields ∧
    ("resJPEGThumbRes", Issued.assetField resources.thumbnail) ∈ sent.record.fields

namespace Issued

theorem bodyFor_metadata (operation : Issued) {zone : ZoneId} {body : RequestBody}
    (done : operation.bodyFor zone = .ok body) (sent : operation.metadataSent = true) : body.CarriesMetadata operation := by
  have sends : operation.sendsMetadata = true := sent
  rw [bodyFor_ok done]
  refine ⟨⟨operation.kind, operation.photoRecord⟩, List.mem_append_right _ List.mem_cons_self, rfl, rfl, ?_⟩
  intro field member
  by_cases present : field.2.isSome = true
  · refine .inl (List.mem_append_left _ ?_)
    unfold metadataPatch
    rw [if_pos sends]
    split
    · exact List.mem_filter.mpr ⟨member, present⟩
    · exact member
  · by_cases create : operation.creates = true
    · exact .inr ⟨beq_iff_eq.mp create, Option.not_isSome_iff_eq_none.mp present⟩
    · refine .inl (List.mem_append_left _ ?_)
      unfold metadataPatch
      rw [if_pos sends, if_neg create]
      exact member

theorem bodyFor_content (operation : Issued) {zone : ZoneId} {body : RequestBody} {resources : PreparedResources}
    (done : operation.bodyFor zone = .ok body) (prepared : operation.preparation.resources = some resources) :
    body.CarriesContent operation resources := by
  rw [bodyFor_ok done]
  refine ⟨⟨operation.kind, operation.masterRecord resources⟩, List.mem_append_left _ ?_, rfl, rfl, ?_, ?_⟩
  · unfold masterOperations
    rw [prepared]
    exact List.mem_cons_self
  · exact List.mem_append_left _ (by simp [resourceFields])
  · exact List.mem_append_left _ (by simp [resourceFields])

end Issued
end PhotoSync
