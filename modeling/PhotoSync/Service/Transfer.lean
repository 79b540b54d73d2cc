import PhotoSync.Store.Runtime

set_option autoImplicit false

namespace PhotoSync
open Relational Transaction

-- The instants a chrono::DateTime<Utc> can hold. Whether a second is one of
-- them is the library's matter; their milliseconds fit a 64-bit integer.
structure Calendar where
  representable : Int → Bool
  fits : ∀ seconds, representable seconds = true → -(2 ^ 63) ≤ seconds * 1000 ∧ seconds * 1000 ≤ 2 ^ 63 - 1

structure DateTime (calendar : Calendar) where
  seconds : Int
  held : calendar.representable seconds = true

namespace DateTime

variable (calendar : Calendar)

def fromTimestamp (seconds : Int) : Option (DateTime calendar) :=
  if held : calendar.representable seconds = true then some ⟨seconds, held⟩ else none

-- The fraction of the second is dropped when the row is written.
def fromTimestampMillis (ms : Int) : Option (DateTime calendar) := fromTimestamp calendar (ms / 1000)

theorem fromTimestamp_eq_none (seconds : Int) : fromTimestamp calendar seconds = none ↔ calendar.representable seconds = false := by
  unfold fromTimestamp
  by_cases held : calendar.representable seconds = true
  · simp [held]
  · simp [Bool.not_eq_true _ ▸ held]

end DateTime

variable {calendar : Calendar}

-- The item of a downloaded file: the received date, else the file's own.
def mediaItem (platform : Platform) (photo : RemotePhoto) (target : String) (recorded : Option (DateTime calendar))
    (mtime : Int) : NewMediaItem where
  uri := platform.fileUri target
  path := target
  folderPath := (parentPath target).getD "/"
  takenAt := ((photo.assetDateMs.bind (DateTime.fromTimestampMillis calendar)).or recorded).map DateTime.seconds
  fileMtimeNs := mtime
  fileSize := photo.original.size

def placedItem (platform : Platform) (capture : Capture) (photo : RemotePhoto) (target : String)
    (recorded : Option (DateTime calendar)) (mtime : Int) : NewMediaItem :=
  let item := mediaItem platform photo target recorded mtime
  if capture.preserveMetadata then { item with takenAt := (capture.takenAt.bind (DateTime.fromTimestamp calendar)).map DateTime.seconds }
  else item

end PhotoSync
