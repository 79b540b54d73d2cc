import PhotoSync.Store.Media

set_option autoImplicit false

namespace PhotoSync
open Relational Transaction

-- Milliseconds of a second count, saturating at the ends of a 64-bit integer.
def saturatingMillis (seconds : Int) : Int := max (-(2 ^ 63)) (min (2 ^ 63 - 1) (seconds * 1000))

-- The date of the last received state stands while it is the same second.
def uploadDate (baseline : Option RemotePhoto) (seconds : Int) : Int :=
  ((baseline.bind RemotePhoto.assetDateMs).filter (fun ms => ms / 1000 == seconds)).getD (saturatingMillis seconds)

def Entry.localMetadata (entry : Entry) (item : Option Media) : LocalMetadata where
  isTrashed := if item.any (fun row => row.trashedAt.isSome) then 1 else 0
  isFavorite := (item.map Media.isFavorite).getD 0
  assetDate := (item.bind Media.takenAt).map (uploadDate entry.baseline)
  relativePath := entry.relativePath

-- What the trash reconciliation found: rows to mark, files of the trash that
-- are not indexed, and rows whose file left the trash.
structure TrashReconcilePlan where
  newItems : List (NewMediaItem × EditEvent)
  markIds : List (Nat × EditEvent)
  pruneIds : List (Nat × EditEvent)

namespace Store

def localMetadata (s : Store) (entry : Nat) : Result LocalMetadata := do
  let row ← requireRow (s.entries.get entry)
  return row.localMetadata (row.media.bind s.media.get)

def commitTrashReconcile (plan : TrashReconcilePlan) (now : Int) (s : Store) : Result Store := do
  let s ← plan.markIds.foldlM (fun (s : Store) id => commitTrashMetadata [id] (s.markTrashed id.1 now)) s
  let (s, inserted) ← s.upsertMediaItems plan.newItems none
  let s := inserted.foldl (fun (s : Store) id => s.markTrashed id now) s
  plan.pruneIds.foldlM (fun s id => commitPermanentDeletions [id] s) s

def markEachTrashed (ids : List Nat) (now : Int) (s : Store) : Result Store := ids.foldlM (fun (s : Store) id => do
    let _ ← requireRow (s.media.get id)
    return s.markTrashed id now) s

def unmarkEachTrashed (ids : List Nat) (s : Store) : Result Store := ids.foldlM (fun (s : Store) id => do
    let _ ← requireRow (s.media.get id)
    return s.unmarkTrashed id) s

end Store

inductive LocalOperation where
  | setFavorite (ids : List Nat) (favorite : Bool) (stamp : EditEvent)
  | movedToTrash (ids : List (Nat × EditEvent)) (now : Int)
  | trashRolledBack (ids : List Nat) (now : Int)
  | restoreTrashed (ids : List (Nat × EditEvent))
  | updateMediaLocation (id : Nat) (path folder : String) (mtime : Int) (stamp : EditEvent)
  | scanned (items : List (NewMediaItem × EditEvent))
  | externallyTrashed (id : Nat) (now : Int) (stamp : EditEvent)
  | reconcileTrash (plan : TrashReconcilePlan) (now : Int)

def LocalOperation.perform (platform : Platform) (s : Store) : LocalOperation → Result Store
  | .setFavorite ids favorite stamp => Store.setFavorite ids favorite stamp s
  | .movedToTrash ids now => do
    let s ← Store.markEachTrashed (ids.map Prod.fst) now s
    Store.commitTrashMetadata ids s
  | .trashRolledBack ids now => do
    let s ← Store.markEachTrashed ids now s
    Store.unmarkEachTrashed ids s
  | .restoreTrashed ids => Store.restoreTrashedMetadata ids s
  | .updateMediaLocation id path folder mtime stamp => Store.updateMediaLocation platform id path folder mtime stamp s
  | .scanned items => do
    let (s, _) ← s.upsertMediaItems items none
    return s
  | .externallyTrashed id now stamp => s.removeOrTrashLiveRow id true now stamp
  | .reconcileTrash plan now => Store.commitTrashReconcile plan now s

end PhotoSync
