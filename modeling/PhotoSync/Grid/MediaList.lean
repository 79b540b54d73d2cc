import PhotoSync.Lib.Ranking
import PhotoSync.Service.Actor
import Mathlib.Data.Prod.Lex
import Mathlib.Data.List.Range

set_option autoImplicit false

namespace PhotoSync.MediaList
open Ranking List

-- Times in nanoseconds; the fields that the list does not read are the details.
structure MediaItem (δ : Type) where
  id : Int
  uri : String
  takenAt : Option Int
  fileMtime : Int
  storageLocation : StorageLocation
  thumbnailReady : Bool
  details : δ
deriving DecidableEq, Repr

namespace MediaItem

variable {δ : Type}

def hasLocalOriginal : StorageLocation → Bool
  | .localOnly => true
  | .cloudOnly => false
  | .both => true

def canDisplay (item : MediaItem δ) : Bool := hasLocalOriginal item.storageLocation || item.thumbnailReady

def sortDatetime (item : MediaItem δ) : Int := item.takenAt.getD item.fileMtime

def order (item : MediaItem δ) : Int ×ₗ Int := toLex (-item.sortDatetime, -item.id)

end MediaItem

inductive DomainEvent (δ : Type) where
  | mediaUpserted (source : ChangeSource) (items : List (MediaItem δ))
  | mediaRemoved (source : ChangeSource) (ids : List Int) (uris : List String)
  | mediaMovedToTrash (source : ChangeSource) (items : List (MediaItem δ))
  | mediaRestored (source : ChangeSource) (items : List (MediaItem δ))
  | mediaUpdated (source : ChangeSource) (items : List (MediaItem δ)) (fields : MediaFields)
  | trashChanged
  | albumsChanged
  | albumCoverChanged
  | albumsDirty
  | thumbnailStatsDirty
  | liveCountDirty
  | syncStateDirty
  | syncConfigurationDirty
  | scanPhase
deriving DecidableEq

section Source
variable {δ : Type}

def compareMediaOrder (a b : MediaItem δ) : Ordering := (compare b.sortDatetime a.sortDatetime).then (compare b.id a.id)

def sortByOrder (items : List (MediaItem δ)) : List (MediaItem δ) := items.insertionSort (fun a b => compareMediaOrder a b ≠ .gt)

def splice {α : Type} (list : List α) (position removals : Nat) : List α := list.take position ++ list.drop (position + removals)

def mergeRanges (start stop : Nat) : List Nat → List (Nat × Nat)
  | [] => [(start, stop - start + 1)]
  | position :: rest =>
    if position = stop + 1 then mergeRanges start position rest
    else (start, stop - start + 1) :: mergeRanges position position rest

def removeUrisBatch (list : List (MediaItem δ)) (uris : List String) : List (MediaItem δ) :=
  if uris.isEmpty || list.isEmpty then list
  else
    match (List.range list.length).filter (fun i => (list[i]?).any (fun item => uris.contains item.uri)) with
    | [] => list
    | first :: rest => (mergeRanges first first rest).reverse.foldl (fun list range => splice list range.1 range.2) list

def sortedInsertPosition (list : List (MediaItem δ)) (item : MediaItem δ) : Nat :=
  list.findIdx (fun existing => compareMediaOrder item existing == .lt)

def capAsU32 (cap : Nat) : Nat := cap % 2 ^ 32

def insertWithin (cap : Nat) (list : List (MediaItem δ)) (position : Nat) (item : MediaItem δ) : List (MediaItem δ) :=
  if cap ≤ position then list
  else
    let list := list.insertIdx position item
    if cap < list.length then list.dropLast else list

def shares (item existing : MediaItem δ) : Bool := existing.uri == item.uri || existing.id == item.id

-- none: some item is listed already, and nothing was changed.
def applyAbsentItemInsertions (cap : Nat) (list items : List (MediaItem δ)) : Option (List (MediaItem δ)) :=
  if items.any (fun item => list.any (fun existing => shares item existing)) then none
  else some ((sortByOrder items).foldl
    (fun list item => insertWithin (capAsU32 cap) list (sortedInsertPosition list item) item) list)

def targetedUpsert (cap : Nat) (list : List (MediaItem δ)) (item : MediaItem δ) : List (MediaItem δ) :=
  match list.findIdx? (shares item) with
  | none => insertWithin cap list (sortedInsertPosition list item) item
  | some index =>
    let remaining := list.eraseIdx index
    let preservesSortPosition := (list[index]?).any (fun existing => compareMediaOrder item existing == .eq)
    let position := if preservesSortPosition then min index remaining.length else sortedInsertPosition remaining item
    insertWithin cap remaining position item

def applyTargetedUpserts (cap : Nat) (source : ChangeSource) (list items : List (MediaItem δ)) : Option (List (MediaItem δ)) :=
  if source = .startupScan then none
  else some ((sortByOrder items).foldl (targetedUpsert (capAsU32 cap)) list)

-- The values of the map by uri. Their order does not survive the sort.
def insertByUri (values : List (MediaItem δ)) (item : MediaItem δ) : List (MediaItem δ) :=
  values.filter (fun value => value.uri != item.uri) ++ [item]

def mergeByUri (cap : Nat) (list items : List (MediaItem δ)) : List (MediaItem δ) :=
  let byUri := items.foldl insertByUri (list.foldl insertByUri [])
  let merged := sortByOrder byUri
  if cap < merged.length then merged.take cap else merged

def applyUpsertedBatch (cap : Nat) (source : ChangeSource) (list items : List (MediaItem δ)) : List (MediaItem δ) :=
  if items.isEmpty then list
  else if source = .startupScan ∧ cap ≤ list.length then list
  else
    match applyAbsentItemInsertions cap list items with
    | some list => list
    | none =>
      match applyTargetedUpserts cap source list items with
      | some list => list
      | none => mergeByUri cap list items

def applyItems (cap : Nat) (source : ChangeSource) (list items : List (MediaItem δ)) : List (MediaItem δ) :=
  let hidden := (items.filter (fun item => !item.canDisplay)).map MediaItem.uri
  applyUpsertedBatch cap source (removeUrisBatch list hidden) (items.filter MediaItem.canDisplay)

def applyToMediaList (cap : Nat) (list : List (MediaItem δ)) : DomainEvent δ → List (MediaItem δ)
  | .mediaUpserted source items => applyItems cap source list items
  | .mediaUpdated _ items _ => applyItems cap .userInteractive list items
  | .mediaRestored _ items => applyItems cap .userInteractive list items
  | .mediaRemoved _ _ uris => removeUrisBatch list uris
  | .mediaMovedToTrash _ items => removeUrisBatch list (items.map MediaItem.uri)
  | .trashChanged => list
  | .albumsChanged => list
  | .albumCoverChanged => list
  | .albumsDirty => list
  | .thumbnailStatsDirty => list
  | .liveCountDirty => list
  | .syncStateDirty => list
  | .syncConfigurationDirty => list
  | .scanPhase => list

end Source

section Removal
variable {δ : Type}

def eraseAll {α : Type} (list : List α) (positions : List Nat) : List α :=
  positions.foldr (fun position list => list.eraseIdx position) list

theorem eraseAll_map_succ {α : Type} (head : α) (tail : List α) (positions : List Nat) :
    eraseAll (head :: tail) (positions.map (· + 1)) = head :: eraseAll tail positions := by
  induction positions with
  | nil => rfl
  | cons position rest ih =>
    simp only [eraseAll, map_cons, foldr_cons] at ih ⊢
    rw [ih, eraseIdx_cons_succ]

theorem eraseAll_nil {α : Type} (positions : List Nat) : eraseAll ([] : List α) positions = [] := by
  induction positions with
  | nil => rfl
  | cons position rest ih =>
    simp only [eraseAll, foldr_cons] at ih ⊢
    rw [ih, eraseIdx_nil]

theorem range'_succ_start (position removals : Nat) : range' (position + 1) removals = (range' position removals).map (· + 1) := by
  rw [range'_eq_map_range, range'_eq_map_range, map_map]
  refine map_congr_left (fun offset _ => ?_)
  simp only [Function.comp_apply]
  omega

theorem splice_eq_eraseAll {α : Type} (list : List α) (position removals : Nat) :
    splice list position removals = eraseAll list (range' position removals) := by
  induction list generalizing position removals with
  | nil => simp [splice, eraseAll_nil]
  | cons head tail ih =>
    cases position with
    | succ =>
      rw [range'_succ_start, eraseAll_map_succ, ← ih]
      simp [splice, Nat.add_right_comm]
    | zero =>
      cases removals with
      | zero => rfl
      | succ removals =>
        rw [range'_succ, range'_succ_start]
        change _ = (eraseAll (head :: tail) ((range' 0 removals).map (· + 1))).eraseIdx 0
        rw [eraseAll_map_succ, ← ih]
        simp [splice]

theorem mergeRanges_positions (start stop : Nat) (rest : List Nat) (ordered : start ≤ stop) :
    (mergeRanges start stop rest).flatMap (fun range => range' range.1 range.2) = range' start (stop - start + 1) ++ rest := by
  induction rest generalizing start stop with
  | nil => simp [mergeRanges]
  | cons position rest ih =>
    rw [mergeRanges]
    by_cases next : position = stop + 1
    · have longer : range' start (position - start + 1) = range' start (stop - start + 1) ++ [position] := by
        rw [next, show stop + 1 - start + 1 = (stop - start + 1) + 1 by omega, range'_1_concat]
        congr 2
        omega
      rw [if_pos next, ih start position (by omega), longer, append_assoc]
      rfl
    · rw [if_neg next, flatMap_cons, ih position position le_rfl]
      simp

theorem splices_eq_eraseAll {α : Type} (list : List α) (ranges : List (Nat × Nat)) :
    ranges.reverse.foldl (fun list range => splice list range.1 range.2) list =
      eraseAll list (ranges.flatMap (fun range => range' range.1 range.2)) := by
  rw [foldl_reverse]
  induction ranges with
  | nil => rfl
  | cons range rest ih =>
    rw [foldr_cons, ih, splice_eq_eraseAll, flatMap_cons]
    simp only [eraseAll, foldr_append]

theorem eraseAll_hits {α : Type} (hit : α → Bool) (list : List α) :
    eraseAll list ((range list.length).filter (fun i => (list[i]?).any hit)) = list.filter (fun item => !hit item) := by
  induction list with
  | nil => rfl
  | cons head tail ih =>
    have tailHits : ((range tail.length).map Nat.succ).filter (fun i => ((head :: tail)[i]?).any hit) =
        ((range tail.length).filter (fun i => (tail[i]?).any hit)).map (· + 1) := by
      rw [filter_map]
      rfl
    rw [length_cons, range_succ_eq_map, filter_cons, tailHits]
    cases found : hit head with
    | true =>
      rw [if_pos (by simp [found]), filter_cons_of_neg (by simp [found]), ← ih]
      change (eraseAll (head :: tail) _).eraseIdx 0 = _
      rw [eraseAll_map_succ]
      rfl
    | false =>
      rw [if_neg (by simp [found]), filter_cons_of_pos (by simp [found]), eraseAll_map_succ, ih]

theorem removeUrisBatch_eq (list : List (MediaItem δ)) (uris : List String) :
    removeUrisBatch list uris = list.filter (fun item => !uris.contains item.uri) := by
  rw [removeUrisBatch]
  have erased := eraseAll_hits (fun item : MediaItem δ => uris.contains item.uri) list
  split
  · rename_i trivially
    simp only [Bool.or_eq_true, List.isEmpty_iff] at trivially
    rcases trivially with rfl | rfl
    · exact (List.filter_eq_self.mpr (by simp)).symm
    · rfl
  · split
    · rename_i none
      rw [none] at erased
      exact erased
    · rename_i first rest positions
      rw [positions] at erased
      rw [splices_eq_eraseAll, mergeRanges_positions first first rest le_rfl, ← erased, Nat.sub_self]
      rfl

end Removal
end PhotoSync.MediaList
