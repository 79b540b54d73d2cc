import PhotoSync.Lib.Crash
import PhotoSync.Store.LocalOperation

set_option autoImplicit false

namespace PhotoSync
open Relational Transaction Durable Store

inductive ChangeSource where
  | startupScan
  | filesystemWatcher
  | userInteractive
  | trashReconcile
  | thumbnailWorker
  | synchronization
deriving DecidableEq, Repr

structure MediaFields where
  favorite : Bool
  metadata : Bool
  location : Bool
  trash : Bool
  thumbnail : Bool
  attributes : Bool
deriving DecidableEq, Repr

namespace MediaFields

def favoriteOnly : MediaFields := ⟨true, false, false, false, false, false⟩

def trashOnly : MediaFields := ⟨false, false, false, true, false, false⟩

end MediaFields

abbrev MediaItem : Type := Nat × Media

inductive DomainEvent where
  | mediaUpdated (source : ChangeSource) (items : List MediaItem) (fields : MediaFields)
  | mediaRestored (source : ChangeSource) (items : List MediaItem)
  | albumsChanged (source : ChangeSource) (affectedFolders affectedVirtual : List String) (liveCountDelta : Int)
  | trashChanged (source : ChangeSource)
deriving DecidableEq

def DomainEvent.items : DomainEvent → Option (List MediaItem)
  | mediaUpdated _ items _ => some items
  | mediaRestored _ items => some items
  | albumsChanged _ _ _ _ => none
  | trashChanged _ => none

namespace Store

def has (s : Store) (id : Nat) : Bool := (s.media.get id).isSome

def itemsOf (s : Store) (ids : List Nat) : List MediaItem := ids.filterMap (fun id => (s.media.get id).map (fun row => (id, row)))

end Store

structure Actor where
  store : Store
  events : List DomainEvent

namespace Actor

abbrev Action : Type → Type := Program Actor StoreError

def commit (effect : Store → Result Store) : Action Unit :=
  .act (fun actor => (effect actor.store).map (fun store => { actor with store := store }))

def send (event : DomainEvent) : Action Unit := .act (fun actor => .ok { actor with events := actor.events ++ [event] })

def getMediaItem (id : Nat) : Action MediaItem := do
  let row ← .read (fun actor => requireRow (actor.store.media.get id))
  .lift (row.map (fun found => (id, found)))

def getEach : List Nat → Action (List MediaItem)
  | [] => pure []
  | id :: rest => do
    let item ← getMediaItem id
    let items ← getEach rest
    return item :: items

-- Each row is read as it was and marked, with the second of its own statement.
def markEach : List (Nat × Int) → Action (List MediaItem)
  | [] => pure []
  | mark :: rest => do
    let item ← getMediaItem mark.1
    commit (fun s => .ok (s.markTrashed mark.1 mark.2))
    let items ← markEach rest
    return item :: items

def unmarkEach : List Nat → Action (List MediaItem)
  | [] => pure []
  | id :: rest => do
    commit (fun s => .ok (s.unmarkTrashed id))
    let item ← getMediaItem id
    let items ← unmarkEach rest
    return item :: items

end Actor

inductive UserCommand where
  | setFavorite (ids : List Nat) (favorite : Bool) (stamp : EditEvent)
  | markTrashed (ids : List (Nat × Int))
  | restoreTrashed (ids : List (Nat × EditEvent))
  | rollbackTrashed (ids : List Nat)

namespace UserCommand
open Actor

def ids : UserCommand → List Nat
  | setFavorite ids _ _ => ids
  | markTrashed ids => ids.map Prod.fst
  | restoreTrashed ids => ids.map Prod.fst
  | rollbackTrashed ids => ids

def execute : UserCommand → Action (List MediaItem)
  | setFavorite ids favorite stamp => do
    commit (Store.setFavorite ids favorite stamp)
    let changed ← getEach ids
    if changed.isEmpty then return changed
    else do
      send (.mediaUpdated .userInteractive changed .favoriteOnly)
      send (.albumsChanged .userInteractive [] ["favorites"] 0)
      return changed
  | markTrashed ids => markEach ids
  | restoreTrashed ids => do
    commit (Store.restoreTrashedMetadata ids)
    let changed ← getEach (ids.map Prod.fst)
    send (.mediaRestored .userInteractive changed)
    send (.trashChanged .userInteractive)
    return changed
  | rollbackTrashed ids => do
    let changed ← unmarkEach ids
    if changed.isEmpty then return changed
    else do
      send (.mediaUpdated .userInteractive changed .trashOnly)
      return changed

end UserCommand

namespace Actor

section Runs
variable {actor final : Actor}

theorem commit_run (effect : Store → Result Store) (actor : Actor) : (commit effect).run actor = match effect actor.store with
      | .ok store => ({ actor with store := store }, .ok ())
      | .error failure => (actor, .error failure) := by
  rw [commit, Program.act, Program.run_step]
  cases effect actor.store with
  | ok | error => rfl

theorem getMediaItem_run (id : Nat) (actor : Actor) :
    (getMediaItem id).run actor = (actor, (requireRow (actor.store.media.get id)).map (fun found => (id, found))) := rfl

theorem requireRow_present (row : Option Media) (id : Nat) : (requireRow row).map (fun found => (id, found)) = match row with
      | some found => .ok (id, found)
      | none => .error .noRows := by
  cases row <;> rfl

theorem getEach_run (ids : List Nat) (actor : Actor) : (getEach ids).run actor =
      (actor, if ids.all actor.store.has then .ok (actor.store.itemsOf ids) else .error .noRows) := by
  induction ids with
  | nil => rfl
  | cons id rest ih =>
    unfold getEach itemsOf
    rw [Program.run_bind, getMediaItem_run, requireRow_present, List.all_cons, List.filterMap_cons]
    cases read : actor.store.media.get id with
    | none => simp [has, read]
    | some =>
      have present : actor.store.has id = true := by simp [has, read]
      rw [present, Bool.true_and]
      dsimp only [Option.map_some]
      rw [Program.run_bind, ih]
      by_cases all : rest.all actor.store.has = true
      · rw [if_pos all, if_pos all]
        rfl
      · rw [if_neg all, if_neg all]

end Runs
end Actor
end PhotoSync
