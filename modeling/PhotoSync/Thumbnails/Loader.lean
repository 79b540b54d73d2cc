import Mathlib.Data.List.AList
import PhotoSync.Lib.Run

set_option autoImplicit false

namespace PhotoSync.Thumbnails

inductive ThumbnailSize where
  | small
  | medium
  | large
deriving DecidableEq, Repr, Ord

def tierBoost : Nat := 0

def tierNormal : Nat := 1

def tierBackground : Nat := 2

structure Parameters where
  uri : String
  size : ThumbnailSize
  mtime : Option Int
  enqueuedAt : Nat
  mediaId : Int
deriving DecidableEq, Repr

structure PriItem where
  tier : Nat
  seq : Nat
  cacheKey : String
  parameters : Parameters
deriving DecidableEq, Repr

def PriItem.priorityCmp (item other : PriItem) : Ordering := (compare item.tier other.tier).then <|
    (compare item.seq other.seq).then <| (compare item.cacheKey other.cacheKey).then <|
      (compare item.parameters.uri other.parameters.uri).then <| (compare item.parameters.size other.parameters.size).then
          (compare item.parameters.mtime other.parameters.mtime)

structure QueuedEntry where
  tier : Nat
  parameters : Parameters
deriving DecidableEq, Repr

structure LoadedThumb where
  texture : Nat
  isLight : Option Bool
  unavailable : Bool
deriving DecidableEq, Repr

structure LruCache where
  capacity : Nat
  entries : List (String × LoadedThumb)
deriving DecidableEq, Repr

namespace LruCache

def without (cache : LruCache) (key : String) : LruCache := { cache with entries := cache.entries.filter (fun entry => entry.1 != key) }

def put (cache : LruCache) (key : String) (thumb : LoadedThumb) : LruCache :=
  { cache with entries := ((key, thumb) :: (cache.without key).entries).take cache.capacity }

def get (cache : LruCache) (key : String) : Option LoadedThumb := cache.entries.lookup key

end LruCache

structure ThumbnailWaiter where
  reply : Nat
  cancellation : Option Nat
deriving DecidableEq, Repr

structure Request where
  waiter : ThumbnailWaiter
  cacheKey : String
  tier : Nat
  parameters : Parameters
deriving DecidableEq, Repr

-- How far a caller is in request_inner: before it looks at the state, between
-- its registration and its enqueue, or refused by a full queue.
inductive Phase where
  | checked
  | registered
  | refused
deriving DecidableEq, Repr

structure Requester where
  phase : Phase
  request : Request
deriving DecidableEq, Repr

-- The state lock guards the caches and inFlight, the queue lock heap, queued and seq. What follows are the threads:
-- callers inside request_inner, the items of the workers, and the waiters a worker has taken out to answer. The last
-- three say what has become of the replies.
structure Loader where
  queueCapacity : Nat
  memCache : LruCache
  prewarmMemCache : LruCache
  inFlight : AList (fun _ : String => List ThumbnailWaiter)
  heap : List PriItem
  queued : AList (fun _ : String => QueuedEntry)
  seq : Nat
  cancelled : List Nat
  requesters : List Requester
  generating : List PriItem
  delivering : List (LoadedThumb × List ThumbnailWaiter)
  issued : List Nat
  answered : List (Nat × LoadedThumb)
  dropped : List Nat

namespace Loader

def idle (queueCapacity memCacheCap : Nat) : Loader where
  queueCapacity := queueCapacity
  memCache := ⟨memCacheCap, []⟩
  prewarmMemCache := ⟨64, []⟩
  inFlight := ∅
  heap := []
  queued := ∅
  seq := 0
  cancelled := []
  requesters := []
  generating := []
  delivering := []
  issued := []
  answered := []
  dropped := []

def isCancelled (loader : Loader) (waiter : ThumbnailWaiter) : Bool :=
  waiter.cancellation.any (fun flag => loader.cancelled.contains flag)

def replies (waiters : List ThumbnailWaiter) : List Nat := waiters.map ThumbnailWaiter.reply

def drop (loader : Loader) (waiters : List ThumbnailWaiter) : Loader := { loader with dropped := loader.dropped ++ replies waiters }

-- A caller whose cell is gone, or whose file has no cache key, leaves at once.
def request (loader : Loader) (waiter : ThumbnailWaiter) (cacheKey : Option String) (tier : Nat) (parameters : Parameters) : Loader :=
  let loader := { loader with issued := waiter.reply :: loader.issued }
  if loader.isCancelled waiter then loader.drop [waiter]
  else
    match cacheKey with
    | none => loader.drop [waiter]
    | some key => { loader with requesters := ⟨.checked, ⟨waiter, key, tier, parameters⟩⟩ :: loader.requesters }

-- A prewarmed thumbnail becomes browsing history when it is first looked at.
def loadMemCached (loader : Loader) (key : String) : Option (LoadedThumb × Loader) :=
  match loader.memCache.get key with
  | some thumb => some (thumb, { loader with memCache := loader.memCache.put key thumb })
  | none =>
    (loader.prewarmMemCache.get key).map (fun thumb =>
      (thumb, { loader with
        prewarmMemCache := loader.prewarmMemCache.without key, memCache := loader.memCache.put key thumb }))

def withoutRequester (loader : Loader) (requester : Requester) : Loader :=
  { loader with requesters := loader.requesters.erase requester }

def register (loader : Loader) (request : Request) : Loader :=
  let loader := loader.withoutRequester ⟨.checked, request⟩
  match loader.loadMemCached request.cacheKey with
  | some (thumb, loader) => { loader with answered := loader.answered ++ [(request.waiter.reply, thumb)] }
  | none =>
    match loader.inFlight.lookup request.cacheKey with
    | some waiters => { loader with inFlight := loader.inFlight.insert request.cacheKey (waiters ++ [request.waiter]) }
    | none =>
      { loader with
        inFlight := loader.inFlight.insert request.cacheKey [request.waiter]
        requesters := ⟨.registered, request⟩ :: loader.requesters }

def enqueue (loader : Loader) (request : Request) : Loader :=
  let loader := loader.withoutRequester ⟨.registered, request⟩
  if loader.queueCapacity ≤ loader.queued.entries.length then { loader with requesters := ⟨.refused, request⟩ :: loader.requesters }
  else
    let seq := loader.seq + 1
    { loader with
      seq := seq
      queued := loader.queued.insert request.cacheKey ⟨request.tier, request.parameters⟩
      heap := ⟨request.tier, seq, request.cacheKey, request.parameters⟩ :: loader.heap }

-- in_flight.remove: the waiters go with the entry.
def takeWaiters (loader : Loader) (key : String) : List ThumbnailWaiter × Loader :=
  ((loader.inFlight.lookup key).getD [], { loader with inFlight := loader.inFlight.erase key })

def dropInFlight (loader : Loader) (key : String) : Loader :=
  let (waiters, loader) := loader.takeWaiters key
  loader.drop waiters

def rollBack (loader : Loader) (request : Request) : Loader :=
  (loader.withoutRequester ⟨.refused, request⟩).dropInFlight request.cacheKey

-- cancel_cancellable_request once it has set its flag.
def dropCancelled (loader : Loader) (key : String) : Loader :=
  match loader.inFlight.lookup key with
  | none => loader
  | some waiters =>
    let live := waiters.filter (fun waiter => !loader.isCancelled waiter)
    let gone := waiters.filter loader.isCancelled
    let loader := { loader with inFlight := loader.inFlight.insert key live }.drop gone
    if !live.isEmpty then loader
    else if key ∈ loader.queued then { loader with queued := loader.queued.erase key, inFlight := loader.inFlight.erase key }
    else loader

def prioritizeKey (loader : Loader) (key : String) : Loader :=
  match loader.queued.lookup key with
  | none => loader
  | some entry =>
    if entry.tier == tierBoost then loader
    else
      let seq := loader.seq + 1
      { loader with
        seq := seq
        queued := loader.queued.insert key { entry with tier := tierBoost }
        heap := ⟨tierBoost, seq, key, entry.parameters⟩ :: loader.heap }

def prioritizeKeys (loader : Loader) (keys : List String) : Loader := keys.foldl prioritizeKey loader

-- The worker that pulls takes the first new item itself and queues the others while there is room.
def pullItem (capacity : Nat) (pulled : Loader × Bool) (row : String × Parameters) : Loader × Bool :=
  let (loader, taken) := pulled
  let item : PriItem := ⟨tierBackground, 0, row.1, row.2⟩
  if row.1 ∈ loader.inFlight ∨ row.1 ∈ loader.queued then pulled
  else if !taken then ({ loader with inFlight := loader.inFlight.insert row.1 [], generating := item :: loader.generating }, true)
  else if loader.queued.entries.length < capacity then ({ loader with
    inFlight := loader.inFlight.insert row.1 []
    queued := loader.queued.insert row.1 ⟨tierBackground, row.2⟩
    heap := item :: loader.heap }, taken)
  else pulled

def pullBatchAndEnqueue (loader : Loader) (page : List (String × Parameters)) (capacity : Nat) : Loader :=
  (page.foldl (pullItem capacity) (loader, false)).1

def isNext (loader : Loader) (item : PriItem) : Bool :=
  loader.heap.contains item && loader.heap.all (fun other => other.priorityCmp item != .lt)

-- The entry of an item that has been cancelled, taken or moved to another tier no longer has its tier.
def isStale (loader : Loader) (item : PriItem) : Bool := (loader.queued.lookup item.cacheKey).map QueuedEntry.tier != some item.tier

def pop (loader : Loader) (item : PriItem) : Loader :=
  { loader with
    heap := loader.heap.erase item
    queued := loader.queued.erase item.cacheKey
    generating := item :: loader.generating }

-- A worker has its thumbnail: it stores it and takes the waiters out.
def finish (loader : Loader) (item : PriItem) (thumb : LoadedThumb) : Loader :=
  let loader := { loader with generating := loader.generating.erase item }
  let loader :=
    if item.tier == tierBackground then { loader with prewarmMemCache := loader.prewarmMemCache.put item.cacheKey thumb }
    else { loader with memCache := loader.memCache.put item.cacheKey thumb }
  let (waiters, loader) := loader.takeWaiters item.cacheKey
  { loader with delivering := (thumb, waiters) :: loader.delivering }

def fail (loader : Loader) (item : PriItem) : Loader :=
  { loader with generating := loader.generating.erase item }.dropInFlight item.cacheKey

def deliver (loader : Loader) (delivery : LoadedThumb × List ThumbnailWaiter) : Loader :=
  let live := delivery.2.filter (fun waiter => !loader.isCancelled waiter)
  let gone := delivery.2.filter loader.isCancelled
  { loader with
    delivering := loader.delivering.erase delivery
    answered := loader.answered ++ live.map (fun waiter : ThumbnailWaiter => (waiter.reply, delivery.1)) }.drop gone

inductive Event where
  | request (waiter : ThumbnailWaiter) (cacheKey : Option String) (tier : Nat) (parameters : Parameters)
  | register (request : Request)
  | enqueue (request : Request)
  | rollBack (request : Request)
  | setCancelled (flag : Nat)
  | dropCancelled (cacheKey : String)
  | prioritizeKeys (keys : List String)
  | pullBatch (page : List (String × Parameters)) (capacity : Nat)
  | discard (item : PriItem)
  | pop (item : PriItem)
  | finish (item : PriItem) (thumb : LoadedThumb)
  | fail (item : PriItem)
  | deliver (delivery : LoadedThumb × List ThumbnailWaiter)
deriving DecidableEq

def guarded (enabled : Bool) (next : Loader) : Except Unit Loader := if enabled then .ok next else .error ()

def execute (loader : Loader) : Event → Except Unit Loader
  | .request waiter cacheKey tier parameters => .ok (loader.request waiter cacheKey tier parameters)
  | .register request => guarded (loader.requesters.contains ⟨.checked, request⟩) (loader.register request)
  | .enqueue request => guarded (loader.requesters.contains ⟨.registered, request⟩) (loader.enqueue request)
  | .rollBack request => guarded (loader.requesters.contains ⟨.refused, request⟩) (loader.rollBack request)
  | .setCancelled flag => .ok { loader with cancelled := flag :: loader.cancelled }
  | .dropCancelled key => .ok (loader.dropCancelled key)
  | .prioritizeKeys keys => .ok (loader.prioritizeKeys keys)
  | .pullBatch page capacity => .ok (loader.pullBatchAndEnqueue page capacity)
  | .discard item => guarded (loader.isNext item && loader.isStale item) { loader with heap := loader.heap.erase item }
  | .pop item => guarded (loader.isNext item && !loader.isStale item) (loader.pop item)
  | .finish item thumb => guarded (loader.generating.contains item) (loader.finish item thumb)
  | .fail item => guarded (loader.generating.contains item) (loader.fail item)
  | .deliver delivery => guarded (loader.delivering.contains delivery) (loader.deliver delivery)

theorem guarded_ok {enabled : Bool} {next after : Loader} (done : guarded enabled next = .ok after) : enabled = true ∧ next = after := by
  unfold guarded at done
  split at done
  · next held =>
    cases done
    exact ⟨held, rfl⟩
  · cases done

end Loader
end PhotoSync.Thumbnails
