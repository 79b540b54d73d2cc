import PhotoSync.Thumbnails.Loader

set_option autoImplicit false

namespace PhotoSync.Thumbnails
open Transaction List
variable {event : Loader.Event} {requester : Requester}
variable {after : Loader} {request : Request}

namespace Loader

section Owners

def isEnqueuing (key : String) (requester : Requester) : Bool := requester.phase != .checked && requester.request.cacheKey == key

-- How many threads and queue entries stand for the key.
def owners (loader : Loader) (key : String) : Nat :=
  (if key ∈ loader.queued then 1 else 0) + loader.generating.countP (fun item => item.cacheKey == key) +
    loader.requesters.countP (isEnqueuing key)

-- A key in flight has one owner, and no other key has any.
def Owned (loader : Loader) : Prop := ∀ key, loader.owners key = if key ∈ loader.inFlight then 1 else 0

theorem countP_erase_add {α : Type} [BEq α] [LawfulBEq α] {items : List α} {item : α} (test : α → Bool) (member : item ∈ items) :
    items.countP test = (items.erase item).countP test + if test item then 1 else 0 := by
  rw [(perm_cons_erase member).countP_eq test, countP_cons]

theorem isEnqueuing_own (requester : Requester) (entered : requester.phase ≠ .checked) :
    isEnqueuing requester.request.cacheKey requester = true := by
  simp [isEnqueuing, entered]

variable {key : String}

theorem isEnqueuing_other (other : key ≠ requester.request.cacheKey) : isEnqueuing key requester = false := by
  simp [isEnqueuing, Ne.symm other]

section Keys
variable {α : Type}

theorem mem_insert_own (key : String) (value : α) (entries : AList (fun _ : String => α)) : key ∈ entries.insert key value :=
  (AList.mem_insert _).mpr (.inl rfl)

theorem mem_insert_other (key other : String) (differ : other ≠ key) (value : α) (entries : AList (fun _ : String => α)) :
    other ∈ entries.insert key value ↔ other ∈ entries := by
  rw [AList.mem_insert, or_iff_right differ]

theorem not_mem_erase_own (entries : AList (fun _ : String => α)) : key ∉ entries.erase key :=
  fun member => (AList.mem_erase.mp member).1 rfl

theorem mem_of_lookup {value : α} {entries : AList (fun _ : String => α)} (found : entries.lookup key = some value) : key ∈ entries :=
  AList.lookup_isSome.mp (by rw [found]; rfl)

end Keys

variable {loader : Loader}

theorem idle_owned (queueCapacity memCacheCap : Nat) : Owned (idle queueCapacity memCacheCap) := fun _ => rfl

theorem request_owned (owned : Owned loader) {waiter : ThumbnailWaiter} {cacheKey : Option String} {tier : Nat}
    {parameters : Parameters} : Owned (loader.request waiter cacheKey tier parameters) := by
  unfold request
  dsimp only
  split
  · exact owned
  · split
    · exact owned
    · intro key
      have own := owned key
      simpa [owners, isEnqueuing] using own

theorem withoutRequester_owned (owned : Owned loader) (member : ⟨.checked, request⟩ ∈ loader.requesters) :
    Owned (loader.withoutRequester ⟨.checked, request⟩) := by
  intro key
  have own := owned key
  have counted := countP_erase_add (isEnqueuing key) member
  rw [show isEnqueuing key ⟨.checked, request⟩ = false from rfl, if_neg nofun, Nat.add_zero] at counted
  simp only [owners, counted] at own
  exact own

theorem loadMemCached_frame {thumb : LoadedThumb} {next : Loader} (hit : loader.loadMemCached key = some (thumb, next)) :
    ∃ mem prewarm, next = { loader with memCache := mem, prewarmMemCache := prewarm } := by
  unfold loadMemCached at hit
  split at hit
  · cases hit
    exact ⟨_, loader.prewarmMemCache, rfl⟩
  · obtain ⟨found, _, same⟩ := Option.map_eq_some_iff.mp hit
    cases same
    exact ⟨_, _, rfl⟩

section
variable (owned : Owned loader)

include owned

theorem register_owned (member : ⟨.checked, request⟩ ∈ loader.requesters) : Owned (loader.register request) := by
  have owned := withoutRequester_owned owned member
  unfold register
  dsimp only
  generalize loader.withoutRequester ⟨.checked, request⟩ = loader at owned
  split
  · next thumb next hit =>
    obtain ⟨mem, prewarm, rfl⟩ := loadMemCached_frame hit
    exact owned
  · split
    · next waiters joined =>
      have present : request.cacheKey ∈ loader.inFlight := mem_of_lookup joined
      intro key
      have own := owned key
      by_cases same : key = request.cacheKey
      · subst same
        simpa [owners, present] using own
      · simpa [owners, same] using own
    · next missing =>
      have absent : request.cacheKey ∉ loader.inFlight := AList.lookup_eq_none.mp missing
      intro key
      have own := owned key
      unfold owners at own ⊢
      dsimp only
      rw [countP_cons]
      by_cases same : key = request.cacheKey
      · subst same
        rw [if_neg absent] at own
        rw [if_pos (isEnqueuing_own ⟨.registered, request⟩ nofun), if_pos (mem_insert_own _ _ _)]
        omega
      · rw [isEnqueuing_other same]
        simpa [mem_insert_other _ _ same] using own

theorem enqueuing_alone (member : requester ∈ loader.requesters) (enqueuing : requester.phase ≠ .checked) :
    requester.request.cacheKey ∈ loader.inFlight ∧ requester.request.cacheKey ∉ loader.queued ∧
      (loader.requesters.erase requester).countP (isEnqueuing requester.request.cacheKey) = 0 ∧
      loader.generating.countP (fun item => item.cacheKey == requester.request.cacheKey) = 0 := by
  have own := owned requester.request.cacheKey
  have counted := countP_erase_add (isEnqueuing requester.request.cacheKey) member
  rw [if_pos (isEnqueuing_own requester enqueuing)] at counted
  unfold owners at own
  split at own
  · split at own
    · omega
    · omega
  · next apart =>
    split at own
    · next flying => exact ⟨flying, apart, by omega, by omega⟩
    · omega

theorem enqueue_owned (member : ⟨.registered, request⟩ ∈ loader.requesters) : Owned (loader.enqueue request) := by
  obtain ⟨flying, apart, callers, workers⟩ := enqueuing_alone owned member nofun
  unfold enqueue withoutRequester
  dsimp only
  split
  · intro key
    have own := owned key
    have counted := countP_erase_add (isEnqueuing key) member
    unfold owners at own ⊢
    dsimp only
    rw [countP_cons]
    have same : isEnqueuing key ⟨.refused, request⟩ = isEnqueuing key ⟨.registered, request⟩ := rfl
    rw [same]
    omega
  · intro key
    have own := owned key
    have counted := countP_erase_add (isEnqueuing key) member
    unfold owners at own ⊢
    by_cases same : key = request.cacheKey
    · subst same
      rw [if_pos (mem_insert_own _ _ _), callers, workers, if_pos flying]
    · rw [isEnqueuing_other same] at counted
      rw [if_neg nofun, Nat.add_zero] at counted
      rw [← counted, ← own]
      simp [same]

theorem rollBack_owned (member : ⟨.refused, request⟩ ∈ loader.requesters) : Owned (loader.rollBack request) := by
  obtain ⟨flying, apart, callers, workers⟩ := enqueuing_alone owned member nofun
  intro key
  have own := owned key
  have counted := countP_erase_add (isEnqueuing key) member
  show owners (loader.withoutRequester ⟨.refused, request⟩) key = if key ∈ loader.inFlight.erase request.cacheKey then 1 else 0
  unfold owners withoutRequester at *
  by_cases same : key = request.cacheKey
  · subst same
    rw [if_neg apart, workers, callers, if_neg (not_mem_erase_own _)]
  · rw [isEnqueuing_other same, if_neg nofun, Nat.add_zero] at counted
    rw [← counted, own]
    simp [same]

theorem dropCancelled_owned (key : String) : Owned (loader.dropCancelled key) := by
  unfold dropCancelled
  split
  · exact owned
  · next waiters found =>
    have flying : key ∈ loader.inFlight := mem_of_lookup found
    have kept : ∀ live, Owned { loader with inFlight := loader.inFlight.insert key live } := by
      intro live other
      have own := owned other
      by_cases same : other = key
      · subst same
        simpa [owners, flying] using own
      · simpa [owners, same] using own
    dsimp only
    split
    · exact kept _
    · split
      · next waits =>
        intro other
        have own := owned other
        unfold owners at own
        change key ∈ loader.queued at waits
        show (if other ∈ loader.queued.erase key then 1 else 0) +
          loader.generating.countP (fun item => item.cacheKey == other) + loader.requesters.countP (isEnqueuing other) =
            if other ∈ (loader.inFlight.insert key _).erase key then 1 else 0
        by_cases same : other = key
        · subst same
          rw [if_pos waits, if_pos flying] at own
          rw [if_neg (not_mem_erase_own _), if_neg (not_mem_erase_own _)]
          omega
        · simpa [same] using own
      · exact kept _

theorem prioritizeKey_owned (key : String) : Owned (loader.prioritizeKey key) := by
  unfold prioritizeKey
  split
  · exact owned
  · next entry found =>
    have waits : key ∈ loader.queued := mem_of_lookup found
    split
    · exact owned
    · intro other
      have own := owned other
      by_cases same : other = key
      · subst same
        simpa [owners, waits] using own
      · simpa [owners, same] using own

theorem prioritizeKeys_owned (keys : List String) : Owned (loader.prioritizeKeys keys) := by
  unfold prioritizeKeys
  induction keys generalizing loader with
  | nil => exact owned
  | cons key rest ih => exact ih (prioritizeKey_owned owned key)

end

theorem pullItem_owned (capacity : Nat) (pulled : Loader × Bool) (owned : Owned pulled.1) (row : String × Parameters) :
    Owned (pullItem capacity pulled row).1 := by
  obtain ⟨loader, taken⟩ := pulled
  have owned : Owned loader := owned
  unfold pullItem
  dsimp only
  split
  · exact owned
  · next absent =>
    obtain ⟨unowned, unqueued⟩ := not_or.mp absent
    have nobody := owned row.1
    unfold owners at nobody
    rw [if_neg unqueued, if_neg unowned] at nobody
    split
    · intro key
      have own := owned key
      unfold owners at own ⊢
      dsimp only
      rw [countP_cons]
      by_cases same : key = row.1
      · subst same
        rw [if_neg unqueued, if_pos (beq_self_eq_true _), if_pos (mem_insert_own _ _ _)]
        omega
      · rw [beq_false_of_ne (Ne.symm same)]
        simpa [same] using own
    · split
      · intro key
        have own := owned key
        unfold owners at own ⊢
        dsimp only
        by_cases same : key = row.1
        · subst same
          rw [if_pos (mem_insert_own _ _ _), if_pos (mem_insert_own _ _ _)]
          omega
        · simpa [same] using own
      · exact owned

theorem pullBatch_owned (owned : Owned loader) (page : List (String × Parameters)) (capacity : Nat) :
    Owned (loader.pullBatchAndEnqueue page capacity) := by
  unfold pullBatchAndEnqueue
  generalize false = taken
  induction page generalizing loader taken with
  | nil => exact owned
  | cons row rest ih => exact ih (pullItem_owned capacity (loader, taken) owned row) _

theorem queued_of_fresh (item : PriItem) (current : loader.isStale item = false) : item.cacheKey ∈ loader.queued := by
  unfold isStale at current
  rw [bne_eq_false_iff_eq] at current
  obtain ⟨entry, found, _⟩ := Option.map_eq_some_iff.mp current
  exact mem_of_lookup found

section
variable (owned : Owned loader)

include owned

theorem pop_owned (item : PriItem) (waits : item.cacheKey ∈ loader.queued) : Owned (loader.pop item) := by
  intro key
  have own := owned key
  unfold pop
  unfold owners at own ⊢
  dsimp only
  rw [countP_cons]
  by_cases same : key = item.cacheKey
  · subst same
    rw [if_pos waits] at own
    rw [if_neg (not_mem_erase_own _), if_pos (beq_self_eq_true _), ← own]
    omega
  · rw [beq_false_of_ne (Ne.symm same)]
    simpa [same] using own

theorem worker_owned {item : PriItem} (works : item ∈ loader.generating) (key : String) :
    owners { loader with generating := loader.generating.erase item } key =
      if key ∈ loader.inFlight.erase item.cacheKey then 1 else 0 := by
  have own := owned key
  have counted := countP_erase_add (fun other => other.cacheKey == key) works
  unfold owners at own ⊢
  dsimp only
  by_cases same : key = item.cacheKey
  · subst same
    rw [if_pos (beq_self_eq_true _)] at counted
    rw [if_neg (not_mem_erase_own _)]
    have single : (if item.cacheKey ∈ loader.inFlight then 1 else 0) ≤ 1 := by
      split
      · exact Nat.le_refl _
      · exact Nat.zero_le _
    omega
  · rw [beq_false_of_ne (Ne.symm same), if_neg nofun, Nat.add_zero] at counted
    rw [← counted, own]
    simp [same]

theorem finish_owned (item : PriItem) (works : item ∈ loader.generating) (thumb : LoadedThumb) : Owned (loader.finish item thumb) := by
  intro key
  have own := worker_owned owned works key
  unfold finish takeWaiters
  split
  · exact own
  · exact own

theorem fail_owned (item : PriItem) (works : item ∈ loader.generating) : Owned (loader.fail item) := worker_owned owned works

end

theorem execute_owned {before : Loader} (owned : Owned before) (done : before.execute event = .ok after) : Owned after := by
  cases event with
  | request =>
    cases done
    exact request_owned owned
  | register =>
    obtain ⟨member, rfl⟩ := guarded_ok done
    exact register_owned owned (by simpa using member)
  | enqueue =>
    obtain ⟨member, rfl⟩ := guarded_ok done
    exact enqueue_owned owned (by simpa using member)
  | rollBack =>
    obtain ⟨member, rfl⟩ := guarded_ok done
    exact rollBack_owned owned (by simpa using member)
  | setCancelled =>
    cases done
    exact owned
  | dropCancelled key =>
    cases done
    exact dropCancelled_owned owned key
  | prioritizeKeys keys =>
    cases done
    exact prioritizeKeys_owned owned keys
  | pullBatch page capacity =>
    cases done
    exact pullBatch_owned owned page capacity
  | discard | deliver =>
    obtain ⟨_, rfl⟩ := guarded_ok done
    exact owned
  | pop item =>
    obtain ⟨picked, rfl⟩ := guarded_ok done
    have current := (Bool.and_eq_true_iff.mp picked).2
    exact pop_owned owned item (queued_of_fresh item (by simpa using current))
  | finish item thumb =>
    obtain ⟨works, rfl⟩ := guarded_ok done
    exact finish_owned owned item (by simpa using works) thumb
  | fail item =>
    obtain ⟨works, rfl⟩ := guarded_ok done
    exact fail_owned owned item (by simpa using works)

theorem generating_nodup (owned : Owned loader) : (loader.generating.map PriItem.cacheKey).Nodup := by
  refine nodup_iff_count_le_one.mpr (fun key => ?_)
  have own := owned key
  unfold owners at own
  rw [count_eq_countP, countP_map]
  change loader.generating.countP (fun item => item.cacheKey == key) ≤ 1
  split at own
  · split at own
    · omega
    · omega
  · split at own
    · omega
    · omega

theorem owner_of_flying (owned : Owned loader) (key : String) (flying : key ∈ loader.inFlight) :
    key ∈ loader.queued ∨ (∃ item ∈ loader.generating, item.cacheKey = key) ∨
      ∃ requester ∈ loader.requesters, requester.phase ≠ .checked ∧ requester.request.cacheKey = key := by
  have own := owned key
  unfold owners at own
  rw [if_pos flying] at own
  by_cases waits : key ∈ loader.queued
  · exact .inl waits
  · rw [if_neg waits] at own
    rcases Nat.eq_zero_or_pos (loader.generating.countP (fun item => item.cacheKey == key)) with none | some
    · obtain ⟨requester, member, enqueuing⟩ := countP_pos_iff.mp (show 0 < loader.requesters.countP (isEnqueuing key) by omega)
      simp only [isEnqueuing, Bool.and_eq_true, bne_iff_ne, beq_iff_eq] at enqueuing
      exact .inr (.inr ⟨requester, member, enqueuing⟩)
    · obtain ⟨item, member, works⟩ := countP_pos_iff.mp some
      exact .inr (.inl ⟨item, member, beq_iff_eq.mp works⟩)

end Owners

section Waiters

def Waits (loader : Loader) (key : String) (waiter : ThumbnailWaiter) : Prop :=
  ∃ waiters, loader.inFlight.lookup key = some waiters ∧ waiter ∈ waiters

-- A waiter stays with its key until the worker has the thumbnail, and is given
-- up only if its cell is gone, the worker fails or the queue is full.
def Kept (before : Loader) (event : Event) (after : Loader) (key : String) (waiter : ThumbnailWaiter) : Prop :=
  Waits after key waiter ∨ (∃ item thumb, event = .finish item thumb ∧ item.cacheKey = key ∧
      ∃ delivery ∈ after.delivering, delivery.1 = thumb ∧ waiter ∈ delivery.2) ∨
    (waiter.reply ∈ after.dropped ∧ (before.isCancelled waiter = true ∨
      (∃ item, event = .fail item ∧ item.cacheKey = key) ∨ ∃ request, event = .rollBack request ∧ request.cacheKey = key))

def Accounted (loader : Loader) (reply : Nat) : Prop :=
  (∃ request, ⟨.checked, request⟩ ∈ loader.requesters ∧ request.waiter.reply = reply) ∨
    (∃ key waiter, Waits loader key waiter ∧ waiter.reply = reply) ∨
    (∃ delivery ∈ loader.delivering, reply ∈ replies delivery.2) ∨
    (∃ thumb, (reply, thumb) ∈ loader.answered) ∨ reply ∈ loader.dropped

variable {loader : Loader} {key : String} {waiter : ThumbnailWaiter}

theorem Waits.same (waits : Waits loader key waiter) (same : after.inFlight = loader.inFlight) : Waits after key waiter := by
  unfold Waits
  rw [same]
  exact waits

theorem Waits.insert {fresh : String} {waiters : List ThumbnailWaiter} (waits : Waits loader key waiter)
    (absent : fresh ∉ loader.inFlight) (inserted : after.inFlight = loader.inFlight.insert fresh waiters) :
    Waits after key waiter := by
  obtain ⟨others, found, member⟩ := waits
  have differ : key ≠ fresh := by
    rintro rfl
    exact absent (mem_of_lookup found)
  refine ⟨others, ?_, member⟩
  rw [inserted, AList.lookup_insert_ne differ]
  exact found

theorem Waits.erase {gone : String} (waits : Waits loader key waiter) (differ : key ≠ gone)
    (erased : after.inFlight = loader.inFlight.erase gone) : Waits after key waiter := by
  obtain ⟨others, found, member⟩ := waits
  refine ⟨others, ?_, member⟩
  rw [erased, AList.lookup_erase_ne differ]
  exact found

theorem prioritizeKeys_frame (keys : List String) :
    ∃ heap queued seq, loader.prioritizeKeys keys = { loader with heap := heap, queued := queued, seq := seq } := by
  unfold prioritizeKeys
  induction keys generalizing loader with
  | nil => exact ⟨loader.heap, loader.queued, loader.seq, rfl⟩
  | cons key rest ih =>
    have once : ∃ heap queued seq, loader.prioritizeKey key = { loader with heap := heap, queued := queued, seq := seq } := by
      unfold prioritizeKey
      split
      · exact ⟨loader.heap, loader.queued, loader.seq, rfl⟩
      · split
        · exact ⟨loader.heap, loader.queued, loader.seq, rfl⟩
        · exact ⟨_, _, _, rfl⟩
    rw [foldl_cons]
    generalize loader.prioritizeKey key = next at once
    obtain ⟨_, _, _, rfl⟩ := once
    exact ih

-- Pulling adds keys, takes nothing out of flight and touches no reply.
def PulledFrom (loader after : Loader) : Prop := (∃ inFlight heap queued generating, after =
    { loader with inFlight := inFlight, heap := heap, queued := queued, generating := generating }) ∧
    ∀ key waiter, Waits loader key waiter → Waits after key waiter

theorem pullItem_from (capacity : Nat) (loader : Loader) (taken : Bool) (row : String × Parameters) :
    PulledFrom loader (pullItem capacity (loader, taken) row).1 := by
  unfold pullItem
  dsimp only
  split
  · exact ⟨⟨_, _, _, _, rfl⟩, fun _ _ waits => waits⟩
  · next absent =>
    have absent := (not_or.mp absent).1
    split
    · exact ⟨⟨_, _, _, _, rfl⟩, fun _ _ waits => waits.insert absent rfl⟩
    · split
      · exact ⟨⟨_, _, _, _, rfl⟩, fun _ _ waits => waits.insert absent rfl⟩
      · exact ⟨⟨_, _, _, _, rfl⟩, fun _ _ waits => waits⟩

theorem pullBatch_from (page : List (String × Parameters)) (capacity : Nat) :
    PulledFrom loader (loader.pullBatchAndEnqueue page capacity) := by
  unfold pullBatchAndEnqueue
  generalize false = taken
  induction page generalizing loader taken with
  | nil => exact ⟨⟨_, _, _, _, rfl⟩, fun _ _ waits => waits⟩
  | cons row rest ih =>
    have once := pullItem_from capacity loader taken row
    rw [foldl_cons]
    generalize pullItem capacity (loader, taken) row = pulled at once
    obtain ⟨next, more⟩ := pulled
    obtain ⟨⟨_, _, _, _, rfl⟩, kept⟩ := once
    obtain ⟨⟨inFlight, heap, queued, generating, later⟩, still⟩ := ih more
    exact ⟨⟨inFlight, heap, queued, generating, later⟩, fun key waiter waits => still key waiter (kept key waiter waits)⟩

theorem request_kept (arrived : ThumbnailWaiter) (cacheKey : Option String) (tier : Nat) (parameters : Parameters)
    (waits : Waits loader key waiter) : Waits (loader.request arrived cacheKey tier parameters) key waiter := by
  refine waits.same ?_
  unfold request
  dsimp only
  split
  · rfl
  · split
    · rfl
    · rfl

theorem register_kept (request : Request) (waits : Waits loader key waiter) : Waits (loader.register request) key waiter := by
  have waits : Waits (loader.withoutRequester ⟨.checked, request⟩) key waiter := waits
  unfold register
  dsimp only
  generalize loader.withoutRequester ⟨.checked, request⟩ = loader at waits
  split
  · next thumb next hit =>
    obtain ⟨mem, prewarm, rfl⟩ := loadMemCached_frame hit
    exact waits
  · split
    · next others joined =>
      obtain ⟨waiters, found, member⟩ := waits
      by_cases same : key = request.cacheKey
      · subst same
        cases joined.symm.trans found
        exact ⟨_, AList.lookup_insert _, mem_append_left _ member⟩
      · exact ⟨waiters, by rw [AList.lookup_insert_ne same]; exact found, member⟩
    · next missing => exact waits.insert (AList.lookup_eq_none.mp missing) rfl

theorem enqueue_kept (request : Request) (waits : Waits loader key waiter) : Waits (loader.enqueue request) key waiter := by
  refine waits.same ?_
  unfold enqueue
  dsimp only
  split
  · rfl
  · rfl

theorem dropInFlight_kept (gone : String) (waits : Waits loader key waiter) :
    Waits (loader.dropInFlight gone) key waiter ∨ (key = gone ∧ waiter.reply ∈ (loader.dropInFlight gone).dropped) := by
  by_cases same : key = gone
  · obtain ⟨waiters, found, member⟩ := waits
    subst same
    refine .inr ⟨rfl, mem_append_right _ ?_⟩
    show waiter.reply ∈ replies ((loader.inFlight.lookup key).getD [])
    rw [found]
    exact mem_map_of_mem member
  · exact .inl (waits.erase same rfl)

theorem dropCancelled_kept (given : String) (waits : Waits loader key waiter) : Waits (loader.dropCancelled given) key waiter ∨
      (waiter.reply ∈ (loader.dropCancelled given).dropped ∧ loader.isCancelled waiter = true) := by
  unfold dropCancelled
  split
  · exact .inl waits
  · next others joined =>
    obtain ⟨waiters, found, member⟩ := waits
    by_cases same : key = given
    · subst same
      cases joined.symm.trans found
      cases cancelled : loader.isCancelled waiter with
      | true =>
        refine .inr ⟨?_, rfl⟩
        have given : waiter.reply ∈ replies (others.filter loader.isCancelled) := mem_map_of_mem (mem_filter.mpr ⟨member, cancelled⟩)
        dsimp only
        split
        · exact mem_append_right _ given
        · split
          · exact mem_append_right _ given
          · exact mem_append_right _ given
      | false =>
        have lives : waiter ∈ others.filter (fun waiter => !loader.isCancelled waiter) := mem_filter.mpr ⟨member, by rw [cancelled]; rfl⟩
        have some : (!(others.filter (fun waiter => !loader.isCancelled waiter)).isEmpty) = true := by
          cases filtered : others.filter (fun waiter => !loader.isCancelled waiter) with
          | nil =>
            rw [filtered] at lives
            cases lives
          | cons => rfl
        left
        rw [if_pos some]
        exact ⟨_, AList.lookup_insert _, lives⟩
    · left
      dsimp only
      have elsewhere : (loader.inFlight.insert given (others.filter (fun waiter => !loader.isCancelled waiter))).lookup key =
          some waiters := by
        rw [AList.lookup_insert_ne same]
        exact found
      split
      · exact ⟨waiters, elsewhere, member⟩
      · split
        · refine ⟨waiters, ?_, member⟩
          show (AList.erase given (loader.inFlight.insert given _)).lookup key = some waiters
          rw [AList.lookup_erase_ne same]
          exact elsewhere
        · exact ⟨waiters, elsewhere, member⟩

theorem finish_kept (item : PriItem) (thumb : LoadedThumb) (waits : Waits loader key waiter) :
    Waits (loader.finish item thumb) key waiter ∨ (item.cacheKey = key ∧
      ∃ delivery ∈ (loader.finish item thumb).delivering, delivery.1 = thumb ∧ waiter ∈ delivery.2) := by
  by_cases same : key = item.cacheKey
  · obtain ⟨waiters, found, member⟩ := waits
    subst same
    refine .inr ⟨rfl, (thumb, waiters), ?_, rfl, member⟩
    unfold finish takeWaiters
    dsimp only
    split
    · rw [found]
      exact mem_cons_self
    · rw [found]
      exact mem_cons_self
  · refine .inl (waits.erase same ?_)
    unfold finish takeWaiters
    split
    · rfl
    · rfl

theorem execute_kept (done : loader.execute event = .ok after) (waits : Waits loader key waiter) :
    Kept loader event after key waiter := by
  cases event with
  | request arrived cacheKey tier parameters =>
    cases done
    exact .inl (request_kept arrived cacheKey tier parameters waits)
  | register request =>
    obtain ⟨_, rfl⟩ := guarded_ok done
    exact .inl (register_kept request waits)
  | enqueue request =>
    obtain ⟨_, rfl⟩ := guarded_ok done
    exact .inl (enqueue_kept request waits)
  | rollBack request =>
    obtain ⟨_, rfl⟩ := guarded_ok done
    have waits : Waits (loader.withoutRequester ⟨.refused, request⟩) key waiter := waits
    rcases dropInFlight_kept request.cacheKey waits with still | ⟨rfl, gone⟩
    · exact .inl still
    · exact .inr (.inr ⟨gone, .inr (.inr ⟨request, rfl, rfl⟩)⟩)
  | setCancelled =>
    cases done
    exact .inl waits
  | dropCancelled given =>
    cases done
    rcases dropCancelled_kept given waits with still | ⟨gone, cancelled⟩
    · exact .inl still
    · exact .inr (.inr ⟨gone, .inl cancelled⟩)
  | prioritizeKeys keys =>
    cases done
    obtain ⟨heap, queued, seq, framed⟩ := loader.prioritizeKeys_frame keys
    exact .inl (waits.same (by rw [framed]))
  | pullBatch page capacity =>
    cases done
    exact .inl ((pullBatch_from page capacity).2 key waiter waits)
  | discard | pop | deliver =>
    obtain ⟨_, rfl⟩ := guarded_ok done
    exact .inl waits
  | finish item thumb =>
    obtain ⟨_, rfl⟩ := guarded_ok done
    rcases finish_kept item thumb waits with still | ⟨same, handed⟩
    · exact .inl still
    · exact .inr (.inl ⟨item, thumb, rfl, same, handed⟩)
  | fail item =>
    obtain ⟨_, rfl⟩ := guarded_ok done
    have waits : Waits { loader with generating := loader.generating.erase item } key waiter := waits
    rcases dropInFlight_kept item.cacheKey waits with still | ⟨rfl, gone⟩
    · exact .inl still
    · exact .inr (.inr ⟨gone, .inr (.inl ⟨item, rfl, rfl⟩)⟩)

theorem deliver_settles (loader : Loader) {delivery : LoadedThumb × List ThumbnailWaiter} (member : waiter ∈ delivery.2) :
    if loader.isCancelled waiter then waiter.reply ∈ (loader.deliver delivery).dropped
    else (waiter.reply, delivery.1) ∈ (loader.deliver delivery).answered := by
  split
  · next cancelled =>
    exact mem_append_right _ (mem_map_of_mem (mem_filter.mpr ⟨member, cancelled⟩))
  · next lives =>
    refine mem_append_right _ (mem_map.mpr ⟨waiter, mem_filter.mpr ⟨member, ?_⟩, rfl⟩)
    rw [Bool.eq_false_iff.mpr lives]
    rfl

-- What every step leaves to the replies: answers and drops stay, only its own
-- delivery takes waiters from a worker, and a new reply has its place.
structure Grows (loader : Loader) (event : Event) (after : Loader) : Prop where
  answers : loader.answered ⊆ after.answered
  drops : loader.dropped ⊆ after.dropped
  deliveries : ∀ delivery ∈ loader.delivering, event = .deliver delivery ∨ delivery ∈ after.delivering
  issues : ∀ reply ∈ after.issued, reply ∈ loader.issued ∨ Accounted after reply

structure Proceeds (loader : Loader) (event : Event) (after : Loader) : Prop extends Grows loader event after where
  callers : ∀ request, ⟨.checked, request⟩ ∈ loader.requesters → ⟨.checked, request⟩ ∈ after.requesters ∨ event = .register request

theorem Proceeds.unchanged (answered : after.answered = loader.answered) (drops : loader.dropped ⊆ after.dropped)
    (delivering : after.delivering = loader.delivering) (issued : after.issued = loader.issued)
    (callers : ∀ request, ⟨.checked, request⟩ ∈ loader.requesters → ⟨.checked, request⟩ ∈ after.requesters) :
    Proceeds loader event after where
  answers := by
    rw [answered]
    exact fun _ => id
  drops := drops
  deliveries := by
    rw [delivering]
    exact fun _ => .inr
  issues := by
    rw [issued]
    exact fun _ => .inl
  callers request member := .inl (callers request member)

theorem execute_proceeds (done : loader.execute event = .ok after) : Proceeds loader event after := by
  cases event with
  | request arrived cacheKey tier parameters =>
    cases done
    have left : Proceeds loader (.request arrived cacheKey tier parameters)
        ({ loader with issued := arrived.reply :: loader.issued }.drop [arrived]) := by
      refine ⟨⟨fun _ => id, subset_append_left _ _, fun _ => .inr, fun reply issued => ?_⟩, fun _ => .inl⟩
      rcases mem_cons.mp issued with rfl | old
      · exact .inr (.inr (.inr (.inr (.inr (mem_append_right _ mem_cons_self)))))
      · exact .inl old
    unfold request
    dsimp only
    split
    · exact left
    · split
      · exact left
      · refine ⟨⟨fun _ => id, fun _ => id, fun _ => .inr, fun reply issued => ?_⟩, fun _ member => .inl (mem_cons_of_mem _ member)⟩
        rcases mem_cons.mp issued with rfl | old
        · exact .inr (.inl ⟨_, mem_cons_self, rfl⟩)
        · exact .inl old
  | register other =>
    obtain ⟨_, rfl⟩ := guarded_ok done
    have callers : ∀ request, ⟨.checked, request⟩ ∈ loader.requesters →
        ⟨.checked, request⟩ ∈ loader.requesters.erase ⟨.checked, other⟩ ∨ Event.register other = .register request := by
      intro request member
      by_cases same : request = other
      · exact .inr (by rw [same])
      · exact .inl ((mem_erase_of_ne (fun equal => same (Requester.mk.inj equal).2)).mpr member)
    unfold register withoutRequester
    dsimp only
    split
    · next thumb next hit =>
      obtain ⟨mem, prewarm, rfl⟩ := loadMemCached_frame hit
      exact ⟨⟨subset_append_left _ _, fun _ => id, fun _ => .inr, fun _ => .inl⟩, callers⟩
    · split
      · exact ⟨⟨fun _ => id, fun _ => id, fun _ => .inr, fun _ => .inl⟩, callers⟩
      · exact ⟨⟨fun _ => id, fun _ => id, fun _ => .inr, fun _ => .inl⟩,           fun request member => (callers request member).imp_left (mem_cons_of_mem _)⟩
  | enqueue other =>
    obtain ⟨_, rfl⟩ := guarded_ok done
    have kept : ∀ request, ⟨.checked, request⟩ ∈ loader.requesters →
        ⟨.checked, request⟩ ∈ loader.requesters.erase ⟨.registered, other⟩ :=
      fun request member => (mem_erase_of_ne (by simp)).mpr member
    unfold enqueue withoutRequester
    dsimp only
    split
    · exact .unchanged rfl (fun _ => id) rfl rfl (fun request member => mem_cons_of_mem _ (kept request member))
    · exact .unchanged rfl (fun _ => id) rfl rfl kept
  | rollBack =>
    obtain ⟨_, rfl⟩ := guarded_ok done
    exact .unchanged rfl (subset_append_left _ _) rfl rfl (fun request member => (mem_erase_of_ne (by simp)).mpr member)
  | setCancelled =>
    cases done
    exact .unchanged rfl (fun _ => id) rfl rfl (fun _ => id)
  | dropCancelled =>
    cases done
    unfold dropCancelled
    split
    · exact .unchanged rfl (fun _ => id) rfl rfl (fun _ => id)
    · dsimp only
      split
      · exact .unchanged rfl (subset_append_left _ _) rfl rfl (fun _ => id)
      · split
        · exact .unchanged rfl (subset_append_left _ _) rfl rfl (fun _ => id)
        · exact .unchanged rfl (subset_append_left _ _) rfl rfl (fun _ => id)
  | prioritizeKeys keys =>
    cases done
    obtain ⟨heap, queued, seq, framed⟩ := loader.prioritizeKeys_frame keys
    rw [framed]
    exact .unchanged rfl (fun _ => id) rfl rfl (fun _ => id)
  | pullBatch page capacity =>
    cases done
    obtain ⟨⟨inFlight, heap, queued, generating, framed⟩, _⟩ := loader.pullBatch_from page capacity
    rw [framed]
    exact .unchanged rfl (fun _ => id) rfl rfl (fun _ => id)
  | discard | pop =>
    obtain ⟨_, rfl⟩ := guarded_ok done
    exact .unchanged rfl (fun _ => id) rfl rfl (fun _ => id)
  | finish =>
    obtain ⟨_, rfl⟩ := guarded_ok done
    unfold finish takeWaiters
    split <;> exact ⟨⟨fun _ => id, fun _ => id, fun _ member => .inr (mem_cons_of_mem _ member), fun _ => .inl⟩, fun _ => .inl⟩
  | fail =>
    obtain ⟨_, rfl⟩ := guarded_ok done
    exact .unchanged rfl (subset_append_left _ _) rfl rfl (fun _ => id)
  | deliver delivery =>
    obtain ⟨_, rfl⟩ := guarded_ok done
    refine ⟨⟨subset_append_left _ _, subset_append_left _ _, fun other member => ?_, fun _ => .inl⟩, fun _ => .inl⟩
    by_cases same : other = delivery
    · exact .inl (by rw [same])
    · exact .inr ((mem_erase_of_ne same).mpr member)

theorem register_accounted (loader : Loader) (request : Request) : Accounted (loader.register request) request.waiter.reply := by
  unfold register withoutRequester
  dsimp only
  split
  · next thumb next hit => exact .inr (.inr (.inr (.inl ⟨thumb, mem_append_right _ mem_cons_self⟩)))
  · split
    · exact .inr (.inl ⟨request.cacheKey, request.waiter, ⟨_, AList.lookup_insert _, mem_append_right _ mem_cons_self⟩, rfl⟩)
    · exact .inr (.inl ⟨request.cacheKey, request.waiter, ⟨_, AList.lookup_insert _, mem_cons_self⟩, rfl⟩)

theorem execute_accounted (done : loader.execute event = .ok after) {reply : Nat} (accounted : Accounted loader reply) :
    Accounted after reply := by
  obtain ⟨⟨answers, drops, deliveries, _⟩, callers⟩ := execute_proceeds done
  rcases accounted with ⟨request, member, rfl⟩ | ⟨key, waiter, waits, rfl⟩ | ⟨delivery, member, waiting⟩ | ⟨thumb, given⟩ | gone
  · rcases callers request member with still | rfl
    · exact .inl ⟨request, still, rfl⟩
    · obtain ⟨_, rfl⟩ := guarded_ok done
      exact register_accounted loader request
  · rcases execute_kept done waits with still | ⟨_, _, _, _, delivery, handed, _, member⟩ | ⟨gone, _⟩
    · exact .inr (.inl ⟨key, waiter, still, rfl⟩)
    · exact .inr (.inr (.inl ⟨delivery, handed, mem_map_of_mem member⟩))
    · exact .inr (.inr (.inr (.inr gone)))
  · rcases deliveries delivery member with rfl | still
    · obtain ⟨_, rfl⟩ := guarded_ok done
      obtain ⟨waiter, among, rfl⟩ := mem_map.mp waiting
      have settled := deliver_settles loader among
      split at settled
      · exact .inr (.inr (.inr (.inr settled)))
      · exact .inr (.inr (.inr (.inl ⟨_, settled⟩)))
    · exact .inr (.inr (.inl ⟨delivery, still, waiting⟩))
  · exact .inr (.inr (.inr (.inl ⟨thumb, answers given⟩)))
  · exact .inr (.inr (.inr (.inr (drops gone))))

end Waiters

end Loader
end PhotoSync.Thumbnails
