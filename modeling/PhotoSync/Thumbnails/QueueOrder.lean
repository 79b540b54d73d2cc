import PhotoSync.Thumbnails.SingleFlight

set_option autoImplicit false

namespace PhotoSync.Thumbnails.Loader
open Transaction List

-- The keys in the order in which requests and promotions entered them into the queue, the latest first.
abbrev Entered := List String

def promotable (loader : Loader) (key : String) : Bool := (loader.queued.lookup key).any (fun entry => entry.tier != tierBoost)

def promote (now : Loader × Entered) (key : String) : Loader × Entered :=
  (now.1.prioritizeKey key, if now.1.promotable key then key :: now.2 else now.2)

def full (loader : Loader) : Bool := decide (loader.queueCapacity ≤ loader.queued.entries.length)

def entered (loader : Loader) (log : Entered) : Event → Entered
  | .enqueue request => if loader.full then log else request.cacheKey :: log
  | .prioritizeKeys keys => (keys.foldl promote (loader, log)).2
  | _ => log

def watch (now : Loader × Entered) (event : Event) : Except Unit (Loader × Entered) :=
  (now.1.execute event).map (fun after => (after, now.1.entered now.2 event))

def lingers (loader : Loader) (key : String) (tier : Nat) : Bool :=
  loader.heap.any (fun item => item.cacheKey == key && item.tier == tier)

-- Nothing enters the queue in a tier where an item of its key lingers.
def entersAlone (now : Loader × Entered) : Event → Bool
  | .enqueue request => now.1.full || !now.1.lingers request.cacheKey request.tier
  | .prioritizeKeys keys => keys.all (fun key => !now.1.promotable key || !now.1.lingers key tierBoost)
  | .pullBatch page _ => page.all (fun row =>
    decide (row.1 ∈ now.1.inFlight) || decide (row.1 ∈ now.1.queued) || !now.1.lingers row.1 tierBackground)
  | _ => true

-- An item that passes for its key's entry carries the entry's parameters and
-- the number of its entering; every queued key has such an item.
structure Ordered (loader : Loader) (log : Entered) : Prop where
  live : ∀ item ∈ loader.heap, ∀ entry, loader.queued.lookup item.cacheKey = some entry → entry.tier = item.tier →
    item.parameters = entry.parameters ∧ (item.tier ≠ tierBackground → item.seq + log.idxOf item.cacheKey = loader.seq)
  held : ∀ key entry, loader.queued.lookup key = some entry → ∃ item ∈ loader.heap, item.cacheKey = key ∧ item.tier = entry.tier

section Steps
variable {loader after : Loader} {log : Entered}

theorem lingers_false {key : String} {tier : Nat} :
    loader.lingers key tier = false ↔ ∀ item ∈ loader.heap, item.cacheKey = key → item.tier ≠ tier := by
  simp [lingers]

theorem Ordered.enter {item : PriItem} {later : Entered} (ordered : Ordered loader log)
    (alone : loader.lingers item.cacheKey item.tier = false) (heap : after.heap = item :: loader.heap)
    (queued : after.queued = loader.queued.insert item.cacheKey ⟨item.tier, item.parameters⟩)
    (numbered : item.tier ≠ tierBackground → item.seq + later.idxOf item.cacheKey = after.seq)
    (others : ∀ key number, key ≠ item.cacheKey → number + log.idxOf key = loader.seq →
      number + later.idxOf key = after.seq) : Ordered after later := by
  rw [lingers_false] at alone
  constructor
  · intro other member entry found same
    rw [heap] at member
    rw [queued] at found
    by_cases own : other.cacheKey = item.cacheKey
    · rw [own, AList.lookup_insert] at found
      cases found
      rcases mem_cons.mp member with rfl | old
      · exact ⟨rfl, numbered⟩
      · exact absurd same.symm (alone other old own)
    · rw [AList.lookup_insert_ne own] at found
      rcases mem_cons.mp member with rfl | old
      · exact absurd rfl own
      · obtain ⟨alike, before⟩ := ordered.live other old entry found same
        exact ⟨alike, fun front => others _ _ own (before front)⟩
  · intro key entry found
    rw [heap]
    rw [queued] at found
    by_cases own : key = item.cacheKey
    · rw [own, AList.lookup_insert] at found
      cases found
      exact ⟨item, mem_cons_self, own.symm, rfl⟩
    · rw [AList.lookup_insert_ne own] at found
      obtain ⟨other, member, named⟩ := ordered.held key entry found
      exact ⟨other, mem_cons_of_mem _ member, named⟩

theorem Ordered.leave (ordered : Ordered loader log) (heap : ∀ item ∈ after.heap, item ∈ loader.heap)
    (queued : ∀ key entry, after.queued.lookup key = some entry → loader.queued.lookup key = some entry)
    (kept : ∀ item ∈ loader.heap, ∀ entry, after.queued.lookup item.cacheKey = some entry → item.tier = entry.tier →
      item ∈ after.heap) (seq : after.seq = loader.seq) : Ordered after log := by
  constructor
  · intro item member entry found same
    rw [seq]
    exact ordered.live item (heap item member) entry (queued _ _ found) same
  · intro key entry found
    obtain ⟨item, member, rfl, tier⟩ := ordered.held key entry (queued key entry found)
    exact ⟨item, kept item member entry found tier, rfl, tier⟩

theorem Ordered.same (ordered : Ordered loader log) (heap : after.heap = loader.heap)
    (queued : after.queued = loader.queued) (seq : after.seq = loader.seq) : Ordered after log :=
  ordered.leave (fun _ member => heap ▸ member) (fun _ _ found => queued ▸ found) (fun _ member _ _ _ => heap ▸ member) seq

theorem Ordered.erase {item : PriItem} (ordered : Ordered loader log) (heap : after.heap = loader.heap.erase item)
    (queued : ∀ key entry, after.queued.lookup key = some entry → loader.queued.lookup key = some entry)
    (gone : ∀ entry, after.queued.lookup item.cacheKey = some entry → item.tier ≠ entry.tier)
    (seq : after.seq = loader.seq) : Ordered after log := by
  refine ordered.leave (fun other member => mem_of_mem_erase (heap ▸ member)) queued (fun other member entry found tier => ?_) seq
  rw [heap]
  refine (mem_erase_of_ne ?_).mpr member
  rintro rfl
  exact gone entry found tier

theorem lookup_erase_some {key other : String} {entry : QueuedEntry} (found : (loader.queued.erase key).lookup other = some entry) :
    other ≠ key ∧ loader.queued.lookup other = some entry := by
  by_cases own : other = key
  · rw [own, AList.lookup_erase] at found
    cases found
  · rw [AList.lookup_erase_ne own] at found
    exact ⟨own, found⟩

theorem Ordered.promote {key : String} (ordered : Ordered loader log)
    (alone : loader.promotable key = true → loader.lingers key tierBoost = false) :
    Ordered (promote (loader, log) key).1 (promote (loader, log) key).2 := by
  unfold Loader.promote prioritizeKey
  unfold promotable at alone ⊢
  dsimp only
  cases found : loader.queued.lookup key with
  | none => exact ordered
  | some entry =>
    rw [found] at alone
    dsimp only [Option.any_some] at alone ⊢
    by_cases boosted : entry.tier = tierBoost
    · simpa [boosted] using ordered
    · have waits : (entry.tier != tierBoost) = true := bne_iff_ne.mpr boosted
      rw [if_neg (by simpa using boosted), if_pos waits]
      refine ordered.enter (alone waits) rfl rfl (fun _ => by simp) (fun other number apart sum => ?_)
      rw [idxOf_cons_ne _ (Ne.symm apart)]
      dsimp only
      omega

theorem promotable_after {key other : String} (promotable : (loader.prioritizeKey key).promotable other = true) :
    loader.promotable other = true ∧ (loader.prioritizeKey key).lingers other tierBoost = loader.lingers other tierBoost := by
  unfold prioritizeKey at promotable ⊢
  cases found : loader.queued.lookup key with
  | none =>
    rw [found] at promotable
    exact ⟨promotable, rfl⟩
  | some =>
    rw [found] at promotable
    dsimp only at promotable ⊢
    split at promotable
    · next boosted =>
      rw [if_pos boosted]
      exact ⟨promotable, rfl⟩
    · next waits =>
      rw [if_neg waits]
      by_cases own : other = key
      · rw [own, Loader.promotable, AList.lookup_insert] at promotable
        cases promotable
      · refine ⟨by simpa [Loader.promotable, AList.lookup_insert_ne own] using promotable, ?_⟩
        simp [lingers, Ne.symm own]

theorem Ordered.promotes (keys : List String) (ordered : Ordered loader log)
    (alone : ∀ key ∈ keys, loader.promotable key = true → loader.lingers key tierBoost = false) :
    Ordered (keys.foldl Loader.promote (loader, log)).1 (keys.foldl Loader.promote (loader, log)).2 := by
  induction keys generalizing loader log with
  | nil => exact ordered
  | cons key rest ih =>
    refine ih (ordered.promote (alone key mem_cons_self)) (fun other member promotable => ?_)
    obtain ⟨before, same⟩ := promotable_after promotable
    exact same.trans (alone other (mem_cons_of_mem _ member) before)

theorem foldl_promote_fst (keys : List String) (now : Loader × Entered) :
    (keys.foldl Loader.promote now).1 = now.1.prioritizeKeys keys := by
  induction keys generalizing now with
  | nil => rfl
  | cons key rest ih => exact ih _

-- A row that is new to the loader finds no item of its key.
def Welcome (loader : Loader) (row : String × Parameters) : Prop :=
  row.1 ∉ loader.inFlight → row.1 ∉ loader.queued → loader.lingers row.1 tierBackground = false

theorem Ordered.pull {capacity : Nat} {taken : Bool} {row other : String × Parameters} (ordered : Ordered loader log)
    (welcome : Welcome loader row) (next : Welcome loader other) :
    Ordered (pullItem capacity (loader, taken) row).1 log ∧ Welcome (pullItem capacity (loader, taken) row).1 other := by
  unfold pullItem
  dsimp only
  split
  · exact ⟨ordered, next⟩
  · next new =>
    rw [not_or] at new
    split
    · exact ⟨ordered.same rfl rfl rfl, fun absent => next (fun there => absent (AList.mem_insert _ |>.mpr (.inr there)))⟩
    · split
      · refine ⟨ordered.enter (welcome new.1 new.2) rfl rfl (fun front => absurd rfl front) (fun _ _ _ sum => sum),
          fun absent free => ?_⟩
        rw [AList.mem_insert, not_or] at absent free
        have before := next absent.2 free.2
        simpa [lingers, Ne.symm absent.1] using before
      · exact ⟨ordered, next⟩

theorem Ordered.pulls {capacity : Nat} (page : List (String × Parameters)) (pulled : Loader × Bool)
    (ordered : Ordered pulled.1 log) (welcome : ∀ row ∈ page, Welcome pulled.1 row) :
    Ordered (page.foldl (pullItem capacity) pulled).1 log := by
  induction page generalizing pulled with
  | nil => exact ordered
  | cons row rest ih =>
    have first := welcome row mem_cons_self
    exact ih _ (ordered.pull first first).1 (fun other member =>
      (ordered.pull first (welcome other (mem_cons_of_mem _ member))).2)

def SameQueue (loader after : Loader) : Prop := after.heap = loader.heap ∧ after.queued = loader.queued ∧ after.seq = loader.seq

theorem register_queue (request : Request) : SameQueue loader (loader.register request) := by
  unfold register
  dsimp only
  split
  · next found =>
    obtain ⟨mem, prewarm, rfl⟩ := loadMemCached_frame found
    exact ⟨rfl, rfl, rfl⟩
  · split <;> exact ⟨rfl, rfl, rfl⟩

theorem finish_queue (item : PriItem) (thumb : LoadedThumb) : SameQueue loader (loader.finish item thumb) := by
  unfold finish
  dsimp only
  split <;> exact ⟨rfl, rfl, rfl⟩

theorem request_queue (waiter : ThumbnailWaiter) (cacheKey : Option String) (tier : Nat) (parameters : Parameters) :
    SameQueue loader (loader.request waiter cacheKey tier parameters) := by
  unfold request
  dsimp only
  split
  · exact ⟨rfl, rfl, rfl⟩
  · split <;> exact ⟨rfl, rfl, rfl⟩

theorem Ordered.dropCancelled (ordered : Ordered loader log) (key : String) : Ordered (loader.dropCancelled key) log := by
  unfold Loader.dropCancelled
  split
  · exact ordered
  · dsimp only
    split
    · exact ordered.same rfl rfl rfl
    · split
      · exact ordered.leave (fun _ member => member) (fun _ _ found => (lookup_erase_some found).2)
          (fun _ member _ _ _ => member) rfl
      · exact ordered.same rfl rfl rfl

theorem watch_ordered {now next : Loader × Entered} {event : Event} (ordered : Ordered now.1 now.2)
    (alone : entersAlone now event = true) (done : watch now event = .ok next) : Ordered next.1 next.2 := by
  obtain ⟨loader, log⟩ := now
  have quiet : ∀ after, SameQueue loader after → Ordered after log := fun _ same => ordered.same same.1 same.2.1 same.2.2
  unfold watch at done
  dsimp only at done ordered
  cases executed : loader.execute event with
  | error =>
    rw [executed] at done
    cases done
  | ok =>
    rw [executed] at done
    cases done
    cases event with
    | request waiter cacheKey tier parameters =>
      cases executed
      exact quiet _ (request_queue waiter cacheKey tier parameters)
    | register request =>
      obtain ⟨_, rfl⟩ := guarded_ok executed
      exact quiet _ (register_queue request)
    | enqueue request =>
      obtain ⟨_, rfl⟩ := guarded_ok executed
      unfold Loader.enqueue entered full withoutRequester
      dsimp only
      by_cases room : loader.queueCapacity ≤ loader.queued.entries.length
      · rw [if_pos room, if_pos (decide_eq_true room)]
        exact quiet _ ⟨rfl, rfl, rfl⟩
      · rw [if_neg room, if_neg (by simpa using room)]
        have fresh : loader.lingers request.cacheKey request.tier = false := by simpa [entersAlone, full, room] using alone
        refine ordered.enter fresh rfl rfl (fun _ => by simp) (fun other number apart sum => ?_)
        rw [idxOf_cons_ne _ (Ne.symm apart)]
        dsimp only
        omega
    | rollBack | fail | deliver =>
      obtain ⟨_, rfl⟩ := guarded_ok executed
      exact quiet _ ⟨rfl, rfl, rfl⟩
    | setCancelled =>
      cases executed
      exact quiet _ ⟨rfl, rfl, rfl⟩
    | dropCancelled key =>
      cases executed
      exact ordered.dropCancelled key
    | prioritizeKeys keys =>
      cases executed
      have promoted := ordered.promotes keys (fun key member promotable => by
        simpa [promotable] using all_eq_true.mp alone key member)
      rw [foldl_promote_fst] at promoted
      exact promoted
    | pullBatch page =>
      cases executed
      refine ordered.pulls page (loader, false) (fun row member absent free => ?_)
      simpa [absent, free] using all_eq_true.mp alone row member
    | discard item =>
      obtain ⟨enabled, rfl⟩ := guarded_ok executed
      refine ordered.erase rfl (fun _ _ found => found) (fun entry found tier => ?_) rfl
      have found : loader.queued.lookup item.cacheKey = some entry := found
      have stale := ((Bool.and_eq_true _ _).mp enabled).2
      simp [isStale, found, tier] at stale
    | pop =>
      obtain ⟨_, rfl⟩ := guarded_ok executed
      exact ordered.erase rfl (fun _ _ found => (lookup_erase_some found).2)
        (fun _ found => absurd rfl (lookup_erase_some found).1) rfl
    | finish item thumb =>
      obtain ⟨_, rfl⟩ := guarded_ok executed
      exact quiet _ (finish_queue item thumb)

end Steps

theorem idle_ordered (queueCapacity memCacheCap : Nat) : Ordered (idle queueCapacity memCacheCap) [] :=
  ⟨nofun, fun key entry found => by simp [idle] at found⟩

theorem priorityCmp_first {item other : PriItem} (first : other.priorityCmp item ≠ .lt) :
    item.tier ≤ other.tier ∧ (other.tier = item.tier → item.seq ≤ other.seq) := by
  unfold PriItem.priorityCmp at first
  constructor
  · by_contra lower
    rw [Nat.compare_eq_lt.mpr (Nat.lt_of_not_le lower)] at first
    exact first rfl
  · intro same
    by_contra lower
    rw [same, Nat.compare_eq_eq.mpr rfl, Nat.compare_eq_lt.mpr (Nat.lt_of_not_le lower)] at first
    exact first rfl

-- Over every history in which nothing enters beside a lingering item of its key and tier.
theorem pops_follow_the_queue (queueCapacity memCacheCap : Nat) (events : List Event) (item : PriItem) (after : Loader)
    (alone : Meets watch (fun now event => entersAlone now event = true) (idle queueCapacity memCacheCap, []) events) :
    let now := run watch (idle queueCapacity memCacheCap, []) events
    now.1.execute (.pop item) = .ok after → (∃ entry, now.1.queued.lookup item.cacheKey = some entry ∧ entry.tier = item.tier ∧
        entry.parameters = item.parameters) ∧
      ∀ key entry, now.1.queued.lookup key = some entry → item.tier ≤ entry.tier ∧
        (entry.tier = item.tier → item.tier ≠ tierBackground → now.2.idxOf key ≤ now.2.idxOf item.cacheKey) := by
  intro now popped
  have ordered : Ordered now.1 now.2 := run_keeps (fun now => Ordered now.1 now.2)
    (fun _ _ _ ordered alone done => watch_ordered ordered alone done) (idle_ordered _ _) alone
  obtain ⟨enabled, _⟩ := guarded_ok popped
  simp only [isNext, isStale, Bool.and_eq_true, Bool.not_eq_true', bne_eq_false_iff_eq, contains_iff_mem, all_eq_true,
    bne_iff_ne] at enabled
  obtain ⟨⟨member, first⟩, own⟩ := enabled
  obtain ⟨entry, found, tier⟩ := Option.map_eq_some_iff.mp own
  obtain ⟨alike, numbered⟩ := ordered.live item member entry found tier
  refine ⟨⟨entry, found, tier, alike.symm⟩, fun key other there => ?_⟩
  obtain ⟨rival, among, rfl, same⟩ := ordered.held key other there
  obtain ⟨lower, earlier⟩ := priorityCmp_first (first rival among)
  refine ⟨same ▸ lower, fun level front => ?_⟩
  have before := earlier (same.trans level)
  have counted := (ordered.live rival among other there same.symm).2 (by rw [same, level]; exact front)
  have counts := numbered front
  omega

def asked (time : Nat) : Parameters := ⟨"file:///p/a.jpg", .small, none, time, 1⟩

def asking (time : Nat) (key : String) : List Event :=
  let request : Request := ⟨⟨time, some time⟩, key, tierNormal, asked time⟩
  [.request request.waiter (some key) request.tier request.parameters, .register request, .enqueue request]

theorem first_request_is_popped :
    let now := run watch (idle 8 8, []) (asking 1 "k" ++ asking 2 "j")
    ∃ after, now.1.execute (.pop ⟨tierNormal, 1, "k", asked 1⟩) = .ok after ∧ now.2.idxOf "j" ≤ now.2.idxOf "k" :=
  ⟨_, rfl, ((pops_follow_the_queue 8 8 (asking 1 "k" ++ asking 2 "j") ⟨tierNormal, 1, "k", asked 1⟩ _
    ⟨rfl, rfl, rfl, rfl, rfl, rfl, trivial⟩ rfl).2 "j" ⟨tierNormal, asked 2⟩ rfl).2 rfl (by decide)⟩

-- A request is cancelled and made again after another one: the item of the
-- first request passes for it, ahead of the other and with the old parameters.
theorem cancelled_request_is_popped :
    let now := run watch (idle 8 8, []) (asking 1 "k" ++ [.setCancelled 1, .dropCancelled "k"] ++ asking 2 "j" ++ asking 3 "k")
    (∃ after, now.1.execute (.pop ⟨tierNormal, 1, "k", asked 1⟩) = .ok after) ∧
      now.1.queued.lookup "k" = some ⟨tierNormal, asked 3⟩ ∧ now.1.queued.lookup "j" = some ⟨tierNormal, asked 2⟩ ∧
      now.2.idxOf "k" < now.2.idxOf "j" :=
  ⟨⟨_, rfl⟩, rfl, rfl, by decide⟩

end PhotoSync.Thumbnails.Loader
