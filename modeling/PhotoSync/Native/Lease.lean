import Mathlib.Data.List.Basic
import Mathlib.Algebra.Ring.Nat

set_option autoImplicit false

namespace PhotoSync.Lease

-- Instants and durations are nanoseconds of one monotone clock.
abbrev Instant := Nat

abbrev Duration := Nat

def seconds (count : Nat) : Duration := count * 1000000000

def millis (count : Nat) : Duration := count * 1000000

structure LeaseProof where
  leaseId : String
  leaseToken : String
  fencingToken : String
deriving DecidableEq

structure LeaseGrant where
  leaseId : String
  leaseToken : String
  fencingToken : String
  ttlSeconds : Nat
  heartbeatSeconds : Nat
deriving DecidableEq

def LeaseGrant.proof (grant : LeaseGrant) : LeaseProof := ⟨grant.leaseId, grant.leaseToken, grant.fencingToken⟩

-- What the standard library decides: the last instant there is, and the
-- usable window of a granted time to live, a product of floats.
structure Clock where
  last : Instant
  conservative : Nat → Duration

def Clock.checkedAdd (clock : Clock) (instant : Instant) (duration : Duration) : Option Instant :=
  if instant + duration ≤ clock.last then some (instant + duration) else none

inductive LeaseState where
  | held (deadline : Instant)
  | lost
deriving DecidableEq

structure UploadLease where
  proof : LeaseProof
  ttl : Duration
  heartbeat : Duration
  lost : LeaseState
deriving DecidableEq

variable (clock : Clock)

def offered (started : Instant) (ttlSeconds : Nat) : Instant := (clock.checkedAdd started (clock.conservative ttlSeconds)).getD started

def fromGrant (grant : LeaseGrant) (started : Instant) : UploadLease where
  proof := grant.proof
  ttl := seconds grant.ttlSeconds
  heartbeat := max (seconds grant.heartbeatSeconds) (millis 10)
  lost := .held (offered clock started grant.ttlSeconds)

namespace UploadLease

def validNow (lease : UploadLease) (now : Instant) : Bool :=
  match lease.lost with
  | .held deadline => now < deadline
  | .lost => false

def isHeld (lease : UploadLease) (now : Instant) : Bool :=
  match lease.lost with
  | .lost => false
  | .held deadline => now < deadline

def markLost (lease : UploadLease) : UploadLease := { lease with lost := .lost }

end UploadLease

def renewed (current : LeaseState) (now started : Instant) (ttlSeconds : Nat) : LeaseState :=
  match current with
  | .lost => .lost
  | .held deadline =>
    if now ≥ deadline then .lost
    else if offered clock started ttlSeconds > deadline then .held (offered clock started ttlSeconds)
    else .held deadline

def UploadLease.renew (lease : UploadLease) (now : Instant) (ttlSeconds : Nat) (started : Instant) : UploadLease :=
  { lease with lost := renewed clock lease.lost now started ttlSeconds }

-- What reaches the shared lease after the grant: the answer to a renewal that left at its start, or the loss.
inductive Event where
  | renewal (ttlSeconds : Nat) (started : Instant)
  | loss
deriving DecidableEq

def arrive (lease : UploadLease) : Instant × Event → UploadLease
  | (now, .renewal ttlSeconds started) => lease.renew clock now ttlSeconds started
  | (_, .loss) => lease.markLost

def afterwards (lease : UploadLease) (history : List (Instant × Event)) : UploadLease := history.foldl (arrive clock) lease

def requests (grant : LeaseGrant) (started : Instant) (history : List (Instant × Event)) : List (Instant × Nat) :=
  (started, grant.ttlSeconds) :: history.filterMap (fun arrival =>
    match arrival.2 with
    | .renewal ttlSeconds started => some (started, ttlSeconds)
    | .loss => none)

def Lapsed (lease : UploadLease) (now : Instant) : Prop := ∀ deadline, lease.lost = .held deadline → deadline ≤ now

variable {clock} {lease : UploadLease} {now later : Instant}

theorem isHeld_false_iff : lease.isHeld now = false ↔ Lapsed lease now := by
  unfold UploadLease.isHeld Lapsed
  cases lease.lost with
  | lost | held => simp

theorem validNow_eq_isHeld : lease.validNow now = lease.isHeld now := by
  unfold UploadLease.validNow UploadLease.isHeld
  cases lease.lost <;> rfl

theorem Lapsed.mono (lapsed : Lapsed lease now) (order : now ≤ later) : Lapsed lease later :=
  fun deadline held => Nat.le_trans (lapsed deadline held) order

theorem Lapsed.arrive (lapsed : Lapsed lease now) (arrival : Instant × Event) (order : now ≤ arrival.1) :
    Lapsed (arrive clock lease arrival) now := by
  obtain ⟨time, event⟩ := arrival
  cases event with
  | loss => exact nofun
  | renewal =>
    intro deadline held
    simp only [Lease.arrive, UploadLease.renew, renewed] at held
    split at held
    · cases held
    · next former before =>
      rw [if_pos (show time ≥ former from Nat.le_trans (lapsed former before) order)] at held
      cases held

theorem Lapsed.afterwards (lapsed : Lapsed lease now) (history : List (Instant × Event))
    (order : ∀ arrival ∈ history, now ≤ arrival.1) : Lapsed (afterwards clock lease history) now := by
  induction history generalizing lease with
  | nil => exact lapsed
  | cons arrival rest ih =>
    exact ih (lapsed.arrive arrival (order arrival List.mem_cons_self))
      (fun later member => order later (List.mem_cons_of_mem _ member))

theorem offered_le (shorter : ∀ ttl, clock.conservative ttl ≤ seconds ttl) (started : Instant) (ttlSeconds : Nat) :
    offered clock started ttlSeconds ≤ started + seconds ttlSeconds := by
  have window := shorter ttlSeconds
  unfold offered Clock.checkedAdd
  split
  · exact Nat.add_le_add_left window started
  · exact Nat.le_add_right started _

def Earned (asked : List (Instant × Nat)) (lease : UploadLease) : Prop :=
  ∀ deadline, lease.lost = .held deadline → ∃ request ∈ asked, deadline ≤ request.1 + seconds request.2

theorem Earned.afterwards (shorter : ∀ ttl, clock.conservative ttl ≤ seconds ttl) {asked : List (Instant × Nat)}
    (history : List (Instant × Event)) (earned : Earned asked lease)
    (known : ∀ now ttlSeconds started, (now, Event.renewal ttlSeconds started) ∈ history → (started, ttlSeconds) ∈ asked) :
    Earned asked (afterwards clock lease history) := by
  induction history generalizing lease with
  | nil => exact earned
  | cons arrival rest ih =>
    refine ih ?_ (fun now ttlSeconds started member => known now ttlSeconds started (List.mem_cons_of_mem _ member))
    obtain ⟨time, event⟩ := arrival
    cases event with
    | loss => exact nofun
    | renewal ttlSeconds started =>
      intro deadline held
      simp only [arrive, UploadLease.renew, renewed] at held
      split at held
      · cases held
      · next former before =>
        split at held
        · cases held
        · split at held
          · cases held
            exact ⟨_, known time ttlSeconds started List.mem_cons_self, offered_le shorter started ttlSeconds⟩
          · cases held
            exact earned _ before

-- The times of authority are an initial segment, and each lies within what some request of the lease was granted.
theorem upload_authority_never_returns (clock : Clock) (shorter : ∀ ttl, clock.conservative ttl ≤ seconds ttl)
    (grant : LeaseGrant) (started : Instant) :
    (∀ (earlier further : List (Instant × Event)) (now later : Instant), now ≤ later → (∀ arrival ∈ further, now ≤ arrival.1) →
      let first := afterwards clock (fromGrant clock grant started) earlier
      let second := afterwards clock (fromGrant clock grant started) (earlier ++ further)
      (first.isHeld now = false → second.isHeld later = false) ∧ (first.validNow now = false → second.validNow later = false)) ∧
    ∀ (history : List (Instant × Event)) (now : Instant),
      let lease := afterwards clock (fromGrant clock grant started) history
      lease.isHeld now = true ∨ lease.validNow now = true →
        ∃ request ∈ requests grant started history, now < request.1 + seconds request.2 := by
  constructor
  · intro earlier further now later order arrivals
    simp only [validNow_eq_isHeld, and_self, isHeld_false_iff]
    intro lapsed
    rw [afterwards, List.foldl_append]
    exact (lapsed.afterwards further arrivals).mono order
  · intro history now
    simp only [validNow_eq_isHeld, or_self]
    intro held
    have first : Earned (requests grant started history) (fromGrant clock grant started) := by
      rintro _ ⟨⟩
      exact ⟨_, List.mem_cons_self, offered_le shorter started grant.ttlSeconds⟩
    have earned := first.afterwards shorter history (fun now ttlSeconds started member =>
      List.mem_cons_of_mem _ (List.mem_filterMap.mpr ⟨_, member, rfl⟩))
    unfold UploadLease.isHeld at held
    split at held
    · cases held
    · next deadline stands =>
      obtain ⟨request, asked, within⟩ := earned deadline stands
      exact ⟨request, asked, Nat.lt_of_lt_of_le (of_decide_eq_true held) within⟩

namespace Sample

def steady : Clock := ⟨2 ^ 63, fun ttl => ttl * 900000000⟩

def grant : LeaseGrant := ⟨"lease", "token", "1", 10, 3⟩

end Sample

-- A renewal that left in time carries the lease on; a late answer does not.
open Sample in
theorem late_answer_grants_nothing :
    (afterwards steady (fromGrant steady grant 0) [(seconds 6, .renewal 10 (seconds 5))]).isHeld (seconds 13)
        = true ∧
      (afterwards steady (fromGrant steady grant 0)
        ([] ++ [(seconds 9, .renewal 10 (seconds 5))])).isHeld (seconds 13) = false := by
  refine ⟨by decide +kernel, ?_⟩
  exact ((upload_authority_never_returns steady (fun ttl => Nat.mul_le_mul_left ttl (by decide)) grant 0).1
    [] [(seconds 9, .renewal 10 (seconds 5))] (seconds 9) (seconds 13) (by decide +kernel) (by decide +kernel)).1 (by decide +kernel)

end PhotoSync.Lease
