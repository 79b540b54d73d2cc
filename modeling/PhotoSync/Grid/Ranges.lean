import PhotoSync.Grid.Reload
import PhotoSync.Lib.Intervals

set_option autoImplicit false

namespace PhotoSync.Grid
open Intervals

abbrev MediaRange : Type := Interval

def clamp (range : MediaRange) (total : Nat) : MediaRange := ⟨min range.start total, min range.stop total⟩

-- The side ahead of the motion gets twice the overscan.
def expandedVisibleRange (visible : MediaRange) (total : Nat) (movingForward : Bool) : MediaRange :=
  if visible.isEmpty || total == 0 then ⟨0, 0⟩
  else
    let overscan := max visible.len 1
    let before := if movingForward then overscan else overscan * 2
    let after := if movingForward then overscan * 2 else overscan
    clamp ⟨visible.start - before, visible.stop + after⟩ total

structure RangeRequest where
  generation : Nat
  range : MediaRange
deriving DecidableEq, Repr

inductive RequestDisposition where
  | covered
  | started (request : RangeRequest)
  | coalesced
deriving DecidableEq, Repr

structure Completion where
  applyResult : Bool
  next : Option RangeRequest
deriving DecidableEq, Repr

structure RangeCoordinator where
  generation : Nat
  inFlight : Option RangeRequest
  pending : Option RangeRequest
  resident : List MediaRange
deriving DecidableEq, Repr

namespace RangeCoordinator

def fresh : RangeCoordinator := ⟨0, none, none, []⟩

def request (ranges : RangeCoordinator) (requested : MediaRange) : RangeCoordinator × RequestDisposition :=
  match firstUncovered ranges.resident requested with
  | none => (ranges, .covered)
  | some gap =>
    if ranges.inFlight.any (fun running => running.range.covers gap) || ranges.pending.any (fun waiting => waiting.range.covers gap) then
      (ranges, .coalesced)
    else if ranges.inFlight.isSome then ({ ranges with pending := some ⟨ranges.generation, gap⟩ }, .coalesced)
    else
      let generation := nextGeneration ranges.generation
      let started : RangeRequest := ⟨generation, gap⟩
      ({ ranges with generation := generation, inFlight := some started }, .started started)

def markResident (ranges : RangeCoordinator) (range : MediaRange) : RangeCoordinator :=
  { ranges with resident := add ranges.resident range }

def retainResidentWithin (ranges : RangeCoordinator) (keep : MediaRange) : RangeCoordinator :=
  { ranges with resident := within ranges.resident keep }

def invalidate (ranges : RangeCoordinator) : RangeCoordinator :=
  { ranges with generation := nextGeneration ranges.generation, pending := none, resident := [] }

def finish (ranges : RangeCoordinator) (generation : Nat) : RangeCoordinator × Completion :=
  let applyResult := ranges.inFlight.any (fun running => running.generation == generation) && generation == ranges.generation
  ({ ranges with inFlight := none, pending := none }, ⟨applyResult, ranges.pending⟩)

inductive Requested (ranges : RangeCoordinator) (requested : MediaRange) : RangeCoordinator × RequestDisposition → Prop where
  | covered (full : firstUncovered ranges.resident requested = none) : Requested ranges requested (ranges, .covered)
  | joined (gap : MediaRange) (found : firstUncovered ranges.resident requested = some gap) (request : RangeRequest)
    (held : ranges.inFlight = some request ∨ ranges.pending = some request) (covers : request.range.covers gap = true) :
    Requested ranges requested (ranges, .coalesced)
  | waits (gap : MediaRange) (found : firstUncovered ranges.resident requested = some gap) (running : RangeRequest)
    (flying : ranges.inFlight = some running) (short : running.range.covers gap = false) :
    Requested ranges requested ({ ranges with pending := some ⟨ranges.generation, gap⟩ }, .coalesced)
  | starts (gap : MediaRange) (found : firstUncovered ranges.resident requested = some gap) (idle : ranges.inFlight = none) :
      Requested ranges requested
        ({ ranges with
            generation := nextGeneration ranges.generation, inFlight := some ⟨nextGeneration ranges.generation, gap⟩ },
          .started ⟨nextGeneration ranges.generation, gap⟩)

theorem request_cases (ranges : RangeCoordinator) (requested : MediaRange) : Requested ranges requested (ranges.request requested) := by
  unfold request
  cases found : firstUncovered ranges.resident requested with
  | none => exact .covered found
  | some gap =>
    dsimp only
    split
    · next joins =>
      rcases Bool.or_eq_true_iff.mp joins with flying | waiting
      · obtain ⟨running, held, covers⟩ := (Option.any_eq_true _ _).mp flying
        exact .joined gap found running (.inl held) covers
      · obtain ⟨waiting, held, covers⟩ := (Option.any_eq_true _ _).mp waiting
        exact .joined gap found waiting (.inr held) covers
    · next apart =>
      split
      · next busy =>
        obtain ⟨running, flying⟩ := Option.isSome_iff_exists.mp busy
        rw [flying] at apart
        exact .waits gap found running flying (Bool.eq_false_iff.mpr (fun covers => apart (by simp [covers])))
      · next idle => exact .starts gap found (Option.not_isSome_iff_eq_none.mp idle)

end RangeCoordinator
end PhotoSync.Grid
