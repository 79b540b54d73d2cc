import PhotoSync.Grid.Ranges

set_option autoImplicit false

namespace PhotoSync.Grid
open Intervals Transaction

structure Viewport where
  coordinator : RangeCoordinator
  desiredWindow : Option MediaRange
deriving DecidableEq, Repr

namespace Viewport

def fresh : Viewport := ⟨.fresh, none⟩

def scheduleVisibleRange (view : Viewport) (visible : MediaRange) (total : Nat) (movingForward : Bool) : Viewport :=
  let desired := expandedVisibleRange visible total movingForward
  ⟨(view.coordinator.request desired).1, some desired⟩

def keepRange (view : Viewport) (visible : Option MediaRange) (total : Nat) (range : MediaRange) : MediaRange :=
  (view.desiredWindow.or (visible.map (fun seen => expandedVisibleRange seen total true))).getD range

-- The landing of the request in flight. A fresh result is installed; then the
-- pending target, or else the window, is asked for again.
def land (view : Viewport) (succeeded : Bool) (visible : Option MediaRange) (total : Nat) : Viewport :=
  match view.coordinator.inFlight with
  | none => view
  | some request =>
    let (coordinator, completion) := view.coordinator.finish request.generation
    let coordinator :=
      if completion.applyResult && succeeded then
        (coordinator.markResident request.range).retainResidentWithin (view.keepRange visible total request.range)
      else coordinator
    match (completion.next.map RangeRequest.range).or view.desiredWindow with
    | none => { view with coordinator := coordinator }
    | some target => { view with coordinator := (coordinator.request target).1 }

def applyIncremental (view : Viewport) (ready : List MediaRange) : Viewport :=
  { view with coordinator := ready.foldl RangeCoordinator.markResident view.coordinator.invalidate }

inductive Event where
  | scrolled (visible : MediaRange) (total : Nat) (movingForward : Bool)
  | landed (succeeded : Bool) (visible : Option MediaRange) (total : Nat)
  | invalidated
  | admitted (ready : List MediaRange)
deriving DecidableEq, Repr

def handle (view : Viewport) : Event → Viewport
  | .scrolled visible total movingForward => view.scheduleVisibleRange visible total movingForward
  | .landed succeeded visible total => view.land succeeded visible total
  | .invalidated => { view with coordinator := view.coordinator.invalidate }
  | .admitted ready => view.applyIncremental ready

end Viewport

variable {gap : MediaRange} {running waiting : RangeRequest}

namespace RangeCoordinator

-- Only a running request has something waiting behind it: a range that it does
-- not cover and of which nothing is resident.
structure Sound (ranges : RangeCoordinator) : Prop where
  separated : Separated ranges.resident
  idle : ranges.inFlight = none → ranges.pending = none
  waiting : ∀ running waiting, ranges.inFlight = some running → ranges.pending = some waiting →
    waiting.range.start < waiting.range.stop ∧ running.range.covers waiting.range = false ∧
      ∀ offset ∈ waiting.range, ¬Covered ranges.resident offset

def installed (ranges : RangeCoordinator) (request : RangeRequest) (succeeded : Bool) (keep : MediaRange) : RangeCoordinator :=
  let ranges := { ranges with inFlight := none, pending := none }
  if request.generation = ranges.generation ∧ succeeded = true then (ranges.markResident request.range).retainResidentWithin keep
  else ranges

theorem fresh_sound : Sound fresh := ⟨separated_nil, fun _ => rfl, nofun⟩

variable {ranges : RangeCoordinator}

theorem sound_of_idle (separated : Separated ranges.resident) (idle : ranges.inFlight = none) (none : ranges.pending = none) :
    Sound ranges :=
  ⟨separated, fun _ => none, fun _ _ flying => absurd (idle.symm.trans flying) nofun⟩

theorem Sound.request (sound : Sound ranges) (requested : MediaRange) : Sound (ranges.request requested).1 := by
  have outcome := request_cases ranges requested
  generalize ranges.request requested = result at outcome
  cases outcome with
  | covered | joined => exact sound
  | waits gap found running flying short =>
    have first := firstUncovered_some sound.separated found
    refine ⟨sound.separated, fun idle => absurd (idle.symm.trans flying) nofun, ?_⟩
    intro other waiting flew waits
    cases flying.symm.trans flew
    cases waits
    exact ⟨first.filled, short, first.free⟩
  | starts gap found idle =>
    refine ⟨sound.separated, nofun, ?_⟩
    intro running waiting flying waits
    exact absurd ((sound.idle idle).symm.trans waits) nofun

theorem invalidate_sound : Sound ranges.invalidate := ⟨separated_nil, fun _ => rfl, nofun⟩

theorem markResident_sound (sound : Sound ranges) (quiet : ranges.pending = none) (range : MediaRange) :
    Sound (ranges.markResident range) :=
  ⟨(add_spec range sound.separated).1, sound.idle, fun _ _ _ waits => absurd (quiet.symm.trans waits) nofun⟩

theorem installed_idle (request : RangeRequest) (succeeded : Bool) (keep : MediaRange) :
    (ranges.installed request succeeded keep).inFlight = none ∧ (ranges.installed request succeeded keep).pending = none := by
  unfold installed
  dsimp only
  split
  · exact ⟨rfl, rfl⟩
  · exact ⟨rfl, rfl⟩

theorem installed_separated (ranges : RangeCoordinator) (separated : Separated ranges.resident) (request : RangeRequest) (succeeded : Bool)
    (keep : MediaRange) : Separated (ranges.installed request succeeded keep).resident := by
  unfold installed
  dsimp only
  split
  · exact (within_spec _ _ (add_spec _ separated).1).1
  · exact separated

theorem installed_sound (sound : Sound ranges) (request : RangeRequest) (succeeded : Bool) (keep : MediaRange) :
    Sound (ranges.installed request succeeded keep) := by
  obtain ⟨idle, none⟩ := ranges.installed_idle request succeeded keep
  exact sound_of_idle (installed_separated _ sound.separated request succeeded keep) idle none

theorem installed_fresh (ranges : RangeCoordinator) (separated : Separated ranges.resident) (request : RangeRequest)
    (current : request.generation = ranges.generation) (window : MediaRange) (offset : Nat) (inside : offset ∈ window) :
    Covered (ranges.installed request true window).resident offset ↔ Covered ranges.resident offset ∨ offset ∈ request.range := by
  have joined := add_spec request.range separated
  rw [installed, if_pos ⟨current, rfl⟩]
  show Covered (within (add ranges.resident request.range) window) offset ↔ _
  rw [(within_spec _ window joined.1).2, joined.2]
  exact and_iff_left inside

theorem installed_stale {request : RangeRequest} (stale : request.generation ≠ ranges.generation) (window : MediaRange) :
    (ranges.installed request true window).resident = ranges.resident := by
  rw [installed, if_neg (fun both => stale both.1)]

theorem covered_installed (separated : Separated ranges.resident) (request : RangeRequest) {window : MediaRange} {offset : Nat}
    (inside : offset ∈ window) (held : Covered ranges.resident offset) :
    Covered (ranges.installed request true window).resident offset := by
  by_cases current : request.generation = ranges.generation
  · exact (installed_fresh _ separated request current window offset inside).mpr (.inl held)
  · rw [installed_stale current window]
    exact held

theorem gaps_installed (separated : Separated ranges.resident) (request : RangeRequest) (window : MediaRange) :
    gaps (Covered (ranges.installed request true window).resident) window ≤ gaps (Covered ranges.resident) window + 1 := by
  by_cases current : request.generation = ranges.generation
  · exact gaps_grown (installed_fresh _ separated request current window)
  · simp only [installed_stale current window]
    exact Nat.le_succ _

theorem gaps_installed_ahead (separated : Separated ranges.resident) {request : RangeRequest} {window : MediaRange}
    (found : firstUncovered ranges.resident window = some gap) (covers : request.range.covers gap = true) :
    gaps (Covered (ranges.installed request true window).resident) window ≤ gaps (Covered ranges.resident) window := by
  have first := firstUncovered_some separated found
  simp only [Interval.covers, Bool.and_eq_true, decide_eq_true_eq] at covers
  by_cases current : request.generation = ranges.generation
  · refine gaps_unsplit (installed_fresh _ separated request current window) ?_
    by_cases early : request.range.start ≤ window.start
    · exact .inl early
    · exact .inr (first.before _ (by omega) (by omega))
  · simp only [installed_stale current window]
    exact Nat.le_refl _

def started (ranges : RangeCoordinator) (gap : MediaRange) : RangeCoordinator :=
  ⟨nextGeneration ranges.generation, some ⟨nextGeneration ranges.generation, gap⟩, none, ranges.resident⟩

def startedRequest (ranges : RangeCoordinator) (gap : MediaRange) : RangeRequest := ⟨nextGeneration ranges.generation, gap⟩

theorem request_starts {requested : MediaRange} (idle : ranges.inFlight = none) (quiet : ranges.pending = none)
    (found : firstUncovered ranges.resident requested = some gap) : (ranges.request requested).1 = ranges.started gap := by
  unfold request started
  simp [found, idle, quiet]

theorem covered_started (separated : Separated ranges.resident) (gap window : MediaRange) (offset : Nat) (inside : offset ∈ window) :
    Covered ((ranges.started gap).installed (ranges.startedRequest gap) true window).resident offset ↔
      Covered ranges.resident offset ∨ offset ∈ gap :=
  installed_fresh (ranges.started gap) separated (ranges.startedRequest gap) rfl window offset inside

end RangeCoordinator

namespace Viewport
open RangeCoordinator

section Landing
variable {view : Viewport}

theorem land_idle (idle : view.coordinator.inFlight = none) (succeeded : Bool) (visible : Option MediaRange) (total : Nat) :
    view.land succeeded visible total = view := by
  unfold land
  rw [idle]

theorem land_flying {request : RangeRequest} (flying : view.coordinator.inFlight = some request) (succeeded : Bool)
    (visible : Option MediaRange) (total : Nat) : view.land succeeded visible total =
      let coordinator := view.coordinator.installed request succeeded (view.keepRange visible total request.range)
      match (view.coordinator.pending.map RangeRequest.range).or view.desiredWindow with
      | none => { view with coordinator := coordinator }
      | some target => { view with coordinator := (coordinator.request target).1 } := by
  unfold land
  rw [flying]
  simp [finish, flying, installed]

end Landing

theorem handle_sound (view : Viewport) (event : Event) (sound : Sound view.coordinator) : Sound (view.handle event).coordinator := by
  cases event with
  | scrolled => exact sound.request _
  | landed succeeded visible total =>
    show Sound (view.land succeeded visible total).coordinator
    cases flying : view.coordinator.inFlight with
    | none =>
      rw [land_idle flying]
      exact sound
    | some request =>
      rw [land_flying flying]
      have kept := installed_sound sound request succeeded (view.keepRange visible total request.range)
      split
      · exact kept
      · exact kept.request _
  | invalidated => exact invalidate_sound
  | admitted ready =>
    show Sound (ready.foldl markResident view.coordinator.invalidate)
    have start : Sound view.coordinator.invalidate ∧ view.coordinator.invalidate.pending = none := ⟨invalidate_sound, rfl⟩
    generalize view.coordinator.invalidate = ranges at start
    induction ready generalizing ranges with
    | nil => exact start.1
    | cons range rest ih => exact ih _ ⟨markResident_sound start.1 start.2 range, start.2⟩

theorem run_sound (events : List Event) : Sound (events.foldl handle fresh).coordinator := by
  have start : Sound fresh.coordinator := fresh_sound
  generalize fresh = view at start
  induction events generalizing view with
  | nil => exact start
  | cons event rest ih => exact ih _ (handle_sound view event start)

variable {ranges : RangeCoordinator}

section Filling
variable {window : MediaRange}

-- All of the window is resident, nothing is in flight, and asking for the window again would start nothing.
def Filled (window : MediaRange) (view : Viewport) : Prop :=
  (∀ offset ∈ window, Covered view.coordinator.resident offset) ∧ view.coordinator.inFlight = none ∧
    (view.coordinator.request window).2 = .covered

def landings (seen : List (Option MediaRange × Nat)) (view : Viewport) : Viewport :=
  seen.foldl (fun view sight => view.land true sight.1 sight.2) view

theorem landings_idle (seen : List (Option MediaRange × Nat)) (view : Viewport) (idle : view.coordinator.inFlight = none) :
    landings seen view = view := by
  induction seen with
  | nil => rfl
  | cons sight rest ih =>
    show landings rest (view.land true sight.1 sight.2) = view
    rw [land_idle idle]
    exact ih

theorem request_covered (full : firstUncovered ranges.resident window = none) : ranges.request window = (ranges, .covered) := by
  unfold request
  rw [full]

theorem filled_of_covered (seen : List (Option MediaRange × Nat)) (separated : Separated ranges.resident)
    (idle : ranges.inFlight = none) (full : firstUncovered ranges.resident window = none) :
    Filled window (landings seen ⟨(ranges.request window).1, some window⟩) := by
  rw [request_covered full, landings_idle _ _ idle]
  exact ⟨firstUncovered_none _ _ separated full, idle, by rw [request_covered full]⟩

theorem landings_alone (sight : Option MediaRange × Nat) (rest : List (Option MediaRange × Nat)) (ranges : RangeCoordinator)
    (running : RangeRequest) (flying : ranges.inFlight = some running) (quiet : ranges.pending = none) :
    landings (sight :: rest) ⟨ranges, some window⟩ =
      landings rest ⟨((ranges.installed running true window).request window).1, some window⟩ := by
  show landings rest (land ⟨ranges, some window⟩ true sight.1 sight.2) = _
  rw [land_flying flying]
  simp [quiet, keepRange]

theorem filled_from_idle (seen : List (Option MediaRange × Nat)) (ranges : RangeCoordinator)
    (separated : Separated ranges.resident) (idle : ranges.inFlight = none) (quiet : ranges.pending = none)
    (enough : gaps (Covered ranges.resident) window ≤ seen.length) :
    Filled window (landings seen ⟨(ranges.request window).1, some window⟩) := by
  -- By induction on the landings: each fills the first gap that is left.
  induction seen generalizing ranges with
  | nil =>
    cases found : firstUncovered ranges.resident window with
    | none => exact filled_of_covered [] separated idle found
    | some gap =>
      have fewer : gaps (fun offset => Covered ranges.resident offset ∨ offset ∈ gap) window < gaps (Covered ranges.resident) window :=
        gaps_filled (firstUncovered_some separated found) (fun _ _ => Iff.rfl)
      exact absurd enough (Nat.not_le_of_lt (Nat.lt_of_le_of_lt (Nat.zero_le _) fewer))
  | cons sight rest ih =>
    cases found : firstUncovered ranges.resident window with
    | none => exact filled_of_covered (sight :: rest) separated idle found
    | some gap =>
      rw [request_starts idle quiet found]
      rw [landings_alone sight rest _ (ranges.startedRequest gap) rfl rfl]
      have fewer := gaps_filled (firstUncovered_some separated found)
        (covered_started separated gap window)
      have left : gaps (Covered ranges.resident) window ≤ rest.length + 1 := enough
      obtain ⟨rested, calm⟩ := (ranges.started gap).installed_idle (ranges.startedRequest gap) true window
      exact ih _ (installed_separated (ranges.started gap) separated _ _ _) rested calm (by omega)

theorem filled_alone (seen : List (Option MediaRange × Nat)) (ranges : RangeCoordinator) (sound : Sound ranges)
    (running : RangeRequest) (flying : ranges.inFlight = some running) (quiet : ranges.pending = none)
    (enough : gaps (Covered ranges.resident) window + 2 ≤ seen.length) :
    Filled window (landings seen ⟨ranges, some window⟩) := by
  cases seen with
  | nil => exact absurd enough (by simp)
  | cons sight rest =>
    rw [landings_alone sight rest ranges running flying quiet]
    obtain ⟨rested, calm⟩ := ranges.installed_idle running true window
    have more := gaps_installed sound.separated running window
    have left : gaps (Covered ranges.resident) window + 2 ≤ rest.length + 1 := enough
    exact filled_from_idle rest _ (installed_separated _ sound.separated _ _ _) rested calm (by omega)

theorem waiting_found (window : MediaRange) (sound : Sound ranges) (flying : ranges.inFlight = some running)
    (waits : ranges.pending = some waiting) :
    ∃ gap, firstUncovered (ranges.installed running true window).resident waiting.range = some gap := by
  obtain ⟨room, short, free⟩ := sound.waiting running waiting flying waits
  have kept := installed_separated _ sound.separated running true window
  cases found : firstUncovered (ranges.installed running true window).resident waiting.range with
  | some gap => exact ⟨gap, rfl⟩
  | none =>
    have full := firstUncovered_none _ _ kept found
    obtain ⟨offset, inside, outside⟩ := Interval.outside_of_not_covers _ _ room short
    have held := full offset inside
    exfalso
    unfold installed at held
    dsimp only at held
    split at held
    · have joined := add_spec running.range sound.separated
      rcases (joined.2 offset).mp (((within_spec _ window joined.1).2 offset).mp held).1 with held | entered
      · exact free offset inside held
      · exact outside entered
    · exact free offset inside held

theorem landings_behind (first second : Option MediaRange × Nat) (rest : List (Option MediaRange × Nat))
    (flying : ranges.inFlight = some running) (waits : ranges.pending = some waiting)
    (found : firstUncovered (ranges.installed running true window).resident waiting.range = some gap) :
    landings (first :: second :: rest) ⟨ranges, some window⟩ =
      landings rest ⟨(((((ranges.installed running true window).started gap).installed
        ((ranges.installed running true window).startedRequest gap) true window)).request window).1, some window⟩ := by
  obtain ⟨rested, calm⟩ := ranges.installed_idle running true window
  show landings (second :: rest) (land ⟨ranges, some window⟩ true first.1 first.2) = _
  rw [land_flying flying]
  simp only [waits, Option.map_some, Option.or_some, Option.getD_some]
  rw [show keepRange ⟨ranges, some window⟩ first.1 first.2 running.range = window from rfl, request_starts rested calm found]
  exact landings_alone second rest _ _ rfl rfl

theorem gaps_waiting (sound : Sound ranges) (flying : ranges.inFlight = some running)
    (waits : ranges.pending = some waiting) {next : MediaRange} (found : firstUncovered ranges.resident window = some gap)
    (covers : waiting.range.covers gap = true)
    (asked : firstUncovered (ranges.installed running true window).resident waiting.range = some next) :
    gaps (fun offset => Covered (ranges.installed running true window).resident offset ∨ offset ∈ next) window ≤
      gaps (Covered (ranges.installed running true window).resident) window := by
  obtain ⟨room, _, free⟩ := sound.waiting running waiting flying waits
  have first := firstUncovered_some sound.separated found
  have after := firstUncovered_some (installed_separated _ sound.separated running true window) asked
  simp only [Interval.covers, Bool.and_eq_true, decide_eq_true_eq] at covers
  have inside := after.inside
  refine gaps_unsplit (fun _ _ => Iff.rfl) ?_
  by_cases moved : waiting.range.start < next.start
  · exact .inr (after.before _ (by omega) (by omega))
  · by_cases early : next.start ≤ window.start
    · exact .inl early
    · -- Before the first gap the window is covered, and what waits is not.
      have meets : next.start = gap.start := by
        by_contra apart
        exact free next.start ⟨by omega, by have := after.filled; omega⟩ (first.before _ (by omega) (by omega))
      have within := first.inside
      have filled := first.filled
      refine .inr (covered_installed sound.separated running ?_ (first.before _ (by omega) (by omega)))
      rw [Interval.mem_iff]
      omega

theorem filled_behind {seen : List (Option MediaRange × Nat)} {ranges : RangeCoordinator} (sound : Sound ranges)
    {running : RangeRequest} (waiting : RangeRequest) (flying : ranges.inFlight = some running) (waits : ranges.pending = some waiting)
    (unsplit : gaps (Covered (ranges.installed running true window).resident) window ≤ gaps (Covered ranges.resident) window ∨
      ∃ gap, firstUncovered ranges.resident window = some gap ∧ waiting.range.covers gap = true)
    (enough : gaps (Covered ranges.resident) window + 3 ≤ seen.length) :
    Filled window (landings seen ⟨ranges, some window⟩) := by
  match seen, enough with
  | one :: two :: rest, enough =>
    have left : gaps (Covered ranges.resident) window + 3 ≤ rest.length + 2 := enough
    obtain ⟨next, asked⟩ := waiting_found window sound flying waits
    rw [landings_behind one two rest flying waits asked]
    have kept := installed_separated _ sound.separated running true window
    have bound := gaps_installed sound.separated running window
    have total : gaps (fun offset => Covered (ranges.installed running true window).resident offset ∨ offset ∈ next) window ≤
        gaps (Covered ranges.resident) window + 1 := by
      rcases unsplit with still | ⟨gap, found, covers⟩
      · refine (gaps_grown (fun _ _ => Iff.rfl)).trans (Nat.add_le_add_right still 1)
      · have same := gaps_waiting sound flying waits found covers asked
        omega
    generalize ranges.installed running true window = middle at total kept asked
    obtain ⟨rested, calm⟩ := (middle.started next).installed_idle (middle.startedRequest next) true window
    refine filled_from_idle rest _ (installed_separated (middle.started next) kept _ _ _) rested calm ?_
    rw [gaps_congr window (covered_started kept next window)]
    omega

end Filling

-- However the grid came to its state, once a window has been asked for, three
-- landings more than it has gaps fill it and leave nothing to do.
theorem scheduled_window_fills (events : List Event) (visible : MediaRange) (total : Nat) (movingForward : Bool)
    (seen : List (Option MediaRange × Nat))
    (enough : gaps (Covered (events.foldl handle fresh).coordinator.resident)
      (expandedVisibleRange visible total movingForward) + 3 ≤ seen.length) :
    Filled (expandedVisibleRange visible total movingForward)
      (landings seen ((events.foldl handle fresh).scheduleVisibleRange visible total movingForward)) := by
  have sound := run_sound events
  unfold scheduleVisibleRange
  dsimp only
  generalize (events.foldl handle fresh).coordinator = ranges at enough sound
  generalize expandedVisibleRange visible total movingForward = window at enough
  have kept := sound.request window
  have outcome := request_cases ranges window
  cases flying : ranges.inFlight with
  | none => exact filled_from_idle seen ranges sound.separated flying (sound.idle flying) (by omega)
  | some running =>
    generalize ranges.request window = result at outcome kept
    cases outcome with
    | covered full =>
      cases waits : ranges.pending with
      | none => exact filled_alone seen ranges sound running flying waits (by omega)
      | some waiting =>
        refine filled_behind sound waiting flying waits (.inl ?_) enough
        have held := firstUncovered_none _ _ sound.separated full
        rw [gaps_full window (fun offset inside =>
          covered_installed sound.separated running inside (held offset inside))]
        exact Nat.zero_le _
    | joined gap found request held covers =>
      cases waits : ranges.pending with
      | none => exact filled_alone seen ranges sound running flying waits (by omega)
      | some waiting =>
        refine filled_behind sound waiting flying waits ?_ enough
        rcases held with flew | waited
        · cases flying.symm.trans flew
          exact .inl (gaps_installed_ahead sound.separated found covers)
        · cases waits.symm.trans waited
          exact .inr ⟨gap, found, covers⟩
    | waits gap found =>
      refine filled_behind kept ⟨ranges.generation, gap⟩ flying rfl (.inr ⟨gap, found, ?_⟩) enough
      simp [Interval.covers]
    | starts gap found idle => cases idle.symm.trans flying

-- A grid at rest on [20, 180), a request for [0, 20) that an admission makes
-- stale, and a small window far below that is left behind.
def leftBehind : List Event :=
  [.scrolled ⟨60, 100⟩ 1000 true, .landed true none 1000, .scrolled ⟨40, 80⟩ 1000 true, .admitted [⟨20, 180⟩, ⟨500, 501⟩],
    .scrolled ⟨300, 310⟩ 1001 true]

theorem left_behind_window_fills :
    gaps (Covered (leftBehind.foldl handle fresh).coordinator.resident) (expandedVisibleRange ⟨100, 200⟩ 1001 true) = 2 ∧
      Filled (expandedVisibleRange ⟨100, 200⟩ 1001 true)
        (landings (List.replicate 5 (none, 1001)) ((leftBehind.foldl handle fresh).scheduleVisibleRange ⟨100, 200⟩ 1001 true)) :=
  have two : gaps (Covered (leftBehind.foldl handle fresh).coordinator.resident)
    (expandedVisibleRange ⟨100, 200⟩ 1001 true) = 2 := by decide +kernel
  ⟨two, scheduled_window_fills leftBehind ⟨100, 200⟩ 1001 true _ (by rw [two]; decide)⟩

theorem two_more_landings_are_not_enough :
    gaps (Covered (leftBehind.foldl handle fresh).coordinator.resident) (expandedVisibleRange ⟨100, 200⟩ 1001 true) = 2 ∧
      ¬Filled (expandedVisibleRange ⟨100, 200⟩ 1001 true)
        (landings (List.replicate 4 (none, 1001))
          ((leftBehind.foldl handle fresh).scheduleVisibleRange ⟨100, 200⟩ 1001 true)) := by
  refine ⟨by decide +kernel, fun filled => ?_⟩
  have flying : (landings (List.replicate 4 (none, 1001))
    ((leftBehind.foldl handle fresh).scheduleVisibleRange ⟨100, 200⟩ 1001 true)).coordinator.inFlight =
    some ⟨7, ⟨330, 400⟩⟩ := by decide +kernel
  exact absurd (filled.2.1.symm.trans flying) nofun

end Viewport
end PhotoSync.Grid
