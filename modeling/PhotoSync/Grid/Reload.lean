import PhotoSync.Lib.Run
import Mathlib.Algebra.Ring.Nat

set_option autoImplicit false

namespace PhotoSync.Grid
open Transaction

def maxGeneration : Nat := 2 ^ 64 - 1

def nextGeneration (generation : Nat) : Nat := min (generation + 1) maxGeneration

-- A query on its worker: the generation it answers for, and how many calls had
-- asked for a reload when it was started.
structure MetadataQuery where
  generation : Nat
  asked : Nat
deriving DecidableEq, Repr

-- The flags of the grid and the queries still running. The last two are for
-- the observer: the calls so far, and the query whose answer is shown.
structure Reload where
  active : Bool
  metadataReady : Bool
  metadataLoading : Bool
  metadataDirty : Bool
  metadataGeneration : Nat
  metadataReloadSource : Bool
  running : List MetadataQuery
  calls : Nat
  shown : Option Nat
deriving DecidableEq, Repr

namespace Reload

def called (grid : Reload) : Reload := { grid with calls := grid.calls + 1 }

def scheduleMetadataReload (grid : Reload) : Reload :=
  let grid := grid.called
  if !grid.active then { grid with metadataDirty := true }
  else if grid.metadataReloadSource then grid
  else { grid with metadataReloadSource := true }

def reloadMetadataNow (grid : Reload) : Reload :=
  let grid := grid.called
  if !grid.active then { grid with metadataDirty := true }
  else if grid.metadataLoading then { grid with metadataDirty := true }
  else
    let generation := nextGeneration grid.metadataGeneration
    { grid with
      metadataLoading := true
      metadataDirty := false
      metadataGeneration := generation
      running := ⟨generation, grid.calls⟩ :: grid.running }

def applyAuthoritativeMetadata (grid : Reload) (query : MetadataQuery) : Reload :=
  { grid with metadataReady := true, shown := some query.asked }

def finishReload (grid : Reload) (query : MetadataQuery) (succeeded : Bool) : Reload :=
  let grid := { grid with running := grid.running.erase query }
  if grid.metadataGeneration ≠ query.generation then grid
  else
    let grid := { grid with metadataLoading := false }
    let grid := if succeeded then grid.applyAuthoritativeMetadata query else grid
    if grid.metadataDirty then scheduleMetadataReload { grid with metadataDirty := false } else grid

def setActive (grid : Reload) (active : Bool) : Reload :=
  let wasActive := grid.active
  let grid := { grid with active := active }
  if !active then
    if wasActive then { grid with metadataGeneration := nextGeneration grid.metadataGeneration, metadataLoading := false }
    else grid
  else if wasActive then grid
  else
    let dirty := grid.metadataDirty
    let grid := { grid with metadataDirty := false }
    if dirty || !grid.metadataReady then grid.reloadMetadataNow else grid

inductive Event where
  | schedule
  | reloadNow
  | timer
  | finished (query : MetadataQuery) (succeeded : Bool)
  | setActive (active : Bool)
deriving DecidableEq, Repr

-- Only a pending timer fires and only a running query finishes.
def execute (grid : Reload) : Event → Except Unit Reload
  | .schedule => .ok grid.scheduleMetadataReload
  | .reloadNow => .ok grid.reloadMetadataNow
  | .timer =>
    if grid.metadataReloadSource then .ok { grid with metadataReloadSource := false }.reloadMetadataNow else .error ()
  | .finished query succeeded => if query ∈ grid.running then .ok (grid.finishReload query succeeded) else .error ()
  | .setActive active => .ok (grid.setActive active)

def closed : Reload := ⟨false, false, false, false, 0, false, [], 0, none⟩

def opened (initialActive : Bool) : Reload :=
  if initialActive then { closed with active := true }.reloadMetadataNow else closed

def Settled (grid : Reload) : Prop :=
  grid.active = true ∧ grid.metadataReloadSource = false ∧ grid.metadataLoading = false ∧ grid.metadataDirty = false

def Current (grid : Reload) : Prop := grid.calls = 0 ∨ grid.shown = some grid.calls

def Noted (grid : Reload) : Prop := Current grid ∨ grid.metadataDirty = true ∨ grid.metadataReloadSource = true

-- Queries are told apart by their generation, and one that still owns the model keeps the grid loading.
structure Numbered (grid : Reload) : Prop where
  older : ∀ query ∈ grid.running, query.generation ≤ grid.metadataGeneration
  apart : grid.running.Pairwise (fun first second => first.generation ≠ second.generation)
  owner : ∀ query ∈ grid.running, query.generation = grid.metadataGeneration → grid.metadataLoading = true
  hidden : grid.active = false → grid.metadataLoading = false

-- The query that owns the model makes up for every call that is not noted. Without one the calls are all noted, or
-- the grid is hidden and will load at its first showing.
structure Sound (grid : Reload) : Prop extends Numbered grid where
  answers : ∀ query ∈ grid.running, query.generation = grid.metadataGeneration →
    query.asked = grid.calls ∨ grid.metadataDirty = true ∨ grid.metadataReloadSource = true
  noted : grid.metadataLoading = false → Noted grid ∨ (grid.active = false ∧ grid.metadataReady = false)

-- The steps under which nothing is lost: queries succeed, the counter still
-- counts, and a grid is not hidden during a reload that nothing else records.
def Uncancelled (grid : Reload) (event : Event) : Prop := grid.metadataGeneration < maxGeneration ∧
    match event with
    | .finished _ succeeded => succeeded = true
    | .setActive false => grid.active = true → grid.metadataLoading = true →
      grid.metadataDirty = true ∨ grid.metadataReloadSource = true ∨ grid.metadataReady = false
    | _ => True

instance (grid : Reload) (event : Event) : Decidable (Uncancelled grid event) := by
  unfold Uncancelled
  refine @instDecidableAnd _ _ _ ?_
  split <;> infer_instance

theorem nextGeneration_lt (generation : Nat) (below : generation < maxGeneration) : generation < nextGeneration generation := by
  unfold nextGeneration
  omega

section Steps
variable {grid : Reload}

theorem Numbered.schedule (numbered : Numbered grid) : Sound grid.scheduleMetadataReload := by
  obtain ⟨older, apart, owner, hidden⟩ := numbered
  unfold scheduleMetadataReload called
  dsimp only
  split
  · exact ⟨⟨older, apart, owner, hidden⟩, fun _ _ _ => .inr (.inl rfl), fun _ => .inl (.inr (.inl rfl))⟩
  · split
    · next waiting =>
      exact ⟨⟨older, apart, owner, hidden⟩, fun _ _ _ => .inr (.inr waiting), fun _ => .inl (.inr (.inr waiting))⟩
    · exact ⟨⟨older, apart, owner, hidden⟩, fun _ _ _ => .inr (.inr rfl), fun _ => .inl (.inr (.inr rfl))⟩

theorem Numbered.reload (numbered : Numbered grid) (below : grid.metadataGeneration < maxGeneration) : Sound grid.reloadMetadataNow := by
  obtain ⟨older, apart, owner, hidden⟩ := numbered
  unfold reloadMetadataNow called
  dsimp only
  split
  · exact ⟨⟨older, apart, owner, hidden⟩, fun _ _ _ => .inr (.inl rfl), fun _ => .inl (.inr (.inl rfl))⟩
  · next visible =>
    split
    · exact ⟨⟨older, apart, owner, hidden⟩, fun _ _ _ => .inr (.inl rfl), fun _ => .inl (.inr (.inl rfl))⟩
    · -- The new query is the only one of its generation.
      have fresh := nextGeneration_lt _ below
      have before : ∀ query ∈ grid.running, query.generation < nextGeneration grid.metadataGeneration :=
        fun query running => Nat.lt_of_le_of_lt (older query running) fresh
      refine ⟨⟨?_, ?_, fun _ _ _ => rfl, fun inactive => absurd inactive (by simpa using visible)⟩, ?_, nofun⟩
      · intro query running
        rcases List.mem_cons.mp running with rfl | running
        · exact Nat.le_refl _
        · exact Nat.le_of_lt (before query running)
      · exact List.pairwise_cons.mpr ⟨fun query running => Nat.ne_of_gt (before query running), apart⟩
      · intro query running current
        rcases List.mem_cons.mp running with rfl | running
        · exact .inl rfl
        · exact absurd current (Nat.ne_of_lt (before query running))

theorem Numbered.erase (numbered : Numbered grid) (query : MetadataQuery) :
    Numbered { grid with running := grid.running.erase query } where
  older other running := numbered.older other (List.mem_of_mem_erase running)
  apart := numbered.apart.sublist List.erase_sublist
  owner other running := numbered.owner other (List.mem_of_mem_erase running)
  hidden := numbered.hidden

theorem Numbered.unowned (numbered : Numbered grid) (query : MetadataQuery) (running : query ∈ grid.running) :
    ∀ other ∈ grid.running.erase query, other.generation ≠ query.generation := by
  have apart : (query :: grid.running.erase query).Pairwise (fun first second => first.generation ≠ second.generation) :=
    ((List.perm_cons_erase running).pairwise_iff (fun differ => differ.symm)).mp numbered.apart
  exact fun other member => (List.rel_of_pairwise_cons apart member).symm

theorem Sound.finish (sound : Sound grid) (query : MetadataQuery) (running : query ∈ grid.running) :
    Sound (grid.finishReload query true) := by
  have fewer := sound.erase query
  unfold finishReload applyAuthoritativeMetadata
  dsimp only
  split
  · exact ⟨fewer, fun other member => sound.answers other (List.mem_of_mem_erase member), sound.noted⟩
  · next current =>
    have current : grid.metadataGeneration = query.generation := not_not.mp current
    have idle : Numbered { grid with
        running := grid.running.erase query, metadataLoading := false, metadataReady := true, shown := some query.asked } :=
      ⟨fewer.older, fewer.apart,
        fun other member same => absurd (same.trans current) (sound.unowned query running other member), fun _ => rfl⟩
    rw [if_pos rfl]
    split
    · exact Numbered.schedule ⟨idle.older, idle.apart, idle.owner, idle.hidden⟩
    · next clean =>
      refine ⟨idle, fun other member same => absurd (idle.owner other member same) nofun, fun _ => .inl ?_⟩
      rcases sound.answers query running current.symm with last | dirty | waiting
      · exact .inl (.inr (congrArg some last))
      · exact absurd dirty clean
      · exact .inr (.inr waiting)

theorem Sound.hide (sound : Sound grid) (below : grid.metadataGeneration < maxGeneration)
    (recorded : grid.active = true → grid.metadataLoading = true →
      grid.metadataDirty = true ∨ grid.metadataReloadSource = true ∨ grid.metadataReady = false) :
    Sound (grid.setActive false) := by
  have fresh := nextGeneration_lt _ below
  have before : ∀ query ∈ grid.running, query.generation < nextGeneration grid.metadataGeneration :=
    fun query running => Nat.lt_of_le_of_lt (sound.older query running) fresh
  unfold setActive
  cases visible : grid.active with
  | false =>
    refine ⟨⟨sound.older, sound.apart, sound.owner, fun _ => sound.hidden visible⟩, sound.answers, fun idle => ?_⟩
    rcases sound.noted idle with noted | ⟨_, unready⟩
    · exact .inl noted
    · exact .inr ⟨rfl, unready⟩
  | true =>
    refine ⟨⟨fun query running => Nat.le_of_lt (before query running), sound.apart,
      fun query running current => absurd current (Nat.ne_of_lt (before query running)), fun _ => rfl⟩,
      fun query running current => absurd current (Nat.ne_of_lt (before query running)), fun _ => ?_⟩
    cases loading : grid.metadataLoading with
    | true =>
      rcases recorded visible loading with dirty | waiting | unready
      · exact .inl (.inr (.inl dirty))
      · exact .inl (.inr (.inr waiting))
      · exact .inr ⟨rfl, unready⟩
    | false =>
      rcases sound.noted loading with noted | ⟨inactive, _⟩
      · exact .inl noted
      · exact absurd (inactive.symm.trans visible) nofun

theorem Sound.show (sound : Sound grid) (below : grid.metadataGeneration < maxGeneration) : Sound (grid.setActive true) := by
  unfold setActive
  cases visible : grid.active with
  | true =>
    have same : { grid with active := true } = grid := by rw [← visible]
    exact same.symm ▸ sound
  | false =>
    have idle := sound.hidden visible
    dsimp only
    rw [if_neg nofun, if_neg nofun]
    have numbered : Numbered { grid with active := true, metadataDirty := false } :=
      ⟨sound.older, sound.apart, sound.owner, fun _ => idle⟩
    split
    · exact numbered.reload below
    · next clean =>
      obtain ⟨clean, ready⟩ := Bool.or_eq_false_iff.mp (Bool.eq_false_iff.mpr clean)
      refine ⟨numbered, fun query running current => absurd (idle.symm.trans (sound.owner query running current)) nofun,
        fun _ => .inl ?_⟩
      rcases sound.noted idle with (current | dirty | waiting) | ⟨_, unready⟩
      · exact .inl current
      · exact absurd (clean.symm.trans dirty) nofun
      · exact .inr (.inr waiting)
      · rw [unready] at ready
        cases ready

end Steps

theorem execute_sound (before : Reload) (event : Event) (after : Reload) (sound : Sound before)
    (calm : Uncancelled before event) (done : before.execute event = .ok after) : Sound after := by
  obtain ⟨below, calm⟩ := calm
  cases event with
  | schedule =>
    cases done
    exact sound.schedule
  | reloadNow =>
    cases done
    exact sound.reload below
  | timer =>
    dsimp only [execute] at done
    split at done
    · cases done
      exact Numbered.reload ⟨sound.older, sound.apart, sound.owner, sound.hidden⟩ below
    · cases done
  | finished query =>
    dsimp only [execute] at done
    split at done
    · next running =>
      cases done
      cases calm
      exact sound.finish query running
    · cases done
  | setActive active =>
    cases done
    cases active with
    | false => exact sound.hide below calm
    | true => exact sound.show below

theorem opened_sound (initialActive : Bool) : Sound (opened initialActive) := by
  cases initialActive with
  | false => exact ⟨⟨nofun, .nil, nofun, fun _ => rfl⟩, nofun, fun _ => .inl (.inl (.inl rfl))⟩
  | true =>
    have visible : Numbered { closed with active := true } := ⟨nofun, .nil, nofun, nofun⟩
    exact visible.reload (by decide)

-- A reload that was asked for is shown before the grid comes to rest.
theorem settled_shows_last_request (initialActive : Bool) (events : List Event)
    (calm : Meets execute Uncancelled (opened initialActive) events)
    (settled : Settled (run execute (opened initialActive) events)) :
    Current (run execute (opened initialActive) events) := by
  have sound := run_keeps Sound execute_sound (opened_sound initialActive) calm
  obtain ⟨visible, waiting, loading, dirty⟩ := settled
  rcases sound.noted loading with (current | marked | timed) | ⟨inactive, _⟩
  · exact current
  · exact absurd (dirty.symm.trans marked) nofun
  · exact absurd (waiting.symm.trans timed) nofun
  · exact absurd (inactive.symm.trans visible) nofun

def rescheduled : List Event :=
  [.finished ⟨1, 1⟩ true, .schedule, .timer, .reloadNow, .setActive false, .setActive true, .finished ⟨4, 5⟩ true]

theorem rescheduled_reload_is_shown :
    Settled (run execute (opened true) rescheduled) ∧ Current (run execute (opened true) rescheduled) :=
  have settled : Settled (run execute (opened true) rescheduled) := by
    unfold Settled
    decide +kernel
  ⟨settled, settled_shows_last_request true rescheduled (by decide +kernel) settled⟩

def switchedAway : List Event := [.finished ⟨1, 1⟩ true, .reloadNow, .setActive false, .setActive true]

theorem cancelled_reload_is_forgotten :
    Settled (run execute (opened true) switchedAway) ∧ ¬Current (run execute (opened true) switchedAway) := by
  unfold Settled Current
  decide +kernel

end Reload
end PhotoSync.Grid
