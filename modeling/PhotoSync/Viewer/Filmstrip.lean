import Mathlib.Data.List.Induction

set_option autoImplicit false

namespace PhotoSync.Viewer
open List

def thumbInitialHalf : Nat := 5

def thumbDefaultWindowLen : Nat := 2 * thumbInitialHalf + 1

def thumbLazyHalf : Nat := 4

def thumbWindowMax : Nat := 40

-- A sum is cut to the length of the list, so that none of them saturates.
def computeInitialThumbWindowForLen (current n target : Nat) : Nat × Nat :=
  if n = 0 then (0, 0)
  else
    let target := min (min (max target 1) thumbWindowMax) n
    let start := current - target / 2
    let stop := min (start + target) n
    let start := stop - target
    (start, min (start + target) n)

inductive Direction where
  | left
  | right
deriving DecidableEq, Repr

def computeExtendedThumbWindow (direction : Direction) (start stop n len : Nat) : Option (Nat × Nat) :=
  let atCap := len ≥ thumbWindowMax
  match direction with
  | .left =>
    let newStart := start - thumbLazyHalf
    if newStart = start then none else some (newStart, if atCap then stop - (start - newStart) else stop)
  | .right =>
    let newStop := min (stop + thumbLazyHalf) n
    if newStop = stop then none else some (if atCap then start + (newStop - stop) else start, newStop)

inductive ThumbWindowUpdateKind where
  | appendRight
  | prependLeft
  | rebuild
deriving DecidableEq, Repr

def classifyThumbWindowUpdate (oldStart oldStop newStart newStop : Nat) : ThumbWindowUpdateKind :=
  if oldStart = newStart ∧ newStop > oldStop then .appendRight
  else if oldStop = newStop ∧ newStart < oldStart then .prependLeft
  else .rebuild

def computeCurrentThumbExtendDirection (current start stop n : Nat) : Option Direction :=
  if current < start ∨ current ≥ stop ∨ stop ≤ start then none
  else
    let leftRemaining := current - start
    let rightRemaining := stop - current - 1
    match decide (leftRemaining ≤ thumbLazyHalf ∧ start > 0), decide (rightRemaining ≤ thumbLazyHalf ∧ stop < n) with
    | true, true => if leftRemaining ≤ rightRemaining then some .left else some .right
    | true, false => some .left
    | false, true => some .right
    | false, false => none

structure Strip where
  current : Nat
  start : Nat
  stop : Nat
  items : List Nat
  pendingExtend : Option Direction
deriving DecidableEq, Repr

inductive Event where
  | select (index : Nat)
  | load
  | extend (direction : Direction)
  | refresh
  | idle
deriving DecidableEq, Repr

namespace Strip

def inWindow (strip : Strip) : Bool := strip.start < strip.stop && strip.start ≤ strip.current && strip.current < strip.stop

section Model
variable (n : Nat)

-- The list has an item, and so a button, for each index below its length.
def makeThumbButtons (first last : Nat) : List Nat := (range' first (last - first)).filter (· < n)

def rebuildThumbStrip (strip : Strip) (start stop : Nat) : Strip :=
  { strip with start := start, stop := stop, items := makeThumbButtons n start stop }

def appendThumbStripItems (strip : Strip) (first last : Nat) : Strip :=
  if first ≠ strip.stop ∨ last ≤ first then strip.rebuildThumbStrip n strip.start (max last strip.stop)
  else { strip with stop := last, items := strip.items ++ makeThumbButtons n first last }

def prependThumbStripItems (strip : Strip) (first last : Nat) : Strip :=
  if last ≠ strip.start ∨ last ≤ first then strip.rebuildThumbStrip n (min first strip.start) strip.stop
  else { strip with start := first, items := makeThumbButtons n first last ++ strip.items }

def tryExtendThumbWindow (strip : Strip) (direction : Direction) : Strip :=
  if strip.pendingExtend = some direction then strip
  else
    match computeExtendedThumbWindow direction strip.start strip.stop n strip.items.length with
    | none => strip
    | some (start, stop) =>
      let waiting := { strip with pendingExtend := some direction }
      match classifyThumbWindowUpdate strip.start strip.stop start stop with
      | .appendRight => waiting.appendThumbStripItems n strip.stop stop
      | .prependLeft => waiting.prependThumbStripItems n start strip.start
      | .rebuild => waiting.rebuildThumbStrip n start stop

def loadInitialThumbWindow (strip : Strip) : Strip :=
  if n = 0 then strip
  else
    let (start, stop) := computeInitialThumbWindowForLen strip.current n thumbDefaultWindowLen
    strip.rebuildThumbStrip n start stop

def tryExtendThumbWindowForCurrent (strip : Strip) : Strip :=
  (computeCurrentThumbExtendDirection strip.current strip.start strip.stop n).elim strip (strip.tryExtendThumbWindow n)

def refreshThumbStrip (strip : Strip) : Strip :=
  (if strip.inWindow then strip else strip.loadInitialThumbWindow n).tryExtendThumbWindowForCurrent n

def handle (strip : Strip) : Event → Strip
  | .select index => { strip with current := index }
  | .load => strip.loadInitialThumbWindow n
  | .extend direction => strip.tryExtendThumbWindow n direction
  | .refresh => strip.refreshThumbStrip n
  | .idle => { strip with pendingExtend := none }

def after (first : Nat) (events : List Event) : Strip := events.foldl (handle n) (loadInitialThumbWindow n ⟨first, 0, 0, [], none⟩)

def growth (strip : Strip) : Direction → Nat
  | .left => min strip.start thumbLazyHalf
  | .right => min (n - strip.stop) thumbLazyHalf

def Roomy (strip : Strip) (direction : Direction) : Prop := strip.pendingExtend = some direction ∨ strip.items.length ≥ thumbWindowMax ∨
    strip.items.length + strip.growth n direction ≤ thumbWindowMax

def HasRoom (strip : Strip) : Event → Prop
  | .extend direction => strip.Roomy n direction
  | .refresh => ∀ direction, computeCurrentThumbExtendDirection strip.current strip.start strip.stop n = some direction →
    strip.Roomy n direction
  | _ => True

structure Within (strip : Strip) : Prop where
  current : strip.current < n
  filled : strip.start < strip.stop
  inside : strip.stop ≤ n
  items : strip.items = range' strip.start (strip.stop - strip.start)

-- A window below the cap grows, and one at the cap slides.
structure Extended (strip : Strip) (direction : Direction) (start stop : Nat) : Prop where
  filled : start < stop
  inside : stop ≤ n
  left : direction = .left → start = strip.start - strip.growth n direction
  right : direction = .right → stop = strip.stop + strip.growth n direction
  width : thumbWindowMax ≤ strip.items.length ∧ stop - start = strip.items.length ∨
    strip.items.length < thumbWindowMax ∧ stop - start = strip.items.length + strip.growth n direction

end Model

variable {n start stop : Nat} {strip : Strip} {direction : Direction}

theorem makeThumbButtons_eq (inside : stop ≤ n) : makeThumbButtons n start stop = range' start (stop - start) := by
  refine filter_eq_self.mpr (fun index member => ?_)
  rw [mem_range'_1] at member
  simp only [decide_eq_true_eq]
  omega

theorem loadInitial_spec (current : strip.current < n) :
    (strip.loadInitialThumbWindow n).Within n ∧ (strip.loadInitialThumbWindow n).inWindow = true ∧
      (strip.loadInitialThumbWindow n).items.length ≤ thumbDefaultWindowLen := by
  obtain ⟨start, stop, computed⟩ : ∃ start stop,
    computeInitialThumbWindowForLen strip.current n thumbDefaultWindowLen = (start, stop) := ⟨_, _, rfl⟩
  have loaded : strip.loadInitialThumbWindow n = strip.rebuildThumbStrip n start stop := by
    rw [loadInitialThumbWindow, if_neg (by omega), computed]
  have around : start ≤ strip.current ∧ strip.current < stop ∧ stop ≤ n ∧ stop - start ≤ thumbDefaultWindowLen := by
    rw [computeInitialThumbWindowForLen, if_neg (by omega), Prod.mk.injEq] at computed
    simp only [thumbDefaultWindowLen, thumbInitialHalf, thumbWindowMax] at computed ⊢
    omega
  obtain ⟨left, right, inside, short⟩ := around
  rw [loaded, rebuildThumbStrip, makeThumbButtons_eq inside]
  refine ⟨⟨current, by dsimp only; omega, inside, rfl⟩, ?_, by simpa using short⟩
  simp only [inWindow, Bool.and_eq_true, decide_eq_true_eq]
  omega

theorem range'_concat {first middle last : Nat} (left : first ≤ middle) (right : middle ≤ last) :
    range' first (middle - first) ++ range' middle (last - middle) = range' first (last - first) := by
  have joined : range' first _ ++ range' (first + (middle - first)) (last - middle) = _ := range'_append_1
  rw [Nat.add_sub_cancel' left] at joined
  rw [joined]
  congr 1
  omega

theorem computeExtended_some (within : strip.Within n)
    (computed : computeExtendedThumbWindow direction strip.start strip.stop n strip.items.length = some (start, stop)) :
    strip.Extended n direction start stop := by
  have length : strip.items.length = strip.stop - strip.start := by simp [within.items]
  obtain ⟨_, filled, inside, _⟩ := within
  unfold computeExtendedThumbWindow at computed
  cases direction with
  | left =>
    have low : strip.growth n .left = min strip.start thumbLazyHalf := rfl
    dsimp only at computed
    split at computed
    · cases computed
    · by_cases full : strip.items.length ≥ thumbWindowMax
      · simp only [if_pos full, Option.some.injEq, Prod.mk.injEq] at computed
        simp only [thumbWindowMax, thumbLazyHalf] at full low computed
        exact ⟨by omega, by omega, fun _ => by omega, nofun, .inl ⟨full, by omega⟩⟩
      · simp only [if_neg full, Option.some.injEq, Prod.mk.injEq] at computed
        exact ⟨by omega, by omega, fun _ => by omega, nofun, .inr ⟨by omega, by omega⟩⟩
  | right =>
    have high : strip.growth n .right = min (n - strip.stop) thumbLazyHalf := rfl
    dsimp only at computed
    split at computed
    · cases computed
    · by_cases full : strip.items.length ≥ thumbWindowMax
      · simp only [if_pos full, Option.some.injEq, Prod.mk.injEq] at computed
        exact ⟨by omega, by omega, nofun, fun _ => by omega, .inl ⟨full, by omega⟩⟩
      · simp only [if_neg full, Option.some.injEq, Prod.mk.injEq] at computed
        exact ⟨by omega, by omega, nofun, fun _ => by omega, .inr ⟨by omega, by omega⟩⟩

theorem tryExtend_cases (within : strip.Within n) (direction : Direction) :
    strip.tryExtendThumbWindow n direction = strip ∨ ∃ start stop, strip.tryExtendThumbWindow n direction =
      ⟨strip.current, start, stop, range' start (stop - start), some direction⟩ ∧ strip.Extended n direction start stop := by
  have window := within.filled
  unfold tryExtendThumbWindow
  split
  · exact .inl rfl
  · split
    · exact .inl rfl
    · next start stop computed =>
      have extended := computeExtended_some within computed
      have inside := extended.inside
      refine .inr ⟨start, stop, ?_, extended⟩
      dsimp only
      unfold classifyThumbWindowUpdate
      by_cases right : strip.start = start ∧ stop > strip.stop
      · obtain ⟨rfl, more⟩ := right
        rw [if_pos ⟨rfl, more⟩]
        dsimp only
        rw [appendThumbStripItems, if_neg (by simp only; omega), makeThumbButtons_eq inside, within.items,
          range'_concat (by omega) (by omega)]
      · rw [if_neg right]
        by_cases left : strip.stop = stop ∧ start < strip.start
        · obtain ⟨rfl, less⟩ := left
          rw [if_pos ⟨rfl, less⟩]
          dsimp only
          rw [prependThumbStripItems, if_neg (by simp only; omega), makeThumbButtons_eq (by omega),
            within.items, range'_concat (by omega) (by omega)]
        · rw [if_neg left]
          dsimp only
          rw [rebuildThumbStrip, makeThumbButtons_eq inside]

theorem currentDirection_some {current : Nat} (asked : computeCurrentThumbExtendDirection current start stop n = some direction) :
    start ≤ current ∧ current < stop ∧ (direction = .left → current ≤ start + thumbLazyHalf) ∧
      (direction = .right → stop ≤ current + 1 + thumbLazyHalf) := by
  unfold computeCurrentThumbExtendDirection at asked
  split at asked
  · cases asked
  · dsimp only at asked
    split at asked
    · next wantsLeft wantsRight =>
      rw [decide_eq_true_eq] at wantsLeft wantsRight
      split at asked
      · cases asked
        exact ⟨by omega, by omega, fun _ => by omega, nofun⟩
      · cases asked
        exact ⟨by omega, by omega, nofun, fun _ => by omega⟩
    · next wantsLeft _ =>
      rw [decide_eq_true_eq] at wantsLeft
      cases asked
      exact ⟨by omega, by omega, fun _ => by omega, nofun⟩
    · next _ wantsRight =>
      rw [decide_eq_true_eq] at wantsRight
      cases asked
      exact ⟨by omega, by omega, nofun, fun _ => by omega⟩
    · cases asked

theorem growth_le (n : Nat) (strip : Strip) (direction : Direction) : strip.growth n direction ≤ thumbLazyHalf := by
  cases direction with
  | left => exact Nat.min_le_right _ _
  | right => exact Nat.min_le_right _ _

theorem inWindow_iff (strip : Strip) : strip.inWindow = true ↔ strip.start ≤ strip.current ∧ strip.current < strip.stop := by
  simp only [inWindow, Bool.and_eq_true, decide_eq_true_eq]
  omega

theorem tryExtend_spec (within : strip.Within n) (direction : Direction) :
    (strip.tryExtendThumbWindow n direction).Within n ∧ (strip.items.length ≤ thumbWindowMax → strip.Roomy n direction →
      (strip.tryExtendThumbWindow n direction).items.length ≤ thumbWindowMax) ∧
    (computeCurrentThumbExtendDirection strip.current strip.start strip.stop n = some direction →
      (strip.tryExtendThumbWindow n direction).inWindow = true) := by
  rcases tryExtend_cases within direction with same | ⟨start, stop, moved, extended⟩
  · rw [same]
    refine ⟨within, fun short _ => short, fun asked => strip.inWindow_iff.mpr ?_⟩
    obtain ⟨left, right, _⟩ := currentDirection_some asked
    exact ⟨left, right⟩
  · obtain ⟨filled, inside, front, back, width⟩ := extended
    rw [moved]
    refine ⟨⟨within.current, filled, inside, rfl⟩, fun short roomy => ?_, fun asked => (inWindow_iff _).mpr ?_⟩
    · rcases roomy with waiting | room
      · rw [← moved, tryExtendThumbWindow, if_pos waiting]
        exact short
      · rw [length_range']
        omega
    · have length : strip.items.length = strip.stop - strip.start := by simp [within.items]
      obtain ⟨left, right, nearLeft, nearRight⟩ := currentDirection_some asked
      have small := strip.growth_le n direction
      simp only [thumbWindowMax, thumbLazyHalf] at width nearLeft nearRight small ⊢
      cases direction with
      | left =>
        have near := nearLeft rfl
        have front := front rfl
        omega
      | right =>
        have near := nearRight rfl
        have back := back rfl
        omega

theorem extendForCurrent_spec (within : strip.Within n) (seen : strip.inWindow = true) :
    (strip.tryExtendThumbWindowForCurrent n).Within n ∧ (strip.tryExtendThumbWindowForCurrent n).inWindow = true ∧
    (strip.items.length ≤ thumbWindowMax → strip.HasRoom n .refresh →
      (strip.tryExtendThumbWindowForCurrent n).items.length ≤ thumbWindowMax) := by
  unfold tryExtendThumbWindowForCurrent
  cases asked : computeCurrentThumbExtendDirection strip.current strip.start strip.stop n with
  | none => exact ⟨within, seen, fun short _ => short⟩
  | some direction =>
    obtain ⟨kept, room, covers⟩ := tryExtend_spec within direction
    exact ⟨kept, covers asked, fun short all => room short (all direction asked)⟩

theorem handle_spec (within : strip.Within n) (event : Event) (inside : ∀ index, event = .select index → index < n) :
    (strip.handle n event).Within n ∧ (event = .refresh → (strip.handle n event).inWindow = true) ∧
    (strip.items.length ≤ thumbWindowMax → strip.HasRoom n event → (strip.handle n event).items.length ≤ thumbWindowMax) := by
  obtain ⟨loaded, around, few⟩ := loadInitial_spec within.current
  have short := Nat.le_trans few (by decide : thumbDefaultWindowLen ≤ thumbWindowMax)
  cases event with
  | select index => exact ⟨{ within with current := inside index rfl }, nofun, fun short _ => short⟩
  | idle => exact ⟨{ within with }, nofun, fun short _ => short⟩
  | load => exact ⟨loaded, nofun, fun _ _ => short⟩
  | extend direction =>
    obtain ⟨kept, room, _⟩ := tryExtend_spec within direction
    exact ⟨kept, nofun, room⟩
  | refresh =>
    unfold handle refreshThumbStrip
    by_cases seen : strip.inWindow = true
    · rw [if_pos seen]
      obtain ⟨kept, covers, room⟩ := extendForCurrent_spec within seen
      exact ⟨kept, fun _ => covers, room⟩
    · rw [if_neg seen]
      obtain ⟨kept, covers, room⟩ := extendForCurrent_spec loaded around
      refine ⟨kept, fun _ => covers, fun _ _ => room short (fun direction _ => .inr (.inr ?_))⟩
      exact Nat.le_trans (Nat.add_le_add few (growth_le n _ direction)) (by decide)

-- The window is a part of the list and covers the photo that was refreshed for
-- in any case; it stays below the cap as long as no extension starts between.
theorem thumb_window_stays_bounded (n first : Nat) (valid : first < n) (events : List Event)
    (inside : ∀ index, .select index ∈ events → index < n) :
    (after n first events).Within n ∧ (after n first (events ++ [.refresh])).inWindow = true ∧
    ((∀ before event, before ++ [event] <+: events → (after n first before).HasRoom n event) →
      (after n first events).items.length ≤ thumbWindowMax) := by
  have next : ∀ before event, after n first (before ++ [event]) = (after n first before).handle n event := by
    intro before event
    simp [after]
  have kept : (after n first events).Within n ∧
      ((∀ before event, before ++ [event] <+: events → (after n first before).HasRoom n event) →
        (after n first events).items.length ≤ thumbWindowMax) := by
    induction events using reverseRecOn with
    | nil =>
      have opened : (⟨first, 0, 0, [], none⟩ : Strip).current < n := valid
      obtain ⟨loaded, _, few⟩ := loadInitial_spec opened
      exact ⟨loaded, fun _ => Nat.le_trans few (by decide)⟩
    | append_singleton before event ih =>
      obtain ⟨within, bounded⟩ := ih (fun index member => inside index (mem_append_left _ member))
      rw [next]
      obtain ⟨kept, _, room⟩ := handle_spec within event (fun index same => inside index (by simp [same]))
      refine ⟨kept, fun roomy => room (bounded (fun front other reached => ?_)) (roomy before event (prefix_refl _))⟩
      exact roomy front other (reached.trans (prefix_append _ _))
  refine ⟨kept.1, ?_, kept.2⟩
  rw [next]
  exact (handle_spec kept.1 .refresh nofun).2.1 rfl

theorem thumb_window_bounded_once : (after 100 50 [.extend .right]).items.length ≤ thumbWindowMax ∧
      (after 100 50 ([.extend .right] ++ [.refresh])).inWindow = true := by
  obtain ⟨_, covers, bounded⟩ := thumb_window_stays_bounded 100 50 (by decide) [.extend .right] (by simp)
  refine ⟨bounded (fun before event reached => ?_), covers⟩
  obtain ⟨rfl, rfl⟩ : before = [] ∧ event = .extend .right := by
    cases before with
    | nil => simpa using reached
    | cons => simp at reached
  exact .inr (.inr (by decide))

theorem thumb_window_outgrows_cap : thumbWindowMax < (after 100 50 ((replicate 8 [.extend .right, .idle]).flatten)).items.length := by
  decide

end Strip
end PhotoSync.Viewer
