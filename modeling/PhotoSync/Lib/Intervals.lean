import Mathlib.Order.Interval.Finset.Nat

set_option autoImplicit false

namespace Intervals
open List

structure Interval where
  start : Nat
  stop : Nat
deriving DecidableEq, Repr

namespace Interval

instance : Membership Nat Interval := ⟨fun range offset => range.start ≤ offset ∧ offset < range.stop⟩

theorem mem_iff (range : Interval) (offset : Nat) : offset ∈ range ↔ range.start ≤ offset ∧ offset < range.stop := Iff.rfl

instance (range : Interval) (offset : Nat) : Decidable (offset ∈ range) :=
  inferInstanceAs (Decidable (range.start ≤ offset ∧ offset < range.stop))

def isEmpty (range : Interval) : Bool := range.stop ≤ range.start

def len (range : Interval) : Nat := range.stop - range.start

def covers (range other : Interval) : Bool := range.start ≤ other.start && other.stop ≤ range.stop

def touches (range other : Interval) : Bool := range.start ≤ other.stop && other.start ≤ range.stop

def union (range other : Interval) : Interval := ⟨min range.start other.start, max range.stop other.stop⟩

def clip (range keep : Interval) : Interval := ⟨max range.start keep.start, min range.stop keep.stop⟩

theorem isEmpty_iff (range : Interval) : range.isEmpty = true ↔ range.stop ≤ range.start := by
  simp [isEmpty]

theorem outside_of_not_covers (range other : Interval) (room : other.start < other.stop)
    (short : range.covers other = false) : ∃ offset ∈ other, offset ∉ range := by
  simp only [Interval.covers, Bool.and_eq_false_iff, decide_eq_false_iff_not] at short
  rcases short with late | early
  · refine ⟨other.start, ?_, ?_⟩
    · rw [mem_iff]
      omega
    · rw [mem_iff]
      omega
  · refine ⟨other.stop - 1, ?_, ?_⟩
    · rw [mem_iff]
      omega
    · rw [mem_iff]
      omega

end Interval

def Covered (ranges : List Interval) (offset : Nat) : Prop := ∃ range ∈ ranges, offset ∈ range

instance (ranges : List Interval) : DecidablePred (Covered ranges) :=
  fun offset => inferInstanceAs (Decidable (∃ range ∈ ranges, offset ∈ range))

theorem covered_nil (offset : Nat) : ¬Covered [] offset := by
  rintro ⟨range, member, _⟩
  cases member

theorem covered_cons (range : Interval) (rest : List Interval) (offset : Nat) :
    Covered (range :: rest) offset ↔ offset ∈ range ∨ Covered rest offset := by
  simp [Covered]

variable {window range : Interval} {ranges : List Interval} {offset : Nat}

theorem covered_perm {others : List Interval} (same : ranges.Perm others) (offset : Nat) :
    Covered ranges offset ↔ Covered others offset := by
  simp only [Covered, same.mem_iff]

-- No range is empty, and between two of them an offset is missing.
structure Separated (ranges : List Interval) : Prop where
  filled : ∀ range ∈ ranges, range.start < range.stop
  apart : ranges.Pairwise (fun first second => first.stop < second.start)

theorem separated_nil : Separated [] := ⟨nofun, .nil⟩

section Coalesce

def coalesceFrom (last : Interval) : List Interval → List Interval
  | [] => [last]
  | next :: rest =>
    if last.touches next then coalesceFrom (last.union next) rest else last :: coalesceFrom next rest

def coalesce : List Interval → List Interval
  | [] => []
  | first :: rest => coalesceFrom first rest

def byStart (first second : Interval) : Prop := first.start ≤ second.start

instance : DecidableRel byStart := fun first second => inferInstanceAs (Decidable (first.start ≤ second.start))

instance : Std.Total byStart := ⟨fun first second => Nat.le_total first.start second.start⟩

instance : IsTrans Interval byStart := ⟨fun _ _ _ => Nat.le_trans⟩

def add (ranges : List Interval) (range : Interval) : List Interval :=
  if range.isEmpty then ranges else coalesce ((ranges ++ [range]).insertionSort byStart)

def within (ranges : List Interval) (keep : Interval) : List Interval := ranges.filterMap (fun range =>
    let clipped := range.clip keep
    if clipped.isEmpty then none else some clipped)

theorem coalesceFrom_spec (rest : List Interval) (last : Interval) (sorted : (last :: rest).Pairwise byStart)
    (filled : ∀ range ∈ last :: rest, range.start < range.stop) :
    Separated (coalesceFrom last rest) ∧ (∀ range ∈ coalesceFrom last rest, last.start ≤ range.start) ∧
      ∀ offset, Covered (coalesceFrom last rest) offset ↔ Covered (last :: rest) offset := by
  induction rest generalizing last with
  | nil =>
    refine ⟨⟨filled, pairwise_singleton _ _⟩, ?_, fun offset => Iff.rfl⟩
    intro range member
    rw [mem_singleton.mp member]
  | cons next rest ih =>
    have ahead : last.start ≤ next.start := rel_of_pairwise_cons sorted mem_cons_self
    have room := filled last mem_cons_self
    have space := filled next (mem_cons_of_mem _ mem_cons_self)
    have later := (pairwise_cons.mp sorted).2
    rw [coalesceFrom]
    split
    · next touching =>
      simp only [Interval.touches, Bool.and_eq_true, decide_eq_true_eq] at touching
      have start : (last.union next).start = last.start := Nat.min_eq_left ahead
      have stop : (last.union next).stop = max last.stop next.stop := rfl
      have joined : ∀ offset, offset ∈ last.union next ↔ offset ∈ last ∨ offset ∈ next := by
        intro offset
        simp only [Interval.mem_iff, start, stop]
        omega
      obtain ⟨separated, after, covers⟩ := ih (last.union next) (by
        refine pairwise_cons.mpr ⟨fun range member => ?_, (pairwise_cons.mp later).2⟩
        have behind : next.start ≤ range.start := rel_of_pairwise_cons later member
        show (last.union next).start ≤ range.start
        omega) (by
        intro range member
        rcases mem_cons.mp member with rfl | member
        · rw [start, stop]
          omega
        · exact filled range (mem_cons_of_mem _ (mem_cons_of_mem _ member)))
      refine ⟨separated, fun range member => start ▸ after range member, fun offset => ?_⟩
      rw [covers, covered_cons, covered_cons, covered_cons, joined, or_assoc]
    · next apart =>
      have gap : last.stop < next.start := by
        simp only [Interval.touches, Bool.and_eq_true, decide_eq_true_eq] at apart
        omega
      obtain ⟨separated, after, covers⟩ := ih next later
        (fun range member => filled range (mem_cons_of_mem _ member))
      refine ⟨⟨?_, ?_⟩, ?_, fun offset => ?_⟩
      · intro range member
        rcases mem_cons.mp member with rfl | member
        · exact room
        · exact separated.filled range member
      · refine pairwise_cons.mpr ⟨fun range member => ?_, separated.apart⟩
        exact Nat.lt_of_lt_of_le gap (after range member)
      · intro range member
        rcases mem_cons.mp member with rfl | member
        · exact Nat.le_refl _
        · exact Nat.le_trans ahead (after range member)
      · rw [covered_cons, covers, covered_cons last]

theorem coalesce_spec (ranges : List Interval) (sorted : ranges.Pairwise byStart) (filled : ∀ range ∈ ranges, range.start < range.stop) :
    Separated (coalesce ranges) ∧ ∀ offset, Covered (coalesce ranges) offset ↔ Covered ranges offset := by
  cases ranges with
  | nil => exact ⟨separated_nil, fun offset => Iff.rfl⟩
  | cons first rest =>
    obtain ⟨separated, _, covers⟩ := coalesceFrom_spec rest first sorted filled
    exact ⟨separated, covers⟩

theorem add_spec (range : Interval) (separated : Separated ranges) :
    Separated (add ranges range) ∧ ∀ offset, Covered (add ranges range) offset ↔ Covered ranges offset ∨ offset ∈ range := by
  unfold add
  split
  · next empty =>
    rw [Interval.isEmpty_iff] at empty
    refine ⟨separated, fun offset => ⟨.inl, fun found => found.resolve_right (fun inside => ?_)⟩⟩
    rw [Interval.mem_iff] at inside
    omega
  · next room =>
    rw [Interval.isEmpty_iff, Nat.not_le] at room
    have shuffled := perm_insertionSort byStart (ranges ++ [range])
    obtain ⟨result, covers⟩ := coalesce_spec _ (pairwise_insertionSort byStart (ranges ++ [range])) (by
      intro other member
      rcases mem_append.mp (shuffled.mem_iff.mp member) with member | member
      · exact separated.filled other member
      · rw [mem_singleton.mp member]
        exact room)
    refine ⟨result, fun offset => ?_⟩
    rw [covers, covered_perm (shuffled.trans (perm_append_comm)) offset, singleton_append, covered_cons, or_comm]

theorem within_spec (ranges : List Interval) (keep : Interval) (separated : Separated ranges) : Separated (within ranges keep) ∧
      ∀ offset, Covered (within ranges keep) offset ↔ Covered ranges offset ∧ offset ∈ keep := by
  have clipped : ∀ range kept : Interval, (if (range.clip keep).isEmpty then none else some (range.clip keep)) = some kept →
      kept = range.clip keep ∧ kept.start < kept.stop := by
    intro range kept found
    split at found
    · cases found
    · next room =>
      cases found
      rw [Interval.isEmpty_iff, Nat.not_le] at room
      exact ⟨rfl, room⟩
  refine ⟨⟨?_, ?_⟩, fun offset => ⟨?_, ?_⟩⟩
  · intro kept member
    obtain ⟨range, _, found⟩ := mem_filterMap.mp member
    exact (clipped range kept found).2
  · refine separated.apart.filterMap _ (fun first second before one kept two other => ?_)
    obtain ⟨rfl, _⟩ := clipped first one kept
    obtain ⟨rfl, _⟩ := clipped second two other
    show min first.stop keep.stop < max second.start keep.start
    omega
  · rintro ⟨kept, member, inside⟩
    obtain ⟨range, present, found⟩ := mem_filterMap.mp member
    obtain ⟨rfl, _⟩ := clipped range kept found
    simp only [Interval.mem_iff, Interval.clip] at inside
    refine ⟨⟨range, present, ?_⟩, ?_⟩
    · rw [Interval.mem_iff]
      omega
    · rw [Interval.mem_iff]
      omega
  · rintro ⟨⟨range, present, inside⟩, kept⟩
    have both : offset ∈ range.clip keep := by
      simp only [Interval.mem_iff, Interval.clip] at inside kept ⊢
      omega
    refine ⟨range.clip keep, mem_filterMap.mpr ⟨range, present, ?_⟩, both⟩
    refine if_neg (fun empty => ?_)
    rw [Interval.isEmpty_iff] at empty
    rw [Interval.mem_iff] at both
    omega

end Coalesce

section FirstGap

def firstUncoveredFrom (requested : Interval) (cursor : Nat) : List Interval → Option Interval
  | [] => some ⟨cursor, requested.stop⟩
  | range :: rest =>
    if range.stop ≤ cursor then firstUncoveredFrom requested cursor rest
    else if requested.stop ≤ range.start then some ⟨cursor, requested.stop⟩
    else if cursor < range.start then some ⟨cursor, min range.start requested.stop⟩
    else
      let cursor := max cursor range.stop
      if requested.stop ≤ cursor then none else firstUncoveredFrom requested cursor rest

def firstUncovered (ranges : List Interval) (requested : Interval) : Option Interval :=
  if requested.isEmpty then none else firstUncoveredFrom requested requested.start ranges

-- The first maximal run of offsets of the window that is not covered.
structure FirstGap (covered : Nat → Prop) (window gap : Interval) : Prop where
  filled : gap.start < gap.stop
  inside : window.start ≤ gap.start ∧ gap.stop ≤ window.stop
  before : ∀ offset, window.start ≤ offset → offset < gap.start → covered offset
  free : ∀ offset ∈ gap, ¬covered offset
  ends : gap.stop = window.stop ∨ covered gap.stop

def Searched (covered : Nat → Prop) (window : Interval) : Option Interval → Prop
  | none => ∀ offset ∈ window, covered offset
  | some gap => FirstGap covered window gap

-- The loop has found everything before its cursor covered, and the ranges it
-- has passed reach nothing from the cursor on.
theorem firstUncoveredFrom_spec {requested : Interval} (covered : Nat → Prop) {rest : List Interval} (cursor : Nat)
    (separated : Separated rest) (entered : requested.start ≤ cursor) (open_ : cursor < requested.stop)
    (passed : ∀ offset, requested.start ≤ offset → offset < cursor → covered offset)
    (ahead : ∀ offset, cursor ≤ offset → (covered offset ↔ Covered rest offset)) :
    Searched covered requested (firstUncoveredFrom requested cursor rest) := by
  induction rest generalizing cursor with
  | nil =>
    refine ⟨open_, ⟨entered, Nat.le_refl _⟩, passed, fun offset inside found => ?_, .inl rfl⟩
    exact covered_nil offset ((ahead offset inside.1).mp found)
  | cons range rest ih =>
    have tail : Separated rest :=
      ⟨fun other member => separated.filled other (mem_cons_of_mem _ member), (pairwise_cons.mp separated.apart).2⟩
    have room := separated.filled range mem_cons_self
    have later : ∀ offset, Covered rest offset → range.stop < offset := by
      rintro offset ⟨other, member, inside⟩
      have behind := rel_of_pairwise_cons separated.apart member
      rw [Interval.mem_iff] at inside
      omega
    have clear : ∀ offset, cursor ≤ offset → offset < range.start → ¬covered offset := by
      intro offset reached short found
      rcases (covered_cons _ _ _).mp ((ahead offset reached).mp found) with inside | found
      · rw [Interval.mem_iff] at inside
        omega
      · have := later offset found
        omega
    rw [firstUncoveredFrom]
    split
    · next behind =>
      refine ih cursor tail entered open_ passed (fun offset reached => ?_)
      rw [ahead offset reached, covered_cons, Interval.mem_iff]
      constructor
      · rintro (inside | found)
        · omega
        · exact found
      · exact .inr
    · split
      · next beyond =>
        refine ⟨open_, ⟨entered, Nat.le_refl _⟩, passed, fun offset inside => ?_, .inl rfl⟩
        exact clear offset inside.1 (Nat.lt_of_lt_of_le inside.2 beyond)
      · next near =>
        split
        · next short =>
          refine ⟨?_, ⟨entered, Nat.min_le_right _ _⟩, passed, fun offset inside => ?_, .inr ?_⟩
          · show cursor < min range.start requested.stop
            omega
          · exact clear offset inside.1 (Nat.lt_of_lt_of_le inside.2 (Nat.min_le_left _ _))
          · show covered (min range.start requested.stop)
            rw [Nat.min_eq_left (by omega), ahead _ (by omega), covered_cons, Interval.mem_iff]
            exact .inl ⟨Nat.le_refl _, room⟩
        · next reached =>
          have advanced : max cursor range.stop = range.stop := by omega
          have grown : ∀ offset, requested.start ≤ offset → offset < range.stop → covered offset := by
            intro offset after short
            by_cases old : offset < cursor
            · exact passed offset after old
            · rw [ahead offset (by omega), covered_cons, Interval.mem_iff]
              exact .inl ⟨by omega, short⟩
          dsimp only
          rw [advanced]
          split
          · next done =>
            exact fun offset inside => grown offset inside.1 (Nat.lt_of_lt_of_le inside.2 done)
          · next more =>
            refine ih range.stop tail (by omega) (by omega) grown (fun offset after => ?_)
            rw [ahead offset (by omega), covered_cons, Interval.mem_iff]
            constructor
            · rintro (inside | found)
              · omega
              · exact found
            · exact .inr

theorem firstUncovered_none (ranges : List Interval) (requested : Interval) (separated : Separated ranges)
    (none : firstUncovered ranges requested = none) : ∀ offset ∈ requested, Covered ranges offset := by
  unfold firstUncovered at none
  split at none
  · next empty =>
    intro offset inside
    rw [Interval.isEmpty_iff] at empty
    rw [Interval.mem_iff] at inside
    omega
  · next room =>
    rw [Interval.isEmpty_iff, Nat.not_le] at room
    have spec := firstUncoveredFrom_spec (Covered ranges) requested.start separated (Nat.le_refl _) room
      (fun _ _ _ => by omega) (fun _ _ => Iff.rfl)
    rw [none] at spec
    exact spec

theorem firstUncovered_some {ranges : List Interval} {requested gap : Interval} (separated : Separated ranges)
    (found : firstUncovered ranges requested = some gap) : FirstGap (Covered ranges) requested gap := by
  unfold firstUncovered at found
  split at found
  · cases found
  · next room =>
    rw [Interval.isEmpty_iff, Nat.not_le] at room
    have spec := firstUncoveredFrom_spec (Covered ranges) requested.start separated (Nat.le_refl _) room
      (fun _ _ _ => by omega) (fun _ _ => Iff.rfl)
    rw [found] at spec
    exact spec

end FirstGap

section Gaps
variable {covered grown : Nat → Prop} [DecidablePred covered] [DecidablePred grown]

def gapStarts (covered : Nat → Prop) [DecidablePred covered] (window : Interval) : Finset Nat :=
  (Finset.Ico window.start window.stop).filter (fun offset =>
    ¬covered offset ∧ (offset = window.start ∨ covered (offset - 1)))

def gaps (covered : Nat → Prop) [DecidablePred covered] (window : Interval) : Nat := (gapStarts covered window).card

theorem mem_gapStarts (window : Interval) (offset : Nat) : offset ∈ gapStarts covered window ↔
      offset ∈ window ∧ ¬covered offset ∧ (offset = window.start ∨ covered (offset - 1)) := by
  simp [gapStarts, Interval.mem_iff]

theorem gaps_congr (window : Interval) (same : ∀ offset ∈ window, covered offset ↔ grown offset) :
    gaps covered window = gaps grown window := by
  refine congrArg Finset.card (Finset.ext (fun offset => ?_))
  rw [mem_gapStarts, mem_gapStarts]
  refine and_congr_right (fun inside => and_congr (not_congr (same offset inside)) ?_)
  by_cases start : offset = window.start
  · simp [start]
  · rw [same (offset - 1) (by rw [Interval.mem_iff] at inside ⊢; omega)]

theorem gaps_full (window : Interval) (full : ∀ offset ∈ window, covered offset) : gaps covered window = 0 := by
  refine Finset.card_eq_zero.mpr (Finset.eq_empty_of_forall_notMem (fun offset member => ?_))
  obtain ⟨inside, free, _⟩ := (mem_gapStarts window offset).mp member
  exact free (full offset inside)

theorem gapStarts_grown (grows : ∀ offset ∈ window, grown offset ↔ covered offset ∨ offset ∈ range)
    (member : offset ∈ gapStarts grown window) :
    offset = range.stop ∨ (offset ∈ gapStarts covered window ∧ offset ∉ range) := by
  obtain ⟨inside, free, first⟩ := (mem_gapStarts window offset).mp member
  rw [grows offset inside, not_or] at free
  by_cases start : offset = window.start
  · exact .inr ⟨(mem_gapStarts window offset).mpr ⟨inside, free.1, .inl start⟩, free.2⟩
  · have held := first.resolve_left start
    rw [grows (offset - 1) (by rw [Interval.mem_iff] at inside ⊢; omega)] at held
    rcases held with held | entered
    · exact .inr ⟨(mem_gapStarts window offset).mpr ⟨inside, free.1, .inr held⟩, free.2⟩
    · left
      have out := free.2
      rw [Interval.mem_iff] at entered out
      omega

theorem gaps_grown (grows : ∀ offset ∈ window, grown offset ↔ covered offset ∨ offset ∈ range) :
    gaps grown window ≤ gaps covered window + 1 := by
  refine (Finset.card_le_card (t := insert range.stop (gapStarts covered window)) (fun offset member => ?_)).trans
    (Finset.card_insert_le _ _)
  rcases gapStarts_grown grows member with rfl | ⟨old, _⟩
  · exact Finset.mem_insert_self _ _
  · exact Finset.mem_insert_of_mem old

theorem exists_gapStart (inside : offset ∈ window) (free : ¬covered offset) :
    ∃ start ∈ gapStarts covered window, start ≤ offset ∧ ∀ between, start ≤ between → between ≤ offset → ¬covered between := by
  induction offset with
  | zero =>
    rw [Interval.mem_iff] at inside
    refine ⟨0, (mem_gapStarts window 0).mpr ⟨inside, free, .inl (by omega)⟩, Nat.le_refl _, ?_⟩
    intro between _ last
    rwa [Nat.le_zero.mp last]
  | succ offset ih =>
    by_cases starts : offset + 1 = window.start ∨ covered offset
    · refine ⟨offset + 1, (mem_gapStarts window _).mpr ⟨inside, free, starts⟩, Nat.le_refl _, ?_⟩
      intro between first last
      rwa [Nat.le_antisymm last first]
    · rw [not_or] at starts
      obtain ⟨start, member, before, clear⟩ := ih (by rw [Interval.mem_iff] at inside ⊢; omega) starts.2
      refine ⟨start, member, Nat.le_succ_of_le before, fun between first last => ?_⟩
      rcases Nat.lt_or_eq_of_le last with short | rfl
      · exact clear between first (Nat.le_of_lt_succ short)
      · exact free

-- A range that begins at or before a gap, or right after what is covered, splits no gap.
theorem gaps_unsplit (grows : ∀ offset ∈ window, grown offset ↔ covered offset ∨ offset ∈ range)
    (edge : range.start ≤ window.start ∨ covered (range.start - 1)) : gaps grown window ≤ gaps covered window := by
  by_cases opens : range.stop ∈ gapStarts grown window ∧ range.stop ∉ gapStarts covered window
  · obtain ⟨opened, fresh⟩ := opens
    obtain ⟨inside, free, first⟩ := (mem_gapStarts window range.stop).mp opened
    rw [grows range.stop inside, not_or] at free
    have last : range.stop ≠ window.start ∧ ¬covered (range.stop - 1) := by
      refine ⟨fun start => ?_, fun held => ?_⟩
      · exact fresh ((mem_gapStarts window _).mpr ⟨inside, free.1, .inl start⟩)
      · exact fresh ((mem_gapStarts window _).mpr ⟨inside, free.1, .inr held⟩)
    have before : range.stop - 1 ∈ window := by
      rw [Interval.mem_iff] at inside ⊢
      omega
    have entered : range.stop - 1 ∈ range := ((grows _ before).mp (first.resolve_left last.1)).resolve_left last.2
    -- The gap that the range ends in began inside it, and is one less.
    obtain ⟨start, member, reached, clear⟩ := exists_gapStart before last.2
    have started : start ∈ range := by
      obtain ⟨within, _, _⟩ := (mem_gapStarts window start).mp member
      rw [Interval.mem_iff] at within entered ⊢
      rcases edge with early | held
      · omega
      · by_contra outside
        exact clear (range.start - 1) (by omega) (by omega) held
    have fewer : gapStarts grown window ⊆ insert range.stop ((gapStarts covered window).erase start) := by
      intro offset found
      rcases gapStarts_grown grows found with rfl | ⟨old, out⟩
      · exact Finset.mem_insert_self _ _
      · refine Finset.mem_insert_of_mem (Finset.mem_erase.mpr ⟨?_, old⟩)
        rintro rfl
        exact out started
    calc gaps grown window
      _ ≤ (insert range.stop ((gapStarts covered window).erase start)).card := Finset.card_le_card fewer
      _ ≤ ((gapStarts covered window).erase start).card + 1 := Finset.card_insert_le _ _
      _ = gaps covered window := Finset.card_erase_add_one member
  · refine Finset.card_le_card (fun offset found => ?_)
    rcases gapStarts_grown grows found with rfl | ⟨old, _⟩
    · by_contra fresh
      exact opens ⟨found, fresh⟩
    · exact old

theorem gaps_filled {window gap : Interval} (first : FirstGap covered window gap)
    (grows : ∀ offset ∈ window, grown offset ↔ covered offset ∨ offset ∈ gap) : gaps grown window < gaps covered window := by
  have member : gap.start ∈ gapStarts covered window := by
    have inside := first.inside
    have filled := first.filled
    refine (mem_gapStarts window _).mpr ⟨?_, first.free gap.start ⟨Nat.le_refl _, filled⟩, ?_⟩
    · rw [Interval.mem_iff]
      omega
    · by_cases start : gap.start = window.start
      · exact .inl start
      · exact .inr (first.before _ (by omega) (by omega))
  refine (Finset.card_le_card (fun offset found => ?_)).trans_lt (Finset.card_erase_lt_of_mem member)
  rcases gapStarts_grown grows found with rfl | ⟨old, out⟩
  · -- The gap ends with the window or before a covered offset.
    obtain ⟨inside, free, _⟩ := (mem_gapStarts window gap.stop).mp found
    rw [grows _ inside, not_or] at free
    rcases first.ends with last | held
    · rw [Interval.mem_iff] at inside
      omega
    · exact absurd held free.1
  · refine Finset.mem_erase.mpr ⟨?_, old⟩
    rintro rfl
    exact out ⟨Nat.le_refl _, first.filled⟩

end Gaps
end Intervals
