import Mathlib.Data.List.Sort
import Mathlib.Data.List.Perm.Subperm

set_option autoImplicit false

namespace Ranking
open List

universe u v w

section Order
variable {α : Type u} {κ : Type v} [LinearOrder κ] (key : α → κ)

def Ranked (items : List α) : Prop := items.Pairwise (fun first second => key first < key second)

def before (items : List α) (bound : κ) : Nat := items.countP (fun item => decide (key item < bound))

def place (item : α) (items : List α) : List α := items.insertIdx (items.findIdx (fun other => decide (key item < key other))) item

def rank (items : List α) : List α := items.insertionSort (fun first second => key first ≤ key second)

variable {key}
variable {items : List α} {item : α} {low high bound : κ}

theorem Ranked.nodup (ranked : Ranked key items) : items.Nodup :=
  ranked.imp (fun less same => absurd (congrArg key same) (ne_of_lt less))

theorem ranked_ext {others : List α} (ranked : Ranked key items) (rankedOthers : Ranked key others)
    (same : ∀ item, item ∈ items ↔ item ∈ others) : items = others := by
  have perm : items.Perm others := (perm_ext_iff_of_nodup ranked.nodup rankedOthers.nodup).mpr same
  exact perm.eq_of_pairwise (fun _ _ _ _ less more => absurd more (lt_asymm less)) ranked rankedOthers

theorem eq_of_subset {others : List α} (ranked : Ranked key items) (rankedOthers : Ranked key others)
    (subset : ∀ item ∈ items, item ∈ others) (long : others.length ≤ items.length) : items = others := by
  have perm : items.Perm others := (ranked.nodup.subperm subset).perm_of_length_le long
  exact ranked_ext ranked rankedOthers (fun item => perm.mem_iff)

theorem before_perm {others : List α} (perm : items.Perm others) (bound : κ) :
    before key items bound = before key others bound := perm.countP_eq _

theorem before_append (items others : List α) (bound : κ) :
    before key (items ++ others) bound = before key items bound + before key others bound := countP_append

theorem before_mono (key : α → κ) (items : List α) (le : low ≤ high) : before key items low ≤ before key items high := by
  apply countP_mono_left
  intro item _ less
  simp only [decide_eq_true_eq] at less ⊢
  exact lt_of_lt_of_le less le

theorem before_succ_le (member : item ∈ items) (less : key item < bound) : before key items (key item) + 1 ≤ before key items bound := by
  induction items with
  | nil => simp at member
  | cons head tail ih =>
    simp only [before, countP_cons, decide_eq_true_eq] at ih ⊢
    rcases mem_cons.mp member with rfl | inTail
    · have mono := before_mono key tail (le_of_lt less)
      simp only [before] at mono
      rw [if_neg (lt_irrefl _), if_pos less]
      omega
    · have step := ih inTail
      by_cases low : key head < key item
      · rw [if_pos low, if_pos (lt_trans low less)]
        omega
      · rw [if_neg low]
        omega

theorem before_eq_zero (behind : ∀ item ∈ items, bound ≤ key item) : before key items bound = 0 := by
  rw [before, countP_eq_zero]
  intro item member
  simpa using behind item member

theorem lt_of_before_lt (less : before key items low < before key items high) : low < high := by
  by_contra le
  have mono := before_mono key items (not_lt.mp le)
  omega

theorem before_lt_length (member : item ∈ items) : before key items (key item) < items.length := by
  refine lt_of_le_of_ne countP_le_length (fun all => ?_)
  have less := countP_eq_length.mp all item member
  simp at less

theorem mem_take (ranked : Ranked key items) (count : Nat) (item : α) :
    item ∈ items.take count ↔ item ∈ items ∧ before key items (key item) < count := by
  induction items generalizing count with
  | nil => simp
  | cons head tail ih =>
    obtain ⟨least, rankedTail⟩ := pairwise_cons.mp ranked
    cases count with
    | zero => simp
    | succ =>
      rw [take_succ_cons, mem_cons, ih rankedTail, mem_cons]
      simp only [before, countP_cons, decide_eq_true_eq]
      constructor
      · rintro (rfl | ⟨inTail, few⟩)
        · have none := before_eq_zero (fun other member => le_of_lt (least other member))
          simp only [before] at none
          simp [none]
        · refine ⟨Or.inr inTail, ?_⟩
          rw [if_pos (least item inTail)]
          omega
      · rintro ⟨rfl | inTail, few⟩
        · exact Or.inl rfl
        · rw [if_pos (least item inTail)] at few
          exact Or.inr ⟨inTail, by omega⟩

theorem behind_of_cut (ranked : Ranked key items) {count : Nat} (member : item ∈ items) (cut : item ∉ items.take count) :
    count ≤ before key items (key item) := by
  by_contra few
  exact cut ((mem_take ranked count item).mpr ⟨member, by omega⟩)

theorem Ranked.take (ranked : Ranked key items) (count : Nat) : Ranked key (items.take count) :=
  List.Pairwise.sublist (take_sublist count items) ranked

theorem Ranked.filter (ranked : Ranked key items) (test : α → Bool) : Ranked key (items.filter test) := List.Pairwise.filter test ranked

theorem place_cons (item head : α) (tail : List α) :
    place key item (head :: tail) = if key item < key head then item :: head :: tail else head :: place key item tail := by
  by_cases less : key item < key head
  · simp [place, findIdx_cons, less]
  · simp [place, findIdx_cons, less]

theorem place_perm (item : α) (items : List α) : (place key item items).Perm (item :: items) :=
  perm_insertIdx item items findIdx_le_length

theorem mem_place {item : α} {items : List α} {other : α} : other ∈ place key item items ↔ other = item ∨ other ∈ items := by
  rw [(place_perm item items).mem_iff, mem_cons]

theorem length_place (item : α) (items : List α) : (place key item items).length = items.length + 1 := (place_perm item items).length_eq

theorem before_place (item : α) (items : List α) (bound : κ) :
    before key (place key item items) bound = before key items bound + (if key item < bound then 1 else 0) := by
  rw [before_perm (place_perm item items)]
  simp [before, countP_cons]

theorem ranked_place (ranked : Ranked key items) (fresh : ∀ other ∈ items, key other ≠ key item) :
    Ranked key (place key item items) := by
  induction items with
  | nil => simp [place, Ranked]
  | cons head tail ih =>
    obtain ⟨least, rankedTail⟩ := pairwise_cons.mp ranked
    rw [place_cons]
    by_cases less : key item < key head
    · rw [if_pos less]
      refine pairwise_cons.mpr ⟨?_, ranked⟩
      intro other member
      rcases mem_cons.mp member with rfl | inTail
      · exact less
      · exact lt_trans less (least other inTail)
    · rw [if_neg less]
      refine pairwise_cons.mpr ⟨?_, ih rankedTail (fun other member => fresh other (mem_cons_of_mem _ member))⟩
      intro other member
      rcases mem_place.mp member with rfl | inTail
      · exact lt_of_le_of_ne (not_lt.mp less) (fresh head mem_cons_self)
      · exact least other inTail

theorem place_behind (item : α) (items : List α) (behind : ∀ other ∈ items, key other < key item) :
    place key item items = items ++ [item] := by
  induction items with
  | nil => rfl
  | cons head tail ih =>
    have low : ¬ key item < key head := not_lt.mpr (le_of_lt (behind head mem_cons_self))
    rw [place_cons, if_neg low, ih (fun other member => behind other (mem_cons_of_mem _ member))]
    rfl

theorem take_place (item : α) (items : List α) (count : Nat) :
    (place key item (items.take count)).take count = (place key item items).take count := by
  induction items generalizing count with
  | nil => simp
  | cons head tail ih =>
    cases count with
    | zero => simp
    | succ count =>
      rw [take_succ_cons, place_cons, place_cons]
      by_cases less : key item < key head
      · rw [if_pos less, if_pos less]
        cases count with
        | zero => simp
        | succ => simp [take_take]
      · rw [if_neg less, if_neg less, take_succ_cons, take_succ_cons, ih]

theorem place_take (item : α) (items : List α) (fresh : ∀ other ∈ items, key other ≠ key item) (count : Nat)
    (near : before key items (key item) ≤ count) :
    place key item (items.take count) = (place key item items).take (count + 1) := by
  induction items generalizing count with
  | nil => simp [place]
  | cons head tail ih =>
    rw [place_cons]
    by_cases less : key item < key head
    · rw [if_pos less]
      cases count with
      | zero => simp [place]
      | succ =>
        rw [take_succ_cons, place_cons, if_pos less]
        rfl
    · rw [if_neg less]
      have below : key head < key item := lt_of_le_of_ne (not_lt.mp less) (fresh head mem_cons_self)
      simp only [before, countP_cons, decide_eq_true_eq, if_pos below] at near
      cases count with
      | zero => omega
      | succ count =>
        rw [take_succ_cons, place_cons, if_neg less, take_succ_cons,
          ih (fun other member => fresh other (mem_cons_of_mem _ member)) count (by simp only [before]; omega)]

theorem rank_perm (items : List α) : (rank key items).Perm items := perm_insertionSort _ items

theorem mem_rank (items : List α) (item : α) : item ∈ rank key items ↔ item ∈ items := (rank_perm items).mem_iff

theorem ranked_rank (distinct : items.Pairwise (fun first second => key first ≠ key second)) : Ranked key (rank key items) := by
  have sorted : (rank key items).Pairwise (fun first second => key first ≤ key second) := pairwise_insertionSort _ items
  have apart : (rank key items).Pairwise (fun first second => key first ≠ key second) :=
    (rank_perm items).symm.pairwise distinct (fun ne => ne.symm)
  exact sorted.imp₂ (fun _ _ le ne => lt_of_le_of_ne le ne) apart

end Order

section Identity
variable {α : Type u} {ι : Type w} (ident : α → ι)

def Distinct (items : List α) : Prop := items.Pairwise (fun first second => ident first ≠ ident second)

variable {ident}

theorem Distinct.eq_of_ident {items : List α} (distinct : Distinct ident items) {first second : α}
    (inFirst : first ∈ items) (inSecond : second ∈ items) (same : ident first = ident second) : first = second :=
  inj_on_of_nodup_map (pairwise_map.mpr distinct) inFirst inSecond same

theorem Distinct.filter {items : List α} (distinct : Distinct ident items) (test : α → Bool) :
    Distinct ident (items.filter test) := List.Pairwise.filter test distinct

theorem Distinct.perm {items others : List α} (distinct : Distinct ident items) (perm : items.Perm others) :
    Distinct ident others := perm.pairwise distinct (fun ne => ne.symm)

end Identity

-- Items that replace one another by identity, kept in rank order up to a cap.
section Upsert
variable {α : Type u} {κ : Type v} {ι : Type w} [LinearOrder κ] [DecidableEq ι] (key : α → κ) (ident : α → ι)

def others (item : α) (items : List α) : List α := items.filter (fun other => decide (ident other ≠ ident item))

def upsert (cap : Nat) (items : List α) (item : α) : List α := (place key item (others ident item items)).take cap

def kept (items incoming : List α) : List α := items.filter (fun item => decide (∀ new ∈ incoming, ident new ≠ ident item))

def merged (items incoming : List α) : List α := rank key (kept ident items incoming ++ incoming)

-- How far back an item is pushed: what stood before it, and what comes in before it without having stood there.
def overtaken (items incoming : List α) (item : α) : Nat := before key items (key item) + incoming.countP (fun new =>
    decide (key new < key item ∧ ∀ old ∈ items, ident old = ident new → key item ≤ key old))

variable {key} {ident}

theorem mem_others {item : α} {items : List α} {other : α} :
    other ∈ others ident item items ↔ other ∈ items ∧ ident other ≠ ident item := by
  simp [others]

theorem others_cons_same {item head : α} (tail : List α) (same : ident head = ident item) :
    others ident item (head :: tail) = others ident item tail := filter_cons_of_neg (by simpa using same)

theorem others_cons_other (item head : α) (tail : List α) (different : ident head ≠ ident item) :
    others ident item (head :: tail) = head :: others ident item tail := filter_cons_of_pos (by simpa using different)

theorem others_absent (item : α) (items : List α) (absent : ∀ other ∈ items, ident other ≠ ident item) :
    others ident item items = items :=
  filter_eq_self.mpr (fun other member => by simpa using absent other member)

theorem mem_kept {items incoming : List α} {item : α} :
    item ∈ kept ident items incoming ↔ item ∈ items ∧ ∀ new ∈ incoming, ident new ≠ ident item := by
  simp [kept]

variable {items incoming : List α} {item old new : α}

theorem distinct_place (distinct : Distinct ident items) : Distinct ident (place key item (others ident item items)) := by
  refine Distinct.perm ?_ (place_perm item _).symm
  refine pairwise_cons.mpr ⟨?_, distinct.filter _⟩
  intro other member
  exact Ne.symm (mem_others.mp member).2

theorem others_take_absent (item : α) (items : List α) (count : Nat) (absent : ∀ other ∈ items.take count, ident other ≠ ident item) :
    others ident item (items.take count) = (others ident item items).take count := by
  induction items generalizing count with
  | nil => simp [others]
  | cons head tail ih =>
    cases count with
    | zero => simp [others]
    | succ count =>
      have different : ident head ≠ ident item := absent head (by simp)
      rw [take_succ_cons, others_cons_other item head _ different, others_cons_other item head _ different,
        take_succ_cons, ih count (fun other member => absent other (by simp [member]))]

theorem others_take_present (distinct : Distinct ident items) (count : Nat) (present : old ∈ items.take (count + 1))
    (same : ident old = ident item) : others ident item (items.take (count + 1)) = (others ident item items).take count := by
  induction items generalizing count with
  | nil => simp at present
  | cons head tail ih =>
    obtain ⟨apart, distinctTail⟩ := pairwise_cons.mp distinct
    rw [take_succ_cons] at present ⊢
    by_cases found : ident head = ident item
    · have absent : ∀ other ∈ tail, ident other ≠ ident item := fun other member =>
        found ▸ (apart other member).symm
      rw [others_cons_same _ found, others_cons_same _ found, others_absent item tail absent,
        others_absent item _ (fun other member => absent other (mem_of_mem_take member))]
    · have inTail : old ∈ tail.take count := by
        rcases mem_cons.mp present with rfl | inTail
        · exact absurd same found
        · exact inTail
      cases count with
      | zero => simp at inTail
      | succ count =>
        rw [others_cons_other item head _ found, others_cons_other item head _ found, take_succ_cons, ih distinctTail count inTail]

theorem perm_others (distinct : Distinct ident items) (member : old ∈ items) (same : ident old = ident item) :
    items.Perm (old :: others ident item items) := by
  have nodup : ∀ {list : List α}, Distinct ident list → list.Nodup := fun apart =>
    apart.imp (fun differ equal => differ (congrArg ident equal))
  have fresh : ∀ other ∈ others ident item items, ident old ≠ ident other := fun other inOthers alike =>
    (mem_others.mp inOthers).2 (alike.symm.trans same)
  refine (perm_ext_iff_of_nodup (nodup distinct) (nodup (pairwise_cons.mpr ⟨fresh, distinct.filter _⟩))).mpr (fun other => ?_)
  rw [mem_cons, mem_others]
  constructor
  · intro inItems
    by_cases alike : ident other = ident item
    · exact .inl (distinct.eq_of_ident inItems member (alike.trans same.symm))
    · exact .inr ⟨inItems, alike⟩
  · rintro (rfl | ⟨inItems, _⟩)
    · exact member
    · exact inItems

theorem before_others (distinct : Distinct ident items) (member : old ∈ items) (same : ident old = ident item) (bound : κ) :
    before key items bound = before key (others ident item items) bound + (if key old < bound then 1 else 0) := by
  rw [before_perm (perm_others distinct member same)]
  simp [before, countP_cons]

theorem length_others (distinct : Distinct ident items) (member : old ∈ items) (same : ident old = ident item) :
    (others ident item items).length + 1 = items.length :=
  (perm_others distinct member same).length_eq.symm

theorem mem_merged {items incoming : List α} {item : α} : item ∈ merged key ident items incoming ↔
      (item ∈ items ∧ ∀ new ∈ incoming, ident new ≠ ident item) ∨ item ∈ incoming := by
  rw [merged, mem_rank, mem_append, mem_kept]

theorem before_merged_le (key : α → κ) (ident : α → ι) (items incoming : List α) (bound : κ) (behind : ∀ new ∈ incoming, bound ≤ key new) :
    before key (merged key ident items incoming) bound ≤ before key items bound := by
  rw [merged, before_perm (rank_perm _), before_append, before_eq_zero behind]
  exact List.Sublist.countP_le filter_sublist

theorem overtaken_ge (items incoming : List α) (item : α) :
    before key items (key item) ≤ overtaken key ident items incoming item := Nat.le_add_right _ _

theorem overtaken_perm (items : List α) {others : List α} (perm : incoming.Perm others) (item : α) :
    overtaken key ident items incoming item = overtaken key ident items others item := by
  rw [overtaken, overtaken, perm.countP_eq]

theorem before_merged (items incoming : List α) (bound : κ) :
    before key (merged key ident items incoming) bound = before key (kept ident items incoming ++ incoming) bound :=
  before_perm (rank_perm _) bound

theorem length_merged (items incoming : List α) :
    (merged key ident items incoming).length = (kept ident items incoming).length + incoming.length := by
  rw [merged, (rank_perm _).length_eq, length_append]

variable (keyed : ∀ first second : α, key first = key second → ident first = ident second)

include keyed

theorem ranked_upserted (ranked : Ranked key items) (item : α) : Ranked key (place key item (others ident item items)) := by
  refine ranked_place (ranked.filter _) ?_
  intro other member same
  exact (mem_others.mp member).2 (keyed other item same)

theorem ranked_merged (distinct : Distinct ident items) (distinctIn : Distinct ident incoming) :
    Ranked key (merged key ident items incoming) := by
  apply ranked_rank
  have all : Distinct ident (kept ident items incoming ++ incoming) := by
    refine pairwise_append.mpr ⟨distinct.filter _, distinctIn, ?_⟩
    intro item member new memberIn same
    exact (mem_kept.mp member).2 new memberIn same.symm
  exact all.imp (fun ne same => ne (keyed _ _ same))

theorem merged_perm {others : List α} (distinct : Distinct ident items) (distinctIn : Distinct ident incoming)
    (perm : incoming.Perm others) : merged key ident items incoming = merged key ident items others := by
  refine ranked_ext (ranked_merged keyed distinct distinctIn)
    (ranked_merged keyed distinct (distinctIn.perm perm)) (fun item => ?_)
  simp only [mem_merged, perm.mem_iff]

theorem merged_upserted {rest : List α} (distinct : Distinct ident items) (distinctIn : Distinct ident (new :: rest)) :
    merged key ident (place key new (others ident new items)) rest = merged key ident items (new :: rest) := by
  obtain ⟨apart, distinctRest⟩ := pairwise_cons.mp distinctIn
  refine ranked_ext (ranked_merged keyed (distinct_place distinct) distinctRest)
    (ranked_merged keyed distinct distinctIn) ?_
  intro item
  simp only [mem_merged, mem_place, mem_others, mem_cons, forall_eq_or_imp]
  constructor
  · rintro (⟨rfl | ⟨member, different⟩, unmatched⟩ | inRest)
    · exact Or.inr (Or.inl rfl)
    · exact Or.inl ⟨member, different.symm, unmatched⟩
    · exact Or.inr (Or.inr inRest)
  · rintro (⟨member, different, unmatched⟩ | rfl | inRest)
    · exact Or.inl ⟨Or.inr ⟨member, different.symm⟩, unmatched⟩
    · exact Or.inl ⟨Or.inl rfl, fun other member => (apart other member).symm⟩
    · exact Or.inr inRest

theorem merged_nil (ranked : Ranked key items) (distinct : Distinct ident items) : merged key ident items [] = items := by
  refine ranked_ext (ranked_merged keyed distinct List.Pairwise.nil) ranked (fun item => ?_)
  simp [mem_merged]

omit keyed in
theorem length_upserted (distinct : Distinct ident items) (item : α) :
    items.length ≤ (place key item (others ident item items)).length := by
  rw [length_place]
  by_cases present : ∃ old ∈ items, ident old = ident item
  · obtain ⟨old, member, same⟩ := present
    exact le_of_eq (length_others distinct member same).symm
  · rw [others_absent item items (fun other member same => present ⟨other, member, same⟩)]
    omega

theorem length_le_merged (ranked : Ranked key items) (distinct : Distinct ident items)
    (distinctIn : Distinct ident incoming) : items.length ≤ (merged key ident items incoming).length := by
  induction incoming generalizing items with
  | nil => rw [merged_nil keyed ranked distinct]
  | cons new rest ih =>
    rw [← merged_upserted keyed distinct distinctIn]
    exact le_trans (length_upserted distinct new)
      (ih (ranked_upserted keyed ranked new) (distinct_place distinct) (pairwise_cons.mp distinctIn).2)

theorem length_lt_merged (ranked : Ranked key items) (distinct : Distinct ident items)
    (distinctIn : Distinct ident incoming) (member : new ∈ incoming) (fresh : ∀ old ∈ items, ident old ≠ ident new) :
    items.length < (merged key ident items incoming).length := by
  induction incoming generalizing items with
  | nil => simp at member
  | cons head rest ih =>
    obtain ⟨apart, distinctRest⟩ := pairwise_cons.mp distinctIn
    rw [← merged_upserted keyed distinct distinctIn]
    rcases mem_cons.mp member with rfl | inRest
    · have grown := length_le_merged keyed (ranked_upserted keyed ranked new) (distinct_place distinct) distinctRest
      rw [length_place, others_absent new items fresh] at grown
      rw [others_absent new items fresh]
      omega
    · refine lt_of_le_of_lt (length_upserted distinct head)
        (ih (ranked_upserted keyed ranked head) (distinct_place distinct) distinctRest inRest ?_)
      intro old inPlaced same
      rcases mem_place.mp inPlaced with rfl | inOthers
      · exact apart new inRest same
      · exact fresh old (mem_others.mp inOthers).1 same

end Upsert

-- The item it replaces is still within the cap, and its own place is behind it.
def Late {α : Type u} {κ : Type v} {ι : Type w} [LinearOrder κ] [DecidableEq ι] (key : α → κ) (ident : α → ι)
    (cap : Nat) (items : List α) (new : α) : Prop :=
  (∃ old ∈ items.take cap, ident old = ident new) ∧ cap ≤ before key (others ident new items) (key new)

variable {cap : Nat}

section Cap
variable {α : Type u} {κ : Type v} {ι : Type w} [LinearOrder κ] [DecidableEq ι] {key : α → κ} {ident : α → ι}
variable (keyed : ∀ first second : α, key first = key second → ident first = ident second)

include keyed

variable {items rest incoming : List α} {new old : α}

theorem upsert_take (distinct : Distinct ident items) (prompt : ¬ Late key ident cap items new) :
    upsert key ident cap (items.take cap) new = (place key new (others ident new items)).take cap := by
  rw [upsert]
  by_cases present : ∃ old ∈ items.take cap, ident old = ident new
  · obtain ⟨old, member, same⟩ := present
    cases cap with
    | zero => simp
    | succ count =>
      have near : before key (others ident new items) (key new) ≤ count := by
        by_contra far
        exact prompt ⟨⟨old, member, same⟩, by omega⟩
      have fresh : ∀ other ∈ others ident new items, key other ≠ key new := fun other found same =>
        (mem_others.mp found).2 (keyed other new same)
      rw [others_take_present distinct count member same, place_take new _ fresh count near, take_take, min_self]
  · have absent : ∀ other ∈ items.take cap, ident other ≠ ident new := fun other member same =>
      present ⟨other, member, same⟩
    rw [others_take_absent new items cap absent, take_place]

theorem prompt_admitted (ranked : Ranked key items) (distinct : Distinct ident items)
    (distinctIn : Distinct ident (new :: rest)) (later : ∀ other ∈ rest, key new < key other)
    (prompt : ¬ Late key ident cap items new) (member : old ∈ items) (same : ident old = ident new) :
    before key (merged key ident items (new :: rest)) (key new) < cap ∨ cap ≤ overtaken key ident items (new :: rest) old := by
  by_cases within : old ∈ items.take cap
  · have near : before key (others ident new items) (key new) < cap := by
      by_contra far
      exact prompt ⟨⟨old, within, same⟩, by omega⟩
    have bound := before_merged_le key ident (place key new (others ident new items)) rest (key new)
      (fun other found => le_of_lt (later other found))
    rw [merged_upserted keyed distinct distinctIn, before_place, if_neg (lt_irrefl _)] at bound
    exact Or.inl (by omega)
  · exact Or.inr (le_trans (behind_of_cut ranked member within) (overtaken_ge items _ old))

omit keyed in
theorem newcomers_upserted (distinctIn : Distinct ident (new :: rest)) : rest.countP (fun other => decide (key other < key old ∧
        ∀ former ∈ place key new (others ident new items), ident former = ident other → key old ≤ key former)) =
      rest.countP (fun other => decide (key other < key old ∧ ∀ former ∈ items, ident former = ident other → key old ≤ key former)) := by
  obtain ⟨apart, -⟩ := pairwise_cons.mp distinctIn
  refine countP_congr (fun other inRest => ?_)
  simp only [decide_eq_true_eq]
  refine and_congr_right (fun _ => ?_)
  constructor
  · intro all former inItems alike
    have inOthers : former ∈ others ident new items := mem_others.mpr ⟨inItems, fun same => apart other inRest (same.symm.trans alike)⟩
    exact all former (mem_place.mpr (Or.inr inOthers)) alike
  · intro all former inPlaced alike
    rcases mem_place.mp inPlaced with rfl | inOthers
    · exact absurd alike (apart other inRest)
    · exact all former (mem_others.mp inOthers).1 alike

omit keyed in
-- Whether the old place is within the cap is decided before an item leaves from in front of it to behind it.
theorem crossing_decided {former : α} (ranked : Ranked key items) (distinct : Distinct ident items)
    (prompt : ¬ Late key ident cap items new) (inItems : former ∈ items) (alike : ident former = ident new)
    (ahead : key former < key old) (inOthers : old ∈ others ident new items) (crossing : key old < key new) :
    cap ≤ before key (others ident new items) (key old) ↔ cap ≤ before key (others ident new items) (key old) + 1 := by
  by_cases within : former ∈ items.take cap
  · have near : before key (others ident new items) (key new) < cap := by
      by_contra far
      exact prompt ⟨⟨former, within, alike⟩, by omega⟩
    have step := before_succ_le inOthers crossing
    omega
  · have behind := behind_of_cut ranked inItems within
    have step := before_succ_le inItems ahead
    rw [before_others distinct inItems alike (key old), if_pos ahead] at step
    omega

theorem overtaken_upserted (ranked : Ranked key items) (distinct : Distinct ident items)
    (distinctIn : Distinct ident (new :: rest)) (later : ∀ other ∈ rest, key new < key other)
    (prompt : ¬ Late key ident cap items new) (member : old ∈ items) (different : ident old ≠ ident new) :
    cap ≤ overtaken key ident (place key new (others ident new items)) rest old ↔ cap ≤ overtaken key ident items (new :: rest) old := by
  simp only [overtaken, countP_cons, decide_eq_true_eq, newcomers_upserted distinctIn, before_place]
  generalize countEq : rest.countP (fun other => decide (key other < key old ∧
    ∀ former ∈ items, ident former = ident other → key old ≤ key former)) = count
  by_cases present : ∃ former ∈ items, ident former = ident new
  · obtain ⟨former, inItems, alike⟩ := present
    have only : (∀ other ∈ items, ident other = ident new → key old ≤ key other) ↔ key old ≤ key former := by
      constructor
      · exact fun all => all former inItems alike
      · intro le other inOther same
        rw [distinct.eq_of_ident inOther inItems (same.trans alike.symm)]
        exact le
    simp only [before_others distinct inItems alike (key old), only]
    by_cases ahead : key former < key old
    · have stood : ¬ (key new < key old ∧ key old ≤ key former) := fun both => absurd ahead (not_lt.mpr both.2)
      rw [if_pos ahead, if_neg stood]
      by_cases overtakes : key new < key old
      · rw [if_pos overtakes]
        omega
      · have crossing : key old < key new := lt_of_le_of_ne (not_lt.mp overtakes) (fun same => different (keyed old new same))
        have none : count = 0 := by
          rw [← countEq, countP_eq_zero]
          intro other inRest
          simp only [decide_eq_true_eq]
          exact fun both => absurd (lt_trans crossing (later other inRest)) (lt_asymm both.1)
        have decided := crossing_decided ranked distinct prompt inItems alike ahead
          (mem_others.mpr ⟨member, different⟩) crossing
        rw [if_neg overtakes, none]
        exact decided
    · simp only [if_neg ahead, not_lt.mp ahead, and_true]
      omega
  · have absent : ∀ other ∈ items, ident other ≠ ident new := fun other inItems same => present ⟨other, inItems, same⟩
    have free : ∀ other ∈ items, ident other = ident new → key old ≤ key other := fun other inItems same =>
      absurd same (absent other inItems)
    rw [others_absent new items absent, if_congr (and_iff_left free) rfl rfl]
    omega

omit keyed in
theorem ranked_replaced (ranked : Ranked key items) (front : ∀ item ∈ items, key item < key new) :
    Ranked key (others ident new items ++ [new]) := by
  refine pairwise_append.mpr ⟨ranked.filter _, pairwise_singleton _ _, ?_⟩
  intro other inOthers item inNew
  rw [mem_singleton.mp inNew]
  exact front other (mem_others.mp inOthers).1

omit keyed [LinearOrder κ] in
theorem distinct_replaced (distinct : Distinct ident items) : Distinct ident (others ident new items ++ [new]) := by
  refine pairwise_append.mpr ⟨distinct.filter _, pairwise_singleton _ _, ?_⟩
  intro other inOthers item inNew
  rw [mem_singleton.mp inNew]
  exact (mem_others.mp inOthers).2

omit keyed in
theorem upserts_behind (ranked : Ranked key items) (distinct : Distinct ident items) (rankedIn : Ranked key incoming)
    (distinctIn : Distinct ident incoming) (behind : ∀ item ∈ items, ∀ new ∈ incoming, key item < key new) :
    Ranked key (incoming.foldl (upsert key ident items.length) items) ∧
    (incoming.foldl (upsert key ident items.length) items).length = items.length ∧
    ∀ item, item ∈ incoming.foldl (upsert key ident items.length) items ↔ (item ∈ items ∧ ∀ new ∈ incoming, ident new ≠ ident item) ∨
      (item ∈ incoming ∧ ∃ old ∈ items, ident old = ident item) := by
  induction incoming generalizing items with
  | nil => simp [ranked]
  | cons new rest ih =>
    obtain ⟨later, rankedRest⟩ := pairwise_cons.mp rankedIn
    obtain ⟨apart, distinctRest⟩ := pairwise_cons.mp distinctIn
    have front : ∀ item ∈ items, key item < key new := fun item member => behind item member new mem_cons_self
    rw [foldl_cons, upsert, place_behind new _ (fun other member => front other (mem_others.mp member).1)]
    by_cases present : ∃ old ∈ items, ident old = ident new
    · obtain ⟨old, member, same⟩ := present
      have size : (others ident new items ++ [new]).length = items.length := by
        rw [length_append, ← length_others distinct member same]
        rfl
      rw [take_of_length_le (le_of_eq size), ← size]
      have behindNext : ∀ item ∈ others ident new items ++ [new], ∀ other ∈ rest, key item < key other := by
        intro item inNext other inRest
        rcases mem_append.mp inNext with inOthers | inNew
        · exact behind item (mem_others.mp inOthers).1 other (mem_cons_of_mem _ inRest)
        · rw [mem_singleton.mp inNew]
          exact later other inRest
      obtain ⟨rankedEnd, sizeEnd, memEnd⟩ := ih (ranked_replaced ranked front) (distinct_replaced distinct) rankedRest
        distinctRest behindNext
      refine ⟨rankedEnd, sizeEnd, fun item => ?_⟩
      rw [memEnd]
      simp only [mem_append, mem_others, mem_cons, forall_eq_or_imp, not_mem_nil, or_false]
      constructor
      · rintro (⟨⟨inItems, different⟩ | rfl, unmatched⟩ | ⟨inRest, former, ⟨inItems, -⟩ | rfl, alike⟩)
        · exact Or.inl ⟨inItems, different.symm, unmatched⟩
        · exact Or.inr ⟨Or.inl rfl, old, member, same⟩
        · exact Or.inr ⟨Or.inr inRest, former, inItems, alike⟩
        · exact absurd alike (apart item inRest)
      · rintro (⟨inItems, different, unmatched⟩ | ⟨rfl | inRest, former, inItems, alike⟩)
        · exact Or.inl ⟨Or.inl ⟨inItems, different.symm⟩, unmatched⟩
        · exact Or.inl ⟨Or.inr rfl, fun other inRest => (apart other inRest).symm⟩
        · exact Or.inr ⟨inRest, former, Or.inl ⟨inItems, fun back => apart item inRest (back.symm.trans alike)⟩, alike⟩
    · have absent : ∀ other ∈ items, ident other ≠ ident new := fun other inItems same =>
        present ⟨other, inItems, same⟩
      rw [others_absent new items absent, take_left]
      obtain ⟨rankedEnd, sizeEnd, memEnd⟩ := ih ranked distinct rankedRest distinctRest
        (fun item inItems other inRest => behind item inItems other (mem_cons_of_mem _ inRest))
      refine ⟨rankedEnd, sizeEnd, fun item => ?_⟩
      rw [memEnd]
      simp only [mem_cons, forall_eq_or_imp]
      constructor
      · rintro (⟨inItems, unmatched⟩ | ⟨inRest, replaced⟩)
        · exact Or.inl ⟨inItems, (absent item inItems).symm, unmatched⟩
        · exact Or.inr ⟨Or.inr inRest, replaced⟩
      · rintro (⟨inItems, -, unmatched⟩ | ⟨rfl | inRest, former, inItems, alike⟩)
        · exact Or.inl ⟨inItems, unmatched⟩
        · exact absurd alike (absent former inItems)
        · exact Or.inr ⟨inRest, former, inItems, alike⟩

omit keyed in
theorem overtaken_within (ranked : Ranked key items) (within : old ∈ items.take cap)
    (front : ∀ new ∈ incoming, key old < key new) : overtaken key ident items incoming old < cap := by
  have none : incoming.countP (fun new =>
      decide (key new < key old ∧ ∀ former ∈ items, ident former = ident new → key old ≤ key former)) = 0 := by
    rw [countP_eq_zero]
    intro new member
    simp only [decide_eq_true_eq]
    exact fun both => absurd both.1 (lt_asymm (front new member))
  rw [overtaken, none]
  exact ((mem_take ranked cap old).mp within).2

omit keyed in
theorem late_front {item : α} (ranked : Ranked key items) (late : Late key ident cap items new)
    (within : item ∈ items.take cap) : key item < key new := by
  have fewer : before key (others ident new items) (key item) ≤ before key items (key item) := List.Sublist.countP_le filter_sublist
  have few := ((mem_take ranked cap item).mp within).2
  have far := late.2
  have less : before key (others ident new items) (key item) < before key (others ident new items) (key new) := by omega
  exact lt_of_before_lt less

omit keyed in
theorem upsert_late (ranked : Ranked key items) (distinct : Distinct ident items) (late : Late key ident cap items new) :
    upsert key ident cap (items.take cap) new = others ident new (items.take cap) ++ [new] ∧
      (others ident new (items.take cap) ++ [new]).length = cap := by
  obtain ⟨old, member, same⟩ := late.1
  have long : cap ≤ items.length := by
    have fewer : before key (others ident new items) (key new) ≤ (others ident new items).length := countP_le_length
    have smaller : (others ident new items).length ≤ items.length := length_filter_le _ _
    have far := late.2
    omega
  have size : (others ident new (items.take cap) ++ [new]).length = cap := by
    have removed := length_others (List.Pairwise.sublist (take_sublist cap items) distinct) member same
    rw [length_take, min_eq_left long] at removed
    rw [length_append]
    exact removed
  refine ⟨?_, size⟩
  have behind : ∀ other ∈ others ident new (items.take cap), key other < key new := fun other found =>
    late_front ranked late (mem_others.mp found).1
  rw [upsert, place_behind new _ behind]
  exact take_of_length_le (le_of_eq size)

-- Once an item was placed behind the cut, the list is the merge only if every
-- item that still replaces one in it belongs there.
theorem late_upserts_iff (ranked : Ranked key items) (distinct : Distinct ident items)
    (rankedIn : Ranked key (new :: rest)) (distinctIn : Distinct ident (new :: rest)) (late : Late key ident cap items new) :
    (new :: rest).foldl (upsert key ident cap) (items.take cap) = (merged key ident items (new :: rest)).take cap ↔
      ∀ other ∈ new :: rest, ∀ old ∈ items, ident old = ident other →
        before key (merged key ident items (new :: rest)) (key other) < cap ∨ cap ≤ overtaken key ident items (new :: rest) old := by
  obtain ⟨later, rankedRest⟩ := pairwise_cons.mp rankedIn
  obtain ⟨apart, distinctRest⟩ := pairwise_cons.mp distinctIn
  have front : ∀ item ∈ items.take cap, key item < key new := fun item within => late_front ranked late within
  have frontAll : ∀ item ∈ items.take cap, ∀ other ∈ new :: rest, key item < key other := by
    intro item within other member
    rcases mem_cons.mp member with rfl | inRest
    · exact front item within
    · exact lt_trans (front item within) (later other inRest)
  have distinctCut : Distinct ident (items.take cap) := List.Pairwise.sublist (take_sublist cap items) distinct
  obtain ⟨first, size⟩ := upsert_late ranked distinct late
  obtain ⟨rankedEnd, sizeEnd, memEnd⟩ := upserts_behind (ranked_replaced (ranked.take cap) front)
    (distinct_replaced distinctCut) rankedRest distinctRest (by
      intro item inStart other inRest
      rcases mem_append.mp inStart with inOthers | inNew
      · exact frontAll item (mem_others.mp inOthers).1 other (mem_cons_of_mem _ inRest)
      · rw [mem_singleton.mp inNew]
        exact later other inRest)
  rw [foldl_cons, first]
  rw [size] at rankedEnd sizeEnd memEnd
  generalize rest.foldl (upsert key ident cap) (others ident new (items.take cap) ++ [new]) = final at *
  simp only [mem_append, mem_others, mem_singleton] at memEnd
  have rankedAll : Ranked key (merged key ident items (new :: rest)) := ranked_merged keyed distinct distinctIn
  constructor
  · intro same other member old inItems alike
    by_cases within : old ∈ items.take cap
    · have inFinal : other ∈ final := by
        rw [memEnd]
        rcases mem_cons.mp member with rfl | inRest
        · exact Or.inl ⟨Or.inr rfl, fun new inRest => (apart new inRest).symm⟩
        · exact Or.inr ⟨inRest, old, Or.inl ⟨within, fun back => apart other inRest (back.symm.trans alike)⟩, alike⟩
      rw [same] at inFinal
      exact Or.inl ((mem_take rankedAll cap other).mp inFinal).2
    · exact Or.inr (le_trans (behind_of_cut ranked inItems within) (overtaken_ge items _ old))
  · intro admitted
    have replaces : ∀ other ∈ new :: rest, ∀ old ∈ items.take cap, ident old = ident other →
        before key (merged key ident items (new :: rest)) (key other) < cap := by
      intro other member old within alike
      rcases admitted other member old (mem_of_mem_take within) alike with belongs | pushed
      · exact belongs
      · exact absurd (overtaken_within ranked within (frontAll old within)) (not_lt.mpr pushed)
    refine eq_of_subset rankedEnd (rankedAll.take cap) (fun item inFinal => ?_) ?_
    · rw [mem_take rankedAll]
      rcases (memEnd item).mp inFinal with ⟨⟨within, different⟩ | rfl, unmatched⟩ | ⟨inRest, old, inStart, alike⟩
      · refine ⟨mem_merged.mpr (Or.inl ⟨mem_of_mem_take within, ?_⟩), ?_⟩
        · exact forall_mem_cons.mpr ⟨different.symm, unmatched⟩
        · have bound := before_merged_le key ident items (new :: rest) (key item)
            (fun other member => le_of_lt (frontAll item within other member))
          have few := ((mem_take ranked cap item).mp within).2
          omega
      · obtain ⟨old, within, alike⟩ := late.1
        exact ⟨mem_merged.mpr (Or.inr mem_cons_self), replaces item mem_cons_self old within alike⟩
      · have inIncoming : item ∈ new :: rest := mem_cons_of_mem _ inRest
        rcases inStart with ⟨within, -⟩ | rfl
        · exact ⟨mem_merged.mpr (Or.inr inIncoming), replaces item inIncoming old within alike⟩
        · exact absurd alike (apart item inRest)
    · rw [sizeEnd, length_take]
      exact min_le_left _ _

theorem upserts_eq_merged_iff (cap : Nat) (ranked : Ranked key items) (distinct : Distinct ident items)
    (rankedIn : Ranked key incoming) (distinctIn : Distinct ident incoming) :
    incoming.foldl (upsert key ident cap) (items.take cap) = (merged key ident items incoming).take cap ↔
      ∀ new ∈ incoming, ∀ old ∈ items, ident old = ident new →
        before key (merged key ident items incoming) (key new) < cap ∨ cap ≤ overtaken key ident items incoming old := by
  induction incoming generalizing items with
  | nil =>
    simp [merged_nil keyed ranked distinct]
  | cons new rest ih =>
    by_cases late : Late key ident cap items new
    · exact late_upserts_iff keyed ranked distinct rankedIn distinctIn late
    · obtain ⟨later, rankedRest⟩ := pairwise_cons.mp rankedIn
      obtain ⟨apart, distinctRest⟩ := pairwise_cons.mp distinctIn
      rw [foldl_cons, upsert_take keyed distinct late, ← merged_upserted keyed distinct distinctIn,
        ih (ranked_upserted keyed ranked new) (distinct_place distinct) rankedRest distinctRest,
        merged_upserted keyed distinct distinctIn]
      constructor
      · intro admitted other member old inItems alike
        rcases mem_cons.mp member with rfl | inRest
        · exact prompt_admitted keyed ranked distinct distinctIn later late inItems alike
        · have different : ident old ≠ ident new := fun back => apart other inRest (back.symm.trans alike)
          rw [← overtaken_upserted keyed ranked distinct distinctIn later late inItems different]
          exact admitted other inRest old
            (mem_place.mpr (Or.inr (mem_others.mpr ⟨inItems, different⟩))) alike
      · intro admitted other inRest old inPlaced alike
        rcases mem_place.mp inPlaced with rfl | inOthers
        · exact absurd alike (apart other inRest)
        · obtain ⟨inItems, different⟩ := mem_others.mp inOthers
          rw [overtaken_upserted keyed ranked distinct distinctIn later late inItems different]
          exact admitted other (mem_cons_of_mem _ inRest) old inItems alike

end Cap
end Ranking
