import PhotoSync.Grid.MediaList

set_option autoImplicit false

namespace PhotoSync.MediaList
open Ranking List
variable {δ : Type}

theorem order_lt (a b : MediaItem δ) :
    a.order < b.order ↔ b.sortDatetime < a.sortDatetime ∨ b.sortDatetime = a.sortDatetime ∧ b.id < a.id := by
  rw [MediaItem.order, MediaItem.order, Prod.Lex.toLex_lt_toLex]
  omega

theorem order_id (a b : MediaItem δ) (same : a.order = b.order) : a.id = b.id := by
  simp only [MediaItem.order, EmbeddingLike.apply_eq_iff_eq, Prod.mk.injEq] at same
  omega

theorem compare_lt (a b : MediaItem δ) : compareMediaOrder a b = .lt ↔ a.order < b.order := by
  rw [compareMediaOrder, Ordering.then_eq_lt, compare_lt_iff_lt, compare_eq_iff_eq, compare_lt_iff_lt, order_lt]

theorem compare_eq (a b : MediaItem δ) : compareMediaOrder a b = .eq ↔ a.order = b.order := by
  rw [compareMediaOrder, Ordering.then_eq_eq, compare_eq_iff_eq, compare_eq_iff_eq]
  simp only [MediaItem.order, EmbeddingLike.apply_eq_iff_eq, Prod.mk.injEq]
  omega

theorem compare_ne_gt (a b : MediaItem δ) : compareMediaOrder a b ≠ .gt ↔ a.order ≤ b.order := by
  rw [le_iff_lt_or_eq, ← compare_lt, ← compare_eq]
  cases compareMediaOrder a b <;> simp

theorem sortByOrder_eq (items : List (MediaItem δ)) : sortByOrder items = rank MediaItem.order items := by
  simp only [sortByOrder, rank, compare_ne_gt]

theorem insert_eq_place (list : List (MediaItem δ)) (item : MediaItem δ) :
    list.insertIdx (sortedInsertPosition list item) item = place MediaItem.order item list := by
  have test : (fun existing => compareMediaOrder item existing == .lt) = fun existing => decide (item.order < existing.order) := by
    funext existing
    rw [Bool.eq_iff_iff, beq_iff_eq, decide_eq_true_eq, compare_lt]
  rw [place, sortedInsertPosition, test]

theorem sortedInsertPosition_le (list : List (MediaItem δ)) (item : MediaItem δ) :
    sortedInsertPosition list item ≤ list.length := findIdx_le_length

variable {cap : Nat} {α : Type}

theorem insertWithin_eq {list : List (MediaItem δ)} (item : MediaItem δ) (short : list.length ≤ cap) :
    insertWithin cap list (sortedInsertPosition list item) item = (place MediaItem.order item list).take cap := by
  have bound := sortedInsertPosition_le list item
  rw [insertWithin, insert_eq_place]
  by_cases past : cap ≤ sortedInsertPosition list item
  · have last : sortedInsertPosition list item = list.length := by omega
    have full : cap = list.length := by omega
    have appended := insert_eq_place list item
    rw [last, insertIdx_length_self] at appended
    rw [if_pos past, ← appended, full, take_left]
  · rw [if_neg past]
    have size : (place MediaItem.order item list).length = list.length + 1 := length_place item list
    by_cases larger : cap < (place MediaItem.order item list).length
    · rw [if_pos larger, dropLast_eq_take]
      congr 1
      omega
    · rw [if_neg larger, take_of_length_le (by omega)]

theorem length_insertWithin (cap : Nat) (list : List (MediaItem δ)) (position : Nat) (item : MediaItem δ) :
    (insertWithin cap list position item).length ≤ max list.length cap ∧
      (cap ≤ list.length → (insertWithin cap list position item).length = list.length) := by
  rw [insertWithin]
  by_cases past : cap ≤ position
  · rw [if_pos past]
    exact ⟨le_max_left _ _, fun _ => rfl⟩
  · rw [if_neg past]
    have grown : (list.insertIdx position item).length ≤ list.length + 1 := length_insertIdx_le_succ
    by_cases larger : cap < (list.insertIdx position item).length
    · rw [if_pos larger, length_dropLast]
      refine ⟨by omega, fun long => ?_⟩
      rw [length_insertIdx_of_le_length (by omega)]
      omega
    · rw [if_neg larger]
      refine ⟨by omega, fun long => ?_⟩
      rw [length_insertIdx_of_le_length (by omega)] at larger
      omega

theorem findIdx?_split (test : α → Bool) (list : List α) (index : Nat) (found : list.findIdx? test = some index) :
    ∃ left existing right, list = left ++ existing :: right ∧ left.length = index ∧ test existing = true ∧
      ∀ other ∈ left, test other = false := by
  induction list generalizing index with
  | nil => simp at found
  | cons head tail ih =>
    rw [findIdx?_cons] at found
    cases hit : test head with
    | true =>
      rw [if_pos hit, Option.some.injEq] at found
      exact ⟨[], head, tail, rfl, found, hit, by simp⟩
    | false =>
      rw [if_neg (by simp [hit]), Option.map_eq_some_iff] at found
      obtain ⟨rest, foundRest, rfl⟩ := found
      obtain ⟨left, existing, right, rfl, size, here, before⟩ := ih rest foundRest
      refine ⟨head :: left, existing, right, rfl, by simp [size], here, ?_⟩
      intro other member
      rcases mem_cons.mp member with rfl | inLeft
      · exact hit
      · exact before other inLeft

theorem position_between (left right : List (MediaItem δ)) (item : MediaItem δ)
    (low : ∀ other ∈ left, other.order < item.order) (high : ∀ other ∈ right, item.order < other.order) :
    sortedInsertPosition (left ++ right) item = left.length := by
  induction left with
  | nil =>
    cases right with
    | nil => rfl
    | cons first =>
      have less := (compare_lt item first).mpr (high first mem_cons_self)
      simp [sortedInsertPosition, findIdx_cons, less]
  | cons head tail ih =>
    have more : (compareMediaOrder item head == .lt) = false := beq_eq_false_iff_ne.mpr (fun less =>
      absurd ((compare_lt item head).mp less) (lt_asymm (low head mem_cons_self)))
    have rest := ih (fun other member => low other (mem_cons_of_mem _ member))
    rw [sortedInsertPosition] at rest ⊢
    simp [findIdx_cons, more, rest]

def Agree (items list : List (MediaItem δ)) : Prop := ∀ item ∈ items, ∀ existing ∈ list, existing.id = item.id ↔ existing.uri = item.uri

variable {list : List (MediaItem δ)} {item : MediaItem δ}

theorem shares_iff {existing : MediaItem δ} (agree : existing.id = item.id ↔ existing.uri = item.uri) :
    shares item existing = true ↔ existing.id = item.id := by
  simp [shares, ← agree]

theorem targetedUpsert_eq (ranked : Ranked MediaItem.order list) (distinct : Distinct MediaItem.id list)
    (agree : ∀ existing ∈ list, existing.id = item.id ↔ existing.uri = item.uri) (short : list.length ≤ cap) :
    targetedUpsert cap list item = upsert MediaItem.order MediaItem.id cap list item := by
  rw [targetedUpsert, upsert]
  cases found : list.findIdx? (shares item) with
  | none =>
    rw [findIdx?_eq_none_iff] at found
    have absent : ∀ existing ∈ list, existing.id ≠ item.id := fun existing member same =>
      absurd ((shares_iff (agree existing member)).mpr same) (by simp [found existing member])
    rw [others_absent item list absent]
    exact insertWithin_eq item short
  | some index =>
    obtain ⟨left, existing, right, rfl, rfl, here, before⟩ := findIdx?_split _ list index found
    have same : existing.id = item.id := (shares_iff (agree existing (by simp))).mp here
    obtain ⟨leftRanked, rightRanked, across⟩ := pairwise_append.mp ranked
    obtain ⟨-, rightDistinct, apart⟩ := pairwise_append.mp distinct
    have erased : (left ++ existing :: right).eraseIdx left.length = left ++ right := by
      rw [eraseIdx_append_of_length_le le_rfl, Nat.sub_self, eraseIdx_cons_zero]
    have rest : others MediaItem.id item (left ++ existing :: right) = left ++ right := by
      have leftOthers : others MediaItem.id item left = left :=
        others_absent item left (fun other member back => apart other member existing (by simp) (back.trans same.symm))
      have rightOthers : others MediaItem.id item right = right := others_absent item right (fun other member back =>
        (pairwise_cons.mp rightDistinct).1 other member (same.trans back.symm))
      rw [others, filter_append]
      exact congrArg₂ (· ++ ·) leftOthers ((others_cons_same right same).trans rightOthers)
    have size : (left ++ right).length ≤ cap := by
      simp only [length_append, length_cons] at short ⊢
      omega
    have position : (if ((left ++ existing :: right)[left.length]?).any
          (fun existing => compareMediaOrder item existing == .eq) = true
        then min left.length (left ++ right).length else sortedInsertPosition (left ++ right) item) =
        sortedInsertPosition (left ++ right) item := by
      split
      · rename_i preserves
        simp only [getElem?_append_right le_rfl, Nat.sub_self, getElem?_cons_zero, Option.any_some, beq_iff_eq, compare_eq] at preserves
        rw [position_between left right item
          (fun other member => preserves ▸ across other member existing mem_cons_self)
          (fun other member => preserves ▸ (pairwise_cons.mp rightRanked).1 other member)]
        simp
      · rfl
    simp only [erased, position, rest]
    exact insertWithin_eq item size

theorem targetedUpserts_eq {items : List (MediaItem δ)} (ranked : Ranked MediaItem.order list)
    (distinct : Distinct MediaItem.id list) (short : list.length ≤ cap) (ids : Distinct MediaItem.id items)
    (uris : Distinct MediaItem.uri items) (agree : Agree items list) :
    items.foldl (targetedUpsert cap) list = items.foldl (upsert MediaItem.order MediaItem.id cap) list := by
  induction items generalizing list with
  | nil => rfl
  | cons item rest ih =>
    obtain ⟨idApart, idsRest⟩ := pairwise_cons.mp ids
    obtain ⟨uriApart, urisRest⟩ := pairwise_cons.mp uris
    rw [foldl_cons, foldl_cons, targetedUpsert_eq ranked distinct (agree item mem_cons_self) short]
    refine ih ((ranked_upserted order_id ranked item).take cap)
      (List.Pairwise.sublist (take_sublist _ _) (distinct_place distinct)) (length_take_le _ _)
      idsRest urisRest ?_
    intro other inRest existing inNext
    rcases mem_place.mp (mem_of_mem_take inNext) with rfl | inOthers
    · exact ⟨fun same => absurd same (idApart other inRest), fun same => absurd same (uriApart other inRest)⟩
    · exact agree other (mem_cons_of_mem _ inRest) existing (mem_others.mp inOthers).1

theorem absentInsertions_eq {items : List (MediaItem δ)} (short : list.length ≤ cap) (ids : Distinct MediaItem.id items)
    (absent : ∀ item ∈ items, ∀ existing ∈ list, existing.id ≠ item.id) :
    items.foldl (fun list item => insertWithin cap list (sortedInsertPosition list item) item) list =
      items.foldl (upsert MediaItem.order MediaItem.id cap) list := by
  induction items generalizing list with
  | nil => rfl
  | cons item rest ih =>
    obtain ⟨idApart, idsRest⟩ := pairwise_cons.mp ids
    have untouched := others_absent item list (absent item mem_cons_self)
    rw [foldl_cons, foldl_cons, insertWithin_eq item short, upsert, untouched]
    refine ih (length_take_le _ _) idsRest ?_
    intro other inRest existing inNext
    rcases mem_place.mp (mem_of_mem_take inNext) with rfl | inList
    · exact idApart other inRest
    · exact absent other (mem_cons_of_mem _ inRest) existing inList

theorem length_targetedUpsert (cap : Nat) (list : List (MediaItem δ)) (item : MediaItem δ) :
    (targetedUpsert cap list item).length ≤ max list.length cap := by
  rw [targetedUpsert]
  split
  · exact (length_insertWithin cap list _ item).1
  · rename_i index _
    have bound := fun position => (length_insertWithin cap (list.eraseIdx index) position item).1
    have erased : (list.eraseIdx index).length ≤ list.length := length_eraseIdx_le _ _
    refine le_trans (bound _) ?_
    omega

theorem length_targetedUpsert_past (list : List (MediaItem δ)) (item : MediaItem δ) (past : cap < list.length)
    (listed : ∃ existing ∈ list, shares item existing = true) : (targetedUpsert cap list item).length < list.length := by
  obtain ⟨existing, member, here⟩ := listed
  rw [targetedUpsert]
  split
  · rename_i none
    rw [findIdx?_eq_none_iff] at none
    exact absurd here (by simp [none existing member])
  · rename_i index found
    obtain ⟨left, former, right, rfl, rfl, -⟩ := findIdx?_split _ list index found
    have erased : ((left ++ former :: right).eraseIdx left.length).length + 1 = (left ++ former :: right).length := by
      rw [eraseIdx_append_of_length_le le_rfl, Nat.sub_self, eraseIdx_cons_zero]
      simp only [length_append, length_cons]
      omega
    have same := fun position =>
      (length_insertWithin cap ((left ++ former :: right).eraseIdx left.length) position item).2 (by omega)
    rw [same]
    omega

theorem length_foldl_le {β : Type} (step : List α → β → List α) (cap : Nat)
    (bounded : ∀ list item, (step list item).length ≤ max list.length cap) (items : List β) (list : List α) :
    (items.foldl step list).length ≤ max list.length cap := by
  induction items generalizing list with
  | nil => exact le_max_left _ _
  | cons item rest ih =>
    have next := ih (step list item)
    have one := bounded list item
    rw [foldl_cons]
    omega

theorem mem_foldl_insertByUri (items values : List (MediaItem δ)) (uris : Distinct MediaItem.uri items)
    (item : MediaItem δ) : item ∈ items.foldl insertByUri values ↔
      (item ∈ values ∧ ∀ new ∈ items, new.uri ≠ item.uri) ∨ item ∈ items := by
  induction items generalizing values with
  | nil => simp
  | cons head rest ih =>
    obtain ⟨apart, urisRest⟩ := pairwise_cons.mp uris
    rw [foldl_cons, ih _ urisRest]
    simp only [insertByUri, mem_append, mem_filter, bne_iff_ne, mem_cons, not_mem_nil, or_false, forall_eq_or_imp]
    constructor
    · rintro (⟨⟨member, different⟩ | rfl, unmatched⟩ | inRest)
      · exact Or.inl ⟨member, different.symm, unmatched⟩
      · exact Or.inr (Or.inl rfl)
      · exact Or.inr (Or.inr inRest)
    · rintro (⟨member, different, unmatched⟩ | rfl | inRest)
      · exact Or.inl ⟨Or.inl ⟨member, different.symm⟩, unmatched⟩
      · exact Or.inl ⟨Or.inr rfl, fun other inRest => (apart other inRest).symm⟩
      · exact Or.inr inRest

theorem distinct_foldl_insertByUri (items values : List (MediaItem δ)) (distinct : Distinct MediaItem.uri values) :
    Distinct MediaItem.uri (items.foldl insertByUri values) := by
  induction items generalizing values with
  | nil => exact distinct
  | cons head rest ih =>
    refine ih _ (pairwise_append.mpr ⟨distinct.filter _, pairwise_singleton _ _, ?_⟩)
    intro value member other here
    rw [mem_singleton.mp here]
    simpa using (mem_filter.mp member).2

theorem mergeByUri_eq {items : List (MediaItem δ)} (ids : Distinct MediaItem.id list) (uris : Distinct MediaItem.uri list)
    (itemIds : Distinct MediaItem.id items) (itemUris : Distinct MediaItem.uri items) (agree : Agree items list) :
    mergeByUri cap list items = (merged MediaItem.order MediaItem.id list items).take cap := by
  have members : ∀ item, item ∈ items.foldl insertByUri (list.foldl insertByUri []) ↔
      (item ∈ list ∧ ∀ new ∈ items, new.uri ≠ item.uri) ∨ item ∈ items := by
    intro item
    rw [mem_foldl_insertByUri items _ itemUris, mem_foldl_insertByUri list [] uris]
    simp
  have distinct : (items.foldl insertByUri (list.foldl insertByUri [])).Pairwise
      (fun first second => first.order ≠ second.order) := by
    refine (distinct_foldl_insertByUri items _ (distinct_foldl_insertByUri list [] List.Pairwise.nil)).imp_of_mem ?_
    intro first second inFirst inSecond different sameKey
    have sameId := order_id first second sameKey
    rcases (members first).mp inFirst with ⟨firstListed, firstKept⟩ | firstNew
    · rcases (members second).mp inSecond with ⟨secondListed, -⟩ | secondNew
      · exact different (congrArg MediaItem.uri (ids.eq_of_ident firstListed secondListed sameId))
      · exact different ((agree second secondNew first firstListed).mp sameId)
    · rcases (members second).mp inSecond with ⟨secondListed, -⟩ | secondNew
      · exact different ((agree first firstNew second secondListed).mp sameId.symm).symm
      · exact different (congrArg MediaItem.uri (itemIds.eq_of_ident firstNew secondNew sameId))
  have same : sortByOrder (items.foldl insertByUri (list.foldl insertByUri [])) = merged MediaItem.order MediaItem.id list items := by
    rw [sortByOrder_eq]
    refine ranked_ext (ranked_rank distinct) (ranked_merged order_id ids itemIds) (fun item => ?_)
    rw [mem_rank, members, mem_merged]
    refine or_congr_left (and_congr_right (fun listed => forall₂_congr (fun new inItems => not_congr ?_)))
    rw [eq_comm, ← agree new inItems item listed, eq_comm]
  rw [mergeByUri, same]
  split
  · rfl
  · rename_i short
    rw [take_of_length_le (by omega)]

-- Cutting after every item gives the merge unless an item that leaves the cap is replaced while it is still listed.
def Admits (cap : Nat) (source : ChangeSource) (list items : List (MediaItem δ)) : Prop := items = [] ∨
  (source = .startupScan ∧ ∃ item ∈ items, ∃ existing ∈ list, existing.id = item.id) ∨
  (kept MediaItem.id list items).length + items.length ≤ capAsU32 cap ∨
  (cap < 2 ^ 32 ∧ ∀ new ∈ items, ∀ old ∈ list, old.id = new.id →
    before MediaItem.order (kept MediaItem.id list items ++ items) new.order < cap ∨
      cap ≤ overtaken MediaItem.order MediaItem.id list items old)

theorem upserts_iff {items : List (MediaItem δ)} (ranked : Ranked MediaItem.order list)
    (distinct : Distinct MediaItem.id list) (ids : Distinct MediaItem.id items) (short : list.length ≤ cap) :
    (sortByOrder items).foldl (upsert MediaItem.order MediaItem.id cap) list =
        (merged MediaItem.order MediaItem.id list items).take cap ↔ ∀ new ∈ items, ∀ old ∈ list, old.id = new.id →
        before MediaItem.order (kept MediaItem.id list items ++ items) new.order < cap ∨
          cap ≤ overtaken MediaItem.order MediaItem.id list items old := by
  have perm : (rank MediaItem.order items).Perm items := rank_perm items
  have idsSorted : Distinct MediaItem.id (rank MediaItem.order items) := ids.perm perm.symm
  have rankedIn : Ranked MediaItem.order (rank MediaItem.order items) := ranked_rank (ids.imp (fun ne same => ne (order_id _ _ same)))
  have main := upserts_eq_merged_iff order_id cap ranked distinct rankedIn idsSorted
  rw [take_of_length_le short, merged_perm order_id distinct idsSorted perm] at main
  rw [sortByOrder_eq, main]
  simp only [perm.mem_iff, before_merged, overtaken_perm list perm]

theorem all_admitted {items : List (MediaItem δ)} (small : (kept MediaItem.id list items).length + items.length ≤ cap) :
    ∀ new ∈ items, ∀ old ∈ list, old.id = new.id → before MediaItem.order (kept MediaItem.id list items ++ items) new.order < cap ∨
        cap ≤ overtaken MediaItem.order MediaItem.id list items old := by
  intro new member old _ _
  have less : before MediaItem.order (kept MediaItem.id list items ++ items) new.order <
    (kept MediaItem.id list items ++ items).length := before_lt_length (mem_append_right _ member)
  rw [length_append] at less
  exact Or.inl (by omega)

theorem loop_iff {items final : List (MediaItem δ)} (ranked : Ranked MediaItem.order list)
    (distinct : Distinct MediaItem.id list) (ids : Distinct MediaItem.id items) (short : list.length ≤ cap)
    (fits : list.length < 2 ^ 32)
    (upserts : list.length ≤ capAsU32 cap → final = (sortByOrder items).foldl (upsert MediaItem.order MediaItem.id (capAsU32 cap)) list)
    (bounded : final.length ≤ max list.length (capAsU32 cap))
    (hole : capAsU32 cap < list.length → (∀ item ∈ items, ∃ existing ∈ list, existing.id = item.id) → final.length < list.length) :
    final = (merged MediaItem.order MediaItem.id list items).take cap ↔
      (kept MediaItem.id list items).length + items.length ≤ capAsU32 cap ∨
      (cap < 2 ^ 32 ∧ ∀ new ∈ items, ∀ old ∈ list, old.id = new.id →
        before MediaItem.order (kept MediaItem.id list items ++ items) new.order < cap ∨
          cap ≤ overtaken MediaItem.order MediaItem.id list items old) := by
  by_cases small : cap < 2 ^ 32
  · have same : capAsU32 cap = cap := Nat.mod_eq_of_lt small
    rw [same] at upserts ⊢
    rw [upserts short, upserts_iff ranked distinct ids short]
    constructor
    · exact fun admitted => Or.inr ⟨small, admitted⟩
    · rintro (fit | ⟨-, admitted⟩)
      · exact all_admitted fit
      · exact admitted
  · have wrapped : capAsU32 cap < cap := lt_of_lt_of_le (Nat.mod_lt _ (by omega)) (not_lt.mp small)
    have total : (merged MediaItem.order MediaItem.id list items).length = _ := length_merged list items
    have grown := length_le_merged order_id ranked distinct ids
    constructor
    · intro same
      refine Or.inl ?_
      by_contra large
      have size := congrArg length same
      rw [length_take] at size
      by_cases past : capAsU32 cap < list.length
      · by_cases matched : ∀ item ∈ items, ∃ existing ∈ list, existing.id = item.id
        · have shrunk := hole past matched
          omega
        · push Not at matched
          obtain ⟨new, member, fresh⟩ := matched
          have more := length_lt_merged order_id ranked distinct ids member fresh
          omega
      · omega
    · rintro (fit | ⟨less, -⟩)
      · have inside : list.length ≤ capAsU32 cap := by omega
        have cut := (upserts_iff ranked distinct ids inside).mpr (all_admitted fit)
        rw [upserts inside, cut, take_of_length_le (by omega), take_of_length_le (by omega)]
      · exact absurd less small

theorem applyUpsertedBatch_iff {source : ChangeSource} {items : List (MediaItem δ)} (ranked : Ranked MediaItem.order list)
    (listIds : Distinct MediaItem.id list) (listUris : Distinct MediaItem.uri list) (short : list.length ≤ cap)
    (fits : list.length < 2 ^ 32) (ids : Distinct MediaItem.id items) (uris : Distinct MediaItem.uri items)
    (agree : Agree items list) (taken : ¬ (source = .startupScan ∧ items ≠ [] ∧ cap ≤ list.length)) :
    applyUpsertedBatch cap source list items = (merged MediaItem.order MediaItem.id list items).take cap ↔
      Admits cap source list items := by
  rw [applyUpsertedBatch, Admits]
  by_cases empty : items = []
  · subst empty
    simp [merged_nil order_id ranked listIds, take_of_length_le short]
  have perm : (sortByOrder items).Perm items := sortByOrder_eq items ▸ rank_perm items
  rw [if_neg (by simpa using empty), if_neg (fun both => taken ⟨both.1, empty, both.2⟩)]
  by_cases shared : ∃ item ∈ items, ∃ existing ∈ list, existing.id = item.id
  · have found : applyAbsentItemInsertions cap list items = none := by
      obtain ⟨item, member, existing, listed, same⟩ := shared
      refine if_pos (any_eq_true.mpr ⟨item, member, any_eq_true.mpr ⟨existing, listed, ?_⟩⟩)
      exact (shares_iff (agree item member existing listed)).mpr same
    rw [found]
    by_cases startup : source = .startupScan
    · have skipped : applyTargetedUpserts cap source list items = none := if_pos startup
      rw [skipped]
      exact ⟨fun _ => Or.inr (Or.inl ⟨startup, shared⟩), fun _ => mergeByUri_eq listIds listUris ids uris agree⟩
    · have targeted : applyTargetedUpserts cap source list items =
          some ((sortByOrder items).foldl (targetedUpsert (capAsU32 cap)) list) := if_neg startup
      rw [targeted]
      have agreeSorted : Agree (sortByOrder items) list := fun item member => agree item (perm.mem_iff.mp member)
      rw [or_iff_right empty, or_iff_right (fun both => startup both.1)]
      change (sortByOrder items).foldl (targetedUpsert (capAsU32 cap)) list = _ ↔ _
      refine loop_iff ranked listIds ids short fits ?_ ?_ ?_
      · exact fun inside =>
          targetedUpserts_eq ranked listIds inside (ids.perm perm.symm) (uris.perm perm.symm) agreeSorted
      · exact length_foldl_le _ _ (length_targetedUpsert _) _ _
      · intro past matched
        cases sorted : sortByOrder items with
        | nil => exact absurd (perm_nil.mp (sorted ▸ perm).symm) empty
        | cons first rest =>
          have member : first ∈ items := perm.mem_iff.mp (by simp [sorted])
          obtain ⟨existing, listed, same⟩ := matched first member
          have shrunk := length_targetedUpsert_past list first past
            ⟨existing, listed, (shares_iff (agree first member existing listed)).mpr same⟩
          have bound := length_foldl_le _ _ (length_targetedUpsert (capAsU32 cap)) rest
            (targetedUpsert (capAsU32 cap) list first)
          rw [foldl_cons]
          omega
  · have absent : ∀ item ∈ items, ∀ existing ∈ list, existing.id ≠ item.id := fun item member existing listed same =>
      shared ⟨item, member, existing, listed, same⟩
    have inserted : applyAbsentItemInsertions cap list items = some ((sortByOrder items).foldl
        (fun list item => insertWithin (capAsU32 cap) list (sortedInsertPosition list item) item) list) := by
      refine if_neg (fun any => ?_)
      obtain ⟨item, member, anyListed⟩ := any_eq_true.mp any
      obtain ⟨existing, listed, here⟩ := any_eq_true.mp anyListed
      exact absent item member existing listed ((shares_iff (agree item member existing listed)).mp here)
    rw [inserted, or_iff_right empty, or_iff_right (fun both => shared both.2)]
    refine loop_iff ranked listIds ids short fits ?_ ?_ ?_
    · exact fun inside => absentInsertions_eq inside (ids.perm perm.symm)
        (fun item member => absent item (perm.mem_iff.mp member))
    · exact length_foldl_le _ _ (fun list item => (length_insertWithin _ list _ item).1) _ _
    · intro _ matched
      obtain ⟨first, member⟩ := exists_mem_of_ne_nil items empty
      obtain ⟨existing, listed, same⟩ := matched first member
      exact absurd same (absent first member existing listed)

namespace DomainEvent

def items : DomainEvent δ → List (MediaItem δ)
  | mediaUpserted _ items => items
  | mediaUpdated _ items _ => items
  | mediaRestored _ items => items
  | _ => []

def batchSource : DomainEvent δ → ChangeSource
  | mediaUpserted source _ => source
  | _ => .userInteractive

def removedUris : DomainEvent δ → List String
  | mediaRemoved _ _ uris => uris
  | mediaMovedToTrash _ items => items.map MediaItem.uri
  | _ => []

def displayed (event : DomainEvent δ) : List (MediaItem δ) := event.items.filter MediaItem.canDisplay

def hiddenUris (event : DomainEvent δ) : List String := (event.items.filter (fun item => !item.canDisplay)).map MediaItem.uri

end DomainEvent

def listed (list : List (MediaItem δ)) (event : DomainEvent δ) : List (MediaItem δ) :=
  list.filter (fun item => !(event.removedUris ++ event.hiddenUris).contains item.uri)

-- What the list is for: the first cap of what is listed and neither removed,
-- hidden nor replaced, together with what comes in and can be shown.
def canonicalList (cap : Nat) (list : List (MediaItem δ)) (event : DomainEvent δ) : List (MediaItem δ) :=
  (rank MediaItem.order (list.filter (fun item =>
    !event.removedUris.contains item.uri && event.items.all (fun new => new.uri != item.uri)) ++ event.displayed)).take cap

structure Shared (cap : Nat) (list : List (MediaItem δ)) (event : DomainEvent δ) : Prop where
  sorted : Ranked MediaItem.order list
  ids : Distinct MediaItem.id list
  uris : Distinct MediaItem.uri list
  within : list.length ≤ cap
  eventIds : Distinct MediaItem.id event.items
  eventUris : Distinct MediaItem.uri event.items
  agree : Agree event.items list

-- A batch of the startup scan is not shown in a full list.
def Skipped (cap : Nat) (list : List (MediaItem δ)) (event : DomainEvent δ) : Prop :=
  event.batchSource = .startupScan ∧ event.displayed ≠ [] ∧ cap ≤ (listed list event).length

theorem apply_eq_batch (cap : Nat) (list : List (MediaItem δ)) (event : DomainEvent δ) :
    applyToMediaList cap list event = applyUpsertedBatch cap event.batchSource (listed list event) event.displayed := by
  cases event <;>
    simp [applyToMediaList, applyItems, removeUrisBatch_eq, listed, DomainEvent.batchSource, DomainEvent.displayed,
      DomainEvent.removedUris, DomainEvent.hiddenUris, DomainEvent.items, applyUpsertedBatch]

theorem canonicalList_eq (cap : Nat) {list : List (MediaItem δ)} {event : DomainEvent δ} (agree : Agree event.items list) :
    canonicalList cap list event = (merged MediaItem.order MediaItem.id (listed list event) event.displayed).take cap := by
  have same : list.filter (fun item => !event.removedUris.contains item.uri &&
      event.items.all (fun new => new.uri != item.uri)) = kept MediaItem.id (listed list event) event.displayed := by
    rw [kept, listed, filter_filter]
    refine filter_congr (fun item member => ?_)
    rw [Bool.eq_iff_iff, Bool.and_eq_true, Bool.and_eq_true, decide_eq_true_eq]
    simp only [all_eq_true, bne_iff_ne, Bool.not_eq_true', contains_eq_mem, decide_eq_false_iff_not,
      mem_append, not_or, DomainEvent.displayed, mem_filter, DomainEvent.hiddenUris, mem_map, not_exists,
      not_and]
    constructor
    · rintro ⟨notRemoved, unmatched⟩
      refine ⟨fun new both same => ?_, notRemoved, fun new both same => unmatched new both.1 same⟩
      exact unmatched new both.1 ((agree new both.1 item member).mp same.symm).symm
    · rintro ⟨unreplaced, notRemoved, notHidden⟩
      refine ⟨notRemoved, fun new inItems same => ?_⟩
      cases shown : new.canDisplay with
      | true => exact unreplaced new ⟨inItems, shown⟩ ((agree new inItems item member).mpr same.symm).symm
      | false => exact notHidden new ⟨inItems, by simp [shown]⟩ same
  rw [canonicalList, same, merged]

-- n_items is a u32, so the list has fewer rows than that.
theorem media_list_is_canonical_iff (cap : Nat) (list : List (MediaItem δ)) (event : DomainEvent δ)
    (shared : Shared cap list event) (fits : list.length < 2 ^ 32) (shown : ¬ Skipped cap list event) :
    applyToMediaList cap list event = canonicalList cap list event ↔
      Admits cap event.batchSource (listed list event) event.displayed := by
  have shorter : (listed list event).length ≤ list.length := List.length_filter_le _ _
  rw [apply_eq_batch, canonicalList_eq cap shared.agree]
  refine applyUpsertedBatch_iff (shared.sorted.filter _) (shared.ids.filter _) (shared.uris.filter _)
    (le_trans shorter shared.within) (lt_of_le_of_lt shorter fits) (shared.eventIds.filter _) (shared.eventUris.filter _)
    ?_ shown
  intro item member existing inList
  exact shared.agree item (List.mem_of_mem_filter member) existing (List.mem_of_mem_filter inList)

section Example

def photo (id : Int) (uri : String) (takenAt : Int) : MediaItem Unit := ⟨id, uri, some takenAt, 0, .localOnly, false, ()⟩

theorem moved_up_photo_is_canonical : applyToMediaList 2 [photo 1 "a" 30, photo 2 "b" 20]
        (.mediaUpdated .userInteractive [photo 3 "y" 40, photo 2 "b" 35] MediaFields.trashOnly) =
      canonicalList 2 [photo 1 "a" 30, photo 2 "b" 20]
        (.mediaUpdated .userInteractive [photo 3 "y" 40, photo 2 "b" 35] MediaFields.trashOnly) := by
  refine (media_list_is_canonical_iff _ _ _ ⟨?_, ?_, ?_, ?_, ?_, ?_, ?_⟩ (by decide) ?_).mpr ?_
  · unfold Ranked; decide +kernel
  · unfold Distinct; decide +kernel
  · unfold Distinct; decide +kernel
  · decide
  · unfold Distinct; decide +kernel
  · unfold Distinct; decide +kernel
  · unfold Agree; decide +kernel
  · unfold Skipped; decide +kernel
  · unfold Admits; decide +kernel

-- The same photo first moves behind the one that the new photo pushed out.
theorem pushed_out_photo_is_missing : Shared 2 [photo 1 "a" 30, photo 2 "b" 20]
      (.mediaUpserted .filesystemWatcher [photo 3 "y" 40, photo 1 "a" 10]) ∧
    ¬ Skipped 2 [photo 1 "a" 30, photo 2 "b" 20]
      (.mediaUpserted .filesystemWatcher [photo 3 "y" 40, photo 1 "a" 10]) ∧
    applyToMediaList 2 [photo 1 "a" 30, photo 2 "b" 20]
      (.mediaUpserted .filesystemWatcher [photo 3 "y" 40, photo 1 "a" 10]) = [photo 3 "y" 40, photo 1 "a" 10] ∧
    canonicalList 2 [photo 1 "a" 30, photo 2 "b" 20]
      (.mediaUpserted .filesystemWatcher [photo 3 "y" 40, photo 1 "a" 10]) = [photo 3 "y" 40, photo 2 "b" 20] := by
  refine ⟨⟨?_, ?_, ?_, ?_, ?_, ?_, ?_⟩, ?_, by decide +kernel, by decide +kernel⟩
  · unfold Ranked; decide +kernel
  · unfold Distinct; decide +kernel
  · unfold Distinct; decide +kernel
  · decide
  · unfold Distinct; decide +kernel
  · unfold Distinct; decide +kernel
  · unfold Agree; decide +kernel
  · unfold Skipped; decide +kernel

end Example
end PhotoSync.MediaList
