import Mathlib.Data.List.TakeWhile
import PhotoSync.Runs.Synced
import PhotoSync.Service.Actor

set_option autoImplicit false

namespace PhotoSync
open Relational Transaction Durable Program Store Table List

section Marks

def lastWrite : List (Nat × Option Int) → Nat → Option (Option Int)
  | [], _ => none
  | write :: rest, id => (lastWrite rest id).or (if write.1 = id then some write.2 else none)

def Store.writeTrashed (s : Store) (writes : List (Nat × Option Int)) : Store :=
  writes.foldl (fun s write => s.updateMedia write.1 (fun row => { row with trashedAt := write.2 })) s

theorem writeTrashed_media (writes : List (Nat × Option Int)) (s : Store) :
    s.writeTrashed writes = { s with media := s.media.update (fun id row => match lastWrite writes id with
      | some value => { row with trashedAt := value }
      | none => row) } := by
  induction writes generalizing s with
  | nil =>
    unfold writeTrashed lastWrite
    rw [foldl_nil, Table.update_eq_self _ _ (fun _ _ _ => rfl)]
  | cons write rest ih =>
    unfold writeTrashed
    rw [foldl_cons]
    refine (ih _).trans ?_
    unfold updateMedia Table.modify
    rw [Table.update_update]
    congr 2
    funext id row
    rw [lastWrite]
    by_cases here : id = write.1
    · subst here
      cases lastWrite rest write.1 <;> simp
    · have other : ¬ write.1 = id := fun same => here same.symm
      cases lastWrite rest id <;> simp [here, other]

theorem writeTrashed_get (writes : List (Nat × Option Int)) (s : Store) (id : Nat) :
    (s.writeTrashed writes).media.get id = (s.media.get id).map (fun row => match lastWrite writes id with
      | some value => { row with trashedAt := value }
      | none => row) := by
  rw [writeTrashed_media]
  exact get_update _ _ id

theorem has_writeTrashed (writes : List (Nat × Option Int)) (s : Store) : (s.writeTrashed writes).has = s.has := by
  funext id
  unfold has
  rw [writeTrashed_get, Option.isSome_map]

def Store.Written (s : Store) (writes : List (Nat × Option Int)) : Prop :=
  ∀ id row value, s.media.get id = some row → lastWrite writes id = some value → row.trashedAt = value

theorem writeTrashed_eq_self (writes : List (Nat × Option Int)) (s : Store) : s.writeTrashed writes = s ↔ s.Written writes := by
  constructor
  · intro same id row value held last
    have read := writeTrashed_get writes s id
    rw [same, held, last, Option.map_some, Option.some.injEq] at read
    rw [read]
  · intro written
    rw [writeTrashed_media, update_eq_self]
    intro id row held
    cases last : lastWrite writes id with
    | none => rfl
    | some value =>
      rw [← written id row value held last]

end Marks

def Store.marksOf (s : Store) (ids : List (Nat × Int)) : List (Nat × Option Int) :=
  (ids.takeWhile (fun mark => s.has mark.1)).map (fun mark => (mark.1, some mark.2))

def Store.unmarksOf (s : Store) (ids : List Nat) : List (Nat × Option Int) := (ids.takeWhile s.has).map (fun id => (id, none))

theorem lastWrite_unmarks (ids : List Nat) (id : Nat) :
    lastWrite (ids.map (fun id => (id, none))) id = if id ∈ ids then some none else none := by
  induction ids with
  | nil => rfl
  | cons first rest ih =>
    rw [map_cons, lastWrite, ih]
    by_cases here : first = id
    · subst here
      by_cases again : first ∈ rest <;> simp [again]
    · have other : ¬ id = first := fun same => here same.symm
      by_cases later : id ∈ rest <;> simp [here, other, later]

namespace Actor

theorem markEach_run (ids : List (Nat × Int)) (actor : Actor) : ∃ items, (markEach ids).run actor =
      ({ actor with store := actor.store.writeTrashed (actor.store.marksOf ids) },
        if ids.all (fun mark => actor.store.has mark.1) then .ok items else .error .noRows) := by
  induction ids generalizing actor with
  | nil => exact ⟨[], rfl⟩
  | cons mark rest ih =>
    unfold markEach marksOf
    rw [run_bind, getMediaItem_run, requireRow_present, all_cons, takeWhile_cons]
    cases read : actor.store.media.get mark.1 with
    | none =>
      have absent : actor.store.has mark.1 = false := by simp [has, read]
      refine ⟨[], ?_⟩
      rw [absent]
      rfl
    | some row =>
      have present : actor.store.has mark.1 = true := by simp [has, read]
      have kept : (actor.store.markTrashed mark.1 mark.2).has = actor.store.has := has_writeTrashed [(mark.1, some mark.2)] actor.store
      obtain ⟨items, ran⟩ := ih { actor with store := actor.store.markTrashed mark.1 mark.2 }
      refine ⟨(mark.1, row) :: items, ?_⟩
      unfold marksOf at ran
      dsimp only at ran ⊢
      rw [run_bind, commit_run]
      dsimp only
      rw [run_bind, ran, kept, present, Bool.true_and]
      by_cases all : rest.all (fun mark => actor.store.has mark.1) = true
      · rw [if_pos all, if_pos all]
        rfl
      · rw [if_neg all, if_neg all]
        rfl

theorem unmark_absent (s : Store) (id : Nat) (absent : s.media.get id = none) : s.unmarkTrashed id = s := by
  have still := (writeTrashed_eq_self [(id, none)] s).mpr (fun other row value held last => ?_)
  · exact still
  · unfold lastWrite lastWrite at last
    rw [Option.none_or] at last
    split at last
    · next same =>
      rw [← same, absent] at held
      cases held
    · cases last

theorem unmarkEach_run (ids : List Nat) (actor : Actor) : (unmarkEach ids).run actor =
      ({ actor with store := actor.store.writeTrashed (actor.store.unmarksOf ids) },
        if ids.all actor.store.has then .ok ((actor.store.writeTrashed (ids.map (fun id => (id, none)))).itemsOf ids)
        else .error .noRows) := by
  induction ids generalizing actor with
  | nil => rfl
  | cons id rest ih =>
    unfold unmarkEach unmarksOf
    rw [run_bind, commit_run]
    dsimp only
    rw [run_bind, getMediaItem_run, requireRow_present, all_cons, takeWhile_cons]
    cases read : actor.store.media.get id with
    | none =>
      have absent : actor.store.has id = false := by simp [has, read]
      rw [unmark_absent _ _ read, read, absent]
      rfl
    | some row =>
      have present : actor.store.has id = true := by simp [has, read]
      have kept : (actor.store.unmarkTrashed id).has = actor.store.has := has_writeTrashed [(id, none)] actor.store
      have shown : (actor.store.unmarkTrashed id).media.get id = some { row with trashedAt := none } := by
        rw [unmarkTrashed, updateMedia, get_modify_self, read]
        rfl
      rw [shown, present, Bool.true_and]
      dsimp only
      rw [run_bind, ih]
      unfold unmarksOf
      rw [kept]
      by_cases all : rest.all actor.store.has = true
      · rw [if_pos all, if_pos all]
        have last : lastWrite ((id :: rest).map (fun id => (id, none))) id = some none := by
          rw [lastWrite_unmarks, if_pos mem_cons_self]
        have head : (actor.store.writeTrashed ((id :: rest).map (fun id => (id, none)))).media.get id =
            some { row with trashedAt := none } := by
          rw [writeTrashed_get, read, last]
          rfl
        have items : (actor.store.writeTrashed ((id :: rest).map (fun id => (id, none)))).itemsOf (id :: rest) =
            (id, { row with trashedAt := none }) ::
              ((actor.store.unmarkTrashed id).writeTrashed (rest.map (fun id => (id, none)))).itemsOf rest := by
          unfold itemsOf
          rw [filterMap_cons, head]
          rfl
        rw [items]
        rfl
      · rw [if_neg all, if_neg all]
        rfl

end Actor

variable {s t : Store} {media id : Nat}

section Notes

def Store.Retired (s : Store) (claim : Nat × Option Nat) : Prop :=
  ∃ entry row, claim.2 = some entry ∧ s.entries.get entry = some row ∧ row.retired = true

def Store.Unnoted (s : Store) (media : Nat) : Prop := s.recording = false ∨ ∀ claim ∈ s.claims media, s.Retired claim

theorem mark_grows {entry : Nat} {category : ChangeCategory} {stamp : EditEvent} {outcome : DirtyOutcome}
    (done : s.mark entry category stamp = .ok (t, outcome)) : t.journal.length = s.journal.length + 1 := by
  obtain ⟨row, _, _, rfl⟩ := mark_ok done
  exact length_append

theorem noteClaim_still {stamp : EditEvent} {now after : Store × List DirtyOutcome} {claim : Nat × Option Nat}
    (done : noteClaim media .metadata stamp now claim = .ok after) :
    now.1.journal.length < after.1.journal.length ∨ (after = now ∧ now.1.Retired claim) := by
  obtain ⟨rfl, never | retired⟩ | ⟨_, _, _, _, _, _, marked⟩ | ⟨_, enrolled, _, stored, marked⟩ := noteClaim_ok done
  · cases never
  · exact .inr ⟨rfl, retired⟩
  · have grown := mark_grows marked
    exact .inl (by omega)
  · obtain ⟨_, rfl⟩ := insertEntry_ok stored
    have grown := mark_grows marked
    exact .inl (by dsimp only at grown ⊢; omega)

theorem noteClaim_retired (media : Nat) (stamp : EditEvent) {now : Store × List DirtyOutcome} {claim : Nat × Option Nat}
    (retired : now.1.Retired claim) : noteClaim media .metadata stamp now claim = .ok now := by
  obtain ⟨entry, row, linked, read, closed⟩ := retired
  unfold noteClaim
  rw [linked]
  dsimp only
  rw [read, requireRow]
  refine bind_ok.mpr ⟨row, rfl, ?_⟩
  rw [closed]
  rfl

theorem notes_still {stamp : EditEvent} (claims : List (Nat × Option Nat)) (now after : Store × List DirtyOutcome)
    (done : claims.foldlM (noteClaim media .metadata stamp) now = .ok after) :
    now.1.journal.length < after.1.journal.length ∨ (after = now ∧ ∀ claim ∈ claims, now.1.Retired claim) := by
  induction claims generalizing now with
  | nil =>
    cases done
    exact .inr ⟨rfl, fun _ never => (nomatch never)⟩
  | cons claim rest ih =>
    obtain ⟨middle, stepped, looped⟩ := bind_ok.mp done
    rcases noteClaim_still stepped with grown | ⟨rfl, retired⟩
    · rcases ih middle looped with more | ⟨rfl, _⟩
      · exact .inl (Nat.lt_trans grown more)
      · exact .inl grown
    · rcases ih middle looped with more | ⟨rfl, others⟩
      · exact .inl more
      · refine .inr ⟨rfl, fun other member => ?_⟩
        rcases mem_cons.mp member with rfl | later
        · exact retired
        · exact others other later

theorem note_still {stamp : EditEvent} {outcome : Option DirtyOutcome} (done : s.note media .metadata stamp = .ok (t, outcome)) :
    s.journal.length < t.journal.length ∨ (t = s ∧ s.Unnoted media) := by
  by_cases on : s.recording = true
  · rw [note_on s media .metadata stamp on] at done
    obtain ⟨last, loop, rest⟩ := bind_ok.mp done
    cases rest
    rcases notes_still _ _ _ loop with grown | ⟨rfl, retired⟩
    · exact .inl grown
    · exact .inr ⟨rfl, .inr retired⟩
  · rw [Bool.not_eq_true] at on
    rw [note_off s media .metadata stamp on] at done
    cases done
    exact .inr ⟨rfl, .inl on⟩

theorem note_unnoted (stamp : EditEvent) (unnoted : s.Unnoted media) : s.note media .metadata stamp = .ok (s, none) := by
  by_cases on : s.recording = true
  · rcases unnoted with off | retired
    · rw [off] at on
      cases on
    · rw [note_on s media .metadata stamp on]
      have loop : ∀ claims : List (Nat × Option Nat), (∀ claim ∈ claims, s.Retired claim) →
          claims.foldlM (noteClaim media .metadata stamp) (s, []) = .ok (s, []) := by
        intro claims every
        induction claims with
        | nil => rfl
        | cons claim rest ih =>
          rw [foldlM_cons, noteClaim_retired media stamp (every claim mem_cons_self)]
          exact ih (fun other member => every other (mem_cons_of_mem _ member))
      rw [loop _ retired]
      rfl
  · rw [Bool.not_eq_true] at on
    exact note_off s media .metadata stamp on

def Store.Untrashed (s : Store) (id : Nat) : Prop := ∀ row, s.media.get id = some row → row.trashedAt = none

theorem unmark_untrashed {other : Nat} (before : other = id ∨ s.Untrashed other) : (s.unmarkTrashed id).Untrashed other := by
  intro row read
  rw [unmarkTrashed, updateMedia, get_modify] at read
  split at read
  · obtain ⟨_, _, rfl⟩ := Option.map_eq_some_iff.mp read
    rfl
  · next apart => exact before.resolve_left apart row read

theorem unmark_still (untrashed : s.Untrashed id) : s.unmarkTrashed id = s := by
  have same : s.media.modify id (fun row => { row with trashedAt := none }) = s.media := by
    refine update_eq_self _ _ (fun other row held => ?_)
    split
    · next here =>
      rw [here] at held
      rw [← untrashed row held]
    · rfl
  unfold unmarkTrashed updateMedia
  rw [same]

theorem restore_ahead (ids : List (Nat × EditEvent)) (done : restoreTrashedMetadata ids s = .ok t) :
    s.journal.length ≤ t.journal.length ∧ ∀ id, s.Untrashed id → t.Untrashed id := by
  refine loop_relates (fun s t : Store => s.journal.length ≤ t.journal.length ∧ ∀ id, s.Untrashed id → t.Untrashed id)
    (fun _ => ⟨Nat.le_refl _, fun _ same => same⟩)
    (fun _ _ _ first second => ⟨Nat.le_trans first.1 second.1, fun id same => second.2 id (first.2 id same)⟩)
    (fun found _ before after stepped => ?_) done
  obtain ⟨⟨noted, outcome⟩, recorded, rest⟩ := bind_ok.mp stepped
  cases rest
  obtain ⟨entries, journal, same⟩ := note_recorded recorded
  refine ⟨?_, fun id untrashed row read => ?_⟩
  · rcases note_still recorded with grown | ⟨rfl, _⟩
    · exact Nat.le_of_lt grown
    · exact Nat.le_refl _
  · rw [same] at read
    exact unmark_untrashed (.inr untrashed) row read

theorem restored_untrashed (ids : List (Nat × EditEvent)) (s t : Store) (done : restoreTrashedMetadata ids s = .ok t) :
    ∀ id ∈ ids.map Prod.fst, t.Untrashed id := by
  induction ids generalizing s with
  | nil => exact fun _ never => (nomatch never)
  | cons found rest ih =>
    obtain ⟨middle, stepped, looped⟩ := bind_ok.mp done
    obtain ⟨⟨_, outcome⟩, recorded, last⟩ := bind_ok.mp stepped
    cases last
    intro id member
    rw [map_cons] at member
    rcases mem_cons.mp member with rfl | later
    · obtain ⟨entries, journal, same⟩ := note_recorded recorded
      refine (restore_ahead rest looped).2 found.1 (fun row read => ?_)
      rw [same] at read
      exact unmark_untrashed (.inl rfl) row read
    · exact ih middle looped id later

theorem restore_has {ids : List (Nat × EditEvent)} {s t : Store} (done : restoreTrashedMetadata ids s = .ok t) : t.has = s.has := by
  refine loop_relates (fun s t : Store => t.has = s.has) (fun _ => rfl) (fun _ _ _ first second => second.trans first)
    (fun found _ before after stepped => ?_) done
  obtain ⟨⟨noted, outcome⟩, recorded, rest⟩ := bind_ok.mp stepped
  cases rest
  obtain ⟨entries, journal, same⟩ := note_recorded recorded
  have media : after.has = (before.unmarkTrashed found.1).has := by
    rw [same]
    rfl
  rw [media]
  exact has_writeTrashed [(found.1, none)] before

theorem restore_still (ids : List (Nat × EditEvent)) (s t : Store) (done : restoreTrashedMetadata ids s = .ok t) :
    t = s ↔ ∀ found ∈ ids, s.Untrashed found.1 ∧ s.Unnoted found.1 := by
  induction ids generalizing s with
  | nil =>
    cases done
    exact ⟨fun _ _ never => (nomatch never), fun _ => rfl⟩
  | cons found rest ih =>
    obtain ⟨middle, stepped, looped⟩ := bind_ok.mp done
    obtain ⟨⟨noted, outcome⟩, recorded, last⟩ := bind_ok.mp stepped
    cases last
    have ahead := restore_ahead rest looped
    constructor
    · rintro rfl
      obtain ⟨entries, journal, same⟩ := note_recorded recorded
      have untrashed : t.Untrashed found.1 := by
        refine ahead.2 found.1 (fun row read => ?_)
        rw [same] at read
        exact unmark_untrashed (.inl rfl) row read
      rw [unmark_still untrashed] at recorded
      rcases note_still recorded with grown | ⟨rfl, unnoted⟩
      · exact absurd grown (Nat.not_lt.mpr ahead.1)
      · intro other member
        rcases mem_cons.mp member with rfl | later
        · exact ⟨untrashed, unnoted⟩
        · exact (ih _ looped).mp rfl other later
    · intro every
      obtain ⟨untrashed, unnoted⟩ := every found mem_cons_self
      rw [unmark_still untrashed, note_unnoted found.2 unnoted] at recorded
      cases recorded
      exact (ih _ looped).mpr (fun other member => every other (mem_cons_of_mem _ member))

end Notes

section Favorites
variable (favorite : Bool)

def Store.Favored (s : Store) (id : Nat) : Prop := ∃ row, s.media.get id = some row ∧ row.isFavorite = if favorite then 1 else 0

theorem setFavorite_favored (ids : List Nat) (stamp : EditEvent) (s t : Store) (done : setFavorite ids favorite stamp s = .ok t) :
    ∀ id, (id ∈ ids ∨ s.Favored favorite id) → t.Favored favorite id := by
  induction ids generalizing s with
  | nil =>
    cases done
    rintro id (never | held)
    · cases never
    · exact held
  | cons first rest ih =>
    obtain ⟨middle, stepped, looped⟩ := bind_ok.mp done
    obtain ⟨written, set, ⟨_, outcome⟩, recorded, last⟩ := bind2_ok stepped
    cases last
    obtain ⟨entries, journal, same⟩ := note_recorded recorded
    have media : middle.media = written.media := by rw [same]
    unfold setMediaFavorite at set
    split at set
    · next row held =>
      cases set
      have now : ∀ id, id = first ∨ s.Favored favorite id → middle.Favored favorite id := by
        intro id reason
        unfold Store.Favored
        rw [media, updateMedia, get_modify]
        by_cases here : id = first
        · rw [if_pos here, here, held]
          exact ⟨_, rfl, rfl⟩
        · rw [if_neg here]
          exact reason.resolve_left here
      intro id reason
      refine ih middle looped id ?_
      rcases reason with member | before
      · rcases mem_cons.mp member with here | later
        · exact .inr (now id (.inl here))
        · exact .inl later
      · exact .inr (now id (.inr before))
    · cases set

end Favorites

namespace UserCommand
open Actor

def Shows (row : Media) : UserCommand → Prop
  | setFavorite _ favorite _ => row.isFavorite = if favorite then 1 else 0
  | markTrashed _ => row.trashedAt.isSome = true
  | restoreTrashed _ => row.trashedAt = none
  | rollbackTrashed _ => row.trashedAt = none

def Exact (command : UserCommand) (s : Store) : Actor × Except StoreError (List MediaItem) → Prop
  | (after, .error _) => after.store = s ∧ after.events = []
  | (after, .ok _) => ∀ event ∈ after.events, ∀ items, event.items = some items →
    items = after.store.itemsOf command.ids ∧ ∀ item ∈ items, command.Shows item.2

def AllOrNothing (command : UserCommand) (s : Store) : Prop := command.Exact s (command.execute.run ⟨s, []⟩)

-- Every id has a row, or what comes before the first that has none changes
-- nothing. A restore writes all its rows in one transaction.
def Complete (s : Store) : UserCommand → Prop
  | setFavorite _ _ _ => True
  | markTrashed ids => (∀ mark ∈ ids, s.has mark.1 = true) ∨ s.Written (s.marksOf ids)
  | restoreTrashed ids => (∀ found ∈ ids, s.has found.1 = true) ∨ (∀ found ∈ ids, s.Untrashed found.1 ∧ s.Unnoted found.1) ∨
    ∃ failure, Store.restoreTrashedMetadata ids s = .error failure
  | rollbackTrashed ids => (∀ id ∈ ids, s.has id = true) ∨ s.Written (s.unmarksOf ids)

theorem mem_itemsOf (s : Store) (ids : List Nat) (item : MediaItem) :
    item ∈ s.itemsOf ids ↔ item.1 ∈ ids ∧ s.media.get item.1 = some item.2 := by
  unfold itemsOf
  rw [mem_filterMap]
  constructor
  · rintro ⟨id, member, found⟩
    obtain ⟨row, held, rfl⟩ := Option.map_eq_some_iff.mp found
    exact ⟨member, held⟩
  · rintro ⟨member, held⟩
    exact ⟨item.1, member, by rw [held]; rfl⟩

theorem setFavorite_allOrNothing (ids : List Nat) (favorite : Bool) (stamp : EditEvent) (s : Store) :
    (setFavorite ids favorite stamp).AllOrNothing s := by
  unfold AllOrNothing execute
  rw [run_bind, commit_run]
  cases done : Store.setFavorite ids favorite stamp s with
  | error => exact ⟨rfl, rfl⟩
  | ok t =>
    have favored := setFavorite_favored favorite ids stamp s t done
    have all : ids.all t.has = true := by
      rw [all_eq_true]
      intro id member
      obtain ⟨row, held, _⟩ := favored id (.inl member)
      unfold Store.has
      rw [held]
      rfl
    have shows : ∀ item ∈ t.itemsOf ids, (setFavorite ids favorite stamp).Shows item.2 := by
      intro item member
      obtain ⟨listed, held⟩ := (mem_itemsOf t ids item).mp member
      obtain ⟨row, again, set⟩ := favored item.1 (.inl listed)
      rw [held] at again
      cases again
      exact set
    dsimp only
    rw [run_bind, getEach_run, if_pos all]
    dsimp only
    by_cases empty : (t.itemsOf ids).isEmpty = true
    · rw [if_pos empty]
      exact fun _ never => (nomatch never)
    · rw [if_neg empty]
      intro event member items carried
      rcases mem_cons.mp member with rfl | later
      · cases carried
        exact ⟨rfl, shows⟩
      · rw [mem_singleton.mp later] at carried
        cases carried

theorem markTrashed_allOrNothing_iff (ids : List (Nat × Int)) (s : Store) :
    (markTrashed ids).AllOrNothing s ↔ (markTrashed ids).Complete s := by
  obtain ⟨items, ran⟩ := markEach_run ids ⟨s, []⟩
  unfold AllOrNothing execute Complete
  rw [ran]
  by_cases all : ids.all (fun mark => s.has mark.1) = true
  · rw [if_pos all]
    exact iff_of_true (fun _ never => nomatch never) (.inl (all_eq_true.mp all))
  · rw [if_neg all]
    have missing : ¬ ∀ mark ∈ ids, s.has mark.1 = true := fun every => all (all_eq_true.mpr every)
    exact ⟨fun exact => .inr ((writeTrashed_eq_self _ _).mp exact.1),
      fun complete => ⟨(writeTrashed_eq_self _ _).mpr (complete.resolve_left missing), rfl⟩⟩

theorem rollbackTrashed_allOrNothing_iff (ids : List Nat) (s : Store) :
    (rollbackTrashed ids).AllOrNothing s ↔ (rollbackTrashed ids).Complete s := by
  unfold AllOrNothing execute Complete
  rw [run_bind, unmarkEach_run]
  by_cases all : ids.all s.has = true
  · rw [if_pos all]
    dsimp only
    have whole : s.unmarksOf ids = ids.map (fun id => (id, none)) := by
      unfold unmarksOf
      rw [takeWhile_eq_self_iff.mpr (all_eq_true.mp all)]
    rw [whole]
    refine iff_of_true ?_ (.inl (all_eq_true.mp all))
    generalize stored : s.writeTrashed (ids.map (fun id => (id, none))) = t
    have shows : ∀ item ∈ t.itemsOf ids, (rollbackTrashed ids).Shows item.2 := by
      intro item member
      obtain ⟨listed, held⟩ := (mem_itemsOf t ids item).mp member
      rw [← stored, writeTrashed_get, lastWrite_unmarks, if_pos listed] at held
      obtain ⟨row, _, same⟩ := Option.map_eq_some_iff.mp held
      rw [← same]
      rfl
    by_cases empty : (t.itemsOf ids).isEmpty = true
    · rw [if_pos empty]
      exact fun _ never => (nomatch never)
    · rw [if_neg empty]
      intro event member items carried
      rw [mem_singleton.mp member] at carried
      cases carried
      exact ⟨rfl, shows⟩
  · rw [if_neg all]
    have missing : ¬ ∀ id ∈ ids, s.has id = true := fun every => all (all_eq_true.mpr every)
    exact ⟨fun exact => .inr ((writeTrashed_eq_self _ _).mp exact.1),
      fun complete => ⟨(writeTrashed_eq_self _ _).mpr (complete.resolve_left missing), rfl⟩⟩

theorem restoreTrashed_allOrNothing_iff (ids : List (Nat × EditEvent)) (s : Store) :
    (restoreTrashed ids).AllOrNothing s ↔ (restoreTrashed ids).Complete s := by
  unfold AllOrNothing execute Complete
  rw [run_bind, commit_run]
  dsimp only
  cases done : restoreTrashedMetadata ids s with
  | error failure => exact iff_of_true ⟨rfl, rfl⟩ (.inr (.inr ⟨failure, rfl⟩))
  | ok t =>
    have present : t.has = s.has := restore_has done
    dsimp only
    rw [run_bind, getEach_run, present]
    by_cases all : (ids.map Prod.fst).all s.has = true
    · rw [if_pos all]
      refine iff_of_true ?_ (.inl (fun found member => ?_))
      · intro event member items carried
        rcases mem_cons.mp member with rfl | later
        · cases carried
          refine ⟨rfl, fun item listed => ?_⟩
          obtain ⟨named, held⟩ := (mem_itemsOf t _ item).mp listed
          exact restored_untrashed ids s t done item.1 named item.2 held
        · rw [mem_singleton.mp later] at carried
          cases carried
      · exact all_eq_true.mp all found.1 (mem_map_of_mem member)
    · rw [if_neg all]
      have missing : ¬ ∀ found ∈ ids, s.has found.1 = true := by
        intro every
        refine all (all_eq_true.mpr (fun id member => ?_))
        obtain ⟨found, listed, rfl⟩ := mem_map.mp member
        exact every found listed
      constructor
      · intro exact
        exact .inr (.inl ((restore_still ids s t done).mp exact.1))
      · rintro (every | still | ⟨failure, never⟩)
        · exact absurd every missing
        · exact ⟨(restore_still ids s t done).mpr still, rfl⟩
        · cases never

end UserCommand

namespace Sample

def lonely (trashedAt : Option Int) : Store :=
  { Store.empty with
    media := Table.empty.insert ⟨"file:///p/a.jpg", "/p/a.jpg", "/p", none, 0, 3, 0, trashedAt, .localOnly, true⟩ }

end Sample

-- The favourite is all or nothing whatever the ids are; the other commands
-- exactly where no missing id meets rows that were changed before.
theorem user_commands_all_or_nothing_iff (command : UserCommand) (s : Store) : command.AllOrNothing s ↔ command.Complete s := by
  cases command with
  | setFavorite ids favorite stamp => exact iff_of_true (UserCommand.setFavorite_allOrNothing ids favorite stamp s) trivial
  | markTrashed ids => exact UserCommand.markTrashed_allOrNothing_iff ids s
  | restoreTrashed ids => exact UserCommand.restoreTrashed_allOrNothing_iff ids s
  | rollbackTrashed ids => exact UserCommand.rollbackTrashed_allOrNothing_iff ids s

open Sample in
theorem missing_id_leaves_half :
    let marked := (UserCommand.markTrashed [(1, 5), (2, 5)]).execute.run ⟨lonely none, []⟩
    let restored := (UserCommand.restoreTrashed [(1, stamp), (2, stamp)]).execute.run ⟨lonely (some 5), []⟩
    let rolledBack := (UserCommand.rollbackTrashed [1, 2]).execute.run ⟨lonely (some 5), []⟩
    (marked.2 = .error .noRows ∧ (marked.1.store.media.get 1).map Media.trashedAt = some (some 5)) ∧
    (restored.2 = .error .noRows ∧ restored.1.events = [] ∧ (restored.1.store.media.get 1).map Media.trashedAt = some none) ∧
    (rolledBack.2 = .error .noRows ∧ rolledBack.1.events = [] ∧ (rolledBack.1.store.media.get 1).map Media.trashedAt = some none) := by
  decide +kernel

end PhotoSync
