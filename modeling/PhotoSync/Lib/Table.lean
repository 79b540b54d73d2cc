import Mathlib.Data.List.Nodup

set_option autoImplicit false

namespace Relational
open List

universe u

variable {α : Type u}

-- A table whose row numbers are handed out in increasing order and never reused. Rows stay in row-number order, so
-- the first match of a scan is the one an ordered query returns. Both facts are fields: no operation below can build
-- a table with two rows of one number or with a number still to come.
structure Table (α : Type u) where
  rows : List (Nat × α)
  next : Nat
  ascending : rows.Pairwise (fun before after => before.1 < after.1)
  below : ∀ row ∈ rows, row.1 < next

namespace Table

def empty : Table α := ⟨[], 1, .nil, by simp⟩

def get (table : Table α) (id : Nat) : Option α := (table.rows.find? (fun row => row.1 == id)).map Prod.snd

def first? (table : Table α) (test : Nat → α → Bool) : Option (Nat × α) := table.rows.find? (fun row => test row.1 row.2)

def last? (table : Table α) (test : Nat → α → Bool) : Option (Nat × α) := table.rows.reverse.find? (fun row => test row.1 row.2)

def any (table : Table α) (test : Nat → α → Bool) : Bool := table.rows.any (fun row => test row.1 row.2)

def select (table : Table α) (test : Nat → α → Bool) : List (Nat × α) := table.rows.filter (fun row => test row.1 row.2)

def insert (table : Table α) (value : α) : Table α where
  rows := table.rows ++ [(table.next, value)]
  next := table.next + 1
  ascending := by
    refine List.pairwise_append.mpr ⟨table.ascending, List.pairwise_singleton _ _, ?_⟩
    intro row member last equal
    rw [List.mem_singleton.mp equal]
    exact table.below row member
  below := by
    intro row member
    rcases List.mem_append.mp member with old | new
    · exact Nat.lt_succ_of_lt (table.below row old)
    · rw [List.mem_singleton.mp new]
      exact Nat.lt_succ_self _

def update (table : Table α) (change : Nat → α → α) : Table α where
  rows := table.rows.map (fun row => (row.1, change row.1 row.2))
  next := table.next
  ascending := List.pairwise_map.mpr table.ascending
  below := by
    intro row member
    obtain ⟨old, present, equal⟩ := List.mem_map.mp member
    rw [← equal]
    exact table.below old present

def modify (table : Table α) (id : Nat) (change : α → α) : Table α :=
  table.update (fun other value => if other = id then change value else value)

def delete (table : Table α) (test : Nat → α → Bool) : Table α where
  rows := table.rows.filter (fun row => !test row.1 row.2)
  next := table.next
  ascending := table.ascending.sublist List.filter_sublist
  below := fun row member => table.below row (List.mem_filter.mp member).1

theorem numbers_distinct (table : Table α) : (table.rows.map Prod.fst).Nodup := by
  rw [nodup_iff_pairwise_ne, pairwise_map]
  exact table.ascending.imp (fun less => Nat.ne_of_lt less)

theorem get_eq_some (table : Table α) (id : Nat) (value : α) : table.get id = some value ↔ (id, value) ∈ table.rows := by
  constructor
  · intro read
    obtain ⟨row, found, same⟩ := Option.map_eq_some_iff.mp read
    have number : row.1 = id := by simpa using find?_some found
    have member := mem_of_find?_eq_some found
    rw [← number, ← same]
    exact member
  · intro member
    obtain ⟨row, found⟩ : ∃ row, table.rows.find? (fun row => row.1 == id) = some row := by
      rw [← Option.isSome_iff_exists, find?_isSome]
      exact ⟨(id, value), member, by simp⟩
    have number : row.1 = id := by simpa using find?_some found
    have same : row = (id, value) := inj_on_of_nodup_map table.numbers_distinct (mem_of_find?_eq_some found) member number
    simp [get, found, same]

theorem get_eq_none (table : Table α) (id : Nat) : table.get id = none ↔ ∀ value, (id, value) ∉ table.rows := by
  rw [Option.eq_none_iff_forall_ne_some]
  simp only [ne_eq, get_eq_some]

theorem lt_next {table : Table α} {id : Nat} {value : α} (read : table.get id = some value) : id < table.next :=
  table.below (id, value) ((table.get_eq_some id value).mp read)

theorem get_of_next_le (table : Table α) (id : Nat) (fresh : table.next ≤ id) : table.get id = none := by
  rw [get_eq_none]
  intro value member
  exact absurd (table.below _ member) (Nat.not_lt.mpr fresh)

@[simp] theorem get_empty (id : Nat) : (empty : Table α).get id = none := rfl

theorem get_insert (table : Table α) (value : α) (id : Nat) :
    (table.insert value).get id = if id = table.next then some value else table.get id := by
  by_cases new : id = table.next
  · subst new
    rw [if_pos rfl, get_eq_some]
    exact mem_append_right _ (mem_singleton_self _)
  · rw [if_neg new]
    apply Option.ext
    intro found
    simp only [get_eq_some, insert, mem_append, mem_singleton, Prod.mk.injEq, new, false_and, or_false]

@[simp] theorem get_insert_next (table : Table α) (value : α) : (table.insert value).get table.next = some value := by
  rw [get_insert, if_pos rfl]

@[simp] theorem get_update (table : Table α) (change : Nat → α → α) (id : Nat) :
    (table.update change).get id = (table.get id).map (change id) := by
  apply Option.ext
  intro found
  simp only [get_eq_some, update, List.mem_map, Prod.mk.injEq, Option.map_eq_some_iff]
  constructor
  · rintro ⟨row, member, rfl, rfl⟩
    exact ⟨row.2, member, rfl⟩
  · rintro ⟨old, member, rfl⟩
    exact ⟨(id, old), member, rfl, rfl⟩

theorem update_update (table : Table α) (first second : Nat → α → α) :
    (table.update first).update second = table.update (fun id value => second id (first id value)) := by
  simp [update, map_map, Function.comp_def]

theorem get_modify (table : Table α) (target : Nat) (change : α → α) (id : Nat) :
    (table.modify target change).get id = if id = target then (table.get id).map change else table.get id := by
  rw [modify, get_update]
  by_cases here : id = target
  · simp only [here, if_true]
  · simp only [here, if_false, Option.map_id']

@[simp] theorem get_modify_self (table : Table α) (target : Nat) (change : α → α) :
    (table.modify target change).get target = (table.get target).map change := by
  rw [get_modify, if_pos rfl]

theorem get_modify_of_ne {table : Table α} {target : Nat} {change : α → α} {id : Nat} (different : id ≠ target) :
    (table.modify target change).get id = table.get id := by
  rw [get_modify, if_neg different]

theorem modify_id (table : Table α) (target : Nat) : table.modify target (fun row => row) = table := by
  obtain ⟨held, next, ascending, below⟩ := table
  exact (Table.mk.injEq ..).mpr ⟨(map_congr_left (fun row _ => by simp)).trans (map_id _), rfl⟩

theorem modify_absent (table : Table α) {target : Nat} (absent : table.get target = none) (change : α → α) :
    table.modify target change = table := by
  have rows : (table.modify target change).rows = table.rows := by
    refine (map_congr_left (fun row member => ?_)).trans (map_id _)
    have other : row.1 ≠ target := by
      rintro rfl
      exact (table.get_eq_none _).mp absent row.2 member
    simp [other]
  obtain ⟨held, next, ascending, below⟩ := table
  exact (Table.mk.injEq ..).mpr ⟨rows, rfl⟩

theorem update_eq_self (table : Table α) (change : Nat → α → α)
    (same : ∀ id value, table.get id = some value → change id value = value) : table.update change = table := by
  have rows : table.rows.map (fun row => (row.1, change row.1 row.2)) = table.rows := by
    rw [map_congr_left (g := id) (fun row member => ?_), map_id]
    rw [same row.1 row.2 ((table.get_eq_some _ _).mpr member)]
    rfl
  cases table
  simp only [update, mk.injEq, and_true] at rows ⊢
  exact rows

theorem modify_modify (table : Table α) (target : Nat) (first second : α → α) :
    (table.modify target first).modify target second = table.modify target (fun value => second (first value)) := by
  have rows : ((table.modify target first).modify target second).rows =
      (table.modify target (fun value => second (first value))).rows := by
    simp only [modify, update, map_map]
    apply map_congr_left
    intro row _
    by_cases here : row.1 = target
    · simp [here]
    · simp [here]
  cases table
  simp only [modify, update, mk.injEq, and_true] at rows ⊢
  exact rows

@[simp] theorem get_delete (table : Table α) (test : Nat → α → Bool) (id : Nat) :
    (table.delete test).get id = (table.get id).filter (fun value => !test id value) := by
  apply Option.ext
  intro found
  simp only [get_eq_some, delete, List.mem_filter, Option.filter_eq_some_iff]

theorem any_iff {table : Table α} {test : Nat → α → Bool} :
    table.any test = true ↔ ∃ id value, table.get id = some value ∧ test id value = true := by
  simp only [any, any_eq_true, Prod.exists, get_eq_some]

theorem any_eq_false {table : Table α} {test : Nat → α → Bool} :
    table.any test = false ↔ ∀ id value, table.get id = some value → test id value = false := by
  rw [← Bool.not_eq_true, any_iff]
  simp only [not_exists, not_and, Bool.not_eq_true]

theorem first?_some {table : Table α} {test : Nat → α → Bool} {id : Nat} {value : α}
    (found : table.first? test = some (id, value)) : table.get id = some value ∧ test id value = true :=
  ⟨(table.get_eq_some id value).mpr (mem_of_find?_eq_some found), find?_some (p := fun row : Nat × α => test row.1 row.2) found⟩

theorem first?_none {table : Table α} {test : Nat → α → Bool} :
    table.first? test = none ↔ ∀ id value, table.get id = some value → test id value = false := by
  simp only [first?, find?_eq_none, Prod.forall, get_eq_some, Bool.not_eq_true]

theorem first?_unique {table : Table α} (test : Nat → α → Bool) {id : Nat} {value : α}
    (read : table.get id = some value) (picked : test id value = true)
    (only : ∀ other row, table.get other = some row → test other row = true → other = id) :
    table.first? test = some (id, value) := by
  cases found : table.first? test with
  | none =>
    rw [first?_none.mp found id value read] at picked
    cases picked
  | some row =>
    obtain ⟨present, chosen⟩ := first?_some found
    have same := only row.1 row.2 present chosen
    rw [same, read] at present
    rw [← same, Option.some.inj present]

theorem last?_some {table : Table α} {test : Nat → α → Bool} {id : Nat} {value : α}
    (found : table.last? test = some (id, value)) : table.get id = some value ∧ test id value = true :=
  ⟨(table.get_eq_some id value).mpr (mem_reverse.mp (mem_of_find?_eq_some found)),
    find?_some (p := fun row : Nat × α => test row.1 row.2) found⟩

theorem last?_none {table : Table α} {test : Nat → α → Bool} :
    table.last? test = none ↔ ∀ id value, table.get id = some value → test id value = false := by
  simp only [last?, find?_eq_none, mem_reverse, Prod.forall, get_eq_some, Bool.not_eq_true]

theorem mem_select {table : Table α} {test : Nat → α → Bool} {id : Nat} {value : α} :
    (id, value) ∈ table.select test ↔ table.get id = some value ∧ test id value = true := by
  simp only [select, mem_filter, get_eq_some]

def All (holds : α → Prop) (table : Table α) : Prop := ∀ id value, table.get id = some value → holds value

end Table
end Relational
