import Mathlib.Logic.Relation
import PhotoSync.Lib.Table

set_option autoImplicit false

namespace Relational
open Relation Table

universe u

variable {α : Type u}

-- What a family of writes may do to a table: which rows it may add, which
-- changes it may make to a row of a given number, and which rows it may drop.
structure Rules (α : Type u) where
  born : α → Prop
  step : Nat → α → α → Prop
  gone : Nat → α → Prop

inductive Edit (rules : Rules α) : Table α → Table α → Prop where
  | insert (table : Table α) (value : α) (allowed : rules.born value) : Edit rules table (table.insert value)
  | update (table : Table α) (change : Nat → α → α)
    (allowed : ∀ id value, table.get id = some value → ReflTransGen (rules.step id) value (change id value)) :
    Edit rules table (table.update change)
  | delete (table : Table α) (test : Nat → α → Bool)
    (allowed : ∀ id value, table.get id = some value → test id value = true → rules.gone id value) :
    Edit rules table (table.delete test)

-- A whole transaction: any number of edits. This is the only relation between
-- the table before and after that the invariants below need.
def Evolves (rules : Rules α) : Table α → Table α → Prop := ReflTransGen (Edit rules)

namespace Evolves

variable {rules weaker : Rules α} {table later final : Table α}

theorem refl : Evolves rules table table := ReflTransGen.refl

theorem of_eq (same : later = table) : Evolves rules table later := same ▸ refl

theorem trans (first : Evolves rules table later) (second : Evolves rules later final) : Evolves rules table final :=
  ReflTransGen.trans first second

theorem insert (value : α) (allowed : rules.born value) : Evolves rules table (table.insert value) :=
  ReflTransGen.single (.insert table value allowed)

theorem update (change : Nat → α → α)
    (allowed : ∀ id value, table.get id = some value → ReflTransGen (rules.step id) value (change id value)) :
    Evolves rules table (table.update change) :=
  ReflTransGen.single (.update table change allowed)

theorem modify (target : Nat) (change : α → α)
    (allowed : ∀ value, table.get target = some value → ReflTransGen (rules.step target) value (change value)) :
    Evolves rules table (table.modify target change) := by
  refine update _ (fun id value read => ?_)
  by_cases here : id = target
  · subst here
    rw [if_pos rfl]
    exact allowed value read
  · rw [if_neg here]

theorem delete (test : Nat → α → Bool) (allowed : ∀ id value, table.get id = some value → test id value = true → rules.gone id value) :
    Evolves rules table (table.delete test) :=
  ReflTransGen.single (.delete table test allowed)

-- A property of rows that every added row has and every change keeps holds of
-- every row afterwards, whatever was dropped.
theorem all (holds : α → Prop) (born : ∀ value, rules.born value → holds value)
    (step : ∀ id before after, rules.step id before after → holds before → holds after)
    (evolves : Evolves rules table later) (start : table.All holds) : later.All holds := by
  induction evolves with
  | refl => exact start
  | tail _ edit before =>
    cases edit with
    | insert value allowed =>
      intro id found read
      rw [get_insert] at read
      split at read
      · cases read
        exact born _ allowed
      · exact before id found read
    | update change allowed =>
      intro id found read
      rw [get_update] at read
      obtain ⟨old, present, rfl⟩ := Option.map_eq_some_iff.mp read
      have steps := allowed id old present
      generalize change id old = new at steps
      induction steps with
      | refl => exact before id old present
      | tail _ last kept => exact step id _ _ last kept
    | delete =>
      intro id found read
      rw [get_delete, Option.filter_eq_some_iff] at read
      exact before id found read.1

theorem next_le (evolves : Evolves rules table later) : table.next ≤ later.next := by
  induction evolves with
  | refl => exact Nat.le_refl _
  | tail _ edit before =>
    cases edit with
    | insert => exact Nat.le_succ_of_le before
    | update | delete => exact before

-- Following one row number back: numbers are never reused, so a row found later under a number already given out is
-- the same row, related to its former self by what its changes allow.
theorem origin (related : Nat → α → α → Prop) (reflexive : ∀ id value, related id value value)
    (step : ∀ id first before after, related id first before → rules.step id before after → related id first after)
    (evolves : Evolves rules table later) (id : Nat) (new : α) (given : id < table.next)
    (read : later.get id = some new) : ∃ old, table.get id = some old ∧ related id old new := by
  induction evolves generalizing new with
  | refl => exact ⟨new, read, reflexive id new⟩
  | tail path edit before =>
    cases edit with
    | insert =>
      rw [get_insert] at read
      split at read
      · next fresh => exact absurd fresh (Nat.ne_of_lt (Nat.lt_of_lt_of_le given (next_le path)))
      · exact before new read
    | update change allowed =>
      rw [get_update] at read
      obtain ⟨middle, present, rfl⟩ := Option.map_eq_some_iff.mp read
      obtain ⟨old, first, kept⟩ := before middle present
      refine ⟨old, first, ?_⟩
      have steps := allowed id middle present
      generalize change id middle = last at steps
      induction steps with
      | refl => exact kept
      | tail _ stepped earlier => exact step id _ _ _ earlier stepped
    | delete =>
      rw [get_delete, Option.filter_eq_some_iff] at read
      exact before new read.1

-- A row with a property that changes keep and that droppable rows lack is still there afterwards, with the property.
theorem keeps (holds : Nat → α → Prop) (step : ∀ id before after, rules.step id before after → holds id before → holds id after)
    (gone : ∀ id value, rules.gone id value → ¬ holds id value) (evolves : Evolves rules table later) (id : Nat) (old : α)
    (readOld : table.get id = some old) (start : holds id old) : ∃ new, later.get id = some new ∧ holds id new := by
  induction evolves with
  | refl => exact ⟨old, readOld, start⟩
  | tail _ edit before =>
    obtain ⟨middle, present, kept⟩ := before
    cases edit with
    | insert =>
      refine ⟨middle, ?_, kept⟩
      rw [get_insert, if_neg (Nat.ne_of_lt (lt_next present)), present]
    | update change allowed =>
      refine ⟨change id middle, by rw [get_update, present]; rfl, ?_⟩
      have steps := allowed id middle present
      generalize change id middle = last at steps
      induction steps with
      | refl => exact kept
      | tail _ stepped earlier => exact step id _ _ stepped earlier
    | delete test allowed =>
      refine ⟨middle, ?_, kept⟩
      rw [get_delete, present, Option.filter_eq_some_iff]
      refine ⟨rfl, ?_⟩
      by_contra picked
      exact gone id middle (allowed id middle present (by simpa using picked)) kept

end Evolves
end Relational
