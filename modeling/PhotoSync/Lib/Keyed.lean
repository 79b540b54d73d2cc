import PhotoSync.Lib.Table

set_option autoImplicit false

namespace Relational

universe u v

variable {α : Type u} {κ : Type v}

namespace Table

-- INSERT ... ON CONFLICT DO UPDATE: the first row that matches is changed, and without one the fresh row is added.
def upsert (table : Table α) (test : α → Bool) (change : α → α) (fresh : α) : Table α :=
  match table.first? (fun _ value => test value) with
  | some (id, _) => table.modify id change
  | none => table.insert fresh

theorem first?_update (table : Table α) (change : Nat → α → α) (test : Nat → α → Bool)
    (same : ∀ id value, test id (change id value) = test id value) :
    (table.update change).first? test = (table.first? test).map (fun found => (found.1, change found.1 found.2)) := by
  simp only [first?, update, List.find?_map, Function.comp_def, same]

theorem first?_delete (table : Table α) (test gone : Nat → α → Bool)
    (spared : ∀ id value, test id value = true → gone id value = false) :
    (table.delete gone).first? test = table.first? test := by
  simp only [first?, delete, List.find?_filter]
  congr 1
  funext row
  cases picked : test row.1 row.2 with
  | false => simp
  | true => simp [spared row.1 row.2 picked]

theorem first?_insert (table : Table α) (value : α) (test : Nat → α → Bool) : (table.insert value).first? test =
      (table.first? test).or (if test table.next value then some (table.next, value) else none) := by
  by_cases picked : test table.next value = true
  · simp [first?, insert, List.find?_append, picked]
  · simp [first?, insert, List.find?_append, picked]

def Distinct (key : α → κ) (table : Table α) : Prop :=
  ∀ first second before after, table.get first = some before → table.get second = some after → key before = key after → first = second

theorem distinct_empty (key : α → κ) : Distinct key (empty : Table α) := by
  intro first second before after read
  rw [get_empty] at read
  cases read

theorem distinct_of_origin {key : α → κ} {table : Table α} (later : Table α) (distinct : Distinct key table)
    (origin : ∀ id value, later.get id = some value → ∃ old, table.get id = some old ∧ key value = key old) :
    Distinct key later := by
  intro first second before after one two same
  obtain ⟨old, present, kept⟩ := origin first before one
  obtain ⟨other, found, held⟩ := origin second after two
  exact distinct first second old other present found (by rw [← kept, same, held])

theorem distinct_insert {key : α → κ} {table : Table α} (value : α) (distinct : Distinct key table)
    (fresh : ∀ id old, table.get id = some old → key old ≠ key value) : Distinct key (table.insert value) := by
  intro first second before after one two same
  rw [get_insert] at one two
  by_cases here : first = table.next
  · rw [if_pos here, Option.some.injEq] at one
    by_cases there : second = table.next
    · rw [here, there]
    · rw [if_neg there] at two
      exact absurd (by rw [one, same]) (fresh second after two)
  · rw [if_neg here] at one
    by_cases there : second = table.next
    · rw [if_pos there, Option.some.injEq] at two
      exact absurd (by rw [two, same]) (fresh first before one)
    · rw [if_neg there] at two
      exact distinct first second before after one two same

theorem get_upsert {key : α → κ} (name : κ) {table : Table α} {test : α → Bool} {change : α → α} {fresh : α}
    (distinct : Distinct key table) (tests : ∀ value, test value = true ↔ key value = name) {id : Nat} {value : α}
    (read : (table.upsert test change fresh).get id = some value) : (table.get id = some value ∧ key value ≠ name) ∨
    (∃ old, table.get id = some old ∧ key old = name ∧ value = change old) ∨
    (id = table.next ∧ value = fresh ∧ ∀ other old, table.get other = some old → key old ≠ name) := by
  unfold upsert at read
  split at read
  · next target held located =>
    obtain ⟨present, named⟩ := first?_some located
    rw [get_modify] at read
    by_cases here : id = target
    · subst here
      rw [if_pos rfl, present, Option.map_some, Option.some.injEq] at read
      exact .inr (.inl ⟨held, present, (tests held).mp named, read.symm⟩)
    · rw [if_neg here] at read
      refine .inl ⟨read, fun same => here ?_⟩
      exact distinct id target value held read present (same.trans ((tests held).mp named).symm)
  · next absent =>
    have missing : ∀ other old, table.get other = some old → key old ≠ name := by
      intro other old found same
      have unmatched := first?_none.mp absent other old found
      rw [(tests old).mpr same] at unmatched
      cases unmatched
    rw [get_insert] at read
    by_cases here : id = table.next
    · rw [if_pos here, Option.some.injEq] at read
      exact .inr (.inr ⟨here, read.symm, missing⟩)
    · rw [if_neg here] at read
      exact .inl ⟨read, missing id value read⟩

theorem upsert_changes {key : α → κ} {name : κ} {table : Table α} (test : α → Bool) (change : α → α) (fresh : α)
    (distinct : Distinct key table) (tests : ∀ value, test value = true ↔ key value = name) (id : Nat) {old : α}
    (present : table.get id = some old) (named : key old = name) :
    (table.upsert test change fresh).get id = some (change old) := by
  have located : table.first? (fun _ value => test value) = some (id, old) :=
    first?_unique _ present ((tests old).mpr named) (fun other found read matched =>
      distinct other id found old read present (((tests found).mp matched).trans named.symm))
  simp only [upsert, located, get_modify_self, present, Option.map_some]

theorem upsert_adds (key : α → κ) (name : κ) (table : Table α) (test : α → Bool) (change : α → α) (fresh : α)
    (tests : ∀ value, test value = true ↔ key value = name) (missing : ∀ id old, table.get id = some old → key old ≠ name) :
    (table.upsert test change fresh).get table.next = some fresh := by
  have absent : table.first? (fun _ value => test value) = none := by
    refine first?_none.mpr (fun id old present => ?_)
    rw [← Bool.not_eq_true, tests]
    exact missing id old present
  simp only [upsert, absent, get_insert_next]

theorem distinct_upsert {key : α → κ} (name : κ) {table : Table α} (test : α → Bool) (change : α → α) (fresh : α)
    (distinct : Distinct key table) (tests : ∀ value, test value = true ↔ key value = name)
    (kept : ∀ value, key (change value) = key value) (named : key fresh = name) :
    Distinct key (table.upsert test change fresh) := by
  unfold upsert
  split
  · refine distinct_of_origin _ distinct (fun id value read => ?_)
    rw [get_modify] at read
    split at read
    · obtain ⟨old, present, rfl⟩ := Option.map_eq_some_iff.mp read
      exact ⟨old, present, kept old⟩
    · exact ⟨value, read, rfl⟩
  · next absent =>
    refine distinct_insert fresh distinct (fun id old present same => ?_)
    have unmatched := first?_none.mp absent id old present
    rw [(tests old).mpr (same.trans named)] at unmatched
    cases unmatched

end Table
end Relational
