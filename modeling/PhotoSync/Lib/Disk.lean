import PhotoSync.Lib.Table

set_option autoImplicit false

namespace Posix
open Relational Table Option

structure File (β : Type) where
  content : β
  modified : Int
deriving DecidableEq, Repr

inductive Errno where
  | notFound
  | alreadyExists
deriving DecidableEq, Repr

-- The regular files of a disk: names that link to inodes. A name never links to an inode that is not there.
structure Disk (ν β : Type) where
  names : ν → Option Nat
  inodes : Table (File β)
  linked : ∀ name inode, names name = some inode → (inodes.get inode).isSome = true

namespace Disk

variable {ν β : Type}

def stat (disk : Disk ν β) (name : ν) : Option (Nat × File β) :=
  (disk.names name).bind (fun inode => (disk.inodes.get inode).map (fun file => (inode, file)))

def present (disk : Disk ν β) (name : ν) : Bool := (disk.names name).isSome

def empty : Disk ν β := ⟨fun _ => none, .empty, fun _ _ found => by cases found⟩

variable [DecidableEq ν]

def relink (disk : Disk ν β) (name : ν) (inode : Option Nat)
    (held : ∀ number, inode = some number → (disk.inodes.get number).isSome = true) : Disk ν β where
  names := Function.update disk.names name inode
  inodes := disk.inodes
  linked := by
    intro other number found
    by_cases same : other = name
    · subst same
      rw [Function.update_self] at found
      exact held number found
    · rw [Function.update_of_ne same] at found
      exact disk.linked other number found

def unlink (disk : Disk ν β) (name : ν) : Disk ν β := disk.relink name none (fun _ found => by cases found)

def create (disk : Disk ν β) (name : ν) (file : File β) : Disk ν β where
  names := Function.update disk.names name (some disk.inodes.next)
  inodes := disk.inodes.insert file
  linked := by
    intro other number found
    rw [Table.get_insert]
    by_cases fresh : number = disk.inodes.next
    · simp [fresh]
    · rw [if_neg fresh]
      by_cases same : other = name
      · subst same
        rw [Function.update_self, Option.some.injEq] at found
        exact absurd found.symm fresh
      · rw [Function.update_of_ne same] at found
        exact disk.linked other number found

def modify (disk : Disk ν β) (inode : Nat) (change : File β → File β) : Disk ν β where
  names := disk.names
  inodes := disk.inodes.modify inode change
  linked := by
    intro name number found
    rw [Table.get_modify]
    split
    · rw [Option.isSome_map]
      exact disk.linked name number found
    · exact disk.linked name number found

-- fs::copy: the target's file is overwritten in place when there is one.
def copy (disk : Disk ν β) (source target : ν) (now : Int) : Except Errno (Disk ν β) :=
  match disk.stat source with
  | none => .error .notFound
  | some (_, file) =>
    match disk.names target with
    | none => .ok (disk.create target ⟨file.content, now⟩)
    | some inode => .ok (disk.modify inode (fun _ => ⟨file.content, now⟩))

def hardLink (disk : Disk ν β) (source target : ν) : Except Errno (Disk ν β) :=
  match found : disk.names source with
  | none => .error .notFound
  | some inode =>
    if (disk.names target).isSome then .error .alreadyExists
    else .ok (disk.relink target (some inode) (fun number same => disk.linked source number (found.trans same)))

def rename (disk : Disk ν β) (source target : ν) : Except Errno (Disk ν β) :=
  match found : disk.names source with
  | none => .error .notFound
  | some inode =>
    if disk.names target = some inode then .ok disk
    else .ok ((disk.relink target (some inode) (fun number same => disk.linked source number (found.trans same))).unlink
      source)

def remove (disk : Disk ν β) (name : ν) : Except Errno (Disk ν β) :=
  if disk.present name then .ok (disk.unlink name) else .error .notFound

def setModified (disk : Disk ν β) (name : ν) (time : Int) : Except Errno (Disk ν β) :=
  match disk.names name with
  | none => .error .notFound
  | some inode => .ok (disk.modify inode (fun file => { file with modified := time }))

section Stat
variable (disk : Disk ν β)

omit [DecidableEq ν] in
theorem stat_eq_none (name : ν) : disk.stat name = none ↔ disk.names name = none := by
  unfold stat
  cases found : disk.names name with
  | none => simp
  | some inode => simp [isSome_iff_ne_none.mp (disk.linked name inode found)]

omit [DecidableEq ν] in
theorem stat_inode {name : ν} {inode : Nat} {file : File β} (found : disk.stat name = some (inode, file)) :
    disk.names name = some inode := by
  obtain ⟨number, linked, rest⟩ := bind_eq_some_iff.mp found
  obtain ⟨_, _, same⟩ := map_eq_some_iff.mp rest
  cases same
  exact linked

omit [DecidableEq ν] in
theorem present_iff (name : ν) : disk.present name = (disk.stat name).isSome := by
  unfold present
  cases found : disk.names name with
  | none => simp [(disk.stat_eq_none name).mpr found]
  | some =>
    cases absent : disk.stat name with
    | some => rfl
    | none =>
      rw [(disk.stat_eq_none name).mp absent] at found
      cases found

omit [DecidableEq ν] in
theorem stat_of_names {first second : ν} (same : disk.names first = disk.names second) : disk.stat first = disk.stat second := by
  simp only [stat, same]

theorem stat_unlink (name other : ν) : (disk.unlink name).stat other = if other = name then none else disk.stat other := by
  unfold stat unlink relink
  by_cases same : other = name
  · simp [same]
  · simp [same]

theorem stat_hardLink {source target : ν} {after : Disk ν β} (done : disk.hardLink source target = .ok after) :
    (disk.stat source).isSome = true ∧ disk.stat target = none ∧
    ∀ name, after.stat name = if name = target then disk.stat source else disk.stat name := by
  unfold hardLink at done
  split at done
  · cases done
  · next inode found =>
    split at done
    · cases done
    · next free =>
      rw [not_isSome_iff_eq_none] at free
      cases done
      refine ⟨?_, (disk.stat_eq_none target).mpr free, fun name => ?_⟩
      · rw [← present_iff, present, found]
        rfl
      · by_cases same : name = target
        · simp [stat, relink, same, found]
        · simp [stat, relink, same]

theorem stat_rename {source target : ν} {after : Disk ν β} (done : disk.rename source target = .ok after) :
    (disk.stat source).isSome = true ∧ (disk.names source = disk.names target ∧ after = disk ∨
     disk.names source ≠ disk.names target ∧ ∀ name, after.stat name =
       if name = source then none else if name = target then disk.stat source else disk.stat name) := by
  unfold rename at done
  split at done
  · cases done
  · next inode found =>
    refine ⟨by rw [← present_iff, present, found]; rfl, ?_⟩
    split at done
    · next same =>
      cases done
      exact .inl ⟨found.trans same.symm, rfl⟩
    · next apart =>
      cases done
      refine .inr ⟨fun same => apart (same.symm.trans found), fun name => ?_⟩
      rw [stat_unlink]
      by_cases first : name = source
      · simp [first]
      · by_cases second : name = target
        · simp [stat, relink, second, found]
        · simp [stat, relink, first, second]

theorem stat_remove {name : ν} {after : Disk ν β} (done : disk.remove name = .ok after) :
    (disk.stat name).isSome = true ∧ ∀ other, after.stat other = if other = name then none else disk.stat other := by
  unfold remove at done
  split at done
  · next held =>
    cases done
    exact ⟨by rw [← present_iff]; exact held, fun other => disk.stat_unlink name other⟩
  · cases done

theorem stat_copy_fresh {source target : ν} {now : Int} {after : Disk ν β} (free : disk.stat target = none)
    (done : disk.copy source target now = .ok after) : ∃ number inode file, disk.stat source = some (inode, file) ∧
      (∀ name other held, disk.stat name = some (other, held) → other ≠ number) ∧
      ∀ name, after.stat name = if name = target then some (number, ⟨file.content, now⟩) else disk.stat name := by
  unfold copy at done
  split at done
  · cases done
  · next inode file read =>
    rw [(disk.stat_eq_none target).mp free] at done
    cases done
    have below : ∀ name other held, disk.stat name = some (other, held) → other < disk.inodes.next := by
      intro name other held found
      obtain ⟨number, _, rest⟩ := bind_eq_some_iff.mp found
      obtain ⟨_, there, same⟩ := map_eq_some_iff.mp rest
      cases same
      exact lt_next there
    refine ⟨disk.inodes.next, inode, file, read, fun name other held found same => ?_, fun name => ?_⟩
    · exact absurd (below name other held found) (by omega)
    · by_cases same : name = target
      · simp [stat, create, same, get_insert]
      · simp only [stat, create, same, Function.update_of_ne, ne_eq, not_false_eq_true, if_false]
        cases linked : disk.names name with
        | none => rfl
        | some number =>
          have held := disk.linked name number linked
          rw [isSome_iff_exists] at held
          obtain ⟨found, there⟩ := held
          have less := lt_next there
          simp [get_insert, Nat.ne_of_lt less]

omit [DecidableEq ν] in
theorem stat_setModified {name : ν} {time : Int} {after : Disk ν β} (done : disk.setModified name time = .ok after) :
    ∃ inode file, disk.stat name = some (inode, file) ∧ ∀ other, after.stat other =
      (disk.stat other).map (fun found => if found.1 = inode then (found.1, { found.2 with modified := time }) else found) := by
  unfold setModified at done
  split at done
  · cases done
  · next inode found =>
    cases done
    have held := disk.linked name inode found
    rw [isSome_iff_exists] at held
    obtain ⟨file, there⟩ := held
    refine ⟨inode, file, by simp [stat, found, there], fun other => ?_⟩
    unfold stat modify
    cases linked : disk.names other with
    | none => rfl
    | some number =>
      rw [bind_some, bind_some, get_modify]
      by_cases same : number = inode
      · simp [same, map_map, Function.comp_def]
      · simp [same, map_map, Function.comp_def]

end Stat
end Disk
end Posix
