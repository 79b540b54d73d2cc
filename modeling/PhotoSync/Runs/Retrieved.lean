import PhotoSync.Library.Restore
import PhotoSync.Runs.OwnWrites
import PhotoSync.Runs.TrashResolved

set_option autoImplicit false

namespace PhotoSync.Library
open Relational Transaction Durable Posix Trash
open Program

def Newest (made : TrashEntry → Nat) (entries : List TrashEntry) (path : Path) (entry : TrashEntry) : Prop :=
  entry ∈ entries ∧ entry.original = path ∧ ∀ other ∈ entries, other.original = path → other ≠ entry → made other < made entry

section Entry
variable {desktop : Desktop} {order : Path → List FileName → List FileName} {library final : Library} {uri : String}
  {trashRoots : List Path} {found : Path × Path × Path}

theorem trashedEntry_ok (ran : (trashedEntry desktop order uri trashRoots).run library = (final, .ok found)) :
    final = library ∧ desktop.toPath uri = some found.1 ∧
      trashedFile desktop (shown order library.tree) uri trashRoots = .ok found.2.1 := by
  have answers : ∀ {α : Type} {answer : Result α} {value : α}, answer.mapError AppError.store = .ok value → answer = .ok value := by
    intro α answer value met
    cases answer with
    | error => cases met
    | ok => cases met; rfl
  obtain ⟨_, path, lifted, rest⟩ := run_bind_ok.mp ran
  obtain ⟨rfl, known⟩ := run_lift.mp lifted
  rw [run_bind, run_read] at rest
  obtain ⟨_, picked, chosen, last⟩ := run_bind_ok.mp rest
  obtain ⟨rfl, resolved⟩ := run_lift.mp chosen
  obtain ⟨rfl, rfl⟩ := run_pure.mp last
  have located := answers known
  refine ⟨rfl, ?_, bind_ok.mpr ⟨path, located, bind_ok.mpr ⟨picked, answers resolved, rfl⟩⟩⟩
  unfold toPath at located
  split at located
  · next met => cases located; exact met
  · cases located

theorem trashedEntry_iff (file : Path) (ran : (trashedEntry desktop order uri trashRoots).run library = (final, .ok found)) :
    found.2.1 = file ↔ OwnEntry (scanTrashEntries desktop (shown order library.tree) trashRoots) found.1 file := by
  obtain ⟨_, known, trashed⟩ := trashedEntry_ok ran
  have owns := trashedFile_iff desktop (shown order library.tree) uri trashRoots file
  rw [trashed, known] at owns
  simpa using owns

end Entry

-- A restore moves back, and a permanent delete stages, the file of the last
-- trashing exactly if its entry is the first to record the path.
theorem retrieves_newest_iff (desktop : Desktop) (outside : Outside) (order : Path → List FileName → List FileName)
    (library : Library) (uri : String) (trashRoots : List Path) (path : Path) (made : TrashEntry → Nat)
    (known : desktop.toPath uri = some path) (entries : List TrashEntry)
    (scanned : entries = scanTrashEntries desktop (shown order library.tree) trashRoots) :
    (∀ final prepared, (prepareRestore desktop outside order uri trashRoots).run library = (final, .ok prepared) →
      ((∀ latest, Newest made entries path latest →
          prepared.trashed = latest.filePath ∧ ∃ readied : Tree, readied.rename latest.filePath path = .ok final.tree) ↔
        ∀ latest, Newest made entries path latest → OwnEntry entries path latest.filePath)) ∧
    (∀ final prepared, (preparePermanentDelete desktop outside order uri trashRoots).run library = (final, .ok prepared) →
      ((∀ latest, Newest made entries path latest →
          prepared.original = latest.filePath ∧ library.tree.rename latest.filePath prepared.staged = .ok final.tree) ↔
        ∀ latest, Newest made entries path latest → OwnEntry entries path latest.filePath)) := by
  subst scanned
  refine ⟨fun final prepared ran => forall₂_congr (fun latest _ => ?_), fun final prepared ran => forall₂_congr (fun latest _ => ?_)⟩
  · obtain ⟨_, ⟨original, trashed, info⟩, entry, ran⟩ := run_bind_ok.mp ran
    have owns := trashedEntry_iff latest.filePath entry
    obtain ⟨rfl, same, _⟩ := trashedEntry_ok entry
    obtain rfl : path = original := Option.some.inj (known.symm.trans same)
    obtain ⟨readied, _, _, ran⟩ := run_bind_ok.mp ran
    obtain ⟨_, _, moved, ran⟩ := run_bind_ok.mp ran
    obtain ⟨rfl, rfl⟩ := run_pure.mp ran
    rw [← owns]
    refine and_iff_left_of_imp (fun here => ?_)
    obtain ⟨tree, _, effect, rfl⟩ := change_ok moved
    split at effect
    · cases effect
    · exact ⟨readied.tree, here ▸ effect⟩
  · obtain ⟨_, ⟨original, trashed, info⟩, entry, ran⟩ := run_bind_ok.mp ran
    have owns := trashedEntry_iff latest.filePath entry
    obtain ⟨rfl, same, _⟩ := trashedEntry_ok entry
    obtain rfl : path = original := Option.some.inj (known.symm.trans same)
    rw [run_bind, clockNow, run_read] at ran
    obtain ⟨_, _, moved, ran⟩ := run_bind_ok.mp ran
    obtain ⟨rfl, rfl⟩ := run_pure.mp ran
    rw [← owns]
    refine and_iff_left_of_imp (fun here => ?_)
    obtain ⟨tree, _, effect, rfl⟩ := change_ok moved
    split at effect
    · cases effect
    · exact here ▸ effect

namespace Sample

def shelved : Library where
  tree := .ofPaths [("/p", .directory true), ("/p/a.jpg", .file [1] 0), ("/t", .directory true)]
  store := .empty
  calls := 0

def trashPhoto (library : Library) : Library :=
  ((movePathToTrashRoot .verbatim (PhotoSync.Sample.steady 7) (.ofText "/p/a.jpg") (.ofText "/t") "2026-01-01T00:00:00").run library).1

def replacePhoto (library : Library) : Library :=
  { library with tree := ((library.tree.persist 8 (.ofText "/p/a.jpg") [2]).toOption).getD library.tree }

def trashedTwice : Library := trashPhoto (replacePhoto (trashPhoto shelved))

def photoRow : String := "file:///p/a.jpg"

def entryOf (name : String) : TrashEntry :=
  ⟨.ofText "/p/a.jpg", name, .ofText ("/t/info/" ++ name ++ ".trashinfo"), .ofText ("/t/files/" ++ name)⟩

def lastTrashed (entry : TrashEntry) : Nat := if entry.actualName = "a.0.jpg" then 2 else 1

end Sample

open PhotoSync.Sample Sample

theorem newer_photo_is_restored :
    ((prepareRestore .verbatim (steady 7) (fun _ => id) photoRow [.ofText "/t"]).run trashedTwice).1.tree.read
        (.ofText "/p/a.jpg") = .ok [2] ∧
      ∀ final prepared,
        (prepareRestore .verbatim (steady 7) (fun _ => id) photoRow [.ofText "/t"]).run trashedTwice = (final, .ok prepared) →
          prepared.trashed = (entryOf "a.0.jpg").filePath := by
  refine ⟨by decide +kernel, fun final prepared ran => ?_⟩
  have restores := (retrieves_newest_iff .verbatim (steady 7) (fun _ => id) trashedTwice photoRow [.ofText "/t"]
    (.ofText "/p/a.jpg") lastTrashed rfl [entryOf "a.0.jpg", entryOf "a.jpg"] (by decide +kernel)).1 final prepared ran
  refine (restores.mpr (fun latest newest => ?_) (entryOf "a.0.jpg") (by unfold Newest; decide +kernel)).1
  obtain rfl | rfl : latest = entryOf "a.0.jpg" ∨ latest = entryOf "a.jpg" := by simpa using newest.1
  · exact ⟨[], _, [entryOf "a.jpg"], rfl, nofun, rfl, rfl⟩
  · exact absurd (newest.2.2 (entryOf "a.0.jpg") (by simp) rfl (by decide +kernel)) (by decide +kernel)

theorem older_photo_is_restored :
    Newest lastTrashed (scanTrashEntries .verbatim (shown (fun _ => .reverse) trashedTwice.tree) [.ofText "/t"])
        (.ofText "/p/a.jpg") (entryOf "a.0.jpg") ∧
      trashedTwice.tree.read (entryOf "a.0.jpg").filePath = .ok [2] ∧
      ((prepareRestore .verbatim (steady 7) (fun _ => .reverse) photoRow [.ofText "/t"]).run trashedTwice).1.tree.read
        (.ofText "/p/a.jpg") = .ok [1] ∧
      ((preparePermanentDelete .verbatim (steady 7) (fun _ => .reverse) photoRow [.ofText "/t"]).run trashedTwice).2.map
        PreparedPermanentDelete.original = .ok (entryOf "a.jpg").filePath := by
  unfold Newest
  decide +kernel

end PhotoSync.Library
