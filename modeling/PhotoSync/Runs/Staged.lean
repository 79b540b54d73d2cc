import PhotoSync.Runs.Placed

set_option autoImplicit false

namespace PhotoSync
open Relational Transaction Store Table

namespace Store

def standOthersDown (s : Store) (request : PublicationRequest) : Store :=
  { s with publications := s.publications.update (fun _ row =>
    if row.job == request.job && row.photoId == some request.photo && row.publicationId != request.publication
        && row.state == .pending then { row with state := .superseded } else row) }

def openIntent (s : Store) (request : PublicationRequest) : Store :=
  let linked := request.entry.all (fun id => (s.entries.get id).isSome)
  match s.publications.first? (fun _ row => row.publicationId == request.publication) with
  | some (id, _) =>
    if linked then { s with publications := s.publications.modify id (fun row =>
      { row with
        entry := request.entry
        originalAssetId := request.original
        thumbnailAssetId := request.thumbnail
        state := if row.state = .superseded then .pending else row.state }) }
    else s
  | none =>
    if linked && (s.jobs.get request.job).isSome then { s with publications := s.publications.insert {
      publicationId := request.publication, job := request.job, entry := request.entry, photoId := some request.photo
      masterId := request.master, originalAssetId := request.original, thumbnailAssetId := request.thumbnail
      state := .pending, capture := none, details := none } }
    else s

end Store

def Command.statements (platform : Platform) : Command → List (Store → Result Store)
  | .stageResource job asset role path =>
    [fun s => do
      s.requireResource job asset role
      return s.setResource job asset role (fun row => { row with state := .staged }),
     fun s => .ok (s.setResource job asset role (fun row => { row with stagingPath := some path }))]
  | .verifyResource job asset role cache =>
    [fun s => do
      s.requireResource job asset role
      return s.setResource job asset role (fun row => { row with state := .verified }),
     fun s => .ok (s.setResource job asset role (fun row => { row with verifiedCache := some cache }))]
  | .failResource job asset role =>
    [fun s => .ok (s.setResource job asset role (fun row => { row with state := .failed })),
     fun s => .ok { s with resources := s.resources.update (fun _ row =>
       if row.job == job && row.assetId == asset && row.role == role then { row with stagingPath := none } else row) }]
  | .beginPublication request => [fun s => .ok (s.standOthersDown request), fun s => .ok (s.openIntent request)]
  | command => [fun s => command.execute platform s]

def commit (s : Store) (statements : List (Store → Result Store)) : Result Store := statements.foldlM (fun s statement => statement s) s

theorem commit_one (s : Store) (statement : Store → Result Store) : commit s [statement] = statement s := by
  simp [commit]

theorem setResource_twice (s : Store) (job : Nat) (asset : String) (role : AssetRole) (first second : Resource → Resource)
    (same : ∀ row, (first row).job = row.job ∧ (first row).generation = row.generation ∧
      (first row).assetId = row.assetId ∧ (first row).role = row.role) :
    (s.setResource job asset role first).setResource job asset role second =
      s.setResource job asset role (fun row => second (first row)) := by
  have owed : ∀ row, (s.setResource job asset role first).owedResource job asset role (first row) =
      s.owedResource job asset role row := by
    intro row
    obtain ⟨own, generation, named, kind⟩ := same row
    simp only [owedResource, own, generation, named, kind]
    rfl
  have outside : ∀ row, (s.setResource job asset role first).owedResource job asset role row =
    s.owedResource job asset role row := fun _ => rfl
  unfold setResource at owed outside ⊢
  rw [update_update]
  congr 2
  funext id row
  by_cases mine : s.owedResource job asset role row = true
  · simp only [mine, if_true, owed]
  · simp only [mine, Bool.false_eq_true, if_false, outside]

theorem statements_execute (platform : Platform) (s : Store) (command : Command) :
    commit s (command.statements platform) = command.execute platform s := by
  cases command with
  | stageResource job asset role | verifyResource job asset role =>
    change ((s.requireResource job asset role).bind _).bind _ = (s.requireResource job asset role).bind _
    cases s.requireResource job asset role with
    | error => rfl
    | ok => exact congrArg Except.ok (setResource_twice s job asset role _ _ (fun _ => ⟨rfl, rfl, rfl, rfl⟩))
  | failResource => rfl
  | beginPublication =>
    refine congrArg Except.ok ?_
    unfold openIntent standOthersDown beginPublication
    rfl
  | _ => exact commit_one s _

-- A command and how many of its statements were committed before the process died, all of them if it did not.
structure Attempt where
  command : Command
  committed : Nat

def Attempt.perform (platform : Platform) (s : Store) (attempt : Attempt) : Result Store :=
  commit s ((attempt.command.statements platform).take attempt.committed)

variable {s t : Store} {role : AssetRole}
variable {platform : Platform} {job : Nat} {spare : Resource → Prop} {asset : String}

theorem perform_whole {command : Command} {committed : Nat} (done : Attempt.perform platform s ⟨command, committed⟩ = .ok t)
    (enough : (command.statements platform).length ≤ committed) : command.execute platform s = .ok t := by
  unfold Attempt.perform at done
  rw [List.take_of_length_le enough, statements_execute] at done
  exact done

def Resource.located (row : Resource) : Prop := row.state = .staged → row.stagingPath.isSome = true

theorem schedulePlacement_resources {entry localVersion : Nat} {decision : Entry.Settlement}
    (done : schedulePlacement platform s job entry localVersion decision = .ok t) :
    t.resources = s.resources.update (fun _ resource =>
      if resource.job == job && some resource.generation == s.generationOf job && resource.stagingPath.isNone
          && ((resource.assetId == decision.photo.original.assetId && resource.role == .original)
            || (resource.assetId == decision.photo.thumbnail.assetId && resource.role == .thumbnail))
      then { resource with state := .pending, verifiedCache := none } else resource) := by
  obtain ⟨_, _, _, _, rest⟩ := bind2_ok done
  cases rest
  rfl

theorem IntentStep.resources_all {policy : IntentPolicy} (holds : Resource → Prop)
    (born : ∀ row, ResourceBorn (Unclaimed s) row → holds row)
    (moved : ∀ before after, ResourceStep (Unclaimed s) before after → holds before → holds after)
    (all : s.resources.All holds) (step : IntentStep platform policy s t) : t.resources.All holds := by
  cases step with
  | frame _ carried lowered =>
    rw [lowered.resources]
    exact all
  | drop => exact all
  | schedule _ job entry localVersion decision row read own bound kept allowed done =>
    rw [schedulePlacement_resources done]
    intro id resource read
    rw [get_update, Option.map_eq_some_iff] at read
    obtain ⟨old, present, rfl⟩ := read
    split
    · exact moved _ _ (.reopen old) (all id old present)
    · exact all id old present
  | resources resources evolves => exact evolves.all holds born (fun _ => moved) all
  | positions _ allowed entries publications resources =>
    rw [resources]
    exact all
  | jobs =>
    intro id row read
    simp only [deleteJobs, get_delete, Option.filter_eq_some_iff] at read
    exact all id row read.1
  | wipe _ allowed publications resources =>
    intro id row read
    rw [resources] at read
    cases read

theorem ResourceStep.located {before after : Resource} (step : ResourceStep spare before after) (holds : before.located) :
    after.located := by
  intro staged
  cases step with
  | describe => exact holds staged
  | settle | reopen | refetch | retain | verify => cases staged
  | upload => rfl

theorem ResourceBorn.located {row : Resource} (born : ResourceBorn spare row) : row.located := by
  intro staged
  cases born with
  | owed pending =>
    rw [pending] at staged
    cases staged
  | held verified =>
    rw [verified] at staged
    cases staged
  | uploaded verified path => exact path

theorem setResource_all (change : Resource → Resource) {holds : Resource → Prop} (all : s.resources.All holds)
    (changed : ∀ id row, s.resources.get id = some row → s.owedResource job asset role row = true → holds (change row)) :
    (s.setResource job asset role change).resources.All holds := by
  intro id row read
  simp only [setResource, get_update, Option.map_eq_some_iff] at read
  obtain ⟨old, present, rfl⟩ := read
  split
  · next mine => exact changed id old present mine
  · exact all id old present

-- No crash falls between the two statements of Stage while the resource has no
-- bytes, and Fail meets no staged resource of another generation.
def stagesWhole (s : Store) (attempt : Attempt) : Bool :=
  match attempt.command with
  | .stageResource job asset role _ => attempt.committed != 1
      || !s.resources.any (fun _ row => s.owedResource job asset role row && row.stagingPath.isNone)
  | .failResource job asset role => decide (attempt.committed < 2)
      || !s.resources.any (fun _ row => row.job == job && row.assetId == asset && row.role == role
        && row.state == .staged && some row.generation != s.generationOf job)
  | _ => true

theorem failResource_located (all : s.resources.All Resource.located)
    (alone : s.resources.any (fun _ row => row.job == job && row.assetId == asset && row.role == role && row.state == .staged && some row.generation != s.generationOf job) = false) :
    (s.failResource job asset role).resources.All Resource.located := by
  intro id row read staged
  simp only [failResource, setResource, get_update, Option.map_eq_some_iff] at read
  obtain ⟨_, ⟨old, present, rfl⟩, rfl⟩ := read
  by_cases mine : s.owedResource job asset role old = true
  · simp only [mine, if_true] at staged
    split at staged <;> cases staged
  · simp only [mine, Bool.false_eq_true, if_false] at staged ⊢
    by_cases named : (old.job == job && old.assetId == asset && old.role == role) = true
    · rw [if_pos named] at staged
      have others := any_eq_false.mp alone id old present
      simp only [Bool.and_eq_true, beq_iff_eq] at named
      have apart : (some old.generation == s.generationOf job) = false := by
        simpa [owedResource, named.1.1, named.1.2, named.2] using mine
      have state : old.state = .staged := staged
      simp [named.1.1, named.1.2, named.2, state, bne, apart] at others
    · rw [if_neg named] at staged ⊢
      exact all id old present staged

theorem perform_located {attempt : Attempt} (all : s.resources.All Resource.located)
    (careful : stagesWhole s attempt = true) (done : attempt.perform platform s = .ok t) :
    t.resources.All Resource.located := by
  obtain ⟨command, committed⟩ := attempt
  have whole : (command.statements platform).length = 1 → (∀ u, command.execute platform s = .ok u → u.resources.All Resource.located) →
      t.resources.All Resource.located := by
    intro single executed
    cases committed with
    | zero =>
      cases done
      exact all
    | succ more =>
      exact executed t (perform_whole done (single ▸ Nat.le_add_left 1 more))
  cases command with
  | stageResource =>
    match committed with
    | 0 =>
      cases done
      exact all
    | 1 =>
      obtain ⟨_, _, rest⟩ := bind_ok.mp ((commit_one s _).symm.trans done)
      cases rest
      simp only [stagesWhole, bne_self_eq_false, Bool.false_or, Bool.not_eq_true'] at careful
      refine setResource_all _ all (fun id row read mine _ => ?_)
      have held := any_eq_false.mp careful id row read
      simpa [mine, Option.isSome_iff_ne_none] using held
    | more + 2 =>
      have executed := perform_whole done (Nat.le_add_left 2 more)
      obtain ⟨_, _, rest⟩ := bind_ok.mp executed
      cases rest
      exact setResource_all _ all (fun _ _ _ _ _ => rfl)
  | verifyResource =>
    match committed with
    | 0 =>
      cases done
      exact all
    | 1 =>
      obtain ⟨_, _, rest⟩ := bind_ok.mp ((commit_one s _).symm.trans done)
      cases rest
      exact setResource_all _ all (fun _ _ _ _ staged => by cases staged)
    | more + 2 =>
      have executed := perform_whole done (Nat.le_add_left 2 more)
      obtain ⟨_, _, rest⟩ := bind_ok.mp executed
      cases rest
      exact setResource_all _ all (fun _ _ _ _ staged => by cases staged)
  | failResource =>
    match committed with
    | 0 =>
      cases done
      exact all
    | 1 =>
      cases done
      exact setResource_all _ all (fun _ _ _ _ staged => by cases staged)
    | more + 2 =>
      cases perform_whole done (Nat.le_add_left 2 more)
      simp only [stagesWhole, Nat.not_lt.mpr (Nat.le_add_left 2 more), decide_false, Bool.false_or, Bool.not_eq_true'] at careful
      exact failResource_located all careful
  | beginPublication =>
    match committed with
    | 0 =>
      cases done
      exact all
    | 1 =>
      cases done
      exact all
    | more + 2 =>
      have executed := perform_whole done (Nat.le_add_left 2 more)
      cases executed
      unfold beginPublication
      dsimp only
      split <;> split <;> exact all
  | beginReceive =>
    refine whole rfl (fun u executed => ?_)
    cases executed
    unfold beginReceive
    dsimp only
    split <;> split <;> exact all
  | beginCollision =>
    refine whole rfl (fun u executed => ?_)
    obtain ⟨_, _, rfl⟩ := beginCollision_ok executed
    exact all
  | publishing =>
    refine whole rfl (fun u executed => ?_)
    obtain ⟨_, _, _, rfl⟩ := publishing_ok executed
    exact all
  | _ =>
    refine whole rfl (fun u executed => ?_)
    refine (Command.execute_intends rfl executed).keeps (fun u => u.resources.All Resource.located)
      (fun before after kept step => ?_) all
    exact step.resources_all _ (fun _ born => born.located) (fun _ _ moved => moved.located) kept

-- In every run, crashes included, that meets the condition, a staged resource has its bytes.
theorem staged_means_staged (platform : Platform) (attempts : List Attempt)
    (careful : Meets (Attempt.perform platform) (fun s attempt => stagesWhole s attempt = true) .empty attempts)
    (id : Nat) (row : Resource) (read : (run (Attempt.perform platform) .empty attempts).resources.get id = some row)
    (staged : row.state = .staged) : row.stagingPath.isSome = true := by
  have all : (run (Attempt.perform platform) .empty attempts).resources.All Resource.located :=
    run_keeps (fun s : Store => s.resources.All Resource.located) (fun before attempt after kept met done =>
      perform_located kept met done) (fun _ _ read => (by cases read)) careful
  exact all id row read staged

namespace Sample

def undisturbed (commands : List Command) : List Attempt := commands.map (fun command => ⟨command, 2⟩)

end Sample

open Sample in
theorem downloaded_resource_is_located : ∃ row, (run (Attempt.perform telling) .empty (undisturbed (connecting ++ receiving "A" ++
      downloading "A"))).resources.get 1 = some row ∧ row.state = .staged ∧ row.stagingPath.isSome = true := by
  have found : ((run (Attempt.perform telling) .empty (undisturbed (connecting ++
      receiving "A" ++ downloading "A"))).resources.get 1).any (fun row => row.state == .staged) = true := by
    decide +kernel
  obtain ⟨row, read, staged⟩ := (Option.any_eq_true _ _).mp found
  exact ⟨row, read, beq_iff_eq.mp staged, staged_means_staged telling _ (by decide +kernel) 1 row read
    (beq_iff_eq.mp staged)⟩

-- The process dies after Stage has set the state and before it sets the path.
open Sample in
theorem crash_leaves_staged_without_bytes : ((run (Attempt.perform telling) .empty (undisturbed (connecting ++ receiving "A") ++
      [⟨.stageResource 1 (originalOf "A").assetId .original "/s/original", 1⟩])).resources.get 1).any
        (fun row => row.state == .staged && row.stagingPath.isNone) = true := by
  decide +kernel

end PhotoSync
