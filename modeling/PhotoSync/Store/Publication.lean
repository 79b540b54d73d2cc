import PhotoSync.Store.Moves

set_option autoImplicit false

namespace PhotoSync
open Relational Transaction

def AssetRole.name : AssetRole → String
  | .original => "original"
  | .thumbnail => "thumbnail"

namespace Store

def owedResource (s : Store) (job : Nat) (asset : String) (role : AssetRole) (row : Resource) : Bool :=
  row.job == job && some row.generation == s.generationOf job && row.assetId == asset && row.role == role

def setResource (s : Store) (job : Nat) (asset : String) (role : AssetRole) (change : Resource → Resource) : Store :=
  { s with resources := s.resources.update (fun _ row => if s.owedResource job asset role row then change row else row) }

def requireResource (s : Store) (job : Nat) (asset : String) (role : AssetRole) : Result Unit :=
  ensure (s.resources.any (fun _ row => s.owedResource job asset role row))
    ("no resource obligation for " ++ asset ++ "/" ++ role.name ++ " on job " ++ toString job)

def stageResource (s : Store) (job : Nat) (asset : String) (role : AssetRole) (path : String) : Result Store := do
  s.requireResource job asset role
  return s.setResource job asset role (fun row => { row with state := .staged, stagingPath := some path })

def verifyResource (s : Store) (job : Nat) (asset : String) (role : AssetRole) (cache : String) : Result Store := do
  s.requireResource job asset role
  return s.setResource job asset role (fun row => { row with state := .verified, verifiedCache := some cache })

def failResource (s : Store) (job : Nat) (asset : String) (role : AssetRole) : Store :=
  let s := s.setResource job asset role (fun row => { row with state := .failed })
  { s with resources := s.resources.update (fun _ row =>
    if row.job == job && row.assetId == asset && row.role == role then { row with stagingPath := none } else row) }

structure PublicationRequest where
  job : Nat
  entry : Option Nat
  publication : String
  photo : String
  master : Option String
  original : Option String
  thumbnail : Option String

-- One photo owes at most one pending intent. The two statements commit apart,
-- so an entry that does not exist still leaves the earlier intent stood down.
def beginPublication (s : Store) (request : PublicationRequest) : Store :=
  let stood := s.publications.update (fun _ row =>
    if row.job == request.job && row.photoId == some request.photo && row.publicationId != request.publication
      && row.state == .pending then { row with state := .superseded } else row)
  let linked := request.entry.all (fun id => (s.entries.get id).isSome)
  match stood.first? (fun _ row => row.publicationId == request.publication) with
  | some (id, _) =>
    if linked then { s with publications := stood.modify id (fun row =>
      { row with
        entry := request.entry
        originalAssetId := request.original
        thumbnailAssetId := request.thumbnail
        state := if row.state = .superseded then .pending else row.state }) }
    else { s with publications := stood }
  | none =>
    if linked && (s.jobs.get request.job).isSome then { s with publications := stood.insert {
      publicationId := request.publication, job := request.job, entry := request.entry, photoId := some request.photo
      masterId := request.master, originalAssetId := request.original, thumbnailAssetId := request.thumbnail
      state := .pending, capture := none, details := none } }
    else { s with publications := stood }

def stagedRole (publication : Publication) (generation : String) (row : Resource) : Bool :=
  row.job == publication.job && row.generation == generation
    && ((publication.originalAssetId == some row.assetId && row.role == .original)
      || (publication.thumbnailAssetId == some row.assetId && row.role == .thumbnail))
    && (row.state == .staged || row.state == .verified)

def publicationIsReady (s : Store) (id : String) : Result Bool := do
  let found ← requireRow (s.publications.first? (fun _ row => row.publicationId == id))
  let generation ← requireRow (s.generationOf found.2.job)
  return (s.resources.select (fun _ row => stagedRole found.2 generation row)).length == 2

def completePublication (s : Store) (id : String) : Result Store := do
  let ready ← s.publicationIsReady id
  if ready then return { s with publications := s.publications.update (fun _ row =>
    if row.publicationId == id then { row with state := .complete } else row) }
  else return s

end Store

variable {s t : Store} {job : Nat} {asset : String} {role : AssetRole}

section Moves
variable {policy : Policy}

theorem stageResource_moves {path : String} (done : s.stageResource job asset role path = .ok t) : Moves policy s t := by
  obtain ⟨_, _, rest⟩ := bind_ok.mp done
  cases rest
  exact .elsewhere rfl rfl rfl

theorem verifyResource_moves {cache : String} (done : s.verifyResource job asset role cache = .ok t) : Moves policy s t := by
  obtain ⟨_, _, rest⟩ := bind_ok.mp done
  cases rest
  exact .elsewhere rfl rfl rfl

theorem beginPublication_moves (s : Store) (request : Store.PublicationRequest) : Moves policy s (s.beginPublication request) := by
  unfold Store.beginPublication
  dsimp only
  split <;> split <;> exact .elsewhere rfl rfl rfl

theorem completePublication_moves (s t : Store) (id : String) (done : s.completePublication id = .ok t) : Moves policy s t := by
  obtain ⟨ready, _, rest⟩ := bind_ok.mp done
  split at rest
  · cases rest
    exact .elsewhere rfl rfl rfl
  · cases rest
    exact .refl

end Moves
end PhotoSync
