import PhotoSync.Runs.Catalogue
import PhotoSync.Runs.Session

set_option autoImplicit false

namespace PhotoSync
open Relational Transaction Store Table

def NativeProgress.enumerated (row : NativeProgress) : Bool :=
  supportedRecordTypes.all (fun name => (row.bootstrapTypes.lookup name).any TypeMarker.complete)

structure Positions (table : Table NativeProgress) : Prop where
  shared : ∀ first second row other, table.get first = some row → table.get second = some other →
    row.job = other.job → row.bootstrapTypes = other.bootstrapTypes
  enumerated : ∀ id row, table.get id = some row → row.appliedToken.isSome = true → row.enumerated = true

-- A position that this step gave the token has nothing unresolved behind it, and the token is its target.
def AppliedHonestly (s t : Store) : Prop := ∀ id row token, t.progress.get id = some row → row.appliedToken = some token →
    (∀ old, s.progress.get id = some old → old.appliedToken ≠ some token) →
    t.unresolved row.job = 0 ∧ row.targetToken = some token

-- AdoptConfirmedHead is issued only while a position is applied, and a page is
-- listed only of a type that is not complete.
def followsLadder (s : Store) : Command → Bool
  | .adoptConfirmedHead job _ => (s.progressOf job).any (fun progress => progress.appliedToken.isSome)
  | .saveBootstrapPage job recordType _ _ => (s.progressOf job).all (fun progress =>
    !(progress.bootstrapTypes.lookup recordType).any TypeMarker.complete)
  | _ => true

variable {s t : Store}

theorem requireProgress_row {job : Nat} {progress : NativeProgress} (done : s.requireProgress job = .ok progress) :
    ∃ id, s.progress.get id = some progress ∧ progress.job = job := by
  unfold requireProgress at done
  split at done
  · next found located =>
    cases done
    obtain ⟨⟨id, row⟩, first, rfl⟩ := Option.map_eq_some_iff.mp located
    obtain ⟨read, own⟩ := first?_some first
    exact ⟨id, read, beq_iff_eq.mp own⟩
  · cases done

theorem updateProgress_row {job : Nat} {change : NativeProgress → NativeProgress} {id : Nat} {row : NativeProgress}
    (read : (s.updateProgress job change).progress.get id = some row) :
    ∃ old, s.progress.get id = some old ∧ (old.job = job ∧ row = change old ∨ old.job ≠ job ∧ row = old) := by
  simp only [updateProgress, get_update, Option.map_eq_some_iff] at read
  obtain ⟨old, present, rfl⟩ := read
  refine ⟨old, present, ?_⟩
  by_cases own : old.job = job
  · simp [own]
  · simp [own]

theorem unresolved_updateProgress (s : Store) (job other : Nat) (change : NativeProgress → NativeProgress)
    (own : ∀ row, (change row).job = row.job) (kept : ∀ row, (change row).databaseGeneration = row.databaseGeneration) :
    (s.updateProgress job change).unresolved other = s.unresolved other := by
  have same : (s.updateProgress job change).generationOf other = s.generationOf other := by
    refine generationOf_update s _ other ?_ ?_
    · intro id row
      split
      · exact own row
      · rfl
    · intro id row
      split
      · exact kept row
      · rfl
  unfold unresolved
  rw [same]
  rfl

namespace Positions

theorem keep {before after : Table NativeProgress} (positions : Positions before)
    (kept : ∀ id row, after.get id = some row → before.get id = some row) : Positions after where
  shared := fun first second row other reads also =>
    positions.shared first second row other (kept first row reads) (kept second other also)
  enumerated := fun id row read => positions.enumerated id row (kept id row read)

theorem update (positions : Positions s.progress) (job : Nat) (change : NativeProgress → NativeProgress)
    (own : ∀ row, (change row).job = row.job)
    (uniform : ∀ row other, row.bootstrapTypes = other.bootstrapTypes → (change row).bootstrapTypes = (change other).bootstrapTypes)
    (complete : ∀ id row, s.progress.get id = some row → row.job = job → (change row).appliedToken.isSome = true → (change row).enumerated = true) :
    Positions (s.updateProgress job change).progress := by
  constructor
  · intro first second row other reads also same
    obtain ⟨old, present, shape⟩ := updateProgress_row reads
    obtain ⟨earlier, there, likewise⟩ := updateProgress_row also
    have jobs : old.job = earlier.job := by
      rcases shape with ⟨_, rfl⟩ | ⟨_, rfl⟩ <;> rcases likewise with ⟨_, rfl⟩ | ⟨_, rfl⟩ <;> simpa [own] using same
    have types := positions.shared first second old earlier present there jobs
    rcases shape with ⟨mine, rfl⟩ | ⟨others, rfl⟩
    · rcases likewise with ⟨_, rfl⟩ | ⟨apart, rfl⟩
      · exact uniform old earlier types
      · exact absurd (jobs.symm.trans mine) apart
    · rcases likewise with ⟨mine, rfl⟩ | ⟨_, rfl⟩
      · exact absurd (jobs.trans mine) others
      · exact types
  · intro id row read applied
    obtain ⟨old, present, shape⟩ := updateProgress_row read
    rcases shape with ⟨mine, rfl⟩ | ⟨_, rfl⟩
    · exact complete id old present mine applied
    · exact positions.enumerated id row present applied

theorem all_enumerated {table : Table NativeProgress} (positions : Positions table) (first second : Nat)
    (row other : NativeProgress) (reads : table.get first = some row) (also : table.get second = some other)
    (same : row.job = other.job) (complete : row.enumerated = true) : other.enumerated = true := by
  unfold NativeProgress.enumerated at complete ⊢
  rw [← positions.shared first second row other reads also same]
  exact complete

end Positions

namespace AppliedHonestly

theorem kept (same : ∀ id row, t.progress.get id = some row → s.progress.get id = some row) : AppliedHonestly s t :=
  fun id row _ read applied changed => absurd applied (changed row (same id row read))

theorem update (job : Nat) (change : NativeProgress → NativeProgress)
    (moved : t.progress = (s.updateProgress job change).progress) (own : ∀ row, (change row).job = row.job)
    (applied : ∀ id row token, s.progress.get id = some row → row.job = job → (change row).appliedToken = some token → row.appliedToken = some token ∨ t.unresolved job = 0 ∧ (change row).targetToken = some token) :
    AppliedHonestly s t := by
  intro id row token read holds changed
  rw [moved] at read
  obtain ⟨old, present, ⟨mine, rfl⟩ | ⟨_, rfl⟩⟩ := updateProgress_row read
  · rcases applied id old token present mine holds with before | ⟨none, target⟩
    · exact absurd before (changed old present)
    · rw [own, mine]
      exact ⟨none, target⟩
  · exact absurd holds (changed row present)

theorem after {mid : Store} (honest : AppliedHonestly mid t)
    (same : ∀ id row, mid.progress.get id = some row → ∃ old, s.progress.get id = some old ∧ old.appliedToken = row.appliedToken) :
    AppliedHonestly s t := by
  intro id row token read applied changed
  refine honest id row token read applied (fun middle present => ?_)
  obtain ⟨old, there, equal⟩ := same id middle present
  rw [← equal]
  exact changed old there

end AppliedHonestly

variable {platform : Platform}

theorem Intends.progress_kept {policy : IntentPolicy} (path : Intends platform policy s t) (still : ¬ policy.positions)
    (id : Nat) (row : NativeProgress) (read : t.progress.get id = some row) : s.progress.get id = some row := by
  refine path.keeps (fun u => ∀ id row, u.progress.get id = some row → s.progress.get id = some row)
    (fun before after sofar step id row read => sofar id row ?_) (fun _ _ read => read) id row read
  cases step with
  | frame _ carried lowered =>
    rw [lowered.progress] at read
    exact read
  | drop | resources => exact read
  | schedule _ job entry localVersion decision record found own bound kept allowed done =>
    obtain ⟨_, _, schedule⟩ := schedulePlacement_ok done
    rw [schedule.progress] at read
    exact read
  | positions _ allowed => exact absurd allowed still
  | jobs =>
    simp only [deleteJobs, get_delete, Option.filter_eq_some_iff] at read
    exact read.1
  | wipe _ allowed publications resources progress =>
    rw [progress] at read
    cases read

structure Advances (s t : Store) : Prop where
  honest : AppliedHonestly s t
  positions : Positions t.progress

namespace Advances

section
variable (positions : Positions s.progress)

include positions

theorem kept (same : ∀ id row, t.progress.get id = some row → s.progress.get id = some row) : Advances s t :=
  ⟨.kept same, positions.keep same⟩

theorem beside (job : Nat) (change : NativeProgress → NativeProgress)
    (own : ∀ row, (change row).job = row.job) (types : ∀ row, (change row).bootstrapTypes = row.bootstrapTypes)
    (applied : ∀ row, (change row).appliedToken = row.appliedToken) : Advances s (s.updateProgress job change) := by
  refine ⟨.update job change rfl own (fun _ row token _ _ holds => .inl ((applied row).symm.trans holds)), ?_⟩
  refine positions.update job change own (fun row other same => by rw [types, types, same]) (fun id row read _ holds => ?_)
  unfold NativeProgress.enumerated
  rw [types]
  exact positions.enumerated id row read (by rw [← applied]; exact holds)

theorem cleared (job : Nat) (change : NativeProgress → NativeProgress)
    (moved : t.progress = (s.updateProgress job change).progress) (own : ∀ row, (change row).job = row.job)
    (types : ∀ row, (change row).bootstrapTypes = []) (applied : ∀ row, (change row).appliedToken = none) :
    Advances s t := by
  constructor
  · refine .update job change moved own (fun _ row token _ _ holds => ?_)
    rw [applied] at holds
    cases holds
  · rw [moved]
    refine positions.update job change own (fun row other _ => by rw [types, types]) (fun _ row _ _ holds => ?_)
    rw [applied] at holds
    cases holds

theorem targets {job : Nat} {progress : NativeProgress} (required : s.requireProgress job = .ok progress) (free : s.unresolved job = 0)
    (complete : progress.bootstrapComplete = true) :
    Advances s (s.updateProgress job (fun row => { row with appliedToken := row.targetToken })) := by
  obtain ⟨first, present, mine⟩ := requireProgress_row required
  refine ⟨.update job _ rfl (fun _ => rfl) (fun _ row token _ _ holds => .inr ⟨?_, holds⟩), ?_⟩
  · exact (unresolved_updateProgress s job job _ (fun _ => by rfl) (fun _ => by rfl)).trans free
  · refine positions.update job _ (fun _ => rfl) (fun _ _ same => same) (fun id row read own _ => ?_)
    exact positions.all_enumerated first id progress row present read (mine.trans own.symm)
      ((Bool.and_eq_true _ _).mp complete).2

end
end Advances

theorem promote_advances {job : Nat} {graph : RemoteGraph} {target : String} {digests : LocalDigests}
    (positions : Positions s.progress) (done : promote platform s job graph target digests = .ok t) : Advances s t := by
  obtain ⟨progress, _, projected, photos, promoted, required, rest⟩ := bind3_ok done
  let any : IntentPolicy := ⟨fun _ _ => True, fun _ _ => True, fun _ _ => True, False, False⟩
  let buried := (graph.tombstones.foldl (buryRecord job progress.databaseGeneration) projected).reopenShared job
    progress.databaseGeneration
  have path : Intends platform any s buried := by
    refine .trans (.loop _ _ (fun photo _ _ _ stepped => promotePhoto_intends
      ⟨fun _ _ _ => trivial, fun _ _ _ => trivial⟩ trivial stepped) photos) ?_
    exact (buryRecords_intends job _ projected graph.tombstones graph.tombstones ⟨fun _ _ _ => trivial,
      fun _ _ _ _ => trivial⟩ (fun _ member => member)).trans (reopenShared_intends _ job _)
  have kept := path.progress_kept not_false
  have targeted : Advances buried (buried.updateProgress job (fun row => { row with targetToken := some target })) :=
    .beside (positions.keep kept) job _ (fun _ => rfl) (fun _ => rfl) (fun _ => rfl)
  split at rest
  · next able =>
    cases rest
    simp only [NativeProgress.canApply, Bool.and_eq_true, beq_iff_eq] at able
    have free : (buried.updateProgress job (fun row => { row with targetToken := some target })).unresolved job = 0 :=
      (unresolved_updateProgress buried job job _ (fun _ => by rfl) (fun _ => by rfl)).trans able.1.2
    have last := Advances.targets targeted.positions required free able.2
    refine ⟨last.honest.after (fun id row read => ?_), last.positions⟩
    obtain ⟨old, present, ⟨_, rfl⟩ | ⟨_, rfl⟩⟩ := updateProgress_row read
    · exact ⟨old, kept id old present, rfl⟩
    · exact ⟨row, kept id row present, rfl⟩
  · cases rest
    exact ⟨targeted.honest.after (fun id row read => ⟨row, kept id row read, rfl⟩), targeted.positions⟩

theorem lookup_other (types : List (String × TypeMarker)) (name recordType : String) (marker : TypeMarker) (other : name ≠ recordType) :
    (types.filter (fun found => found.1 != recordType) ++ [(recordType, marker)]).lookup name = types.lookup name := by
  induction types with
  | nil => simp [List.lookup_cons, beq_false_of_ne other]
  | cons head tail ih =>
    obtain ⟨key, held⟩ := head
    by_cases replaced : key = recordType
    · simp [replaced, List.lookup_cons, beq_false_of_ne other, ih]
    · by_cases same : name = key
      · simp [replaced, same]
      · simp [replaced, List.lookup_cons, beq_false_of_ne same, ih]

theorem saveBootstrapPage_advances {job : Nat} {recordType : String} {marker : Option String} {count : Nat}
    (positions : Positions s.progress) (careful : followsLadder s (.saveBootstrapPage job recordType marker count) = true)
    (done : s.saveBootstrapPage job recordType marker count = .ok t) : Advances s t := by
  obtain ⟨progress, required, rest⟩ := bind_ok.mp done
  obtain ⟨first, present, mine⟩ := requireProgress_row required
  have listed : s.progressOf job = some progress := by
    unfold requireProgress at required
    split at required <;> cases required
    assumption
  simp only [followsLadder, listed, Option.all_some, Bool.not_eq_true'] at careful
  cases rest
  refine ⟨.update job _ rfl (fun _ => rfl) (fun _ row token _ _ holds => .inl holds), ?_⟩
  refine positions.update job _ (fun _ => rfl) (fun _ _ _ => rfl) (fun id row read own holds => ?_)
  have complete := positions.enumerated id row read holds
  unfold NativeProgress.enumerated at complete ⊢
  rw [List.all_eq_true] at complete ⊢
  intro name member
  have before := complete name member
  rw [positions.shared id first row progress read present (own.trans mine.symm)] at before
  have other : name ≠ recordType := by
    rintro rfl
    rw [careful] at before
    cases before
  rw [lookup_other _ _ _ _ other]
  exact before

theorem adoptConfirmedHead_advances {job : Nat} {token : String} (positions : Positions s.progress)
    (careful : followsLadder s (.adoptConfirmedHead job token) = true) (done : s.adoptConfirmedHead job token = .ok t) :
    Advances s t := by
  obtain ⟨_, free, _, _, rest⟩ := bind2_ok done
  rw [ensure_ok, beq_iff_eq] at free
  cases rest
  obtain ⟨progress, listed, applied⟩ := (Option.any_eq_true _ _).mp careful
  obtain ⟨⟨first, found⟩, located, rfl⟩ := Option.map_eq_some_iff.mp listed
  obtain ⟨present, mine⟩ := first?_some located
  rw [beq_iff_eq] at mine
  refine ⟨.update job _ rfl (fun _ => rfl) (fun _ row other _ _ holds => .inr ⟨?_, holds⟩), ?_⟩
  · exact (unresolved_updateProgress s job job _ (fun _ => by rfl) (fun _ => by rfl)).trans free
  · refine positions.update job _ (fun _ => rfl) (fun _ _ same => same) (fun id row read own _ => ?_)
    exact positions.all_enumerated first id found row present read (mine.trans own.symm)
      (positions.enumerated first found present applied)

theorem opened_advances (s u t : Store) (job : Nat) (positions : Positions u.progress)
    (prior : ∀ id row, u.progress.get id = some row → ∃ old, s.progress.get id = some old ∧
      (row.appliedToken = none ∨ old.appliedToken = row.appliedToken)) (rows : ∀ id row, t.progress.get id = some row →
      (∃ old, u.progress.get id = some old ∧ row.job = old.job ∧ row.bootstrapTypes = old.bootstrapTypes ∧
        row.appliedToken = old.appliedToken) ∨
      row.job = job ∧ row.bootstrapTypes = u.bootstrapTypesOf job ∧ row.appliedToken = none) : Advances s t := by
  have listed : ∀ id row, u.progress.get id = some row → row.job = job → u.bootstrapTypesOf job = row.bootstrapTypes := by
    intro id row read own
    unfold bootstrapTypesOf progressOf
    cases located : u.progress.first? (fun _ row => row.job == job) with
    | none =>
      have unmatched := first?_none.mp located id row read
      simp [own] at unmatched
    | some found =>
      obtain ⟨present, mine⟩ := first?_some located
      exact positions.shared found.1 id found.2 row present read ((beq_iff_eq.mp mine).trans own.symm)
  refine ⟨?_, ?_, ?_⟩
  · intro id row token read applied changed
    rcases rows id row read with ⟨middle, present, _, _, same⟩ | ⟨_, _, none⟩
    · obtain ⟨old, there, cleared | kept⟩ := prior id middle present
      · rw [same, cleared] at applied
        cases applied
      · exact absurd ((kept.trans same.symm).trans applied) (changed old there)
    · rw [none] at applied
      cases applied
  · intro first second row other reads also same
    rcases rows first row reads with ⟨old, present, own, types, _⟩ | ⟨own, types, _⟩
    · rcases rows second other also with ⟨earlier, there, alike, likewise, _⟩ | ⟨alike, likewise, _⟩
      · rw [types, likewise]
        exact positions.shared first second old earlier present there (own.symm.trans (same.trans alike))
      · rw [types, likewise]
        exact (listed first old present (own.symm.trans (same.trans alike))).symm
    · rcases rows second other also with ⟨earlier, there, alike, likewise, _⟩ | ⟨alike, likewise, _⟩
      · rw [types, likewise]
        exact listed second earlier there (alike.symm.trans (same.symm.trans own))
      · rw [types, likewise]
  · intro id row read applied
    rcases rows id row read with ⟨old, present, _, types, same⟩ | ⟨_, _, none⟩
    · unfold NativeProgress.enumerated
      rw [types]
      exact positions.enumerated id old present (by rw [← same]; exact applied)
    · rw [none] at applied
      cases applied

theorem beginReceive_advances (s : Store) (job : Nat) (zoneNamespace : NativeNamespace)
    (generation scope zoneName owner : String) (positions : Positions s.progress) :
    Advances s (s.beginReceive job zoneNamespace generation scope zoneName owner) := by
  unfold beginReceive
  dsimp only
  generalize reset : (if (s.progressOf job).any (fun progress => !progress.isFor zoneNamespace generation scope) = true
    then (s.updateProgress job NativeProgress.cleared).clearJobPending job else s) = u
  have prior : Positions u.progress ∧ ∀ id row, u.progress.get id = some row → ∃ old, s.progress.get id = some old ∧
      (row.appliedToken = none ∨ old.appliedToken = row.appliedToken) := by
    split at reset
    · subst reset
      have cleared : Advances s ((s.updateProgress job NativeProgress.cleared).clearJobPending job) :=
        .cleared positions job _ rfl (fun _ => rfl) (fun _ => rfl) (fun _ => rfl)
      refine ⟨cleared.positions, fun id row read => ?_⟩
      obtain ⟨old, present, ⟨_, rfl⟩ | ⟨_, rfl⟩⟩ := updateProgress_row read
      · exact ⟨old, present, .inl rfl⟩
      · exact ⟨row, present, .inr rfl⟩
    · subst reset
      exact ⟨positions, fun id row read => ⟨row, read, .inr rfl⟩⟩
  split
  · refine opened_advances s u _ job prior.1 prior.2 (fun id row read => .inl ?_)
    rw [get_modify] at read
    split at read
    · obtain ⟨old, present, rfl⟩ := Option.map_eq_some_iff.mp read
      exact ⟨old, present, rfl, rfl, rfl⟩
    · exact ⟨row, read, rfl, rfl, rfl⟩
  · refine opened_advances s u _ job prior.1 prior.2 (fun id row read => ?_)
    rw [get_insert] at read
    split at read
    · cases read
      exact .inr ⟨rfl, rfl, rfl⟩
    · exact .inl ⟨row, read, rfl, rfl, rfl⟩

theorem execute_advances {command : Command} (positions : Positions s.progress) (careful : followsLadder s command = true)
    (done : command.execute platform s = .ok t) : Advances s t := by
  have quiet : ∀ policy : IntentPolicy, Intends platform policy s t → ¬ policy.positions → Advances s t :=
    fun policy path still => .kept positions (path.progress_kept still)
  cases command with
  | beginReceive job zoneNamespace generation scope zoneName owner =>
    cases done
    exact beginReceive_advances s job zoneNamespace generation scope zoneName owner positions
  | pinSnapshot job =>
    obtain ⟨_, _, _, _, rest⟩ := bind2_ok done
    cases rest
    exact .beside positions job _ (fun _ => by rfl) (fun _ => by rfl) (fun _ => by rfl)
  | saveBootstrapPage =>
    exact saveBootstrapPage_advances positions careful done
  | saveDeltaPage job records next =>
    obtain ⟨progress, _, staged, stored, rest⟩ := bind2_ok done
    cases rest
    let any : IntentPolicy := ⟨fun _ _ => True, fun _ _ => True, fun _ _ => True, False, False⟩
    have path : Intends platform any s staged := .loop _ _ (fun record _ _ _ stepped =>
      stageRecord_intends ⟨fun _ _ _ => trivial, fun _ _ _ => trivial⟩ stepped) stored
    have kept := path.progress_kept not_false
    have moved : Advances staged (staged.updateProgress job (fun row => { row with ingestToken := some next })) :=
      .beside (positions.keep kept) job _ (fun _ => rfl) (fun _ => rfl) (fun _ => rfl)
    exact ⟨moved.honest.after (fun id row read => ⟨row, kept id row read, rfl⟩), moved.positions⟩
  | promote => exact promote_advances positions done
  | advanceApplied =>
    obtain ⟨progress, required, _, able, rest⟩ := bind2_ok done
    rw [ensure_ok] at able
    simp only [NativeProgress.canApply, Bool.and_eq_true, beq_iff_eq] at able
    cases rest
    exact .targets positions required able.1.2 able.2
  | adoptConfirmedHead => exact adoptConfirmedHead_advances positions careful done
  | resetReceive job =>
    cases done
    exact .cleared positions job NativeProgress.cleared rfl (fun _ => rfl) (fun _ => rfl) (fun _ => rfl)
  | discardPendingDeletions job =>
    cases done
    unfold discardPendingDeletions
    split
    · exact .cleared positions job (fun row => { row with
        snapshotToken := none, bootstrapStarted := false, bootstrapTypes := [], ingestToken := none
        targetToken := none, appliedToken := none }) rfl (fun _ => rfl) (fun _ => rfl) (fun _ => rfl)
    · exact .kept positions (fun _ _ read => read)
  | stageResource | verifyResource =>
    obtain ⟨_, _, rest⟩ := bind_ok.mp done
    cases rest
    exact .kept positions (fun _ _ read => read)
  | failResource =>
    cases done
    exact .kept positions (fun _ _ read => read)
  | beginPublication =>
    cases done
    refine .kept positions (fun id row read => ?_)
    unfold beginPublication at read
    dsimp only at read
    split at read <;> split at read <;> exact read
  | beginCollision =>
    obtain ⟨_, _, rfl⟩ := beginCollision_ok done
    exact .kept positions (fun _ _ read => read)
  | publishing =>
    obtain ⟨_, _, _, rfl⟩ := publishing_ok done
    exact .kept positions (fun _ _ read => read)
  | _ => exact quiet _ (Command.execute_intends rfl done) not_false

-- Along every run that follows the ladder, whatever is applied was listed to its end, and every step that applies a
-- token does so with nothing unresolved and with the token as its target.
theorem applied_position_is_honest (platform : Platform) (commands : List Command)
    (careful : Meets (Command.execute platform) (fun s command => followsLadder s command = true) .empty commands) :
    (∀ id row, (run (Command.execute platform) .empty commands).progress.get id = some row →
      row.appliedToken.isSome = true → row.enumerated = true) ∧
    ∀ command t, followsLadder (run (Command.execute platform) .empty commands) command = true →
      command.execute platform (run (Command.execute platform) .empty commands) = .ok t →
      AppliedHonestly (run (Command.execute platform) .empty commands) t := by
  have positions : Positions (run (Command.execute platform) .empty commands).progress :=
    run_keeps (fun s : Store => Positions s.progress) (fun before command after kept follows done =>
      (execute_advances kept follows done).positions)
      ⟨fun _ _ _ _ read => (by cases read), fun _ _ read => (by cases read)⟩ careful
  refine ⟨positions.enumerated, fun command t follows done => ?_⟩
  exact (execute_advances positions follows done).honest

namespace Sample

def listing : List Command := [.createJob job,
    .beginReceive 1 ⟨"tenant", "container", "environment", "database"⟩ "generation" "scope" "zone" "owner",
    .saveBootstrapPage 1 masterRecordType none 0, .saveBootstrapPage 1 assetRecordType none 0]

end Sample

theorem empty_zone_is_applied : ∃ t row, Command.execute Sample.platform (run (Command.execute Sample.platform) .empty Sample.listing)
      (.promote 1 ⟨[], [], []⟩ "token" []) = .ok t ∧ t.progress.get 1 = some row ∧ row.appliedToken = some "token" ∧
    t.unresolved row.job = 0 ∧ row.targetToken = some "token" ∧
    ∃ last, (run (Command.execute Sample.platform) .empty (Sample.listing ++
      [.promote 1 ⟨[], [], []⟩ "token" []])).progress.get 1 = some last ∧ last.enumerated = true := by
  obtain ⟨_, honest⟩ := applied_position_is_honest Sample.platform Sample.listing (by decide +kernel)
  obtain ⟨enumerated, _⟩ := applied_position_is_honest Sample.platform (Sample.listing ++
    [.promote 1 ⟨[], [], []⟩ "token" []]) (by decide +kernel)
  obtain ⟨t, done, applied⟩ := ok_of_any (Command.execute Sample.platform (run (Command.execute Sample.platform) .empty
    Sample.listing) (.promote 1 ⟨[], [], []⟩ "token" []))
    (fun t => (t.progress.get 1).any (fun row => row.appliedToken == some "token")) (by decide +kernel)
  obtain ⟨row, read, token⟩ := (Option.any_eq_true _ _).mp applied
  have before : ((run (Command.execute Sample.platform) .empty Sample.listing).progress.get 1).all
    (fun row => row.appliedToken.isNone) = true := by decide +kernel
  have after : ((run (Command.execute Sample.platform) .empty (Sample.listing ++
      [.promote 1 ⟨[], [], []⟩ "token" []])).progress.get 1).any (fun row => row.appliedToken.isSome) = true := by
    decide +kernel
  obtain ⟨last, reads, holds⟩ := (Option.any_eq_true _ _).mp after
  obtain ⟨free, target⟩ := honest _ t (by decide +kernel) done 1 row "token" read (beq_iff_eq.mp token)
    (fun old present same => by
      rw [present, Option.all_some, same] at before
      cases before)
  exact ⟨t, row, done, read, beq_iff_eq.mp token, free, target, last, reads, enumerated 1 last reads holds⟩

end PhotoSync
