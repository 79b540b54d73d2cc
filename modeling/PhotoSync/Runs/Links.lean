import PhotoSync.Runs.Catalogue

set_option autoImplicit false

namespace PhotoSync
open Relational Transaction Store Table

def Linked (s : Store) : Prop := ∀ id row entry, s.publications.get id = some row → row.entry = some entry →
    ∃ record, s.entries.get entry = some record ∧ record.job = row.job

theorem deleteEntries_linked (s : Store) (test : Nat → Entry → Bool) (linked : Linked s) : Linked (s.deleteEntries test) := by
  intro id row entry read link
  simp only [deleteEntries, get_update, Option.map_eq_some_iff] at read
  obtain ⟨old, present, rfl⟩ := read
  obtain ⟨held, kept⟩ := Option.filter_eq_some_iff.mp link
  obtain ⟨record, found, own⟩ := linked id old entry present held
  obtain ⟨later, stays⟩ := Option.isSome_iff_exists.mp kept
  have same : later = record := by
    rw [get_delete, found] at stays
    exact (Option.some.inj (Option.filter_eq_some_iff.mp stays).1).symm
  exact ⟨record, by rw [← same]; exact stays, own⟩

variable {s t : Store} {command : Command}

theorem IntentStep.linked {platform : Platform} {policy : IntentPolicy}
    (carry : ∀ before after, policy.carry before after → SameJob before after) (distinct : s.Identified) (linked : Linked s)
    (step : IntentStep platform policy s t) : Linked t := by
  cases step with
  | frame _ carried lowered =>
    intro id row entry read link
    obtain ⟨old, present, kept⟩ := lowered.publications id row read
    obtain ⟨record, found, own⟩ := linked id old entry present (kept.entry.symm.trans link)
    obtain ⟨later, stays, changed⟩ := carried entry record found
    exact ⟨later, stays, (carry _ _ changed).trans (own.trans kept.job.symm)⟩
  | drop test => exact deleteEntries_linked s test linked
  | schedule _ job entry localVersion decision record found own bound kept allowed done =>
    obtain ⟨capture, fresh, schedule⟩ := schedulePlacement_ok done
    intro id row other read link
    rw [schedule.entries]
    cases schedule.row distinct id row read with
    | other old present different same =>
      have lowered := standDown_lowered job decision.photo.photoId (publicationName platform job decision.photo) old
      subst same
      obtain ⟨entry, there, ours⟩ := linked id old other present (lowered.entry.symm.trans link)
      exact ⟨entry, there, ours.trans lowered.job.symm⟩
    | named old present named same =>
      have frame := reschedule_from capture old
      subst same
      obtain ⟨entry, there, ours⟩ := linked id old other present (frame.entry.symm.trans link)
      exact ⟨entry, there, ours.trans frame.job.symm⟩
    | fresh missing same =>
      obtain ⟨_, ours, linkedTo, _⟩ := schedule.opened
      subst same
      rw [linkedTo, Option.some.injEq] at link
      subst link
      exact ⟨record, found, own.trans ours.symm⟩
  | resources => exact linked
  | positions _ allowed entries publications =>
    unfold Linked
    rw [entries, publications]
    exact linked
  | jobs =>
    intro id row entry read link
    have dropped := deleteJobs_row read
    exact deleteEntries_linked s _ linked id row entry dropped.1 link
  | wipe _ allowed publications =>
    intro id row entry read
    rw [publications] at read
    cases read

def namesOwnEntry (s : Store) : Command → Bool
  | .beginPublication request =>
    request.entry.all (fun id => (s.entries.get id).all (fun row => row.job == request.job))
      && !s.publications.any (fun _ row => row.publicationId == request.publication && row.job != request.job)
  | _ => true

theorem beginPublication_entries (s : Store) (request : Store.PublicationRequest) :
    (s.beginPublication request).entries = s.entries := by
  unfold beginPublication
  dsimp only
  split <;> split <;> rfl

theorem beginPublication_linked {request : Store.PublicationRequest} (distinct : s.Identified) (linked : Linked s)
    (owned : namesOwnEntry s (.beginPublication request) = true) : Linked (s.beginPublication request) := by
  simp only [namesOwnEntry, Bool.and_eq_true, Bool.not_eq_true'] at owned
  have ours : ∀ entry, request.entry = some entry → (s.entries.get entry).isSome = true →
      ∃ record, s.entries.get entry = some record ∧ record.job = request.job := by
    intro entry named exists_
    obtain ⟨record, found⟩ := Option.isSome_iff_exists.mp exists_
    have own := owned.1
    simp only [named, Option.all_some, found, beq_iff_eq] at own
    exact ⟨record, found, own⟩
  intro id row entry read link
  rw [beginPublication_entries]
  cases beginPublication_row distinct read with
  | other old present different same =>
    have lowered := standDown_lowered request.job request.photo request.publication old
    subst same
    obtain ⟨record, there, own⟩ := linked id old entry present (lowered.entry.symm.trans link)
    exact ⟨record, there, own.trans lowered.job.symm⟩
  | named old present named same =>
    rcases same with rfl | ⟨exists_, rfl⟩
    · exact linked id row entry present link
    · have named : old.job = request.job := by
        have quiet := any_eq_false.mp owned.2 id old present
        simpa [named] using quiet
      have requested : request.entry = some entry := link
      rw [requested, Option.all_some] at exists_
      obtain ⟨record, found, own⟩ := ours entry requested exists_
      exact ⟨record, found, own.trans named.symm⟩
  | fresh exists_ missing same =>
    subst same
    have requested : request.entry = some entry := link
    rw [requested, Option.all_some] at exists_
    exact ours entry requested exists_

theorem checkPublication_own {capture : Capture} (done : s.checkPublication capture = .ok ()) :
    ∃ record, s.entries.get capture.entry = some record ∧ record.job = capture.job := by
  obtain ⟨_, current, _⟩ := bind_ok.mp done
  rw [ensure_ok] at current
  simp only [Bool.and_eq_true] at current
  obtain ⟨record, found, own⟩ := (Option.any_eq_true _ _).mp current.1.1
  simp only [Bool.and_eq_true, beq_iff_eq] at own
  exact ⟨record, found, own.1.1⟩

theorem intentsOf_carry (before after : Entry) (carried : (command.intentsOf s).carry before after) : SameJob before after := by
  cases command <;> exact carried

theorem execute_linked {platform : Platform} (distinct : s.Identified)
    (linked : Linked s) (owned : namesOwnEntry s command = true) (done : command.execute platform s = .ok t) : Linked t := by
  cases direct : command.addresses with
  | false =>
    have path := Command.execute_intends direct done
    refine (path.keeps (fun u => u.Identified ∧ Linked u)
      (fun before after kept step => ⟨?_, ?_⟩) ⟨distinct, linked⟩).2
    · exact (Intends.single step).distinct kept.1
    · exact step.linked (intentsOf_carry) kept.1 kept.2
  | true =>
    cases command with
    | beginPublication =>
      cases done
      exact beginPublication_linked distinct linked owned
    | beginCollision =>
      obtain ⟨checked, _, rfl⟩ := beginCollision_ok done
      intro other row entry read link
      dsimp only at read ⊢
      rw [get_insert] at read
      by_cases here : other = s.publications.next
      · rw [if_pos here, Option.some.injEq] at read
        subst read
        rw [Option.some.injEq] at link
        subst link
        exact checkPublication_own checked
      · rw [if_neg here] at read
        exact linked other row entry read link
    | publishing id details =>
      obtain ⟨_, _, _, rfl⟩ := publishing_ok done
      intro other row entry read link
      simp only [updatePublication, get_update, Option.map_eq_some_iff] at read ⊢
      obtain ⟨old, present, rfl⟩ := read
      have same : ∀ changed : Publication, changed = (if old.publicationId == id then
          { old with state := .publishing, details := some details } else old) →
          changed.entry = old.entry ∧ changed.job = old.job := by
        rintro _ rfl
        split <;> exact ⟨rfl, rfl⟩
      obtain ⟨entries, job⟩ := same _ rfl
      obtain ⟨record, found, own⟩ := linked other old entry present (entries.symm.trans link)
      exact ⟨record, found, own.trans job.symm⟩
    | beginReceive =>
      cases done
      unfold Linked beginReceive
      dsimp only
      split <;> split <;> exact linked
    | stageResource | verifyResource =>
      obtain ⟨_, _, rest⟩ := bind_ok.mp done
      cases rest
      exact linked
    | failResource =>
      cases done
      exact linked
    | _ => cases direct

end PhotoSync
