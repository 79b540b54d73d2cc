import PhotoSync.Runs.Synced

set_option autoImplicit false

namespace PhotoSync
open Relational Transaction Store Table

theorem Entry.mark_media (entry : Entry) (category : ChangeCategory) (stamp : EditEvent) :
    (entry.mark category stamp).media = entry.media := by
  cases category <;> rfl

structure Marks (media : Nat) (category : ChangeCategory) (s t : Store) : Prop where
  next : s.entries.next ≤ t.entries.next
  links : ∀ id row, s.entries.get id = some row → ∃ later, t.entries.get id = some later ∧ later.media = row.media
  fresh : ∃ fresh, t.journal = s.journal ++ fresh ∧ ∀ change ∈ fresh, change.category = category ∧
    ∀ row, s.entries.get change.entry = some row → row.media = some media

section Marks
variable {s now t : Store} {media : Nat} {category : ChangeCategory}

theorem Marks.refl : Marks media category s s := ⟨Nat.le_refl _, fun _ row read => ⟨row, read, rfl⟩, [], by simp, by simp⟩

theorem Marks.insertEntry (marks : Marks media category s now) (row : Entry) (done : now.insertEntry row = .ok t) :
    Marks media category s t := by
  obtain ⟨_, rfl⟩ := insertEntry_ok done
  refine ⟨Nat.le_succ_of_le marks.next, fun id held read => ?_, marks.fresh⟩
  obtain ⟨later, found, link⟩ := marks.links id held read
  refine ⟨later, ?_, link⟩
  rw [get_insert, if_neg (Nat.ne_of_lt (lt_next found))]
  exact found

theorem Marks.mark (marks : Marks media category s now) (entry : Nat) (stamp : EditEvent) (outcome : DirtyOutcome)
    (own : ∀ row, s.entries.get entry = some row → row.media = some media)
    (done : now.mark entry category stamp = .ok (t, outcome)) : Marks media category s t := by
  obtain ⟨_, _, _, rfl⟩ := mark_ok done
  refine ⟨marks.next, fun id held read => ?_, ?_⟩
  · obtain ⟨later, found, link⟩ := marks.links id held read
    simp only [updateEntry, get_modify, found]
    split
    · exact ⟨_, rfl, by rw [later.mark_media]; exact link⟩
    · exact ⟨later, rfl, link⟩
  · obtain ⟨fresh, journal, each⟩ := marks.fresh
    refine ⟨fresh ++ [⟨entry, category, _⟩], by rw [journal, List.append_assoc], fun change member => ?_⟩
    rcases List.mem_append.mp member with old | new
    · exact each change old
    · rw [List.mem_singleton] at new
      subst new
      exact ⟨rfl, own⟩

end Marks

theorem note_marks {s t : Store} {media : Nat} {category : ChangeCategory} {stamp : EditEvent}
    {outcome : Option DirtyOutcome} (done : s.note media category stamp = .ok (t, outcome)) : Marks media category s t := by
  refine note_keeps (Marks media category s) .refl (fun claim member now after marks stepped => ?_) done
  obtain ⟨path, _, link⟩ := (s.mem_claims media claim.1 claim.2).mp member
  obtain ⟨rfl, _⟩ | ⟨id, _, outcome, linked, _, _, marked⟩ | ⟨_, enrolled, outcome, inserted, marked⟩ := noteClaim_ok stepped
  · exact marks
  · refine marks.mark id stamp outcome (fun row read => ?_) marked
    rw [linked] at link
    obtain ⟨found, hit, rfl⟩ := Option.map_eq_some_iff.mp link.symm
    obtain ⟨present, chosen⟩ := first?_some hit
    simp only [Bool.and_eq_true, beq_iff_eq] at chosen
    rw [present] at read
    cases read
    exact chosen.1.2
  · refine (marks.insertEntry _ inserted).mark _ stamp outcome (fun row read => ?_) marked
    exact absurd (lt_next read) (Nat.not_lt.mpr marks.next)

-- The row is as it was, the entries of the row are still its own, and no deletion was recorded at any of them.
structure Spared (media : Nat) (s t : Store) : Prop where
  row : t.media.get media = s.media.get media
  links : (s.media.get media).isSome = true → ∀ id entry, s.entries.get id = some entry → entry.media = some media →
    ∃ later, t.entries.get id = some later ∧ later.media = some media
  unrecorded : ∃ fresh, t.journal = s.journal ++ fresh ∧ ((s.media.get media).isSome = true → ∀ change ∈ fresh,
    change.category = .deletion → ∀ entry, s.entries.get change.entry = some entry → entry.media ≠ some media)

namespace Spared

variable {media : Nat} {s t u : Store}

theorem refl : Spared media s s := ⟨rfl, fun _ _ entry read link => ⟨entry, read, link⟩, [], by simp, by simp⟩

theorem trans (first : Spared media s t) (second : Spared media t u) : Spared media s u := by
  have present : (s.media.get media).isSome = true → (t.media.get media).isSome = true := by
    rw [first.row]
    exact fun held => held
  refine ⟨second.row.trans first.row, fun held id entry read link => ?_, ?_⟩
  · obtain ⟨middle, found, between⟩ := first.links held id entry read link
    exact second.links (present held) id middle found between
  · obtain ⟨fresh, journal, early⟩ := first.unrecorded
    obtain ⟨more, longer, late⟩ := second.unrecorded
    refine ⟨fresh ++ more, by rw [longer, journal, List.append_assoc], fun held change member deletion entry read link => ?_⟩
    rcases List.mem_append.mp member with old | new
    · exact early held change old deletion entry read link
    · obtain ⟨middle, found, between⟩ := first.links held change.entry entry read link
      exact late (present held) change new deletion middle found between

theorem loop {κ : Type} (body : Store → κ → Result Store) (items : List κ)
    (each : ∀ item ∈ items, ∀ before after, body before item = .ok after → Spared media before after)
    (done : items.foldlM body s = .ok t) : Spared media s t :=
  loop_relates (Spared media) (fun _ => refl) (fun _ _ _ => trans) each done

theorem of_media (table : Table Media) (row : table.get media = s.media.get media) : Spared media s { s with media := table } :=
  ⟨row, fun _ _ entry read link => ⟨entry, read, link⟩, [], by simp, by simp⟩

theorem note (other : Nat) (category : ChangeCategory) (stamp : EditEvent) (outcome : Option DirtyOutcome)
    (allowed : other ≠ media ∨ category ≠ .deletion) (done : s.note other category stamp = .ok (t, outcome)) :
    Spared media s t := by
  obtain ⟨entries, journal, same⟩ := note_recorded done
  have marks := note_marks done
  refine ⟨by rw [same], fun _ id entry read link => ?_, ?_⟩
  · obtain ⟨later, found, kept⟩ := marks.links id entry read
    exact ⟨later, found, by rw [kept]; exact link⟩
  · obtain ⟨fresh, longer, each⟩ := marks.fresh
    refine ⟨fresh, longer, fun _ change member deletion entry read link => ?_⟩
    obtain ⟨kind, own⟩ := each change member
    rcases allowed with different | edit
    · rw [own entry read] at link
      exact different (Option.some.inj link)
    · exact edit (kind.symm.trans deletion)

theorem updateMedia (other : Nat) (change : Media → Media) (different : other ≠ media) : Spared media s (s.updateMedia other change) :=
  of_media _ (get_modify_of_ne different.symm)

theorem insertMedia (row : Media) (held : (s.media.get media).isSome = true) :
    Spared media s { s with media := s.media.insert row } := by
  refine of_media _ ?_
  obtain ⟨value, read⟩ := Option.isSome_iff_exists.mp held
  rw [get_insert, if_neg (Nat.ne_of_lt (lt_next read))]

theorem deleteMedia (test : Nat → Media → Bool) (kept : ∀ row, s.media.get media = some row → test media row = false) :
    Spared media s (s.deleteMedia test) := by
  have stays : (s.media.delete test).get media = s.media.get media := by
    rw [get_delete]
    cases read : s.media.get media with
    | none => rfl
    | some row => simp [kept row read]
  refine ⟨stays, fun held id entry read link => ?_, [], by simp [Store.deleteMedia], by simp⟩
  simp only [Store.deleteMedia, get_update, read, Option.map_some]
  exact ⟨_, rfl, by simp [link, stays, held, -get_delete]⟩

theorem markTrashed (other : Nat) (now : Int) (different : other ≠ media) : Spared media s (s.markTrashed other now) :=
  updateMedia other _ different

theorem commitTrashMetadata (ids : List (Nat × EditEvent)) (done : commitTrashMetadata ids s = .ok t) : Spared media s t := by
  refine loop _ ids (fun id _ before after stepped => ?_) done
  obtain ⟨⟨last, outcome⟩, noted, rest⟩ := bind_ok.mp stepped
  cases rest
  exact note id.1 .metadata id.2 outcome (.inr (by decide)) noted

theorem commitPermanentDeletions (ids : List (Nat × EditEvent)) (others : ∀ id ∈ ids, id.1 ≠ media)
    (done : commitPermanentDeletions ids s = .ok t) : Spared media s t := by
  refine loop _ ids (fun id member before after stepped => ?_) done
  split at stepped
  · obtain ⟨⟨last, outcome⟩, noted, rest⟩ := bind_ok.mp stepped
    cases rest
    refine (note id.1 .deletion id.2 outcome (.inl (others id member)) noted).trans (deleteMedia _ (fun row _ => ?_))
    simp [(others id member).symm]
  · cases stepped
    exact refl

theorem removeOrTrashLiveRow (other : Nat) (inTrash : Bool) (now : Int) (stamp : EditEvent) (different : other ≠ media)
    (done : s.removeOrTrashLiveRow other inTrash now stamp = .ok t) : Spared media s t := by
  unfold Store.removeOrTrashLiveRow at done
  split at done
  · obtain ⟨⟨last, outcome⟩, noted, rest⟩ := bind_ok.mp done
    cases rest
    exact (markTrashed other now different).trans (note other .metadata stamp outcome (.inl different) noted)
  · obtain ⟨⟨middle, outcome⟩, noted, rest⟩ := bind_ok.mp done
    refine (note other .deletion stamp outcome (.inl different) noted).trans ?_
    dsimp only at rest
    split at rest
    · cases rest
      exact updateMedia other _ different
    · cases rest
      exact deleteMedia _ (fun row _ => by simp [different.symm])

theorem upsertItem (publication : Option String) (before after : Store × List Nat) (item : NewMediaItem × EditEvent)
    (row : Media) (held : before.1.media.get media = some row) (other : row.uri ≠ item.1.uri)
    (done : upsertItem publication before item = .ok after) :
    Spared media before.1 after.1 ∧ (media ∈ after.2 → media ∈ before.2) := by
  obtain ⟨_, rfl⟩ | ⟨_, id, found, present, named, answer, written⟩ | ⟨_, _, rfl⟩ := upsertItem_cases done
  · exact ⟨refl, fun member => member⟩
  · have different : id ≠ media := by
      rintro rfl
      cases held.symm.trans present
      exact other named
    refine ⟨?_, fun member => ?_⟩
    · rcases written with same | ⟨_, outcome, noted⟩
      · rw [same]
        exact updateMedia id _ different
      · exact (updateMedia id _ different).trans (note id .content item.2 outcome (.inl different) noted)
    · rw [answer, List.mem_append, List.mem_singleton] at member
      exact member.resolve_right different.symm
  · refine ⟨insertMedia _ (by rw [held]; rfl), fun member => ?_⟩
    rw [List.mem_append, List.mem_singleton] at member
    exact member.resolve_right (Nat.ne_of_lt (lt_next held))

theorem upsertMediaItems (items : List (NewMediaItem × EditEvent)) (publication : Option String)
    (after : Store × List Nat) (row : Media) (held : s.media.get media = some row)
    (others : ∀ item ∈ items, row.uri ≠ item.1.uri) (done : s.upsertMediaItems items publication = .ok after) :
    Spared media s after.1 ∧ media ∉ after.2 := by
  refine loop_keeps (fun now => Spared media s now.1 ∧ media ∉ now.2)
    (fun item member before after kept stepped => ?_) ⟨refl, List.not_mem_nil⟩ done
  have still : before.1.media.get media = some row := by
    rw [kept.1.row]
    exact held
  obtain ⟨spared, answered⟩ := upsertItem publication before after item row still (others item member) stepped
  exact ⟨kept.1.trans spared, fun there => kept.2 (answered there)⟩

end Spared

def Store.ofPhoto (root relative : String) (photo : Media) : Store :=
  { Store.empty with
    media := Table.empty.insert photo
    connections := Table.empty.insert ⟨"", none, true⟩
    jobs := Table.empty.insert ⟨1, root, .bidirectional, .all, [], none, false, 0, "", ""⟩
    entries := Table.empty.insert { Entry.inserted 1 relative with media := some 1, photoId := some "photo" } }

theorem ofPhoto_only {root relative : String} {photo row : Media} {id : Nat}
    (held : (ofPhoto root relative photo).media.get id = some row) : id = 1 ∧ row = photo := by
  simp only [ofPhoto, get_insert, get_empty] at held
  split at held
  · next same => exact ⟨same, (Option.some.inj held).symm⟩
  · cases held

end PhotoSync
