import PhotoSync.Lib.Run
import PhotoSync.Native.Records
import Mathlib.Data.List.Perm.Basic
import Mathlib.Data.List.Nodup

set_option autoImplicit false

namespace PhotoSync
open Transaction List

def mastersOf (live : List NativeRecord) : List NativeRecord := live.filter (fun record => record.recordType == some masterRecordType)

def assetsOf (live : List NativeRecord) : List NativeRecord := live.filter (fun record => record.recordType == some assetRecordType)

def othersOf (live : List NativeRecord) : List NativeRecord :=
  live.filter (fun record => record.recordType != some masterRecordType && record.recordType != some assetRecordType)

-- The asset's reference names a live master of the zone, which names it back at
-- the same content generation, and the pair makes the photo.
def Paired (zone : ZoneId) (live : List NativeRecord) (asset : NativeRecord) (photo : RemotePhoto) : Prop :=
  ∃ master ∈ mastersOf live, referenceTarget asset.fields "masterRef" = some master.recordName ∧
    (∀ found, master.zoneId = some found → found = zone) ∧
    stringField master.fields "photoId" = some asset.recordName ∧
    ∃ generation, stringField master.fields "contentGeneration" = some generation ∧
      stringField asset.fields "contentGeneration" = some generation ∧
      buildPhoto asset.recordName master asset generation = .ok photo

structure ValidGraph (zone : ZoneId) (live : List NativeRecord) : Prop where
  paired : ∀ asset ∈ assetsOf live, ∃ photo, Paired zone live asset photo
  paths : ∀ first ∈ assetsOf live, ∀ second ∈ assetsOf live, ∀ photo other, Paired zone live first photo →
    Paired zone live second other → photo.relativePath = other.relativePath → first = second
  referenced : ∀ master ∈ mastersOf live, ∃ asset ∈ assetsOf live, referenceTarget asset.fields "masterRef" = some master.recordName
  revisions : ∀ record ∈ othersOf live, record.recordChangeTag.isSome = true

section Loops
variable {α β ε : Type}

theorem elim_ok {value : Option α} {failure : ε} {result : α} :
    value.elim (.error failure) Except.ok = Except.ok result ↔ value = some result := by
  cases value <;> simp

theorem throw_if_ok {test : Bool} {failure : ε} {rest : Unit → Except ε α} {result : α} :
    (if test = true then (throw failure : Except ε Unit) >>= rest else rest ()) = Except.ok result ↔
      test = false ∧ rest () = .ok result := by
  cases test with
  | true =>
    constructor
    · intro done
      cases done
    · rintro ⟨impossible, _⟩
      cases impossible
  | false => exact ⟨fun done => ⟨rfl, done⟩, fun both => both.2⟩

theorem mapM_ok (body : α → Except ε β) (items : List α) (results : List β) :
    items.mapM body = .ok results ↔ List.Forall₂ (fun item result => body item = .ok result) items results := by
  induction items generalizing results with
  | nil =>
    rw [mapM_nil, forall₂_nil_left_iff]
    exact ⟨fun same => by cases same; rfl, fun same => by cases same; rfl⟩
  | cons item rest ih =>
    rw [mapM_cons, forall₂_cons_left_iff]
    constructor
    · intro done
      obtain ⟨first, made, others, mapped, done⟩ := bind2_ok done
      cases done
      exact ⟨first, others, made, (ih others).mp mapped, rfl⟩
    · rintro ⟨first, others, made, mapped, rfl⟩
      exact bind_ok.mpr ⟨first, made, bind_ok.mpr ⟨others, (ih others).mpr mapped, rfl⟩⟩

end Loops

section Pairing
variable {zone : ZoneId} {live : List NativeRecord}

theorem find_named {records : List NativeRecord} (distinct : (records.map NativeRecord.recordName).Nodup)
    (name : String) (record : NativeRecord) :
    records.find? (fun other => other.recordName == name) = some record ↔ record ∈ records ∧ record.recordName = name := by
  constructor
  · intro found
    exact ⟨mem_of_find?_eq_some found, by simpa using find?_some found⟩
  · rintro ⟨member, rfl⟩
    cases found : records.find? (fun other => other.recordName == record.recordName) with
    | none => exact absurd (find?_eq_none.mp found record member) (by simp)
    | some other =>
      have same : other.recordName = record.recordName := by simpa using find?_some found
      rw [inj_on_of_nodup_map distinct (mem_of_find?_eq_some found) member same]

theorem pairedPhoto_ok (distinct : (live.map NativeRecord.recordName).Nodup) (asset : NativeRecord) (photo : RemotePhoto) :
    pairedPhoto zone (mastersOf live) asset = .ok photo ↔ Paired zone live asset photo := by
  have distinctMasters : ((mastersOf live).map NativeRecord.recordName).Nodup := distinct.sublist (filter_sublist.map _)
  constructor
  · intro done
    obtain ⟨reference, named, master, found, done⟩ := bind2_ok done
    rw [elim_ok] at named found
    obtain ⟨member, rfl⟩ := (find_named distinctMasters reference master).mp found
    obtain ⟨inZone, done⟩ := throw_if_ok.mp done
    obtain ⟨claimed, back, done⟩ := bind_ok.mp done
    rw [elim_ok] at back
    obtain ⟨same, done⟩ := throw_if_ok.mp done
    rw [bne_eq_false_iff_eq] at same
    subst same
    have agrees : ¬(asset.recordName != asset.recordName) = true := by simp
    rw [if_neg agrees] at done
    refine ⟨master, member, named, ?_, back, ?_⟩
    · intro found present
      simpa [present] using inZone
    · cases masterSide : stringField master.fields "contentGeneration" with
      | none => simp [masterSide] at done
      | some generation =>
        cases assetSide : stringField asset.fields "contentGeneration" with
        | none => simp [masterSide, assetSide] at done
        | some other =>
          simp only [masterSide, assetSide] at done
          by_cases equal : generation = other
          · subst equal
            rw [if_pos (beq_self_eq_true generation)] at done
            exact ⟨generation, rfl, rfl, done⟩
          · have differ : ¬(generation == other) = true := by simpa using equal
            rw [if_neg differ] at done
            cases done
  · rintro ⟨master, member, named, inZone, back, generation, masterSide, assetSide, built⟩
    have found := (find_named distinctMasters master.recordName master).mpr ⟨member, rfl⟩
    refine bind_ok.mpr ⟨master.recordName, elim_ok.mpr named, ?_⟩
    refine bind_ok.mpr ⟨master, elim_ok.mpr found, ?_⟩
    refine throw_if_ok.mpr ⟨?_, ?_⟩
    · cases zoned : master.zoneId with
      | none => rfl
      | some other => simp [inZone other zoned]
    · refine bind_ok.mpr ⟨asset.recordName, elim_ok.mpr back, ?_⟩
      refine throw_if_ok.mpr ⟨by simp, ?_⟩
      rw [masterSide, assetSide]
      dsimp only
      rw [if_pos (beq_self_eq_true generation)]
      exact built

end Pairing

variable {asset : NativeRecord} {photo : RemotePhoto}

section Collecting
variable {zone : ZoneId} {live : List NativeRecord}

theorem collect_ok (zone : ZoneId) (masters assets : List NativeRecord) (sofar result : List RemotePhoto)
    (apart : sofar.Pairwise (fun first second => first.relativePath ≠ second.relativePath)) :
    assets.foldlM (collectPhotos zone masters) sofar = .ok result ↔ ∃ photos, result = sofar ++ photos ∧
        List.Forall₂ (fun asset photo => pairedPhoto zone masters asset = .ok photo) assets photos ∧
        (sofar ++ photos).Pairwise (fun first second => first.relativePath ≠ second.relativePath) := by
  induction assets generalizing sofar with
  | nil =>
    constructor
    · intro done
      cases done
      exact ⟨[], by simp, .nil, by simpa using apart⟩
    · rintro ⟨photos, rfl, matched, _⟩
      cases matched
      simp only [append_nil]
      rfl
  | cons asset rest ih =>
    rw [foldlM_cons]
    constructor
    · intro done
      obtain ⟨middle, collected, done⟩ := bind_ok.mp done
      obtain ⟨photo, made, collected⟩ := bind_ok.mp collected
      obtain ⟨unseen, collected⟩ := throw_if_ok.mp collected
      cases collected
      have grown : (sofar ++ [photo]).Pairwise (fun first second => first.relativePath ≠ second.relativePath) := by
        refine pairwise_append.mpr ⟨apart, pairwise_singleton _ _, ?_⟩
        intro other member last here
        rw [mem_singleton.mp here]
        simpa using any_eq_false.mp unseen other member
      obtain ⟨photos, rfl, matched, distinct⟩ := (ih _ grown).mp done
      exact ⟨photo :: photos, by simp, .cons made matched, by simpa using distinct⟩
    · rintro ⟨photos, rfl, matched, distinct⟩
      cases matched with
      | cons made matched =>
        rename_i photo photos
        have split : sofar ++ photo :: photos = (sofar ++ [photo]) ++ photos := by simp
        rw [split] at distinct
        obtain ⟨grown, _, _⟩ := pairwise_append.mp distinct
        have unseen : sofar.any (fun other => other.relativePath == photo.relativePath) = false := by
          refine any_eq_false.mpr (fun other member => ?_)
          simpa using (pairwise_append.mp grown).2.2 other member photo mem_cons_self
        refine bind_ok.mpr ⟨sofar ++ [photo], bind_ok.mpr ⟨photo, made, ?_⟩, ?_⟩
        · exact throw_if_ok.mpr ⟨unseen, rfl⟩
        · exact (ih _ grown).mpr ⟨photos, split, matched, distinct⟩

theorem forall₂_mem_left {α β : Type} {related : α → β → Prop} {items : List α} {results : List β}
    (all : List.Forall₂ related items results) {item : α} (member : item ∈ items) :
    ∃ result ∈ results, related item result := by
  induction all with
  | nil => simp at member
  | cons here _ ih =>
    rcases mem_cons.mp member with rfl | later
    · exact ⟨_, mem_cons_self, here⟩
    · obtain ⟨result, found, holds⟩ := ih later
      exact ⟨result, mem_cons_of_mem _ found, holds⟩

theorem forall₂_mem_right {α β : Type} {related : α → β → Prop} {items : List α} {results : List β}
    (all : List.Forall₂ related items results) {result : β} (member : result ∈ results) :
    ∃ item ∈ items, related item result :=
  forall₂_mem_left all.flip member

theorem forall₂_exists {α β : Type} {related : α → β → Prop} {items : List α}
    (each : ∀ item ∈ items, ∃ result, related item result) : ∃ results, List.Forall₂ related items results := by
  induction items with
  | nil => exact ⟨[], .nil⟩
  | cons item rest ih =>
    obtain ⟨first, holds⟩ := each item mem_cons_self
    obtain ⟨results, all⟩ := ih (fun other member => each other (mem_cons_of_mem _ member))
    exact ⟨first :: results, .cons holds all⟩

theorem projectedRecord_ok (record : NativeRecord) :
    (∃ made, projectedRecord record = .ok made) ↔ record.recordChangeTag.isSome = true := by
  unfold projectedRecord
  cases record.recordChangeTag <;> simp

theorem revisions_ok (others : List NativeRecord) :
    (∃ records, others.mapM projectedRecord = .ok records) ↔ ∀ record ∈ others, record.recordChangeTag.isSome = true := by
  constructor
  · rintro ⟨records, done⟩ record member
    obtain ⟨made, _, projected⟩ := forall₂_mem_left ((mapM_ok _ _ _).mp done) member
    exact (projectedRecord_ok record).mp ⟨made, projected⟩
  · intro tagged
    obtain ⟨records, all⟩ := forall₂_exists (fun record member => (projectedRecord_ok record).mpr (tagged record member))
    exact ⟨records, (mapM_ok _ _ _).mpr all⟩

end Collecting

variable {photos : List RemotePhoto} {other : List NativeRecord}

section Graph
variable {zone : ZoneId} {live : List NativeRecord}

theorem buildPhoto_names {photoId : String} {master : NativeRecord} {generation : String}
    (built : buildPhoto photoId master asset generation = .ok photo) :
    photo.photoId = photoId ∧ photo.masterId = master.recordName := by
  obtain ⟨original, _, thumbnail, _, path, _, built⟩ := bind3_ok built
  obtain ⟨_, built⟩ := throw_if_ok.mp built
  obtain ⟨source, _, built⟩ := bind_ok.mp built
  obtain ⟨_, built⟩ := throw_if_ok.mp built
  cases built
  exact ⟨rfl, rfl⟩

theorem Paired.names (paired : Paired zone live asset photo) :
    photo.photoId = asset.recordName ∧ referenceTarget asset.fields "masterRef" = some photo.masterId := by
  obtain ⟨master, _, named, _, _, generation, _, _, built⟩ := paired
  obtain ⟨id, masterId⟩ := buildPhoto_names built
  exact ⟨id, masterId ▸ named⟩

theorem Paired.unique {other : RemotePhoto} (distinct : (live.map NativeRecord.recordName).Nodup)
    (first : Paired zone live asset photo) (second : Paired zone live asset other) : photo = other :=
  Except.ok.inj (((pairedPhoto_ok distinct asset photo).mpr first).symm.trans ((pairedPhoto_ok distinct asset other).mpr second))

theorem Paired.master_injective {other : NativeRecord} {second : RemotePhoto}
    (distinct : (live.map NativeRecord.recordName).Nodup) (left : Paired zone live asset photo)
    (right : Paired zone live other second) (same : photo.masterId = second.masterId) :
    asset.recordName = other.recordName := by
  obtain ⟨master, member, named, _, back, _, _, _, built⟩ := left
  obtain ⟨master', member', named', _, back', _, _, _, built'⟩ := right
  have masters : master.recordName = master'.recordName := by
    rw [← (buildPhoto_names built).2, ← (buildPhoto_names built').2, same]
  have equal : master = master' := inj_on_of_nodup_map distinct (mem_of_mem_filter member) (mem_of_mem_filter member') masters
  subst equal
  exact Option.some.inj (back.symm.trans back')

structure Collected (zone : ZoneId) (live : List NativeRecord) (photos : List RemotePhoto) : Prop where
  paired : List.Forall₂ (Paired zone live) (assetsOf live) photos
  apart : photos.Pairwise (fun first second => first.relativePath ≠ second.relativePath)
  referenced : ∀ master ∈ mastersOf live, ∃ photo ∈ photos, photo.masterId = master.recordName

section
variable (distinct : (live.map NativeRecord.recordName).Nodup)

include distinct

theorem toGraph_collected {graph : RemoteGraph} (done : toGraph zone live = .ok graph) :
    Collected zone live graph.photos ∧ ∀ record ∈ othersOf live, record.recordChangeTag.isSome = true := by
  obtain ⟨records, projected, photos, collected, done⟩ := bind2_ok done
  obtain ⟨_, rfl, matched, apart⟩ := (collect_ok zone (mastersOf live) (assetsOf live) [] photos .nil).mp collected
  split at done
  · cases done
  · next none =>
    cases done
    refine ⟨⟨matched.imp (fun asset photo => (pairedPhoto_ok distinct asset photo).mp), apart, ?_⟩, (revisions_ok _).mp ⟨_, projected⟩⟩
    intro master member
    simpa using find?_eq_none.mp none master member

theorem toGraph_of_collected
    (collected : Collected zone live photos) (tagged : ∀ record ∈ othersOf live, record.recordChangeTag.isSome = true) :
    ∃ graph, toGraph zone live = .ok graph ∧ graph.photos = photos := by
  obtain ⟨records, projected⟩ := (revisions_ok _).mpr tagged
  have matched := collected.paired.imp (fun asset photo => (pairedPhoto_ok distinct asset photo).mpr)
  have walked := (collect_ok zone (mastersOf live) (assetsOf live) [] photos .nil).mpr
    ⟨photos, rfl, matched, collected.apart⟩
  have all : (mastersOf live).find? (fun master => !photos.any (fun photo => photo.masterId == master.recordName)) = none := by
    rw [find?_eq_none]
    intro master member
    simpa using collected.referenced master member
  refine ⟨⟨photos, records.mergeSort (fun left right => decide (left.recordName ≤ right.recordName)), []⟩, ?_, rfl⟩
  refine bind_ok.mpr ⟨records, projected, bind_ok.mpr ⟨photos, walked, ?_⟩⟩
  simp only [mastersOf] at all
  simp only [all]
  rfl

theorem Collected.valid (collected : Collected zone live photos)
    (tagged : ∀ record ∈ othersOf live, record.recordChangeTag.isSome = true) : ValidGraph zone live where
  paired asset member := by
    obtain ⟨photo, _, paired⟩ := forall₂_mem_left collected.paired member
    exact ⟨photo, paired⟩
  paths first member second member' photo other left right same := by
    obtain ⟨photo', listed, paired⟩ := forall₂_mem_left collected.paired member
    obtain ⟨other', listed', paired'⟩ := forall₂_mem_left collected.paired member'
    rw [Paired.unique distinct left paired, Paired.unique distinct right paired'] at same
    have equal := inj_on_of_nodup_map (pairwise_map.mpr collected.apart) listed listed' same
    refine inj_on_of_nodup_map distinct (mem_of_mem_filter member) (mem_of_mem_filter member') ?_
    rw [← paired.names.1, ← paired'.names.1, equal]
  referenced master member := by
    obtain ⟨photo, listed, names⟩ := collected.referenced master member
    obtain ⟨asset, present, paired⟩ := forall₂_mem_right collected.paired listed
    exact ⟨asset, present, names ▸ paired.names.2⟩
  revisions := tagged

end

theorem pairwise_of_forall₂ {α β γ : Type} {related : α → β → Prop} (key : β → γ) {items : List α} {results : List β}
    (all : List.Forall₂ related items results) (distinct : items.Nodup)
    (injective : ∀ first ∈ items, ∀ second ∈ items, ∀ left right, related first left → related second right →
      key left = key right → first = second) : results.Pairwise (fun left right => key left ≠ key right) := by
  induction all with
  | nil => exact .nil
  | @cons item result rest results here later ih =>
    rw [nodup_cons] at distinct
    refine pairwise_cons.mpr ⟨?_, ih distinct.2 ?_⟩
    · intro right listed same
      obtain ⟨other, member, holds⟩ := forall₂_mem_right later listed
      have equal := injective item mem_cons_self other (mem_cons_of_mem _ member) _ _ here holds same
      exact distinct.1 (equal ▸ member)
    · intro first member second member'
      exact injective first (mem_cons_of_mem _ member) second (mem_cons_of_mem _ member')

theorem ValidGraph.collected (distinct : (live.map NativeRecord.recordName).Nodup) (valid : ValidGraph zone live) :
    ∃ photos, Collected zone live photos := by
  obtain ⟨photos, paired⟩ := forall₂_exists valid.paired
  have assets : (assetsOf live).Nodup := distinct.of_map.filter _
  refine ⟨photos, paired, pairwise_of_forall₂ RemotePhoto.relativePath paired assets valid.paths, ?_⟩
  intro master member
  obtain ⟨asset, present, names⟩ := valid.referenced master member
  obtain ⟨photo, listed, made⟩ := forall₂_mem_left paired present
  exact ⟨photo, listed, Option.some.inj (made.names.2.symm.trans names)⟩

theorem Collected.photoIds (collected : Collected zone live photos) :
    photos.map RemotePhoto.photoId = (assetsOf live).map NativeRecord.recordName := by
  have same : List.Forall₂ (fun asset photo => NativeRecord.recordName asset = RemotePhoto.photoId photo) (assetsOf live) photos :=
    collected.paired.imp (fun _ _ paired => paired.names.1.symm)
  rw [← forall₂_eq_eq_eq, forall₂_map_left_iff, forall₂_map_right_iff]
  exact same.flip.imp (fun _ _ names => names.symm)

theorem Collected.masterIds (distinct : (live.map NativeRecord.recordName).Nodup) (collected : Collected zone live photos) :
    (photos.map RemotePhoto.masterId).Perm ((mastersOf live).map NativeRecord.recordName) := by
  have masters : ((mastersOf live).map NativeRecord.recordName).Nodup := distinct.sublist (filter_sublist.map _)
  have named : (photos.map RemotePhoto.masterId).Nodup := by
    refine pairwise_map.mpr (pairwise_of_forall₂ RemotePhoto.masterId collected.paired (distinct.of_map.filter _) ?_)
    intro first member second member' photo other left right same
    exact inj_on_of_nodup_map distinct (mem_of_mem_filter member) (mem_of_mem_filter member')
      (left.master_injective distinct right same)
  refine (perm_ext_iff_of_nodup named masters).mpr (fun name => ?_)
  simp only [mem_map]
  constructor
  · rintro ⟨photo, listed, rfl⟩
    obtain ⟨asset, _, master, member, _, _, _, _, _, _, built⟩ := forall₂_mem_right collected.paired listed
    exact ⟨master, member, (buildPhoto_names built).2.symm⟩
  · rintro ⟨master, member, rfl⟩
    exact collected.referenced master member

theorem Paired.reorder (same : other.Perm live) (paired : Paired zone live asset photo) : Paired zone other asset photo := by
  obtain ⟨master, member, rest⟩ := paired
  exact ⟨master, (same.filter _).mem_iff.mpr member, rest⟩

theorem ValidGraph.reorder (same : other.Perm live) (valid : ValidGraph zone live) : ValidGraph zone other where
  paired asset member := by
    obtain ⟨photo, paired⟩ := valid.paired asset ((same.filter _).mem_iff.mp member)
    exact ⟨photo, paired.reorder same⟩
  paths first member second member' photo other left right := by
    exact valid.paths first ((same.filter _).mem_iff.mp member) second ((same.filter _).mem_iff.mp member') photo other
      (left.reorder same.symm) (right.reorder same.symm)
  referenced master member := by
    obtain ⟨asset, present, names⟩ := valid.referenced master ((same.filter _).mem_iff.mp member)
    exact ⟨asset, (same.filter _).mem_iff.mpr present, names⟩
  revisions record member := valid.revisions record ((same.filter _).mem_iff.mp member)

theorem Collected.reorder {photos' : List RemotePhoto} (same : other.Perm live)
    (distinct : (live.map NativeRecord.recordName).Nodup) (collected : Collected zone live photos)
    (collected' : Collected zone other photos') : photos'.Perm photos := by
  have functional : Relator.RightUnique (Paired zone live) := fun _ _ _ first second => Paired.unique distinct first second
  have again := collected'.paired.imp (fun _ _ paired => Paired.reorder same.symm paired)
  exact rel_perm_imp functional again collected.paired (same.filter _)

theorem toGraph_ok_iff (distinct : (live.map NativeRecord.recordName).Nodup) :
    (∃ graph, toGraph zone live = .ok graph) ↔ ValidGraph zone live := by
  constructor
  · rintro ⟨graph, done⟩
    obtain ⟨collected, tagged⟩ := toGraph_collected distinct done
    exact collected.valid distinct tagged
  · intro valid
    obtain ⟨photos, collected⟩ := valid.collected distinct
    obtain ⟨graph, done, _⟩ := toGraph_of_collected distinct collected valid.revisions
    exact ⟨graph, done⟩

theorem to_graph_is_exact_and_order_free (zone : ZoneId) (live : List NativeRecord) (distinct : (live.map NativeRecord.recordName).Nodup) :
    ((∃ graph, toGraph zone live = .ok graph) ↔ ValidGraph zone live) ∧
    (∀ graph, toGraph zone live = .ok graph → List.Forall₂ (Paired zone live) (assetsOf live) graph.photos ∧
      graph.photos.map RemotePhoto.photoId = (assetsOf live).map NativeRecord.recordName ∧
      graph.photos.Nodup ∧
      (graph.photos.map RemotePhoto.masterId).Perm ((mastersOf live).map NativeRecord.recordName)) ∧
    ∀ other, other.Perm live → ((∃ graph, toGraph zone other = .ok graph) ↔ ∃ graph, toGraph zone live = .ok graph) ∧
      ∀ graph graph', toGraph zone live = .ok graph → toGraph zone other = .ok graph' → graph'.photos.Perm graph.photos := by
  refine ⟨toGraph_ok_iff distinct, ?_, ?_⟩
  · intro graph done
    obtain ⟨collected, _⟩ := toGraph_collected distinct done
    exact ⟨collected.paired, collected.photoIds, .of_map _ (List.pairwise_map.mpr collected.apart), collected.masterIds distinct⟩
  · intro other same
    have distinct' : (other.map NativeRecord.recordName).Nodup := (same.map _).nodup_iff.mpr distinct
    constructor
    · rw [toGraph_ok_iff distinct, toGraph_ok_iff distinct']
      exact ⟨fun valid => valid.reorder same.symm, fun valid => valid.reorder same⟩
    · intro graph graph' done done'
      exact (toGraph_collected distinct done).1.reorder same distinct (toGraph_collected distinct' done').1

end Graph

namespace ValidGraph

def zeroDigest : String := "0000000000000000000000000000000000000000000000000000000000000000"

def zeroAsset (name : String) : AssetDescriptor := ⟨name, 4, "AAAAAAAAAAAAAAAAAAAAAAAAAAAAAAAAAAAAAAAAAAA=", "image/jpeg", none, none⟩

def textOf (value : String) : Option Field := some ⟨some "STRING", some (.text value)⟩

def masterFor (name photo : String) : NativeRecord :=
  ⟨name, some masterRecordType, none, some "1", some [("photoId", textOf photo), ("contentGeneration", textOf "1"),
    ("thumbnailSourceOriginalSHA256", textOf zeroDigest), ("resOriginalRes", some ⟨none, some (.asset (zeroAsset "original"))⟩),
    ("resJPEGThumbRes", some ⟨none, some (.asset (zeroAsset "thumbnail"))⟩)], none, false⟩

def assetFor (name master path : String) : NativeRecord :=
  ⟨name, some assetRecordType, none, some "1", some [("masterRef", some ⟨none, some (.reference master none)⟩),
    ("contentGeneration", textOf "1"), ("relativePath", textOf path)], none, false⟩

def twoPhotos : List NativeRecord := [masterFor "m1" "p1", assetFor "p2" "m2" "b", masterFor "m2" "p2", assetFor "p1" "m1" "a"]

end ValidGraph

theorem two_photos_validate_in_any_order : ValidGraph ⟨"zone", "owner"⟩ ValidGraph.twoPhotos ∧
    ∀ other, other.Perm ValidGraph.twoPhotos → ∃ graph, toGraph ⟨"zone", "owner"⟩ other = .ok graph := by
  have succeeds : ∃ graph, toGraph ⟨"zone", "owner"⟩ ValidGraph.twoPhotos = .ok graph := by
    obtain ⟨graph, done, _⟩ := ok_of_any (toGraph ⟨"zone", "owner"⟩ ValidGraph.twoPhotos) (fun _ => true)
      (by decide +kernel)
    exact ⟨graph, done⟩
  obtain ⟨exact, _, orderFree⟩ := to_graph_is_exact_and_order_free ⟨"zone", "owner"⟩ ValidGraph.twoPhotos (by decide)
  exact ⟨exact.mp succeeds, fun other same => (orderFree other same).1.mpr succeeds⟩

end PhotoSync
