import AccessPolicy.Proofs.ListShape
import AccessPolicy.Proofs.Lookup
import AccessPolicy.Reference.Resolve

/-!
# References to the owner

A reference that stands for the owner resolves for an owner of the right kind only
(`owner_of_resolve`), and any other reference resolves without regard to the owner
(`resolve_eq`).
-/

namespace AccessPolicy

def MarksBucket (bucket : String) : Prop :=
  bucket = ownerMarker ∨ ∃ path, bucket = ownerMarker ++ "/" ++ path

def MarksKey (key : Json) : Prop :=
  key = .str ownerMarker ∨ ∃ members : Entries Json, key = .obj members ∧
    members.find? "alias" = some (.str ownerMarker)

/-- What the owner must be for the references of a service to stand for it. -/
def Service.owner? : Service → Option OwnerKind
  | .iam => some .role
  | .s3 => some .bucket
  | .kms => some .key
  | .arn => none

/-- The value of a service's tag names the owner, in a form that the service honours. -/
def Service.Marks : Service → Json → Prop
  | .iam, names => names.Lists ownerMarker
  | .s3, buckets => ∃ bucket, buckets.Lists bucket ∧ MarksBucket bucket
  | .kms, keys => ∃ key ∈ keys.entries, MarksKey key
  | .arn, _ => False

namespace Reference

/-- A mapping that refers to the owner, as an entity of a kind. -/
def RefersToOwner (members : Entries Json) (wanted : OwnerKind) : Prop :=
  ∃ service tagged, Service.owner? service = some wanted ∧
    members.find? service.tag = some tagged ∧ service.Marks tagged

/-- A reference that has the owner among its names, as an entity of a kind. -/
def StandsForOwner : Reference → OwnerKind → Prop
  | .iam names _ _, .role => ownerMarker ∈ names
  | .s3 buckets, .bucket => ∃ bucket ∈ buckets, MarksBucket bucket
  | .kms keys _, .key => ∃ key ∈ keys, key.isOwner = true
  | _, _ => False

-- ---------------------------------------------------------------------------
-- Reading
-- ---------------------------------------------------------------------------

theorem beginsWith_iff : beginsWith start text = true ↔ ∃ rest, text = start ++ rest := by
  rw [beginsWith, List.isPrefixOf_iff_prefix]
  constructor
  · rintro ⟨rest, h⟩
    exact ⟨String.ofList rest, String.toList_inj.1 (by simp [h])⟩
  · rintro ⟨rest, rfl⟩
    simp

theorem isSome_afterMarker? : (afterMarker? bucket).isSome = true ↔ MarksBucket bucket := by
  have hdrop (path : String) :
      (ownerMarker ++ path).toList.drop ownerMarker.length = path.toList := by
    rw [String.toList_append, ← String.length_toList, List.drop_left]
  have hiff : (afterMarker? bucket).isSome = true ↔ beginsWith ownerMarker bucket = true ∧
      (bucket.toList.drop ownerMarker.length = [] ∨
        (bucket.toList.drop ownerMarker.length).head? = some '/') := by
    simp only [afterMarker?]
    split <;> next h =>
      simpa only [Bool.and_eq_true, Bool.or_eq_true, List.isEmpty_iff, decide_eq_true_eq,
        Option.isSome_some, Option.isSome_none, Bool.false_eq_true, true_iff, false_iff] using h
  rw [hiff, MarksBucket, beginsWith_iff]
  constructor
  · rintro ⟨⟨rest, rfl⟩, hrest⟩
    simp only [hdrop] at hrest
    rcases hrest with hempty | hslash
    · obtain rfl : rest = "" := String.toList_inj.1 hempty
      exact .inl rfl
    · obtain ⟨path, hpath⟩ := List.head?_eq_some_iff.1 hslash
      refine .inr ⟨String.ofList path, String.toList_inj.1 ?_⟩
      simp [hpath]
  · rintro (rfl | ⟨path, rfl⟩)
    · exact ⟨⟨"", rfl⟩, .inl rfl⟩
    · have happend : ownerMarker ++ "/" ++ path = ownerMarker ++ ("/" ++ path) :=
        String.append_assoc
      simp only [happend, hdrop]
      exact ⟨⟨_, rfl⟩, .inr (by simp)⟩

section
variable {members : Entries Json} {service : Service} {reference : Reference}

theorem theService_ok :
    theService field members = .ok service ↔ services members = [service] := by
  unfold theService
  split
  · next found hfound => simp [hfound]
  · next hnone => simp [hnone]
  · next hmany _ => exact iff_of_false (fun h => nomatch h) (hmany service)

theorem eq_of_has_tag (h : services members = [service]) {other : Service}
    (hhas : members.has other.tag = true) : other = service := by
  have hmem : other ∈ services members :=
    List.mem_filter.2 ⟨by cases other <;> simp [Service.all], hhas⟩
  simpa [h] using hmem

theorem has_tag (h : services members = [service]) : members.has service.tag = true := by
  have hmem : service ∈ services members := by simp [h]
  exact (List.mem_filter.1 hmem).2

/-- Only the one tag of a mapping can make it refer to the owner. -/
theorem refersToOwner_iff (hservice : services members = [service])
    (htagged : members.find? service.tag = some tagged) :
    RefersToOwner members wanted ↔ service.owner? = some wanted ∧ service.Marks tagged := by
  constructor
  · rintro ⟨other, value, howner, hvalue, hmarks⟩
    obtain rfl := eq_of_has_tag hservice (Entries.has_eq_true_iff.2 ⟨value, hvalue⟩)
    obtain rfl := Option.some.inj (htagged.symm.trans hvalue)
    exact ⟨howner, hmarks⟩
  · rintro ⟨howner, hmarks⟩
    exact ⟨service, tagged, howner, htagged, hmarks⟩

theorem readKey_isOwner (h : readKey field json = .ok key) :
    MarksKey json ↔ key.isOwner = true := by
  unfold readKey at h
  split at h
  · cases h
    simp [MarksKey, KmsKey.isOwner]
  · split at h
    · next halias _ =>
      cases h
      simp [MarksKey, KmsKey.isOwner, halias]
    · next halias _ =>
      split at h
      · cases h
      · cases h
        simp [MarksKey, KmsKey.isOwner, halias]
    · cases h
  · cases h

theorem standsForOwner_of_readParts (h : readParts field service tagged members = .ok reference) :
    reference.StandsForOwner wanted ↔ service.owner? = some wanted ∧ service.Marks tagged := by
  obtain ⟨scope, -, h⟩ := bind_ok.1 h
  cases service with
  | iam =>
    obtain ⟨names, hnames, h⟩ := bind_ok.1 h
    obtain ⟨users, -, h⟩ := bind_ok.1 h
    obtain rfl := Except.ok.inj h
    cases wanted <;>
      simp [StandsForOwner, Service.owner?, Service.Marks, Json.mem_stringList hnames]
  | s3 =>
    obtain ⟨buckets, hbuckets, h⟩ := bind_ok.1 h
    obtain rfl := Except.ok.inj h
    cases wanted <;>
      simp [StandsForOwner, Service.owner?, Service.Marks, Json.mem_stringList hbuckets]
  | kms =>
    obtain ⟨keys, hkeys, h⟩ := bind_ok.1 h
    obtain rfl := Except.ok.inj h
    have hmarked := exists_mem_iff_of_forall₂ (mapM_ok.1 hkeys) fun _ _ => readKey_isOwner
    cases wanted <;> simp [StandsForOwner, Service.owner?, Service.Marks, hmarked]
  | arn =>
    obtain ⟨name, -, h⟩ := bind_ok.1 h
    obtain ⟨identities, -, h⟩ := bind_ok.1 h
    split at h
    · cases h
    · obtain rfl := Except.ok.inj h
      cases wanted <;> simp [StandsForOwner, Service.owner?]

theorem standsForOwner_of_ofMembers (h : ofMembers field members = .ok reference) :
    reference.StandsForOwner wanted ↔ RefersToOwner members wanted := by
  obtain ⟨service, hservice, h⟩ := bind_ok.1 h
  obtain ⟨⟨⟩, -, hparts⟩ := bind_ok.1 h
  have hservice := theService_ok.1 hservice
  obtain ⟨tagged, htagged⟩ := Entries.has_eq_true_iff.1 (has_tag hservice)
  simp only [htagged, Option.getD_some] at hparts
  rw [standsForOwner_of_readParts hparts, refersToOwner_iff hservice htagged]

end

-- ---------------------------------------------------------------------------
-- Resolving
-- ---------------------------------------------------------------------------

section
variable {context : Context} {reference : Reference} {environment : Environment}
  {owner other : Owner}

theorem requireOwner_ok {target : String} :
    context.requireOwner wanted target = .ok () ↔ context.owner.kind = wanted := by
  unfold Context.requireOwner
  split <;> simp [*]

theorem owner_of_resolve (h : reference.resolve context = .ok arns)
    (hstands : reference.StandsForOwner wanted) : context.owner.kind = wanted := by
  unfold StandsForOwner at hstands
  split at hstands
  · obtain ⟨_, -, h⟩ := bind_ok.1 h
    obtain ⟨_, howner, -⟩ := bind_ok.1 h
    rw [ownerRoleArns, if_pos (List.contains_iff_mem.2 hstands)] at howner
    obtain ⟨⟨⟩, howner, -⟩ := bind_ok.1 howner
    exact requireOwner_ok.1 howner
  · obtain ⟨_, hnamed, -⟩ := bind_ok.1 h
    obtain ⟨bucket, hbucket, hmarked⟩ := hstands
    obtain ⟨_, hname⟩ := exists_forall₂_iff.1 ⟨_, mapM_ok.1 hnamed⟩ bucket hbucket
    obtain ⟨rest, hrest⟩ := Option.isSome_iff_exists.1 (isSome_afterMarker?.2 hmarked)
    simp only [bucketName, hrest] at hname
    obtain ⟨⟨⟩, howner, -⟩ := bind_ok.1 hname
    exact requireOwner_ok.1 howner
  · simp only [resolve, resolveKms, if_pos (List.any_eq_true.2 hstands)] at h
    obtain ⟨⟨⟩, howner, -⟩ := bind_ok.1 h
    exact requireOwner_ok.1 howner
  · exact hstands.elim

theorem snd_mem_of_mem_pairs {as : List α} {bs : List β} {pair : α × β}
    (h : pair ∈ pairs as bs) : pair.2 ∈ bs := by
  simp only [pairs, List.mem_flatMap, List.mem_map] at h
  obtain ⟨_, -, _, hb, rfl⟩ := h
  exact hb

theorem keyArn_eq (h : key.isOwner = false) (location account : String) :
    keyArn ⟨environment, owner⟩ location account key =
      keyArn ⟨environment, other⟩ location account key := by
  unfold keyArn
  simp only [h]
  rfl

theorem resolve_eq (h : ∀ wanted, ¬reference.StandsForOwner wanted) :
    reference.resolve ⟨environment, owner⟩ = reference.resolve ⟨environment, other⟩ := by
  cases reference with
  | literal | arn => rfl
  | iam names users scope =>
    have hnone : ownerMarker ∉ names := h .role
    have howner (owner : Owner) : ownerRoleArns ⟨environment, owner⟩ names users = .ok [] := by
      simp [ownerRoleArns, hnone]
    simp only [resolve, resolveIam, howner]
  | s3 buckets =>
    have hname : ∀ bucket ∈ buckets,
        bucketName ⟨environment, owner⟩ bucket = bucketName ⟨environment, other⟩ bucket := by
      intro bucket hbucket
      have hnone : afterMarker? bucket = none := by
        rw [← Option.not_isSome_iff_eq_none, isSome_afterMarker?]
        exact fun hmarked => h .bucket ⟨bucket, hbucket, hmarked⟩
      simp only [bucketName, hnone]
    simp only [resolve, resolveS3, mapM_congr hname]
  | kms keys scope =>
    have hnone : ∀ key ∈ keys, key.isOwner = false := by
      simpa [StandsForOwner] using h .key
    have hany : keys.any KmsKey.isOwner = false := by simpa using hnone
    have harns (accounts : List String) (location : String) :
        (pairs accounts keys).map (fun pair =>
            keyArn ⟨environment, owner⟩ location pair.1 pair.2) =
          (pairs accounts keys).map fun pair =>
            keyArn ⟨environment, other⟩ location pair.1 pair.2 := by
      refine List.map_congr_left fun pair hpair => keyArn_eq (hnone _ ?_) location pair.1
      exact snd_mem_of_mem_pairs hpair
    simp only [resolve, resolveKms, hany, Bool.false_eq_true, if_false]
    exact bind_eq_of_ok fun accounts _ => congrArg Except.ok (harns accounts _)

-- ---------------------------------------------------------------------------
-- Values of fields
-- ---------------------------------------------------------------------------

def ValueRefersToOwner (value : Json) (wanted : OwnerKind) : Prop :=
  ∃ members : Entries Json, .obj members ∈ value.entries ∧ RefersToOwner members wanted

theorem owner_of_resolveEntries {value : Json}
    (h : resolveEntries context field only value.entries = .ok arns)
    (hrefers : ValueRefersToOwner value wanted) : context.owner.kind = wanted := by
  obtain ⟨members, hentry, hrefers⟩ := hrefers
  obtain ⟨_, hresolved, -⟩ := bind_ok.1 h
  obtain ⟨_, hresolved⟩ := exists_forall₂_iff.1 ⟨_, mapM_ok.1 hresolved⟩ _ hentry
  obtain ⟨reference, hread, hresolved⟩ := bind_ok.1 hresolved
  obtain ⟨⟨⟩, -, hresolved⟩ := bind_ok.1 hresolved
  exact owner_of_resolve hresolved ((standsForOwner_of_ofMembers hread).2 hrefers)

theorem resolveEntry_eq {entry : Json}
    (h : ∀ members, entry = .obj members → ∀ wanted, ¬RefersToOwner members wanted) :
    resolveEntry ⟨environment, owner⟩ field only entry =
      resolveEntry ⟨environment, other⟩ field only entry := by
  refine bind_eq_of_ok fun reference hread => bind_eq_of_ok fun _ _ => resolve_eq ?_
  intro wanted hstands
  cases entry with
  | obj members => exact h members rfl wanted ((standsForOwner_of_ofMembers hread).1 hstands)
  | str text =>
    obtain rfl := Except.ok.inj hread
    exact hstands.elim
  | _ => cases hread

theorem resolveEntries_eq {value : Json} (h : ∀ wanted, ¬ValueRefersToOwner value wanted) :
    resolveEntries ⟨environment, owner⟩ field only value.entries =
      resolveEntries ⟨environment, other⟩ field only value.entries := by
  have hentry : ∀ entry ∈ value.entries, resolveEntry ⟨environment, owner⟩ field only entry =
      resolveEntry ⟨environment, other⟩ field only entry := by
    rintro _ hentry
    refine resolveEntry_eq ?_
    rintro members rfl wanted hrefers
    exact h wanted ⟨members, hentry, hrefers⟩
  simp only [resolveEntries, mapM_congr hentry]

end

end Reference

end AccessPolicy
