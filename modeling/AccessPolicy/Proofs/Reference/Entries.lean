import AccessPolicy.Proofs.ListShape
import AccessPolicy.Proofs.Reference.Written
import AccessPolicy.Proofs.Schema.Resolve

/-!
# Lists of references

References in a list are resolved one by one, and what they stand for is sorted at the end. So
joined lists resolve just if their parts do (`resolveEntries_append_ok`), and a list fails as the
first of its entries that does (`resolveEntries_error`). Where only some services are permitted,
mappings of other services are refused and nothing else changes (`resolveEntries_permitted_ok`).
-/

namespace AccessPolicy

namespace Reference

section
variable {context : Context} {members : Entries Json} {reference : Reference} {entry : Json}
  {permitted : List Service} {entries : List Json}

-- ---------------------------------------------------------------------------
-- Services of entries
-- ---------------------------------------------------------------------------

theorem service?_of_written (h : Written Key (.obj members) reference) :
    ∃ service, reference.service? = some service ∧ Tagged members service := by
  cases h with
  | iam htag | s3 htag | kms htag | arn htag => exact ⟨_, rfl, htag⟩

def Permitted (permitted : List Service) (entry : Json) : Prop :=
  ∀ members : Entries Json, entry = .obj members →
    ∃ service ∈ permitted, members.has service.tag = true

theorem permit_ok : permit (some permitted) reference = .ok () ↔
    ∀ service, reference.service? = some service → service ∈ permitted := by
  unfold permit
  cases reference.service? with
  | none => simp
  | some service => simp

theorem permit_ofJson_ok (h : ofJson field entry = .ok reference) :
    permit (some permitted) reference = .ok () ↔ Permitted permitted entry := by
  have hwritten := ofJson_ok.1 h
  rw [permit_ok]
  cases entry with
  | obj members =>
    obtain ⟨service, hservice, htagged⟩ := service?_of_written hwritten
    constructor
    · rintro hpermitted _ ⟨⟩
      exact ⟨service, hpermitted service hservice, htagged.tag⟩
    · intro hpermitted other hother
      obtain ⟨tag, hmem, htag⟩ := hpermitted members rfl
      obtain rfl := Option.some.inj (hservice.symm.trans hother)
      exact htagged.alone tag htag ▸ hmem
  | str text =>
    cases hwritten
    exact iff_of_true (fun _ h => nomatch h) fun _ h => nomatch h
  | _ => cases hwritten

theorem resolveEntry_ok : resolveEntry context field only entry = .ok arns ↔
    ∃ reference, ofJson field entry = .ok reference ∧ permit only reference = .ok () ∧
      reference.resolve context = .ok arns := by
  rw [resolveEntry]
  simp only [bind_ok]
  constructor
  · rintro ⟨reference, hread, ⟨⟩, hpermit, harns⟩
    exact ⟨reference, hread, hpermit, harns⟩
  · rintro ⟨reference, hread, hpermit, harns⟩
    exact ⟨reference, hread, (), hpermit, harns⟩

theorem resolveEntry_permitted_ok : resolveEntry context field (some permitted) entry = .ok arns ↔
    Permitted permitted entry ∧ resolveEntry context field none entry = .ok arns := by
  simp only [resolveEntry_ok]
  constructor
  · rintro ⟨reference, hread, hpermit, harns⟩
    exact ⟨(permit_ofJson_ok hread).1 hpermit, reference, hread, rfl, harns⟩
  · rintro ⟨hpermitted, reference, hread, -, harns⟩
    exact ⟨reference, hread, (permit_ofJson_ok hread).2 hpermitted, harns⟩

-- ---------------------------------------------------------------------------
-- Lists of entries
-- ---------------------------------------------------------------------------

theorem resolveEntries_ok : resolveEntries context field only entries = .ok arns ↔
    ∃ parts, List.Forall₂ (fun entry part => resolveEntry context field only entry = .ok part)
      entries parts ∧ arns = ascending parts.flatten := by
  rw [resolveEntries, bind_ok]
  simp only [mapM_ok, Except.ok.injEq, @eq_comm _ _ arns]

theorem resolveEntries_singleton (context : Context) (field : String)
    (only : Option (List Service)) (entry : Json) :
    resolveEntries context field only [entry] =
      (resolveEntry context field only entry).map ascending := by
  rw [resolveEntries, mapM_singleton]
  cases resolveEntry context field only entry with
  | error _ => rfl
  | ok arns => exact congrArg (fun texts => Except.ok (ascending texts)) (List.append_nil arns)

theorem resolveEntries_literal (context : Context) (field : String) (text : String) :
    resolveEntries context field none [.str text] = .ok [text] := by
  rw [resolveEntries_singleton]
  exact congrArg Except.ok (ascending_singleton text)

theorem resolveEntries_append_ok :
    resolveEntries context field only (entries ++ others) = .ok arns ↔ ∃ first second,
      resolveEntries context field only entries = .ok first ∧
      resolveEntries context field only others = .ok second ∧
      arns = ascending (first ++ second) := by
  have hsorted (left right : List String) :
      ascending (ascending left ++ ascending right) = ascending (left ++ right) :=
    ascending_eq_iff.2 ((ascending_perm left).append (ascending_perm right))
  simp only [resolveEntries_ok, forall₂_append_left_iff]
  constructor
  · rintro ⟨_, ⟨left, right, rfl, hleft, hright⟩, rfl⟩
    refine ⟨_, _, ⟨left, hleft, rfl⟩, ⟨right, hright, rfl⟩, ?_⟩
    rw [hsorted, List.flatten_append]
  · rintro ⟨_, _, ⟨left, hleft, rfl⟩, ⟨right, hright, rfl⟩, rfl⟩
    refine ⟨_, ⟨left, right, rfl, hleft, hright⟩, ?_⟩
    rw [hsorted, List.flatten_append]

theorem resolveEntries_error : resolveEntries context field only entries = .error error ↔
    ∃ before entry after, entries = before ++ entry :: after ∧
      (∀ earlier ∈ before, ∃ arns, resolveEntry context field only earlier = .ok arns) ∧
      resolveEntry context field only entry = .error error := by
  rw [← mapM_error, resolveEntries, bind_error]
  simp

theorem resolveEntries_permitted_ok :
    resolveEntries context field (some permitted) entries = .ok arns ↔
      resolveEntries context field none entries = .ok arns ∧
        ∀ entry ∈ entries, Permitted permitted entry := by
  simp only [resolveEntries_ok, resolveEntry_permitted_ok, List.forall₂_and_left]
  constructor
  · rintro ⟨parts, ⟨hpermitted, hparts⟩, rfl⟩
    exact ⟨⟨parts, hparts, rfl⟩, hpermitted⟩
  · rintro ⟨⟨parts, hparts, rfl⟩, hpermitted⟩
    exact ⟨parts, ⟨hpermitted, hparts⟩, rfl⟩

/-- Identifiers in order, expanded from entries that are literals or of a permitted service. -/
def ExpandedFrom (context : Context) (field : String) (permitted : List Service)
    (entries : List Json) (arns : List String) : Prop :=
  ∃ references parts,
    List.Forall₂ (fun entry reference => ofJson field entry = .ok reference) entries references ∧
    List.Forall₂ (fun reference part => reference.resolve context = .ok part) references parts ∧
    (∀ reference ∈ references, ∀ service, reference.service? = some service →
      service ∈ permitted) ∧
    arns = ascending parts.flatten

theorem resolveEntries_expandedFrom :
    resolveEntries context field (some permitted) entries = .ok arns ↔
      ExpandedFrom context field permitted entries arns := by
  simp only [resolveEntries_ok, resolveEntry_ok, ← forall₂_comp_iff, List.forall₂_and_left,
    permit_ok]
  constructor
  · rintro ⟨parts, ⟨references, hread, hpermitted, hparts⟩, rfl⟩
    exact ⟨references, parts, hread, hparts, hpermitted, rfl⟩
  · rintro ⟨references, parts, hread, hparts, hpermitted, rfl⟩
    exact ⟨parts, ⟨references, hread, hpermitted, hparts⟩, rfl⟩

end

end Reference

-- ---------------------------------------------------------------------------
-- Values
-- ---------------------------------------------------------------------------

theorem outcome_resolveResources (context : Context) (field : String) (value : Json)
    (only : Option (List Service)) : (resolveResources context field value only).outcome =
      Reference.resolveEntries context field only value.entries := by
  simp only [resolveResources, Traced.outcome_bind, Traced.outcome_lift, Traced.outcome_pure,
    Traced.outcome_emit]
  cases Reference.resolveEntries context field only value.entries <;> rfl

section
variable {context : Context}

theorem FieldKind.resolve_resources_of_parts
    (h : List.Forall₂ (fun entry part => Reference.resolveEntry context field only entry = .ok part)
      value.entries parts) (harns : arns = ascending parts.flatten) :
    ((FieldKind.resources only).resolve context field value).outcome = .ok (.list arns) := by
  rw [FieldKind.outcome_resolve_resources, Reference.resolveEntries_ok.2 ⟨parts, h, harns⟩]
  rfl

theorem resolveResources_append_ok :
    (resolveResources context field (.arr (items ++ others)) only).outcome = .ok arns ↔
      ∃ first second, (resolveResources context field (.arr items) only).outcome = .ok first ∧
        (resolveResources context field (.arr others) only).outcome = .ok second ∧
        arns.Perm (first ++ second) ∧ arns.Pairwise (· ≤ ·) := by
  simp only [outcome_resolveResources, Json.entries, Reference.resolveEntries_append_ok,
    eq_ascending_iff]

theorem resolveResources_error :
    (resolveResources context field (.arr items) only).outcome = .error error ↔
      ∃ before item after, items = before ++ item :: after ∧
        (∀ earlier ∈ before, ∃ arns,
          (resolveResources context field (.arr [earlier]) only).outcome = .ok arns) ∧
        (resolveResources context field (.arr [item]) only).outcome = .error error := by
  have hone (item : Json) : (resolveResources context field (.arr [item]) only).outcome =
      (Reference.resolveEntry context field only item).map ascending := by
    rw [outcome_resolveResources, Json.entries, Reference.resolveEntries_singleton]
  have hsucceeds (item : Json) :
      (∃ arns, (resolveResources context field (.arr [item]) only).outcome = .ok arns) ↔
        ∃ arns, Reference.resolveEntry context field only item = .ok arns := by
    simp only [hone, map_ok]
    constructor
    · rintro ⟨_, arns, harns, rfl⟩
      exact ⟨arns, harns⟩
    · rintro ⟨arns, harns⟩
      exact ⟨_, arns, harns, rfl⟩
  simp only [hsucceeds]
  simp only [hone, map_error]
  rw [outcome_resolveResources, Json.entries, Reference.resolveEntries_error]

theorem resolveResources_permitted_ok :
    (resolveResources context field value (some permitted)).outcome = .ok arns ↔
      (resolveResources context field value none).outcome = .ok arns ∧
        ∀ members : Entries Json, .obj members ∈ value.entries →
          ∃ service ∈ permitted, members.has service.tag = true := by
  simp only [outcome_resolveResources, Reference.resolveEntries_permitted_ok]
  refine and_congr_right fun _ => ?_
  constructor
  · exact fun h members hmembers => h _ hmembers members rfl
  · rintro h _ hentry members rfl
    exact h members hentry

end

end AccessPolicy
