import AccessPolicy.Proofs.Compile.Admissible
import AccessPolicy.Proofs.Environment
import AccessPolicy.Proofs.Reference.Entries

/-!
# Grantees

Lists of references resolve entry by entry (`resolveResources_entrywise`). The schema of grants
permits only roles as grantees and retirees, so what a compiled grant has there is a literal or was
expanded from a reference to roles.
-/

namespace AccessPolicy

theorem resources_of_compile {members : Entries Json} {key : FieldKey}
    (h : (compile kind context (.obj members)).outcome = .ok statement)
    (hspec : ⟨key, .resources (some permitted)⟩ ∈ kind.schema.fields)
    (hshort : Schema.present? members key.shorthand = some value) :
    ∃ fields : FieldSet, fields.Describes statement ∧ ∃ arns,
      Reference.ExpandedFrom context key.shorthand permitted value.entries arns ∧
        fields.get? key.shorthand = FieldValue.ofList? arns := by
  obtain ⟨fields, hdescribes, hresolved⟩ := resolved_of_compile h
  obtain ⟨taken, htaken, hget⟩ := hresolved _ hspec value hshort
  rw [FieldKind.outcome_resolve_resources, map_ok] at htaken
  obtain ⟨arns, harns, rfl⟩ := htaken
  exact ⟨fields, hdescribes, arns, Reference.resolveEntries_expandedFrom.1 harns,
    hget.trans (effective_list arns)⟩

def Grant.parties (contents : Grant) : Entries (List String) :=
  [("grantee", contents.grantee), ("retiree", contents.retiree)]

theorem Grant.field_of_party {contents : Grant} (h : (field, arns) ∈ contents.parties) :
    ∃ key : FieldKey, key.shorthand = field ∧
      ⟨key, .resources (some [.iam])⟩ ∈ StatementKind.grant.schema.fields ∧
      ∀ fields : FieldSet, fields.DescribesGrant contents →
        fields.get? field = FieldValue.ofList? arns := by
  rcases List.mem_pair.1 h with heq | heq
  · cases heq
    exact ⟨.grantee, rfl, .head _, fun _ hdescribes => hdescribes.grantee⟩
  · cases heq
    exact ⟨.retiree, rfl, .tail _ (.head _), fun _ hdescribes => hdescribes.retiree⟩

theorem parties_of_compile {members : Entries Json}
    (h : (compile .grant context (.obj members)).outcome = .ok (.grant contents))
    (hparty : (field, arns) ∈ contents.parties)
    (hshort : Schema.present? members field = some value) :
    Reference.ExpandedFrom context field [.iam] value.entries arns := by
  obtain ⟨key, rfl, hspec, hfield⟩ := Grant.field_of_party hparty
  obtain ⟨fields, hdescribes, others, hexpanded, hget⟩ := resources_of_compile h hspec hshort
  obtain rfl := FieldValue.ofList?_injective ((hfield fields hdescribes).symm.trans hget)
  exact hexpanded

/-- References in a list are resolved one by one: joined lists have the identifiers of both, in
ascending order, and a list fails as its first entry that fails. To permit only some services is to
refuse mappings of the others, and so no grant names what was expanded from anything but literals
and roles. -/
theorem resolveResources_entrywise (context : Context) :
    (∀ field only items others arns,
      (resolveResources context field (.arr (items ++ others)) only).outcome = .ok arns ↔
        ∃ first second, (resolveResources context field (.arr items) only).outcome = .ok first ∧
          (resolveResources context field (.arr others) only).outcome = .ok second ∧
          arns.Perm (first ++ second) ∧ arns.Pairwise (· ≤ ·)) ∧
    (∀ field only items error,
      (resolveResources context field (.arr items) only).outcome = .error error ↔
        ∃ before item after, items = before ++ item :: after ∧
          (∀ earlier ∈ before, ∃ arns,
            (resolveResources context field (.arr [earlier]) only).outcome = .ok arns) ∧
          (resolveResources context field (.arr [item]) only).outcome = .error error) ∧
    (∀ field permitted value arns,
      (resolveResources context field value (some permitted)).outcome = .ok arns ↔
        (resolveResources context field value none).outcome = .ok arns ∧
          ∀ members : Entries Json, .obj members ∈ value.entries →
            ∃ service ∈ permitted, members.has service.tag = true) ∧
    ∀ (members : Entries Json) contents,
      (compile .grant context (.obj members)).outcome = .ok (.grant contents) →
        ∀ field arns, (field, arns) ∈ contents.parties → ∀ value,
          Schema.present? members field = some value →
            Reference.ExpandedFrom context field [.iam] value.entries arns :=
  ⟨fun _ _ _ _ _ => resolveResources_append_ok, fun _ _ _ _ => resolveResources_error,
    fun _ _ _ _ => resolveResources_permitted_ok,
    fun _ _ h _ _ hparty _ hshort => parties_of_compile h hparty hshort⟩

/-- A grantee that is a literal or a role, of which the latter is expanded. -/
theorem resolveResources_entrywise_grantee :
    let context : Context := ⟨.main, .key, "vault"⟩
    let value : Json := .arr [.str "b", .obj [("iam", .str "role/app")]]
    let contents : Grant :=
      ⟨["arn:aws:iam::123456789012:role/app", "b"], [], ["Decrypt"], none, []⟩
    (compile .grant context
        (.obj [("grantee", value), ("operations", .str "Decrypt")])).outcome =
      .ok (.grant contents) ∧
    Reference.ExpandedFrom context "grantee" [.iam] value.entries contents.grantee := by
  intro context value contents
  have hresolve : ((FieldKind.resources (some [.iam])).resolve context "grantee" value).outcome =
      .ok (.list contents.grantee) :=
    FieldKind.resolve_resources_of_parts (.cons rfl (.cons rfl .nil))
      (eq_ascending_iff.2 ⟨.swap .., by decide⟩)
  have hcompile : (compile .grant context
      (.obj [("grantee", value), ("operations", .str "Decrypt")])).outcome =
        .ok (.grant contents) := by
    have hvalues : Schema.grant.Values context
        [("grantee", value), ("operations", .str "Decrypt")]
        [some (.list contents.grantee), none, some (.list ["Decrypt"]), none, none] :=
      .cons (Schema.fieldValue?_of_shorthand rfl rfl hresolve)
        (.cons rfl (.cons rfl (.cons rfl (.cons rfl .nil))))
    exact compile_of_resolve hvalues.outcome_resolve rfl
  obtain ⟨-, -, -, hgrants⟩ := resolveResources_entrywise context
  exact ⟨hcompile, hgrants _ contents hcompile "grantee" _ (.head _) value rfl⟩

end AccessPolicy
