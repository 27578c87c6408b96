import AccessPolicy.Proofs.Environment
import AccessPolicy.Proofs.Principal.Merged
import AccessPolicy.Proofs.Reference.Entries
import AccessPolicy.Proofs.Statement.Shown

/-!
# Fields that are set and members that are shown

A statement shows a member for each field that is set, save where the field names principals that
name nobody (`setFields_shown`). Such a field satisfies a group that requires principals, and
conflicts with another, without being shown.
-/

namespace AccessPolicy

/-- The fields of a statement besides its identifier, its effect and its principals. -/
def contentFields : List FieldKey :=
  [.action, .notAction, .resource, .notResource, .condition, .notCondition]

def FieldValue.NamesNothing : FieldValue → Prop
  | .list contents => contents = []
  | .principals entries => ∀ entry ∈ entries, entry.NamesNobody
  | .text _ | .mapping _ => False

def FieldSet.NamesNobody (fields : FieldSet) (key : FieldKey) : Prop :=
  ∃ entries, fields.get? key.shorthand = some (.principals entries) ∧
    ∀ entry ∈ entries, entry.NamesNobody

/-- Members are those that fields promise. A trust statement may have an action besides. -/
structure FieldSet.ShownBy (fields : FieldSet) (kind : StatementKind) (members : Entries Json) :
    Prop where
  content : ∀ key ∈ contentFields, key ≠ .action →
    members.has key.canonical = fields.isSet key.shorthand
  action : members.has "Action" = true ↔ fields.isSet "action" = true ∨
    kind = .trust ∧ fields.isSet "notaction" = false ∧
      (members.has "Principal" = true ∨ members.has "NotPrincipal" = true)
  principals : ∀ side : PrincipalSide, members.has side.key.canonical = true ↔
    fields.isSet side.key.shorthand = true ∧ ¬fields.NamesNobody side.key

-- ---------------------------------------------------------------------------
-- Lists and conditions
-- ---------------------------------------------------------------------------

section
variable {fields : FieldSet} {members : Entries Json} {statement : Statement} {kind : StatementKind}

theorem isSet_eq_list (h : fields.get? field = FieldValue.ofList? contents) :
    fields.isSet field = !contents.isEmpty := by
  rw [Bool.eq_iff_iff, isSet_list h]
  simp

theorem isSet_eq_mapping {condition : Option (Entries Json)}
    (h : fields.get? field = condition.map .mapping) :
    fields.isSet field = (condition.map Json.obj).isSome := by
  cases condition <;> simp [FieldSet.isSet, h]

/-- The action apart, which may be another, members show what their fields are set to. -/
theorem has_content_of_shownIn {action : List String} (h : fields.DescribesBody body)
    (hshown : PolicyBody.ShownIn { body with action } members) :
    members.has "Action" = !action.isEmpty ∧
      ∀ key ∈ contentFields, key ≠ .action →
        members.has key.canonical = fields.isSet key.shorthand := by
  have hlists := has_list_of_shownIn hshown
  simp only [PolicyBody.lists, List.forall_mem_cons] at hlists
  obtain ⟨haction, hnotAction, hresource, hnotResource, -⟩ := hlists
  refine ⟨haction, ?_⟩
  simp only [contentFields, List.forall_mem_cons]
  exact ⟨fun hne => absurd rfl hne,
    fun _ => hnotAction.trans (isSet_eq_list h.notAction).symm,
    fun _ => hresource.trans (isSet_eq_list h.resource).symm,
    fun _ => hnotResource.trans (isSet_eq_list h.notResource).symm,
    fun _ => (congrArg Option.isSome (hshown "Condition" (by decide))).trans
      (isSet_eq_mapping h.condition).symm,
    fun _ => (congrArg Option.isSome (hshown "NotCondition" (by decide))).trans
      (isSet_eq_mapping h.notCondition).symm,
    List.forall_mem_nil _⟩

theorem hasAction_eq (h : fields.DescribesBody body) :
    body.hasAction = (fields.isSet "action" || fields.isSet "notaction") := by
  rw [isSet_eq_list h.action, isSet_eq_list h.notAction]
  rfl

-- ---------------------------------------------------------------------------
-- Principals
-- ---------------------------------------------------------------------------

theorem isSet_named (h : fields.DescribesPolicy policy) (side : PrincipalSide) :
    fields.isSet side.key.shorthand = true ↔ policy.named side ≠ [] :=
  (not_iff_comm.1 (not_isSet_principals (get?_named h side))).symm

theorem namesNobody_side_iff (h : fields.DescribesPolicy policy) (side : PrincipalSide) :
    fields.NamesNobody side.key ↔
      policy.named side ≠ [] ∧ ∀ entry ∈ policy.named side, entry.NamesNobody := by
  rw [FieldSet.NamesNobody, get?_named h, FieldValue.ofPrincipals?]
  split <;> simp [*]

theorem has_side_iff (h : fields.DescribesPolicy policy) {side : PrincipalSide}
    (hshows : policy.ShowsSide members side) : members.has side.key.canonical = true ↔
      fields.isSet side.key.shorthand = true ∧ ¬fields.NamesNobody side.key := by
  obtain ⟨merged, hmerge, hfind⟩ := hshows
  rw [isSet_named h, namesNobody_side_iff h, ← PrincipalEntry.merge_eq_none_iff hmerge,
    has_of_showsSide ⟨merged, hmerge, hfind⟩ hmerge, Option.isSome_iff_ne_none, not_and]
  constructor
  · intro hsome
    refine ⟨fun hnil => hsome ?_, fun _ => hsome⟩
    rw [hnil] at hmerge
    exact (Except.ok.inj hmerge).symm
  · exact fun ⟨hnamed, hsome⟩ => hsome hnamed

-- ---------------------------------------------------------------------------
-- Statements
-- ---------------------------------------------------------------------------

theorem body?_of_policy? (h : statement.policy? = some policy) :
    statement.body? = some policy.body := by
  cases statement with
  | resourcePolicy _ | trust _ =>
    obtain rfl := Option.some.inj h
    rfl
  | permission _ | grant _ => cases h

theorem shownBy_of_render (hpolicy : statement.policy? = some policy)
    (hdescribes : fields.Describes statement) (hr : statement.render.outcome = .ok members) :
    fields.ShownBy statement.kind members := by
  have hfields := describes_policy hdescribes hpolicy
  have hbody := body?_of_policy? hpolicy
  obtain ⟨hown, hgiven⟩ := shownIn_of_render hbody hr
  rw [actsByDefault_iff hbody, hasAction_eq hfields.body, Bool.or_eq_false_iff] at hown hgiven
  have hsides (side : PrincipalSide) := has_side_iff hfields (showsSide_render hpolicy hr side)
  by_cases hdefault : statement.kind = .trust ∧
      (fields.isSet "action" = false ∧ fields.isSet "notaction" = false) ∧
      (members.has "Principal" = true ∨ members.has "NotPrincipal" = true)
  · obtain ⟨_, -, hshown⟩ := hgiven hdefault
    obtain ⟨haction, hcontent⟩ := has_content_of_shownIn hfields.body hshown
    exact ⟨hcontent, iff_of_true haction (.inr ⟨hdefault.1, hdefault.2.1.2, hdefault.2.2⟩), hsides⟩
  · obtain ⟨haction, hcontent⟩ := has_content_of_shownIn hfields.body (hown hdefault)
    refine ⟨hcontent, ?_, hsides⟩
    rw [haction, ← isSet_eq_list hfields.body.action]
    constructor
    · exact .inl
    · rintro (hset | ⟨hkind, hnotAction, hshows⟩)
      · exact hset
      · exact Bool.of_not_eq_false fun hunset =>
          hdefault ⟨hkind, ⟨hunset, hnotAction⟩, hshows⟩

-- ---------------------------------------------------------------------------
-- Groups of fields
-- ---------------------------------------------------------------------------

theorem resolve_require {schema : Schema} :
    ((schema.require group).resolve context raw).outcome = .ok fields ↔
      (schema.resolve context raw).outcome = .ok fields ∧ Schema.anySet fields group = true := by
  simp only [Schema.resolve_ok, Schema.require, List.forall_mem_append, List.forall_mem_singleton]
  constructor
  · rintro ⟨members, hraw, hretired, hforbidden, hread, ⟨hrequired, hgroup⟩, hconflicts⟩
    exact ⟨⟨members, hraw, hretired, hforbidden, hread, hrequired, hconflicts⟩, hgroup⟩
  · rintro ⟨⟨members, hraw, hretired, hforbidden, hread, hrequired, hconflicts⟩, hgroup⟩
    exact ⟨members, hraw, hretired, hforbidden, hread, ⟨hrequired, hgroup⟩, hconflicts⟩

theorem isSet_of_namesNobody (h : fields.NamesNobody key) : fields.isSet key.shorthand = true := by
  obtain ⟨entries, hget, -⟩ := h
  simp [FieldSet.isSet, hget]

theorem shows_of_required (hkind : kind.schema = .resourcePolicy)
    (hfields : (kind.schema.resolve context raw).outcome = .ok fields)
    (hset : Schema.anySet fields [.principal, .notPrincipal] = true)
    (hshown : fields.ShownBy kind members) :
    (members.has "Principal" = true ∨ members.has "NotPrincipal" = true) ↔
      ∀ side : PrincipalSide, ¬fields.NamesNobody side.key := by
  have hsides := hshown.principals
  obtain ⟨_, -, -, -, -, -, hconflicts⟩ := Schema.resolve_ok.1 hfields
  have hgroup : [FieldKey.principal, .notPrincipal] ∈ kind.schema.conflicts := by
    simp [hkind, Schema.resourcePolicy, Schema.conflict]
  have hone := found_pair.1 (hconflicts _ hgroup)
  constructor
  · rintro (hhas | hhas) side hnobody
    · obtain ⟨hown, hsomebody⟩ := (hsides .principal).1 hhas
      cases side with
      | principal => exact hsomebody hnobody
      | notPrincipal => exact hone.elim (· hown) (· (isSet_of_namesNobody hnobody))
    · obtain ⟨hown, hsomebody⟩ := (hsides .notPrincipal).1 hhas
      cases side with
      | principal => exact hone.elim (· (isSet_of_namesNobody hnobody)) (· hown)
      | notPrincipal => exact hsomebody hnobody
  · intro hnobody
    rcases anySet_pair.1 hset with hprincipal | hnotPrincipal
    · exact .inl ((hsides .principal).2 ⟨hprincipal, hnobody .principal⟩)
    · exact .inr ((hsides .notPrincipal).2 ⟨hnotPrincipal, hnobody .notPrincipal⟩)

theorem resolve_of_readFields {raw : Entries Json} (hkind : kind.schema = .resourcePolicy)
    (hread : (Schema.readFields context raw kind.schema.fields .empty).outcome = .ok fields) :
    (kind.schema.resolve context (.obj raw)).outcome =
      kind.schema.checkConflicts fields >>= fun _ => .ok fields := by
  have hretired : kind.schema.checkDeprecated raw = .ok () := hkind ▸ rfl
  have hforbidden : kind.schema.checkForbidden raw = .ok () := hkind ▸ rfl
  have hrequired : kind.schema.checkRequired fields = .ok () := hkind ▸ rfl
  rw [Schema.outcome_resolve, hretired, hforbidden, hread]
  show kind.schema.checkRequired fields >>= _ = _
  rw [hrequired]
  rfl

theorem isSet_of_conflict {raw : Entries Json} (hkind : kind.schema = .resourcePolicy)
    (hread : (Schema.readFields context raw kind.schema.fields .empty).outcome = .ok fields)
    (h : (kind.schema.resolve context (.obj raw)).outcome =
      .error (.conflictingFields group found)) : ∀ field ∈ found, fields.isSet field = true := by
  rw [resolve_of_readFields hkind hread, Schema.checkConflicts] at h
  split at h
  · cases h
  · cases h
    exact fun field hfield => (List.mem_filter.1 hfield).2

/-- A field that is set has a value that names something, or principals that name nobody. -/
theorem namesNobody_of_isSet {schema : Schema} {spec : FieldSpec} {raw : Entries Json}
    (hn : (schema.fields.map (·.key.shorthand)).Nodup)
    (hread : (Schema.readFields context raw schema.fields .empty).outcome = .ok fields)
    (hspec : spec ∈ schema.fields)
    (hvalue : (Schema.fieldValue? context raw spec).outcome = .ok (some value))
    (hnothing : value.NamesNothing) (hset : fields.isSet spec.key.shorthand = true) :
    fields.NamesNobody spec.key := by
  obtain ⟨taken, htaken, hget⟩ := Schema.exists_value_of_readFields hn hread hspec
  obtain rfl := Except.ok.inj (hvalue.symm.trans htaken)
  rw [FieldSet.isSet, hget] at hset
  cases value with
  | list contents =>
    obtain rfl : contents = [] := hnothing
    cases hset
  | principals entries =>
    refine ⟨entries, ?_, hnothing⟩
    obtain ⟨kept, hkept⟩ := Option.isSome_iff_exists.1 hset
    obtain ⟨heq, -⟩ := Option.filter_eq_some_iff.1 hkept
    rw [hget, hkept, heq]
  | text _ | mapping _ => exact absurd hnothing id

/-- Members that a statement of a policy shows are those of the fields that are set, and the action
that a trust statement is given. Only where a field is set to principals that name nobody is it not
shown, though it suffices where principals are required and stands in a conflict. -/
theorem setFields_shown (hkind : kind = .resourcePolicy ∨ kind = .trust) (context : Context)
    (raw : Json) :
    (∀ fields statement members, (kind.schema.resolve context raw).outcome = .ok fields →
      Statement.ofFields kind fields = .ok statement → statement.render.outcome = .ok members →
      fields.ShownBy kind members) ∧
    (∀ statement members,
      (compileWith (kind.schema.require [.principal, .notPrincipal]) kind context raw).outcome =
        .ok statement → statement.render.outcome = .ok members →
      ∃ fields, (kind.schema.resolve context raw).outcome = .ok fields ∧
        ((members.has "Principal" = true ∨ members.has "NotPrincipal" = true) ↔
          ∀ side : PrincipalSide, ¬fields.NamesNobody side.key)) ∧
    ∀ members fields group found, raw = .obj members →
      (Schema.readFields context members kind.schema.fields .empty).outcome = .ok fields →
      (kind.schema.resolve context raw).outcome = .error (.conflictingFields group found) →
      ∀ spec ∈ kind.schema.fields, ∀ value,
        (Schema.fieldValue? context members spec).outcome = .ok (some value) →
        value.NamesNothing → ¬fields.NamesNobody spec.key → spec.key.shorthand ∉ found := by
  have hschema : kind.schema = .resourcePolicy := by rcases hkind with rfl | rfl <;> rfl
  have hshown : ∀ fields statement members, (kind.schema.resolve context raw).outcome = .ok fields →
      Statement.ofFields kind fields = .ok statement → statement.render.outcome = .ok members →
      fields.ShownBy kind members := by
    intro fields statement members hfields hbuilt hr
    obtain ⟨rfl, hdescribes⟩ := describes_of_ofFields hfields hbuilt
    obtain ⟨policy, hpolicy⟩ : ∃ policy, statement.policy? = some policy := by
      cases statement <;> simp_all [Statement.kind, Statement.policy?]
    exact shownBy_of_render hpolicy hdescribes hr
  refine ⟨hshown, fun statement members hcompile hr => ?_, ?_⟩
  · simp only [compileWith, Traced.outcome_bind, Traced.outcome_lift, bind_ok] at hcompile
    obtain ⟨fields, hrequired, hbuilt⟩ := hcompile
    obtain ⟨hfields, hset⟩ := resolve_require.1 hrequired
    exact ⟨fields, hfields,
      shows_of_required hschema hfields hset (hshown fields _ members hfields hbuilt hr)⟩
  · rintro members fields group found rfl hread hconflict spec hspec value hvalue hnothing hsomebody
      hfound
    have hset := isSet_of_conflict hschema hread hconflict _ hfound
    exact hsomebody (namesNobody_of_isSet (shorthands_nodup kind) hread hspec hvalue hnothing hset)

/-- Of two principals one names nobody, and no action is set. -/
theorem setFields_shown_default_action :
    let context : Context := .app
    let raw : Json := .obj [("action", .arr []), ("notprincipal", .arr []),
      ("principal", .arr [.obj [("AWS", .arr [])], .obj [("iam", .str "root")]])]
    ∃ fields statement members,
      (StatementKind.trust.schema.resolve context raw).outcome = .ok fields ∧
      Statement.ofFields .trust fields = .ok statement ∧ statement.render.outcome = .ok members ∧
      fields.ShownBy .trust members ∧ fields.isSet "action" = false ∧
      members.has "Action" = true ∧ members.has "NotPrincipal" = false := by
  intro context raw
  obtain ⟨fields, hfields, statement, hbuilt, members, hr, haction, hshown, hnotPrincipal⟩ :
      ∃ fields, (StatementKind.trust.schema.resolve context raw).outcome = .ok fields ∧
      ∃ statement, Statement.ofFields .trust fields = .ok statement ∧
      ∃ members, statement.render.outcome = .ok members ∧ fields.isSet "action" = false ∧
        members.has "Action" = true ∧ members.has "NotPrincipal" = false :=
    ⟨_, rfl, _, rfl, _, rfl, rfl, rfl, rfl⟩
  exact ⟨fields, statement, members, hfields, hbuilt, hr,
    (setFields_shown (.inr rfl) context raw).1 fields statement members hfields hbuilt hr,
    haction, hshown, hnotPrincipal⟩

/-- A principal without identifiers suffices where principals are required, though none are shown,
and conflicts with another. -/
theorem setFields_shown_nobody :
    let context : Context := .app
    let nobody : Json := .obj [("AWS", .arr [])]
    let schema := StatementKind.resourcePolicy.schema.require [.principal, .notPrincipal]
    let raw : Json :=
      .obj [("action", .str "s3:*"), ("principal", nobody), ("resource", .str "*")]
    (∃ fields, (StatementKind.resourcePolicy.schema.resolve context raw).outcome = .ok fields ∧
      fields.isSet "principal" = true) ∧
    (∃ statement members,
      (compileWith schema .resourcePolicy context raw).outcome = .ok statement ∧
      statement.render.outcome = .ok members ∧ members.has "Principal" = false ∧
      members.has "NotPrincipal" = false) ∧
    (StatementKind.resourcePolicy.schema.resolve context
      (.obj [("notprincipal", .str "*"), ("principal", nobody)])).outcome = .error
        (.conflictingFields ["principal", "notprincipal"] ["principal", "notprincipal"]) := by
  intro context nobody schema raw
  have hall : ((FieldKind.resources none).resolve context "resource" (.str "*")).outcome =
      .ok (.list ["*"]) :=
    FieldKind.resolve_resources_of_parts (.cons rfl .nil) (ascending_singleton _).symm
  have hvalues : StatementKind.resourcePolicy.schema.Values context
      [("action", .str "s3:*"), ("principal", nobody), ("resource", .str "*")]
      [none, none, some (.list ["s3:*"]), none, some (.list ["*"]), none, none, none,
        some (.principals [.mapping ⟨none, none, none⟩]), none] :=
    .cons rfl <| .cons rfl <| .cons rfl <| .cons rfl <|
    .cons (Schema.fieldValue?_of_shorthand rfl rfl hall) <| .cons rfl <| .cons rfl <| .cons rfl <|
    .cons rfl <| .cons rfl .nil
  have hrequired : schema.Values context _ _ := hvalues
  have hcompile := outcome_compileWith schema .resourcePolicy context raw
  rw [hrequired.outcome_resolve] at hcompile
  exact ⟨⟨_, hvalues.outcome_resolve, rfl⟩, ⟨_, _, hcompile, rfl, rfl, rfl⟩, rfl⟩

end

end AccessPolicy
