import AccessPolicy.Proofs.Schema.Resolve
import AccessPolicy.Statement

/-!
# Statements and their fields

`FieldSet.Describes` says of a set of fields that they are those of a statement. Every set that
holds what the schema of its kind declares describes one statement (`exists_describes`), and
building from the set gives that statement (`ofFields_describes`).
-/

namespace AccessPolicy

-- ---------------------------------------------------------------------------
-- Single fields
-- ---------------------------------------------------------------------------

def FieldValue.ofList? (contents : List String) : Option FieldValue :=
  if contents = [] then none else some (.list contents)

theorem effective_list (contents : List String) :
    Schema.effective (some (.list contents)) = FieldValue.ofList? contents := by
  cases contents <;> rfl

theorem FieldValue.ofList?_injective (h : ofList? contents = ofList? others) :
    contents = others := by
  cases contents <;> cases others <;> cases h <;> rfl

def FieldValue.ofPrincipals? (entries : List PrincipalEntry) : Option FieldValue :=
  if entries = [] then none else some (.principals entries)

section
variable {fields left : FieldSet} {field : String}

theorem take_pure (value : α) : fields.take (pure value) = (.ok value, fields) := rfl

theorem take_bind_eq (action : Take α) (next : α → Take β) :
    fields.take (action >>= next) = match fields.take action with
      | (.ok value, left) => left.take (next value)
      | (.error error, left) => (.error error, left) := by
  unfold FieldSet.take ExceptT.run StateT.run
  simp only [bind, ExceptT.bind, ExceptT.mk, StateT.bind, ExceptT.bindCont]
  cases action fields with
  | mk outcome left => cases outcome <;> rfl

theorem take_bind {action : Take α} {next : α → Take β}
    (h : fields.take action = (.ok value, left)) :
    fields.take (action >>= next) = left.take (next value) := by
  rw [take_bind_eq, h]

theorem take_value :
    fields.take (Take.value field) = (.ok (fields.get? field), fields.erase field) := rfl

theorem take_text {content : Option String} (h : fields.get? field = content.map .text) :
    fields.take (Take.text field) = (.ok content, fields.erase field) := by
  rw [Take.text, take_bind take_value, h]
  cases content <;> rfl

theorem take_effect {effect : Option Effect}
    (h : fields.get? field = effect.map fun effect => .text effect.tag) :
    fields.take (Take.effect field) = (.ok effect, fields.erase field) := by
  have htext : fields.get? field = (effect.map Effect.tag).map .text := by
    rw [h, Option.map_map]
    rfl
  rw [Take.effect, take_bind (take_text htext)]
  rcases effect with _ | _ | _ <;> rfl

theorem take_list (h : fields.get? field = FieldValue.ofList? contents) :
    fields.take (Take.list field) = (.ok contents, fields.erase field) := by
  rw [Take.list, take_bind take_value, h]
  cases contents <;> rfl

theorem take_mapping {members : Option (Entries Json)}
    (h : fields.get? field = members.map .mapping) :
    fields.take (Take.mapping field) = (.ok members, fields.erase field) := by
  rw [Take.mapping, take_bind take_value, h]
  cases members <;> rfl

theorem take_principals (h : fields.get? field = FieldValue.ofPrincipals? entries) :
    fields.take (Take.principals field) = (.ok entries, fields.erase field) := by
  rw [Take.principals, take_bind take_value, h]
  cases entries <;> rfl

def FieldSet.HoldsKind (fields : FieldSet) (field : String) (kind : FieldKind) : Prop :=
  ∀ value, fields.get? field = some value → kind.Has value ∧ value.isEmpty = false

theorem exists_content {wrap : α → FieldValue}
    (hkind : ∀ value, kind.Has value → ∃ content, value = wrap content)
    (h : fields.HoldsKind field kind) :
    ∃ content : Option α, fields.get? field = content.map wrap := by
  cases hget : fields.get? field with
  | none => exact ⟨none, rfl⟩
  | some value =>
    obtain ⟨content, rfl⟩ := hkind value (h value hget).1
    exact ⟨some content, rfl⟩

theorem text_has (value : FieldValue) (h : FieldKind.text.Has value) :
    ∃ content, value = .text content := by
  cases value with
  | text content => exact ⟨content, rfl⟩
  | _ => exact absurd h id

theorem Effect.eq_of_tag_eq (a b : Effect) (h : a.tag = b.tag) : a = b := by
  revert h
  cases a <;> cases b <;> decide

theorem effect_has (value : FieldValue)
    (h : (FieldKind.choice (Effect.all.map Effect.tag)).Has value) :
    ∃ effect : Effect, value = .text effect.tag := by
  cases value with
  | text content =>
    obtain ⟨effect, -, rfl⟩ := List.mem_map.1 h
    exact ⟨effect, rfl⟩
  | _ => exact absurd h id

theorem strings_has (value : FieldValue) (h : FieldKind.strings.Has value) :
    ∃ contents, value = .list contents := by
  cases value with
  | list contents => exact ⟨contents, rfl⟩
  | _ => exact absurd h id

theorem resources_has (only : Option (List Service)) (value : FieldValue)
    (h : (FieldKind.resources only).Has value) : ∃ contents, value = .list contents := by
  cases value with
  | list contents => exact ⟨contents, rfl⟩
  | _ => exact absurd h id

theorem mapping_has (value : FieldValue) (h : FieldKind.mapping.Has value) :
    ∃ members, value = .mapping members := by
  cases value with
  | mapping members => exact ⟨members, rfl⟩
  | _ => exact absurd h id

theorem principals_has (value : FieldValue) (h : FieldKind.principals.Has value) :
    ∃ entries, value = .principals entries := by
  cases value with
  | principals entries => exact ⟨entries, rfl⟩
  | _ => exact absurd h id

theorem exists_list (hkind : ∀ value, kind.Has value → ∃ contents, value = .list contents)
    (h : fields.HoldsKind field kind) :
    ∃ contents, fields.get? field = FieldValue.ofList? contents := by
  obtain ⟨contents, hget⟩ := exists_content hkind h
  cases contents with
  | none => exact ⟨[], hget⟩
  | some contents =>
    refine ⟨contents, ?_⟩
    have hnonempty := (h _ hget).2
    rw [hget, FieldValue.ofList?, if_neg (List.isEmpty_eq_false_iff.1 hnonempty)]
    rfl

theorem exists_principals (h : fields.HoldsKind field .principals) :
    ∃ entries, fields.get? field = FieldValue.ofPrincipals? entries := by
  obtain ⟨entries, hget⟩ := exists_content principals_has h
  cases entries with
  | none => exact ⟨[], hget⟩
  | some entries =>
    refine ⟨entries, ?_⟩
    have hnonempty := (h _ hget).2
    rw [hget, FieldValue.ofPrincipals?, if_neg (List.isEmpty_eq_false_iff.1 hnonempty)]
    rfl

end

-- ---------------------------------------------------------------------------
-- Whole statements
-- ---------------------------------------------------------------------------

/-- The fields of a set are those of the shared part of a statement. -/
structure FieldSet.DescribesBody (fields : FieldSet) (body : PolicyBody) : Prop where
  sid : fields.get? "sid" = body.sid.map .text
  effect : fields.get? "effect" = body.effect.map fun effect => .text effect.tag
  action : fields.get? "action" = FieldValue.ofList? body.action
  notAction : fields.get? "notaction" = FieldValue.ofList? body.notAction
  resource : fields.get? "resource" = FieldValue.ofList? body.resource
  notResource : fields.get? "notresource" = FieldValue.ofList? body.notResource
  condition : fields.get? "condition" = body.condition.map .mapping
  notCondition : fields.get? "notcondition" = body.notCondition.map .mapping

structure FieldSet.DescribesPolicy (fields : FieldSet) (policy : PolicyStatement) : Prop where
  body : fields.DescribesBody policy.body
  principal : fields.get? "principal" = FieldValue.ofPrincipals? policy.principal
  notPrincipal : fields.get? "notprincipal" = FieldValue.ofPrincipals? policy.notPrincipal

structure FieldSet.DescribesGrant (fields : FieldSet) (contents : Grant) : Prop where
  grantee : fields.get? "grantee" = FieldValue.ofList? contents.grantee
  retiree : fields.get? "retiree" = FieldValue.ofList? contents.retiree
  operations : fields.get? "operations" = FieldValue.ofList? contents.operations
  constraints : fields.get? "constraints" = contents.constraints.map .mapping
  grantTokens : fields.get? "grant_tokens" = FieldValue.ofList? contents.grantTokens

def FieldSet.Describes (fields : FieldSet) : Statement → Prop
  | .permission body => fields.DescribesBody body
  | .resourcePolicy policy => fields.DescribesPolicy policy
  | .trust policy => fields.DescribesPolicy policy
  | .grant contents => fields.DescribesGrant contents

def Statement.body? : Statement → Option PolicyBody
  | .permission body => some body
  | .resourcePolicy policy | .trust policy => some policy.body
  | .grant _ => none

theorem describes_body {fields : FieldSet} (h : fields.Describes statement)
    (hbody : statement.body? = some body) : fields.DescribesBody body := by
  cases statement with
  | permission _ =>
    obtain rfl := Option.some.inj hbody
    exact h
  | resourcePolicy _ | trust _ =>
    obtain rfl := Option.some.inj hbody
    exact h.body
  | grant _ => cases hbody

section
variable {fields : FieldSet}

theorem exists_body (h : Schema.policy.Holds fields) : ∃ body, fields.DescribesBody body := by
  simp only [Schema.Holds, Schema.policy, Schema.field, Schema.conflict, Schema.empty,
    List.nil_append, List.cons_append, List.forall_mem_cons] at h
  obtain ⟨hsid, heffect, haction, hnotAction, hresource, hnotResource, hcondition, hnotCondition,
    -⟩ := h
  obtain ⟨sid, hsid⟩ := exists_content text_has hsid
  obtain ⟨effect, heffect⟩ := exists_content effect_has heffect
  obtain ⟨action, haction⟩ := exists_list strings_has haction
  obtain ⟨notAction, hnotAction⟩ := exists_list strings_has hnotAction
  obtain ⟨resource, hresource⟩ := exists_list (resources_has none) hresource
  obtain ⟨notResource, hnotResource⟩ := exists_list (resources_has none) hnotResource
  obtain ⟨condition, hcondition⟩ := exists_content mapping_has hcondition
  obtain ⟨notCondition, hnotCondition⟩ := exists_content mapping_has hnotCondition
  exact ⟨⟨sid, effect, action, notAction, resource, notResource, condition, notCondition⟩, hsid,
    heffect, haction, hnotAction, hresource, hnotResource, hcondition, hnotCondition⟩

theorem resourcePolicy_fields : Schema.resourcePolicy.fields =
    Schema.policy.fields ++ [⟨.principal, .principals⟩, ⟨.notPrincipal, .principals⟩] := rfl

theorem exists_policy (h : Schema.resourcePolicy.Holds fields) :
    ∃ policy, fields.DescribesPolicy policy := by
  rw [Schema.Holds, resourcePolicy_fields, List.forall_mem_append] at h
  obtain ⟨hbody, hrest⟩ := h
  obtain ⟨body, hbody⟩ := exists_body hbody
  simp only [List.forall_mem_cons] at hrest
  obtain ⟨principal, hprincipal⟩ := exists_principals hrest.1
  obtain ⟨notPrincipal, hnotPrincipal⟩ := exists_principals hrest.2.1
  exact ⟨⟨body, principal, notPrincipal⟩, hbody, hprincipal, hnotPrincipal⟩

theorem exists_grant (h : Schema.grant.Holds fields) :
    ∃ contents, fields.DescribesGrant contents := by
  simp only [Schema.Holds, Schema.grant, Schema.field, Schema.empty, List.nil_append,
    List.cons_append, List.forall_mem_cons] at h
  obtain ⟨hgrantee, hretiree, hoperations, hconstraints, htokens, -⟩ := h
  obtain ⟨grantee, hgrantee⟩ := exists_list (resources_has _) hgrantee
  obtain ⟨retiree, hretiree⟩ := exists_list (resources_has _) hretiree
  obtain ⟨operations, hoperations⟩ := exists_list strings_has hoperations
  obtain ⟨constraints, hconstraints⟩ := exists_content mapping_has hconstraints
  obtain ⟨tokens, htokens⟩ := exists_list strings_has htokens
  exact ⟨⟨grantee, retiree, operations, constraints, tokens⟩, hgrantee, hretiree, hoperations,
    hconstraints, htokens⟩

theorem exists_describes (h : kind.schema.Holds fields) :
    ∃ statement : Statement, statement.kind = kind ∧ fields.Describes statement := by
  cases kind with
  | permission =>
    obtain ⟨body, hbody⟩ := exists_body h
    exact ⟨.permission body, rfl, hbody⟩
  | resourcePolicy =>
    obtain ⟨policy, hpolicy⟩ := exists_policy h
    exact ⟨.resourcePolicy policy, rfl, hpolicy⟩
  | trust =>
    obtain ⟨policy, hpolicy⟩ := exists_policy h
    exact ⟨.trust policy, rfl, hpolicy⟩
  | grant =>
    obtain ⟨contents, hgrant⟩ := exists_grant h
    exact ⟨.grant contents, rfl, hgrant⟩

-- ---------------------------------------------------------------------------
-- Building statements
-- ---------------------------------------------------------------------------

/-- The shorthands of the fields of the shared part, in the order in which they are taken. -/
def bodyFields : List String :=
  ["sid", "effect", "action", "notaction", "resource", "notresource", "condition", "notcondition"]

theorem take_body (h : fields.DescribesBody body) :
    fields.take PolicyBody.take = (.ok body, bodyFields.foldl Table.erase fields) := by
  rw [PolicyBody.take, take_bind (take_text h.sid),
    take_bind (take_effect (by simpa using h.effect)),
    take_bind (take_list (by simpa using h.action)),
    take_bind (take_list (by simpa using h.notAction)),
    take_bind (take_list (by simpa using h.resource)),
    take_bind (take_list (by simpa using h.notResource)),
    take_bind (take_mapping (by simpa using h.condition)),
    take_bind (take_mapping (by simpa using h.notCondition)), take_pure]
  rfl

theorem get?_foldl_erase (fields : FieldSet) (taken : List String) (field : String) :
    (taken.foldl Table.erase fields).get? field =
      if field ∈ taken then none else fields.get? field := by
  induction taken generalizing fields with
  | nil => rfl
  | cons name rest ih =>
    rw [List.foldl_cons, ih, Table.get?_erase]
    by_cases hrest : field ∈ rest <;> simp [hrest, eq_comm]

theorem take_policy (h : fields.DescribesPolicy policy) :
    ∃ left, fields.take PolicyStatement.take = (.ok policy, left) := by
  have hprincipal := (get?_foldl_erase fields bodyFields "principal").trans h.principal
  have hnotPrincipal := (get?_foldl_erase fields bodyFields "notprincipal").trans h.notPrincipal
  refine ⟨((bodyFields.foldl Table.erase fields).erase "principal").erase "notprincipal", ?_⟩
  rw [PolicyStatement.take, take_bind (take_body h.body), take_bind (take_principals hprincipal),
    take_bind (take_principals (by simpa using hnotPrincipal)), take_pure]

theorem take_grant (h : fields.DescribesGrant contents) :
    ∃ left, fields.take Grant.take = (.ok contents, left) := by
  let taken := ["grantee", "retiree", "operations", "constraints", "grant_tokens"]
  refine ⟨taken.foldl Table.erase fields, ?_⟩
  rw [Grant.take, take_bind (take_list h.grantee),
    take_bind (take_list (by simpa using h.retiree)),
    take_bind (take_list (by simpa using h.operations)),
    take_bind (take_mapping (by simpa using h.constraints)),
    take_bind (take_list (by simpa using h.grantTokens)), take_pure]
  rfl

theorem ofFields_describes (h : fields.Describes statement) :
    Statement.ofFields statement.kind fields = .ok statement := by
  rw [Statement.ofFields]
  cases statement with
  | permission body =>
    show (fields.take (PolicyBody.take >>= _)).1 = _
    rw [take_bind (take_body h)]
    rfl
  | resourcePolicy policy | trust policy =>
    obtain ⟨left, htake⟩ := take_policy h
    show (fields.take (PolicyStatement.take >>= _)).1 = _
    rw [take_bind htake]
    rfl
  | grant contents =>
    obtain ⟨left, htake⟩ := take_grant h
    show (fields.take (Grant.take >>= _)).1 = _
    rw [take_bind htake]
    rfl

end

end AccessPolicy
