import AccessPolicy.Proofs.Compile.Admissible
import AccessPolicy.Proofs.Principal.Merged
import AccessPolicy.Proofs.Statement.Rendered

/-!
# Compiling by the values of fields

An admissible statement whose fields a mapping gives is what the mapping compiles to
(`compile_of_gives`). A mapping that carries a value, with the canonical spelling of a field and
nothing under the shorthand, gives it in every context.
-/

namespace AccessPolicy

/-- A field is read of a mapping, and set to a value unless that is absent. -/
def Gives (context : Context) (raw : Entries Json) (spec : FieldSpec) (value : Option FieldValue) :
    Prop :=
  ∃ taken, (Schema.fieldValue? context raw spec).outcome = .ok taken ∧
    Schema.effective taken = value

/-- A member that is accepted as the value of a field. Absent members are absent values. -/
def Encodes (field : String) (kind : FieldKind) (member : Option Json) (value : Option FieldValue) :
    Prop :=
  member = none ∧ value = none ∨ ∃ json taken, member = some json ∧ value = some taken ∧
    json.isNull = false ∧ kind.accept field json = .ok taken ∧ taken.isEmpty = false

/-- The members of a mapping give a field a value by its canonical spelling. -/
def Carries (raw : Entries Json) (spec : FieldSpec) (value : Option FieldValue) : Prop :=
  raw.find? spec.key.shorthand = none ∧
    Encodes spec.key.canonical spec.kind (raw.find? spec.key.canonical) value

-- ---------------------------------------------------------------------------
-- Members for each kind of fields
-- ---------------------------------------------------------------------------

section
variable {field : String}

theorem encodes_text (content : Option String) :
    Encodes field .text (content.map .str) (content.map .text) := by
  cases content with
  | none => exact .inl ⟨rfl, rfl⟩
  | some content => exact .inr ⟨_, _, rfl, rfl, rfl, rfl, rfl⟩

theorem encodes_effect (effect : Option Effect) :
    Encodes field (.choice (Effect.all.map Effect.tag)) (effect.map fun effect => .str effect.tag)
      (effect.map fun effect => .text effect.tag) := by
  cases effect with
  | none => exact .inl ⟨rfl, rfl⟩
  | some effect =>
    refine .inr ⟨_, _, rfl, rfl, rfl, ?_, rfl⟩
    cases effect <;> rfl

theorem encodes_list (texts : List String)
    (haccept : ∀ value, kind.accept field value = (value.stringList field).map .list) :
    Encodes field kind ((ListShape.canonical? texts).map ListShape.toJson)
      (FieldValue.ofList? (ascending texts)) := by
  cases hshape : ListShape.canonical? texts with
  | none =>
    rw [ListShape.canonical?_eq_none_iff.1 hshape, ascending_nil]
    exact .inl ⟨rfl, rfl⟩
  | some shape =>
    have hne : ascending texts ≠ [] := by
      intro hnil
      rw [ascending_eq_nil_iff] at hnil
      rw [hnil] at hshape
      cases hshape
    refine .inr ⟨_, _, rfl, if_neg hne, shape.isNull_toJson, ?_, List.isEmpty_eq_false_iff.2 hne⟩
    rw [haccept, ListShape.stringList_toJson, ListShape.toList_canonical? hshape]
    rfl

theorem encodes_mapping (members : Option (Entries Json)) :
    Encodes field .mapping (members.map .obj) (members.map .mapping) := by
  cases members with
  | none => exact .inl ⟨rfl, rfl⟩
  | some members => exact .inr ⟨_, _, rfl, rfl, rfl, rfl, rfl⟩

theorem encodes_principals {entry : Option PrincipalEntry}
    (h : ∀ principal ∈ entry, PrincipalEntry.Merged principal) :
    Encodes field .principals (entry.map PrincipalEntry.toJson)
      (FieldValue.ofPrincipals? entry.toList) := by
  cases entry with
  | none => exact .inl ⟨rfl, rfl⟩
  | some entry =>
    refine .inr ⟨_, .principals [entry], rfl, rfl, entry.isNull_toJson, ?_, rfl⟩
    rw [FieldKind.accept, PrincipalEntry.ofLiterals_toJson field (h entry rfl)]
    rfl

end

-- ---------------------------------------------------------------------------
-- Reading what a mapping carries
-- ---------------------------------------------------------------------------

section
variable {raw : Entries Json} {context : Context}

theorem gives_of_carries {spec : FieldSpec} (h : Carries raw spec value) :
    Gives context raw spec value := by
  obtain ⟨hshort, hencodes⟩ := h
  have hshort : Schema.present? raw spec.key.shorthand = none := by
    rw [Schema.present?, hshort]
    rfl
  rcases hencodes with ⟨hlong, rfl⟩ | ⟨json, taken, hlong, rfl, hnull, haccept, hempty⟩
  · refine ⟨none, Schema.fieldValue?_of_absent hshort ?_, rfl⟩
    rw [Schema.present?, hlong]
    rfl
  · refine ⟨some taken, Schema.fieldValue?_of_canonical hshort ?_ haccept, ?_⟩
    · rw [Schema.present?, hlong, Option.filter_some, hnull]
      rfl
    · rw [Schema.effective, Option.filter_some, hempty]
      rfl

theorem exists_readFields_of_gives {schema : Schema}
    {values : List (FieldSpec × Option FieldValue)} (hspecs : values.map (·.1) = schema.fields)
    (hn : (schema.fields.map (·.key.shorthand)).Nodup)
    (h : ∀ entry ∈ values, Gives context raw entry.1 entry.2) :
    ∃ fields, (Schema.readFields context raw schema.fields .empty).outcome = .ok fields ∧
      ∀ entry ∈ values, fields.get? entry.1.key.shorthand = entry.2 := by
  have hread : ∀ spec ∈ schema.fields, ∃ value,
      (Schema.fieldValue? context raw spec).outcome = .ok value := by
    rw [← hspecs, List.forall_mem_map]
    exact fun entry hentry => (h entry hentry).imp fun _ => And.left
  obtain ⟨fields, hfields⟩ := Schema.exists_readFields .empty hread
  refine ⟨fields, hfields, fun entry hentry => ?_⟩
  have hspec : entry.1 ∈ schema.fields := hspecs ▸ List.mem_map_of_mem hentry
  obtain ⟨value, hvalue, hget⟩ := Schema.exists_value_of_readFields hn hfields hspec
  obtain ⟨taken, htaken, heffective⟩ := h entry hentry
  obtain rfl := Except.ok.inj (hvalue.symm.trans htaken)
  rw [hget, heffective]

end

-- ---------------------------------------------------------------------------
-- Compiling what a mapping gives
-- ---------------------------------------------------------------------------

def PolicyBody.fieldValues (body : PolicyBody) : List (FieldSpec × Option FieldValue) :=
  [(⟨.sid, .text⟩, body.sid.map .text),
    (⟨.effect, .choice (Effect.all.map Effect.tag)⟩,
      body.effect.map fun effect => .text effect.tag),
    (⟨.action, .strings⟩, FieldValue.ofList? body.action),
    (⟨.notAction, .strings⟩, FieldValue.ofList? body.notAction),
    (⟨.resource, .resources none⟩, FieldValue.ofList? body.resource),
    (⟨.notResource, .resources none⟩, FieldValue.ofList? body.notResource),
    (⟨.condition, .mapping⟩, body.condition.map .mapping),
    (⟨.notCondition, .mapping⟩, body.notCondition.map .mapping)]

def PolicyStatement.fieldValues (policy : PolicyStatement) :
    List (FieldSpec × Option FieldValue) :=
  policy.body.fieldValues ++
    [(⟨.principal, .principals⟩, FieldValue.ofPrincipals? policy.principal),
      (⟨.notPrincipal, .principals⟩, FieldValue.ofPrincipals? policy.notPrincipal)]

section
variable {fields : FieldSet} {raw : Entries Json}

theorem describesBody_of_fieldValues
    (h : ∀ entry ∈ body.fieldValues, fields.get? entry.1.key.shorthand = entry.2) :
    fields.DescribesBody body := by
  simp only [PolicyBody.fieldValues, List.forall_mem_cons] at h
  obtain ⟨hsid, heffect, haction, hnotAction, hresource, hnotResource, hcondition, hnotCondition,
    -⟩ := h
  exact ⟨hsid, heffect, haction, hnotAction, hresource, hnotResource, hcondition, hnotCondition⟩

theorem describesPolicy_of_fieldValues
    (h : ∀ entry ∈ policy.fieldValues, fields.get? entry.1.key.shorthand = entry.2) :
    fields.DescribesPolicy policy := by
  rw [PolicyStatement.fieldValues, List.forall_mem_append] at h
  simp only [List.forall_mem_cons] at h
  exact ⟨describesBody_of_fieldValues h.1, h.2.1, h.2.2.1⟩

/-- `values` are the fields of the schema, each with the value that the mapping gives. -/
theorem compile_of_gives {values : List (FieldSpec × Option FieldValue)}
    (statement : Statement) (hspecs : values.map (·.1) = statement.kind.schema.fields)
    (hdescribes : ∀ fields : FieldSet,
      (∀ entry ∈ values, fields.get? entry.1.key.shorthand = entry.2) → fields.Describes statement)
    (hdeprecated : ∀ retired ∈ statement.kind.schema.deprecated,
      Entries.has retired.1 raw = false)
    (hforbidden : ∀ key ∈ statement.kind.schema.forbidden, ∀ name ∈ key.spellings,
      Entries.has name raw = false)
    (ha : statement.Admissible) (h : ∀ entry ∈ values, Gives context raw entry.1 entry.2) :
    (compile statement.kind context (.obj raw)).outcome = .ok statement := by
  obtain ⟨fields, hfields, hget⟩ :=
    exists_readFields_of_gives hspecs (shorthands_nodup statement.kind) h
  have hdescribed := hdescribes fields hget
  obtain ⟨hrequired, hconflicts⟩ := (checks_iff hdescribed).2 ha
  exact compile_ok.2 ⟨fields, Schema.resolve_ok.2 ⟨raw, rfl, hdeprecated, hforbidden, hfields,
    hrequired, hconflicts⟩, rfl, hdescribed⟩

theorem compile_permission_of_carries (context : Context)
    (ha : (Statement.permission body).Admissible)
    (hforbidden : ∀ key ∈ Schema.permission.forbidden, ∀ name ∈ key.spellings,
      Entries.has name raw = false)
    (h : ∀ entry ∈ body.fieldValues, Carries raw entry.1 entry.2) :
    (compile .permission context (.obj raw)).outcome = .ok (.permission body) := by
  have hspecs : body.fieldValues.map (·.1) = Schema.permission.fields := rfl
  exact compile_of_gives (.permission body) hspecs (fun _ => describesBody_of_fieldValues)
    (List.forall_mem_nil _) hforbidden ha fun entry hentry => gives_of_carries (h entry hentry)

theorem compile_policy_of_gives (hkind : statement.kind.schema = .resourcePolicy)
    (hdescribed : ∀ fields : FieldSet, fields.DescribesPolicy policy → fields.Describes statement)
    (ha : statement.Admissible)
    (h : ∀ entry ∈ policy.fieldValues, Gives context raw entry.1 entry.2) :
    (compile statement.kind context (.obj raw)).outcome = .ok statement := by
  have hspecs : policy.fieldValues.map (·.1) = statement.kind.schema.fields := by
    rw [hkind]
    rfl
  refine compile_of_gives statement hspecs
    (fun fields hget => hdescribed fields (describesPolicy_of_fieldValues hget)) ?_ ?_ ha h
  · rw [hkind]
    exact List.forall_mem_nil _
  · rw [hkind]
    exact List.forall_mem_nil _

theorem compile_policy_of_carries (context : Context)
    (hkind : statement.kind.schema = .resourcePolicy)
    (hdescribed : ∀ fields : FieldSet, fields.DescribesPolicy policy → fields.Describes statement)
    (ha : statement.Admissible) (h : ∀ entry ∈ policy.fieldValues, Carries raw entry.1 entry.2) :
    (compile statement.kind context (.obj raw)).outcome = .ok statement :=
  compile_policy_of_gives hkind hdescribed ha fun entry hentry => gives_of_carries (h entry hentry)

end

end AccessPolicy
