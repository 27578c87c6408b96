import AccessPolicy.Compile
import AccessPolicy.Proofs.Schema.Related
import AccessPolicy.Proofs.Statement.Taken

/-!
# Compiled statements are admissible

`compile_ok`: a raw statement compiles just if its schema resolves it, and to the statement that the
fields describe. The checks of the schema come to `Statement.Admissible` (`checks_iff`). A document
is compiled just if all of its statements are (`compileDocument_ok`).
-/

namespace AccessPolicy

/-- No field stands beside its negation. -/
def PolicyBody.Unambiguous (body : PolicyBody) : Prop :=
  (body.action = [] ∨ body.notAction = []) ∧ (body.resource = [] ∨ body.notResource = [])

/-- What the schema of its kind demands of a statement. -/
def Statement.Admissible : Statement → Prop
  | .permission body => body.Unambiguous ∧ (body.action ≠ [] ∨ body.notAction ≠ []) ∧
    body.effect ≠ none ∧ (body.resource ≠ [] ∨ body.notResource ≠ [])
  | .resourcePolicy policy | .trust policy =>
    policy.body.Unambiguous ∧ (policy.principal = [] ∨ policy.notPrincipal = [])
  | .grant _ => True

-- ---------------------------------------------------------------------------
-- Checks of schemas
-- ---------------------------------------------------------------------------

section
variable {fields : FieldSet} {first second : FieldKey}

theorem isSet_list (h : fields.get? field = FieldValue.ofList? contents) :
    fields.isSet field = true ↔ contents ≠ [] := by
  rw [FieldSet.isSet, h, FieldValue.ofList?]
  split <;> simp [*]

theorem not_isSet_list (h : fields.get? field = FieldValue.ofList? contents) :
    ¬fields.isSet field = true ↔ contents = [] := by
  rw [isSet_list h, ne_eq, not_not]

theorem not_isSet_principals (h : fields.get? field = FieldValue.ofPrincipals? entries) :
    ¬fields.isSet field = true ↔ entries = [] := by
  rw [FieldSet.isSet, h, FieldValue.ofPrincipals?]
  split <;> simp [*]

theorem anySet_single : Schema.anySet fields [first] = true ↔
    fields.isSet first.shorthand = true := by
  simp [Schema.anySet]

theorem anySet_pair : Schema.anySet fields [first, second] = true ↔
    fields.isSet first.shorthand = true ∨ fields.isSet second.shorthand = true := by
  simp [Schema.anySet]

theorem found_pair : (Schema.found fields [first, second]).length ≤ 1 ↔
    ¬fields.isSet first.shorthand = true ∨ ¬fields.isSet second.shorthand = true := by
  simp only [Schema.found, List.map_cons, List.map_nil, List.filter_cons, List.filter_nil]
  split <;> split <;> simp [*]

theorem conflicts_policy (h : fields.DescribesBody body) :
    (∀ group ∈ Schema.policy.conflicts, (Schema.found fields group).length ≤ 1) ↔
      body.Unambiguous := by
  have hgroups : Schema.policy.conflicts =
      [[.action, .notAction], [.resource, .notResource]] := rfl
  rw [hgroups, List.forall_mem_cons, List.forall_mem_singleton, found_pair, found_pair]
  exact and_congr (or_congr (not_isSet_list h.action) (not_isSet_list h.notAction))
    (or_congr (not_isSet_list h.resource) (not_isSet_list h.notResource))

theorem conflicts_resourcePolicy (h : fields.DescribesPolicy policy) :
    (∀ group ∈ Schema.resourcePolicy.conflicts, (Schema.found fields group).length ≤ 1) ↔
      policy.body.Unambiguous ∧ (policy.principal = [] ∨ policy.notPrincipal = []) := by
  have hgroups : Schema.resourcePolicy.conflicts =
      Schema.policy.conflicts ++ [[.principal, .notPrincipal]] := rfl
  rw [hgroups, List.forall_mem_append, List.forall_mem_singleton, conflicts_policy h.body,
    found_pair]
  exact and_congr_right'
    (or_congr (not_isSet_principals h.principal) (not_isSet_principals h.notPrincipal))

theorem required_permission (h : fields.DescribesBody body) :
    (∀ group ∈ Schema.permission.required, Schema.anySet fields group = true) ↔
      (body.action ≠ [] ∨ body.notAction ≠ []) ∧ body.effect ≠ none ∧
        (body.resource ≠ [] ∨ body.notResource ≠ []) := by
  have hgroups : Schema.permission.required =
      [[.action, .notAction], [.effect], [.resource, .notResource]] := rfl
  have heffect : fields.isSet "effect" = true ↔ body.effect ≠ none := by
    rw [FieldSet.isSet, h.effect]
    cases body.effect <;> simp
  rw [hgroups, List.forall_mem_cons, List.forall_mem_cons, List.forall_mem_singleton, anySet_pair,
    anySet_single, anySet_pair]
  exact and_congr (or_congr (isSet_list h.action) (isSet_list h.notAction))
    (and_congr heffect (or_congr (isSet_list h.resource) (isSet_list h.notResource)))

theorem checks_iff (h : fields.Describes statement) :
    (∀ group ∈ statement.kind.schema.required, Schema.anySet fields group = true) ∧
      (∀ group ∈ statement.kind.schema.conflicts, (Schema.found fields group).length ≤ 1) ↔
    statement.Admissible := by
  cases statement with
  | permission body => exact (and_congr (required_permission h) (conflicts_policy h)).trans and_comm
  | resourcePolicy policy | trust policy =>
    exact (and_iff_right (List.forall_mem_nil _)).trans (conflicts_resourcePolicy h)
  | grant contents =>
    exact iff_of_true ⟨List.forall_mem_nil _, List.forall_mem_nil _⟩ trivial

end

-- ---------------------------------------------------------------------------
-- Compiling
-- ---------------------------------------------------------------------------

theorem shorthands_nodup (kind : StatementKind) :
    (kind.schema.fields.map (·.key.shorthand)).Nodup := by
  cases kind <;> decide

theorem spellings_apart (kind : StatementKind) : ∀ key ∈ kind.schema.fields.map (·.key),
    ∀ spec ∈ kind.schema.fields, key.shorthand ≠ spec.key.canonical ∧
      key.canonical ≠ spec.key.shorthand ∧ (spec.key ≠ key →
        key.shorthand ≠ spec.key.shorthand ∧ key.canonical ≠ spec.key.canonical) := by
  cases kind <;> decide

theorem shorthand_ne_canonical_of_mem {kind : StatementKind} {spec : FieldSpec}
    (hspec : spec ∈ kind.schema.fields) :
    spec.key.shorthand ≠ spec.key.canonical :=
  (spellings_apart kind spec.key (List.mem_map_of_mem hspec) spec hspec).1

theorem describes_of_resolve (h : (kind.schema.resolve context raw).outcome = .ok fields) :
    ∃ statement : Statement, statement.kind = kind ∧ fields.Describes statement := by
  obtain ⟨members, rfl, -, -, hread, -⟩ := Schema.resolve_ok.1 h
  exact exists_describes (Schema.holds_of_readFields (shorthands_nodup kind) hread)

theorem describes_of_ofFields (h : (kind.schema.resolve context raw).outcome = .ok fields)
    (hbuilt : Statement.ofFields kind fields = .ok statement) :
    statement.kind = kind ∧ fields.Describes statement := by
  obtain ⟨described, hkind, hdescribes⟩ := describes_of_resolve h
  have hsame := ofFields_describes hdescribes
  rw [hkind, hbuilt] at hsame
  obtain rfl := Except.ok.inj hsame
  exact ⟨hkind, hdescribes⟩

theorem outcome_compileWith (schema : Schema) (kind : StatementKind) (context : Context)
    (raw : Json) : (compileWith schema kind context raw).outcome =
      (schema.resolve context raw).outcome >>= Statement.ofFields kind := by
  simp only [compileWith, Traced.outcome_bind, Traced.outcome_lift]

theorem outcome_compile (kind : StatementKind) (context : Context) (raw : Json) :
    (compile kind context raw).outcome =
      (kind.schema.resolve context raw).outcome >>= Statement.ofFields kind := by
  rw [← outcome_compileWith, compile]
  simp only [Traced.outcome_bind, Traced.outcome_pure, Traced.outcome_emit]
  cases (compileWith kind.schema kind context raw).outcome <;> rfl

theorem compile_of_resolve (h : (kind.schema.resolve context raw).outcome = .ok fields)
    (hbuilt : Statement.ofFields kind fields = .ok statement) :
    (compile kind context raw).outcome = .ok statement := by
  rw [outcome_compile, h]
  exact hbuilt

theorem compile_ok : (compile kind context raw).outcome = .ok statement ↔
    ∃ fields, (kind.schema.resolve context raw).outcome = .ok fields ∧ statement.kind = kind ∧
      fields.Describes statement := by
  rw [outcome_compile, bind_ok]
  constructor
  · rintro ⟨fields, hfields, hbuilt⟩
    exact ⟨fields, hfields, describes_of_ofFields hfields hbuilt⟩
  · rintro ⟨fields, hfields, hkind, hdescribes⟩
    have hbuilt := ofFields_describes hdescribes
    rw [hkind] at hbuilt
    exact ⟨fields, hfields, hbuilt⟩

/-- Whatever a schema resolves is built, so only the schema refuses. -/
theorem compile_error : (compile kind context raw).outcome = .error error ↔
    (kind.schema.resolve context raw).outcome = .error error := by
  cases hfields : (kind.schema.resolve context raw).outcome with
  | error cause =>
    have hfailed : (compile kind context raw).outcome = .error cause := by
      rw [outcome_compile, hfields]
      rfl
    simp [hfailed]
  | ok fields =>
    obtain ⟨statement, hkind, hdescribes⟩ := describes_of_resolve hfields
    rw [compile_ok.2 ⟨fields, hfields, hkind, hdescribes⟩]
    simp

theorem fields_of_compile {members : Entries Json}
    (h : (compile kind context (.obj members)).outcome = .ok statement) :
    ∃ fields : FieldSet, fields.Describes statement ∧ ∀ spec ∈ kind.schema.fields, ∃ value,
      (Schema.fieldValue? context members spec).outcome = .ok value ∧
        fields.get? spec.key.shorthand = Schema.effective value := by
  obtain ⟨fields, hfields, -, hdescribes⟩ := compile_ok.1 h
  obtain ⟨_, heq, -, -, hread, -⟩ := Schema.resolve_ok.1 hfields
  obtain rfl := Json.obj.inj heq
  exact ⟨fields, hdescribes, fun spec =>
    Schema.exists_value_of_readFields (shorthands_nodup kind) hread⟩

theorem resolved_of_compile {members : Entries Json}
    (h : (compile kind context (.obj members)).outcome = .ok statement) :
    ∃ fields : FieldSet, fields.Describes statement ∧ ∀ spec ∈ kind.schema.fields, ∀ value,
      Schema.present? members spec.key.shorthand = some value → ∃ taken,
        (spec.kind.resolve context spec.key.shorthand value).outcome = .ok taken ∧
          fields.get? spec.key.shorthand = Schema.effective (some taken) := by
  obtain ⟨fields, hdescribes, hread⟩ := fields_of_compile h
  refine ⟨fields, hdescribes, fun spec hspec value hshort => ?_⟩
  obtain ⟨_, hvalue, hget⟩ := hread spec hspec
  cases hlong : Schema.present? members spec.key.canonical with
  | none =>
    rw [Schema.fieldValue?_shorthand context spec hshort hlong, map_ok] at hvalue
    obtain ⟨taken, htaken, rfl⟩ := hvalue
    exact ⟨taken, htaken, hget⟩
  | some long =>
    simp only [Schema.fieldValue?_both context hshort hlong
      (shorthand_ne_canonical_of_mem hspec), reduceCtorEq] at hvalue

theorem resolve_of_compile {members : Entries Json} {spec : FieldSpec}
    (h : (compile kind context (.obj members)).outcome = .ok statement)
    (hspec : spec ∈ kind.schema.fields)
    (hshort : Schema.present? members spec.key.shorthand = some value) :
    ∃ taken, (spec.kind.resolve context spec.key.shorthand value).outcome = .ok taken := by
  obtain ⟨_, -, hresolved⟩ := resolved_of_compile h
  obtain ⟨taken, htaken, -⟩ := hresolved spec hspec value hshort
  exact ⟨taken, htaken⟩

theorem compile_admissible (h : (compile kind context raw).outcome = .ok statement) :
    statement.kind = kind ∧ statement.Admissible := by
  obtain ⟨fields, hfields, hkind, hdescribes⟩ := compile_ok.1 h
  obtain ⟨members, -, -, -, -, hrequired, hconflicts⟩ := Schema.resolve_ok.1 hfields
  rw [← hkind] at hrequired hconflicts
  exact ⟨hkind, (checks_iff hdescribes).1 ⟨hrequired, hconflicts⟩⟩

theorem compile_of_readsAs {members others : Entries Json}
    (hhas : ∀ name ∈ kind.schema.objectionable, others.has name = members.has name)
    (hread : ∀ spec ∈ kind.schema.fields, Schema.ReadsAs Eq context members others spec)
    (h : (compile kind context (.obj members)).outcome = .ok statement) :
    (compile kind context (.obj others)).outcome = .ok statement := by
  obtain ⟨fields, hfields, hstatement⟩ := compile_ok.1 h
  obtain ⟨related, hrelated, hsets⟩ :=
    Schema.follows_resolve (fun _ _ => congrArg FieldValue.isEmpty) hhas hread fields hfields
  obtain rfl := FieldSet.eq_of_related_eq hsets
  exact compile_ok.2 ⟨fields, hrelated, hstatement⟩

theorem compileDocument_ok : (compileDocument kind context raws).outcome = .ok document ↔
    List.Forall₂ (fun raw statement => (compile kind context raw).outcome = .ok statement) raws
      document.statements := by
  simp only [compileDocument, Traced.outcome_bind, Traced.outcome_pure, bind_ok, Traced.each_ok,
    Except.ok.injEq]
  constructor
  · rintro ⟨statements, hstatements, rfl⟩
    exact hstatements
  · intro h
    exact ⟨document.statements, h, rfl⟩

end AccessPolicy
