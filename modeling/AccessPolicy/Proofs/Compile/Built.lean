import AccessPolicy.Proofs.Compile.Admissible

/-!
# Statements that are built

The builder of a kind of statements takes one field after the other. It fails just if one of them
has a value that it does not take (`demands_take`), and the schema of the kind never leaves such a
value or a field that is not asked for (`compile_built`).
-/

namespace AccessPolicy

/-- The values that are taken for a field of some kind. One string is taken where a list is asked
for, and the one choice that there is lies between effects. -/
def FieldKind.Takes : FieldKind → FieldValue → Prop
  | .text, .text _ => True
  | .choice _, .text content => ∃ effect, Effect.ofTag? content = some effect
  | .strings, .list _ | .strings, .text _ | .resources _, .list _ | .resources _, .text _ => True
  | .mapping, .mapping _ => True
  | .principals, .principals _ => True
  | _, _ => False

/-- Taking fields out of a set succeeds just if every field that is asked for has a value that is
taken for its kind, or none. These fields are gone then. -/
def Demands (action : Take α) (asked : List (String × FieldKind)) : Prop :=
  ∀ fields : FieldSet,
    ((∃ result, (fields.take action).1 = .ok result) ↔
      ∀ field ∈ asked, ∀ value, fields.get? field.1 = some value → field.2.Takes value) ∧
    ∀ result left, fields.take action = (.ok result, left) →
      left = (asked.map (·.1)).foldl Table.erase fields

-- ---------------------------------------------------------------------------
-- Taking several fields
-- ---------------------------------------------------------------------------

section
variable {action : Take α} {next : α → Take β} {fields left : FieldSet}

theorem demands_pure (value : α) : Demands (pure value : Take α) [] := by
  intro fields
  refine ⟨iff_of_true ⟨value, rfl⟩ (List.forall_mem_nil _), ?_⟩
  rintro result left ⟨⟩
  rfl

/-- A field that was not asked for is left as it was. -/
theorem Demands.bind {asked later : List (String × FieldKind)} (h : Demands action asked)
    (hnext : ∀ value, Demands (next value) later)
    (hapart : ∀ field ∈ later, field.1 ∉ asked.map (·.1)) :
    Demands (action >>= next) (asked ++ later) := by
  intro fields
  obtain ⟨hok, hleft⟩ := h fields
  cases htake : fields.take action with
  | mk outcome left =>
    cases outcome with
    | error error =>
      have hfails : ¬∃ result, (fields.take action).1 = .ok result := by simp [htake]
      rw [take_bind_eq, htake]
      refine ⟨iff_of_false (fun ⟨_, h⟩ => nomatch h) fun hall => hfails (hok.2 ?_),
        fun _ _ h => nomatch h⟩
      exact fun field hfield => hall field (List.mem_append_left _ hfield)
    | ok value =>
      obtain rfl := hleft value left htake
      obtain ⟨hokNext, hleftNext⟩ := hnext value ((asked.map (·.1)).foldl Table.erase fields)
      rw [take_bind htake, hokNext, List.forall_mem_append]
      have hasked := hok.1 ⟨value, by rw [htake]⟩
      have hkept (field : String × FieldKind) (hfield : field ∈ later) :=
        (get?_foldl_erase fields (asked.map (·.1)) field.1).trans (if_neg (hapart field hfield))
      constructor
      · constructor
        · refine fun hlater => ⟨hasked, fun field hfield found hget => ?_⟩
          exact hlater field hfield found ((hkept field hfield).trans hget)
        · refine fun hall field hfield found hget => ?_
          exact hall.2 field hfield found ((hkept field hfield).symm.trans hget)
      · intro result left hresult
        rw [hleftNext result left hresult, List.map_append, List.foldl_append]

theorem Demands.cons {field : String × FieldKind} {later : List (String × FieldKind)}
    (h : Demands action [field]) (hnext : ∀ value, Demands (next value) later)
    (hapart : field.1 ∉ later.map (·.1)) : Demands (action >>= next) (field :: later) :=
  h.bind hnext fun other hother heq => by
    obtain hsame : other.1 = field.1 := List.mem_singleton.1 heq
    exact hapart (hsame ▸ List.mem_map_of_mem hother)

theorem Demands.map {asked : List (String × FieldKind)} (h : Demands action asked) (f : α → β) :
    Demands (action >>= fun value => pure (f value)) asked := by
  have hall := h.bind (fun value => demands_pure (f value)) (List.forall_mem_nil _)
  rwa [List.append_nil] at hall

end

-- ---------------------------------------------------------------------------
-- Taking one field
-- ---------------------------------------------------------------------------

theorem demands_value {next : Option FieldValue → Take α} {kind : FieldKind} (field : String)
    (hnone : ∃ result, next none = pure result)
    (hsome : ∀ value, (kind.Takes value ∧ ∃ result, next (some value) = pure result) ∨
      ¬kind.Takes value ∧ ∃ error, next (some value) = throw error) :
    Demands (Take.value field >>= next) [(field, kind)] := by
  intro fields
  rw [take_bind take_value, List.forall_mem_singleton]
  cases hget : fields.get? field with
  | none =>
    obtain ⟨result, hresult⟩ := hnone
    rw [hresult, take_pure]
    refine ⟨iff_of_true ⟨result, rfl⟩ fun _ h => (nomatch h), ?_⟩
    rintro _ _ ⟨⟩
    rfl
  | some value =>
    rcases hsome value with ⟨hvalue, result, hresult⟩ | ⟨hvalue, error, herror⟩
    · rw [hresult, take_pure]
      refine ⟨iff_of_true ⟨result, rfl⟩ fun _ h => Option.some.inj h ▸ hvalue, ?_⟩
      rintro _ _ ⟨⟩
      rfl
    · rw [herror]
      exact ⟨iff_of_false (fun ⟨_, h⟩ => nomatch h) fun h => hvalue (h value rfl),
        fun _ _ h => nomatch h⟩

theorem demands_text (field : String) : Demands (Take.text field) [(field, .text)] := by
  refine demands_value field ⟨_, rfl⟩ fun value => ?_
  cases value with
  | text content => exact .inl ⟨trivial, _, rfl⟩
  | _ => exact .inr ⟨id, _, rfl⟩

theorem demands_list {kind : FieldKind} (field : String)
    (hkind : kind = .strings ∨ ∃ only, kind = .resources only) :
    Demands (Take.list field) [(field, kind)] := by
  refine demands_value field ⟨_, rfl⟩ fun value => ?_
  rcases hkind with rfl | ⟨only, rfl⟩ <;> cases value with
  | list contents | text content => exact .inl ⟨trivial, _, rfl⟩
  | _ => exact .inr ⟨id, _, rfl⟩

theorem demands_mapping (field : String) : Demands (Take.mapping field) [(field, .mapping)] := by
  refine demands_value field ⟨_, rfl⟩ fun value => ?_
  cases value with
  | mapping members => exact .inl ⟨trivial, _, rfl⟩
  | _ => exact .inr ⟨id, _, rfl⟩

theorem demands_principals (field : String) :
    Demands (Take.principals field) [(field, .principals)] := by
  refine demands_value field ⟨_, rfl⟩ fun value => ?_
  cases value with
  | principals entries => exact .inl ⟨trivial, _, rfl⟩
  | _ => exact .inr ⟨id, _, rfl⟩

theorem demands_effect (field : String) (choices : List String) :
    Demands (Take.effect field) [(field, .choice choices)] := by
  rw [Take.effect, Take.text, bind_assoc]
  refine demands_value field ⟨_, rfl⟩ fun value => ?_
  cases value with
  | text content =>
    cases heffect : Effect.ofTag? content with
    | some effect =>
      refine .inl ⟨⟨effect, heffect⟩, some effect, ?_⟩
      simp [heffect]
    | none =>
      have hrefused : ¬(FieldKind.choice choices).Takes (.text content) := by
        rintro ⟨effect, h⟩
        cases heffect.symm.trans h
      refine .inr ⟨hrefused, .invalidValue field ("'" ++ content ++ "' is not Allow or Deny"), ?_⟩
      simp [heffect]
  | _ => exact .inr ⟨id, _, rfl⟩

-- ---------------------------------------------------------------------------
-- Taking statements
-- ---------------------------------------------------------------------------

def Schema.asked (schema : Schema) : List (String × FieldKind) :=
  schema.fields.map fun spec => (spec.key.shorthand, spec.kind)

theorem demands_body : Demands PolicyBody.take Schema.policy.asked := by
  refine (demands_text "sid").cons (fun _ => ?_) (by decide)
  refine (demands_effect "effect" _).cons (fun _ => ?_) (by decide)
  refine (demands_list "action" (.inl rfl)).cons (fun _ => ?_) (by decide)
  refine (demands_list "notaction" (.inl rfl)).cons (fun _ => ?_) (by decide)
  refine (demands_list "resource" (.inr ⟨none, rfl⟩)).cons (fun _ => ?_) (by decide)
  refine (demands_list "notresource" (.inr ⟨none, rfl⟩)).cons (fun _ => ?_) (by decide)
  refine (demands_mapping "condition").cons (fun _ => ?_) (by decide)
  refine (demands_mapping "notcondition").cons (fun _ => ?_) (by decide)
  exact demands_pure _

theorem demands_policy : Demands PolicyStatement.take Schema.resourcePolicy.asked := by
  show Demands _ (Schema.policy.asked ++
    [("principal", .principals), ("notprincipal", .principals)])
  refine demands_body.bind (fun _ => ?_) (by decide)
  refine (demands_principals "principal").cons (fun _ => ?_) (by decide)
  refine (demands_principals "notprincipal").cons (fun _ => ?_) (by decide)
  exact demands_pure _

theorem demands_grant : Demands Grant.take Schema.grant.asked := by
  refine (demands_list "grantee" (.inr ⟨_, rfl⟩)).cons (fun _ => ?_) (by decide)
  refine (demands_list "retiree" (.inr ⟨_, rfl⟩)).cons (fun _ => ?_) (by decide)
  refine (demands_list "operations" (.inl rfl)).cons (fun _ => ?_) (by decide)
  refine (demands_mapping "constraints").cons (fun _ => ?_) (by decide)
  refine (demands_list "grant_tokens" (.inl rfl)).cons (fun _ => ?_) (by decide)
  exact demands_pure _

theorem demands_take (kind : StatementKind) :
    Demands (Statement.take kind) kind.schema.asked := by
  cases kind with
  | permission => exact demands_body.map _
  | resourcePolicy | trust => exact demands_policy.map _
  | grant => exact demands_grant.map _

-- ---------------------------------------------------------------------------
-- Fields that a schema resolves
-- ---------------------------------------------------------------------------

theorem choices_eq_effects (kind : StatementKind) : ∀ spec ∈ kind.schema.fields, ∀ choices,
    spec.kind = .choice choices → choices = Effect.all.map Effect.tag := by
  cases kind <;>
    simp +contextual [StatementKind.schema, Schema.permission, Schema.resourcePolicy,
      Schema.policy, Schema.grant, Schema.field, Schema.conflict, Schema.require, Schema.forbid,
      Schema.empty, eq_comm]

theorem FieldKind.takes_of_has {kind : FieldKind}
    (hchoices : ∀ choices, kind = .choice choices → choices = Effect.all.map Effect.tag)
    (h : kind.Has value) : kind.Takes value := by
  cases kind with
  | choice choices =>
    obtain rfl := hchoices choices rfl
    obtain ⟨effect, rfl⟩ := effect_has value h
    exact ⟨effect, by cases effect <;> rfl⟩
  | _ => cases value <;> first | exact trivial | exact absurd h id

section
variable {kind : StatementKind} {context : Context} {raw : Json} {fields : FieldSet}

theorem asked_of_resolve (h : (kind.schema.resolve context raw).outcome = .ok fields) :
    (∀ field ∈ kind.schema.asked, ∀ value, fields.get? field.1 = some value →
      field.2.Takes value) ∧
    ∀ name ∉ kind.schema.asked.map (·.1), fields.get? name = none := by
  obtain ⟨members, rfl, -, -, hread, -⟩ := Schema.resolve_ok.1 h
  have hholds := Schema.holds_of_readFields (shorthands_nodup kind) hread
  refine ⟨List.forall_mem_map.2 fun spec hspec value hget => ?_, fun name hname => ?_⟩
  · have hhas := (hholds spec hspec value hget).1
    exact FieldKind.takes_of_has (choices_eq_effects kind spec hspec) hhas
  · rw [Schema.asked, List.map_map] at hname
    exact (Schema.readFields_get? (shorthands_nodup kind) hread).1 name hname

theorem take_resolved (h : (kind.schema.resolve context raw).outcome = .ok fields) :
    ∃ statement, fields.take (Statement.take kind) = (.ok statement, .empty) := by
  obtain ⟨hasked, hothers⟩ := asked_of_resolve h
  obtain ⟨hok, hleft⟩ := demands_take kind fields
  obtain ⟨statement, hstatement⟩ := hok.2 hasked
  have htaken := hleft statement _ (Prod.ext hstatement rfl)
  refine ⟨statement, Prod.ext hstatement (htaken.trans ?_)⟩
  apply Table.eq_of_get?_eq
  intro name
  rw [get?_foldl_erase]
  split
  · rfl
  · next hname => exact hothers name hname

end

/-- A builder fails just if a field that it asks for has a value that it does not take. What the
schema of its kind resolves has no such field, and all of it is taken. So a statement compiles just
if its schema resolves it, and is refused for the same reason otherwise. -/
theorem compile_built (kind : StatementKind) (context : Context) (raw : Json) :
    (∀ fields : FieldSet, (∃ statement, Statement.ofFields kind fields = .ok statement) ↔
      ∀ spec ∈ kind.schema.fields, ∀ value, fields.get? spec.key.shorthand = some value →
        spec.kind.Takes value) ∧
    (∀ fields, (kind.schema.resolve context raw).outcome = .ok fields →
      (∀ spec ∈ kind.schema.fields, ∀ value, fields.get? spec.key.shorthand = some value →
        spec.kind.Takes value) ∧
      ∃ statement, fields.take (Statement.take kind) = (.ok statement, .empty) ∧
        (compile kind context raw).outcome = .ok statement) ∧
    ∀ error, (compile kind context raw).outcome = .error error ↔
      (kind.schema.resolve context raw).outcome = .error error := by
  refine ⟨fun fields => ?_, fun fields hfields => ?_, fun error => compile_error⟩
  · exact (demands_take kind fields).1.trans List.forall_mem_map
  · obtain ⟨statement, htake⟩ := take_resolved hfields
    obtain ⟨hkind, hdescribes⟩ := describes_of_ofFields hfields (congrArg Prod.fst htake)
    exact ⟨List.forall_mem_map.1 (asked_of_resolve hfields).1, statement, htake,
      compile_ok.2 ⟨fields, hfields, hkind, hdescribes⟩⟩

end AccessPolicy
