import AccessPolicy.Proofs.Success
import AccessPolicy.Schema

/-!
# What a schema accepts

`Schema.resolve_ok`: which raw statements a schema resolves. `Schema.readFields_get?`: what the
fields are then, given that no two of them have one shorthand.
-/

namespace AccessPolicy

-- ---------------------------------------------------------------------------
-- Values of fields
-- ---------------------------------------------------------------------------

def FieldKind.Has : FieldKind → FieldValue → Prop
  | .text, .text _ => True
  | .choice choices, .text content => content ∈ choices
  | .strings, .list _ => True
  | .resources _, .list _ => True
  | .mapping, .mapping _ => True
  | .principals, .principals _ => True
  | _, _ => False

theorem FieldKind.accept_has {kind : FieldKind} (h : kind.accept field value = .ok taken) :
    kind.Has taken := by
  cases kind with
  | text =>
    cases value <;> simp only [accept, Except.ok.injEq, reduceCtorEq] at h <;> subst h <;> trivial
  | choice choices =>
    cases value with
    | str content =>
      simp only [accept] at h
      split at h
      · next hmem =>
        obtain rfl := Except.ok.inj h
        exact hmem
      · cases h
    | _ => cases h
  | mapping =>
    cases value <;> simp only [accept, Except.ok.injEq, reduceCtorEq] at h
    subst h
    trivial
  | strings | resources _ | principals =>
    simp only [accept, map_ok] at h
    obtain ⟨_, -, rfl⟩ := h
    trivial

theorem FieldKind.resolve_has {kind : FieldKind}
    (h : (kind.resolve context field value).outcome = .ok taken) : kind.Has taken := by
  cases kind with
  | resources only =>
    simp only [resolve, Traced.outcome_bind, bind_ok] at h
    obtain ⟨arns, -, h⟩ := h
    obtain rfl := Except.ok.inj h
    trivial
  | principals =>
    simp only [resolve, Traced.outcome_bind, bind_ok] at h
    obtain ⟨entries, -, h⟩ := h
    obtain rfl := Except.ok.inj h
    trivial
  | text | choice _ | strings | mapping => exact accept_has h

theorem FieldKind.outcome_resolve_resources (context : Context) (field : String) (value : Json)
    (only : Option (List Service)) :
    ((FieldKind.resources only).resolve context field value).outcome =
      (Reference.resolveEntries context field only value.entries).map .list := by
  simp only [resolve, resolveResources, Traced.outcome_bind, Traced.outcome_lift,
    Traced.outcome_pure, Traced.outcome_emit]
  cases Reference.resolveEntries context field only value.entries <;> rfl

theorem FieldKind.outcome_resolve_principals (context : Context) (field : String) (value : Json) :
    (FieldKind.principals.resolve context field value).outcome =
      (PrincipalEntry.resolve context field value).outcome.map .principals := by
  simp only [resolve, Traced.outcome_bind]
  cases (PrincipalEntry.resolve context field value).outcome <;> rfl

theorem FieldKey.mem_spellings {key : FieldKey} :
    name ∈ key.spellings ↔ name = key.shorthand ∨ name = key.canonical := by
  unfold spellings
  split
  · next heq => simp [← heq]
  · simp

namespace Schema

variable {schema : Schema} {context : Context} {raw : Entries Json} {fields result : FieldSet}

theorem fieldValue?_has {spec : FieldSpec}
    (h : (fieldValue? context raw spec).outcome = .ok (some taken)) : spec.kind.Has taken := by
  unfold fieldValue? at h
  dsimp only at h
  split at h
  · cases h
  · simp only [Traced.outcome_bind, Traced.outcome_lift, Traced.outcome_pure, bind_ok] at h
    obtain ⟨_, haccept, heq⟩ := h
    cases heq
    exact FieldKind.accept_has haccept
  · simp only [Traced.outcome_bind, Traced.outcome_pure, bind_ok] at h
    obtain ⟨_, hresolve, heq⟩ := h
    cases heq
    exact FieldKind.resolve_has hresolve
  · split at h
    · simp only [Traced.outcome_bind, Traced.outcome_pure, bind_ok] at h
      obtain ⟨_, hresolve, heq⟩ := h
      cases heq
      exact FieldKind.resolve_has hresolve
    · cases h

theorem fieldValue?_canonical (context : Context) (spec : FieldSpec)
    (hshort : present? raw spec.key.shorthand = none)
    (hlong : present? raw spec.key.canonical = some value) :
    (fieldValue? context raw spec).outcome =
      (spec.kind.accept spec.key.canonical value).map some := by
  unfold fieldValue?
  simp only [hshort, hlong, Traced.outcome_bind, Traced.outcome_lift]
  cases spec.kind.accept spec.key.canonical value <;> rfl

theorem fieldValue?_shorthand (context : Context) (spec : FieldSpec)
    (hshort : present? raw spec.key.shorthand = some value)
    (hlong : present? raw spec.key.canonical = none) :
    (fieldValue? context raw spec).outcome =
      (spec.kind.resolve context spec.key.shorthand value).outcome.map some := by
  unfold fieldValue?
  simp only [hshort, hlong, Traced.outcome_bind]
  cases (spec.kind.resolve context spec.key.shorthand value).outcome <;> rfl

theorem fieldValue?_both (context : Context) {spec : FieldSpec}
    (hshort : present? raw spec.key.shorthand = some short)
    (hlong : present? raw spec.key.canonical = some long)
    (hne : spec.key.shorthand ≠ spec.key.canonical) :
    (fieldValue? context raw spec).outcome = .error (.bothSpellings spec.key.shorthand
      spec.key.canonical short.compact long.compact) := by
  unfold fieldValue?
  simp only [hshort, hlong, if_neg hne]
  rfl

theorem fieldValue?_of_canonical {spec : FieldSpec}
    (hshort : present? raw spec.key.shorthand = none)
    (hlong : present? raw spec.key.canonical = some value)
    (haccept : spec.kind.accept spec.key.canonical value = .ok taken) :
    (fieldValue? context raw spec).outcome = .ok (some taken) := by
  rw [fieldValue?_canonical context spec hshort hlong, haccept]
  rfl

theorem fieldValue?_of_shorthand {spec : FieldSpec}
    (hshort : present? raw spec.key.shorthand = some value)
    (hlong : present? raw spec.key.canonical = none)
    (hresolve : (spec.kind.resolve context spec.key.shorthand value).outcome = .ok taken) :
    (fieldValue? context raw spec).outcome = .ok (some taken) := by
  rw [fieldValue?_shorthand context spec hshort hlong, hresolve]
  rfl

theorem fieldValue?_of_absent {spec : FieldSpec} (hshort : present? raw spec.key.shorthand = none)
    (hlong : present? raw spec.key.canonical = none) :
    (fieldValue? context raw spec).outcome = .ok none := by
  unfold fieldValue?
  simp only [hshort, hlong]
  rfl

-- ---------------------------------------------------------------------------
-- Sets of fields
-- ---------------------------------------------------------------------------

/-- What a field is set to by a value: nothing by a value that names nothing. -/
def effective (value : Option FieldValue) : Option FieldValue :=
  value.filter fun value => !value.isEmpty

theorem get?_setField {field : String} : (setField fields field value).get? name =
    if field = name then (effective value).or (fields.get? name) else fields.get? name := by
  cases value with
  | none => simp [setField, effective]
  | some value =>
    cases hempty : value.isEmpty <;> simp [setField, effective, Option.filter_some, hempty]

theorem readFields_get? {specs : List FieldSpec}
    (hn : (specs.map (·.key.shorthand)).Nodup)
    (h : (readFields context raw specs fields).outcome = .ok result) :
    (∀ name ∉ specs.map (·.key.shorthand), result.get? name = fields.get? name) ∧
      ∀ spec ∈ specs, ∃ value, (fieldValue? context raw spec).outcome = .ok value ∧
        result.get? spec.key.shorthand =
          (effective value).or (fields.get? spec.key.shorthand) := by
  induction specs generalizing fields with
  | nil =>
    simp only [readFields, Traced.outcome_pure, Except.ok.injEq] at h
    simp [h]
  | cons spec rest ih =>
    obtain ⟨hfresh, hrest⟩ := List.nodup_cons.1 hn
    simp only [readFields, Traced.outcome_bind, bind_ok] at h
    obtain ⟨value, hvalue, h⟩ := h
    obtain ⟨hothers, hset⟩ := ih hrest h
    constructor
    · intro name hname
      obtain ⟨hne, hname⟩ := not_or.1 (mt List.mem_cons.2 hname)
      rw [hothers name hname, get?_setField, if_neg (Ne.symm hne)]
    · intro later hlater
      -- shorthands differ, so no field changes what an earlier one has set
      rcases List.mem_cons.1 hlater with rfl | hlater
      · exact ⟨value, hvalue, by rw [hothers _ hfresh, get?_setField, if_pos rfl]⟩
      · obtain ⟨taken, htaken, hget⟩ := hset later hlater
        refine ⟨taken, htaken, ?_⟩
        have hne : spec.key.shorthand ≠ later.key.shorthand := fun heq =>
          hfresh (List.mem_map.2 ⟨later, hlater, heq.symm⟩)
        rw [hget, get?_setField, if_neg hne]

/-- Fields are read one by one, and what is read of one does not depend on the others. -/
theorem outcome_readFields (specs : List FieldSpec) (fields : FieldSet) :
    (readFields context raw specs fields).outcome =
      (specs.mapM fun spec => (fieldValue? context raw spec).outcome).map fun values =>
        (specs.zip values).foldl (fun fields (spec, value) =>
          setField fields spec.key.shorthand value) fields := by
  induction specs generalizing fields with
  | nil => rfl
  | cons spec rest ih =>
    rw [List.mapM_cons, readFields, Traced.outcome_bind]
    cases (fieldValue? context raw spec).outcome with
    | error _ => rfl
    | ok value =>
      show (readFields context raw rest _).outcome = _
      rw [ih]
      cases rest.mapM fun spec => (fieldValue? context raw spec).outcome <;> rfl

theorem exists_readFields {specs : List FieldSpec} (fields : FieldSet)
    (h : ∀ spec ∈ specs, ∃ value, (fieldValue? context raw spec).outcome = .ok value) :
    ∃ result, (readFields context raw specs fields).outcome = .ok result := by
  obtain ⟨values, hvalues⟩ := exists_forall₂_iff.2 h
  rw [outcome_readFields, mapM_ok.2 hvalues]
  exact ⟨_, rfl⟩

theorem readFields_error {specs : List FieldSpec} :
    (readFields context raw specs fields).outcome = .error error ↔
      ∃ before spec after, specs = before ++ spec :: after ∧
        (∀ earlier ∈ before, ∃ value, (fieldValue? context raw earlier).outcome = .ok value) ∧
        (fieldValue? context raw spec).outcome = .error error := by
  rw [outcome_readFields, map_error, mapM_error]

theorem exists_value_of_readFields {specs : List FieldSpec} {spec : FieldSpec}
    (hn : (specs.map (·.key.shorthand)).Nodup)
    (h : (readFields context raw specs .empty).outcome = .ok fields) (hspec : spec ∈ specs) :
    ∃ value, (fieldValue? context raw spec).outcome = .ok value ∧
      fields.get? spec.key.shorthand = effective value := by
  obtain ⟨value, hvalue, hget⟩ := (readFields_get? hn h).2 spec hspec
  exact ⟨value, hvalue, hget.trans Option.or_none⟩

/-- The fields of a set have the kinds that a schema declares, and none of them is empty. -/
def Holds (schema : Schema) (fields : FieldSet) : Prop :=
  ∀ spec ∈ schema.fields, ∀ value, fields.get? spec.key.shorthand = some value →
    spec.kind.Has value ∧ value.isEmpty = false

theorem holds_of_readFields (hn : (schema.fields.map (·.key.shorthand)).Nodup)
    (h : (readFields context raw schema.fields .empty).outcome = .ok fields) :
    schema.Holds fields := by
  intro spec hspec value hget
  obtain ⟨taken, htaken, hset⟩ := exists_value_of_readFields hn h hspec
  rw [hset, effective, Option.filter_eq_some_iff] at hget
  obtain ⟨rfl, hnonempty⟩ := hget
  exact ⟨fieldValue?_has htaken, by simpa using hnonempty⟩

-- ---------------------------------------------------------------------------
-- Checks
-- ---------------------------------------------------------------------------

def refuseFirst (refused : α → Bool) (cause : α → PolicyError) (items : List α) :
    Except PolicyError Unit :=
  (items.find? refused).elim (.ok ()) fun item => .error (cause item)

section
variable {refused other : α → Bool} {cause : α → PolicyError} {items : List α}

theorem refuseFirst_ok :
    refuseFirst refused cause items = .ok () ↔ ∀ item ∈ items, refused item = false := by
  have hnone : items.find? refused = none ↔ ∀ item ∈ items, refused item = false := by
    simp [List.find?_eq_none]
  rw [← hnone, refuseFirst]
  cases items.find? refused <;> simp

theorem refuseFirst_error : refuseFirst refused cause items = .error error ↔
    ∃ before item after, items = before ++ item :: after ∧
      (∀ earlier ∈ before, refused earlier = false) ∧ refused item = true ∧
        cause item = error := by
  rw [refuseFirst]
  constructor
  · intro herror
    cases hfind : items.find? refused with
    | none =>
      rw [hfind] at herror
      cases herror
    | some item =>
      rw [hfind] at herror
      obtain ⟨hitem, before, after, hsplit, hbefore⟩ := List.find?_eq_some_iff_append.1 hfind
      exact ⟨before, item, after, hsplit, by simpa using hbefore, hitem, Except.error.inj herror⟩
  · rintro ⟨before, item, after, hsplit, hbefore, hitem, rfl⟩
    have hfind : items.find? refused = some item :=
      List.find?_eq_some_iff_append.2 ⟨hitem, before, after, hsplit, by simpa using hbefore⟩
    rw [hfind]
    rfl

theorem refuseFirst_congr (h : ∀ item ∈ items, refused item = other item) :
    refuseFirst refused cause items = refuseFirst other cause items := by
  rw [refuseFirst, refuseFirst, ← List.head?_filter, ← List.head?_filter, List.filter_congr h]

end

theorem checkDeprecated_eq : schema.checkDeprecated raw =
    refuseFirst (fun retired => raw.has retired.1)
      (fun retired => .deprecatedKey retired.1 retired.2) schema.deprecated := by
  rw [refuseFirst, ← List.head?_filter, checkDeprecated]
  split
  · next h =>
    have hnone : (schema.deprecated.filter fun retired => raw.has retired.1) = [] := h
    rw [hnone]
    rfl
  · next key reason rest h =>
    have hsome : (schema.deprecated.filter fun retired => raw.has retired.1) =
        (key, reason) :: rest := h
    rw [hsome]
    rfl

theorem checkForbidden_eq : schema.checkForbidden raw =
    refuseFirst (fun key => key.spellings.any fun name => raw.has name)
      (fun key => .forbiddenField key.shorthand key.canonical) schema.forbidden := by
  rw [refuseFirst, checkForbidden]
  cases schema.forbidden.find? fun key => key.spellings.any fun name => raw.has name <;> rfl

theorem checkConflicts_eq : schema.checkConflicts fields =
    refuseFirst (fun group => 1 < (found fields group).length)
      (fun group => .conflictingFields (group.map FieldKey.shorthand) (found fields group))
      schema.conflicts := by
  rw [refuseFirst, checkConflicts]
  cases schema.conflicts.find? fun group => 1 < (found fields group).length <;> rfl

theorem checkDeprecated_ok : schema.checkDeprecated raw = .ok () ↔
    ∀ retired ∈ schema.deprecated, raw.has retired.1 = false := by
  rw [checkDeprecated_eq, refuseFirst_ok]

theorem checkForbidden_ok : schema.checkForbidden raw = .ok () ↔
    ∀ key ∈ schema.forbidden, ∀ name ∈ key.spellings, raw.has name = false := by
  simp only [checkForbidden_eq, refuseFirst_ok, List.any_eq_false, Bool.not_eq_true]

theorem checkRequired_ok : schema.checkRequired fields = .ok () ↔
    ∀ group ∈ schema.required, anySet fields group = true := by
  have hnone : ((schema.required.filter fun group => !anySet fields group).map groupName) = [] ↔
      ∀ group ∈ schema.required, anySet fields group = true := by
    simp [List.filter_eq_nil_iff]
  rw [← hnone, checkRequired]
  cases (schema.required.filter fun group => !anySet fields group).map groupName <;> simp

theorem checkConflicts_ok : schema.checkConflicts fields = .ok () ↔
    ∀ group ∈ schema.conflicts, (found fields group).length ≤ 1 := by
  simp only [checkConflicts_eq, refuseFirst_ok, decide_eq_false_iff_not, Nat.not_lt]

/-- The outcome of resolving is that of its steps, one after the other; what is reported has no part
in it. -/
theorem outcome_resolve (schema : Schema) (context : Context) (members : Entries Json) :
    (schema.resolve context (.obj members)).outcome = (do
      schema.checkDeprecated members
      schema.checkForbidden members
      let fields ← (readFields context members schema.fields .empty).outcome
      schema.checkRequired fields
      schema.checkConflicts fields
      .ok fields) := by
  obtain ⟨_, hreported⟩ :=
    Traced.each_emit_ok Event.unknownKeyIgnored (schema.unknownKeys members)
  simp only [resolve, resolveMembers, Traced.outcome_bind, Traced.outcome_lift,
    Traced.outcome_pure, Traced.outcome_emit, hreported]
  rfl

/-- `values` are those of the fields of a schema, in their order. -/
def Values (schema : Schema) (context : Context) (raw : Entries Json)
    (values : List (Option FieldValue)) : Prop :=
  List.Forall₂ (fun spec value => (fieldValue? context raw spec).outcome = .ok value)
    schema.fields values

/-- Once the value of each field is known, what is left are the checks. -/
theorem Values.outcome_resolve (h : schema.Values context raw values) :
    (schema.resolve context (.obj raw)).outcome = (do
      schema.checkDeprecated raw
      schema.checkForbidden raw
      let fields := (schema.fields.zip values).foldl (fun fields (spec, value) =>
        setField fields spec.key.shorthand value) .empty
      schema.checkRequired fields
      schema.checkConflicts fields
      .ok fields) := by
  rw [Schema.outcome_resolve, outcome_readFields, mapM_ok.2 h]
  rfl

theorem resolve_ok {raw : Json} :
    (schema.resolve context raw).outcome = .ok fields ↔ ∃ members, raw = .obj members ∧
      (∀ retired ∈ schema.deprecated, Entries.has retired.1 members = false) ∧
      (∀ key ∈ schema.forbidden, ∀ name ∈ key.spellings, Entries.has name members = false) ∧
      (readFields context members schema.fields .empty).outcome = .ok fields ∧
      (∀ group ∈ schema.required, anySet fields group = true) ∧
      ∀ group ∈ schema.conflicts, (found fields group).length ≤ 1 := by
  cases raw with
  | obj members =>
    simp only [outcome_resolve, bind_ok, Except.ok.injEq, Json.obj.injEq]
    constructor
    · rintro ⟨⟨⟩, hretired, ⟨⟩, hforbidden, _, hread, ⟨⟩, hrequired, ⟨⟩, hconflicts, rfl⟩
      exact ⟨members, rfl, checkDeprecated_ok.1 hretired, checkForbidden_ok.1 hforbidden, hread,
        checkRequired_ok.1 hrequired, checkConflicts_ok.1 hconflicts⟩
    · rintro ⟨_, rfl, hretired, hforbidden, hread, hrequired, hconflicts⟩
      exact ⟨(), checkDeprecated_ok.2 hretired, (), checkForbidden_ok.2 hforbidden, fields, hread,
        (), checkRequired_ok.2 hrequired, (), checkConflicts_ok.2 hconflicts, rfl⟩
  | _ => exact iff_of_false (fun h => nomatch h) fun ⟨_, h, _⟩ => nomatch h

end Schema

end AccessPolicy
