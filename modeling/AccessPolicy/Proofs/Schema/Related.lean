import AccessPolicy.Proofs.Follows
import AccessPolicy.Proofs.Lookup
import AccessPolicy.Proofs.Schema.Resolve

/-!
# Statements that a schema reads alike

What a schema makes of a statement depends on what is read for its fields, and on whether the keys
that may not occur do. If another statement reads alike, up to a relation of values, it is resolved
as well and to related fields (`follows_resolve`).
-/

namespace AccessPolicy

variable {R : FieldValue → FieldValue → Prop}

-- ---------------------------------------------------------------------------
-- Related sets of fields
-- ---------------------------------------------------------------------------

namespace FieldSet

/-- Sets in which the same fields are set, to related values. -/
def Related (R : FieldValue → FieldValue → Prop) (fields others : FieldSet) : Prop :=
  ∀ name, Option.Rel R (fields.get? name) (others.get? name)

variable {fields others : FieldSet}

theorem Related.isSet_eq (h : fields.Related R others) (name : String) :
    others.isSet name = fields.isSet name := by
  have hname := h name
  rw [isSet, isSet]
  generalize fields.get? name = value, others.get? name = other at hname ⊢
  cases hname <;> rfl

theorem Related.anySet_eq (h : fields.Related R others) (group : List FieldKey) :
    Schema.anySet others group = Schema.anySet fields group := by
  simp only [Schema.anySet, h.isSet_eq]

theorem Related.found_eq (h : fields.Related R others) (group : List FieldKey) :
    Schema.found others group = Schema.found fields group := by
  rw [Schema.found, Schema.found, funext h.isSet_eq]

theorem eq_of_related_eq (h : fields.Related Eq others) : fields = others := by
  apply Table.eq_of_get?_eq
  intro name
  have hname := h name
  generalize fields.get? name = value, others.get? name = other at hname ⊢
  cases hname with
  | none => rfl
  | some heq => exact congrArg some heq

end FieldSet

-- ---------------------------------------------------------------------------
-- Reading and checking
-- ---------------------------------------------------------------------------

namespace Schema

variable {context : Context} {members others : Entries Json}

/-- Whenever a field is read of the first members it is read of the second ones, up to a
relation. -/
def ReadsAs (R : FieldValue → FieldValue → Prop) (context : Context) (members others : Entries Json)
    (spec : FieldSpec) : Prop :=
  Follows (Option.Rel R) (fieldValue? context members spec).outcome
    (fieldValue? context others spec).outcome

theorem readsAs_of_present?_eq {spec : FieldSpec} (hrefl : ∀ value, R value value)
    (hshort : present? others spec.key.shorthand = present? members spec.key.shorthand)
    (hlong : present? others spec.key.canonical = present? members spec.key.canonical) :
    ReadsAs R context members others spec := by
  have hsame : fieldValue? context others spec = fieldValue? context members spec := by
    simp only [fieldValue?, hshort, hlong]
  rw [ReadsAs, hsame]
  apply follows_self
  intro value
  cases value with
  | none => exact .none
  | some value => exact .some (hrefl value)

theorem follows_some {first second : Traced FieldValue}
    (h : Follows R first.outcome second.outcome) :
    Follows (Option.Rel R) (first >>= fun value => pure (some value)).outcome
      (second >>= fun value => pure (some value)).outcome := by
  rw [Traced.outcome_bind, Traced.outcome_bind]
  exact h.bind fun _ _ hvalue => follows_ok (.some hvalue)

theorem related_setField {fields related : FieldSet} {value other : Option FieldValue}
    (hempty : ∀ a b, R a b → a.isEmpty = b.isEmpty) (h : fields.Related R related)
    (hvalue : Option.Rel R value other) (field : String) :
    (setField fields field value).Related R (setField related field other) := by
  intro name
  rw [get?_setField, get?_setField]
  split
  · cases hvalue with
    | none => exact h name
    | some hvalue =>
      rw [effective, effective, Option.filter_some, Option.filter_some, hempty _ _ hvalue]
      split
      · exact .some hvalue
      · exact h name
  · exact h name

theorem follows_readFields {specs : List FieldSpec} {fields related : FieldSet}
    (hempty : ∀ a b, R a b → a.isEmpty = b.isEmpty)
    (h : ∀ spec ∈ specs, ReadsAs R context members others spec)
    (hfields : fields.Related R related) :
    Follows (FieldSet.Related R) (readFields context members specs fields).outcome
      (readFields context others specs related).outcome := by
  induction specs generalizing fields related with
  | nil => exact follows_ok hfields
  | cons spec rest ih =>
    obtain ⟨hspec, hrest⟩ := List.forall_mem_cons.1 h
    simp only [readFields, Traced.outcome_bind]
    exact hspec.bind fun value other hvalue =>
      ih hrest (related_setField hempty hfields hvalue _)

/-- The keys whose mere presence a schema may object to. -/
def objectionable (schema : Schema) : List String :=
  schema.deprecated.map (·.1) ++ schema.forbidden.flatMap FieldKey.spellings

def Unobjectionable (schema : Schema) (members : Entries Json) : Prop :=
  ∀ name ∈ schema.objectionable, members.has name = false

theorem unobjectionable_iff {schema : Schema} : schema.Unobjectionable members ↔
    schema.checkDeprecated members = .ok () ∧ schema.checkForbidden members = .ok () := by
  rw [checkDeprecated_ok, checkForbidden_ok, Unobjectionable, objectionable,
    List.forall_mem_append, List.forall_mem_map]
  refine and_congr_right' ⟨fun h key hkey name hname => ?_, fun h name hname => ?_⟩
  · exact h name (List.mem_flatMap.2 ⟨key, hkey, hname⟩)
  · obtain ⟨key, hkey, hname⟩ := List.mem_flatMap.1 hname
    exact h key hkey name hname

theorem follows_resolve {schema : Schema} (hempty : ∀ a b, R a b → a.isEmpty = b.isEmpty)
    (hhas : ∀ name ∈ schema.objectionable, others.has name = members.has name)
    (h : ∀ spec ∈ schema.fields, ReadsAs R context members others spec) :
    Follows (FieldSet.Related R) (schema.resolve context (.obj members)).outcome
      (schema.resolve context (.obj others)).outcome := by
  intro fields hr
  obtain ⟨_, heq, hdeprecated, hforbidden, hread, hrequired, hconflicts⟩ := resolve_ok.1 hr
  obtain rfl := Json.obj.inj heq
  rw [objectionable, List.forall_mem_append, List.forall_mem_map] at hhas
  have hnone : FieldSet.Related R .empty .empty := fun _ => .none
  obtain ⟨related, hrelated, hsets⟩ := follows_readFields hempty h hnone fields hread
  refine ⟨related, resolve_ok.2 ⟨others, rfl, ?_, ?_, hrelated, ?_, ?_⟩, hsets⟩
  · exact fun retired hretired => (hhas.1 retired hretired).trans (hdeprecated retired hretired)
  · exact fun key hkey name hname =>
      (hhas.2 name (List.mem_flatMap.2 ⟨key, hkey, hname⟩)).trans (hforbidden key hkey name hname)
  · exact fun group hgroup => (hsets.anySet_eq group).trans (hrequired group hgroup)
  · intro group hgroup
    rw [hsets.found_eq]
    exact hconflicts group hgroup

end Schema

end AccessPolicy
