import Mathlib.Data.List.Nodup
import AccessPolicy.Proofs.Environment
import AccessPolicy.Proofs.ListShape
import AccessPolicy.Proofs.Schema.Related

/-!
# What a schema accepts and why it refuses

The rules by which a raw statement is read. `Accepts` says which statements have which fields and
`Refuses` which are refused for which reason, the first rule that is broken being the reason.
Resolving follows them (`resolve_exact`).
-/

namespace AccessPolicy.Schema

-- ---------------------------------------------------------------------------
-- Rules for fields
-- ---------------------------------------------------------------------------

/-- A field is given the value that its shorthand resolves to or, where that is absent, the value
that it has literally. -/
inductive Gives (context : Context) (members : Entries Json) (spec : FieldSpec) :
    FieldValue → Prop
  | shorthand (hshort : present? members spec.key.shorthand = some value)
      (h : (spec.kind.resolve context spec.key.shorthand value).outcome = .ok taken) :
      Gives context members spec taken
  | canonical (hshort : present? members spec.key.shorthand = none)
      (hlong : present? members spec.key.canonical = some value)
      (h : spec.kind.accept spec.key.canonical value = .ok taken) :
      Gives context members spec taken

/-- Two different spellings of a field are not both present. -/
def OneSpelling (members : Entries Json) (spec : FieldSpec) : Prop :=
  spec.key.shorthand ≠ spec.key.canonical →
    present? members spec.key.shorthand = none ∨ present? members spec.key.canonical = none

/-- A field is not spelled twice, and if it is spelled it is given a value. -/
structure Reads (context : Context) (members : Entries Json) (spec : FieldSpec) : Prop where
  oneSpelling : OneSpelling members spec
  given : ∀ name ∈ spec.key.spellings, present? members name ≠ none →
    ∃ taken, Gives context members spec taken

inductive FieldFault (context : Context) (members : Entries Json) (spec : FieldSpec) :
    PolicyError → Prop
  | bothSpellings (hne : spec.key.shorthand ≠ spec.key.canonical)
      (hshort : present? members spec.key.shorthand = some short)
      (hlong : present? members spec.key.canonical = some long) :
      FieldFault context members spec (.bothSpellings spec.key.shorthand spec.key.canonical
        short.compact long.compact)
  | shorthand (hone : OneSpelling members spec)
      (hshort : present? members spec.key.shorthand = some value)
      (h : (spec.kind.resolve context spec.key.shorthand value).outcome = .error error) :
      FieldFault context members spec error
  | canonical (hshort : present? members spec.key.shorthand = none)
      (hlong : present? members spec.key.canonical = some value)
      (h : spec.kind.accept spec.key.canonical value = .error error) :
      FieldFault context members spec error

-- ---------------------------------------------------------------------------
-- Rules for statements
-- ---------------------------------------------------------------------------

/-- A statement keeps all rules but those for groups of fields. -/
structure Readable (schema : Schema) (context : Context) (members : Entries Json) : Prop where
  unobjectionable : schema.Unobjectionable members
  fields : ∀ spec ∈ schema.fields, Reads context members spec

/-- A set has an entry for each field that is given a value, unless the value names nothing. -/
def Sets (schema : Schema) (context : Context) (members : Entries Json) (fields : FieldSet) :
    Prop :=
  ∀ name taken, fields.get? name = some taken ↔ ∃ spec ∈ schema.fields,
    spec.key.shorthand = name ∧ Gives context members spec taken ∧ taken.isEmpty = false

def Satisfied (fields : FieldSet) (group : List FieldKey) : Prop :=
  ∃ key ∈ group, fields.isSet key.shorthand = true

def Compatible (fields : FieldSet) (group : List FieldKey) : Prop :=
  ∀ first ∈ group, ∀ second ∈ group, first ≠ second →
    ¬(fields.isSet first.shorthand = true ∧ fields.isSet second.shorthand = true)

instance (fields : FieldSet) (group : List FieldKey) : Decidable (Satisfied fields group) :=
  inferInstanceAs (Decidable (∃ key ∈ group, _))

/-- A statement is a mapping that keeps all rules, and a set has its fields. -/
structure Accepts (schema : Schema) (context : Context) (members : Entries Json)
    (fields : FieldSet) : Prop where
  readable : schema.Readable context members
  sets : schema.Sets context members fields
  required : ∀ group ∈ schema.required, Satisfied fields group
  compatible : ∀ group ∈ schema.conflicts, Compatible fields group

/-- Why a statement is refused. Each rule is applied only if those before it are kept; of the groups
that are required, all that are not satisfied are named. -/
inductive Refuses (schema : Schema) (context : Context) : Json → PolicyError → Prop
  | shape (h : ∀ members, raw ≠ .obj members) :
      Refuses schema context raw (unexpected "statement" "a mapping" raw.compact)
  | deprecated (hsplit : schema.deprecated = before ++ (key, reason) :: after)
      (hbefore : ∀ earlier ∈ before, Entries.has earlier.1 members = false)
      (h : Entries.has key members = true) :
      Refuses schema context (.obj members) (.deprecatedKey key reason)
  | forbidden (hdeprecated : ∀ retired ∈ schema.deprecated, Entries.has retired.1 members = false)
      (hsplit : schema.forbidden = before ++ key :: after)
      (hbefore : ∀ earlier ∈ before, ∀ name ∈ earlier.spellings, Entries.has name members = false)
      (hname : name ∈ key.spellings) (h : Entries.has name members = true) :
      Refuses schema context (.obj members) (.forbiddenField key.shorthand key.canonical)
  | field (hunobjectionable : schema.Unobjectionable members)
      (hsplit : schema.fields = before ++ spec :: after)
      (hbefore : ∀ earlier ∈ before, Reads context members earlier)
      (h : FieldFault context members spec error) :
      Refuses schema context (.obj members) error
  | missing {fields : FieldSet} (hread : schema.Readable context members)
      (hsets : schema.Sets context members fields) (hgroup : group ∈ schema.required)
      (h : ¬Satisfied fields group) :
      Refuses schema context (.obj members) (.missingFields
        ((schema.required.filter fun group => ¬Satisfied fields group).map groupName))
  | conflict {fields : FieldSet} (hread : schema.Readable context members)
      (hsets : schema.Sets context members fields)
      (hrequired : ∀ group ∈ schema.required, Satisfied fields group)
      (hsplit : schema.conflicts = before ++ group :: after)
      (hbefore : ∀ earlier ∈ before, Compatible fields earlier) (h : ¬Compatible fields group) :
      Refuses schema context (.obj members) (.conflictingFields (group.map FieldKey.shorthand)
        ((group.map FieldKey.shorthand).filter fields.isSet))

-- ---------------------------------------------------------------------------
-- Reading fields
-- ---------------------------------------------------------------------------

variable {schema : Schema} {context : Context} {members : Entries Json} {spec : FieldSpec}
  {fields : FieldSet} {group : List FieldKey}

theorem fieldValue?_resolved (context : Context) (hone : OneSpelling members spec)
    (hshort : present? members spec.key.shorthand = some value) :
    (fieldValue? context members spec).outcome =
      (spec.kind.resolve context spec.key.shorthand value).outcome.map some := by
  by_cases heq : spec.key.shorthand = spec.key.canonical
  · have hlong : present? members spec.key.canonical = some value := heq ▸ hshort
    unfold fieldValue?
    simp only [hshort, hlong, if_pos heq, Traced.outcome_bind]
    cases (spec.kind.resolve context spec.key.shorthand value).outcome <;> rfl
  · have hlong := (hone heq).resolve_left (by simp [hshort])
    exact fieldValue?_shorthand context spec hshort hlong

theorem fieldValue?_of_gives (hone : OneSpelling members spec)
    (h : Gives context members spec taken) :
    (fieldValue? context members spec).outcome = .ok (some taken) := by
  cases h with
  | shorthand hshort h =>
    rw [fieldValue?_resolved context hone hshort, h]
    rfl
  | canonical hshort hlong h => exact fieldValue?_of_canonical hshort hlong h

theorem fieldValue?_of_fault (h : FieldFault context members spec error) :
    (fieldValue? context members spec).outcome = .error error := by
  cases h with
  | bothSpellings hne hshort hlong => exact fieldValue?_both context hshort hlong hne
  | shorthand hone hshort h => rw [fieldValue?_resolved context hone hshort, map_error, h]
  | canonical hshort hlong h => rw [fieldValue?_canonical context spec hshort hlong, map_error, h]

theorem field_cases (context : Context) (members : Entries Json) (spec : FieldSpec) :
    (present? members spec.key.shorthand = none ∧ present? members spec.key.canonical = none) ∨
      (∃ taken, OneSpelling members spec ∧ Gives context members spec taken) ∨
      ∃ error, FieldFault context members spec error := by
  cases hshort : present? members spec.key.shorthand with
  | none =>
    cases hlong : present? members spec.key.canonical with
    | none => exact .inl ⟨rfl, rfl⟩
    | some value =>
      cases h : spec.kind.accept spec.key.canonical value with
      | error error => exact .inr (.inr ⟨error, .canonical hshort hlong h⟩)
      | ok taken => exact .inr (.inl ⟨taken, fun _ => .inl hshort, .canonical hshort hlong h⟩)
  | some value =>
    by_cases hone : OneSpelling members spec
    · cases h : (spec.kind.resolve context spec.key.shorthand value).outcome with
      | error error => exact .inr (.inr ⟨error, .shorthand hone hshort h⟩)
      | ok taken => exact .inr (.inl ⟨taken, hone, .shorthand hshort h⟩)
    · obtain ⟨hne, hboth⟩ := Classical.not_imp.1 hone
      obtain ⟨long, hlong⟩ := Option.ne_none_iff_exists'.1 (not_or.1 hboth).2
      exact .inr (.inr ⟨_, .bothSpellings hne hshort hlong⟩)

theorem fieldValue?_cases (context : Context) (members : Entries Json) (spec : FieldSpec) :
    ((present? members spec.key.shorthand = none ∧ present? members spec.key.canonical = none) ∧
        (fieldValue? context members spec).outcome = .ok none) ∨
      (∃ taken, (OneSpelling members spec ∧ Gives context members spec taken) ∧
        (fieldValue? context members spec).outcome = .ok (some taken)) ∨
      ∃ error, FieldFault context members spec error ∧
        (fieldValue? context members spec).outcome = .error error := by
  rcases field_cases context members spec with habsent | ⟨taken, hgives⟩ | ⟨error, hfault⟩
  · exact .inl ⟨habsent, fieldValue?_of_absent habsent.1 habsent.2⟩
  · exact .inr (.inl ⟨taken, hgives, fieldValue?_of_gives hgives.1 hgives.2⟩)
  · exact .inr (.inr ⟨error, hfault, fieldValue?_of_fault hfault⟩)

theorem fieldValue?_error : (fieldValue? context members spec).outcome = .error error ↔
    FieldFault context members spec error := by
  refine ⟨fun h => ?_, fieldValue?_of_fault⟩
  rcases fieldValue?_cases context members spec with ⟨-, hread⟩ | ⟨_, -, hread⟩ | ⟨_, hfault, hread⟩
  · cases hread.symm.trans h
  · cases hread.symm.trans h
  · exact Except.error.inj (hread.symm.trans h) ▸ hfault

theorem fieldValue?_some : (fieldValue? context members spec).outcome = .ok (some taken) ↔
    OneSpelling members spec ∧ Gives context members spec taken := by
  refine ⟨fun h => ?_, fun ⟨hone, hgives⟩ => fieldValue?_of_gives hone hgives⟩
  rcases fieldValue?_cases context members spec with ⟨-, hread⟩ | ⟨_, hgives, hread⟩ | ⟨_, -, hread⟩
  · cases hread.symm.trans h
  · cases hread.symm.trans h
    exact hgives
  · cases hread.symm.trans h

theorem FieldFault.present (h : FieldFault context members spec error) :
    ∃ name ∈ spec.key.spellings, present? members name ≠ none := by
  cases h with
  | bothSpellings _ hshort _ | shorthand _ hshort _ =>
    exact ⟨_, FieldKey.mem_spellings.2 (.inl rfl), by simp [hshort]⟩
  | canonical _ hlong _ => exact ⟨_, FieldKey.mem_spellings.2 (.inr rfl), by simp [hlong]⟩

theorem reads_iff : Reads context members spec ↔
    ∃ value, (fieldValue? context members spec).outcome = .ok value := by
  constructor
  · intro ⟨hone, hgiven⟩
    rcases fieldValue?_cases context members spec with ⟨-, hread⟩ | ⟨_, -, hread⟩ | ⟨_, hfault, -⟩
    · exact ⟨none, hread⟩
    · exact ⟨_, hread⟩
    · obtain ⟨name, hname, hpresent⟩ := hfault.present
      obtain ⟨taken, hgives⟩ := hgiven name hname hpresent
      exact ⟨some taken, fieldValue?_of_gives hone hgives⟩
  · rintro ⟨value, hvalue⟩
    rcases fieldValue?_cases context members spec with
      ⟨⟨hshort, hlong⟩, -⟩ | ⟨taken, ⟨hone, hgives⟩, -⟩ | ⟨_, -, hread⟩
    · refine ⟨fun _ => .inl hshort, fun name hname hpresent => absurd ?_ hpresent⟩
      rcases FieldKey.mem_spellings.1 hname with rfl | rfl
      · exact hshort
      · exact hlong
    · exact ⟨hone, fun _ _ _ => ⟨taken, hgives⟩⟩
    · cases hread.symm.trans hvalue

theorem readable_iff : schema.Readable context members ↔ schema.Unobjectionable members ∧
    ∃ fields, (readFields context members schema.fields .empty).outcome = .ok fields := by
  constructor
  · intro ⟨hunobjectionable, hfields⟩
    refine ⟨hunobjectionable, exists_readFields .empty fun spec hspec => ?_⟩
    exact reads_iff.1 (hfields spec hspec)
  · rintro ⟨hunobjectionable, fields, hread⟩
    refine ⟨hunobjectionable, fun spec hspec => reads_iff.2 ?_⟩
    rw [outcome_readFields, map_ok] at hread
    obtain ⟨values, hvalues, -⟩ := hread
    exact exists_forall₂_iff.1 ⟨values, mapM_ok.1 hvalues⟩ spec hspec

theorem sets_of_readFields (hn : (schema.fields.map (·.key.shorthand)).Nodup)
    (h : (readFields context members schema.fields .empty).outcome = .ok fields) :
    schema.Sets context members fields := by
  intro name taken
  have hget {spec : FieldSpec} (hspec : spec ∈ schema.fields) :
      fields.get? spec.key.shorthand = some taken ↔
        Gives context members spec taken ∧ taken.isEmpty = false := by
    obtain ⟨value, hvalue, hget⟩ := exists_value_of_readFields hn h hspec
    rw [hget, effective, Option.filter_eq_some_iff, Bool.not_eq_true']
    refine and_congr_left' ⟨fun heq => (fieldValue?_some.1 (heq ▸ hvalue)).2, fun hgives => ?_⟩
    have hone := (reads_iff.2 ⟨value, hvalue⟩).oneSpelling
    exact Except.ok.inj (hvalue.symm.trans (fieldValue?_of_gives hone hgives))
  constructor
  · intro hname
    by_cases hmem : name ∈ schema.fields.map (·.key.shorthand)
    · obtain ⟨spec, hspec, rfl⟩ := List.mem_map.1 hmem
      exact ⟨spec, hspec, rfl, (hget hspec).1 hname⟩
    · rw [(readFields_get? hn h).1 name hmem] at hname
      cases hname
  · rintro ⟨spec, hspec, rfl, hgives⟩
    exact (hget hspec).2 hgives

theorem Sets.unique {other : FieldSet} (h : schema.Sets context members fields)
    (hother : schema.Sets context members other) : fields = other := by
  apply Table.eq_of_get?_eq
  intro name
  apply Option.ext
  intro taken
  rw [h, hother]

theorem readFields_ok_iff (hn : (schema.fields.map (·.key.shorthand)).Nodup)
    (hread : schema.Readable context members) :
    (readFields context members schema.fields .empty).outcome = .ok fields ↔
      schema.Sets context members fields := by
  refine ⟨sets_of_readFields hn, fun hsets => ?_⟩
  obtain ⟨-, result, hresult⟩ := readable_iff.1 hread
  exact hsets.unique (sets_of_readFields hn hresult) ▸ hresult

-- ---------------------------------------------------------------------------
-- Checks
-- ---------------------------------------------------------------------------

theorem satisfied_iff : anySet fields group = true ↔ Satisfied fields group := by
  rw [anySet, List.any_eq_true]
  rfl

theorem length_le_one_iff {items : List α} (hn : items.Nodup) :
    items.length ≤ 1 ↔ ∀ a ∈ items, ∀ b ∈ items, a = b := by
  match items with
  | [] | [_] => simp
  | first :: second :: rest =>
    refine iff_of_false (by simp) fun hsame => (List.nodup_cons.1 hn).1 ?_
    exact hsame first List.mem_cons_self second (.tail _ List.mem_cons_self) ▸ List.mem_cons_self

theorem mem_found : name ∈ found fields group ↔
    ∃ key ∈ group, fields.isSet key.shorthand = true ∧ key.shorthand = name := by
  rw [found, List.mem_filter, List.mem_map]
  constructor
  · rintro ⟨⟨key, hkey, rfl⟩, hset⟩
    exact ⟨key, hkey, hset, rfl⟩
  · rintro ⟨key, hkey, hset, rfl⟩
    exact ⟨⟨key, hkey, rfl⟩, hset⟩

theorem compatible_iff (hn : (group.map FieldKey.shorthand).Nodup) :
    (found fields group).length ≤ 1 ↔ Compatible fields group := by
  have hfound : (found fields group).Nodup := hn.filter _
  rw [length_le_one_iff hfound]
  constructor
  · intro hsame first hfirst second hsecond hne ⟨hset, hother⟩
    have heq := hsame _ (mem_found.2 ⟨first, hfirst, hset, rfl⟩) _
      (mem_found.2 ⟨second, hsecond, hother, rfl⟩)
    exact hne (List.inj_on_of_nodup_map hn hfirst hsecond heq)
  · intro h name hname other hother
    obtain ⟨first, hfirst, hset, rfl⟩ := mem_found.1 hname
    obtain ⟨second, hsecond, hboth, rfl⟩ := mem_found.1 hother
    by_contra hne
    exact h first hfirst second hsecond (mt (congrArg _) hne) ⟨hset, hboth⟩

theorem checkDeprecated_error : schema.checkDeprecated members = .error error ↔
    ∃ before retired after, schema.deprecated = before ++ retired :: after ∧
      (∀ earlier ∈ before, Entries.has earlier.1 members = false) ∧
      Entries.has retired.1 members = true ∧ .deprecatedKey retired.1 retired.2 = error := by
  rw [checkDeprecated_eq, refuseFirst_error]

theorem checkForbidden_error : schema.checkForbidden members = .error error ↔
    ∃ before key after, schema.forbidden = before ++ key :: after ∧
      (∀ earlier ∈ before, ∀ name ∈ earlier.spellings, Entries.has name members = false) ∧
      (∃ name ∈ key.spellings, Entries.has name members = true) ∧
      .forbiddenField key.shorthand key.canonical = error := by
  simp only [checkForbidden_eq, refuseFirst_error, List.any_eq_true, List.any_eq_false,
    Bool.not_eq_true]

theorem checkConflicts_error
    (hgroups : ∀ group ∈ schema.conflicts, (group.map FieldKey.shorthand).Nodup) :
    schema.checkConflicts fields = .error error ↔
      ∃ before group after, schema.conflicts = before ++ group :: after ∧
        (∀ earlier ∈ before, Compatible fields earlier) ∧ ¬Compatible fields group ∧
        .conflictingFields (group.map FieldKey.shorthand) (found fields group) = error := by
  rw [checkConflicts_eq, refuseFirst_error]
  refine exists₃_congr fun before group after => and_congr_right fun hsplit => ?_
  rw [hsplit, List.forall_mem_append, List.forall_mem_cons] at hgroups
  obtain ⟨hbefore, hgroup, -⟩ := hgroups
  rw [decide_eq_true_eq, ← Nat.not_le, compatible_iff hgroup]
  refine and_congr_left' (forall₂_congr fun earlier hearlier => ?_)
  rw [decide_eq_false_iff_not, Nat.not_lt, compatible_iff (hbefore earlier hearlier)]

/-- All groups that are not satisfied are named, as soon as there is one. -/
theorem checkRequired_error : schema.checkRequired fields = .error error ↔
    (∃ group ∈ schema.required, ¬Satisfied fields group) ∧ .missingFields
      ((schema.required.filter fun group => ¬Satisfied fields group).map groupName) = error := by
  have hfilter : (schema.required.filter fun group => !anySet fields group) =
      schema.required.filter fun group => ¬Satisfied fields group := by
    refine List.filter_congr fun group _ => ?_
    rw [decide_not, ← Bool.decide_coe (anySet fields group), decide_eq_decide.2 satisfied_iff]
  have hnone : (schema.required.filter fun group => ¬Satisfied fields group) ≠ [] ↔
      ∃ group ∈ schema.required, ¬Satisfied fields group := by
    simp [List.filter_eq_nil_iff]
  rw [← hnone, checkRequired, hfilter]
  cases schema.required.filter fun group => ¬Satisfied fields group <;> simp

-- ---------------------------------------------------------------------------
-- Resolving
-- ---------------------------------------------------------------------------

theorem resolve_error :
    (schema.resolve context (.obj members)).outcome = .error error ↔
      schema.checkDeprecated members = .error error ∨
        (schema.checkDeprecated members = .ok () ∧ schema.checkForbidden members = .error error) ∨
          (schema.Unobjectionable members ∧
            ((readFields context members schema.fields .empty).outcome = .error error ∨
              ∃ fields, (readFields context members schema.fields .empty).outcome = .ok fields ∧
                (schema.checkRequired fields = .error error ∨
                  (schema.checkRequired fields = .ok () ∧
                    schema.checkConflicts fields = .error error)))) := by
  simp only [outcome_resolve, bind_error, unobjectionable_iff, Unique.exists_iff,
    PUnit.default_eq_unit, reduceCtorEq, and_false, or_false, and_assoc, and_or_left]

theorem resolve_ok_iff_accepts (hfields : (schema.fields.map (·.key.shorthand)).Nodup)
    (hgroups : ∀ group ∈ schema.conflicts, (group.map FieldKey.shorthand).Nodup) :
    (schema.resolve context raw).outcome = .ok fields ↔
      ∃ members, raw = .obj members ∧ schema.Accepts context members fields := by
  rw [resolve_ok]
  refine exists_congr fun members => and_congr_right' ?_
  rw [← checkDeprecated_ok, ← checkForbidden_ok, ← and_assoc, ← unobjectionable_iff]
  constructor
  · rintro ⟨hunobjectionable, hread, hrequired, hconflicts⟩
    exact {
      readable := readable_iff.2 ⟨hunobjectionable, fields, hread⟩
      sets := sets_of_readFields hfields hread
      required := fun group hgroup => satisfied_iff.1 (hrequired group hgroup)
      compatible := fun group hgroup =>
        (compatible_iff (hgroups group hgroup)).1 (hconflicts group hgroup) }
  · rintro ⟨hreadable, hsets, hrequired, hcompatible⟩
    exact ⟨hreadable.unobjectionable, (readFields_ok_iff hfields hreadable).2 hsets,
      fun group hgroup => satisfied_iff.2 (hrequired group hgroup),
      fun group hgroup => (compatible_iff (hgroups group hgroup)).2 (hcompatible group hgroup)⟩

theorem refuses_of_error (hfields : (schema.fields.map (·.key.shorthand)).Nodup)
    (hgroups : ∀ group ∈ schema.conflicts, (group.map FieldKey.shorthand).Nodup)
    (h : (schema.resolve context raw).outcome = .error error) :
    schema.Refuses context raw error := by
  cases raw with
  | obj members =>
    rcases resolve_error.1 h with hdeprecated | ⟨hdeprecated, hforbidden⟩ | ⟨hunobjectionable, h⟩
    · obtain ⟨_, _, _, hsplit, hbefore, hhas, rfl⟩ := checkDeprecated_error.1 hdeprecated
      exact .deprecated hsplit hbefore hhas
    · obtain ⟨_, _, _, hsplit, hbefore, ⟨_, hname, hhas⟩, rfl⟩ := checkForbidden_error.1 hforbidden
      exact .forbidden (checkDeprecated_ok.1 hdeprecated) hsplit hbefore hname hhas
    rcases h with hread | ⟨fields, hread, h⟩
    · obtain ⟨_, spec, _, hsplit, hbefore, hfault⟩ := readFields_error.1 hread
      exact .field hunobjectionable hsplit
        (fun earlier hearlier => reads_iff.2 (hbefore earlier hearlier))
        (fieldValue?_error.1 hfault)
    have hreadable := readable_iff.2 ⟨hunobjectionable, fields, hread⟩
    have hsets := sets_of_readFields hfields hread
    rcases h with hrequired | ⟨hrequired, hconflicts⟩
    · obtain ⟨⟨group, hgroup, hnone⟩, rfl⟩ := checkRequired_error.1 hrequired
      exact .missing hreadable hsets hgroup hnone
    · obtain ⟨_, _, _, hsplit, hbefore, hboth, rfl⟩ := (checkConflicts_error hgroups).1 hconflicts
      refine .conflict hreadable hsets (fun group hgroup => ?_) hsplit hbefore hboth
      exact satisfied_iff.1 (checkRequired_ok.1 hrequired group hgroup)
  | _ =>
    obtain rfl := Except.error.inj h
    exact .shape fun _ heq => nomatch heq

theorem error_of_refuses (hfields : (schema.fields.map (·.key.shorthand)).Nodup)
    (hgroups : ∀ group ∈ schema.conflicts, (group.map FieldKey.shorthand).Nodup)
    (h : schema.Refuses context raw error) :
    (schema.resolve context raw).outcome = .error error := by
  cases h with
  | shape h =>
    cases raw with
    | obj members => exact absurd rfl (h members)
    | _ => rfl
  | deprecated hsplit hbefore h =>
    exact resolve_error.2 (.inl (checkDeprecated_error.2 ⟨_, _, _, hsplit, hbefore, h, rfl⟩))
  | forbidden hdeprecated hsplit hbefore hname h =>
    exact resolve_error.2 (.inr (.inl ⟨checkDeprecated_ok.2 hdeprecated,
      checkForbidden_error.2 ⟨_, _, _, hsplit, hbefore, ⟨_, hname, h⟩, rfl⟩⟩))
  | field hunobjectionable hsplit hbefore h =>
    refine resolve_error.2 (.inr (.inr ⟨hunobjectionable, .inl (readFields_error.2 ⟨_, _, _,
      hsplit, fun earlier hearlier => ?_, fieldValue?_of_fault h⟩)⟩))
    exact reads_iff.1 (hbefore earlier hearlier)
  | missing hread hsets hgroup h =>
    refine resolve_error.2 (.inr (.inr ⟨hread.unobjectionable, .inr ⟨_,
      (readFields_ok_iff hfields hread).2 hsets, .inl ?_⟩⟩))
    exact checkRequired_error.2 ⟨⟨_, hgroup, h⟩, rfl⟩
  | conflict hread hsets hrequired hsplit hbefore h =>
    refine resolve_error.2 (.inr (.inr ⟨hread.unobjectionable, .inr ⟨_,
      (readFields_ok_iff hfields hread).2 hsets, .inr ⟨checkRequired_ok.2 fun group hgroup => ?_,
        (checkConflicts_error hgroups).2 ⟨_, _, _, hsplit, hbefore, h, rfl⟩⟩⟩⟩))
    exact satisfied_iff.2 (hrequired group hgroup)

/-- A schema accepts just the statements that keep its rules, with just the fields that they set,
and refuses any other for the first rule that it breaks. -/
theorem resolve_exact (schema : Schema) (hfields : (schema.fields.map (·.key.shorthand)).Nodup)
    (hgroups : ∀ group ∈ schema.conflicts, (group.map FieldKey.shorthand).Nodup)
    (context : Context) (raw : Json) :
    (∀ fields, (schema.resolve context raw).outcome = .ok fields ↔
      ∃ members, raw = .obj members ∧ schema.Accepts context members fields) ∧
    ∀ error, (schema.resolve context raw).outcome = .error error ↔
      schema.Refuses context raw error :=
  ⟨fun _ => resolve_ok_iff_accepts hfields hgroups, fun _ =>
    ⟨refuses_of_error hfields hgroups, error_of_refuses hfields hgroups⟩⟩

/-- A required group that is not satisfied is the reason also where two fields exclude one
another. -/
theorem resolve_exact_missing :
    let context : Context := .app
    let group := [FieldKey.word "one", .word "two"]
    let schema := empty.field (.word "one") .text |>.field (.word "two") .strings
      |>.field (.word "three") .strings |>.require group |>.require [.word "three"]
      |>.conflict group
    let clashing : Entries Json := [("One", .str "x"), ("three", .arr []), ("two", .str "y")]
    let compatible : Entries Json := [("One", .str "x"), ("three", .str "z"), ("two", .null)]
    ((schema.fields.map (·.key.shorthand)).Nodup ∧
      ∀ group ∈ schema.conflicts, (group.map FieldKey.shorthand).Nodup) ∧
    schema.Refuses context (.obj clashing) (.missingFields ["Three or three"]) ∧
      ∃ fields, schema.Accepts context compatible fields := by
  intro context group schema clashing compatible
  have hfields : (schema.fields.map (·.key.shorthand)).Nodup := by decide
  have hgroups : ∀ group ∈ schema.conflicts, (group.map FieldKey.shorthand).Nodup := by decide
  have hexact := resolve_exact schema hfields hgroups context
  obtain ⟨_, heq, haccepts⟩ := ((hexact (.obj compatible)).1 _).1 rfl
  obtain rfl := Json.obj.inj heq
  have hspellings : ["Three", "three"] = ascending ["three", "Three"] :=
    eq_ascending_iff.2 ⟨.swap .., by decide⟩
  have hmissing : (schema.resolve context (.obj clashing)).outcome =
      .error (.missingFields [PolicyError.listing " or " (ascending ["three", "Three"])]) := rfl
  rw [← hspellings] at hmissing
  exact ⟨⟨hfields, hgroups⟩, ((hexact (.obj clashing)).2 _).1 hmissing, _, haccepts⟩

end AccessPolicy.Schema
