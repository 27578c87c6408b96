import AccessPolicy.Proofs.Environment
import AccessPolicy.Proofs.Lookup
import AccessPolicy.Proofs.Schema.Related

/-!
# Keys that a schema ignores

What a schema makes of a statement is decided by the values that are present under the spellings of
its fields, and by which of the keys it objects to occur at all. All other keys are reported, and
nothing hangs on them (`resolve_ignores`).
-/

namespace AccessPolicy

-- ---------------------------------------------------------------------------
-- Reports of unknown keys
-- ---------------------------------------------------------------------------

def Event.ignoredKey? : Event → Option String
  | .unknownKeyIgnored key => some key
  | _ => none

namespace Traced

/-- The keys that are reported as unknown, in the order of the reports. -/
def ignoredKeys (work : Traced α) : List String := work.events.filterMap Event.ignoredKey?

theorem ignoredKeys_bind_ok {first : Traced α} {next : α → Traced β}
    (h : first.outcome = .ok value) :
    (first >>= next).ignoredKeys = first.ignoredKeys ++ (next value).ignoredKeys := by
  show (Traced.bind first next).ignoredKeys = _
  simp [Traced.bind, h, ignoredKeys]

theorem ignoredKeys_bind_error {first : Traced α} {next : α → Traced β}
    (h : first.outcome = .error error) : (first >>= next).ignoredKeys = first.ignoredKeys := by
  show (Traced.bind first next).ignoredKeys = _
  simp [Traced.bind, h, ignoredKeys]

@[simp] theorem ignoredKeys_lift (outcome : Except PolicyError α) :
    (liftM outcome : Traced α).ignoredKeys = [] := rfl

theorem ignoredKeys_bind {first : Traced α} {next : α → Traced β} (h : first.ignoredKeys = [])
    (hnext : ∀ value, (next value).ignoredKeys = []) : (first >>= next).ignoredKeys = [] := by
  cases houtcome : first.outcome with
  | error error => rw [ignoredKeys_bind_error houtcome, h]
  | ok value => rw [ignoredKeys_bind_ok houtcome, h, hnext, List.nil_append]

theorem ignoredKeys_each {f : α → Traced β} {items : List α}
    (h : ∀ item ∈ items, (f item).ignoredKeys = []) : (each f items).ignoredKeys = [] := by
  induction items with
  | nil => rfl
  | cons item rest ih =>
    obtain ⟨hitem, hrest⟩ := List.forall_mem_cons.1 h
    exact ignoredKeys_bind hitem fun _ => ignoredKeys_bind (ih hrest) fun _ => rfl

theorem ignoredKeys_report (keys : List String) :
    (each (fun key => emit (.unknownKeyIgnored key)) keys).ignoredKeys = keys := by
  induction keys with
  | nil => rfl
  | cons key rest ih =>
    obtain ⟨reported, hreported⟩ := each_emit_ok Event.unknownKeyIgnored rest
    rw [each, ignoredKeys_bind_ok (outcome_emit _), ignoredKeys_bind_ok hreported, ih]
    show [key] ++ (rest ++ []) = key :: rest
    rw [List.append_nil, List.singleton_append]

end Traced

open Traced (ignoredKeys_bind ignoredKeys_lift)

theorem ignoredKeys_resolveResources (context : Context) (field : String) (value : Json)
    (only : Option (List Service)) :
    (resolveResources context field value only).ignoredKeys = [] :=
  ignoredKeys_bind (ignoredKeys_lift _) fun _ => rfl

theorem PrincipalEntry.ignoredKeys_resolve (context : Context) (field : String) (value : Json) :
    (PrincipalEntry.resolve context field value).ignoredKeys = [] := by
  refine Traced.ignoredKeys_each fun entry _ => ?_
  cases entry with
  | obj members =>
    have hmapping : (resolveMapping context field members).ignoredKeys = [] :=
      ignoredKeys_bind (ignoredKeys_lift _) fun _ => ignoredKeys_bind (ignoredKeys_lift _) fun _ =>
        rfl
    exact ignoredKeys_bind hmapping fun _ => rfl
  | _ => rfl

theorem FieldKind.ignoredKeys_resolve (context : Context) (field : String) (kind : FieldKind)
    (value : Json) : (kind.resolve context field value).ignoredKeys = [] := by
  cases kind with
  | resources only =>
    exact ignoredKeys_bind (ignoredKeys_resolveResources context field value only) fun _ => rfl
  | principals =>
    exact ignoredKeys_bind (PrincipalEntry.ignoredKeys_resolve context field value) fun _ => rfl
  | text | choice _ | strings | mapping => exact ignoredKeys_lift _

namespace Schema

variable {schema : Schema} {context : Context} {members others : Entries Json}

theorem ignoredKeys_fieldValue? (context : Context) (members : Entries Json) (spec : FieldSpec) :
    (fieldValue? context members spec).ignoredKeys = [] := by
  have hresolve (value : Json) := FieldKind.ignoredKeys_resolve context spec.key.shorthand
    spec.kind value
  unfold fieldValue?
  dsimp only
  split
  · rfl
  · exact ignoredKeys_bind (ignoredKeys_lift _) fun _ => rfl
  · exact ignoredKeys_bind (hresolve _) fun _ => rfl
  · split
    · exact ignoredKeys_bind (hresolve _) fun _ => rfl
    · rfl

theorem ignoredKeys_readFields (context : Context) (members : Entries Json)
    (specs : List FieldSpec) (fields : FieldSet) :
    (readFields context members specs fields).ignoredKeys = [] := by
  induction specs generalizing fields with
  | nil => rfl
  | cons spec rest ih => exact ignoredKeys_bind (ignoredKeys_fieldValue? ..) fun _ => ih _

theorem ignoredKeys_resolve (schema : Schema) (context : Context) (members : Entries Json) :
    (schema.Unobjectionable members →
      (schema.resolve context (.obj members)).ignoredKeys = schema.unknownKeys members) ∧
    (¬schema.Unobjectionable members →
      (schema.resolve context (.obj members)).ignoredKeys = []) := by
  rw [unobjectionable_iff]
  simp only [resolve, resolveMembers]
  cases hdeprecated : schema.checkDeprecated members with
  | error error =>
    refine ⟨fun h => (by cases h.1), fun _ => ?_⟩
    exact Traced.ignoredKeys_bind_error (Traced.outcome_lift _)
  | ok _ =>
    rw [Traced.ignoredKeys_bind_ok (Traced.outcome_lift _)]
    cases hforbidden : schema.checkForbidden members with
    | error error =>
      refine ⟨fun h => (by cases h.2), fun _ => ?_⟩
      exact Traced.ignoredKeys_bind_error (Traced.outcome_lift _)
    | ok _ =>
      refine ⟨fun _ => ?_, fun h => absurd ⟨rfl, rfl⟩ h⟩
      obtain ⟨_, hreported⟩ :=
        Traced.each_emit_ok Event.unknownKeyIgnored (schema.unknownKeys members)
      have hrest (fields : FieldSet) : (do
          schema.checkRequired fields
          schema.checkConflicts fields
          Traced.emit (.fieldsResolved fields.size)
          pure fields : Traced FieldSet).ignoredKeys = [] :=
        ignoredKeys_bind (ignoredKeys_lift _) fun _ => ignoredKeys_bind (ignoredKeys_lift _)
          fun _ => rfl
      rw [Traced.ignoredKeys_bind_ok (Traced.outcome_lift _), Traced.ignoredKeys_bind_ok hreported,
        Traced.ignoredKeys_report, ignoredKeys_bind (ignoredKeys_readFields ..) hrest]
      simp

-- ---------------------------------------------------------------------------
-- What decides
-- ---------------------------------------------------------------------------

/-- Members have the same values present under the spellings of all fields, and the same keys that
the schema objects to. -/
structure SameReading (schema : Schema) (members others : Entries Json) : Prop where
  present : ∀ key ∈ schema.spellings, present? others key = present? members key
  objectionable : ∀ name ∈ schema.objectionable, others.has name = members.has name

theorem mem_spellings {spec : FieldSpec} (hspec : spec ∈ schema.fields)
    (hname : name = spec.key.shorthand ∨ name = spec.key.canonical) : name ∈ schema.spellings :=
  List.mem_flatMap.2 ⟨spec, hspec, FieldKey.mem_spellings.2 hname⟩

theorem SameReading.fieldValue?_eq (h : schema.SameReading members others) {spec : FieldSpec}
    (hspec : spec ∈ schema.fields) :
    fieldValue? context others spec = fieldValue? context members spec := by
  simp only [fieldValue?, h.present _ (mem_spellings hspec (.inl rfl)),
    h.present _ (mem_spellings hspec (.inr rfl))]

theorem SameReading.checkDeprecated_eq (h : schema.SameReading members others) :
    schema.checkDeprecated others = schema.checkDeprecated members := by
  rw [Schema.checkDeprecated_eq, Schema.checkDeprecated_eq]
  refine refuseFirst_congr fun retired hretired => ?_
  exact h.objectionable _ (List.mem_append_left _ (List.mem_map_of_mem hretired))

theorem SameReading.checkForbidden_eq (h : schema.SameReading members others) :
    schema.checkForbidden others = schema.checkForbidden members := by
  rw [Schema.checkForbidden_eq, Schema.checkForbidden_eq]
  refine refuseFirst_congr fun key hkey => ?_
  rw [Bool.eq_iff_iff, List.any_eq_true, List.any_eq_true]
  refine exists_congr fun name => and_congr_right fun hname => ?_
  rw [h.objectionable _ (List.mem_append_right _ (List.mem_flatMap.2 ⟨key, hkey, hname⟩))]

theorem SameReading.resolve_eq (h : schema.SameReading members others) :
    (schema.resolve context (.obj others)).outcome =
      (schema.resolve context (.obj members)).outcome := by
  have hread : (readFields context others schema.fields .empty).outcome =
      (readFields context members schema.fields .empty).outcome := by
    rw [outcome_readFields, outcome_readFields,
      mapM_congr fun spec hspec => congrArg Traced.outcome (h.fieldValue?_eq hspec)]
  rw [outcome_resolve, outcome_resolve, h.checkDeprecated_eq, h.checkForbidden_eq, hread]

/-- A key that holds `null` in some members, and so stands for no value, is absent from others. -/
structure DropsNull (schema : Schema) (members others : Entries Json) (key : String) : Prop where
  declared : key ∈ schema.spellings
  unobjectionable : key ∉ schema.objectionable
  null : members.find? key = some .null
  absent : others.find? key = none

theorem sameReading_of_idle
    (h : ∀ key, others.find? key = members.find? key ∨
      key ∉ schema.spellings ∧ key ∉ schema.objectionable ∨ schema.DropsNull members others key) :
    schema.SameReading members others := by
  refine ⟨fun key hkey => ?_, fun name hname => ?_⟩
  · rcases h key with heq | ⟨hunknown, -⟩ | hdrops
    · rw [present?, present?, heq]
    · exact absurd hkey hunknown
    · rw [present?, present?, hdrops.null, hdrops.absent]
      rfl
  · rcases h name with heq | ⟨-, hharmless⟩ | hdrops
    · rw [Entries.has, Entries.has, heq]
    · exact absurd hname hharmless
    · exact absurd hname hdrops.unobjectionable

theorem mem_unknownKeys : key ∈ schema.unknownKeys members ↔
    members.has key = true ∧ key ∉ schema.spellings := by
  have hkey : key ∈ members.map (·.1) ↔ members.has key = true := by
    rw [← Bool.not_eq_false, Entries.has_eq_false_iff, Entries.find?_eq_none_iff]
    simp
  rw [unknownKeys, List.mem_filter, hkey, decide_eq_true_iff]

theorem mem_ignoredKeys : key ∈ (schema.resolve context (.obj members)).ignoredKeys ↔
    members.has key = true ∧ key ∉ schema.spellings ∧ schema.Unobjectionable members := by
  obtain ⟨hreported, hrefused⟩ := ignoredKeys_resolve schema context members
  by_cases h : schema.Unobjectionable members
  · rw [hreported h, mem_unknownKeys]
    simp [h]
  · rw [hrefused h]
    simp [h]

theorem ascending_ignoredKeys (h : members.Ascending) :
    (schema.resolve context (.obj members)).ignoredKeys.Pairwise (· < ·) := by
  obtain ⟨hreported, hrefused⟩ := ignoredKeys_resolve schema context members
  by_cases hharmless : schema.Unobjectionable members
  · rw [hreported hharmless]
    exact (List.pairwise_map.2 h).filter _
  · rw [hrefused hharmless]
    exact .nil

/-- Statements with the same reading have the same fields, or are refused for the same reason. So
keys that are reported as unknown may be dropped or have any other values, and nulls of fields may
be dropped. The keys that are reported are all that belong to no field, in ascending order, unless
the statement is refused for a key that occurs in it. -/
theorem resolve_ignores (schema : Schema) (context : Context) (members : Entries Json)
    (hmembers : members.Ascending) :
    let resolved := schema.resolve context (.obj members)
    (∀ others, schema.SameReading members others →
      (schema.resolve context (.obj others)).outcome = resolved.outcome) ∧
    (∀ others, (∀ key, others.find? key = members.find? key ∨ key ∈ resolved.ignoredKeys ∨
        schema.DropsNull members others key) →
      (schema.resolve context (.obj others)).outcome = resolved.outcome) ∧
    (∀ key, key ∈ resolved.ignoredKeys ↔ members.has key = true ∧ key ∉ schema.spellings ∧
      ∀ name ∈ schema.objectionable, members.has name = false) ∧
    resolved.ignoredKeys.Pairwise (· < ·) := by
  intro resolved
  refine ⟨fun others => SameReading.resolve_eq, fun others h => ?_, fun key => mem_ignoredKeys,
    ascending_ignoredKeys hmembers⟩
  refine (sameReading_of_idle fun key => ?_).resolve_eq
  rcases h key with heq | hignored | hdrops
  · exact .inl heq
  · obtain ⟨hhas, hunknown, hharmless⟩ := mem_ignoredKeys.1 hignored
    refine .inr (.inl ⟨hunknown, fun hobjectionable => ?_⟩)
    rw [hharmless key hobjectionable] at hhas
    cases hhas
  · exact .inr (.inr hdrops)

/-- A field that is forbidden as well, a null, and two keys of no field. -/
theorem resolve_ignores_colour :
    let context : Context := .app
    let schema := empty.field (.word "one") .text |>.field (.word "two") .strings
      |>.forbid (.word "two") |>.retire "old" "renamed"
    let members : Entries Json :=
      [("One", .null), ("colour", .str "blue"), ("one", .str "x"), ("zone", .null)]
    let others : Entries Json := [("colour", .int 7), ("one", .str "x")]
    members.Ascending ∧ (schema.resolve context (.obj members)).ignoredKeys = ["colour", "zone"] ∧
      (∃ fields, (schema.resolve context (.obj members)).outcome = .ok fields ∧
        (schema.resolve context (.obj others)).outcome = .ok fields) := by
  intro context schema members others
  have hmembers : members.Ascending := by decide
  have hignored : (schema.resolve context (.obj members)).ignoredKeys = ["colour", "zone"] := rfl
  obtain ⟨fields, hfields⟩ : ∃ fields,
      (schema.resolve context (.obj members)).outcome = .ok fields := ⟨_, rfl⟩
  refine ⟨hmembers, hignored, fields, hfields, ?_⟩
  rw [← hfields]
  refine (resolve_ignores schema context members hmembers).2.1 others fun key => ?_
  by_cases hkey : key ∈ ["One", "colour", "one", "zone"]
  · simp only [List.mem_cons, List.not_mem_nil, or_false] at hkey
    rcases hkey with rfl | rfl | rfl | rfl
    · exact .inr (.inr ⟨by decide, by decide, rfl, rfl⟩)
    · exact .inr (.inl (hignored ▸ .head _))
    · exact .inl rfl
    · exact .inr (.inl (hignored ▸ .tail _ (.head _)))
  · simp only [List.mem_cons, not_or, List.not_mem_nil] at hkey
    obtain ⟨hfirst, hsecond, hthird, hfourth, -⟩ := hkey
    simp [members, others, Entries.find?_cons, Ne.symm hfirst, Ne.symm hsecond, Ne.symm hthird,
      Ne.symm hfourth]

end Schema

end AccessPolicy
