import AccessPolicy.Proofs.Compile.Admissible
import AccessPolicy.Proofs.Environment
import AccessPolicy.Proofs.Principal.Owner

/-!
# What a statement knows of the owner

A statement that refers to the owner as an entity of some kind compiles for such an owner only. One
that does not refer to the owner compiles alike for all owners (`compile_owner_scoped`).
-/

namespace AccessPolicy

def FieldKind.RefersToOwner : FieldKind → Json → OwnerKind → Prop
  | .resources _, value, wanted => Reference.ValueRefersToOwner value wanted
  | .principals, value, wanted => wanted = .role ∧ PrincipalEntry.ValueRefersToOwner value
  | _, _, _ => False

/-- A field is resolved in its turn: it is given in shorthand alone, no key is refused, and every
field before it is read. -/
structure Schema.Reaches (schema : Schema) (context : Context) (members : Entries Json)
    (spec : FieldSpec) (value : Json) : Prop where
  current : schema.checkDeprecated members = .ok ()
  permitted : schema.checkForbidden members = .ok ()
  earlier : ∃ before after, schema.fields = before ++ spec :: after ∧
    ∀ other ∈ before, ∃ read, (Schema.fieldValue? context members other).outcome = .ok read
  given : Schema.present? members spec.key.shorthand = some value
  alone : Schema.present? members spec.key.canonical = none

-- ---------------------------------------------------------------------------
-- Fields
-- ---------------------------------------------------------------------------

section
variable {kind : FieldKind} {value : Json}

theorem FieldKind.owner_of_resolve (h : (kind.resolve context field value).outcome = .ok taken)
    (hrefers : kind.RefersToOwner value wanted) : context.owner.kind = wanted := by
  cases kind with
  | resources only =>
    rw [outcome_resolve_resources, map_ok] at h
    obtain ⟨_, harns, -⟩ := h
    exact Reference.owner_of_resolveEntries harns hrefers
  | principals =>
    rw [outcome_resolve_principals, map_ok] at h
    obtain ⟨_, hentries, -⟩ := h
    obtain ⟨rfl, hrefers⟩ := hrefers
    exact PrincipalEntry.owner_of_resolve hentries hrefers
  | _ => exact hrefers.elim

theorem FieldKind.outcome_resolve_eq (environment : Environment) (owner other : Owner)
    (field : String) (h : ∀ wanted, ¬kind.RefersToOwner value wanted) :
    (kind.resolve ⟨environment, owner⟩ field value).outcome =
      (kind.resolve ⟨environment, other⟩ field value).outcome := by
  cases kind with
  | resources only =>
    rw [outcome_resolve_resources, outcome_resolve_resources, Reference.resolveEntries_eq h]
  | principals =>
    have hnot : ¬PrincipalEntry.ValueRefersToOwner value := fun hrefers => h .role ⟨rfl, hrefers⟩
    rw [outcome_resolve_principals, outcome_resolve_principals,
      PrincipalEntry.outcome_resolve_eq field owner other hnot]
  | _ => rfl

end

namespace Schema

section
variable {schema : Schema} {first second : Context} {members : Entries Json}

theorem fieldValue?_eq {spec : FieldSpec} (hne : spec.key.shorthand ≠ spec.key.canonical)
    (h : ∀ value, present? members spec.key.shorthand = some value →
      present? members spec.key.canonical = none →
        (spec.kind.resolve first spec.key.shorthand value).outcome =
          (spec.kind.resolve second spec.key.shorthand value).outcome) :
    (fieldValue? first members spec).outcome = (fieldValue? second members spec).outcome := by
  cases hshort : present? members spec.key.shorthand with
  | none =>
    cases hlong : present? members spec.key.canonical with
    | none => rw [fieldValue?_of_absent hshort hlong, fieldValue?_of_absent hshort hlong]
    | some _ => rw [fieldValue?_canonical _ _ hshort hlong, fieldValue?_canonical _ _ hshort hlong]
  | some value =>
    cases hlong : present? members spec.key.canonical with
    | none =>
      rw [fieldValue?_shorthand _ _ hshort hlong, fieldValue?_shorthand _ _ hshort hlong,
        h value hshort hlong]
    | some _ => rw [fieldValue?_both _ hshort hlong hne, fieldValue?_both _ hshort hlong hne]

theorem readFields_eq {specs : List FieldSpec} (fields : FieldSet)
    (h : ∀ before spec after, specs = before ++ spec :: after →
      (∀ earlier ∈ before, ∃ read, (fieldValue? first members earlier).outcome = .ok read) →
        (fieldValue? first members spec).outcome = (fieldValue? second members spec).outcome) :
    (readFields first members specs fields).outcome =
      (readFields second members specs fields).outcome := by
  induction specs generalizing fields with
  | nil => rfl
  | cons spec rest ih =>
    simp only [readFields, Traced.outcome_bind, h [] spec rest rfl (List.forall_mem_nil _)]
    refine bind_eq_of_ok fun value hvalue => ih _ ?_
    rintro before later after rfl hbefore
    have hread := (h [] spec _ rfl (List.forall_mem_nil _)).trans hvalue
    exact h (spec :: before) later after rfl (List.forall_mem_cons.2 ⟨⟨value, hread⟩, hbefore⟩)

theorem outcome_resolve_eq {raw : Json}
    (hne : ∀ spec ∈ schema.fields, spec.key.shorthand ≠ spec.key.canonical)
    (h : ∀ members spec value, raw = .obj members → schema.Reaches first members spec value →
      (spec.kind.resolve first spec.key.shorthand value).outcome =
        (spec.kind.resolve second spec.key.shorthand value).outcome) :
    (schema.resolve first raw).outcome = (schema.resolve second raw).outcome := by
  cases raw with
  | obj members =>
    simp only [resolve, resolveMembers, Traced.outcome_bind, Traced.outcome_lift]
    refine bind_eq_of_ok fun _ hcurrent => bind_eq_of_ok fun _ hpermitted => ?_
    have hread : (readFields first members schema.fields .empty).outcome =
        (readFields second members schema.fields .empty).outcome := by
      refine readFields_eq .empty fun before spec after hfields hbefore => ?_
      have hspec : spec ∈ schema.fields := hfields ▸ List.mem_append_right _ List.mem_cons_self
      exact fieldValue?_eq (hne spec hspec) fun value hshort hlong => h members spec value rfl
        ⟨hcurrent, hpermitted, ⟨before, after, hfields, hbefore⟩, hshort, hlong⟩
    simp only [hread]
  | _ => rfl

end

end Schema

-- ---------------------------------------------------------------------------
-- Statements
-- ---------------------------------------------------------------------------

/-- A statement one of whose fields comes to be resolved and refers to the owner does not compile
for an owner of another kind. If no such field refers to the owner, the outcome is that for any
other owner. -/
theorem compile_owner_scoped (kind : StatementKind) (environment : Environment) (owner : Owner)
    (raw : Json) :
    (∀ members spec value wanted, raw = .obj members →
      kind.schema.Reaches ⟨environment, owner⟩ members spec value →
      spec.kind.RefersToOwner value wanted → owner.kind ≠ wanted →
        ∃ error, (compile kind ⟨environment, owner⟩ raw).outcome = .error error) ∧
    ((∀ members spec value wanted, raw = .obj members →
        kind.schema.Reaches ⟨environment, owner⟩ members spec value →
        ¬spec.kind.RefersToOwner value wanted) →
      ∀ other, (compile kind ⟨environment, owner⟩ raw).outcome =
        (compile kind ⟨environment, other⟩ raw).outcome) := by
  constructor
  · rintro members spec value wanted rfl hreaches hrefers hkind
    cases h : (compile kind ⟨environment, owner⟩ (.obj members)).outcome with
    | error error => exact ⟨error, rfl⟩
    | ok statement =>
      obtain ⟨before, after, hfields, -⟩ := hreaches.earlier
      have hspec : spec ∈ kind.schema.fields := hfields ▸ List.mem_append_right _ List.mem_cons_self
      obtain ⟨taken, htaken⟩ := resolve_of_compile h hspec hreaches.given
      exact absurd (FieldKind.owner_of_resolve htaken hrefers) hkind
  · intro h other
    have hresolved : (kind.schema.resolve ⟨environment, owner⟩ raw).outcome =
        (kind.schema.resolve ⟨environment, other⟩ raw).outcome :=
      Schema.outcome_resolve_eq (fun _ => shorthand_ne_canonical_of_mem)
        fun members spec value hraw hreaches =>
          FieldKind.outcome_resolve_eq environment owner other _ fun wanted =>
            h members spec value wanted hraw hreaches
    simp only [compile, compileWith, Traced.outcome_bind, Traced.outcome_lift, hresolved]
    rfl

/-- For a role, a path in the owner's bucket is refused. A bucket whose name only begins like the
marker is an ordinary one, whoever the owner is. -/
theorem compile_owner_scoped_lookalike :
    let members (bucket : String) : Entries Json :=
      [("Effect", .str "Allow"), ("action", .str "s3:GetObject"),
        ("resource", .obj [("s3", .str bucket)])]
    (∃ error,
      (compile .permission .app (.obj (members "__self__/logs"))).outcome = .error error) ∧
    ∀ other, (compile .permission .app (.obj (members "__self__-logs"))).outcome =
      (compile .permission ⟨.main, other⟩ (.obj (members "__self__-logs"))).outcome := by
  intro members
  constructor
  · have hbefore : ∀ spec ∈ Schema.policy.fields.take 4, ∃ read,
        (Schema.fieldValue? .app (members "__self__/logs") spec).outcome = .ok read := by
      show ∀ spec ∈ [_, _, _, _], _
      simp only [List.forall_mem_cons]
      exact ⟨⟨_, rfl⟩, ⟨_, rfl⟩, ⟨_, rfl⟩, ⟨_, rfl⟩, List.forall_mem_nil _⟩
    have hreaches : Schema.permission.Reaches .app (members "__self__/logs")
        ⟨.resource, .resources none⟩ (.obj [("s3", .str "__self__/logs")]) :=
      ⟨rfl, rfl, ⟨_, _, rfl, hbefore⟩, rfl, rfl⟩
    have hmarked : Service.Marks .s3 (.str "__self__/logs") :=
      ⟨_, ⟨_, .head _, rfl⟩, .inr ⟨"logs", rfl⟩⟩
    exact (compile_owner_scoped .permission .main ⟨.role, "app"⟩ _).1 _ _ _ .bucket rfl hreaches
      ⟨_, .head _, .s3, _, rfl, rfl, hmarked⟩ (by simp)
  · refine (compile_owner_scoped .permission .main ⟨.role, "app"⟩ _).2 ?_
    rintro _ spec value wanted ⟨⟩ hreaches hrefers
    have hvalue : ∀ inner : Entries Json, .obj inner ∈ value.entries →
        inner = [("s3", .str "__self__-logs")] := by
      have hmember := Entries.mem_of_find? (Option.filter_eq_some_iff.1 hreaches.given).1
      simp only [members, List.mem_cons, Prod.mk.injEq, List.not_mem_nil, or_false] at hmember
      rcases hmember with ⟨-, rfl⟩ | ⟨-, rfl⟩ | ⟨-, rfl⟩ <;> simp [Json.entries]
    unfold FieldKind.RefersToOwner at hrefers
    split at hrefers
    · obtain ⟨inner, hinner, service, tagged, -, htagged, hmarks⟩ := hrefers
      obtain rfl := hvalue inner hinner
      cases service with
      | s3 =>
        obtain rfl := Option.some.inj htagged
        obtain ⟨bucket, ⟨item, hitem, hbucket⟩, hmarked⟩ := hmarks
        obtain rfl := List.mem_singleton.1 hitem
        obtain rfl := Option.some.inj hbucket
        exact absurd (Reference.isSome_afterMarker?.2 hmarked) (by decide)
      | iam | kms | arn => cases htagged
    · obtain ⟨-, inner, hinner, key, hkey, names, hnames, -⟩ := hrefers
      obtain rfl := hvalue inner hinner
      obtain rfl : key = "s3" := congrArg Prod.fst (List.mem_singleton.1 hnames)
      simp [PrincipalEntry.roleKeys] at hkey
    · exact hrefers

end AccessPolicy
