import AccessPolicy.Proofs.Principal.Shorthand
import AccessPolicy.Proofs.Reference.Entries

/-!
# Roles as principals and as resources

Principals and resources name roles by the same mappings, which each reads in a way of its own. Both
read the same identifiers from them (`resolve_roleMapping_iff`).
-/

namespace AccessPolicy

/-- The keys by which a principal names roles, and the kinds of their buckets. -/
inductive RoleKey : String → PrincipalKind → Prop
  | iam : RoleKey "iam" .aws
  | federated : RoleKey "federated" .federated

def roleMapping (key : String) (names : Json) (users accounts : Option Json) : Json :=
  .ofMembers ((key, names) :: ((users.map fun value => ("users", value)).toList ++
    (accounts.map fun value => ("account", value)).toList))

def roleMembers (key : String) (names : Json) (users accounts : Option Json) : Entries Json :=
  (accounts.map fun value => ("account", value)).toList ++
    (key, names) :: (users.map fun value => ("users", value)).toList

/-- The identifiers of roles that are written as `names`, `users` and `accounts` list them. -/
def RoleArns (context : Context) (names users accounts : Json) (arns : List String) : Prop :=
  ∃ roleTexts userTexts accountTexts,
    names.Listing roleTexts ∧ users.Listing userTexts ∧ accounts.Listing accountTexts ∧
      (Reference.iam roleTexts userTexts ⟨accountTexts, none⟩).resolve context = .ok arns

section
variable {context : Context} {names : Json} {users accounts : Option Json}

theorem roleMapping_eq (h : RoleKey key kind) :
    roleMapping key names users accounts = .obj (roleMembers key names users accounts) := by
  cases h <;> cases users <;> cases accounts <;> rfl

theorem memberOf_users (h : RoleKey key kind) :
    Json.memberOf (roleMembers key names users accounts) "users" = users.getD .null := by
  cases h <;> cases users <;> cases accounts <;> rfl

theorem memberOf_account (h : RoleKey key kind) :
    Json.memberOf (roleMembers key names users accounts) "account" = accounts.getD .null := by
  cases h <;> cases users <;> cases accounts <;> rfl

-- ---------------------------------------------------------------------------
-- Principals
-- ---------------------------------------------------------------------------

namespace PrincipalEntry

theorem keyStrings_eq (field : String) (members : Entries Json) (key : String) :
    keyStrings field members key = (Json.memberOf members key).stringList field := by
  rw [keyStrings, Json.memberOf]
  cases members.find? key <;> rfl

theorem identities_ok {members : Entries Json} :
    identities context field members names = .ok arns ↔
      RoleArns context names (Json.memberOf members "users") (Json.memberOf members "account")
        arns := by
  simp only [identities, bind_ok, keyStrings_eq, Json.stringList_iff]
  constructor
  · rintro ⟨_, hnames, _, husers, _, haccounts, harns⟩
    exact ⟨_, _, _, hnames, husers, haccounts, harns⟩
  · rintro ⟨_, _, _, hnames, husers, haccounts, harns⟩
    exact ⟨_, hnames, _, husers, _, haccounts, harns⟩

theorem shorthandBuckets_role (h : RoleKey key kind) (field : String)
    (members rest : Entries Json) (buckets : Buckets) :
    shorthandBuckets context field members buckets ((key, names) :: rest) =
      identities context field members names >>= fun arns =>
        shorthandBuckets context field members (buckets.extend kind arns) rest := by
  have hgiven : contribution context field members key names =
      identities context field members names >>= fun arns => .ok (some (kind, arns)) := by
    cases h <;> rfl
  rw [shorthandBuckets, hgiven]
  cases identities context field members names <;> rfl

theorem shorthandBuckets_roleMembers (h : RoleKey key kind) (field : String)
    (members : Entries Json) :
    shorthandBuckets context field members .empty (roleMembers key names users accounts) =
      identities context field members names >>= fun arns =>
        .ok (Buckets.empty.extend kind arns) := by
  have haccounts : shorthandBuckets context field members .empty
        (roleMembers key names users accounts) =
      shorthandBuckets context field members .empty
        ((key, names) :: (users.map fun value => ("users", value)).toList) := by
    cases accounts <;> rfl
  have husers (buckets : Buckets) : shorthandBuckets context field members buckets
      (users.map fun value => ("users", value)).toList = .ok buckets := by
    cases users <;> rfl
  simp only [haccounts, shorthandBuckets_role h, husers]

theorem checkModifiers_roleMembers (h : RoleKey key kind) (field : String) :
    checkModifiers field (roleMembers key names users accounts) = .ok () := by
  cases h <;> cases users <;> cases accounts <;> rfl

theorem resolve_roleMapping_ok (h : RoleKey key kind) :
    (resolve context field (roleMapping key names users accounts)).outcome = .ok entries ↔
      ∃ arns, RoleArns context names (users.getD .null) (accounts.getD .null) arns ∧
        entries = [.mapping (.ofBuckets (Buckets.empty.extend kind arns))] := by
  have hresolve : (resolve context field (roleMapping key names users accounts)).outcome =
      (identities context field (roleMembers key names users accounts) names).map fun arns =>
        [.mapping (.ofBuckets (Buckets.empty.extend kind arns))] := by
    rw [roleMapping_eq h]
    simp only [resolve, Json.entries, Traced.outcome_each, mapM_singleton, resolveEntry,
      Traced.outcome_bind, outcome_resolveMapping, checkModifiers_roleMembers h,
      shorthandBuckets_roleMembers h]
    cases identities context field (roleMembers key names users accounts) names <;> rfl
  simp only [hresolve, map_ok, identities_ok, memberOf_users h, memberOf_account h,
    @eq_comm _ _ entries]

end PrincipalEntry

-- ---------------------------------------------------------------------------
-- Resources
-- ---------------------------------------------------------------------------

namespace Reference

theorem tagged_roleMembers (names : Json) (users accounts : Option Json) :
    Tagged (roleMembers "iam" names users accounts) .iam := by
  refine ⟨?_, fun other hother => ?_, ?_⟩
  · cases accounts <;> rfl
  · cases other with
    | iam => rfl
    | _ => cases users <;> cases accounts <;> exact nomatch hother
  · cases users <;> cases accounts <;> simp [roleMembers, Service.tag, Service.modifiers]

theorem resolveEntry_iam_ok {members : Entries Json} (h : Tagged members .iam) :
    resolveEntry context field none (.obj members) = .ok arns ↔
      RoleArns context (Json.memberOf members "iam") (Json.memberOf members "users")
        (Json.memberOf members "account") arns := by
  simp only [resolveEntry_ok, ofJson_ok]
  constructor
  · rintro ⟨reference, hwritten, -, harns⟩
    cases hwritten with
    | iam _ hnames husers haccounts => exact ⟨_, _, _, hnames, husers, haccounts, harns⟩
    | s3 htag | kms htag | arn htag => cases h.alone _ htag.tag
  · rintro ⟨_, _, _, hnames, husers, haccounts, harns⟩
    exact ⟨_, .iam h hnames husers haccounts, rfl, harns⟩

end Reference

theorem resolveResources_roleMapping_ok :
    (resolveResources context field (roleMapping "iam" names users accounts) none).outcome =
        .ok arns ↔
      ∃ roles, RoleArns context names (users.getD .null) (accounts.getD .null) roles ∧
        arns = ascending roles := by
  have hnames : Json.memberOf (roleMembers "iam" names users accounts) "iam" = names := by
    cases users <;> cases accounts <;> rfl
  have htagged := Reference.tagged_roleMembers names users accounts
  rw [roleMapping_eq .iam, outcome_resolveResources]
  simp only [Json.entries, Reference.resolveEntries_singleton, map_ok,
    Reference.resolveEntry_iam_ok htagged, hnames, memberOf_users .iam, memberOf_account .iam,
    @eq_comm _ _ arns]

-- ---------------------------------------------------------------------------
-- Both
-- ---------------------------------------------------------------------------

theorem ofBuckets_extend_ascending (kind : PrincipalKind) (texts : List String) :
    Principal.ofBuckets (Buckets.empty.extend kind (ascending texts)) =
      Principal.ofBuckets (Buckets.empty.extend kind texts) := by
  cases kind <;> simp [Principal.ofBuckets, Buckets.extend, Buckets.empty]

theorem resolve_roleMapping_ok_iff (h : RoleKey key kind) (field other : String) :
    (PrincipalEntry.resolve context field (roleMapping key names users accounts)).outcome =
        .ok entries ↔
      ∃ arns, (resolveResources context other
          (roleMapping "iam" names users accounts) none).outcome = .ok arns ∧
        entries = [.mapping (.ofBuckets (Buckets.empty.extend kind arns))] := by
  simp only [PrincipalEntry.resolve_roleMapping_ok h, resolveResources_roleMapping_ok]
  constructor
  · rintro ⟨roles, hroles, rfl⟩
    exact ⟨_, ⟨roles, hroles, rfl⟩, by rw [ofBuckets_extend_ascending]⟩
  · rintro ⟨_, ⟨roles, hroles, rfl⟩, rfl⟩
    exact ⟨roles, hroles, by rw [ofBuckets_extend_ascending]⟩

end

/-- Roles, users and accounts mean the same in a principal as in a resource. The principal has one
bucket, which holds what the resource is, and none if that is nothing. -/
theorem resolve_roleMapping_iff (context : Context) (field other : String) (names : Json)
    (users accounts : Option Json) :
    (∀ entries,
      (PrincipalEntry.resolve context field
          (roleMapping "iam" names users accounts)).outcome = .ok entries ↔
        ∃ arns, (resolveResources context other
            (roleMapping "iam" names users accounts) none).outcome = .ok arns ∧
          entries = [.mapping ⟨ListShape.canonical? arns, none, none⟩]) ∧
    ∀ entries,
      (PrincipalEntry.resolve context field
          (roleMapping "federated" names users accounts)).outcome = .ok entries ↔
        ∃ arns, (resolveResources context other
            (roleMapping "iam" names users accounts) none).outcome = .ok arns ∧
          entries = [.mapping ⟨none, ListShape.canonical? arns, none⟩] :=
  ⟨fun _ => resolve_roleMapping_ok_iff .iam field other,
    fun _ => resolve_roleMapping_ok_iff .federated field other⟩

end AccessPolicy
