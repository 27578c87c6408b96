import AccessPolicy.Compile.KeyPolicy
import AccessPolicy.Proofs.Compile.Reread
import AccessPolicy.Proofs.Environment
import AccessPolicy.Proofs.Reference.Entries
import AccessPolicy.Proofs.Statement.Rendered

/-!
# Policies of keys keep their defaults

A policy of a key has a statement for each permission, one that gives the account all access unless
that is declined, and one for each administrator (`compileKeyPolicy_access`). All of them are
compiled from raw statements, so what the last ones say depends on how references resolve.
-/

namespace AccessPolicy

def accessStatement (resources : List String) (principals : List PrincipalEntry) : Statement :=
  .resourcePolicy ⟨⟨some "", none, ["kms:*"], [], resources, [], none, none⟩, principals, []⟩

def rootMembers (account : String) : Entries Json :=
  [("Action", .str "kms:*"), ("Effect", .str "Allow"),
    ("Principal", .obj [("AWS", .str ("arn:aws:iam::" ++ account ++ ":root"))]),
    ("Resource", .str "*"), ("Sid", .str "")]

def ownerKeyArn (context : Context) (account : String) : String :=
  "arn:aws:kms:" ++ context.location ++ ":" ++ account ++ ":alias/" ++ context.owner.name

/-- The principals that a field is set to by a value. -/
def PrincipalsOf (context : Context) (value : Json) (entries : List PrincipalEntry) : Prop :=
  if value.isNull then entries = []
  else (PrincipalEntry.resolve context "principal" value).outcome = .ok entries

/-- A statement gives the principals that an administrator's value names all access to the key that
owns the policy, and renders as a grant. -/
structure Administers (context : Context) (account : String) (admin : Json)
    (statement : Statement) : Prop where
  owner : context.owner.kind = .key
  access : ∃ entries, PrincipalsOf context admin entries ∧
    statement = accessStatement [ownerKeyArn context account] entries
  effect : ∀ members, statement.render.outcome = .ok members →
    members.find? "Effect" = some (.str "Allow")

-- ---------------------------------------------------------------------------
-- Raw statements that give access
-- ---------------------------------------------------------------------------

def accessMembers (principal resource : Json) : Entries Json :=
  [("Sid", .str ""), ("action", .str "kms:*"), ("principal", principal), ("resource", resource)]

theorem rootStatement_eq :
    rootStatement = .obj (accessMembers (.obj [("iam", .str "root")]) (.str "*")) := rfl

theorem adminStatement_eq (admin : Json) :
    adminStatement admin = .obj (accessMembers admin (.obj [("kms", .str ownerMarker)])) := rfl

section
variable {context : Context} {principal resource : Json} {statement : Statement}

theorem fieldValue?_resource_ok (hnull : resource.isNull = false) :
    (Schema.fieldValue? context (accessMembers principal resource)
        ⟨.resource, .resources none⟩).outcome = .ok value ↔
      ∃ arns, Reference.resolveEntries context "resource" none resource.entries = .ok arns ∧
        some (.list arns) = value := by
  have hshort : Schema.present? (accessMembers principal resource) FieldKey.resource.shorthand =
      some resource := by
    show Option.filter _ (some resource) = _
    simp [hnull]
  rw [Schema.fieldValue?_shorthand context ⟨.resource, .resources none⟩ hshort rfl,
    FieldKind.outcome_resolve_resources]
  simp only [map_ok, exists_exists_and_eq_and]
  rfl

theorem fieldValue?_principal_ok :
    (Schema.fieldValue? context (accessMembers principal resource)
        ⟨.principal, .principals⟩).outcome = .ok value ↔
      ∃ entries, PrincipalsOf context principal entries ∧
        (if principal.isNull then none else some (.principals entries)) = value := by
  have hshort : Schema.present? (accessMembers principal resource) FieldKey.principal.shorthand =
      if principal.isNull then none else some principal := by
    show Option.filter _ (some principal) = _
    cases hnull : principal.isNull <;> simp [hnull]
  cases hnull : principal.isNull with
  | true =>
    rw [hnull] at hshort
    rw [Schema.fieldValue?_of_absent hshort rfl]
    simp [PrincipalsOf, hnull]
  | false =>
    rw [hnull] at hshort
    rw [Schema.fieldValue?_shorthand context ⟨.principal, .principals⟩ hshort rfl,
      FieldKind.outcome_resolve_principals]
    simp only [map_ok, exists_exists_and_eq_and, PrincipalsOf, hnull]
    rfl

theorem effective_principals (h : PrincipalsOf context principal entries) :
    Schema.effective (if principal.isNull then none else some (.principals entries)) =
      FieldValue.ofPrincipals? entries := by
  unfold PrincipalsOf at h
  split at h
  · subst h
    simp [*]
    rfl
  · cases entries <;> simp [*] <;> rfl

theorem compile_access (hnull : resource.isNull = false)
    (hresource : Reference.resolveEntries context "resource" none resource.entries = .ok arns)
    (hprincipal : PrincipalsOf context principal entries) :
    (compile .resourcePolicy context (.obj (accessMembers principal resource))).outcome =
      .ok (accessStatement arns entries) := by
  have hadmissible : (accessStatement arns entries).Admissible := by
    simp [Statement.Admissible, accessStatement, PolicyBody.Unambiguous]
  show (compile (accessStatement arns entries).kind context _).outcome = _
  refine compile_policy_of_gives rfl (fun _ => id) hadmissible ?_
  have habsent {spec : FieldSpec}
      (hshort : Schema.present? (accessMembers principal resource) spec.key.shorthand = none)
      (hlong : Schema.present? (accessMembers principal resource) spec.key.canonical = none) :
      Gives context (accessMembers principal resource) spec none :=
    ⟨none, Schema.fieldValue?_of_absent hshort hlong, rfl⟩
  simp only [PolicyStatement.fieldValues, PolicyBody.fieldValues, List.cons_append, List.nil_append,
    List.forall_mem_cons]
  exact ⟨⟨some (.text ""), Schema.fieldValue?_of_canonical rfl rfl rfl, rfl⟩, habsent rfl rfl,
    ⟨some (.list ["kms:*"]), Schema.fieldValue?_of_shorthand rfl rfl rfl, rfl⟩, habsent rfl rfl,
    ⟨_, (fieldValue?_resource_ok hnull).2 ⟨arns, hresource, rfl⟩, effective_list arns⟩,
    habsent rfl rfl, habsent rfl rfl, habsent rfl rfl,
    ⟨_, fieldValue?_principal_ok.2 ⟨entries, hprincipal, rfl⟩, effective_principals hprincipal⟩,
    habsent rfl rfl, List.forall_mem_nil _⟩

theorem compile_access_ok (hnull : resource.isNull = false) :
    (compile .resourcePolicy context (.obj (accessMembers principal resource))).outcome =
        .ok statement ↔
      ∃ arns entries, Reference.resolveEntries context "resource" none resource.entries = .ok arns ∧
        PrincipalsOf context principal entries ∧ statement = accessStatement arns entries := by
  constructor
  · intro h
    obtain ⟨_, -, hread⟩ := fields_of_compile h
    obtain ⟨_, hvalue, -⟩ := hread _ (List.mem_of_getElem? (i := 4) rfl)
    obtain ⟨_, hnamed, -⟩ := hread _ (List.mem_of_getElem? (i := 8) rfl)
    obtain ⟨arns, harns, -⟩ := (fieldValue?_resource_ok hnull).1 hvalue
    obtain ⟨entries, hentries, -⟩ := fieldValue?_principal_ok.1 hnamed
    exact ⟨arns, entries, harns, hentries,
      Except.ok.inj (h.symm.trans (compile_access hnull harns hentries))⟩
  · rintro ⟨arns, entries, harns, hentries, rfl⟩
    exact compile_access hnull harns hentries

end

-- ---------------------------------------------------------------------------
-- The account
-- ---------------------------------------------------------------------------

section
variable {context : Context} {account : String}

theorem iamArns_root (account : String) :
    Reference.iamArns account "root" [] = ["arn:aws:iam::" ++ account ++ ":root"] := by
  have hroot : ":root" = ":" ++ "root" := rfl
  simp [Reference.iamArns, beginsWith, hroot, String.append_assoc]

def rootEntry (account : String) : PrincipalEntry :=
  .mapping ⟨some (.one ("arn:aws:iam::" ++ account ++ ":root")), none, none⟩

theorem principalsOf_root (haccount : context.environment.defaultAccountId = .ok account) :
    PrincipalsOf context (.obj [("iam", .str "root")]) [rootEntry account] := by
  have hreference : (Reference.iam ["root"] [] ⟨[], none⟩).resolve context =
      .ok (Reference.iamArns account "root" []) := by
    show (context.environment.accountIds [] >>= _) = _
    rw [Environment.accountIds_nil haccount]
    rfl
  have hcontribution : PrincipalEntry.contribution context "principal" [("iam", .str "root")] "iam"
      (.str "root") = .ok (some (.aws, ["arn:aws:iam::" ++ account ++ ":root"])) := by
    show ((Reference.iam ["root"] [] ⟨[], none⟩).resolve context >>= _) = _
    rw [hreference, iamArns_root]
    rfl
  show (PrincipalEntry.resolve context "principal" (.obj [("iam", .str "root")])).outcome = _
  simp only [PrincipalEntry.resolve, Json.entries, Traced.each, PrincipalEntry.resolveEntry,
    PrincipalEntry.resolveMapping, PrincipalEntry.shorthandBuckets, Traced.outcome_bind,
    Traced.outcome_lift, hcontribution]
  rfl

theorem render_root (account : String) :
    (accessStatement ["*"] [rootEntry account]).render.outcome = .ok (rootMembers account) := rfl

theorem compile_root (haccount : context.environment.defaultAccountId = .ok account) :
    (compile .resourcePolicy context rootStatement).outcome =
      .ok (accessStatement ["*"] [rootEntry account]) := by
  rw [rootStatement_eq]
  exact compile_access rfl (Reference.resolveEntries_literal ..) (principalsOf_root haccount)

-- ---------------------------------------------------------------------------
-- Administrators
-- ---------------------------------------------------------------------------

theorem resolveKms_owner_ok (haccount : context.environment.defaultAccountId = .ok account) :
    Reference.resolveKms context [.alias ownerMarker] ⟨[], none⟩ = .ok arns ↔
      context.owner.kind = .key ∧ arns = [ownerKeyArn context account] := by
  have harn : Reference.keyArn context context.location account (.alias ownerMarker) =
      ownerKeyArn context account := rfl
  show (context.requireOwner .key "key" >>= fun _ =>
    context.environment.accountIds [] >>= _) = _ ↔ _
  simp [Environment.accountIds_nil haccount, Context.requireOwner, bind_ok, pairs, harn,
    eq_comm (a := arns)]

theorem resolveEntries_owner_ok (haccount : context.environment.defaultAccountId = .ok account) :
    Reference.resolveEntries context "resource" none [.obj [("kms", .str ownerMarker)]] =
        .ok arns ↔
      context.owner.kind = .key ∧ arns = [ownerKeyArn context account] := by
  have hentry : Reference.resolveEntry context "resource" none (.obj [("kms", .str ownerMarker)]) =
      Reference.resolveKms context [.alias ownerMarker] ⟨[], none⟩ := rfl
  simp only [Reference.resolveEntries, mapM_singleton, hentry, bind_ok, map_ok,
    resolveKms_owner_ok haccount]
  constructor
  · rintro ⟨_, ⟨_, ⟨howner, rfl⟩, rfl⟩, ⟨⟩⟩
    exact ⟨howner, ascending_singleton _⟩
  · rintro ⟨howner, rfl⟩
    exact ⟨_, ⟨_, ⟨howner, rfl⟩, rfl⟩, congrArg Except.ok (ascending_singleton _)⟩

theorem effect_access (h : (accessStatement resources principals).render.outcome = .ok members) :
    members.find? "Effect" = some (.str "Allow") := by
  obtain ⟨merged, -, heq⟩ := bind_ok.1 h
  obtain rfl := Except.ok.inj heq
  exact find?_renderWith _ _ _

theorem compile_admin_ok (haccount : context.environment.defaultAccountId = .ok account) :
    (compile .resourcePolicy context (adminStatement admin)).outcome = .ok statement ↔
      Administers context account admin statement := by
  rw [adminStatement_eq, compile_access_ok rfl]
  constructor
  · rintro ⟨_, entries, harns, hentries, rfl⟩
    obtain ⟨howner, rfl⟩ := (resolveEntries_owner_ok haccount).1 harns
    exact ⟨howner, ⟨entries, hentries, rfl⟩, fun _ => effect_access⟩
  · rintro ⟨howner, ⟨entries, hentries, rfl⟩, -⟩
    exact ⟨_, entries, (resolveEntries_owner_ok haccount).2 ⟨howner, rfl⟩, hentries, rfl⟩

-- ---------------------------------------------------------------------------
-- Documents
-- ---------------------------------------------------------------------------

def rootStatements (account : String) (noRootAccess : Bool) : List Statement :=
  if noRootAccess then [] else [accessStatement ["*"] [rootEntry account]]

theorem renders_rootStatements (account : String) (noRootAccess : Bool) :
    Document.Renders (rootStatements account noRootAccess)
      (if noRootAccess then [] else [rootMembers account]) := by
  cases noRootAccess with
  | true => exact .nil
  | false => exact .cons (render_root account) .nil

theorem compile_defaults (haccount : context.environment.defaultAccountId = .ok account) :
    List.Forall₂
        (fun raw statement => (compile .resourcePolicy context raw).outcome = .ok statement)
        (if noRootAccess then [] else [rootStatement]) roots ↔
      roots = rootStatements account noRootAccess := by
  cases noRootAccess with
  | true => exact List.forall₂_nil_left_iff
  | false =>
    simp [rootStatements, List.forall₂_cons_left_iff, compile_root haccount, eq_comm]

theorem compileKeyPolicy_ok (haccount : context.environment.defaultAccountId = .ok account) :
    (compileKeyPolicy context permission adminUsers noRootAccess).outcome = .ok document ↔
      ∃ plain admins,
        document.statements = plain ++ rootStatements account noRootAccess ++ admins ∧
        List.Forall₂ (fun raw statement =>
          (compile .resourcePolicy context raw).outcome = .ok statement) permission plain ∧
        List.Forall₂ (Administers context account) adminUsers admins := by
  simp only [compileKeyPolicy, defaultKeyStatements, compileDocument_ok, forall₂_append_left_iff,
    List.forall₂_map_left_iff, compile_admin_ok haccount, compile_defaults haccount]
  constructor
  · rintro ⟨plain, _, hstatements, hplain, _, admins, rfl, rfl, hadmins⟩
    exact ⟨plain, admins, by rw [hstatements, List.append_assoc], hplain, hadmins⟩
  · rintro ⟨plain, admins, hstatements, hplain, hadmins⟩
    exact ⟨plain, _, by rw [hstatements, List.append_assoc], hplain, _, admins, rfl, rfl, hadmins⟩

/-- In an accepted environment the policy of a key has the permissions' statements, then one that
gives the account all access unless that is declined, then one for each administrator. Only a key
can have administrators. -/
theorem compileKeyPolicy_access (context : Context) (permission adminUsers : List Json)
    (noRootAccess : Bool) (hvalid : context.environment.validate.outcome = .ok ()) :
    ∃ account, context.environment.defaultAccountId = .ok account ∧
      (∀ document,
        (compileKeyPolicy context permission adminUsers noRootAccess).outcome = .ok document →
          document.statements.length =
            permission.length + (if noRootAccess then 0 else 1) + adminUsers.length ∧
          ∃ plain root admins, document.statements = plain ++ root ++ admins ∧
            List.Forall₂ (fun raw statement =>
              (compile .resourcePolicy context raw).outcome = .ok statement) permission plain ∧
            Document.Renders root (if noRootAccess then [] else [rootMembers account]) ∧
            List.Forall₂ (Administers context account) adminUsers admins) ∧
      (adminUsers ≠ [] → context.owner.kind ≠ .key →
        ∃ error, (compileKeyPolicy context permission adminUsers noRootAccess).outcome =
          .error error) := by
  obtain ⟨account, haccount⟩ :=
    Environment.exists_defaultAccountId.2 (Environment.validate_ok.1 hvalid)
  refine ⟨account, haccount, fun document h => ?_, fun hadmins howner => ?_⟩
  · obtain ⟨plain, admins, hstatements, hplain, hadmins⟩ := (compileKeyPolicy_ok haccount).1 h
    refine ⟨?_, plain, _, admins, hstatements, hplain, renders_rootStatements account noRootAccess,
      hadmins⟩
    simp only [hstatements, List.length_append, hplain.length_eq, hadmins.length_eq]
    cases noRootAccess <;> rfl
  · cases h : (compileKeyPolicy context permission adminUsers noRootAccess).outcome with
    | error error => exact ⟨error, rfl⟩
    | ok document =>
      obtain ⟨_, _, -, -, hall⟩ := (compileKeyPolicy_ok haccount).1 h
      obtain ⟨admin, rest, rfl⟩ := List.exists_cons_of_ne_nil hadmins
      obtain ⟨_, _, hadmin, -⟩ := List.forall₂_cons_left_iff.1 hall
      exact absurd hadmin.owner howner

/-- A key with a permission and an administrator: the account keeps all access. For a role the same
administrator is refused. -/
theorem compileKeyPolicy_access_administered :
    let key : Context := ⟨.main, .key, "vault"⟩
    let role : Context := ⟨.main, .role, "app"⟩
    let permission : Json := .obj (accessMembers (.str "*") (.str "*"))
    let admin : Json := .obj [("AWS", .str "123456789012")]
    (∃ document, (compileKeyPolicy key [permission] [admin] false).outcome = .ok document ∧
      ∃ plain root administered rendered, document.statements = [plain, root, administered] ∧
        root.render.outcome = .ok (rootMembers "123456789012") ∧
        Administers key "123456789012" admin administered ∧
        administered.render.outcome = .ok rendered) ∧
    ∃ error, (compileKeyPolicy role [permission] [admin] false).outcome = .error error := by
  intro key role permission admin
  have hpermission : (compile .resourcePolicy key permission).outcome =
      .ok (accessStatement ["*"] [.literal "*"]) :=
    compile_access rfl (Reference.resolveEntries_literal ..) rfl
  have hadmin : PrincipalsOf key admin [.mapping ⟨some (.one "123456789012"), none, none⟩] := rfl
  constructor
  · have hadministers : Administers key "123456789012" admin (accessStatement _ _) :=
      ⟨rfl, ⟨_, hadmin, rfl⟩, fun _ => effect_access⟩
    obtain ⟨document, hdocument⟩ : ∃ document,
        (compileKeyPolicy key [permission] [admin] false).outcome = .ok document :=
      ⟨⟨_⟩, (compileKeyPolicy_ok rfl).2
        ⟨_, _, rfl, .cons hpermission .nil, .cons hadministers .nil⟩⟩
    obtain ⟨account, haccount, hstatements, -⟩ :=
      compileKeyPolicy_access key [permission] [admin] false rfl
    obtain rfl : account = "123456789012" := (Except.ok.inj haccount).symm
    obtain ⟨-, _, _, _, hstatements, hplain, hroot, hadmins⟩ := hstatements document hdocument
    obtain ⟨plain, _, -, ⟨⟩, rfl⟩ := List.forall₂_cons_left_iff.1 hplain
    obtain ⟨root, _, hrendered, ⟨⟩, rfl⟩ := List.forall₂_cons_right_iff.1 hroot
    obtain ⟨administered, _, hgiven, ⟨⟩, rfl⟩ := List.forall₂_cons_left_iff.1 hadmins
    obtain ⟨entries, hentries, rfl⟩ := hgiven.access
    obtain rfl := Except.ok.inj (hentries.symm.trans hadmin)
    exact ⟨document, hdocument, plain, root, _, _, hstatements, hrendered, hgiven, rfl⟩
  · obtain ⟨_, -, -, hrefused⟩ := compileKeyPolicy_access role [permission] [admin] false rfl
    exact hrefused (List.cons_ne_nil _ _) (by decide)

end

end AccessPolicy
