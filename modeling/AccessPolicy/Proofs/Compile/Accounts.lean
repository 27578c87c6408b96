import AccessPolicy.Proofs.Compile.Admissible
import AccessPolicy.Proofs.Principal.Accounts

/-!
# Accounts of statements

A statement is refused for want of an account only if it lists the account and the environment does
not have it, and a statement that lists such an account does not compile (`compile_unknownAccount`).
-/

namespace AccessPolicy

def FieldKind.Refers : FieldKind → Prop
  | .resources _ | .principals => True
  | _ => False

/-- A declared field of resources or principals has a value, in either spelling, with a mapping that
lists an account. -/
def Schema.ListsAccount (schema : Schema) (members : Entries Json) (account : String) : Prop :=
  ∃ spec ∈ schema.fields, spec.kind.Refers ∧ ∃ name ∈ spec.key.spellings, ∃ value,
    members.find? name = some value ∧ ∃ inner : Entries Json, .obj inner ∈ value.entries ∧
      AccessPolicy.ListsAccount inner account

-- ---------------------------------------------------------------------------
-- Fields
-- ---------------------------------------------------------------------------

namespace FieldKind

section
variable {kind : FieldKind} {context : Context} {value : Json} {inner : Entries Json}

theorem knows_of_resolve (hvalid : context.environment.Valid) (hrefers : kind.Refers)
    (h : (kind.resolve context field value).outcome = .ok taken)
    (hentry : .obj inner ∈ value.entries) (hlisted : ListsAccount inner account) :
    context.environment.Knows account := by
  cases kind with
  | resources only =>
    rw [outcome_resolve_resources, map_ok] at h
    obtain ⟨_, harns, -⟩ := h
    exact Reference.knows_of_resolveEntries hvalid harns hentry hlisted
  | principals =>
    rw [outcome_resolve_principals, map_ok] at h
    obtain ⟨_, hentries, -⟩ := h
    exact PrincipalEntry.knows_of_resolve hvalid hentries hentry hlisted
  | _ => exact hrefers.elim

theorem not_listsAccount_of_accept (hrefers : kind.Refers) (h : kind.accept field value = .ok taken)
    (hentry : .obj inner ∈ value.entries) : ¬ListsAccount inner account := by
  cases kind with
  | resources only =>
    obtain ⟨texts, htexts, -⟩ := map_ok.1 h
    have hscalars := Json.stringList_ok.1 htexts
    simp only [Json.isNull_of_mem_entries hentry, Bool.false_eq_true, if_false] at hscalars
    obtain ⟨_, hscalar⟩ := exists_forall₂_iff.1 ⟨_, hscalars⟩ _ hentry
    cases hscalar
  | principals =>
    obtain ⟨_, hentries, -⟩ := map_ok.1 h
    exact PrincipalEntry.not_listsAccount_of_literals hentries hentry
  | _ => exact hrefers.elim

theorem findsAccounts_accept (kind : FieldKind) (field : String) (value : Json) :
    FindsAccounts (kind.accept field value) := by
  cases kind with
  | text | mapping => cases value <;> simp [accept, unexpected]
  | choice choices =>
    cases value with
    | str content =>
      simp only [accept]
      split <;> simp [unexpected]
    | _ => simp [accept, unexpected]
  | strings | resources => exact (Json.findsAccounts_stringList field value).map
  | principals => exact (PrincipalEntry.findsAccounts_ofLiterals field value).map

theorem misses_of_resolve (hvalid : context.environment.Valid)
    (h : (kind.resolve context field value).outcome = .error (.unknownAccount account available)) :
    kind.Refers ∧
      (∃ inner : Entries Json, .obj inner ∈ value.entries ∧ ListsAccount inner account) ∧
        context.environment.Misses account available := by
  cases kind with
  | resources only =>
    rw [outcome_resolve_resources, map_error] at h
    exact ⟨trivial, Reference.misses_of_resolveEntries hvalid h⟩
  | principals =>
    rw [outcome_resolve_principals, map_error] at h
    exact ⟨trivial, PrincipalEntry.misses_of_resolve hvalid h⟩
  | text => exact absurd h (findsAccounts_accept .text field value account available)
  | choice choices =>
    exact absurd h (findsAccounts_accept (.choice choices) field value account available)
  | strings => exact absurd h (findsAccounts_accept .strings field value account available)
  | mapping => exact absurd h (findsAccounts_accept .mapping field value account available)

end

end FieldKind

-- ---------------------------------------------------------------------------
-- Schemas
-- ---------------------------------------------------------------------------

namespace Schema

section
variable {schema : Schema} {context : Context} {members : Entries Json}

theorem misses_of_fieldValue? {spec : FieldSpec} (hvalid : context.environment.Valid)
    (hspec : spec ∈ schema.fields) (hne : spec.key.shorthand ≠ spec.key.canonical)
    (h : (fieldValue? context members spec).outcome =
      .error (.unknownAccount account available)) :
    schema.ListsAccount members account ∧ context.environment.Misses account available := by
  cases hshort : present? members spec.key.shorthand with
  | none =>
    cases hlong : present? members spec.key.canonical with
    | none =>
      rw [fieldValue?_of_absent hshort hlong] at h
      cases h
    | some value =>
      rw [fieldValue?_canonical context spec hshort hlong, map_error] at h
      exact absurd h (FieldKind.findsAccounts_accept _ _ value account available)
  | some value =>
    cases hlong : present? members spec.key.canonical with
    | none =>
      rw [fieldValue?_shorthand context spec hshort hlong, map_error] at h
      obtain ⟨hrefers, ⟨inner, hinner, hlisted⟩, hmisses⟩ := FieldKind.misses_of_resolve hvalid h
      have hfound := (Option.filter_eq_some_iff.1 hshort).1
      exact ⟨⟨spec, hspec, hrefers, _, FieldKey.mem_spellings.2 (.inl rfl), value, hfound, inner,
        hinner, hlisted⟩, hmisses⟩
    | some long =>
      rw [fieldValue?_both context hshort hlong hne] at h
      cases h

theorem misses_of_resolve {raw : Json} (hvalid : context.environment.Valid)
    (hne : ∀ spec ∈ schema.fields, spec.key.shorthand ≠ spec.key.canonical)
    (h : (schema.resolve context raw).outcome = .error (.unknownAccount account available)) :
    (∃ members, raw = .obj members ∧ schema.ListsAccount members account) ∧
      context.environment.Misses account available := by
  cases raw with
  | obj members =>
    have hdeprecated : FindsAccounts (schema.checkDeprecated members) := by
      unfold checkDeprecated
      split <;> simp
    have hforbidden : FindsAccounts (schema.checkForbidden members) := by
      unfold checkForbidden
      split <;> simp
    have hrequired (fields : FieldSet) : FindsAccounts (schema.checkRequired fields) := by
      unfold checkRequired
      split <;> simp
    have hconflicts (fields : FieldSet) : FindsAccounts (schema.checkConflicts fields) := by
      unfold checkConflicts
      split <;> simp
    rw [outcome_resolve] at h
    obtain ⟨⟨⟩, -, h⟩ := hdeprecated.missed_later h
    obtain ⟨⟨⟩, -, h⟩ := hforbidden.missed_later h
    rcases bind_error.1 h with h | ⟨fields, -, h⟩
    · rw [outcome_readFields, map_error] at h
      obtain ⟨spec, hspec, h⟩ := exists_of_mapM_error h
      obtain ⟨hlists, hmisses⟩ := misses_of_fieldValue? hvalid hspec (hne spec hspec) h
      exact ⟨⟨members, rfl, hlists⟩, hmisses⟩
    · obtain ⟨⟨⟩, -, h⟩ := (hrequired fields).missed_later h
      obtain ⟨⟨⟩, -, h⟩ := (hconflicts fields).missed_later h
      cases h
  | _ => cases h

end

end Schema

-- ---------------------------------------------------------------------------
-- Statements
-- ---------------------------------------------------------------------------

theorem knows_of_compile {members : Entries Json} (hvalid : context.environment.Valid)
    (h : (compile kind context (.obj members)).outcome = .ok statement)
    (hlists : kind.schema.ListsAccount members account) : context.environment.Knows account := by
  obtain ⟨spec, hspec, hrefers, name, hname, value, hvalue, inner, hinner, hlisted⟩ := hlists
  have hpresent : Schema.present? members name = some value := by
    simp [Schema.present?, hvalue, Json.isNull_of_mem_entries hinner]
  rcases FieldKey.mem_spellings.1 hname with rfl | rfl
  · obtain ⟨taken, htaken⟩ := resolve_of_compile h hspec hpresent
    exact FieldKind.knows_of_resolve hvalid hrefers htaken hinner hlisted
  · -- a literal value that is accepted lists no accounts
    obtain ⟨fields, -, hread⟩ := fields_of_compile h
    obtain ⟨taken, htaken, -⟩ := hread spec hspec
    cases hshort : Schema.present? members spec.key.shorthand with
    | none =>
      rw [Schema.fieldValue?_canonical context spec hshort hpresent, map_ok] at htaken
      obtain ⟨_, haccepted, -⟩ := htaken
      exact absurd hlisted (FieldKind.not_listsAccount_of_accept hrefers haccepted hinner)
    | some short =>
      rw [Schema.fieldValue?_both context hshort hpresent
        (shorthand_ne_canonical_of_mem hspec)] at htaken
      cases htaken

/-- In an environment that was accepted, the default account is found. An account that is not found
is one that a field of the statement lists and the table does not have, reported with the ascending
names of the table, and no statement with such an account compiles. -/
theorem compile_unknownAccount (context : Context) (hbuilt : context.environment.Built)
    (kind : StatementKind) (raw : Json) :
    (∃ id, context.environment.defaultAccountId = .ok id) ∧
    (∀ account available,
      (compile kind context raw).outcome = .error (.unknownAccount account available) →
        account ≠ "" ∧ context.environment.accounts.get? account = none ∧
        (∃ members, raw = .obj members ∧ kind.schema.ListsAccount members account) ∧
        available.Pairwise (· < ·) ∧
        ∀ name, name ∈ available ↔ ∃ id, context.environment.accounts.get? name = some id) ∧
    ∀ members account, raw = .obj members → kind.schema.ListsAccount members account →
      account ≠ "" → context.environment.accounts.get? account = none →
        ∃ error, (compile kind context raw).outcome = .error error := by
  have hvalid := hbuilt.valid
  refine ⟨Environment.exists_defaultAccountId.2 hvalid, fun account available h => ?_, ?_⟩
  · obtain ⟨hlists, hunknown, rfl⟩ := Schema.misses_of_resolve hvalid
      (fun _ => shorthand_ne_canonical_of_mem) (compile_error.1 h)
    obtain ⟨hnonempty, habsent⟩ := Environment.not_knows_iff.1 hunknown
    exact ⟨hnonempty, habsent, hlists, context.environment.accounts.pairwise_keys,
      fun _ => Table.mem_keys_iff⟩
  · rintro members account rfl hlists hnonempty habsent
    cases h : (compile kind context (.obj members)).outcome with
    | error error => exact ⟨error, rfl⟩
    | ok statement =>
      exact absurd (knows_of_compile hvalid h hlists)
        (Environment.not_knows_iff.2 ⟨hnonempty, habsent⟩)

/-- An account that is written as a number is reported by its text. A list of keys without elements
names nothing in an account, which must be known all the same. -/
theorem compile_unknownAccount_number :
    let context : Context := .app
    let members (resource : Entries Json) : Entries Json :=
      [("Effect", .str "Allow"), ("action", .str "s3:GetObject"), ("resource", .obj resource)]
    let numbered := members [("account", .arr [.str "main", .int 7]), ("iam", .str "role/web")]
    let empty := members [("account", .str "other"), ("kms", .arr [])]
    Environment.main.Built ∧ (∃ id, Environment.main.defaultAccountId = .ok id) ∧
    ((compile .permission context (.obj numbered)).outcome = .error (.unknownAccount "7" ["main"]) ∧
      ∃ listing, Json.obj numbered = .obj listing ∧ Schema.permission.ListsAccount listing "7") ∧
    ∃ error, (compile .permission context (.obj empty)).outcome = .error error := by
  intro context members numbered empty
  have hcreated : (Environment.create "main" "eu-west-1" [("main", "123456789012")]).outcome =
      .ok .main := rfl
  have hbuilt : Environment.main.Built := .created hcreated
  have hnumbered : (compile .permission context (.obj numbered)).outcome =
      .error (.unknownAccount "7" ["main"]) := rfl
  have hlists : Schema.permission.ListsAccount empty "other" := by
    refine ⟨⟨.resource, .resources none⟩, List.mem_of_getElem? (i := 4) rfl, trivial,
      "resource", ?_, _, rfl, _, .head _, _, rfl, _, .head _, rfl⟩
    decide
  have hcompile := compile_unknownAccount context hbuilt .permission
  obtain ⟨-, -, hlisted, -⟩ := (hcompile (.obj numbered)).2.1 "7" ["main"] hnumbered
  exact ⟨hbuilt, (hcompile .null).1, ⟨hnumbered, hlisted⟩,
    (hcompile (.obj empty)).2.2 empty "other" rfl hlists (by simp) rfl⟩

end AccessPolicy
