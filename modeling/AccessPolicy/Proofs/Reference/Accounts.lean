import AccessPolicy.Proofs.Environment
import AccessPolicy.Proofs.Reference.Owner

/-!
# Accounts of references

In a valid environment a reference resolves only if all accounts that it lists are known
(`knows_of_resolveEntries`), and an account that is not found is one that is listed
(`misses_of_resolveEntries`).
-/

namespace AccessPolicy

def ListsAccount (members : Entries Json) (account : String) : Prop :=
  ∃ names, members.find? "account" = some names ∧ names.Lists account

-- ---------------------------------------------------------------------------
-- Work that finds all accounts
-- ---------------------------------------------------------------------------

/-- Work that may fail, but not for want of an account. -/
def FindsAccounts (outcome : Except PolicyError α) : Prop :=
  ∀ account available, outcome ≠ .error (.unknownAccount account available)

section
variable {first : Except PolicyError α}

@[simp] theorem findsAccounts_ok (a : α) : FindsAccounts (.ok a) := fun _ _ h => nomatch h

@[simp] theorem findsAccounts_error_iff {error : PolicyError} :
    FindsAccounts (.error error : Except PolicyError α) ↔
      ∀ account available, error ≠ .unknownAccount account available := by
  simp [FindsAccounts]

theorem FindsAccounts.bind {next : α → Except PolicyError β} (h : FindsAccounts first)
    (hnext : ∀ a, FindsAccounts (next a)) : FindsAccounts (first >>= next) := by
  intro account available hmissed
  rcases bind_error.1 hmissed with hfirst | ⟨a, -, hlater⟩
  · exact h account available hfirst
  · exact hnext a account available hlater

theorem FindsAccounts.map {f : α → β} (h : FindsAccounts first) : FindsAccounts (first.map f) := by
  intro account available hmissed
  exact h account available (map_error.1 hmissed)

theorem findsAccounts_mapM {f : α → Except PolicyError β} (h : ∀ item, FindsAccounts (f item))
    (items : List α) : FindsAccounts (items.mapM f) := by
  intro account available hmissed
  obtain ⟨item, -, hitem⟩ := exists_of_mapM_error hmissed
  exact h item account available hitem

/-- An account that is missed later was not missed by work that finds all accounts. -/
theorem FindsAccounts.missed_later {next : α → Except PolicyError β} (h : FindsAccounts first)
    (hmissed : first >>= next = .error (.unknownAccount account available)) :
    ∃ a, first = .ok a ∧ next a = .error (.unknownAccount account available) :=
  (bind_error.1 hmissed).resolve_left (h account available)

end

-- ---------------------------------------------------------------------------
-- Reading finds all accounts
-- ---------------------------------------------------------------------------

theorem Json.findsAccounts_stringList (field : String) (value : Json) :
    FindsAccounts (value.stringList field) := by
  have hscalar (item : Json) : FindsAccounts (item.scalarText field) := by
    cases item <;> simp [scalarText]
  rw [stringList_eq]
  split
  · exact findsAccounts_ok []
  · exact findsAccounts_mapM hscalar value.entries

namespace Reference

section
variable {members : Entries Json} {reference : Reference} {service : Service}

theorem findsAccounts_modifierStrings (field : String) (members : Entries Json) (key : String) :
    FindsAccounts (modifierStrings field members key) := by
  unfold modifierStrings
  split
  · exact findsAccounts_ok []
  · exact Json.findsAccounts_stringList _ _

theorem findsAccounts_readScope (field : String) (members : Entries Json) :
    FindsAccounts (readScope field members) := by
  have hlocation : FindsAccounts (modifierString field members "location") := by
    unfold modifierString
    split <;> simp
  exact (findsAccounts_modifierStrings field members "account").bind fun _ =>
    hlocation.bind fun _ => findsAccounts_ok _

theorem findsAccounts_readKey (field : String) (key : Json) :
    FindsAccounts (readKey field key) := by
  unfold readKey
  split
  · simp
  · split
    · simp
    · split <;> simp
    · simp
  · simp

theorem findsAccounts_readNamespace (tagged : Json) : FindsAccounts (readNamespace tagged) := by
  unfold readNamespace
  split
  · split <;> simp
  · simp

theorem findsAccounts_readParts (field : String) (service : Service) (tagged : Json)
    (members : Entries Json) : FindsAccounts (readParts field service tagged members) := by
  refine (findsAccounts_readScope field members).bind fun scope => ?_
  cases service with
  | iam =>
    exact (Json.findsAccounts_stringList field tagged).bind fun _ =>
      (findsAccounts_modifierStrings field members "users").bind fun _ => findsAccounts_ok _
  | s3 => exact (Json.findsAccounts_stringList field tagged).bind fun _ => findsAccounts_ok _
  | kms =>
    exact (findsAccounts_mapM (findsAccounts_readKey field) tagged.entries).bind fun _ =>
      findsAccounts_ok _
  | arn =>
    refine (findsAccounts_readNamespace tagged).bind fun _ =>
      (findsAccounts_modifierStrings field members "identity").bind fun _ => ?_
    split <;> simp

theorem findsAccounts_ofJson (field : String) (entry : Json) :
    FindsAccounts (ofJson field entry) := by
  cases entry with
  | obj members =>
    have hservice : FindsAccounts (theService field members) := by
      unfold theService
      split <;> simp
    refine hservice.bind fun service => ?_
    have hmodifiers : FindsAccounts (checkModifiers field service members) := by
      simp only [checkModifiers]
      split <;> simp
    exact hmodifiers.bind fun _ => findsAccounts_readParts field service _ members
  | _ => simp [ofJson]

theorem findsAccounts_permit (only : Option (List Service)) (reference : Reference) :
    FindsAccounts (permit only reference) := by
  unfold permit
  split
  · split <;> simp
  · simp

theorem findsAccounts_requireOwner (context : Context) (wanted : OwnerKind) (target : String) :
    FindsAccounts (context.requireOwner wanted target) := by
  unfold Context.requireOwner
  split <;> simp

-- ---------------------------------------------------------------------------
-- Accounts that are read
-- ---------------------------------------------------------------------------

def accounts : Reference → List String
  | .literal _ | .s3 _ => []
  | .iam _ _ scope | .kms _ scope | .arn _ _ scope => scope.accounts

theorem mem_readScope (h : readScope field members = .ok scope) :
    account ∈ scope.accounts ↔ ListsAccount members account := by
  obtain ⟨accounts, haccounts, h⟩ := bind_ok.1 h
  obtain ⟨_, -, h⟩ := bind_ok.1 h
  obtain rfl := Except.ok.inj h
  exact Json.mem_stringList_of_find? haccounts

theorem not_listsAccount_of_checkModifiers (h : checkModifiers field .s3 members = .ok ()) :
    ¬ListsAccount members account := by
  rintro ⟨names, hnames, -⟩
  simp only [checkModifiers] at h
  split at h
  · next hnone =>
    have hkey := List.find?_eq_none.1 hnone "account"
      (List.mem_map.2 ⟨_, Entries.mem_of_find? hnames, rfl⟩)
    simp [Service.tag, Service.modifiers] at hkey
  · cases h

theorem mem_accounts_iff (h : ofMembers field members = .ok reference) :
    account ∈ reference.accounts ↔ ListsAccount members account := by
  obtain ⟨service, -, h⟩ := bind_ok.1 h
  obtain ⟨⟨⟩, hmodifiers, h⟩ := bind_ok.1 h
  obtain ⟨scope, hscope, h⟩ := bind_ok.1 h
  cases service with
  | iam =>
    obtain ⟨_, -, h⟩ := bind_ok.1 h
    obtain ⟨_, -, h⟩ := bind_ok.1 h
    obtain rfl := Except.ok.inj h
    exact mem_readScope hscope
  | s3 =>
    obtain ⟨_, -, h⟩ := bind_ok.1 h
    obtain rfl := Except.ok.inj h
    exact iff_of_false List.not_mem_nil (not_listsAccount_of_checkModifiers hmodifiers)
  | kms =>
    obtain ⟨_, -, h⟩ := bind_ok.1 h
    obtain rfl := Except.ok.inj h
    exact mem_readScope hscope
  | arn =>
    obtain ⟨_, -, h⟩ := bind_ok.1 h
    obtain ⟨_, -, h⟩ := bind_ok.1 h
    split at h
    · cases h
    · obtain rfl := Except.ok.inj h
      exact mem_readScope hscope

end

-- ---------------------------------------------------------------------------
-- Resolving
-- ---------------------------------------------------------------------------

section
variable {context : Context} {reference : Reference} {value : Json}

/-- All accounts of a reference that resolves are known, also where it names nothing in them. -/
theorem knows_of_resolve (hvalid : context.environment.Valid)
    (h : reference.resolve context = .ok arns) :
    ∀ account ∈ reference.accounts, context.environment.Knows account := by
  cases reference with
  | literal | s3 => exact List.forall_mem_nil _
  | iam names users scope =>
    obtain ⟨ids, hids, -⟩ := bind_ok.1 h
    exact (Environment.exists_accountIds hvalid).1 ⟨ids, hids⟩
  | kms keys scope =>
    simp only [resolve, resolveKms] at h
    split at h
    · obtain ⟨_, -, h⟩ := bind_ok.1 h
      obtain ⟨ids, hids, -⟩ := bind_ok.1 h
      exact (Environment.exists_accountIds hvalid).1 ⟨ids, hids⟩
    · obtain ⟨ids, hids, -⟩ := bind_ok.1 h
      exact (Environment.exists_accountIds hvalid).1 ⟨ids, hids⟩
  | arn service identities scope =>
    obtain ⟨ids, hids, -⟩ := bind_ok.1 h
    exact (Environment.exists_accountIds hvalid).1 ⟨ids, hids⟩

theorem findsAccounts_ownerRoleArns (hvalid : context.environment.Valid)
    (names users : List String) : FindsAccounts (ownerRoleArns context names users) := by
  obtain ⟨account, haccount⟩ := Environment.exists_defaultAccountId.2 hvalid
  unfold ownerRoleArns
  split
  · rw [haccount]
    exact (findsAccounts_requireOwner context .role _).bind fun _ => findsAccounts_ok _
  · exact findsAccounts_ok []

theorem misses_of_resolve (hvalid : context.environment.Valid)
    (h : reference.resolve context = .error (.unknownAccount account available)) :
    account ∈ reference.accounts ∧ context.environment.Misses account available := by
  have hbound {next : List String → Except PolicyError (List String)} {scope : Scope}
      (hnext : ∀ ids, FindsAccounts (next ids))
      (hmissed : context.environment.accountIds scope.accounts >>= next =
        .error (.unknownAccount account available)) :
      account ∈ scope.accounts ∧ context.environment.Misses account available := by
    rcases bind_error.1 hmissed with hids | ⟨ids, -, hlater⟩
    · exact Environment.misses_of_accountIds hvalid hids
    · exact absurd hlater (hnext ids account available)
  cases reference with
  | literal text => cases h
  | iam names users scope =>
    exact hbound (fun _ => (findsAccounts_ownerRoleArns hvalid names users).bind fun _ =>
      findsAccounts_ok _) h
  | s3 buckets =>
    have hnames (bucket : String) : FindsAccounts (bucketName context bucket) := by
      unfold bucketName
      split
      · exact (findsAccounts_requireOwner context .bucket _).bind fun _ => findsAccounts_ok _
      · exact findsAccounts_ok _
    obtain ⟨_, -, h⟩ := (findsAccounts_mapM hnames buckets).missed_later h
    cases h
  | kms keys scope =>
    simp only [resolve, resolveKms] at h
    split at h
    · obtain ⟨_, -, h⟩ := (findsAccounts_requireOwner context .key _).missed_later h
      exact hbound (fun _ => findsAccounts_ok _) h
    · exact hbound (fun _ => findsAccounts_ok _) h
  | arn service identities scope => exact hbound (fun _ => findsAccounts_ok _) h

-- ---------------------------------------------------------------------------
-- Values of fields
-- ---------------------------------------------------------------------------

theorem knows_of_resolveEntries (hvalid : context.environment.Valid)
    (h : resolveEntries context field only value.entries = .ok arns) {members : Entries Json}
    (hentry : .obj members ∈ value.entries) (hlisted : ListsAccount members account) :
    context.environment.Knows account := by
  obtain ⟨_, hresolved, -⟩ := bind_ok.1 h
  obtain ⟨_, hresolved⟩ := exists_forall₂_iff.1 ⟨_, mapM_ok.1 hresolved⟩ _ hentry
  obtain ⟨reference, hread, hresolved⟩ := bind_ok.1 hresolved
  obtain ⟨⟨⟩, -, hresolved⟩ := bind_ok.1 hresolved
  exact knows_of_resolve hvalid hresolved account ((mem_accounts_iff hread).2 hlisted)

theorem misses_of_resolveEntries (hvalid : context.environment.Valid)
    (h : resolveEntries context field only value.entries =
      .error (.unknownAccount account available)) :
    (∃ members : Entries Json, .obj members ∈ value.entries ∧ ListsAccount members account) ∧
      context.environment.Misses account available := by
  rcases bind_error.1 h with h | ⟨_, -, h⟩
  · obtain ⟨entry, hentry, h⟩ := exists_of_mapM_error h
    obtain ⟨reference, hread, h⟩ := (findsAccounts_ofJson field entry).missed_later h
    obtain ⟨⟨⟩, -, h⟩ := (findsAccounts_permit only reference).missed_later h
    obtain ⟨haccount, hmisses⟩ := misses_of_resolve hvalid h
    refine ⟨?_, hmisses⟩
    cases entry with
    | obj members => exact ⟨members, hentry, (mem_accounts_iff hread).1 haccount⟩
    | str text =>
      obtain rfl := Except.ok.inj hread
      cases haccount
    | _ => cases hread
  · cases h

end

end Reference

end AccessPolicy
