import AccessPolicy.Proofs.Principal.Owner
import AccessPolicy.Proofs.Reference.Accounts

/-!
# Accounts of principals

The accounts that a mapping lists belong to its roles. They are all known if it resolves
(`knows_of_resolve`), and an account that is not found is one of them (`misses_of_resolve`).
-/

namespace AccessPolicy.PrincipalEntry

section
variable {context : Context} {members rest : Entries Json} {buckets gathered : Buckets}
  {value : Json}

-- ---------------------------------------------------------------------------
-- Roles
-- ---------------------------------------------------------------------------

theorem findsAccounts_keyStrings (field : String) (members : Entries Json) (key : String) :
    FindsAccounts (keyStrings field members key) := by
  unfold keyStrings
  split
  · exact findsAccounts_ok []
  · exact Json.findsAccounts_stringList _ _

theorem knows_of_identities (hvalid : context.environment.Valid)
    (h : identities context field members value = .ok arns)
    (hlisted : ListsAccount members account) : context.environment.Knows account := by
  obtain ⟨names, -, h⟩ := bind_ok.1 h
  obtain ⟨users, -, h⟩ := bind_ok.1 h
  obtain ⟨accounts, haccounts, h⟩ := bind_ok.1 h
  exact Reference.knows_of_resolve hvalid h account
    ((Json.mem_stringList_of_find? haccounts).2 hlisted)

theorem misses_of_identities (hvalid : context.environment.Valid)
    (h : identities context field members value = .error (.unknownAccount account available)) :
    ListsAccount members account ∧ context.environment.Misses account available := by
  obtain ⟨names, -, h⟩ := (Json.findsAccounts_stringList field value).missed_later h
  obtain ⟨users, -, h⟩ := (findsAccounts_keyStrings field members "users").missed_later h
  obtain ⟨accounts, haccounts, h⟩ :=
    (findsAccounts_keyStrings field members "account").missed_later h
  obtain ⟨hmem, hmisses⟩ := Reference.misses_of_resolve hvalid h
  exact ⟨(Json.mem_stringList_of_find? haccounts).1 hmem, hmisses⟩

-- ---------------------------------------------------------------------------
-- Contributions
-- ---------------------------------------------------------------------------

theorem findsAccounts_contribution (context : Context) (field : String) (members : Entries Json)
    (value : Json) (hkey : key ∉ roleKeys) :
    FindsAccounts (contribution context field members key value) := by
  have hdomain (name : String) : FindsAccounts (serviceDomain name) := by
    unfold serviceDomain
    split <;> simp
  unfold contribution
  split
  · exact (Json.findsAccounts_stringList field value).bind fun names =>
      (findsAccounts_mapM hdomain names).bind fun _ => findsAccounts_ok _
  · exact absurd (by simp [roleKeys]) hkey
  · exact absurd (by simp [roleKeys]) hkey
  · exact findsAccounts_ok _
  · exact findsAccounts_ok _
  · split
    · exact (Json.findsAccounts_stringList field value).bind fun _ => findsAccounts_ok _
    · simp

theorem misses_of_contribution (hvalid : context.environment.Valid)
    (h : contribution context field members key value =
      .error (.unknownAccount account available)) :
    ListsAccount members account ∧ context.environment.Misses account available := by
  by_cases hkey : key ∈ roleKeys
  · obtain ⟨kind, heq⟩ := contribution_role context field members value hkey
    rcases bind_error.1 (heq.symm.trans h) with h | ⟨_, -, h⟩
    · exact misses_of_identities hvalid h
    · cases h
  · exact absurd h (findsAccounts_contribution context field members value hkey account available)

theorem misses_of_shorthandBuckets (hvalid : context.environment.Valid)
    (h : shorthandBuckets context field members buckets rest =
      .error (.unknownAccount account available)) :
    ListsAccount members account ∧ context.environment.Misses account available := by
  induction rest generalizing buckets with
  | nil => cases h
  | cons member rest ih =>
    rcases bind_error.1 h with h | ⟨given, -, h⟩
    · exact misses_of_contribution hvalid h
    · cases given with
      | none => exact ih h
      | some => exact ih h

-- ---------------------------------------------------------------------------
-- Mappings
-- ---------------------------------------------------------------------------

theorem role_of_checkModifiers (h : checkModifiers field members = .ok ())
    (hlisted : ListsAccount members account) : ∃ key ∈ roleKeys, members.has key = true := by
  obtain ⟨names, hnames, -⟩ := hlisted
  have haccount : members.has "account" = true := Entries.has_eq_true_iff.2 ⟨names, hnames⟩
  unfold checkModifiers at h
  split at h
  · next hrole => simpa [roleKeys] using hrole
  · simp [haccount] at h

theorem knows_of_resolveMapping (hvalid : context.environment.Valid)
    (h : (resolveMapping context field members).outcome = .ok principal)
    (hlisted : ListsAccount members account) : context.environment.Knows account := by
  obtain ⟨hmodifiers, hgiven, -⟩ := resolveMapping_ok h
  obtain ⟨key, hkey, hhas⟩ := role_of_checkModifiers hmodifiers hlisted
  obtain ⟨names, hnames⟩ := Entries.has_eq_true_iff.1 hhas
  obtain ⟨given, hgiven⟩ := hgiven _ (Entries.mem_of_find? hnames)
  obtain ⟨kind, heq⟩ := contribution_role context field members names hkey
  obtain ⟨arns, harns, -⟩ := bind_ok.1 (heq.symm.trans hgiven)
  exact knows_of_identities hvalid harns hlisted

theorem misses_of_resolveMapping (hvalid : context.environment.Valid)
    (h : (resolveMapping context field members).outcome =
      .error (.unknownAccount account available)) :
    ListsAccount members account ∧ context.environment.Misses account available := by
  have hmodifiers : FindsAccounts (checkModifiers field members) := by
    unfold checkModifiers
    split
    · simp
    · split <;> simp
  rw [outcome_resolveMapping] at h
  obtain ⟨⟨⟩, -, h⟩ := hmodifiers.missed_later h
  exact misses_of_shorthandBuckets hvalid (map_error.1 h)

-- ---------------------------------------------------------------------------
-- Values of fields
-- ---------------------------------------------------------------------------

theorem knows_of_resolve (hvalid : context.environment.Valid)
    (h : (resolve context field value).outcome = .ok entries)
    (hentry : .obj members ∈ value.entries) (hlisted : ListsAccount members account) :
    context.environment.Knows account := by
  obtain ⟨entry, hresolved⟩ := exists_forall₂_iff.1 ⟨_, Traced.each_ok.1 h⟩ _ hentry
  simp only [resolveEntry, Traced.outcome_bind, bind_ok] at hresolved
  obtain ⟨principal, hprincipal, -⟩ := hresolved
  exact knows_of_resolveMapping hvalid hprincipal hlisted

theorem misses_of_resolve (hvalid : context.environment.Valid)
    (h : (resolve context field value).outcome = .error (.unknownAccount account available)) :
    (∃ members : Entries Json, .obj members ∈ value.entries ∧ ListsAccount members account) ∧
      context.environment.Misses account available := by
  rw [resolve, Traced.outcome_each] at h
  obtain ⟨entry, hentry, h⟩ := exists_of_mapM_error h
  cases entry with
  | obj members =>
    simp only [resolveEntry, Traced.outcome_bind] at h
    rcases bind_error.1 h with h | ⟨_, -, h⟩
    · obtain ⟨hlisted, hmisses⟩ := misses_of_resolveMapping hvalid h
      exact ⟨⟨members, hentry, hlisted⟩, hmisses⟩
    · cases h
  | _ => cases h

theorem findsAccounts_literalBuckets (field : String) (buckets : Buckets) (rest : Entries Json) :
    FindsAccounts (literalBuckets field buckets rest) := by
  induction rest generalizing buckets with
  | nil => exact findsAccounts_ok _
  | cons member rest ih =>
    obtain ⟨key, value⟩ := member
    simp only [literalBuckets]
    split
    · simp
    · exact (Json.findsAccounts_stringList field value).bind fun _ => ih _

theorem findsAccounts_ofLiterals (field : String) (value : Json) :
    FindsAccounts (ofLiterals field value) := by
  refine findsAccounts_mapM (fun entry => ?_) value.entries
  cases entry with
  | obj members =>
    exact (findsAccounts_literalBuckets field .empty members).bind fun _ => findsAccounts_ok _
  | _ => simp [ofLiteral, refused]

theorem not_listsAccount_of_literals (h : ofLiterals field value = .ok entries)
    (hentry : .obj members ∈ value.entries) : ¬ListsAccount members account := by
  rintro ⟨names, hnames, -⟩
  obtain ⟨entry, hread⟩ := exists_forall₂_iff.1 ⟨_, mapM_ok.1 h⟩ _ hentry
  obtain ⟨buckets, hbuckets, -⟩ := bind_ok.1 hread
  obtain ⟨kind, htag⟩ := tags_of_literalBuckets hbuckets _ (Entries.mem_of_find? hnames)
  exact (tag_ne_modifier kind).1 htag.symm

end

end AccessPolicy.PrincipalEntry
