import Mathlib.Data.List.Perm.Basic
import AccessPolicy.Proofs.Json.Alike
import AccessPolicy.Proofs.ListShape
import AccessPolicy.Reference.Resolve

/-!
# References in another order

References whose lists differ in order resolve to the same identifiers in some order
(`follows_resolve`), and values that list such references in any order resolve to the same list
(`follows_resolveResources`).
-/

namespace AccessPolicy

def Reference.listKeys : List String := ["iam", "users", "account", "s3", "kms", "identity"]

structure Scope.Alike (a b : Scope) : Prop where
  accounts : a.accounts.Perm b.accounts
  location : a.location = b.location

inductive Reference.Alike : Reference → Reference → Prop
  | literal (text : String) : Reference.Alike (.literal text) (.literal text)
  | iam (hnames : List.Perm names others) (husers : List.Perm users later)
    (hscope : Scope.Alike scope within) :
    Reference.Alike (.iam names users scope) (.iam others later within)
  | s3 (hbuckets : List.Perm buckets others) : Reference.Alike (.s3 buckets) (.s3 others)
  | kms (hkeys : List.Perm keys others) (hscope : Scope.Alike scope within) :
    Reference.Alike (.kms keys scope) (.kms others within)
  | arn (hidentities : List.Perm identities others) (hscope : Scope.Alike scope within) :
    Reference.Alike (.arn service identities scope) (.arn service others within)

theorem Scope.Alike.refl (scope : Scope) : Scope.Alike scope scope := ⟨.refl _, rfl⟩

theorem Reference.Alike.refl (reference : Reference) : Reference.Alike reference reference := by
  cases reference with
  | literal text => exact .literal text
  | iam names users scope => exact .iam (.refl _) (.refl _) (.refl scope)
  | s3 buckets => exact .s3 (.refl _)
  | kms keys scope => exact .kms (.refl _) (.refl scope)
  | arn service identities scope => exact .arn (.refl _) (.refl scope)

namespace Reference

-- ---------------------------------------------------------------------------
-- Reading
-- ---------------------------------------------------------------------------

section
variable {members others : Entries Json} {field key : String}

theorem follows_modifierStrings (h : members.Alike (Json.AlikeUnder listKeys) others)
    (key : String) :
    Follows List.Perm (modifierStrings field members key) (modifierStrings field others key) := by
  have hkey := h.find? key
  rw [modifierStrings, modifierStrings]
  generalize Entries.find? key members = value, Entries.find? key others = other at hkey ⊢
  cases hkey with
  | none => exact follows_ok (.refl [])
  | some hvalue => exact hvalue.1.follows_stringList _

theorem find?_eq (h : members.Alike (Json.AlikeUnder listKeys) others)
    (hkey : key ∉ listKeys) : Entries.find? key others = Entries.find? key members := by
  have hfound := h.find? key
  generalize Entries.find? key members = value, Entries.find? key others = other at hfound ⊢
  cases hfound with
  | none => rfl
  | some hvalue => exact congrArg some (hvalue.2 hkey).symm

theorem follows_readScope (h : members.Alike (Json.AlikeUnder listKeys) others) :
    Follows Scope.Alike (readScope field members) (readScope field others) := by
  have hlocation : modifierString field others "location" =
      modifierString field members "location" := by
    rw [modifierString, modifierString, find?_eq h (by decide)]
  rw [readScope, readScope, hlocation]
  refine (follows_modifierStrings h "account").bind fun accounts later haccounts => ?_
  exact follows_bind fun location => follows_ok ⟨haccounts, rfl⟩

theorem alikeUnder_tag (h : members.Alike (Json.AlikeUnder listKeys) others) (key : String) :
    Json.AlikeUnder listKeys key ((Entries.find? key members).getD .null)
      ((Entries.find? key others).getD .null) := by
  have hkey := h.find? key
  generalize Entries.find? key members = value, Entries.find? key others = other at hkey ⊢
  cases hkey with
  | none => exact .refl _ _ _
  | some hvalue => exact hvalue

theorem follows_readParts (h : members.Alike (Json.AlikeUnder listKeys) others)
    (service : Service) {tagged other : Json}
    (htag : Json.AlikeUnder listKeys service.tag tagged other) :
    Follows Reference.Alike (readParts field service tagged members)
      (readParts field service other others) := by
  refine (follows_readScope h).bind fun scope within hscope => ?_
  cases service with
  | iam =>
    refine (htag.1.follows_stringList field).bind fun names later hnames => ?_
    refine (follows_modifierStrings h "users").bind fun users rest husers => ?_
    exact follows_ok (.iam hnames husers hscope)
  | s3 =>
    refine (htag.1.follows_stringList field).bind fun buckets later hbuckets => ?_
    exact follows_ok (.s3 hbuckets)
  | kms =>
    have hkeys := follows_mapM_perm (f := readKey field) (rearranged_eq.1 htag.1.entries)
    refine hkeys.bind fun keys later hkeys => ?_
    exact follows_ok (.kms hkeys hscope)
  | arn =>
    obtain rfl := htag.2 (by decide)
    refine follows_bind fun service => ?_
    refine (follows_modifierStrings h "identity").bind fun identities later hidentities => ?_
    rw [← hidentities.isEmpty_eq]
    split
    · exact follows_error
    · exact follows_ok (.arn hidentities hscope)

theorem follows_ofMembers (h : members.Alike (Json.AlikeUnder listKeys) others) :
    Follows Reference.Alike (ofMembers field members) (ofMembers field others) := by
  have hservice : theService field others = theService field members := by
    have hservices : services others = services members := by
      rw [services, services]
      exact List.filter_congr fun service _ => h.has_eq service.tag
    rw [theService, theService, hservices]
  rw [ofMembers, ofMembers, hservice]
  refine follows_bind fun service => ?_
  have hmodifiers : checkModifiers field service others = checkModifiers field service members := by
    rw [checkModifiers, checkModifiers, h.keys_eq]
  rw [hmodifiers]
  exact follows_bind fun _ => follows_readParts h service (alikeUnder_tag h service.tag)

theorem follows_ofJson {a b : Json} (h : Json.EntryAlike listKeys a b) :
    Follows Reference.Alike (ofJson field a) (ofJson field b) := by
  cases h with
  | same => exact follows_self Reference.Alike.refl
  | mapping h => exact follows_ofMembers h

end

-- ---------------------------------------------------------------------------
-- Resolving
-- ---------------------------------------------------------------------------

section
variable {names users : List String} {scope within : Scope}

theorem follows_accountIds (environment : Environment) {names others : List String}
    (h : names.Perm others) :
    Follows List.Perm (environment.accountIds names) (environment.accountIds others) := by
  rw [Environment.accountIds, Environment.accountIds, ← h.isEmpty_eq]
  split
  · exact follows_self List.Perm.refl
  · exact follows_mapM_perm h

theorem perm_iamArns (account name : String) (h : users.Perm others) :
    (iamArns account name users).Perm (iamArns account name others) := by
  rw [iamArns, iamArns, ← h.isEmpty_eq]
  split
  · exact .refl _
  · exact h.map _

theorem follows_ownerRoleArns (context : Context) (hnames : names.Perm others)
    (husers : users.Perm later) :
    Follows List.Perm (ownerRoleArns context names users)
      (ownerRoleArns context others later) := by
  rw [ownerRoleArns, ownerRoleArns, ← hnames.contains_eq]
  split
  · refine follows_bind fun _ => follows_bind fun account => ?_
    exact follows_ok (perm_iamArns account _ husers)
  · exact follows_ok (.refl [])

theorem follows_resolveIam (context : Context) (hnames : names.Perm others)
    (husers : users.Perm later) (hscope : Scope.Alike scope within) :
    Follows List.Perm (resolveIam context names users scope)
      (resolveIam context others later within) := by
  refine (follows_accountIds _ hscope.accounts).bind fun accounts _ haccounts => ?_
  refine (follows_ownerRoleArns context hnames husers).bind fun owner _ howner => ?_
  have hpairs := haccounts.product (hnames.filter (· ≠ ownerMarker))
  exact follows_ok
    ((hpairs.flatMap fun pair _ => perm_iamArns pair.1 pair.2 husers).append howner)

theorem follows_resolveKms (context : Context) {keys others : List KmsKey}
    (hkeys : keys.Perm others) (hscope : Scope.Alike scope within) :
    Follows List.Perm (resolveKms context keys scope) (resolveKms context others within) := by
  have haccounts := follows_accountIds context.environment hscope.accounts
  rw [resolveKms, resolveKms, ← hkeys.any_eq, ← hscope.location]
  split
  · refine follows_bind fun _ => haccounts.bind fun ids _ hids => ?_
    exact follows_ok ((hids.product hkeys).map _)
  · refine haccounts.bind fun ids _ hids => ?_
    exact follows_ok ((hids.product hkeys).map _)

theorem follows_resolveArn (context : Context) (service : String) {identities others : List String}
    (hidentities : identities.Perm others) (hscope : Scope.Alike scope within) :
    Follows List.Perm (resolveArn context service identities scope)
      (resolveArn context service others within) := by
  rw [resolveArn, resolveArn, ← hscope.location]
  refine (follows_accountIds _ hscope.accounts).bind fun accounts _ haccounts => ?_
  exact follows_ok ((haccounts.product hidentities).map _)

theorem follows_resolve (context : Context) {reference other : Reference}
    (h : Reference.Alike reference other) :
    Follows List.Perm (reference.resolve context) (other.resolve context) := by
  cases h with
  | literal text => exact follows_ok (.refl [text])
  | iam hnames husers hscope => exact follows_resolveIam context hnames husers hscope
  | s3 hbuckets =>
    refine (follows_mapM_perm hbuckets).bind fun buckets _ hnamed => ?_
    exact follows_ok (hnamed.flatMap_right bucketArns)
  | kms hkeys hscope => exact follows_resolveKms context hkeys hscope
  | arn hidentities hscope => exact follows_resolveArn context _ hidentities hscope

theorem Alike.service?_eq {reference other : Reference} (h : Reference.Alike reference other) :
    other.service? = reference.service? := by
  cases h <;> rfl

theorem follows_resolveEntry (context : Context) (field : String) (only : Option (List Service))
    {a b : Json} (h : Json.EntryAlike listKeys a b) :
    Follows List.Perm (resolveEntry context field only a) (resolveEntry context field only b) := by
  refine (follows_ofJson h).bind fun reference other hreference => ?_
  have hpermit : permit only other = permit only reference := by
    simp only [permit, hreference.service?_eq]
  rw [hpermit]
  exact follows_bind fun _ => follows_resolve context hreference

end

end Reference

/-- The identifiers are sorted, so their order does not depend on that of the references. -/
theorem follows_resolveResources (context : Context) (field : String)
    (only : Option (List Service)) {a b : Json}
    (h : Json.Alike (Json.EntryAlike Reference.listKeys) a b) :
    Follows Eq (resolveResources context field a only).outcome
      (resolveResources context field b only).outcome := by
  have hentries : Follows Eq (Reference.resolveEntries context field only a.entries)
      (Reference.resolveEntries context field only b.entries) := by
    have hmapped := h.entries.follows_mapM fun _ _ =>
      Reference.follows_resolveEntry context field only
    refine hmapped.bind fun arns others harns => ?_
    exact follows_ok (ascending_eq_iff.2 harns.flatten)
  simp only [resolveResources, Traced.outcome_bind, Traced.outcome_lift, Traced.outcome_pure,
    Traced.outcome_emit]
  refine hentries.bind fun arns _ hsame => ?_
  subst hsame
  exact follows_self fun _ => rfl

end AccessPolicy
