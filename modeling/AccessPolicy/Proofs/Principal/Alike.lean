import AccessPolicy.Principal.Basic
import AccessPolicy.Principal.Reader
import AccessPolicy.Proofs.Principal.Merged
import AccessPolicy.Proofs.Reference.Alike

/-!
# Principals in another order

The order of the lists in a principal has no influence on the principal, in either spelling, and the
order of principals has none on what they merge to (`follows_merge`).
-/

namespace AccessPolicy

def PrincipalEntry.listKeys : List String :=
  ["iam", "federated", "service", "users", "account", "AWS", "Federated", "Service"]

def Buckets.Alike (buckets others : Buckets) : Prop := ∀ kind, (buckets kind).Perm (others kind)

theorem Buckets.Alike.extend {buckets others : Buckets} (h : buckets.Alike others)
    (kind : PrincipalKind) (htexts : List.Perm texts later) :
    (buckets.extend kind texts).Alike (others.extend kind later) := by
  intro other
  rw [Buckets.extend, Buckets.extend]
  split
  · exact (h other).append htexts
  · exact h other

theorem Buckets.Alike.ofBuckets_eq {buckets others : Buckets} (h : buckets.Alike others) :
    Principal.ofBuckets buckets = Principal.ofBuckets others :=
  Principal.ofBuckets_congr fun kind => ListShape.canonical?_eq_iff.2 (h kind)

namespace PrincipalEntry

section
variable {members others rest later : Entries Json} {buckets gathered : Buckets}

-- ---------------------------------------------------------------------------
-- Canonical spelling
-- ---------------------------------------------------------------------------

theorem follows_literalBuckets (field : String)
    (h : members.Alike (Json.AlikeUnder listKeys) others) (hbuckets : buckets.Alike gathered) :
    Follows Buckets.Alike (literalBuckets field buckets members)
      (literalBuckets field gathered others) := by
  induction h generalizing buckets gathered with
  | nil => exact follows_ok hbuckets
  | @cons entry other rest later hhead _ ih =>
    obtain ⟨key, value⟩ := entry
    obtain ⟨_, value'⟩ := other
    obtain ⟨rfl, hvalue⟩ := hhead
    simp only [literalBuckets]
    cases PrincipalKind.ofTag? key with
    | none => exact follows_error
    | some kind =>
      refine (hvalue.1.follows_stringList field).bind fun texts others htexts => ?_
      exact ih (hbuckets.extend kind htexts)

theorem follows_ofLiteral (field : String) {a b : Json} (h : Json.EntryAlike listKeys a b) :
    Follows Eq (ofLiteral field a) (ofLiteral field b) := by
  cases h with
  | same => exact follows_self fun _ => rfl
  | mapping h =>
    refine (follows_literalBuckets field h fun _ => .refl _).bind fun buckets gathered hsame => ?_
    exact follows_ok (congrArg mapping hsame.ofBuckets_eq)

-- ---------------------------------------------------------------------------
-- Shorthand
-- ---------------------------------------------------------------------------

theorem follows_keyStrings (field : String)
    (h : members.Alike (Json.AlikeUnder listKeys) others) (key : String) :
    Follows List.Perm (keyStrings field members key) (keyStrings field others key) := by
  have hkey := h.find? key
  rw [keyStrings, keyStrings]
  generalize Entries.find? key members = value, Entries.find? key others = other at hkey ⊢
  cases hkey with
  | none => exact follows_ok (.refl [])
  | some hvalue => exact hvalue.1.follows_stringList _

theorem follows_identities (context : Context) (field : String)
    (h : members.Alike (Json.AlikeUnder listKeys) others) {names later : Json}
    (hnames : Json.ListsAlike names later) :
    Follows List.Perm (identities context field members names)
      (identities context field others later) := by
  refine (hnames.follows_stringList field).bind fun names _ hnames => ?_
  refine (follows_keyStrings field h "users").bind fun users _ husers => ?_
  refine (follows_keyStrings field h "account").bind fun accounts _ haccounts => ?_
  exact Reference.follows_resolve context (.iam hnames husers ⟨haccounts, rfl⟩)

abbrev ContributionAlike :
    Option (PrincipalKind × List String) → Option (PrincipalKind × List String) → Prop :=
  Option.Rel fun a b => a.1 = b.1 ∧ a.2.Perm b.2

theorem follows_contribution (context : Context) (field : String)
    (h : members.Alike (Json.AlikeUnder listKeys) others) (key : String) {value other : Json}
    (hvalue : Json.ListsAlike value other) :
    Follows ContributionAlike (contribution context field members key value)
      (contribution context field others key other) := by
  unfold contribution
  split
  · -- services, by short names
    refine (hvalue.follows_stringList field).bind fun names _ hnames => ?_
    refine (follows_mapM_perm hnames).bind fun domains _ hdomains => ?_
    exact follows_ok (.some ⟨rfl, hdomains⟩)
  · refine (follows_identities context field h hvalue).bind fun arns _ harns => ?_
    exact follows_ok (.some ⟨rfl, harns⟩)
  · refine (follows_identities context field h hvalue).bind fun arns _ harns => ?_
    exact follows_ok (.some ⟨rfl, harns⟩)
  · exact follows_ok .none
  · exact follows_ok .none
  · cases PrincipalKind.ofTag? key with
    | none => exact follows_error
    | some kind =>
      refine (hvalue.follows_stringList field).bind fun texts _ htexts => ?_
      exact follows_ok (.some ⟨rfl, htexts⟩)

theorem follows_shorthandBuckets (context : Context) (field : String)
    (h : members.Alike (Json.AlikeUnder listKeys) others)
    (hrest : rest.Alike (Json.AlikeUnder listKeys) later) (hbuckets : buckets.Alike gathered) :
    Follows Buckets.Alike (shorthandBuckets context field members buckets rest)
      (shorthandBuckets context field others gathered later) := by
  induction hrest generalizing buckets gathered with
  | nil => exact follows_ok hbuckets
  | @cons entry other _ _ hhead _ ih =>
    obtain ⟨key, value⟩ := entry
    obtain ⟨_, value'⟩ := other
    obtain ⟨rfl, hvalue⟩ := hhead
    refine (follows_contribution context field h key hvalue.1).bind fun _ _ hcontribution => ?_
    cases hcontribution with
    | none => exact ih hbuckets
    | @some texts others htexts =>
      obtain ⟨kind, texts⟩ := texts
      obtain ⟨_, others⟩ := others
      obtain ⟨rfl, hperm⟩ := htexts
      exact ih (hbuckets.extend kind hperm)

theorem follows_resolveMapping (context : Context) (field : String)
    (h : members.Alike (Json.AlikeUnder listKeys) others) :
    Follows Eq (resolveMapping context field members).outcome
      (resolveMapping context field others).outcome := by
  have hmodifiers : checkModifiers field others = checkModifiers field members := by
    simp only [checkModifiers, h.has_eq]
  simp only [resolveMapping, Traced.outcome_bind, Traced.outcome_lift, Traced.outcome_pure,
    Traced.outcome_emit, hmodifiers]
  refine follows_bind fun _ => ?_
  refine (follows_shorthandBuckets context field h h fun _ => .refl _).bind fun _ _ hbuckets => ?_
  rw [hbuckets.ofBuckets_eq]
  exact follows_self fun _ => rfl

theorem follows_resolveEntry (context : Context) (field : String) {a b : Json}
    (h : Json.EntryAlike listKeys a b) :
    Follows Eq (resolveEntry context field a).outcome (resolveEntry context field b).outcome := by
  cases h with
  | same => exact follows_self fun _ => rfl
  | mapping h =>
    simp only [resolveEntry, Traced.outcome_bind, Traced.outcome_pure]
    refine (follows_resolveMapping context field h).bind fun principal _ hsame => ?_
    exact follows_ok (congrArg mapping hsame)

end

-- ---------------------------------------------------------------------------
-- Lists of principals
-- ---------------------------------------------------------------------------

theorem follows_ofLiterals (field : String) {a b : Json}
    (h : Json.Alike (Json.EntryAlike listKeys) a b) :
    Follows List.Perm (ofLiterals field a) (ofLiterals field b) :=
  h.entries.follows_mapM_eq fun _ _ => follows_ofLiteral field

theorem follows_resolve (context : Context) (field : String) {a b : Json}
    (h : Json.Alike (Json.EntryAlike listKeys) a b) :
    Follows List.Perm (resolve context field a).outcome (resolve context field b).outcome := by
  rw [resolve, resolve, Traced.outcome_each, Traced.outcome_each]
  exact h.entries.follows_mapM_eq fun _ _ => follows_resolveEntry context field

theorem alike_union {principals others : List Principal} (h : principals.Perm others) :
    (union principals).Alike (union others) := fun _ => h.flatMap_right _

theorem follows_merge (h : List.Perm entries others) :
    Follows Eq (merge entries) (merge others) := by
  have hliterals : (literals entries).Perm (literals others) := h.filterMap _
  have hmappings : (mappings entries).Perm (mappings others) := h.filterMap _
  -- by the number of strings: none, one, more
  rcases hentries : literals entries with _ | ⟨text, _ | ⟨second, more⟩⟩
  · rw [hentries, List.nil_perm] at hliterals
    rw [merge_of_no_literal hentries, merge_of_no_literal hliterals,
      (alike_union hmappings).ofBuckets_eq]
    exact follows_self fun _ => rfl
  · rw [hentries, List.singleton_perm] at hliterals
    rw [merge, merge, hentries, ← hliterals]
    cases hnone : mappings entries with
    | nil =>
      rw [hnone, List.nil_perm] at hmappings
      rw [hmappings]
      exact follows_ok rfl
    | cons _ _ => exact follows_error
  · rw [merge, hentries]
    exact follows_error

end PrincipalEntry

end AccessPolicy
