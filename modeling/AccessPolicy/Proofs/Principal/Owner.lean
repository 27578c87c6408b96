import AccessPolicy.Proofs.Principal.Shorthand
import AccessPolicy.Proofs.Reference.Owner

/-!
# Principals that are the owner

A mapping names roles as references do, so it resolves only for a role where one of them is the
owner (`owner_of_resolve`), and without regard to the owner otherwise (`resolve_eq`).
-/

namespace AccessPolicy.PrincipalEntry

def roleKeys : List String := ["iam", "federated"]

/-- A value one of whose mappings names the owner among its roles. -/
def ValueRefersToOwner (value : Json) : Prop :=
  ∃ members : Entries Json, .obj members ∈ value.entries ∧ ∃ key ∈ roleKeys, ∃ names,
    (key, names) ∈ members ∧ names.Lists ownerMarker

section
variable {context : Context} {environment : Environment} {owner other : Owner}
  {members rest : Entries Json} {buckets gathered : Buckets}

-- ---------------------------------------------------------------------------
-- Contributions
-- ---------------------------------------------------------------------------

theorem contribution_role (context : Context) (field : String) (members : Entries Json)
    (value : Json) (hkey : key ∈ roleKeys) :
    ∃ kind, contribution context field members key value =
      identities context field members value >>= fun arns => .ok (some (kind, arns)) := by
  simp only [roleKeys, List.mem_cons, List.not_mem_nil, or_false] at hkey
  rcases hkey with rfl | rfl
  · exact ⟨.aws, rfl⟩
  · exact ⟨.federated, rfl⟩

theorem owner_of_identities (h : identities context field members names = .ok arns)
    (hmarked : names.Lists ownerMarker) : context.owner.kind = .role := by
  obtain ⟨texts, htexts, h⟩ := bind_ok.1 h
  obtain ⟨users, -, h⟩ := bind_ok.1 h
  obtain ⟨accounts, -, h⟩ := bind_ok.1 h
  have hstands : (Reference.iam texts users ⟨accounts, none⟩).StandsForOwner .role :=
    (Json.mem_stringList htexts).2 hmarked
  exact Reference.owner_of_resolve h hstands

theorem owner_of_contribution (h : contribution context field members key names = .ok given)
    (hkey : key ∈ roleKeys) (hmarked : names.Lists ownerMarker) : context.owner.kind = .role := by
  obtain ⟨kind, heq⟩ := contribution_role context field members names hkey
  obtain ⟨arns, harns, -⟩ := bind_ok.1 (heq.symm.trans h)
  exact owner_of_identities harns hmarked

theorem identities_eq (field : String) (members : Entries Json) (owner other : Owner)
    (h : ¬names.Lists ownerMarker) :
    identities ⟨environment, owner⟩ field members names =
      identities ⟨environment, other⟩ field members names := by
  refine bind_eq_of_ok fun texts htexts => bind_eq_of_ok fun users _ =>
    bind_eq_of_ok fun accounts _ => Reference.resolve_eq fun wanted hstands => h ?_
  cases wanted with
  | role => exact (Json.mem_stringList htexts).1 hstands
  | _ => exact hstands.elim

theorem contribution_eq (field : String) (members : Entries Json) (owner other : Owner)
    (h : key ∈ roleKeys → ¬value.Lists ownerMarker) :
    contribution ⟨environment, owner⟩ field members key value =
      contribution ⟨environment, other⟩ field members key value := by
  by_cases hkey : key ∈ roleKeys
  · have hsame : identities ⟨environment, owner⟩ field members value =
        identities ⟨environment, other⟩ field members value :=
      identities_eq field members owner other (h hkey)
    simp only [roleKeys, List.mem_cons, List.not_mem_nil, or_false] at hkey
    rcases hkey with rfl | rfl <;> exact congrArg (· >>= _) hsame
  · unfold contribution
    split <;> first | rfl | exact absurd (by simp [roleKeys]) hkey

-- ---------------------------------------------------------------------------
-- Mappings
-- ---------------------------------------------------------------------------

theorem shorthandBuckets_eq (field : String) (members : Entries Json) (owner other : Owner)
    (h : ∀ member ∈ rest, member.1 ∈ roleKeys → ¬member.2.Lists ownerMarker) :
    shorthandBuckets ⟨environment, owner⟩ field members buckets rest =
      shorthandBuckets ⟨environment, other⟩ field members buckets rest := by
  induction rest generalizing buckets with
  | nil => rfl
  | cons member rest ih =>
    obtain ⟨hhead, hrest⟩ := List.forall_mem_cons.1 h
    simp only [shorthandBuckets, contribution_eq field members owner other hhead, ih hrest]

theorem outcome_resolveMapping_eq (field : String) (owner other : Owner)
    (h : ∀ member ∈ members, member.1 ∈ roleKeys → ¬member.2.Lists ownerMarker) :
    (resolveMapping ⟨environment, owner⟩ field members).outcome =
      (resolveMapping ⟨environment, other⟩ field members).outcome := by
  rw [outcome_resolveMapping, outcome_resolveMapping,
    shorthandBuckets_eq field members owner other h]

-- ---------------------------------------------------------------------------
-- Values of fields
-- ---------------------------------------------------------------------------

theorem owner_of_resolve (h : (resolve context field value).outcome = .ok entries)
    (hrefers : ValueRefersToOwner value) : context.owner.kind = .role := by
  obtain ⟨members, hentry, key, hkey, names, hmember, hmarked⟩ := hrefers
  obtain ⟨entry, hresolved⟩ := exists_forall₂_iff.1 ⟨_, Traced.each_ok.1 h⟩ _ hentry
  simp only [resolveEntry, Traced.outcome_bind, bind_ok] at hresolved
  obtain ⟨principal, hprincipal, -⟩ := hresolved
  obtain ⟨-, hgiven, -⟩ := resolveMapping_ok hprincipal
  obtain ⟨given, hgiven⟩ := hgiven _ hmember
  exact owner_of_contribution hgiven hkey hmarked

theorem outcome_resolve_eq (field : String) (owner other : Owner)
    (h : ¬ValueRefersToOwner value) :
    (resolve ⟨environment, owner⟩ field value).outcome =
      (resolve ⟨environment, other⟩ field value).outcome := by
  simp only [resolve, Traced.outcome_each]
  refine mapM_congr fun entry hentry => ?_
  cases entry with
  | obj members =>
    have hmembers : ∀ member ∈ members, member.1 ∈ roleKeys → ¬member.2.Lists ownerMarker :=
      fun member hmember hkey hmarked =>
        h ⟨members, hentry, member.1, hkey, member.2, hmember, hmarked⟩
    simp only [resolveEntry, Traced.outcome_bind,
      outcome_resolveMapping_eq field owner other hmembers]
  | _ => rfl

end

end AccessPolicy.PrincipalEntry
