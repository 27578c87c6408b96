import AccessPolicy.Proofs.Diff.SortedItems
import AccessPolicy.Proofs.GrantPlan.Execution
import AccessPolicy.Proofs.Statement.Alike
import AccessPolicy.Proofs.Statement.Plain

/-!
# Order in plans

A plan selects from the grants of a key and from those that are wanted. Neither the order of the
grants nor that of the lists in them matters to what it selects, and what the service hands out does
not either (`planGrants_rearranged`). What is selected keeps its order.
-/

namespace AccessPolicy

/-- Values of an attribute that differ at most in the order of a list. -/
inductive SameAttribute : Json → Json → Prop
  | value (value : Json) : SameAttribute value value
  | list (h : List.Perm items others) : SameAttribute (.arr items) (.arr others)

/-- Grants of a key that differ at most in the order of their lists and in what the service hands
out. -/
def SameGrant (grant other : Table Json) : Prop :=
  ∀ key ∉ ignoredGrantKeys, Option.Rel SameAttribute (grant.get? key) (other.get? key)

structure Grant.Alike (a b : Grant) : Prop where
  grantee : a.grantee.Perm b.grantee
  retiree : a.retiree.Perm b.retiree
  operations : a.operations.Perm b.operations
  constraints : a.constraints = b.constraints
  grantTokens : a.grantTokens.Perm b.grantTokens

-- ---------------------------------------------------------------------------
-- Attributes
-- ---------------------------------------------------------------------------

section
variable {value other : Json}

theorem SameAttribute.attributeMatches_eq (h : SameAttribute value other) (hplain : value.Plain)
    (found : Option Json) : attributeMatches value found = attributeMatches other found := by
  cases h with
  | value => rfl
  | list hperm =>
    have hsorted := (Json.sortItems_eq_iff (Json.plain_arr.1 hplain)).2 hperm
    rcases found with _ | found
    · rfl
    · cases found with
      | arr items => rw [attributeMatches, attributeMatches, Json.sameUnordered, hsorted]; rfl
      | _ => rfl

theorem SameAttribute.matched_eq (h : SameAttribute value other) (hplain : value.Plain)
    (wanted : Json) :
    attributeMatches wanted (some value) = attributeMatches wanted (some other) := by
  rw [attributeMatches_comm, h.attributeMatches_eq hplain, attributeMatches_comm]

end

-- ---------------------------------------------------------------------------
-- Grants
-- ---------------------------------------------------------------------------

section
variable {grant other : Table Json}

theorem SameGrant.attribute (h : SameGrant grant other) (hplain : (Json.obj grant.entries).Plain)
    (hi : key ∉ ignoredGrantKeys) :
    (grant.entries.find? key = none ∧ other.entries.find? key = none) ∨
      ∃ value same, grant.entries.find? key = some value ∧
        other.entries.find? key = some same ∧ SameAttribute value same ∧ value.Plain := by
  have hrel : Option.Rel SameAttribute (grant.entries.find? key) (other.entries.find? key) :=
    h key hi
  have hvalue (value : Json) (hf : grant.entries.find? key = some value) : value.Plain :=
    Json.plain_of_find? hplain hf
  generalize grant.entries.find? key = own at hrel hvalue ⊢
  generalize other.entries.find? key = found at hrel ⊢
  cases hrel with
  | none => exact .inl ⟨rfl, rfl⟩
  | some hsame => exact .inr ⟨_, _, rfl, rfl, hsame, hvalue _ rfl⟩

theorem SameGrant.grantMatches_eq (h : SameGrant grant other)
    (hplain : (Json.obj grant.entries).Plain) (wanted : Entries Json) :
    grantMatches grant.entries wanted = grantMatches other.entries wanted := by
  have hkey (key : String) :
      (∀ value, grant.entries.find? key = some value → key ∉ ignoredGrantKeys →
        attributeMatches value (wanted.find? key) = true) ↔
      ∀ value, other.entries.find? key = some value → key ∉ ignoredGrantKeys →
        attributeMatches value (wanted.find? key) = true := by
    by_cases hi : key ∈ ignoredGrantKeys
    · simp only [hi, not_true_eq_false, false_imp_iff, implies_true]
    · rcases h.attribute hplain hi with ⟨hown, hother⟩ | ⟨_, _, hown, hother, hsame, hvalue⟩
      · rw [hown, hother]
      · simp only [hown, hother, Option.some.injEq, forall_eq', hsame.attributeMatches_eq hvalue]
  rw [Bool.eq_iff_iff, grantMatches_iff grant.ascending.distinct,
    grantMatches_iff other.ascending.distinct]
  exact forall_congr' hkey

theorem SameGrant.matched_eq (h : SameGrant grant other)
    (hplain : (Json.obj grant.entries).Plain) (wanted : Entries Json) :
    grantMatches wanted grant.entries = grantMatches wanted other.entries := by
  refine congrArg wanted.all (funext fun member => ?_)
  obtain ⟨key, value⟩ := member
  show (_ || attributeMatches value _) = (_ || attributeMatches value _)
  by_cases hi : key ∈ ignoredGrantKeys
  · simp [hi]
  · rcases h.attribute hplain hi with ⟨hown, hother⟩ | ⟨_, _, hown, hother, hsame, hvalue⟩
    · rw [hown, hother]
    · rw [hown, hother, hsame.matched_eq hvalue]

theorem Grant.Alike.render_eq (a b : Grant) (h : a.Alike b) : a.render = b.render := by
  rw [Grant.render, Grant.render, listMember_eq_of_perm _ h.grantee,
    listMember_eq_of_perm _ h.retiree, ascendingMember_eq_of_perm _ h.operations, h.constraints,
    ascendingMember_eq_of_perm _ h.grantTokens]

end

-- ---------------------------------------------------------------------------
-- Plans
-- ---------------------------------------------------------------------------

section
variable {current others : List (Table Json)} {wanted desired : List Grant}
  {grant other : Table Json}

def isCreated (current : List (Table Json)) (grant : Entries Json) : Bool :=
  !(current.map Table.entries).any (grantMatches grant)

def isRevoked (wanted : List Grant) (grant : Table Json) : Bool :=
  !(wanted.map Grant.render).any (grantMatches grant.entries)

theorem planGrants_filter (current : List (Table Json)) (wanted : List Grant) :
    (planGrants (current.map fun grant => .obj grant.entries) wanted).outcome =
      .ok ⟨(wanted.map Grant.render).filter (isCreated current),
        (current.filter (isRevoked wanted)).map Table.entries⟩ := by
  have hrevoke : (current.map Table.entries).filter
        (fun grant => !(wanted.map Grant.render).any (grantMatches grant)) =
      (current.filter (isRevoked wanted)).map Table.entries := List.filter_map
  have hplan := planGrants_obj (current.map Table.entries) wanted
  rw [List.map_map, GrantPlan.between, hrevoke] at hplan
  exact hplan

theorem mem_revoked_iff (h : grant ∈ current) :
    grant.entries ∈ (current.filter (isRevoked wanted)).map Table.entries ↔
      isRevoked wanted grant = true := by
  rw [List.mem_map]
  constructor
  · rintro ⟨same, hsame, heq⟩
    have hrevoked := List.of_mem_filter hsame
    rw [isRevoked, heq] at hrevoked
    exact hrevoked
  · exact fun hrevoked => ⟨grant, List.mem_filter.2 ⟨h, hrevoked⟩, rfl⟩

theorem isCreated_eq (hplain : ∀ grant ∈ current, (Json.obj grant.entries).Plain)
    (hcurrent : Rearranged SameGrant current others) : isCreated current = isCreated others := by
  funext grant
  have hfound : (∃ found ∈ current, grantMatches grant found.entries = true) ↔
      ∃ found ∈ others, grantMatches grant found.entries = true :=
    hcurrent.exists_mem_iff fun found hfound other hsame => by
      rw [hsame.matched_eq (hplain found hfound)]
  refine congrArg not (Bool.eq_iff_iff.2 ?_)
  simpa using hfound

theorem isRevoked_eq (hwanted : Rearranged Grant.Alike wanted desired) :
    isRevoked wanted = isRevoked desired :=
  funext fun _ => congrArg not (hwanted.map_perm Grant.Alike.render_eq).any_eq

theorem SameGrant.isRevoked_eq (h : SameGrant grant other) (hplain : (Json.obj grant.entries).Plain)
    (wanted : List Grant) : isRevoked wanted grant = isRevoked wanted other := by
  have hmatches : grantMatches grant.entries = grantMatches other.entries :=
    funext (h.grantMatches_eq hplain)
  rw [isRevoked, isRevoked, hmatches]

end

/-- Plans for the same grants select the same, in whatever order the grants and their lists come. A
plan leaves its grants in their order, and those that it selects are there as often as before. -/
theorem planGrants_rearranged {current others : List (Table Json)} {wanted desired : List Grant}
    (hplain : ∀ grant ∈ current, (Json.obj grant.entries).Plain)
    (hcurrent : Rearranged SameGrant current others)
    (hwanted : Rearranged Grant.Alike wanted desired) :
    ∃ first second : GrantPlan,
      (planGrants (current.map fun grant => .obj grant.entries) wanted).outcome = .ok first ∧
      (planGrants (others.map fun grant => .obj grant.entries) desired).outcome = .ok second ∧
      first.create.Perm second.create ∧
      (∀ grant ∈ current, ∀ other ∈ others, SameGrant grant other →
        (grant.entries ∈ first.revoke ↔ other.entries ∈ second.revoke)) ∧
      ∃ (created : Entries Json → Bool) (revoked : Table Json → Bool),
        first.create = (wanted.map Grant.render).filter created ∧
        second.create = (desired.map Grant.render).filter created ∧
        first.revoke = (current.filter revoked).map Table.entries ∧
        second.revoke = (others.filter revoked).map Table.entries := by
  have hcreated : isCreated current = isCreated others := isCreated_eq hplain hcurrent
  have hrevoked : isRevoked wanted = isRevoked desired := isRevoked_eq hwanted
  refine ⟨_, _, planGrants_filter current wanted, planGrants_filter others desired, ?_, ?_,
    isCreated current, isRevoked wanted, rfl, by rw [hcreated], rfl, by rw [hrevoked]⟩
  · rw [← hcreated]
    exact (hwanted.map_perm Grant.Alike.render_eq).filter _
  · intro grant hgrant other hother hsame
    rw [mem_revoked_iff hgrant, mem_revoked_iff hother, ← hrevoked,
      hsame.isRevoked_eq (hplain grant hgrant)]

def listedPair : Table Json :=
  .ofList [("GrantId", .str "g-1"), ("GranteePrincipal", .str "role/app"),
    ("Operations", .strings ["Decrypt", "Encrypt"])]

def listedPairTurned : Table Json :=
  .ofList [("GranteePrincipal", .str "role/app"), ("Operations", .strings ["Encrypt", "Decrypt"])]

theorem sameGrant_listedPair : SameGrant listedPair listedPairTurned := by
  intro key hkey
  by_cases hgrantee : "GranteePrincipal" = key
  · subst hgrantee
    exact .some (.value _)
  by_cases hoperations : "Operations" = key
  · subst hoperations
    exact .some (.list (.swap _ _ []))
  have hid : "GrantId" ≠ key := fun heq => hkey (heq ▸ .head _)
  have hlisted : listedPair.get? key = none := by
    refine Entries.find?_eq_none_iff.2 ?_
    show ∀ entry ∈ ([_, _, _] : Entries Json), entry.1 ≠ key
    simp only [List.forall_mem_cons]
    exact ⟨hid, hgrantee, hoperations, List.forall_mem_nil _⟩
  have hturned : listedPairTurned.get? key = none := by
    refine Entries.find?_eq_none_iff.2 ?_
    show ∀ entry ∈ ([_, _] : Entries Json), entry.1 ≠ key
    simp only [List.forall_mem_cons]
    exact ⟨hgrantee, hoperations, List.forall_mem_nil _⟩
  rw [hlisted, hturned]
  exact .none

theorem plain_listedPair : (Json.obj listedPair.entries).Plain := by
  refine Json.plain_obj.2 ⟨listedPair.ascending, ?_⟩
  show ∀ member ∈ ([_, _, _] : Entries Json), member.2.Plain
  simp only [List.forall_mem_cons]
  exact ⟨Json.plain_str _, Json.plain_str _, Json.plain_strings _, List.forall_mem_nil _⟩

theorem grantMatches_listedPair :
    let kept : Grant := ⟨["role/app"], [], ["Decrypt", "Encrypt"], none, []⟩
    grantMatches kept.render listedPair.entries = true ∧
      grantMatches listedPair.entries kept.render = true := by
  intro kept
  have hsorted : ascending ["Decrypt", "Encrypt"] = ["Decrypt", "Encrypt"] :=
    (eq_ascending_iff.2 ⟨.refl _, by decide⟩).symm
  have hrender : kept.render = [("GranteePrincipal", .str "role/app"),
      ("Operations", .strings (ascending ["Decrypt", "Encrypt"]))] := rfl
  rw [hrender, hsorted]
  constructor
  · refine grantMatches_of_found ?_
    simp only [List.forall_mem_cons]
    exact ⟨.inr rfl, .inr rfl, List.forall_mem_nil _⟩
  · refine grantMatches_of_found ?_
    show ∀ member ∈ ([_, _, _] : Entries Json), _
    simp only [List.forall_mem_cons]
    exact ⟨.inl (.head _), .inr rfl, .inr rfl, List.forall_mem_nil _⟩

/-- A current grant that is listed otherwise is kept all the same, and the other wanted grant is
created all the same. -/
theorem planGrants_rearranged_listedPair :
    let kept : Grant := ⟨["role/app"], [], ["Decrypt", "Encrypt"], none, []⟩
    let turned : Grant := ⟨["role/app"], [], ["Encrypt", "Decrypt"], none, []⟩
    let wanted := [decryptGrant ["t-1", "t-2"], kept]
    let desired := [turned, decryptGrant ["t-2", "t-1"]]
    let first : GrantPlan := ⟨[(decryptGrant ["t-1", "t-2"]).render], []⟩
    let second : GrantPlan := ⟨[(decryptGrant ["t-2", "t-1"]).render], []⟩
    Rearranged SameGrant [listedPair] [listedPairTurned] ∧ Rearranged Grant.Alike wanted desired ∧
    (planGrants [.obj listedPair.entries] wanted).outcome = .ok first ∧
    (planGrants [.obj listedPairTurned.entries] desired).outcome = .ok second ∧
    first.create.Perm second.create ∧
    (listedPair.entries ∈ first.revoke ↔ listedPairTurned.entries ∈ second.revoke) := by
  intro kept turned wanted desired first second
  have hplain : ∀ grant ∈ [listedPair], (Json.obj grant.entries).Plain :=
    List.forall_mem_singleton.2 plain_listedPair
  have hcurrent : Rearranged SameGrant [listedPair] [listedPairTurned] :=
    rearranged_of_forall₂ (.cons sameGrant_listedPair .nil)
  have htokens : (decryptGrant ["t-1", "t-2"]).Alike (decryptGrant ["t-2", "t-1"]) :=
    ⟨.refl _, .refl _, .refl _, rfl, .swap _ _ []⟩
  have hkept : kept.Alike turned := ⟨.refl _, .refl _, .swap _ _ [], rfl, .refl _⟩
  have hwanted : Rearranged Grant.Alike wanted desired :=
    ⟨[decryptGrant ["t-2", "t-1"], turned], .cons htokens (.cons hkept .nil), .swap _ _ []⟩
  have hcreated : isCreated [listedPair] (decryptGrant ["t-1", "t-2"]).render = true := by
    have hmatch : grantMatches (decryptGrant ["t-1", "t-2"]).render listedPair.entries = false :=
      rfl
    simp [isCreated, hmatch]
  obtain ⟨hmatch, hback⟩ := grantMatches_listedPair
  have hfound : isCreated [listedPair] kept.render = false := by
    simp [isCreated, kept, hmatch]
  have hrevoked : isRevoked wanted listedPair = false := by
    simp [isRevoked, wanted, kept, hback]
  have hfirst : (planGrants [.obj listedPair.entries] wanted).outcome = .ok first := by
    simpa [wanted, hcreated, hfound, hrevoked] using planGrants_filter [listedPair] wanted
  have hsecond : (planGrants [.obj listedPairTurned.entries] desired).outcome = .ok second := by
    rw [isCreated_eq hplain hcurrent, htokens.render_eq] at hcreated
    rw [isCreated_eq hplain hcurrent, hkept.render_eq] at hfound
    rw [isRevoked_eq hwanted, sameGrant_listedPair.isRevoked_eq (hplain _ (.head _))] at hrevoked
    simpa [desired, hcreated, hfound, hrevoked] using planGrants_filter [listedPairTurned] desired
  obtain ⟨_, _, hone, hother, hcreate, hrevoke, -⟩ :=
    planGrants_rearranged hplain hcurrent hwanted
  obtain rfl := Except.ok.inj (hfirst.symm.trans hone)
  obtain rfl := Except.ok.inj (hsecond.symm.trans hother)
  exact ⟨hcurrent, hwanted, hfirst, hsecond, hcreate,
    hrevoke _ (.head _) _ (.head _) sameGrant_listedPair⟩

end AccessPolicy
