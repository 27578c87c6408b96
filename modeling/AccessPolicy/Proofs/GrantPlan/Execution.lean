import AccessPolicy.Proofs.GrantPlan.Matching

/-!
# Carrying plans out

Planning again after a plan was carried out revokes nothing, creates nothing twice, and a third plan
is empty (`planGrants_settles`). A single plan need not reach the wanted grants: one that agrees
with a current grant is not created, but that current grant is revoked when it has a list that no
wanted grant has (`planGrants_revokes_match`). `planGrants_keeps_iff` says exactly when a current
grant is kept for a wanted one.
-/

namespace AccessPolicy

/-- The grants of a key after a plan: those that it does not revoke, then those that it creates,
each with what the service adds to it. -/
def GrantPlan.execute (plan : GrantPlan) (current : List (Entries Json))
    (added : Nat → ServiceAttributes) : List (Entries Json) :=
  current.filter (fun grant => grant ∉ plan.revoke) ++
    plan.create.mapIdx fun position entry => (added position).addTo entry

/-- A wanted grant agrees with a current one that the plan does not revoke. -/
def GrantPlan.Keeps (plan : GrantPlan) (current : List (Table Json)) (grant : Grant) : Prop :=
  ∃ kept ∈ current, kept.entries ∉ plan.revoke ∧ grantMatches grant.render kept.entries = true

-- ---------------------------------------------------------------------------
-- Plans
-- ---------------------------------------------------------------------------

theorem currentGrants_obj (current : List (Entries Json)) :
    currentGrants (current.map .obj) = .ok current := by
  rw [currentGrants]
  induction current with
  | nil => rfl
  | cons members rest ih =>
    rw [List.map_cons, List.mapM_cons, ih]
    rfl

theorem planGrants_obj (current : List (Entries Json)) (wanted : List Grant) :
    (planGrants (current.map .obj) wanted).outcome =
      .ok (GrantPlan.between current (wanted.map Grant.render)) := by
  simp only [planGrants, Traced.outcome_bind, Traced.outcome_lift, currentGrants_obj]
  rfl

section
variable {current wanted : List (Entries Json)} {grant : Entries Json}

theorem mem_create_iff : grant ∈ (GrantPlan.between current wanted).create ↔
    grant ∈ wanted ∧ ¬ ∃ found ∈ current, grantMatches grant found = true := by
  simp [GrantPlan.between]

theorem mem_revoke_iff : grant ∈ (GrantPlan.between current wanted).revoke ↔
    grant ∈ current ∧ ¬ ∃ other ∈ wanted, grantMatches grant other = true := by
  simp [GrantPlan.between]

theorem revoke_eq_nil_iff : (GrantPlan.between current wanted).revoke = [] ↔
    ∀ grant ∈ current, ∃ other ∈ wanted, grantMatches grant other = true := by
  simp [GrantPlan.between]

end

-- ---------------------------------------------------------------------------
-- Execution
-- ---------------------------------------------------------------------------

section
variable {plan : GrantPlan} {current : List (Entries Json)} {added : Nat → ServiceAttributes}

theorem GrantPlan.mem_execute_iff : grant ∈ plan.execute current added ↔
    grant ∈ current ∧ grant ∉ plan.revoke ∨
      ∃ position, ∃ h : position < plan.create.length,
        (added position).addTo plan.create[position] = grant := by
  rw [execute, List.mem_append, List.mem_filter, decide_eq_true_iff, List.mem_mapIdx]

theorem GrantPlan.exists_addTo_mem_execute (current : List (Entries Json))
    (added : Nat → ServiceAttributes) (h : entry ∈ plan.create) :
    ∃ position, (added position).addTo entry ∈ plan.execute current added := by
  obtain ⟨position, hp, rfl⟩ := List.mem_iff_getElem.1 h
  exact ⟨position, mem_execute_iff.2 (.inr ⟨position, hp, rfl⟩)⟩

end

-- ---------------------------------------------------------------------------
-- What a round of planning and execution preserves
-- ---------------------------------------------------------------------------

section
variable {current : List (Entries Json)} {wanted : List Grant} {added : Nat → ServiceAttributes}

def roundPlan (current : List (Entries Json)) (wanted : List Grant) : GrantPlan :=
  GrantPlan.between current (wanted.map Grant.render)

theorem not_mem_revoke_iff (h : live ∈ current) : live ∉ (roundPlan current wanted).revoke ↔
    ∃ grant ∈ wanted, grantMatches live grant.render = true := by
  rw [roundPlan, mem_revoke_iff, not_and, Classical.not_not]
  constructor
  · intro hm
    obtain ⟨other, hother, hmatch⟩ := hm h
    obtain ⟨grant, hgrant, rfl⟩ := List.mem_map.1 hother
    exact ⟨grant, hgrant, hmatch⟩
  · rintro ⟨grant, hgrant, hmatch⟩ _
    exact ⟨grant.render, List.mem_map_of_mem hgrant, hmatch⟩

theorem exists_wanted_of_mem_create (h : entry ∈ (roundPlan current wanted).create) :
    ∃ grant ∈ wanted, grant.render = entry :=
  List.mem_map.1 (mem_create_iff.1 h).1

/-- Whatever a round leaves behind agrees with a wanted grant: a kept grant because it was kept, a
created one because of what it was created from. -/
theorem matches_wanted_of_mem_execute
    (h : live ∈ (roundPlan current wanted).execute current added) :
    ∃ grant ∈ wanted, grantMatches live grant.render = true := by
  rcases GrantPlan.mem_execute_iff.1 h with ⟨hm, hkept⟩ | ⟨position, hp, rfl⟩
  · exact (not_mem_revoke_iff hm).1 hkept
  · obtain ⟨grant, hgrant, hentry⟩ := exists_wanted_of_mem_create (List.getElem_mem hp)
    refine ⟨grant, hgrant, ?_⟩
    rw [← hentry]
    exact addTo_grantMatches grant (added position)

theorem revoke_after_round :
    (roundPlan ((roundPlan current wanted).execute current added) wanted).revoke = [] := by
  rw [roundPlan, revoke_eq_nil_iff]
  intro live hlive
  obtain ⟨grant, hgrant, hmatch⟩ := matches_wanted_of_mem_execute hlive
  exact ⟨grant.render, List.mem_map_of_mem hgrant, hmatch⟩

theorem found_after_create (h : entry ∈ (roundPlan current wanted).create) :
    ∃ found ∈ (roundPlan current wanted).execute current added,
      grantMatches entry found = true := by
  obtain ⟨grant, -, rfl⟩ := exists_wanted_of_mem_create h
  obtain ⟨position, hlive⟩ := GrantPlan.exists_addTo_mem_execute current added h
  exact ⟨_, hlive, grantMatches_addTo grant (added position)⟩

theorem create_after_round
    (h : entry ∈ (roundPlan ((roundPlan current wanted).execute current added) wanted).create) :
    entry ∉ (roundPlan current wanted).create :=
  fun hfirst => (mem_create_iff.1 h).2 (found_after_create hfirst)

theorem found_after_round (hr : (roundPlan current wanted).revoke = [])
    (hw : entry ∈ wanted.map Grant.render) :
    ∃ found ∈ (roundPlan current wanted).execute current added,
      grantMatches entry found = true := by
  by_cases hc : entry ∈ (roundPlan current wanted).create
  · exact found_after_create hc
  · rw [roundPlan, mem_create_iff, not_and, Classical.not_not] at hc
    obtain ⟨found, hfound, hmatch⟩ := hc hw
    refine ⟨found, GrantPlan.mem_execute_iff.2 (.inl ⟨hfound, ?_⟩), hmatch⟩
    rw [hr]
    exact List.not_mem_nil

theorem isEmpty_after_round (hr : (roundPlan current wanted).revoke = []) :
    (roundPlan ((roundPlan current wanted).execute current added) wanted).isEmpty = true := by
  rw [GrantPlan.isEmpty, Bool.and_eq_true, List.isEmpty_iff, List.isEmpty_iff]
  refine ⟨List.eq_nil_iff_forall_not_mem.2 fun entry hcreate => ?_, revoke_after_round⟩
  obtain ⟨hw, hnone⟩ := mem_create_iff.1 hcreate
  exact hnone (found_after_round hr hw)

end

-- ---------------------------------------------------------------------------
-- Successive plans
-- ---------------------------------------------------------------------------

theorem planGrants_settles (current : List (Entries Json)) (wanted : List Grant)
    (added later : Nat → ServiceAttributes) :
    ∃ first second third : GrantPlan,
      (planGrants (current.map .obj) wanted).outcome = .ok first ∧
      (planGrants ((first.execute current added).map .obj) wanted).outcome = .ok second ∧
      second.revoke = [] ∧ (∀ entry ∈ second.create, entry ∉ first.create) ∧
      (planGrants ((second.execute (first.execute current added) later).map .obj) wanted).outcome =
        .ok third ∧ third.isEmpty = true := by
  let first := roundPlan current wanted
  let second := roundPlan (first.execute current added) wanted
  let third := roundPlan (second.execute (first.execute current added) later) wanted
  have hsecond : second.revoke = [] := revoke_after_round
  refine ⟨first, second, third, planGrants_obj .., planGrants_obj .., hsecond, ?_,
    planGrants_obj .., isEmpty_after_round hsecond⟩
  intro entry hentry
  exact create_after_round hentry

-- ---------------------------------------------------------------------------
-- A single plan
-- ---------------------------------------------------------------------------

theorem found_after_keeps {current : List (Table Json)} {plan : GrantPlan}
    (h : plan.Keeps current grant) :
    ∃ found ∈ plan.execute (current.map Table.entries) added,
      grantMatches grant.render found = true := by
  obtain ⟨kept, hm, hr, hmatch⟩ := h
  exact ⟨kept.entries, GrantPlan.mem_execute_iff.2 (.inl ⟨List.mem_map_of_mem hm, hr⟩), hmatch⟩

/-- A current grant is kept for a wanted one exactly when some grant that the wanted one agrees with
has no list beyond it, or agrees with a wanted grant itself. A wanted grant that is created or for
which one is kept is there after the plan. -/
theorem planGrants_keeps_iff {current : List (Table Json)} {wanted : List Grant} {plan : GrantPlan}
    (hplan : (planGrants (current.map fun grant => .obj grant.entries) wanted).outcome = .ok plan)
    {grant : Grant} (hw : grant ∈ wanted) :
    (plan.Keeps current grant ↔
      ∃ found ∈ current, grantMatches grant.render found.entries = true ∧
        (¬ ListsBeyond found.entries grant.render ∨
          ∃ other ∈ wanted, grantMatches found.entries other.render = true)) ∧
    (grant.render ∈ plan.create ∨ plan.Keeps current grant →
      ∀ added, ∃ found ∈ plan.execute (current.map Table.entries) added,
        grantMatches grant.render found = true) := by
  have hround : plan = roundPlan (current.map Table.entries) wanted := by
    have h := planGrants_obj (current.map Table.entries) wanted
    rw [List.map_map] at h
    exact (Except.ok.inj (h.symm.trans hplan)).symm
  subst hround
  refine ⟨⟨?_, ?_⟩, ?_⟩
  · rintro ⟨found, hf, hr, hmatch⟩
    exact ⟨found, hf, hmatch, .inr ((not_mem_revoke_iff (List.mem_map_of_mem hf)).1 hr)⟩
  · -- a grant without a list beyond the wanted one agrees with it in turn
    rintro ⟨found, hf, hmatch, hback⟩
    refine ⟨found, hf, (not_mem_revoke_iff (List.mem_map_of_mem hf)).2 ?_, hmatch⟩
    rcases hback with hlists | hother
    · have hg := grant.render_ascending.distinct
      exact ⟨grant, hw, (grantMatches_swap_iff hg found.ascending.distinct hmatch).2 hlists⟩
    · exact hother
  · rintro (hcreate | hkeeps) added
    · exact found_after_create hcreate
    · exact found_after_keeps hkeeps

def decryptGrant (tokens : List String) : Grant := ⟨["role/app"], [], ["Decrypt"], none, tokens⟩

def listedDecryptGrant : Table Json :=
  .ofList [("GrantId", .str "g-1"), ("GranteePrincipal", .str "role/app"),
    ("Operations", .strings ["Decrypt"]), ("GrantTokens", .strings ["t-1"])]

/-- The current grant has a token beyond the first wanted grant, and agrees with the second. -/
theorem planGrants_keeps_listedDecryptGrant :
    (planGrants [.obj listedDecryptGrant.entries] [decryptGrant [], decryptGrant ["t-1"]]).outcome =
      .ok ⟨[], []⟩ ∧ GrantPlan.Keeps ⟨[], []⟩ [listedDecryptGrant] (decryptGrant []) := by
  have hmatch : grantMatches (decryptGrant []).render listedDecryptGrant.entries = true := by
    decide +kernel
  have hagree : grantMatches (decryptGrant ["t-1"]).render listedDecryptGrant.entries = true := by
    decide +kernel
  have hother : grantMatches listedDecryptGrant.entries (decryptGrant ["t-1"]).render = true := by
    decide +kernel
  have hplan : (planGrants [.obj listedDecryptGrant.entries]
      [decryptGrant [], decryptGrant ["t-1"]]).outcome = .ok ⟨[], []⟩ := by
    simpa [GrantPlan.between, hmatch, hagree, hother] using
      planGrants_obj [listedDecryptGrant.entries] [decryptGrant [], decryptGrant ["t-1"]]
  have hiff := @planGrants_keeps_iff [listedDecryptGrant] _ _ hplan _ List.mem_cons_self
  refine ⟨hplan, hiff.1.2 ⟨listedDecryptGrant, List.mem_cons_self, hmatch, .inr ?_⟩⟩
  exact ⟨decryptGrant ["t-1"], List.mem_cons_of_mem _ List.mem_cons_self, hother⟩

/-- The wanted grant agrees with the current one and so is not created; the current one has a token
beyond it and so is revoked. Nothing is left. -/
theorem planGrants_revokes_match :
    let plan : GrantPlan := ⟨[], [listedDecryptGrant.entries]⟩
    (planGrants [.obj listedDecryptGrant.entries] [decryptGrant []]).outcome = .ok plan ∧
      (decryptGrant []).render ∉ plan.create ∧
      ¬ plan.Keeps [listedDecryptGrant] (decryptGrant []) ∧
      ∀ added, plan.execute [listedDecryptGrant.entries] added = [] := by
  have hmatch : grantMatches (decryptGrant []).render listedDecryptGrant.entries = true := by
    decide +kernel
  have hback : grantMatches listedDecryptGrant.entries (decryptGrant []).render = false := by
    decide +kernel
  refine ⟨?_, List.not_mem_nil, ?_, fun added => rfl⟩
  · simpa [GrantPlan.between, hmatch, hback] using
      planGrants_obj [listedDecryptGrant.entries] [decryptGrant []]
  rintro ⟨kept, hm, hr, -⟩
  rw [List.mem_singleton.1 hm] at hr
  exact hr List.mem_cons_self

end AccessPolicy
