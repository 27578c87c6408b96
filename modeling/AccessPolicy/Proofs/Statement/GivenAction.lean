import AccessPolicy.Proofs.Statement.Shown

/-!
# The action that a trust statement is given

A trust statement renders as a policy of a resource with the same contents does, and with the same
error where that fails. Only an action may come to it, which the rendered principals decide
(`render_trust_iff`).
-/

namespace AccessPolicy

def ShowsFederated (members : Entries Json) : Prop :=
  ∃ key ∈ ["Principal", "NotPrincipal"], ∃ buckets : Entries Json,
    members.find? key = some (.obj buckets) ∧ buckets.has "Federated" = true

/-- The action for those whom rendered members name: federated principals come with an
assertion. -/
inductive ActionFor (members : Entries Json) : String → Prop
  | federated (h : ShowsFederated members) : ActionFor members "sts:AssumeRoleWithSAML"
  | others (h : ¬ShowsFederated members) : ActionFor members "sts:AssumeRole"

/-- A statement has neither actions nor excluded ones, and renders to members that name
principals. -/
structure PolicyBody.LacksAction (body : PolicyBody) (members : Entries Json) : Prop where
  action : body.action = []
  notAction : body.notAction = []
  shown : members.has "Principal" = true ∨ members.has "NotPrincipal" = true

/-- The members of a trust statement, from those of a policy of a resource with its contents. -/
inductive PolicyBody.TrustForm (body : PolicyBody) (members : Entries Json) : Entries Json → Prop
  | kept (h : ¬body.LacksAction members) : TrustForm body members members
  | given {action : String} (h : body.LacksAction members)
    (habsent : members.find? "Action" = none) (haction : ActionFor members action) :
    TrustForm body members (members.put "Action" (.str action))

-- ---------------------------------------------------------------------------
-- Rendered principals
-- ---------------------------------------------------------------------------

theorem Principal.has_tag_toJson (principal : Principal) (kind : PrincipalKind) :
    Entries.has kind.tag (principal.buckets.map fun (kind, shape) => (kind.tag, shape.toJson)) =
      (principal.get? kind).isSome := by
  obtain ⟨aws, federated, service⟩ := principal
  cases kind <;> cases aws <;> cases federated <;> cases service <;> rfl

theorem PrincipalEntry.has_iff {entry : PrincipalEntry} {kind : PrincipalKind} :
    entry.has kind = true ↔
      ∃ buckets : Entries Json, entry.toJson = .obj buckets ∧ buckets.has kind.tag = true := by
  cases entry with
  | literal text => exact iff_of_false Bool.false_ne_true fun ⟨_, h, _⟩ => nomatch h
  | mapping principal =>
    rw [PrincipalEntry.has, ← principal.has_tag_toJson]
    constructor
    · exact fun h => ⟨_, rfl, h⟩
    · rintro ⟨_, heq, h⟩
      obtain rfl := Json.obj.inj heq
      exact h

section
variable {policy : PolicyStatement} {principal notPrincipal : Option PrincipalEntry}
  {trusted : Entries Json} {action : String}

theorem showsFederated_renderWith : ShowsFederated (policy.renderWith principal notPrincipal) ↔
    (principal.toList ++ notPrincipal.toList).any (PrincipalEntry.has .federated) = true := by
  have hprincipal : (policy.renderWith principal notPrincipal).find? "Principal" =
      principal.map PrincipalEntry.toJson := find?_renderWith policy principal notPrincipal
  have hnotPrincipal : (policy.renderWith principal notPrincipal).find? "NotPrincipal" =
      notPrincipal.map PrincipalEntry.toJson := find?_renderWith policy principal notPrincipal
  have hside (entry : Option PrincipalEntry) :
      (∃ buckets : Entries Json, entry.map PrincipalEntry.toJson = some (.obj buckets) ∧
        buckets.has "Federated" = true) ↔
        ∃ named ∈ entry.toList, named.has .federated = true := by
    cases entry with
    | none => simp
    | some entry => simp [PrincipalEntry.has_iff, PrincipalKind.tag]
  simp only [ShowsFederated, List.exists_mem_cons_iff, List.not_mem_nil, false_and, exists_false,
    or_false, hprincipal, hnotPrincipal, hside, List.any_eq_true, List.mem_append, or_and_right,
    exists_or]

theorem lacksAction_renderWith :
    policy.body.LacksAction (policy.renderWith principal notPrincipal) ↔
      policy.body.hasAction = false ∧ principal.toList ++ notPrincipal.toList ≠ [] := by
  have hempty : policy.body.hasAction = false ↔
      policy.body.action = [] ∧ policy.body.notAction = [] := by
    simp [PolicyBody.hasAction]
  rw [hempty, ← shows_renderWith_iff policy principal notPrincipal]
  constructor
  · rintro ⟨haction, hnotAction, hshown⟩
    exact ⟨⟨haction, hnotAction⟩, hshown⟩
  · rintro ⟨⟨haction, hnotAction⟩, hshown⟩
    exact ⟨haction, hnotAction, hshown⟩

-- ---------------------------------------------------------------------------
-- Actions
-- ---------------------------------------------------------------------------

theorem find?_action_renderWith (h : policy.body.action = []) :
    (policy.renderWith principal notPrincipal).find? "Action" = none := by
  have hfind := find?_list_of_shownIn (shownIn_renderWith policy principal notPrincipal)
    ("Action", policy.body.action) (.head _)
  rwa [h] at hfind

theorem actionFor_iff (h : principal.toList ++ notPrincipal.toList ≠ []) :
    ActionFor (policy.renderWith principal notPrincipal) action ↔
      PolicyStatement.trustAction? (principal.toList ++ notPrincipal.toList) = some action := by
  have hfederated : ShowsFederated (policy.renderWith principal notPrincipal) ↔
      (principal.toList ++ notPrincipal.toList).any (PrincipalEntry.has .federated) = true :=
    showsFederated_renderWith
  rw [PolicyStatement.trustAction?, if_neg (mt List.isEmpty_iff.1 h)]
  constructor
  · rintro (hshown | hnot)
    · rw [if_pos (hfederated.1 hshown)]
    · rw [if_neg (mt hfederated.2 hnot)]
  · intro haction
    split at haction
    · next hany =>
      obtain rfl := Option.some.inj haction
      exact .federated (hfederated.2 hany)
    · next hnone =>
      obtain rfl := Option.some.inj haction
      exact .others (mt hfederated.1 hnone)

theorem exists_actionFor (members : Entries Json) : ∃ action, ActionFor members action := by
  by_cases h : ShowsFederated members
  · exact ⟨_, .federated h⟩
  · exact ⟨_, .others h⟩

/-- The rendered members alone decide which action comes to a statement without one. -/
theorem defaultAction?_eq_some_iff : policy.defaultAction? principal notPrincipal = some action ↔
    policy.body.LacksAction (policy.renderWith principal notPrincipal) ∧
      ActionFor (policy.renderWith principal notPrincipal) action := by
  rw [lacksAction_renderWith, PolicyStatement.defaultAction?]
  cases policy.body.hasAction with
  | true => simp
  | false =>
    rw [if_neg Bool.false_ne_true]
    by_cases hsome : principal.toList ++ notPrincipal.toList = []
    · simp [hsome, PolicyStatement.trustAction?]
    · rw [← actionFor_iff hsome]
      exact (and_iff_right ⟨rfl, hsome⟩).symm

theorem ActionFor.unique {members : Entries Json} {other : String} (h : ActionFor members action)
    (hother : ActionFor members other) : action = other := by
  cases h with
  | federated h =>
    cases hother with
    | federated _ => rfl
    | others hnot => exact absurd h hnot
  | others hnot =>
    cases hother with
    | federated h => exact absurd h hnot
    | others _ => rfl

-- ---------------------------------------------------------------------------
-- Trust statements
-- ---------------------------------------------------------------------------

theorem PolicyBody.TrustForm.unique {body : PolicyBody} {members other : Entries Json}
    (h : body.TrustForm members trusted) (hother : body.TrustForm members other) :
    trusted = other := by
  cases h with
  | kept hkept =>
    cases hother with
    | kept _ => rfl
    | given h => exact absurd h hkept
  | given h _ haction =>
    cases hother with
    | kept hkept => exact absurd h hkept
    | given _ _ hsame => rw [haction.unique hsame]

/-- Only the action can tell the two forms apart. -/
theorem PolicyBody.TrustForm.find?_eq {body : PolicyBody} {members : Entries Json}
    (h : body.TrustForm members trusted) (hkey : key ≠ "Action") :
    trusted.find? key = members.find? key := by
  cases h with
  | kept _ => rfl
  | given _ _ _ => rw [Entries.find?_put, if_neg hkey.symm]

theorem trustForm_acted (policy : PolicyStatement)
    (principal notPrincipal : Option PrincipalEntry) :
    policy.body.TrustForm (policy.renderWith principal notPrincipal)
      ((policy.acted principal notPrincipal).renderWith principal notPrincipal) := by
  rw [PolicyStatement.acted]
  cases hdefault : policy.defaultAction? principal notPrincipal with
  | none =>
    refine .kept fun hlacks => ?_
    obtain ⟨action, haction⟩ := exists_actionFor (policy.renderWith principal notPrincipal)
    cases hdefault.symm.trans (defaultAction?_eq_some_iff.2 ⟨hlacks, haction⟩)
  | some action =>
    obtain ⟨hlacks, haction⟩ := defaultAction?_eq_some_iff.1 hdefault
    rw [← put_action]
    exact .given hlacks (find?_action_renderWith hlacks.action) haction

theorem outcome_render_resourcePolicy (policy : PolicyStatement) :
    (Statement.resourcePolicy policy).render.outcome =
      policy.merged.map fun merged => policy.renderWith merged.1 merged.2 := by
  show policy.render = _
  rw [PolicyStatement.render]
  cases policy.merged <;> rfl

theorem outcome_render_trust (policy : PolicyStatement) :
    (Statement.trust policy).render.outcome =
      policy.merged.map fun merged =>
        (policy.acted merged.1 merged.2).renderWith merged.1 merged.2 := by
  cases hmerged : policy.merged with
  | error cause =>
    simp only [Statement.render, PolicyStatement.renderTrust, Traced.outcome_bind,
      Traced.outcome_lift, hmerged]
    rfl
  | ok merged => exact renderTrust_ok.2 ⟨merged.1, merged.2, hmerged, rfl⟩

/-- A trust statement fails to render just where the policy of a resource with its contents does.
Else it renders to the same members, but for an action that it may be given. -/
theorem render_trust_iff (policy : PolicyStatement) :
    (∀ error, (Statement.trust policy).render.outcome = .error error ↔
      (Statement.resourcePolicy policy).render.outcome = .error error) ∧
    ∀ trusted, (Statement.trust policy).render.outcome = .ok trusted ↔
      ∃ members, (Statement.resourcePolicy policy).render.outcome = .ok members ∧
        (∀ key ≠ "Action", trusted.find? key = members.find? key) ∧
        policy.body.TrustForm members trusted := by
  rw [outcome_render_trust, outcome_render_resourcePolicy]
  simp only [map_error, map_ok, implies_true, true_and]
  intro trusted
  constructor
  · rintro ⟨merged, hmerged, rfl⟩
    have hform := trustForm_acted policy merged.1 merged.2
    exact ⟨_, ⟨merged, hmerged, rfl⟩, fun _ => hform.find?_eq, hform⟩
  · rintro ⟨_, ⟨merged, hmerged, rfl⟩, -, hother⟩
    exact ⟨merged, hmerged, (trustForm_acted policy merged.1 merged.2).unique hother⟩

end

end AccessPolicy
