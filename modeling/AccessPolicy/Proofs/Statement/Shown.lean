import AccessPolicy.Compile.Trust
import AccessPolicy.Proofs.Statement.Trust

/-!
# What a canonical form shows of a statement

The lists, conditions and principals of a statement are seen in what it renders to. Only a trust
statement may show an action that is none of its own, and it shows one wherever it shows principals
(`acts_of_shows`).
-/

namespace AccessPolicy

def PolicyStatement.named (policy : PolicyStatement) : PrincipalSide → List PrincipalEntry
  | .principal => policy.principal
  | .notPrincipal => policy.notPrincipal

def Statement.policy? : Statement → Option PolicyStatement
  | .resourcePolicy policy | .trust policy => some policy
  | .permission _ | .grant _ => none

def contentKeys : List String :=
  ["Action", "NotAction", "Resource", "NotResource", "Condition", "NotCondition"]

/-- Members have the lists and conditions of the shared part. -/
def PolicyBody.ShownIn (body : PolicyBody) (members : Entries Json) : Prop :=
  ∀ key ∈ contentKeys, members.find? key = (body.rendered.find? key).join

-- ---------------------------------------------------------------------------
-- Principals
-- ---------------------------------------------------------------------------

section
variable {policy : PolicyStatement} {statement : Statement} {members : Entries Json}
  {principal notPrincipal : Option PrincipalEntry}

theorem describes_policy {fields : FieldSet} (h : fields.Describes statement)
    (hpolicy : statement.policy? = some policy) : fields.DescribesPolicy policy := by
  cases statement with
  | resourcePolicy _ | trust _ =>
    obtain rfl := Option.some.inj hpolicy
    exact h
  | permission _ | grant _ => cases hpolicy

theorem get?_named {fields : FieldSet} (h : fields.DescribesPolicy policy) (side : PrincipalSide) :
    fields.get? side.key.shorthand = FieldValue.ofPrincipals? (policy.named side) := by
  cases side with
  | principal => exact h.principal
  | notPrincipal => exact h.notPrincipal

theorem merged_of_named {merged : PrincipalSide → Option PrincipalEntry}
    (h : ∀ side, PrincipalEntry.merge (policy.named side) = .ok (merged side)) :
    policy.merged = .ok (merged .principal, merged .notPrincipal) :=
  merged_ok.2 ⟨h .principal, h .notPrincipal⟩

/-- Members show the principals of a side as the one value that those merge to. -/
def PolicyStatement.ShowsSide (policy : PolicyStatement) (members : Entries Json)
    (side : PrincipalSide) : Prop :=
  ∃ merged, PrincipalEntry.merge (policy.named side) = .ok merged ∧
    members.find? side.key.canonical = merged.map PrincipalEntry.toJson

theorem showsSide_renderWith (shown : PolicyStatement)
    (hmerged : policy.merged = .ok (principal, notPrincipal)) (side : PrincipalSide) :
    policy.ShowsSide (shown.renderWith principal notPrincipal) side := by
  obtain ⟨hprincipal, hnotPrincipal⟩ := merged_ok.1 hmerged
  cases side with
  | principal => exact ⟨principal, hprincipal, find?_renderWith shown principal notPrincipal⟩
  | notPrincipal =>
    exact ⟨notPrincipal, hnotPrincipal, find?_renderWith shown principal notPrincipal⟩

theorem showsSide_render (hpolicy : statement.policy? = some policy)
    (hr : statement.render.outcome = .ok members) (side : PrincipalSide) :
    policy.ShowsSide members side := by
  cases statement with
  | resourcePolicy _ =>
    obtain rfl := Option.some.inj hpolicy
    obtain ⟨⟨principal, notPrincipal⟩, hmerged, hmembers⟩ := bind_ok.1 hr
    obtain rfl := Except.ok.inj hmembers
    exact showsSide_renderWith _ hmerged side
  | trust _ =>
    obtain rfl := Option.some.inj hpolicy
    obtain ⟨principal, notPrincipal, hmerged, rfl⟩ := renderTrust_ok.1 hr
    exact showsSide_renderWith _ hmerged side
  | permission _ | grant _ => cases hpolicy

theorem has_of_showsSide {side : PrincipalSide} (h : policy.ShowsSide members side)
    (hmerge : PrincipalEntry.merge (policy.named side) = .ok merged) :
    members.has side.key.canonical = merged.isSome := by
  obtain ⟨_, hsame, hfind⟩ := h
  obtain rfl := Except.ok.inj (hsame.symm.trans hmerge)
  simp [Entries.has, hfind]

theorem has_eq_false_of_showsSide {side : PrincipalSide} (h : policy.ShowsSide members side)
    (hnil : policy.named side = []) : members.has side.key.canonical = false := by
  have hmerge : PrincipalEntry.merge (policy.named side) = .ok none := by rw [hnil]; rfl
  exact has_of_showsSide h hmerge

-- ---------------------------------------------------------------------------
-- Lists and conditions
-- ---------------------------------------------------------------------------

theorem shownIn_render (body : PolicyBody) : body.ShownIn body.render :=
  fun _ _ => find?_render body

theorem shownIn_renderWith (policy : PolicyStatement)
    (principal notPrincipal : Option PrincipalEntry) :
    policy.body.ShownIn (policy.renderWith principal notPrincipal) := by
  simp only [PolicyBody.ShownIn, contentKeys, List.forall_mem_cons]
  have hfind (key : String) : (policy.renderWith principal notPrincipal).find? key =
      ((policy.slots principal notPrincipal).find? key).join :=
    find?_renderWith policy principal notPrincipal
  exact ⟨hfind _, hfind _, hfind _, hfind _, hfind _, hfind _, List.forall_mem_nil _⟩

def PolicyBody.lists (body : PolicyBody) : Entries (List String) :=
  [("Action", body.action), ("NotAction", body.notAction), ("Resource", body.resource),
    ("NotResource", body.notResource)]

theorem find?_list_of_shownIn {body : PolicyBody} (h : body.ShownIn members) :
    ∀ list ∈ body.lists,
      members.find? list.1 = (ListShape.canonical? list.2).map ListShape.toJson := by
  simp only [PolicyBody.lists, List.forall_mem_cons]
  exact ⟨h _ (by decide), h _ (by decide), h _ (by decide), h _ (by decide), List.forall_mem_nil _⟩

theorem has_list_of_shownIn {body : PolicyBody} (h : body.ShownIn members) :
    ∀ list ∈ body.lists, members.has list.1 = !list.2.isEmpty := by
  intro list hlist
  rw [Entries.has, find?_list_of_shownIn h list hlist, ListShape.isSome_canonical?]

-- ---------------------------------------------------------------------------
-- Actions of trust statements
-- ---------------------------------------------------------------------------

/-- A trust statement without an action of its own shows principals. -/
def Statement.ActsByDefault (statement : Statement) (members : Entries Json) : Prop :=
  ∃ policy, statement = .trust policy ∧ policy.body.hasAction = false ∧
    (members.has "Principal" = true ∨ members.has "NotPrincipal" = true)

def trustActions : List String := ["sts:AssumeRole", "sts:AssumeRoleWithSAML"]

theorem trustAction?_cases (principals : List PrincipalEntry) :
    principals = [] ∧ PolicyStatement.trustAction? principals = none ∨
      principals ≠ [] ∧ ∃ action ∈ trustActions,
        PolicyStatement.trustAction? principals = some action := by
  rw [PolicyStatement.trustAction?]
  cases principals with
  | nil => exact .inl ⟨rfl, rfl⟩
  | cons entry rest =>
    refine .inr ⟨List.cons_ne_nil _ _, ?_⟩
    rw [if_neg (by simp)]
    split
    · exact ⟨_, .tail _ (.head _), rfl⟩
    · exact ⟨_, .head _, rfl⟩

theorem acted_cases (policy : PolicyStatement) (principal notPrincipal : Option PrincipalEntry) :
    (policy.body.hasAction = true ∨ principal.toList ++ notPrincipal.toList = []) ∧
        policy.acted principal notPrincipal = policy ∨
      (policy.body.hasAction = false ∧ principal.toList ++ notPrincipal.toList ≠ []) ∧
        ∃ action ∈ trustActions, policy.acted principal notPrincipal =
          { policy with body := { policy.body with action := [action] } } := by
  rw [PolicyStatement.acted, PolicyStatement.defaultAction?]
  cases hacts : policy.body.hasAction with
  | true => exact .inl ⟨.inl rfl, rfl⟩
  | false =>
    rcases trustAction?_cases (principal.toList ++ notPrincipal.toList) with
      ⟨hnone, hdefault⟩ | ⟨hsome, action, haction, hdefault⟩
    · exact .inl ⟨.inr hnone, by rw [if_neg Bool.false_ne_true, hdefault]⟩
    · exact .inr ⟨⟨rfl, hsome⟩, action, haction, by rw [if_neg Bool.false_ne_true, hdefault]⟩

theorem shows_renderWith_iff (policy : PolicyStatement)
    (principal notPrincipal : Option PrincipalEntry) :
    ((policy.renderWith principal notPrincipal).has "Principal" = true ∨
      (policy.renderWith principal notPrincipal).has "NotPrincipal" = true) ↔
    principal.toList ++ notPrincipal.toList ≠ [] := by
  have hprincipal : (policy.renderWith principal notPrincipal).has "Principal" =
      (principal.map PrincipalEntry.toJson).isSome :=
    congrArg Option.isSome (find?_renderWith policy principal notPrincipal)
  have hnotPrincipal : (policy.renderWith principal notPrincipal).has "NotPrincipal" =
      (notPrincipal.map PrincipalEntry.toJson).isSome :=
    congrArg Option.isSome (find?_renderWith policy principal notPrincipal)
  rw [hprincipal, hnotPrincipal]
  cases principal <;> cases notPrincipal <;> simp

/-- The lists and conditions that a policy statement shows are its own, save for the action that it
may be given. -/
theorem shownIn_of_render (hbody : statement.body? = some body)
    (hr : statement.render.outcome = .ok members) :
    (¬statement.ActsByDefault members → body.ShownIn members) ∧
      (statement.ActsByDefault members → ∃ action ∈ trustActions,
        PolicyBody.ShownIn { body with action := [action] } members) := by
  cases statement with
  | permission _ =>
    obtain rfl := Option.some.inj hbody
    obtain rfl := Except.ok.inj hr
    exact ⟨fun _ => shownIn_render _, nofun⟩
  | resourcePolicy policy =>
    obtain rfl := Option.some.inj hbody
    obtain ⟨⟨principal, notPrincipal⟩, -, hmembers⟩ := bind_ok.1 hr
    obtain rfl := Except.ok.inj hmembers
    exact ⟨fun _ => shownIn_renderWith _ _ _, nofun⟩
  | trust policy =>
    obtain rfl := Option.some.inj hbody
    obtain ⟨principal, notPrincipal, -, rfl⟩ := renderTrust_ok.1 hr
    have hshown := shownIn_renderWith (policy.acted principal notPrincipal) principal notPrincipal
    have hshows := shows_renderWith_iff (policy.acted principal notPrincipal) principal notPrincipal
    rcases acted_cases policy principal notPrincipal with
      ⟨hown, hacted⟩ | ⟨⟨hplain, hsome⟩, action, haction, hacted⟩
    · rw [hacted] at hshown hshows ⊢
      refine ⟨fun _ => hshown, ?_⟩
      rintro ⟨_, heq, hplain, hside⟩
      obtain rfl := Statement.trust.inj heq
      rcases hown with hacts | hnone
      · cases hacts.symm.trans hplain
      · exact absurd hnone (hshows.1 hside)
    · refine ⟨fun hnot => absurd ⟨policy, rfl, hplain, hshows.2 hsome⟩ hnot, fun _ => ?_⟩
      rw [hacted] at hshown
      exact ⟨action, haction, hacted ▸ hshown⟩
  | grant _ => cases hbody

theorem hasAction_iff {body : PolicyBody} (h : body.ShownIn members) :
    body.hasAction = true ↔ members.has "Action" = true ∨ members.has "NotAction" = true := by
  rw [has_list_of_shownIn h ("Action", _) (.head _),
    has_list_of_shownIn h ("NotAction", _) (.tail _ (.head _)), ← Bool.or_eq_true]
  rfl

theorem actsByDefault_iff (hbody : statement.body? = some body) :
    statement.ActsByDefault members ↔ statement.kind = .trust ∧ body.hasAction = false ∧
      (members.has "Principal" = true ∨ members.has "NotPrincipal" = true) := by
  constructor
  · rintro ⟨policy, rfl, h⟩
    obtain rfl := Option.some.inj hbody
    exact ⟨rfl, h⟩
  · rintro ⟨hkind, h⟩
    cases statement with
    | trust policy =>
      obtain rfl := Option.some.inj hbody
      exact ⟨policy, rfl, h⟩
    | permission _ | resourcePolicy _ | grant _ => cases hkind

theorem acts_of_shows (hkind : statement.kind = .trust)
    (hr : statement.render.outcome = .ok members)
    (hshows : members.has "Principal" = true ∨ members.has "NotPrincipal" = true) :
    members.has "Action" = true ∨ members.has "NotAction" = true := by
  obtain ⟨body, hbody⟩ : ∃ body, statement.body? = some body := by
    cases statement with
    | permission _ | resourcePolicy _ | trust _ => exact ⟨_, rfl⟩
    | grant _ => cases hkind
  obtain ⟨hown, hgiven⟩ := shownIn_of_render hbody hr
  rw [actsByDefault_iff hbody] at hown hgiven
  cases hacts : body.hasAction with
  | true => exact (hasAction_iff (hown fun h => by simp [hacts] at h)).1 hacts
  | false =>
    obtain ⟨action, -, hshown⟩ := hgiven ⟨hkind, hacts, hshows⟩
    exact (hasAction_iff hshown).1 rfl

end

end AccessPolicy
