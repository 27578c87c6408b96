import AccessPolicy.Proofs.Compile.Canonical
import AccessPolicy.Proofs.GrantPlan.Matching
import AccessPolicy.Proofs.Statement.Shown

/-!
# Shapes of rendered members

Whatever lists a statement has, and however its principals are put together, each of its members has
one shape (`shaped_of_render`).
-/

namespace AccessPolicy

/-- A member of the strings of a list: none for the empty list, a string for a list of one, and the
list in ascending order otherwise. -/
def Collapsed (texts : List String) (member : Option Json) : Prop :=
  match texts with
  | [] => member = none
  | [text] => member = some (.str text)
  | texts => ∃ sorted, member = some (.strings sorted) ∧ sorted.Perm texts ∧ sorted.Pairwise (· ≤ ·)

/-- A member of the strings of a list that stays a list when it holds one string. -/
def Listed (texts : List String) (member : Option Json) : Prop :=
  match texts with
  | [] => member = none
  | texts => ∃ sorted, member = some (.strings sorted) ∧ sorted.Perm texts ∧ sorted.Pairwise (· ≤ ·)

def Statement.collapsedLists : Statement → Entries (List String)
  | .permission body => body.lists ++ [("GranteePrincipal", []), ("RetireePrincipal", [])]
  | .resourcePolicy policy | .trust policy =>
    policy.body.lists ++ [("GranteePrincipal", []), ("RetireePrincipal", [])]
  | .grant contents =>
    [("Action", []), ("NotAction", []), ("Resource", []), ("NotResource", []),
      ("GranteePrincipal", contents.grantee), ("RetireePrincipal", contents.retiree)]

def Statement.plainLists : Statement → Entries (List String)
  | .grant contents => [("Operations", contents.operations), ("GrantTokens", contents.grantTokens)]
  | .permission _ | .resourcePolicy _ | .trust _ => [("Operations", []), ("GrantTokens", [])]

/-- Members have the shapes of what a statement holds. Where a trust statement acts by default, its
action is the only one that it may be given. -/
structure Statement.ShapedIn (statement : Statement) (members : Entries Json) : Prop where
  ascending : members.Ascending
  collapsed : ∀ list ∈ statement.collapsedLists,
    list.1 = "Action" ∧ statement.ActsByDefault members ∨ Collapsed list.2 (members.find? list.1)
  given : statement.ActsByDefault members →
    ∃ action ∈ trustActions, members.find? "Action" = some (.str action)
  listed : ∀ list ∈ statement.plainLists, Listed list.2 (members.find? list.1)
  principals : ∀ key ∈ Json.principalKeys, ∀ value ∈ members.find? key, CanonicalPrincipal value
  plain : members.find? "Statement" = none

-- ---------------------------------------------------------------------------
-- Lists
-- ---------------------------------------------------------------------------

section
variable {statement : Statement} {members : Entries Json}

theorem collapsed_canonical? (texts : List String) :
    Collapsed texts ((ListShape.canonical? texts).map ListShape.toJson) := by
  match texts with
  | [] => rfl
  | [text] => rfl
  | first :: second :: rest =>
    exact ⟨_, rfl, ascending_perm _, pairwise_ascending _⟩

theorem listed_ascending (texts : List String) :
    Listed texts (if texts.isEmpty then none else some (.strings (ascending texts))) := by
  cases texts with
  | nil => rfl
  | cons text rest => exact ⟨_, rfl, ascending_perm _, pairwise_ascending _⟩

def Grant.slots (contents : Grant) : Slots :=
  let listed (texts : List String) :=
    if texts.isEmpty then none else some (Json.strings (ascending texts))
  [("GranteePrincipal", (ListShape.canonical? contents.grantee).map ListShape.toJson),
    ("RetireePrincipal", (ListShape.canonical? contents.retiree).map ListShape.toJson),
    ("Operations", listed contents.operations), ("Constraints", contents.constraints.map .obj),
    ("GrantTokens", listed contents.grantTokens)]

theorem find?_renderGrant (contents : Grant) :
    contents.render.find? key = (contents.slots.find? key).join := by
  have hascending (name : String) (texts : List String) : ascendingMember name texts =
      optional name (if texts.isEmpty then none else some (.strings (ascending texts))) := by
    cases texts <;> rfl
  have hmembers : contents.render = contents.slots.members.ordered := by
    simp [Grant.render, Grant.slots, Slots.members, listMember, hascending]
  have hdistinct : contents.slots.Distinct := by
    show grantKeys.Nodup
    decide
  rw [hmembers, find?_ordered_members hdistinct]

theorem shaped_grant (contents : Grant) :
    (Statement.grant contents).ShapedIn contents.render := by
  have hnone {key : String} (h : key ∉ grantKeys) : contents.render.find? key = none :=
    Grant.find?_render_eq_none h
  have hfind (key : String) : contents.render.find? key = (contents.slots.find? key).join :=
    find?_renderGrant contents
  refine ⟨contents.render_ascending, ?_, nofun, ?_, ?_, hnone (by decide)⟩
  · simp only [Statement.collapsedLists, List.forall_mem_cons]
    exact ⟨.inr (hnone (by decide)), .inr (hnone (by decide)), .inr (hnone (by decide)),
      .inr (hnone (by decide)), .inr (hfind _ ▸ collapsed_canonical? _),
      .inr (hfind _ ▸ collapsed_canonical? _), List.forall_mem_nil _⟩
  · simp only [Statement.plainLists, List.forall_mem_cons]
    exact ⟨hfind _ ▸ listed_ascending _, hfind _ ▸ listed_ascending _, List.forall_mem_nil _⟩
  · simp only [Json.principalKeys, List.forall_mem_cons]
    rw [hnone (by decide), hnone (by decide)]
    simp

-- ---------------------------------------------------------------------------
-- Policy statements
-- ---------------------------------------------------------------------------

theorem policyKeys_of_render (hbody : statement.body? = some body)
    (hr : statement.render.outcome = .ok members) :
    members.Ascending ∧ ∀ key ∉ policyKeys, members.find? key = none := by
  have hfilled {sid effect : Option Json} {principal notPrincipal : Option PrincipalEntry}
      {body : PolicyBody} (h : (body.slotsFor sid effect principal notPrincipal).Fill members) :
      members.Ascending ∧ ∀ key ∉ policyKeys, members.find? key = none :=
    ⟨h.1, fun key hkey => Entries.find?_eq_none_iff.2 fun _ hmember heq =>
      hkey (heq ▸ h.key_mem hmember)⟩
  cases statement with
  | permission body =>
    obtain rfl := Except.ok.inj hr
    exact hfilled (fill_render body)
  | resourcePolicy policy =>
    obtain ⟨⟨principal, notPrincipal⟩, -, hmembers⟩ := bind_ok.1 hr
    obtain rfl := Except.ok.inj hmembers
    exact hfilled (fill_renderWith policy principal notPrincipal)
  | trust policy =>
    obtain ⟨principal, notPrincipal, -, rfl⟩ := renderTrust_ok.1 hr
    exact hfilled (fill_renderWith _ principal notPrincipal)
  | grant _ => cases hbody

theorem canonicalPrincipal_of_render (hbody : statement.body? = some body)
    (hr : statement.render.outcome = .ok members) :
    ∀ key ∈ Json.principalKeys, ∀ value ∈ members.find? key, CanonicalPrincipal value := by
  cases hpolicy : statement.policy? with
  | none =>
    cases statement with
    | permission body =>
      obtain rfl := Except.ok.inj hr
      have hnone : ∀ key ∈ Json.principalKeys, body.render.find? key = none := by
        simp only [Json.principalKeys, List.forall_mem_cons, (fill_render body).2]
        exact ⟨rfl, rfl, List.forall_mem_nil _⟩
      intro key hkey
      simp [hnone key hkey]
    | resourcePolicy _ | trust _ => cases hpolicy
    | grant _ => cases hbody
  | some policy =>
    have hside (side : PrincipalSide) :
        ∀ value ∈ members.find? side.key.canonical, CanonicalPrincipal value := by
      obtain ⟨merged, hmerge, hfind⟩ := showsSide_render hpolicy hr side
      rw [hfind]
      intro value hvalue
      obtain ⟨entry, rfl, rfl⟩ := Option.map_eq_some_iff.1 hvalue
      exact canonicalPrincipal_of_merged (PrincipalEntry.merged_of_merge hmerge)
    simp only [Json.principalKeys, List.forall_mem_cons]
    exact ⟨hside .principal, hside .notPrincipal, List.forall_mem_nil _⟩

theorem lists_with_action (body : PolicyBody) (action : List String) :
    ∀ list ∈ body.lists,
      list.1 = "Action" ∨ list ∈ PolicyBody.lists { body with action } := by
  simp [PolicyBody.lists]

theorem lists_of_body? (hbody : statement.body? = some body) :
    statement.collapsedLists =
        body.lists ++ [("GranteePrincipal", []), ("RetireePrincipal", [])] ∧
      statement.plainLists = [("Operations", []), ("GrantTokens", [])] := by
  cases statement with
  | permission _ | resourcePolicy _ | trust _ =>
    obtain rfl := Option.some.inj hbody
    exact ⟨rfl, rfl⟩
  | grant _ => cases hbody

theorem shaped_policy (hbody : statement.body? = some body)
    (hr : statement.render.outcome = .ok members) : statement.ShapedIn members := by
  obtain ⟨hascending, habsent⟩ := policyKeys_of_render hbody hr
  obtain ⟨hown, hgiven⟩ := shownIn_of_render hbody hr
  have hcollapsed {shown : PolicyBody} (hshown : shown.ShownIn members) :
      ∀ list ∈ shown.lists, Collapsed list.2 (members.find? list.1) :=
    fun list hlist => find?_list_of_shownIn hshown list hlist ▸ collapsed_canonical? _
  have hlists : ∀ list ∈ body.lists, list.1 = "Action" ∧ statement.ActsByDefault members ∨
      Collapsed list.2 (members.find? list.1) := by
    intro list hlist
    by_cases hdefault : statement.ActsByDefault members
    · obtain ⟨action, -, hshown⟩ := hgiven hdefault
      rcases lists_with_action body [action] list hlist with haction | hother
      · exact .inl ⟨haction, hdefault⟩
      · exact .inr (hcollapsed hshown list hother)
    · exact .inr (hcollapsed (hown hdefault) list hlist)
  have hforeign : ∀ key ∈ ["GranteePrincipal", "RetireePrincipal", "Operations", "GrantTokens",
      "Statement"], members.find? key = none :=
    fun key hkey => habsent key (by revert key; decide)
  obtain ⟨hcollapsedLists, hplainLists⟩ := lists_of_body? hbody
  simp only [List.forall_mem_cons] at hforeign
  obtain ⟨hgrantee, hretiree, hoperations, htokens, hstatement, -⟩ := hforeign
  refine ⟨hascending, ?_, fun hdefault => ?_, ?_, canonicalPrincipal_of_render hbody hr, hstatement⟩
  · rw [hcollapsedLists, List.forall_mem_append]
    simp only [List.forall_mem_cons]
    exact ⟨hlists, .inr hgrantee, .inr hretiree, List.forall_mem_nil _⟩
  · obtain ⟨action, haction, hshown⟩ := hgiven hdefault
    exact ⟨action, haction, find?_list_of_shownIn hshown ("Action", [action]) (.head _)⟩
  · rw [hplainLists]
    simp only [List.forall_mem_cons]
    exact ⟨hoperations, htokens, List.forall_mem_nil _⟩

theorem shaped_of_render (hr : statement.render.outcome = .ok members) :
    statement.ShapedIn members := by
  cases statement with
  | permission _ | resourcePolicy _ | trust _ => exact shaped_policy rfl hr
  | grant contents =>
    obtain rfl := Except.ok.inj hr
    exact shaped_grant contents

end

end AccessPolicy
