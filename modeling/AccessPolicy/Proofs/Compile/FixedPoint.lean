import AccessPolicy.Proofs.Compile.Reread
import AccessPolicy.Proofs.Environment
import AccessPolicy.Proofs.Statement.Rendered
import AccessPolicy.Proofs.Statement.Trust

/-!
# Rendered documents compile to themselves

A statement has a settled form: lists ascend, defaults are spelled out and principals are merged. It
renders like the statement, and what is rendered compiles to the settled form in every context.
-/

namespace AccessPolicy

-- ---------------------------------------------------------------------------
-- Settled statements
-- ---------------------------------------------------------------------------

def PolicyBody.settled (body : PolicyBody) : PolicyBody :=
  { body with
    action := ascending body.action
    notAction := ascending body.notAction
    resource := ascending body.resource
    notResource := ascending body.notResource }

/-- The statement with spelled out defaults and given principals. -/
def PolicyStatement.settled (policy : PolicyStatement)
    (principal notPrincipal : Option PrincipalEntry) : PolicyStatement :=
  ⟨{ policy.body.settled with
      sid := some (policy.body.sid.getD "")
      effect := some (policy.body.effect.getD .allow) },
    principal.toList, notPrincipal.toList⟩

theorem membersWith_settled (body : PolicyBody) (sid effect : Option Json) :
    body.settled.membersWith sid effect = body.membersWith sid effect := by
  simp [PolicyBody.membersWith, PolicyBody.settled, listMember]

theorem render_settled (body : PolicyBody) : body.settled.render = body.render := by
  rw [PolicyBody.render, membersWith_settled]
  rfl

theorem PolicyBody.Unambiguous.settled {body : PolicyBody} (h : body.Unambiguous) :
    body.settled.Unambiguous := by
  simpa [PolicyBody.Unambiguous, PolicyBody.settled] using h

section
variable {policy : PolicyStatement} {principal notPrincipal : Option PrincipalEntry}

theorem renderWith_settled (policy : PolicyStatement)
    (principal notPrincipal : Option PrincipalEntry) :
    (policy.settled principal notPrincipal).renderWith principal notPrincipal =
      policy.renderWith principal notPrincipal := by
  have hmembers := membersWith_settled policy.body (some (.str (policy.body.sid.getD "")))
    (some (.str (policy.body.effect.getD .allow).tag))
  simp only [PolicyStatement.renderWith, ← hmembers]
  rfl

theorem merged_settled (h : policy.merged = .ok (principal, notPrincipal)) :
    (policy.settled principal notPrincipal).merged = .ok (principal, notPrincipal) := by
  obtain ⟨hprincipal, hnotPrincipal⟩ := merged_ok.1 h
  exact merged_ok.2
    ⟨PrincipalEntry.merge_merged hprincipal, PrincipalEntry.merge_merged hnotPrincipal⟩

theorem acted_settled (policy : PolicyStatement) (principal notPrincipal : Option PrincipalEntry) :
    let settled := (policy.acted principal notPrincipal).settled principal notPrincipal
    settled.acted principal notPrincipal = settled := by
  intro settled
  have hdefault : settled.defaultAction? principal notPrincipal =
      (policy.acted principal notPrincipal).defaultAction? principal notPrincipal := by
    simp [settled, PolicyStatement.settled, PolicyStatement.defaultAction?, PolicyBody.hasAction,
      PolicyBody.settled]
  rw [PolicyStatement.acted, hdefault, defaultAction?_acted]

theorem settled_admissible (hmerged : policy.merged = .ok (principal, notPrincipal))
    (h : policy.body.Unambiguous ∧ (policy.principal = [] ∨ policy.notPrincipal = [])) :
    let settled := policy.settled principal notPrincipal
    settled.body.Unambiguous ∧ (settled.principal = [] ∨ settled.notPrincipal = []) := by
  exact ⟨h.1.settled, (merged_none hmerged h.2).imp (congrArg Option.toList)
    (congrArg Option.toList)⟩

end

-- ---------------------------------------------------------------------------
-- Rendered statements carry their settled form
-- ---------------------------------------------------------------------------

section
variable {raw : Entries Json}

theorem carries {spec : FieldSpec} (hshort : raw.find? spec.key.shorthand = none)
    (hlong : raw.find? spec.key.canonical = member)
    (h : Encodes spec.key.canonical spec.kind member value) : Carries raw spec value :=
  ⟨hshort, hlong ▸ h⟩

theorem carries_body {body : PolicyBody} (h : ∀ key ∈ bodyFields ++ bodyKeys,
      raw.find? key = (body.rendered.find? key).join) :
    ∀ entry ∈ body.settled.fieldValues, Carries raw entry.1 entry.2 := by
  simp only [bodyFields, bodyKeys, List.cons_append, List.nil_append, List.forall_mem_cons] at h
  obtain ⟨hsid, heffect, haction, hnotAction, hresource, hnotResource, hcondition, hnotCondition,
    hSid, hEffect, hAction, hNotAction, hResource, hNotResource, hCondition, hNotCondition, -⟩ := h
  simp only [PolicyBody.fieldValues, List.forall_mem_cons]
  exact ⟨carries hsid hSid (encodes_text body.sid), carries heffect hEffect (encodes_effect _),
    carries haction hAction (encodes_list _ fun _ => rfl),
    carries hnotAction hNotAction (encodes_list _ fun _ => rfl),
    carries hresource hResource (encodes_list _ fun _ => rfl),
    carries hnotResource hNotResource (encodes_list _ fun _ => rfl),
    carries hcondition hCondition (encodes_mapping _),
    carries hnotCondition hNotCondition (encodes_mapping _), List.forall_mem_nil _⟩

theorem carries_render (body : PolicyBody) :
    ∀ entry ∈ body.settled.fieldValues, Carries body.render entry.1 entry.2 :=
  carries_body fun _ _ => find?_render body

theorem carries_renderWith {policy : PolicyStatement}
    (hmerged : policy.merged = .ok (principal, notPrincipal)) :
    ∀ entry ∈ (policy.settled principal notPrincipal).fieldValues,
      Carries (policy.renderWith principal notPrincipal) entry.1 entry.2 := by
  obtain ⟨hprincipal, hnotPrincipal⟩ := merged_ok.1 hmerged
  have hfind (key : String) : (policy.renderWith principal notPrincipal).find? key =
      ((policy.slots principal notPrincipal).find? key).join :=
    find?_renderWith policy principal notPrincipal
  rw [PolicyStatement.fieldValues, List.forall_mem_append]
  refine ⟨?_, ?_⟩
  · -- under the keys of the shared part, the members are those of a permission with the defaults
    let body : PolicyBody := { policy.body with
      sid := some (policy.body.sid.getD "")
      effect := some (policy.body.effect.getD .allow) }
    have hbody : ∀ key ∈ bodyFields ++ bodyKeys,
        (policy.renderWith principal notPrincipal).find? key =
          (body.rendered.find? key).join := by
      intro key hkey
      have hne : ∀ key ∈ bodyFields ++ bodyKeys, "Principal" ≠ key ∧ "NotPrincipal" ≠ key := by
        decide
      have hslots : policy.slots principal notPrincipal = body.rendered ++
          [("Principal", principal.map PrincipalEntry.toJson),
            ("NotPrincipal", notPrincipal.map PrincipalEntry.toJson)] := rfl
      rw [hfind, hslots, Entries.find?_append, Entries.find?_cons, Entries.find?_cons,
        if_neg (hne key hkey).1, if_neg (hne key hkey).2, Entries.find?_nil, Option.or_none]
    exact carries_body hbody
  · simp only [List.forall_mem_cons]
    refine ⟨carries (hfind "principal") (hfind "Principal") (encodes_principals ?_),
      carries (hfind "notprincipal") (hfind "NotPrincipal") (encodes_principals ?_),
      List.forall_mem_nil _⟩
    · rintro entry rfl
      exact PrincipalEntry.merged_of_merge hprincipal
    · rintro entry rfl
      exact PrincipalEntry.merged_of_merge hnotPrincipal

end

-- ---------------------------------------------------------------------------
-- Compiling again
-- ---------------------------------------------------------------------------

theorem permission_not_forbidden (body : PolicyBody) :
    ∀ key ∈ Schema.permission.forbidden, ∀ name ∈ key.spellings,
      Entries.has name body.render = false := by
  have hspellings : ∀ key ∈ Schema.permission.forbidden, ∀ name ∈ key.spellings,
      name ∉ bodyKeys := by decide
  intro key hkey name hname
  have hnone : Entries.find? name body.rendered = none := by
    rw [Entries.find?_eq_none_iff]
    intro slot hslot heq
    have hmem : slot.1 ∈ bodyKeys := List.mem_map_of_mem hslot
    exact hspellings key hkey name hname (heq ▸ hmem)
  rw [Entries.has_eq_false_iff, find?_render, hnone]
  rfl

theorem compile_render (hkind : kind ≠ .grant)
    (h : (compile kind context raw).outcome = .ok statement)
    (hr : statement.render.outcome = .ok members) (other : Context) :
    ∃ again, (compile kind other (.obj members)).outcome = .ok again ∧
      again.render.outcome = .ok members := by
  obtain ⟨rfl, ha⟩ := compile_admissible h
  cases statement with
  | permission body =>
    obtain rfl := Except.ok.inj hr
    have hsettled : (Statement.permission body.settled).Admissible := by
      simpa [Statement.Admissible, PolicyBody.Unambiguous, PolicyBody.settled] using ha
    exact ⟨.permission body.settled,
      compile_permission_of_carries other hsettled (permission_not_forbidden body)
        (carries_render body),
      congrArg Except.ok (render_settled body)⟩
  | resourcePolicy policy =>
    obtain ⟨⟨principal, notPrincipal⟩, hmerged, hmembers⟩ := bind_ok.1 hr
    obtain rfl := Except.ok.inj hmembers
    let again : Statement := .resourcePolicy (policy.settled principal notPrincipal)
    have hagain : again.Admissible := settled_admissible hmerged ha
    refine ⟨again, compile_policy_of_carries other rfl (fun _ => id) hagain
      (carries_renderWith hmerged), ?_⟩
    exact bind_ok.2 ⟨(principal, notPrincipal), merged_settled hmerged,
      congrArg Except.ok (renderWith_settled policy principal notPrincipal)⟩
  | trust policy =>
    obtain ⟨principal, notPrincipal, hmerged, rfl⟩ := renderTrust_ok.1 hr
    have hacted := merged_acted hmerged
    let again : Statement :=
      .trust ((policy.acted principal notPrincipal).settled principal notPrincipal)
    have hagain : again.Admissible := settled_admissible hacted (acted_admissible ha)
    refine ⟨again, compile_policy_of_carries other rfl (fun _ => id) hagain
      (carries_renderWith hacted), ?_⟩
    -- the action is spelled out by now, so rendering gives the statement no other
    refine renderTrust_ok.2 ⟨principal, notPrincipal, merged_settled hacted, ?_⟩
    rw [acted_settled, renderWith_settled]
  | grant contents => exact absurd rfl hkind

-- ---------------------------------------------------------------------------
-- Documents
-- ---------------------------------------------------------------------------

theorem compile_renders (hkind : kind ≠ .grant)
    (h : List.Forall₂ (fun raw statement => (compile kind context raw).outcome = .ok statement)
      raws statements)
    (hr : Document.Renders statements rendered) (other : Context) :
    ∃ again, List.Forall₂
        (fun raw statement => (compile kind other raw).outcome = .ok statement)
        (rendered.map .obj) again ∧
      Document.Renders again rendered := by
  induction h generalizing rendered with
  | nil =>
    cases hr
    exact ⟨[], .nil, .nil⟩
  | cons hcompile _ ih =>
    cases hr with
    | cons hrender hrest =>
      obtain ⟨statement, hstatement, hsame⟩ := compile_render hkind hcompile hrender other
      obtain ⟨again, hagain, hsames⟩ := ih hrest
      exact ⟨statement :: again, .cons hstatement hagain, .cons hsame hsames⟩

/-- The statements of a document's value compile, in any context, to a document of that value. -/
theorem compileDocument_toJson (hkind : kind ≠ .grant)
    (h : (compileDocument kind context raws).outcome = .ok document)
    (hv : document.toJson.outcome = .ok (some value)) (other : Context) :
    ∃ members statements, value = .obj members ∧
      Entries.find? "Statement" members = some (.arr statements) ∧
      ∃ again, (compileDocument kind other statements).outcome = .ok again ∧
        again.toJson.outcome = .ok (some value) := by
  obtain ⟨hnonempty, rendered, hrendered, rfl⟩ := Document.toJson_ok.1 hv
  obtain ⟨again, hagain, hsame⟩ :=
    compile_renders hkind (compileDocument_ok.1 h) hrendered other
  refine ⟨_, rendered.map .obj, congrArg Json.obj (Document.envelope_ordered _), rfl, ⟨again⟩,
    compileDocument_ok.2 hagain, Document.toJson_ok.2 ⟨?_, rendered, hsame, rfl⟩⟩
  intro hnil
  have hlengths := hrendered.length_eq.trans hsame.length_eq.symm
  rw [show again = [] from hnil, List.length_nil, List.length_eq_zero_iff] at hlengths
  exact hnonempty hlengths

theorem compileDocument_toJson_roles :
    let elsewhere : Environment := ⟨"other", "us-east-1", .empty⟩
    let raw : Json := .obj [("principal", .obj [("iam", .strings ["role/web", "role/app"])])]
    let statement : Json := .obj [("Action", .str "sts:AssumeRole"), ("Effect", .str "Allow"),
      ("Principal", .obj [("AWS", .strings ["arn:aws:iam::123456789012:role/app",
        "arn:aws:iam::123456789012:role/web"])]),
      ("Sid", .str "")]
    let value : Json := .obj [("Statement", .arr [statement]), ("Version", .str policyVersion)]
    ∃ document,
      (compileDocument .trust .app [raw]).outcome = .ok document ∧
      document.toJson.outcome = .ok (some value) ∧
      ∃ again, (compileDocument .trust ⟨elsewhere, ⟨.key, "backup"⟩⟩ [statement]).outcome =
        .ok again ∧ again.toJson.outcome = .ok (some value) := by
  intro elsewhere raw statement value
  let app := "arn:aws:iam::123456789012:role/app"
  let web := "arn:aws:iam::123456789012:role/web"
  have hroles : [app, web] = ascending [web, app] := eq_ascending_iff.2 ⟨.swap .., by decide⟩
  have hsorted : [app, web] = ascending [app, web] := eq_ascending_iff.2 ⟨.refl _, by decide⟩
  let document (roles : List String) : Document :=
    ⟨[.trust ⟨⟨none, none, [], [], [], [], none, none⟩,
      [.mapping ⟨some (.many roles), none, none⟩], []⟩]⟩
  let rendered (roles : List String) : Json :=
    .obj [("Statement", .arr [.obj [("Action", .str "sts:AssumeRole"), ("Effect", .str "Allow"),
      ("Principal", .obj [("AWS", .strings roles)]), ("Sid", .str "")]]),
      ("Version", .str policyVersion)]
  have hdocument : (compileDocument .trust .app [raw]).outcome =
      .ok (document (ascending [web, app])) := rfl
  have htoJson : (document [app, web]).toJson.outcome =
      .ok (some (rendered (ascending [app, web]))) := rfl
  rw [← hroles] at hdocument
  rw [← hsorted] at htoJson
  obtain ⟨members, statements, hvalue, hstatements, hagain⟩ :=
    compileDocument_toJson (by decide) hdocument htoJson ⟨elsewhere, ⟨.key, "backup"⟩⟩
  obtain rfl := Json.obj.inj hvalue
  obtain rfl := Json.arr.inj (Option.some.inj hstatements)
  exact ⟨_, hdocument, htoJson, hagain⟩

end AccessPolicy
