import AccessPolicy.Proofs.Compile.Admissible
import AccessPolicy.Proofs.Principal.Alike
import AccessPolicy.Proofs.Schema.Related
import AccessPolicy.Proofs.Statement.Taken
import AccessPolicy.Statement

/-!
# Statements in another order

Fields that differ in the order of lists describe statements that do (`alike_of_describes`), and
those render to the same members (`follows_render`). So if the fields of one raw statement are read
of another up to the order of lists, the other compiles as well and renders to the same members.
-/

namespace AccessPolicy

inductive FieldValue.Alike : FieldValue → FieldValue → Prop
  | text (content : String) : FieldValue.Alike (.text content) (.text content)
  | list (h : List.Perm contents others) : FieldValue.Alike (.list contents) (.list others)
  | mapping (members : Entries Json) : FieldValue.Alike (.mapping members) (.mapping members)
  | principals (h : List.Perm entries others) :
    FieldValue.Alike (.principals entries) (.principals others)

theorem FieldValue.Alike.refl (value : FieldValue) : FieldValue.Alike value value := by
  cases value with
  | text content => exact .text content
  | list contents => exact .list (.refl contents)
  | mapping members => exact .mapping members
  | principals entries => exact .principals (.refl entries)

theorem FieldValue.Alike.isEmpty_eq (a b : FieldValue) (h : FieldValue.Alike a b) :
    a.isEmpty = b.isEmpty := by
  cases h with
  | text | mapping => rfl
  | list h | principals h => exact h.isEmpty_eq

structure PolicyBody.Alike (a b : PolicyBody) : Prop where
  sid : a.sid = b.sid
  effect : a.effect = b.effect
  action : a.action.Perm b.action
  notAction : a.notAction.Perm b.notAction
  resource : a.resource.Perm b.resource
  notResource : a.notResource.Perm b.notResource
  condition : a.condition = b.condition
  notCondition : a.notCondition = b.notCondition

structure PolicyStatement.Alike (a b : PolicyStatement) : Prop where
  body : a.body.Alike b.body
  principal : a.principal.Perm b.principal
  notPrincipal : a.notPrincipal.Perm b.notPrincipal

inductive Statement.Alike : Statement → Statement → Prop
  | permission (h : PolicyBody.Alike a b) : Statement.Alike (.permission a) (.permission b)
  | resourcePolicy (h : PolicyStatement.Alike a b) :
    Statement.Alike (.resourcePolicy a) (.resourcePolicy b)
  | trust (h : PolicyStatement.Alike a b) : Statement.Alike (.trust a) (.trust b)

theorem PolicyBody.Alike.symm {a b : PolicyBody} (h : a.Alike b) : b.Alike a where
  sid := h.sid.symm
  effect := h.effect.symm
  action := h.action.symm
  notAction := h.notAction.symm
  resource := h.resource.symm
  notResource := h.notResource.symm
  condition := h.condition.symm
  notCondition := h.notCondition.symm

theorem PolicyStatement.Alike.symm {a b : PolicyStatement} (h : a.Alike b) : b.Alike a where
  body := h.body.symm
  principal := h.principal.symm
  notPrincipal := h.notPrincipal.symm

theorem Statement.Alike.symm {statement other : Statement} (h : statement.Alike other) :
    other.Alike statement := by
  cases h with
  | permission h => exact .permission h.symm
  | resourcePolicy h => exact .resourcePolicy h.symm
  | trust h => exact .trust h.symm

-- ---------------------------------------------------------------------------
-- Statements that fields describe
-- ---------------------------------------------------------------------------

section
variable {fields others : FieldSet} {field : String}

theorem content_eq {wrap : α → FieldValue} {a b : Option α}
    (hwrap : ∀ a b, FieldValue.Alike (wrap a) (wrap b) → a = b)
    (h : fields.Related FieldValue.Alike others) (ha : fields.get? field = a.map wrap)
    (hb : others.get? field = b.map wrap) : a = b := by
  have hfield := h field
  rw [ha, hb] at hfield
  cases a <;> cases b <;> cases hfield
  · rfl
  · next hcontent => exact congrArg some (hwrap _ _ hcontent)

theorem contents_perm {wrap : List α → FieldValue} {a b : List α}
    (hwrap : ∀ a b, FieldValue.Alike (wrap a) (wrap b) → a.Perm b)
    (h : fields.Related FieldValue.Alike others)
    (ha : fields.get? field = if a = [] then none else some (wrap a))
    (hb : others.get? field = if b = [] then none else some (wrap b)) : a.Perm b := by
  have hfield := h field
  rw [ha, hb] at hfield
  split at hfield <;> split at hfield <;> cases hfield
  · next hnil hnone => rw [hnil, hnone]
  · next hcontents => exact hwrap _ _ hcontents

theorem text_inj (a b : String) (h : FieldValue.Alike (.text a) (.text b)) : a = b := by
  cases h
  rfl

theorem mapping_inj (a b : Entries Json) (h : FieldValue.Alike (.mapping a) (.mapping b)) :
    a = b := by
  cases h
  rfl

theorem effect_inj (a b : Effect) (h : FieldValue.Alike (.text a.tag) (.text b.tag)) : a = b :=
  Effect.eq_of_tag_eq a b (text_inj _ _ h)

theorem list_perm (a b : List String) (h : FieldValue.Alike (.list a) (.list b)) : a.Perm b := by
  cases h
  assumption

theorem principals_perm (a b : List PrincipalEntry)
    (h : FieldValue.Alike (.principals a) (.principals b)) : a.Perm b := by
  cases h
  assumption

theorem alike_of_describesBody (h : fields.Related FieldValue.Alike others)
    (ha : fields.DescribesBody a) (hb : others.DescribesBody b) : a.Alike b where
  sid := content_eq text_inj h ha.sid hb.sid
  effect := content_eq effect_inj h ha.effect hb.effect
  action := contents_perm list_perm h ha.action hb.action
  notAction := contents_perm list_perm h ha.notAction hb.notAction
  resource := contents_perm list_perm h ha.resource hb.resource
  notResource := contents_perm list_perm h ha.notResource hb.notResource
  condition := content_eq mapping_inj h ha.condition hb.condition
  notCondition := content_eq mapping_inj h ha.notCondition hb.notCondition

theorem alike_of_describesPolicy (h : fields.Related FieldValue.Alike others)
    (ha : fields.DescribesPolicy a) (hb : others.DescribesPolicy b) : a.Alike b where
  body := alike_of_describesBody h ha.body hb.body
  principal := contents_perm principals_perm h ha.principal hb.principal
  notPrincipal := contents_perm principals_perm h ha.notPrincipal hb.notPrincipal

theorem alike_of_describes {statement other : Statement}
    (h : fields.Related FieldValue.Alike others) (hkind : statement.kind ≠ .grant)
    (hsame : other.kind = statement.kind) (hs : fields.Describes statement)
    (ho : others.Describes other) : statement.Alike other := by
  cases statement <;> cases other <;> cases hsame
  · exact .permission (alike_of_describesBody h hs ho)
  · exact .resourcePolicy (alike_of_describesPolicy h hs ho)
  · exact .trust (alike_of_describesPolicy h hs ho)
  · exact absurd rfl hkind

end

-- ---------------------------------------------------------------------------
-- Rendering
-- ---------------------------------------------------------------------------

theorem listMember_eq_of_perm (key : String) (h : List.Perm texts others) :
    listMember key texts = listMember key others := by
  rw [listMember, listMember, ListShape.canonical?_eq_iff.2 h]

theorem ascendingMember_eq_of_perm (key : String) (h : List.Perm texts others) :
    ascendingMember key texts = ascendingMember key others := by
  rw [ascendingMember, ascendingMember, h.isEmpty_eq, ascending_eq_iff.2 h]

theorem PolicyBody.Alike.membersWith_eq {a b : PolicyBody} (h : a.Alike b)
    (sid effect : Option Json) : a.membersWith sid effect = b.membersWith sid effect := by
  rw [membersWith, membersWith, listMember_eq_of_perm _ h.action,
    listMember_eq_of_perm _ h.notAction, listMember_eq_of_perm _ h.resource,
    listMember_eq_of_perm _ h.notResource, h.condition, h.notCondition]

theorem PolicyStatement.Alike.renderWith_eq {a b : PolicyStatement} (h : a.Alike b)
    (principal notPrincipal : Option PrincipalEntry) :
    a.renderWith principal notPrincipal = b.renderWith principal notPrincipal := by
  rw [renderWith, renderWith, h.body.membersWith_eq, h.body.sid, h.body.effect]

theorem PolicyStatement.Alike.follows_merged {a b : PolicyStatement} (h : a.Alike b) :
    Follows Eq a.merged b.merged := by
  refine (PrincipalEntry.follows_merge h.principal).bind fun principal _ hsame => ?_
  refine (PrincipalEntry.follows_merge h.notPrincipal).bind fun notPrincipal _ hsameNot => ?_
  exact follows_ok (by rw [hsame, hsameNot])

theorem PolicyStatement.Alike.defaultAction?_eq {a b : PolicyStatement} (h : a.Alike b)
    (principal notPrincipal : Option PrincipalEntry) :
    a.defaultAction? principal notPrincipal = b.defaultAction? principal notPrincipal := by
  rw [defaultAction?, defaultAction?, PolicyBody.hasAction, PolicyBody.hasAction,
    h.body.action.isEmpty_eq, h.body.notAction.isEmpty_eq]

theorem follows_render {statement other : Statement} (h : statement.Alike other) :
    Follows Eq statement.render.outcome other.render.outcome := by
  cases h with
  | permission h =>
    refine follows_ok ?_
    rw [PolicyBody.render, PolicyBody.render, h.membersWith_eq, h.sid, h.effect]
  | resourcePolicy h =>
    refine h.follows_merged.bind fun merged _ hsame => ?_
    subst hsame
    exact follows_ok (h.renderWith_eq _ _)
  | trust h =>
    simp only [Statement.render, PolicyStatement.renderTrust, Traced.outcome_bind,
      Traced.outcome_lift]
    refine h.follows_merged.bind fun merged _ hsame => ?_
    subst hsame
    rw [h.renderWith_eq, h.defaultAction?_eq]
    exact follows_self fun _ => rfl

-- ---------------------------------------------------------------------------
-- Compiling
-- ---------------------------------------------------------------------------

variable {members others : Entries Json}

theorem follows_compile (hkind : kind ≠ .grant)
    (hhas : ∀ name ∈ kind.schema.objectionable, others.has name = members.has name)
    (hread : ∀ spec ∈ kind.schema.fields,
      Schema.ReadsAs FieldValue.Alike context members others spec) :
    Follows Statement.Alike (compile kind context (.obj members)).outcome
      (compile kind context (.obj others)).outcome := by
  intro statement hstatement
  obtain ⟨fields, hfields, rfl, hdescribes⟩ := compile_ok.1 hstatement
  obtain ⟨related, hrelated, hsets⟩ :=
    Schema.follows_resolve FieldValue.Alike.isEmpty_eq hhas hread fields hfields
  obtain ⟨other, hkindOther, hother⟩ := describes_of_resolve hrelated
  exact ⟨other, compile_ok.2 ⟨related, hrelated, hkindOther, hother⟩,
    alike_of_describes hsets hkind hkindOther hdescribes hother⟩

theorem render_ok_iff_of_alike {statement other : Statement} (h : statement.Alike other)
    (rendered : Entries Json) :
    statement.render.outcome = .ok rendered ↔ other.render.outcome = .ok rendered := by
  constructor
  · intro hr
    obtain ⟨_, hother, rfl⟩ := follows_render h rendered hr
    exact hother
  · intro hr
    obtain ⟨_, hstatement, rfl⟩ := follows_render h.symm rendered hr
    exact hstatement

end AccessPolicy
