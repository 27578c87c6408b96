import AccessPolicy.Proofs.Json.Structure
import AccessPolicy.Proofs.Statement.Trust

/-!
# Rendered statements are plain values

Conditions and constraints are the only free-form parts of a statement. If they are plain, so is
what the statement renders to (`plain_render`).
-/

namespace AccessPolicy

def PolicyBody.Plain (body : PolicyBody) : Prop :=
  (∀ members ∈ body.condition, (Json.obj members).Plain) ∧
    ∀ members ∈ body.notCondition, (Json.obj members).Plain

def Statement.Plain : Statement → Prop
  | .permission body => body.Plain
  | .resourcePolicy policy | .trust policy => policy.body.Plain
  | .grant contents => ∀ members ∈ contents.constraints, (Json.obj members).Plain

-- ---------------------------------------------------------------------------
-- Members
-- ---------------------------------------------------------------------------

theorem plain_ordered {members : Entries Json} (h : ∀ member ∈ members, member.2.Plain) :
    (Json.obj members.ordered).Plain :=
  Json.plain_obj.2 ⟨members.ascending_ordered, fun member hmember =>
    h member (Entries.mem_of_mem_ordered hmember)⟩

theorem plain_optional {value : Option Json} (h : ∀ content ∈ value, content.Plain) :
    ∀ member ∈ optional key value, member.2.Plain := by
  intro member hmember
  obtain ⟨content, hcontent, rfl⟩ := Option.map_eq_some_iff.1 (Option.mem_toList.1 hmember)
  exact h content hcontent

theorem plain_slots {slots : Slots} (h : ∀ slot ∈ slots, ∀ value ∈ slot.2, value.Plain) :
    (Json.obj slots.members.ordered).Plain := by
  apply plain_ordered
  intro member hmember
  obtain ⟨slot, hslot, hmem⟩ := List.mem_flatMap.1 hmember
  exact plain_optional (h slot hslot) member hmem

theorem ListShape.plain_toJson (shape : ListShape) : shape.toJson.Plain := by
  cases shape with
  | one text => exact Json.plain_str text
  | many texts => exact Json.plain_strings texts

theorem plain_map {content : Option α} {f : α → Json} (h : ∀ a ∈ content, (f a).Plain) :
    ∀ value ∈ content.map f, value.Plain := by
  intro value hvalue
  obtain ⟨a, ha, rfl⟩ := Option.map_eq_some_iff.1 hvalue
  exact h a ha

-- ---------------------------------------------------------------------------
-- Principals
-- ---------------------------------------------------------------------------

/-- Buckets stand in the order of their kinds, and so in that of their keys. -/
theorem Principal.ascending_buckets (principal : Principal) :
    Entries.Ascending (principal.buckets.map fun (kind, shape) => (kind.tag, shape.toJson)) := by
  have hkinds : PrincipalKind.all.Pairwise fun a b => a.tag < b.tag := by decide
  apply List.pairwise_map.2
  apply List.Pairwise.filterMap _ _ hkinds
  intro a b hab c hc d hd
  obtain ⟨_, -, rfl⟩ := Option.map_eq_some_iff.1 hc
  obtain ⟨_, -, rfl⟩ := Option.map_eq_some_iff.1 hd
  exact hab

theorem PrincipalEntry.plain_toJson (entry : PrincipalEntry) : entry.toJson.Plain := by
  cases entry with
  | literal text => exact Json.plain_str text
  | mapping principal =>
    refine Json.plain_obj.2 ⟨principal.ascending_buckets, ?_⟩
    rw [List.forall_mem_map]
    exact fun bucket _ => bucket.2.plain_toJson

-- ---------------------------------------------------------------------------
-- Statements
-- ---------------------------------------------------------------------------

theorem PolicyBody.Plain.slots {body : PolicyBody} (h : body.Plain) {sid effect : Option Json}
    (hsid : ∀ value ∈ sid, value.Plain) (heffect : ∀ value ∈ effect, value.Plain) :
    ∀ slot ∈ body.slots sid effect, ∀ value ∈ slot.2, value.Plain := by
  have hlist (texts : List String) :
      ∀ value ∈ (ListShape.canonical? texts).map ListShape.toJson, value.Plain :=
    plain_map fun shape _ => shape.plain_toJson
  simp only [PolicyBody.slots, List.forall_mem_cons]
  exact ⟨hsid, heffect, hlist _, hlist _, hlist _, hlist _, plain_map h.1, plain_map h.2,
    List.forall_mem_nil _⟩

theorem plain_body {body : PolicyBody} (h : body.Plain) : (Json.obj body.render).Plain := by
  rw [PolicyBody.render, membersWith_eq]
  exact plain_slots (h.slots (plain_map fun sid _ => Json.plain_str sid)
    (plain_map fun effect _ => Json.plain_str effect.tag))

theorem plain_renderWith {policy : PolicyStatement} (h : policy.body.Plain)
    (principal notPrincipal : Option PrincipalEntry) :
    (Json.obj (policy.renderWith principal notPrincipal)).Plain := by
  rw [renderWith_eq]
  apply plain_slots
  rw [PolicyStatement.slots, List.forall_mem_append]
  constructor
  · apply h.slots
    · rintro _ ⟨⟩
      exact Json.plain_str _
    · rintro _ ⟨⟩
      exact Json.plain_str _
  · simp only [List.forall_mem_cons]
    exact ⟨plain_map fun entry _ => entry.plain_toJson, plain_map fun entry _ => entry.plain_toJson,
      List.forall_mem_nil _⟩

theorem plain_grant {contents : Grant}
    (h : ∀ members ∈ contents.constraints, (Json.obj members).Plain) :
    (Json.obj contents.render).Plain := by
  have hlist (key : String) (texts : List String) :
      ∀ member ∈ listMember key texts, member.2.Plain :=
    plain_optional (plain_map fun shape _ => shape.plain_toJson)
  have hascending (key : String) (texts : List String) :
      ∀ member ∈ ascendingMember key texts, member.2.Plain := by
    rw [ascendingMember]
    split
    · exact List.forall_mem_nil _
    · exact List.forall_mem_singleton.2 (Json.plain_strings _)
  apply plain_ordered
  simp only [List.forall_mem_append]
  exact ⟨⟨⟨⟨hlist _ _, hlist _ _⟩, hascending _ _⟩, plain_optional (plain_map h)⟩,
    hascending _ _⟩

theorem plain_render {statement : Statement} (h : statement.Plain)
    (hr : statement.render.outcome = .ok members) : (Json.obj members).Plain := by
  cases statement with
  | permission body =>
    obtain rfl := Except.ok.inj hr
    exact plain_body h
  | resourcePolicy policy =>
    obtain ⟨⟨principal, notPrincipal⟩, -, hmembers⟩ := bind_ok.1 hr
    obtain rfl := Except.ok.inj hmembers
    exact plain_renderWith h principal notPrincipal
  | trust policy =>
    obtain ⟨principal, notPrincipal, -, rfl⟩ := renderTrust_ok.1 hr
    have hacted : (policy.acted principal notPrincipal).body.Plain := by
      rw [PolicyStatement.acted]
      split <;> exact h
    exact plain_renderWith hacted principal notPrincipal
  | grant contents =>
    obtain rfl := Except.ok.inj hr
    exact plain_grant h

end AccessPolicy
