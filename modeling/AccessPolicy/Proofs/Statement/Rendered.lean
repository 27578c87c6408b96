import AccessPolicy.Compile
import AccessPolicy.Proofs.ListShape
import AccessPolicy.Proofs.Lookup

/-!
# Members of rendered statements

A rendered statement has a slot for each member that it may have (`find?_renderWith`), and a
document has a value just if all of its statements render (`Document.toJson_ok`).
-/

namespace AccessPolicy

/-- Members that may be absent, by key. -/
abbrev Slots := Entries (Option Json)

def Slots.members (slots : Slots) : Entries Json :=
  slots.flatMap fun (key, value) => optional key value

theorem find?_optional {value : Option Json} :
    Entries.find? key (optional name value) = if name = key then value else none := by
  cases value <;> simp [optional, Entries.find?_cons]

theorem keys_members (slots : Slots) :
    (slots.members.map (·.1)).Sublist (slots.map (·.1)) := by
  induction slots with
  | nil => exact .slnil
  | cons slot rest ih =>
    obtain ⟨key, value⟩ := slot
    rw [Slots.members, List.flatMap_cons, List.map_append]
    cases value with
    | none => exact ih.cons _
    | some value => exact ih.cons_cons _

theorem find?_members {slots : Slots} (h : slots.Distinct) :
    slots.members.find? key = (slots.find? key).join := by
  induction slots with
  | nil => rfl
  | cons slot rest ih =>
    obtain ⟨name, value⟩ := slot
    obtain ⟨hfresh, hrest⟩ := List.nodup_cons.1 h
    have hjoin := ih hrest
    rw [Slots.members] at hjoin
    rw [Slots.members, List.flatMap_cons, Entries.find?_append, find?_optional, hjoin,
      Entries.find?_cons]
    by_cases hname : name = key
    · subst hname
      have hnone : Entries.find? name rest = none :=
        Entries.find?_eq_none_iff.2 fun slot hslot heq =>
          hfresh (List.mem_map.2 ⟨slot, hslot, heq⟩)
      simp [hnone]
    · simp [hname]

theorem find?_ordered_members {slots : Slots} (h : slots.Distinct) :
    slots.members.ordered.find? key = (slots.find? key).join := by
  have hdistinct : slots.members.Distinct := List.Nodup.sublist (keys_members slots) h
  rw [hdistinct.find?_ordered, find?_members h]

-- ---------------------------------------------------------------------------
-- Slots of statements
-- ---------------------------------------------------------------------------

def PolicyBody.slots (body : PolicyBody) (sid effect : Option Json) : Slots :=
  [("Sid", sid), ("Effect", effect),
    ("Action", (ListShape.canonical? body.action).map ListShape.toJson),
    ("NotAction", (ListShape.canonical? body.notAction).map ListShape.toJson),
    ("Resource", (ListShape.canonical? body.resource).map ListShape.toJson),
    ("NotResource", (ListShape.canonical? body.notResource).map ListShape.toJson),
    ("Condition", body.condition.map .obj), ("NotCondition", body.notCondition.map .obj)]

def PolicyBody.rendered (body : PolicyBody) : Slots :=
  body.slots (body.sid.map .str) (body.effect.map fun effect => .str effect.tag)

def PolicyStatement.slots (policy : PolicyStatement)
    (principal notPrincipal : Option PrincipalEntry) : Slots :=
  policy.body.slots (some (.str (policy.body.sid.getD "")))
      (some (.str (policy.body.effect.getD .allow).tag)) ++
    [("Principal", principal.map PrincipalEntry.toJson),
      ("NotPrincipal", notPrincipal.map PrincipalEntry.toJson)]

def bodyKeys : List String :=
  ["Sid", "Effect", "Action", "NotAction", "Resource", "NotResource", "Condition", "NotCondition"]

theorem PolicyBody.slots_distinct (body : PolicyBody) (sid effect : Option Json) :
    (body.slots sid effect).Distinct := by
  show bodyKeys.Nodup
  decide

theorem PolicyStatement.slots_distinct (policy : PolicyStatement)
    (principal notPrincipal : Option PrincipalEntry) :
    (policy.slots principal notPrincipal).Distinct := by
  show (bodyKeys ++ ["Principal", "NotPrincipal"]).Nodup
  decide

theorem membersWith_eq (body : PolicyBody) (sid effect : Option Json) :
    body.membersWith sid effect = (body.slots sid effect).members := by
  simp [PolicyBody.membersWith, Slots.members, PolicyBody.slots, listMember]

theorem find?_render (body : PolicyBody) :
    body.render.find? key = (body.rendered.find? key).join := by
  rw [PolicyBody.render, membersWith_eq]
  exact find?_ordered_members (body.slots_distinct _ _)

theorem renderWith_eq (policy : PolicyStatement) (principal notPrincipal : Option PrincipalEntry) :
    policy.renderWith principal notPrincipal =
      (policy.slots principal notPrincipal).members.ordered := by
  simp [PolicyStatement.renderWith, membersWith_eq, Slots.members, PolicyStatement.slots]

theorem find?_renderWith (policy : PolicyStatement)
    (principal notPrincipal : Option PrincipalEntry) :
    (policy.renderWith principal notPrincipal).find? key =
      ((policy.slots principal notPrincipal).find? key).join := by
  rw [renderWith_eq]
  exact find?_ordered_members (policy.slots_distinct principal notPrincipal)

-- ---------------------------------------------------------------------------
-- Documents
-- ---------------------------------------------------------------------------

namespace Document

def Renders : List Statement → List (Entries Json) → Prop :=
  List.Forall₂ fun statement members => statement.render.outcome = .ok members

theorem toJson_ok {document : Document} : document.toJson.outcome = .ok (some value) ↔
    document.statements ≠ [] ∧ ∃ rendered, Renders document.statements rendered ∧
      Json.ofMembers (envelope (rendered.map .obj)) = value := by
  rw [toJson]
  split
  · next hempty =>
    rw [List.isEmpty_iff] at hempty
    exact iff_of_false (fun h => nomatch h) fun h => h.1 hempty
  · next hnonempty =>
    rw [List.isEmpty_iff] at hnonempty
    simp only [Document.rendered, Traced.outcome_bind, Traced.outcome_pure, bind_ok,
      Traced.each_ok, Except.ok.injEq, Option.some.injEq]
    constructor
    · rintro ⟨_, ⟨rendered, hrendered, rfl⟩, hvalue⟩
      exact ⟨hnonempty, rendered, hrendered, hvalue⟩
    · rintro ⟨-, rendered, hrendered, hvalue⟩
      exact ⟨_, ⟨rendered, hrendered, rfl⟩, hvalue⟩

theorem envelope_ordered (statements : List Json) : (envelope statements).ordered =
    [("Statement", .arr statements), ("Version", .str policyVersion)] := by
  have hless : "Statement" < "Version" := by decide
  simp [envelope, Entries.ordered, Entries.put, hless]

end Document

end AccessPolicy
