import AccessPolicy.Diff
import AccessPolicy.Proofs.Environment
import AccessPolicy.Proofs.Principal.Merged
import AccessPolicy.Proofs.Statement.Trust

/-!
# Rendered statements are in canonical form

What a compiled statement renders to has no unknown member, no member beside its negation, and every
list and principal in canonical form (`compile_canonical`). A permission always renders.
-/

namespace AccessPolicy

/-- A string, or at least two strings in ascending order. -/
def CanonicalList (value : Json) : Prop :=
  (∃ text, value = .str text) ∨
    ∃ texts, value = .strings texts ∧ 2 ≤ texts.length ∧ texts.Pairwise (· ≤ ·)

/-- A string, or a mapping of at least one kind of principals to lists in canonical form. -/
def CanonicalPrincipal (value : Json) : Prop :=
  (∃ text, value = .str text) ∨ ∃ buckets, value = .obj buckets ∧ buckets ≠ [] ∧
    ∀ bucket ∈ buckets, bucket.1 ∈ Json.bucketKeys ∧ CanonicalList bucket.2

def policyKeys : List String := bodyKeys ++ Json.principalKeys

def negatedKeys : List (String × String) := [("Action", "NotAction"), ("Resource", "NotResource")]

structure CanonicalStatement (members : Entries Json) : Prop where
  ascending : members.Ascending
  keys : ∀ member ∈ members, member.1 ∈ policyKeys
  effect : ∃ effect : Effect, members.find? "Effect" = some (.str effect.tag)
  exclusive : ∀ pair ∈ negatedKeys ++ [("Principal", "NotPrincipal")],
    members.has pair.1 = false ∨ members.has pair.2 = false
  lists : ∀ key ∈ Json.unorderedKeys, ∀ value ∈ members.find? key, CanonicalList value
  principals : ∀ key ∈ Json.principalKeys, ∀ value ∈ members.find? key, CanonicalPrincipal value

-- ---------------------------------------------------------------------------
-- Members
-- ---------------------------------------------------------------------------

theorem canonicalList_canonical? (texts : List String) :
    ∀ value ∈ (ListShape.canonical? texts).map ListShape.toJson, CanonicalList value := by
  rcases ListShape.canonical?_cases texts with ⟨-, hnone⟩ | ⟨text, -, hone⟩ | ⟨hmany, hlong⟩
  · rw [hnone]
    exact nofun
  · rw [hone]
    rintro _ ⟨⟩
    exact .inl ⟨text, rfl⟩
  · rw [hmany]
    rintro _ ⟨⟩
    exact .inr ⟨_, rfl, (ascending_perm texts).length_eq ▸ hlong, pairwise_ascending texts⟩

theorem canonicalPrincipal_of_merged {entry : PrincipalEntry} (h : entry.Merged) :
    CanonicalPrincipal entry.toJson := by
  cases entry with
  | literal text => exact .inl ⟨text, rfl⟩
  | mapping principal =>
    obtain ⟨hnonempty, buckets, rfl⟩ := h
    refine .inr ⟨_, rfl, ?_, ?_⟩
    · exact mt List.map_eq_nil_iff.1 (List.isEmpty_eq_false_iff.1 hnonempty)
    · rw [List.forall_mem_map]
      intro bucket hbucket
      obtain ⟨kind, -, hkind⟩ := List.mem_filterMap.1 hbucket
      rw [Principal.get?_ofBuckets, Option.map_eq_some_iff] at hkind
      obtain ⟨shape, hshape, rfl⟩ := hkind
      have htag : kind.tag ∈ Json.bucketKeys := by cases kind <;> decide
      exact ⟨htag, canonicalList_canonical? (buckets kind) _
        (Option.mem_map_of_mem ListShape.toJson hshape)⟩

-- ---------------------------------------------------------------------------
-- Statements by their slots
-- ---------------------------------------------------------------------------

section
variable {members : Entries Json} {slots : Slots}

def Slots.Fill (slots : Slots) (members : Entries Json) : Prop :=
  members.Ascending ∧ ∀ key, members.find? key = (slots.find? key).join

theorem Slots.Fill.key_mem (h : slots.Fill members) {member : String × Json}
    (hm : member ∈ members) : member.1 ∈ slots.map (·.1) := by
  have hfound := h.1.distinct.find?_of_mem hm
  rw [h.2] at hfound
  cases hslot : slots.find? member.1 with
  | none => simp [hslot] at hfound
  | some value => exact List.mem_map_of_mem (Entries.mem_of_find? hslot)

theorem Slots.Fill.has_eq (h : slots.Fill members) (key : String) :
    members.has key = (slots.find? key).join.isSome := by
  rw [Entries.has, h.2]

def PolicyBody.slotsFor (body : PolicyBody) (sid effect : Option Json)
    (principal notPrincipal : Option PrincipalEntry) : Slots :=
  body.slots sid effect ++ [("Principal", principal.map PrincipalEntry.toJson),
    ("NotPrincipal", notPrincipal.map PrincipalEntry.toJson)]

variable {body : PolicyBody} {sid : Option Json} {effect : Effect}
  {principal notPrincipal : Option PrincipalEntry}

theorem canonicalStatement_of_fill
    (h : (body.slotsFor sid (some (.str effect.tag)) principal notPrincipal).Fill members)
    (hbody : body.Unambiguous) (hone : principal = none ∨ notPrincipal = none)
    (hprincipal : ∀ entry ∈ principal, PrincipalEntry.Merged entry)
    (hnotPrincipal : ∀ entry ∈ notPrincipal, PrincipalEntry.Merged entry) :
    CanonicalStatement members where
  ascending := h.1
  keys := fun _ hmember => h.key_mem hmember
  effect := ⟨effect, h.2 "Effect"⟩
  exclusive := by
    have hlist {texts : List String} {key : String} (hnil : texts = [])
        (hkey : (body.slotsFor sid (some (.str effect.tag)) principal notPrincipal).find? key =
          some ((ListShape.canonical? texts).map ListShape.toJson)) : members.has key = false := by
      rw [h.has_eq, hkey, hnil]
      rfl
    have hentry {entry : Option PrincipalEntry} {key : String} (hnone : entry = none)
        (hkey : (body.slotsFor sid (some (.str effect.tag)) principal notPrincipal).find? key =
          some (entry.map PrincipalEntry.toJson)) : members.has key = false := by
      rw [h.has_eq, hkey, hnone]
      rfl
    simp only [negatedKeys, List.cons_append, List.nil_append, List.forall_mem_cons]
    exact ⟨hbody.1.imp (hlist · rfl) (hlist · rfl), hbody.2.imp (hlist · rfl) (hlist · rfl),
      hone.imp (hentry · rfl) (hentry · rfl), List.forall_mem_nil _⟩
  lists := by
    simp only [Json.unorderedKeys, List.forall_mem_cons, h.2]
    exact ⟨canonicalList_canonical? body.action, canonicalList_canonical? body.notAction,
      canonicalList_canonical? body.resource, canonicalList_canonical? body.notResource,
      List.forall_mem_nil _⟩
  principals := by
    have hcanonical {entry : Option PrincipalEntry}
        (hmerged : ∀ principal ∈ entry, PrincipalEntry.Merged principal) :
        ∀ value ∈ entry.map PrincipalEntry.toJson, CanonicalPrincipal value := by
      intro value hvalue
      obtain ⟨principal, hprincipal, rfl⟩ := Option.map_eq_some_iff.1 hvalue
      exact canonicalPrincipal_of_merged (hmerged principal hprincipal)
    simp only [Json.principalKeys, List.forall_mem_cons, h.2]
    exact ⟨hcanonical hprincipal, hcanonical hnotPrincipal, List.forall_mem_nil _⟩

end

theorem fill_render (body : PolicyBody) :
    (body.slotsFor (body.sid.map .str) (body.effect.map fun effect => .str effect.tag) none
      none).Fill body.render := by
  refine ⟨Entries.ascending_ordered _, fun key => ?_⟩
  -- slots for principals that hold nothing do not count
  have hnothing : (Entries.find? key [("Principal", none), ("NotPrincipal", none)] :
      Option (Option Json)).join = none := by
    simp only [Entries.find?_cons, Entries.find?_nil]
    split
    · rfl
    · split <;> rfl
  rw [find?_render, PolicyBody.slotsFor, Entries.find?_append]
  show (body.rendered.find? key).join = _
  cases hslot : body.rendered.find? key with
  | none => exact (congrArg Option.join (congrArg (Option.or · _) hslot) |>.trans hnothing).symm
  | some value => exact (congrArg Option.join (congrArg (Option.or · _) hslot)).symm

theorem fill_renderWith (policy : PolicyStatement)
    (principal notPrincipal : Option PrincipalEntry) :
    (policy.body.slotsFor (some (.str (policy.body.sid.getD "")))
      (some (.str (policy.body.effect.getD .allow).tag)) principal notPrincipal).Fill
      (policy.renderWith principal notPrincipal) := by
  refine ⟨?_, fun _ => find?_renderWith policy principal notPrincipal⟩
  rw [renderWith_eq]
  exact Entries.ascending_ordered _

-- ---------------------------------------------------------------------------
-- Kinds of statements
-- ---------------------------------------------------------------------------

structure CanonicalPermission (members : Entries Json) : Prop
    extends CanonicalStatement members where
  complete : ∀ pair ∈ negatedKeys, members.has pair.1 = true ∨ members.has pair.2 = true
  unnamed : ∀ key ∈ Json.principalKeys, members.has key = false

theorem canonicalPermission_render {body : PolicyBody}
    (h : (Statement.permission body).Admissible) : CanonicalPermission body.render := by
  obtain ⟨hunambiguous, haction, heffect, hresource⟩ := h
  obtain ⟨effect, heffect⟩ := Option.ne_none_iff_exists'.1 heffect
  have hfill := fill_render body
  have hlist {texts : List String} {key : String} (hne : texts ≠ [])
      (hkey : body.render.find? key = (ListShape.canonical? texts).map ListShape.toJson) :
      body.render.has key = true := by
    rw [Entries.has, hkey, ListShape.isSome_canonical?, List.isEmpty_eq_false_iff.2 hne]
    rfl
  refine ⟨?_, ?_, ?_⟩
  · rw [heffect] at hfill
    have hnone : ∀ entry ∈ (none : Option PrincipalEntry), PrincipalEntry.Merged entry :=
      fun _ h => absurd h (Option.not_mem_none _)
    exact canonicalStatement_of_fill hfill hunambiguous (.inl rfl) hnone hnone
  · simp only [negatedKeys, List.forall_mem_cons]
    exact ⟨haction.imp (hlist · (hfill.2 "Action")) (hlist · (hfill.2 "NotAction")),
      hresource.imp (hlist · (hfill.2 "Resource")) (hlist · (hfill.2 "NotResource")),
      List.forall_mem_nil _⟩
  · simp only [Json.principalKeys, List.forall_mem_cons]
    exact ⟨hfill.has_eq "Principal", hfill.has_eq "NotPrincipal", List.forall_mem_nil _⟩

theorem canonicalStatement_renderWith {policy : PolicyStatement}
    (h : policy.body.Unambiguous ∧ (policy.principal = [] ∨ policy.notPrincipal = []))
    (hmerged : policy.merged = .ok (principal, notPrincipal)) :
    CanonicalStatement (policy.renderWith principal notPrincipal) ∧
      (policy.renderWith principal notPrincipal).has "Sid" = true := by
  obtain ⟨hprincipal, hnotPrincipal⟩ := merged_ok.1 hmerged
  have hfill := fill_renderWith policy principal notPrincipal
  refine ⟨canonicalStatement_of_fill hfill h.1 (merged_none hmerged h.2) ?_ ?_,
    hfill.has_eq "Sid"⟩
  · rintro entry rfl
    exact PrincipalEntry.merged_of_merge hprincipal
  · rintro entry rfl
    exact PrincipalEntry.merged_of_merge hnotPrincipal

/-- What a compiled policy statement renders to is in canonical form. Permissions render always, and
have just one of each key and its negation; the other statements have an identifier. -/
theorem compile_canonical (hkind : kind ≠ .grant)
    (h : (compile kind context raw).outcome = .ok statement) :
    (∀ members, statement.render.outcome = .ok members → CanonicalStatement members ∧
      (kind = .permission → CanonicalPermission members) ∧
      (kind ≠ .permission → members.has "Sid" = true)) ∧
    (kind = .permission → ∃ members, statement.render.outcome = .ok members) := by
  obtain ⟨rfl, ha⟩ := compile_admissible h
  cases statement with
  | permission body =>
    refine ⟨fun members hr => ?_, fun _ => ⟨body.render, rfl⟩⟩
    obtain rfl := Except.ok.inj hr
    have hcanonical := canonicalPermission_render ha
    exact ⟨hcanonical.toCanonicalStatement, fun _ => hcanonical, fun hne => absurd rfl hne⟩
  | resourcePolicy policy =>
    refine ⟨fun members hr => ?_, nofun⟩
    obtain ⟨⟨principal, notPrincipal⟩, hmerged, hmembers⟩ := bind_ok.1 hr
    obtain rfl := Except.ok.inj hmembers
    obtain ⟨hcanonical, hsid⟩ := canonicalStatement_renderWith ha hmerged
    exact ⟨hcanonical, nofun, fun _ => hsid⟩
  | trust policy =>
    refine ⟨fun members hr => ?_, nofun⟩
    obtain ⟨principal, notPrincipal, hmerged, rfl⟩ := renderTrust_ok.1 hr
    obtain ⟨hcanonical, hsid⟩ :=
      canonicalStatement_renderWith (acted_admissible ha) (merged_acted hmerged)
    exact ⟨hcanonical, nofun, fun _ => hsid⟩
  | grant contents => exact absurd rfl hkind

/-- A role named twice, a service and a number for an identifier. The action is a default. -/
theorem compile_canonical_default_action :
    let raw : Json := .obj [("Sid", .int 7),
      ("principal", .obj [("iam", .strings ["role/web", "role/app", "role/web"]),
        ("service", .str "ec2")])]
    ∃ statement members,
      (compile .trust .app raw).outcome = .ok statement ∧
      statement.render.outcome = .ok members ∧ CanonicalStatement members ∧
      members.has "Sid" = true ∧ members.has "Action" = true := by
  intro raw
  let app := "arn:aws:iam::123456789012:role/app"
  let web := "arn:aws:iam::123456789012:role/web"
  let statement (roles : List String) : Statement :=
    .trust ⟨⟨some "7", none, [], [], [], [], none, none⟩,
      [.mapping ⟨some (.many roles), none, some (.one "ec2.amazonaws.com")⟩], []⟩
  have hcompile : (compile .trust .app raw).outcome =
      .ok (statement (ascending [web, app, web])) := rfl
  have hroles : [app, web, web] = ascending [web, app, web] :=
    eq_ascending_iff.2 ⟨.swap .., by decide⟩
  rw [← hroles] at hcompile
  obtain ⟨members, hr, haction⟩ : ∃ members,
      (statement [app, web, web]).render.outcome = .ok members ∧ members.has "Action" = true :=
    ⟨_, rfl, rfl⟩
  obtain ⟨hcanonical, -, hsid⟩ := (compile_canonical (by decide) hcompile).1 members hr
  exact ⟨_, members, hcompile, hr, hcanonical, hsid (by decide), haction⟩

end AccessPolicy
