import Mathlib.Logic.Relation
import AccessPolicy.Proofs.Environment
import AccessPolicy.Proofs.Reference.Entries
import AccessPolicy.Proofs.Statement.Alike

/-!
# Statements of one shape

Lists in a raw statement may be permuted, and a list of one element stands for the element. Neither
changes what the statement compiles and renders to (`render_compile_shapeEquivalent`).
-/

namespace AccessPolicy

-- ---------------------------------------------------------------------------
-- Equivalent raw statements
-- ---------------------------------------------------------------------------

/-- A list is permuted, or a single element of it takes its place. -/
inductive ListStep : Json → Json → Prop
  | permute (h : List.Perm items others) : ListStep (.arr items) (.arr others)
  | collapse (hnull : item.isNull = false) (hlist : ∀ items, item ≠ .arr items) :
    ListStep (.arr [item]) item

inductive MemberStep (R : String → Json → Json → Prop) : Entries Json → Entries Json → Prop
  | mk (before after : Entries Json) (h : R key a b) :
    MemberStep R (before ++ (key, a) :: after) (before ++ (key, b) :: after)

/-- A list changes that a mapping has under one of some keys. -/
inductive EntryStep (keys : List String) : Json → Json → Prop
  | mk (h : MemberStep (fun key a b => key ∈ keys ∧ ListStep a b) members others) :
    EntryStep keys (.obj members) (.obj others)

/-- A value that may be a list of mappings changes: the list, or lists in a mapping. -/
inductive FieldStep (keys : List String) : Json → Json → Prop
  | list (h : ListStep a b) : FieldStep keys a b
  | entry (h : EntryStep keys a b) : FieldStep keys a b
  | element (before after : List Json) (h : EntryStep keys a b) :
    FieldStep keys (.arr (before ++ a :: after)) (.arr (before ++ b :: after))

/-- The keys of a statement whose lists have no order, each with the keys whose lists have none in a
mapping there. -/
def rearrangeable : String → Option (List String)
  | "action" | "notaction" | "Action" | "NotAction" => some []
  | "resource" | "notresource" | "Resource" | "NotResource" => some Reference.listKeys
  | "principal" | "notprincipal" | "Principal" | "NotPrincipal" => some PrincipalEntry.listKeys
  | _ => none

inductive StatementStep : Json → Json → Prop
  | mk (h : MemberStep
      (fun key a b => ∃ keys, rearrangeable key = some keys ∧ FieldStep keys a b) members others) :
    StatementStep (.obj members) (.obj others)

/-- Raw statements that differ in list order, and in whether a single element stands in a list. -/
def ShapeEquivalent : Json → Json → Prop := Relation.EqvGen StatementStep

-- ---------------------------------------------------------------------------
-- Steps lead to values that list the same
-- ---------------------------------------------------------------------------

theorem ListStep.listsAlike (h : ListStep a b) : Json.ListsAlike a b := by
  cases h with
  | permute h => exact ⟨rfl, rearranged_eq.2 h⟩
  | collapse hnull hlist =>
    have hentries : b.entries = [b] := by
      cases b <;> first | rfl | exact absurd rfl (hlist _)
    exact ⟨hnull.symm, rearranged_eq.2 (.of_eq hentries.symm)⟩

theorem MemberStep.alike {R S : String → Json → Json → Prop} (hrefl : ∀ key a, S key a a)
    (hS : ∀ key a b, R key a b → S key a b) (h : MemberStep R members others) :
    members.Alike S others := by
  cases h with
  | mk before after h =>
    exact List.rel_append (Entries.alike_refl hrefl before)
      (.cons ⟨rfl, hS _ _ _ h⟩ (Entries.alike_refl hrefl after))

theorem EntryStep.entryAlike (h : EntryStep keys a b) : Json.EntryAlike keys a b := by
  cases h with
  | mk h =>
    refine .mapping (h.alike (Json.AlikeUnder.refl keys) fun key a b hstep => ?_)
    exact ⟨hstep.2.listsAlike, fun hkey => absurd hstep.1 hkey⟩

theorem FieldStep.alike (h : FieldStep keys a b) : Json.Alike (Json.EntryAlike keys) a b := by
  have hrefl (items : List Json) : List.Forall₂ (Json.EntryAlike keys) items items :=
    List.forall₂_same.2 fun item _ => .same item
  cases h with
  | list h => exact h.listsAlike.imp fun a b heq => heq ▸ .same a
  | entry h =>
    have hentry := h.entryAlike
    cases h with
    | mk h => exact ⟨rfl, rearranged_of_forall₂ (.cons hentry .nil)⟩
  | element before after h =>
    exact ⟨rfl, rearranged_of_forall₂ (List.rel_append (hrefl before) (.cons h.entryAlike
      (hrefl after)))⟩

-- ---------------------------------------------------------------------------
-- Fields of values that list the same
-- ---------------------------------------------------------------------------

/-- The same value or, where the order of lists does not matter, values that list the same. -/
def AlikeWithin : Option (List String) → Json → Json → Prop
  | none, a, b => a = b
  | some keys, a, b => Json.Alike (Json.EntryAlike keys) a b

theorem AlikeWithin.refl (keys : Option (List String)) (value : Json) :
    AlikeWithin keys value value := by
  cases keys with
  | none => rfl
  | some keys => exact Json.alike_refl .same value

theorem AlikeWithin.symm (keys : Option (List String)) (a b : Json) (h : AlikeWithin keys a b) :
    AlikeWithin keys b a := by
  cases keys with
  | none => exact Eq.symm h
  | some keys => exact Json.Alike.symm Json.EntryAlike.symm h

theorem AlikeWithin.isNull_eq (h : AlikeWithin keys a b) : a.isNull = b.isNull := by
  cases keys with
  | none => exact congrArg Json.isNull h
  | some keys => exact h.isNull

def FieldKind.innerKeys : FieldKind → Option (List String)
  | .strings => some []
  | .resources _ => some Reference.listKeys
  | .principals => some PrincipalEntry.listKeys
  | .text | .choice _ | .mapping => none

section
variable {kind : FieldKind} {a b : Json}

theorem follows_accept (field : String) (h : AlikeWithin kind.innerKeys a b) :
    Follows FieldValue.Alike (kind.accept field a) (kind.accept field b) := by
  cases kind with
  | text | choice _ | mapping =>
    obtain rfl := h
    exact follows_self FieldValue.Alike.refl
  | strings | resources _ =>
    exact (Json.follows_stringList_of_entries h field).map fun _ _ => .list
  | principals => exact (PrincipalEntry.follows_ofLiterals field h).map fun _ _ => .principals

theorem follows_resolveField (context : Context) (field : String)
    (h : AlikeWithin kind.innerKeys a b) :
    Follows FieldValue.Alike (kind.resolve context field a).outcome
      (kind.resolve context field b).outcome := by
  cases kind with
  | resources only =>
    simp only [FieldKind.resolve, Traced.outcome_bind]
    refine (follows_resolveResources context field only h).bind fun arns _ hsame => ?_
    exact follows_ok (.list (.of_eq hsame))
  | principals =>
    simp only [FieldKind.resolve, Traced.outcome_bind]
    exact (PrincipalEntry.follows_resolve context field h).bind fun _ _ hperm =>
      follows_ok (.principals hperm)
  | text | choice _ | mapping | strings => exact follows_accept field h

end

-- ---------------------------------------------------------------------------
-- Statements
-- ---------------------------------------------------------------------------

abbrev MembersAlike : Entries Json → Entries Json → Prop :=
  Entries.Alike fun key => AlikeWithin (rearrangeable key)

section
variable {members others : Entries Json} {context : Context}

theorem present?_alike (h : MembersAlike members others) (key : String) :
    Option.Rel (AlikeWithin (rearrangeable key)) (Schema.present? members key)
      (Schema.present? others key) := by
  have hkey := h.find? key
  rw [Schema.present?, Schema.present?]
  generalize members.find? key = value, others.find? key = other at hkey ⊢
  cases hkey with
  | none => exact .none
  | some hvalue =>
    rw [Option.filter_some, Option.filter_some, hvalue.isNull_eq]
    split
    · exact .some hvalue
    · exact .none

theorem rearrangeable_spellings (kind : StatementKind) (hkind : kind ≠ .grant) :
    ∀ spec ∈ kind.schema.fields, rearrangeable spec.key.shorthand = spec.kind.innerKeys ∧
      rearrangeable spec.key.canonical = spec.kind.innerKeys := by
  cases kind with
  | permission | resourcePolicy | trust => decide
  | grant => exact absurd rfl hkind

theorem readsAs_of_alike (h : MembersAlike members others) {spec : FieldSpec}
    (hspec : rearrangeable spec.key.shorthand = spec.kind.innerKeys ∧
      rearrangeable spec.key.canonical = spec.kind.innerKeys) :
    Schema.ReadsAs FieldValue.Alike context members others spec := by
  have hshort := present?_alike h spec.key.shorthand
  have hlong := present?_alike h spec.key.canonical
  rw [hspec.1] at hshort
  rw [hspec.2] at hlong
  unfold Schema.ReadsAs Schema.fieldValue?
  dsimp only
  generalize Schema.present? members spec.key.shorthand = short,
    Schema.present? others spec.key.shorthand = otherShort at hshort ⊢
  generalize Schema.present? members spec.key.canonical = long,
    Schema.present? others spec.key.canonical = otherLong at hlong ⊢
  cases hshort with
  | none =>
    cases hlong with
    | none => exact follows_ok .none
    | some hlong => exact Schema.follows_some (follows_accept _ hlong)
  | some hshort =>
    cases hlong with
    | none => exact Schema.follows_some (follows_resolveField context _ hshort)
    | some hlong =>
      dsimp only
      split
      · exact Schema.follows_some (follows_resolveField context _ hshort)
      · exact follows_error

theorem follows_render_compile (hkind : kind ≠ .grant) (context : Context)
    (h : MembersAlike members others) :
    Follows Eq (compile kind context (.obj members) >>= Statement.render).outcome
      (compile kind context (.obj others) >>= Statement.render).outcome := by
  simp only [Traced.outcome_bind]
  have hread : ∀ spec ∈ kind.schema.fields,
      Schema.ReadsAs FieldValue.Alike context members others spec :=
    fun spec hspec => readsAs_of_alike h (rearrangeable_spellings kind hkind spec hspec)
  exact (follows_compile hkind (fun name _ => h.has_eq name) hread).bind fun _ _ => follows_render

end

theorem StatementStep.membersAlike (h : StatementStep raw other) :
    ∃ members others, raw = .obj members ∧ other = .obj others ∧ MembersAlike members others := by
  cases h with
  | @mk members others h =>
    refine ⟨members, others, rfl, rfl, h.alike (fun _ => .refl _) fun key a b hstep => ?_⟩
    obtain ⟨keys, hkeys, hstep⟩ := hstep
    rw [hkeys]
    exact hstep.alike

theorem render_compile_step (hkind : kind ≠ .grant) (context : Context)
    (h : StatementStep raw other) (members : Entries Json) :
    (compile kind context raw >>= Statement.render).outcome = .ok members ↔
      (compile kind context other >>= Statement.render).outcome = .ok members := by
  obtain ⟨before, after, rfl, rfl, halike⟩ := h.membersAlike
  constructor
  · intro hr
    obtain ⟨_, hother, rfl⟩ := follows_render_compile hkind context halike members hr
    exact hother
  · intro hr
    have hback := halike.symm fun key => AlikeWithin.symm (rearrangeable key)
    obtain ⟨_, hraw, rfl⟩ := follows_render_compile hkind context hback members hr
    exact hraw

/-- Of two statements of one shape both compile and render, to the same members, or neither does. -/
theorem render_compile_shapeEquivalent (hkind : kind ≠ .grant) (context : Context)
    (h : ShapeEquivalent raw other) (members : Entries Json) :
    (compile kind context raw >>= Statement.render).outcome = .ok members ↔
      (compile kind context other >>= Statement.render).outcome = .ok members := by
  induction h with
  | rel raw other hstep => exact render_compile_step hkind context hstep members
  | refl raw => exact Iff.rfl
  | symm raw other _ ih => exact ih.symm
  | trans raw between other _ _ ihFirst ihSecond => exact ihFirst.trans ihSecond

/-- Actions in another order, a list of one reference, and in it one role and two users. -/
theorem render_compile_shapeEquivalent_reference :
    let context : Context := .app
    let statement (action resource : Json) : Json :=
      .obj [("Effect", .str "Allow"), ("action", action), ("resource", resource)]
    let reference (names users : Json) : Json := .obj [("iam", names), ("users", users)]
    let raw := statement (.strings ["s3:PutObject", "s3:GetObject"])
      (.arr [reference (.strings ["role/web"]) (.strings ["eve", "bob"])])
    let other := statement (.strings ["s3:GetObject", "s3:PutObject"])
      (reference (.str "role/web") (.strings ["bob", "eve"]))
    ShapeEquivalent raw other ∧ ∃ members,
      (compile .permission context raw >>= Statement.render).outcome = .ok members ∧
      (compile .permission context other >>= Statement.render).outcome = .ok members := by
  intro context statement reference raw other
  have haction (resource : Json) :
      StatementStep (statement (.strings ["s3:PutObject", "s3:GetObject"]) resource)
        (statement (.strings ["s3:GetObject", "s3:PutObject"]) resource) :=
    .mk (.mk [("Effect", .str "Allow")] [("resource", resource)]
      ⟨[], rfl, .list (.permute (.swap ..))⟩)
  have hresource (action : Json) {a b : Json} (h : FieldStep Reference.listKeys a b) :
      StatementStep (statement action a) (statement action b) :=
    .mk (.mk [("Effect", .str "Allow"), ("action", action)] [] ⟨Reference.listKeys, rfl, h⟩)
  have husers (names : Json) : EntryStep Reference.listKeys
      (reference names (.strings ["eve", "bob"])) (reference names (.strings ["bob", "eve"])) :=
    .mk (.mk [("iam", names)] [] ⟨by decide, .permute (.swap ..)⟩)
  have hnames (users : Json) : EntryStep Reference.listKeys
      (reference (.strings ["role/web"]) users) (reference (.str "role/web") users) :=
    .mk (.mk [] [("users", users)] ⟨by decide, .collapse rfl nofun⟩)
  have hequivalent : ShapeEquivalent raw other :=
    .trans _ _ _ (.rel _ _ (haction _)) <|
    .trans _ _ _ (.rel _ _ (hresource _ (.element [] [] (husers _)))) <|
    .trans _ _ _ (.rel _ _ (hresource _ (.list (.collapse rfl nofun)))) <|
    .rel _ _ (hresource _ (.entry (hnames _)))
  let actions := ["s3:PutObject", "s3:GetObject"]
  let arns := ["arn:aws:iam::123456789012:role/web/bob", "arn:aws:iam::123456789012:role/web/eve"]
  let roles : Json := .arr [reference (.strings ["role/web"]) (.strings ["eve", "bob"])]
  have harns : ((FieldKind.resources none).resolve context "resource" roles).outcome =
      .ok (.list arns) :=
    FieldKind.resolve_resources_of_parts (.cons rfl .nil)
      (eq_ascending_iff.2 ⟨.swap .., by decide⟩)
  have hvalues : Schema.permission.Values context
      [("Effect", .str "Allow"), ("action", .strings actions), ("resource", roles)]
      [none, some (.text "Allow"), some (.list actions), none, some (.list arns), none, none,
        none] :=
    .cons rfl <| .cons rfl <| .cons rfl <| .cons rfl <|
    .cons (Schema.fieldValue?_of_shorthand rfl rfl harns) <|
    .cons rfl <| .cons rfl <| .cons rfl .nil
  have hcompile : (compile .permission context raw).outcome =
      .ok (.permission ⟨none, some .allow, actions, [], arns, [], none, none⟩) :=
    compile_of_resolve hvalues.outcome_resolve rfl
  obtain ⟨members, hmembers⟩ : ∃ members,
      (compile .permission context raw >>= Statement.render).outcome = .ok members := by
    rw [Traced.outcome_bind, hcompile]
    exact ⟨_, rfl⟩
  exact ⟨hequivalent, members, hmembers,
    (render_compile_shapeEquivalent (by decide) context hequivalent members).1 hmembers⟩

end AccessPolicy
