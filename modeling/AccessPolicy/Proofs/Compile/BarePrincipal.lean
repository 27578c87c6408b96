import AccessPolicy.Proofs.Compile.Reread
import AccessPolicy.Proofs.Compile.Sides
import AccessPolicy.Proofs.Principal.Alike
import AccessPolicy.Proofs.Principal.Shorthand

/-!
# Entries that are principals alone

Members that resolve as principals have no key of a statement (`compile_of_resolveMapping`). The
statement that is made of them always renders, and shows them unless they name nobody
(`renderTrust_naming`).
-/

namespace AccessPolicy

def PolicyBody.blank : PolicyBody := ⟨none, none, [], [], [], [], none, none⟩

def PolicyStatement.naming (entries : List PrincipalEntry) : PrincipalSide → PolicyStatement
  | .principal => ⟨.blank, entries, []⟩
  | .notPrincipal => ⟨.blank, [], entries⟩

def blankMembers : Entries Json := [("Effect", .str "Allow"), ("Sid", .str "")]

def trustKeys : List String :=
  Schema.resourcePolicy.fields.flatMap fun spec => [spec.key.shorthand, spec.key.canonical]

-- ---------------------------------------------------------------------------
-- Keys of principals
-- ---------------------------------------------------------------------------

theorem PrincipalEntry.key_mem_of_contribution {members : Entries Json}
    (h : contribution context field members key value = .ok contributed) : key ∈ listKeys := by
  unfold contribution at h
  split at h
  iterate 5 decide
  next =>
    cases hkind : PrincipalKind.ofTag? key with
    | none => simp [hkind] at h
    | some kind =>
      obtain rfl := eq_tag_of_ofTag? hkind
      cases kind <;> decide

-- ---------------------------------------------------------------------------
-- Statements that name principals and say nothing else
-- ---------------------------------------------------------------------------

section
variable {side : PrincipalSide} {members : Entries Json} {entries : List PrincipalEntry}

/-- A key that statements have, but not to name principals of a side. -/
def OtherKey (side : PrincipalSide) (name : String) : Prop :=
  name ∈ trustKeys ∧ name ∉ side.key.spellings

instance : Decidable (OtherKey side name) := inferInstanceAs (Decidable (_ ∧ _))

theorem fieldValues_blank (side : PrincipalSide) :
    ∀ entry ∈ PolicyBody.blank.fieldValues, entry.2 = none ∧
      OtherKey side entry.1.key.shorthand ∧ OtherKey side entry.1.key.canonical := by
  cases side <;> decide

theorem fieldValues_naming (entries : List PrincipalEntry) (side : PrincipalSide) :
    ∀ entry ∈ (PolicyStatement.naming entries side).fieldValues,
      entry = (⟨side.key, .principals⟩, FieldValue.ofPrincipals? entries) ∨
        entry.2 = none ∧ OtherKey side entry.1.key.shorthand ∧
          OtherKey side entry.1.key.canonical := by
  have hbody : (PolicyStatement.naming entries side).body = .blank := by cases side <;> rfl
  rw [PolicyStatement.fieldValues, hbody, List.forall_mem_append]
  refine ⟨fun entry hentry => .inr (fieldValues_blank side entry hentry), ?_⟩
  simp only [List.forall_mem_cons]
  cases side with
  | principal => exact ⟨.inl rfl, .inr ⟨rfl, by decide⟩, List.forall_mem_nil _⟩
  | notPrincipal => exact ⟨.inr ⟨rfl, by decide⟩, .inl rfl, List.forall_mem_nil _⟩

theorem compile_naming (hside : Gives context members ⟨side.key, .principals⟩
      (FieldValue.ofPrincipals? entries))
    (hothers : ∀ name, OtherKey side name → Schema.present? members name = none) :
    (compile .trust context (.obj members)).outcome = .ok (.trust (.naming entries side)) := by
  have hadmissible : (Statement.trust (.naming entries side)).Admissible := by
    cases side <;>
      simp [Statement.Admissible, PolicyBody.Unambiguous, PolicyStatement.naming, PolicyBody.blank]
  show (compile (Statement.trust (.naming entries side)).kind context (.obj members)).outcome = _
  refine compile_policy_of_gives rfl (fun _ => id) hadmissible fun entry hentry => ?_
  rcases fieldValues_naming entries side entry hentry with rfl | ⟨hnone, hshort, hlong⟩
  · exact hside
  · exact ⟨none, Schema.fieldValue?_of_absent (hothers _ hshort) (hothers _ hlong), hnone.symm⟩

theorem trustKey_not_principalKey : ∀ name ∈ trustKeys, name ∉ PrincipalEntry.listKeys := by decide

/-- Members that are principals are a statement as well, but one that says nothing. -/
theorem compile_of_resolveMapping (side : PrincipalSide)
    (h : (PrincipalEntry.resolveMapping context field members).outcome = .ok principal) :
    (compile .trust context (.obj members)).outcome = .ok (.trust (.naming [] side)) := by
  obtain ⟨-, hgiven, -⟩ := PrincipalEntry.resolveMapping_ok h
  have habsent : ∀ name ∈ trustKeys, Schema.present? members name = none := by
    intro name hname
    have hnone : members.find? name = none := by
      refine Entries.find?_eq_none_iff.2 fun member hmember heq => ?_
      obtain ⟨contributed, hcontributed⟩ := hgiven member hmember
      exact trustKey_not_principalKey name hname
        (heq ▸ PrincipalEntry.key_mem_of_contribution hcontributed)
    rw [Schema.present?, hnone]
    rfl
  have hspellings : ∀ name ∈ [side.key.shorthand, side.key.canonical], name ∈ trustKeys := by
    cases side <;> decide
  simp only [List.forall_mem_cons] at hspellings
  exact compile_naming ⟨none, Schema.fieldValue?_of_absent (habsent _ hspellings.1)
    (habsent _ hspellings.2.1), rfl⟩ fun name hname => habsent name hname.1

theorem present?_single (name key : String) (members : Entries Json) :
    Schema.present? [(name, .obj members)] key =
      if name = key then some (.obj members) else none := by
  simp only [Schema.present?, Entries.find?_cons, Entries.find?_nil]
  split <;> rfl

theorem shorthand_ne_canonical (side : PrincipalSide) :
    side.key.shorthand ≠ side.key.canonical := by
  cases side <;> decide

theorem fieldValue?_bare (context : Context) (side : PrincipalSide) (members : Entries Json) :
    (Schema.fieldValue? context [(side.key.shorthand, .obj members)]
      ⟨side.key, .principals⟩).outcome =
    (PrincipalEntry.resolveMapping context side.key.shorthand members).outcome.map
      fun principal => some (.principals [.mapping principal]) := by
  simp only [Schema.fieldValue?, present?_single, if_neg (shorthand_ne_canonical side), ite_true,
    Traced.outcome_bind, Traced.outcome_pure, FieldKind.resolve, PrincipalEntry.resolve,
    Json.entries, Traced.each, PrincipalEntry.resolveEntry]
  cases (PrincipalEntry.resolveMapping context side.key.shorthand members).outcome <;> rfl

theorem compile_bare_ok :
    (compile .trust context (.obj [(side.key.shorthand, .obj members)])).outcome = .ok statement ↔
      ∃ principal,
        (PrincipalEntry.resolveMapping context side.key.shorthand members).outcome =
          .ok principal ∧ .trust (.naming [.mapping principal] side) = statement := by
  have hread := fieldValue?_bare context side members
  cases hresolve : (PrincipalEntry.resolveMapping context side.key.shorthand members).outcome with
  | error error =>
    refine iff_of_false (fun h => ?_) (by simp)
    obtain ⟨policy, rfl⟩ := trust_of_compile h
    obtain ⟨value, hvalue, -⟩ := named_of_compile h rfl side
    simp [hread, hresolve, Except.map] at hvalue
  | ok principal =>
    rw [hresolve] at hread
    have hothers : ∀ name, OtherKey side name →
        Schema.present? [(side.key.shorthand, .obj members)] name = none := by
      intro name hname
      rw [present?_single, if_neg]
      rintro rfl
      exact hname.2 (by simp [side_spellings])
    have hside : Gives context [(side.key.shorthand, .obj members)] ⟨side.key, .principals⟩
        (FieldValue.ofPrincipals? [.mapping principal]) := ⟨_, hread, rfl⟩
    rw [compile_naming hside hothers]
    simp

-- ---------------------------------------------------------------------------
-- Rendering
-- ---------------------------------------------------------------------------

theorem named_naming (entries : List PrincipalEntry) (side : PrincipalSide) :
    (PolicyStatement.naming entries side).named side = entries := by
  cases side <;> rfl

theorem merge_named_naming (h : PrincipalEntry.merge entries = .ok merged)
    (side other : PrincipalSide) :
    PrincipalEntry.merge ((PolicyStatement.naming entries side).named other) =
      .ok (if other = side then merged else none) := by
  cases side <;> cases other <;> first | exact h | rfl

theorem renderTrust_nobody (h : PrincipalEntry.merge entries = .ok none) (side : PrincipalSide) :
    (PolicyStatement.naming entries side).renderTrust.outcome = .ok blankMembers := by
  have hmerged := merged_of_named (merge_named_naming h side)
  simp only [ite_self] at hmerged
  refine renderTrust_ok.2 ⟨none, none, hmerged, ?_⟩
  cases side <;> rfl

theorem blankMembers_has (side : PrincipalSide) :
    blankMembers.has side.key.canonical = false := by
  cases side <;> rfl

theorem renderTrust_naming (buckets : Buckets) (side : PrincipalSide) :
    ∃ rendered,
      (PolicyStatement.naming [.mapping (.ofBuckets buckets)] side).renderTrust.outcome =
          .ok rendered ∧
        (rendered = blankMembers ↔ (Principal.ofBuckets buckets).isEmpty = true) := by
  have hmerge := PrincipalEntry.merge_ofBuckets buckets
  cases hempty : (Principal.ofBuckets buckets).isEmpty with
  | true =>
    simp only [hempty, if_true] at hmerge
    exact ⟨blankMembers, renderTrust_nobody hmerge side, by simp⟩
  | false =>
    simp only [hempty, Bool.false_eq_true, if_false] at hmerge
    have hmerged := merged_of_named (merge_named_naming hmerge side)
    have hr : (Statement.trust _).render.outcome = _ := renderTrust_ok.2 ⟨_, _, hmerged, rfl⟩
    refine ⟨_, hr, iff_of_false (fun heq => ?_) Bool.false_ne_true⟩
    have hnamed := (congrArg PrincipalEntry.merge (named_naming _ side)).trans hmerge
    have hhas := has_of_showsSide (showsSide_render rfl hr side) hnamed
    rw [heq, blankMembers_has] at hhas
    cases hhas

end

end AccessPolicy
