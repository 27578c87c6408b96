import AccessPolicy.Proofs.Environment
import AccessPolicy.Proofs.Statement.Shown

/-!
# Lists of trusted principals keep their sides

What an entry of a list of trusted or exempted principals compiles to names principals of that side
only, and says what they may do (`compileTrustDocument_sides`).
-/

namespace AccessPolicy

/-- Members with a key of a side in either spelling, if only with a null. -/
def Mentions (side : PrincipalSide) (members : Entries Json) : Prop :=
  ∃ name ∈ side.key.spellings, members.has name = true

/-- The raw statement of an entry that does not mention the opposite side. -/
inductive StandsFor (side : PrincipalSide) : Json → Json → Prop
  | statement {members : Entries Json} (unopposed : ¬Mentions side.opposite members)
      (own : Mentions side members) : StandsFor side (.obj members) (.obj members)
  | bare {members : Entries Json} (unopposed : ¬Mentions side.opposite members)
      (unnamed : ¬Mentions side members) :
      StandsFor side (.obj members) (.obj [(side.key.shorthand, .obj members)])

/-- A statement is what an entry of a side compiles to. It renders no principals of the opposite
side, and none without an action. -/
structure CompiledOn (context : Context) (side : PrincipalSide) (entry : Json)
    (statement : Statement) : Prop where
  compiled : ∃ raw, StandsFor side entry raw ∧ (compile .trust context raw).outcome = .ok statement
  sided : ∀ members, statement.render.outcome = .ok members →
    members.has side.opposite.key.canonical = false
  acting : ∀ members, statement.render.outcome = .ok members →
    members.has "Principal" = true ∨ members.has "NotPrincipal" = true →
      members.has "Action" = true ∨ members.has "NotAction" = true

-- ---------------------------------------------------------------------------
-- Entries
-- ---------------------------------------------------------------------------

section
variable {side : PrincipalSide} {members : Entries Json}

theorem side_spellings (side : PrincipalSide) :
    side.key.spellings = [side.key.shorthand, side.key.canonical] := by
  cases side <;> decide

theorem givenSpelling?_eq_none_iff :
    givenSpelling? members side.key = none ↔ ¬Mentions side members := by
  simp [givenSpelling?, Mentions, side_spellings]

theorem wrapTrustPrincipal_ok :
    wrapTrustPrincipal side entry = .ok raw ↔ StandsFor side entry raw := by
  constructor
  · intro h
    obtain ⟨members, hmembers, hwrapped⟩ := bind_ok.1 h
    obtain rfl : entry = .obj members := by
      cases entry <;> cases hmembers
      rfl
    split at hwrapped
    · cases hwrapped
    · next hopposite hown =>
      obtain rfl := Except.ok.inj hwrapped
      refine .statement (givenSpelling?_eq_none_iff.1 hopposite) (not_not.1 fun hnot => ?_)
      cases hown.symm.trans (givenSpelling?_eq_none_iff.2 hnot)
    · next hopposite hown =>
      obtain rfl := Except.ok.inj hwrapped
      exact .bare (givenSpelling?_eq_none_iff.1 hopposite) (givenSpelling?_eq_none_iff.1 hown)
  · intro h
    cases h with
    | @statement members hopposite hown =>
      obtain ⟨name, hname⟩ :=
        Option.ne_none_iff_exists'.1 (mt givenSpelling?_eq_none_iff.1 (not_not.2 hown))
      refine bind_ok.2 ⟨members, rfl, ?_⟩
      simp only [givenSpelling?_eq_none_iff.2 hopposite, hname]
    | @bare members hopposite hown =>
      refine bind_ok.2 ⟨members, rfl, ?_⟩
      simp only [givenSpelling?_eq_none_iff.2 hopposite, givenSpelling?_eq_none_iff.2 hown]

theorem opposite_spelling (side : PrincipalSide) :
    ∀ name ∈ side.opposite.key.spellings, name ≠ side.key.shorthand := by
  cases side <;> decide

theorem StandsFor.unopposed (h : StandsFor side entry (.obj members)) :
    ¬Mentions side.opposite members := by
  cases h with
  | statement hopposite => exact hopposite
  | bare =>
    rintro ⟨name, hname, hhas⟩
    have hne : side.key.shorthand ≠ name := (opposite_spelling side name hname).symm
    simp [Entries.has, Entries.find?_cons, hne] at hhas

theorem StandsFor.exists_members (h : StandsFor side entry raw) :
    ∃ members : Entries Json, raw = .obj members := by
  cases h <;> exact ⟨_, rfl⟩

end

-- ---------------------------------------------------------------------------
-- Principals of compiled statements
-- ---------------------------------------------------------------------------

section
variable {side : PrincipalSide} {members rendered : Entries Json} {statement : Statement}

theorem sideSpec_mem (hpolicy : statement.policy? = some policy) (side : PrincipalSide) :
    ⟨side.key, .principals⟩ ∈ statement.kind.schema.fields := by
  have hmem : ⟨side.key, .principals⟩ ∈ Schema.resourcePolicy.fields := by
    rw [resourcePolicy_fields]
    cases side <;> simp [PrincipalSide.key]
  cases statement with
  | resourcePolicy _ | trust _ => exact hmem
  | permission _ | grant _ => cases hpolicy

theorem named_of_compile (h : (compile kind context (.obj members)).outcome = .ok statement)
    (hpolicy : statement.policy? = some policy) (side : PrincipalSide) :
    ∃ value, (Schema.fieldValue? context members ⟨side.key, .principals⟩).outcome = .ok value ∧
      Schema.effective value = FieldValue.ofPrincipals? (policy.named side) := by
  obtain ⟨fields, hdescribes, hread⟩ := fields_of_compile h
  obtain rfl := (compile_admissible h).1
  obtain ⟨value, hvalue, hget⟩ := hread _ (sideSpec_mem hpolicy side)
  rw [get?_named (describes_policy hdescribes hpolicy)] at hget
  exact ⟨value, hvalue, hget.symm⟩

theorem present?_of_not_mentions (h : ¬Mentions side members) :
    ∀ name ∈ side.key.spellings, Schema.present? members name = none := by
  intro name hname
  have hhas : members.has name = false := Bool.eq_false_iff.2 fun htrue => h ⟨name, hname, htrue⟩
  rw [Schema.present?, Entries.has_eq_false_iff.1 hhas]
  rfl

theorem named_of_not_mentions (h : (compile kind context (.obj members)).outcome = .ok statement)
    (hpolicy : statement.policy? = some policy) (hnot : ¬Mentions side members) :
    policy.named side = [] := by
  obtain ⟨value, hvalue, hnamed⟩ := named_of_compile h hpolicy side
  have hpresent := present?_of_not_mentions hnot
  simp only [side_spellings, List.forall_mem_cons] at hpresent
  rw [Schema.fieldValue?_of_absent hpresent.1 hpresent.2.1] at hvalue
  obtain rfl := Except.ok.inj hvalue
  by_contra hne
  simp [Schema.effective, FieldValue.ofPrincipals?, hne] at hnamed

theorem trust_of_compile (h : (compile .trust context raw).outcome = .ok statement) :
    ∃ policy, statement = .trust policy := by
  have hkind := (compile_admissible h).1
  cases statement with
  | trust policy => exact ⟨policy, rfl⟩
  | permission _ | resourcePolicy _ | grant _ => cases hkind

theorem compiledOn_of_standsFor (hstands : StandsFor side entry raw)
    (h : (compile .trust context raw).outcome = .ok statement) :
    CompiledOn context side entry statement := by
  obtain ⟨members, rfl⟩ := hstands.exists_members
  obtain ⟨policy, rfl⟩ := trust_of_compile h
  refine ⟨⟨_, hstands, h⟩, fun rendered hr => ?_, fun rendered hr => acts_of_shows rfl hr⟩
  exact has_eq_false_of_showsSide (showsSide_render rfl hr side.opposite)
    (named_of_not_mentions h rfl hstands.unopposed)

end

-- ---------------------------------------------------------------------------
-- The two lists
-- ---------------------------------------------------------------------------

section
variable {allow disallow : List Json}

theorem compileTrustDocument_ok :
    (compileTrustDocument context allow disallow).outcome = .ok document ↔
      ∃ allowed disallowed, document.statements = allowed ++ disallowed ∧
        List.Forall₂ (CompiledOn context .principal) allow allowed ∧
        List.Forall₂ (CompiledOn context .notPrincipal) disallow disallowed := by
  have hside (side : PrincipalSide) (entry : Json) (statement : Statement) :
      (∃ raw, wrapTrustPrincipal side entry = .ok raw ∧
        (compile .trust context raw).outcome = .ok statement) ↔
      CompiledOn context side entry statement := by
    simp only [wrapTrustPrincipal_ok]
    exact ⟨fun ⟨_, hstands, h⟩ => compiledOn_of_standsFor hstands h, CompiledOn.compiled⟩
  simp only [compileTrustDocument, compileEntries, Traced.outcome_bind, Traced.outcome_pure,
    bind_ok, Traced.each_ok, Traced.outcome_lift, Except.ok.injEq, forall₂_append_left_iff,
    List.forall₂_map_left_iff, hside]
  constructor
  · rintro ⟨_, ⟨allowed, disallowed, rfl, hallowed, hdisallowed⟩, rfl⟩
    exact ⟨allowed, disallowed, rfl, hallowed, hdisallowed⟩
  · rintro ⟨allowed, disallowed, hstatements, hallowed, hdisallowed⟩
    exact ⟨_, ⟨allowed, disallowed, rfl, hallowed, hdisallowed⟩, by rw [← hstatements]⟩

theorem not_mentions_of_compiledOn {side : PrincipalSide} {entries : List Json}
    (h : List.Forall₂ (CompiledOn context side) entries statements) :
    ∀ members : Entries Json, .obj members ∈ entries → ¬Mentions side.opposite members := by
  have hall : ∀ entry ∈ entries, ∃ raw, StandsFor side entry raw :=
    ((List.forall₂_and_left _ _).1 (h.imp fun _ _ hcompiled =>
      ⟨hcompiled.compiled.imp fun _ => And.left, hcompiled⟩)).1
  intro members hmem
  obtain ⟨_, hstands⟩ := hall _ hmem
  cases hstands with
  | statement hopposite => exact hopposite
  | bare hopposite => exact hopposite

/-- A trust policy has a statement for each entry, those who are trusted first. None of them renders
principals of the opposite side, or principals without an action. An entry that mentions the
opposite side makes the work fail. -/
theorem compileTrustDocument_sides (context : Context) (allow disallow : List Json) :
    (∀ document, (compileTrustDocument context allow disallow).outcome = .ok document →
      document.statements.length = allow.length + disallow.length ∧
      ∃ allowed disallowed, document.statements = allowed ++ disallowed ∧
        List.Forall₂ (CompiledOn context .principal) allow allowed ∧
        List.Forall₂ (CompiledOn context .notPrincipal) disallow disallowed) ∧
    ((∃ members, .obj members ∈ allow ∧ Mentions .notPrincipal members) ∨
        (∃ members, .obj members ∈ disallow ∧ Mentions .principal members) →
      ∃ error, (compileTrustDocument context allow disallow).outcome = .error error) := by
  constructor
  · intro document h
    obtain ⟨allowed, disallowed, hstatements, hallowed, hdisallowed⟩ := compileTrustDocument_ok.1 h
    refine ⟨?_, allowed, disallowed, hstatements, hallowed, hdisallowed⟩
    simp [hstatements, hallowed.length_eq, hdisallowed.length_eq]
  · intro hopposed
    cases houtcome : (compileTrustDocument context allow disallow).outcome with
    | error error => exact ⟨error, rfl⟩
    | ok document =>
      obtain ⟨_, _, -, hallowed, hdisallowed⟩ := compileTrustDocument_ok.1 houtcome
      rcases hopposed with ⟨members, hmem, hmentions⟩ | ⟨members, hmem, hmentions⟩
      · exact absurd hmentions (not_mentions_of_compiledOn hallowed members hmem)
      · exact absurd hmentions (not_mentions_of_compiledOn hdisallowed members hmem)

/-- A bare principal that is trusted, and a statement of one that is exempted. Trusted by mistake,
the latter is not compiled. -/
theorem compileTrustDocument_sides_exempted :
    let context : Context := .app
    let trusted : Json := .obj [("iam", .str "role/web"), ("service", .str "ec2")]
    let exempted : Json := .obj [("NotPrincipal", .str "*"), ("notaction", .str "sts:TagSession"),
      ("sid", .str "other")]
    (∃ document, (compileTrustDocument context [trusted] [exempted]).outcome = .ok document ∧
      ∃ first second, document.statements = [first, second] ∧
        CompiledOn context .principal trusted first ∧
        CompiledOn context .notPrincipal exempted second) ∧
    ∃ error, (compileTrustDocument context [trusted, exempted] []).outcome = .error error := by
  intro context trusted exempted
  constructor
  · obtain ⟨document, hdocument⟩ : ∃ document,
        (compileTrustDocument context [trusted] [exempted]).outcome = .ok document := ⟨_, rfl⟩
    obtain ⟨-, _, _, hstatements, hallowed, hdisallowed⟩ :=
      (compileTrustDocument_sides context _ _).1 document hdocument
    obtain ⟨first, _, hfirst, ⟨⟩, rfl⟩ := List.forall₂_cons_left_iff.1 hallowed
    obtain ⟨second, _, hsecond, ⟨⟩, rfl⟩ := List.forall₂_cons_left_iff.1 hdisallowed
    exact ⟨document, hdocument, first, second, hstatements, hfirst, hsecond⟩
  · refine (compileTrustDocument_sides context _ _).2 (.inl ⟨_, .tail _ (.head _), ?_⟩)
    exact ⟨"NotPrincipal", by decide, rfl⟩

end

end AccessPolicy
