import AccessPolicy.Proofs.Environment
import AccessPolicy.Proofs.Principal.Shorthand
import AccessPolicy.Proofs.Statement.Alike

/-!
# Literal values in shorthand

A field that is given by its canonical spelling may as well be given by its shorthand
(`compile_respelled`): literal principals resolve to themselves, and literal resources do up to
their order.
-/

namespace AccessPolicy

/-- Gives the value of a field by its shorthand, if it is given by the canonical spelling. -/
def respell (members : Entries Json) (key : FieldKey) : Entries Json :=
  match Schema.present? members key.canonical with
  | none => members
  | some value => (members.erase key.canonical).put key.shorthand value

def Json.Literal (value : Json) : Prop := ∀ item ∈ value.entries, ∃ text, item = .str text

/-- A field of resources is given as strings, if it is given by the canonical spelling. -/
def LiteralField (members : Entries Json) (key : FieldKey) : Prop :=
  key = .resource ∨ key = .notResource → ∀ value,
    Schema.present? members key.canonical = some value → value.Literal

-- ---------------------------------------------------------------------------
-- Fields
-- ---------------------------------------------------------------------------

section
variable {kind : FieldKind} {value : Json}

theorem resolveEntries_of_literal (context : Context) (other : String)
    (only : Option (List Service)) (hliteral : value.Literal)
    (h : value.stringList field = .ok texts) :
    Reference.resolveEntries context other only value.entries = .ok (ascending texts) := by
  have hnull : value.isNull = false := by
    cases value with
    | null => simp [Json.Literal, Json.entries] at hliteral
    | _ => rfl
  have htexts := Json.stringList_ok.1 h
  simp only [hnull, Bool.false_eq_true, if_false] at htexts
  have hresolved : value.entries.mapM (Reference.resolveEntry context other only) =
      .ok (texts.map fun text => [text]) := by
    rw [mapM_ok, List.forall₂_map_right_iff]
    refine ((List.forall₂_and_left _ _).2 ⟨hliteral, htexts⟩).imp ?_
    rintro _ text ⟨⟨content, rfl⟩, hscalar⟩
    obtain rfl : content = text := Option.some.inj hscalar
    cases only <;> rfl
  simp [Reference.resolveEntries, hresolved, bind_ok, ← List.flatMap_def, List.flatMap_singleton']

theorem accept_choice_ok :
    (FieldKind.choice choices).accept field value = .ok taken ↔
      ∃ content ∈ choices, value = .str content ∧ .text content = taken := by
  cases value with
  | str content =>
    simp only [FieldKind.accept]
    split <;> simp [*]
  | _ => simp [FieldKind.accept]

/-- What is accepted as a literal value means the same in shorthand, up to order. -/
theorem follows_accept_resolve (context : Context) (field other : String)
    (hliteral : ∀ only, kind = .resources only → value.Literal) :
    Follows FieldValue.Alike (kind.accept field value)
      (kind.resolve context other value).outcome := by
  intro taken h
  cases kind with
  | resources only =>
    obtain ⟨texts, htexts, rfl⟩ := map_ok.1 h
    refine ⟨.list (ascending texts), ?_, .list (ascending_perm texts).symm⟩
    rw [FieldKind.outcome_resolve_resources,
      resolveEntries_of_literal context other only (hliteral only rfl) htexts]
    rfl
  | principals =>
    obtain ⟨entries, hentries, rfl⟩ := map_ok.1 h
    refine ⟨.principals entries, ?_, .refl _⟩
    rw [FieldKind.outcome_resolve_principals,
      PrincipalEntry.resolve_of_literals context other hentries]
    rfl
  | strings =>
    obtain ⟨texts, htexts, rfl⟩ := map_ok.1 h
    exact ⟨.list texts, map_ok.2 ⟨texts, Json.stringList_ok.2 (Json.stringList_ok.1 htexts), rfl⟩,
      .refl _⟩
  | choice choices => exact ⟨taken, accept_choice_ok.2 (accept_choice_ok.1 h), .refl taken⟩
  | text | mapping =>
    refine ⟨taken, ?_, .refl taken⟩
    cases value <;> first | exact h | cases h

end

-- ---------------------------------------------------------------------------
-- Statements
-- ---------------------------------------------------------------------------

section
variable {kind : StatementKind} {members : Entries Json} {key : FieldKey} {context : Context}

theorem objectionable_apart (kind : StatementKind) : ∀ key ∈ kind.schema.fields.map (·.key),
    ∀ name ∈ kind.schema.objectionable, key.shorthand ≠ name ∧ key.canonical ≠ name := by
  cases kind <;> decide

theorem present?_respell (hgiven : Schema.present? members key.canonical = some value)
    (name : String) : Schema.present? (respell members key) name =
      if key.shorthand = name then some value
      else if key.canonical = name then none
      else Schema.present? members name := by
  have hnonnull : value.isNull = false := by
    simpa using (Option.filter_eq_some_iff.1 hgiven).2
  have hrespelled : respell members key =
      (members.erase key.canonical).put key.shorthand value := by simp [respell, hgiven]
  simp only [hrespelled, Schema.present?, Entries.find?_put, Entries.find?_erase]
  split
  · simp [hnonnull]
  · split <;> rfl

theorem respell_of_absent (h : Schema.present? members key.canonical = none) :
    respell members key = members := by
  simp [respell, h]

theorem resources_keys (hkind : kind ≠ .grant) : ∀ spec ∈ kind.schema.fields, ∀ only,
    spec.kind = .resources only → spec.key = .resource ∨ spec.key = .notResource := by
  have hpolicy : ∀ spec ∈ Schema.policy.fields, ∀ only, spec.kind = .resources only →
      spec.key = .resource ∨ spec.key = .notResource := by
    simp [Schema.policy, Schema.field, Schema.conflict, Schema.empty]
  cases kind with
  | permission => exact hpolicy
  | resourcePolicy | trust =>
    show ∀ spec ∈ Schema.resourcePolicy.fields, _
    rw [resourcePolicy_fields, List.forall_mem_append]
    exact ⟨hpolicy, by simp⟩
  | grant => exact absurd rfl hkind

/-- The field itself is read in shorthand instead, and no other one is affected. -/
theorem readsAs_respell (hkind : kind ≠ .grant) (hkey : key ∈ kind.schema.fields.map (·.key))
    (hliteral : LiteralField members key) : ∀ spec ∈ kind.schema.fields,
      Schema.ReadsAs FieldValue.Alike context members (respell members key) spec := by
  intro spec hspec
  obtain ⟨hshorthand, hcanonical, hothers⟩ := spellings_apart kind key hkey spec hspec
  cases hgiven : Schema.present? members key.canonical with
  | none =>
    rw [respell_of_absent hgiven]
    exact Schema.readsAs_of_present?_eq .refl rfl rfl
  | some value =>
    have hpresent := present?_respell hgiven
    by_cases hsame : spec.key = key
    · subst hsame
      have hresolved : Follows FieldValue.Alike (spec.kind.accept spec.key.canonical value)
          (spec.kind.resolve context spec.key.shorthand value).outcome :=
        follows_accept_resolve context _ _ fun only honly =>
          hliteral (resources_keys hkind spec hspec only honly) value hgiven
      cases hshort : Schema.present? members spec.key.shorthand with
      | none =>
        have hnewShort : Schema.present? (respell members spec.key) spec.key.shorthand =
            some value := by simp [hpresent]
        have hnewLong : Schema.present? (respell members spec.key) spec.key.canonical = none := by
          simp [hpresent, hshorthand]
        rw [Schema.ReadsAs, Schema.fieldValue?_canonical context spec hshort hgiven,
          Schema.fieldValue?_shorthand context spec hnewShort hnewLong]
        exact hresolved.map fun _ _ => .some
      | some short =>
        -- a field with both spellings is not read at all
        rw [Schema.ReadsAs, Schema.fieldValue?_both context hshort hgiven hshorthand]
        exact follows_error
    · obtain ⟨hshort, hlong⟩ := hothers hsame
      apply Schema.readsAs_of_present?_eq .refl
      · simp [hpresent, hshort, hcanonical]
      · simp [hpresent, hshorthand, hlong]

theorem has_respell (hkey : key ∈ kind.schema.fields.map (·.key)) :
    ∀ name ∈ kind.schema.objectionable, (respell members key).has name = members.has name := by
  intro name hname
  obtain ⟨hshort, hlong⟩ := objectionable_apart kind key hkey name hname
  unfold respell
  split <;> simp [Entries.has, hshort, hlong]

theorem literalField_respell {other : FieldKey} (hkey : key ∈ kind.schema.fields.map (·.key))
    (hother : other ∈ kind.schema.fields.map (·.key)) (h : LiteralField members other) :
    LiteralField (respell members key) other := by
  intro hresource value hvalue
  obtain ⟨spec, hspec, rfl⟩ := List.mem_map.1 hother
  refine h hresource value ?_
  cases hgiven : Schema.present? members key.canonical with
  | none => rwa [respell_of_absent hgiven] at hvalue
  | some given =>
    rw [present?_respell hgiven, if_neg (spellings_apart kind key hkey spec hspec).1] at hvalue
    split at hvalue
    · cases hvalue
    · exact hvalue

theorem exists_compile_respelled {keys : List FieldKey} (hkind : kind ≠ .grant)
    (hkeys : ∀ key ∈ keys, key ∈ kind.schema.fields.map (·.key))
    (hliteral : ∀ key ∈ keys, LiteralField members key)
    (h : (compile kind context (.obj members)).outcome = .ok statement) :
    ∃ other, (compile kind context (.obj (keys.foldl respell members))).outcome = .ok other ∧
      ∀ rendered,
        statement.render.outcome = .ok rendered ↔ other.render.outcome = .ok rendered := by
  induction keys generalizing members statement with
  | nil => exact ⟨statement, h, fun _ => Iff.rfl⟩
  | cons key rest ih =>
    obtain ⟨hkey, hrest⟩ := List.forall_mem_cons.1 hkeys
    obtain ⟨hfirst, hlater⟩ := List.forall_mem_cons.1 hliteral
    obtain ⟨between, hbetween, halike⟩ :=
      follows_compile hkind (has_respell hkey) (readsAs_respell hkind hkey hfirst) statement h
    obtain ⟨other, hother, hrendered⟩ := ih hrest
      (fun later hlaterKey => literalField_respell hkey (hrest later hlaterKey)
        (hlater later hlaterKey)) hbetween
    exact ⟨other, hother, fun rendered =>
      (render_ok_iff_of_alike halike rendered).trans (hrendered rendered)⟩

/-- Fields of a statement that compiles may be given by their shorthand instead of the canonical
spelling, if their resources are strings: it compiles again and renders to the same members, if at
all. Literal principals resolve to the entries that they are. -/
theorem compile_respelled (context : Context) :
    (∀ kind members statement (keys : List FieldKey), kind ≠ .grant →
      (compile kind context (.obj members)).outcome = .ok statement →
      (∀ key ∈ keys, key ∈ kind.schema.fields.map (·.key)) →
      (∀ key ∈ keys, LiteralField members key) →
      ∃ other, (compile kind context (.obj (keys.foldl respell members))).outcome = .ok other ∧
        ∀ rendered,
          statement.render.outcome = .ok rendered ↔ other.render.outcome = .ok rendered) ∧
    ∀ field other value entries, PrincipalEntry.ofLiterals field value = .ok entries →
      (PrincipalEntry.resolve context other value).outcome = .ok entries :=
  ⟨fun _ _ _ _ hkind h hkeys hliteral => exists_compile_respelled hkind hkeys hliteral h,
    fun _ other _ _ => PrincipalEntry.resolve_of_literals context other⟩

/-- A statement of a bucket in canonical spelling, and in shorthand but for its effect. -/
theorem compile_respelled_bucket :
    let context : Context := ⟨.main, .bucket, "logs"⟩
    let action : Json := .strings ["s3:PutObject", "s3:GetObject"]
    let principal : Json := .obj [("AWS", .str "123456789012"), ("Service", .str "example.com")]
    let resource : Json := .strings ["logs/b", "logs/a"]
    let canonical : Entries Json := [("Action", action), ("Effect", .str "Deny"),
      ("Principal", principal), ("Resource", resource)]
    let short : Entries Json := [("Effect", .str "Deny"), ("action", action),
      ("principal", principal), ("resource", resource)]
    ∃ statement other rendered,
      (compile .resourcePolicy context (.obj canonical)).outcome = .ok statement ∧
      (compile .resourcePolicy context (.obj short)).outcome = .ok other ∧
      statement.render.outcome = .ok rendered ∧ other.render.outcome = .ok rendered ∧
      (PrincipalEntry.resolve context "principal" principal).outcome =
        PrincipalEntry.ofLiterals "Principal" principal := by
  intro context action principal resource canonical short
  have hliteral (key : FieldKey) : LiteralField canonical key := by
    rintro (rfl | rfl) value hvalue
    · obtain rfl := Option.some.inj hvalue
      simp [Json.Literal, Json.entries, resource, Json.strings]
    · cases hvalue
  obtain ⟨statement, rendered, hstatement, hrendered⟩ : ∃ statement rendered,
      (compile .resourcePolicy context (.obj canonical)).outcome = .ok statement ∧
        statement.render.outcome = .ok rendered := ⟨_, _, rfl, rfl⟩
  obtain ⟨other, hother, hsame⟩ := (compile_respelled context).1 .resourcePolicy canonical statement
    [.action, .principal, .resource] (by decide) hstatement (by decide) fun key _ => hliteral key
  exact ⟨statement, other, rendered, hstatement, hother, hrendered, (hsame rendered).1 hrendered,
    (compile_respelled context).2 "Principal" "principal" principal _ rfl⟩

end

end AccessPolicy
