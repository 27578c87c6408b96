import AccessPolicy.Compile.KeyPolicy
import AccessPolicy.Proofs.Environment
import AccessPolicy.Proofs.Reference.Entries
import AccessPolicy.Proofs.Schema.Related
import AccessPolicy.Proofs.Statement.Trust

/-!
# Lists of permissions keep their effect

An entry of a list of refused or granted permissions compiles to what it would with the effect of
the list spelled out, and not at all if it spells another one out
(`compilePermissionDocument_effects`).
-/

namespace AccessPolicy

/-- Members with an effect in one spelling and none in the other. -/
def spellOut (effect : Effect) (name : String) (members : Entries Json) : Entries Json :=
  ((members.erase FieldKey.effect.shorthand).erase FieldKey.effect.canonical).put name
    (.str effect.tag)

def Contradicts (effect : Effect) (entry : Json) : Prop :=
  ∃ members : Entries Json, entry = .obj members ∧ ∃ name ∈ FieldKey.effect.spellings, ∃ value,
    members.find? name = some value ∧ value.isNull = false ∧ value ≠ .str effect.tag

/-- A statement is what an entry with a certain effect compiles to, and renders with that effect. -/
structure CompiledAs (kind : StatementKind) (context : Context) (effect : Effect) (entry : Json)
    (statement : Statement) : Prop where
  spelledOut : ∃ members, entry = .obj members ∧ ∀ name ∈ FieldKey.effect.spellings,
    (compile kind context (.obj (spellOut effect name members))).outcome = .ok statement
  effect : ∀ members, statement.render.outcome = .ok members →
    members.find? "Effect" = some (.str effect.tag)

-- ---------------------------------------------------------------------------
-- Entries with the effect of their list
-- ---------------------------------------------------------------------------

section
variable {effect : Effect} {members : Entries Json}

theorem isEffect_iff : isEffect effect value = true ↔ value = .str effect.tag := by
  cases value <;> simp [isEffect]

theorem effect_spellings :
    FieldKey.effect.spellings = [FieldKey.effect.shorthand, FieldKey.effect.canonical] := by
  decide

theorem mem_givenEffects : value ∈ givenEffects members ↔
    ∃ name ∈ FieldKey.effect.spellings, Schema.present? members name = some value := by
  rw [givenEffects, List.mem_filterMap, effect_spellings]

/-- Members that name the given effect and no other, in whatever spelling. -/
def Names (effect : Effect) (members : Entries Json) : Prop :=
  (∃ name ∈ FieldKey.effect.spellings, Schema.present? members name = some (.str effect.tag)) ∧
    ∀ value ∈ givenEffects members, value = .str effect.tag

/-- Members that differ only in how they name an effect. -/
def SameButEffect (members others : Entries Json) : Prop :=
  ∀ name ∉ FieldKey.effect.spellings, others.find? name = members.find? name

theorem names_put (h : givenEffects members = []) :
    Names effect (members.put FieldKey.effect.canonical (.str effect.tag)) := by
  have hpresent (name : String) :
      Schema.present? (members.put FieldKey.effect.canonical (.str effect.tag)) name =
        if FieldKey.effect.canonical = name then some (.str effect.tag)
        else Schema.present? members name := by
    rw [Schema.present?, Entries.find?_put]
    split <;> rfl
  refine ⟨⟨FieldKey.effect.canonical, by decide, (hpresent _).trans (if_pos rfl)⟩, ?_⟩
  intro value hvalue
  obtain ⟨name, hname, hfound⟩ := mem_givenEffects.1 hvalue
  rw [hpresent] at hfound
  split at hfound
  · exact (Option.some.inj hfound).symm
  · have hmem := mem_givenEffects.2 ⟨name, hname, hfound⟩
    rw [h] at hmem
    cases hmem

theorem names_of_given (hne : givenEffects members ≠ [])
    (h : ∀ value ∈ givenEffects members, value = .str effect.tag) : Names effect members := by
  obtain ⟨value, hvalue⟩ := List.exists_mem_of_ne_nil _ hne
  obtain ⟨name, hname, hfound⟩ := mem_givenEffects.1 hvalue
  exact ⟨⟨name, hname, h value hvalue ▸ hfound⟩, h⟩

theorem applyDefaultEffect_names (h : applyDefaultEffect effect raw = .ok prepared) :
    ∃ members others, raw = .obj members ∧ prepared = .obj others ∧
      (∀ value ∈ givenEffects members, value = .str effect.tag) ∧ Names effect others ∧
      SameButEffect members others := by
  obtain ⟨members, hmembers, hdefault⟩ := bind_ok.1 h
  obtain rfl : raw = .obj members := by
    cases raw <;> cases hmembers
    rfl
  split at hdefault
  · cases hdefault
  · next hnone =>
    have hgiven : ∀ value ∈ givenEffects members, value = .str effect.tag := by
      simpa [List.find?_eq_none, isEffect_iff] using hnone
    split at hdefault
    · next hempty =>
      obtain rfl := Except.ok.inj hdefault
      refine ⟨members, _, rfl, rfl, hgiven, names_put (List.isEmpty_iff.1 hempty), ?_⟩
      intro name hname
      have hne : FieldKey.effect.canonical ≠ name := fun heq => hname (heq ▸ by decide)
      rw [Entries.find?_put, if_neg hne]
    · next hnonempty =>
      obtain rfl := Except.ok.inj hdefault
      exact ⟨members, members, rfl, rfl, hgiven,
        names_of_given (mt List.isEmpty_iff.2 hnonempty) hgiven, fun _ _ => rfl⟩

theorem not_contradicts (h : ∀ value ∈ givenEffects members, value = .str effect.tag) :
    ¬Contradicts effect (.obj members) := by
  rintro ⟨_, heq, name, hname, value, hfound, hnull, hother⟩
  obtain rfl := Json.obj.inj heq
  refine hother (h value (mem_givenEffects.2 ⟨name, hname, ?_⟩))
  rw [Schema.present?, hfound, Option.filter_some, hnull]
  rfl

-- ---------------------------------------------------------------------------
-- Reading the effect
-- ---------------------------------------------------------------------------

def effectSpec : FieldSpec := ⟨.effect, .choice (Effect.all.map Effect.tag)⟩

theorem accept_effect (effect : Effect) (field : String) :
    effectSpec.kind.accept field (.str effect.tag) = .ok (.text effect.tag) := by
  cases effect <;> rfl

theorem fieldValue?_names (h : Names effect members)
    (hread : (Schema.fieldValue? context members effectSpec).outcome = .ok value) :
    value = some (.text effect.tag) := by
  obtain ⟨⟨name, hname, hfound⟩, hgiven⟩ := h
  unfold Schema.fieldValue? at hread
  dsimp only at hread
  -- by the spellings that are present: neither, the canonical one, the shorthand, both
  split at hread
  · next hshort hlong =>
    rw [effect_spellings, List.mem_pair] at hname
    rcases hname with rfl | rfl
    · cases hfound.symm.trans hshort
    · cases hfound.symm.trans hlong
  · next value _ hlong =>
    obtain rfl := hgiven value (mem_givenEffects.2 ⟨_, by decide, hlong⟩)
    rw [accept_effect] at hread
    exact (Except.ok.inj hread).symm
  · next value hshort _ =>
    obtain rfl := hgiven value (mem_givenEffects.2 ⟨_, by decide, hshort⟩)
    have hresolve : effectSpec.kind.resolve context effectSpec.key.shorthand (.str effect.tag) =
        liftM (effectSpec.kind.accept effectSpec.key.shorthand (.str effect.tag)) := rfl
    rw [hresolve, accept_effect] at hread
    exact (Except.ok.inj hread).symm
  · have hne : effectSpec.key.shorthand ≠ effectSpec.key.canonical := by decide
    rw [if_neg hne] at hread
    cases hread

theorem sameButEffect_spellOut (hname : name ∈ FieldKey.effect.spellings) :
    SameButEffect members (spellOut effect name members) := by
  intro other hother
  have hne {spelling : String} (h : spelling ∈ FieldKey.effect.spellings) : spelling ≠ other :=
    fun heq => hother (heq ▸ h)
  rw [spellOut, Entries.find?_put, if_neg (hne hname), Entries.find?_erase,
    if_neg (hne (by decide)), Entries.find?_erase, if_neg (hne (by decide))]

theorem present?_spellOut (hother : other ∈ FieldKey.effect.spellings) :
    Schema.present? (spellOut effect name members) other =
      if name = other then some (.str effect.tag) else none := by
  rw [Schema.present?, spellOut, Entries.find?_put, Entries.find?_erase, Entries.find?_erase]
  rw [effect_spellings, List.mem_pair] at hother
  split
  · rfl
  · rcases hother with rfl | rfl
    · rw [if_pos rfl, ite_self]
      rfl
    · rw [if_pos rfl]
      rfl

theorem fieldValue?_spellOut (hname : name ∈ FieldKey.effect.spellings) :
    (Schema.fieldValue? context (spellOut effect name members) effectSpec).outcome =
      .ok (some (.text effect.tag)) := by
  have hshort : Schema.present? (spellOut effect name members) FieldKey.effect.shorthand = _ :=
    present?_spellOut (by decide)
  have hlong : Schema.present? (spellOut effect name members) FieldKey.effect.canonical = _ :=
    present?_spellOut (by decide)
  have hne : FieldKey.effect.shorthand ≠ FieldKey.effect.canonical := by decide
  rw [effect_spellings, List.mem_pair] at hname
  rcases hname with rfl | rfl
  · exact Schema.fieldValue?_of_shorthand (hshort.trans (if_pos rfl)) (hlong.trans (if_neg hne))
      (accept_effect effect _)
  · exact Schema.fieldValue?_of_canonical (hshort.trans (if_neg hne.symm))
      (hlong.trans (if_pos rfl)) (accept_effect effect _)

end

-- ---------------------------------------------------------------------------
-- Statements with an effect
-- ---------------------------------------------------------------------------

section
variable {members others : Entries Json}

def NotEffect (spec : FieldSpec) : Prop :=
  spec.key.shorthand ∉ FieldKey.effect.spellings ∧ spec.key.canonical ∉ FieldKey.effect.spellings

instance (spec : FieldSpec) : Decidable (NotEffect spec) :=
  inferInstanceAs (Decidable (_ ∧ _))

theorem policy_fields (kind : StatementKind) (hkind : kind ≠ .grant) :
    ∀ spec ∈ kind.schema.fields, spec = effectSpec ∨ NotEffect spec := by
  have hpolicy : ∀ spec ∈ Schema.policy.fields, spec = effectSpec ∨ NotEffect spec := by
    have hfields : Schema.policy.fields =
        ⟨.sid, .text⟩ :: effectSpec :: Schema.policy.fields.drop 2 := rfl
    have hrest : ∀ spec ∈ Schema.policy.fields.drop 2, NotEffect spec := by decide
    rw [hfields, List.forall_mem_cons, List.forall_mem_cons]
    exact ⟨.inr (by decide), .inl rfl, fun spec hspec => .inr (hrest spec hspec)⟩
  have hresource : ∀ spec ∈ Schema.resourcePolicy.fields, spec = effectSpec ∨ NotEffect spec := by
    rw [resourcePolicy_fields, List.forall_mem_append]
    refine ⟨hpolicy, ?_⟩
    simp only [List.forall_mem_cons]
    exact ⟨.inr (by decide), .inr (by decide), List.forall_mem_nil _⟩
  cases kind with
  | permission => exact hpolicy
  | resourcePolicy | trust => exact hresource
  | grant => exact absurd rfl hkind

theorem objectionable_not_effect (kind : StatementKind) : ∀ name ∈ kind.schema.objectionable,
    name ∉ FieldKey.effect.spellings := by
  cases kind <;> decide

theorem compile_of_sameButEffect (hkind : kind ≠ .grant) (hsame : SameButEffect members others)
    (heffect : Schema.ReadsAs Eq context members others effectSpec)
    (h : (compile kind context (.obj members)).outcome = .ok statement) :
    (compile kind context (.obj others)).outcome = .ok statement := by
  refine compile_of_readsAs (fun name hname => ?_) (fun spec hspec => ?_) h
  · rw [Entries.has, Entries.has, hsame name (objectionable_not_effect kind name hname)]
  · rcases policy_fields kind hkind spec hspec with rfl | ⟨hshort, hlong⟩
    · exact heffect
    · have hpresent {name : String} (hname : name ∉ FieldKey.effect.spellings) :
          Schema.present? others name = Schema.present? members name := by
        rw [Schema.present?, Schema.present?, hsame name hname]
      exact Schema.readsAs_of_present?_eq (fun _ => rfl) (hpresent hshort) (hpresent hlong)

theorem effectSpec_mem (kind : StatementKind) (hkind : kind ≠ .grant) :
    effectSpec ∈ kind.schema.fields := by
  cases kind with
  | permission | resourcePolicy | trust => exact .tail _ (.head _)
  | grant => exact absurd rfl hkind

theorem effect_of_compile (hkind : kind ≠ .grant)
    (hread : ∀ value, (Schema.fieldValue? context members effectSpec).outcome = .ok value →
      value = some (.text effect.tag))
    (h : (compile kind context (.obj members)).outcome = .ok statement)
    (hbody : statement.body? = some body) : body.effect = some effect := by
  obtain ⟨fields, hdescribes, hfields⟩ := fields_of_compile h
  obtain ⟨value, hvalue, hget⟩ := hfields _ (effectSpec_mem kind hkind)
  obtain rfl := hread value hvalue
  have hmap : body.effect.map (fun effect => FieldValue.text effect.tag) =
      some (.text effect.tag) := (describes_body hdescribes hbody).effect.symm.trans hget
  obtain ⟨found, hfound, htag⟩ := Option.map_eq_some_iff.1 hmap
  rw [hfound, Effect.eq_of_tag_eq found effect (FieldValue.text.inj htag)]

theorem find?_effect_render {statement : Statement} (hkind : statement.kind ≠ .grant)
    (heffect : ∀ body, statement.body? = some body → body.effect = some effect)
    (hr : statement.render.outcome = .ok members) :
    members.find? "Effect" = some (.str effect.tag) := by
  cases statement with
  | permission body =>
    obtain rfl := Except.ok.inj hr
    refine (find?_render body).trans ?_
    show body.effect.map (fun effect => Json.str effect.tag) = _
    rw [heffect body rfl]
    rfl
  | resourcePolicy policy =>
    obtain ⟨⟨principal, notPrincipal⟩, -, hmembers⟩ := bind_ok.1 hr
    obtain rfl := Except.ok.inj hmembers
    refine (find?_renderWith policy principal notPrincipal).trans ?_
    show some (Json.str (policy.body.effect.getD .allow).tag) = _
    rw [heffect policy.body rfl]
    rfl
  | trust policy =>
    obtain ⟨principal, notPrincipal, -, rfl⟩ := renderTrust_ok.1 hr
    have hacted : (policy.acted principal notPrincipal).body.effect = policy.body.effect := by
      rw [PolicyStatement.acted]
      split <;> rfl
    refine (find?_renderWith _ principal notPrincipal).trans ?_
    show some (Json.str ((policy.acted principal notPrincipal).body.effect.getD .allow).tag) = _
    rw [hacted, heffect policy.body rfl]
    rfl
  | grant contents => exact absurd rfl hkind

theorem compiledAs_of_names (hkind : kind ≠ .grant) (hnames : Names effect others)
    (hsame : SameButEffect members others)
    (h : (compile kind context (.obj others)).outcome = .ok statement) :
    CompiledAs kind context effect (.obj members) statement := by
  have hread : ∀ value, (Schema.fieldValue? context others effectSpec).outcome = .ok value →
      value = some (.text effect.tag) := fun value => fieldValue?_names hnames
  refine ⟨⟨members, rfl, fun name hname => ?_⟩, fun rendered hr => ?_⟩
  · have hspelled : SameButEffect others (spellOut effect name members) := fun other hother =>
      (sameButEffect_spellOut hname other hother).trans (hsame other hother).symm
    refine compile_of_sameButEffect hkind hspelled (fun value hvalue => ?_) h
    obtain rfl := hread value hvalue
    exact ⟨_, fieldValue?_spellOut hname, .some rfl⟩
  · have hgrant : statement.kind ≠ .grant := (compile_admissible h).1 ▸ hkind
    exact find?_effect_render hgrant (fun body => effect_of_compile hkind hread h) hr

end

-- ---------------------------------------------------------------------------
-- The three lists
-- ---------------------------------------------------------------------------

def CompilesWith (kind : StatementKind) (context : Context) (effect : Effect) (entry : Json)
    (statement : Statement) : Prop :=
  ∃ prepared, applyDefaultEffect effect entry = .ok prepared ∧
    (compile kind context prepared).outcome = .ok statement

section
variable {permission deny allow : List Json}

theorem compilePermissionDocument_ok :
    (compilePermissionDocument kind context permission deny allow).outcome = .ok document ↔
      ∃ plain denied allowed, document.statements = plain ++ denied ++ allowed ∧
        List.Forall₂ (fun raw statement => (compile kind context raw).outcome = .ok statement)
          permission plain ∧
        List.Forall₂ (CompilesWith kind context .deny) deny denied ∧
        List.Forall₂ (CompilesWith kind context .allow) allow allowed := by
  simp only [compilePermissionDocument, compileEntries, Traced.outcome_bind, Traced.outcome_pure,
    bind_ok, Traced.each_ok, Traced.outcome_lift, Except.ok.injEq, forall₂_append_left_iff,
    List.forall₂_map_left_iff]
  constructor
  · rintro ⟨_, ⟨_, allowed, rfl, ⟨plain, denied, rfl, hplain, hdenied⟩, hallowed⟩, rfl⟩
    refine ⟨plain, denied, allowed, rfl, hplain.imp ?_, hdenied, hallowed⟩
    rintro raw statement ⟨_, rfl, h⟩
    exact h
  · rintro ⟨plain, denied, allowed, hstatements, hplain, hdenied, hallowed⟩
    refine ⟨_, ⟨_, allowed, rfl, ⟨plain, denied, rfl, hplain.imp ?_, hdenied⟩, hallowed⟩, ?_⟩
    · exact fun raw statement h => ⟨raw, rfl, h⟩
    · rw [← hstatements]

theorem compiledAs_of_compilesWith (hkind : kind ≠ .grant)
    (h : CompilesWith kind context effect entry statement) :
    CompiledAs kind context effect entry statement := by
  obtain ⟨_, hprepared, hcompile⟩ := h
  obtain ⟨members, others, rfl, rfl, -, hnames, hsame⟩ := applyDefaultEffect_names hprepared
  exact compiledAs_of_names hkind hnames hsame hcompile

theorem not_contradicts_of_compilesWith
    (h : List.Forall₂ (CompilesWith kind context effect) entries statements) :
    ∀ entry ∈ entries, ¬Contradicts effect entry := by
  induction h with
  | nil => exact List.forall_mem_nil _
  | cons hentry _ ih =>
    obtain ⟨_, hprepared, -⟩ := hentry
    obtain ⟨members, _, rfl, -, hgiven, -⟩ := applyDefaultEffect_names hprepared
    exact List.forall_mem_cons.2 ⟨not_contradicts hgiven, ih⟩

/-- A document of permissions has a statement for each entry. Those of the refused and the granted
entries are what the entries compile to with the effect of their list spelled out, and render with
it. An entry that names another effect makes the work fail. -/
theorem compilePermissionDocument_effects (hkind : kind ≠ .grant) (context : Context)
    (permission deny allow : List Json) :
    (∀ document,
      (compilePermissionDocument kind context permission deny allow).outcome = .ok document →
      document.statements.length = permission.length + deny.length + allow.length ∧
      ∃ plain denied allowed, document.statements = plain ++ denied ++ allowed ∧
        List.Forall₂ (fun raw statement => (compile kind context raw).outcome = .ok statement)
          permission plain ∧
        List.Forall₂ (CompiledAs kind context .deny) deny denied ∧
        List.Forall₂ (CompiledAs kind context .allow) allow allowed) ∧
    ((∃ entry ∈ deny, Contradicts .deny entry) ∨ (∃ entry ∈ allow, Contradicts .allow entry) →
      ∃ error,
        (compilePermissionDocument kind context permission deny allow).outcome = .error error) := by
  constructor
  · intro document h
    obtain ⟨plain, denied, allowed, hstatements, hplain, hdenied, hallowed⟩ :=
      compilePermissionDocument_ok.1 h
    constructor
    · rw [hstatements, List.length_append, List.length_append, hplain.length_eq,
        hdenied.length_eq, hallowed.length_eq]
    · exact ⟨plain, denied, allowed, hstatements, hplain,
        hdenied.imp fun _ _ => compiledAs_of_compilesWith hkind,
        hallowed.imp fun _ _ => compiledAs_of_compilesWith hkind⟩
  · intro hcontradicts
    cases houtcome : (compilePermissionDocument kind context permission deny allow).outcome with
    | error error => exact ⟨error, rfl⟩
    | ok document =>
      obtain ⟨_, _, _, -, -, hdenied, hallowed⟩ := compilePermissionDocument_ok.1 houtcome
      rcases hcontradicts with ⟨entry, hentry, hother⟩ | ⟨entry, hentry, hother⟩
      · exact absurd hother (not_contradicts_of_compilesWith hdenied entry hentry)
      · exact absurd hother (not_contradicts_of_compilesWith hallowed entry hentry)

/-- A refused entry that spells its effect out, with nothing under the shorthand, and a granted one
that does not. Granted by mistake, the former is not compiled. -/
theorem compilePermissionDocument_effects_denied :
    let context : Context := .app
    let denied : Json := .obj [("Effect", .str "Deny"), ("action", .str "s3:*"), ("effect", .null),
      ("resource", .obj [("s3", .str "backup")])]
    let granted : Json := .obj [("action", .str "s3:GetObject"), ("resource", .str "*")]
    (∃ document,
      (compilePermissionDocument .permission context [] [denied] [granted]).outcome =
        .ok document ∧ ∃ first second, document.statements = [first, second] ∧
      CompiledAs .permission context .deny denied first ∧
      CompiledAs .permission context .allow granted second) ∧
    ∃ error, (compilePermissionDocument .permission context [] [] [denied]).outcome =
      .error error := by
  intro context denied granted
  constructor
  · let backup := ["arn:aws:s3:::backup", "arn:aws:s3:::backup/*"]
    have harns : ((FieldKind.resources none).resolve context "resource"
        (.obj [("s3", .str "backup")])).outcome = .ok (.list backup) :=
      FieldKind.resolve_resources_of_parts (.cons rfl .nil)
        (eq_ascending_iff.2 ⟨.refl _, by decide⟩)
    have hall : ((FieldKind.resources none).resolve context "resource" (.str "*")).outcome =
        .ok (.list ["*"]) :=
      FieldKind.resolve_resources_of_parts (.cons rfl .nil) (ascending_singleton _).symm
    have hdeny : Schema.permission.Values context
        [("Effect", .str "Deny"), ("action", .str "s3:*"), ("effect", .null),
          ("resource", .obj [("s3", .str "backup")])]
        [none, some (.text "Deny"), some (.list ["s3:*"]), none, some (.list backup), none, none,
          none] :=
      .cons rfl <| .cons rfl <| .cons rfl <| .cons rfl <|
      .cons (Schema.fieldValue?_of_shorthand rfl rfl harns) <|
      .cons rfl <| .cons rfl <| .cons rfl .nil
    have hallow : Schema.permission.Values context
        [("Effect", .str "Allow"), ("action", .str "s3:GetObject"), ("resource", .str "*")]
        [none, some (.text "Allow"), some (.list ["s3:GetObject"]), none, some (.list ["*"]), none,
          none, none] :=
      .cons rfl <| .cons rfl <| .cons rfl <| .cons rfl <|
      .cons (Schema.fieldValue?_of_shorthand rfl rfl hall) <|
      .cons rfl <| .cons rfl <| .cons rfl .nil
    obtain ⟨document, hdocument⟩ : ∃ document,
        (compilePermissionDocument .permission context [] [denied] [granted]).outcome =
          .ok document := by
      have hdenied : CompilesWith .permission context .deny denied _ :=
        ⟨_, rfl, compile_of_resolve hdeny.outcome_resolve rfl⟩
      have hallowed : CompilesWith .permission context .allow granted _ :=
        ⟨_, rfl, compile_of_resolve hallow.outcome_resolve rfl⟩
      exact ⟨⟨_⟩, compilePermissionDocument_ok.2
        ⟨_, _, _, rfl, .nil, .cons hdenied .nil, .cons hallowed .nil⟩⟩
    obtain ⟨-, _, _, _, hstatements, ⟨⟩, hdenied, hallowed⟩ :=
      (compilePermissionDocument_effects (by decide) context _ _ _).1 document hdocument
    obtain ⟨first, _, hfirst, ⟨⟩, rfl⟩ := List.forall₂_cons_left_iff.1 hdenied
    obtain ⟨second, _, hsecond, ⟨⟩, rfl⟩ := List.forall₂_cons_left_iff.1 hallowed
    exact ⟨document, hdocument, first, second, hstatements, hfirst, hsecond⟩
  · have hcontradicts : Contradicts .allow denied :=
      ⟨_, rfl, "Effect", by decide, .str "Deny", rfl, rfl, by simp [Effect.tag]⟩
    exact (compilePermissionDocument_effects (by decide) context _ _ _).2
      (.inr ⟨denied, List.mem_singleton_self _, hcontradicts⟩)

end

end AccessPolicy
