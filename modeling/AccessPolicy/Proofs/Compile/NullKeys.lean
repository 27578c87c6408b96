import AccessPolicy.Proofs.Compile.BarePrincipal
import AccessPolicy.Proofs.Document.Text

/-!
# Nulls in lists of trusted principals

A null counts as no value in a statement, but whether an entry of a trust policy is a statement at
all is seen in its keys. `trustOutputs_null_iff` says when a null under a further key leaves the
policy as it is.
-/

namespace AccessPolicy

def entryOutcome (context : Context) (side : PrincipalSide) (entry : Json) :
    Except PolicyError (Entries Json) := do
  let raw ← wrapTrustPrincipal side entry
  let statement ← (compile .trust context raw).outcome
  statement.render.outcome

def Refused (context : Context) (side : PrincipalSide) (entry : Json) : Prop :=
  ∃ error, entryOutcome context side entry = .error error

def trustEntries (allow disallow : List Json) : List (PrincipalSide × Json) :=
  allow.map (fun entry => (.principal, entry)) ++ disallow.map fun entry => (.notPrincipal, entry)

def trustOutputs (context : Context) (allow disallow : List Json) :
    Except PolicyError (Option String × Option Json) := do
  let document ← (compileTrustDocument context allow disallow).outcome
  let text ← document.render.outcome
  let value ← document.toJson.outcome
  pure (text, value)

def ResolvesToNobody (context : Context) (side : PrincipalSide) (members : Entries Json) : Prop :=
  ∃ principal, (PrincipalEntry.resolveMapping context side.key.shorthand members).outcome =
    .ok principal ∧ principal.isEmpty = true

/-- Neither principals nor a statement. -/
def Meaningless (context : Context) (side : PrincipalSide) (members : Entries Json) : Prop :=
  (∃ error, (PrincipalEntry.resolveMapping context side.key.shorthand members).outcome =
    .error error) ∧ ∃ error, (compile .trust context (.obj members)).outcome = .error error

/-- A null under a key of its own side does not change an entry that mentions a side already, or
that comes to nothing either way. One under a key of the opposite side must not stand in an entry
that is not refused anyway. -/
def NullHarmless (context : Context) (side : PrincipalSide) (members : Entries Json)
    (name : String) : Prop :=
  name ∈ side.key.spellings ∧ (Mentions side members ∨ Mentions side.opposite members ∨
    ResolvesToNobody context side members ∨ Meaningless context side members) ∨
  name ∈ side.opposite.key.spellings ∧ Refused context side (.obj members)

-- ---------------------------------------------------------------------------
-- Entries with a null
-- ---------------------------------------------------------------------------

section
variable {side : PrincipalSide} {members rendered : Entries Json} {name : String}

theorem entryOutcome_ok : entryOutcome context side entry = .ok rendered ↔
    ∃ raw, StandsFor side entry raw ∧ ∃ statement,
      (compile .trust context raw).outcome = .ok statement ∧
        statement.render.outcome = .ok rendered := by
  simp only [entryOutcome, bind_ok, wrapTrustPrincipal_ok]

theorem refused_iff : Refused context side entry ↔
    ∀ rendered, entryOutcome context side entry ≠ .ok rendered := by
  rw [Refused]
  cases entryOutcome context side entry <;> simp

theorem present?_put_null (h : members.has name = false) (key : String) :
    Schema.present? (members.put name .null) key = Schema.present? members key := by
  rw [Schema.present?, Schema.present?, Entries.find?_put]
  split
  · next heq =>
    rw [← heq, Entries.has_eq_false_iff.1 h]
    rfl
  · rfl

theorem compile_put_null (h : members.has name = false) :
    (compile .trust context (.obj (members.put name .null))).outcome = .ok statement ↔
      (compile .trust context (.obj members)).outcome = .ok statement := by
  have hpresent := present?_put_null h
  constructor
  · exact compile_of_readsAs (List.forall_mem_nil _) fun spec _ =>
      Schema.readsAs_of_present?_eq (fun _ => rfl) (hpresent _).symm (hpresent _).symm
  · exact compile_of_readsAs (List.forall_mem_nil _) fun spec _ =>
      Schema.readsAs_of_present?_eq (fun _ => rfl) (hpresent _) (hpresent _)

theorem mentions_put (side : PrincipalSide) (members : Entries Json) (name : String)
    (value : Json) : Mentions side (members.put name value) ↔
      name ∈ side.key.spellings ∨ Mentions side members := by
  have hhas (key : String) :
      (members.put name value).has key = true ↔ name = key ∨ members.has key = true := by
    rw [Entries.has, Entries.find?_put, Entries.has]
    split <;> simp [*]
  simp only [Mentions, hhas]
  constructor
  · rintro ⟨key, hkey, rfl | hkeyed⟩
    · exact .inl hkey
    · exact .inr ⟨key, hkey, hkeyed⟩
  · rintro (hname | ⟨key, hkey, hkeyed⟩)
    · exact ⟨name, hname, .inl rfl⟩
    · exact ⟨key, hkey, .inr hkeyed⟩

theorem refused_of_mentions (context : Context) (h : Mentions side.opposite members) :
    Refused context side (.obj members) := by
  refine refused_iff.2 fun rendered hr => ?_
  obtain ⟨_, hstands, -⟩ := entryOutcome_ok.1 hr
  cases hstands with
  | statement hopposite => exact hopposite h
  | bare hopposite => exact hopposite h

theorem entryOutcome_of_mentions (context : Context) (hopposite : ¬Mentions side.opposite members)
    (hown : Mentions side members) (rendered : Entries Json) :
    entryOutcome context side (.obj members) = .ok rendered ↔
      ∃ statement, (compile .trust context (.obj members)).outcome = .ok statement ∧
        statement.render.outcome = .ok rendered := by
  rw [entryOutcome_ok]
  constructor
  · rintro ⟨_, hstands, h⟩
    cases hstands with
    | statement => exact h
    | bare _ hunnamed => exact absurd hown hunnamed
  · exact fun h => ⟨_, .statement hopposite hown, h⟩

theorem entryOutcome_of_bare (context : Context) (hopposite : ¬Mentions side.opposite members)
    (hunnamed : ¬Mentions side members) (rendered : Entries Json) :
    entryOutcome context side (.obj members) = .ok rendered ↔
      ∃ principal, (PrincipalEntry.resolveMapping context side.key.shorthand members).outcome =
          .ok principal ∧
        (PolicyStatement.naming [.mapping principal] side).renderTrust.outcome = .ok rendered := by
  rw [entryOutcome_ok]
  constructor
  · rintro ⟨_, hstands, statement, hcompile, hr⟩
    cases hstands with
    | statement _ hown => exact absurd hown hunnamed
    | bare =>
      obtain ⟨principal, hprincipal, rfl⟩ := compile_bare_ok.1 hcompile
      exact ⟨principal, hprincipal, hr⟩
  · rintro ⟨principal, hprincipal, hr⟩
    exact ⟨_, .bare hopposite hunnamed, _, compile_bare_ok.2 ⟨principal, hprincipal, rfl⟩, hr⟩

theorem exists_render_of_unnamed
    (h : (compile .trust context (.obj members)).outcome = .ok statement)
    (hunnamed : ∀ side, ¬Mentions side members) :
    ∃ rendered, statement.render.outcome = .ok rendered := by
  obtain ⟨policy, rfl⟩ := trust_of_compile h
  have hnobody (side : PrincipalSide) :
      PrincipalEntry.merge (policy.named side) = .ok none := by
    rw [named_of_not_mentions h rfl (hunnamed side)]
    rfl
  exact ⟨_, renderTrust_ok.2 ⟨none, none, merged_of_named hnobody, rfl⟩⟩

/-- With a null under its own side, an entry is a statement that names nobody. -/
theorem bare_put_null_iff (hopposite : ¬Mentions side.opposite members)
    (hunnamed : ¬Mentions side members)
    (hput : ∀ rendered, entryOutcome context side (.obj (members.put name .null)) = .ok rendered ↔
      ∃ statement, (compile .trust context (.obj members)).outcome = .ok statement ∧
        statement.render.outcome = .ok rendered) :
    (∀ rendered, entryOutcome context side (.obj (members.put name .null)) = .ok rendered ↔
      entryOutcome context side (.obj members) = .ok rendered) ↔
    ResolvesToNobody context side members ∨ Meaningless context side members := by
  simp only [hput, entryOutcome_of_bare _ hopposite hunnamed, ResolvesToNobody, Meaningless]
  cases hresolve : (PrincipalEntry.resolveMapping context side.key.shorthand members).outcome with
  | ok principal =>
    obtain ⟨-, -, buckets, rfl⟩ := PrincipalEntry.resolveMapping_ok hresolve
    obtain ⟨shown, hshown, hblank⟩ := renderTrust_naming buckets side
    have hnobody : (Statement.trust (.naming [] side)).render.outcome = .ok blankMembers :=
      renderTrust_nobody rfl side
    simp only [compile_of_resolveMapping side hresolve, Except.ok.injEq, exists_eq_left', hnobody,
      hshown, reduceCtorEq, exists_false, false_and, or_false, ← hblank]
    constructor
    · exact fun h => ((h blankMembers).1 rfl)
    · exact fun h rendered => by rw [h]
  | error error =>
    simp only [reduceCtorEq, false_and, exists_false, iff_false, Except.error.injEq, exists_eq',
      true_and, false_or]
    cases hcompile : (compile .trust context (.obj members)).outcome with
    | error _ => simp
    | ok statement =>
      have hneither (other : PrincipalSide) : ¬Mentions other members := by
        cases side <;> cases other <;> assumption
      obtain ⟨rendered, hr⟩ := exists_render_of_unnamed hcompile hneither
      simp only [Except.ok.injEq, exists_eq_left', reduceCtorEq, exists_false, iff_false]
      exact fun h => h rendered hr

theorem spelling_cases (side : PrincipalSide)
    (h : name ∈ ["principal", "Principal", "notprincipal", "NotPrincipal"]) :
    name ∈ side.key.spellings ∧ name ∉ side.opposite.key.spellings ∨
      name ∈ side.opposite.key.spellings ∧ name ∉ side.key.spellings := by
  revert name
  cases side <;> decide

/-- A null makes a statement of an entry that was the principals alone, and a refused entry of one
that was not refused. -/
theorem entryOutcome_put_null_iff (context : Context)
    (hname : name ∈ ["principal", "Principal", "notprincipal", "NotPrincipal"])
    (habsent : members.has name = false) :
    (∀ rendered, entryOutcome context side (.obj (members.put name .null)) = .ok rendered ↔
      entryOutcome context side (.obj members) = .ok rendered) ↔
    NullHarmless context side members name := by
  have hput (other : PrincipalSide) := mentions_put other members name .null
  rcases spelling_cases side hname with ⟨hown, hother⟩ | ⟨hother, hown⟩
  · simp only [NullHarmless, hown, hother, true_and, false_and, or_false]
    by_cases hopposite : Mentions side.opposite members
    · have hrefused := refused_iff.1 (refused_of_mentions context hopposite)
      have hnull := (hput side.opposite).2 (.inr hopposite)
      simp [hopposite, hrefused, refused_iff.1 (refused_of_mentions context hnull)]
    · have hnull : ¬Mentions side.opposite (members.put name .null) := by
        simp [hput, hother, hopposite]
      have hstatement := entryOutcome_of_mentions context hnull ((hput side).2 (.inl hown))
      simp only [compile_put_null habsent] at hstatement
      by_cases hmentions : Mentions side members
      · simp [hmentions, hstatement, entryOutcome_of_mentions context hopposite hmentions]
      · simp only [hmentions, hopposite, false_or]
        exact bare_put_null_iff hopposite hmentions hstatement
  · have hnull := refused_of_mentions context ((hput side.opposite).2 (.inl hother))
    simp [NullHarmless, hown, hother, refused_iff, refused_iff.1 hnull]

end

-- ---------------------------------------------------------------------------
-- Whole policies
-- ---------------------------------------------------------------------------

section
variable {allow disallow trusted exempted : List Json} {rendered : List (Entries Json)}

def outputsOf : List (Entries Json) → Option String × Option Json
  | [] => (none, none)
  | rendered =>
    let values := rendered.map .obj
    (some (Json.obj (Document.envelope values)).pretty,
      some (Json.ofMembers (Document.envelope values)))

theorem outputsOf_injective : Function.Injective outputsOf := by
  have hobj : Function.Injective Json.obj := fun _ _ => Json.obj.inj
  intro rendered others h
  cases rendered with
  | nil => cases others <;> simp_all [outputsOf]
  | cons first rest =>
    cases others with
    | nil => simp [outputsOf] at h
    | cons other later =>
      have hvalues := (Prod.mk.inj h).2
      simp only [Json.ofMembers, Document.envelope_ordered, Option.some.injEq, Json.obj.injEq,
        List.cons.injEq, Prod.mk.injEq, true_and, and_true, Json.arr.injEq] at hvalues
      exact hobj.list_map hvalues

theorem compileTrustDocument_entries :
    (compileTrustDocument context allow disallow).outcome = .ok document ↔
      List.Forall₂ (fun entry statement => ∃ raw, StandsFor entry.1 entry.2 raw ∧
        (compile .trust context raw).outcome = .ok statement) (trustEntries allow disallow)
        document.statements := by
  have hentries : allow.map (wrapTrustPrincipal .principal) ++
      disallow.map (wrapTrustPrincipal .notPrincipal) =
        (trustEntries allow disallow).map fun entry => wrapTrustPrincipal entry.1 entry.2 := by
    simp [trustEntries, Function.comp_def]
  simp only [compileTrustDocument, hentries, compileEntries, Traced.outcome_bind,
    Traced.outcome_pure, bind_ok, Traced.each_ok, Traced.outcome_lift, Except.ok.injEq,
    List.forall₂_map_left_iff, wrapTrustPrincipal_ok]
  constructor
  · rintro ⟨_, h, rfl⟩
    exact h
  · exact fun h => ⟨_, h, rfl⟩

theorem outputs_ok (document : Document) : (∃ text, document.render.outcome = .ok text ∧
      ∃ value, document.toJson.outcome = .ok value ∧ (text, value) = outputs) ↔
    ∃ rendered, Document.Renders document.statements rendered ∧ outputsOf rendered = outputs := by
  by_cases hnil : document.statements = []
  · obtain ⟨htext, hvalue⟩ := Document.outputs_of_nil hnil
    simp [htext, hvalue, hnil, Document.Renders, outputsOf]
  · obtain ⟨htext, hvalue⟩ := Document.outputs_of_ne_nil hnil
    have hnonempty {rendered : List (Entries Json)} :
        Document.Renders document.statements rendered → outputsOf rendered =
          (some (Json.obj (Document.envelope (rendered.map .obj))).pretty,
            some (Json.ofMembers (Document.envelope (rendered.map .obj)))) := by
      intro hr
      cases rendered with
      | nil => exact absurd (List.forall₂_nil_right_iff.1 hr) hnil
      | cons => rfl
    simp only [htext, hvalue, map_ok, Document.rendered_ok]
    constructor
    · rintro ⟨_, ⟨_, ⟨rendered, hr, rfl⟩, rfl⟩, _, ⟨_, ⟨others, hothers, rfl⟩, rfl⟩, rfl⟩
      obtain rfl : rendered = others :=
        List.right_unique_forall₂' (fun _ _ _ ha hb => Except.ok.inj (ha.symm.trans hb)) hr hothers
      exact ⟨rendered, hr, hnonempty hr⟩
    · rintro ⟨rendered, hr, rfl⟩
      exact ⟨_, ⟨_, ⟨rendered, hr, rfl⟩, rfl⟩, _, ⟨_, ⟨rendered, hr, rfl⟩, rfl⟩,
        (hnonempty hr).symm⟩

theorem trustOutputs_ok : trustOutputs context allow disallow = .ok outputs ↔
    ∃ rendered, List.Forall₂ (fun entry members => entryOutcome context entry.1 entry.2 =
      .ok members) (trustEntries allow disallow) rendered ∧ outputsOf rendered = outputs := by
  simp only [trustOutputs, bind_ok, pure_ok, outputs_ok, compileTrustDocument_entries,
    entryOutcome_ok]
  constructor
  · rintro ⟨document, hcompiled, rendered, hrendered, houtputs⟩
    refine ⟨rendered, (forall₂_comp_iff.1 ⟨_, hcompiled, hrendered⟩).imp ?_, houtputs⟩
    rintro entry members ⟨statement, ⟨raw, hstands, hcompile⟩, hr⟩
    exact ⟨raw, hstands, statement, hcompile, hr⟩
  · rintro ⟨rendered, hentries, houtputs⟩
    obtain ⟨statements, hcompiled, hrendered⟩ := forall₂_comp_iff.2 <| hentries.imp <| by
      rintro entry members ⟨raw, hstands, statement, hcompile, hr⟩
      exact (⟨statement, ⟨raw, hstands, hcompile⟩, hr⟩ : ∃ statement : Statement,
        (∃ raw, StandsFor entry.1 entry.2 raw ∧
          (compile .trust context raw).outcome = .ok statement) ∧
          statement.render.outcome = .ok members)
    exact ⟨⟨statements⟩, hcompiled, rendered, hrendered, houtputs⟩

/-- A null under a further key of principals leaves a trust policy as it is just if it does no harm
to the entry that it is put into, or if the policy is refused for another entry. -/
theorem trustOutputs_null_iff (context : Context)
    (before after : List (PrincipalSide × Json)) {side : PrincipalSide} {members : Entries Json}
    {name : String} (hname : name ∈ ["principal", "Principal", "notprincipal", "NotPrincipal"])
    (habsent : members.has name = false)
    (hentries : trustEntries allow disallow = before ++ (side, .obj members) :: after)
    (hnull : trustEntries trusted exempted =
      before ++ (side, .obj (members.put name .null)) :: after) :
    (∀ outputs, trustOutputs context trusted exempted = .ok outputs ↔
      trustOutputs context allow disallow = .ok outputs) ↔
    NullHarmless context side members name ∨
      ∃ entry ∈ before ++ after, Refused context entry.1 entry.2 := by
  have houtputs {P Q : List (Entries Json) → Prop} :
      (∀ outputs, (∃ rendered, P rendered ∧ outputsOf rendered = outputs) ↔
        ∃ rendered, Q rendered ∧ outputsOf rendered = outputs) ↔
      ∀ rendered, P rendered ↔ Q rendered := by
    refine ⟨fun h rendered => ?_, fun h outputs => by simp only [h]⟩
    simpa [outputsOf_injective.eq_iff] using h (outputsOf rendered)
  simp only [trustOutputs_ok, hentries, hnull, houtputs, forall₂_between_iff,
    entryOutcome_put_null_iff context hname habsent, refused_iff, ne_eq]

/-- A statement that names its principals already, beside an entry of the other list. -/
theorem trustOutputs_null_iff_named :
    let context : Context := .app
    let members : Entries Json := [("Principal", .str "*"), ("action", .str "sts:TagSession")]
    let exempted : Json := .obj [("iam", .str "root")]
    members.has "principal" = false ∧ ∀ outputs,
      trustOutputs context [.obj (members.put "principal" .null)] [exempted] = .ok outputs ↔
        trustOutputs context [.obj members] [exempted] = .ok outputs := by
  intro context members exempted
  have habsent : members.has "principal" = false := by decide
  have hmentions : Mentions .principal members := ⟨"Principal", by decide, rfl⟩
  have hharmless : NullHarmless context .principal members "principal" :=
    .inl ⟨by decide, .inl hmentions⟩
  exact ⟨habsent, (trustOutputs_null_iff context [] [(.notPrincipal, exempted)] (by decide) habsent
    rfl rfl).2 (.inl hharmless)⟩

/-- With a null under the key of its side a bare principal is lost, and with one under the opposite
key the policy is refused. -/
theorem trustOutputs_null_lost :
    let context : Context := .app
    let members : Entries Json := [("iam", .str "root")]
    let document (statement : Entries Json) : Json :=
      .obj [("Statement", .arr [.obj statement]), ("Version", .str policyVersion)]
    (∃ text, trustOutputs context [.obj members] [] = .ok (some text,
      some (document [("Action", .str "sts:AssumeRole"), ("Effect", .str "Allow"),
        ("Principal", .obj [("AWS", .str "arn:aws:iam::123456789012:root")]),
        ("Sid", .str "")]))) ∧
    (∃ text, trustOutputs context [.obj (members.put "principal" .null)] [] = .ok (some text,
      some (document [("Effect", .str "Allow"), ("Sid", .str "")]))) ∧
    ∃ error, trustOutputs context [.obj (members.put "NotPrincipal" .null)] [] = .error error :=
  ⟨⟨_, rfl⟩, ⟨_, rfl⟩, _, rfl⟩

end

end AccessPolicy
