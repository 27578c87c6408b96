import AccessPolicy.Proofs.Diff.Verdict
import AccessPolicy.Proofs.Statement.Rendered
import AccessPolicy.Proofs.Statement.Shapes

/-!
# The value of a document is in normal form

The two rules by which lists are sorted agree on what is rendered, so a comparison of documents is
one of their values (`diff_rendered_iff`).
-/

namespace AccessPolicy

-- ---------------------------------------------------------------------------
-- Members in canonical form
-- ---------------------------------------------------------------------------

theorem sortList_canonical {value : Json} (h : CanonicalList value) :
    Json.sortList value = value := by
  rcases h with ⟨text, rfl⟩ | ⟨texts, rfl, -, hsorted⟩
  · rfl
  · exact congrArg Json.arr (Json.sortItems_strings (.refl _) hsorted)

theorem normalPrincipal_canonical {value : Json} (h : CanonicalPrincipal value) :
    Json.normalPrincipal value = value := by
  rcases h with ⟨text, rfl⟩ | ⟨buckets, rfl, -, hbuckets⟩
  · rfl
  · exact congrArg Json.obj (Json.foldl_adjust_eq_self fun bucket hbucket _ =>
      sortList_canonical (hbuckets bucket hbucket).2)

theorem sortList_collapsed {texts : List String} (h : Collapsed texts (some value)) :
    Json.sortList value = value := by
  match texts with
  | [] => cases h
  | [text] =>
    cases h
    rfl
  | first :: second :: rest =>
    obtain ⟨sorted, heq, -, hsorted⟩ := h
    cases heq
    exact congrArg Json.arr (Json.sortItems_strings (.refl _) hsorted)

theorem unorderedKeys_collapsed (statement : Statement) :
    ∀ key ∈ Json.unorderedKeys, ∃ texts, (key, texts) ∈ statement.collapsedLists := by
  simp only [Json.unorderedKeys, List.forall_mem_cons]
  cases statement <;> simp [Statement.collapsedLists, PolicyBody.lists]

theorem normal_of_shaped {statement : Statement} {members : Entries Json}
    (h : statement.ShapedIn members) : (Json.obj members).normal = .obj members := by
  have hfind {member : String × Json} (hmember : member ∈ members) :
      members.find? member.1 = some member.2 := h.ascending.distinct.find?_of_mem hmember
  rw [Json.normal_statement h.plain, Json.normalStatement_eq_self]
  · intro member hmember hkey
    exact normalPrincipal_canonical (h.principals _ hkey _ (hfind hmember))
  · intro member hmember hkey
    obtain ⟨texts, htexts⟩ := unorderedKeys_collapsed statement _ hkey
    rcases h.collapsed _ htexts with ⟨haction, hdefault⟩ | hcollapsed
    · obtain ⟨action, -, hgiven⟩ := h.given hdefault
      rw [← haction, hfind hmember] at hgiven
      rw [Option.some.inj hgiven]
      rfl
    · exact sortList_collapsed (hfind hmember ▸ hcollapsed)

-- ---------------------------------------------------------------------------
-- Documents
-- ---------------------------------------------------------------------------

theorem normal_renders {statements : List Statement} {rendered : List (Entries Json)}
    (h : Document.Renders statements rendered) :
    (rendered.map Json.obj).map Json.normal = rendered.map Json.obj := by
  induction h with
  | nil => rfl
  | cons hstatement _ ih =>
    simp only [List.map_cons, ih, normal_of_shaped (shaped_of_render hstatement)]

theorem normal_toJson {document : Document} (h : document.toJson.outcome = .ok (some value)) :
    value.normal = value := by
  obtain ⟨-, rendered, hrendered, rfl⟩ := Document.toJson_ok.1 h
  rw [Json.ofMembers, Document.envelope_ordered, Json.normal_document rfl]
  simp [Json.adjust, Json.normal, Json.normalItems_eq, normal_renders hrendered]

/-- Whatever statements are put together, what they render to has their shapes and is left as it is
by sorting. Two documents have no difference just if their values are equal. -/
theorem diff_rendered_iff :
    (∀ (statement : Statement) members, statement.render.outcome = .ok members →
      statement.ShapedIn members) ∧
    (∀ (document : Document) value, document.toJson.outcome = .ok (some value) →
      value.normal = value) ∧
    ∀ (current new : Document) a b, current.toJson.outcome = .ok (some a) →
      new.toJson.outcome = .ok (some b) →
      ((diff (.value a) (.value b)).outcome = .ok [] ↔ a.same b = true) := by
  refine ⟨fun _ _ => shaped_of_render, fun _ _ => normal_toJson, ?_⟩
  intro current new a b ha hb
  have hcases := diffValues_cases a b
  rw [normal_toJson ha, normal_toJson hb] at hcases
  rw [diff_of_read rfl rfl, Except.ok.injEq]
  rcases hcases with ⟨hsame, hnil⟩ | ⟨hdiffer, line, lines, hlines⟩
  · exact iff_of_true hnil hsame
  · simp [hlines, hdiffer, diffHeader]

/-- Principals with unsorted and empty buckets, a given action, and a grant; then the same with the
lists in another order. -/
theorem diff_rendered_iff_reordered :
    let trust (aws : List String) : Statement :=
      .trust ⟨⟨none, none, [], [], [], [], none, none⟩,
        [.mapping ⟨some (.many aws), some (.many []), none⟩, .mapping ⟨none, none, none⟩], []⟩
    let grant (operations : List String) : Statement :=
      .grant ⟨["role/app"], [], operations, none, ["token"]⟩
    let current : Document := ⟨[trust ["b", "a", "b"], grant ["Encrypt", "Decrypt"]]⟩
    let new : Document := ⟨[trust ["b", "b", "a"], grant ["Decrypt", "Encrypt"]]⟩
    ∃ a b, current.toJson.outcome = .ok (some a) ∧ new.toJson.outcome = .ok (some b) ∧
      (∀ statement ∈ current.statements, ∃ members,
        statement.render.outcome = .ok members ∧ statement.ShapedIn members) ∧
      a.normal = a ∧ (diff (.value a) (.value b)).outcome = .ok [] := by
  intro trust grant current new
  let rendered (aws operations : List String) : Json :=
    .obj [("Statement", .arr [.obj [("Action", .str "sts:AssumeRole"), ("Effect", .str "Allow"),
        ("Principal", .obj [("AWS", .strings aws)]), ("Sid", .str "")],
      .obj [("GrantTokens", .strings (ascending ["token"])), ("GranteePrincipal", .str "role/app"),
        ("Operations", .strings operations)]]), ("Version", .str policyVersion)]
  have ha : current.toJson.outcome =
      .ok (some (rendered (ascending ["b", "a", "b"]) (ascending ["Encrypt", "Decrypt"]))) := rfl
  have hb : new.toJson.outcome =
      .ok (some (rendered (ascending ["b", "b", "a"]) (ascending ["Decrypt", "Encrypt"]))) := rfl
  have haws : ascending ["b", "b", "a"] = ascending ["b", "a", "b"] :=
    ascending_eq_iff.2 (.cons _ (.swap ..))
  have hoperations : ascending ["Decrypt", "Encrypt"] = ascending ["Encrypt", "Decrypt"] :=
    ascending_eq_iff.2 (.swap ..)
  rw [haws, hoperations] at hb
  obtain ⟨hshaped, hnormal, hdiff⟩ := diff_rendered_iff
  refine ⟨_, _, ha, hb, ?_, hnormal _ _ ha, (hdiff _ _ _ _ ha hb).2 (Json.same_refl _)⟩
  simp only [current, List.forall_mem_cons]
  exact ⟨⟨_, rfl, hshaped _ _ rfl⟩, ⟨_, rfl, hshaped _ _ rfl⟩, List.forall_mem_nil _⟩

/-- A trust statement without actions shows one. -/
theorem diff_rendered_default_action :
    let statement : Statement :=
      .trust ⟨⟨none, none, [], [], [], [], none, none⟩, [.literal "*"], []⟩
    ∃ members, statement.render.outcome = .ok members ∧
      ("Action", []) ∈ statement.collapsedLists ∧ ¬Collapsed [] (members.find? "Action") :=
  ⟨_, rfl, .head _, nofun⟩

end AccessPolicy
