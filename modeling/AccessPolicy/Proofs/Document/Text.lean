import AccessPolicy.Proofs.Diff.Verdict
import AccessPolicy.Proofs.Json.ReadBack
import AccessPolicy.Proofs.Statement.Plain
import AccessPolicy.Proofs.Statement.Rendered

/-!
# The text of a document and its value

A document has a text just if it has a value, and is refused for the same reason by both. The text
reads as the value, although it names the version first (`render_toJson_agree`).
-/

namespace AccessPolicy.Document

/-- A statement does not render, and all those before it do. -/
def FirstFailure (statements : List Statement) (error : PolicyError) : Prop :=
  ∃ before failing after, statements = before ++ failing :: after ∧
    (∀ statement ∈ before, ∃ members, statement.render.outcome = .ok members) ∧
    failing.render.outcome = .error error

-- ---------------------------------------------------------------------------
-- Outcomes of both
-- ---------------------------------------------------------------------------

section
variable {document : Document} {statements : List Statement}

theorem rendered_error : document.rendered.outcome = .error error ↔
    FirstFailure document.statements error := by
  simp only [Document.rendered, Traced.outcome_bind, Traced.outcome_pure, bind_error, reduceCtorEq,
    and_false, exists_false, or_false, Traced.each_error]
  rfl

theorem rendered_ok : document.rendered.outcome = .ok values ↔
    ∃ rendered, Renders document.statements rendered ∧ rendered.map .obj = values := by
  simp only [Document.rendered, Traced.outcome_bind, Traced.outcome_pure, bind_ok,
    Except.ok.injEq, Traced.each_ok]
  rfl

theorem exists_renders_iff : (∃ rendered, Renders statements rendered) ↔
    ∀ statement ∈ statements, ∃ members, statement.render.outcome = .ok members :=
  exists_forall₂_iff

theorem exists_firstFailure_iff : (∃ error, FirstFailure statements error) ↔
    ∃ statement ∈ statements, ∃ error, statement.render.outcome = .error error := by
  constructor
  · rintro ⟨error, before, failing, after, rfl, -, hfailing⟩
    exact ⟨failing, by simp, error, hfailing⟩
  · rintro ⟨statement, hstatement, error, herror⟩
    cases hrendered : (Document.mk statements).rendered.outcome with
    | error first => exact ⟨first, rendered_error.1 hrendered⟩
    | ok values =>
      obtain ⟨rendered, hrenders, -⟩ := rendered_ok.1 hrendered
      obtain ⟨members, hmembers⟩ := exists_renders_iff.1 ⟨rendered, hrenders⟩ statement hstatement
      cases hmembers.symm.trans herror

theorem firstFailure_nonempty (h : FirstFailure statements error) : statements ≠ [] := by
  obtain ⟨before, failing, after, rfl, -⟩ := h
  exact List.append_ne_nil_of_right_ne_nil before (List.cons_ne_nil failing after)

theorem outputs_of_nil (h : document.statements = []) :
    document.render.outcome = .ok none ∧ document.toJson.outcome = .ok none := by
  have hempty : document.statements.isEmpty = true := by rw [h]; rfl
  rw [render, toJson, if_pos hempty, if_pos hempty]
  exact ⟨rfl, rfl⟩

theorem outputs_of_ne_nil (h : document.statements ≠ []) :
    document.render.outcome =
        document.rendered.outcome.map (fun values => some (Json.obj (envelope values)).pretty) ∧
      document.toJson.outcome =
        document.rendered.outcome.map (fun values => some (Json.ofMembers (envelope values))) := by
  have hnonempty : ¬document.statements.isEmpty = true := by rwa [List.isEmpty_iff]
  rw [render, toJson, if_neg hnonempty, if_neg hnonempty]
  simp only [Traced.outcome_bind]
  cases document.rendered.outcome <;> exact ⟨rfl, rfl⟩

theorem outputs_none (document : Document) :
    (document.render.outcome = .ok none ↔ document.statements = []) ∧
      (document.toJson.outcome = .ok none ↔ document.statements = []) := by
  by_cases hnil : document.statements = []
  · obtain ⟨htext, hvalue⟩ := outputs_of_nil hnil
    exact ⟨iff_of_true htext hnil, iff_of_true hvalue hnil⟩
  · obtain ⟨htext, hvalue⟩ := outputs_of_ne_nil hnil
    rw [htext, hvalue, map_ok, map_ok]
    exact ⟨iff_of_false (by simp) hnil, iff_of_false (by simp) hnil⟩

theorem outputs_error (document : Document) (error : PolicyError) :
    (document.render.outcome = .error error ↔ FirstFailure document.statements error) ∧
      (document.toJson.outcome = .error error ↔ FirstFailure document.statements error) := by
  by_cases hnil : document.statements = []
  · obtain ⟨htext, hvalue⟩ := outputs_of_nil hnil
    have hnone : ¬FirstFailure document.statements error := fun h => firstFailure_nonempty h hnil
    rw [htext, hvalue]
    exact ⟨iff_of_false (fun h => nomatch h) hnone, iff_of_false (fun h => nomatch h) hnone⟩
  · obtain ⟨htext, hvalue⟩ := outputs_of_ne_nil hnil
    rw [htext, hvalue, map_error, map_error, rendered_error]
    exact ⟨Iff.rfl, Iff.rfl⟩

-- ---------------------------------------------------------------------------
-- The text reads as the value
-- ---------------------------------------------------------------------------

theorem plain_renders {rendered : List (Entries Json)}
    (h : ∀ statement ∈ statements, statement.Plain) (hr : Renders statements rendered) :
    (Json.arr (rendered.map .obj)).Plain := by
  rw [Json.plain_arr, List.forall_mem_map]
  induction hr with
  | nil => exact List.forall_mem_nil _
  | cons hstatement _ ih =>
    obtain ⟨hplain, hrest⟩ := List.forall_mem_cons.1 h
    exact List.forall_mem_cons.2 ⟨plain_render hplain hstatement, ih hrest⟩

/-- The order in which the members of a document stand has no influence on its depth. -/
theorem nesting_envelope (statements : List Json) :
    (Json.ofMembers (envelope statements)).nesting = (Json.obj (envelope statements)).nesting := by
  rw [Json.ofMembers, envelope_ordered]
  simp [envelope, Json.nesting, Json.nestingMembers]

theorem read_pretty_envelope (h : (Json.arr values).Plain)
    (hdeep : (Json.ofMembers (envelope values)).nesting ≤ Json.deepest) :
    Json.read (Json.obj (envelope values)).pretty = .ok (Json.ofMembers (envelope values)) := by
  apply Json.read_pretty_obj
  · simp only [envelope, List.forall_mem_cons]
    exact ⟨Json.plain_str _, h, List.forall_mem_nil _⟩
  · rwa [← nesting_envelope]

end

theorem diffValues_self (value : Json) : diffValues value value = [] :=
  if_pos (Json.same_refl value.normal)

/-- A document has neither a text nor a value just if it is empty, is refused with the error of its
first statement that does not render, and otherwise has both. The text then reads as the value, if
it does not nest too deep, so they have no difference. -/
theorem render_toJson_agree (document : Document)
    (h : ∀ statement ∈ document.statements, statement.Plain) :
    (document.render.outcome = .ok none ↔ document.statements = []) ∧
    (document.toJson.outcome = .ok none ↔ document.statements = []) ∧
    (∀ error, document.render.outcome = .error error ↔ FirstFailure document.statements error) ∧
    (∀ error, document.toJson.outcome = .error error ↔ FirstFailure document.statements error) ∧
    ((∃ error, FirstFailure document.statements error) ↔
      ∃ statement ∈ document.statements, ∃ error, statement.render.outcome = .error error) ∧
    (document.statements ≠ [] →
      (∀ statement ∈ document.statements, ∃ members, statement.render.outcome = .ok members) →
      ∃ text value, document.render.outcome = .ok (some text) ∧
        document.toJson.outcome = .ok (some value) ∧
        (value.nesting ≤ 127 →
          (DocumentSource.text text).read = .ok value ∧
          (diff (.text text) (.value value)).outcome = .ok [] ∧
          (diff (.value value) (.text text)).outcome = .ok [])) := by
  refine ⟨(outputs_none document).1, (outputs_none document).2,
    fun error => (outputs_error document error).1, fun error => (outputs_error document error).2,
    exists_firstFailure_iff, fun hne hall => ?_⟩
  obtain ⟨rendered, hrenders⟩ := exists_renders_iff.2 hall
  obtain ⟨htext, hvalue⟩ := outputs_of_ne_nil hne
  rw [rendered_ok.2 ⟨rendered, hrenders, rfl⟩] at htext hvalue
  let text := (Json.obj (envelope (rendered.map .obj))).pretty
  let value := Json.ofMembers (envelope (rendered.map .obj))
  refine ⟨text, value, htext, hvalue, fun hdeep => ?_⟩
  have hread : (DocumentSource.text text).read = .ok value :=
    read_pretty_envelope (plain_renders h hrenders) hdeep
  have hvalueRead : (DocumentSource.value value).read = .ok value := rfl
  refine ⟨hread, ?_, ?_⟩
  · rw [diff_of_read hread hvalueRead, diffValues_self]
  · rw [diff_of_read hvalueRead hread, diffValues_self]

/-- A condition with characters that are escaped, and a trust statement that is given its action. -/
theorem render_toJson_agree_escaped :
    let condition : Entries Json :=
      [("StringLike", .obj [("aws:\"tag\"", .arr [.str "tab\tand \x01", .int (-7), .obj []])])]
    let denied : Statement :=
      .permission ⟨some "größe", some .deny, ["s3:*"], [], ["b", "a"], [], some condition, none⟩
    let trusted : Statement :=
      .trust ⟨⟨none, none, [], [], [], [], none, none⟩, [.mapping ⟨some (.one "root"), none, none⟩],
        []⟩
    (∀ statement ∈ [denied, trusted], statement.Plain) ∧ ∃ text value,
      (Document.mk [denied, trusted]).render.outcome = .ok (some text) ∧
      (Document.mk [denied, trusted]).toJson.outcome = .ok (some value) ∧
      (DocumentSource.text text).read = .ok value ∧
      (diff (.text text) (.value value)).outcome = .ok [] ∧
      (diff (.value value) (.text text)).outcome = .ok [] := by
  intro condition denied trusted
  have hcondition : (Json.obj condition).Plain := by
    have hitems : (Json.arr [.str "tab\tand \x01", .int (-7), .obj []]).Plain := by
      rw [Json.plain_arr]
      simp only [List.forall_mem_cons]
      exact ⟨Json.plain_str _, ⟨by rw [Json.WellFormed]; omega, trivial⟩,
        Json.plain_obj.2 ⟨.nil, List.forall_mem_nil _⟩, List.forall_mem_nil _⟩
    have hone {key : String} {value : Json} (h : value.Plain) : (Json.obj [(key, value)]).Plain :=
      Json.plain_obj.2 ⟨List.pairwise_singleton _ _, List.forall_mem_singleton.2 h⟩
    exact hone (hone hitems)
  have hplain : ∀ statement ∈ [denied, trusted], statement.Plain := by
    have hnone : ∀ members ∈ (none : Option (Entries Json)), (Json.obj members).Plain :=
      fun _ h => absurd h (Option.not_mem_none _)
    rw [List.forall_mem_cons, List.forall_mem_singleton]
    refine ⟨⟨?_, hnone⟩, hnone, hnone⟩
    rintro _ ⟨⟩
    exact hcondition
  have hrender : ∀ statement ∈ [denied, trusted],
      ∃ members, statement.render.outcome = .ok members := by
    rw [List.forall_mem_cons, List.forall_mem_singleton]
    exact ⟨⟨_, rfl⟩, _, rfl⟩
  obtain ⟨text, value, htext, hvalue, hagree⟩ :=
    (render_toJson_agree ⟨[denied, trusted]⟩ hplain).2.2.2.2.2 (List.cons_ne_nil _ _) hrender
  have hnesting : value.nesting ≤ 127 := by
    obtain rfl := Option.some.inj (Except.ok.inj hvalue)
    have hsorted : ["a", "b"] = ascending ["b", "a"] := eq_ascending_iff.2 ⟨.swap .., by decide⟩
    show Json.nesting (.obj [("Statement", .arr [
      .obj [("Action", .str "s3:*"), ("Condition", .obj condition), ("Effect", .str "Deny"),
        ("Resource", .strings (ascending ["b", "a"])), ("Sid", .str "größe")],
      .obj [("Action", .str "sts:AssumeRole"), ("Effect", .str "Allow"),
        ("Principal", .obj [("AWS", .str "root")])]]), ("Version", .str "2012-10-17")]) ≤ 127
    rw [← hsorted]
    decide
  exact ⟨hplain, text, value, htext, hvalue, hagree hnesting⟩

end AccessPolicy.Document
