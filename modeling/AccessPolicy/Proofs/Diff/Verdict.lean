import AccessPolicy.Diff
import AccessPolicy.Proofs.Diff.Equivalence
import AccessPolicy.Proofs.Json.ReadShape

/-!
# The verdict of a comparison

Documents have no difference just if they are equivalent, and a difference has a line at least below
its header.
-/

namespace AccessPolicy

namespace Json

-- ---------------------------------------------------------------------------
-- Values without changes
-- ---------------------------------------------------------------------------

theorem addedMembers_eq_nil_iff {members : Entries Json} :
    addedMembers path members = [] ↔ members = [] := List.map_eq_nil_iff

theorem addedItems_eq_nil_iff : addedItems path index items = [] ↔ items = [] :=
  List.mapIdx_eq_nil_iff

theorem isEqv_of_changedItems (h : changedItems path index as bs = [])
    (ih : ∀ a ∈ as, ∀ path b, changes path a b = [] → same a b = true) :
    as.isEqv bs same = true := by
  induction as generalizing index bs with
  | nil =>
    rw [changedItems, addedItems_eq_nil_iff] at h
    rw [h]
    rfl
  | cons a as ihs =>
    obtain ⟨ha, has⟩ := List.forall_mem_cons.1 ih
    cases bs with
    | nil =>
      rw [changedItems] at h
      cases h
    | cons b bs =>
      rw [changedItems, List.append_eq_nil_iff] at h
      rw [List.isEqv, ha _ b h.1, ihs h.2 has]
      rfl

/-- The order of the keys does not matter here: where the first keys differ, a member was removed or
added. -/
theorem isEqv_of_changedMembers {as bs : Entries Json}
    (h : changedMembers path as bs = [])
    (ih : ∀ a ∈ as, ∀ path b, changes path a.2 b = [] → same a.2 b = true) :
    as.isEqv bs (fun a b => a.1 == b.1 && same a.2 b.2) = true := by
  induction as generalizing bs with
  | nil =>
    rw [changedMembers, addedMembers_eq_nil_iff] at h
    rw [h]
    rfl
  | cons a as ihs =>
    obtain ⟨ha, has⟩ := List.forall_mem_cons.1 ih
    rw [changedMembers, List.append_eq_nil_iff, addedMembers_eq_nil_iff] at h
    obtain ⟨hearlier, hlater⟩ := h
    have hall := List.takeWhile_append_dropWhile (p := (·.1 < a.1)) (l := bs)
    rw [hearlier, List.nil_append] at hall
    rw [hall] at hlater
    split at hlater
    · cases hlater
    · next name b bs =>
      split at hlater
      · next hname =>
        rw [List.append_eq_nil_iff] at hlater
        simp [List.isEqv, hname, ha _ b hlater.1, ihs hlater.2 has]
      · cases hlater

theorem same_of_changes (h : changes path a b = []) : same a b = true := by
  induction a using induct generalizing path b with
  | arr as ih =>
    unfold changes at h
    split at h
    · next hsame => exact hsame
    · cases b with
      | arr bs =>
        rw [same_arr]
        exact isEqv_of_changedItems h fun a ha path b => ih a ha
      | _ => cases h
  | obj as ih =>
    unfold changes at h
    split at h
    · next hsame => exact hsame
    · cases b with
      | obj bs =>
        rw [same_obj]
        exact isEqv_of_changedMembers h fun a ha path b => ih a ha
      | _ => cases h
  | _ =>
    unfold changes at h
    split at h
    · next hsame => exact hsame
    · cases b <;> cases h

end Json

-- ---------------------------------------------------------------------------
-- Lines
-- ---------------------------------------------------------------------------

theorem Change.lines_ne_nil (change : Change) : change.lines ≠ [] := by
  cases change <;> exact List.cons_ne_nil _ _

theorem changeLines_ne_nil (h : current.same new = false) : changeLines current new ≠ [] := by
  intro hnil
  rw [changeLines, List.flatMap_eq_nil_iff] at hnil
  have hchanges : Json.changes [] current new = [] := by
    apply List.eq_nil_iff_forall_not_mem.2
    intro change hchange
    exact change.lines_ne_nil (hnil change hchange)
  rw [Json.same_of_changes hchanges] at h
  cases h

theorem diffValues_cases (current new : Json) :
    current.normal.same new.normal = true ∧ diffValues current new = [] ∨
      current.normal.same new.normal = false ∧
        ∃ line lines, diffValues current new = diffHeader ++ line :: lines := by
  rw [diffValues]
  cases hsame : current.normal.same new.normal with
  | true => exact .inl ⟨rfl, if_pos rfl⟩
  | false =>
    obtain ⟨line, lines, hlines⟩ := List.exists_cons_of_ne_nil (changeLines_ne_nil hsame)
    exact .inr ⟨rfl, line, lines, by rw [hlines]; exact if_neg Bool.false_ne_true⟩

-- ---------------------------------------------------------------------------
-- The verdict
-- ---------------------------------------------------------------------------

/-- Values as they are read; a text may be any. -/
def DocumentSource.WellFormed : DocumentSource → Prop
  | .text _ => True
  | .value content => content.WellFormed

theorem DocumentSource.wellFormed_read {source : DocumentSource} {value : Json}
    (h : source.WellFormed) (hread : source.read = .ok value) : value.WellFormed := by
  cases source with
  | text content => exact Json.read_wellFormed hread
  | value content =>
    obtain rfl := Except.ok.inj hread
    exact h

section
variable {current new : DocumentSource} {a : Json} {failure : Json.Failure}

theorem diff_of_read (ha : current.read = .ok a)
    (hb : new.read = .ok b) : (diff current new).outcome = .ok (diffValues a b) := by
  rw [diff, ha, hb]
  dsimp only
  cases diffValues a b <;> rfl

theorem diff_of_current_error (h : current.read = .error failure) :
    (diff current new).outcome = .ok [failure.message] := by
  rw [diff, h]
  rfl

theorem diff_of_new_error (ha : current.read = .ok a)
    (h : new.read = .error failure) : (diff current new).outcome = .ok [failure.message] := by
  rw [diff, ha, h]
  rfl

end

theorem diffValues_nil : diffValues a b = [] ↔ a.normal.same b.normal = true := by
  rcases diffValues_cases a b with ⟨hsame, hnil⟩ | ⟨hdiffer, line, lines, hlines⟩
  · exact iff_of_true hnil hsame
  · refine iff_of_false (fun h => ?_) (by rw [hdiffer]; exact Bool.false_ne_true)
    rw [hlines] at h
    cases h

theorem diffValues_eq_nil_iff (ha : a.Plain) (hb : b.Plain) :
    diffValues a b = [] ↔ a.Equivalent b := by
  rw [diffValues_nil, ← Json.normal_eq_iff ha hb,
    Json.same_iff_eq (Json.hereditary_floatFree.normal ha.floatFree)]

/-- Nothing is reported of documents that differ in the order of unordered lists alone, and
something of all others that can be read. Of documents that cannot be read the first fault is
reported. -/
theorem diff_exact (current new : DocumentSource) (hcurrent : current.WellFormed)
    (hnew : new.WellFormed) :
    (∀ a b, current.read = .ok a → new.read = .ok b → a.FloatFree → b.FloatFree →
      ((diff current new).outcome = .ok [] ↔ a.Equivalent b) ∧
        (¬a.Equivalent b →
          ∃ line lines, (diff current new).outcome = .ok (diffHeader ++ line :: lines))) ∧
    ((∃ line, (diff current new).outcome = .ok [line]) ↔
      (∃ failure, current.read = .error failure) ∨ ∃ failure, new.read = .error failure) ∧
    (∀ failure, current.read = .error failure →
      (diff current new).outcome = .ok [failure.message]) ∧
    ∀ a failure, current.read = .ok a → new.read = .error failure →
      (diff current new).outcome = .ok [failure.message] := by
  refine ⟨fun a b ha hb hfa hfb => ?_, ?_, fun _ => diff_of_current_error,
    fun _ _ => diff_of_new_error⟩
  · have hempty := diffValues_eq_nil_iff ⟨DocumentSource.wellFormed_read hcurrent ha, hfa⟩
      ⟨DocumentSource.wellFormed_read hnew hb, hfb⟩
    rw [diff_of_read ha hb, Except.ok.injEq, hempty]
    refine ⟨Iff.rfl, fun hdiffer => ?_⟩
    rcases diffValues_cases a b with ⟨-, hnil⟩ | ⟨-, line, lines, hlines⟩
    · exact absurd (hempty.1 hnil) hdiffer
    · exact ⟨line, lines, by rw [hlines]⟩
  · cases ha : current.read with
    | error failure => simp [diff_of_current_error ha]
    | ok a =>
      cases hb : new.read with
      | error failure => simp [diff_of_new_error ha hb]
      | ok b =>
        -- two lines of the header and one below it are more than one line
        rcases diffValues_cases a b with ⟨-, hnil⟩ | ⟨-, line, lines, hlines⟩
        · simp [diff_of_read ha hb, hnil]
        · simp [diff_of_read ha hb, hlines, diffHeader]

theorem diff_exact_reordered :
    let current := Json.obj
      [("Action", .arr [.str "s3:PutObject", .int 7]), ("Effect", .str "Allow")]
    let new := Json.obj
      [("Action", .arr [.int 7, .str "s3:PutObject"]), ("Effect", .str "Allow")]
    (DocumentSource.value current).WellFormed ∧ (DocumentSource.value new).WellFormed ∧
      current.FloatFree ∧ new.FloatFree ∧
      (diff (.value current) (.value new)).outcome = .ok [] := by
  intro current new
  have hcurrent : (DocumentSource.value current).WellFormed := by
    refine Json.wellFormed_obj.2 ⟨by decide, ?_⟩
    simp [Json.WellFormed, Json.WellFormedItems]
  have hnew : (DocumentSource.value new).WellFormed := by
    refine Json.wellFormed_obj.2 ⟨by decide, ?_⟩
    simp [Json.WellFormed, Json.WellFormedItems]
  have hfcurrent : current.FloatFree := by
    simp [current, Json.FloatFree, Json.FloatFreeMembers, Json.FloatFreeItems]
  have hfnew : new.FloatFree := by
    simp [new, Json.FloatFree, Json.FloatFreeMembers, Json.FloatFreeItems]
  have hrelated : current.Equivalent new := by
    refine .statements rfl rfl fun key => ?_
    by_cases haction : "Action" = key
    · subst haction
      exact .inl (.inr ⟨by decide, _, _, rfl, rfl, .swap ..⟩)
    · refine .inl (.inl ?_)
      simp [Entries.find?_cons, haction]
  exact ⟨hcurrent, hnew, hfcurrent, hfnew,
    ((diff_exact _ _ hcurrent hnew).1 current new rfl rfl hfcurrent hfnew).1.2 hrelated⟩

end AccessPolicy
