import Mathlib.Data.List.Pairwise
import AccessPolicy.Proofs.Diff.Verdict

/-!
# The order of statements in a comparison

Statements are compared one by one, in the order in which the two documents have them. So an order
of statements is without significance only if all of them say the same
(`diff_statements_order`).
-/

namespace AccessPolicy

def versioned (version : Json) (statements : List Json) : DocumentSource :=
  .value (.obj [("Statement", .arr statements), ("Version", version)])

def Unchanged (a b : Json) : Prop := (diff (.value a) (.value b)).outcome = .ok []

theorem unchanged_iff : Unchanged a b ↔ a.normal.same b.normal = true := by
  rw [Unchanged, diff_of_read rfl rfl, Except.ok.injEq, diffValues_nil]

theorem unchanged_refl (a : Json) : Unchanged a a := unchanged_iff.2 (Json.same_refl _)

instance : Std.Symm Unchanged where
  symm a b h := by
    rw [unchanged_iff] at h ⊢
    rw [Json.same_comm, h]

theorem unchanged_iff_equivalent (ha : a.Plain) (hb : b.Plain) :
    Unchanged a b ↔ a.Equivalent b := by
  rw [Unchanged, diff_of_read rfl rfl, Except.ok.injEq, diffValues_eq_nil_iff ha hb]

theorem isEqv_iff_forall₂ {r : α → α → Bool} :
    items.isEqv others r = true ↔ List.Forall₂ (fun a b => r a b = true) items others := by
  induction items generalizing others with
  | nil => cases others <;> simp [List.isEqv]
  | cons a rest ih => cases others <;> simp [List.isEqv, ih]

/-- No statement is compared with any but that in its place. -/
theorem diff_versioned (version : Json) (statements others : List Json) :
    (diff (versioned version statements) (versioned version others)).outcome = .ok [] ↔
      List.Forall₂ Unchanged statements others := by
  have hnormal (items : List Json) :
      (Json.obj [("Statement", .arr items), ("Version", version)]).normal =
        .obj [("Statement", .arr (items.map Json.normal)), ("Version", version)] := by
    rw [Json.normal_document rfl]
    simp [Json.adjust, Json.normal, Json.normalItems_eq]
  rw [versioned, versioned, diff_of_read rfl rfl, Except.ok.injEq, diffValues_nil, hnormal, hnormal]
  simp only [Json.same_obj, List.isEqv, Json.same_refl, Json.same_arr, beq_self_eq_true,
    Bool.and_true, Bool.true_and, isEqv_iff_forall₂, List.forall₂_map_left_iff,
    List.forall₂_map_right_iff, ← unchanged_iff]

/-- All arrangements of a list go with it place by place just if any two of its elements go with one
another. -/
theorem forall_perm_forall₂_iff {R : α → α → Prop} [Std.Symm R] (hrefl : ∀ a, R a a) :
    (∀ arranged, items.Perm arranged → List.Forall₂ R items arranged) ↔ items.Pairwise R := by
  constructor
  · intro h
    induction items with
    | nil => exact .nil
    | cons a rest ih =>
      refine .cons (fun b hb => ?_) (ih fun arranged hperm => ?_)
      · -- an arrangement that has the later element in the place of the first
        obtain ⟨before, after, rfl⟩ := List.append_of_mem hb
        have hfirst : (a :: (before ++ b :: after)).Perm (b :: a :: (before ++ after)) :=
          (List.perm_middle.cons a).trans (.swap b a _)
        exact (List.forall₂_cons.1 (h _ hfirst)).1
      · exact (List.forall₂_cons.1 (h _ (hperm.cons a))).2
  · intro h arranged hperm
    have hall := h.forall_of_forall fun a _ => hrefl a
    refine List.forall₂_iff_get.2 ⟨hperm.length_eq, fun index hindex hother => ?_⟩
    exact hall (List.get_mem _ _) (hperm.mem_iff.2 (List.get_mem _ _))

/-- Documents that have statements in two orders have no difference just if each statement is
unchanged in its place; and no order of the statements makes a difference just if no two of them
differ. -/
theorem diff_statements_order (version : Json) (statements : List Json) :
    (∀ others, (diff (versioned version statements) (versioned version others)).outcome = .ok [] ↔
      List.Forall₂ Unchanged statements others) ∧
    ((∀ reordered, statements.Perm reordered →
        (diff (versioned version statements) (versioned version reordered)).outcome = .ok []) ↔
      statements.Pairwise Unchanged) ∧
    ((∀ statement ∈ statements, statement.Plain) →
      (statements.Pairwise Unchanged ↔ statements.Pairwise Json.Equivalent)) := by
  refine ⟨diff_versioned version statements, ?_, fun hplain => ?_⟩
  · simp only [diff_versioned]
    exact forall_perm_forall₂_iff unchanged_refl
  · exact List.Pairwise.iff_of_mem fun ha hb => unchanged_iff_equivalent (hplain _ ha) (hplain _ hb)

/-- Two statements that differ in the order of their actions change places. -/
theorem diff_statements_order_alike :
    let first := Json.obj [("Action", .arr [.str "s3:PutObject", .str "s3:GetObject"])]
    let second := Json.obj [("Action", .arr [.str "s3:GetObject", .str "s3:PutObject"])]
    let version := Json.str "2012-10-17"
    (∀ statement ∈ [first, second], statement.Plain) ∧
      [first, second].Pairwise Json.Equivalent ∧
      (diff (versioned version [first, second]) (versioned version [second, first])).outcome =
        .ok [] := by
  intro first second version
  have hplain : ∀ statement ∈ [first, second], statement.Plain := by
    simp [first, second, Json.plain_obj, Json.plain_arr, Json.plain_str, Entries.Ascending]
  have hsorted : Json.sortItems [.str "s3:PutObject", .str "s3:GetObject"] =
      Json.sortItems [.str "s3:GetObject", .str "s3:PutObject"] := by
    refine (Json.sortItems_eq_iff ?_).2 (.swap ..)
    simp [Json.plain_str]
  have hnormal : first.normal = second.normal :=
    congrArg (fun items => Json.obj [("Action", .arr items)]) hsorted
  have hunchanged : [first, second].Pairwise Unchanged := by
    refine List.pairwise_pair.2 (unchanged_iff.2 ?_)
    rw [hnormal, Json.same_refl]
  obtain ⟨-, horder, hequivalent⟩ := diff_statements_order version [first, second]
  exact ⟨hplain, (hequivalent hplain).1 hunchanged, horder.2 hunchanged _ (.swap ..)⟩

/-- Two statements with different actions change places. -/
theorem diff_statements_order_swapped :
    let reading := Json.obj
      [("Action", .str "s3:GetObject"), ("Effect", .str "Allow"), ("Resource", .str "*")]
    let writing := Json.obj
      [("Action", .str "s3:PutObject"), ("Effect", .str "Allow"), ("Resource", .str "*")]
    let version := Json.str "2012-10-17"
    [reading, writing].Perm [writing, reading] ∧
      (diff (versioned version [reading, writing]) (versioned version [writing, reading])).outcome =
        .ok ["--- current", "+++ new",
          "-Statement[0].Action: \"s3:GetObject\"", "+Statement[0].Action: \"s3:PutObject\"",
          "-Statement[1].Action: \"s3:PutObject\"", "+Statement[1].Action: \"s3:GetObject\""] :=
  ⟨.swap .., rfl⟩

end AccessPolicy
