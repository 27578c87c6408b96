import Mathlib.Data.List.Forall2
import AccessPolicy.Traced

/-!
# Work that succeeds

Chained steps succeed just if each of them does, and work on a list just if it does on each element.
Work on a list that fails does so at the first element where it does.
-/

namespace AccessPolicy

theorem bind_ok {first : Except ε α} {next : α → Except ε β} :
    first >>= next = .ok b ↔ ∃ a, first = .ok a ∧ next a = .ok b := by
  cases first with
  | error _ => exact ⟨fun h => (nomatch h), fun ⟨_, h, _⟩ => (nomatch h)⟩
  | ok a => exact ⟨fun h => ⟨a, rfl, h⟩, fun ⟨_, h, hnext⟩ => Except.ok.inj h ▸ hnext⟩

theorem bind_eq_of_ok {first : Except ε α} {next other : α → Except ε β}
    (h : ∀ a, first = .ok a → next a = other a) : first >>= next = first >>= other := by
  cases first with
  | error _ => rfl
  | ok a => exact h a rfl

theorem map_ok {outcome : Except ε α} {f : α → β} :
    outcome.map f = .ok b ↔ ∃ a, outcome = .ok a ∧ f a = b := by
  cases outcome <;> simp [Except.map]

theorem map_error {outcome : Except ε α} {f : α → β} :
    outcome.map f = .error e ↔ outcome = .error e := by
  cases outcome <;> simp [Except.map]

theorem pure_ok : (pure a : Except ε α) = .ok b ↔ a = b := Except.ok.injEq a b ▸ Iff.rfl

theorem mapM_ok {f : α → Except ε β} :
    items.mapM f = .ok results ↔ List.Forall₂ (fun a b => f a = .ok b) items results := by
  induction items generalizing results with
  | nil =>
    rw [List.mapM_nil, pure_ok, List.forall₂_nil_left_iff]
    exact eq_comm
  | cons a rest ih =>
    simp only [List.mapM_cons, bind_ok, pure_ok, ih, List.forall₂_cons_left_iff]
    constructor
    · rintro ⟨b, hb, bs, hbs, rfl⟩
      exact ⟨b, bs, hb, hbs, rfl⟩
    · rintro ⟨b, bs, hb, hbs, rfl⟩
      exact ⟨b, hb, bs, hbs, rfl⟩

theorem mapM_singleton (f : α → Except ε β) (a : α) :
    [a].mapM f = (f a).map fun b => [b] := by
  rw [List.mapM_cons, List.mapM_nil]
  cases f a <;> rfl

theorem mapM_congr {items : List α} {f g : α → Except ε β} (h : ∀ item ∈ items, f item = g item) :
    items.mapM f = items.mapM g := by
  induction items with
  | nil => rfl
  | cons a rest ih =>
    obtain ⟨hhead, hrest⟩ := List.forall_mem_cons.1 h
    simp only [List.mapM_cons, hhead, ih hrest]

theorem Traced.outcome_each (f : α → Traced β) (items : List α) :
    (Traced.each f items).outcome = items.mapM fun item => (f item).outcome := by
  induction items with
  | nil => rfl
  | cons a rest ih =>
    simp only [Traced.each, Traced.outcome_bind, ih, List.mapM_cons]
    rfl

theorem Traced.each_ok {f : α → Traced β} : (Traced.each f items).outcome = .ok results ↔
    List.Forall₂ (fun a b => (f a).outcome = .ok b) items results := by
  rw [Traced.outcome_each, mapM_ok]

theorem forall₂_append_left_iff {R : α → β → Prop} : List.Forall₂ R (first ++ second) results ↔
    ∃ left right, results = left ++ right ∧ List.Forall₂ R first left ∧
      List.Forall₂ R second right := by
  constructor
  · intro h
    refine ⟨results.take first.length, results.drop first.length,
      (List.take_append_drop _ _).symm, ?_, ?_⟩
    · simpa using List.forall₂_take first.length h
    · simpa using List.forall₂_drop first.length h
  · rintro ⟨left, right, rfl, hleft, hright⟩
    exact List.rel_append hleft hright

theorem forall₂_comp_iff {R : α → β → Prop} {S : β → γ → Prop} :
    (∃ middle, List.Forall₂ R items middle ∧ List.Forall₂ S middle results) ↔
      List.Forall₂ (fun a c => ∃ b, R a b ∧ S b c) items results := by
  constructor
  · rintro ⟨middle, hfirst, hsecond⟩
    induction hfirst generalizing results with
    | nil => exact List.forall₂_nil_left_iff.2 (List.forall₂_nil_left_iff.1 hsecond)
    | cons hhead _ ih =>
      obtain ⟨c, rest, hc, hrest, rfl⟩ := List.forall₂_cons_left_iff.1 hsecond
      exact .cons ⟨_, hhead, hc⟩ (ih hrest)
  · intro h
    induction h with
    | nil => exact ⟨[], .nil, .nil⟩
    | cons hhead _ ih =>
      obtain ⟨b, hb, hc⟩ := hhead
      obtain ⟨middle, hfirst, hsecond⟩ := ih
      exact ⟨b :: middle, .cons hb hfirst, .cons hc hsecond⟩

/-- Between lists that go with theirs, an element is all that is left to go with its own. -/
theorem forall₂_between {R : α → β → Prop} (hbefore : List.Forall₂ R before left)
    (hafter : List.Forall₂ R after right) :
    List.Forall₂ R (before ++ a :: after) (left ++ b :: right) ↔ R a b := by
  constructor
  · intro h
    have hrest := List.forall₂_drop_append _ _ _ h
    rw [← hbefore.length_eq, List.drop_left] at hrest
    exact (List.forall₂_cons.1 hrest).1
  · exact fun h => List.rel_append hbefore (.cons h hafter)

theorem exists_forall₂_iff {R : α → β → Prop} :
    (∃ results, List.Forall₂ R items results) ↔ ∀ item ∈ items, ∃ b, R item b := by
  induction items with
  | nil => exact iff_of_true ⟨[], .nil⟩ (List.forall_mem_nil _)
  | cons item rest ih =>
    rw [List.forall_mem_cons, ← ih]
    constructor
    · rintro ⟨_, h⟩
      cases h with
      | cons hitem hrest => exact ⟨⟨_, hitem⟩, _, hrest⟩
    · rintro ⟨⟨b, hitem⟩, results, hrest⟩
      exact ⟨b :: results, .cons hitem hrest⟩

theorem exists_mem_iff_of_forall₂ {R : α → β → Prop} {P : α → Prop} {Q : β → Prop}
    (h : List.Forall₂ R items results) (hPQ : ∀ a b, R a b → (P a ↔ Q b)) :
    (∃ item ∈ items, P item) ↔ ∃ result ∈ results, Q result := by
  induction h with
  | nil => simp
  | cons hhead _ ih => simp [hPQ _ _ hhead, ih]

/-- Lists that differ in one element go with the same lists just if that element does, or if neither
list goes with any. -/
theorem forall₂_between_iff {R : α → β → Prop} :
    (∀ results, List.Forall₂ R (before ++ a :: after) results ↔
      List.Forall₂ R (before ++ c :: after) results) ↔
    (∀ b, R a b ↔ R c b) ∨ ∃ item ∈ before ++ after, ∀ b, ¬R item b := by
  constructor
  · intro h
    by_cases hall : ∀ item ∈ before ++ after, ∃ b, R item b
    · obtain ⟨_, hothers⟩ := exists_forall₂_iff.2 hall
      obtain ⟨left, right, -, hleft, hright⟩ := forall₂_append_left_iff.1 hothers
      refine .inl fun b => ?_
      rw [← forall₂_between hleft hright, ← forall₂_between hleft hright]
      exact h _
    · simp only [not_forall, not_exists] at hall
      obtain ⟨item, hitem, hnone⟩ := hall
      exact .inr ⟨item, hitem, hnone⟩
  · rintro (h | ⟨item, hitem, hnone⟩) results
    · simp only [forall₂_append_left_iff, List.forall₂_cons_left_iff, h]
    · have hneither (middle : α) : ¬List.Forall₂ R (before ++ middle :: after) results := by
        intro hresults
        obtain ⟨b, hb⟩ := exists_forall₂_iff.1 ⟨_, hresults⟩ item <| by
          rcases List.mem_append.1 hitem with hbefore | hafter
          · exact List.mem_append_left _ hbefore
          · exact List.mem_append_right _ (.tail _ hafter)
        exact hnone b hb
      exact iff_of_false (hneither a) (hneither c)

theorem bind_error {first : Except ε α} {next : α → Except ε β} :
    first >>= next = .error e ↔ first = .error e ∨ ∃ a, first = .ok a ∧ next a = .error e := by
  cases first with
  | error cause =>
    constructor
    · exact fun h => .inl (congrArg Except.error (Except.error.inj h))
    · rintro (h | ⟨_, h, _⟩)
      · exact congrArg Except.error (Except.error.inj h)
      · cases h
  | ok a =>
    constructor
    · exact fun h => .inr ⟨a, rfl, h⟩
    · rintro (h | ⟨_, h, hnext⟩)
      · cases h
      · exact Except.ok.inj h ▸ hnext

theorem mapM_error {f : α → Except ε β} : items.mapM f = .error e ↔
    ∃ before item after, items = before ++ item :: after ∧
      (∀ earlier ∈ before, ∃ b, f earlier = .ok b) ∧ f item = .error e := by
  induction items with
  | nil =>
    refine iff_of_false (fun h => nomatch h) ?_
    rintro ⟨before, item, after, h, -⟩
    exact List.append_ne_nil_of_right_ne_nil before (List.cons_ne_nil item after) h.symm
  | cons a rest ih =>
    simp only [List.mapM_cons, bind_error, pure, Except.pure, reduceCtorEq, and_false, exists_false,
      or_false, ih]
    constructor
    · rintro (ha | ⟨b, hb, before, item, after, rfl, hbefore, hitem⟩)
      · exact ⟨[], a, rest, rfl, List.forall_mem_nil _, ha⟩
      · exact ⟨a :: before, item, after, rfl, List.forall_mem_cons.2 ⟨⟨b, hb⟩, hbefore⟩, hitem⟩
    · rintro ⟨before, item, after, heq, hbefore, hitem⟩
      cases before with
      | nil =>
        obtain ⟨rfl, rfl⟩ := List.cons.inj heq
        exact .inl hitem
      | cons first before =>
        obtain ⟨rfl, rfl⟩ := List.cons.inj heq
        obtain ⟨⟨b, hb⟩, hbefore⟩ := List.forall_mem_cons.1 hbefore
        exact .inr ⟨b, hb, before, item, after, rfl, hbefore, hitem⟩

theorem exists_of_mapM_error {items : List α} {f : α → Except ε β} (h : items.mapM f = .error e) :
    ∃ item ∈ items, f item = .error e := by
  obtain ⟨before, item, after, rfl, -, hitem⟩ := mapM_error.1 h
  exact ⟨item, List.mem_append_right _ List.mem_cons_self, hitem⟩

theorem Traced.each_error {f : α → Traced β} : (Traced.each f items).outcome = .error e ↔
    ∃ before item after, items = before ++ item :: after ∧
      (∀ earlier ∈ before, ∃ b, (f earlier).outcome = .ok b) ∧ (f item).outcome = .error e := by
  rw [Traced.outcome_each, mapM_error]

theorem Traced.each_emit_ok (event : α → Event) (items : List α) :
    ∃ results,
      (Traced.each (fun item => Traced.emit (event item)) items).outcome = .ok results := by
  refine ⟨items.map fun _ => (), Traced.each_ok.2 ?_⟩
  induction items with
  | nil => exact .nil
  | cons item rest ih => exact .cons rfl ih

end AccessPolicy
