import AccessPolicy.GrantPlan
import AccessPolicy.Proofs.Json.Structure
import AccessPolicy.Proofs.Lookup

/-!
# When grants agree

Agreement is not symmetric: a list that the other grant lacks is a disagreement, any other attribute
that it lacks is not. `grantMatches_swap_iff` says that this is the only asymmetry. A rendered grant
and what the service makes of it agree both ways (`grantMatches_addTo`, `addTo_grantMatches`).
-/

namespace AccessPolicy

def Json.isList : Json → Bool
  | .arr _ => true
  | _ => false

-- ---------------------------------------------------------------------------
-- Attributes
-- ---------------------------------------------------------------------------

theorem attributeMatches_none : attributeMatches value none = !value.isList := by
  cases value <;> rfl

theorem attributeMatches_self : attributeMatches value (some value) = true := by
  cases value with
  | arr items => exact Json.same_refl _
  | _ => exact Json.same_refl _

theorem attributeMatches_comm : attributeMatches a (some b) = attributeMatches b (some a) := by
  cases a with
  | arr items =>
    cases b with
    | arr others => exact Json.same_comm _ _
    | _ => rfl
  | _ =>
    cases b with
    | arr others => rfl
    | _ => exact Json.same_comm _ _

-- ---------------------------------------------------------------------------
-- Grants
-- ---------------------------------------------------------------------------

section
variable {grant candidate entry : Entries Json}

theorem grantMatches_iff (h : grant.Distinct) : grantMatches grant candidate = true ↔
    ∀ key value, grant.find? key = some value → key ∉ ignoredGrantKeys →
      attributeMatches value (candidate.find? key) = true := by
  rw [grantMatches, List.all_eq_true]
  constructor
  · intro hall key value hf hi
    have hmatch := hall (key, value) (Entries.mem_of_find? hf)
    simpa [hi] using hmatch
  · rintro hall ⟨key, value⟩ hm
    by_cases hi : key ∈ ignoredGrantKeys
    · simp [hi]
    · simp [hall key value (h.find?_of_mem hm) hi]

theorem grantMatches_of_found (h : ∀ member ∈ grant,
    member.1 ∈ ignoredGrantKeys ∨ candidate.find? member.1 = some member.2) :
    grantMatches grant candidate = true := by
  rw [grantMatches, List.all_eq_true]
  rintro ⟨key, value⟩ hm
  rcases h _ hm with hi | hf
  · simp [hi]
  · simp [hf, attributeMatches_self]

/-- A grant has a list, other than those that the service hands out, where another has nothing. -/
def ListsBeyond (grant other : Entries Json) : Prop :=
  ∃ key items, grant.find? key = some (.arr items) ∧ key ∉ ignoredGrantKeys ∧
    other.find? key = none

/-- Attributes that both grants have agree both ways, so only an attribute that the other grant
lacks can make a difference. -/
theorem grantMatches_swap_iff (hg : grant.Distinct) (hc : candidate.Distinct)
    (h : grantMatches grant candidate = true) :
    grantMatches candidate grant = true ↔ ¬ ListsBeyond candidate grant := by
  rw [grantMatches_iff hg] at h
  rw [grantMatches_iff hc]
  constructor
  · rintro hback ⟨key, items, hf, hi, hnone⟩
    have hmatch := hback key (.arr items) hf hi
    rw [hnone] at hmatch
    cases hmatch
  · intro hbeyond key value hf hi
    -- attributes that both have agree already; one that the grant lacks must not be a list
    cases hown : grant.find? key with
    | some own =>
      have hmatch := h key own hown hi
      rw [hf] at hmatch
      rw [attributeMatches_comm]
      exact hmatch
    | none =>
      rw [attributeMatches_none]
      cases value with
      | arr items => exact absurd ⟨key, items, hf, hi, hown⟩ hbeyond
      | _ => rfl

-- ---------------------------------------------------------------------------
-- Rendered grants
-- ---------------------------------------------------------------------------

def grantKeys : List String :=
  ["GranteePrincipal", "RetireePrincipal", "Operations", "Constraints", "GrantTokens"]

theorem eq_of_mem_optional {value : Option Json} {member : String × Json}
    (h : member ∈ optional key value) : member.1 = key := by
  cases value with
  | none => cases h
  | some value => simp [optional] at h; simp [h]

theorem eq_of_mem_ascendingMember {member : String × Json}
    (h : member ∈ ascendingMember key texts) : member.1 = key := by
  rw [ascendingMember] at h
  split at h
  · cases h
  · simp at h; simp [h]

theorem Grant.mem_grantKeys {grant : Grant} {member : String × Json} (h : member ∈ grant.render) :
    member.1 ∈ grantKeys := by
  have hm := Entries.mem_of_mem_ordered h
  simp only [List.mem_append] at hm
  rcases hm with (((hm | hm) | hm) | hm) | hm
  · simp [eq_of_mem_optional hm, grantKeys]
  · simp [eq_of_mem_optional hm, grantKeys]
  · simp [eq_of_mem_ascendingMember hm, grantKeys]
  · simp [eq_of_mem_optional hm, grantKeys]
  · simp [eq_of_mem_ascendingMember hm, grantKeys]

theorem Grant.render_ascending (grant : Grant) : grant.render.Ascending :=
  Entries.ascending_ordered _

theorem Grant.find?_render_eq_none {grant : Grant} (h : key ∉ grantKeys) :
    grant.render.find? key = none :=
  Entries.find?_eq_none_iff.2 fun _ hm heq => h (heq ▸ Grant.mem_grantKeys hm)

-- ---------------------------------------------------------------------------
-- Grants as the service lists them
-- ---------------------------------------------------------------------------

/-- Attributes that the service adds to a grant that it creates. They replace none of its own, and
none is a list. -/
structure ServiceAttributes where
  attributes : Entries Json
  foreign : ∀ member ∈ attributes, member.1 ∉ grantKeys
  noLists : ∀ member ∈ attributes, member.2.isList = false

def ServiceAttributes.addTo (added : ServiceAttributes) (entry : Entries Json) : Entries Json :=
  added.attributes.foldl (fun grant (key, value) => grant.put key value) entry

theorem ServiceAttributes.addTo_ascending (added : ServiceAttributes) (h : entry.Ascending) :
    (added.addTo entry).Ascending := by
  rw [addTo]
  induction added.attributes generalizing entry with
  | nil => exact h
  | cons member rest ih => exact ih (h.put member.1 member.2)

theorem ServiceAttributes.find?_addTo (added : ServiceAttributes) (key : String) :
    (added.addTo entry).find? key = entry.find? key ∨
      key ∉ grantKeys ∧ ∃ value, (added.addTo entry).find? key = some value ∧
        value.isList = false := by
  rw [addTo, Entries.find?_foldl_put]
  cases hf : Entries.find? key added.attributes.reverse with
  | none => exact .inl rfl
  | some value =>
    have hm := List.mem_reverse.1 (Entries.mem_of_find? hf)
    exact .inr ⟨added.foreign _ hm, value, rfl, added.noLists _ hm⟩

theorem grantMatches_addTo (grant : Grant) (added : ServiceAttributes) :
    grantMatches grant.render (added.addTo grant.render) = true := by
  rw [grantMatches_iff grant.render_ascending.distinct]
  intro key value hf _
  rcases added.find?_addTo key with hsame | ⟨hforeign, -⟩
  · rw [hsame, hf]
    exact attributeMatches_self
  · rw [Grant.find?_render_eq_none hforeign] at hf
    cases hf

theorem addTo_grantMatches (grant : Grant) (added : ServiceAttributes) :
    grantMatches (added.addTo grant.render) grant.render = true := by
  rw [grantMatches_iff (added.addTo_ascending grant.render_ascending).distinct]
  intro key value hf _
  rcases added.find?_addTo key with hsame | ⟨hforeign, other, hother, hlist⟩
  · rw [← hsame, hf]
    exact attributeMatches_self
  · rw [hf] at hother
    cases hother
    rw [Grant.find?_render_eq_none hforeign, attributeMatches_none, hlist]
    rfl

end

end AccessPolicy
