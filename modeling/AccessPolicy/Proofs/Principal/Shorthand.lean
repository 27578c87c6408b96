import AccessPolicy.Principal.Reader
import AccessPolicy.Proofs.ListShape
import AccessPolicy.Proofs.Lookup
import AccessPolicy.Proofs.Principal.Merged

/-!
# Principals in shorthand

A mapping that resolves is what its members contribute (`resolveMapping_ok`). The keys of a literal
principal are kinds of principals, which the shorthand takes as they are, so literal principals
resolve to themselves (`resolve_of_literals`).
-/

namespace AccessPolicy.PrincipalEntry

section
variable {members rest : Entries Json} {buckets gathered : Buckets}

-- ---------------------------------------------------------------------------
-- Mappings that resolve
-- ---------------------------------------------------------------------------

theorem outcome_resolveMapping (context : Context) (field : String) (members : Entries Json) :
    (resolveMapping context field members).outcome =
      checkModifiers field members >>= fun _ =>
        (shorthandBuckets context field members .empty members).map Principal.ofBuckets := by
  simp only [resolveMapping, Traced.outcome_bind, Traced.outcome_lift, Traced.outcome_pure,
    Traced.outcome_emit]
  cases shorthandBuckets context field members .empty members <;> rfl

theorem contribution_of_shorthandBuckets
    (h : shorthandBuckets context field members buckets rest = .ok gathered) :
    ∀ member ∈ rest, ∃ given, contribution context field members member.1 member.2 = .ok given := by
  induction rest generalizing buckets with
  | nil => exact List.forall_mem_nil _
  | cons member rest ih =>
    obtain ⟨given, hgiven, hrest⟩ := bind_ok.1 h
    refine List.forall_mem_cons.2 ⟨⟨given, hgiven⟩, ?_⟩
    cases given with
    | none => exact ih hrest
    | some => exact ih hrest

/-- The modifiers of a mapping that resolves are in place, and every member of it contributes. -/
theorem resolveMapping_ok (h : (resolveMapping context field members).outcome = .ok principal) :
    checkModifiers field members = .ok () ∧
      (∀ member ∈ members,
        ∃ given, contribution context field members member.1 member.2 = .ok given) ∧
      ∃ buckets, principal = .ofBuckets buckets := by
  simp only [outcome_resolveMapping, bind_ok, map_ok] at h
  obtain ⟨⟨⟩, hmodifiers, buckets, hbuckets, rfl⟩ := h
  exact ⟨hmodifiers, contribution_of_shorthandBuckets hbuckets, buckets, rfl⟩

-- ---------------------------------------------------------------------------
-- Literal principals
-- ---------------------------------------------------------------------------

theorem contribution_tag (context : Context) (field : String) (members : Entries Json)
    (kind : PrincipalKind) (value : Json) :
    contribution context field members kind.tag value =
      value.stringList field >>= fun texts => .ok (some (kind, texts)) := by
  cases kind <;> rfl

theorem literalBuckets_cons_ok :
    literalBuckets field buckets ((key, value) :: rest) = .ok gathered ↔
      ∃ kind : PrincipalKind, key = kind.tag ∧ ∃ texts, value.stringList field = .ok texts ∧
        literalBuckets field (buckets.extend kind texts) rest = .ok gathered := by
  simp only [literalBuckets]
  cases hkind : PrincipalKind.ofTag? key with
  | none =>
    refine iff_of_false (by simp) ?_
    rintro ⟨kind, rfl, -⟩
    simp [ofTag?_tag] at hkind
  | some kind =>
    obtain rfl := eq_tag_of_ofTag? hkind
    have hinj {other : PrincipalKind} (h : kind.tag = other.tag) : kind = other := by
      simpa [h, ofTag?_tag] using hkind.symm
    simp only [bind_ok]
    constructor
    · exact fun h => ⟨kind, rfl, h⟩
    · rintro ⟨other, hother, h⟩
      obtain rfl := hinj hother
      exact h

theorem tags_of_literalBuckets (h : literalBuckets field buckets rest = .ok gathered) :
    ∀ member ∈ rest, ∃ kind : PrincipalKind, member.1 = kind.tag := by
  induction rest generalizing buckets with
  | nil => exact List.forall_mem_nil _
  | cons member rest ih =>
    obtain ⟨kind, hkey, texts, -, hrest⟩ := literalBuckets_cons_ok.1 h
    exact List.forall_mem_cons.2 ⟨⟨kind, hkey⟩, ih hrest⟩

theorem shorthandBuckets_of_literal (context : Context) (other : String) (members : Entries Json)
    (h : literalBuckets field buckets rest = .ok gathered) :
    shorthandBuckets context other members buckets rest = .ok gathered := by
  induction rest generalizing buckets with
  | nil => exact h
  | cons member rest ih =>
    obtain ⟨key, value⟩ := member
    obtain ⟨kind, rfl, texts, htexts, hrest⟩ := literalBuckets_cons_ok.1 h
    have htexts : value.stringList other = .ok texts :=
      Json.stringList_ok.2 (Json.stringList_ok.1 htexts)
    simp only [shorthandBuckets, contribution_tag, htexts]
    exact ih hrest

theorem tag_ne_modifier (kind : PrincipalKind) : kind.tag ≠ "account" ∧ kind.tag ≠ "users" := by
  cases kind <;> decide

theorem checkModifiers_of_literal (other : String)
    (h : literalBuckets field buckets members = .ok gathered) :
    checkModifiers other members = .ok () := by
  have habsent {key : String} (hkey : ∀ kind : PrincipalKind, kind.tag ≠ key) :
      members.has key = false := by
    refine Entries.has_eq_false_iff.2 (Entries.find?_eq_none_iff.2 fun member hmember => ?_)
    obtain ⟨kind, htag⟩ := tags_of_literalBuckets h member hmember
    exact htag ▸ hkey kind
  simp [checkModifiers, habsent fun kind => (tag_ne_modifier kind).1,
    habsent fun kind => (tag_ne_modifier kind).2]

theorem resolveEntry_of_literal (context : Context) (other : String)
    (h : ofLiteral field value = .ok entry) :
    (resolveEntry context other value).outcome = .ok entry := by
  cases value with
  | str text => exact h
  | obj members =>
    obtain ⟨buckets, hbuckets, hentry⟩ := bind_ok.1 h
    simp only [resolveEntry, outcome_resolveMapping, Traced.outcome_bind,
      checkModifiers_of_literal other hbuckets,
      shorthandBuckets_of_literal context other _ hbuckets]
    exact hentry
  | _ => cases h

theorem resolve_of_literals (context : Context) (other : String)
    (h : ofLiterals field value = .ok entries) :
    (resolve context other value).outcome = .ok entries :=
  Traced.each_ok.2 ((mapM_ok.1 h).imp fun _ _ => resolveEntry_of_literal context other)

end

end AccessPolicy.PrincipalEntry
