import AccessPolicy.Principal.Basic
import AccessPolicy.Principal.Reader
import AccessPolicy.Proofs.ListShape

/-!
# Merged principals

Merging leaves a merged value as it is (`merge_merged`), and its canonical spelling is read
literally (`ofLiterals_toJson`).
-/

namespace AccessPolicy

def PrincipalEntry.Merged : PrincipalEntry → Prop
  | .literal _ => True
  | .mapping principal => principal.isEmpty = false ∧ ∃ buckets, principal = .ofBuckets buckets

-- ---------------------------------------------------------------------------
-- Buckets
-- ---------------------------------------------------------------------------

def Principal.strings (principal : Principal) : Buckets :=
  fun kind => ((principal.get? kind).map ListShape.toList).getD []

theorem Principal.get?_ofBuckets (buckets : Buckets) (kind : PrincipalKind) :
    (ofBuckets buckets).get? kind = ListShape.canonical? (buckets kind) := by
  cases kind <;> rfl

theorem Principal.strings_ofBuckets (buckets : Buckets) (kind : PrincipalKind) :
    (ofBuckets buckets).strings kind = ascending (buckets kind) := by
  rw [strings, get?_ofBuckets]
  cases hshape : ListShape.canonical? (buckets kind) with
  | none =>
    rw [ListShape.canonical?_eq_none_iff.1 hshape, ascending_nil]
    rfl
  | some shape => exact ListShape.toList_canonical? hshape

theorem Principal.ofBuckets_congr {buckets others : Buckets}
    (h : ∀ kind, ListShape.canonical? (buckets kind) = ListShape.canonical? (others kind)) :
    ofBuckets buckets = ofBuckets others := by
  rw [ofBuckets, ofBuckets, h .aws, h .federated, h .service]

theorem Principal.ofBuckets_strings (buckets : Buckets) :
    ofBuckets (ofBuckets buckets).strings = ofBuckets buckets := by
  apply ofBuckets_congr
  intro kind
  rw [strings_ofBuckets, ListShape.canonical?_ascending]

namespace PrincipalEntry

-- ---------------------------------------------------------------------------
-- Merging
-- ---------------------------------------------------------------------------

theorem merge_of_no_literal (h : literals entries = []) :
    merge entries = .ok (if (Principal.ofBuckets (union (mappings entries))).isEmpty then none
      else some (.mapping (.ofBuckets (union (mappings entries))))) := by
  rw [merge, h]
  cases mappings entries <;> rfl

theorem merge_mappings (principals : List Principal) :
    merge (principals.map .mapping) =
      .ok (if (Principal.ofBuckets (union principals)).isEmpty then none
        else some (.mapping (.ofBuckets (union principals)))) := by
  have hliterals : literals (principals.map .mapping) = [] := by
    simp [literals, List.filterMap_map]
  have hmappings : mappings (principals.map .mapping) = principals := by
    simp [mappings, List.filterMap_map]
  rw [merge_of_no_literal hliterals, hmappings]

theorem merge_ofBuckets (buckets : Buckets) :
    merge [.mapping (.ofBuckets buckets)] =
      .ok (if (Principal.ofBuckets buckets).isEmpty then none
        else some (.mapping (.ofBuckets buckets))) := by
  have hunion : union [Principal.ofBuckets buckets] = (Principal.ofBuckets buckets).strings := by
    funext kind
    exact List.append_nil _
  have hmerge := merge_mappings [Principal.ofBuckets buckets]
  rwa [hunion, Principal.ofBuckets_strings] at hmerge

theorem merge_merged_entry {entry : PrincipalEntry} (h : entry.Merged) :
    merge [entry] = .ok (some entry) := by
  cases entry with
  | literal text => rfl
  | mapping principal =>
    obtain ⟨hnonempty, buckets, rfl⟩ := h
    rw [merge_ofBuckets, hnonempty]
    rfl

theorem merged_of_merge (h : merge entries = .ok (some entry)) : entry.Merged := by
  rw [merge] at h
  split at h
  · cases h
  · cases h
    trivial
  · obtain h := Except.ok.inj h
    split at h
    · cases h
    · next hnonempty =>
      cases h
      exact ⟨Bool.eq_false_iff.2 hnonempty, _, rfl⟩
  · cases h
  · cases h

theorem merge_merged (h : merge entries = .ok merged) : merge merged.toList = .ok merged := by
  cases merged with
  | none => rfl
  | some entry => exact merge_merged_entry (merged_of_merge h)

-- ---------------------------------------------------------------------------
-- Merging to nothing
-- ---------------------------------------------------------------------------

def NamesNobody : PrincipalEntry → Prop
  | .literal _ => False
  | .mapping principal => ∀ kind, principal.strings kind = []

theorem isEmpty_ofBuckets_iff (buckets : Buckets) :
    (Principal.ofBuckets buckets).isEmpty = true ↔ ∀ kind, buckets kind = [] := by
  have hall (kind : PrincipalKind) : kind ∈ PrincipalKind.all := by cases kind <;> decide
  simp [Principal.isEmpty, Principal.buckets, Principal.get?_ofBuckets, hall]

theorem union_eq_nil_iff (principals : List Principal) :
    (∀ kind, union principals kind = []) ↔
      ∀ principal ∈ principals, ∀ kind, principal.strings kind = [] := by
  simp only [union, List.flatMap_eq_nil_iff]
  exact forall_comm.trans (forall_congr' fun _ => forall_comm)

theorem namesNobody_iff (h : literals entries = []) :
    (∀ entry ∈ entries, entry.NamesNobody) ↔
      ∀ principal ∈ mappings entries, ∀ kind, principal.strings kind = [] := by
  constructor
  · intro hnobody principal hprincipal
    obtain ⟨entry, hentry, hmapping⟩ := List.mem_filterMap.1 hprincipal
    cases entry with
    | literal _ => cases hmapping
    | mapping _ =>
      obtain rfl := Option.some.inj hmapping
      exact hnobody _ hentry
  · intro hnobody entry hentry
    cases entry with
    | literal text =>
      have hliteral : text ∈ literals entries := List.mem_filterMap.2 ⟨_, hentry, rfl⟩
      simp [h] at hliteral
    | mapping principal => exact hnobody principal (List.mem_filterMap.2 ⟨_, hentry, rfl⟩)

theorem merge_eq_none_iff (h : merge entries = .ok merged) :
    merged = none ↔ ∀ entry ∈ entries, entry.NamesNobody := by
  cases hliterals : literals entries with
  | nil =>
    rw [merge_of_no_literal hliterals] at h
    rw [namesNobody_iff hliterals, ← union_eq_nil_iff, ← isEmpty_ofBuckets_iff]
    obtain rfl := Except.ok.inj h
    split <;> simp [*]
  | cons text rest =>
    have hmem : text ∈ literals entries := hliterals ▸ List.mem_cons_self
    obtain ⟨entry, hentry, hliteral⟩ := List.mem_filterMap.1 hmem
    refine iff_of_false (fun hnone => ?_) fun hnobody => ?_
    · subst hnone
      rw [merge, hliterals] at h
      split at h <;> simp_all
    · cases entry with
      | literal _ => exact hnobody _ hentry
      | mapping _ => cases hliteral

-- ---------------------------------------------------------------------------
-- Reading the canonical spelling
-- ---------------------------------------------------------------------------

theorem ofTag?_tag (kind : PrincipalKind) : PrincipalKind.ofTag? kind.tag = some kind := by
  cases kind <;> rfl

theorem eq_tag_of_ofTag? (h : PrincipalKind.ofTag? key = some kind) : key = kind.tag := by
  have hfound := List.find?_some h
  exact (of_decide_eq_true hfound).symm

theorem literalBuckets_shapes (field : String) (buckets : Buckets)
    (shapes : List (PrincipalKind × ListShape)) :
    literalBuckets field buckets (shapes.map fun (kind, shape) => (kind.tag, shape.toJson)) =
      .ok (shapes.foldl (fun buckets (kind, shape) => buckets.extend kind shape.toList)
        buckets) := by
  induction shapes generalizing buckets with
  | nil => rfl
  | cons entry rest ih =>
    rw [List.map_cons, literalBuckets, ofTag?_tag, ListShape.stringList_toJson]
    exact ih _

theorem gathered_buckets (principal : Principal) (kind : PrincipalKind) :
    principal.buckets.foldl (fun buckets (kind, shape) => buckets.extend kind shape.toList)
      Buckets.empty kind = principal.strings kind := by
  obtain ⟨aws, federated, service⟩ := principal
  cases aws <;> cases federated <;> cases service <;> cases kind <;> rfl

theorem ofLiteral_toJson {entry : PrincipalEntry} (field : String) (h : entry.Merged) :
    ofLiteral field entry.toJson = .ok entry := by
  cases entry with
  | literal text => rfl
  | mapping principal =>
    obtain ⟨-, buckets, rfl⟩ := h
    have hread := literalBuckets_shapes field .empty (Principal.ofBuckets buckets).buckets
    have hgathered := funext (gathered_buckets (Principal.ofBuckets buckets))
    rw [hgathered] at hread
    show (literalBuckets field .empty _ >>= _) = _
    rw [hread]
    exact congrArg (fun principal => Except.ok (mapping principal))
      (Principal.ofBuckets_strings buckets)

theorem ofLiterals_toJson {entry : PrincipalEntry} (field : String) (h : entry.Merged) :
    ofLiterals field entry.toJson = .ok [entry] := by
  have hentries : entry.toJson.entries = [entry.toJson] := by
    cases entry <;> rfl
  rw [ofLiterals, hentries, mapM_ok]
  exact .cons (ofLiteral_toJson field h) .nil

theorem isNull_toJson (entry : PrincipalEntry) : entry.toJson.isNull = false := by
  cases entry <;> rfl

end PrincipalEntry

end AccessPolicy
