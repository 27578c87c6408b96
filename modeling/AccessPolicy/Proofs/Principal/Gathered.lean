import Mathlib.Algebra.BigOperators.Group.Multiset.Basic
import AccessPolicy.Proofs.Principal.Alike

/-!
# What merged principals name

Entries merge to a string that stands alone, or to the mapping of all strings that they name, each
as often as they name it (`merge_gathered`).
-/

namespace AccessPolicy

/-- The shape of strings whose order does not count. -/
inductive ListShape.Shapes : Multiset String → Option ListShape → Prop
  | absent : Shapes 0 none
  | one (text : String) : Shapes {text} (some (.one text))
  | many {texts : List String} (hlong : 2 ≤ texts.length) (hascending : texts.Pairwise (· ≤ ·)) :
    Shapes ↑texts (some (.many texts))

namespace PrincipalEntry

def isLiteral : PrincipalEntry → Bool
  | .literal _ => true
  | .mapping _ => false

def named (kind : PrincipalKind) : PrincipalEntry → Multiset String
  | .literal _ => 0
  | .mapping principal => ↑(principal.strings kind)

/-- The strings that entries name for a kind, as often as all of them together name them. -/
def gathered (entries : List PrincipalEntry) (kind : PrincipalKind) : Multiset String :=
  (entries.map (named kind)).sum

def Conflicting (entries : List PrincipalEntry) : Prop :=
  2 ≤ entries.countP isLiteral ∨
    entries.countP isLiteral = 1 ∧ ∃ entry ∈ entries, entry.isLiteral = false

/-- The value that entries merge to: a string alone, or a mapping of all strings that mappings
name, unless they name none. -/
inductive MergesTo : List PrincipalEntry → Option PrincipalEntry → Prop
  | literal (text : String) : MergesTo [.literal text] (some (.literal text))
  | nobody (hmappings : ∀ entry ∈ entries, entry.isLiteral = false)
      (hnobody : ∀ kind, gathered entries kind = 0) : MergesTo entries none
  | mapping (hmappings : ∀ entry ∈ entries, entry.isLiteral = false)
      (hsomebody : ∃ kind, gathered entries kind ≠ 0)
      (hshapes : ∀ kind, ListShape.Shapes (gathered entries kind) (principal.get? kind)) :
      MergesTo entries (some (.mapping principal))

end PrincipalEntry

-- ---------------------------------------------------------------------------
-- Shapes
-- ---------------------------------------------------------------------------

namespace ListShape

theorem shapes_canonical? (texts : List String) : Shapes ↑texts (canonical? texts) := by
  rcases canonical?_cases texts with ⟨rfl, -⟩ | ⟨text, rfl, -⟩ | ⟨hmany, hlong⟩
  · exact .absent
  · exact .one text
  · rw [hmany, ← Multiset.coe_eq_coe.2 (ascending_perm texts)]
    refine .many ?_ (pairwise_ascending texts)
    rwa [(ascending_perm texts).length_eq]

theorem Shapes.eq_canonical? {texts : List String} (h : Shapes ↑texts shape) :
    shape = canonical? texts := by
  generalize hstrings : (↑texts : Multiset String) = strings at h
  cases h with
  | absent =>
    rw [(Multiset.coe_eq_zero texts).1 hstrings]
    rfl
  | one text =>
    rw [Multiset.coe_eq_singleton.1 hstrings]
    rfl
  | many hlong hascending =>
    exact (canonical?_eq_many (Multiset.coe_eq_coe.1 hstrings).symm hascending hlong).symm

theorem Shapes.strings_eq (h : Shapes strings shape) :
    ↑((shape.map toList).getD []) = strings := by
  cases h <;> rfl

end ListShape

theorem Principal.eq_of_get?_eq {principal other : Principal}
    (h : ∀ kind, principal.get? kind = other.get? kind) : principal = other := by
  obtain ⟨aws, federated, service⟩ := principal
  exact congr (congr (congrArg mk (h .aws)) (h .federated)) (h .service)

namespace PrincipalEntry

variable {entries others : List PrincipalEntry} {kind : PrincipalKind}

-- ---------------------------------------------------------------------------
-- Strings and mappings
-- ---------------------------------------------------------------------------

theorem length_literals (entries : List PrincipalEntry) :
    (literals entries).length = entries.countP isLiteral := by
  induction entries with
  | nil => rfl
  | cons entry rest ih =>
    rw [literals] at ih
    cases entry <;> simp [literals, List.countP_cons, isLiteral, ih]

theorem literals_eq_nil_iff :
    literals entries = [] ↔ ∀ entry ∈ entries, entry.isLiteral = false := by
  rw [← List.length_eq_zero_iff, length_literals, List.countP_eq_zero]
  simp

theorem mappings_eq_nil_iff :
    mappings entries = [] ↔ ∀ entry ∈ entries, entry.isLiteral = true := by
  induction entries with
  | nil => simp [mappings]
  | cons entry rest ih => cases entry <;> simp_all [mappings, isLiteral]

theorem gathered_cons (entry : PrincipalEntry) (rest : List PrincipalEntry)
    (kind : PrincipalKind) :
    gathered (entry :: rest) kind = entry.named kind + gathered rest kind := rfl

theorem gathered_append (entries others : List PrincipalEntry) (kind : PrincipalKind) :
    gathered (entries ++ others) kind = gathered entries kind + gathered others kind := by
  rw [gathered, List.map_append, List.sum_append, ← gathered, ← gathered]

theorem gathered_eq (entries : List PrincipalEntry) (kind : PrincipalKind) :
    gathered entries kind = ↑(union (mappings entries) kind) := by
  induction entries with
  | nil => rfl
  | cons entry rest ih =>
    rw [gathered_cons, ih]
    cases entry with
    | literal _ => exact zero_add _
    | mapping principal => exact Multiset.coe_add ..

/-- What entries merge to depends on no more than what they name. -/
theorem MergesTo.congr (hmappings : ∀ entry ∈ entries, entry.isLiteral = false)
    (hothers : ∀ entry ∈ others, entry.isLiteral = false)
    (h : ∀ kind, gathered entries kind = gathered others kind) :
    MergesTo entries merged ↔ MergesTo others merged := by
  have hmerges {first second : List PrincipalEntry}
      (hfirst : ∀ entry ∈ first, entry.isLiteral = false)
      (hsecond : ∀ entry ∈ second, entry.isLiteral = false)
      (h : ∀ kind, gathered first kind = gathered second kind) (hto : MergesTo first merged) :
      MergesTo second merged := by
    cases hto with
    | literal text => cases hfirst _ List.mem_cons_self
    | nobody _ hnobody => exact .nobody hsecond fun kind => h kind ▸ hnobody kind
    | mapping _ hsomebody hshapes =>
      simp only [h] at hsomebody hshapes
      exact .mapping hsecond hsomebody hshapes
  exact ⟨hmerges hmappings hothers h, hmerges hothers hmappings fun kind => (h kind).symm⟩

/-- Nothing is lost and nothing is invented. -/
theorem MergesTo.gathered_eq (h : MergesTo entries merged) (kind : PrincipalKind) :
    gathered merged.toList kind = gathered entries kind := by
  cases h with
  | literal text => rfl
  | nobody _ hnobody => exact (hnobody kind).symm
  | mapping _ _ hshapes => exact (add_zero _).trans (hshapes kind).strings_eq

-- ---------------------------------------------------------------------------
-- Merging
-- ---------------------------------------------------------------------------

theorem merge_of_mappings (h : ∀ entry ∈ entries, entry.isLiteral = false) :
    merge entries = .ok merged ↔ MergesTo entries merged := by
  have hnobody : (Principal.ofBuckets (union (mappings entries))).isEmpty = true ↔
      ∀ kind, gathered entries kind = 0 := by
    simp only [isEmpty_ofBuckets_iff, gathered_eq, Multiset.coe_eq_zero]
  rw [merge_of_no_literal (literals_eq_nil_iff.2 h), Except.ok.injEq]
  constructor
  · rintro rfl
    split
    · next hempty => exact .nobody h (hnobody.1 hempty)
    · next hnonempty =>
      refine .mapping h (not_forall.1 (mt hnobody.2 hnonempty)) fun kind => ?_
      rw [gathered_eq, Principal.get?_ofBuckets]
      exact ListShape.shapes_canonical? _
  · intro hto
    cases hto with
    | literal text => cases h _ List.mem_cons_self
    | nobody _ hnone => rw [if_pos (hnobody.2 hnone)]
    | @mapping _ principal _ hsomebody hshapes =>
      rw [if_neg (mt hnobody.1 (not_forall.2 hsomebody))]
      have hprincipal : Principal.ofBuckets (union (mappings entries)) = principal := by
        refine Principal.eq_of_get?_eq fun kind => ?_
        rw [Principal.get?_ofBuckets]
        exact (ListShape.Shapes.eq_canonical? (gathered_eq entries kind ▸ hshapes kind)).symm
      rw [hprincipal]

theorem eq_literal (hliterals : literals entries = [text]) (hmappings : mappings entries = []) :
    entries = [.literal text] := by
  rw [mappings_eq_nil_iff] at hmappings
  match entries with
  | .literal first :: rest =>
    obtain ⟨rfl, hrest⟩ := List.cons.inj hliterals
    have hnone := literals_eq_nil_iff.1 hrest
    obtain rfl : rest = [] := by
      refine List.eq_nil_iff_forall_not_mem.2 fun entry hentry => ?_
      cases (hmappings entry (.tail _ hentry)).symm.trans (hnone entry hentry)
    rfl
  | .mapping _ :: _ => cases hmappings _ List.mem_cons_self

theorem conflicting_or (entries : List PrincipalEntry) :
    (∀ entry ∈ entries, entry.isLiteral = false) ∨ (∃ text, entries = [.literal text]) ∨
      Conflicting entries ∧ ∃ reason, merge entries = .error (.principalConflict reason) := by
  have hcount := length_literals entries
  -- by the number of strings: none, one, more
  rcases hliterals : literals entries with _ | ⟨text, _ | ⟨second, more⟩⟩
  · exact .inl (literals_eq_nil_iff.1 hliterals)
  · rw [hliterals] at hcount
    cases hmappings : mappings entries with
    | nil => exact .inr (.inl ⟨text, eq_literal hliterals hmappings⟩)
    | cons principal rest =>
      have hmapping : ¬∀ entry ∈ entries, entry.isLiteral = true := by
        rw [← mappings_eq_nil_iff, hmappings]
        exact List.cons_ne_nil _ _
      refine .inr (.inr ⟨.inr ⟨hcount.symm, by simpa using hmapping⟩, ?_⟩)
      rw [merge, hliterals, hmappings]
      exact ⟨_, rfl⟩
  · rw [hliterals] at hcount
    refine .inr (.inr ⟨.inl (hcount ▸ Nat.le_add_left ..), ?_⟩)
    rw [merge, hliterals]
    exact ⟨_, rfl⟩

theorem MergesTo.not_conflicting (h : MergesTo entries merged) : ¬Conflicting entries := by
  have hnone (hmappings : ∀ entry ∈ entries, entry.isLiteral = false) : ¬Conflicting entries := by
    have hcount : entries.countP isLiteral = 0 := by simpa [List.countP_eq_zero] using hmappings
    simp [Conflicting, hcount]
  cases h with
  | literal text => simp [Conflicting, isLiteral]
  | nobody hmappings _ => exact hnone hmappings
  | mapping hmappings _ _ => exact hnone hmappings

theorem merge_ok_iff : merge entries = .ok merged ↔ MergesTo entries merged := by
  rcases conflicting_or entries with hmappings | ⟨text, rfl⟩ | ⟨hconflict, reason, herror⟩
  · exact merge_of_mappings hmappings
  · constructor
    · intro h
      obtain rfl := Except.ok.inj h
      exact .literal text
    · intro h
      cases h with
      | literal => rfl
      | nobody hmappings _ | mapping hmappings _ _ => cases hmappings _ List.mem_cons_self
  · rw [herror]
    exact iff_of_false (fun h => nomatch h) fun h => h.not_conflicting hconflict

theorem merge_error_iff : (∃ error, merge entries = .error error) ↔ Conflicting entries := by
  cases hmerge : merge entries with
  | ok merged => simpa using (merge_ok_iff.1 hmerge).not_conflicting
  | error error =>
    rcases conflicting_or entries with hmappings | ⟨text, rfl⟩ | ⟨hconflict, -⟩
    · rw [merge_of_no_literal (literals_eq_nil_iff.2 hmappings)] at hmerge
      cases hmerge
    · cases hmerge
    · exact iff_of_true ⟨error, rfl⟩ hconflict

theorem exists_merge_of_mappings (h : ∀ entry ∈ entries, entry.isLiteral = false) :
    ∃ merged, merge entries = .ok merged := ⟨_, merge_of_no_literal (literals_eq_nil_iff.2 h)⟩

theorem MergesTo.mappings (h : MergesTo entries merged)
    (hmappings : ∀ entry ∈ entries, entry.isLiteral = false) :
    ∀ entry ∈ merged.toList, entry.isLiteral = false := by
  cases h with
  | literal text => exact hmappings
  | nobody => exact List.forall_mem_nil _
  | mapping => exact List.forall_mem_singleton.2 rfl

theorem merge_append (h : ∀ entry ∈ entries ++ others, entry.isLiteral = false) :
    ∃ first second, merge entries = .ok first ∧ merge others = .ok second ∧
      merge (entries ++ others) = merge (first.toList ++ second.toList) := by
  obtain ⟨hentries, hothers⟩ := List.forall_mem_append.1 h
  obtain ⟨first, hfirst⟩ := exists_merge_of_mappings hentries
  obtain ⟨second, hsecond⟩ := exists_merge_of_mappings hothers
  obtain ⟨merged, hmerged⟩ := exists_merge_of_mappings h
  refine ⟨first, second, hfirst, hsecond, hmerged.trans ?_⟩
  rw [merge_ok_iff] at hfirst hsecond hmerged
  have hparts := List.forall_mem_append.2 ⟨hfirst.mappings hentries, hsecond.mappings hothers⟩
  refine (merge_ok_iff.2 ((MergesTo.congr h hparts fun kind => ?_).1 hmerged)).symm
  rw [gathered_append, gathered_append, hfirst.gathered_eq, hsecond.gathered_eq]

theorem merge_perm (h : entries.Perm others) :
    merge entries = .ok merged ↔ merge others = .ok merged := by
  have hfollows {first second : List PrincipalEntry} (h : first.Perm second)
      (hmerge : merge first = .ok merged) : merge second = .ok merged := by
    obtain ⟨_, hsecond, rfl⟩ := follows_merge h merged hmerge
    exact hsecond
  exact ⟨hfollows h, hfollows h.symm⟩

/-- Entries merge to what all of them name, in any order and in any parts, unless strings are in
conflict. -/
theorem merge_gathered (entries : List PrincipalEntry) :
    ((∃ error, merge entries = .error error) ↔ Conflicting entries) ∧
    (∀ error, merge entries = .error error → ∃ reason, error = .principalConflict reason) ∧
    (∀ merged, merge entries = .ok merged ↔ MergesTo entries merged) ∧
    (∀ others, entries.Perm others →
      ((∃ error, merge entries = .error error) ↔ ∃ error, merge others = .error error) ∧
      ∀ merged, merge entries = .ok merged ↔ merge others = .ok merged) ∧
    (∀ merged, merge entries = .ok merged → merge merged.toList = .ok merged) ∧
    ∀ others, (∀ entry ∈ entries ++ others, entry.isLiteral = false) →
      ∃ first second, merge entries = .ok first ∧ merge others = .ok second ∧
        merge (entries ++ others) = merge (first.toList ++ second.toList) := by
  refine ⟨merge_error_iff, fun error herror => ?_, fun _ => merge_ok_iff, fun others hperm => ?_,
    fun _ => merge_merged, fun _ => merge_append⟩
  · rcases conflicting_or entries with hmappings | ⟨text, rfl⟩ | ⟨-, reason, hreason⟩
    · obtain ⟨_, hmerge⟩ := exists_merge_of_mappings hmappings
      cases hmerge.symm.trans herror
    · cases herror
    · exact ⟨reason, Except.error.inj (herror.symm.trans hreason)⟩
  · refine ⟨?_, fun _ => merge_perm hperm⟩
    have hcount : entries.countP isLiteral = others.countP isLiteral := hperm.countP_eq _
    simp only [merge_error_iff, Conflicting, hcount, hperm.mem_iff]

/-- A string that two mappings name is named twice, and an empty bucket is dropped. -/
theorem merge_gathered_repeated :
    let entries : List PrincipalEntry :=
      [.mapping ⟨some (.many ["b", "a"]), none, some (.many [])⟩,
        .mapping ⟨some (.one "a"), none, none⟩]
    MergesTo entries (some (.mapping ⟨some (.many ["a", "a", "b"]), none, none⟩)) ∧
      (∀ entry ∈ entries ++ entries, entry.isLiteral = false) ∧
      ∃ merged, merge entries = .ok merged ∧
        merge (entries ++ entries) = merge (merged.toList ++ merged.toList) := by
  intro entries
  obtain ⟨-, -, hmerges, -, -, hparts⟩ := merge_gathered entries
  have hmappings : ∀ entry ∈ entries ++ entries, entry.isLiteral = false := by decide
  obtain ⟨first, second, hfirst, hsecond, hmerge⟩ := hparts entries hmappings
  obtain rfl := Except.ok.inj (hfirst.symm.trans hsecond)
  have hshape : ListShape.canonical? ["b", "a", "a"] = some (.many ["a", "a", "b"]) :=
    ListShape.canonical?_eq_many (.trans (.cons _ (.swap ..)) (.swap ..)) (by decide) (by decide)
  have hmerged :
      merge entries = .ok (some (.mapping ⟨some (.many ["a", "a", "b"]), none, none⟩)) := by
    rw [← hshape]
    rfl
  exact ⟨(hmerges _).1 hmerged, hmappings, first, hfirst, hmerge⟩

end PrincipalEntry

end AccessPolicy
