import Mathlib.Data.List.Forall2
import AccessPolicy.Proofs.Diff.SortedItems

/-!
# Documents up to the order of their unordered lists

`Equivalent` says which documents differ in no more than the order of those lists that have none. It
is what equality of normal forms comes to (`normal_eq_iff`).
-/

namespace AccessPolicy.Json

-- ---------------------------------------------------------------------------
-- Equivalence
-- ---------------------------------------------------------------------------

/-- Two members with one key are the same, or lists with the same elements under a key whose lists
have no order. -/
def Reordered (unordered : List String) (key : String) (a b : Option Json) : Prop :=
  a = b ∨ key ∈ unordered ∧ ∃ as bs, a = some (.arr as) ∧ b = some (.arr bs) ∧ as.Perm bs

def SamePrincipals (as bs : Entries Json) : Prop :=
  ∀ bucket, Reordered bucketKeys bucket (as.find? bucket) (bs.find? bucket)

/-- Two members of statements with one key that say the same. -/
def SameMember (key : String) (a b : Option Json) : Prop :=
  Reordered unorderedKeys key a b ∨
    key ∈ principalKeys ∧ ∃ as bs, a = some (.obj as) ∧ b = some (.obj bs) ∧ SamePrincipals as bs

/-- Documents, lists of statements and statements that say the same. -/
inductive Equivalent : Json → Json → Prop
  | same (value : Json) : Equivalent value value
  | arrays (items : List.Forall₂ Equivalent as bs) : Equivalent (.arr as) (.arr bs)
  | documents {as bs : Entries Json} (current : as.find? "Statement" = some a)
      (new : bs.find? "Statement" = some b) (statement : Equivalent a b)
      (others : ∀ key ≠ "Statement", as.find? key = bs.find? key) : Equivalent (.obj as) (.obj bs)
  | statements {as bs : Entries Json} (current : as.find? "Statement" = none)
      (new : bs.find? "Statement" = none)
      (members : ∀ key, SameMember key (as.find? key) (bs.find? key)) :
      Equivalent (.obj as) (.obj bs)

-- ---------------------------------------------------------------------------
-- Members of normal forms
-- ---------------------------------------------------------------------------

section
variable {members : Entries Json} {key name : String} {f : Json → Json}

theorem keys_adjust : (adjust name f members).map (·.1) = members.map (·.1) := by
  rw [adjust, List.map_map]
  apply List.map_congr_left
  intro member _
  rw [Function.comp]
  split
  split <;> rfl

theorem find?_adjust : (adjust name f members).find? key =
    if key = name then (members.find? key).map f else members.find? key := by
  induction members with
  | nil => simp [adjust]
  | cons member rest ih =>
    rw [adjust, List.map_cons, ← adjust, Entries.find?_cons, ih, Entries.find?_cons]
    split
    split <;> split <;> simp_all

theorem keys_foldl_adjust {keys : List String} :
    (keys.foldl (fun members name => adjust name f members) members).map (·.1) =
      members.map (·.1) := by
  induction keys generalizing members with
  | nil => rfl
  | cons name rest ih => rw [List.foldl_cons, ih, keys_adjust]

theorem find?_foldl_adjust {keys : List String} (hn : keys.Nodup) :
    Entries.find? key (keys.foldl (fun members name => adjust name f members) members) =
      if key ∈ keys then (members.find? key).map f else members.find? key := by
  induction keys generalizing members with
  | nil => simp
  | cons name rest ih =>
    obtain ⟨hfresh, hrest⟩ := List.nodup_cons.1 hn
    rw [List.foldl_cons, ih hrest, find?_adjust]
    by_cases hname : key = name
    · subst hname
      simp [hfresh]
    · simp [hname]

theorem adjust_eq_self (h : ∀ member ∈ members, member.1 = name → f member.2 = member.2) :
    adjust name f members = members := by
  refine (List.map_congr_left fun member hmember => ?_).trans (List.map_id members)
  split
  split
  · next hname => exact congrArg (Prod.mk _) (h _ hmember hname)
  · rfl

theorem foldl_adjust_eq_self {keys : List String}
    (h : ∀ member ∈ members, member.1 ∈ keys → f member.2 = member.2) :
    keys.foldl (fun members name => adjust name f members) members = members := by
  induction keys with
  | nil => rfl
  | cons name rest ih =>
    have hhead : adjust name f members = members :=
      adjust_eq_self fun member hmember hname => h member hmember (hname ▸ List.mem_cons_self)
    rw [List.foldl_cons, hhead]
    exact ih fun member hmember hkey => h member hmember (List.mem_cons_of_mem _ hkey)

theorem normalStatement_eq_self
    (hprincipals : ∀ member ∈ members, member.1 ∈ principalKeys →
      normalPrincipal member.2 = member.2)
    (hlists : ∀ member ∈ members, member.1 ∈ unorderedKeys → sortList member.2 = member.2) :
    normalStatement members = members := by
  rw [normalStatement, foldl_adjust_eq_self hprincipals, foldl_adjust_eq_self hlists]

theorem not_principal_of_unordered : ∀ key ∈ unorderedKeys, key ∉ principalKeys := by decide

theorem find?_normalStatement : Entries.find? key (normalStatement members) =
    if key ∈ unorderedKeys then (members.find? key).map sortList
    else if key ∈ principalKeys then (members.find? key).map normalPrincipal
    else members.find? key := by
  rw [normalStatement, find?_foldl_adjust (by decide), find?_foldl_adjust (by decide)]
  split
  · next hkey =>
    have hother := not_principal_of_unordered key hkey
    rw [if_neg hother]
  · rfl

theorem keys_normalStatement : (normalStatement members).map (·.1) = members.map (·.1) := by
  rw [normalStatement, keys_foldl_adjust, keys_foldl_adjust]

theorem normalDocument_eq :
    normalDocument members = adjust "Statement" normal members := by
  induction members with
  | nil => simp [normalDocument, adjust]
  | cons member rest ih =>
    rw [normalDocument, ih, adjust, adjust, List.map_cons]
    split
    · simp_all
    · simp_all

theorem normalItems_eq (items : List Json) : normalItems items = items.map normal := by
  induction items with
  | nil => rfl
  | cons item rest ih => rw [normalItems, ih, List.map_cons]

end

-- ---------------------------------------------------------------------------
-- Equal normal forms
-- ---------------------------------------------------------------------------

theorem sortList_eq_iff (h : Plain a) : sortList a = sortList b ↔
    a = b ∨ ∃ as bs, a = .arr as ∧ b = .arr bs ∧ as.Perm bs := by
  constructor
  · intro heq
    cases a with
    | arr as =>
      cases b with
      | arr bs => exact .inr ⟨as, bs, rfl, rfl, (sortItems_eq_iff (plain_arr.1 h)).1 (by
          simpa [sortList] using heq)⟩
      | _ => cases heq
    | _ => cases b <;> first | exact .inl heq | cases heq
  · rintro (rfl | ⟨as, bs, rfl, rfl, hperm⟩)
    · rfl
    · rw [sortList, sortList, (sortItems_eq_iff (plain_arr.1 h)).2 hperm]

theorem reordered_iff (h : ∀ value, a = some value → value.Plain) :
    (if key ∈ unordered then a.map sortList else a) =
      (if key ∈ unordered then b.map sortList else b) ↔ Reordered unordered key a b := by
  by_cases hkey : key ∈ unordered
  · rw [if_pos hkey, if_pos hkey, Reordered]
    cases a with
    | none => cases b <;> simp
    | some a =>
      cases b with
      | none => simp
      | some b => simp [sortList_eq_iff (h a rfl), hkey]
  · simp [hkey, Reordered]

theorem normalPrincipal_obj (members : Entries Json) :
    ∃ sorted : Entries Json, normalPrincipal (.obj members) = .obj sorted ∧
      sorted.map (·.1) = members.map (·.1) ∧
      ∀ bucket, sorted.find? bucket =
        if bucket ∈ bucketKeys then (members.find? bucket).map sortList
        else members.find? bucket :=
  ⟨_, rfl, keys_foldl_adjust, fun _ => find?_foldl_adjust (by decide)⟩

theorem samePrincipals_iff (ha : Plain (.obj as)) (hb : Plain (.obj bs)) :
    normalPrincipal (.obj as) = normalPrincipal (.obj bs) ↔ SamePrincipals as bs := by
  obtain ⟨sorteda, hsorteda, hkeysa, hfinda⟩ := normalPrincipal_obj as
  obtain ⟨sortedb, hsortedb, hkeysb, hfindb⟩ := normalPrincipal_obj bs
  have hascending := (plain_obj.1 ha).1.of_keys_eq hkeysa
  rw [hsorteda, hsortedb, obj.injEq,
    hascending.eq_iff_find?_eq ((plain_obj.1 hb).1.of_keys_eq hkeysb), SamePrincipals]
  refine forall_congr' fun bucket => ?_
  rw [hfinda, hfindb]
  exact reordered_iff fun _ hf => plain_of_find? ha hf

theorem normalPrincipal_eq_iff (ha : Plain a) (hb : Plain b) :
    normalPrincipal a = normalPrincipal b ↔
      a = b ∨ ∃ as bs, a = .obj as ∧ b = .obj bs ∧ SamePrincipals as bs := by
  constructor
  · intro heq
    cases a with
    | obj as =>
      cases b with
      | obj bs => exact .inr ⟨as, bs, rfl, rfl, (samePrincipals_iff ha hb).1 heq⟩
      | _ => cases heq
    | _ => cases b <;> first | exact .inl heq | cases heq
  · rintro (rfl | ⟨as, bs, rfl, rfl, hsame⟩)
    · rfl
    · exact (samePrincipals_iff ha hb).2 hsame

theorem sameMember_iff {as bs : Entries Json} (ha : Plain (.obj as)) (hb : Plain (.obj bs))
    (key : String) :
    (normalStatement as).find? key = (normalStatement bs).find? key ↔
      SameMember key (as.find? key) (bs.find? key) := by
  have hplain := fun value (hf : as.find? key = some value) => plain_of_find? ha hf
  rw [find?_normalStatement, find?_normalStatement]
  -- no key has both an unordered list and principals, so the three cases exclude each other
  by_cases hkey : key ∈ unorderedKeys
  · have hother := not_principal_of_unordered key hkey
    have h : _ ↔ Reordered unorderedKeys key (as.find? key) (bs.find? key) := reordered_iff hplain
    rw [if_pos hkey, if_pos hkey] at h ⊢
    simp [h, SameMember, hother]
  · rw [if_neg hkey, if_neg hkey]
    by_cases hprincipal : key ∈ principalKeys
    · rw [if_pos hprincipal, if_pos hprincipal]
      cases hfa : as.find? key with
      | none => cases bs.find? key <;> simp [SameMember, Reordered]
      | some a =>
        cases hfb : bs.find? key with
        | none => simp [SameMember, Reordered]
        | some b =>
          simp [normalPrincipal_eq_iff (plain_of_find? ha hfa) (plain_of_find? hb hfb),
            SameMember, Reordered, hkey, hprincipal]
    · simp [SameMember, Reordered, hkey, hprincipal]

theorem map_eq_map_iff_forall₂ {r : Json → Json → Prop} {f : Json → Json}
    (h : ∀ a ∈ as, ∀ b ∈ bs, f a = f b ↔ r a b) :
    as.map f = bs.map f ↔ List.Forall₂ r as bs := by
  induction as generalizing bs with
  | nil => cases bs <;> simp
  | cons a as ih =>
    cases bs with
    | nil => simp
    | cons b bs =>
      have hhead := h a List.mem_cons_self b List.mem_cons_self
      have htail := ih fun a ha b hb =>
        h a (List.mem_cons_of_mem _ ha) b (List.mem_cons_of_mem _ hb)
      simp [hhead, htail]

section
variable {as bs : Entries Json}

theorem normal_document (h : as.find? "Statement" = some a) :
    (obj as).normal = .obj (adjust "Statement" normal as) := by
  rw [normal, if_pos (Entries.has_eq_true_iff.2 ⟨a, h⟩), normalDocument_eq]

theorem normal_statement (h : as.find? "Statement" = none) :
    (obj as).normal = .obj (normalStatement as) := by
  rw [normal, if_neg (by rw [Entries.has_eq_false_iff.2 h]; exact Bool.false_ne_true)]

theorem find?_statement_normal (members : Entries Json) :
    ∃ normalized : Entries Json, (obj members).normal = .obj normalized ∧
      (normalized.find? "Statement").isSome = (members.find? "Statement").isSome := by
  cases h : members.find? "Statement" with
  | some value =>
    refine ⟨_, normal_document h, ?_⟩
    simp [find?_adjust, h]
  | none =>
    refine ⟨_, normal_statement h, ?_⟩
    simp [find?_normalStatement, h]

theorem equivalent_documents_iff (ha : as.find? "Statement" = some a)
    (hb : bs.find? "Statement" = some b) : Equivalent (.obj as) (.obj bs) ↔
      Equivalent a b ∧ ∀ key ≠ "Statement", as.find? key = bs.find? key := by
  constructor
  · intro h
    cases h with
    | same =>
      obtain rfl := Option.some.inj (ha.symm.trans hb)
      exact ⟨.same a, fun _ _ => rfl⟩
    | documents hcurrent hnew hstatement hothers =>
      obtain rfl := Option.some.inj (ha.symm.trans hcurrent)
      obtain rfl := Option.some.inj (hb.symm.trans hnew)
      exact ⟨hstatement, hothers⟩
    | statements hcurrent => cases ha.symm.trans hcurrent
  · intro ⟨hstatement, hothers⟩
    exact .documents ha hb hstatement hothers

theorem equivalent_statements_iff (ha : as.find? "Statement" = none)
    (hb : bs.find? "Statement" = none) : Equivalent (.obj as) (.obj bs) ↔
      ∀ key, SameMember key (as.find? key) (bs.find? key) := by
  constructor
  · intro h
    cases h with
    | same => exact fun _ => .inl (.inl rfl)
    | documents hcurrent => cases ha.symm.trans hcurrent
    | statements _ _ hmembers => exact hmembers
  · exact .statements ha hb

theorem not_equivalent_mixed
    (h : (as.find? "Statement").isSome ≠ (bs.find? "Statement").isSome) :
    ¬Equivalent (.obj as) (.obj bs) := by
  intro he
  cases he with
  | same => exact h rfl
  | documents hcurrent hnew => exact h (by rw [hcurrent, hnew]; rfl)
  | statements hcurrent hnew => exact h (by rw [hcurrent, hnew])

theorem normal_documents_iff (hascending : as.Ascending) (hother : bs.Ascending)
    (ha : as.find? "Statement" = some a) (hb : bs.find? "Statement" = some b) :
    (obj as).normal = (obj bs).normal ↔
      a.normal = b.normal ∧ ∀ key ≠ "Statement", as.find? key = bs.find? key := by
  rw [normal_document ha, normal_document hb, obj.injEq,
    (hascending.of_keys_eq keys_adjust).eq_iff_find?_eq (hother.of_keys_eq keys_adjust)]
  simp only [find?_adjust]
  constructor
  · intro h
    refine ⟨?_, fun key hkey => by simpa [hkey] using h key⟩
    simpa [ha, hb] using h "Statement"
  · intro ⟨hstatement, hothers⟩ key
    by_cases hkey : key = "Statement"
    · subst hkey
      simp [ha, hb, hstatement]
    · simpa [hkey] using hothers key hkey

theorem normal_statements_iff (hplain : Plain (.obj as)) (hother : Plain (.obj bs))
    (ha : as.find? "Statement" = none) (hb : bs.find? "Statement" = none) :
    (obj as).normal = (obj bs).normal ↔ ∀ key, SameMember key (as.find? key) (bs.find? key) := by
  have hascending : Entries.Ascending (normalStatement as) :=
    (plain_obj.1 hplain).1.of_keys_eq keys_normalStatement
  rw [normal_statement ha, normal_statement hb, obj.injEq,
    hascending.eq_iff_find?_eq ((plain_obj.1 hother).1.of_keys_eq keys_normalStatement)]
  exact forall_congr' (sameMember_iff hplain hother)

theorem normal_obj_iff (ha : Plain (.obj as)) (hb : Plain (.obj bs))
    (ih : ∀ a b, as.find? "Statement" = some a → bs.find? "Statement" = some b →
      (a.normal = b.normal ↔ Equivalent a b)) :
    (obj as).normal = (obj bs).normal ↔ Equivalent (.obj as) (.obj bs) := by
  by_cases hboth : (as.find? "Statement").isSome = (bs.find? "Statement").isSome
  · cases hstatement : as.find? "Statement" with
    | none =>
      have hother : bs.find? "Statement" = none := by simpa [hstatement] using hboth
      rw [normal_statements_iff ha hb hstatement hother,
        equivalent_statements_iff hstatement hother]
    | some a =>
      obtain ⟨b, hother⟩ : ∃ b, bs.find? "Statement" = some b :=
        Option.isSome_iff_exists.1 (by rw [← hboth, hstatement]; rfl)
      rw [normal_documents_iff (plain_obj.1 ha).1 (plain_obj.1 hb).1 hstatement hother,
        equivalent_documents_iff hstatement hother, ih a b hstatement hother]
  · -- a document and a statement: normal forms keep the key that tells them apart
    obtain ⟨_, hnormala, hkeepa⟩ := find?_statement_normal as
    obtain ⟨_, hnormalb, hkeepb⟩ := find?_statement_normal bs
    refine iff_of_false (fun h => hboth ?_) (not_equivalent_mixed hboth)
    rw [hnormala, hnormalb, obj.injEq] at h
    rw [← hkeepa, ← hkeepb, h]

end

/-- Normal forms leave nothing open but the order of unordered lists. -/
theorem normal_eq_iff (ha : Plain a) (hb : Plain b) : a.normal = b.normal ↔ Equivalent a b := by
  induction a using induct generalizing b with
  | arr as ih =>
    cases b with
    | arr bs =>
      have hitems := map_eq_map_iff_forall₂ fun a hmem b hmemb =>
        ih a hmem (plain_arr.1 ha a hmem) (plain_arr.1 hb b hmemb)
      rw [normal, normal, arr.injEq, normalItems_eq, normalItems_eq, hitems]
      constructor
      · exact .arrays
      · intro h
        cases h with
        | same => exact List.forall₂_same.2 fun a _ => .same a
        | arrays hrelated => exact hrelated
    -- values of different kinds have normal forms of different kinds, here and below
    | obj bs =>
      obtain ⟨_, hnormal, -⟩ := find?_statement_normal bs
      rw [hnormal, normal]
      constructor <;> intro h <;> cases h
    | _ =>
      simp only [normal]
      constructor <;> intro h <;> cases h
  | obj as ih =>
    cases b with
    | obj bs =>
      refine normal_obj_iff ha hb fun a b hstatement hother => ?_
      exact ih _ (Entries.mem_of_find? hstatement) (plain_of_find? ha hstatement)
        (plain_of_find? hb hother)
    | _ =>
      obtain ⟨_, hnormal, -⟩ := find?_statement_normal as
      rw [hnormal]
      simp only [normal]
      constructor <;> intro h <;> cases h
  | _ =>
    cases b with
    | obj bs =>
      obtain ⟨_, hnormal, -⟩ := find?_statement_normal bs
      rw [hnormal]
      simp only [normal]
      constructor <;> intro h <;> cases h
    | _ =>
      simp only [normal]
      constructor <;> intro h <;> cases h <;> constructor

-- ---------------------------------------------------------------------------
-- What normal forms keep
-- ---------------------------------------------------------------------------

/-- A predicate on values that says something about the keys of every object, and nothing else about
lists and objects. -/
structure Hereditary (P : Json → Prop) (Keys : List String → Prop) : Prop where
  arr : ∀ items, P (.arr items) ↔ ∀ item ∈ items, P item
  obj : ∀ members : Entries Json, P (.obj members) ↔
    Keys (members.map (·.1)) ∧ ∀ member ∈ members, P member.2

namespace Hereditary

variable {P : Json → Prop} {Keys : List String → Prop} {members : Entries Json} {f : Json → Json}

theorem sortList (h : Hereditary P Keys) (ha : P a) : P a.sortList := by
  cases a with
  | arr items =>
    rw [Json.sortList, h.arr]
    exact fun item hitem => (h.arr _).1 ha item ((sortItems_perm items).mem_iff.1 hitem)
  | _ => exact ha

theorem adjust (h : Hereditary P Keys) (hf : ∀ member ∈ members, P (f member.2))
    (hmembers : P (.obj members)) : P (.obj (adjust name f members)) := by
  obtain ⟨hkeys, hvalues⟩ := (h.obj members).1 hmembers
  rw [h.obj, keys_adjust, Json.adjust, List.forall_mem_map]
  refine ⟨hkeys, fun member hmember => ?_⟩
  split
  split
  · exact hf _ hmember
  · exact hvalues _ hmember

theorem foldl_adjust (h : Hereditary P Keys) {names : List String}
    (hf : ∀ value, P value → P (f value)) (hmembers : P (.obj members)) :
    P (.obj (names.foldl (fun members name => Json.adjust name f members) members)) := by
  induction names generalizing members with
  | nil => exact hmembers
  | cons name rest ih =>
    have hvalues := ((h.obj members).1 hmembers).2
    exact ih (h.adjust (fun member hmember => hf _ (hvalues member hmember)) hmembers)

theorem normalPrincipal (h : Hereditary P Keys) (ha : P a) : P a.normalPrincipal := by
  cases a with
  | obj members => exact h.foldl_adjust (fun _ => h.sortList) ha
  | _ => exact ha

theorem normal (h : Hereditary P Keys) (ha : P a) : P a.normal := by
  induction a using induct with
  | arr items ih =>
    rw [Json.normal, normalItems_eq, h.arr, List.forall_mem_map]
    exact fun item hitem => ih item hitem ((h.arr items).1 ha item hitem)
  | obj members ih =>
    have hvalues := ((h.obj members).1 ha).2
    cases hstatement : Entries.find? "Statement" members with
    | some value =>
      rw [normal_document hstatement]
      exact h.adjust (fun member hmember => ih member hmember (hvalues member hmember)) ha
    | none =>
      rw [normal_statement hstatement]
      exact h.foldl_adjust (fun _ => h.sortList) (h.foldl_adjust (fun _ => h.normalPrincipal) ha)
  | _ => simpa only [Json.normal] using ha

end Hereditary

theorem hereditary_floatFree : Hereditary FloatFree fun _ => True :=
  ⟨fun _ => floatFree_arr, fun _ => by rw [floatFree_obj, true_and]⟩

theorem hereditary_wellFormed : Hereditary WellFormed (List.Pairwise (· < ·)) :=
  ⟨fun _ => wellFormed_arr, fun _ =>
    wellFormed_obj.trans (and_congr_left' List.pairwise_map.symm)⟩

end AccessPolicy.Json
