import AccessPolicy.Json.Basic
import AccessPolicy.Proofs.Lookup

/-!
# The structure of JSON values

`Json.induct` is induction over a value and everything in it. With it, predicates on the elements of
a list become quantifiers over the list, equality of values is decidable, and for values without
binary64 numbers `same` is equality (`same_iff_eq`).
-/

namespace AccessPolicy.Json

/-- Induction over a value, its elements and the values of its members. -/
@[elab_as_elim]
theorem induct {motive : Json → Prop} (null : motive .null) (bool : ∀ value, motive (.bool value))
    (int : ∀ value, motive (.int value)) (float : ∀ value, motive (.float value))
    (str : ∀ text, motive (.str text))
    (arr : ∀ items, (∀ item ∈ items, motive item) → motive (.arr items))
    (obj : ∀ members : Entries Json, (∀ member ∈ members, motive member.2) → motive (.obj members))
    (value : Json) : motive value :=
  @Json.rec motive (fun items => ∀ item ∈ items, motive item)
    (fun members => ∀ member ∈ members, motive member.2) (fun member => motive member.2)
    null bool int float str arr obj
    (fun _ h => nomatch h)
    (fun _ _ head tail => List.forall_mem_cons.2 ⟨head, tail⟩)
    (fun _ h => nomatch h)
    (fun _ _ head tail => List.forall_mem_cons.2 ⟨head, tail⟩)
    (fun _ _ h => h) value

-- ---------------------------------------------------------------------------
-- Predicates on values
-- ---------------------------------------------------------------------------

theorem wellFormedItems_iff : WellFormedItems items ↔ ∀ item ∈ items, item.WellFormed := by
  induction items with
  | nil => simp [WellFormedItems]
  | cons item rest ih => rw [WellFormedItems, ih, List.forall_mem_cons]

theorem wellFormedMembers_iff :
    WellFormedMembers members ↔ ∀ member ∈ members, member.2.WellFormed := by
  induction members with
  | nil => simp [WellFormedMembers]
  | cons member rest ih => rw [WellFormedMembers, ih, List.forall_mem_cons]

theorem wellFormed_arr : (arr items).WellFormed ↔ ∀ item ∈ items, item.WellFormed := by
  rw [WellFormed, wellFormedItems_iff]

theorem wellFormed_obj : (obj members).WellFormed ↔
    Entries.Ascending members ∧ ∀ member ∈ members, member.2.WellFormed := by
  rw [WellFormed, wellFormedMembers_iff]

mutual
def FloatFree : Json → Prop
  | .float _ => False
  | .arr items => FloatFreeItems items
  | .obj members => FloatFreeMembers members
  | _ => True
def FloatFreeItems : List Json → Prop
  | [] => True
  | item :: rest => item.FloatFree ∧ FloatFreeItems rest
def FloatFreeMembers : List (String × Json) → Prop
  | [] => True
  | (_, value) :: rest => value.FloatFree ∧ FloatFreeMembers rest
end

theorem floatFreeItems_iff : FloatFreeItems items ↔ ∀ item ∈ items, item.FloatFree := by
  induction items with
  | nil => simp [FloatFreeItems]
  | cons item rest ih => rw [FloatFreeItems, ih, List.forall_mem_cons]

theorem floatFreeMembers_iff :
    FloatFreeMembers members ↔ ∀ member ∈ members, member.2.FloatFree := by
  induction members with
  | nil => simp [FloatFreeMembers]
  | cons member rest ih => rw [FloatFreeMembers, ih, List.forall_mem_cons]

theorem floatFree_arr : (arr items).FloatFree ↔ ∀ item ∈ items, item.FloatFree := by
  rw [FloatFree, floatFreeItems_iff]

theorem floatFree_obj : (obj members).FloatFree ↔ ∀ member ∈ members, member.2.FloatFree := by
  rw [FloatFree, floatFreeMembers_iff]

structure Plain (value : Json) : Prop where
  wellFormed : value.WellFormed
  floatFree : value.FloatFree

theorem plain_str (text : String) : (str text).Plain := ⟨trivial, trivial⟩

theorem plain_arr : (arr items).Plain ↔ ∀ item ∈ items, item.Plain := by
  constructor
  · intro ⟨hw, hf⟩ item hitem
    exact ⟨wellFormed_arr.1 hw item hitem, floatFree_arr.1 hf item hitem⟩
  · intro h
    exact ⟨wellFormed_arr.2 fun item hitem => (h item hitem).wellFormed,
      floatFree_arr.2 fun item hitem => (h item hitem).floatFree⟩

theorem plain_strings (texts : List String) : (strings texts).Plain := by
  rw [strings, plain_arr, List.forall_mem_map]
  exact fun text _ => plain_str text

theorem plain_obj : (obj members).Plain ↔
    Entries.Ascending members ∧ ∀ member ∈ members, member.2.Plain := by
  constructor
  · intro ⟨hw, hf⟩
    obtain ⟨hascending, hw⟩ := wellFormed_obj.1 hw
    exact ⟨hascending, fun member hmember =>
      ⟨hw member hmember, floatFree_obj.1 hf member hmember⟩⟩
  · intro ⟨hascending, h⟩
    exact ⟨wellFormed_obj.2 ⟨hascending, fun member hmember => (h member hmember).wellFormed⟩,
      floatFree_obj.2 fun member hmember => (h member hmember).floatFree⟩

theorem plain_of_find? {members : Entries Json} (h : (obj members).Plain)
    (hf : members.find? key = some value) : value.Plain :=
  (plain_obj.1 h).2 (key, value) (Entries.mem_of_find? hf)

-- ---------------------------------------------------------------------------
-- Comparing element by element
-- ---------------------------------------------------------------------------

section
variable {r : α → α → Bool} {as bs : List α}

theorem isEqv_iff_eq (h : ∀ a ∈ as, ∀ b, r a b = true ↔ a = b) :
    as.isEqv bs r = true ↔ as = bs := by
  induction as generalizing bs with
  | nil => cases bs <;> simp
  | cons a as ih =>
    obtain ⟨ha, has⟩ := List.forall_mem_cons.1 h
    cases bs with
    | nil => simp
    | cons b bs => simp [List.isEqv, ha b, ih has]

theorem isEqv_comm (h : ∀ a ∈ as, ∀ b, r a b = r b a) : as.isEqv bs r = bs.isEqv as r := by
  induction as generalizing bs with
  | nil => cases bs <;> rfl
  | cons a as ih =>
    obtain ⟨ha, has⟩ := List.forall_mem_cons.1 h
    cases bs with
    | nil => rfl
    | cons b bs => simp [List.isEqv, ha b, ih has]

theorem isEqv_refl (h : ∀ a ∈ as, r a a = true) : as.isEqv as r = true := by
  induction as with
  | nil => rfl
  | cons a as ih =>
    obtain ⟨ha, has⟩ := List.forall_mem_cons.1 h
    simp [List.isEqv, ha, ih has]

end

theorem members_iff_eq {as bs : Entries Json} {r : Json → Json → Bool}
    (h : ∀ a ∈ as, ∀ b, r a.2 b = true ↔ a.2 = b) :
    as.isEqv bs (fun a b => a.1 == b.1 && r a.2 b.2) = true ↔ as = bs := by
  apply isEqv_iff_eq
  intro a ha b
  simp [h a ha b.2, Prod.ext_iff]

theorem sameItemsBy_eq (sameFloat : Binary64 → Binary64 → Bool) (as bs : List Json) :
    sameItemsBy sameFloat as bs = as.isEqv bs (sameBy sameFloat) := by
  induction as generalizing bs with
  | nil => cases bs <;> rfl
  | cons a as ih => cases bs <;> simp [sameItemsBy, List.isEqv, ih]

theorem sameMembersBy_eq (sameFloat : Binary64 → Binary64 → Bool) (as bs : Entries Json) :
    sameMembersBy sameFloat as bs =
      as.isEqv bs fun a b => a.1 == b.1 && sameBy sameFloat a.2 b.2 := by
  induction as generalizing bs with
  | nil => cases bs <;> rfl
  | cons a as ih => cases bs <;> simp [sameMembersBy, List.isEqv, ih]

theorem same_arr (as bs : List Json) : same (.arr as) (.arr bs) = as.isEqv bs same := by
  rw [same, sameBy, sameItemsBy_eq]
  rfl

theorem same_obj (as bs : Entries Json) :
    same (.obj as) (.obj bs) = as.isEqv bs fun a b => a.1 == b.1 && same a.2 b.2 := by
  rw [same, sameBy, sameMembersBy_eq]
  rfl

-- ---------------------------------------------------------------------------
-- Values as data and values as numbers
-- ---------------------------------------------------------------------------

theorem sameBy_iff_eq {sameFloat : Binary64 → Binary64 → Bool}
    (h : FloatFree a ∨ ∀ x y, sameFloat x y = true ↔ x = y) (b : Json) :
    sameBy sameFloat a b = true ↔ a = b := by
  induction a using induct generalizing b with
  | null => cases b <;> simp [sameBy]
  | bool _ => cases b <;> simp [sameBy]
  | int _ => cases b <;> simp [sameBy]
  | float _ =>
    rcases h with hfree | hfloat
    · cases hfree
    · cases b <;> simp [sameBy, hfloat]
  | str _ => cases b <;> simp [sameBy]
  | arr items ih =>
    have hitems := fun a ha => ih a ha (h.imp_left fun hfree => floatFree_arr.1 hfree a ha)
    cases b <;> simp [sameBy, sameItemsBy_eq, isEqv_iff_eq hitems]
  | obj members ih =>
    have hmembers := fun a ha => ih a ha (h.imp_left fun hfree => floatFree_obj.1 hfree a ha)
    cases b <;> simp [sameBy, sameMembersBy_eq, members_iff_eq hmembers]

instance : DecidableEq Json := fun a b =>
  decidable_of_iff (sameBy (· == ·) a b = true) (sameBy_iff_eq (.inr fun _ _ => beq_iff_eq) b)

/-- Only the two zeros of binary64 are the same number and yet different data. -/
theorem same_iff_eq (h : FloatFree a) (b : Json) : same a b = true ↔ a = b :=
  sameBy_iff_eq (.inl h) b

theorem same_refl (value : Json) : same value value = true := by
  induction value using induct with
  | null => rfl
  | bool _ => simp [same, sameBy]
  | int _ => simp [same, sameBy]
  | float value => exact value.sameNumber_refl
  | str _ => simp [same, sameBy]
  | arr items ih => rw [same_arr, isEqv_refl ih]
  | obj members ih =>
    rw [same_obj]
    apply isEqv_refl
    intro member hmember
    simp [ih member hmember]

theorem same_comm (a b : Json) : same a b = same b a := by
  induction a using induct generalizing b with
  | null => cases b <;> rfl
  | bool value => cases b <;> simp [same, sameBy, BEq.comm (a := value)]
  | int value => cases b <;> simp [same, sameBy, BEq.comm (a := value)]
  | float value =>
    cases b with
    | float other => simp [same, sameBy, Binary64.sameNumber]; grind
    | _ => rfl
  | str text => cases b <;> simp [same, sameBy, BEq.comm (a := text)]
  | arr items ih =>
    cases b with
    | arr others => rw [same_arr, same_arr, isEqv_comm ih]
    | _ => rfl
  | obj members ih =>
    cases b with
    | obj others =>
      rw [same_obj, same_obj]
      apply isEqv_comm
      intro member hmember other
      rw [ih member hmember, BEq.comm (a := member.1)]
    | _ => rfl

end AccessPolicy.Json
