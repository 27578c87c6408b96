import AccessPolicy.Proofs.Follows
import AccessPolicy.Proofs.ListShape
import AccessPolicy.Proofs.Lookup

/-!
# Values that list the same

A value lists its elements, or itself if it is no list. Values that list related elements, in any
order, are alike; mappings are alike under some keys if the values of those are.
-/

namespace AccessPolicy

namespace Json

/-- Values that list related elements in any order. `null` is like no other value. -/
structure Alike (R : Json → Json → Prop) (a b : Json) : Prop where
  isNull : a.isNull = b.isNull
  entries : Rearranged R a.entries b.entries

abbrev ListsAlike : Json → Json → Prop := Alike Eq

theorem alike_refl {R : Json → Json → Prop} (hR : ∀ a, R a a) (value : Json) :
    Alike R value value := ⟨rfl, rearranged_of_forall₂ (List.forall₂_same.2 fun item _ => hR item)⟩

theorem ListsAlike.refl (value : Json) : ListsAlike value value := alike_refl (fun _ => rfl) value

theorem Alike.symm {R : Json → Json → Prop} (hR : ∀ a b, R a b → R b a) {a b : Json}
    (h : Alike R a b) : Alike R b a := ⟨h.isNull.symm, h.entries.symm hR⟩

theorem Alike.imp {R S : Json → Json → Prop} (hRS : ∀ a b, R a b → S a b) {a b : Json}
    (h : Alike R a b) : Alike S a b := ⟨h.isNull, h.entries.imp hRS⟩

end Json

-- ---------------------------------------------------------------------------
-- Mappings
-- ---------------------------------------------------------------------------

namespace Entries

/-- The same keys in the same order, with related values. -/
def Alike (R : String → α → β → Prop) : Entries α → Entries β → Prop :=
  List.Forall₂ fun a b => a.1 = b.1 ∧ R a.1 a.2 b.2

section
variable {R : String → α → β → Prop} {entries : Entries α} {others : Entries β}

theorem Alike.keys_eq (h : entries.Alike R others) : others.map (·.1) = entries.map (·.1) := by
  induction h with
  | nil => rfl
  | cons hhead _ ih => rw [List.map_cons, List.map_cons, hhead.1, ih]

theorem Alike.find? (h : entries.Alike R others) (key : String) :
    Option.Rel (R key) (entries.find? key) (others.find? key) := by
  induction h with
  | nil => exact .none
  | cons hhead _ ih =>
    rw [find?_cons, find?_cons, ← hhead.1]
    split
    · next heq =>
      subst heq
      exact .some hhead.2
    · exact ih

theorem Alike.has_eq (h : entries.Alike R others) (key : String) :
    others.has key = entries.has key := by
  have hkey := h.find? key
  rw [has, has]
  generalize entries.find? key = value, others.find? key = other at hkey ⊢
  cases hkey <;> rfl

theorem Alike.symm {R : String → α → α → Prop} (hR : ∀ key a b, R key a b → R key b a)
    {entries others : Entries α} (h : entries.Alike R others) : others.Alike R entries := by
  refine h.flip.imp fun a b hab => ?_
  obtain ⟨hkey, hvalue⟩ := hab
  exact ⟨hkey.symm, hkey ▸ hR _ _ _ hvalue⟩

theorem alike_refl {R : String → α → α → Prop} (hR : ∀ key a, R key a a) (entries : Entries α) :
    entries.Alike R entries := List.forall₂_same.2 fun entry _ => ⟨rfl, hR entry.1 entry.2⟩

end

end Entries

namespace Json

/-- Values of a key that list the same, and are the same if the key is none of some keys. -/
def AlikeUnder (keys : List String) (key : String) (a b : Json) : Prop :=
  ListsAlike a b ∧ (key ∉ keys → a = b)

theorem AlikeUnder.refl (keys : List String) (key : String) (value : Json) :
    AlikeUnder keys key value value := ⟨.refl value, fun _ => rfl⟩

theorem AlikeUnder.symm (key : String) (a b : Json) (h : AlikeUnder keys key a b) :
    AlikeUnder keys key b a := ⟨h.1.symm fun _ _ => Eq.symm, fun hkey => (h.2 hkey).symm⟩

/-- The same value, or mappings whose values under some keys list the same. -/
inductive EntryAlike (keys : List String) : Json → Json → Prop
  | same (value : Json) : EntryAlike keys value value
  | mapping (h : Entries.Alike (AlikeUnder keys) members others) :
    EntryAlike keys (.obj members) (.obj others)

theorem EntryAlike.symm (a b : Json) (h : EntryAlike keys a b) : EntryAlike keys b a := by
  cases h with
  | same => exact .same a
  | mapping h => exact .mapping (h.symm AlikeUnder.symm)

-- ---------------------------------------------------------------------------
-- Lists of strings
-- ---------------------------------------------------------------------------

theorem follows_stringList {R : Json → Json → Prop} {a b : Json} (h : Alike R a b)
    (hR : ∀ a b, R a b → Follows Eq (scalarText field a) (scalarText field b)) :
    Follows List.Perm (a.stringList field) (b.stringList field) := by
  rw [stringList_eq, stringList_eq, ← h.isNull]
  split
  · exact follows_ok (.refl [])
  · exact h.entries.follows_mapM_eq hR

theorem ListsAlike.follows_stringList {a b : Json} (h : ListsAlike a b) (field : String) :
    Follows List.Perm (a.stringList field) (b.stringList field) := by
  apply Json.follows_stringList h
  rintro a _ rfl
  exact follows_self fun _ => rfl

/-- No mapping is a string, so what is alike up to mappings lists the same strings. -/
theorem follows_stringList_of_entries {a b : Json} (h : Alike (EntryAlike keys) a b)
    (field : String) : Follows List.Perm (a.stringList field) (b.stringList field) := by
  apply Json.follows_stringList h
  intro a b hab
  cases hab with
  | same => exact follows_self fun _ => rfl
  | mapping _ => exact follows_error

end Json

end AccessPolicy
