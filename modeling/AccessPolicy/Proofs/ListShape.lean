import AccessPolicy.ListShape
import AccessPolicy.Proofs.Success
import AccessPolicy.Reference.Reader

/-!
# Lists of strings

Lists have one shape just if they are permutations of each other (`canonical?_eq_iff`), and the
strings of a canonical value are read back in ascending order.

Strings and numbers are texts, and a value lists those of its elements. What is read of a value does
not depend on the field that it is read for (`stringList_ok`).
-/

namespace AccessPolicy

theorem ascending_eq_iff : ascending texts = ascending others ↔ texts.Perm others := by
  constructor
  · intro h
    exact (ascending_perm texts).symm.trans (h ▸ ascending_perm others)
  · intro hperm
    have hsorted : (ascending texts).Perm (ascending others) :=
      (ascending_perm texts).trans (hperm.trans (ascending_perm others).symm)
    exact hsorted.eq_of_pairwise (fun _ _ _ _ => String.le_antisymm) (pairwise_ascending texts)
      (pairwise_ascending others)

theorem eq_ascending_iff :
    sorted = ascending texts ↔ sorted.Perm texts ∧ sorted.Pairwise (· ≤ ·) := by
  constructor
  · rintro rfl
    exact ⟨ascending_perm texts, pairwise_ascending texts⟩
  · rintro ⟨hperm, hsorted⟩
    exact (hperm.trans (ascending_perm texts).symm).eq_of_pairwise
      (fun _ _ _ _ => String.le_antisymm) hsorted (pairwise_ascending texts)

@[simp] theorem ascending_ascending (texts : List String) :
    ascending (ascending texts) = ascending texts := ascending_eq_iff.2 (ascending_perm texts)

@[simp] theorem ascending_eq_nil_iff : ascending texts = [] ↔ texts = [] := by
  rw [← List.length_eq_zero_iff, (ascending_perm texts).length_eq, List.length_eq_zero_iff]

@[simp] theorem isEmpty_ascending (texts : List String) :
    (ascending texts).isEmpty = texts.isEmpty := by
  rw [Bool.eq_iff_iff, List.isEmpty_iff, List.isEmpty_iff, ascending_eq_nil_iff]

namespace ListShape

theorem canonical?_cases (texts : List String) :
    texts = [] ∧ canonical? texts = none ∨
      (∃ text, texts = [text] ∧ canonical? texts = some (.one text)) ∨
      canonical? texts = some (.many (ascending texts)) ∧ 1 < texts.length := by
  match texts with
  | [] => exact .inl ⟨rfl, rfl⟩
  | [text] => exact .inr (.inl ⟨text, rfl, rfl⟩)
  | first :: second :: rest => exact .inr (.inr ⟨rfl, Nat.le_add_left ..⟩)

@[simp] theorem canonical?_eq_none_iff : canonical? texts = none ↔ texts = [] := by
  rcases canonical?_cases texts with ⟨rfl, -⟩ | ⟨text, rfl, -⟩ | ⟨h, hlong⟩
  · exact iff_of_true rfl rfl
  · exact iff_of_false (fun h => nomatch h) (List.cons_ne_nil _ _)
  · rw [h]
    refine iff_of_false (fun h => nomatch h) fun hnil => ?_
    rw [hnil] at hlong
    exact absurd hlong (by decide)

theorem canonical?_eq_many (hperm : sorted.Perm texts) (hascending : sorted.Pairwise (· ≤ ·))
    (hlong : 1 < sorted.length) : canonical? texts = some (.many sorted) := by
  rw [hperm.length_eq] at hlong
  rcases canonical?_cases texts with ⟨rfl, -⟩ | ⟨text, rfl, -⟩ | ⟨hmany, -⟩
  · exact absurd hlong (by decide)
  · exact absurd hlong (Nat.lt_irrefl 1)
  · rw [hmany, eq_ascending_iff.2 ⟨hperm, hascending⟩]

theorem isSome_canonical? (texts : List String) :
    ((canonical? texts).map toJson).isSome = !texts.isEmpty := by
  match texts with
  | [] => rfl
  | [_] => rfl
  | _ :: _ :: _ => rfl

theorem toList_canonical? (h : canonical? texts = some shape) : shape.toList = ascending texts := by
  rcases canonical?_cases texts with ⟨rfl, -⟩ | ⟨text, rfl, -⟩ | ⟨hmany, -⟩
  · cases h
  · cases h
    exact (ascending_singleton text).symm
  · rw [hmany] at h
    cases h
    rfl

@[simp] theorem canonical?_ascending (texts : List String) :
    canonical? (ascending texts) = canonical? texts := by
  rcases canonical?_cases texts with ⟨rfl, -⟩ | ⟨text, rfl, -⟩ | ⟨h, hlong⟩
  · rw [ascending_nil]
  · rw [ascending_singleton]
  · rw [h]
    rw [← (ascending_perm texts).length_eq] at hlong
    rcases canonical?_cases (ascending texts) with ⟨hnil, -⟩ | ⟨text, hone, -⟩ | ⟨hmany, -⟩
    · rw [hnil] at hlong
      exact absurd hlong (by decide)
    · rw [hone] at hlong
      exact absurd hlong (Nat.lt_irrefl 1)
    · rw [hmany, ascending_ascending]

theorem canonical?_eq_iff : canonical? texts = canonical? others ↔ texts.Perm others := by
  constructor
  · intro h
    cases hshape : canonical? texts with
    | none =>
      rw [hshape] at h
      rw [canonical?_eq_none_iff.1 hshape, canonical?_eq_none_iff.1 h.symm]
    | some shape =>
      rw [hshape] at h
      have hlisted : ascending texts = ascending others :=
        (toList_canonical? hshape).symm.trans (toList_canonical? h.symm)
      exact ascending_eq_iff.1 hlisted
  · intro hperm
    rw [← canonical?_ascending, ascending_eq_iff.2 hperm, canonical?_ascending]

theorem canonical?_eq_one_iff : canonical? texts = some (.one text) ↔ texts = [text] := by
  rw [← show canonical? [text] = some (.one text) from rfl, canonical?_eq_iff, List.perm_singleton]

theorem stringList_strings (field : String) (texts : List String) :
    (Json.strings texts).stringList field = .ok texts := by
  rw [Json.strings, Json.stringList, mapM_ok]
  induction texts with
  | nil => exact .nil
  | cons text rest ih => exact .cons rfl ih

theorem stringList_toJson (field : String) (shape : ListShape) :
    shape.toJson.stringList field = .ok shape.toList := by
  cases shape with
  | one text => rfl
  | many texts => exact stringList_strings field texts

theorem isNull_toJson (shape : ListShape) : shape.toJson.isNull = false := by
  cases shape <;> rfl

/-- A shape tells a list up to the order of its strings: it lists them in ascending order, is the
shape of that list as well, and is read back from its value. -/
theorem canonical?_exact (texts others : List String) :
    (canonical? texts = canonical? others ↔ texts.Perm others) ∧
    (canonical? texts = none ↔ texts = []) ∧
    (∀ text, canonical? texts = some (.one text) ↔ texts = [text]) ∧
    ∀ shape, canonical? texts = some shape →
      shape.toList.Perm texts ∧ shape.toList.Pairwise (· ≤ ·) ∧
      canonical? shape.toList = some shape ∧
      ∀ field, shape.toJson.stringList field = .ok shape.toList := by
  refine ⟨canonical?_eq_iff, canonical?_eq_none_iff, fun _ => canonical?_eq_one_iff,
    fun shape hshape => ?_⟩
  have hlisted : shape.toList = ascending texts := toList_canonical? hshape
  obtain ⟨hperm, hascending⟩ := eq_ascending_iff.1 hlisted
  refine ⟨hperm, hascending, ?_, fun field => stringList_toJson field shape⟩
  rw [hlisted, canonical?_ascending, hshape]

theorem canonical?_exact_repeated :
    let shape := ListShape.many ["a", "b", "b"]
    canonical? ["b", "a", "b"] = canonical? ["a", "b", "b"] ∧
      canonical? ["b", "a", "b"] = some shape ∧ shape.toList.Perm ["b", "a", "b"] ∧
      canonical? shape.toList = some shape ∧
      shape.toJson.stringList "action" = .ok shape.toList := by
  intro shape
  have hshape : canonical? ["b", "a", "b"] = some shape :=
    canonical?_eq_many (.swap ..) (by decide) (by decide)
  have hsame : ["b", "a", "b"].Perm ["a", "b", "b"] := .swap ..
  obtain ⟨hexact, -, -, htold⟩ := canonical?_exact ["b", "a", "b"] ["a", "b", "b"]
  obtain ⟨hperm, -, hagain, hread⟩ := htold shape hshape
  exact ⟨hexact.2 hsame, hshape, hperm, hagain, hread "action"⟩

end ListShape

end AccessPolicy

namespace AccessPolicy.Json

-- ---------------------------------------------------------------------------
-- Texts that values list
-- ---------------------------------------------------------------------------

def scalar? : Json → Option String
  | .str text => some text
  | .int value => some (compact (.int value))
  | .float value => some (compact (.float value))
  | _ => none

def Lists (value : Json) (text : String) : Prop :=
  ∃ item ∈ value.entries, item.scalar? = some text

instance (value : Json) (text : String) : Decidable (value.Lists text) :=
  inferInstanceAs (Decidable (∃ item ∈ value.entries, item.scalar? = some text))

theorem isNull_of_mem_entries {value : Json} {members : Entries Json}
    (h : .obj members ∈ value.entries) : value.isNull = false := by
  cases value <;> simp [entries, isNull] at h ⊢

theorem scalarText_ok {value : Json} :
    value.scalarText field = .ok text ↔ value.scalar? = some text := by
  cases value <;> simp [scalarText, scalar?]

theorem stringList_eq (field : String) (value : Json) : value.stringList field =
    if value.isNull then .ok [] else value.entries.mapM (scalarText field) := by
  cases value with
  | null | arr _ => rfl
  | _ =>
    simp only [entries, mapM_singleton]
    rfl

theorem stringList_ok {value : Json} : value.stringList field = .ok texts ↔
    if value.isNull then texts = []
    else List.Forall₂ (fun item text => item.scalar? = some text) value.entries texts := by
  rw [stringList_eq]
  split
  · rw [Except.ok.injEq, eq_comm]
  · simp only [mapM_ok, scalarText_ok]

theorem mem_stringList {value : Json} (h : value.stringList field = .ok texts) :
    text ∈ texts ↔ value.Lists text := by
  rw [stringList_ok] at h
  cases value with
  | null =>
    obtain rfl : texts = [] := h
    simp [Lists, entries, scalar?]
  | _ =>
    have hlisted := exists_mem_iff_of_forall₂ (P := fun item => item.scalar? = some text)
      (Q := (· = text)) h fun _ _ hitem => by simp [hitem]
    simpa [Lists] using hlisted.symm

theorem mem_stringList_of_find? {members : Entries Json}
    (h : (match members.find? key with
      | none => Except.ok []
      | some value => value.stringList field) = .ok texts) :
    text ∈ texts ↔ ∃ value, members.find? key = some value ∧ value.Lists text := by
  cases hfound : members.find? key with
  | none =>
    rw [hfound] at h
    obtain rfl := Except.ok.inj h
    simp
  | some value =>
    rw [hfound] at h
    simp [mem_stringList h]

end AccessPolicy.Json
