import AccessPolicy.Diff
import AccessPolicy.Proofs.Json.ReadBack

/-!
# Sorted elements

Two lists of values without binary64 numbers sort alike just if one is a permutation of the other
(`sortItems_eq_iff`): sort keys tell values apart, so no tie is left to the order of the input.
-/

namespace AccessPolicy.Json

-- ---------------------------------------------------------------------------
-- Sort keys
-- ---------------------------------------------------------------------------

theorem SortKey.le_total (a b : SortKey) : a.le b = true ∨ b.le a = true := by
  obtain ⟨texta, a⟩ := a
  obtain ⟨textb, b⟩ := b
  cases texta <;> cases textb <;> simp [SortKey.le, String.le_total]

theorem SortKey.le_trans (a b c : SortKey) (hab : a.le b = true) (hbc : b.le c = true) :
    a.le c = true := by
  obtain ⟨texta, a⟩ := a
  obtain ⟨textb, b⟩ := b
  obtain ⟨textc, c⟩ := c
  cases texta <;> cases textb <;> cases textc <;> simp_all [SortKey.le]
  all_goals exact String.le_trans hab hbc

theorem SortKey.le_antisymm {a b : SortKey} (hab : a.le b = true) (hba : b.le a = true) :
    a = b := by
  obtain ⟨texta, a⟩ := a
  obtain ⟨textb, b⟩ := b
  cases texta <;> cases textb <;> simp_all [SortKey.le]
  all_goals exact String.le_antisymm hab hba

theorem sortKey_isText {a : Json} : a.sortKey.isText = true ↔ ∃ text, a = .str text := by
  cases a <;> simp [sortKey]

/-- Strings sort by themselves and other values by their texts, which determine them. -/
theorem sortKey_injective (ha : Plain a) (hb : Plain b) (h : a.sortKey = b.sortKey) : a = b := by
  by_cases htext : a.sortKey.isText = true
  · obtain ⟨text, rfl⟩ := sortKey_isText.1 htext
    obtain ⟨other, rfl⟩ := sortKey_isText.1 (h ▸ htext)
    exact congrArg (fun key => str key.text) h
  · have hkey {value : Json} (hv : ¬value.sortKey.isText = true) :
        value.sortKey.text = value.compact := by
      cases value <;> first | rfl | exact absurd rfl hv
    apply compact_injective ha hb
    rw [← hkey htext, ← hkey (h ▸ htext), h]

-- ---------------------------------------------------------------------------
-- Lists
-- ---------------------------------------------------------------------------

theorem sortItems_perm (items : List Json) : (sortItems items).Perm items :=
  List.mergeSort_perm items _

theorem pairwise_sortItems (items : List Json) :
    (sortItems items).Pairwise fun a b => a.sortKey.le b.sortKey = true := by
  apply List.pairwise_mergeSort
  · exact fun a b c => SortKey.le_trans a.sortKey b.sortKey c.sortKey
  · intro a b
    simpa using SortKey.le_total a.sortKey b.sortKey

theorem sortItems_eq_iff (hplain : ∀ item ∈ items, item.Plain) :
    sortItems items = sortItems others ↔ items.Perm others := by
  constructor
  · intro h
    exact (sortItems_perm items).symm.trans (h ▸ sortItems_perm others)
  · intro hperm
    have hsorted : (sortItems items).Perm (sortItems others) :=
      (sortItems_perm items).trans (hperm.trans (sortItems_perm others).symm)
    refine hsorted.eq_of_pairwise ?_ (pairwise_sortItems items) (pairwise_sortItems others)
    -- elements that neither precedes have one key, and the key determines the element
    intro a b ha hb hab hba
    have ha : a ∈ items := (sortItems_perm items).mem_iff.1 ha
    have hb : b ∈ items := (hperm.trans (sortItems_perm others).symm).mem_iff.2 hb
    exact sortKey_injective (hplain a ha) (hplain b hb) (SortKey.le_antisymm hab hba)

/-- Values without binary64 numbers have one sort key only if they are one value: strings are told
from all others, and any two others by their texts. So sorting forgets the order of a list, and
nothing else of it. -/
theorem sortKey_exact (ha : Plain a) (hb : Plain b) (hplain : ∀ item ∈ items, item.Plain) :
    (a.sortKey = b.sortKey ↔ a = b) ∧ (a.compact = b.compact ↔ a = b) ∧
    (a.sortKey.isText = true ↔ ∃ text, a = .str text) ∧
    (sortItems items).Perm items ∧
    (sortItems items).Pairwise (fun x y => x.sortKey.le y.sortKey = true) ∧
    ∀ others, sortItems items = sortItems others ↔ items.Perm others := by
  refine ⟨⟨sortKey_injective ha hb, congrArg sortKey⟩, ⟨compact_injective ha hb, congrArg compact⟩,
    sortKey_isText, sortItems_perm items, pairwise_sortItems items, fun _ => ?_⟩
  exact sortItems_eq_iff hplain

theorem sortKey_exact_mixed :
    let text := Json.str "[1,\"a\"]"
    let list := Json.arr [.int 1, .str "a"]
    text.sortKey ≠ list.sortKey ∧ text.compact ≠ list.compact ∧
      sortItems [list, .null, text] = sortItems [text, list, .null] := by
  intro text list
  have htext : text.Plain := plain_str _
  have hlist : list.Plain := by
    refine plain_arr.2 ?_
    simp only [List.forall_mem_cons]
    exact ⟨⟨by rw [WellFormed]; omega, trivial⟩, plain_str _, List.forall_mem_nil _⟩
  have hitems : ∀ item ∈ [list, .null, text], item.Plain := by
    simp only [List.forall_mem_cons]
    exact ⟨hlist, ⟨trivial, trivial⟩, htext, List.forall_mem_nil _⟩
  have hperm : [list, .null, text].Perm [text, list, .null] :=
    ((List.Perm.swap text .null []).cons list).trans (.swap ..)
  obtain ⟨hkey, htexts, -, -, -, hsorted⟩ := sortKey_exact htext hlist hitems
  have hdifferent : text ≠ list := by simp [text, list]
  exact ⟨mt hkey.1 hdifferent, mt htexts.1 hdifferent, (hsorted _).2 hperm⟩

-- ---------------------------------------------------------------------------
-- Lists of strings
-- ---------------------------------------------------------------------------

theorem sortItems_strings {texts sorted : List String} (hperm : sorted.Perm texts)
    (hascending : sorted.Pairwise (· ≤ ·)) : sortItems (texts.map .str) = sorted.map .str := by
  have hsame : sortItems (sorted.map .str) = sortItems (texts.map .str) :=
    (sortItems_eq_iff (plain_arr.1 (plain_strings sorted))).2 (hperm.map str)
  rw [← hsame]
  apply List.mergeSort_of_pairwise
  refine List.pairwise_map.2 (hascending.imp fun hab => ?_)
  simp [sortKey, SortKey.le, hab]

end AccessPolicy.Json
