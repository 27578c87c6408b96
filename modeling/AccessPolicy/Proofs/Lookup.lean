import AccessPolicy.Table

/-!
# Looking up entries

What `find?` gives in joined, sorted and ascending entries. Ascending entries are determined by what
is found in them (`eq_of_find?_eq`), so sorting leaves them as they are (`ordered_eq_self`).
-/

namespace AccessPolicy.Entries

variable {entries other : Entries α} {key : String} {value : α}

-- ---------------------------------------------------------------------------
-- Entries in any order
-- ---------------------------------------------------------------------------

@[simp] theorem find?_nil : find? key ([] : Entries α) = none := rfl

theorem find?_cons {entry : String × α} :
    find? key (entry :: entries) = if entry.1 = key then some entry.2 else find? key entries := rfl

theorem find?_append : find? key (entries ++ other) = (find? key entries).or (find? key other) := by
  induction entries with
  | nil => rfl
  | cons entry rest ih =>
    rw [List.cons_append, find?_cons, find?_cons, ih]
    split <;> rfl

theorem mem_of_find? (h : find? key entries = some value) : (key, value) ∈ entries := by
  induction entries with
  | nil => cases h
  | cons entry rest ih =>
    rw [find?_cons] at h
    split at h
    · next heq =>
      cases h
      exact heq ▸ List.mem_cons_self
    · exact List.mem_cons_of_mem _ (ih h)

theorem find?_eq_none_iff : find? key entries = none ↔ ∀ entry ∈ entries, entry.1 ≠ key := by
  induction entries with
  | nil => simp
  | cons entry rest ih =>
    rw [find?_cons]
    split
    · next heq => simp [heq]
    · next hne => simp [ih, hne]

theorem exists_find?_iff : (∃ value, find? key entries = some value) ↔
    ∃ value, (key, value) ∈ entries := by
  constructor
  · rintro ⟨value, hvalue⟩
    exact ⟨value, mem_of_find? hvalue⟩
  · rintro ⟨value, hmem⟩
    have hfound : find? key entries ≠ none := fun hnone => find?_eq_none_iff.1 hnone _ hmem rfl
    exact Option.ne_none_iff_exists'.1 hfound

theorem has_eq_true_iff : has key entries = true ↔ ∃ value, find? key entries = some value := by
  rw [has, Option.isSome_iff_exists]

theorem has_eq_false_iff : has key entries = false ↔ find? key entries = none := by
  rw [has, Option.isSome_eq_false_iff, Option.isNone_iff_eq_none]

theorem find?_foldl_put (later : Entries α) :
    find? key (later.foldl (fun sorted (name, value) => sorted.put name value) entries) =
      (find? key later.reverse).or (find? key entries) := by
  induction later generalizing entries with
  | nil => rfl
  | cons entry rest ih =>
    rw [List.foldl_cons, ih, find?_put, List.reverse_cons, find?_append, find?_cons, find?_nil]
    cases find? key rest.reverse <;> simp only [Option.none_or, Option.some_or]
    split <;> rfl

theorem find?_ordered : find? key entries.ordered = find? key entries.reverse := by
  rw [ordered, find?_foldl_put, find?_nil, Option.or_none]

-- ---------------------------------------------------------------------------
-- Entries with distinct keys
-- ---------------------------------------------------------------------------

def Distinct (entries : Entries α) : Prop := (entries.map (·.1)).Nodup

theorem Distinct.find?_of_mem (h : entries.Distinct) (hm : (key, value) ∈ entries) :
    find? key entries = some value := by
  induction entries with
  | nil => cases hm
  | cons entry rest ih =>
    obtain ⟨hhead, hrest⟩ := List.nodup_cons.1 h
    rw [find?_cons]
    rcases List.mem_cons.1 hm with rfl | hm
    · exact if_pos rfl
    · have hne : entry.1 ≠ key := fun heq =>
        hhead (List.mem_map.2 ⟨(key, value), hm, heq.symm⟩)
      rw [if_neg hne]
      exact ih hrest hm

theorem Distinct.find?_eq_some_iff (h : entries.Distinct) :
    find? key entries = some value ↔ (key, value) ∈ entries :=
  ⟨mem_of_find?, h.find?_of_mem⟩

theorem Distinct.find?_reverse (h : entries.Distinct) :
    find? key entries.reverse = find? key entries := by
  have hr : Distinct entries.reverse := by
    rw [Distinct, List.map_reverse]
    exact List.pairwise_reverse.2 (h.imp Ne.symm)
  apply Option.ext
  intro value
  rw [h.find?_eq_some_iff, hr.find?_eq_some_iff, List.mem_reverse]

theorem Distinct.find?_ordered (h : entries.Distinct) :
    find? key entries.ordered = find? key entries := by
  rw [Entries.find?_ordered, h.find?_reverse]

-- ---------------------------------------------------------------------------
-- Ascending entries
-- ---------------------------------------------------------------------------

theorem Ascending.distinct (h : entries.Ascending) : entries.Distinct := by
  apply List.pairwise_map.2
  apply List.Pairwise.imp ?_ h
  intro a b hlt heq
  rw [heq] at hlt
  exact String.lt_irrefl _ hlt

instance : Decidable entries.Ascending := inferInstanceAs (Decidable (List.Pairwise _ _))

/-- Whether entries ascend is seen in their keys. -/
theorem Ascending.of_keys_eq {other : Entries β} (h : entries.Ascending)
    (hkeys : other.map (·.1) = entries.map (·.1)) : other.Ascending := by
  apply List.pairwise_map.1
  rw [hkeys]
  exact List.pairwise_map.2 h

theorem Ascending.find?_of_lt_head {entry : String × α} (h : Ascending (entry :: entries))
    (hlt : key < entry.1) : find? key (entry :: entries) = none := by
  rw [find?_eq_none_iff]
  intro other hother heq
  rcases List.mem_cons.1 hother with rfl | hother
  · exact String.lt_irrefl _ (heq ▸ hlt)
  · have hlater := (List.pairwise_cons.1 h).1 other hother
    exact String.lt_irrefl _ (String.lt_trans hlt (heq ▸ hlater))

/-- The first keys agree: the lesser of two would be found on one side only. -/
theorem head_eq_of_find?_eq {entry first : String × α} (h : Ascending (entry :: entries))
    (ho : Ascending (first :: other))
    (hf : ∀ key, find? key (entry :: entries) = find? key (first :: other)) : entry = first := by
  have hkey : entry.1 = first.1 := by
    apply String.le_antisymm
    · intro hlt
      have hnone := (hf first.1).symm.trans (h.find?_of_lt_head hlt) |>.symm
      simp [find?_cons] at hnone
    · intro hlt
      have hnone := (hf entry.1).trans (ho.find?_of_lt_head hlt)
      simp [find?_cons] at hnone
  have hvalue := hf entry.1
  rw [find?_cons, find?_cons, if_pos rfl, if_pos hkey.symm] at hvalue
  exact Prod.ext hkey (Option.some.inj hvalue)

theorem eq_of_find?_eq (h : entries.Ascending) (ho : other.Ascending)
    (hf : ∀ key, find? key entries = find? key other) : entries = other := by
  induction entries generalizing other with
  | nil =>
    cases other with
    | nil => rfl
    | cons first later => simpa [find?_cons] using hf first.1
  | cons entry rest ih =>
    cases other with
    | nil => simpa [find?_cons] using hf entry.1
    | cons first later =>
      obtain rfl := head_eq_of_find?_eq h ho hf
      obtain ⟨hhead, hrest⟩ := List.pairwise_cons.1 h
      obtain ⟨hohead, horest⟩ := List.pairwise_cons.1 ho
      congr 1
      refine ih hrest horest fun key => ?_
      have hboth := hf key
      rw [find?_cons, find?_cons] at hboth
      split at hboth
      · next heq =>
        -- the key of the head occurs in neither tail
        have hnone {tail : Entries α} (ht : ∀ later ∈ tail, entry.1 < later.1) :
            find? key tail = none := find?_eq_none_iff.2 fun later hlater hkey =>
          String.lt_irrefl _ (heq ▸ hkey ▸ ht later hlater)
        rw [hnone hhead, hnone hohead]
      · exact hboth

theorem Ascending.eq_iff_find?_eq (h : entries.Ascending) (ho : other.Ascending) :
    entries = other ↔ ∀ key, find? key entries = find? key other :=
  ⟨fun heq _ => heq ▸ rfl, eq_of_find?_eq h ho⟩

theorem mem_of_mem_ordered {entry : String × α} (h : entry ∈ entries.ordered) :
    entry ∈ entries := by
  have hf := (ascending_ordered entries).distinct.find?_of_mem h
  rw [find?_ordered] at hf
  exact List.mem_reverse.1 (mem_of_find? hf)

theorem ordered_eq_self (h : entries.Ascending) : entries.ordered = entries := by
  apply eq_of_find?_eq (ascending_ordered entries) h
  intro key
  exact h.distinct.find?_ordered

end AccessPolicy.Entries

theorem AccessPolicy.Table.get?_ofList (entries : Entries α) (key : String) :
    (ofList entries).get? key = Entries.find? key entries.reverse :=
  Entries.find?_ordered

theorem AccessPolicy.Table.exists_get?_ofList {entries : Entries α} :
    (∃ value, (ofList entries).get? key = some value) ↔ ∃ value, (key, value) ∈ entries := by
  simp only [get?_ofList, Entries.exists_find?_iff, List.mem_reverse]

theorem AccessPolicy.Table.eq_of_get?_eq {table other : Table α}
    (h : ∀ key, table.get? key = other.get? key) : table = other := by
  obtain ⟨entries, hentries⟩ := table
  obtain ⟨later, hlater⟩ := other
  obtain rfl : entries = later := Entries.eq_of_find?_eq hentries hlater h
  rfl
