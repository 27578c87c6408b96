/-!
# Tables with ascending keys

`Entries` is an association list; `Table` is one whose keys ascend strictly in code point order, so
that a table with given bindings has exactly one form. A later binding of a key replaces an earlier
one.
-/

namespace AccessPolicy

abbrev Entries (α : Type) := List (String × α)

namespace Entries

/-- The value that the first binding of `key` gives. -/
def find? (key : String) : Entries α → Option α
  | [] => none
  | (name, value) :: rest => if name = key then some value else find? key rest

def has (key : String) (entries : Entries α) : Bool := (entries.find? key).isSome

/-- Binds `key` to `value` in its place, instead of any binding that it had. -/
def put (key : String) (value : α) : Entries α → Entries α
  | [] => [(key, value)]
  | (name, old) :: rest =>
    if key < name then (key, value) :: (name, old) :: rest
    else if key = name then (key, value) :: rest
    else (name, old) :: put key value rest

def erase (key : String) (entries : Entries α) : Entries α := entries.filter (·.1 ≠ key)

/-- Sorts bindings by key; of two with one key the later counts. -/
def ordered (entries : Entries α) : Entries α :=
  entries.foldl (fun sorted (key, value) => sorted.put key value) []

@[simp] theorem find?_put (entries : Entries α) (key : String) (value : α) (name : String) :
    (entries.put key value).find? name = if key = name then some value else entries.find? name := by
  induction entries with
  | nil => rfl
  | cons head rest ih =>
    simp only [put]
    split
    · simp [find?]
    · split
      · next heq => by_cases hname : key = name <;> simp_all [find?]
      · next hne =>
        by_cases hhead : head.1 = name
        · simp [find?, hhead, show key ≠ name from fun h => hne (h.trans hhead.symm)]
        · simp [find?, hhead, ih]

@[simp] theorem find?_erase (entries : Entries α) (key name : String) :
    (entries.erase key).find? name = if key = name then none else entries.find? name := by
  induction entries with
  | nil => simp [erase, find?]
  | cons head rest ih =>
    simp only [erase, List.filter_cons] at ih ⊢
    by_cases hhead : head.1 = key <;> by_cases hname : key = name <;>
      simp_all [find?]

def Ascending (entries : Entries α) : Prop := entries.Pairwise (·.1 < ·.1)

theorem ascending_nil : Ascending ([] : Entries α) := List.Pairwise.nil

theorem mem_put {key : String} {value : α} {entries : Entries α} {entry : String × α}
    (h : entry ∈ entries.put key value) : entry = (key, value) ∨ entry ∈ entries := by
  induction entries with
  | nil => exact Or.inl (by simpa [put] using h)
  | cons head rest ih =>
    simp only [put] at h
    split at h
    · simpa using h
    · split at h
      · rcases List.mem_cons.1 h with h | h
        · exact Or.inl h
        · exact Or.inr (List.mem_cons_of_mem _ h)
      · rcases List.mem_cons.1 h with h | h
        · exact Or.inr (h ▸ List.mem_cons_self)
        · exact (ih h).imp id (List.mem_cons_of_mem _)

theorem Ascending.put {entries : Entries α} (h : entries.Ascending) (key : String) (value : α) :
    (entries.put key value).Ascending := by
  induction entries with
  | nil => exact List.pairwise_singleton _ _
  | cons head rest ih =>
    obtain ⟨hhead, hrest⟩ := List.pairwise_cons.1 h
    simp only [Entries.put]
    split
    · next hlt =>
      refine List.pairwise_cons.2 ⟨fun entry hentry => ?_, h⟩
      rcases List.mem_cons.1 hentry with rfl | hentry
      · exact hlt
      · exact String.lt_trans hlt (hhead entry hentry)
    · next hlt =>
      split
      · next heq => exact List.pairwise_cons.2 ⟨fun entry hentry => heq ▸ hhead entry hentry, hrest⟩
      · next hne =>
        refine List.pairwise_cons.2 ⟨fun entry hentry => ?_, ih hrest⟩
        rcases mem_put hentry with rfl | hentry
        · exact Decidable.byContradiction fun hge => hne (String.le_antisymm hge hlt)
        · exact hhead entry hentry

theorem Ascending.erase {entries : Entries α} (h : entries.Ascending) (key : String) :
    (entries.erase key).Ascending := List.Pairwise.filter _ h

theorem ascending_ordered (entries : Entries α) : entries.ordered.Ascending := by
  suffices ∀ sorted : Entries α, sorted.Ascending →
      (entries.foldl (fun sorted (key, value) => sorted.put key value) sorted).Ascending from
    this [] ascending_nil
  induction entries with
  | nil => exact fun _ h => h
  | cons head rest ih => exact fun sorted h => ih _ (h.put head.1 head.2)

end Entries

structure Table (α : Type) where
  entries : Entries α
  ascending : entries.Ascending

namespace Table

def empty : Table α := ⟨[], Entries.ascending_nil⟩

/-- The table of a list of bindings; of two with one key the later counts. -/
def ofList (entries : Entries α) : Table α := ⟨entries.ordered, entries.ascending_ordered⟩

def get? (table : Table α) (key : String) : Option α := table.entries.find? key

def insert (table : Table α) (key : String) (value : α) : Table α :=
  ⟨table.entries.put key value, table.ascending.put key value⟩

def erase (table : Table α) (key : String) : Table α :=
  ⟨table.entries.erase key, table.ascending.erase key⟩

@[simp] theorem get?_insert (table : Table α) (key : String) (value : α) (name : String) :
    (table.insert key value).get? name = if key = name then some value else table.get? name :=
  Entries.find?_put ..

@[simp] theorem get?_erase (table : Table α) (key name : String) :
    (table.erase key).get? name = if key = name then none else table.get? name :=
  Entries.find?_erase ..

def keys (table : Table α) : List String := table.entries.map (·.1)

def size (table : Table α) : Nat := table.entries.length

end Table

end AccessPolicy
