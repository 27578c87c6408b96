import Mathlib.Data.List.Induction
import Mathlib.Data.List.Sort
import AccessPolicy.Proofs.Diff.Places
import AccessPolicy.Proofs.Diff.Verdict

/-!
# The lines of a comparison

Two documents are told apart by the lines of the change points of their normal forms, depth first
(`diff_changePoints`).
-/

namespace AccessPolicy

def Step.text : Step → String
  | .key name => name
  | .index position => "[" ++ toString position ++ "]"

def Step.suffix : Step → String
  | .key name => "." ++ name
  | .index position => "[" ++ toString position ++ "]"

def Place.text : Place → String
  | [] => "."
  | first :: rest => first.text ++ String.join (rest.map Step.suffix)

/-- The line of one side at a place, if it has a value there. -/
def sideLines (mark : String) (place : Place) : Option Json → List String
  | none => []
  | some value => [Change.line mark (Place.text place) value]

/-- The lines of a place: that of the one side, then that of the other. -/
def linesAt (a b : Option Json) (place : Place) : List String :=
  sideLines "-" place (Place.reach a place) ++ sideLines "+" place (Place.reach b place)

/-- No object in a value has an empty key. -/
inductive Json.NoEmptyKeys : Json → Prop
  | null : NoEmptyKeys .null
  | bool (value : Bool) : NoEmptyKeys (.bool value)
  | int (value : Int) : NoEmptyKeys (.int value)
  | float (value : Binary64) : NoEmptyKeys (.float value)
  | str (text : String) : NoEmptyKeys (.str text)
  | arr (hitems : ∀ item ∈ items, NoEmptyKeys item) : NoEmptyKeys (.arr items)
  | obj {members : Entries Json} (hkeys : "" ∉ members.map (·.1))
    (hvalues : ∀ member ∈ members, NoEmptyKeys member.2) : NoEmptyKeys (.obj members)

-- ---------------------------------------------------------------------------
-- Texts of places
-- ---------------------------------------------------------------------------

theorem Path.text_ne_empty (hnamed : Step.key "" ∉ path) (hne : path ≠ []) :
    Path.text path ≠ "" := by
  cases path with
  | nil => exact absurd rfl hne
  | cons step outer =>
    cases step with
    | key name =>
      have hname : name ≠ "" := fun heq => hnamed (heq ▸ List.mem_cons_self)
      rw [Path.text]
      split <;> simp [hname]
    | index position => simp [Path.text]

theorem Path.text_cons (hnamed : Step.key "" ∉ outer) (hne : outer ≠ []) :
    Path.text (step :: outer) = Path.text outer ++ step.suffix := by
  have houter := Path.text_ne_empty hnamed hne
  cases step with
  | key name =>
    rw [Path.text, if_neg (mt String.isEmpty_iff.1 houter), String.append_assoc]
    rfl
  | index position =>
    rw [Path.text, String.append_assoc, String.append_assoc, ← String.append_assoc]
    simp [Step.suffix, String.append_assoc]

theorem Path.text_reverse (hnamed : Step.key "" ∉ place) (hne : place ≠ []) :
    Path.text place.reverse = Place.text place := by
  induction place using List.reverseRecOn with
  | nil => exact absurd rfl hne
  | append_singleton rest step ih =>
    rw [List.reverse_append, List.reverse_singleton, List.singleton_append]
    cases rest with
    | nil => cases step <;> simp [Path.text, Place.text, Step.text]
    | cons first rest =>
      have hnamed : Step.key "" ∉ first :: rest := fun h => hnamed (List.mem_append_left _ h)
      rw [Path.text_cons (mt List.mem_reverse.1 hnamed) (by simp), ih hnamed (by simp)]
      simp [Place.text, String.append_assoc]

example : Place.text [.key "Statement", .index 0, .key "Principal", .key "AWS"] =
    "Statement[0].Principal.AWS" := rfl

namespace Json

-- ---------------------------------------------------------------------------
-- Changes at a place and below it
-- ---------------------------------------------------------------------------

/-- The change from what is at a place to what is to be there, taken as a whole. -/
def placeChange (path : Path) : Option Json → Option Json → List Change
  | none, none => []
  | some before, none => [.removed path before]
  | none, some after => [.added path after]
  | some before, some after => [.replaced path before after]

def partChanges (path : Path) : Option Json → Option Json → List Change
  | some before, some after => changes path before after
  | before, after => placeChange path before after

section
variable {a b : Option Json} {path : Path}

theorem partChanges_of_same (h : Same a b) : partChanges path a b = [] := by
  cases h with
  | none => rfl
  | some h =>
    unfold partChanges changes
    exact if_pos h

theorem partChanges_of_disagree (h : Disagree a b) :
    partChanges path a b = placeChange path a b := by
  cases h with
  | removed | added => rfl
  | @replaced before after hdiffer hflat =>
    show changes path before after = [.replaced path before after]
    unfold changes
    rw [if_neg (by rw [hdiffer]; exact Bool.false_ne_true)]
    split
    · exact absurd (.objects _ _) hflat
    · exact absurd (.arrays _ _) hflat
    · rfl

theorem same_of_partChanges (h : partChanges path a b = []) : Same a b := by
  cases a with
  | none =>
    cases b with
    | none => exact .none
    | some => cases h
  | some a =>
    cases b with
    | none => cases h
    | some b => exact .some (same_of_changes h)

end

-- ---------------------------------------------------------------------------
-- Members key by key
-- ---------------------------------------------------------------------------

def withFirst (key : String) : Option α → Entries α → Entries α
  | none, rest => rest
  | some value, rest => (key, value) :: rest

theorem exists_withFirst {entries : Entries α} {keys : List String}
    (hascending : entries.Ascending) (hkeys : (key :: keys).Pairwise (· < ·))
    (hall : ∀ entry ∈ entries, entry.1 ∈ key :: keys) :
    ∃ rest : Entries α, entries = withFirst key (entries.find? key) rest ∧ rest.Ascending ∧
      (∀ entry ∈ rest, entry.1 ∈ keys) ∧
      ∀ other ∈ keys, entries.find? other = rest.find? other := by
  obtain ⟨hfirst, -⟩ := List.pairwise_cons.1 hkeys
  cases hfind : entries.find? key with
  | none =>
    refine ⟨entries, rfl, hascending, fun entry hentry => ?_, fun _ _ => rfl⟩
    have hne := Entries.find?_eq_none_iff.1 hfind entry hentry
    exact (List.mem_cons.1 (hall entry hentry)).resolve_left hne
  | some value =>
    cases entries with
    | nil => cases hfind
    | cons first rest =>
      obtain ⟨habove, hrest⟩ := List.pairwise_cons.1 hascending
      -- a first key that is not the least of all would come after it
      have hkey : first.1 = key := by
        refine (List.mem_cons.1 (hall first List.mem_cons_self)).resolve_right fun hlater => ?_
        cases (hascending.find?_of_lt_head (hfirst _ hlater)).symm.trans hfind
      rw [Entries.find?_cons, if_pos hkey, Option.some.injEq] at hfind
      refine ⟨rest, ?_, hrest, fun entry hentry => ?_, fun other hother => ?_⟩
      · rw [withFirst, ← hkey, ← hfind]
      · refine (List.mem_cons.1 (hall entry (List.mem_cons_of_mem _ hentry))).resolve_left ?_
        exact fun heq => String.lt_irrefl _ (hkey ▸ heq ▸ habove entry hentry)
      · rw [Entries.find?_cons, if_neg]
        exact fun heq => String.lt_irrefl _ (hkey ▸ heq ▸ hfirst other hother)

theorem changedMembers_withFirst {as bs : Entries Json} (has : ∀ a ∈ as, key < a.1)
    (hbs : ∀ b ∈ bs, key < b.1) (path : Path) (before after : Option Json) :
    changedMembers path (withFirst key before as) (withFirst key after bs) =
      partChanges (.key key :: path) before after ++ changedMembers path as bs := by
  cases before with
  | none =>
    cases after with
    | none => rfl
    | some after =>
      cases as with
      | nil => rfl
      | cons a as =>
        have hlt := has a List.mem_cons_self
        simp only [withFirst, changedMembers, partChanges, placeChange, addedMembers,
          List.takeWhile_cons, List.dropWhile_cons, decide_eq_true hlt, if_true, List.map_cons,
          List.cons_append, List.nil_append]
  | some before =>
    cases after with
    | none =>
      cases bs with
      | nil => rfl
      | cons b bs =>
        have hlt := hbs b List.mem_cons_self
        have hnot : ¬b.1 < key := fun hback => String.lt_irrefl _ (String.lt_trans hlt hback)
        have hne : b.1 ≠ key := fun heq => String.lt_irrefl _ (heq ▸ hlt)
        simp only [withFirst, changedMembers, partChanges, placeChange, addedMembers,
          List.takeWhile_cons, List.dropWhile_cons, decide_eq_false hnot, Bool.false_eq_true,
          if_false, if_neg hne, List.map_nil, List.nil_append, List.cons_append]
    | some after =>
      simp only [withFirst, changedMembers, partChanges, addedMembers, List.takeWhile_cons,
        List.dropWhile_cons, decide_eq_false (String.lt_irrefl key), Bool.false_eq_true, if_false,
        if_true, List.map_nil, List.nil_append]

/-- Ascending members are compared key by key. -/
theorem changedMembers_eq {as bs : Entries Json} {keys : List String} (has : as.Ascending)
    (hbs : bs.Ascending) (hkeys : keys.Pairwise (· < ·)) (ha : ∀ a ∈ as, a.1 ∈ keys)
    (hb : ∀ b ∈ bs, b.1 ∈ keys)
    (path : Path) : changedMembers path as bs = keys.flatMap fun key =>
      partChanges (.key key :: path) (as.find? key) (bs.find? key) := by
  induction keys generalizing as bs with
  | nil =>
    obtain rfl := List.eq_nil_iff_forall_not_mem.2 fun a hmem => List.not_mem_nil (ha a hmem)
    obtain rfl := List.eq_nil_iff_forall_not_mem.2 fun b hmem => List.not_mem_nil (hb b hmem)
    rfl
  | cons key keys ih =>
    obtain ⟨hfirst, hlater⟩ := List.pairwise_cons.1 hkeys
    obtain ⟨resta, heqa, hasa, hina, hfinda⟩ := exists_withFirst has hkeys ha
    obtain ⟨restb, heqb, hasb, hinb, hfindb⟩ := exists_withFirst hbs hkeys hb
    have hrest : changedMembers path resta restb = keys.flatMap fun key =>
        partChanges (.key key :: path) (as.find? key) (bs.find? key) := by
      rw [ih hasa hasb hlater hina hinb]
      exact List.flatMap_congr fun other hother => by rw [hfinda other hother, hfindb other hother]
    rw [List.flatMap_cons, ← hrest]
    conv_lhs => rw [heqa, heqb]
    exact changedMembers_withFirst (fun a hmem => hfirst _ (hina a hmem))
      (fun b hmem => hfirst _ (hinb b hmem)) path _ _

-- ---------------------------------------------------------------------------
-- Items index by index
-- ---------------------------------------------------------------------------

theorem changedItems_step (path : Path) (index : Nat) (as bs : List Json) :
    changedItems path index as bs = partChanges (.index index :: path) as[0]? bs[0]? ++
      changedItems path (index + 1) as.tail bs.tail := by
  cases as with
  | nil =>
    cases bs with
    | nil => rfl
    | cons b bs =>
      simp [changedItems, addedItems, partChanges, placeChange, List.mapIdx_cons,
        Nat.add_right_comm, Nat.add_assoc]
  | cons a as => cases bs <;> simp [changedItems, partChanges, placeChange]

theorem changedItems_eq {as bs : List Json} (has : as.length ≤ count) (hbs : bs.length ≤ count)
    (path : Path) (index : Nat) : changedItems path index as bs =
      (List.range count).flatMap fun offset =>
        partChanges (.index (index + offset) :: path) as[offset]? bs[offset]? := by
  induction count generalizing as bs index with
  | zero =>
    obtain rfl := List.eq_nil_of_length_eq_zero (Nat.le_zero.1 has)
    obtain rfl := List.eq_nil_of_length_eq_zero (Nat.le_zero.1 hbs)
    rfl
  | succ count ih =>
    have hrest : changedItems path (index + 1) as.tail bs.tail = _ :=
      ih (by simpa using has) (by simpa using hbs) (index + 1)
    rw [changedItems_step, hrest, List.range_succ_eq_map, List.flatMap_cons, List.flatMap_map]
    simp [Nat.add_right_comm, Nat.add_assoc]

-- ---------------------------------------------------------------------------
-- Parts one by one
-- ---------------------------------------------------------------------------

section
variable {a b : Option Json} {places : List Place}

theorem exists_keys (as bs : Entries Json) : ∃ keys : List String, keys.Pairwise (· < ·) ∧
    (∀ a ∈ as, a.1 ∈ keys) ∧ ∀ b ∈ bs, b.1 ∈ keys := by
  have hmem : ∀ entry ∈ as ++ bs, entry.1 ∈ (as ++ bs).ordered.map (·.1) := by
    intro entry hentry
    by_contra hout
    have hnone : Entries.find? entry.1 (as ++ bs).ordered = none :=
      Entries.find?_eq_none_iff.2 fun other hother heq => hout (List.mem_map.2 ⟨other, hother, heq⟩)
    rw [Entries.find?_ordered, Entries.find?_eq_none_iff] at hnone
    exact hnone entry (List.mem_reverse.2 hentry) rfl
  exact ⟨_, List.pairwise_map.2 (Entries.ascending_ordered _),
    fun a ha => hmem a (List.mem_append_left _ ha), fun b hb => hmem b (List.mem_append_right _ hb)⟩

/-- The steps to the parts of two values, in their order, with the changes at each. -/
structure Parts (a b : Option Json) (steps : List Step) : Prop where
  ascending : steps.Pairwise Step.Before
  complete : ∀ step ∉ steps, a.bind step.part? = none ∧ b.bind step.part? = none
  changes : ∀ path, partChanges path a b = steps.flatMap fun step =>
    partChanges (step :: path) (a.bind step.part?) (b.bind step.part?)

/-- Where the two sides are the same nothing is compared, and no part has a change. -/
theorem partChanges_of_nested {steps : List Step} {changed : List Change} {a b : Json}
    (h : Json.changes path a b = if a.same b then [] else changed)
    (hchanged : changed = steps.flatMap fun step =>
      partChanges (step :: path) (step.part? a) (step.part? b)) :
    partChanges path (some a) (some b) = steps.flatMap fun step =>
      partChanges (step :: path) ((some a).bind step.part?) ((some b).bind step.part?) := by
  cases hsame : a.same b with
  | true =>
    have hsame : Same (some a) (some b) := same_some_iff.2 hsame
    rw [partChanges_of_same hsame]
    exact (List.flatMap_eq_nil_iff.2 fun step _ => partChanges_of_same (hsame.part step)).symm
  | false =>
    rw [hsame, if_neg Bool.false_ne_true, hchanged] at h
    exact h

theorem exists_parts (hnested : BothNested a b) (ha : ∀ value ∈ a, value.WellFormed)
    (hb : ∀ value ∈ b, value.WellFormed) : ∃ steps, Parts a b steps := by
  cases hnested with
  | objects as bs =>
    obtain ⟨keys, hkeys, hina, hinb⟩ := exists_keys as bs
    refine ⟨keys.map .key, ?_, fun step hstep => ?_, fun path => ?_⟩
    · exact List.pairwise_map.2 (hkeys.imp .key)
    · cases step with
      | key name =>
        have hname : name ∉ keys := fun hmem => hstep (List.mem_map.2 ⟨name, hmem, rfl⟩)
        exact ⟨Entries.find?_eq_none_iff.2 fun a hmem heq => hname (heq ▸ hina a hmem),
          Entries.find?_eq_none_iff.2 fun b hmem heq => hname (heq ▸ hinb b hmem)⟩
      | index position => exact ⟨rfl, rfl⟩
    · refine partChanges_of_nested (by unfold changes; rfl) ?_
      rw [List.flatMap_map]
      exact changedMembers_eq (wellFormed_obj.1 (ha _ rfl)).1 (wellFormed_obj.1 (hb _ rfl)).1 hkeys
        hina hinb path
  | arrays as bs =>
    refine ⟨(List.range (max as.length bs.length)).map .index, ?_, fun step hstep => ?_,
      fun path => ?_⟩
    · exact List.pairwise_map.2 (List.pairwise_lt_range.imp .index)
    · cases step with
      | key name => exact ⟨rfl, rfl⟩
      | index position =>
        have hlarge : max as.length bs.length ≤ position := Nat.le_of_not_lt fun hlt =>
          hstep (List.mem_map.2 ⟨position, List.mem_range.2 hlt, rfl⟩)
        exact ⟨List.getElem?_eq_none (by omega), List.getElem?_eq_none (by omega)⟩
    · have hitems := changedItems_eq (Nat.le_max_left as.length bs.length)
        (Nat.le_max_right as.length bs.length) path 0
      simp only [Nat.zero_add] at hitems
      refine partChanges_of_nested (by unfold changes; rfl) ?_
      rw [List.flatMap_map]
      exact hitems

-- ---------------------------------------------------------------------------
-- Change points one by one
-- ---------------------------------------------------------------------------

/-- All change points of two values, depth first, with the change at each. -/
structure Enumerates (a b : Option Json) (places : List Place) : Prop where
  ascending : places.Pairwise Place.Before
  points : ∀ place, place ∈ places ↔ ChangePoint a b place
  changes : ∀ path, partChanges path a b = places.flatMap fun place =>
    placeChange (place.reverse ++ path) (Place.reach a place) (Place.reach b place)

/-- Without parts to compare there is at most one change point, the values' own place. -/
theorem exists_enumerates_of_flat (hflat : ¬BothNested a b) : ∃ places, Enumerates a b places := by
  by_cases hdisagree : Disagree a b
  · refine ⟨[[]], List.pairwise_singleton .., fun place => ?_, fun path => ?_⟩
    · rw [List.mem_singleton]
      constructor
      · rintro rfl
        exact changePoint_nil.2 hdisagree
      · exact fun hpoint => hpoint.eq_nil hflat
    · rw [partChanges_of_disagree hdisagree]
      simp
  · have hsame : Same a b := by
      by_contra hdiffer
      exact hdisagree (disagree_iff.2 ⟨hdiffer, hflat⟩)
    exact ⟨[], .nil, fun _ => iff_of_false List.not_mem_nil (not_changePoint_of_same hsame),
      fun _ => partChanges_of_same hsame⟩

/-- The change points of two values are those of their parts, part after part. -/
theorem Parts.exists_enumerates {steps : List Step} (h : Parts a b steps) (hnested : BothNested a b)
    (hbelow : ∀ step : Step,
      ∃ places, Enumerates (a.bind step.part?) (b.bind step.part?) places) :
    ∃ places, Enumerates a b places := by
  choose below hbelow using hbelow
  refine ⟨steps.flatMap fun step => (below step).map (step :: ·), ?_, fun place => ?_,
    fun path => ?_⟩
  · refine List.pairwise_flatMap.2 ⟨fun step _ => ?_, h.ascending.imp fun hbefore => ?_⟩
    · exact List.pairwise_map.2 ((hbelow step).ascending.imp .cons)
    · simp only [List.forall_mem_map]
      exact fun _ _ _ _ => .rel hbefore
  · simp only [List.mem_flatMap, List.mem_map]
    constructor
    · rintro ⟨step, -, place, hplace, rfl⟩
      exact changePoint_cons.2 ⟨hnested, ((hbelow step).points place).1 hplace⟩
    · intro hpoint
      cases place with
      | nil => exact absurd hnested (disagree_iff.1 (changePoint_nil.1 hpoint)).2
      | cons step place =>
        have hpart := (changePoint_cons.1 hpoint).2
        refine ⟨step, ?_, place, ((hbelow step).points place).2 hpart, rfl⟩
        -- after any other step both sides are without a value, and nothing can disagree there
        by_contra hstep
        obtain ⟨hnonea, hnoneb⟩ := h.complete step hstep
        rw [hnonea, hnoneb] at hpart
        exact not_changePoint_of_same .none hpart
  · rw [h.changes path, List.flatMap_assoc]
    refine List.flatMap_congr fun step _ => ?_
    rw [(hbelow step).changes, List.flatMap_map]
    simp

-- ---------------------------------------------------------------------------
-- All change points
-- ---------------------------------------------------------------------------

theorem Hereditary.part {P : Json → Prop} {Keys : List String → Prop} (h : Hereditary P Keys)
    (ha : ∀ value ∈ a, P value) (step : Step) : ∀ value ∈ a.bind step.part?, P value := by
  intro part hpart
  obtain ⟨value, rfl, hpart⟩ := Option.bind_eq_some_iff.1 hpart
  have hvalue := ha value rfl
  rcases exists_of_part? hpart with ⟨items, rfl, hmem⟩ | ⟨name, members, rfl, hmem⟩
  · exact (h.arr _).1 hvalue part hmem
  · exact ((h.obj _).1 hvalue).2 _ hmem

theorem exists_enumerates (ha : ∀ value ∈ a, value.WellFormed)
    (hb : ∀ value ∈ b, value.WellFormed) : ∃ places, Enumerates a b places := by
  cases a with
  | none => exact exists_enumerates_of_flat fun h => nomatch h
  | some value =>
    -- over the parts of the one side; the other is followed down along with it
    induction value using induct_parts generalizing b with
    | parts value ih =>
      by_cases hnested : BothNested (some value) b
      · obtain ⟨steps, hsteps⟩ := exists_parts hnested ha hb
        refine hsteps.exists_enumerates hnested fun step => ?_
        have hparta := hereditary_wellFormed.part ha step
        have hpartb := hereditary_wellFormed.part hb step
        cases hpart : (some value).bind step.part? with
        | none => exact exists_enumerates_of_flat fun h => nomatch h
        | some part =>
          rw [hpart] at hparta
          exact ih step part hpart hpartb hparta
      · exact exists_enumerates_of_flat hnested

theorem Enumerates.eq {others : List Place} (h : Enumerates a b places)
    (hback : Enumerates b a others) : others = places := by
  refine List.Pairwise.eq_of_mem_iff hback.ascending h.ascending fun place => ?_
  rw [hback.points, h.points]
  exact ⟨ChangePoint.symm, ChangePoint.symm⟩

theorem exists_changePoint (ha : ∀ value ∈ a, value.WellFormed)
    (hb : ∀ value ∈ b, value.WellFormed) (hdiffer : ¬Same a b) :
    ∃ place, ChangePoint a b place := by
  obtain ⟨places, hplaces⟩ := exists_enumerates ha hb
  cases places with
  | nil => exact absurd (same_of_partChanges (hplaces.changes [])) hdiffer
  | cons place rest => exact ⟨place, (hplaces.points place).1 List.mem_cons_self⟩

/-- Wherever two values differ there is a change point at, above or below the place. -/
theorem exists_changePoint_near {place : Place} (ha : ∀ value ∈ a, value.WellFormed)
    (hb : ∀ value ∈ b, value.WellFormed)
    (hdiffer : ¬Same (Place.reach a place) (Place.reach b place)) :
    ∃ point, ChangePoint a b point ∧ (point <+: place ∨ place <+: point) := by
  induction place generalizing a b with
  | nil =>
    obtain ⟨point, hpoint⟩ := exists_changePoint ha hb hdiffer
    exact ⟨point, hpoint, .inr List.nil_prefix⟩
  | cons step rest ih =>
    by_cases hnested : BothNested a b
    · obtain ⟨point, hpoint, hnear⟩ :=
        ih (hereditary_wellFormed.part ha step) (hereditary_wellFormed.part hb step) hdiffer
      refine ⟨step :: point, changePoint_cons.2 ⟨hnested, hpoint⟩, ?_⟩
      simpa only [List.cons_prefix_cons, true_and] using hnear
    · have hdisagree : Disagree a b :=
        disagree_iff.2 ⟨fun hsame => hdiffer (hsame.reach _), hnested⟩
      exact ⟨[], changePoint_nil.2 hdisagree, .inl List.nil_prefix⟩

-- ---------------------------------------------------------------------------
-- Keys
-- ---------------------------------------------------------------------------

theorem hereditary_noEmptyKeys : Hereditary NoEmptyKeys ("" ∉ ·) := by
  refine ⟨fun items => ⟨fun h => ?_, .arr⟩, fun members => ⟨fun h => ?_, fun h => .obj h.1 h.2⟩⟩
  · cases h with
    | arr hitems => exact hitems
  · cases h with
    | obj hkeys hvalues => exact ⟨hkeys, hvalues⟩

theorem part?_empty (h : ∀ value ∈ a, value.NoEmptyKeys) :
    a.bind (Step.key "").part? = none := by
  refine Option.eq_none_iff_forall_ne_some.2 fun part hpart => ?_
  obtain ⟨value, rfl, hpart⟩ := Option.bind_eq_some_iff.1 hpart
  cases value with
  | obj members =>
    have hkeys := ((hereditary_noEmptyKeys.obj members).1 (h _ rfl)).1
    exact hkeys (List.mem_map.2 ⟨_, Entries.mem_of_find? hpart, rfl⟩)
  | _ => cases hpart

theorem key_not_mem_of_changePoint {place : Place} (ha : ∀ value ∈ a, value.NoEmptyKeys)
    (hb : ∀ value ∈ b, value.NoEmptyKeys) (hpoint : ChangePoint a b place) :
    Step.key "" ∉ place := by
  induction place generalizing a b with
  | nil => exact List.not_mem_nil
  | cons step rest ih =>
    have hpart := (changePoint_cons.1 hpoint).2
    rw [List.mem_cons, not_or]
    refine ⟨?_, ih (hereditary_noEmptyKeys.part ha step)
      (hereditary_noEmptyKeys.part hb step) hpart⟩
    rintro rfl
    rw [part?_empty ha, part?_empty hb] at hpart
    exact not_changePoint_of_same .none hpart

end

end Json

-- ---------------------------------------------------------------------------
-- Lines
-- ---------------------------------------------------------------------------

section
variable {a b : Json} {places : List Place}

theorem shown_text {place : Place} (hnamed : Step.key "" ∉ place) :
    (if (Path.text place.reverse).isEmpty then "." else Path.text place.reverse) =
      Place.text place := by
  by_cases hroot : place = []
  · subst hroot
    rfl
  · have htext : Path.text place.reverse ≠ "" :=
      Path.text_ne_empty (mt List.mem_reverse.1 hnamed) (by simpa using hroot)
    rw [if_neg (mt String.isEmpty_iff.1 htext), Path.text_reverse hnamed hroot]

theorem lines_placeChange {place : Place} {before after : Option Json}
    (hnamed : Step.key "" ∉ place)
    (hroot : place = [] → before.isSome = true ∧ after.isSome = true) :
    (Json.placeChange place.reverse before after).flatMap Change.lines =
      sideLines "-" place before ++ sideLines "+" place after := by
  cases before with
  | none =>
    cases after with
    | none => rfl
    | some after =>
      have htext := Path.text_reverse hnamed fun h => by simpa using hroot h
      simp [Json.placeChange, Change.lines, sideLines, htext]
  | some before =>
    cases after with
    | none =>
      have htext := Path.text_reverse hnamed fun h => by simpa using hroot h
      simp [Json.placeChange, Change.lines, sideLines, htext]
    | some after =>
      simp only [Json.placeChange, List.flatMap_cons, List.flatMap_nil, Change.lines,
        shown_text hnamed, sideLines]
      rfl

theorem changeLines_eq (ha : a.NoEmptyKeys) (hb : b.NoEmptyKeys)
    (hplaces : Json.Enumerates (some a) (some b) places) :
    changeLines a b = places.flatMap (linesAt (some a) (some b)) := by
  have hchanges : Json.changes [] a b = _ := hplaces.changes []
  rw [changeLines, hchanges, List.flatMap_assoc]
  refine List.flatMap_congr fun place hplace => ?_
  have hnamed := Json.key_not_mem_of_changePoint (by simpa using ha) (by simpa using hb)
    ((hplaces.points place).1 hplace)
  rw [List.append_nil]
  refine lines_placeChange hnamed ?_
  rintro rfl
  exact ⟨rfl, rfl⟩

end

/-- The lines of a comparison are those of the places where the normal forms disagree, depth first,
and from the other side they are the same with their signs exchanged at each place. -/
theorem diff_changePoints (current new : DocumentSource) {a b : Json}
    (hcurrent : current.WellFormed) (hnew : new.WellFormed)
    (ha : current.read = .ok a) (hb : new.read = .ok b)
    (hnameda : a.NoEmptyKeys) (hnamedb : b.NoEmptyKeys) (hdiffer : a.normal.same b.normal = false) :
    let before := some a.normal
    let after := some b.normal
    ∃ points : List Place, points.Pairwise Place.Before ∧
      (∀ place, place ∈ points ↔ ChangePoint before after place) ∧
      (diff current new).outcome = .ok (diffHeader ++ points.flatMap (linesAt before after)) ∧
      (diff new current).outcome = .ok (diffHeader ++ points.flatMap (linesAt after before)) ∧
      ∀ place, ¬Same (Place.reach before place) (Place.reach after place) →
        ∃ point ∈ points, point <+: place ∨ place <+: point := by
  intro before after
  have hwella : ∀ value ∈ before, value.WellFormed := by
    simpa [before] using
      Json.hereditary_wellFormed.normal (DocumentSource.wellFormed_read hcurrent ha)
  have hwellb : ∀ value ∈ after, value.WellFormed := by
    simpa [after] using Json.hereditary_wellFormed.normal (DocumentSource.wellFormed_read hnew hb)
  have hnameda := Json.hereditary_noEmptyKeys.normal hnameda
  have hnamedb := Json.hereditary_noEmptyKeys.normal hnamedb
  obtain ⟨points, hpoints⟩ := Json.exists_enumerates hwella hwellb
  obtain ⟨others, hback⟩ := Json.exists_enumerates hwellb hwella
  obtain rfl := hpoints.eq hback
  refine ⟨others, hpoints.ascending, hpoints.points, ?_, ?_, fun place hdiffers => ?_⟩
  · rw [diff_of_read ha hb, diffValues, hdiffer, if_neg Bool.false_ne_true,
      changeLines_eq hnameda hnamedb hpoints]
  · rw [diff_of_read hb ha, diffValues, Json.same_comm, hdiffer, if_neg Bool.false_ne_true,
      changeLines_eq hnamedb hnameda hback]
  · obtain ⟨point, hpoint, hnear⟩ := Json.exists_changePoint_near hwella hwellb hdiffers
    exact ⟨point, (hpoints.points point).2 hpoint, hnear⟩

/-- Lists are compared item by item once they are sorted; a string and a list of it are not. -/
theorem diff_changePoints_nested :
    let current := Json.obj
      [("Statement", .arr [.obj [("Action", .arr [.str "b", .str "a"]),
        ("Principal", .obj [("AWS", .str "x")])]]), ("Version", .int 1)]
    let new := Json.obj
      [("Statement", .arr [.obj [("Action", .arr [.str "a", .str "c"]),
        ("Principal", .obj [("AWS", .arr [.str "x"])])], .null])]
    (current.WellFormed ∧ new.WellFormed) ∧ (current.NoEmptyKeys ∧ new.NoEmptyKeys) ∧
    current.normal.same new.normal = false ∧
    ∃ points : List Place,
      (∀ place, place ∈ points ↔ ChangePoint (some current.normal) (some new.normal) place) ∧
      diffHeader ++ points.flatMap (linesAt (some current.normal) (some new.normal)) =
        ["--- current", "+++ new",
          "-Statement[0].Action[1]: \"b\"", "+Statement[0].Action[1]: \"c\"",
          "-Statement[0].Principal.AWS: \"x\"", "+Statement[0].Principal.AWS: [\"x\"]",
          "+Statement[1]: null", "-Version: 1"] := by
  intro current new
  have hcurrent : current.WellFormed := by
    simp only [current, Json.WellFormed, Json.WellFormedItems, Json.WellFormedMembers, and_true,
      true_and]
    refine ⟨?_, ?_, ?_⟩ <;> decide
  have hnew : new.WellFormed := by
    simp only [new, Json.WellFormed, Json.WellFormedItems, Json.WellFormedMembers, and_true,
      true_and]
    refine ⟨?_, ?_, ?_⟩ <;> decide
  have hnamedcurrent : current.NoEmptyKeys := by
    simp [current, Json.hereditary_noEmptyKeys.obj, Json.hereditary_noEmptyKeys.arr,
      Json.NoEmptyKeys.str, Json.NoEmptyKeys.int]
  have hnamednew : new.NoEmptyKeys := by
    simp [new, Json.hereditary_noEmptyKeys.obj, Json.hereditary_noEmptyKeys.arr,
      Json.NoEmptyKeys.str, Json.NoEmptyKeys.null]
  have hsorted : Json.sortItems [.str "b", .str "a"] = [.str "a", .str "b"] :=
    Json.sortItems_strings (List.Perm.swap "b" "a" []) (by decide)
  have hnormal : current.normal = .obj
      [("Statement", .arr [.obj [("Action", .arr [.str "a", .str "b"]),
        ("Principal", .obj [("AWS", .str "x")])]]), ("Version", .int 1)] :=
    congrArg (fun items => Json.obj [("Statement", .arr [.obj [("Action", .arr items),
      ("Principal", .obj [("AWS", .str "x")])]]), ("Version", .int 1)]) hsorted
  have hactions : Json.sortItems [.str "a", .str "c"] = [.str "a", .str "c"] :=
    Json.sortItems_strings (List.Perm.refl ["a", "c"]) (by decide)
  have hprincipals : Json.sortItems [.str "x"] = [.str "x"] := List.mergeSort_singleton _
  have hnormalNew : new.normal = new := by
    show Json.obj [("Statement", .arr [.obj [("Action", .arr (Json.sortItems [.str "a", .str "c"])),
      ("Principal", .obj [("AWS", .arr (Json.sortItems [.str "x"]))])], .null])] = _
    rw [hactions, hprincipals]
  have hdiffer : current.normal.same new.normal = false := by
    rw [hnormal, hnormalNew]
    rfl
  obtain ⟨points, -, hpoints, hlines, -⟩ := diff_changePoints (.value current) (.value new)
    hcurrent hnew rfl rfl hnamedcurrent hnamednew hdiffer
  refine ⟨⟨hcurrent, hnew⟩, ⟨hnamedcurrent, hnamednew⟩, hdiffer, points, hpoints, ?_⟩
  apply Except.ok.inj
  rw [← hlines, diff_of_read rfl rfl, diffValues, hdiffer, hnormal, hnormalNew]
  rfl

end AccessPolicy
