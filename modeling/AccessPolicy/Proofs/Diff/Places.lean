import Mathlib.Data.List.Lex
import AccessPolicy.Diff
import AccessPolicy.Proofs.Json.Structure

/-!
# Places in two values

A place is a way down from a value. Two values are followed down the same way, and at a change point
they disagree without holding two objects or two arrays to go on with (`ChangePoint`).
-/

namespace AccessPolicy

/-- The steps from a value to a part of it, the first first. -/
abbrev Place := List Step

-- ---------------------------------------------------------------------------
-- Parts
-- ---------------------------------------------------------------------------

def Step.part? : Step → Json → Option Json
  | .key name, .obj members => Entries.find? name members
  | .index position, .arr items => items[position]?
  | _, _ => none

/-- What is at a place below a value, if there is a value at all. -/
def Place.reach (value : Option Json) (place : Place) : Option Json :=
  place.foldl (fun value step => value.bind step.part?) value

inductive Step.Before : Step → Step → Prop
  | key (h : name < other) : Before (.key name) (.key other)
  | index (h : position < other) : Before (.index position) (.index other)

/-- A place comes before those below it, and among the parts of a value all that is in one comes
before all that is in a later one. -/
def Place.Before : Place → Place → Prop := List.Lex Step.Before

/-- There is the same value on both sides, or none. -/
def Same : Option Json → Option Json → Prop := Option.Rel fun a b => a.same b = true

/-- Two objects or two arrays, which are compared part by part. -/
inductive BothNested : Option Json → Option Json → Prop
  | objects (as bs : Entries Json) : BothNested (some (.obj as)) (some (.obj bs))
  | arrays (as bs : List Json) : BothNested (some (.arr as)) (some (.arr bs))

/-- A value on one side only, or two unequal ones that have no parts to compare. -/
inductive Disagree : Option Json → Option Json → Prop
  | removed (before : Json) : Disagree (some before) none
  | added (after : Json) : Disagree none (some after)
  | replaced (hdiffer : before.same after = false)
    (hflat : ¬BothNested (some before) (some after)) : Disagree (some before) (some after)

/-- A place where two values disagree, with two objects or two arrays at all places above it. -/
structure ChangePoint (a b : Option Json) (place : Place) : Prop where
  above : ∀ outer, outer <+: place → outer ≠ place →
    BothNested (Place.reach a outer) (Place.reach b outer)
  here : Disagree (Place.reach a place) (Place.reach b place)

section
variable {a b : Option Json} {step : Step} {place : Place}

@[simp] theorem Place.reach_nil (value : Option Json) : Place.reach value [] = value := rfl

@[simp] theorem Place.reach_cons (value : Option Json) (step : Step) (place : Place) :
    Place.reach value (step :: place) = Place.reach (value.bind step.part?) place := rfl

theorem exists_of_part? {value part : Json} (h : step.part? value = some part) :
    (∃ items, value = .arr items ∧ part ∈ items) ∨
      ∃ name members, value = .obj members ∧ (name, part) ∈ members := by
  cases step with
  | key name =>
    cases value with
    | obj members => exact .inr ⟨name, members, rfl, Entries.mem_of_find? h⟩
    | _ => cases h
  | index position =>
    cases value with
    | arr items => exact .inl ⟨items, rfl, List.mem_of_getElem? h⟩
    | _ => cases h

/-- Induction over a value and its parts. -/
@[elab_as_elim]
theorem Json.induct_parts {motive : Json → Prop}
    (parts : ∀ value, (∀ step part, Step.part? step value = some part → motive part) →
      motive value) (value : Json) : motive value := by
  induction value using Json.induct with
  | arr items ih =>
    refine parts _ fun step part hpart => ?_
    obtain ⟨_, ⟨⟩, hmem⟩ | ⟨_, _, ⟨⟩, -⟩ := exists_of_part? hpart
    exact ih part hmem
  | obj members ih =>
    refine parts _ fun step part hpart => ?_
    obtain ⟨_, ⟨⟩, -⟩ | ⟨name, _, ⟨⟩, hmem⟩ := exists_of_part? hpart
    exact ih (name, part) hmem
  | _ => exact parts _ fun step part hpart => by cases step <;> cases hpart

-- ---------------------------------------------------------------------------
-- Order
-- ---------------------------------------------------------------------------

instance : Std.Asymm Step.Before where
  asymm a b h hback := by
    cases h with
    | key h =>
      cases hback with
      | key hback => exact String.lt_irrefl _ (String.lt_trans h hback)
    | index h =>
      cases hback with
      | index hback => exact Nat.lt_asymm h hback

instance : Std.Asymm Place.Before := inferInstanceAs (Std.Asymm (List.Lex Step.Before))

-- ---------------------------------------------------------------------------
-- Same parts
-- ---------------------------------------------------------------------------

theorem Same.refl (value : Option Json) : Same value value := by
  cases value with
  | none => exact .none
  | some value => exact .some value.same_refl

theorem Same.symm (h : Same a b) : Same b a := by
  cases h with
  | none => exact .none
  | some h => exact .some (Json.same_comm _ _ ▸ h)

theorem same_some_iff {a b : Json} : Same (some a) (some b) ↔ a.same b = true :=
  Option.rel_some_some

theorem same_find? {as bs : Entries Json} (h : (Json.obj as).same (.obj bs) = true)
    (key : String) : Same (as.find? key) (bs.find? key) := by
  rw [Json.same_obj] at h
  induction as generalizing bs with
  | nil =>
    cases bs with
    | nil => exact .none
    | cons => cases h
  | cons a as ih =>
    cases bs with
    | nil => cases h
    | cons b bs =>
      simp only [List.isEqv, Bool.and_eq_true, beq_iff_eq] at h
      obtain ⟨⟨hkey, hvalue⟩, hrest⟩ := h
      rw [Entries.find?_cons, Entries.find?_cons, hkey]
      split
      · exact .some hvalue
      · exact ih hrest

theorem same_getElem? {as bs : List Json} (h : (Json.arr as).same (.arr bs) = true)
    (position : Nat) : Same as[position]? bs[position]? := by
  rw [Json.same_arr] at h
  induction as generalizing bs position with
  | nil =>
    cases bs with
    | nil => exact .none
    | cons => cases h
  | cons a as ih =>
    cases bs with
    | nil => cases h
    | cons b bs =>
      simp only [List.isEqv, Bool.and_eq_true] at h
      cases position with
      | zero => exact .some h.1
      | succ position => exact ih h.2 position

theorem Same.part (h : Same a b) (step : Step) : Same (a.bind step.part?) (b.bind step.part?) := by
  cases h with
  | none => exact .none
  | @some a b h =>
    cases a with
    | obj as =>
      cases b with
      | obj bs =>
        cases step with
        | key name => exact same_find? h name
        | index position => exact .none
      | _ => cases h
    | arr as =>
      cases b with
      | arr bs =>
        cases step with
        | key name => exact .none
        | index position => exact same_getElem? h position
      | _ => cases h
    | _ =>
      cases b with
      | obj | arr => cases h
      | _ => cases step <;> exact .none

theorem Same.reach (h : Same a b) (place : Place) :
    Same (Place.reach a place) (Place.reach b place) := by
  induction place generalizing a b with
  | nil => exact h
  | cons step rest ih => exact ih (h.part step)

-- ---------------------------------------------------------------------------
-- Change points
-- ---------------------------------------------------------------------------

theorem BothNested.symm (h : BothNested a b) : BothNested b a := by
  cases h <;> constructor

theorem disagree_iff : Disagree a b ↔ ¬Same a b ∧ ¬BothNested a b := by
  constructor
  · intro h
    cases h with
    | removed | added => exact ⟨fun h => (nomatch h), fun h => (nomatch h)⟩
    | replaced hdiffer hflat =>
      exact ⟨fun h => by simp [same_some_iff.1 h] at hdiffer, hflat⟩
  · intro ⟨hdiffer, hflat⟩
    cases a with
    | none =>
      cases b with
      | none => exact absurd .none hdiffer
      | some after => exact .added after
    | some before =>
      cases b with
      | none => exact .removed before
      | some after => exact .replaced (eq_false_of_ne_true (mt same_some_iff.2 hdiffer)) hflat

theorem Disagree.symm (h : Disagree a b) : Disagree b a := by
  rw [disagree_iff] at h ⊢
  exact ⟨fun hsame => h.1 hsame.symm, fun hnested => h.2 hnested.symm⟩

theorem ChangePoint.symm (h : ChangePoint a b place) : ChangePoint b a place :=
  ⟨fun outer hprefix hne => (h.above outer hprefix hne).symm, h.here.symm⟩

theorem changePoint_nil : ChangePoint a b [] ↔ Disagree a b :=
  ⟨fun h => h.here, fun h => ⟨fun _ hprefix hne => absurd (List.prefix_nil.1 hprefix) hne, h⟩⟩

theorem changePoint_cons : ChangePoint a b (step :: place) ↔
    BothNested a b ∧ ChangePoint (a.bind step.part?) (b.bind step.part?) place := by
  constructor
  · intro h
    refine ⟨h.above [] List.nil_prefix (List.cons_ne_nil step place).symm,
      fun outer hprefix hne => ?_, h.here⟩
    exact h.above (step :: outer) (List.cons_prefix_cons.2 ⟨rfl, hprefix⟩)
      fun heq => hne (List.cons.inj heq).2
  · intro ⟨hnested, hbelow⟩
    refine ⟨fun outer hprefix hne => ?_, hbelow.here⟩
    cases outer with
    | nil => exact hnested
    | cons first outer =>
      obtain ⟨rfl, hrest⟩ := List.cons_prefix_cons.1 hprefix
      exact hbelow.above outer hrest fun heq => hne (heq ▸ rfl)

theorem not_changePoint_of_same (h : Same a b) : ¬ChangePoint a b place := fun hpoint =>
  (disagree_iff.1 hpoint.here).1 (h.reach place)

theorem ChangePoint.eq_nil (h : ChangePoint a b place) (hflat : ¬BothNested a b) : place = [] := by
  cases place with
  | nil => rfl
  | cons => exact absurd (changePoint_cons.1 h).1 hflat

end

end AccessPolicy
