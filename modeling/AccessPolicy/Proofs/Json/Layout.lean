import Mathlib.Data.List.Basic
import AccessPolicy.Proofs.Json.ReadTokens
import AccessPolicy.Proofs.Json.Structure

/-!
# Layouts of printed values

The printers differ in the blanks between tokens only: both are `layout` with a `Spacing`. What
holds of all layouts holds of both.
-/

namespace AccessPolicy.Json

/-- The blanks before the elements of a container, by its depth, and those after a colon. -/
structure Spacing where
  gap : Nat → List Char
  colon : List Char
  blank_gap : ∀ depth, Blank (gap depth)
  blank_colon : Blank colon

def Spacing.none : Spacing :=
  ⟨fun _ => [], [], fun _ => List.forall_mem_nil _, List.forall_mem_nil _⟩

theorem blank_lineStart (depth : Nat) : Blank (lineStart depth) := by
  intro c hc
  rcases List.mem_cons.1 hc with rfl | hc
  · rfl
  · rw [List.eq_of_mem_replicate hc]
    rfl

def Spacing.lines : Spacing := ⟨lineStart, [' '], blank_lineStart, fun _ h => by simp_all; rfl⟩

mutual
def layout (spacing : Spacing) (depth : Nat) : Json → List Char
  | .arr [] => ['[', ']']
  | .arr (item :: rest) =>
    '[' :: (spacing.gap (depth + 1) ++ item.layout spacing (depth + 1) ++
      layoutItems spacing (depth + 1) rest ++ spacing.gap depth ++ [']'])
  | .obj [] => ['{', '}']
  | .obj ((key, value) :: rest) =>
    '{' :: (spacing.gap (depth + 1) ++ stringChars key ++ ':' :: spacing.colon ++
      value.layout spacing (depth + 1) ++
      layoutMembers spacing (depth + 1) rest ++ spacing.gap depth ++ ['}'])
  | scalar => scalarChars scalar
def layoutItems (spacing : Spacing) (depth : Nat) : List Json → List Char
  | [] => []
  | item :: rest =>
    ',' :: (spacing.gap depth ++ item.layout spacing depth ++ layoutItems spacing depth rest)
def layoutMembers (spacing : Spacing) (depth : Nat) : List (String × Json) → List Char
  | [] => []
  | (key, value) :: rest =>
    ',' :: (spacing.gap depth ++ stringChars key ++ ':' :: spacing.colon ++
      value.layout spacing depth ++ layoutMembers spacing depth rest)
end

theorem layoutItems_eq (spacing : Spacing) (depth : Nat) (items : List Json) :
    layoutItems spacing depth items =
      items.flatMap fun item => ',' :: (spacing.gap depth ++ item.layout spacing depth) := by
  induction items with
  | nil => rfl
  | cons item rest ih => rw [layoutItems, ih, List.flatMap_cons, List.cons_append]

theorem layoutMembers_eq (spacing : Spacing) (depth : Nat) (members : Entries Json) :
    layoutMembers spacing depth members = members.flatMap fun member =>
      ',' :: (spacing.gap depth ++ stringChars member.1 ++ ':' :: spacing.colon ++
        member.2.layout spacing depth) := by
  induction members with
  | nil => rfl
  | cons member rest ih => rw [layoutMembers, ih, List.flatMap_cons, List.cons_append]

-- ---------------------------------------------------------------------------
-- The parts of containers
-- ---------------------------------------------------------------------------

def memberChars (spacing : Spacing) (depth : Nat) (member : String × Json) : List Char :=
  stringChars member.1 ++ ':' :: (spacing.colon ++ member.2.layout spacing depth)

/-- Parts of a container that are still to come. A comma precedes each of them but the container's
first one. -/
def partsLeft (gap : List Char) (first : Bool) (parts : List (List Char)) : List Char :=
  (parts.flatMap fun part => ',' :: (gap ++ part)).drop first.toNat

def itemsLeft (spacing : Spacing) (depth : Nat) (first : Bool) (items : List Json) : List Char :=
  partsLeft (spacing.gap depth) first (items.map (layout spacing depth))

def membersLeft (spacing : Spacing) (depth : Nat) (first : Bool) (members : Entries Json) :
    List Char :=
  partsLeft (spacing.gap depth) first (members.map (memberChars spacing depth))

section
variable {gap part : List Char} {parts : List (List Char)} {first : Bool}

theorem partsLeft_nil : partsLeft gap first [] = [] := List.drop_nil

theorem partsLeft_first :
    partsLeft gap true (part :: parts) = gap ++ (part ++ partsLeft gap false parts) := by
  simp [partsLeft]

theorem partsLeft_later :
    partsLeft gap false (part :: parts) = ',' :: (gap ++ (part ++ partsLeft gap false parts)) := by
  simp [partsLeft]

/-- The parts take a comma each, of which one may be missing. -/
theorem length_le_partsLeft (gap : List Char) (first : Bool) (parts : List (List Char)) :
    parts.length ≤ (partsLeft gap first parts).length + 1 := by
  have hcommas : parts.length ≤ (partsLeft gap false parts).length := by
    induction parts with
    | nil => exact Nat.zero_le _
    | cons part parts ih =>
      simp only [partsLeft_later, List.length_cons, List.length_append]
      omega
  have hfirst : first.toNat ≤ 1 := Bool.toNat_le first
  simp only [partsLeft, List.length_drop, Bool.toNat_false, Nat.sub_zero] at hcommas ⊢
  omega

theorem layout_arr (spacing : Spacing) (depth : Nat) (items : List Json) :
    ∃ close, Blank close ∧ (arr items).layout spacing depth =
      '[' :: (itemsLeft spacing (depth + 1) true items ++ (close ++ [']'])) := by
  cases items with
  | nil => exact ⟨[], List.forall_mem_nil _, by simp [layout, itemsLeft, partsLeft_nil]⟩
  | cons item items =>
    refine ⟨spacing.gap depth, spacing.blank_gap depth, ?_⟩
    simp [layout, layoutItems_eq, itemsLeft, partsLeft, List.flatMap_map]

theorem layout_obj (spacing : Spacing) (depth : Nat) (members : Entries Json) :
    ∃ close, Blank close ∧ (obj members).layout spacing depth =
      '\x7b' :: (membersLeft spacing (depth + 1) true members ++ (close ++ ['\x7d'])) := by
  cases members with
  | nil => exact ⟨[], List.forall_mem_nil _, by simp [layout, membersLeft, partsLeft_nil]⟩
  | cons member members =>
    refine ⟨spacing.gap depth, spacing.blank_gap depth, ?_⟩
    simp [layout, layoutMembers_eq, membersLeft, partsLeft, memberChars, List.flatMap_map]

end

-- ---------------------------------------------------------------------------
-- The two printers
-- ---------------------------------------------------------------------------

theorem compactItems_cons (item : Json) (rest : List Json) : compactItems (item :: rest) =
    item.compactChars ++ rest.flatMap fun next => ',' :: next.compactChars := by
  induction rest generalizing item with
  | nil => simp [compactItems]
  | cons next rest ih => rw [compactItems, ih, List.flatMap_cons, List.cons_append]; simp

theorem compactMembers_cons (member : String × Json) (rest : Entries Json) :
    compactMembers (member :: rest) = stringChars member.1 ++ ':' :: member.2.compactChars ++
      rest.flatMap fun next => ',' :: (stringChars next.1 ++ ':' :: next.2.compactChars) := by
  induction rest generalizing member with
  | nil => simp [compactMembers]
  | cons next rest ih => rw [compactMembers, ih, List.flatMap_cons] <;> simp

theorem compactChars_eq_layout (value : Json) (depth : Nat) :
    value.compactChars = value.layout .none depth := by
  induction value using induct generalizing depth with
  | null => simp [compactChars, layout]
  | bool _ => simp [compactChars, layout]
  | int _ => simp [compactChars, layout]
  | float _ => simp [compactChars, layout]
  | str _ => simp [compactChars, layout]
  | arr items ih =>
    cases items with
    | nil => rfl
    | cons item rest =>
      obtain ⟨hitem, hrest⟩ := List.forall_mem_cons.1 ih
      rw [compactChars, compactItems_cons, layout, layoutItems_eq, hitem (depth + 1),
        List.flatMap_congr fun next hnext => congrArg (',' :: ·) (hrest next hnext (depth + 1))]
      simp [Spacing.none]
  | obj members ih =>
    cases members with
    | nil => rfl
    | cons member rest =>
      obtain ⟨hmember, hrest⟩ := List.forall_mem_cons.1 ih
      rw [compactChars, compactMembers_cons, layout, layoutMembers_eq, hmember (depth + 1),
        List.flatMap_congr fun next hnext =>
          congrArg (fun text => ',' :: (stringChars next.1 ++ ':' :: text))
            (hrest next hnext (depth + 1))]
      simp [Spacing.none]

theorem prettyItems_cons (depth : Nat) (item : Json) (rest : List Json) :
    prettyItems depth (item :: rest) = lineStart depth ++ item.prettyChars depth ++
      rest.flatMap fun next => ',' :: (lineStart depth ++ next.prettyChars depth) := by
  induction rest generalizing item with
  | nil => simp [prettyItems]
  | cons next rest ih => rw [prettyItems, ih, List.flatMap_cons] <;> simp

theorem prettyMembers_cons (depth : Nat) (member : String × Json) (rest : Entries Json) :
    prettyMembers depth (member :: rest) =
      lineStart depth ++ stringChars member.1 ++ ':' :: ' ' :: member.2.prettyChars depth ++
        rest.flatMap fun next =>
          ',' :: (lineStart depth ++ stringChars next.1 ++
            ':' :: ' ' :: next.2.prettyChars depth) := by
  induction rest generalizing member with
  | nil => simp [prettyMembers]
  | cons next rest ih => rw [prettyMembers, ih, List.flatMap_cons] <;> simp

theorem prettyChars_eq_layout (value : Json) (depth : Nat) :
    value.prettyChars depth = value.layout .lines depth := by
  induction value using induct generalizing depth with
  | null => simp [prettyChars, layout]
  | bool _ => simp [prettyChars, layout]
  | int _ => simp [prettyChars, layout]
  | float _ => simp [prettyChars, layout]
  | str _ => simp [prettyChars, layout]
  | arr items ih =>
    cases items with
    | nil => simp [prettyChars, layout]
    | cons item rest =>
      obtain ⟨hitem, hrest⟩ := List.forall_mem_cons.1 ih
      rw [prettyChars, prettyItems_cons, layout, layoutItems_eq, hitem (depth + 1),
        List.flatMap_congr fun next hnext =>
          congrArg (fun text => ',' :: (lineStart (depth + 1) ++ text))
            (hrest next hnext (depth + 1))]
      simp [Spacing.lines]
  | obj members ih =>
    cases members with
    | nil => simp [prettyChars, layout]
    | cons member rest =>
      obtain ⟨hmember, hrest⟩ := List.forall_mem_cons.1 ih
      rw [prettyChars, prettyMembers_cons, layout, layoutMembers_eq, hmember (depth + 1),
        List.flatMap_congr fun next hnext => congrArg (fun text =>
          ',' :: (lineStart (depth + 1) ++ stringChars next.1 ++ ':' :: ' ' :: text))
            (hrest next hnext (depth + 1))]
      simp [Spacing.lines]

end AccessPolicy.Json
