import AccessPolicy.Json.Basic
import AccessPolicy.Traced

/-!
# The shape of a list of strings

A list-valued field of a policy is absent when it is empty, a bare string when it holds one, and an
ascending list otherwise. Two lists have the same shape exactly when one is a permutation of the
other.
-/

namespace AccessPolicy

-- ---------------------------------------------------------------------------
-- Order
-- ---------------------------------------------------------------------------

/-- Strings in ascending code point order. -/
def ascending (texts : List String) : List String := texts.mergeSort fun a b => a ≤ b

@[simp] theorem ascending_nil : ascending [] = [] := List.mergeSort_nil

@[simp] theorem ascending_singleton (text : String) : ascending [text] = [text] :=
  List.mergeSort_singleton text

theorem ascending_perm (texts : List String) : (ascending texts).Perm texts :=
  List.mergeSort_perm texts _

theorem pairwise_ascending (texts : List String) : (ascending texts).Pairwise (· ≤ ·) := by
  have h : (ascending texts).Pairwise fun a b => decide (a ≤ b) = true := by
    apply List.pairwise_mergeSort
    · intro a b c hab hbc
      exact decide_eq_true (String.le_trans (of_decide_eq_true hab) (of_decide_eq_true hbc))
    · intro a b
      simpa using String.le_total a b
  exact h.imp of_decide_eq_true

-- ---------------------------------------------------------------------------
-- Shapes
-- ---------------------------------------------------------------------------

inductive ListShape where
  | one (text : String)
  | many (texts : List String)
  deriving DecidableEq

namespace ListShape

def canonical? : List String → Option ListShape
  | [] => none
  | [text] => some (.one text)
  | texts => some (.many (ascending texts))

def toList : ListShape → List String
  | .one text => [text]
  | .many texts => texts

def toJson : ListShape → Json
  | .one text => .str text
  | .many texts => .strings texts

end ListShape

namespace Json

def scalarText (field : String) : Json → Except PolicyError String
  | .str text => .ok text
  | .int value => .ok (compact (.int value))
  | .float value => .ok (compact (.float value))
  | other =>
    .error (.invalidValue field ("expected a string or a list of strings, got " ++ other.compact))

/-- The strings that a value lists: none for `null`, one for a string or a number. -/
def stringList (field : String) : Json → Except PolicyError (List String)
  | .null => .ok []
  | .arr items => items.mapM (scalarText field)
  | other => (scalarText field other).map fun text => [text]

end Json

end AccessPolicy
