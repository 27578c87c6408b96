import AccessPolicy.Decimal.Binary64
import AccessPolicy.Table

/-!
# JSON values and their texts

Integers and binary64 numbers are different values, and the members of an object ascend by key.
`Json.same` is the equality that the values have as data: it differs from `=` only in that it takes
the two zeros of binary64 for one number.

`compact` writes no blanks; `pretty` indents by two. Only the quote, the backslash and the control
characters are escaped. A binary64 number is written with the fewest digits that read back, and with
a point or an exponent, so that it never reads back as an integer.
-/

namespace AccessPolicy

-- ---------------------------------------------------------------------------
-- Values
-- ---------------------------------------------------------------------------

inductive Json where
  | null
  | bool (value : Bool)
  | int (value : Int)
  | float (value : Binary64)
  | str (text : String)
  | arr (items : List Json)
  | obj (members : List (String × Json))

namespace Json

section
variable (sameFloat : Binary64 → Binary64 → Bool)

mutual
/-- Equality of values, given one of binary64 numbers. -/
def sameBy : Json → Json → Bool
  | .null, .null => true
  | .bool a, .bool b => a == b
  | .int a, .int b => a == b
  | .float a, .float b => sameFloat a b
  | .str a, .str b => a == b
  | .arr a, .arr b => sameItemsBy a b
  | .obj a, .obj b => sameMembersBy a b
  | _, _ => false
def sameItemsBy : List Json → List Json → Bool
  | [], [] => true
  | a :: as, b :: bs => sameBy a b && sameItemsBy as bs
  | _, _ => false
def sameMembersBy : List (String × Json) → List (String × Json) → Bool
  | [], [] => true
  | (key, a) :: as, (other, b) :: bs => key == other && sameBy a b && sameMembersBy as bs
  | _, _ => false
end

end

/-- Equality of values, numbers of one kind being compared as numbers. -/
def same (a b : Json) : Bool := sameBy Binary64.sameNumber a b

/-- An object with the given members, in any order; of two with one key the later counts. -/
def ofMembers (members : Entries Json) : Json := .obj members.ordered

def strings (texts : List String) : Json := .arr (texts.map .str)

def isNull : Json → Bool
  | .null => true
  | _ => false

mutual
/-- What holds of all values that are read from texts: integers fit 64 bits, signed or unsigned, and
the members of objects ascend by key. -/
def WellFormed : Json → Prop
  | .int value => -0x8000000000000000 ≤ value ∧ value ≤ 0xFFFFFFFFFFFFFFFF
  | .arr items => WellFormedItems items
  | .obj members => Entries.Ascending members ∧ WellFormedMembers members
  | _ => True
def WellFormedItems : List Json → Prop
  | [] => True
  | item :: rest => item.WellFormed ∧ WellFormedItems rest
def WellFormedMembers : List (String × Json) → Prop
  | [] => True
  | (_, value) :: rest => value.WellFormed ∧ WellFormedMembers rest
end

end Json

end AccessPolicy

namespace AccessPolicy.Json

-- ---------------------------------------------------------------------------
-- Texts of values
-- ---------------------------------------------------------------------------

def hexDigit (n : Nat) : Char := "0123456789abcdef".toList.getD n '0'

def escapeChar (c : Char) : List Char :=
  if c = '"' then ['\\', '"']
  else if c = '\\' then ['\\', '\\']
  else if c = '\x08' then ['\\', 'b']
  else if c = '\t' then ['\\', 't']
  else if c = '\n' then ['\\', 'n']
  else if c = '\x0c' then ['\\', 'f']
  else if c = '\r' then ['\\', 'r']
  else if c.toNat < 32 then ['\\', 'u', '0', '0', hexDigit (c.toNat / 16), hexDigit (c.toNat % 16)]
  else [c]

def escapeChars (text : List Char) : List Char := text.flatMap escapeChar

def stringChars (text : String) : List Char := '"' :: (escapeChars text.toList ++ ['"'])

/-- Positional notation reaches down to this exponent of ten of the leading digit. -/
def leastPositional : Int := -5

/-- Positional notation ends before this exponent of ten of the leading digit. -/
def firstScientific : Int := 16

/-- A positive number given by its digits and the exponent of ten of the last of them. -/
def decimalChars (digits : List Char) (exponent : Int) : List Char :=
  let leading := exponent + digits.length - 1
  if leastPositional ≤ leading ∧ leading < firstScientific then
    if 0 ≤ exponent then digits ++ List.replicate exponent.toNat '0' ++ ['.', '0']
    else if 0 ≤ leading then
      digits.take (leading.toNat + 1) ++ '.' :: digits.drop (leading.toNat + 1)
    else ['0', '.'] ++ List.replicate (-leading - 1).toNat '0' ++ digits
  else
    let fraction := if digits.length = 1 then [] else '.' :: digits.drop 1
    let sign := if 0 ≤ leading then '+' else '-'
    digits.take 1 ++ fraction ++ 'e' :: sign :: Nat.toDigits 10 leading.natAbs

def floatChars (value : Binary64) : List Char :=
  let magnitude :=
    if value.units = 0 then ['0', '.', '0']
    else
      let decimal := Binary64.shortest value.units
      decimalChars (Nat.toDigits 10 decimal.digits) decimal.exponent
  if value.negative then '-' :: magnitude else magnitude

def intChars : Int → List Char
  | .ofNat n => Nat.toDigits 10 n
  | .negSucc n => '-' :: Nat.toDigits 10 (n + 1)

def scalarChars : Json → List Char
  | .bool true => ['t', 'r', 'u', 'e']
  | .bool false => ['f', 'a', 'l', 's', 'e']
  | .int value => intChars value
  | .float value => floatChars value
  | .str text => stringChars text
  | _ => ['n', 'u', 'l', 'l']

mutual
def compactChars : Json → List Char
  | .arr items => '[' :: (compactItems items ++ [']'])
  | .obj members => '{' :: (compactMembers members ++ ['}'])
  | scalar => scalarChars scalar
def compactItems : List Json → List Char
  | [] => []
  | [item] => item.compactChars
  | item :: rest => item.compactChars ++ ',' :: compactItems rest
def compactMembers : List (String × Json) → List Char
  | [] => []
  | [(key, value)] => stringChars key ++ ':' :: value.compactChars
  | (key, value) :: rest =>
    stringChars key ++ ':' :: (value.compactChars ++ ',' :: compactMembers rest)
end

def lineStart (depth : Nat) : List Char := '\n' :: List.replicate (2 * depth) ' '

mutual
/-- A value whose arrays and objects stand on lines of their own, an empty one excepted. -/
def prettyChars (depth : Nat) : Json → List Char
  | .arr [] => ['[', ']']
  | .arr (item :: rest) =>
    '[' :: (prettyItems (depth + 1) (item :: rest) ++ lineStart depth ++ [']'])
  | .obj [] => ['{', '}']
  | .obj (member :: rest) =>
    '{' :: (prettyMembers (depth + 1) (member :: rest) ++ lineStart depth ++ ['}'])
  | scalar => scalarChars scalar
def prettyItems (depth : Nat) : List Json → List Char
  | [] => []
  | [item] => lineStart depth ++ item.prettyChars depth
  | item :: rest => lineStart depth ++ item.prettyChars depth ++ ',' :: prettyItems depth rest
def prettyMembers (depth : Nat) : List (String × Json) → List Char
  | [] => []
  | [(key, value)] => lineStart depth ++ stringChars key ++ ':' :: ' ' :: value.prettyChars depth
  | (key, value) :: rest =>
    lineStart depth ++ stringChars key ++
      ':' :: ' ' :: (value.prettyChars depth ++ ',' :: prettyMembers depth rest)
end

def compact (value : Json) : String := String.ofList value.compactChars

def pretty (value : Json) : String := String.ofList (value.prettyChars 0)

end AccessPolicy.Json
