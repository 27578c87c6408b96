import AccessPolicy.Json.Basic
import AccessPolicy.Json.Cursor

/-!
# Reading JSON texts

`read` accepts one value with blanks around it. Arrays and objects nest at most 127 deep. A member
that is given twice keeps its later value.

An escaped character beyond the basic plane is a pair of surrogates; a surrogate that stands alone
is refused. A numeric literal without point and exponent that fits 64 bits, signed or unsigned, is
an integer. Every other one is a binary64 number: as many leading digits as fit an unsigned word
make the significand, which is then scaled by a power of ten. That takes two rounded steps, so the
result may be a neighbour of the number nearest to the literal.
-/

namespace AccessPolicy.Json

-- ---------------------------------------------------------------------------
-- String literals
-- ---------------------------------------------------------------------------

def hexValue? (c : Char) : Option Nat :=
  if c.isDigit then some (c.toNat - '0'.toNat)
  else if 'a' ≤ c ∧ c ≤ 'f' then some (c.toNat - 'a'.toNat + 10)
  else if 'A' ≤ c ∧ c ≤ 'F' then some (c.toNat - 'A'.toNat + 10)
  else none

/-- Reads four hexadecimal digits. The four bytes are taken before they are looked at. -/
def readHex (cursor : Cursor) : Outcome (Nat × Cursor) :=
  let bytes := (cursor.rest.take 4).foldl (fun total c => total + c.utf8Size) 0
  if bytes < 4 then .error ⟨.endInString, cursor.after bytes⟩
  else
    match cursor.rest.take 4 |>.mapM hexValue? with
    | some digits =>
      .ok (digits.foldl (fun total digit => total * 16 + digit) 0,
        cursor.advance.advance.advance.advance)
    | none => .error ⟨.invalidEscape, cursor.after 4⟩

def isHighSurrogate (n : Nat) : Bool := 0xD800 ≤ n && n ≤ 0xDBFF

def isLowSurrogate (n : Nat) : Bool := 0xDC00 ≤ n && n ≤ 0xDFFF

/-- Reads the hexadecimal digits of an escape, and the second escape of a surrogate pair. -/
def readUnicodeEscape (cursor : Cursor) : Outcome (Char × Cursor) := do
  let (unit, cursor) ← readHex cursor
  if isLowSurrogate unit then cursor.fail .loneSurrogate
  else if isHighSurrogate unit then
    match cursor.peek? with
    | none => cursor.fail .endInString
    | some '\\' =>
      let cursor := cursor.advance
      match cursor.peek? with
      | none => cursor.fail .endInString
      | some 'u' =>
        let (second, cursor) ← readHex cursor.advance
        if isLowSurrogate second then
          .ok (Char.ofNat (0x10000 + (unit - 0xD800) * 0x400 + (second - 0xDC00)), cursor)
        else cursor.fail .loneSurrogate
      | some _ => cursor.failAtByte .unfinishedSurrogatePair
    | some _ => cursor.failAtByte .unfinishedSurrogatePair
  else .ok (Char.ofNat unit, cursor)

/-- Reads an escape, the cursor standing after the backslash. -/
def readEscape (cursor : Cursor) : Outcome (Char × Cursor) :=
  match cursor.peek? with
  | none => cursor.fail .endInString
  | some '"' => .ok ('"', cursor.advance)
  | some '\\' => .ok ('\\', cursor.advance)
  | some '/' => .ok ('/', cursor.advance)
  | some 'b' => .ok ('\x08', cursor.advance)
  | some 'f' => .ok ('\x0c', cursor.advance)
  | some 'n' => .ok ('\n', cursor.advance)
  | some 'r' => .ok ('\r', cursor.advance)
  | some 't' => .ok ('\t', cursor.advance)
  | some 'u' => readUnicodeEscape cursor.advance
  | some _ => cursor.failAtByte .invalidEscape

/-- Reads up to the closing quote, `read` being what came before, last character first. Every step
takes a character, so as many steps as there are characters suffice. -/
def readStringTail : Nat → List Char → Cursor → Outcome (String × Cursor)
  | 0, _, cursor => cursor.fail .endInString
  | steps + 1, read, cursor =>
    match cursor.peek? with
    | none => cursor.fail .endInString
    | some c =>
      if c = '"' then .ok (String.ofList read.reverse, cursor.advance)
      else if c = '\\' then
        match readEscape cursor.advance with
        | .ok (c, cursor) => readStringTail steps (c :: read) cursor
        | .error failure => .error failure
      else if c.toNat < 32 then cursor.failAtByte .controlCharacter
      else readStringTail steps (c :: read) cursor.advance

def readString (cursor : Cursor) : Outcome (String × Cursor) :=
  readStringTail cursor.rest.length [] cursor

-- ---------------------------------------------------------------------------
-- Numbers
-- ---------------------------------------------------------------------------

def greatestWord : Nat := 0xFFFFFFFFFFFFFFFF

def greatestExponent : Nat := 0x7FFFFFFF

def digitValue (c : Char) : Nat := c.toNat - '0'.toNat

/-- Appends digits to a significand while it fits a word, and counts those that were taken. -/
def absorb (significand : Nat) : List Char → Nat × Nat
  | [] => (significand, 0)
  | c :: rest =>
    let longer := significand * 10 + digitValue c
    if greatestWord < longer then (significand, 0)
    else
      let (total, count) := absorb longer rest
      (total, count + 1)

def takeDigits (cursor : Cursor) : List Char × Cursor :=
  (cursor.rest.takeWhile Char.isDigit, cursor.dropWhile Char.isDigit)

def floatOf (negative : Bool) (significand : Nat) (exponent : Int) (cursor : Cursor) :
    Outcome (Json × Cursor) :=
  match Binary64.scaled? significand exponent with
  | some units => .ok (.float ⟨negative, units⟩, cursor)
  | none => cursor.fail .numberOutOfRange

/-- Reads the digits of an exponent into a number, up to the digit that makes it too great. -/
def exponentDigits (exponent : Nat) : List Char → Cursor → Except Cursor (Nat × Cursor)
  | [], cursor => .ok (exponent, cursor)
  | c :: rest, cursor =>
    let longer := exponent * 10 + digitValue c
    if greatestExponent < longer then .error cursor.advance
    else exponentDigits longer rest cursor.advance

/-- Reads an exponent, the cursor standing at its letter. -/
def readExponent (negative : Bool) (significand : Nat) (scale : Int) (cursor : Cursor) :
    Outcome (Json × Cursor) :=
  let cursor := cursor.advance
  let lowers := cursor.peek? = some '-'
  let cursor := if lowers || cursor.peek? = some '+' then cursor.advance else cursor
  match cursor.peek? with
  | none => cursor.fail .endInValue
  | some c =>
    if c.isDigit then
      match exponentDigits 0 (takeDigits cursor).1 cursor with
      | .ok (exponent, cursor) =>
        floatOf negative significand (if lowers then scale - exponent else scale + exponent) cursor
      | .error stopped =>
        if significand ≠ 0 && !lowers then stopped.fail .numberOutOfRange
        else .ok (.float ⟨negative, 0⟩, (takeDigits cursor).2)
    else cursor.failAtByte .invalidNumber

def readScale (negative : Bool) (significand : Nat) (scale : Int) (cursor : Cursor) :
    Outcome (Json × Cursor) :=
  match cursor.peek? with
  | some 'e' | some 'E' => readExponent negative significand scale cursor
  | _ => floatOf negative significand scale cursor

/-- Reads the digits after a point, the cursor standing at the point. -/
def readFraction (negative : Bool) (significand : Nat) (scale : Int) (cursor : Cursor) :
    Outcome (Json × Cursor) :=
  let cursor := cursor.advance
  let (digits, stopped) := takeDigits cursor
  if digits.isEmpty then
    match cursor.peek? with
    | none => cursor.fail .endInValue
    | some _ => cursor.failAtByte .invalidNumber
  else
    let (significand, count) := absorb significand digits
    readScale negative significand (scale - count) stopped

/-- An integer literal, which becomes a binary64 number if it fits no 64 bit word or is `-0`. -/
def wholeNumber (negative : Bool) (significand : Nat) (cursor : Cursor) : Outcome (Json × Cursor) :=
  if negative then
    if 1 ≤ significand ∧ significand ≤ 0x8000000000000000 then .ok (.int (-significand), cursor)
    else .ok (.float ⟨true, Binary64.magnitude significand⟩, cursor)
  else .ok (.int significand, cursor)

/-- Reads a number after its sign. -/
def readNumber (negative : Bool) (cursor : Cursor) : Outcome (Json × Cursor) :=
  match cursor.peek? with
  | none => cursor.fail .endInValue
  | some first =>
    if !first.isDigit then cursor.failAtByte .invalidNumber
    else
      let (digits, stopped) := if first = '0' then (['0'], cursor.advance) else takeDigits cursor
      let (significand, count) := absorb 0 digits
      let dropped := digits.length - count
      match stopped.peek? with
      | some '.' => readFraction negative significand dropped stopped
      | some 'e' | some 'E' => readExponent negative significand dropped stopped
      | some c =>
        if first = '0' && c.isDigit then stopped.failAtByte .invalidNumber
        else if dropped = 0 then wholeNumber negative significand stopped
        else floatOf negative significand dropped stopped
      | none =>
        if dropped = 0 then wholeNumber negative significand stopped
        else floatOf negative significand dropped stopped

-- ---------------------------------------------------------------------------
-- Values
-- ---------------------------------------------------------------------------

def deepest : Nat := 127

/-- Goes to the next element of an array, or to the bracket that closes it. -/
def nextElement (first : Bool) (cursor : Cursor) : Outcome (Bool × Cursor) :=
  let cursor := cursor.skipBlanks
  match cursor.peek? with
  | none => cursor.fail .endInList
  | some c =>
    if c = ']' then .ok (false, cursor)
    else if first then .ok (true, cursor)
    else if c = ',' then
      let cursor := cursor.advance.skipBlanks
      match cursor.peek? with
      | none => cursor.fail .endInValue
      | some ']' => cursor.failAtByte .trailingComma
      | some _ => .ok (true, cursor)
    else cursor.failAtByte .expectedCommaOrBracket

def nextKey (first : Bool) (cursor : Cursor) : Outcome (Bool × Cursor) :=
  let cursor := cursor.skipBlanks
  match cursor.peek? with
  | none => cursor.fail .endInObject
  | some c =>
    if c = '\x7d' then .ok (false, cursor)
    else if first then
      if c = '"' then .ok (true, cursor) else cursor.failAtByte .keyMustBeString
    else if c = ',' then
      let cursor := cursor.advance.skipBlanks
      match cursor.peek? with
      | none => cursor.fail .endInValue
      | some '"' => .ok (true, cursor)
      | some '\x7d' => cursor.failAtByte .trailingComma
      | some _ => cursor.failAtByte .keyMustBeString
    else cursor.failAtByte .expectedCommaOrBrace

def readColon (cursor : Cursor) : Outcome (Unit × Cursor) :=
  let cursor := cursor.skipBlanks
  match cursor.peek? with
  | none => cursor.fail .endInObject
  | some ':' => .ok ((), cursor.advance)
  | some _ => cursor.failAtByte .expectedColon

/-- Reads elements up to the closing bracket. Every element takes a character at least, which bounds
the steps. -/
def readElements (item : Cursor → Outcome (α × Cursor)) :
    Nat → Bool → Cursor → Outcome (List α × Cursor)
  | 0, _, cursor => cursor.fail .endInList
  | steps + 1, first, cursor => do
    let (more, cursor) ← nextElement first cursor
    if more then
      let (value, cursor) ← item cursor
      let (rest, cursor) ← readElements item steps false cursor
      .ok (value :: rest, cursor)
    else .ok ([], cursor.advance)

def readMembers (item : Cursor → Outcome (α × Cursor)) :
    Nat → Bool → Cursor → Outcome (Entries α × Cursor)
  | 0, _, cursor => cursor.fail .endInObject
  | steps + 1, first, cursor => do
    let (more, cursor) ← nextKey first cursor
    if more then
      let (key, cursor) ← readString cursor.advance
      let ((), cursor) ← readColon cursor
      let (value, cursor) ← item cursor
      let (rest, cursor) ← readMembers item steps false cursor
      .ok ((key, value) :: rest, cursor)
    else .ok ([], cursor.advance)

def readIdent (value : Json) : List Char → Cursor → Outcome (Json × Cursor)
  | [], cursor => .ok (value, cursor)
  | letter :: rest, cursor =>
    match cursor.peek? with
    | none => cursor.fail .endInValue
    | some c =>
      if c = letter then readIdent value rest cursor.advance else cursor.failAtByte .expectedIdent

/-- Reads a word, a number or a string, the cursor standing at its first character. -/
def readScalar (first : Char) (cursor : Cursor) : Outcome (Json × Cursor) :=
  if first = 'n' then readIdent .null ['u', 'l', 'l'] cursor.advance
  else if first = 't' then readIdent (.bool true) ['r', 'u', 'e'] cursor.advance
  else if first = 'f' then readIdent (.bool false) ['a', 'l', 's', 'e'] cursor.advance
  else if first = '-' then readNumber true cursor.advance
  else if first.isDigit then readNumber false cursor
  else if first = '"' then (readString cursor.advance).map fun (text, cursor) => (.str text, cursor)
  else cursor.failAtByte .expectedValue

def readValue : Nat → Cursor → Outcome (Json × Cursor)
  | depth, cursor =>
    let cursor := cursor.skipBlanks
    match cursor.peek? with
    | none => cursor.fail .endInValue
    | some c =>
      if c = '[' then
        match depth with
        | 0 => cursor.failAtByte .tooDeep
        | depth + 1 => do
          let (items, after) ←
            readElements (readValue depth) cursor.rest.length true cursor.advance
          .ok (.arr items, after)
      else if c = '\x7b' then
        match depth with
        | 0 => cursor.failAtByte .tooDeep
        | depth + 1 => do
          let (members, after) ←
            readMembers (readValue depth) cursor.rest.length true cursor.advance
          .ok (.ofMembers members, after)
      else readScalar c cursor

def readEnd (cursor : Cursor) : Outcome (Unit × Cursor) :=
  let cursor := cursor.skipBlanks
  match cursor.peek? with
  | none => .ok ((), cursor)
  | some _ => cursor.failAtByte .trailingCharacters

def read (text : String) : Outcome Json := do
  let (value, cursor) ← readValue deepest (Cursor.start text)
  let _ ← readEnd cursor
  .ok value

end AccessPolicy.Json
