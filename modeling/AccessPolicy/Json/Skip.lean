import AccessPolicy.Json.Reader

/-!
# Passing over values

A value that nobody asks for is only checked for its form: numbers may be too great, surrogates may
stand alone, and arrays and objects may nest to any depth.
-/

namespace AccessPolicy.Json

def skipDigits (cursor : Cursor) : Cursor := cursor.dropWhile Char.isDigit

/-- Passes over digits, of which there must be one. -/
def requireDigits (cursor : Cursor) : Outcome Cursor :=
  if cursor.peek?.any Char.isDigit then .ok (skipDigits cursor)
  else cursor.failAtByte .invalidNumber

def atExponent (cursor : Cursor) : Bool := cursor.peek? = some 'e' || cursor.peek? = some 'E'

def skipExponent (cursor : Cursor) : Outcome Cursor :=
  if atExponent cursor then
    let cursor := cursor.advance
    let signed := cursor.peek? = some '+' || cursor.peek? = some '-'
    requireDigits (if signed then cursor.advance else cursor)
  else .ok cursor

def skipNumber (cursor : Cursor) : Outcome Cursor := do
  let whole ← requireDigits cursor
  let zero := cursor.peek? = some '0'
  if zero && cursor.advance.peek?.any Char.isDigit then cursor.advance.failAtByte .invalidNumber
  else if whole.peek? = some '.' then
    let fraction ← requireDigits whole.advance
    skipExponent fraction
  else skipExponent whole

def skipEscape (cursor : Cursor) : Outcome Cursor :=
  match cursor.peek? with
  | none => cursor.fail .endInString
  | some c =>
    if c = 'u' then (readHex cursor.advance).map (·.2)
    else if c ∈ ['"', '\\', '/', 'b', 'f', 'n', 'r', 't'] then .ok cursor.advance
    else cursor.failAtByte .invalidEscape

def skipStringTail : Nat → Cursor → Outcome Cursor
  | 0, cursor => cursor.fail .endInString
  | steps + 1, cursor =>
    match cursor.peek? with
    | none => cursor.fail .endInString
    | some c =>
      if c = '"' then .ok cursor.advance
      else if c = '\\' then
        match skipEscape cursor.advance with
        | .ok cursor => skipStringTail steps cursor
        | .error failure => .error failure
      else if c.toNat < 32 then cursor.fail .controlCharacter
      else skipStringTail steps cursor.advance

def skipString (cursor : Cursor) : Outcome Cursor := skipStringTail cursor.rest.length cursor

def skipScalar (first : Char) (cursor : Cursor) : Outcome Cursor :=
  if first = '"' then skipString cursor.advance
  else if first = '-' then skipNumber cursor.advance
  else if first.isDigit then skipNumber cursor
  else (readScalar first cursor).map (·.2)

inductive Enclosure where
  | list
  | object

def skipKey (cursor : Cursor) : Outcome Cursor := do
  let cursor := cursor.skipBlanks
  match cursor.peek? with
  | none => cursor.fail .endInObject
  | some '"' =>
    let cursor ← skipString cursor.advance
    let ((), cursor) ← readColon cursor
    .ok cursor
  | some _ => cursor.failAtByte .keyMustBeString

namespace Enclosure

def closer : Enclosure → Char
  | .list => ']'
  | .object => '\x7d'

def ended : Enclosure → Fault
  | .list => .endInList
  | .object => .endInObject

/-- The fault of a value that nothing separates from the next. -/
def unseparated : Enclosure → Fault
  | .list => .expectedCommaOrBracket
  | .object => .expectedCommaOrBrace

def enter (enclosure : Enclosure) (cursor : Cursor) : Outcome (Bool × Cursor) :=
  match enclosure with
  | .list => .ok (true, cursor)
  | .object => (skipKey cursor).map fun cursor => (true, cursor)

def next (enclosure : Enclosure) (first : Bool) (cursor : Cursor) : Outcome (Bool × Cursor) :=
  let cursor := cursor.skipBlanks
  match cursor.peek? with
  | none => cursor.fail enclosure.ended
  | some c =>
    if c = enclosure.closer then .ok (false, cursor.advance)
    else if first then enclosure.enter cursor
    else if c = ',' then enclosure.enter cursor.advance
    else cursor.failAtByte enclosure.unseparated

end Enclosure

/-- What is to be passed over next: a value, or what lies between two values. -/
inductive Pending where
  | value
  | between (first : Bool)

def skipPending : Nat → Pending → List Enclosure → Cursor → Outcome Cursor
  | 0, _, _, cursor => cursor.fail .endInValue
  | _ + 1, .between _, [], cursor => .ok cursor
  | steps + 1, .between first, enclosure :: outer, cursor => do
    let (more, cursor) ← enclosure.next first cursor
    if more then skipPending steps .value (enclosure :: outer) cursor
    else skipPending steps (.between false) outer cursor
  | steps + 1, .value, enclosures, cursor =>
    let cursor := cursor.skipBlanks
    match cursor.peek? with
    | none => cursor.fail .endInValue
    | some '[' => skipPending steps (.between true) (.list :: enclosures) cursor.advance
    | some '\x7b' => skipPending steps (.between true) (.object :: enclosures) cursor.advance
    | some c =>
      match skipScalar c cursor with
      | .ok cursor => skipPending steps (.between false) enclosures cursor
      | .error failure => .error failure

def skipValue (cursor : Cursor) : Outcome Cursor :=
  skipPending (2 * cursor.rest.length + 2) .value [] cursor

end AccessPolicy.Json
