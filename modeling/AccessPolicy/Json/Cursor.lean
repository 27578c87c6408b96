/-!
# Places in a text and what is wrong there

Lines are counted from one and columns in bytes from zero, so the column of a place is the number of
bytes of its line that lie before it. A fault is reported either at the place where reading stands
or just after the byte that reading looks at. A text may be no JSON value, or a value of another
kind than the one that is wanted; a `Failure` is a cause and the place where it was found.
-/

namespace AccessPolicy.Json

-- ---------------------------------------------------------------------------
-- Places
-- ---------------------------------------------------------------------------

structure Position where
  line : Nat
  column : Nat
  deriving DecidableEq

namespace Position

def next (position : Position) (c : Char) : Position :=
  if c = '\n' then ⟨position.line + 1, 0⟩ else ⟨position.line, position.column + c.utf8Size⟩

/-- The place some bytes further on; it may lie within a character, and is at most the end. -/
def skip (position : Position) : Nat → List Char → Position
  | _, [] => position
  | bytes, c :: rest =>
    if c.utf8Size ≤ bytes then (position.next c).skip (bytes - c.utf8Size) rest
    else ⟨position.line, position.column + bytes⟩

end Position

structure Cursor where
  rest : List Char
  position : Position

namespace Cursor

def start (text : String) : Cursor := ⟨text.toList, ⟨1, 0⟩⟩

def advance (cursor : Cursor) : Cursor :=
  match cursor.rest with
  | [] => cursor
  | c :: rest => ⟨rest, cursor.position.next c⟩

def after (cursor : Cursor) (bytes : Nat) : Position := cursor.position.skip bytes cursor.rest

def afterByte (cursor : Cursor) : Position := cursor.after 1

def peek? (cursor : Cursor) : Option Char := cursor.rest.head?

def dropWhile (test : Char → Bool) (cursor : Cursor) : Cursor :=
  ⟨cursor.rest.dropWhile test, (cursor.rest.takeWhile test).foldl Position.next cursor.position⟩

def isBlank (c : Char) : Bool := c = ' ' || c = '\n' || c = '\t' || c = '\r'

def skipBlanks (cursor : Cursor) : Cursor := cursor.dropWhile isBlank

end Cursor

-- ---------------------------------------------------------------------------
-- Faults
-- ---------------------------------------------------------------------------

inductive Fault where
  | endInList
  | endInObject
  | endInString
  | endInValue
  | expectedColon
  | expectedCommaOrBracket
  | expectedCommaOrBrace
  | expectedIdent
  | expectedValue
  | invalidEscape
  | invalidNumber
  | numberOutOfRange
  | controlCharacter
  | keyMustBeString
  | loneSurrogate
  | unfinishedSurrogatePair
  | trailingComma
  | trailingCharacters
  | tooDeep
  | wrongType (got wanted : String)
  | wrongLength (count : Nat) (wanted : String)
  | missingField (name : String)
  | repeatedField (name : String)
  deriving DecidableEq

def Fault.message : Fault → String
  | .endInList => "EOF while parsing a list"
  | .endInObject => "EOF while parsing an object"
  | .endInString => "EOF while parsing a string"
  | .endInValue => "EOF while parsing a value"
  | .expectedColon => "expected `:`"
  | .expectedCommaOrBracket => "expected `,` or `]`"
  | .expectedCommaOrBrace => "expected `,` or `\x7d`"
  | .expectedIdent => "expected ident"
  | .expectedValue => "expected value"
  | .invalidEscape => "invalid escape"
  | .invalidNumber => "invalid number"
  | .numberOutOfRange => "number out of range"
  | .controlCharacter => "control character (\\u0000-\\u001F) found while parsing a string"
  | .keyMustBeString => "key must be a string"
  | .loneSurrogate => "lone leading surrogate in hex escape"
  | .unfinishedSurrogatePair => "unexpected end of hex escape"
  | .trailingComma => "trailing comma"
  | .trailingCharacters => "trailing characters"
  | .tooDeep => "recursion limit exceeded"
  | .wrongType got wanted => "invalid type: " ++ got ++ ", expected " ++ wanted
  | .wrongLength count wanted => "invalid length " ++ toString count ++ ", expected " ++ wanted
  | .missingField name => "missing field `" ++ name ++ "`"
  | .repeatedField name => "duplicate field `" ++ name ++ "`"

structure Failure where
  cause : Fault
  position : Position
  deriving DecidableEq

def Failure.message (failure : Failure) : String :=
  failure.cause.message ++ " at line " ++ toString failure.position.line ++ " column " ++
    toString failure.position.column

abbrev Outcome := Except Failure

/-- Reports a fault where reading stands. -/
def Cursor.fail (cursor : Cursor) (cause : Fault) : Outcome α := .error ⟨cause, cursor.position⟩

/-- Reports a fault at the byte that comes next. -/
def Cursor.failAtByte (cursor : Cursor) (cause : Fault) : Outcome α :=
  .error ⟨cause, cursor.afterByte⟩

end AccessPolicy.Json
