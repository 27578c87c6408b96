import AccessPolicy.Environment
import AccessPolicy.Json.Basic
import AccessPolicy.Json.Skip
import AccessPolicy.Text.Quoted

/-!
# Reading environments

An environment is an object with its name, its location and its accounts, in any order and beside
any other members, or a list of the three. A fault of an object or list as a whole is reported
behind it.
-/

namespace AccessPolicy

namespace Json

def scalarName : Json → String
  | .bool true => "boolean `true`"
  | .bool false => "boolean `false`"
  | .int value => "integer `" ++ (Json.int value).compact ++ "`"
  | .float value => "floating point `" ++ (Json.float value).compact ++ "`"
  | .str text => "string " ++ Text.quote text
  | _ => "null"

/-- Refuses a value of another kind, the cursor standing at its first character. -/
def refuse (wanted : String) (first : Char) (cursor : Cursor) : Outcome α :=
  if first = '[' then cursor.fail (.wrongType "sequence" wanted)
  else if first = '\x7b' then cursor.fail (.wrongType "map" wanted)
  else
    match readScalar first cursor with
    | .ok (value, cursor) => cursor.fail (.wrongType value.scalarName wanted)
    | .error failure => .error failure

def readText (cursor : Cursor) : Outcome (String × Cursor) :=
  let cursor := cursor.skipBlanks
  match cursor.peek? with
  | none => cursor.fail .endInValue
  | some '"' => readString cursor.advance
  | some c => refuse "a string" c cursor

def readTexts (cursor : Cursor) : Outcome (Entries String × Cursor) :=
  let cursor := cursor.skipBlanks
  match cursor.peek? with
  | none => cursor.fail .endInValue
  | some '\x7b' => readMembers readText cursor.rest.length true cursor.advance
  | some c => refuse "a map" c cursor

/-- The cursor behind an enclosure, if it ends here, and at the next token otherwise. -/
def pastCloser (closer : Char) (cursor : Cursor) : Cursor :=
  let cursor := cursor.skipBlanks
  if cursor.peek? = some closer then cursor.advance else cursor

def closeList (cursor : Cursor) : Outcome (Unit × Cursor) :=
  let cursor := cursor.skipBlanks
  match cursor.peek? with
  | none => cursor.fail .endInList
  | some ']' => .ok ((), cursor.advance)
  | some ',' =>
    let cursor := cursor.advance.skipBlanks
    if cursor.peek? = some ']' then cursor.failAtByte .trailingComma
    else cursor.failAtByte .trailingCharacters
  | some _ => cursor.failAtByte .trailingCharacters

end Json

namespace Environment

open Json (Cursor Outcome)

def wanted : String := "struct EnvironmentConfig"

structure Draft where
  name : Option String
  location : Option String
  accounts : Option (Entries String)

namespace Draft

def has (draft : Draft) (key : String) : Bool :=
  match key with
  | "environment" => draft.name.isSome
  | "location" => draft.location.isSome
  | "accounts" => draft.accounts.isSome
  | _ => false

def readMember (draft : Draft) (key : String) (cursor : Cursor) : Outcome (Draft × Cursor) :=
  match key with
  | "environment" => do
    let (name, cursor) ← Json.readText cursor
    .ok ({ draft with name := some name }, cursor)
  | "location" => do
    let (location, cursor) ← Json.readText cursor
    .ok ({ draft with location := some location }, cursor)
  | "accounts" => do
    let (accounts, cursor) ← Json.readTexts cursor
    .ok ({ draft with accounts := some accounts }, cursor)
  | _ => do
    let cursor ← Json.skipValue cursor
    .ok (draft, cursor)

def readMembers : Nat → Bool → Draft → Cursor → Outcome (Draft × Cursor)
  | 0, _, _, cursor => cursor.fail .endInObject
  | steps + 1, first, draft, cursor => do
    let (more, cursor) ← Json.nextKey first cursor
    if more then
      let (key, cursor) ← Json.readString cursor.advance
      if draft.has key then (Json.pastCloser '\x7d' cursor).fail (.repeatedField key)
      else
        let ((), cursor) ← Json.readColon cursor
        let (draft, cursor) ← draft.readMember key cursor
        readMembers steps false draft cursor
    else .ok (draft, cursor.advance)

/-- The environment of a draft that lacks nothing, with the place behind it. -/
def complete (draft : Draft) (cursor : Cursor) : Outcome (Environment × Cursor) :=
  match draft.name, draft.location, draft.accounts with
  | none, _, _ => cursor.fail (.missingField "environment")
  | _, none, _ => cursor.fail (.missingField "location")
  | _, _, none => cursor.fail (.missingField "accounts")
  | some name, some location, some accounts =>
    .ok (⟨name, location, Table.ofList accounts⟩, cursor)

end Draft

/-- Reads an element of the list form, of which `count` have been read. -/
def readElement (item : Cursor → Outcome (α × Cursor)) (count : Nat) (cursor : Cursor) :
    Outcome (α × Cursor) := do
  let (more, cursor) ← Json.nextElement (count == 0) cursor
  if more then item cursor
  else cursor.advance.fail (.wrongLength count (wanted ++ " with 3 elements"))

def readList (cursor : Cursor) : Outcome (Environment × Cursor) := do
  let (name, cursor) ← readElement Json.readText 0 cursor
  let (location, cursor) ← readElement Json.readText 1 cursor
  let (accounts, cursor) ← readElement Json.readTexts 2 cursor
  let ((), cursor) ← Json.closeList cursor
  .ok (⟨name, location, Table.ofList accounts⟩, cursor)

def readObject (cursor : Cursor) : Outcome (Environment × Cursor) := do
  let (draft, cursor) ← Draft.readMembers (cursor.rest.length + 1) true ⟨none, none, none⟩ cursor
  draft.complete cursor

def read (text : String) : Outcome Environment := do
  let cursor := (Cursor.start text).skipBlanks
  let (environment, cursor) ←
    match cursor.peek? with
    | none => cursor.fail .endInValue
    | some '[' => readList cursor.advance
    | some '\x7b' => readObject cursor.advance
    | some c => Json.refuse wanted c cursor
  let _ ← Json.readEnd cursor
  .ok environment

def ofText (text : String) : Traced Environment :=
  match read text with
  | .error failure => Traced.fail (.invalidFormat failure.message)
  | .ok environment => do
    environment.validate
    pure environment

end Environment

end AccessPolicy
