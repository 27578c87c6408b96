import AccessPolicy.Principal.Reader
import AccessPolicy.Text.Capitalize
import AccessPolicy.Text.Quoted

/-!
# Fields of statements

A field is named by words. Its shorthand joins them by a separator; its canonical spelling
capitalizes each and joins them by nothing. The kind of a field says which values it takes. A
canonical value is checked and taken as it is; a shorthand value of resources or principals is
resolved first.

The fields of a statement are kept by their shorthand. Who builds a statement takes each field that
it needs as a value of the kind that it needs; a field that was asked for is gone afterwards, also
when its value was of another kind. Messages show a value with the name of its kind, so that a text
and a list with one text look different.
-/

namespace AccessPolicy

-- ---------------------------------------------------------------------------
-- Spellings
-- ---------------------------------------------------------------------------

structure FieldKey where
  parts : List String
  separator : String
  deriving DecidableEq

namespace FieldKey

def word (part : String) : FieldKey := ⟨[part], "_"⟩

/-- A key whose shorthand runs `not` and a word together. -/
def negated (part : String) : FieldKey := ⟨["not", part], ""⟩

/-- The spelling of a field whose value is to be resolved. -/
def shorthand (key : FieldKey) : String := key.separator.intercalate key.parts

/-- The spelling of a field whose value is taken literally. -/
def canonical (key : FieldKey) : String := String.join (key.parts.map Text.capitalize)

def spellings (key : FieldKey) : List String :=
  if key.shorthand = key.canonical then [key.shorthand] else [key.shorthand, key.canonical]

end FieldKey

-- ---------------------------------------------------------------------------
-- Values
-- ---------------------------------------------------------------------------

inductive FieldKind where
  | text
  | choice (choices : List String)
  | strings
  | mapping
  | resources (only : Option (List Service))
  | principals

inductive FieldValue where
  | text (content : String)
  | list (contents : List String)
  | mapping (members : Entries Json)
  | principals (entries : List PrincipalEntry)

def unexpected (field wanted got : String) : PolicyError :=
  .invalidValue field ("expected " ++ wanted ++ ", got " ++ got)

namespace FieldKind

def accept (field : String) : FieldKind → Json → Except PolicyError FieldValue
  | .text, .str content => .ok (.text content)
  | .text, .int value => .ok (.text (Json.int value).compact)
  | .text, .float value => .ok (.text (Json.float value).compact)
  | .text, other => .error (unexpected field "a string" other.compact)
  | .choice choices, value =>
    let refused := unexpected field
      ("one of [" ++ PolicyError.listing ", " choices ++ "]") value.compact
    match value with
    | .str content => if content ∈ choices then .ok (.text content) else .error refused
    | _ => .error refused
  | .strings, value => (value.stringList field).map .list
  | .resources _, value => (value.stringList field).map .list
  | .mapping, .obj members => .ok (.mapping members)
  | .mapping, other => .error (unexpected field "a mapping" other.compact)
  | .principals, value => (PrincipalEntry.ofLiterals field value).map .principals

def resolve (context : Context) (field : String) (kind : FieldKind) (value : Json) :
    Traced FieldValue :=
  match kind with
  | .resources only => do
    let arns ← resolveResources context field value only
    pure (.list arns)
  | .principals => do
    let entries ← PrincipalEntry.resolve context field value
    pure (.principals entries)
  | kind => kind.accept field value

end FieldKind

namespace FieldValue

/-- Whether a value names nothing, so that the field counts as unset. -/
def isEmpty : FieldValue → Bool
  | .list contents => contents.isEmpty
  | .principals entries => entries.isEmpty
  | _ => false

end FieldValue

-- ---------------------------------------------------------------------------
-- Values in messages
-- ---------------------------------------------------------------------------

namespace Json

mutual
def shown : Json → String
  | .null => "Null"
  | .bool value => Text.applied "Bool" (if value then "true" else "false")
  | .int value => Text.applied "Number" (Json.int value).compact
  | .float value => Text.applied "Number" (Json.float value).compact
  | .str text => Text.applied "String" (Text.quote text)
  | .arr items => "Array " ++ Text.bracketed (shownItems items)
  | .obj members => "Object " ++ Text.braced (shownMembers members)
def shownItems : List Json → List String
  | [] => []
  | item :: rest => item.shown :: shownItems rest
def shownMembers : List (String × Json) → List String
  | [] => []
  | (key, value) :: rest => (Text.quote key ++ ": " ++ value.shown) :: shownMembers rest
end

end Json

namespace ListShape

def shown : ListShape → String
  | .one text => Text.applied "One" (Text.quote text)
  | .many texts => Text.applied "Many" (Text.bracketed (texts.map Text.quote))

end ListShape

namespace PrincipalKind

def shown : PrincipalKind → String
  | .aws => "Aws"
  | .federated => "Federated"
  | .service => "Service"

end PrincipalKind

namespace PrincipalEntry

def shown : PrincipalEntry → String
  | .literal text => Text.applied "Literal" (Text.quote text)
  | .mapping principal =>
    let buckets := principal.buckets.map fun (kind, shape) => kind.shown ++ ": " ++ shape.shown
    Text.applied "Mapping" (Text.applied "Principal" (Text.braced buckets))

end PrincipalEntry

namespace FieldValue

def shown : FieldValue → String
  | .text content => Text.applied "Text" (Text.quote content)
  | .list contents => Text.applied "List" (Text.bracketed (contents.map Text.quote))
  | .mapping members => Text.applied "Mapping" (Text.braced (Json.shownMembers members))
  | .principals entries =>
    Text.applied "Principals" (Text.bracketed (entries.map PrincipalEntry.shown))

end FieldValue

-- ---------------------------------------------------------------------------
-- Effects
-- ---------------------------------------------------------------------------

inductive Effect where
  | allow
  | deny
  deriving DecidableEq

namespace Effect

def all : List Effect := [.allow, .deny]

def tag : Effect → String
  | .allow => "Allow"
  | .deny => "Deny"

def ofTag? (text : String) : Option Effect := all.find? fun effect => effect.tag = text

end Effect

-- ---------------------------------------------------------------------------
-- Sets of fields
-- ---------------------------------------------------------------------------

/-- Values by the shorthand of their fields. -/
abbrev FieldSet := Table FieldValue

/-- Taking fields out of a set. The set that is left is kept with an error as well. -/
abbrev Take := ExceptT PolicyError (StateM FieldSet)

namespace FieldSet

def isSet (fields : FieldSet) (field : String) : Bool := (fields.get? field).isSome

end FieldSet

namespace Take

def value (field : String) : Take (Option FieldValue) :=
  modifyGet fun fields => (fields.get? field, fields.erase field)

def mismatch (field wanted : String) (got : FieldValue) : PolicyError :=
  unexpected field wanted got.shown

def text (field : String) : Take (Option String) := do
  match ← value field with
  | none => pure none
  | some (.text content) => pure (some content)
  | some other => throw (mismatch field "a string" other)

/-- Takes a list of strings; one string counts as a list of one. -/
def list (field : String) : Take (List String) := do
  match ← value field with
  | none => pure []
  | some (.list contents) => pure contents
  | some (.text content) => pure [content]
  | some other => throw (mismatch field "a list of strings" other)

def mapping (field : String) : Take (Option (Entries Json)) := do
  match ← value field with
  | none => pure none
  | some (.mapping members) => pure (some members)
  | some other => throw (mismatch field "a mapping" other)

def principals (field : String) : Take (List PrincipalEntry) := do
  match ← value field with
  | none => pure []
  | some (.principals entries) => pure entries
  | some other => throw (mismatch field "principals" other)

def effect (field : String) : Take (Option Effect) := do
  match ← text field with
  | none => pure none
  | some content =>
    match Effect.ofTag? content with
    | some effect => pure (some effect)
    | none => throw (.invalidValue field ("'" ++ content ++ "' is not Allow or Deny"))

end Take

def FieldSet.take (fields : FieldSet) (action : Take α) : Except PolicyError α × FieldSet :=
  action.run.run fields

end AccessPolicy
