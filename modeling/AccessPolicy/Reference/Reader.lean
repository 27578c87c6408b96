import AccessPolicy.Environment
import AccessPolicy.ListShape

/-!
# References to resources

A reference names resources by what they are, not where: roles and users, buckets, keys, or
identifiers of any other service. A literal stands for itself.

It is written as a string, or as an object with exactly one service tag and the modifiers of that
service. Nothing else may stand beside them, but of the mapping of a key only the alias or the id is
read.
-/

namespace AccessPolicy

-- ---------------------------------------------------------------------------
-- References
-- ---------------------------------------------------------------------------

inductive Service where
  | iam
  | s3
  | kms
  | arn
  deriving DecidableEq

namespace Service

def all : List Service := [.iam, .s3, .kms, .arn]

def tag : Service → String
  | .iam => "iam"
  | .s3 => "s3"
  | .kms => "kms"
  | .arn => "arn"

def ofTag? (text : String) : Option Service := all.find? fun service => service.tag = text

def modifiers : Service → List String
  | .iam => ["account", "users"]
  | .s3 => []
  | .kms => ["account", "location"]
  | .arn => ["account", "location", "identity"]

end Service

def ownerMarker : String := "__self__"

/-- The accounts and the location of a reference; the defaults hold where it names none. -/
structure Scope where
  accounts : List String
  location : Option String
  deriving DecidableEq

inductive KmsKey where
  | alias (name : String)
  | keyId (id : String)
  deriving DecidableEq

/-- Whether a key is the owner; only an alias can be. -/
def KmsKey.isOwner : KmsKey → Bool
  | .alias name => name == ownerMarker
  | .keyId _ => false

inductive Reference where
  | literal (text : String)
  | iam (names users : List String) (scope : Scope)
  | s3 (buckets : List String)
  | kms (keys : List KmsKey) (scope : Scope)
  | arn (service : String) (identities : List String) (scope : Scope)
  deriving DecidableEq

namespace Reference

def service? : Reference → Option Service
  | .literal _ => none
  | .iam .. => some .iam
  | .s3 _ => some .s3
  | .kms .. => some .kms
  | .arn .. => some .arn

end Reference

-- ---------------------------------------------------------------------------
-- Reading references
-- ---------------------------------------------------------------------------

namespace Json

/-- The elements of a list, or the value itself. -/
def entries : Json → List Json
  | .arr items => items
  | other => [other]

end Json

namespace Reference

def services (members : Entries Json) : List Service :=
  Service.all.filter fun service => members.has service.tag

def theService (field : String) (members : Entries Json) : Except PolicyError Service :=
  match services members with
  | [service] => .ok service
  | [] =>
    .error (.invalidValue field ("resource mapping needs one of [" ++
      PolicyError.listing ", " (Service.all.map Service.tag) ++ "]"))
  | many =>
    .error (.invalidValue field ("resource mapping can only use one service key, found [" ++
      PolicyError.listing ", " (many.map Service.tag) ++ "]"))

def checkModifiers (field : String) (service : Service) (members : Entries Json) :
    Except PolicyError Unit :=
  let extra := (members.map (·.1)).find? fun key => key ≠ service.tag ∧ key ∉ service.modifiers
  match extra with
  | none => .ok ()
  | some extra =>
    .error (.invalidValue field
      ("'" ++ extra ++ "' is not valid in a " ++ service.tag ++ " reference"))

def modifierField (field key : String) : String := field ++ "." ++ key

/-- The strings of a modifier, none if it is absent. -/
def modifierStrings (field : String) (members : Entries Json) (key : String) :
    Except PolicyError (List String) :=
  match Entries.find? key members with
  | none => .ok []
  | some value => value.stringList (modifierField field key)

def modifierString (field : String) (members : Entries Json) (key : String) :
    Except PolicyError (Option String) :=
  match Entries.find? key members with
  | none | some .null => .ok none
  | some (.str text) => .ok (some text)
  | some other =>
    .error (.invalidValue (modifierField field key) ("expected a string, got " ++ other.compact))

def readScope (field : String) (members : Entries Json) : Except PolicyError Scope := do
  let accounts ← modifierStrings field members "account"
  let location ← modifierString field members "location"
  .ok ⟨accounts, location⟩

/-- Reads one key. The owner is named by its alias alone. -/
def readKey (field : String) : Json → Except PolicyError KmsKey
  | .str name => .ok (.alias name)
  | .obj members =>
    match Entries.find? "alias" members, Entries.find? "key_id" members with
    | some (.str name), none => .ok (.alias name)
    | none, some (.str id) =>
      if id = ownerMarker then
        .error (.invalidValue field ("'" ++ ownerMarker ++ "' names a key by alias, not by key_id"))
      else .ok (.keyId id)
    | _, _ =>
      .error (.invalidValue field "a kms key mapping needs exactly one of 'alias' or 'key_id'")
  | other =>
    .error (.invalidValue field ("expected a kms alias or key mapping, got " ++ other.compact))

/-- Whether a text has the form of a service namespace: lower-case letters, digits and hyphens, a
letter first. -/
def isServiceNamespace (text : String) : Bool :=
  match text.toList with
  | [] => false
  | first :: rest =>
    first.isLower && rest.all fun c => c.isLower || c.isDigit || c = '-'

def readNamespace : Json → Except PolicyError String
  | .str service =>
    if isServiceNamespace service then .ok service
    else .error (.unknownService service "not a valid AWS service namespace")
  | other => .error (.unknownService other.compact "the arn service tag must be a string")

def readParts (field : String) (service : Service) (tagged : Json) (members : Entries Json) :
    Except PolicyError Reference := do
  let scope ← readScope field members
  match service with
  | .iam =>
    let names ← tagged.stringList field
    let users ← modifierStrings field members "users"
    .ok (.iam names users scope)
  | .s3 =>
    let buckets ← tagged.stringList field
    .ok (.s3 buckets)
  | .kms =>
    let keys ← tagged.entries.mapM (readKey field)
    .ok (.kms keys scope)
  | .arn =>
    let service ← readNamespace tagged
    let identities ← modifierStrings field members "identity"
    if identities.isEmpty then .error .missingIdentity else .ok (.arn service identities scope)

def ofMembers (field : String) (members : Entries Json) : Except PolicyError Reference := do
  let service ← theService field members
  checkModifiers field service members
  readParts field service ((Entries.find? service.tag members).getD .null) members

def ofJson (field : String) : Json → Except PolicyError Reference
  | .str text => .ok (.literal text)
  | .obj members => ofMembers field members
  | other =>
    .error (.invalidValue field ("expected a string or a mapping, got " ++ other.compact))

end Reference

end AccessPolicy
