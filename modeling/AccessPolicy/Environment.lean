import AccessPolicy.Table
import AccessPolicy.Traced

/-!
# Environments and owners

An environment is a table of accounts by name, with one of the names as its own, and the location
where resources are unless they say otherwise. An id of an account should be written with decimal
digits, which every script has ten of in a row.

A policy is attached to an entity, its owner, and may name the owner by a marker. A marker only
stands for an owner of the right kind.
-/

namespace AccessPolicy.Text

-- ---------------------------------------------------------------------------
-- Decimal digits
-- ---------------------------------------------------------------------------

def zeros : List Nat := [
  0x0030, 0x0660, 0x06F0, 0x07C0, 0x0966, 0x09E6, 0x0A66, 0x0AE6, 0x0B66, 0x0BE6, 0x0C66, 0x0CE6,
  0x0D66, 0x0DE6, 0x0E50, 0x0ED0, 0x0F20, 0x1040, 0x1090, 0x17E0, 0x1810, 0x1946, 0x19D0, 0x1A80,
  0x1A90, 0x1B50, 0x1BB0, 0x1C40, 0x1C50, 0xA620, 0xA8D0, 0xA900, 0xA9D0, 0xA9F0, 0xAA50, 0xABF0,
  0xFF10, 0x104A0, 0x10D30, 0x10D40, 0x11066, 0x110F0, 0x11136, 0x111D0, 0x112F0, 0x11450, 0x114D0,
  0x11650, 0x116C0, 0x116D0, 0x116DA, 0x11730, 0x118E0, 0x11950, 0x11BF0, 0x11C50, 0x11D50, 0x11DA0,
  0x11F50, 0x16130, 0x16A60, 0x16AC0, 0x16B50, 0x16D70, 0x1CCF0, 0x1D7CE, 0x1D7D8, 0x1D7E2, 0x1D7EC,
  0x1D7F6, 0x1E140, 0x1E2F0, 0x1E4F0, 0x1E5F1, 0x1E950, 0x1FBF0]

def isDecimalDigit (c : Char) : Bool := zeros.any fun start =>
  start ≤ c.toNat && c.toNat < start + 10

end AccessPolicy.Text

namespace AccessPolicy

-- ---------------------------------------------------------------------------
-- Accounts
-- ---------------------------------------------------------------------------

structure Environment where
  name : String
  location : String
  accounts : Table String

namespace Environment

def accountNames (environment : Environment) : List String := environment.accounts.keys

def accountId (environment : Environment) (name : String) : Except PolicyError String :=
  match environment.accounts.get? name with
  | some id => .ok id
  | none => .error (.unknownAccount name environment.accountNames)

def defaultAccountId (environment : Environment) : Except PolicyError String :=
  environment.accountId environment.name

/-- The id of a named account; the empty name stands for the environment's own. -/
def idOfName (environment : Environment) (name : String) : Except PolicyError String :=
  if name.isEmpty then environment.defaultAccountId else environment.accountId name

/-- The ids of a list of names; the empty list stands for the environment's own account. -/
def accountIds (environment : Environment) (names : List String) :
    Except PolicyError (List String) :=
  if names.isEmpty then environment.defaultAccountId.map fun id => [id]
  else names.mapM environment.idOfName

/-- Whether an id has the usual form, twelve decimal digits. -/
def isUsualId (id : String) : Bool :=
  id.toList.length = 12 && id.toList.all Text.isDecimalDigit

/-- The environment's own account must be in the table. -/
def Valid (environment : Environment) : Prop :=
  ∃ id, environment.accounts.get? environment.name = some id

def oddIds (environment : Environment) : List Event :=
  (environment.accounts.entries.filter fun (_, id) => !isUsualId id).map fun (account, id) =>
    .oddAccountId account id

def validate (environment : Environment) : Traced Unit := do
  let _ ← environment.defaultAccountId
  let _ ← Traced.each Traced.emit environment.oddIds
  Traced.emit (.environmentValidated environment.name environment.accounts.size)

/-- A valid environment of the given accounts; of two with one name the later counts. -/
def create (name location : String) (accounts : Entries String) : Traced Environment := do
  let environment : Environment := ⟨name, location, Table.ofList accounts⟩
  environment.validate
  pure environment

end Environment

-- ---------------------------------------------------------------------------
-- The owner of a policy
-- ---------------------------------------------------------------------------

inductive OwnerKind where
  | role
  | bucket
  | key
  | lambda
  deriving DecidableEq

namespace OwnerKind

def all : List OwnerKind := [.role, .bucket, .key, .lambda]

def tag : OwnerKind → String
  | .role => "role"
  | .bucket => "bucket"
  | .key => "key"
  | .lambda => "lambda"

def ofTag? (text : String) : Option OwnerKind := all.find? fun kind => kind.tag = text

end OwnerKind

structure Owner where
  kind : OwnerKind
  name : String
  deriving DecidableEq

structure Context where
  environment : Environment
  owner : Owner

namespace Context

def location (context : Context) : String := context.environment.location

/-- Refuses a marker for the owner where an entity of another kind is wanted. -/
def requireOwner (context : Context) (wanted : OwnerKind) (target : String) :
    Except PolicyError Unit :=
  if context.owner.kind = wanted then .ok ()
  else .error (.invalidSelfReference target context.owner.kind.tag)

end Context

end AccessPolicy
