import AccessPolicy.Principal.Basic
import AccessPolicy.Reference.Reader
import AccessPolicy.Reference.Resolve

/-!
# Reading principals

A principal in canonical spelling names identifiers as they are, under the kinds of principals, and
nothing is resolved. One in shorthand names roles and users as a reference does, and services by
short names; the canonical kinds may stand beside them.
-/

namespace AccessPolicy.PrincipalEntry

-- ---------------------------------------------------------------------------
-- Canonical spelling
-- ---------------------------------------------------------------------------

def literalBuckets (field : String) : Buckets → Entries Json → Except PolicyError Buckets
  | buckets, [] => .ok buckets
  | buckets, (key, value) :: rest =>
    match PrincipalKind.ofTag? key with
    | none =>
      .error (.invalidValue field ("'" ++ key ++ "' is not one of AWS, Service or Federated"))
    | some kind => do
      let texts ← value.stringList field
      literalBuckets field (buckets.extend kind texts) rest

def ofLiteral (field : String) : Json → Except PolicyError PrincipalEntry
  | .str text => .ok (.literal text)
  | .obj members => do
    let buckets ← literalBuckets field .empty members
    .ok (.mapping (.ofBuckets buckets))
  | other => .error (refused field other)

def ofLiterals (field : String) (value : Json) : Except PolicyError (List PrincipalEntry) :=
  value.entries.mapM (ofLiteral field)

end AccessPolicy.PrincipalEntry

namespace AccessPolicy

-- ---------------------------------------------------------------------------
-- Shorthand
-- ---------------------------------------------------------------------------

def serviceDomains : Entries String := [
  ("apigateway", "apigateway.amazonaws.com"),
  ("ec2", "ec2.amazonaws.com"),
  ("lambda", "lambda.amazonaws.com")]

def serviceDomain (name : String) : Except PolicyError String :=
  match Entries.find? name serviceDomains with
  | some domain => .ok domain
  | none =>
    .error (.unknownService name ("known principal services are [" ++
      PolicyError.listing ", " (serviceDomains.map (·.1)) ++ "]"))

namespace PrincipalEntry

/-- The strings of a key, none if it is absent. -/
def keyStrings (field : String) (members : Entries Json) (key : String) :
    Except PolicyError (List String) :=
  match Entries.find? key members with
  | none => .ok []
  | some value => value.stringList field

def identities (context : Context) (field : String) (members : Entries Json) (names : Json) :
    Except PolicyError (List String) := do
  let names ← names.stringList field
  let users ← keyStrings field members "users"
  let accounts ← keyStrings field members "account"
  (Reference.iam names users ⟨accounts, none⟩).resolve context

/-- What one key of a shorthand mapping contributes: a kind and its identifiers, or nothing if the
key belongs to others. -/
def contribution (context : Context) (field : String) (members : Entries Json) (key : String)
    (value : Json) : Except PolicyError (Option (PrincipalKind × List String)) :=
  match key with
  | "service" => do
    let names ← value.stringList field
    let domains ← names.mapM serviceDomain
    .ok (some (.service, domains))
  | "iam" => do
    let arns ← identities context field members value
    .ok (some (.aws, arns))
  | "federated" => do
    let arns ← identities context field members value
    .ok (some (.federated, arns))
  | "account" | "users" => .ok none
  | other =>
    match PrincipalKind.ofTag? other with
    | some kind => do
      let texts ← value.stringList field
      .ok (some (kind, texts))
    | none => .error (.invalidValue field ("unknown principal key '" ++ other ++ "'"))

def shorthandBuckets (context : Context) (field : String) (members : Entries Json) :
    Buckets → Entries Json → Except PolicyError Buckets
  | buckets, [] => .ok buckets
  | buckets, (key, value) :: rest => do
    match ← contribution context field members key value with
    | some (kind, texts) => shorthandBuckets context field members (buckets.extend kind texts) rest
    | none => shorthandBuckets context field members buckets rest

/-- Refuses accounts and users without a reference that they belong to. -/
def checkModifiers (field : String) (members : Entries Json) : Except PolicyError Unit :=
  if members.has "iam" || members.has "federated" then .ok ()
  else
    match ["account", "users"].find? fun key => members.has key with
    | some modifier =>
      .error (.invalidValue field
        ("'" ++ modifier ++ "' only applies to 'iam' or 'federated' principals"))
    | none => .ok ()

def resolveMapping (context : Context) (field : String) (members : Entries Json) :
    Traced Principal := do
  checkModifiers field members
  let buckets ← shorthandBuckets context field members .empty members
  let principal := Principal.ofBuckets buckets
  Traced.emit (.principalResolved field principal.buckets.length)
  pure principal

def resolveEntry (context : Context) (field : String) : Json → Traced PrincipalEntry
  | .str text => pure (.literal text)
  | .obj members => do
    let principal ← resolveMapping context field members
    pure (.mapping principal)
  | other => Traced.fail (refused field other)

def resolve (context : Context) (field : String) (value : Json) : Traced (List PrincipalEntry) :=
  Traced.each (resolveEntry context field) value.entries

end PrincipalEntry

end AccessPolicy
