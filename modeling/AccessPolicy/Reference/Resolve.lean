import AccessPolicy.Reference.Reader
import AccessPolicy.Traced

/-!
# Expanding references

A reference stands for one identifier per account and per name, accounts varying slowest. The owner
of the policy lives in the default account, so a marker for it does not follow the accounts of a
reference to roles.
-/

namespace AccessPolicy

def pairs (as : List α) (bs : List β) : List (α × β) :=
  as.flatMap fun a => bs.map fun b => (a, b)

def beginsWith (start text : String) : Bool := start.toList.isPrefixOf text.toList

namespace Reference

/-- The identifiers of a named role in an account, one per user if there are users. Roles that have
been assumed belong to another service. -/
def iamArns (account name : String) (users : List String) : List String :=
  let service := if beginsWith "assumed-role" name then "sts" else "iam"
  let arn := "arn:aws:" ++ service ++ "::" ++ account ++ ":" ++ name
  if users.isEmpty then [arn] else users.map fun user => arn ++ "/" ++ user

/-- The identifiers of the owner, in the default account; none where no name is the marker. -/
def ownerRoleArns (context : Context) (names users : List String) :
    Except PolicyError (List String) :=
  if names.contains ownerMarker then do
    context.requireOwner .role "iam role"
    let account ← context.environment.defaultAccountId
    .ok (iamArns account ("role/" ++ context.owner.name) users)
  else .ok []

def resolveIam (context : Context) (names users : List String) (scope : Scope) :
    Except PolicyError (List String) := do
  let accounts ← context.environment.accountIds scope.accounts
  let named := (pairs accounts (names.filter (· ≠ ownerMarker))).flatMap fun (account, name) =>
    iamArns account name users
  let owner ← ownerRoleArns context names users
  .ok (named ++ owner)

/-- The rest of a bucket's text after the marker, where the marker is honoured: alone or before a
path. -/
def afterMarker? (bucket : String) : Option String :=
  let rest := bucket.toList.drop ownerMarker.length
  if beginsWith ownerMarker bucket && (rest.isEmpty || rest.head? = some '/') then
    some (String.ofList rest)
  else none

def bucketName (context : Context) (bucket : String) : Except PolicyError String :=
  match afterMarker? bucket with
  | some rest => do
    context.requireOwner .bucket "bucket"
    .ok (context.owner.name ++ rest)
  | none => .ok bucket

/-- The identifiers of a bucket, which include its contents unless a path is given. -/
def bucketArns (bucket : String) : List String :=
  let arn := "arn:aws:s3:::" ++ bucket
  if bucket.toList.contains '/' then [arn] else [arn, arn ++ "/*"]

def resolveS3 (context : Context) (buckets : List String) : Except PolicyError (List String) := do
  let buckets ← buckets.mapM (bucketName context)
  .ok (buckets.flatMap bucketArns)

/-- The identifier of a key in an account. The owner is where the environment is. -/
def keyArn (context : Context) (location account : String) (key : KmsKey) : String :=
  if key.isOwner then
    "arn:aws:kms:" ++ context.location ++ ":" ++ account ++ ":alias/" ++ context.owner.name
  else
    match key with
    | .alias name => "arn:aws:kms:" ++ location ++ ":" ++ account ++ ":alias/" ++ name
    | .keyId id => "arn:aws:kms:" ++ location ++ ":" ++ account ++ ":key/" ++ id

def resolveKms (context : Context) (keys : List KmsKey) (scope : Scope) :
    Except PolicyError (List String) := do
  if keys.any KmsKey.isOwner then context.requireOwner .key "key"
  let accounts ← context.environment.accountIds scope.accounts
  let location := scope.location.getD context.location
  .ok ((pairs accounts keys).map fun (account, key) => keyArn context location account key)

def resolveArn (context : Context) (service : String) (identities : List String) (scope : Scope) :
    Except PolicyError (List String) := do
  let accounts ← context.environment.accountIds scope.accounts
  let location := scope.location.getD context.location
  .ok ((pairs accounts identities).map fun (account, identity) =>
    "arn:aws:" ++ service ++ ":" ++ location ++ ":" ++ account ++ ":" ++ identity)

def resolve (context : Context) : Reference → Except PolicyError (List String)
  | .literal text => .ok [text]
  | .iam names users scope => resolveIam context names users scope
  | .s3 buckets => resolveS3 context buckets
  | .kms keys scope => resolveKms context keys scope
  | .arn service identities scope => resolveArn context service identities scope

def permit (only : Option (List Service)) (reference : Reference) : Except PolicyError Unit :=
  match only, reference.service? with
  | some only, some service =>
    if service ∈ only then .ok ()
    else .error (.unsupportedResource service.tag (only.map Service.tag))
  | _, _ => .ok ()

def resolveEntry (context : Context) (field : String) (only : Option (List Service))
    (entry : Json) : Except PolicyError (List String) := do
  let reference ← ofJson field entry
  permit only reference
  reference.resolve context

def resolveEntries (context : Context) (field : String) (only : Option (List Service))
    (entries : List Json) : Except PolicyError (List String) := do
  let arns ← entries.mapM (resolveEntry context field only)
  .ok (ascending arns.flatten)

end Reference

/-- Reads and expands a reference or a list of them; the identifiers ascend. -/
def resolveResources (context : Context) (field : String) (value : Json)
    (only : Option (List Service)) : Traced (List String) := do
  let arns ← Reference.resolveEntries context field only value.entries
  Traced.emit (.resourcesExpanded field arns.length)
  pure arns

end AccessPolicy
