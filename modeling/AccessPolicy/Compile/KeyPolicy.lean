import AccessPolicy.Compile

/-!
# Policies of permissions and of keys

Permissions may be listed by their effect. An entry of such a list may spell its effect out, but no
other effect.

A key whose policy names nobody can never be used again, so the account itself keeps all access
unless that is declined, and administrators are given access to the key.
-/

namespace AccessPolicy

-- ---------------------------------------------------------------------------
-- Permissions
-- ---------------------------------------------------------------------------

def expectMapping (field : String) : Json → Except PolicyError (Entries Json)
  | .obj members => .ok members
  | other => .error (unexpected field "a mapping" other.compact)

/-- The effects that an entry spells out, shorthand first. -/
def givenEffects (members : Entries Json) : List Json :=
  [FieldKey.effect.shorthand, FieldKey.effect.canonical].filterMap (Schema.present? members)

def isEffect (effect : Effect) : Json → Bool
  | .str text => text == effect.tag
  | _ => false

def plainText : Json → String
  | .str text => text
  | other => other.compact

def applyDefaultEffect (effect : Effect) (raw : Json) : Except PolicyError Json := do
  let members ← expectMapping "permission" raw
  match (givenEffects members).find? fun value => !isEffect effect value with
  | some other => .error (.overriddenEffect effect.tag (plainText other))
  | none =>
    if (givenEffects members).isEmpty then
      .ok (.obj (members.put FieldKey.effect.canonical (.str effect.tag)))
    else .ok (.obj members)

/-- Compiles permissions, then the refused ones, then the granted ones. -/
def compilePermissionDocument (kind : StatementKind) (context : Context)
    (permission deny allow : List Json) : Traced Document :=
  compileEntries kind context
    (permission.map .ok ++ deny.map (applyDefaultEffect .deny) ++
      allow.map (applyDefaultEffect .allow))

-- ---------------------------------------------------------------------------
-- Keys
-- ---------------------------------------------------------------------------

def rootStatement : Json :=
  .ofMembers [("principal", .obj [("iam", .str "root")]), ("action", .str "kms:*"),
    ("resource", .str "*"), ("Sid", .str "")]

def adminStatement (admin : Json) : Json :=
  .ofMembers [("principal", admin), ("action", .str "kms:*"),
    ("resource", .obj [("kms", .str ownerMarker)]), ("Sid", .str "")]

def defaultKeyStatements (adminUsers : List Json) (noRootAccess : Bool) : List Json :=
  (if noRootAccess then [] else [rootStatement]) ++ adminUsers.map adminStatement

def compileKeyPolicy (context : Context) (permission adminUsers : List Json)
    (noRootAccess : Bool) : Traced Document :=
  compileDocument .resourcePolicy context
    (permission ++ defaultKeyStatements adminUsers noRootAccess)

end AccessPolicy
