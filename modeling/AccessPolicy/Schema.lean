import AccessPolicy.Field

/-!
# Schemas of statements

A schema declares the fields of a kind of statements, and which of them are required, exclude one
another, are forbidden or are deprecated. `Schema.resolve` reads the fields of a raw statement; keys
that belong to no field are reported and have no other effect.
-/

namespace AccessPolicy

structure FieldSpec where
  key : FieldKey
  kind : FieldKind

structure Schema where
  fields : List FieldSpec
  required : List (List FieldKey)
  conflicts : List (List FieldKey)
  forbidden : List FieldKey
  deprecated : Entries String

namespace Schema

def empty : Schema := ⟨[], [], [], [], []⟩

def field (schema : Schema) (key : FieldKey) (kind : FieldKind) : Schema :=
  { schema with fields := schema.fields ++ [⟨key, kind⟩] }

/-- At least one field of a group must be set. -/
def require (schema : Schema) (group : List FieldKey) : Schema :=
  { schema with required := schema.required ++ [group] }

/-- At most one field of a group may be set. -/
def conflict (schema : Schema) (group : List FieldKey) : Schema :=
  { schema with conflicts := schema.conflicts ++ [group] }

/-- Neither spelling of a key may occur. -/
def forbid (schema : Schema) (key : FieldKey) : Schema :=
  { schema with forbidden := schema.forbidden ++ [key] }

def retire (schema : Schema) (key reason : String) : Schema :=
  { schema with deprecated := schema.deprecated ++ [(key, reason)] }

def spellings (schema : Schema) : List String :=
  schema.fields.flatMap fun spec => spec.key.spellings

def checkDeprecated (schema : Schema) (raw : Entries Json) : Except PolicyError Unit :=
  match schema.deprecated.filter fun (key, _) => raw.has key with
  | [] => .ok ()
  | (key, reason) :: _ => .error (.deprecatedKey key reason)

def checkForbidden (schema : Schema) (raw : Entries Json) : Except PolicyError Unit :=
  match schema.forbidden.find? fun key => key.spellings.any fun name => raw.has name with
  | none => .ok ()
  | some key => .error (.forbiddenField key.shorthand key.canonical)

def unknownKeys (schema : Schema) (raw : Entries Json) : List String :=
  (raw.map (·.1)).filter fun key => key ∉ schema.spellings

/-- The value of a key; `null` counts as none. -/
def present? (raw : Entries Json) (key : String) : Option Json :=
  (raw.find? key).filter fun value => !value.isNull

def fieldValue? (context : Context) (raw : Entries Json) (spec : FieldSpec) :
    Traced (Option FieldValue) :=
  let shorthand := spec.key.shorthand
  let canonical := spec.key.canonical
  match present? raw shorthand, present? raw canonical with
  | none, none => pure none
  | none, some long => do
    let value ← spec.kind.accept canonical long
    pure (some value)
  | some short, none => do
    let value ← spec.kind.resolve context shorthand short
    pure (some value)
  | some short, some long =>
    if shorthand = canonical then do
      let value ← spec.kind.resolve context shorthand short
      pure (some value)
    else Traced.fail (.bothSpellings shorthand canonical short.compact long.compact)

/-- Sets a field unless its value names nothing. -/
def setField (fields : FieldSet) (field : String) : Option FieldValue → FieldSet
  | none => fields
  | some value => if value.isEmpty then fields else fields.insert field value

def readFields (context : Context) (raw : Entries Json) :
    List FieldSpec → FieldSet → Traced FieldSet
  | [], fields => pure fields
  | spec :: rest, fields => do
    let value ← fieldValue? context raw spec
    readFields context raw rest (setField fields spec.key.shorthand value)

def anySet (fields : FieldSet) (group : List FieldKey) : Bool :=
  group.any fun key => fields.isSet key.shorthand

def groupName (group : List FieldKey) : String :=
  PolicyError.listing " or " (ascending (group.flatMap FieldKey.spellings))

def checkRequired (schema : Schema) (fields : FieldSet) : Except PolicyError Unit :=
  match (schema.required.filter fun group => !anySet fields group).map groupName with
  | [] => .ok ()
  | missing => .error (.missingFields missing)

def found (fields : FieldSet) (group : List FieldKey) : List String :=
  (group.map FieldKey.shorthand).filter fields.isSet

def checkConflicts (schema : Schema) (fields : FieldSet) : Except PolicyError Unit :=
  match schema.conflicts.find? fun group => 1 < (found fields group).length with
  | none => .ok ()
  | some group => .error (.conflictingFields (group.map FieldKey.shorthand) (found fields group))

def resolveMembers (schema : Schema) (context : Context) (raw : Entries Json) :
    Traced FieldSet := do
  schema.checkDeprecated raw
  schema.checkForbidden raw
  let _ ← Traced.each (fun key => Traced.emit (.unknownKeyIgnored key)) (schema.unknownKeys raw)
  let fields ← readFields context raw schema.fields .empty
  schema.checkRequired fields
  schema.checkConflicts fields
  Traced.emit (.fieldsResolved fields.size)
  pure fields

def resolve (schema : Schema) (context : Context) (raw : Json) : Traced FieldSet :=
  match raw with
  | .obj members => schema.resolveMembers context members
  | other => Traced.fail (unexpected "statement" "a mapping" other.compact)

end Schema

end AccessPolicy
