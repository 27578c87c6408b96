import AccessPolicy.Json.Basic

/-!
# Outcomes, and what is reported on the way

A policy is refused for a cause with the names and values that belong to it; `message` is its
wording. Events tell what was done, and warnings tell the author of a policy about a probable
mistake.

A `Traced` value is an outcome and the events on the way to it. Events that came before a failure
are kept, and the outcome never depends on them: `outcome_bind` is the bind of outcomes alone.
-/

namespace AccessPolicy

-- ---------------------------------------------------------------------------
-- Errors
-- ---------------------------------------------------------------------------

inductive PolicyError where
  | bothSpellings (field canonical shorthandValue canonicalValue : String)
  | forbiddenField (field canonical : String)
  | deprecatedKey (key reason : String)
  | missingFields (missing : List String)
  | conflictingFields (group found : List String)
  | invalidValue (field reason : String)
  | unknownAccount (account : String) (available : List String)
  | invalidSelfReference (target ownerKind : String)
  | unsupportedResource (wanted : String) (available : List String)
  | unknownService (service reason : String)
  | missingIdentity
  | principalConflict (reason : String)
  | overriddenEffect (default overridden : String)
  | oppositePrincipal (wanted got : String)
  | invalidDocument (document error : String)
  | invalidFormat (reason : String)
  deriving DecidableEq

namespace PolicyError

def listing (separator : String) (texts : List String) : String := separator.intercalate texts

def message : PolicyError → String
  | .bothSpellings field canonical shorthandValue canonicalValue =>
    "Cannot specify '" ++ field ++ "' as shorthand and '" ++ canonical ++
      "' at the same time (shorthand=" ++ shorthandValue ++ ", canonical=" ++ canonicalValue ++ ")"
  | .forbiddenField field canonical =>
    "Cannot specify '" ++ field ++ "' or '" ++ canonical ++ "' in this statement"
  | .deprecatedKey key reason => "Key '" ++ key ++ "' is deprecated: " ++ reason
  | .missingFields missing =>
    "Statement is missing required properties: " ++ listing "; " missing
  | .conflictingFields group found =>
    "Statement has conflicting keys, please only choose one of [" ++ listing ", " group ++
      "] (found [" ++ listing ", " found ++ "])"
  | .invalidValue field reason => "Invalid value for '" ++ field ++ "': " ++ reason
  | .unknownAccount account available =>
    "Unknown account specified: '" ++ account ++ "' (available: " ++ listing ", " available ++ ")"
  | .invalidSelfReference target ownerKind =>
    "No __self__ " ++ target ++ " for this policy (self type is '" ++ ownerKind ++ "')"
  | .unsupportedResource wanted available =>
    "Sorry, don't support this resource type here: wanted '" ++ wanted ++ "', available [" ++
      listing ", " available ++ "]"
  | .unknownService service reason => "Unknown service '" ++ service ++ "': " ++ reason
  | .missingIdentity => "Generic arn specified without specifying 'identity'"
  | .principalConflict reason => "Cannot merge principals: " ++ reason
  | .overriddenEffect default overridden =>
    "Defaulted effect is being overridden: default '" ++ default ++ "', got '" ++ overridden ++ "'"
  | .oppositePrincipal wanted got =>
    "Specifying opposite principal type in statement: wanted '" ++ wanted ++ "', got '" ++ got ++
      "'"
  | .invalidDocument document error =>
    "Document wasn't valid json: " ++ error ++ " (document: " ++ document ++ ")"
  | .invalidFormat reason => "Invalid format: " ++ reason

end PolicyError

-- ---------------------------------------------------------------------------
-- Events
-- ---------------------------------------------------------------------------

inductive Event where
  | oddAccountId (account id : String)
  | environmentValidated (environment : String) (accounts : Nat)
  | unknownKeyIgnored (key : String)
  | fieldsResolved (fields : Nat)
  | statementCompiled (kind ownerKind ownerName : String)
  | resourcesExpanded (field : String) (count : Nat)
  | principalResolved (field : String) (buckets : Nat)
  | trustActionDefaulted (action : String)
  | documentRendered (statements bytes : Nat)
  | unreadableDocument (error : String)
  | documentsDiffer (changes : Nat)
  | grantsPlanned (create revoke : Nat)
  deriving DecidableEq

namespace Event

def isWarning : Event → Bool
  | .oddAccountId .. | .unknownKeyIgnored _ | .unreadableDocument _ => true
  | _ => false

def topic : Event → String
  | .oddAccountId .. | .environmentValidated .. => "Config"
  | .unknownKeyIgnored _ | .fieldsResolved _ | .statementCompiled .. => "Compile"
  | .resourcesExpanded .. | .principalResolved .. => "Resolve"
  | .trustActionDefaulted _ | .documentRendered .. => "Render"
  | .unreadableDocument _ | .documentsDiffer _ | .grantsPlanned .. => "Diff"

def phase : Event → String
  | .oddAccountId .. | .environmentValidated .. => "Validate"
  | .unknownKeyIgnored _ | .fieldsResolved _ => "ResolveFields"
  | .statementCompiled .. => "Build"
  | .resourcesExpanded .. => "Resources"
  | .principalResolved .. => "Principal"
  | .trustActionDefaulted _ => "Trust"
  | .documentRendered .. => "Document"
  | .unreadableDocument _ => "Parse"
  | .documentsDiffer _ => "Compare"
  | .grantsPlanned .. => "Grants"

def message : Event → String
  | .oddAccountId .. => "Account id is not a 12 digit number"
  | .environmentValidated .. => "Environment config validated"
  | .unknownKeyIgnored _ => "Ignoring unknown statement key"
  | .fieldsResolved _ => "Statement fields resolved"
  | .statementCompiled .. => "Statement compiled"
  | .resourcesExpanded .. => "Resource references expanded"
  | .principalResolved .. => "Principal shorthand resolved"
  | .trustActionDefaulted _ => "Defaulted trust statement action"
  | .documentRendered .. => "Policy document rendered"
  | .unreadableDocument _ => "Failed to convert document into json"
  | .documentsDiffer _ => "Documents differ"
  | .grantsPlanned .. => "Grant plan computed"

def details : Event → Entries Json
  | .oddAccountId account id => [("account", .str account), ("id", .str id)]
  | .environmentValidated environment accounts =>
    [("environment", .str environment), ("accounts", .int accounts)]
  | .unknownKeyIgnored key => [("key", .str key)]
  | .fieldsResolved fields => [("fields", .int fields)]
  | .statementCompiled kind ownerKind ownerName =>
    [("kind", .str kind), ("self_type", .str ownerKind), ("self_name", .str ownerName)]
  | .resourcesExpanded field count => [("field", .str field), ("count", .int count)]
  | .principalResolved field buckets => [("field", .str field), ("buckets", .int buckets)]
  | .trustActionDefaulted action => [("action", .str action)]
  | .documentRendered statements bytes =>
    [("statements", .int statements), ("bytes", .int bytes)]
  | .unreadableDocument error => [("error", .str error)]
  | .documentsDiffer changes => [("changes", .int changes)]
  | .grantsPlanned create revoke => [("create", .int create), ("revoke", .int revoke)]

def toJson (event : Event) : Json :=
  .ofMembers ([("level", .str (if event.isWarning then "WARN" else "DEBUG")),
    ("event", .str event.topic), ("phase", .str event.phase),
    ("message", .str event.message)] ++ event.details)

end Event

-- ---------------------------------------------------------------------------
-- Outcomes with their events
-- ---------------------------------------------------------------------------

/-- A value or an error, and the events in the order in which they happened. -/
structure Traced (α : Type) where
  outcome : Except PolicyError α
  events : List Event

namespace Traced

protected def pure (value : α) : Traced α := ⟨.ok value, []⟩

protected def bind (first : Traced α) (next : α → Traced β) : Traced β :=
  match first.outcome with
  | .ok value => ⟨(next value).outcome, first.events ++ (next value).events⟩
  | .error error => ⟨.error error, first.events⟩

instance : Monad Traced where
  pure := Traced.pure
  bind := Traced.bind

instance : MonadLift (Except PolicyError) Traced where
  monadLift outcome := ⟨outcome, []⟩

def emit (event : Event) : Traced Unit := ⟨.ok (), [event]⟩

def fail (error : PolicyError) : Traced α := ⟨.error error, []⟩

def each (f : α → Traced β) : List α → Traced (List β)
  | [] => pure []
  | a :: rest => do
    let b ← f a
    let bs ← each f rest
    pure (b :: bs)

@[simp] theorem outcome_pure (value : α) : (pure value : Traced α).outcome = .ok value := rfl

@[simp] theorem outcome_bind (first : Traced α) (next : α → Traced β) :
    (first >>= next).outcome = first.outcome >>= fun value => (next value).outcome := by
  show (Traced.bind first next).outcome = _
  cases h : first.outcome <;> simp [Traced.bind, h] <;> rfl

@[simp] theorem outcome_emit (event : Event) : (emit event).outcome = .ok () := rfl

@[simp] theorem outcome_fail (error : PolicyError) :
    (fail error : Traced α).outcome = .error error := rfl

@[simp] theorem outcome_lift (outcome : Except PolicyError α) :
    (liftM outcome : Traced α).outcome = outcome := rfl

end Traced

end AccessPolicy
