import AccessPolicy.Principal.Basic
import AccessPolicy.Schema

/-!
# Statements

Permissions, policies of resources and trust policies share their fields, and the latter two name
principals as well. Grants have fields of their own. A statement is built from the fields of its
kind.

It is rendered as an object whose list-valued members have the shape of lists and whose principals
are merged into one value. A trust statement that names principals but no action is about assuming a
role.
-/

namespace AccessPolicy

-- ---------------------------------------------------------------------------
-- Kinds
-- ---------------------------------------------------------------------------

inductive StatementKind where
  | permission
  | resourcePolicy
  | trust
  | grant
  deriving DecidableEq

namespace FieldKey

def sid : FieldKey := word "sid"
def effect : FieldKey := word "effect"
def action : FieldKey := word "action"
def notAction : FieldKey := negated "action"
def resource : FieldKey := word "resource"
def notResource : FieldKey := negated "resource"
def condition : FieldKey := word "condition"
def notCondition : FieldKey := negated "condition"
def principal : FieldKey := word "principal"
def notPrincipal : FieldKey := negated "principal"

def grantee : FieldKey := word "grantee"
def retiree : FieldKey := word "retiree"
def operations : FieldKey := word "operations"
def constraints : FieldKey := word "constraints"
def grantTokens : FieldKey := ⟨["grant", "tokens"], "_"⟩

end FieldKey

namespace Schema

def policy : Schema :=
  empty
    |>.field .sid .text
    |>.field .effect (.choice (Effect.all.map Effect.tag))
    |>.field .action .strings
    |>.field .notAction .strings
    |>.field .resource (.resources none)
    |>.field .notResource (.resources none)
    |>.field .condition .mapping
    |>.field .notCondition .mapping
    |>.conflict [.action, .notAction]
    |>.conflict [.resource, .notResource]

def permission : Schema :=
  policy
    |>.require [.action, .notAction]
    |>.require [.effect]
    |>.require [.resource, .notResource]
    |>.forbid .principal
    |>.forbid .notPrincipal

def resourcePolicy : Schema :=
  policy
    |>.field .principal .principals
    |>.field .notPrincipal .principals
    |>.conflict [.principal, .notPrincipal]

def grant : Schema :=
  empty
    |>.field .grantee (.resources (some [.iam]))
    |>.field .retiree (.resources (some [.iam]))
    |>.field .operations .strings
    |>.field .constraints .mapping
    |>.field .grantTokens .strings

end Schema

namespace StatementKind

def all : List StatementKind := [.permission, .resourcePolicy, .trust, .grant]

def tag : StatementKind → String
  | .permission => "permission"
  | .resourcePolicy => "resource_policy"
  | .trust => "trust"
  | .grant => "grant"

def ofTag? (text : String) : Option StatementKind := all.find? fun kind => kind.tag = text

def schema : StatementKind → Schema
  | .permission => .permission
  | .resourcePolicy => .resourcePolicy
  | .trust => .resourcePolicy
  | .grant => .grant

end StatementKind

-- ---------------------------------------------------------------------------
-- Statements
-- ---------------------------------------------------------------------------

structure PolicyBody where
  sid : Option String
  effect : Option Effect
  action : List String
  notAction : List String
  resource : List String
  notResource : List String
  condition : Option (Entries Json)
  notCondition : Option (Entries Json)

structure PolicyStatement where
  body : PolicyBody
  principal : List PrincipalEntry
  notPrincipal : List PrincipalEntry

structure Grant where
  grantee : List String
  retiree : List String
  operations : List String
  constraints : Option (Entries Json)
  grantTokens : List String

inductive Statement where
  | permission (body : PolicyBody)
  | resourcePolicy (policy : PolicyStatement)
  | trust (policy : PolicyStatement)
  | grant (contents : Grant)

def Statement.kind : Statement → StatementKind
  | .permission _ => .permission
  | .resourcePolicy _ => .resourcePolicy
  | .trust _ => .trust
  | .grant _ => .grant

def PolicyBody.take : Take PolicyBody := do
  let sid ← Take.text "sid"
  let effect ← Take.effect "effect"
  let action ← Take.list "action"
  let notAction ← Take.list "notaction"
  let resource ← Take.list "resource"
  let notResource ← Take.list "notresource"
  let condition ← Take.mapping "condition"
  let notCondition ← Take.mapping "notcondition"
  pure ⟨sid, effect, action, notAction, resource, notResource, condition, notCondition⟩

def PolicyStatement.take : Take PolicyStatement := do
  let body ← PolicyBody.take
  let principal ← Take.principals "principal"
  let notPrincipal ← Take.principals "notprincipal"
  pure ⟨body, principal, notPrincipal⟩

def Grant.take : Take Grant := do
  let grantee ← Take.list "grantee"
  let retiree ← Take.list "retiree"
  let operations ← Take.list "operations"
  let constraints ← Take.mapping "constraints"
  let grantTokens ← Take.list "grant_tokens"
  pure ⟨grantee, retiree, operations, constraints, grantTokens⟩

namespace Statement

def take : StatementKind → Take Statement
  | .permission => do
    let body ← PolicyBody.take
    pure (.permission body)
  | .resourcePolicy => do
    let policy ← PolicyStatement.take
    pure (.resourcePolicy policy)
  | .trust => do
    let policy ← PolicyStatement.take
    pure (.trust policy)
  | .grant => do
    let contents ← Grant.take
    pure (.grant contents)

def ofFields (kind : StatementKind) (fields : FieldSet) : Except PolicyError Statement :=
  (fields.take (take kind)).1

end Statement

-- ---------------------------------------------------------------------------
-- Canonical form
-- ---------------------------------------------------------------------------

def optional (key : String) (value : Option Json) : Entries Json :=
  (value.map fun value => (key, value)).toList

def listMember (key : String) (texts : List String) : Entries Json :=
  optional key ((ListShape.canonical? texts).map ListShape.toJson)

/-- A member that is an ascending list also when it holds one string, unless it is empty. -/
def ascendingMember (key : String) (texts : List String) : Entries Json :=
  if texts.isEmpty then [] else [(key, .strings (ascending texts))]

namespace PolicyBody

def hasAction (body : PolicyBody) : Bool := !body.action.isEmpty || !body.notAction.isEmpty

def membersWith (body : PolicyBody) (sid effect : Option Json) : Entries Json :=
  optional "Sid" sid ++ optional "Effect" effect ++
    listMember "Action" body.action ++ listMember "NotAction" body.notAction ++
    listMember "Resource" body.resource ++ listMember "NotResource" body.notResource ++
    optional "Condition" (body.condition.map .obj) ++
    optional "NotCondition" (body.notCondition.map .obj)

def render (body : PolicyBody) : Entries Json :=
  (body.membersWith (body.sid.map .str) (body.effect.map fun effect => .str effect.tag)).ordered

end PolicyBody

namespace PolicyStatement

def merged (policy : PolicyStatement) :
    Except PolicyError (Option PrincipalEntry × Option PrincipalEntry) := do
  let principal ← PrincipalEntry.merge policy.principal
  let notPrincipal ← PrincipalEntry.merge policy.notPrincipal
  .ok (principal, notPrincipal)

/-- The canonical form with given principals. The identifier is empty and access is granted where
the statement does not tell. -/
def renderWith (policy : PolicyStatement) (principal notPrincipal : Option PrincipalEntry) :
    Entries Json :=
  let sid := Json.str (policy.body.sid.getD "")
  let effect := Json.str (policy.body.effect.getD .allow).tag
  (policy.body.membersWith (some sid) (some effect) ++
    optional "Principal" (principal.map PrincipalEntry.toJson) ++
    optional "NotPrincipal" (notPrincipal.map PrincipalEntry.toJson)).ordered

def render (policy : PolicyStatement) : Except PolicyError (Entries Json) := do
  let (principal, notPrincipal) ← policy.merged
  .ok (policy.renderWith principal notPrincipal)

/-- The action of a trust statement that names principals: federated ones come with an assertion. -/
def trustAction? (principals : List PrincipalEntry) : Option String :=
  if principals.isEmpty then none
  else if principals.any (PrincipalEntry.has .federated) then some "sts:AssumeRoleWithSAML"
  else some "sts:AssumeRole"

def defaultAction? (policy : PolicyStatement) (principal notPrincipal : Option PrincipalEntry) :
    Option String :=
  if policy.body.hasAction then none else trustAction? (principal.toList ++ notPrincipal.toList)

def renderTrust (policy : PolicyStatement) : Traced (Entries Json) := do
  let (principal, notPrincipal) ← policy.merged
  let members := policy.renderWith principal notPrincipal
  match policy.defaultAction? principal notPrincipal with
  | none => pure members
  | some action =>
    Traced.emit (.trustActionDefaulted action)
    pure (members.put "Action" (.str action))

end PolicyStatement

def Grant.render (grant : Grant) : Entries Json :=
  (listMember "GranteePrincipal" grant.grantee ++ listMember "RetireePrincipal" grant.retiree ++
    ascendingMember "Operations" grant.operations ++
    optional "Constraints" (grant.constraints.map .obj) ++
    ascendingMember "GrantTokens" grant.grantTokens).ordered

def Statement.render : Statement → Traced (Entries Json)
  | .permission body => pure body.render
  | .resourcePolicy policy => policy.render
  | .trust policy => policy.renderTrust
  | .grant contents => pure contents.render

end AccessPolicy
