import AccessPolicy.Diff
import AccessPolicy.Statement

/-!
# Plans for grants

The grants of a key are changed by creating those that are wanted and not there, and revoking those
that are there and not wanted. A grant is there if another agrees with it in all its attributes but
those that the service hands out; lists agree in any order.
-/

namespace AccessPolicy

/-- Attributes that the service hands out. -/
def ignoredGrantKeys : List String := ["GrantId", "IssuingAccount"]

namespace Json

def sameUnordered (a b : List Json) : Bool := (arr (sortItems a)).same (.arr (sortItems b))

end Json

/-- Whether an attribute of a grant agrees with what another grant has under its key. A list must be
there; any other attribute may be absent. -/
def attributeMatches (value : Json) (other : Option Json) : Bool :=
  match value, other with
  | .arr items, some (.arr others) => Json.sameUnordered items others
  | .arr _, _ => false
  | _, none => true
  | value, some other => other.same value

def grantMatches (grant candidate : Entries Json) : Bool :=
  grant.all fun (key, value) =>
    ignoredGrantKeys.contains key || attributeMatches value (candidate.find? key)

structure GrantPlan where
  create : List (Entries Json)
  revoke : List (Entries Json)

namespace GrantPlan

def isEmpty (plan : GrantPlan) : Bool := plan.create.isEmpty && plan.revoke.isEmpty

def toJson (plan : GrantPlan) : Json :=
  .ofMembers [("create", .arr (plan.create.map .obj)), ("revoke", .arr (plan.revoke.map .obj))]

def between (current wanted : List (Entries Json)) : GrantPlan :=
  ⟨wanted.filter fun grant => !current.any (grantMatches grant),
    current.filter fun grant => !wanted.any (grantMatches grant)⟩

end GrantPlan

def grantMembers : Json → Except PolicyError (Entries Json)
  | .obj members => .ok members
  | other => .error (unexpected "grants" "a mapping" other.compact)

def currentGrants (grants : List Json) : Except PolicyError (List (Entries Json)) :=
  grants.mapM grantMembers

def planGrants (current : List Json) (wanted : List Grant) : Traced GrantPlan := do
  let current ← currentGrants current
  let plan := GrantPlan.between current (wanted.map Grant.render)
  Traced.emit (.grantsPlanned plan.create.length plan.revoke.length)
  pure plan

end AccessPolicy
