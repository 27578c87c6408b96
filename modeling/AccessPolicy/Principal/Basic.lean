import AccessPolicy.ListShape

/-!
# Principals

A principal of a statement is a string such as `*`, or a mapping with a bucket for each kind of
principal. Buckets have the shape of lists, so an empty one is absent. A statement has a single
principal value: mappings merge bucket by bucket, and a string stands alone.
-/

namespace AccessPolicy

-- ---------------------------------------------------------------------------
-- Entries
-- ---------------------------------------------------------------------------

inductive PrincipalKind where
  | aws
  | federated
  | service
  deriving DecidableEq

namespace PrincipalKind

def all : List PrincipalKind := [.aws, .federated, .service]

def tag : PrincipalKind → String
  | .aws => "AWS"
  | .federated => "Federated"
  | .service => "Service"

def ofTag? (text : String) : Option PrincipalKind := all.find? fun kind => kind.tag = text

end PrincipalKind

structure Principal where
  aws : Option ListShape
  federated : Option ListShape
  service : Option ListShape
  deriving DecidableEq

abbrev Buckets := PrincipalKind → List String

namespace Buckets

def empty : Buckets := fun _ => []

def extend (buckets : Buckets) (kind : PrincipalKind) (texts : List String) : Buckets :=
  fun other => if other = kind then buckets other ++ texts else buckets other

end Buckets

namespace Principal

def get? (principal : Principal) : PrincipalKind → Option ListShape
  | .aws => principal.aws
  | .federated => principal.federated
  | .service => principal.service

/-- The mapping of the buckets that are not empty, each in its canonical shape. -/
def ofBuckets (buckets : Buckets) : Principal :=
  ⟨ListShape.canonical? (buckets .aws), ListShape.canonical? (buckets .federated),
    ListShape.canonical? (buckets .service)⟩

def buckets (principal : Principal) : List (PrincipalKind × ListShape) :=
  PrincipalKind.all.filterMap fun kind => (principal.get? kind).map fun shape => (kind, shape)

def isEmpty (principal : Principal) : Bool := principal.buckets.isEmpty

def toJson (principal : Principal) : Json :=
  .obj (principal.buckets.map fun (kind, shape) => (kind.tag, shape.toJson))

end Principal

inductive PrincipalEntry where
  | literal (text : String)
  | mapping (principal : Principal)
  deriving DecidableEq

namespace PrincipalEntry

def toJson : PrincipalEntry → Json
  | .literal text => .str text
  | .mapping principal => principal.toJson

def has (kind : PrincipalKind) : PrincipalEntry → Bool
  | .literal _ => false
  | .mapping principal => (principal.get? kind).isSome

def refused (field : String) (value : Json) : PolicyError :=
  .invalidValue field ("expected a string or a principal mapping, got " ++ value.compact)

end PrincipalEntry

end AccessPolicy

namespace AccessPolicy.PrincipalEntry

-- ---------------------------------------------------------------------------
-- Merging
-- ---------------------------------------------------------------------------

def literals (entries : List PrincipalEntry) : List String :=
  entries.filterMap fun
    | .literal text => some text
    | .mapping _ => none

def mappings (entries : List PrincipalEntry) : List Principal :=
  entries.filterMap fun
    | .literal _ => none
    | .mapping principal => some principal

def union (principals : List Principal) : Buckets := fun kind =>
  principals.flatMap fun principal => ((principal.get? kind).map ListShape.toList).getD []

/-- The one value of a list of entries; none if they name nobody. -/
def merge (entries : List PrincipalEntry) : Except PolicyError (Option PrincipalEntry) :=
  match literals entries, mappings entries with
  | [], [] => .ok none
  | [text], [] => .ok (some (.literal text))
  | [], principals =>
    let merged := Principal.ofBuckets (union principals)
    .ok (if merged.isEmpty then none else some (.mapping merged))
  | [text], _ :: _ =>
    .error (.principalConflict
      ("string principal '" ++ text ++ "' cannot be combined with mapping principals"))
  | many, _ =>
    .error (.principalConflict
      ("only one string principal is allowed, got [" ++ PolicyError.listing ", " many ++ "]"))

end AccessPolicy.PrincipalEntry
