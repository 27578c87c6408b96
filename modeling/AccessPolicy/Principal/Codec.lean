import AccessPolicy.Principal.Basic

/-!
# Principals as records

An entry is recorded as its value in a statement. A record is read back as it stands: nothing is
sorted, and empty buckets are kept.
-/

namespace AccessPolicy

namespace Json

def asText? : Json → Option String
  | .str text => some text
  | _ => none

end Json

def ListShape.ofJson? : Json → Option ListShape
  | .str text => some (.one text)
  | .arr items => (items.mapM Json.asText?).map .many
  | _ => none

namespace Principal

def set (principal : Principal) (kind : PrincipalKind) (shape : ListShape) : Principal :=
  match kind with
  | .aws => { principal with aws := some shape }
  | .federated => { principal with federated := some shape }
  | .service => { principal with service := some shape }

def ofMembers? : Entries Json → Option Principal
  | [] => some ⟨none, none, none⟩
  | (key, value) :: rest => do
    let kind ← PrincipalKind.ofTag? key
    let shape ← ListShape.ofJson? value
    let principal ← ofMembers? rest
    some (principal.set kind shape)

end Principal

namespace PrincipalEntry

def ofJson : Json → Except PolicyError PrincipalEntry
  | .str text => .ok (.literal text)
  | .obj members =>
    match Principal.ofMembers? members with
    | some principal => .ok (.mapping principal)
    | none => .error unreadable
  | _ => .error unreadable
where
  unreadable : PolicyError :=
    .invalidFormat "data did not match any variant of untagged enum PrincipalEntry"

end PrincipalEntry

end AccessPolicy
