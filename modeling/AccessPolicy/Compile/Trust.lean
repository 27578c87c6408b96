import AccessPolicy.Compile.KeyPolicy

/-!
# Lists of trusted principals

A trust policy lists those who are trusted and those who are not. An entry is a statement with
principals of its side, or the principals alone.
-/

namespace AccessPolicy

inductive PrincipalSide where
  | principal
  | notPrincipal
  deriving DecidableEq

namespace PrincipalSide

def key : PrincipalSide → FieldKey
  | .principal => .principal
  | .notPrincipal => .notPrincipal

def opposite : PrincipalSide → PrincipalSide
  | .principal => .notPrincipal
  | .notPrincipal => .principal

end PrincipalSide

/-- The spelling of a key that an entry contains, shorthand first. -/
def givenSpelling? (members : Entries Json) (key : FieldKey) : Option String :=
  [key.shorthand, key.canonical].find? fun name => members.has name

/-- Makes a statement of an entry that is the principals alone. -/
def wrapTrustPrincipal (side : PrincipalSide) (raw : Json) : Except PolicyError Json := do
  let members ← expectMapping "trust" raw
  match givenSpelling? members side.opposite.key, givenSpelling? members side.key with
  | some got, _ => .error (.oppositePrincipal side.key.shorthand got)
  | none, some _ => .ok (.obj members)
  | none, none => .ok (.obj [(side.key.shorthand, .obj members)])

def compileTrustDocument (context : Context) (allow disallow : List Json) : Traced Document :=
  compileEntries .trust context
    (allow.map (wrapTrustPrincipal .principal) ++ disallow.map (wrapTrustPrincipal .notPrincipal))

end AccessPolicy
