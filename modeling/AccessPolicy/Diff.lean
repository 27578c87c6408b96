import AccessPolicy.Json.Basic
import AccessPolicy.Json.Reader
import AccessPolicy.Traced

/-!
# Comparing documents

A service hands a document back with the lists of actions, resources and principals in another
order. `normal` sorts those lists and leaves everything else as it is, so two spellings of one
document have the same normal form. Two objects are compared key by key and two arrays index by
index; at any other place where the values differ, the place and both values are a change. Changes
come depth first, keys and indices ascending.

Two documents are compared by their normal forms. No line means that they are equivalent; otherwise
two header lines precede the lines of the changes.
-/

namespace AccessPolicy.Json

-- ---------------------------------------------------------------------------
-- Normal forms
-- ---------------------------------------------------------------------------

/-- Strings come first, by their code points; other values follow by their text. -/
structure SortKey where
  isText : Bool
  text : String
  deriving DecidableEq

def sortKey : Json → SortKey
  | .str text => ⟨true, text⟩
  | other => ⟨false, other.compact⟩

def SortKey.le (a b : SortKey) : Bool :=
  if a.isText = b.isText then decide (a.text ≤ b.text) else a.isText

def sortItems (items : List Json) : List Json :=
  items.mergeSort fun a b => a.sortKey.le b.sortKey

def sortList : Json → Json
  | .arr items => .arr (sortItems items)
  | other => other

def adjust (key : String) (f : Json → Json) (members : Entries Json) : Entries Json :=
  members.map fun (name, value) => if name = key then (name, f value) else (name, value)

def unorderedKeys : List String := ["Action", "NotAction", "Resource", "NotResource"]

def principalKeys : List String := ["Principal", "NotPrincipal"]

def bucketKeys : List String := ["AWS", "Federated", "Service"]

def normalPrincipal : Json → Json
  | .obj members => .obj (bucketKeys.foldl (fun members key => adjust key sortList members) members)
  | other => other

def normalStatement (members : Entries Json) : Entries Json :=
  let members := principalKeys.foldl (fun members key => adjust key normalPrincipal members) members
  unorderedKeys.foldl (fun members key => adjust key sortList members) members

mutual
def normal : Json → Json
  | .arr items => .arr (normalItems items)
  | .obj members =>
    if Entries.has "Statement" members then .obj (normalDocument members)
    else .obj (normalStatement members)
  | scalar => scalar
def normalItems : List Json → List Json
  | [] => []
  | item :: rest => item.normal :: normalItems rest
def normalDocument : List (String × Json) → List (String × Json)
  | [] => []
  | (key, value) :: rest =>
    (key, if key = "Statement" then value.normal else value) :: normalDocument rest
end

end AccessPolicy.Json

namespace AccessPolicy

-- ---------------------------------------------------------------------------
-- Changes
-- ---------------------------------------------------------------------------

inductive Step where
  | key (name : String)
  | index (position : Nat)
  deriving DecidableEq

/-- The steps to a part of a value, the last first. -/
abbrev Path := List Step

def Path.text : Path → String
  | [] => ""
  | .key name :: outer =>
    if (Path.text outer).isEmpty then name else Path.text outer ++ "." ++ name
  | .index position :: outer => Path.text outer ++ "[" ++ toString position ++ "]"

inductive Change where
  | removed (path : Path) (value : Json)
  | added (path : Path) (value : Json)
  | replaced (path : Path) (before after : Json)

def Change.line (mark : String) (place : String) (value : Json) : String :=
  mark ++ place ++ ": " ++ value.compact

def Change.lines : Change → List String
  | .removed path value => [line "-" path.text value]
  | .added path value => [line "+" path.text value]
  | .replaced path before after =>
    let place := if path.text.isEmpty then "." else path.text
    [line "-" place before, line "+" place after]

namespace Json

def addedMembers (path : Path) (members : Entries Json) : List Change :=
  members.map fun (key, value) => .added (.key key :: path) value

def addedItems (path : Path) (index : Nat) (items : List Json) : List Change :=
  items.mapIdx fun offset value => .added (.index (index + offset) :: path) value

mutual
def changes (path : Path) (current new : Json) : List Change :=
  if current.same new then []
  else
    match current, new with
    | .obj current, .obj new => changedMembers path current new
    | .arr current, .arr new => changedItems path 0 current new
    | current, new => [.replaced path current new]
def changedMembers (path : Path) : List (String × Json) → List (String × Json) → List Change
  | [], new => addedMembers path new
  | (key, before) :: rest, new =>
    let earlier := new.takeWhile (·.1 < key)
    addedMembers path earlier ++
      match new.dropWhile (·.1 < key) with
      | [] => .removed (.key key :: path) before :: changedMembers path rest []
      | (name, after) :: later =>
        if name = key then changes (.key key :: path) before after ++ changedMembers path rest later
        else .removed (.key key :: path) before :: changedMembers path rest ((name, after) :: later)
def changedItems (path : Path) (index : Nat) : List Json → List Json → List Change
  | [], new => addedItems path index new
  | before :: rest, [] =>
    .removed (.index index :: path) before :: changedItems path (index + 1) rest []
  | before :: rest, after :: later =>
    changes (.index index :: path) before after ++ changedItems path (index + 1) rest later
end

end Json

-- ---------------------------------------------------------------------------
-- Documents
-- ---------------------------------------------------------------------------

inductive DocumentSource where
  | text (content : String)
  | value (content : Json)

namespace DocumentSource

def read : DocumentSource → Json.Outcome Json
  | .text content => Json.read content
  | .value content => .ok content

end DocumentSource

def diffHeader : List String := ["--- current", "+++ new"]

def changeLines (current new : Json) : List String :=
  (Json.changes [] current new).flatMap Change.lines

def diffValues (current new : Json) : List String :=
  if current.normal.same new.normal then []
  else diffHeader ++ changeLines current.normal new.normal

def diffUnreadable (failure : Json.Failure) : Traced (List String) :=
  let error := failure.message
  do
    Traced.emit (.unreadableDocument error)
    pure [error]

/-- The difference of two documents. The fault of an unreadable side is the only line, that of the
current side coming first. -/
def diff (current new : DocumentSource) : Traced (List String) :=
  match current.read, new.read with
  | .error failure, _ => diffUnreadable failure
  | .ok _, .error failure => diffUnreadable failure
  | .ok current, .ok new =>
    match diffValues current new with
    | [] => pure []
    | lines => do
      Traced.emit (.documentsDiffer (lines.length - diffHeader.length))
      pure lines

end AccessPolicy
