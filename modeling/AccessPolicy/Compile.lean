import AccessPolicy.Statement

/-!
# Policy documents and how they are compiled

A document is a list of statements under a version. Its text names the version first; a document
without statements has neither text nor value. A raw statement is read by the schema of its kind and
built from the fields.
-/

namespace AccessPolicy

-- ---------------------------------------------------------------------------
-- Documents
-- ---------------------------------------------------------------------------

def policyVersion : String := "2012-10-17"

structure Document where
  statements : List Statement

namespace Document

def empty : Document := ⟨[]⟩

def push (document : Document) (statement : Statement) : Document :=
  ⟨document.statements ++ [statement]⟩

def rendered (document : Document) : Traced (List Json) := do
  let statements ← Traced.each Statement.render document.statements
  pure (statements.map .obj)

/-- The members of a document, in the order in which its text has them. -/
def envelope (statements : List Json) : Entries Json :=
  [("Version", .str policyVersion), ("Statement", .arr statements)]

def render (document : Document) : Traced (Option String) :=
  if document.statements.isEmpty then pure none
  else do
    let statements ← document.rendered
    let text := (Json.obj (envelope statements)).pretty
    Traced.emit (.documentRendered document.statements.length text.utf8ByteSize)
    pure (some text)

def toJson (document : Document) : Traced (Option Json) :=
  if document.statements.isEmpty then pure none
  else do
    let statements ← document.rendered
    pure (some (Json.ofMembers (envelope statements)))

end Document

-- ---------------------------------------------------------------------------
-- Compiling
-- ---------------------------------------------------------------------------

def compileWith (schema : Schema) (kind : StatementKind) (context : Context) (raw : Json) :
    Traced Statement := do
  let fields ← schema.resolve context raw
  let statement ← Statement.ofFields kind fields
  pure statement

def compile (kind : StatementKind) (context : Context) (raw : Json) : Traced Statement := do
  let statement ← compileWith kind.schema kind context raw
  Traced.emit (.statementCompiled kind.tag context.owner.kind.tag context.owner.name)
  pure statement

def compileEntries (kind : StatementKind) (context : Context)
    (entries : List (Except PolicyError Json)) : Traced Document := do
  let compileEntry := fun (entry : Except PolicyError Json) => do
    let raw ← entry
    compile kind context raw
  let statements ← Traced.each compileEntry entries
  pure ⟨statements⟩

def compileDocument (kind : StatementKind) (context : Context) (raws : List Json) :
    Traced Document := do
  let statements ← Traced.each (compile kind context) raws
  pure ⟨statements⟩

end AccessPolicy
