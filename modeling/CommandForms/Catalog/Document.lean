import CommandForms.Schema.Basic

/-!
# Catalog documents

What a catalog document declares: the aspect names of a deployment, and its commands with the schemas of
their arguments.  Nothing is checked here; a document that is admitted becomes a `Catalog`.
-/

namespace CommandForms

/-- A command: its name, what it does, and the schema of its arguments. -/
structure Command where
  name : String
  description : Option String := none
  schema : Schema
deriving Repr, Inhabited

namespace Catalog

structure Document where
  version : String := "1.0"
  aspects : List String := []
  commands : List Command := []
deriving Repr, Inhabited

end Catalog

/-- A command while its fields are read. -/
structure Command.Draft where
  name : Option String := none
  description : Option String := none
  schema : Option Schema := none

namespace Command

def fields : List String := ["name", "description", "schema"]

/-- The command of a draft, or the name of a field that has not been given. -/
def Draft.command (draft : Draft) : Except String Command :=
  match draft.name, draft.schema with
  | none, _ => .error "name"
  | some _, none => .error "schema"
  | some name, some schema => .ok ⟨name, draft.description, schema⟩

end Command

/-- The fields of a catalog document, in order. -/
def Catalog.Document.fields : List String := ["version", "aspects", "commands"]

end CommandForms
