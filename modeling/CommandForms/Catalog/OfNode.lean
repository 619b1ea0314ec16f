import CommandForms.Catalog.Document
import CommandForms.Schema.OfNode

/-!
# Catalog documents from YAML nodes

Commands and catalog documents are mappings.  Texts may be written as any scalar.
-/

namespace CommandForms

open CommandForms.Yaml

namespace Command

def ofNode (depth : Nat) (node : Node) : Reader Command := do
  let draft ← asRecord fields set {} depth node
  match draft.command with
  | .ok command => return command
  | .error _ => failure
where
  /-- Reads the value of one field. -/
  set (depth : Nat) (draft : Draft) (field : String) (node : Node) : Reader Draft := do
    match field with
    | "name" => return { draft with name := some (← asText node) }
    | "description" => return { draft with description := ← asOptionalText node }
    | _ => return { draft with schema := some (← Schema.ofNode depth node) }

end Command

namespace Catalog.Document

def ofNode (depth : Nat) (node : Node) : Reader Document :=
  asRecord fields set {} depth node
where
  /-- Reads the value of one field. -/
  set (depth : Nat) (document : Document) (field : String) (node : Node) : Reader Document := do
    match field with
    | "version" => return { document with version := ← asText node }
    | "aspects" => return { document with aspects := ← asTexts depth node }
    | _ => return { document with commands := ← asList depth Command.ofNode node }

def ofYaml? (text : String) : Option Document :=
  readDocument? ofNode text

end Catalog.Document

end CommandForms
