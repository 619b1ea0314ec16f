import CommandForms.Schema.Decode
import CommandForms.Yaml.Shaped

/-!
# Schemas from YAML nodes

The outermost mapping of a schema is read as it stands: its name is any scalar, and the entries that
belong to its kind are untyped data, their values typed on their own.
-/

namespace CommandForms.Schema

open CommandForms.Yaml

def accepted {α : Type} : Except Mismatch α → Reader α
  | .ok a => return a
  | .error _ => failure

def Draft.addNode (depth : Nat) (draft : Draft) (entry : Node × Node) : Reader Draft := do
  match ← asText entry.1 with
  | "name" =>
      if draft.name.isSome then failure
      else return { draft with name := some (← asText entry.2) }
  | "required" =>
      if draft.required.isSome then failure
      else return { draft with required := some (← asBool entry.2) }
  | key =>
      let data ← asData depth entry.2
      return { draft with rest := ⟨.text key, data, ofData data, fieldsOfData data⟩ :: draft.rest }

def ofNode (depth : Nat) (node : Node) : Reader Schema := do
  let draft ← (← entriesOf node).foldlM (Draft.addNode (← inside depth)) {}
  accepted draft.schema

end CommandForms.Schema
