import CommandForms.Json.Shaped
import CommandForms.Schema.Decode

/-!
# Schemas from JSON texts

The outermost object of a schema is read as it comes: its name and its requirement where they stand, the
entries that belong to its kind as untyped data.  What is wrong with the kind is reported behind the
object.
-/

namespace CommandForms.Schema

open CommandForms.Json

def readOnce {α : Type} (field : String) (seen : Option α) (cs : List Char)
    (read : (ds : List Char) → Reading α ds) : Reading α cs := do
  if seen.isSome then breakOff (.duplicateField field) cs
  else
    let ⟨rest, h⟩ ← readColon cs
    return (← read rest).extend h

def read (depth : Nat) (cs : List Char) : Reading Schema cs := do
  let start ← readStart "struct FieldSchema" (· = '\x7b') cs
  let inner ← enter depth '\x7b' start.rest
  let draft ← foldMembers true ({} : Draft) start.rest fun draft key ds _ => do
    match key with
    | "name" =>
        return (← readOnce key draft.name ds readText).map fun name =>
          { draft with name := some name }
    | "required" =>
        return (← readOnce key draft.required ds readBool).map fun required =>
          { draft with required := some required }
    | key =>
        let ⟨rest, h⟩ ← readColon ds
        let value ← readValue inner rest
        let data := Data.ofJson value.value
        let entry : Entry := ⟨.text key, data, ofData data, fieldsOfData data⟩
        return (value.map fun _ => { draft with rest := entry :: draft.rest }).extend h
  let schema ← behind draft.rest draft.value.schema
  return start.after (draft.map fun _ => schema)

def parse (text : String) : Except ReadError Schema :=
  readAll (read depthLimit) text

end CommandForms.Schema
