import CommandForms.Catalog.Document
import CommandForms.Schema.Encode

/-!
# Catalog documents as JSON

The JSON forms of commands and of catalog documents: their fields in order, a description only when
there is one.
-/

namespace CommandForms

open CommandForms.Json (Value)
open CommandForms.Schema (textsJson optionalMember)

namespace Command

def toJson (command : Command) : Value :=
  .object ([("name", .string command.name)] ++
    optionalMember "description" Value.string command.description ++
    [("schema", command.schema.toJson)])

def text (command : Command) : String :=
  command.toJson.text

end Command

namespace Catalog.Document

def toJson (document : Document) : Value :=
  .object [("version", .string document.version), ("aspects", textsJson document.aspects),
    ("commands", .array (document.commands.map Command.toJson))]

def text (document : Document) : String :=
  document.toJson.text

end Catalog.Document

end CommandForms
