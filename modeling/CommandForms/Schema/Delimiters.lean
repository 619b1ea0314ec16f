import CommandForms.Pattern.Delimiter
import CommandForms.Schema.Basic

/-!
# Delimiters of a schema

The check that every delimiter pattern in a schema is well formed, and the list of those patterns in the
order in which the check meets them.
-/

namespace CommandForms.Schema

def checkPattern : Option String → Except BadDelimiter Unit
  | none => .ok ()
  | some pattern => (Delimiter.ofPattern pattern).map fun _ => ()

mutual

def checkDelimiters : Schema → Except BadDelimiter Unit
  | .string _ options => checkPattern options.delimiter
  | .stringSet _ options => checkPattern options.delimiter
  | .integer .. | .boolean .. | .aspectMap .. => .ok ()
  | .object _ fields => checkFieldDelimiters fields
  | .array _ element _ => element.checkDelimiters

def checkFieldDelimiters : List (String × Schema) → Except BadDelimiter Unit
  | [] => .ok ()
  | (_, schema) :: fields => do
      schema.checkDelimiters
      checkFieldDelimiters fields

end

mutual

/-- The delimiter patterns of a schema and of the schemas inside it, in declaration order. -/
def delimiters : Schema → List String
  | .string _ options => options.delimiter.toList
  | .stringSet _ options => options.delimiter.toList
  | .integer .. | .boolean .. | .aspectMap .. => []
  | .object _ fields => fieldDelimiters fields
  | .array _ element _ => element.delimiters

def fieldDelimiters : List (String × Schema) → List String
  | [] => []
  | (_, schema) :: fields => schema.delimiters ++ fieldDelimiters fields

end

end CommandForms.Schema
