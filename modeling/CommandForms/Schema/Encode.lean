import CommandForms.Json.Printer
import CommandForms.Schema.Basic

/-!
# Schemas as JSON

The JSON form of a schema: the label, the tag of the kind, then the options of the kind in a fixed order.
Options that are not set are left out.
-/

namespace CommandForms.Schema

open CommandForms.Json (Value Number)

def textsJson (texts : List String) : Value :=
  .array (texts.map .string)

/-- A member that is there when its value is set. -/
def optionalMember {α : Type} (key : String) (json : α → Value) : Option α → List (String × Value)
  | none => []
  | some a => [(key, json a)]

def countJson (n : UInt64) : Value := .number (.ofUInt64 n)

def integerJson (n : Int64) : Value := .number (.ofInt64 n)

/-- The options to complete from; an empty list is left out. -/
def autocompleteMember (autocomplete : List String) : List (String × Value) :=
  if autocomplete.isEmpty then [] else [("autocomplete", textsJson autocomplete)]

/-- The bounds on a count, under the keys of their kind. -/
def boundsMembers (minKey maxKey : String) (bounds : CountBounds) : List (String × Value) :=
  optionalMember minKey countJson bounds.min ++ optionalMember maxKey countJson bounds.max

def stringMembers (options : StringOptions) : List (String × Value) :=
  autocompleteMember options.autocomplete ++ optionalMember "delimiter" Value.string options.delimiter ++
    [("strict", Value.bool options.strict)] ++ optionalMember "default" Value.string options.default

def stringSetMembers (options : StringSetOptions) : List (String × Value) :=
  autocompleteMember options.autocomplete ++ optionalMember "delimiter" Value.string options.delimiter ++
    [("strict", Value.bool options.strict)] ++ optionalMember "default" textsJson options.default ++
    boundsMembers "minCount" "maxCount" options.count

def integerMembers (options : IntegerOptions) : List (String × Value) :=
  optionalMember "min" integerJson options.min ++ optionalMember "max" integerJson options.max ++
    optionalMember "default" integerJson options.default

/-- A JSON object of a label, a tag and the options of the kind. -/
def labelled (label : Label) (tag : String) (options : List (String × Value)) : Value :=
  .object (("name", .string label.name) :: ("required", .bool label.required) ::
    ("type", .string tag) :: options)

mutual

def toJson : Schema → Value
  | .string label options => labelled label "string" (stringMembers options)
  | .stringSet label options => labelled label "stringSet" (stringSetMembers options)
  | .integer label options => labelled label "integer" (integerMembers options)
  | .boolean label default =>
      labelled label "boolean" (optionalMember "default" Value.bool default)
  | .aspectMap label keys =>
      labelled label "aspectMap" (boundsMembers "minDistinctKeys" "maxDistinctKeys" keys)
  | .object label fields => labelled label "object" [("fields", .array (fieldsJson fields))]
  | .array label element length =>
      labelled label "array"
        (("element", element.toJson) :: boundsMembers "minLength" "maxLength" length)

def fieldsJson : List (String × Schema) → List Value
  | [] => []
  | (key, schema) :: fields =>
      .object [("key", .string key), ("schema", schema.toJson)] :: fieldsJson fields

end

def text (s : Schema) : String :=
  s.toJson.text

end CommandForms.Schema
