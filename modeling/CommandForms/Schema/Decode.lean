import CommandForms.Data
import CommandForms.Schema.Basic

/-!
# Schemas from data

Reading a schema from untyped data.  The label is read entry by entry; the tag of the kind and the
options of the kind are read from the entries left over.  Every entry carries the two readings that its
value may be asked for, so that the recursion follows the data.
-/

namespace CommandForms.Schema

open CommandForms.Data (Key)

/-- An entry of a record: its key, its value, and what the value is as a schema and as a list of
fields. -/
structure Entry where
  key : Data
  value : Data
  schema : Except Mismatch Schema
  fields : Except Mismatch (List (String × Schema))

def once {α : Type} (field : String) (seen : Option α) (read : Except Mismatch α) :
    Except Mismatch (Option α) :=
  match seen with
  | some _ => .error (.duplicateField field)
  | none => read.map some

def given {α : Type} (field : String) : Option α → Except Mismatch α
  | some a => .ok a
  | none => .error (.missingField field)

/-! ## The label -/

/-- What is known of a schema while its entries are read: the parts of its label, and the entries that
belong to its kind, the last one first. -/
structure Draft where
  name : Option String := none
  required : Option Bool := none
  rest : List Entry := []

def Draft.add (draft : Draft) (entry : Entry) : Except Mismatch Draft := do
  match ← entry.key.asKey with
  | .name "name" => return { draft with name := ← once "name" draft.name entry.value.asText }
  | .name "required" =>
      return { draft with required := ← once "required" draft.required entry.value.asBool }
  | _ => return { draft with rest := entry :: draft.rest }

/-- The label of a draft; a value must be given unless the draft says otherwise. -/
def Draft.label (draft : Draft) : Except Mismatch Label := do
  return ⟨← given "name" draft.name, draft.required.getD true⟩

/-! ## The tag -/

/-- The tag that data names, or counts from zero. -/
def tagOf (d : Data) : Except Mismatch String :=
  match d with
  | .text s => if typeNames.contains s then .ok s else .error (.unknownVariant s typeNames)
  | .integer n =>
      if n < 0 then d.wrongType "variant identifier"
      else
        match typeNames[n.toNat]? with
        | some tag => .ok tag
        | none => .error (.wrongValue (.integer n) "variant index 0 <= i < 7")
  | d => d.wrongType "variant identifier"

/-- The tag of the kind, and the entries without it. -/
def splitTag : Option String → List Entry → Except Mismatch (Option String × List Entry)
  | tag, [] => .ok (tag, [])
  | tag, entry :: entries =>
      match entry.key with
      | .text "type" => do splitTag (← once "type" tag (tagOf entry.value)) entries
      | _ => do
          let (tag, rest) ← splitTag tag entries
          return (tag, entry :: rest)

/-! ## The options of the kinds -/

/-- Reads the entries of a record into its options; `set` takes a declared field, and other entries are
passed over. -/
def readOptions {σ : Type} (fields : List String) (set : σ → String → Entry → Except Mismatch σ) :
    σ → List Entry → Except Mismatch σ
  | state, [] => .ok state
  | state, entry :: entries => do
      match (← entry.key.asKey).field? fields with
      | some field => readOptions fields set (← set state field entry) entries
      | none => readOptions fields set state entries

/-- The options of a string field while they are read. -/
structure StringDraft where
  autocomplete : Option (List String) := none
  delimiter : Option (Option String) := none
  strict : Option Bool := none
  default : Option (Option String) := none

def readString (entries : List Entry) : Except Mismatch StringOptions := do
  let draft ← readOptions ["autocomplete", "delimiter", "strict", "default"] set {} entries
  return {
    autocomplete := draft.autocomplete.getD []
    delimiter := draft.delimiter.getD none
    strict := draft.strict.getD false
    default := draft.default.getD none }
where
  /-- Takes one option. -/
  set (draft : StringDraft) (field : String) (entry : Entry) : Except Mismatch StringDraft :=
    match field with
    | "autocomplete" => do
        return { draft with autocomplete := ← once field draft.autocomplete entry.value.asTexts }
    | "delimiter" => do
        return { draft with
          delimiter := ← once field draft.delimiter (entry.value.asOption Data.asText) }
    | "strict" => do return { draft with strict := ← once field draft.strict entry.value.asBool }
    | _ => do
        return { draft with default := ← once field draft.default (entry.value.asOption Data.asText) }

structure BoundsDraft where
  min : Option (Option UInt64) := none
  max : Option (Option UInt64) := none

namespace BoundsDraft

def setMin (draft : BoundsDraft) (field : String) (entry : Entry) : Except Mismatch BoundsDraft := do
  return { draft with min := ← once field draft.min (entry.value.asOption Data.asUInt64) }

def setMax (draft : BoundsDraft) (field : String) (entry : Entry) : Except Mismatch BoundsDraft := do
  return { draft with max := ← once field draft.max (entry.value.asOption Data.asUInt64) }

def bounds (draft : BoundsDraft) : CountBounds :=
  ⟨draft.min.getD none, draft.max.getD none⟩

end BoundsDraft

/-- The options of a string-set field while they are read. -/
structure StringSetDraft where
  autocomplete : Option (List String) := none
  delimiter : Option (Option String) := none
  strict : Option Bool := none
  default : Option (Option (List String)) := none
  count : BoundsDraft := {}

def readStringSet (entries : List Entry) : Except Mismatch StringSetOptions := do
  let draft ← readOptions
    ["autocomplete", "delimiter", "strict", "default", "minCount", "maxCount"] set {} entries
  return {
    autocomplete := draft.autocomplete.getD []
    delimiter := draft.delimiter.getD none
    strict := draft.strict.getD false
    default := draft.default.getD none
    count := draft.count.bounds }
where
  /-- Takes one option. -/
  set (draft : StringSetDraft) (field : String) (entry : Entry) :
      Except Mismatch StringSetDraft :=
    match field with
    | "autocomplete" => do
        return { draft with autocomplete := ← once field draft.autocomplete entry.value.asTexts }
    | "delimiter" => do
        return { draft with
          delimiter := ← once field draft.delimiter (entry.value.asOption Data.asText) }
    | "strict" => do return { draft with strict := ← once field draft.strict entry.value.asBool }
    | "default" => do
        return { draft with
          default := ← once field draft.default (entry.value.asOption Data.asTexts) }
    | "minCount" => do return { draft with count := ← draft.count.setMin field entry }
    | _ => do return { draft with count := ← draft.count.setMax field entry }

/-- The options of an integer field while they are read. -/
structure IntegerDraft where
  min : Option (Option Int64) := none
  max : Option (Option Int64) := none
  default : Option (Option Int64) := none

def readInteger (entries : List Entry) : Except Mismatch IntegerOptions := do
  let draft ← readOptions ["min", "max", "default"] set {} entries
  return ⟨draft.min.getD none, draft.max.getD none, draft.default.getD none⟩
where
  /-- Takes one option. -/
  set (draft : IntegerDraft) (field : String) (entry : Entry) : Except Mismatch IntegerDraft :=
    let bound := entry.value.asOption Data.asInt64
    match field with
    | "min" => do return { draft with min := ← once field draft.min bound }
    | "max" => do return { draft with max := ← once field draft.max bound }
    | _ => do return { draft with default := ← once field draft.default bound }

def readBoolean (entries : List Entry) : Except Mismatch (Option Bool) := do
  let default ← readOptions ["default"]
    (fun (seen : Option (Option Bool)) field entry =>
      once field seen (entry.value.asOption Data.asBool)) none entries
  return default.getD none

def readBounds (minKey maxKey : String) (entries : List Entry) : Except Mismatch CountBounds := do
  let draft ← readOptions [minKey, maxKey]
    (fun (draft : BoundsDraft) field entry =>
      if field = minKey then draft.setMin field entry else draft.setMax field entry) {} entries
  return draft.bounds

def readObject (entries : List Entry) : Except Mismatch (List (String × Schema)) := do
  let fields ← readOptions ["fields"]
    (fun (seen : Option (List (String × Schema))) field entry => once field seen entry.fields)
    none entries
  return fields.getD []

/-- The options of an array field while they are read. -/
structure ArrayDraft where
  element : Option Schema := none
  length : BoundsDraft := {}

def readArray (entries : List Entry) : Except Mismatch (Schema × CountBounds) := do
  let draft ← readOptions ["element", "minLength", "maxLength"] set {} entries
  return (← given "element" draft.element, draft.length.bounds)
where
  /-- Takes one option. -/
  set (draft : ArrayDraft) (field : String) (entry : Entry) : Except Mismatch ArrayDraft :=
    match field with
    | "element" => do return { draft with element := ← once field draft.element entry.schema }
    | "minLength" => do return { draft with length := ← draft.length.setMin field entry }
    | _ => do return { draft with length := ← draft.length.setMax field entry }

/-! ## Records -/

def ofKindEntries (label : Label) (entries : List Entry) : Except Mismatch Schema := do
  let (tag, entries) ← splitTag none entries
  match ← given "type" tag with
  | "string" => return .string label (← readString entries)
  | "stringSet" => return .stringSet label (← readStringSet entries)
  | "integer" => return .integer label (← readInteger entries)
  | "boolean" => return .boolean label (← readBoolean entries)
  | "aspectMap" => return .aspectMap label (← readBounds "minDistinctKeys" "maxDistinctKeys" entries)
  | "object" => return .object label (← readObject entries)
  | _ =>
      let (element, length) ← readArray entries
      return .array label element length

def Draft.schema (draft : Draft) : Except Mismatch Schema := do
  ofKindEntries (← draft.label) draft.rest.reverse

def ofEntries (entries : List Entry) : Except Mismatch Schema := do
  (← entries.foldlM Draft.add {}).schema

/-- A field of an object while it is read. -/
structure FieldDraft where
  key : Option String := none
  schema : Option Schema := none

def fieldOfEntries (entries : List Entry) : Except Mismatch (String × Schema) := do
  let draft ← readOptions ["key", "schema"] set {} entries
  return (← given "key" draft.key, ← given "schema" draft.schema)
where
  /-- Takes one part. -/
  set (draft : FieldDraft) (field : String) (entry : Entry) : Except Mismatch FieldDraft :=
    match field with
    | "key" => do return { draft with key := ← once field draft.key entry.value.asText }
    | _ => do return { draft with schema := ← once field draft.schema entry.schema }

/-- The field that a sequence of a key and a schema writes; `tail` is what follows the key, as
schemas. -/
def fieldOfSequence : Option (Except Mismatch String) → List (Except Mismatch Schema) →
    Except Mismatch (String × Schema)
  | none, _ => .error (.wrongLength 0 "struct ObjectField with 2 elements")
  | some key, tail => do
      let key ← key
      match tail with
      | [] => throw (.wrongLength 1 "struct ObjectField with 2 elements")
      | schema :: more =>
          let schema ← schema
          if more.isEmpty then return (key, schema)
          else throw (.wrongLength (2 + more.length) "2 elements in sequence")

mutual

def ofData : Data → Except Mismatch Schema
  | .mapping entries => ofEntries (readEntries entries)
  | d => d.wrongType "struct FieldSchema"

def readEntries : List (Data × Data) → List Entry
  | [] => []
  | (key, value) :: entries =>
      ⟨key, value, ofData value, fieldsOfData value⟩ :: readEntries entries

def fieldsOfData : Data → Except Mismatch (List (String × Schema))
  | .sequence items => fieldsOfItems items
  | d => d.wrongType "a sequence"

def fieldsOfItems : List Data → Except Mismatch (List (String × Schema))
  | [] => .ok []
  | item :: items => do
      let field ← fieldOfData item
      return field :: (← fieldsOfItems items)

def fieldOfData : Data → Except Mismatch (String × Schema)
  | .mapping entries => fieldOfEntries (readEntries entries)
  | .sequence [] => fieldOfSequence none []
  | .sequence (key :: tail) => fieldOfSequence (some key.asText) (schemasOfItems tail)
  | d => d.wrongType "struct ObjectField"

def schemasOfItems : List Data → List (Except Mismatch Schema)
  | [] => []
  | item :: items => ofData item :: schemasOfItems items

end

/-- The schema that a JSON value describes; its objects are read in normal form. -/
def ofJson (value : Json.Value) : Except Mismatch Schema :=
  ofData (.ofJson value.normalize)

end CommandForms.Schema

namespace CommandForms.IntegerOptions

/-- The integer options that a JSON value describes: a record, or a list of the three options. -/
def ofJson (value : Json.Value) : Except Mismatch IntegerOptions :=
  match Data.ofJson value.normalize with
  | .mapping entries => Schema.readInteger (Schema.readEntries entries)
  | .sequence items => do
      let options ← items.take 3 |>.mapM (Data.asOption Data.asInt64)
      if 3 < items.length then throw (.wrongLength items.length "fewer elements in array")
      else return ⟨(options[0]?).join, (options[1]?).join, (options[2]?).join⟩
  | d => d.wrongType "struct IntegerOptions"

end CommandForms.IntegerOptions
