import CommandForms.Json.Value
import CommandForms.Mismatch

/-!
# Untyped data

What a document says before a shape is asked of it: scalars with the type they have on their own,
sequences, and mappings whose keys may be any data and whose entries stand in the document's order.
-/

namespace CommandForms

open CommandForms.Numeral (Double int64? uint64?)

/-- Untyped data.  A zero written with a minus sign is an integer, but it does not count anything. -/
inductive Data
  | null
  | bool (b : Bool)
  | integer (n : Int)
  | minusZero
  | double (d : Double)
  | notFinite
  | text (s : String)
  | sequence (items : List Data)
  | mapping (entries : List (Data × Data))
deriving Inhabited

namespace Data

mutual

def ofJson : Json.Value → Data
  | .null => .null
  | .bool b => .bool b
  | .number (.integer n _) => .integer n
  | .number (.double d) => .double d
  | .string s => .text s
  | .array items => .sequence (ofJsonItems items)
  | .object members => .mapping (ofJsonMembers members)

def ofJsonItems : List Json.Value → List Data
  | [] => []
  | item :: items => ofJson item :: ofJsonItems items

def ofJsonMembers : List (String × Json.Value) → List (Data × Data)
  | [] => []
  | (key, value) :: members => (.text key, ofJson value) :: ofJsonMembers members

end

/-- How data is described where something else was expected. -/
def found : Data → Found
  | .null => .null
  | .bool b => .bool b
  | .integer n => .integer n
  | .minusZero => .integer 0
  | .double d => .double d
  | .notFinite => .double Double.zero
  | .text s => .string s
  | .sequence _ => .sequence
  | .mapping _ => .mapping

def wrongType {α : Type} (d : Data) (expected : String) : Except Mismatch α :=
  .error (.wrongType d.found expected)

/-! ## Scalars of a given type -/

def asText : Data → Except Mismatch String
  | .text s => .ok s
  | d => d.wrongType "a string"

def asBool : Data → Except Mismatch Bool
  | .bool b => .ok b
  | d => d.wrongType "a boolean"

def asUInt64 : Data → Except Mismatch UInt64
  | .integer n =>
      match uint64? n with
      | some u => .ok u
      | none => .error (.wrongValue (.integer n) "usize")
  | .minusZero => .ok 0
  | d => d.wrongType "usize"

def asInt64 : Data → Except Mismatch Int64
  | .integer n =>
      match int64? n with
      | some i => .ok i
      | none => .error (.wrongValue (.integer n) "i64")
  | .minusZero => .ok 0
  | d => d.wrongType "i64"

def asOption {α : Type} (read : Data → Except Mismatch α) : Data → Except Mismatch (Option α)
  | .null => .ok none
  | d => (read d).map some

def asTexts : Data → Except Mismatch (List String)
  | .sequence items => items.mapM asText
  | d => d.wrongType "a sequence"

/-! ## Keys -/

/-- A key of a record: a name, or the place of a field in the record's declaration. -/
inductive Key
  | name (s : String)
  | place (n : Nat)
deriving Repr, DecidableEq

def asKey : Data → Except Mismatch Key
  | .text s => .ok (.name s)
  | .integer n => if 0 ≤ n then .ok (.place n.toNat) else wrongType (.integer n) "field identifier"
  | d => d.wrongType "field identifier"

/-- The field that a key means among declared ones; other keys mean none. -/
def Key.field? (fields : List String) : Key → Option String
  | .name s => if fields.contains s then some s else none
  | .place n => fields[n]?

end Data

end CommandForms
