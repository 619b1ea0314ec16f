/-!
# Schemas

The shape and the constraints of one field of a command's arguments.  A schema has a label and is of one
of seven kinds; object schemas hold the schemas of their keys in declaration order, and an array schema
holds the schema of its elements.
-/

namespace CommandForms

/-- What every field has: the name that prompts show, and whether a value must be given. -/
structure Label where
  name : String
  required : Bool
deriving Repr, DecidableEq, Inhabited

structure StringOptions where
  autocomplete : List String := []
  delimiter : Option String := none
  strict : Bool := false
  default : Option String := none
deriving Repr, DecidableEq, Inhabited

structure CountBounds where
  min : Option UInt64 := none
  max : Option UInt64 := none
deriving Repr, DecidableEq, Inhabited

structure StringSetOptions where
  autocomplete : List String := []
  delimiter : Option String := none
  strict : Bool := false
  default : Option (List String) := none
  count : CountBounds := {}
deriving Repr, DecidableEq, Inhabited

structure IntegerOptions where
  min : Option Int64 := none
  max : Option Int64 := none
  default : Option Int64 := none
deriving Repr, DecidableEq, Inhabited

inductive Schema
  | string (label : Label) (options : StringOptions)
  | stringSet (label : Label) (options : StringSetOptions)
  | integer (label : Label) (options : IntegerOptions)
  | boolean (label : Label) (default : Option Bool)
  | aspectMap (label : Label) (keys : CountBounds)
  | object (label : Label) (fields : List (String × Schema))
  | array (label : Label) (element : Schema) (length : CountBounds)
deriving Repr, Inhabited

namespace IntegerOptions

def contains (options : IntegerOptions) (n : Int) : Bool :=
  options.min.all (·.toInt ≤ n) && options.max.all (n ≤ ·.toInt)

end IntegerOptions

namespace CountBounds

def least (bounds : CountBounds) : Nat :=
  (bounds.min.map UInt64.toNat).getD 0

def most (bounds : CountBounds) : Nat :=
  (bounds.max.map UInt64.toNat).getD 18446744073709551615

def leavesRoom (bounds : CountBounds) (count : Nat) : Bool :=
  bounds.max.all (count < ·.toNat)

end CountBounds

namespace Schema

def label : Schema → Label
  | .string label _ | .stringSet label _ | .integer label _ | .boolean label _ | .aspectMap label _
  | .object label _ | .array label _ _ => label

def name (s : Schema) : String := s.label.name

def required (s : Schema) : Bool := s.label.required

/-- The tags of the seven kinds, in order. -/
def typeNames : List String :=
  ["string", "stringSet", "integer", "boolean", "aspectMap", "object", "array"]

def typeName : Schema → String
  | .string .. => "string"
  | .stringSet .. => "stringSet"
  | .integer .. => "integer"
  | .boolean .. => "boolean"
  | .aspectMap .. => "aspectMap"
  | .object .. => "object"
  | .array .. => "array"

def withLabel (s : Schema) (label : Label) : Schema :=
  match s with
  | .string _ options => .string label options
  | .stringSet _ options => .stringSet label options
  | .integer _ options => .integer label options
  | .boolean _ default => .boolean label default
  | .aspectMap _ keys => .aspectMap label keys
  | .object _ fields => .object label fields
  | .array _ element length => .array label element length

end Schema

end CommandForms
