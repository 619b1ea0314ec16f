import CommandForms.Json.Value
import CommandForms.Numeral.Integer
import CommandForms.Schema.Basic

/-!
# Building schemas

Fresh schemas of each kind, and modifiers that refine them.  A modifier applies to some kinds only, and
is refused by the others.
-/

namespace CommandForms

open CommandForms.Json (Value)

/-- A modifier was applied to a kind of schema that it does not describe. -/
structure Misuse where
  modifier : String
  typeName : String
deriving Repr, DecidableEq

def Misuse.message (m : Misuse) : String :=
  m.modifier ++ " does not apply to a " ++ m.typeName ++ " field schema"

namespace Schema

/-- The label of a fresh schema, whose value must be given. -/
def freshLabel (name : String) : Label := ⟨name, true⟩

def ofString (name : String) : Schema := .string (freshLabel name) {}

def ofStringSet (name : String) : Schema := .stringSet (freshLabel name) {}

def ofInteger (name : String) : Schema := .integer (freshLabel name) {}

def ofBoolean (name : String) : Schema := .boolean (freshLabel name) none

def ofAspectMap (name : String) : Schema := .aspectMap (freshLabel name) {}

def ofObject (name : String) : Schema := .object (freshLabel name) []

def ofArray (name : String) (element : Schema) : Schema := .array (freshLabel name) element {}

def misuse (modifier : String) (s : Schema) : Except Misuse Schema :=
  .error ⟨modifier, s.typeName⟩

def optional (s : Schema) : Schema :=
  s.withLabel { s.label with required := false }

def withAutocomplete (s : Schema) (autocomplete : List String) : Except Misuse Schema :=
  match s with
  | .string label options => .ok (.string label { options with autocomplete })
  | .stringSet label options => .ok (.stringSet label { options with autocomplete })
  | s => s.misuse "with_autocomplete"

def withDelimiter (s : Schema) (pattern : String) : Except Misuse Schema :=
  match s with
  | .string label options => .ok (.string label { options with delimiter := some pattern })
  | .stringSet label options => .ok (.stringSet label { options with delimiter := some pattern })
  | s => s.misuse "with_delimiter"

def strict (s : Schema) : Except Misuse Schema :=
  match s with
  | .string label options => .ok (.string label { options with strict := true })
  | .stringSet label options => .ok (.stringSet label { options with strict := true })
  | s => s.misuse "strict"

def withMin (s : Schema) (min : Int64) : Except Misuse Schema :=
  match s with
  | .integer label options => .ok (.integer label { options with min := some min })
  | s => s.misuse "with_min"

def withMax (s : Schema) (max : Int64) : Except Misuse Schema :=
  match s with
  | .integer label options => .ok (.integer label { options with max := some max })
  | s => s.misuse "with_max"

/-- Bounds the members of a set, the keys of an aspect map or the length of an array. -/
def withCountBounds (s : Schema) (bounds : CountBounds) : Except Misuse Schema :=
  match s with
  | .stringSet label options => .ok (.stringSet label { options with count := bounds })
  | .aspectMap label _ => .ok (.aspectMap label bounds)
  | .array label element _ => .ok (.array label element bounds)
  | s => s.misuse "with_count_bounds"

def stringsOf (items : List Value) : List String :=
  items.filterMap fun
    | .string s => some s
    | _ => none

/-- Sets the default from a value of the field's type; of a list for a set only the strings count. -/
def withDefault (s : Schema) (value : Value) : Except Misuse Schema :=
  match s, value with
  | .string label options, .string text => .ok (.string label { options with default := some text })
  | .stringSet label options, .array items =>
      .ok (.stringSet label { options with default := some (stringsOf items) })
  | .integer label options, .number (.integer n _) =>
      match Numeral.int64? n with
      | some i => .ok (.integer label { options with default := some i })
      | none => s.misuse "with_default"
  | .boolean label _, .bool b => .ok (.boolean label (some b))
  | s, _ => s.misuse "with_default"

def withField (s : Schema) (key : String) (field : Schema) : Except Misuse Schema :=
  match s with
  | .object label fields => .ok (.object label (fields ++ [(key, field)]))
  | s => s.misuse "with_field"

end Schema

end CommandForms
