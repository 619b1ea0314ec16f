import CommandForms.Numeral.Shortest
import CommandForms.Numeral.Integer
import CommandForms.Text.Quoted

/-!
# Mismatches

What is wrong with a well-formed document that does not have the shape its reader expects, and the text
that says so.
-/

namespace CommandForms

open CommandForms.Numeral (Double integerText)

/-- What a reader found where it expected something else. -/
inductive Found
  | null
  | bool (b : Bool)
  | integer (n : Int)
  | double (d : Double)
  | string (s : String)
  | sequence
  | mapping
deriving Repr, DecidableEq

def Found.message : Found → String
  | .null => "null"
  | .bool b => "boolean `" ++ (if b then "true" else "false") ++ "`"
  | .integer n => "integer `" ++ integerText n ++ "`"
  | .double d => "floating point `" ++ String.ofList d.text ++ "`"
  | .string s => "string " ++ Text.quoted s
  | .sequence => "sequence"
  | .mapping => "map"

/-- A difference between a document and the expected shape. -/
inductive Mismatch
  | missingField (field : String)
  | duplicateField (field : String)
  | unknownVariant (found : String) (expected : List String)
  | wrongType (found : Found) (expected : String)
  | wrongValue (found : Found) (expected : String)
  | wrongLength (found : Nat) (expected : String)
deriving Repr, DecidableEq

def Mismatch.message : Mismatch → String
  | .missingField field => "missing field `" ++ field ++ "`"
  | .duplicateField field => "duplicate field `" ++ field ++ "`"
  | .unknownVariant found expected =>
      "unknown variant `" ++ found ++ "`, expected one of " ++
        ", ".intercalate (expected.map fun variant => "`" ++ variant ++ "`")
  | .wrongType found expected => "invalid type: " ++ found.message ++ ", expected " ++ expected
  | .wrongValue found expected => "invalid value: " ++ found.message ++ ", expected " ++ expected
  | .wrongLength found expected =>
      "invalid length " ++ integerText found ++ ", expected " ++ expected

end CommandForms
