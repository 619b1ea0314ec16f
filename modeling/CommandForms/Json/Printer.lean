import CommandForms.Json.Value
import CommandForms.Numeral.Integer

/-!
# Written JSON

Three ways to write a value: the compact text, the indented text of a report, and the one-line rendering
that a prompt shows, where strings stand without quotes.
-/

namespace CommandForms.Json

open CommandForms.Numeral (integerChars)

/-! ## Leaves -/

def escapedChar (c : Char) : List Char :=
  if c = '"' ∨ c = '\\' then ['\\', c]
  else if c = '\x08' then ['\\', 'b']
  else if c = '\t' then ['\\', 't']
  else if c = '\n' then ['\\', 'n']
  else if c = '\x0c' then ['\\', 'f']
  else if c = '\r' then ['\\', 'r']
  else if c.toNat < 0x20 then
    ['\\', 'u', '0', '0', Nat.digitChar (c.toNat / 16), Nat.digitChar (c.toNat % 16)]
  else [c]

def stringChars (s : String) : List Char :=
  '"' :: s.toList.flatMap escapedChar ++ ['"']

def Number.chars : Number → List Char
  | .integer n _ => integerChars n
  | .double d => d.text

namespace Value

/-! ## Compact text -/

mutual

def chars : Value → List Char
  | .null => ['n', 'u', 'l', 'l']
  | .bool true => ['t', 'r', 'u', 'e']
  | .bool false => ['f', 'a', 'l', 's', 'e']
  | .number n => n.chars
  | .string s => stringChars s
  | .array items => '[' :: itemsChars items ++ [']']
  | .object members => '\x7b' :: membersChars members ++ ['\x7d']

/-- The compact texts of items, with commas between them. -/
def itemsChars : List Value → List Char
  | [] => []
  | [item] => item.chars
  | item :: items => item.chars ++ ',' :: itemsChars items

/-- The compact texts of members, with commas between them. -/
def membersChars : List (String × Value) → List Char
  | [] => []
  | [(key, value)] => stringChars key ++ ':' :: value.chars
  | (key, value) :: members =>
      stringChars key ++ ':' :: value.chars ++ ',' :: membersChars members

end

def text (value : Value) : String :=
  String.ofList value.chars

/-! ## Indented text -/

def lineBreak (depth : Nat) : List Char :=
  '\n' :: List.replicate (2 * depth) ' '

mutual

def indentedChars (depth : Nat) : Value → List Char
  | .array (item :: items) =>
      '[' :: lineBreak (depth + 1) ++ indentedItems (depth + 1) (item :: items) ++
        lineBreak depth ++ [']']
  | .object (member :: members) =>
      '\x7b' :: lineBreak (depth + 1) ++ indentedMembers (depth + 1) (member :: members) ++
        lineBreak depth ++ ['\x7d']
  | value => value.chars

def indentedItems (depth : Nat) : List Value → List Char
  | [] => []
  | [item] => item.indentedChars depth
  | item :: items => item.indentedChars depth ++ ',' :: lineBreak depth ++ indentedItems depth items

def indentedMembers (depth : Nat) : List (String × Value) → List Char
  | [] => []
  | [(key, value)] => stringChars key ++ ':' :: ' ' :: value.indentedChars depth
  | (key, value) :: members =>
      stringChars key ++ ':' :: ' ' :: value.indentedChars depth ++ ',' :: lineBreak depth ++
        indentedMembers depth members

end

def indentedText (value : Value) : String :=
  String.ofList (value.indentedChars 0)

/-! ## Rendering -/

mutual

/-- The rendering of a value on one line: a dash for null, yes and no for the truth values, and strings
as they are. -/
def renderChars : Value → List Char
  | .null => ['-']
  | .bool true => ['y', 'e', 's']
  | .bool false => ['n', 'o']
  | .number n => n.chars
  | .string s => s.toList
  | .array items => '[' :: renderItems items ++ [']']
  | .object members => '\x7b' :: renderMembers members ++ ['\x7d']

/-- The renderings of items, with commas between them. -/
def renderItems : List Value → List Char
  | [] => []
  | [item] => item.renderChars
  | item :: items => item.renderChars ++ ',' :: ' ' :: renderItems items

/-- The renderings of members, with commas between them. -/
def renderMembers : List (String × Value) → List Char
  | [] => []
  | [(key, value)] => key.toList ++ ':' :: ' ' :: value.renderChars
  | (key, value) :: members =>
      key.toList ++ ':' :: ' ' :: value.renderChars ++ ',' :: ' ' :: renderMembers members

end

def render (value : Value) : String :=
  String.ofList value.renderChars

end Value

end CommandForms.Json
