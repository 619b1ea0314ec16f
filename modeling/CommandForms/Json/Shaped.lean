import CommandForms.Json.Reader

/-!
# Reading JSON of a given shape

Readers that ask for a text, a truth value, a list or a record.  A value of another type is refused
behind it when it is a scalar and in front of it when it is a list or an object; a fault of the grammar
that comes first is reported first.
-/

namespace CommandForms.Json

def Number.found : Number → Found
  | .integer n _ => .integer n
  | .double d => .double d

/-- The fault of a value of another type than expected, in front of which space has been skipped. -/
def wrongType (expected : String) (cs : List Char) : Fault :=
  let behind (found : Found) (rest : List Char) : Fault :=
    .here (.mismatch (.wrongType found expected)) rest
  let word (found : Found) (letters rest : List Char) : Fault :=
    match readWord letters rest with
    | .ok ⟨rest', _⟩ => behind found rest'
    | .error fault => fault
  let number (negative : Bool) (digits : List Char) : Fault :=
    match readNumber negative digits with
    | .ok n => behind n.value.found n.rest
    | .error fault => fault
  match cs with
  | 'n' :: rest => word .null ['u', 'l', 'l'] rest
  | 't' :: rest => word (.bool true) ['r', 'u', 'e'] rest
  | 'f' :: rest => word (.bool false) ['a', 'l', 's', 'e'] rest
  | '"' :: rest =>
      match readStringTail [] rest with
      | .ok s => behind (.string s.value) s.rest
      | .error fault => fault
  | '-' :: rest => number true rest
  | '[' :: _ => behind .sequence cs
  | '\x7b' :: _ => behind .mapping cs
  | c :: _ => if isDigit c then number false cs else .next .expectedValue cs
  | [] => .here .endInValue []

/-- Reads the first character of a value that satisfies `accepts`, or refuses the value. -/
def readStart (expected : String) (accepts : Char → Bool) (cs : List Char) : Reading Char cs :=
  match afterSpace? cs with
  | none => .error (.here .endInValue [])
  | some start =>
      if accepts start.value then .ok start
      else .error (wrongType expected (start.value :: start.rest))

def readText (cs : List Char) : Reading String cs := do
  let start ← readStart "a string" (· = '"') cs
  let s ← readStringTail [] start.rest
  return start.after s

def readBool (cs : List Char) : Reading Bool cs := do
  let start ← readStart "a boolean" (fun c => c = 't' ∨ c = 'f') cs
  let value := start.value = 't'
  let ⟨rest, h⟩ ← readWord (if value then ['r', 'u', 'e'] else ['a', 'l', 's', 'e']) start.rest
  return ⟨value, rest, Nat.lt_of_le_of_lt h start.shorter⟩

/-- Reads null, or a value that `read` accepts. -/
def readOption {α : Type} (cs : List Char)
    (read : (ds : List Char) → ds.length ≤ cs.length → Reading α ds) : Reading (Option α) cs :=
  match afterSpace? cs with
  | some ⟨'n', rest, hlt⟩ => do
      let ⟨rest', h⟩ ← readWord ['u', 'l', 'l'] rest
      return ⟨none, rest', Text.length_lt_of_le_of_lt h hlt⟩
  | _ => do return (← read cs (Text.length_le_self cs)).map some

/-- The depth inside a list or an object that opens behind `opened`. -/
def enter (depth : Nat) (opener : Char) (rest : List Char) : Except Fault Nat :=
  match depth with
  | d + 2 => .ok (d + 1)
  | _ => .error (.next .tooDeep (opener :: rest))

def readList {α : Type} (depth : Nat) (read : Nat → (ds : List Char) → Reading α ds)
    (cs : List Char) : Reading (List α) cs := do
  let start ← readStart "a sequence" (· = '[') cs
  let inner ← enter depth '[' start.rest
  let items ← foldElements true [] start.rest fun items ds _ => do
    return (← read inner ds).map (· :: items)
  return start.after (items.map List.reverse)

def readTexts (depth : Nat) (cs : List Char) : Reading (List String) cs :=
  readList depth (fun _ => readText) cs

/-- Where reading an object breaks off for a mismatch: behind its closing brace when that comes next, and
in front of the next piece of text otherwise. -/
def breakOff {α : Type} (m : Mismatch) (cs : List Char) : Except Fault α :=
  match skipSpace cs with
  | '\x7d' :: rest => .error (.here (.mismatch m) rest)
  | rest => .error (.here (.mismatch m) rest)

/-- A mismatch found when all of a list or an object has been read. -/
def behind {α : Type} (rest : List Char) (result : Except Mismatch α) : Except Fault α :=
  result.mapError fun m => .here (.mismatch m) rest

end CommandForms.Json
