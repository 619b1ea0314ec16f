import CommandForms.Numeral.Hex
import CommandForms.Pattern.Flags
import CommandForms.Pattern.Property.Name

/-!
# Escapes

What a backslash and the characters behind it stand for: a character, a set or an assertion.
-/

namespace CommandForms.Pattern

open CommandForms.Text (CodePoints)

inductive Escape
  | char (c : Char)
  | set (set : CodePoints)
  | assertion (a : Assertion)

def isHexDigit (c : Char) : Bool :=
  (Numeral.hexDigit? c).isSome

def hexChar? (digits : List Char) : Option Char := do
  if digits.isEmpty then none
  else
    let n ← Numeral.hexValue? digits
    if n.isValidChar then some (Char.ofNat n) else none

def readHexDigits? (flags : Flags) : (count : Nat) → List Char → Option (List Char × List Char)
  | 0, cs => some ([], cs)
  | count + 1, cs =>
      match flags.skip cs with
      | c :: rest =>
          if isHexDigit c then do
            let (digits, rest) ← readHexDigits? flags count rest
            return (c :: digits, rest)
          else none
      | [] => none

/-- Reads a hexadecimal escape of a fixed number of digits, or of any number between braces.  Two digits
write a byte, and outside Unicode text a byte above the seven-bit range is no character. -/
def readHexEscape? (flags : Flags) (count : Nat) (cs : List Char) : Option (Char × List Char) :=
  match flags.skip cs with
  | '\x7b' :: rest =>
      match flags.readWhile (· ≠ '\x7d') false rest with
      | (digits, _ :: rest) => do
          if digits.all isHexDigit then return (← hexChar? digits, rest) else none
      | (_, []) => none
  | cs => do
      let (digits, rest) ← readHexDigits? flags count cs
      let c ← hexChar? digits
      if count = 2 ∧ !flags.unicode ∧ 0x80 ≤ c.toNat then none else return (c, rest)

def splitAt? (test : Char → Bool) (cs : List Char) : Option (List Char × List Char) :=
  match cs.span fun c => !test c with
  | (_, []) => none
  | (front, _ :: rest) => some (front, rest)

def splitUnequal? : List Char → Option (List Char × List Char)
  | [] => none
  | '!' :: '=' :: rest => some ([], rest)
  | c :: cs => (splitUnequal? cs).map fun (front, rest) => (c :: front, rest)

/-- Reads what stands between the braces of a property: a name, or a name and a value with a sign between
them.  The answer also says whether the sign is the one that asks for every other value. -/
def readPropertySet? (cs : List Char) : Option (Bool × CodePoints) :=
  match splitUnequal? cs with
  | some (name, value) => do return (true, ← Property.ofValue? name value)
  | none => do
      let set ← match splitAt? (· == ':') cs with
        | some (name, value) => Property.ofValue? name value
        | none =>
            match splitAt? (· == '=') cs with
            | some (name, value) => Property.ofValue? name value
            | none => Property.ofName? cs
      return (false, set)

/-- Reads a property behind its escape letter; only Unicode text has properties.  A capital escape letter
and the sign that asks for other values cancel each other. -/
def readProperty? (flags : Flags) (negated : Bool) (cs : List Char) :
    Option (CodePoints × List Char) := do
  let ((unequal, set), rest) ← show Option ((Bool × CodePoints) × List Char) from
    match flags.skip cs with
    | '\x7b' :: rest =>
        match flags.readWhile (· ≠ '\x7d') false rest with
        | (name, _ :: rest) => do return (← readPropertySet? name, rest)
        | (_, []) => none
    | c :: rest => do return ((false, ← Property.ofName? [c]), rest)
    | [] => none
  if flags.unicode then return (← flags.signed? (negated != unequal) set, rest) else none

def wordBoundaries (unicode : Bool) : List (String × Assertion) :=
  [("start", .wordStart unicode), ("end", .wordEnd unicode),
    ("start-half", .wordStartHalf unicode), ("end-half", .wordEndHalf unicode)]

/-- Reads a word boundary behind its letter: plain, or with a name between braces.  Braces around anything
but a name are left to be a counted repetition. -/
def readWordBoundary? (flags : Flags) (cs : List Char) : Option (Escape × List Char) :=
  let isNameChar (c : Char) : Bool := c.isAlpha || c == '-'
  match cs with
  | '\x7b' :: rest =>
      match flags.skip rest with
      | [] => none
      | c :: rest =>
          if isNameChar c then
            match flags.readWhile isNameChar false (c :: rest) with
            | (name, '\x7d' :: rest) => do
                return (.assertion (← (wordBoundaries flags.unicode).lookup (String.ofList name)), rest)
            | _ => none
          else some (.assertion (.wordBoundary flags.unicode), cs)
  | cs => some (.assertion (.wordBoundary flags.unicode), cs)

/-- Characters that may be escaped although they need not be: all of ASCII but letters, digits and the
angle brackets. -/
def isEscapable (c : Char) : Bool :=
  c.toNat < 0x80 && !c.isAlphanum && c != '<' && c != '>'

/-- Reads an escape behind its backslash. -/
def readEscape? (flags : Flags) : List Char → Option (Escape × List Char)
  | [] => none
  | c :: rest =>
      let char (c : Char) : Option (Escape × List Char) := some (.char c, rest)
      let hex (count : Nat) : Option (Escape × List Char) :=
        (readHexEscape? flags count rest).map fun (c, rest) => (.char c, rest)
      let property (negated : Bool) : Option (Escape × List Char) :=
        (readProperty? flags negated rest).map fun (set, rest) => (.set set, rest)
      let positive (set : CodePoints) : Option (Escape × List Char) := some (.set set, rest)
      let negative (set : CodePoints) : Option (Escape × List Char) :=
        (flags.compl? set).map fun set => (.set set, rest)
      match c with
      | 'x' => hex 2
      | 'u' => hex 4
      | 'U' => hex 8
      | 'p' => property false
      | 'P' => property true
      | 'd' => positive (CharClass.digit flags.unicode)
      | 's' => positive (CharClass.space flags.unicode)
      | 'w' => positive (CharClass.word flags.unicode)
      | 'D' => negative (CharClass.digit flags.unicode)
      | 'S' => negative (CharClass.space flags.unicode)
      | 'W' => negative (CharClass.word flags.unicode)
      | 'a' => char '\x07'
      | 'f' => char '\x0c'
      | 't' => char '\t'
      | 'n' => char '\n'
      | 'r' => char '\r'
      | 'v' => char '\x0b'
      | 'A' => some (.assertion .textStart, rest)
      | 'z' => some (.assertion .textEnd, rest)
      | 'b' => readWordBoundary? flags rest
      | 'B' => some (.assertion (.notWordBoundary flags.unicode), rest)
      | '<' => some (.assertion (.wordStart flags.unicode), rest)
      | '>' => some (.assertion (.wordEnd flags.unicode), rest)
      | c => if isEscapable c then char c else none

end CommandForms.Pattern
