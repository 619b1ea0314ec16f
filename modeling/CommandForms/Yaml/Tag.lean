import CommandForms.Numeral.Hex
import CommandForms.Yaml.Scalar
import CommandForms.Yaml.Token

/-!
# Tags and directives

How tags, the handles that shorten them, and the directives in front of a document are read.  A tag is
read as bytes and ends at the first zero among them.
-/

namespace CommandForms.Yaml

open CommandForms.Numeral (hexValue?)

/-- Whether a character may stand in a tag.  Inside of angle brackets the marks of flow sequences may, too. -/
def isTagChar (bracketed : Bool) (c : Char) : Bool :=
  isNameChar c || [';', '/', '?', ':', '@', '&', '=', '+', '$', '.', '!', '~', '*', '\'', '(', ')'].contains c ||
    (bracketed && (c == ',' || c == '[' || c == ']'))

def readByte (cs : List Char) : Option (UInt8 × { rest : List Char // rest.length < cs.length }) :=
  match cs with
  | '%' :: a :: b :: rest => do
      return (UInt8.ofNat (← hexValue? [a, b]), ⟨rest, by simp only [List.length_cons]; omega⟩)
  | _ => none

/-- How many bytes follow the first byte of a character. -/
def furtherBytes? (byte : UInt8) : Option Nat :=
  if byte < 0x80 then some 0
  else if byte / 32 = 6 then some 1
  else if byte / 16 = 14 then some 2
  else if byte / 8 = 30 then some 3
  else none

/-- Reads the further bytes of a character. -/
def readFurtherBytes : (count : Nat) → (cs : List Char) →
    Option (List UInt8 × { rest : List Char // rest.length ≤ cs.length })
  | 0, cs => some ([], ⟨cs, Nat.le_refl _⟩)
  | count + 1, cs => do
      let (byte, ⟨rest, h⟩) ← readByte cs
      if byte / 64 = 2 then
        let (bytes, ⟨rest', h'⟩) ← readFurtherBytes count rest
        return (byte :: bytes, ⟨rest', by omega⟩)
      else none

/-- Reads as many bytes behind per-cent signs as the first one asks for.  They need not form a
character. -/
def readBytes (cs : List Char) : Option (List UInt8 × { rest : List Char // rest.length < cs.length }) := do
  let (byte, ⟨rest, h⟩) ← readByte cs
  let (bytes, ⟨rest', h'⟩) ← readFurtherBytes (← furtherBytes? byte) rest
  return (byte :: bytes, ⟨rest', Text.length_lt_of_le_of_lt h' h⟩)

def readTagBytes (bracketed : Bool) (cs : List Char) : Option (List UInt8 × List Char) :=
  match cs with
  | [] => some ([], [])
  | c :: rest =>
      if c = '%' then do
        let (bytes, ⟨rest', _h⟩) ← readBytes (c :: rest)
        let (bytes', rest'') ← readTagBytes bracketed rest'
        return (bytes ++ bytes', rest'')
      else if isTagChar bracketed c then do
        let (bytes, rest') ← readTagBytes bracketed rest
        return (UInt8.ofNat c.toNat :: bytes, rest')
      else some ([], c :: rest)
termination_by cs.length
decreasing_by
  · exact _h
  · exact Nat.lt_succ_self _

/-- The bytes in front of the first zero; those behind it do not count. -/
def untilZero (bytes : List UInt8) : List UInt8 :=
  bytes.takeWhile (· ≠ 0)

/-- Reads a handle: an exclamation mark, and maybe a name and another exclamation mark. -/
def readHandle (cs : List Char) : Option (List Char × List Char) :=
  match cs with
  | '!' :: rest =>
      let name := rest.takeWhile isNameChar
      match rest.dropWhile isNameChar with
      | '!' :: rest' => some ('!' :: name ++ ['!'], rest')
      | rest' => some ('!' :: name, rest')
  | _ => none

def isClosed (handle : List Char) : Bool :=
  1 < handle.length && handle.getLast? == some '!'

/-- Reads a tag: its handle and its suffix.  A tag of its own has no handle, and a gap must follow. -/
def readTag (flow : Bool) (cs : List Char) : Option (List Char × List UInt8 × List Char) := do
  let (handle, suffix, rest) ← readParts cs
  if startsGap rest || (flow && rest.head? == some ',') then return (handle, suffix, rest) else none
where
  /-- Reads the parts of a tag. -/
  readParts : List Char → Option (List Char × List UInt8 × List Char)
    | '!' :: '<' :: rest => do
        let (suffix, rest') ← readTagBytes true rest
        match rest' with
        | '>' :: rest'' => if suffix = [] then none else return ([], untilZero suffix, rest'')
        | _ => none
    | cs => do
        let (handle, rest) ← readHandle cs
        let (bytes, rest') ← readTagBytes false rest
        if isClosed handle then
          if bytes = [] then none else return (handle, untilZero bytes, rest')
        else
          let suffix := bytesOf (String.ofList handle.tail) ++ untilZero bytes
          if suffix = [] then return ([], bytesOf "!", rest') else return (['!'], suffix, rest')

def maxVersionDigits : Nat := 9

def readVersionNumber (cs : List Char) : Option (Nat × List Char) :=
  let digits := cs.takeWhile Char.isDigit
  if digits = [] ∨ maxVersionDigits < digits.length then none
  else some (digits.foldl (fun n c => 10 * n + (c.toNat - '0'.toNat)) 0, cs.dropWhile Char.isDigit)

inductive Directive
  | version (major minor : Nat)
  | handle (handle : List Char) (start : List UInt8)

/-- Reads a directive behind its per-cent sign, to the end of its line. -/
def readDirective (cs : List Char) : Option (Directive × List Char) := do
  let name := cs.takeWhile isNameChar
  let rest := cs.dropWhile isNameChar
  if !startsGap rest then none
  else if name = ['Y', 'A', 'M', 'L'] then
    let (major, rest) ← readVersionNumber (rest.dropWhile isSpace)
    match rest with
    | '.' :: rest =>
        let (minor, rest) ← readVersionNumber rest
        return (.version major minor, ← restOfLine? rest)
    | _ => none
  else if name = ['T', 'A', 'G'] then
    let (handle, rest) ← readHandle (rest.dropWhile isSpace)
    if !isClosed handle && handle ≠ ['!'] then none
    else if !(rest.head?.map isSpace).getD false then none
    else
      let (start, rest) ← readTagBytes true (rest.dropWhile isSpace)
      if start = [] ∨ !startsGap rest then none
      else return (.handle handle (untilZero start), ← restOfLine? rest)
  else none

end CommandForms.Yaml
