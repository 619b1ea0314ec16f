import CommandForms.Mismatch

/-!
# Faults of JSON texts

Why a text cannot be read as JSON, and where.  A fault is kept with the number of bytes that were still
unread; line and column follow from the text.
-/

namespace CommandForms.Json

/-- Why a text is not the JSON that its reader expects. -/
inductive Cause
  | endInValue
  | endInList
  | endInObject
  | endInString
  | expectedValue
  | expectedWord
  | expectedColon
  | expectedListEnd
  | expectedObjectEnd
  | keyNotString
  | trailingComma
  | trailingCharacters
  | badNumber
  | numberOutOfRange
  | badEscape
  | loneSurrogate
  | endOfHexEscape
  | controlCharacter
  | tooDeep
  | mismatch (m : Mismatch)
deriving Repr, DecidableEq

/-- The three kinds of causes: the text ends too early, it breaks the grammar, or it has another shape
than expected. -/
inductive Category
  | eof
  | grammar
  | data
deriving Repr, DecidableEq

namespace Cause

def category : Cause → Category
  | .endInValue | .endInList | .endInObject | .endInString => .eof
  | .mismatch _ => .data
  | _ => .grammar

def message : Cause → String
  | .endInValue => "EOF while parsing a value"
  | .endInList => "EOF while parsing a list"
  | .endInObject => "EOF while parsing an object"
  | .endInString => "EOF while parsing a string"
  | .expectedValue => "expected value"
  | .expectedWord => "expected ident"
  | .expectedColon => "expected `:`"
  | .expectedListEnd => "expected `,` or `]`"
  | .expectedObjectEnd => "expected `,` or `\x7d`"
  | .keyNotString => "key must be a string"
  | .trailingComma => "trailing comma"
  | .trailingCharacters => "trailing characters"
  | .badNumber => "invalid number"
  | .numberOutOfRange => "number out of range"
  | .badEscape => "invalid escape"
  | .loneSurrogate => "lone leading surrogate in hex escape"
  | .endOfHexEscape => "unexpected end of hex escape"
  | .controlCharacter => "control character (\\u0000-\\u001F) found while parsing a string"
  | .tooDeep => "recursion limit exceeded"
  | .mismatch m => m.message

end Cause

/-- A cause, and how many bytes of the text were unread when it arose. -/
structure Fault where
  cause : Cause
  unread : Nat
deriving Repr, DecidableEq

def byteCount (cs : List Char) : Nat :=
  cs.foldl (fun n c => n + c.utf8Size) 0

namespace Fault

def here (cause : Cause) (rest : List Char) : Fault :=
  ⟨cause, byteCount rest⟩

def next (cause : Cause) (rest : List Char) : Fault :=
  ⟨cause, byteCount rest - 1⟩

end Fault

/-- A place in a text: the line, and the number of bytes in front of it on that line. -/
structure Position where
  line : Nat
  column : Nat
deriving Repr, DecidableEq

/-- The place behind a number of bytes, counted on from a place. -/
def Position.advance (p : Position) : Nat → List Char → Position
  | bytes, c :: cs =>
      if bytes < c.utf8Size then ⟨p.line, p.column + bytes⟩
      else if c = '\n' then advance ⟨p.line + 1, 0⟩ (bytes - 1) cs
      else advance ⟨p.line, p.column + c.utf8Size⟩ (bytes - c.utf8Size) cs
  | bytes, [] => ⟨p.line, p.column + bytes⟩

/-- Why a document cannot be read.  The position is known only when the document is a text. -/
structure ReadError where
  cause : Cause
  position? : Option Position
deriving Repr, DecidableEq

namespace ReadError

/-- The text of an error, with its place. -/
def message (e : ReadError) : String :=
  match e.position? with
  | none => e.cause.message
  | some p =>
      e.cause.message ++ " at line " ++ Numeral.integerText p.line ++ " column " ++
        Numeral.integerText p.column

def ofFault (text : List Char) (fault : Fault) : ReadError :=
  ⟨fault.cause, some (Position.advance ⟨1, 0⟩ (byteCount text - fault.unread) text)⟩

def ofMismatch (m : Mismatch) : ReadError :=
  ⟨.mismatch m, none⟩

end ReadError

end CommandForms.Json
