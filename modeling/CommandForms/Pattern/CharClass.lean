import CommandForms.Pattern.Folding
import CommandForms.Pattern.Property.Basic

/-!
# Character classes

The sets that patterns have names for, for Unicode text and for ASCII text.
-/

namespace CommandForms.Pattern.CharClass

open CommandForms.Text (CodePoints)

def ofChar (c : Char) : CodePoints := .single c.toNat

/-- The characters from `first` to `last`. -/
def ofRange (first last : Char) : CodePoints := .range first.toNat last.toNat

/-- The decimal digits of every script, or the ten digits of ASCII. -/
def digit (unicode : Bool) : CodePoints :=
  if unicode then Property.digits else ofRange '0' '9'

/-- White space, of every script or of ASCII. -/
def space (unicode : Bool) : CodePoints :=
  if unicode then Property.whiteSpace else .ofSpans [(9, 13), (0x20, 0x20)]

/-- The characters of words, of every script or of ASCII. -/
def word (unicode : Bool) : CodePoints :=
  if unicode then Property.word
  else .ofSpans [(0x30, 0x39), (0x41, 0x5A), (0x5F, 0x5F), (0x61, 0x7A)]

def posixClasses : List (String × CodePoints) :=
  [("alnum", .ofSpans [(0x30, 0x39), (0x41, 0x5A), (0x61, 0x7A)]),
    ("alpha", .ofSpans [(0x41, 0x5A), (0x61, 0x7A)]),
    ("ascii", .range 0 0x7F),
    ("blank", .ofList [0x9, 0x20]),
    ("cntrl", .ofSpans [(0, 0x1F), (0x7F, 0x7F)]),
    ("digit", .range 0x30 0x39),
    ("graph", .range 0x21 0x7E),
    ("lower", .range 0x61 0x7A),
    ("print", .range 0x20 0x7E),
    ("punct", .ofSpans [(0x21, 0x2F), (0x3A, 0x40), (0x5B, 0x60), (0x7B, 0x7E)]),
    ("space", space false),
    ("upper", .range 0x41 0x5A),
    ("word", word false),
    ("xdigit", .ofSpans [(0x30, 0x39), (0x41, 0x46), (0x61, 0x66)])]

/-- A set without regard to case, in Unicode text or in ASCII text. -/
def anyCase (unicode : Bool) (s : CodePoints) : CodePoints :=
  if unicode then foldClosure s else asciiFoldClosure s

end CommandForms.Pattern.CharClass
