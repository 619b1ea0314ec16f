/-!
# Tokens of YAML texts

The pieces that a YAML text is made of: marks of documents, of block and flow collections, of keys and
values, and the properties and the contents of nodes.
-/

namespace CommandForms.Yaml

inductive Style
  | plain
  | quoted
  | literal
  | folded
deriving Repr, DecidableEq, Inhabited

def bytesOf (text : String) : List UInt8 :=
  text.toUTF8.data.toList

/-- A token.  Parts of a tag are bytes: those that it writes with per-cent signs need not form
characters. -/
inductive Token
  | version (major minor : Nat)
  | tagHandle (handle : String) (start : List UInt8)
  | documentStart
  | documentEnd
  | blockSequence
  | blockMapping
  | blockEnd
  | flowSequence
  | flowSequenceEnd
  | flowMapping
  | flowMappingEnd
  | entry
  | comma
  | key
  | value
  | anchor (name : String)
  | alias (name : String)
  | tag (handle : String) (suffix : List UInt8)
  | scalar (style : Style) (text : String)
deriving Repr, DecidableEq, Inhabited

end CommandForms.Yaml
