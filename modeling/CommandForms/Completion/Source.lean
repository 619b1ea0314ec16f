import CommandForms.Completion.Trie

/-!
# Completion sources

The options of one field, with the delimiter of their namespaces when they have any.  Options without
namespaces are completed as a whole.
-/

namespace CommandForms

open CommandForms.Text (lowercase lowerChars)

namespace Completion

/-- The option that equals a text when case is set aside, in its declared spelling. -/
def member? (options : List String) (text : String) : Option String :=
  options.find? fun option => lowerChars option.toList == lowerChars text.toList

/-- Completes without namespaces: an option that equals the input wins, and otherwise every option that
starts with it is a candidate. -/
def plain (options : List String) (raw : String) : Completion :=
  match member? options raw with
  | some option => .complete option
  | none =>
      match options.filter fun option =>
          (lowerChars raw.toList).isPrefixOf (lowerChars option.toList) with
      | [] => .complete raw
      | [option] => .complete option
      | candidates => .ambiguous candidates

end Completion

structure CompletionSource where
  options : List String
  delimiter : Option Delimiter := none

namespace CompletionSource

def ofOptions (options : List String) (pattern : Option String) :
    Except BadDelimiter CompletionSource :=
  match pattern with
  | none => .ok ⟨options, none⟩
  | some pattern => (Delimiter.ofPattern pattern).map fun d => ⟨options, some d⟩

/-- The option that equals a text when case is set aside, in its declared spelling. -/
def member? (source : CompletionSource) (text : String) : Option String :=
  Completion.member? source.options text

def complete (source : CompletionSource) (raw : String) : Completion :=
  match source.delimiter with
  | some d => (Completion.Trie.ofOptions d source.options).resolve raw
  | none => Completion.plain source.options raw

/-- What the completion key offers for a raw input: every option for none, and nothing when the input
is complete. -/
def offers (source : CompletionSource) (raw : String) : List String :=
  if raw.isEmpty then source.options
  else
    match source.complete raw with
    | .complete text => if text = raw then [] else [text]
    | .ambiguous candidates => candidates

/-- The characters in front of a cursor, whose place is counted in bytes. -/
def beforeCursor (cursor : Nat) : List Char → List Char
  | [] => []
  | c :: cs => if c.utf8Size ≤ cursor then c :: beforeCursor (cursor - c.utf8Size) cs else []

/-- What the completion key offers on a line with the cursor somewhere in it; a line without a source
has no offers. -/
def offersAt (source : Option CompletionSource) (line : String) (cursor : Nat) : List String :=
  match source with
  | none => []
  | some source => source.offers (String.ofList (beforeCursor cursor line.toList))

end CompletionSource

end CommandForms
