import CommandForms.Pattern.Reader
import CommandForms.Pattern.Search
import CommandForms.Text.Quoted

/-!
# Delimiters

A delimiter is a pattern that is well formed; its matches mark where the namespaces inside an option end.
-/

namespace CommandForms

def Pattern.Program.ofPattern? (pattern : String) : Option Pattern.Program :=
  (Pattern.Expr.ofPattern? pattern).map Pattern.Expr.program

/-- A pattern together with its program. -/
structure Delimiter where
  pattern : String
  program : Pattern.Program
  compiles : Pattern.Program.ofPattern? pattern = some program

structure BadDelimiter where
  pattern : String
deriving Repr, DecidableEq

/-- The text of the error.  What is wrong with the pattern is not told. -/
def BadDelimiter.message (e : BadDelimiter) : String :=
  "invalid delimiter pattern " ++ Text.quoted e.pattern ++ ": regex parse error"

namespace Delimiter

def ofPattern (pattern : String) : Except BadDelimiter Delimiter :=
  match h : Pattern.Program.ofPattern? pattern with
  | some program => .ok ⟨pattern, program, h⟩
  | none => .error ⟨pattern⟩

/-- Where the matches in a text end, as numbers of characters from its front. -/
def matchEnds (d : Delimiter) (cs : List Char) : List Nat :=
  d.program.matchStops cs

end Delimiter

end CommandForms
