import CommandForms.Text.Blank
import CommandForms.Text.Lowercase

/-!
# Yes or no

The reading of an answer to a yes-or-no question, and the hint that shows the answers.
-/

namespace CommandForms.Dialogue

/-- The truth value of an answer, spaces and case aside.  A blank answer takes the default. -/
def yesNo? (default : Option Bool) (answer : String) : Option Bool :=
  match String.ofList (Text.lowerChars (Text.trimChars answer.toList)) with
  | "" => default
  | "y" => some true
  | "yes" => some true
  | "n" => some false
  | "no" => some false
  | _ => none

/-- The hint after a question; the letter of the default is a capital. -/
def yesNoHint : Option Bool → String
  | some true => "(Y/n)"
  | some false => "(y/N)"
  | none => "(y/n)"

end CommandForms.Dialogue
