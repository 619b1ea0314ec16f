import CommandForms.Catalog.Load
import CommandForms.Dialogue.Run

/-!
# Outcomes

What the program leaves behind: its output, and a complaint when it could not do what was asked.
-/

namespace CommandForms.CommandLine

/-- Why the program could not do what was asked. -/
inductive Complaint
  | notLoaded (path : String) (error : Catalog.Error)
  | noCatalog (error : Catalog.Error)
  | noCommand (error : Catalog.Error)
  | unreadableInput (error : Json.ReadError)
  | invalidInput (name : String) (error : Validation.Error)
  | noField (command key : String)
  | noCompletions (name typeName : String)
  | badDelimiter (error : BadDelimiter)
  | unanswered (failure : Dialogue.Failure)
deriving Repr, DecidableEq

def Complaint.message : Complaint → String
  | .notLoaded path error => "Failed to load '" ++ path ++ "': " ++ error.message
  | .noCatalog error => error.message
  | .noCommand error => error.message
  | .unreadableInput error => "could not parse input: " ++ error.message
  | .invalidInput name error => "invalid " ++ name ++ ": " ++ error.message
  | .noField command key => "command " ++ command ++ " has no field " ++ key
  | .noCompletions name typeName =>
      "field " ++ name ++ " is a " ++ typeName ++ " field and has no completions"
  | .badDelimiter error => error.message
  | .unanswered (.interrupted .cancelled) => "cancelled"
  | .unanswered (.interrupted i) => i.message
  | .unanswered (.badDelimiter error) => error.message

structure Outcome where
  output : String := ""
  complaint : Option Complaint := none
deriving Repr, DecidableEq

namespace Outcome

/-- The exit code: one after a complaint, else zero. -/
def code (outcome : Outcome) : UInt8 :=
  if outcome.complaint.isSome then 1 else 0

def errorOutput (outcome : Outcome) : String :=
  match outcome.complaint with
  | some complaint => "error: " ++ complaint.message ++ "\n"
  | none => ""

def ofLines (lines : List String) : Outcome :=
  { output := String.join (lines.map (· ++ "\n")) }

/-- The lines that a computation gives, or its complaint. -/
def ofResult : Except Complaint (List String) → Outcome
  | .ok lines => ofLines lines
  | .error complaint => { complaint := some complaint }

end Outcome

end CommandForms.CommandLine
