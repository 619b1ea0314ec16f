import CommandForms.Catalog.Basic

/-!
# Requests of a session

What a line that is typed at the prompt of a session asks for, and what a session says by itself.
-/

namespace CommandForms.Session

inductive Request
  | nothing
  | quit
  | help
  | names
  | command (name arguments : String)
deriving Repr, DecidableEq

/-- The first word of a text, and what follows the space behind it. -/
def firstWord (cs : List Char) : String × String :=
  (String.ofList (cs.takeWhile fun c => !Text.isBlank c),
    String.ofList (cs.dropWhile fun c => !Text.isBlank c).tail)

/-- What a line asks for.  The words of the session itself go before the names of commands. -/
def Request.ofLine (line : String) : Request :=
  let (name, arguments) := firstWord (Text.trimChars line.toList)
  if name = "" then .nothing
  else if name = "quit" ∨ name = "exit" then .quit
  else if name = "help" then .help
  else if name = "commands" then .names
  else .command name arguments

def ownWords : List String := ["commands", "help", "quit", "exit"]

/-- The completions that are offered at the prompt: the names of the commands, then the session's own
words. -/
def menu (catalog : Catalog) : CompletionSource :=
  ⟨catalog.names ++ ownWords, none⟩

def nameWidth : Nat := 16

def padded (width : Nat) (text : String) : String :=
  text ++ String.ofList (List.replicate (width - text.length) ' ')

def helpLine (command : Command) : String :=
  match command.description with
  | some description => "  " ++ padded nameWidth command.name ++ " " ++ description
  | none => "  " ++ command.name

def helpLines (catalog : Catalog) : List String :=
  ["usage: <command> [json arguments]; empty arguments prompt for every field"] ++
    catalog.listing.map helpLine ++ ["  commands / help / quit"]

def namesLine (catalog : Catalog) : String :=
  "  ".intercalate catalog.names

def unknownLine (name : String) : String :=
  "unknown command: " ++ name ++ " (try `help`)"

end CommandForms.Session
