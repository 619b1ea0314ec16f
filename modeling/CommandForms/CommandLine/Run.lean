import CommandForms.CommandLine.Invocation
import CommandForms.CommandLine.Outcome
import CommandForms.Session.Loop
import CommandForms.Session.Settings

/-!
# Runs of the program

What the program does for an invocation, given the files that paths lead to and the lines of its input.
The input is not echoed, and no line of it cancels a question; only its end does.
-/

namespace CommandForms.CommandLine

open CommandForms.Dialogue (Terminal)

def inputTerminal (lines : List String) : Terminal :=
  { unread := lines, cancelLine := none }

def loadCatalog (files : Files) (path : String) : Except Complaint Catalog :=
  (Catalog.load files path).mapError (.notLoaded path)

def requireCommand (catalog : Catalog) (name : String) : Except Complaint Command :=
  (catalog.require name).mapError .noCommand

/-! ## Validation -/

def validateInput (files : Files) (path name input : String) : Except Complaint (List String) := do
  let catalog ← loadCatalog files path
  let command ← requireCommand catalog name
  let value ← (Json.Value.parse input).mapError .unreadableInput
  (validate value command.schema catalog.aspects).mapError (.invalidInput command.schema.name)
  return ["valid"]

/-! ## Completion -/

def Target.schema (target : Target) (command : Command) : Except Complaint Schema :=
  match target.field, command.schema with
  | none, schema => .ok schema
  | some key, .object _ fields =>
      match fields.lookup key with
      | some schema => .ok schema
      | none => .error (.noField target.command key)
  | some key, _ => .error (.noField target.command key)

/-- The source that completes the values of a schema; only texts, sets of texts and aspects have
completions. -/
def schemaSource (aspects : AspectSet) : Schema → Except Complaint CompletionSource
  | .string _ o => (CompletionSource.ofOptions o.autocomplete o.delimiter).mapError .badDelimiter
  | .stringSet _ o => (CompletionSource.ofOptions o.autocomplete o.delimiter).mapError .badDelimiter
  | .aspectMap .. => .ok aspects.source
  | schema => .error (.noCompletions schema.name schema.typeName)

/-- The source that completes a target, or aspect names when there is none. -/
def targetSource (catalog : Catalog) : Option Target → Except Complaint CompletionSource
  | none => .ok catalog.aspects.source
  | some target => do
      let command ← requireCommand catalog target.command
      schemaSource catalog.aspects (← target.schema command)

def completionLines : Completion → List String
  | .complete text => [text]
  | .ambiguous candidates => candidates

def completeInput (files : Files) (path : String) (target : Option Target) (input : String) :
    Except Complaint (List String) := do
  let catalog ← loadCatalog files path
  let source ← targetSource catalog target
  return completionLines (source.complete input)

/-! ## Prompts -/

def promptWith (catalog : Catalog) (command : Command) (words lines : List String) : Outcome :=
  let (result, t) := Dialogue.resolve (" ".intercalate words) command.schema catalog.aspects
    (inputTerminal lines)
  match result with
  | .ok value => { output := t.output ++ value.indentedText ++ "\n" }
  | .error failure => { output := t.output, complaint := some (.unanswered failure) }

def promptFor (files : Files) (path name : String) (words lines : List String) : Outcome :=
  let found : Except Complaint (Catalog × Command) := do
    let catalog ← loadCatalog files path
    return (catalog, ← requireCommand catalog name)
  match found with
  | .ok (catalog, command) => promptWith catalog command words lines
  | .error complaint => { complaint := some complaint }

/-! ## Sessions -/

/-- The path of the settings when none is given. -/
def defaultConfig : String := "field-prompt.yml"

/-- The settings of a session, and the directory from which their paths are seen. -/
def sessionSettings (files : Files) (config : Option String) :
    Except Complaint (Session.Settings × String) :=
  match config with
  | some path =>
      match Session.Settings.load files path with
      | .ok settings => .ok (settings, Path.directory path)
      | .error error => .error (.notLoaded path error)
  | none =>
      match Session.Settings.loadOrDefault files defaultConfig with
      | .ok settings => .ok (settings, ".")
      | .error error => .error (.notLoaded defaultConfig error)

/-- The paths of the catalogs of a session: those of the settings, then those given besides. -/
def sessionPaths (settings : Session.Settings) (base : String) (catalogs : List String) : List String :=
  settings.catalogPaths base ++ catalogs

def sessionStart (files : Files) (config : Option String) (catalogs : List String) :
    Except Complaint (Catalog × String) := do
  let (settings, base) ← sessionSettings files config
  let catalog ← (Catalog.loadAll files (sessionPaths settings base catalogs) settings.aspects).mapError
    .noCatalog
  return (catalog, settings.prompt)

def sessionFor (files : Files) (config : Option String) (catalogs lines : List String) : Outcome :=
  match sessionStart files config catalogs with
  | .error complaint => { complaint := some complaint }
  | .ok (catalog, prompt) =>
      let (result, t) := Session.run catalog prompt (inputTerminal lines)
      match result with
      | .ok () => { output := t.output }
      | .error failure => { output := t.output, complaint := some (.unanswered failure) }

namespace Invocation

def run (files : Files) (lines : List String) : Invocation → Outcome
  | .validate catalog command input => .ofResult (validateInput files catalog command input)
  | .complete catalog target input => .ofResult (completeInput files catalog target input)
  | .prompt catalog command words => promptFor files catalog command words lines
  | .session config catalogs => sessionFor files config catalogs lines

def readsInput : Invocation → Bool
  | .validate .. | .complete .. => false
  | .prompt .. | .session .. => true

/-- The paths whose files a run reads, as far as they are known from the files themselves. -/
def paths (files : Files) : Invocation → List String
  | .validate catalog .. | .complete catalog .. | .prompt catalog .. => [catalog]
  | .session config catalogs =>
      config.getD defaultConfig ::
        match sessionSettings files config with
        | .ok (settings, base) => sessionPaths settings base catalogs
        | .error _ => []

end Invocation

end CommandForms.CommandLine
