import CommandForms.CommandLine.Arguments

/-!
# Invocations

What the program can be asked to do, and the arguments that ask for it.
-/

namespace CommandForms.CommandLine

/-- The field whose completions are asked for. -/
structure Target where
  command : String
  /-- The key of the field in the command's object, or none for the whole argument. -/
  field : Option String
deriving Repr, DecidableEq

inductive Invocation
  | validate (catalog command input : String)
  | complete (catalog : String) (target : Option Target) (input : String)
  | prompt (catalog command : String) (words : List String)
  | session (config : Option String) (catalogs : List String)
deriving Repr, DecidableEq

inductive Subcommand
  | validate
  | complete
  | prompt
  | session
deriving Repr, DecidableEq

namespace Subcommand

def ofName? : String → Option Subcommand
  | "validate" => some validate
  | "complete" => some complete
  | "prompt" => some prompt
  | "repl" => some session
  | _ => none

def grammar : Subcommand → Grammar
  | validate => { parameters := [.catalog, .command, .input] }
  | complete => { parameters := [.catalog, .command, .field, .input], literal := [.input] }
  | prompt => { parameters := [.catalog, .command], hasWords := true }
  | session => { parameters := [.config, .catalog], repeatable := [.catalog] }

/-- The field that is meant; a field needs its command. -/
def target? (given : Given) : Except Stop (Option Target) :=
  match given.value? .command, given.value? .field with
  | some command, field => .ok (some ⟨command, field⟩)
  | none, none => .ok none
  | none, some _ => .error (.misuse (.missing .command))

def invocation (given : Given) : Subcommand → Except Stop Invocation
  | validate => do
      return .validate (← given.require .catalog) (← given.require .command) (← given.require .input)
  | complete => do
      return .complete (← given.require .catalog) (← target? given) (← given.require .input)
  | prompt => do
      return .prompt (← given.require .catalog) (← given.require .command) given.words
  | session => .ok (.session (given.value? .config) (given.valuesOf .catalog))

end Subcommand

namespace Invocation

def helpName : String := "help"

/-- What is asked for behind the word for help: the help of one subcommand at most. -/
def ofHelp : List String → Stop
  | [] => .help
  | [name] =>
      if name = helpName ∨ (Subcommand.ofName? name).isSome then .help
      else .misuse (.unknownSubcommand name)
  | _ :: name :: _ => .misuse (.unknownSubcommand name)

/-- What arguments ask for: switches, then the name of a subcommand and its own arguments. -/
def ofArguments (isVerbose : Bool) : List String → Except Stop Invocation
  | [] => .error (.misuse .noSubcommand)
  | argument :: rest =>
      match Subcommand.ofName? argument with
      | some subcommand => do subcommand.invocation (← subcommand.grammar.read {} rest)
      | none =>
          if argument = helpName then .error (ofHelp rest)
          else
            match Shape.of argument with
            | .separator => .error (.misuse .noSubcommand)
            | .word => .error (.misuse (.unknownSubcommand argument))
            | shape => do
                let given ← Grammar.readSwitch argument { isVerbose } shape
                ofArguments given.isVerbose rest

end Invocation

end CommandForms.CommandLine
