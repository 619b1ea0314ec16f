import CommandForms.Aspects
import CommandForms.Catalog.Document
import CommandForms.Schema.Delimiters
import CommandForms.Text.Blank

/-!
# Catalogs

The commands and the aspect names that are known together.  A catalog keeps its commands by name.  A
document is admitted as a catalog when every command has a name of its own that is not blank, and every
delimiter pattern of its schemas is well formed.
-/

namespace CommandForms

inductive Catalog.Origin
  | inline
  | file (path : String)
  | merged (paths : List String)
deriving Repr, DecidableEq

/-- The commands and the aspect names that are known together. -/
structure Catalog where
  commands : Keyed Command
  aspects : AspectSet
  origin : Catalog.Origin
  named : ∀ entry ∈ commands.entries, entry.2.name = entry.1

namespace Catalog

/-- A catalog without commands and aspect names. -/
def empty : Catalog :=
  ⟨.empty, .empty, .inline, by simp [Keyed.empty]⟩

instance : Inhabited Catalog := ⟨empty⟩

def find? (catalog : Catalog) (name : String) : Option Command :=
  catalog.commands.find? name

def contains (catalog : Catalog) (name : String) : Bool :=
  catalog.commands.contains name

/-- The names of the commands, ascending. -/
def names (catalog : Catalog) : List String :=
  catalog.commands.keys

/-- The commands, in order of their names. -/
def listing (catalog : Catalog) : List Command :=
  catalog.commands.values

def size (catalog : Catalog) : Nat :=
  catalog.commands.size

/-- Adds a command; one with the same name gives way. -/
def insert (catalog : Catalog) (command : Command) : Catalog :=
  { catalog with
    commands := catalog.commands.insert command.name command
    named := by
      intro entry h
      rcases Entries.mem_insert h with rfl | h
      · rfl
      · exact catalog.named entry h }

def insertAll (catalog : Catalog) (commands : List Command) : Catalog :=
  commands.foldl insert catalog

def extendAspects (catalog : Catalog) (names : List String) : Catalog :=
  { catalog with aspects := catalog.aspects.extend names }

/-- Adds what a later catalog holds; its commands win. -/
def merge (catalog later : Catalog) : Catalog :=
  (catalog.insertAll later.listing).extendAspects later.aspects.names

/-! ## Admission -/

inductive Refusal
  | blankName
  | duplicate (name : String)
  | badDelimiter (name : String) (error : BadDelimiter)
deriving Repr, DecidableEq

def Refusal.message : Refusal → String
  | .blankName => "invalid catalog: command name is empty"
  | .duplicate name => "duplicate command: " ++ name
  | .badDelimiter name error => "invalid catalog: command " ++ name ++ ": " ++ error.message

/-- Checks commands one after the other; `seen` holds the names of those before. -/
def checkCommands (seen : List String) : List Command → Except Refusal Unit
  | [] => .ok ()
  | command :: commands => do
      if Text.isBlankText command.name then throw .blankName
      if seen.contains command.name then throw (.duplicate command.name)
      command.schema.checkDelimiters.mapError (.badDelimiter command.name)
      checkCommands (command.name :: seen) commands

def ofDocument (document : Document) : Except Refusal Catalog := do
  checkCommands [] document.commands
  return ({ empty with aspects := .ofList document.aspects } : Catalog).insertAll document.commands

end Catalog

end CommandForms
