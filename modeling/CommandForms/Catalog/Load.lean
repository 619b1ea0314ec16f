import CommandForms.Catalog.Basic
import CommandForms.Catalog.OfNode
import CommandForms.Catalog.Read
import CommandForms.Files.Basic

/-!
# Loading catalogs

Catalogs from texts, from one file, and from several files that are merged.  The format of a file follows
from the extension of its name.
-/

namespace CommandForms.Catalog

open CommandForms.Json (ReadError)

inductive Format
  | json
  | yaml
deriving Repr, DecidableEq

/-- The format of the file at a path: YAML for the extensions `yaml` and `yml` in any case, else JSON. -/
def Format.ofPath (path : String) : Format :=
  match (Path.extension? path).map fun extension => extension.toList.map Char.toLower with
  | some ['y', 'a', 'm', 'l'] | some ['y', 'm', 'l'] => .yaml
  | _ => .json

/-- Why there is no catalog, or no command in it. -/
inductive Error
  | unreadable (fault : Files.Fault)
  | json (error : ReadError)
  | yaml
  | refused (refusal : Refusal)
  | unknownCommand (name : String)
  | nothingLoaded
deriving Repr, DecidableEq

/-- The text of an error.  What is wrong with a YAML document is not told. -/
def Error.message : Error → String
  | .unreadable fault => "I/O error: " ++ fault.message
  | .json error => "JSON error: " ++ error.message
  | .yaml => "YAML error: not a document of the expected shape"
  | .refused refusal => refusal.message
  | .unknownCommand name => "unknown command: " ++ name
  | .nothingLoaded => "no catalog sources available"

def Document.ofText (format : Format) (text : String) : Except Error Document :=
  match format with
  | .json => (Document.parse text).mapError .json
  | .yaml =>
      match Document.ofYaml? text with
      | some document => .ok document
      | none => .error .yaml

def ofText (format : Format) (text : String) : Except Error Catalog := do
  (ofDocument (← Document.ofText format text)).mapError .refused

def load (files : Files) (path : String) : Except Error Catalog := do
  let text ← (files.read path).mapError .unreadable
  let catalog ← ofText (.ofPath path) text
  return { catalog with origin := .file path }

/-- The command of a name, which must be there. -/
def require (catalog : Catalog) (name : String) : Except Error Command :=
  match catalog.find? name with
  | some command => .ok command
  | none => .error (.unknownCommand name)

/-! ## Merging -/

/-- What several paths have led to so far: the merged catalog, and the paths that loaded, last one
first. -/
structure Merged where
  catalog : Catalog
  paths : List String

/-- Takes the file at a path in; one that does not load is left out. -/
def Merged.add (files : Files) (merged : Option Merged) (path : String) : Option Merged :=
  match load files path, merged with
  | .ok catalog, none => some ⟨catalog, [path]⟩
  | .ok catalog, some merged => some ⟨merged.catalog.merge catalog, path :: merged.paths⟩
  | .error _, merged => merged

/-- The catalog of the files at some paths, together with further aspect names.  Later files win, and
files that do not load are left out, but one has to load. -/
def loadAll (files : Files) (paths aspects : List String) : Except Error Catalog :=
  match paths.foldl (Merged.add files) none with
  | none => .error .nothingLoaded
  | some merged =>
      .ok { merged.catalog.extendAspects aspects with origin := .merged merged.paths.reverse }

end CommandForms.Catalog
