import CommandForms.Catalog.Load

/-!
# Session settings

The settings of an interactive session: the catalogs to load, the prompt, and aspect names that are known
besides those of the catalogs.  They are written in YAML, and every setting may be left out.
-/

namespace CommandForms.Session

open CommandForms.Yaml

structure Settings where
  version : String := "1.0"
  catalogs : List String := []
  prompt : String := "> "
  aspects : List String := []
deriving Repr, DecidableEq, Inhabited

namespace Settings

def fields : List String := ["version", "catalogs", "prompt", "aspects"]

def ofNode (depth : Nat) (node : Node) : Reader Settings :=
  asRecord fields set {} depth node
where
  /-- Reads one setting. -/
  set (depth : Nat) (settings : Settings) (field : String) (node : Node) : Reader Settings := do
    match field with
    | "version" => return { settings with version := ← asText node }
    | "catalogs" => return { settings with catalogs := ← asTexts depth node }
    | "prompt" => return { settings with prompt := ← asText node }
    | _ => return { settings with aspects := ← asTexts depth node }

/-- The settings in the file at a path.  A path that leads nowhere is an error of its own; all else that
is wrong is wrong with the document. -/
def load (files : Files) (path : String) : Except Catalog.Error Settings := do
  match ← (files.find path).mapError .unreadable with
  | .directory => throw .yaml
  | .file bytes =>
      match Files.text? bytes with
      | none => throw .yaml
      | some text =>
          match readDocument? ofNode text with
          | some settings => return settings
          | none => throw .yaml

/-- The settings in the file at a path, or those that hold when the path leads nowhere. -/
def loadOrDefault (files : Files) (path : String) : Except Catalog.Error Settings :=
  if files.leadsTo path then load files path else .ok {}

/-- The paths of the catalogs, seen from a directory. -/
def catalogPaths (settings : Settings) (base : String) : List String :=
  settings.catalogs.map (Path.join base)

def loadCatalog (settings : Settings) (files : Files) (base : String) : Except Catalog.Error Catalog :=
  Catalog.loadAll files (settings.catalogPaths base) settings.aspects

end Settings

end CommandForms.Session
