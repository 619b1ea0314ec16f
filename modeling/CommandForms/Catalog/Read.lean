import CommandForms.Catalog.Document
import CommandForms.Json.Record
import CommandForms.Schema.Read

/-!
# Catalog documents from JSON texts

Commands and catalog documents are records; the fields of a document and the description of a command may
be left out.
-/

namespace CommandForms

open CommandForms.Json

namespace Command

def read (depth : Nat) (cs : List Char) : Reading Command cs :=
  readRecord "struct CommandSpec" fields {} set Draft.command depth cs
where
  /-- Reads the value of one field. -/
  set (depth : Nat) (draft : Draft) (field : String) (ds : List Char) : Reading Draft ds := do
    match field with
    | "name" => return (← readText ds).map fun name => { draft with name := some name }
    | "description" =>
        return (← readOption ds fun es _ => readText es).map fun description =>
          { draft with description }
    | _ => return (← Schema.read depth ds).map fun schema => { draft with schema := some schema }

def parse (text : String) : Except ReadError Command :=
  readAll (read depthLimit) text

end Command

namespace Catalog.Document

def read (depth : Nat) (cs : List Char) : Reading Document cs :=
  readRecord "struct CatalogFile" fields {} set .ok depth cs
where
  /-- Reads the value of one field. -/
  set (depth : Nat) (document : Document) (field : String) (ds : List Char) :
      Reading Document ds := do
    match field with
    | "version" => return (← readText ds).map fun version => { document with version }
    | "aspects" => return (← readTexts depth ds).map fun aspects => { document with aspects }
    | _ =>
        return (← readList depth Command.read ds).map fun commands => { document with commands }

def parse (text : String) : Except ReadError Document :=
  readAll (read depthLimit) text

end Catalog.Document

end CommandForms
