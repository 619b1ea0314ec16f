import CommandForms.Files.Path

/-!
# Files

What paths lead to, as far as it can be known: the bytes of a file, a directory, or a fault.
-/

namespace CommandForms

inductive Files.Content
  | file (bytes : ByteArray)
  | directory

/-- Why a path cannot be followed, or the file at its end not be read as a text. -/
inductive Files.Fault
  | notFound
  | notADirectory
  | isADirectory
  | noPermission
  | nameTooLong
  | zeroInPath
  | notUtf8
  | other (message : String)
deriving Repr, DecidableEq

structure Files where
  find : String → Except Files.Fault Files.Content

namespace Files

def Fault.message : Fault → String
  | .notFound => "No such file or directory (os error 2)"
  | .noPermission => "Permission denied (os error 13)"
  | .notADirectory => "Not a directory (os error 20)"
  | .isADirectory => "Is a directory (os error 21)"
  | .nameTooLong => "File name too long (os error 36)"
  | .zeroInPath => "file name contained an unexpected NUL byte"
  | .notUtf8 => "stream did not contain valid UTF-8"
  | .other message => message

/-- Files of which only what some paths lead to is known; every other path leads nowhere. -/
def ofFindings (findings : List (String × Except Fault Content)) : Files where
  find path := (findings.lookup path).getD (.error .notFound)

def leadsTo (files : Files) (path : String) : Bool :=
  match files.find path with
  | .ok _ => true
  | .error _ => false

def text? (bytes : ByteArray) : Option String :=
  String.fromUTF8? bytes

def read (files : Files) (path : String) : Except Fault String := do
  match ← files.find path with
  | .directory => throw .isADirectory
  | .file bytes =>
      match text? bytes with
      | some text => return text
      | none => throw .notUtf8

end Files

end CommandForms
