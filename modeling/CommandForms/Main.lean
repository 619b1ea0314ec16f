import CommandForms.CommandLine.Run
import CommandForms.Text.Lines

/-!
# The program

Reads the files that an invocation names and the input, runs it, and writes what the run leaves behind.
-/

namespace CommandForms.CommandLine

/-- What an error in the reading of a file says of its path.  Directories can be opened but not read, and
only then the error names no file. -/
def ofError : IO.Error → Except Files.Fault Files.Content
  | .noFileOrDirectory .. => .error .notFound
  | .inappropriateType none .. => .ok .directory
  | .inappropriateType .. => .error .notADirectory
  | .permissionDenied .. => .error .noPermission
  | error => .error (.other (toString error))

def lookAt (path : String) : IO (Except Files.Fault Files.Content) := do
  if path.toList.contains '\x00' then return .error .zeroInPath
  try return .ok (.file (← IO.FS.readBinFile path))
  catch error => return ofError error

/-- The files that an invocation reads.  Settings name further files, so the paths are followed twice. -/
def gather (invocation : Invocation) : IO Files := do
  let first ← follow (invocation.paths (.ofFindings []))
  follow (invocation.paths first)
where
  follow (paths : List String) : IO Files := do
    return .ofFindings (← paths.mapM fun path => return (path, ← lookAt path))

def inputLines : IO (List String) := do
  return Text.lines (← (← IO.getStdin).readToEnd)

def usage : List String := [
  "Usage: field-prompt [-v] <subcommand>",
  "",
  "  validate --catalog <path> --command <name> --input <json>",
  "  complete --catalog <path> [--command <name> [--field <key>]] --input <text>",
  "  prompt   --catalog <path> --command <name> [words...]",
  "  repl     [--config <path>] [--catalog <path>]..."]

end CommandForms.CommandLine

open CommandForms.CommandLine in
def main (arguments : List String) : IO UInt32 := do
  match Invocation.ofArguments false arguments with
  | .error .help =>
      usage.forM IO.println
      return 0
  | .error (.misuse misuse) =>
      (("error: " ++ misuse.message) :: "" :: usage).forM IO.eprintln
      return 2
  | .ok invocation =>
      let files ← gather invocation
      let lines ← if invocation.readsInput then inputLines else pure []
      let outcome := invocation.run files lines
      IO.print outcome.output
      IO.eprint outcome.errorOutput
      return outcome.code.toUInt32
