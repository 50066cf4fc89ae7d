import MessageSchema.CommandLine.Command

/-!
# The program

Reads the source of a command, decides what to do, and does it. Every source is a path here: there
is no network.
-/

namespace MessageSchema.Disk

/-- Why something cannot be done. -/
def cause : IO.Error → FileError
  | .noFileOrDirectory .. => .notFound
  | .permissionDenied .. => .permissionDenied
  | .inappropriateType _ _ "not a directory" => .notDirectory
  | .inappropriateType .. => .isDirectory
  | .resourceExhausted _ 28 _ => .noSpace
  | .invalidArgument _ 36 _ => .nameTooLong
  | e => .other (toString e)

/-- The text of a source. -/
def read (path : String) : IO (Except LoadError String) := do
  try discard (IO.FS.realPath path)
  catch _ => return .error (.fileNotFound path)
  try
    match String.fromUTF8? (← IO.FS.readBinFile path) with
    | some text => return .ok text
    | none => return .error (.cannotRead path FileError.notText.message)
  catch e => return .error (.cannotRead path (cause e).message)

/-- Writes a text to a file. -/
def write (path text : String) : IO (Except String Unit) := do
  try
    IO.FS.writeFile path text
    return .ok ()
  catch e => return .error (cause e).message

/-- Runs a command. -/
def run (command : Command) : IO Outcome := do
  match command.plan ((← read command.source).bind Pool.read) with
  | .finish outcome => return outcome
  | .write path text => return Command.written path (← write path text)

end MessageSchema.Disk

open MessageSchema

/-- Does what the arguments ask for. -/
def main (arguments : List String) : IO UInt32 := do
  let outcome ← match Invocation.ofArguments arguments with
    | .run command => Disk.run command
    | other => pure (other.perform {}).1
  IO.print outcome.output
  for message in outcome.errors do IO.eprintln message
  return outcome.exitCode.toUInt32
