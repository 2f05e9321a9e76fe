import RecordQuery.Command.Run
import RecordQuery.Command.Usage

/-!
# The program

Reads the command line and the files that the command names, runs the command and shows its outcome.
-/

namespace RecordQuery

def Command.paths : Command → List String
  | .query records options => records :: options.config.toList
  | .parse options => options.config.toList

/-- Whether the code of a system error, which may stand negated, is the given one. -/
def isErrorCode (code given : UInt32) : Bool := code == given || 0 - code == given

def ReadFailure.ofError (e : IO.Error) : ReadFailure :=
  match e with
  | .noFileOrDirectory _ _ _ => .notFound
  | .inappropriateType _ code _ => if isErrorCode code 21 then .isADirectory else .notADirectory
  | .invalidArgument _ code _ =>
    if isErrorCode code 36 then .nameTooLong else .other (toString e)
  | .permissionDenied _ _ _ => .other "Permission denied (os error 13)"
  | e => .other (toString e)

def FileEntry.ofPath (path : String) : IO FileEntry := do
  try
    return .file (← IO.FS.readBinFile path)
  catch e =>
    return .refused (.ofError e)

def Files.ofCommand (c : Command) : IO Files := do
  return ⟨← c.paths.mapM fun path => do return (path, ← FileEntry.ofPath path)⟩

/-- Shows what a command line asks for; the result is the exit code. -/
def Request.perform : Request → IO UInt32
  | .help => do
    usage.forM IO.println
    return 0
  | .version => do
    IO.println versionLine
    return 0
  | .misuse => do
    usage.forM IO.eprintln
    return 2
  | .run command => do
    let outcome := command.run (← Files.ofCommand command)
    outcome.stdout.forM IO.println
    outcome.stderr.forM IO.eprintln
    return outcome.exit.toUInt32

end RecordQuery

def main (args : List String) : IO UInt32 := (RecordQuery.Request.ofArguments args).perform
