import FormLogic.Command.Execution

/-!
# FormLogic.Main

The command line program: reads files and variables, and prints what `Command.execute` answers.
-/

namespace FormLogic
namespace Command

/-- The fault that a failed reading stands for.  A directory can be opened but not read, so only
what fails to open names its path. -/
def faultOfError : IO.Error → FileFault
  | .noFileOrDirectory .. => .missing
  | .inappropriateType none .. => .directory
  | .inappropriateType (some _) .. => .notDirectory
  | .permissionDenied .. => .unreadable "Permission denied (os error 13)"
  | .userError _ => .unreadable "stream did not contain valid UTF-8"
  | e => .unreadable (toString e)

def readContent (path : String) : IO (String × Except FileFault String) := do
  try
    return (path, .ok (← IO.FS.readFile path))
  catch e =>
    return (path, .error (faultOfError e))

/-- What arguments may make the program read. -/
def gather (arguments : List String) : IO Surroundings := do
  let w : Surroundings := {
    home := ← IO.getEnv "HOME"
    config := ← IO.getEnv "FORMKIT_CONFIG"
    read := fun _ => .error .missing }
  match readInvocation arguments with
  | .error _ => return w
  | .ok invocation =>
    let contents ← (invocation.paths w).mapM readContent
    return { w with read := fun path => (contents.lookup path).getD (.error .missing) }

/-- Prints a reply; what comes back is the status to end with. -/
def Reply.print (reply : Reply) : IO UInt32 := do
  (← IO.getStdout).putStr reply.output
  (← IO.getStderr).putStr reply.complaint
  return reply.exit.toUInt32

end Command
end FormLogic

def main (arguments : List String) : IO UInt32 := do
  let w ← FormLogic.Command.gather arguments
  (FormLogic.Command.execute w arguments).print
