import GuestLaunch.CommandLine

/-!
The program: reads the configuration file that its arguments name, prints what the command
gives, and ends with its exit code.
-/

namespace GuestLaunch

/-- The text of a file; none where there is no such file or it holds no text. -/
def readText (file : String) : IO (Option String) := do
  try
    let text ← IO.FS.readFile file
    pure (some text)
  catch _ => pure none

/-- Runs the command that the arguments name. -/
def runProgram (arguments : List String) : IO UInt32 := do
  let result ←
    match CommandLine.Command.read? arguments with
    | none => pure CommandLine.CommandResult.misused
    | some (command, file) => do
        let contents ← readText file
        pure (command.run file contents)
  (← IO.getStdout).putStr result.output
  (← IO.getStderr).putStr result.errors
  pure result.exitCode.toUInt32

end GuestLaunch

/-- The entry point of the program. -/
def main (arguments : List String) : IO UInt32 := GuestLaunch.runProgram arguments
