import Shell.CommandLine
import Shell.FileTree.Standard

/-!
# The program

The command line on a machine of its own, which holds the standard files and a home directory and
lives as long as the program.  Arguments, some variables and the whole input come from outside; the
two outputs and the exit status go back.
-/

namespace Shell

/-- The variables that are taken from outside. -/
def outsideVariables : List String := ["HOME", "PATH", "TERM", "NO_COLOR"]

/-- The directory that the program starts in. -/
def startDirectory : Location := ["home"]

/-- Everything that a stream gives. -/
partial def readInput (stream : IO.FS.Stream) (read : ByteArray) : IO Bytes := do
  let block ← stream.read 8192
  if block.isEmpty then return read.toList else readInput stream (read ++ block)

/-- The world that the program starts in. -/
def startWorld (vars : List (String × String)) (input : Bytes) : World :=
  { machine := { tree := FileTree.standard.makeDirectory startDirectory, console := { input } }
    cwd := startDirectory
    vars }

end Shell

/-- Run the command line. -/
def main (arguments : List String) : IO UInt32 := do
  let vars ← Shell.outsideVariables.filterMapM fun name => do
    return (← IO.getEnv name).map fun value => (name, value)
  let input ← Shell.readInput (← IO.getStdin) .empty
  let (status, world) := Shell.CommandLine.run arguments (Shell.startWorld vars input)
  let console := world.machine.console
  (← IO.getStdout).write ⟨console.output.toArray⟩
  (← IO.getStderr).write ⟨console.error.toArray⟩
  return status.toUInt32
