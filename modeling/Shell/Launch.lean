import Shell.Plan

/-!
# Launching programs

What a session asks for when it starts a program (`LaunchRequest`), and what becomes of it: the
program cannot be started, or it was started and waiting for it gives its exit code or fails
(`LaunchOutcome`).  A `Launcher` is any way of deciding that; it can change the files and the
console and rename directories, as a program can, and it may answer differently each time it is
asked.
-/

namespace Shell

/-- What a program leaves behind for the one that started it; zero is success. -/
abbrev ExitCode := Int

/-- A program was not run to its end. -/
inductive ProcessError where
  /-- The program could not be started. -/
  | launch (program : String) (cause : SystemError)
  /-- Waiting was cut short. -/
  | interrupted
  /-- Waiting was refused. -/
  | wait (cause : SystemError)
  deriving DecidableEq, Repr

namespace ProcessError

/-- The report of an error in words. -/
def message : ProcessError → String
  | launch program cause => program ++ ": " ++ cause.message
  | interrupted => "interrupted"
  | wait cause => "wait failed: " ++ cause.message

/-- The causes behind an error, each in words. -/
def causes : ProcessError → List String
  | launch _ cause | wait cause => [cause.message]
  | interrupted => []

end ProcessError

/-- A program to start and what it is given. -/
structure LaunchRequest where
  /-- The path of the program. -/
  program : String
  /-- The name it is called by and its arguments. -/
  argv : List String
  directory : String
  vars : List (String × String)
  plan : Plan
  deriving DecidableEq, Repr

/-- What became of a request. -/
inductive LaunchOutcome where
  | refused (error : ProcessError)
  | waited (result : Except ProcessError ExitCode)

/-- A way of starting programs: the number of requests before this one, the working directory of
the shell, the request and the machine decide what becomes of it. -/
structure Launcher where
  launch : Nat → Location → LaunchRequest → Machine → LaunchOutcome × Machine
  /-- Where something is then that was at a location.  The shell stays in its directory and keeps
  its files open, but it finds them under other names if the program renames directories. -/
  placeAfter : Nat → Location → LaunchRequest → Machine → Location → Location :=
    fun _ _ _ _ => id

namespace Launcher

/-- The launcher that starts nothing and gives one prepared outcome after another; when there are
none left, everything succeeds. -/
def scripted (outcomes : List (LaunchRequest → LaunchOutcome)) : Launcher where
  launch count _ request machine :=
    match outcomes[count]? with
    | some outcome => (outcome request, machine)
    | none => (.waited (.ok 0), machine)

end Launcher

end Shell
