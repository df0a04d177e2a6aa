import Shell.Interactive
import Shell.Launch.System

/-!
# The command line

The program itself: its options (`CommandLine.usage`), the session that they ask for, and the exit
status that it ends with (`CommandLine.runWith`).  With a command it evaluates that line, otherwise
it reads lines from its input.  Arguments that do not fit and a failure of the session end it with
status 1; every exit code is reduced to a byte.

Where the console refuses one of the program's own reports, the program is stopped.  What its
runtime then says on the error output is left out.  At its end, whatever it was, the line that the
standard output keeps back is sent, and nobody hears of it if that is refused.
-/

namespace Shell

/-- What the options say. -/
structure CommandLine where
  command : Option String := none
  /-- The level that was asked for; there is none in it if records are off. -/
  level : Option (Option Level) := none
  prompt : Option String := none
  deriving DecidableEq, Repr

/-- What a program leaves behind for the system: a number below 256. -/
abbrev ExitStatus := Nat

namespace CommandLine

/-- The name of the program. -/
def programName : String := "lineshell"

/-- The levels by name. -/
def levels : List (String × Option Level) :=
  ("off", none) :: [Level.error, .warn, .info, .debug, .trace].map fun level =>
    (level.name.map Char.toLower, some level)

/-- The level of a name, in capitals or not. -/
def level? (text : String) : Option (Option Level) :=
  levels.lookup (text.map Char.toLower)

/-- Why a second value for an option is refused. -/
def duplicate : String := "duplicate values provided"

/-- How the program takes its arguments. -/
def usage : Usage CommandLine where
  name := programName
  summary := "A small interactive shell with file redirection."
  options :=
    [{ long := "command"
       short := some 'c'
       description := "evaluate a single line and exit with its status."
       action := .value fun text line =>
         if line.command.isSome then .error duplicate
         else .ok { line with command := some text } },
     { long := "log-level"
       description := "log level written to stderr: off, error, warn, info, debug or trace."
       action := .value fun text line =>
         if line.level.isSome then .error duplicate
         else match level? text with
           | none => .error ("unknown log level: " ++ text)
           | some level => .ok { line with level := some level } },
     { long := "prompt"
       description := "prompt shown before each line in interactive mode."
       action := .value fun text line =>
         if line.prompt.isSome then .error duplicate
         else .ok { line with prompt := some text } }]

/-- How records are shown: in colour where the terminal is known to have colours and nobody asks to
do without. -/
def display (w : World) : Display :=
  match w.startValue? "TERM", w.startValue? "NO_COLOR" with
  | some terminal, none => if terminal = "dumb" then .plain else .coloured
  | _, _ => .plain

/-- The session of the program, and its state. -/
def begin (launcher : Launcher) (w : World) : Session × SessionState :=
  let (io, world) := Binding.overConsole w
  ({ io, launcher }, { world, environment := Environment.ofProcess world })

/-- Do what the options say. -/
def act (line : CommandLine) (session : Session) : Act Failure ExitCode := do
  match line.command with
  | some text => return (← session.evaluate text).exitCode
  | none => session.interact (line.prompt.getD Session.defaultPrompt)

/-- The exit status of an exit code. -/
def status (code : ExitCode) : ExitStatus :=
  (code % 256).toNat

/-- The exit status of a program that did not do what it was asked for. -/
def failureStatus : ExitStatus := 1

/-- The exit status of a program that was stopped. -/
def stoppedStatus : ExitStatus := 101

/-- End with a report on the console. -/
def conclude (code : ExitStatus) (channel : Channel) (report : String) (w : World) :
    ExitStatus × World :=
  match w.machine.console.pass channel (Bytes.ofText report) with
  | .error _ => (stoppedStatus, w)
  | .ok console => (code, { w with machine.console := console })

/-- What stands after the report of arguments that do not fit. -/
def hint : String :=
  "\nRun " ++ programName ++ " --help for more information.\n"

/-- Run the program on its arguments, with a way of starting other programs. -/
def runWith (launcher : Launcher) (arguments : List String) (w : World) : ExitStatus × World :=
  match usage.read {} arguments with
  | .error .help => conclude 0 .output (usage.answer .help ++ "\n") w
  | .error refusal => conclude failureStatus .error (usage.answer refusal ++ hint) w
  | .ok line =>
      let log : Log := { filter := line.level.getD (some .warn), display := some (display w) }
      let (session, state) := begin launcher { w with log }
      let (code, w) := match (line.act session).on state with
        | (.ok code, state) => (status code, state.world)
        | (.error failure, state) =>
            conclude failureStatus .error (programName ++ ": " ++ failure.chain ++ "\n") state.world
      (code, Binding.settle session.io.output w)

/-- Run the program on its arguments, with the programs of the machine. -/
def run (arguments : List String) (w : World) : ExitStatus × World :=
  runWith Launcher.system arguments w

end CommandLine

end Shell
