import Shell.Builtins
import Shell.Command.Parse
import Shell.Shown

/-!
# Evaluating a line

One line is read as a command and run (`evaluate`).  The name decides how: a registered builtin runs
in the process, with its redirects put upon the session's streams; a name that stands for a program
becomes a request to the launcher, with its redirects made into a plan; any other name is reported,
after the targets of its redirects were made.

A line that is no command, and a redirect whose target cannot be opened, are reported on the
session's error stream and end the line with exit code 1; an unknown name gives 127 and a program
whose waiting was cut short gives 130.  What is left over is a `Failure`: a program that could not
be started or waited for, and a stream that refused what was written.
-/

namespace Shell

/-- Why a step of a session ended without an outcome. -/
inductive Failure where
  | stream (cause : SystemError)
  | process (error : ProcessError)
  /-- The next line could not be read. -/
  | reading (cause : SystemError)
  deriving DecidableEq, Repr

namespace Failure

/-- The report of a failure in words. -/
def message : Failure → String
  | stream cause => cause.message
  | process error => error.message
  | reading _ => "failed to read input"

/-- The causes behind a failure, each in words. -/
def causes : Failure → List String
  | stream _ => []
  | process error => error.causes
  | reading cause => [cause.message, cause.message]

/-- The report with all causes behind it. -/
def chain (failure : Failure) : String :=
  ": ".intercalate (failure.message :: failure.causes)

end Failure

/-- The exit code of a line that was refused. -/
def exitRefused : ExitCode := 1

/-- The exit code of a name that stands for nothing. -/
def exitNotFound : ExitCode := 127

/-- The exit code of a program whose waiting was cut short. -/
def exitInterrupted : ExitCode := 130

/-- The part of a session that reports on tokens. -/
def parsingTopic : String := "lineshell::parser"

/-- The part of a session that reports on commands. -/
def evaluationTopic : String := "lineshell::interpreter"

namespace Session

/-- Report to somebody who follows the session. -/
def follow {ε : Type} (topic message : String) : Act ε Unit :=
  Act.change fun w => w.record .debug topic message

/-- Write a line to the session's error stream. -/
def report (session : Session) (text : String) : Act Failure Unit :=
  ExceptT.adapt Failure.stream (Act.ofEffect (World.print session.io.error [text, "\n"]))

/-- Report a target that could not be opened. -/
def refuse (session : Session) (command : Command) (error : RedirectError) :
    Act Failure Outcome := do
  session.report (command.name.text ++ ": " ++ error.message)
  return { exitCode := exitRefused }

/-- Log what went wrong in a step, if anything did. -/
def warnOf {ε : Type} (what : String) : Except SystemError Unit → Act ε Unit
  | .ok () => pure ()
  | .error e => Act.change (·.warn (what ++ ": " ++ e.message))

/-- Run a builtin with its redirects. -/
def runBuiltin (session : Session) (builtin : Builtin) (command : Command) :
    Act Failure Outcome := do
  follow evaluationTopic (command.name.text ++ " is a builtin")
  match ← Act.attempt (Act.ofEffect (Redirection.apply command.redirects session.io)) with
  | .error e => session.refuse command e
  | .ok resolved =>
      let result ← Act.attempt
        (builtin.run session.registry resolved.binding (command.arguments.map Word.text))
      warnOf ("failed to flush output of " ++ command.name.text)
        (← Act.attempt (Act.ofEffect resolved.binding.flush))
      warnOf ("failed to release redirects of " ++ command.name.text)
        (← Act.attempt (Act.ofEffect resolved.release))
      match result with
      | .ok outcome => return outcome
      | .error e => throw (.stream e)

/-- Ask the launcher for a program.  The program reads from the front of the console's input, and
leaves the outputs as willing as they were. -/
def launch (session : Session) (request : LaunchRequest) : Act Failure LaunchOutcome := fun s =>
  let before := s.world.machine
  let (outcome, machine) :=
    session.launcher.launch s.requests.length s.world.cwd request before
  let placeAfter := session.launcher.placeAfter s.requests.length s.world.cwd request before
  let taken := before.console.input.length - machine.console.input.length
  let console : Console :=
    { machine.console with
      input := before.console.input.drop taken
      outputRefusal := before.console.outputRefusal
      errorRefusal := before.console.errorRefusal }
  (.ok outcome,
    { s with
      world := { s.world.moved placeAfter with machine := { machine with console } }
      requests := s.requests ++ [request] })

/-- Run a program with its redirects. -/
def runProgram (session : Session) (program : String) (command : Command) :
    Act Failure Outcome := do
  follow evaluationTopic (command.name.text ++ " resolved to " ++ program)
  match ← Act.attempt (Act.ofEffect (Plan.ofRedirects command.redirects)) with
  | .error e => session.refuse command e
  | .ok plan =>
      ExceptT.adapt Failure.stream (Act.ofEffect session.io.flush)
      let environment ← Act.look SessionState.environment
      let request : LaunchRequest :=
        { program
          argv := command.argv
          directory := environment.directory
          vars := environment.vars
          plan }
      match ← session.launch request with
      | .refused e => throw (.process e)
      | .waited (.ok code) => return { exitCode := code }
      | .waited (.error .interrupted) =>
          session.report (command.name.text ++ ": interrupted")
          return { exitCode := exitInterrupted }
      | .waited (.error e) => throw (.process e)

/-- Make the targets of a command whose name stands for nothing, and report the name. -/
def runUnknown (session : Session) (command : Command) : Act Failure Outcome := do
  match ← Act.attempt (Act.ofEffect (Redirection.apply command.redirects session.io)) with
  | .error e => session.refuse command e
  | .ok resolved =>
      ExceptT.adapt Failure.stream (Act.ofEffect resolved.release)
      session.report (command.name.text ++ ": command not found")
      return { exitCode := exitNotFound }

/-- Run a command. -/
def runCommand (session : Session) (command : Command) : Act Failure Outcome := do
  follow evaluationTopic ("evaluating " ++ command.shown)
  match session.registry.find? command.name.text with
  | some builtin => session.runBuiltin builtin command
  | none =>
      match ← Act.look fun s => s.environment.findExecutable s.world command.name.text with
      | some program => session.runProgram program command
      | none => session.runUnknown command

/-- Read a line as a command and run it. -/
def evaluate (session : Session) (line : String) : Act Failure Outcome := do
  if Text.isBlankLine line then return { exitCode := 0 }
  follow parsingTopic ("tokens: " ++ bracketed ((tokenize (Text.trim line)).map Token.shown))
  match Command.ofLine line with
  | .error e =>
      session.report ("parse error: " ++ e.message)
      return { exitCode := exitRefused }
  | .ok command => session.runCommand command

end Session

end Shell
