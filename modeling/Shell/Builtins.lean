import Shell.Session
import Shell.Text.Integer
import Shell.Usage

/-!
# Builtins

The commands that the shell runs itself.  Each has a `Usage`; asking for help writes its page to
the output and succeeds, arguments that do not fit are reported on the error stream and fail with
exit code 1, and so is whatever goes wrong while the builtin runs (`BuiltinError`).  Only a report
that cannot be written is a failure of the step itself.

* `cd` goes to a directory, by default home, and moves the process and the environment together.
* `echo` writes its arguments, `pwd` the directory of the environment.
* `exit` ends the session.
* `type` tells for each name what a command of that name would run.
-/

namespace Shell

/-- What goes wrong while a builtin runs. -/
inductive BuiltinError where
  | homeNotSet
  | noSuchDirectory (path : String)
  | notDirectory (path : String)
  /-- The system does not let the process into a directory. -/
  | cannotEnter (path : String) (cause : SystemError)
  /-- A stream refuses what is written. -/
  | stream (cause : SystemError)
  deriving DecidableEq, Repr

/-- The parts of the report, in the order in which they are written. -/
def BuiltinError.pieces : BuiltinError → List String
  | homeNotSet => ["cd: HOME not set"]
  | noSuchDirectory path => ["cd: " ++ path ++ ": No such file or directory"]
  | notDirectory path => ["cd: " ++ path ++ ": Not a directory"]
  | cannotEnter path cause => ["cd: can't chdir to " ++ path ++ ": " ++ cause.message]
  | stream cause => cause.pieces

namespace Builtin

/-- Write texts to a stream while a builtin runs. -/
def print (id : WriterId) (pieces : List String) : Act BuiltinError Unit :=
  ExceptT.adapt BuiltinError.stream (Act.ofEffect (World.print id pieces))

/-! ### `cd` -/

/-- How `cd` takes its arguments. -/
def cdUsage : Usage (Option String) where
  name := "cd"
  summary := "Change the current working directory. If no target is provided, changes to the "
    ++ "directory specified by the HOME environment variable."
  positionals :=
    [{ name := "target"
       description := "directory to switch to; absolute or relative to the current directory. "
         ++ "Defaults to $HOME when omitted."
       store := fun text _ => .ok (some text) }]

/-- The path that a target of `cd` names. -/
def cdPath (env : Environment) (w : World) (target : Option String) :
    Except BuiltinError String :=
  let home := match env.home? w with
    | none => .error .homeNotSet
    | some home => .ok home
  match target with
  | none => home
  | some text =>
      match text.toList with
      | [] | ['~'] => home
      | '~' :: '/' :: rest => home.map fun home => Path.join home (String.ofList rest)
      | _ => .ok (Path.join env.directory text)

/-- The directory that a path of `cd` leads to, if the process may go there. -/
def cdDirectory (w : World) (path : String) : Except BuiltinError Location :=
  match w.machine.tree.canonical w.cwd path with
  | .error _ => .error (.noSuchDirectory path)
  | .ok location =>
      if w.machine.tree.isLiveDirectory location then
        match w.barred.lookup location with
        | some cause => .error (.cannotEnter location.path cause)
        | none => .ok location
      else .error (.notDirectory path)

/-- The state with the process and the environment in a directory. -/
def enter (location : Location) (s : SessionState) : SessionState :=
  { s with world.cwd := location, environment.directory := location.path }

/-- Go to a directory. -/
def changeDirectory (target : Option String) : Act BuiltinError Outcome := fun s =>
  match cdPath s.environment s.world target >>= cdDirectory s.world with
  | .error e => (.error e, s)
  | .ok location => (.ok { exitCode := 0 }, enter location s)

/-! ### `echo` -/

/-- What `echo` writes. -/
structure EchoArguments where
  words : List String := []
  newline : Bool := true
  deriving DecidableEq, Repr

/-- How `echo` takes its arguments. -/
def echoUsage : Usage EchoArguments where
  name := "echo"
  summary := "write the arguments to standard output, separated by spaces. by default, a trailing "
    ++ "newline is printed."
  options :=
    [{ long := "no-newline"
       short := some 'n'
       description := "do not output the trailing newline."
       action := .switch fun arguments => { arguments with newline := false } }]
  positionals :=
    [{ name := "args"
       greedy := true
       description := "values to print as-is, separated by spaces."
       store := fun text arguments =>
         .ok { arguments with words := arguments.words ++ [text] } }]

/-- Write the words. -/
def writeWords (io : Binding) (arguments : EchoArguments) : Act BuiltinError Outcome := do
  let text := " ".intercalate arguments.words
  print io.output (if arguments.newline then [text, "\n"] else [text])
  return { exitCode := 0 }

/-! ### `exit` -/

/-- How `exit` takes its arguments. -/
def exitUsage : Usage (Option ExitCode) where
  name := "exit"
  summary := "Exit the shell."
  positionals :=
    [{ name := "code"
       description := "exit status of the shell; defaults to 0."
       store := fun text _ => match Text.integer text with
         | .error e => .error e.message
         | .ok code => .ok (some code) }]

/-- End the session. -/
def leave (code : Option ExitCode) : Act BuiltinError Outcome :=
  return { exitCode := code.getD 0, terminate := true }

/-! ### `pwd` -/

/-- How `pwd` takes its arguments. -/
def pwdUsage : Usage Unit where
  name := "pwd"
  summary := "Print the current working directory to standard output."

/-- Write the directory of the environment. -/
def writeDirectory (io : Binding) : Act BuiltinError Outcome := do
  let directory ← Act.look (·.environment.directory)
  print io.output [directory, "\n"]
  return { exitCode := 0 }

/-! ### `type` -/

/-- How `type` takes its arguments. -/
def typeUsage : Usage (List String) where
  name := "type"
  summary := "tell how each name would be interpreted if used as a command."
  positionals :=
    [{ name := "names"
       greedy := true
       description := "command names to look up."
       store := fun text names => .ok (names ++ [text]) }]

/-- Tell what a command of a name would run; the result says whether it would run anything. -/
def typeName (registry : Registry) (io : Binding) (name : String) : Act BuiltinError Bool := do
  if registry.contains name then
    print io.output [name, " is a shell builtin\n"]
    return true
  match ← Act.look fun s => s.environment.findExecutable s.world name with
  | some path =>
      print io.output [name, " is ", path, "\n"]
      return true
  | none =>
      print io.error [name, ": not found\n"]
      return false

/-- Tell what a command of each name would run. -/
def describeNames (registry : Registry) (io : Binding) (names : List String) :
    Act BuiltinError Outcome := do
  let found ← names.mapM (typeName registry io)
  return { exitCode := if found.all id then 0 else 1 }

/-! ### Running a builtin -/

/-- Run a builtin's work on its arguments, or answer a refusal of them. -/
def runWith {α : Type} (io : Binding) (usage : Usage α) (value : α) (arguments : List String)
    (work : α → Act BuiltinError Outcome) : Act SystemError Outcome := do
  match usage.read value arguments with
  | .error .help =>
      Act.ofEffect (World.print io.output [usage.answer .help])
      return { exitCode := 0 }
  | .error refusal =>
      Act.ofEffect (World.print io.error [usage.answer refusal])
      return { exitCode := 1 }
  | .ok value =>
      match ← Act.attempt (work value) with
      | .ok outcome => return outcome
      | .error e =>
          Act.ofEffect (World.print io.error (e.pieces ++ ["\n"]))
          return { exitCode := 1 }

/-- Run a builtin. -/
def run (registry : Registry) (io : Binding) (builtin : Builtin) (arguments : List String) :
    Act SystemError Outcome :=
  match builtin with
  | .cd => runWith io cdUsage none arguments changeDirectory
  | .echo => runWith io echoUsage {} arguments (writeWords io)
  | .exit => runWith io exitUsage none arguments leave
  | .pwd => runWith io pwdUsage () arguments fun _ => writeDirectory io
  | .type => runWith io typeUsage [] arguments (describeNames registry io)

end Builtin

end Shell
