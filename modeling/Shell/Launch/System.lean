import Shell.Launch
import Shell.Search
import Shell.Script.Run

/-!
# Launching programs of the machine

The launcher that runs what the files of the machine hold (`Launcher.system`).  A request is carried
out in four steps, and the first that fails refuses it.

1. The streams of the plan are opened from the working directory of the shell: input, output,
   error.  Outputs that are connected together share one open file.
2. No text of the request may hold a NUL character.
3. The program's working directory is entered.
4. The program is found, from there, and run.  A name without a slash is searched in the directories
   that the program's own variables list; the shell's interpreter takes what is found there and is
   no program.

What a refused request opened stays made and emptied.
-/

namespace Shell

open Script (Runner Ending)

namespace Launcher

/-- Lead a descriptor to the file of a target, if it has one. -/
def connect (target : StreamTarget) (descriptor : Nat) (runner : Runner) :
    Effect SystemError Runner := do
  match ← target.openFile with
  | none => return runner
  | some file => return runner.connectFile descriptor file

/-- Lead the descriptors to the streams of a plan. -/
def connectPlan (plan : Plan) (runner : Runner) : Effect SystemError Runner := do
  let runner ← connect plan.stdin 0 runner
  let outputs ← connect plan.stdout 1 runner
  if plan.merged && plan.stdout ≠ .inherit then
    return outputs.connect 2 (.file runner.files.length)
  else connect plan.stderr 2 outputs

/-- Whether a text of a request holds a NUL character. -/
def holdsNul (request : LaunchRequest) : Bool :=
  let texts := request.program :: request.directory :: request.argv
    ++ request.vars.flatMap fun (name, value) => [name, value]
  texts.any fun text => text.toList.contains '\x00'

/-- The directories in which programs are searched when no variable says so. -/
def standardSearch : String := "/bin:/usr/bin"

/-- The image of a name below one of some directories.  What may not be run is passed over, and
reported if nothing else is found. -/
def searchImage (runner : Runner) (name : String) (argv : List String) (last : SystemError) :
    List String → Except SystemError Image
  | [] => .error last
  | entry :: rest =>
      let path := if entry = "" then name else entry ++ "/" ++ name
      match runner.imageOf path argv with
      | .error .permissionDenied => searchImage runner name argv .permissionDenied rest
      | .error .noSuchFile =>
          searchImage runner name argv
            (if last = .permissionDenied then last else .noSuchFile) rest
      | .error .notDirectory =>
          searchImage runner name argv
            (if last = .permissionDenied then last else .notDirectory) rest
      | result => result

/-- What a request runs, as seen from the directory that the runner is in. -/
def imageOf (request : LaunchRequest) (runner : Runner) : Except SystemError Image :=
  let argv := if request.argv = [] then [request.program] else request.argv
  if request.program.toList.contains '/' then
    runner.machine.tree.image runner.cwd request.program argv
  else if request.program = "" then .error .noSuchFile
  else
    searchImage runner request.program argv .noSuchFile
      (Search.entries ((request.vars.lookup "PATH").getD standardSearch))

/-- The runner of a request in its directory, and what it runs there. -/
def start (cwd : Location) (request : LaunchRequest) (runner : Runner) :
    Except SystemError (Image × Runner) := do
  if holdsNul request then throw .nulInArgument
  let tree := runner.machine.tree
  let directory ← tree.locate cwd request.directory
  if !((tree.get? directory).any Node.isDirectory) then throw .notDirectory
  let runner := { runner with cwd := directory }
  return (← imageOf request runner, runner)

/-- The launcher that runs the programs among the files of the machine. -/
def system : Launcher where
  launch _ cwd request machine :=
    let world : World := { machine, cwd }
    let idle : Runner :=
      { machine
        cwd
        vars := request.vars
        exported := request.vars.map Prod.fst }
    let refused (cause : SystemError) := LaunchOutcome.refused (.launch request.program cause)
    match (connectPlan request.plan idle).on world with
    | (.error e, world) => (refused e, world.machine)
    | (.ok runner, world) =>
        match start cwd request { runner with machine := world.machine } with
        | .error e => (refused e, world.machine)
        | .ok (image, runner) =>
            let (ending, runner) := runner.performImage image
            (.waited (.ok ending.code), runner.machine)

end Launcher

end Shell
