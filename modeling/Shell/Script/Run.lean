import Shell.FileTree.Image
import Shell.Script.Parse
import Shell.Script.Utility

/-!
# Scripts — running

A statement is run by a runner and either goes on to the next one or ends the runner (`Flow`).  What
a program of its own does is done by a second runner, which starts with the descriptors and the
exported variables of the first and leaves it nothing but the machine and how far the open files
were used (`Runner.resume`).

`Runner.perform` runs a tool: the interpreter on a script from an argument, a file or its input, or
the copying of files.  Everything here is bounded by a number of steps, of which
`Runner.bound` gives more than a script that ends can take.
-/

namespace Shell.Script

/-- What a statement leads to. -/
inductive Flow where
  | next
  | leave (code : Nat)
  | killed (signal : Nat)
  deriving DecidableEq, Repr

/-- How the runner ended that was led here. -/
def Flow.ending (flow : Flow) (r : Runner) : Ending :=
  match flow with
  | next => .exited r.status
  | leave code => .exited code
  | killed signal => .killed signal

/-- The exit code by which a script sees how a program ended. -/
def Ending.code : Ending → Nat
  | exited code => code
  | killed signal => 128 + signal

/-- The exit code of a command that was not carried out. -/
def refusedCode : Nat := 2

namespace Runner

/-- Run `act`, and then go on only if nothing ended the runner. -/
def chain (first : Flow × Runner) (act : Runner → Flow × Runner) : Flow × Runner :=
  match first with
  | (.next, r) => act r
  | ended => ended

/-- Go on with an exit code. -/
def finish (r : Runner) (code : Nat) : Flow × Runner :=
  (.next, { r with status := code })

/-- What stands before a report about a line. -/
def origin (r : Runner) (line : Nat) : String :=
  r.name ++ ": " ++ toString line ++ ": "

/-- Report something about a line and go on with an exit code. -/
def fail (r : Runner) (line : Nat) (report : String) (code : Nat) : Flow × Runner :=
  (r.complain (r.origin line ++ report ++ "\n")).finish code

/-! ### Redirections -/

/-- The report of a file that could not be opened. -/
def openReport (mode : OpenMode) (path : String) (cause : SystemError) : String :=
  match mode, cause with
  | .read, .noSuchFile => "cannot open " ++ path ++ ": No such file"
  | .read, cause => "cannot open " ++ path ++ ": " ++ cause.description.2
  | _, .noSuchFile => "cannot create " ++ path ++ ": Directory nonexistent"
  | _, cause => "cannot create " ++ path ++ ": " ++ cause.description.2

/-- Carry out one redirection. -/
def reconnect (r : Runner) (rule : Reconnection) : Except String Runner :=
  match rule.connection with
  | .file mode path =>
      let path := r.text path
      match r.machine.tree.openFile r.cwd mode path with
      | .error e => .error (openReport mode path e)
      | .ok (file, tree) =>
          .ok ({ r with machine.tree := tree }.connectFile rule.descriptor file)
  | .copy descriptor =>
      match r.text descriptor with
      | "-" => .ok { r with descriptors := r.descriptors.filter (·.1 ≠ rule.descriptor) }
      | text =>
          match text.toNat?.bind fun n => r.descriptors.lookup n with
          | none => .error (text ++ ": Bad file descriptor")
          | some endpoint => .ok (r.connect rule.descriptor endpoint)

/-- Carry out redirections; the report of the first that cannot be comes with what was done. -/
def reconnectAll (r : Runner) : List Reconnection → Option String × Runner
  | [] => (none, r)
  | rule :: rest =>
      match r.reconnect rule with
      | .error report => (some report, r)
      | .ok r => r.reconnectAll rest

/-- Run something with redirections and take them back afterwards. -/
def within (r : Runner) (line : Nat) (rules : List Reconnection)
    (act : Runner → Flow × Runner) : Flow × Runner :=
  match r.reconnectAll rules with
  | (some report, after) =>
      { after with descriptors := r.descriptors }.fail line report refusedCode
  | (none, inner) =>
      let (flow, after) := act inner
      (flow, { after with descriptors := r.descriptors })

/-! ### Programs of their own -/

/-- The runner that starts where another one is, to run a program. -/
def offspring (r : Runner) : Runner :=
  { machine := r.machine
    cwd := r.cwd
    files := r.files
    descriptors := r.descriptors
    vars := r.environment
    exported := r.exported }

/-- The runner after a program of its own ended. -/
def resume (r : Runner) (ending : Ending) (child : Runner) : Flow × Runner :=
  { r with machine := child.machine, files := child.files }.finish ending.code

/-- The directories in which programs are searched when the variables do not say so. -/
def standardSearch : String :=
  "/usr/local/sbin:/usr/local/bin:/usr/sbin:/usr/bin:/sbin:/bin"

/-- The path of the program that a command names. -/
def programPath? (r : Runner) (name : String) : Option String :=
  if name.toList.contains '/' then some name
  else
    let list := (r.vars.lookup "PATH").getD standardSearch
    ((list.splitOn ":").map (Path.join · name)).find? fun path =>
      r.machine.tree.isExecutable r.cwd path

/-- The tool that a program runs; a file that is no program is a script. -/
def imageOf (r : Runner) (path : String) (argv : List String) : Except SystemError Image :=
  match r.machine.tree.image r.cwd path argv with
  | .error .badProgramFormat => .ok ⟨.interpreter, "/bin/sh" :: path :: argv.tail⟩
  | result => result

/-- Copy what a descriptor gives to the output. -/
def copyThrough (r : Runner) (label : String) (descriptor : Nat) : Nat × Runner :=
  match r.read descriptor (r.available descriptor + 1) with
  | (.error e, r) => (1, r.complain ("cat: " ++ label ++ ": " ++ e.description.2 ++ "\n"))
  | (.ok bytes, r) =>
      match r.write 1 bytes with
      | (true, r) => (0, r)
      | (false, r) => (1, r.complain "cat: write error: No space left on device\n")

/-- The descriptor through which one file after another is copied. -/
def copyDescriptor : Nat := 3

/-- Copy files, and the input for a dash, to the output. -/
def copyFiles (r : Runner) (code : Nat) : List String → Nat × Runner
  | [] => (code, r)
  | "-" :: rest =>
      let (one, r) := r.copyThrough "-" 0
      r.copyFiles (max code one) rest
  | path :: rest =>
      match r.machine.tree.openFile r.cwd .read path with
      | .error e =>
          (r.complain ("cat: " ++ path ++ ": " ++ e.description.2 ++ "\n")).copyFiles 1 rest
      | .ok (file, _) =>
          let (one, r) := (r.connectFile copyDescriptor file).copyThrough path copyDescriptor
          r.copyFiles (max code one) rest

/-! ### Statements -/

/-- More steps than a script can take that reads the input and the files at most once. -/
def bound (r : Runner) (script : List Char) : Nat :=
  r.machine.tree.entries.foldl
    (fun size entry => match entry with
      | (_, .file _ content) => size + content.length
      | _ => size)
    (1024 + script.length + r.machine.console.input.length)

/-- A runner that is to interpret a script. -/
def beginScript (r : Runner) (name : String) (arguments : List String) : Runner :=
  { r with name, arguments }.assign "PWD" r.cwd.path

mutual

/-- Run a statement. -/
def run : Nat → Statement → Runner → Flow × Runner
  | 0, _, r => (.leave refusedCode, r)
  | steps + 1, statement, r =>
      match statement with
      | .nothing => (.next, r)
      | .simple command => runSimple steps command r
      | .sequence first second => chain (run steps first r) (run steps second)
      | .andThen first second =>
          chain (run steps first r) fun r => if r.status = 0 then run steps second r else (.next, r)
      | .orElse first second =>
          chain (run steps first r) fun r => if r.status = 0 then (.next, r) else run steps second r
      | .negation body =>
          chain (run steps body r) fun r => r.finish (if r.status = 0 then 1 else 0)
      | .condition test yes no =>
          chain (run steps test r) fun r =>
            if r.status = 0 then run steps yes { r with status := 0 }
            else run steps no { r with status := 0 }
      | .repetition whileSucceeds test body => runRepeated steps whileSucceeds test body 0 r
      | .iteration name words body =>
          let values := match words with
            | none => r.arguments
            | some phrases => phrases.flatMap r.fields
          runEach steps name body values { r with status := 0 }
      | .group body rules => r.within 1 rules (run steps body)

/-- Run a body as long as the test says so; `last` is the exit code of the body so far. -/
def runRepeated : Nat → Bool → Statement → Statement → Nat → Runner → Flow × Runner
  | 0, _, _, _, _, r => (.leave refusedCode, r)
  | steps + 1, whileSucceeds, test, body, last, r =>
      chain (run steps test r) fun r =>
        if (r.status = 0) = whileSucceeds then
          chain (run steps body r) fun r =>
            runRepeated steps whileSucceeds test body r.status r
        else r.finish last

/-- Run a body for each value of a variable. -/
def runEach : Nat → String → Statement → List String → Runner → Flow × Runner
  | 0, _, _, _, r => (.leave refusedCode, r)
  | _, _, _, [], r => (.next, r)
  | steps + 1, name, body, value :: values, r =>
      chain (run steps body (r.assign name value)) (runEach steps name body values)

/-- Run a simple command. -/
def runSimple : Nat → Simple → Runner → Flow × Runner
  | 0, _, r => (.leave refusedCode, r)
  | steps + 1, command, r =>
      r.within command.line command.reconnections fun inner =>
        let assigned := command.assignments.foldl
          (fun r (name, phrase) => r.assign name (r.text phrase)) inner
        match command.words.flatMap r.fields with
        | [] => assigned.finish 0
        | name :: arguments =>
            match Utility.run? assigned command.line name arguments with
            | some (.code code, r) => r.finish code
            | some (.leave code, r) => (.leave code, r)
            | some (.killed signal, r) => (.killed signal, r)
            | none =>
                let given :=
                  { assigned with
                    exported := command.assignments.map Prod.fst ++ assigned.exported }
                match runProgram steps name arguments given with
                | .error .noSuchFile => inner.fail command.line (name ++ ": not found") 127
                | .error e => inner.fail command.line (name ++ ": " ++ e.description.2) 126
                | .ok (ending, child) => inner.resume ending child

/-- Run a program that a command names. -/
def runProgram : Nat → String → List String → Runner → Except SystemError (Ending × Runner)
  | 0, _, _, r => .ok (.exited refusedCode, r)
  | steps + 1, name, arguments, r =>
      match r.programPath? name with
      | none => .error .noSuchFile
      | some path =>
          match r.imageOf path (name :: arguments) with
          | .error e => .error e
          | .ok image => .ok (perform steps image r.offspring)

/-- Run a tool. -/
def perform : Nat → Image → Runner → Ending × Runner
  | 0, _, r => (.exited refusedCode, r)
  | steps + 1, image, r =>
      match image.tool, image.argv with
      | .concatenate, argv =>
          let (code, r) := r.copyFiles 0 (if argv.tail = [] then ["-"] else argv.tail)
          (.exited code, r)
      | .interpreter, name :: "-c" :: [] =>
          (.exited refusedCode, r.complain (name ++ ": 0: -c requires an argument\n"))
      | .interpreter, name :: "-c" :: text :: rest =>
          interpret steps text
            (r.beginScript (rest.head?.getD name) rest.tail)
      | .interpreter, name :: path :: rest =>
          match r.machine.tree.openFile r.cwd .read path with
          | .error e =>
              (.exited refusedCode,
                r.complain (name ++ ": 0: " ++ openReport .read path e ++ "\n"))
          | .ok (file, tree) =>
              match tree.readRest file with
              | .error _ => interpret steps "" (r.beginScript path rest)
              | .ok (bytes, _) =>
                  interpret steps (bytes.text?.getD "") (r.beginScript path rest)
      | .interpreter, argv =>
          match r.read 0 (r.available 0 + 1) with
          | (.error _, r) => (.exited refusedCode, r)
          | (.ok bytes, r) =>
              interpret steps (bytes.text?.getD "") (r.beginScript (argv.head?.getD "sh") [])

/-- Run the script that a text spells. -/
def interpret : Nat → String → Runner → Ending × Runner
  | 0, _, r => (.exited refusedCode, r)
  | steps + 1, text, r =>
      match Statement.ofText? text.toList with
      | none => (.exited refusedCode, r.complain (r.origin 1 ++ "Syntax error\n"))
      | some statement =>
          let (flow, r) := run steps statement r
          (flow.ending r, r)

end

/-- Run an image to its end. -/
def performImage (r : Runner) (image : Image) : Ending × Runner :=
  perform (8 * r.bound (image.argv.flatMap String.toList)) image r

end Runner

end Shell.Script
