import Shell.Log
import Shell.Stream

/-!
# The world of a session

The machine together with what belongs to the shell's own process: its working directory, the
variables it was started with, its open streams and its log.  Streams are named by their number
(`WriterId`, `ReaderId`), so that two roles can share one stream.

A request that may be refused is an `Effect`: it takes a world to a result and a world, and what it
did before a refusal stays done.
-/

namespace Shell

/-- The number of a stream that is written. -/
abbrev WriterId := Nat

/-- The number of a stream that is read. -/
abbrev ReaderId := Nat

/-- The state that one shell process works on. -/
structure World where
  machine : Machine := {}
  /-- The working directory of the process. -/
  cwd : Location := []
  /-- The directories that the system does not let the process enter, each with its refusal. -/
  barred : List (Location × SystemError) := []
  /-- The variables the process was started with. -/
  vars : List (String × String) := []
  writers : List Writer := []
  readers : List Reader := []
  /-- The standard input as the process reads it. -/
  typed : Reader := { source := .console }
  log : Log := {}
  deriving DecidableEq, Repr

/-! ### What is found under other names -/

/-- The open file, under another location. -/
def OpenFile.moved (move : Location → Location) (file : OpenFile) : OpenFile :=
  { file with location := move file.location }

/-- The stream, with its file under another location. -/
def Writer.moved (move : Location → Location) : Writer → Writer
  | .buffered file waiting => .buffered (file.moved move) waiting
  | writer => writer

/-- The stream, with its file under another location. -/
def Reader.moved (move : Location → Location) (reader : Reader) : Reader :=
  match reader.source with
  | .opened file => { reader with source := .opened (file.moved move) }
  | _ => reader

/-- What the process uses, under other locations.  The standard input is in no directory. -/
def World.moved (w : World) (move : Location → Location) : World :=
  { w with
    cwd := move w.cwd
    barred := w.barred.map fun (location, refusal) => (move location, refusal)
    writers := w.writers.map (Writer.moved move)
    readers := w.readers.map (Reader.moved move) }

/-! ### Requests -/

/-- A request to the world that may be refused. -/
abbrev Effect (ε α : Type) := ExceptT ε (StateM World) α

/-- The result of a request and the world after it. -/
def Effect.on {ε α : Type} (effect : Effect ε α) (w : World) : Except ε α × World :=
  effect w

/-- The console after its error output was given some bytes; a refusal is nobody's concern. -/
def Console.shown (console : Console) (bytes : Bytes) : Console :=
  (console.pass .error bytes).toOption.getD console

theorem Console.shown_eq (console : Console) (bytes : Bytes) :
    console.shown bytes = console ∨ console.shown bytes = console.write .error bytes := by
  unfold shown
  cases passed : console.pass .error bytes with
  | error => exact .inl rfl
  | ok after => exact .inr (eq_write_of_pass passed)

theorem Console.input_shown (console : Console) (bytes : Bytes) :
    (console.shown bytes).input = console.input := by
  rcases console.shown_eq bytes with same | written
  · rw [same]
  · rw [written]
    rfl

theorem Console.refusal?_shown (console : Console) (bytes : Bytes) :
    (console.shown bytes).refusal? = console.refusal? := by
  rcases console.shown_eq bytes with same | written
  · rw [same]
  · rw [written]
    exact funext (console.refusal?_write .error · bytes)

namespace World

/-- Keep a record, and show it where the log has a display. -/
def record (w : World) (level : Level) (topic message : String) : World :=
  if w.log.keeps level then
    let entry : LogRecord := { level, topic, message }
    let machine := match w.log.display with
      | none => w.machine
      | some display =>
          { w.machine with
            console := w.machine.console.shown (Bytes.ofText (display.line entry)) }
    { w with machine, log := { w.log with records := w.log.records ++ [entry] } }
  else w

/-- The topic of warnings; no display shows it. -/
def warningTopic : String := "shell"

/-- Keep a warning. -/
def warn (w : World) (message : String) : World :=
  w.record .warn warningTopic message

/-- Whether a name can be that of a process variable. -/
def isVariableName (name : String) : Bool :=
  name ≠ "" && !name.toList.contains '=' && !name.toList.contains '\x00'

/-- The value of a variable that the process was started with. -/
def startValue? (w : World) (name : String) : Option String :=
  if isVariableName name then w.vars.lookup name else none

/-- The working directory of the process, unless it was removed. -/
def workingDirectory? (w : World) : Option String :=
  if w.machine.tree.isLiveDirectory w.cwd then some w.cwd.path else none

/-- A new stream that is written. -/
def addWriter (w : World) (writer : Writer) : WriterId × World :=
  (w.writers.length, { w with writers := w.writers ++ [writer] })

/-- A new stream that is read. -/
def addReader (w : World) (reader : Reader) : ReaderId × World :=
  (w.readers.length, { w with readers := w.readers ++ [reader] })

/-- Do something with a stream that is written. -/
def useWriter (id : WriterId)
    (act : Writer → Machine → Except SystemError Unit × Writer × Machine) :
    Effect SystemError Unit := fun w =>
  match w.writers[id]? with
  | none => (.ok (), w)
  | some writer =>
      let (result, writer, machine) := act writer w.machine
      (result, { w with machine, writers := w.writers.set id writer })

/-- Do something with a stream that is read. -/
def useReader {α : Type} [Inhabited α] (id : ReaderId)
    (act : Reader → Machine → Except SystemError α × Reader × Machine) :
    Effect SystemError α := fun w =>
  match w.readers[id]? with
  | none => (.ok default, w)
  | some reader =>
      let (result, reader, machine) := act reader w.machine
      (result, { w with machine, readers := w.readers.set id reader })

/-- Write bytes to a stream. -/
def write (id : WriterId) (bytes : Bytes) : Effect SystemError Unit :=
  useWriter id fun writer machine => writer.write machine bytes

/-- Write texts to a stream one after another, up to the first that is refused. -/
def print (id : WriterId) (pieces : List String) : Effect SystemError Unit :=
  pieces.forM fun piece => write id (Bytes.ofText piece)

/-- Send on what a stream keeps back. -/
def flush (id : WriterId) : Effect SystemError Unit :=
  useWriter id Writer.flush

/-- Open the file at a path, as seen from the process. -/
def openFile (mode : OpenMode) (path : String) : Effect SystemError OpenFile := fun w =>
  match w.machine.tree.openFile w.cwd mode path with
  | .error e => (.error e, w)
  | .ok (file, tree) => (.ok file, { w with machine.tree := tree })

end World

end Shell
