import Shell.Evaluation
import Shell.Text.Grapheme

/-!
# Interactive sessions

Lines are read from the console's input and evaluated until one ends the session or the input ends
(`Session.interact`).  A physical line loses its newline, or its carriage return and newline, and
every backspace takes away the user-perceived character before it (`InputLine.rubOut`).  A line
that ends in a backslash goes on with the next one, the backslash left out; if the input ends there,
what was read of it is dropped.

A record says first how clusters are taken to be shown (`Session.clusterMode`).  Prompts are written
only for a terminal that cannot edit lines; where one is refused, so is the line after it.  A
failure of a line is reported with its causes and does not end the session; blank lines are passed
over.
-/

namespace Shell

namespace InputLine

/-- The character that takes away the one before it. -/
def backspace : Char := '\x08'

/-- A line as it is read: its bytes, and the size of each user-perceived character modulo 256, the
latest first. -/
structure Rub where
  bytes : Bytes := []
  sizes : List Nat := []

/-- Take up one user-perceived character. -/
def Rub.step (rub : Rub) (cluster : List Char) : Rub :=
  if cluster = [backspace] then
    match rub.sizes with
    | [] => rub
    | size :: sizes => { bytes := rub.bytes.take (rub.bytes.length - size), sizes }
  else
    let bytes := Bytes.ofText (String.ofList cluster)
    { bytes := rub.bytes ++ bytes, sizes := bytes.length % 256 :: rub.sizes }

/-- The line with every backspace carried out. -/
def rubOut (line : String) : String :=
  if line.toList.contains backspace then
    ((Text.graphemes line.toList).foldl Rub.step {}).bytes.text?.getD ""
  else line

/-- The characters without the end-of-line marks they may end in. -/
def withoutEnd (line : List Char) : List Char :=
  match line.reverse with
  | '\n' :: '\r' :: rest => rest.reverse
  | '\n' :: rest => rest.reverse
  | _ => line

/-- What a line that was read amounts to. -/
def cleaned (line : String) : String :=
  rubOut (String.ofList (withoutEnd line.toList))

/-- The line without the backslash at its end, if there is one. -/
def continued? (line : String) : Option String :=
  match line.toList.reverse with
  | '\\' :: rest => some (String.ofList rest.reverse)
  | _ => none

end InputLine

namespace Session

/-- The prompt before a line, unless another one is given. -/
def defaultPrompt : String := "$ "

/-- The prompt before a line that goes on another one. -/
def continuationPrompt : String := "> "

/-- The part of a session that reports on reading. -/
def readingTopic : String := "rustyline"

/-- How a terminal is taken to show a cluster of several characters. -/
inductive ClusterMode where
  /-- Each character by itself. -/
  | apart
  /-- As one sign. -/
  | whole
  /-- As one sign, unless a joiner holds it together. -/
  | unjoined
  deriving DecidableEq, Repr

/-- The name by which a record shows it. -/
def ClusterMode.name : ClusterMode → String
  | apart => "WcWidth"
  | whole => "Unicode"
  | unjoined => "NoZwj"

/-- The terminal programs that show a cluster as one sign. -/
def wholePrograms : List String := ["Apple_Terminal", "iTerm.app", "WezTerm"]

/-- The kind of terminal that shows a cluster as one sign unless a joiner holds it together. -/
def unjoinedTerminal : String := "xterm-kitty"

/-- How the terminal is taken to show clusters.  The program that it is decides if it gives its
name, and the kind of terminal otherwise. -/
def clusterMode (w : World) : ClusterMode :=
  match w.startValue? "TERM_PROGRAM" with
  | some program => if wholePrograms.contains program then .whole else .apart
  | none => if w.startValue? "TERM" = some unjoinedTerminal then .unjoined else .apart

/-- Get ready to read lines. -/
def prepareReading (w : World) : World :=
  w.record .debug readingTopic ("GraphemeClusterMode: " ++ (clusterMode w).name)

/-- The terminals that cannot edit lines. -/
def plainTerminals : List String := ["dumb", "cons25", "emacs"]

/-- Whether the terminal is known to be one that cannot edit lines. -/
def hasPlainTerminal (w : World) : Bool :=
  match w.startValue? "TERM" with
  | none => false
  | some terminal => plainTerminals.contains (terminal.map Char.toLower)

/-- Write a prompt if the terminal needs it.  It goes past what the streams of a session keep back,
which is nothing between two lines. -/
def prompt (text : String) : Effect SystemError Unit := fun w =>
  if hasPlainTerminal w then
    let w := w.record .debug readingTopic "unsupported terminal"
    match w.machine.console.pass .output (Bytes.ofText text) with
    | .error e => (.error e, w)
    | .ok console => (.ok (), { w with machine.console := console })
  else (.ok (), w.record .debug readingTopic "stdin is not a tty")

/-- Take a physical line from the input; there is none when the input has ended. -/
def takeLine : Act SystemError (Option String) := fun s =>
  let (result, typed, machine) := s.world.typed.readTextLine s.world.machine
  let s := { s with world := { s.world with typed, machine } }
  match result with
  | .error e => (.error e, s)
  | .ok "" => (.ok none, s)
  | .ok line => (.ok (some (InputLine.cleaned line)), s)

/-- Read a physical line after a prompt. -/
def readLine (promptText : String) : Act SystemError (Option String) := do
  Act.ofEffect (prompt promptText)
  takeLine

/-- The bytes of the console's input that are still to be read. -/
def remaining (w : World) : Nat :=
  w.typed.ahead.length + w.machine.console.input.length

/-- Go on with a line through so many physical lines. -/
def continueLine (line : String) : Nat → Act SystemError (Option String)
  | 0 => return some line
  | more + 1 =>
      match InputLine.continued? line with
      | none => return some line
      | some start => do
          match ← readLine continuationPrompt with
          | none => return none
          | some next => continueLine (start ++ next) more

/-- Read a line together with the lines it goes on with. -/
def readCommand (promptText : String) : Act SystemError (Option String) := do
  match ← readLine promptText with
  | none => return none
  | some line => continueLine line ((← Act.look fun s => remaining s.world) + 1)

/-- End a session. -/
def finish (session : Session) (last : ExitCode) : Act Failure ExitCode := do
  ExceptT.adapt Failure.stream (Act.ofEffect session.io.flush)
  return last

/-- Read and evaluate at most so many lines. -/
def interactWithin (session : Session) (promptText : String) (last : ExitCode) :
    Nat → Act Failure ExitCode
  | 0 => session.finish last
  | lines + 1 => do
      match ← ExceptT.adapt Failure.reading (readCommand promptText) with
      | none => session.finish last
      | some line =>
          if Text.isBlankLine line then session.interactWithin promptText last lines
          else match ← Act.attempt (session.evaluate line) with
            | .ok outcome =>
                if outcome.terminate then session.finish outcome.exitCode
                else session.interactWithin promptText outcome.exitCode lines
            | .error failure => do
                session.report failure.chain
                session.interactWithin promptText exitRefused lines

/-- Go on reading and evaluating lines until the session ends; `last` is the exit code of the line
before. -/
def resume (session : Session) (promptText : String) (last : ExitCode) : Act Failure ExitCode := do
  session.interactWithin promptText last ((← Act.look fun s => remaining s.world) + 1)

/-- Read and evaluate lines until the session ends; the exit code is that of the last line. -/
def interact (session : Session) (promptText : String) : Act Failure ExitCode := do
  Act.change prepareReading
  session.resume promptText 0

end Session

end Shell
