import Shell.Bytes

/-!
# Log records

A session reports on itself in records of five levels.  `Log.filter` is the least urgent level that
is kept; a log with a display also writes each kept record to the console as one line
(`Display.line`), in the colour of its level where colours are on.
-/

namespace Shell

/-- How urgent a record is. -/
inductive Level where
  | error
  | warn
  | info
  | debug
  | trace
  deriving DecidableEq, Repr

namespace Level

/-- The place of a level, the most urgent first. -/
def rank : Level → Nat
  | error => 1
  | warn => 2
  | info => 3
  | debug => 4
  | trace => 5

/-- The name of a level as a record shows it. -/
def name : Level → String
  | error => "ERROR"
  | warn => "WARN"
  | info => "INFO"
  | debug => "DEBUG"
  | trace => "TRACE"

/-- The terminal's number for the colour of a level. -/
def colour : Level → String
  | error => "31"
  | warn => "33"
  | info => "34"
  | debug => "36"
  | trace => "37"

end Level

/-- One report. -/
structure LogRecord where
  level : Level
  /-- The part of the session that reports. -/
  topic : String
  message : String
  deriving DecidableEq, Repr

/-- How records are shown on the console. -/
inductive Display where
  | plain
  | coloured
  deriving DecidableEq, Repr

/-- The line that shows a record.  From `debug` on, the thread and the topic are shown too. -/
def Display.line (display : Display) (record : LogRecord) : String :=
  let tag := "[" ++ record.level.name ++ "] "
  let tag := match display with
    | .plain => tag
    | .coloured => "\x1b[0m\x1b[" ++ record.level.colour ++ "m" ++ tag ++ "\x1b[0m"
  let origin := if Level.debug.rank ≤ record.level.rank then "(1) " ++ record.topic ++ ": " else ""
  tag ++ origin ++ record.message ++ "\n"

/-- The records of a session and what becomes of new ones. -/
structure Log where
  /-- The least urgent level that is kept; with none, nothing is. -/
  filter : Option Level := some .warn
  /-- Whether kept records are shown as well. -/
  display : Option Display := none
  records : List LogRecord := []
  deriving DecidableEq, Repr

/-- Whether records of a level are kept. -/
def Log.keeps (log : Log) (level : Level) : Bool :=
  match log.filter with
  | none => false
  | some least => level.rank ≤ least.rank

/-- The messages of the kept warnings, in order. -/
def Log.warnings (log : Log) : List String :=
  (log.records.filter (·.level = .warn)).map LogRecord.message

end Shell
