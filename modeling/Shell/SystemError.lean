/-!
# System errors

Why the system refuses a request about a file, a stream or a program.  An error that has a number
is reported with it; `pieces` gives the report as it is written out, `message` as one text.
-/

namespace Shell

/-- A refusal by the system. -/
inductive SystemError where
  | noSuchFile
  | inputOutput
  | badProgramFormat
  | badDescriptor
  | permissionDenied
  | notDirectory
  | isDirectory
  | noSpace
  | nameTooLong
  | tooManyLinks
  /-- A path holds a NUL character. -/
  | nulInPath
  /-- An argument or a variable of a program holds a NUL character. -/
  | nulInArgument
  /-- Text was expected and the bytes are not well-formed UTF-8. -/
  | notText
  /-- A refusal known only by its report. -/
  | reported (report : String)
  deriving DecidableEq, Repr

namespace SystemError

/-- The number of an error, if it has one, and its name. -/
def description : SystemError → Option Nat × String
  | noSuchFile => (some 2, "No such file or directory")
  | inputOutput => (some 5, "Input/output error")
  | badProgramFormat => (some 8, "Exec format error")
  | badDescriptor => (some 9, "Bad file descriptor")
  | permissionDenied => (some 13, "Permission denied")
  | notDirectory => (some 20, "Not a directory")
  | isDirectory => (some 21, "Is a directory")
  | noSpace => (some 28, "No space left on device")
  | nameTooLong => (some 36, "File name too long")
  | tooManyLinks => (some 40, "Too many levels of symbolic links")
  | nulInPath => (none, "file name contained an unexpected NUL byte")
  | nulInArgument => (none, "nul byte found in provided data")
  | notText => (none, "stream did not contain valid UTF-8")
  | reported report => (none, report)

/-- The parts of the report, in the order in which they are written. -/
def pieces (error : SystemError) : List String :=
  match error.description with
  | (some number, name) => [name, " (os error ", toString number, ")"]
  | (none, name) => [name]

/-- The report in one text. -/
def message (error : SystemError) : String :=
  String.join error.pieces

end SystemError

end Shell
