import Shell.Machine

/-!
# Streams

What a command reads from and writes to.  A writer either collects in memory, or goes to an output
of the console, or to a file (`Writer`).  In front of a file up to `bufferSize` bytes wait, and go
there when the next bytes would not fit or on a flush.  Bytes that are as many as the buffer holds
go to the file directly, after those that wait (`Writer.hold`).  A flush that is refused keeps what
waits.  In front of the console's output a line waits until it ends, but no more than
`lineBufferSize` bytes; nothing waits in front of its error output (`Writer.write`).

A reader takes from its source in blocks of `bufferSize` and hands out what it has taken
(`Reader`): a line, a block or the rest.  A reader of a text in memory is one that has taken
everything already.
-/

namespace Shell

/-- The bytes that a buffer holds. -/
def bufferSize : Nat := 8192

/-- The bytes that can wait for their line to end. -/
def lineBufferSize : Nat := 1024

/-- Where written bytes go. -/
inductive Writer where
  | memory (collected : Bytes)
  | console (channel : Channel) (waiting : Bytes)
  | buffered (file : OpenFile) (waiting : Bytes)
  deriving DecidableEq, Repr

/-- Something that is done with a writer, and may be refused. -/
abbrev Writer.Act := Writer → Machine → Except SystemError Unit × Writer × Machine

/-- One thing after another, up to a refusal. -/
def Writer.Act.andThen (first second : Writer.Act) : Writer.Act := fun writer machine =>
  match first writer machine with
  | (.error e, writer, machine) => (.error e, writer, machine)
  | (.ok (), writer, machine) => second writer machine

namespace Writer

/-- The bytes that wait. -/
def waiting : Writer → Bytes
  | .memory _ => []
  | .console _ waiting | .buffered _ waiting => waiting

/-- The writer with other bytes waiting. -/
def withWaiting (writer : Writer) (waiting : Bytes) : Writer :=
  match writer with
  | .memory collected => .memory collected
  | .console channel _ => .console channel waiting
  | .buffered file _ => .buffered file waiting

/-- How many bytes can wait. -/
def room : Writer → Nat
  | .memory _ | .console .error _ => 0
  | .console .output _ => lineBufferSize
  | .buffered _ _ => bufferSize

/-- Give bytes to what the writer goes to, past those that wait. -/
def send (writer : Writer) (machine : Machine) (bytes : Bytes) :
    Except SystemError Unit × Writer × Machine :=
  match writer with
  | .memory collected => (.ok (), .memory (collected ++ bytes), machine)
  | .console channel _ =>
      match machine.console.pass channel bytes with
      | .error e => (.error e, writer, machine)
      | .ok after => (.ok (), writer, { machine with console := after })
  | .buffered file waiting =>
      match machine.tree.write file bytes with
      | .error e => (.error e, writer, machine)
      | .ok (file, tree) => (.ok (), .buffered file waiting, { machine with tree })

/-- Send what waits. -/
def flush (writer : Writer) (machine : Machine) : Except SystemError Unit × Writer × Machine :=
  if writer.waiting = [] then (.ok (), writer, machine)
  else match writer.send machine writer.waiting with
    | (.error e, writer, machine) => (.error e, writer, machine)
    | (.ok (), writer, machine) => (.ok (), writer.withWaiting [], machine)

/-- Take bytes whose place in the buffer is certain, or pass on those that fill one. -/
def accept (writer : Writer) (machine : Machine) (bytes : Bytes) :
    Except SystemError Unit × Writer × Machine :=
  if bytes.length < writer.room then
    (.ok (), writer.withWaiting (writer.waiting ++ bytes), machine)
  else writer.send machine bytes

/-- Let bytes wait if there is room, after those that wait were sent if there is not. -/
def hold (writer : Writer) (machine : Machine) (bytes : Bytes) :
    Except SystemError Unit × Writer × Machine :=
  if writer.room < writer.waiting.length + bytes.length then
    Act.andThen flush (accept · · bytes) writer machine
  else writer.accept machine bytes

/-- Send whole lines, those that wait before them first. -/
def sendLines (writer : Writer) (machine : Machine) (lines : Bytes) :
    Except SystemError Unit × Writer × Machine :=
  if lines = [] then
    -- a line that has ended still waits where it was refused
    if writer.waiting.getLast? = some Bytes.newline then writer.flush machine
    else (.ok (), writer, machine)
  else if writer.waiting = [] then writer.send machine lines
  else Act.andThen (hold · · lines) flush writer machine

/-- Write bytes. -/
def write (writer : Writer) (machine : Machine) (bytes : Bytes) :
    Except SystemError Unit × Writer × Machine :=
  match writer with
  | .console .output _ =>
      let (lines, rest) := bytes.splitLines
      Act.andThen (sendLines · · lines) (hold · · rest) writer machine
  | _ => writer.hold machine bytes

end Writer

/-- Where a reader takes its blocks from. -/
inductive Source where
  | nothing
  | console
  | opened (file : OpenFile)
  deriving DecidableEq, Repr

namespace Source

/-- Take at most so many bytes. -/
def take (source : Source) (machine : Machine) (count : Nat) :
    Except SystemError Bytes × Source × Machine :=
  match source with
  | .nothing => (.ok [], source, machine)
  | .console =>
      (.ok (machine.console.input.take count), source,
        { machine with console.input := machine.console.input.drop count })
  | .opened file =>
      match machine.tree.read file count with
      | .error e => (.error e, source, machine)
      | .ok (bytes, file) => (.ok bytes, .opened file, machine)

/-- Take everything that is left. -/
def takeRest (source : Source) (machine : Machine) :
    Except SystemError Bytes × Source × Machine :=
  match source with
  | .opened file =>
      match machine.tree.readRest file with
      | .error e => (.error e, source, machine)
      | .ok (bytes, file) => (.ok bytes, .opened file, machine)
  | _ => source.take machine machine.console.input.length

/-- No more blocks than this many can hold any bytes. -/
def bound (source : Source) (machine : Machine) : Nat :=
  match source with
  | .nothing => 0
  | .console => machine.console.input.length
  | .opened file =>
      match machine.tree.get? file.location with
      | some (.file _ content) => content.length
      | _ => 0

end Source

/-- A source and the bytes taken from it that nobody has asked for yet. -/
structure Reader where
  source : Source := .nothing
  ahead : Bytes := []
  deriving DecidableEq, Repr

namespace Reader

/-- Take a block if nothing is at hand. -/
def fill (reader : Reader) (machine : Machine) : Except SystemError Unit × Reader × Machine :=
  if reader.ahead ≠ [] then (.ok (), reader, machine)
  else match reader.source.take machine bufferSize with
    | (.error e, source, machine) => (.error e, { reader with source }, machine)
    | (.ok ahead, source, machine) => (.ok (), { source, ahead }, machine)

/-- Read at most so many bytes with one request. -/
def readBlock (reader : Reader) (machine : Machine) (count : Nat) :
    Except SystemError Bytes × Reader × Machine :=
  if reader.ahead = [] && bufferSize ≤ count then
    match reader.source.take machine count with
    | (result, source, machine) => (result, { reader with source }, machine)
  else match reader.fill machine with
    | (.error e, reader, machine) => (.error e, reader, machine)
    | (.ok (), reader, machine) =>
        (.ok (reader.ahead.take count), { reader with ahead := reader.ahead.drop count }, machine)

/-- Read the rest of a line through so many blocks. -/
def readLineWithin (reader : Reader) (machine : Machine) :
    Nat → Except SystemError Bytes × Reader × Machine
  | 0 => (.ok [], reader, machine)
  | blocks + 1 =>
      match reader.fill machine with
      | (.error e, reader, machine) => (.error e, reader, machine)
      | (.ok (), reader, machine) =>
          let (line, ahead) := reader.ahead.splitLine
          let reader := { reader with ahead }
          if line = [] || line.getLast? = some Bytes.newline then (.ok line, reader, machine)
          else match readLineWithin reader machine blocks with
            | (.error e, reader, machine) => (.error e, reader, machine)
            | (.ok more, reader, machine) => (.ok (line ++ more), reader, machine)

/-- Read up to and including the next newline, or to the end where there is none. -/
def readLine (reader : Reader) (machine : Machine) : Except SystemError Bytes × Reader × Machine :=
  reader.readLineWithin machine (reader.source.bound machine + 2)

/-- Read a line as text.  A line that is no text is gone all the same. -/
def readTextLine (reader : Reader) (machine : Machine) :
    Except SystemError String × Reader × Machine :=
  match reader.readLine machine with
  | (.error e, reader, machine) => (.error e, reader, machine)
  | (.ok line, reader, machine) =>
      match line.text? with
      | none => (.error .notText, reader, machine)
      | some text => (.ok text, reader, machine)

/-- Read everything that is left. -/
def readRest (reader : Reader) (machine : Machine) : Except SystemError Bytes × Reader × Machine :=
  match reader.source.takeRest machine with
  | (.error e, source, machine) => (.error e, { source, ahead := [] }, machine)
  | (.ok bytes, source, machine) => (.ok (reader.ahead ++ bytes), { source, ahead := [] }, machine)

end Reader

end Shell
