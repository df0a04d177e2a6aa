import Shell.World

/-!
# Bindings

The three streams that a command runs with.  A binding owns the streams that were opened for it and
borrows the others from the binding around it (`Ownership`).  Output and error may be one stream
(`Binding.isMerged`).

* `Binding.flush` sends on what either output keeps back, owned or not.
* `Binding.discard` ends a binding: what its own streams keep back is sent on, and a refusal is
  logged.  Afterwards nothing refers to those streams any more, so a last attempt is made for each.
* `Binding.release` does the same and gives the refusal to the caller too.
-/

namespace Shell

/-- Which streams of a binding were opened for it. -/
structure Ownership where
  input : Bool := false
  output : Bool := false
  error : Bool := false
  deriving DecidableEq, Repr, Inhabited

/-- Whether any stream was opened. -/
def Ownership.any (owned : Ownership) : Bool :=
  owned.input || owned.output || owned.error

/-- The streams of a command. -/
structure Binding where
  input : ReaderId
  output : WriterId
  error : WriterId
  owned : Ownership := {}
  deriving DecidableEq, Repr

namespace Binding

/-- Whether output and error are one stream. -/
def isMerged (io : Binding) : Bool :=
  io.output = io.error

/-- Send on what the outputs keep back. -/
def flush (io : Binding) : Effect SystemError Unit := do
  World.flush io.output
  if !io.isMerged then World.flush io.error

/-- Send on what the outputs that were opened for this binding keep back, up to the first
refusal. -/
def flushOwned (io : Binding) : Effect SystemError Unit := do
  if io.owned.output then World.flush io.output
  if io.owned.error && !(io.owned.output && io.isMerged) then World.flush io.error

/-- Send on what a stream keeps back and overlook a refusal. -/
def settle (id : WriterId) (w : World) : World :=
  ((World.flush id).on w).2

/-- End a binding. -/
def discard (io : Binding) (w : World) : World :=
  let (result, w) := io.flushOwned.on w
  let w := match result with
    | .ok () => w
    | .error e => w.warn ("failed to flush redirected stream: " ++ e.message)
  let w := if io.owned.output then settle io.output w else w
  if io.owned.error then settle io.error w else w

/-- End a binding and report what its own streams could not send on. -/
def release (io : Binding) : Effect SystemError Unit := fun w =>
  let (result, w) := io.flushOwned.on w
  (result, io.discard w)

/-- A binding over memory that owns nothing, and the world with its streams: an input text to read,
and two collectors. -/
def overMemory (input : Bytes) (w : World) : Binding × World :=
  let (reader, w) := w.addReader { ahead := input }
  let (output, w) := w.addWriter (.memory [])
  let (error, w) := w.addWriter (.memory [])
  ({ input := reader, output, error }, w)

/-- A binding over the console that owns nothing, and the world with its streams. -/
def overConsole (w : World) : Binding × World :=
  let (reader, w) := w.addReader { source := .console }
  let (output, w) := w.addWriter (.console .output [])
  let (error, w) := w.addWriter (.console .error [])
  ({ input := reader, output, error }, w)

end Binding

end Shell
