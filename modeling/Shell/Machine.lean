import Shell.FileTree.Open

/-!
# Machines

What a session shares with the programs it starts: the files, and the console with its input and
its two outputs.  Everything a program can change is here, and nothing else is.

An output of the console takes all bytes or none: what it leads to may be full or gone
(`Console.refusal?`).  Nothing that a session does changes that.
-/

namespace Shell

/-- The outputs of the console. -/
inductive Channel where
  | output
  | error
  deriving DecidableEq, Repr

/-- What the outputs of a console were given. -/
structure Outputs where
  output : Bytes := []
  error : Bytes := []
  deriving DecidableEq, Repr

/-- The standard streams that a session was started with. -/
structure Console extends Outputs where
  /-- What nobody has read yet. -/
  input : Bytes := []
  /-- Why the output takes no bytes, if it takes none. -/
  outputRefusal : Option SystemError := none
  /-- Why the error output takes no bytes, if it takes none. -/
  errorRefusal : Option SystemError := none
  deriving DecidableEq, Repr

namespace Console

/-- The console after one of its outputs took some bytes. -/
def write (console : Console) (channel : Channel) (bytes : Bytes) : Console :=
  match channel with
  | .output => { console with output := console.output ++ bytes }
  | .error => { console with error := console.error ++ bytes }

/-- Why one of the outputs takes no bytes, if it takes none. -/
def refusal? (console : Console) : Channel → Option SystemError
  | .output => console.outputRefusal
  | .error => console.errorRefusal

/-- The console after some bytes were given to one of its outputs. -/
def pass (console : Console) (channel : Channel) (bytes : Bytes) : Except SystemError Console :=
  if bytes = [] then .ok console
  else match console.refusal? channel with
    | some e => .error e
    | none => .ok (console.write channel bytes)

theorem write_nil (console : Console) (channel : Channel) : console.write channel [] = console := by
  cases channel <;> simp [write]

theorem write_write (console : Console) (channel : Channel) (bytes more : Bytes) :
    (console.write channel bytes).write channel more = console.write channel (bytes ++ more) := by
  cases channel <;> simp [write, List.append_assoc]

@[simp] theorem refusal?_write (console : Console) (channel other : Channel) (bytes : Bytes) :
    (console.write channel bytes).refusal? other = console.refusal? other := by
  cases channel <;> cases other <;> rfl

/-- An output that takes bytes takes them all. -/
theorem pass_of_free {console : Console} {channel : Channel}
    (free : console.refusal? channel = none) (bytes : Bytes) :
    console.pass channel bytes = .ok (console.write channel bytes) := by
  unfold pass
  split
  · rename_i none
    rw [none, write_nil]
  · rw [free]

theorem eq_write_of_pass {console console' : Console} {channel : Channel} {bytes : Bytes}
    (h : console.pass channel bytes = .ok console') : console' = console.write channel bytes := by
  unfold pass at h
  split at h
  · cases h
    rw [‹bytes = []›, write_nil]
  · split at h <;> cases h
    rfl

/-- Bytes are refused for one reason only. -/
theorem pass_eq_error_iff {console : Console} {channel : Channel} {bytes : Bytes}
    {cause : SystemError} : console.pass channel bytes = .error cause
      ↔ bytes ≠ [] ∧ console.refusal? channel = some cause := by
  unfold pass
  split
  · simp [*]
  · split <;> simp [*]

end Console

/-- The files and the console. -/
structure Machine where
  tree : FileTree := {}
  console : Console := {}
  deriving DecidableEq, Repr

end Shell
