import Shell.Environment
import Shell.Launch

/-!
# Sessions

The parts of a session.  What stays the same from line to line is its `Session`: the builtins that
are registered, the streams that commands start from, and the launcher.  What changes is the
`SessionState`: the world, the environment, and the requests that were made to the launcher.

An `Act` takes a state to a result and a state; what it did before a failure stays done.
-/

namespace Shell

/-- The commands that the shell runs itself. -/
inductive Builtin where
  | cd
  | echo
  | exit
  | pwd
  | type
  deriving DecidableEq, Repr

namespace Builtin

/-- Every builtin, in the order of their names. -/
def all : List Builtin :=
  [cd, echo, exit, pwd, type]

/-- The name of a builtin. -/
def name : Builtin → String
  | cd => "cd"
  | echo => "echo"
  | exit => "exit"
  | pwd => "pwd"
  | type => "type"

end Builtin

/-- The registered builtins. -/
structure Registry where
  builtins : List Builtin := Builtin.all
  deriving DecidableEq, Repr

namespace Registry

/-- The registered builtin of a name. -/
def find? (registry : Registry) (name : String) : Option Builtin :=
  registry.builtins.find? (·.name = name)

/-- Whether a name is that of a registered builtin. -/
def contains (registry : Registry) (name : String) : Bool :=
  (registry.find? name).isSome

/-- The registered names, each once, in their order. -/
def names (registry : Registry) : List String :=
  (Builtin.all.filter (· ∈ registry.builtins)).map Builtin.name

end Registry

/-- What stays the same from line to line. -/
structure Session where
  registry : Registry := {}
  /-- The streams that commands start from. -/
  io : Binding
  launcher : Launcher

/-- What changes from line to line. -/
structure SessionState where
  world : World := {}
  environment : Environment := {}
  /-- The requests made to the launcher, in order. -/
  requests : List LaunchRequest := []
  deriving DecidableEq, Repr

/-- What a line came to: an exit code, and whether the session ends with it. -/
structure Outcome where
  exitCode : ExitCode
  terminate : Bool := false
  deriving DecidableEq, Repr

/-- Whether a line succeeded. -/
def Outcome.success (outcome : Outcome) : Bool :=
  outcome.exitCode = 0

/-- A step of a session that may fail. -/
abbrev Act (ε α : Type) := ExceptT ε (StateM SessionState) α

namespace Act

/-- The result of a step and the state after it. -/
def on {ε α : Type} (act : Act ε α) (s : SessionState) : Except ε α × SessionState :=
  act s

/-- The step that a request to the world is. -/
def ofEffect {ε α : Type} (effect : Effect ε α) : Act ε α := fun s =>
  let (result, world) := effect s.world
  (result, { s with world })

/-- The step that changes the world and cannot fail. -/
def change {ε : Type} (f : World → World) : Act ε Unit := fun s =>
  (.ok (), { s with world := f s.world })

/-- The step whose result says whether another one failed. -/
def attempt {ε ε' α : Type} (act : Act ε α) : Act ε' (Except ε α) := fun s =>
  let (result, s) := act s
  (.ok result, s)

/-- The step that looks at the state. -/
def look {ε α : Type} (f : SessionState → α) : Act ε α := fun s =>
  (.ok (f s), s)

end Act

end Shell
