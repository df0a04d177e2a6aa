import Shell.Search
import Shell.World

/-!
# Environments

What a session knows by name: its variables and its working directory, both of which it passes on
to the programs it starts.  A variable that is not set here is looked for among those the process
was started with (`Environment.get?`).
-/

namespace Shell

/-- The variables and the working directory of a session. -/
structure Environment where
  vars : List (String × String) := []
  directory : String := "."
  deriving DecidableEq, Repr

namespace Environment

/-- The environment that a process starts with. -/
def ofProcess (w : World) : Environment :=
  { vars := w.vars, directory := w.workingDirectory?.getD "." }

/-- The value of a variable. -/
def get? (env : Environment) (w : World) (name : String) : Option String :=
  env.vars.lookup name <|> w.startValue? name

/-- The variables with one of them changed, or added at the end. -/
def update (name value : String) : List (String × String) → List (String × String)
  | [] => [(name, value)]
  | (n, v) :: rest => if n = name then (n, value) :: rest else (n, v) :: update name value rest

/-- The environment with a variable set. -/
def set (env : Environment) (name value : String) : Environment :=
  { env with vars := update name value env.vars }

/-- The home directory, if one is named. -/
def home? (env : Environment) (w : World) : Option String :=
  (env.get? w "HOME").filter (· ≠ "")

/-- The path of the program that a name stands for; without a search list there is none. -/
def findExecutable (env : Environment) (w : World) (name : String) : Option String :=
  match env.get? w "PATH" with
  | none => none
  | some list => (Search.program? w.machine.tree w.cwd list name).map Program.path

theorem lookup_update_self (name value : String) (vars : List (String × String)) :
    (update name value vars).lookup name = some value := by
  induction vars with
  | nil => simp [update]
  | cons entry rest ih =>
      obtain ⟨n, v⟩ := entry
      by_cases h : n = name
      · simp [update, h]
      · have e : (name == n) = false := by simpa using Ne.symm h
        simp [update, h, List.lookup_cons, ih, e]

theorem lookup_update_of_ne {name other : String} (h : other ≠ name) (value : String)
    (vars : List (String × String)) :
    (update name value vars).lookup other = vars.lookup other := by
  induction vars with
  | nil => simp [update, h]
  | cons entry rest ih =>
      obtain ⟨n, v⟩ := entry
      by_cases e : n = name
      · subst e
        have apart : (other == n) = false := by simpa using h
        simp [update, List.lookup_cons, apart]
      · simp [update, e, List.lookup_cons, ih]

/-- A variable has the value it was last given. -/
theorem get?_set_self (env : Environment) (w : World) (name value : String) :
    (env.set name value).get? w name = some value := by
  simp [get?, set, lookup_update_self]

end Environment

end Shell
