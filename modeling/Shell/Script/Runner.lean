import Shell.Machine
import Shell.Script.Grammar

/-!
# Scripts — the state of a running program

A program that runs has a machine, a directory, descriptors that lead to the console or to open
files, variables, and a name with arguments (`Runner`).  Two descriptors may lead to one open file,
and then share how far it was read or written.  A phrase is expanded into fields by what the
parameters hold (`Runner.fields`).
-/

namespace Shell.Script

/-- How a program ended. -/
inductive Ending where
  | exited (code : Nat)
  | killed (signal : Nat)
  deriving DecidableEq, Repr

/-- Where a descriptor leads. -/
inductive Endpoint where
  | input
  | output (channel : Channel)
  /-- An open file, by its number. -/
  | file (number : Nat)
  deriving DecidableEq, Repr

/-- A program that runs. -/
structure Runner where
  machine : Machine
  cwd : Location
  files : List OpenFile := []
  descriptors : List (Nat × Endpoint) := [(0, .input), (1, .output .output), (2, .output .error)]
  vars : List (String × String) := []
  /-- The variables that programs started from here are given. -/
  exported : List String := []
  name : String := ""
  arguments : List String := []
  /-- The exit code of the last command. -/
  status : Nat := 0
  deriving Repr

namespace Runner

/-- The value of a variable. -/
def value (r : Runner) (name : String) : String :=
  (r.vars.lookup name).getD ""

/-- The runner with a variable set. -/
def assign (r : Runner) (name value : String) : Runner :=
  { r with vars := (name, value) :: r.vars.filter (·.1 ≠ name) }

/-- The variables that a program started from here is given. -/
def environment (r : Runner) : List (String × String) :=
  r.vars.filter fun (name, _) => r.exported.contains name

/-- Write bytes through a descriptor; the result says whether they were taken. -/
def write (r : Runner) (descriptor : Nat) (bytes : Bytes) : Bool × Runner :=
  match r.descriptors.lookup descriptor with
  | some (.output channel) =>
      match r.machine.console.pass channel bytes with
      | .error _ => (false, r)
      | .ok console => (true, { r with machine.console := console })
  | some (.file number) =>
      match r.files[number]? with
      | none => (false, r)
      | some file =>
          match r.machine.tree.write file bytes with
          | .error _ => (false, r)
          | .ok (file, tree) =>
              (true, { r with machine.tree := tree, files := r.files.set number file })
  | some .input | none => (bytes = [], r)

/-- Write a text to the error stream. -/
def complain (r : Runner) (text : String) : Runner :=
  (r.write 2 (Bytes.ofText text)).2

/-- Read at most so many bytes through a descriptor. -/
def read (r : Runner) (descriptor count : Nat) : Except SystemError Bytes × Runner :=
  match r.descriptors.lookup descriptor with
  | some .input =>
      (.ok (r.machine.console.input.take count),
        { r with machine.console.input := r.machine.console.input.drop count })
  | some (.file number) =>
      match r.files[number]? with
      | none => (.error .badDescriptor, r)
      | some file =>
          match r.machine.tree.read file count with
          | .error e => (.error e, r)
          | .ok (bytes, file) => (.ok bytes, { r with files := r.files.set number file })
  | some (.output _) | none => (.error .badDescriptor, r)

/-- How many bytes a descriptor can still give. -/
def available (r : Runner) (descriptor : Nat) : Nat :=
  match r.descriptors.lookup descriptor with
  | some .input => r.machine.console.input.length
  | some (.file number) =>
      match (r.files[number]?).bind fun file => r.machine.tree.get? file.location with
      | some (.file _ content) => content.length
      | _ => 0
  | some (.output _) | none => 0

/-- Read a line byte by byte through at most so many reads; the result says whether it was ended. -/
def readLine (r : Runner) (descriptor : Nat) (line : Bytes) : Nat → (Bytes × Bool) × Runner
  | 0 => ((line, false), r)
  | reads + 1 =>
      match r.read descriptor 1 with
      | (.ok [b], r) =>
          if b = Bytes.newline then ((line, true), r)
          else r.readLine descriptor (line ++ [b]) reads
      | (_, r) => ((line, false), r)

/-- Lead a descriptor somewhere else. -/
def connect (r : Runner) (descriptor : Nat) (endpoint : Endpoint) : Runner :=
  { r with
    descriptors := (descriptor, endpoint) :: r.descriptors.filter (·.1 ≠ descriptor) }

/-- Lead a descriptor to a file that was opened for it. -/
def connectFile (r : Runner) (descriptor : Nat) (file : OpenFile) : Runner :=
  { r with files := r.files ++ [file] }.connect descriptor (.file r.files.length)

/-! ### Expansion -/

/-- What a parameter holds. -/
def parameter (r : Runner) (name : String) : String :=
  match name with
  | "#" => toString r.arguments.length
  | "?" => toString r.status
  | "$" => "1"
  | "!" | "-" => ""
  | "@" | "*" => " ".intercalate r.arguments
  | "0" => r.name
  | name =>
      match name.toNat? with
      | some n => (r.arguments[n - 1]?).getD ""
      | none => r.value name

/-- Whether a character parts fields. -/
def isSeparator (c : Char) : Bool :=
  c = ' ' || c = '\t' || c = '\n'

/-- The fields of a text that is not quoted, and whether it starts and ends between fields. -/
def split (text : String) : List String :=
  ((text.toList.splitBy fun a b => isSeparator a = isSeparator b).filter
    fun run => !(run.head?.any isSeparator)).map String.ofList

/-- The fields so far, the latest first, and the field that is being put together. -/
structure Fields where
  done : List String := []
  current : Option String := none

/-- Put a text to the current field. -/
def Fields.add (f : Fields) (text : String) : Fields :=
  { f with current := some (f.current.getD "" ++ text) }

/-- End the current field. -/
def Fields.cut (f : Fields) : Fields :=
  match f.current with
  | none => f
  | some field => { done := field :: f.done }

/-- Put texts to the fields, the first to the current one and each other to one of its own. -/
def Fields.spread (f : Fields) : List String → Fields
  | [] => f
  | text :: more => more.foldl (fun f text => f.cut.add text) (f.add text)

/-- Put one piece of a phrase to the fields. -/
def Fields.step (r : Runner) (f : Fields) : Piece → Fields
  | .literal text _ => f.add text
  | .parameter "@" true => f.spread r.arguments
  | .parameter name true => f.add (r.parameter name)
  | .parameter name false =>
      let text := r.parameter name
      let f := if text.toList.head?.any isSeparator then f.cut else f
      let f := f.spread (split text)
      if text.toList.getLast?.any isSeparator then f.cut else f

/-- The fields of a phrase. -/
def fields (r : Runner) (phrase : Phrase) : List String :=
  let phrase :=
    if phrase.contains (.parameter "@" true) then phrase.filter (· ≠ .literal "" true) else phrase
  ((phrase.foldl (Fields.step r) {}).cut).done.reverse

/-- The text of a phrase that is not split. -/
def text (r : Runner) (phrase : Phrase) : String :=
  String.join (phrase.map fun
    | .literal text _ => text
    | .parameter name _ => r.parameter name)

end Runner

end Shell.Script
