/-!
# Usage

How a program or a builtin takes its arguments, and the page that says so.  A `Usage` lists options
and positional arguments; reading arguments fills in a value of some type from left to right
(`Usage.read`).

* An argument that starts with a dash is an option, until `--` or a greedy positional argument ends
  the options.
* `help` and `--help` ask for the page wherever an option could stand; after them no option may
  follow, but positional arguments are still read.
* The first argument that does not fit decides the error (`UsageError`).

The page is wrapped to eighty columns, descriptions standing at column twenty (`Usage.page`).
-/

namespace Shell

/-- Why arguments do not fit. -/
inductive UsageError where
  | unrecognized (argument : String)
  | noValue (option : String)
  | badValue (option value reason : String)
  | badPositional (name value reason : String)
  /-- An option after the request for help. -/
  | optionAfterHelp
  deriving DecidableEq, Repr

/-- The report of an error in words. -/
def UsageError.message : UsageError → String
  | unrecognized argument => "Unrecognized argument: " ++ argument ++ "\n"
  | noValue option => "No value provided for option '" ++ option ++ "'.\n"
  | badValue option value reason =>
      "Error parsing option '" ++ option ++ "' with value '" ++ value ++ "': " ++ reason ++ "\n"
  | badPositional name value reason =>
      "Error parsing positional argument '" ++ name ++ "' with value '" ++ value ++ "': " ++ reason
        ++ "\n"
  | optionAfterHelp => "Trailing arguments are not allowed after `help`."

/-- What arguments amount to when they do not ask for the work itself. -/
inductive Refusal where
  /-- The page was asked for. -/
  | help
  | misuse (error : UsageError)
  deriving DecidableEq, Repr

/-- What an option does with the value read so far. -/
inductive OptionAction (α : Type) where
  | switch (set : α → α)
  /-- The option is followed by a value, which may be refused for a reason. -/
  | value (store : String → α → Except String α)

/-- An option. -/
structure OptionRule (α : Type) where
  long : String
  short : Option Char := none
  description : String
  action : OptionAction α

/-- A positional argument. -/
structure PositionalRule (α : Type) where
  name : String
  /-- Takes every argument from here on, whatever it looks like. -/
  greedy : Bool := false
  description : String
  store : String → α → Except String α

/-- How arguments are taken. -/
structure Usage (α : Type) where
  name : String
  summary : String
  options : List (OptionRule α) := []
  positionals : List (PositionalRule α) := []

namespace OptionRule

/-- The long form. -/
def longForm {α : Type} (rule : OptionRule α) : String :=
  "--" ++ rule.long

/-- Whether an argument is this option. -/
def isSpelled {α : Type} (rule : OptionRule α) (argument : String) : Bool :=
  argument = rule.longForm || (rule.short.any fun c => argument = "-" ++ c.toString)

/-- The option in the first line of the page. -/
def usage {α : Type} (rule : OptionRule α) : String :=
  let form := match rule.short with
    | some c => "-" ++ c.toString
    | none => rule.longForm
  match rule.action with
  | .switch _ => "[" ++ form ++ "]"
  | .value _ => "[" ++ form ++ " <" ++ rule.long ++ ">]"

/-- The option in the list of options. -/
def label {α : Type} (rule : OptionRule α) : String :=
  match rule.short with
  | some c => "-" ++ c.toString ++ ", " ++ rule.longForm
  | none => rule.longForm

end OptionRule

namespace Usage

/-- Whether an argument asks for the page. -/
def asksHelp (argument : String) : Bool :=
  argument = "--help" || argument = "help"

/-- Whether an argument has the look of an option. -/
def isDashed (argument : String) : Bool :=
  argument.toList.head? = some '-'

/-- Read arguments into a value; `positionals` are those that no argument was taken for yet. -/
def readFrom {α : Type} (usage : Usage α) (positionals : List (PositionalRule α))
    (optionsEnded helpAsked : Bool) (value : α) : List String → Except Refusal α
  | [] => if helpAsked then .error .help else .ok value
  | argument :: rest =>
      if !optionsEnded && asksHelp argument then
        usage.readFrom positionals optionsEnded true value rest
      else if !optionsEnded && argument = "--" then
        usage.readFrom positionals true helpAsked value rest
      else if !optionsEnded && isDashed argument then
        if helpAsked then .error (.misuse .optionAfterHelp)
        else match usage.options.find? (·.isSpelled argument) with
          | none => .error (.misuse (.unrecognized argument))
          | some rule =>
              match rule.action, rest with
              | .switch set, rest =>
                  usage.readFrom positionals optionsEnded helpAsked (set value) rest
              | .value _, [] => .error (.misuse (.noValue argument))
              | .value store, text :: rest =>
                  match store text value with
                  | .error reason => .error (.misuse (.badValue argument text reason))
                  | .ok value => usage.readFrom positionals optionsEnded helpAsked value rest
      else match positionals with
        | [] => .error (.misuse (.unrecognized argument))
        | rule :: others =>
            match rule.store argument value with
            | .error reason => .error (.misuse (.badPositional rule.name argument reason))
            | .ok value =>
                if rule.greedy then usage.readFrom positionals true helpAsked value rest
                else usage.readFrom others optionsEnded helpAsked value rest

/-- Read arguments into a value. -/
def read {α : Type} (usage : Usage α) (value : α) (arguments : List String) : Except Refusal α :=
  usage.readFrom usage.positionals false false value arguments

/-! ### The page -/

/-- The columns of the page. -/
def pageWidth : Nat := 80

/-- The column at which descriptions stand. -/
def descriptionColumn : Nat := 20

/-- A line filled up with spaces to the column of descriptions. -/
def indented (line : String) : String :=
  line ++ String.ofList (List.replicate (descriptionColumn - line.length) ' ')

/-- The lines of a description, `line` being the one that is written. -/
def wrapped (line : String) : List String → List String
  | [] => [line]
  | word :: rest =>
      if pageWidth < line.length + word.length + 1 then line :: wrapped (indented "" ++ word) rest
      else wrapped (line ++ " " ++ word) rest

/-- An entry of a list: a label and what it means. -/
def entry (label description : String) : String :=
  let start := "  " ++ label
  let lines := match description.splitOn " " with
    | [] => [start]
    | word :: rest =>
        if start.length < descriptionColumn then wrapped (indented start ++ word) rest
        else start :: wrapped (indented "" ++ word) rest
  String.join (lines.map ("\n" ++ ·))

/-- The page that explains the arguments. -/
def page {α : Type} (usage : Usage α) : String :=
  let named := usage.positionals.filter (!·.greedy)
  let options := usage.options.map fun rule => " " ++ rule.usage
  let marker := if named.isEmpty then "" else " [--]"
  let arguments := usage.positionals.map fun rule =>
    if rule.greedy then " [" ++ rule.name ++ "...]" else " [<" ++ rule.name ++ ">]"
  let positionalList :=
    if named.isEmpty then ""
    else "\n\nPositional Arguments:"
      ++ String.join (named.map fun rule => entry rule.name rule.description)
  let optionList :=
    String.join (usage.options.map fun rule => entry rule.label rule.description)
  "Usage: " ++ usage.name ++ String.join options ++ marker ++ String.join arguments
    ++ "\n\n" ++ usage.summary ++ positionalList
    ++ "\n\nOptions:" ++ optionList ++ entry "--help, help" "display usage information" ++ "\n"

/-- The text that answers a refusal. -/
def answer {α : Type} (usage : Usage α) : Refusal → String
  | .help => usage.page
  | .misuse error => error.message

end Usage

end Shell
