import Shell.Text.Fields

/-!
# Paths

Paths as texts.  `Path.join` puts one path behind another, a slash between them where none is, and
lets an absolute second path stand alone.  There are two readings of a path.  `Path.components` is
the one by which a name is told from a path: empty parts and inner dots vanish.  `Path.steps` is
the one by which files are found: every name, dot and double dot is a step, and a slash at the end
adds an empty step, which asks for a directory.
-/

namespace Shell

namespace Path

/-- Whether a path starts at the root. -/
def isAbsolute (path : String) : Bool :=
  path.toList.head? = some '/'

/-- The path `rest` as seen from `base`. -/
def join (base rest : String) : String :=
  if isAbsolute rest then rest
  else
    match base.toList.getLast? with
    | none | some '/' => base ++ rest
    | some _ => base ++ "/" ++ rest

/-- A part of a path. -/
inductive Component where
  | root
  /-- A dot that the path starts with. -/
  | here
  /-- A double dot. -/
  | parent
  | name (text : String)
  deriving DecidableEq, Repr

/-- The part as it is written. -/
def Component.text : Component → String
  | root => "/"
  | here => "."
  | parent => ".."
  | name text => text

/-- The part that a text between slashes stands for, inner dots and nothing being no part. -/
def Component.ofField? (field : List Char) : Option Component :=
  if field = [] || field = ['.'] then none
  else if field = ['.', '.'] then some .parent
  else some (.name (String.ofList field))

/-- The parts of a path. -/
def components (path : String) : List Component :=
  let parts := Text.fields '/' path.toList
  let start : List Component :=
    if isAbsolute path then [.root] else if parts.head? = some ['.'] then [.here] else []
  start ++ parts.filterMap Component.ofField?

/-- The steps by which the file at a path is found; an empty step asks for a directory. -/
def steps (path : String) : List String :=
  let parts := Text.fields '/' path.toList
  let names := (parts.filter (· ≠ [])).map String.ofList
  if parts.getLast? = some [] && names ≠ [] then names ++ [""] else names

end Path

end Shell
