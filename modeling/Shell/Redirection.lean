import Shell.Binding
import Shell.Command

/-!
# Redirection

Redirects put upon a binding.  They are carried out strictly in order, each opening its target from
the process's directory, so that of several for one stream the last one stays (`Redirection.apply`).
Without any, the binding is used as it is; otherwise the result owns every stream that was opened
and borrows the others.  A target that cannot be opened ends the attempt (`RedirectError`); what
was opened until then holds no bytes, so giving it up loses nothing.
-/

namespace Shell

/-- A target that could not be opened. -/
structure RedirectError where
  path : String
  cause : SystemError
  deriving DecidableEq, Repr

/-- The report of an error in words. -/
def RedirectError.message (error : RedirectError) : String :=
  error.path ++ ": " ++ error.cause.message

/-- How the target of a redirect is opened. -/
def RedirectKind.openMode (kind : RedirectKind) : OpenMode :=
  match kind with
  | .input => .read
  | kind => if kind.appends then .append else .truncate

/-- Open the target of a redirect. -/
def Redirect.openTarget (redirect : Redirect) : Effect RedirectError OpenFile :=
  ExceptT.adapt (RedirectError.mk redirect.target.text)
    (World.openFile redirect.kind.openMode redirect.target.text)

/-- What a command runs with. -/
inductive Resolved where
  /-- The binding around the command, as it is. -/
  | inherited (base : Binding)
  /-- A binding made for the command. -/
  | derived (own : Binding)
  deriving DecidableEq, Repr

namespace Resolved

/-- The streams. -/
def binding : Resolved → Binding
  | inherited base => base
  | derived own => own

/-- Whether no binding was made. -/
def isInherited : Resolved → Bool
  | inherited _ => true
  | derived _ => false

/-- End what was made, if anything was. -/
def release : Resolved → Effect SystemError Unit
  | inherited _ => pure ()
  | derived own => own.release

/-- End what was made without a report. -/
def discard (resolved : Resolved) (w : World) : World :=
  match resolved with
  | inherited _ => w
  | derived own => own.discard w

end Resolved

namespace Redirection

/-- A new stream to an open file. -/
def addWriter (file : OpenFile) : Effect RedirectError WriterId := fun w =>
  let (id, w) := w.addWriter (.buffered file [])
  (.ok id, w)

/-- A new stream from an open file. -/
def addReader (file : OpenFile) : Effect RedirectError ReaderId := fun w =>
  let (id, w) := w.addReader { source := .opened file }
  (.ok id, w)

/-- Carry out one redirect. -/
def redirect (io : Binding) (directive : Redirect) : Effect RedirectError Binding := do
  let file ← directive.openTarget
  match directive.kind with
  | .input =>
      let input ← addReader file
      return { io with input, owned.input := true }
  | .output | .outputAppend =>
      let output ← addWriter file
      return { io with output, owned.output := true }
  | .error | .errorAppend =>
      let error ← addWriter file
      return { io with error, owned.error := true }
  | .allOutput | .allAppend =>
      let shared ← addWriter file
      return { io with
        output := shared, error := shared, owned.output := true, owned.error := true }

/-- Carry out redirects upon a binding. -/
def apply (redirects : List Redirect) (base : Binding) : Effect RedirectError Resolved :=
  match redirects with
  | [] => pure (.inherited base)
  | _ => .derived <$> redirects.foldlM redirect { base with owned := {} }

end Redirection

end Shell
