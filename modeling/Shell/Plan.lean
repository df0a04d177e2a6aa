import Shell.Redirection

/-!
# Plans

Redirects for a program, which opens no streams of the shell's: where each of its three standard
streams is connected (`Plan`).  Making a plan opens every target once, in order, and closes it
again (`Plan.ofRedirects`), so the files are made and emptied just as they are for a command of the
shell's own.  The program's streams are opened from the plan when it starts.
-/

namespace Shell

/-- Where a standard stream of a program is connected. -/
inductive StreamTarget where
  /-- To the stream of the shell. -/
  | inherit
  | file (mode : OpenMode) (path : String)
  deriving DecidableEq, Repr, Inhabited

/-- Open the file of a target, if it has one. -/
def StreamTarget.openFile : StreamTarget → Effect SystemError (Option OpenFile)
  | inherit => pure none
  | file mode path => some <$> World.openFile mode path

/-- Where the standard streams of a program are connected. -/
structure Plan where
  stdin : StreamTarget := .inherit
  stdout : StreamTarget := .inherit
  stderr : StreamTarget := .inherit
  /-- The outputs were last connected together and share one open file. -/
  merged : Bool := false
  deriving DecidableEq, Repr, Inhabited

namespace Plan

/-- Carry out one redirect. -/
def redirect (plan : Plan) (directive : Redirect) : Effect RedirectError Plan := do
  let _ ← directive.openTarget
  let target := StreamTarget.file directive.kind.openMode directive.target.text
  match directive.kind with
  | .input => return { plan with stdin := target }
  | .output | .outputAppend => return { plan with stdout := target, merged := false }
  | .error | .errorAppend => return { plan with stderr := target, merged := false }
  | .allOutput | .allAppend =>
      return { plan with stdout := target, stderr := target, merged := true }

/-- The plan that redirects make. -/
def ofRedirects (redirects : List Redirect) : Effect RedirectError Plan :=
  redirects.foldlM redirect {}

end Plan

end Shell
