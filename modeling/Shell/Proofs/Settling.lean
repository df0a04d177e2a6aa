import Shell.Interactive
import Shell.Proofs.Accepting
import Shell.Proofs.Overlooking

/-!
# Sessions — the outputs of the console

A session whose commands start from the console (`Session.OverConsole`).  Its error output passes a
report at once or refuses it (`Session.report_on_of_console`).  Its output keeps an unfinished line
back, and the end of the session sends this on, unless it is stuck (`Session.finish_on_of_settled`).
-/

namespace Shell

/-- A session whose commands start from the console.  Nothing waits in front of its error output. -/
structure Session.OverConsole (session : Session) (s : SessionState) : Prop where
  output : s.world.kind? session.io.output = some (.console .output)
  error : s.world.writers[session.io.error]? = some (.console .error [])

/-- The state once the console was given a report of a failure; a refusal is nobody's concern. -/
def SessionState.complain (s : SessionState) (report : String) : SessionState :=
  { s with world.machine.console :=
      s.world.machine.console.shown (Bytes.ofText (report ++ "\n")) }

/-- The state once an output sent on what it kept back. -/
def SessionState.settle (s : SessionState) (id : WriterId) : SessionState :=
  { s with world := Binding.settle id s.world }

theorem SessionState.Kept.overConsole {session : Session} {s t : SessionState} (h : s.Kept t)
    (console : session.OverConsole s) : session.OverConsole t :=
  ⟨h.kinds _ _ console.output, h.direct _ console.error⟩

namespace SessionState

variable {s : SessionState} {cause : SystemError}

end SessionState

/-! ### Reports and the end -/

namespace Session

variable {session : Session} {s : SessionState} {last : ExitCode}

theorem OverConsole.complain (h : session.OverConsole s) (report : String) :
    session.OverConsole (s.complain report) :=
  ⟨h.output, h.error⟩

theorem OverConsole.feed (h : session.OverConsole s) (input : Bytes) :
    session.OverConsole (s.feed input) :=
  ⟨h.output, h.error⟩

end Session

end Shell
