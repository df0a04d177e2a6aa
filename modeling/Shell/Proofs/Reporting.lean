import Shell.Evaluation
import Shell.Proofs.Buffering

/-!
# Sessions — reports to memory

A stream over memory takes everything that it is given (`World.tell`).  So a session whose error
stream is one can always report, and a report adds one line to it (`Session.report_on`) and changes
nothing else.
-/

namespace Shell

/-- The world with a text more in a stream over memory. -/
def World.tell (w : World) (id : WriterId) (text : String) : World :=
  match w.writers[id]? with
  | some (.memory collected) =>
      { w with writers := w.writers.set id (.memory (collected ++ Bytes.ofText text)) }
  | _ => w

namespace World

theorem print_nil (id : WriterId) : print id [] = pure () := rfl

theorem print_cons (id : WriterId) (piece : String) (pieces : List String) :
    print id (piece :: pieces) = write id (Bytes.ofText piece) >>= fun _ => print id pieces := rfl

variable {w : World} {id : WriterId} {collected : Bytes}

theorem tell_of_memory (h : w.writers[id]? = some (.memory collected)) (text : String) :
    w.tell id text
      = { w with writers := w.writers.set id (.memory (collected ++ Bytes.ofText text)) } := by
  rw [tell, h]

/-- The stream holds the text behind what it held. -/
theorem getElem?_tell_self (h : w.writers[id]? = some (.memory collected)) (text : String) :
    (w.tell id text).writers[id]? = some (.memory (collected ++ Bytes.ofText text)) := by
  rw [tell_of_memory h]
  exact List.getElem?_set_self (List.getElem?_eq_some_iff.mp h).1

theorem getElem?_tell_of_ne (w : World) {other : WriterId} (ne : other ≠ id) (text : String) :
    (w.tell id text).writers[other]? = w.writers[other]? := by
  unfold tell
  split
  · exact List.getElem?_set_ne ne.symm
  · rfl

theorem tell_tell (h : w.writers[id]? = some (.memory collected)) (text more : String) :
    (w.tell id text).tell id more = w.tell id (text ++ more) := by
  rw [tell_of_memory (getElem?_tell_self h text), tell_of_memory h, tell_of_memory h]
  simp

theorem write_on_of_memory (h : w.writers[id]? = some (.memory collected)) (text : String) :
    (write id (Bytes.ofText text)).on w = (.ok (), w.tell id text) := by
  rw [write, useWriter_on h (Writer.write_memory ..), tell_of_memory h]

end World

/-- The state with a text more in a stream over memory. -/
def SessionState.tell (s : SessionState) (id : WriterId) (text : String) : SessionState :=
  { s with world := s.world.tell id text }

namespace Session

variable {session : Session} {s : SessionState} {collected : Bytes}

/-- **A report** to a stream over memory is one line more. -/
theorem report_on (h : s.world.writers[session.io.error]? = some (.memory collected))
    (text : String) :
    (session.report text).on s = (.ok (), s.tell session.io.error (text ++ "\n")) := by
  have first := World.write_on_of_memory h text
  have second := World.write_on_of_memory (World.getElem?_tell_self h text) "\n"
  have printed : (World.print session.io.error [text, "\n"]).on s.world
      = (.ok (), s.world.tell session.io.error (text ++ "\n")) := by
    rw [World.print_cons, Effect.on_bind_ok first, World.print_cons, Effect.on_bind_ok second,
      World.print_nil, Effect.on_pure, World.tell_tell h]
  rw [report, Act.on_adapt, Act.on_ofEffect, printed]
  rfl

theorem refuse_on (h : s.world.writers[session.io.error]? = some (.memory collected))
    (command : Command) (error : RedirectError) :
    (session.refuse command error).on s = (.ok { exitCode := exitRefused },
      s.tell session.io.error (command.name.text ++ ": " ++ error.message ++ "\n")) := by
  rw [refuse, Act.on_bind_ok (report_on h _)]
  rfl

end Session

end Shell
