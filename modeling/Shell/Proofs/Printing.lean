import Shell.Proofs.Preserving
import Shell.Proofs.Reporting

/-!
# Streams — printing to them

What comes of texts that are printed one after another depends on where the stream goes.

* One to the console passes on a part, if the console takes it, and keeps back the rest, in this
  order; whole lines are not kept back (`World.print_on_of_console`).
* One over memory, or to the console with nothing waiting, holds one text more after whole lines
  were printed to it (`World.print_on_of_unbuffered`).
* One to a file that was opened for it passes on a part and keeps back the rest, in this order
  (`World.print_passed`), until it is flushed (`World.flush_all_passed`).

A stream that keeps nothing back is left as it is by whatever is done with it at the end of a
command (`Binding.release_on_of_idle`).
-/

namespace Shell

/-! ### Streams to the console -/

namespace Writer

variable {channel : Channel} {waiting waiting' waiting'' bytes more : Bytes} {first second : Act}

/-- Whether a stream to the console that is given bytes passes on a part of what waited and was
given, and keeps the rest, in this order, where the console takes them. -/
def PassesOn (channel : Channel) (waiting bytes : Bytes) (act : Act) (waiting' : Bytes) : Prop :=
  ∀ machine : Machine, machine.console.refusal? channel = none →
    ∃ sent, act (console channel waiting) machine = (.ok (), console channel waiting',
        { machine with console := machine.console.write channel sent })
      ∧ sent ++ waiting' = waiting ++ bytes

theorem PassesOn.andThen (h : PassesOn channel waiting bytes first waiting')
    (h' : PassesOn channel waiting' more second waiting'') :
    PassesOn channel waiting (bytes ++ more) (first.andThen second) waiting'' := by
  intro machine free
  obtain ⟨sent, done, split⟩ := h machine free
  obtain ⟨sent', done', split'⟩ := h' { machine with console := machine.console.write channel sent }
    (by rwa [Console.refusal?_write])
  refine ⟨sent ++ sent', ?_, ?_⟩
  · unfold Act.andThen
    rw [done]
    dsimp only
    rw [done', Console.write_write]
  · rw [List.append_assoc, split', ← List.append_assoc, split, List.append_assoc]

theorem passesOn_send (channel : Channel) (bytes : Bytes) :
    PassesOn channel [] bytes (send · · bytes) [] := fun machine free =>
  ⟨bytes, by simp only [send, Console.pass_of_free free], List.append_nil bytes⟩

theorem passesOn_flush (channel : Channel) (waiting : Bytes) :
    PassesOn channel waiting [] flush [] := by
  intro machine free
  refine ⟨waiting, ?_, rfl⟩
  by_cases idle : waiting = []
  · subst idle
    rw [flush_of_idle (console channel []) rfl, Console.write_nil]
  · simp only [flush, Writer.waiting, idle, if_false, send, Console.pass_of_free free]
    rfl

/-- Bytes that fit wait, and others pass if nothing waits in front of them. -/
theorem exists_passesOn_accept (channel : Channel) {waiting bytes : Bytes}
    (fits : bytes.length < (console channel waiting).room ∨ waiting = []) :
    ∃ waiting', PassesOn channel waiting bytes (accept · · bytes) waiting'
      ∧ (channel = .error → waiting' = []) := by
  by_cases small : bytes.length < (console channel waiting).room
  · refine ⟨waiting ++ bytes, fun machine _ => ⟨[], ?_, rfl⟩, ?_⟩
    · simp only [accept, small, if_true, Console.write_nil]
      rfl
    · rintro rfl
      exact absurd small (Nat.not_lt_zero _)
  · obtain rfl := fits.resolve_left small
    refine ⟨[], fun machine free => ?_, fun _ => rfl⟩
    simpa only [accept, small, if_false] using passesOn_send channel bytes machine free

theorem exists_passesOn_hold (channel : Channel) (waiting bytes : Bytes) :
    ∃ waiting', PassesOn channel waiting bytes (hold · · bytes) waiting'
      ∧ (channel = .error → waiting' = []) := by
  by_cases full : (console channel waiting).room < waiting.length + bytes.length
  · obtain ⟨waiting', accepted, direct⟩ := @exists_passesOn_accept channel [] bytes (.inr rfl)
    have held := (passesOn_flush channel waiting).andThen accepted
    rw [List.nil_append] at held
    refine ⟨waiting', fun machine free => ?_, direct⟩
    simpa only [hold, Writer.waiting, full, if_true] using held machine free
  · obtain ⟨waiting', accepted, direct⟩ := @exists_passesOn_accept channel waiting bytes (by
      rw [← List.length_eq_zero_iff]
      omega)
    refine ⟨waiting', fun machine free => ?_, direct⟩
    simpa only [hold, Writer.waiting, full, if_false] using accepted machine free

/-- Whole lines pass at once, with what waited before them. -/
theorem exists_passesOn_sendLines (channel : Channel) (waiting lines : Bytes) :
    ∃ waiting', PassesOn channel waiting lines (sendLines · · lines) waiting'
      ∧ (lines ≠ [] → waiting' = []) := by
  by_cases none : lines = []
  · subst none
    by_cases ended : waiting.getLast? = some Bytes.newline
    · refine ⟨[], fun machine free => ?_, fun _ => rfl⟩
      simpa only [sendLines, if_true, Writer.waiting, ended]
        using passesOn_flush channel waiting machine free
    · refine ⟨waiting, fun machine _ => ⟨[], ?_, (List.append_nil waiting).symm⟩, absurd rfl⟩
      simp only [sendLines, if_true, Writer.waiting, ended, if_false, Console.write_nil]
  · refine ⟨[], fun machine free => ?_, fun _ => rfl⟩
    by_cases idle : waiting = []
    · subst idle
      simpa only [sendLines, none, if_false, Writer.waiting, if_true]
        using passesOn_send channel lines machine free
    · obtain ⟨waiting', held, -⟩ := exists_passesOn_hold channel waiting lines
      have sent := held.andThen (passesOn_flush channel waiting')
      rw [List.append_nil] at sent
      simpa only [sendLines, none, if_false, Writer.waiting, idle] using sent machine free

/-- **A write** to the console passes on a part of what waited and was written, and all of it if a
line ends there. -/
theorem exists_passesOn_write (channel : Channel) (waiting bytes : Bytes) :
    ∃ waiting', PassesOn channel waiting bytes (write · · bytes) waiting'
      ∧ (bytes.getLast? = some Bytes.newline → waiting' = []) := by
  cases channel with
  | error =>
      obtain ⟨waiting', held, direct⟩ := exists_passesOn_hold .error waiting bytes
      exact ⟨waiting', held, fun _ => direct rfl⟩
  | output =>
      obtain ⟨waiting', sent, whole⟩ :=
        exists_passesOn_sendLines .output waiting bytes.splitLines.1
      obtain ⟨waiting'', held, -⟩ := exists_passesOn_hold .output waiting' bytes.splitLines.2
      have written := sent.andThen held
      rw [Bytes.splitLines_append] at written
      refine ⟨waiting'', written, fun ended => ?_⟩
      rw [Bytes.splitLines_of_ended ended] at whole held
      obtain rfl : waiting' = [] := whole (by rintro rfl; cases ended)
      -- nothing is left to wait
      obtain ⟨sent, -, split⟩ := held {} rfl
      exact (List.append_eq_nil_iff.mp split).2

end Writer

/-! ### Streams that keep nothing back -/

/-- A stream that is written collects in memory, or goes to the console, which takes what it is
given, and nothing waits. -/
def World.Unbuffered (w : World) (id : WriterId) : Prop :=
  w.InMemory id ∨ ∃ channel, w.writers[id]? = some (.console channel [])
    ∧ w.machine.console.refusal? channel = none

/-- Texts the last of which ends a line. -/
def EndsLine (pieces : List String) : Prop :=
  ∃ front text, pieces = front ++ [text ++ "\n"]

theorem EndsLine.tail {piece next : String} {rest : List String}
    (h : EndsLine (piece :: next :: rest)) : EndsLine (next :: rest) := by
  obtain ⟨_ | ⟨_, front⟩, text, split⟩ := h
  · cases split
  · exact ⟨front, text, (List.cons.inj split).2⟩

theorem EndsLine.ended {piece : String} (h : EndsLine [piece]) :
    (Bytes.ofText piece).getLast? = some Bytes.newline := by
  obtain ⟨_ | ⟨_, front⟩, text, split⟩ := h
  · obtain rfl : piece = text ++ "\n" := by simpa using split
    rw [Bytes.ofText_append]
    exact List.getLast?_concat
  · simp at split

/-- The world with a text more in such a stream. -/
def World.say (w : World) (id : WriterId) (text : String) : World :=
  match w.writers[id]? with
  | some (.console channel _) =>
      { w with machine.console := w.machine.console.write channel (Bytes.ofText text) }
  | _ => w.tell id text

namespace World

variable {w : World} {id other : WriterId} {collected waiting : Bytes} {channel : Channel}

theorem say_of_memory (h : w.writers[id]? = some (.memory collected)) (text : String) :
    w.say id text = w.tell id text := by
  rw [say, h]

theorem say_of_console (h : w.writers[id]? = some (.console channel waiting)) (text : String) :
    w.say id text
      = { w with machine.console := w.machine.console.write channel (Bytes.ofText text) } := by
  rw [say, h]

theorem Unbuffered.lt (h : w.Unbuffered id) : id < w.writers.length := by
  rcases h with ⟨collected, e⟩ | ⟨channel, e, -⟩
  · exact (List.getElem?_eq_some_iff.mp e).1
  · exact (List.getElem?_eq_some_iff.mp e).1

theorem Unbuffered.idle (h : w.Unbuffered id) : w.Idle id := by
  intro writer e
  rcases h with ⟨collected, e'⟩ | ⟨channel, e', -⟩
  · cases e.symm.trans e'
    rfl
  · cases e.symm.trans e'
    rfl

theorem print_on_of_memory (h : w.writers[id]? = some (.memory collected)) (pieces : List String) :
    (print id pieces).on w = (.ok (), w.tell id (String.join pieces)) := by
  induction pieces generalizing w collected with
  | nil =>
      rw [print_nil, Effect.on_pure, tell_of_memory h]
      simp [Bytes.ofText, set_of_getElem? h]
  | cons piece rest ih =>
      rw [print_cons, Effect.on_bind_ok (write_on_of_memory h piece),
        ih (getElem?_tell_self h piece), tell_tell h, ← String.join_cons]

/-- Texts that are printed to the console pass on or wait, and none waits behind the end of a
line. -/
theorem print_on_of_console (h : w.writers[id]? = some (.console channel waiting))
    (free : w.machine.console.refusal? channel = none) (pieces : List String) :
    ∃ sent waiting', (print id pieces).on w = (.ok (), { w with
        writers := w.writers.set id (.console channel waiting')
        machine.console := w.machine.console.write channel sent })
      ∧ sent ++ waiting' = waiting ++ Bytes.ofText (String.join pieces)
      ∧ (EndsLine pieces → waiting' = []) := by
  induction pieces generalizing w waiting with
  | nil =>
      refine ⟨[], waiting, ?_, by simp [Bytes.ofText], ?_⟩
      · rw [print_nil, Effect.on_pure, set_of_getElem? h, Console.write_nil]
      · rintro ⟨front, text, split⟩
        simp at split
  | cons piece rest ih =>
      obtain ⟨waiting', passes, ended⟩ :=
        Writer.exists_passesOn_write channel waiting (Bytes.ofText piece)
      obtain ⟨sent, done, split⟩ := passes w.machine free
      have lt := (List.getElem?_eq_some_iff.mp h).1
      obtain ⟨sent', waiting'', printed, split', whole⟩ := @ih
        { w with
          writers := w.writers.set id (.console channel waiting')
          machine.console := w.machine.console.write channel sent } waiting'
        (List.getElem?_set_self lt) (by rwa [Console.refusal?_write])
      refine ⟨sent ++ sent', waiting'', ?_, ?_, fun line => ?_⟩
      · rw [print_cons, write, Effect.on_bind_ok (useWriter_on h done), printed]
        simp only [List.set_set, Console.write_write]
      · rw [List.append_assoc, split', ← List.append_assoc, split, String.join_cons,
          Bytes.ofText_append, List.append_assoc]
      · cases rest with
        | cons next rest => exact whole line.tail
        | nil =>
            obtain rfl : waiting' = [] := ended line.ended
            simp only [String.join_nil, List.nil_append] at split'
            exact (List.append_eq_nil_iff.mp split').2

/-- **Printing** whole lines to a stream that keeps nothing back adds the texts to it. -/
theorem print_on_of_unbuffered (h : w.Unbuffered id) {pieces : List String}
    (ended : EndsLine pieces) :
    (print id pieces).on w = (.ok (), w.say id (String.join pieces)) := by
  rcases h with ⟨collected, found⟩ | ⟨channel, found, free⟩
  · rw [print_on_of_memory found, say_of_memory found]
  · obtain ⟨sent, waiting', printed, split, whole⟩ := print_on_of_console found free pieces
    obtain rfl := whole ended
    obtain rfl : sent = Bytes.ofText (String.join pieces) := by simpa using split
    rw [printed, set_of_getElem? found, say_of_console found]

/-! ### Streams to a file -/

variable {w' w'' : World} {file : OpenFile} {waiting bytes more : Bytes}

/-- A stream that was given nothing. -/
theorem Passed.refl (h : w.writers[id]? = some (.buffered file waiting))
    (atEnd : file.AtEnd w.machine.tree) : Passed w id [] w := by
  obtain ⟨lt, found⟩ := List.getElem?_eq_some_iff.mp h
  have same : w.writers.set id (.buffered file waiting) = w.writers := by
    rw [← found, List.set_getElem_self]
  have passed : Passed w id [] { w with
      writers := w.writers.set id (.buffered file waiting)
      machine.tree := w.machine.tree.extend file.location [] } :=
    .intro h (by simp) (by simpa using atEnd)
  rwa [same, FileTree.extend_nil] at passed

/-- What is given first goes in front of what is given next. -/
theorem Passed.trans (h : Passed w id bytes w') (h' : Passed w' id more w'') :
    Passed w id (bytes ++ more) w'' := by
  cases h with
  | @intro file waiting sent waiting' offset found split atEnd =>
      have lt := (List.getElem?_eq_some_iff.mp found).1
      cases h' with
      | @intro file' later sent' waiting'' offset' found' split' atEnd' =>
          have now := List.getElem?_set_self (a := Writer.buffered { file with offset } waiting') lt
          obtain ⟨rfl, rfl⟩ : { file with offset } = file' ∧ waiting' = later := by
            simpa using now.symm.trans found'
          have whole : sent ++ sent' ++ waiting'' = waiting ++ (bytes ++ more) := by
            rw [List.append_assoc, split', ← List.append_assoc, split, List.append_assoc]
          simp only [List.set_set, FileTree.extend_extend] at atEnd' ⊢
          exact .intro found whole atEnd'

/-- A stream to a regular file that stands at its end. -/
def Ready (w : World) (id : WriterId) : Prop :=
  ∃ file waiting, w.writers[id]? = some (.buffered file waiting) ∧ file.AtEnd w.machine.tree
    ∧ ∃ bits content, w.machine.tree.get? file.location = some (.file bits content)

theorem Ready.takes (h : w.Ready id) : ∃ file waiting,
    w.writers[id]? = some (.buffered file waiting) ∧ file.AtEnd w.machine.tree
      ∧ w.machine.tree.refusal? file.location = none := by
  obtain ⟨file, waiting, e, atEnd, bits, content, regular⟩ := h
  exact ⟨file, waiting, e, atEnd, by simp [FileTree.refusal?, Node.refusal?, regular]⟩

/-- It still does after it was given something. -/
theorem Ready.passed (h : w.Ready id) (passed : Passed w id bytes w') : w'.Ready id := by
  obtain ⟨file, waiting, e, -, bits, content, regular⟩ := h
  cases passed with
  | @intro file' waiting sent waiting' offset found split atEnd =>
      obtain ⟨rfl, rfl⟩ : file' = file ∧ _ = _ := by simpa using found.symm.trans e
      have lt := (List.getElem?_eq_some_iff.mp found).1
      refine ⟨_, _, List.getElem?_set_self lt, atEnd, bits, content ++ sent, ?_⟩
      rw [FileTree.get?_extend_self, regular]
      rfl

/-- **Printing** to a file passes on a part of the texts, and the rest waits. -/
theorem print_passed (h : w.Ready id) (pieces : List String) :
    ∃ w', (print id pieces).on w = (.ok (), w')
      ∧ Passed w id (Bytes.ofText (String.join pieces)) w' ∧ w'.Ready id := by
  induction pieces generalizing w with
  | nil =>
      obtain ⟨file, waiting, e, atEnd, -⟩ := h.takes
      exact ⟨w, rfl, .refl e atEnd, h⟩
  | cons piece rest ih =>
      obtain ⟨file, waiting, e, atEnd, takes⟩ := h.takes
      obtain ⟨w', written, passed⟩ :=
        @write_passed w id file waiting (Bytes.ofText piece) e atEnd fun _ => takes
      obtain ⟨w'', printed, passed', ready⟩ := ih (h.passed passed)
      refine ⟨w'', ?_, ?_, ready⟩
      · rw [print_cons, Effect.on_bind_ok written, printed]
      · rw [String.join_cons, Bytes.ofText_append]
        exact passed.trans passed'

/-- **A flush** then passes on what waits, so that all of it is at the end of the file. -/
theorem flush_all_passed (h : w.writers[id]? = some (.buffered file []))
    (passed : Passed w id bytes w') (ready : w'.Ready id) :
    ∃ offset, (flush id).on w' = (.ok (), { w with
      writers := w.writers.set id (.buffered { file with offset } [])
      machine.tree := w.machine.tree.extend file.location bytes }) := by
  obtain ⟨file', waiting, e, atEnd, takes⟩ := ready.takes
  obtain ⟨w'', flushed, last, idle⟩ := flush_passed e atEnd fun _ => takes
  have all := passed.trans last
  rw [List.append_nil] at all
  cases all with
  | @intro file' waiting sent waiting' offset found split atEnd =>
      obtain ⟨rfl, rfl⟩ : file' = file ∧ waiting = [] := by simpa using found.symm.trans h
      have lt := (List.getElem?_eq_some_iff.mp found).1
      obtain rfl : waiting' = [] := idle _ (List.getElem?_set_self lt)
      obtain rfl : sent = bytes := by simpa using split
      exact ⟨offset, flushed⟩

/-! ### Streams at the end of a command -/

end World

namespace Binding

variable {io : Binding} {w : World}

/-- **A release** does nothing where nothing waits. -/
theorem release_on_of_idle (output : w.Idle io.output) (error : w.Idle io.error) :
    io.release.on w = (.ok (), w) := by
  have wanted : ∀ {wanted : Bool} {id : WriterId}, w.Idle id →
      (if wanted then World.flush id else pure () : Effect SystemError Unit).on w
        = (.ok (), w) := by
    intro wanted id idle
    cases wanted with
    | false => rfl
    | true => exact World.flush_on_of_idle idle
  have owned : io.flushOwned.on w = (.ok (), w) := by
    rw [flushOwned_eq, Effect.on_bind_ok (wanted output)]
    exact wanted error
  have discarded : io.discard w = w := by
    simp only [discard, owned, settle_if, wanted output, wanted error]
  have released : io.release.on w
      = ((io.flushOwned.on w).1, io.discard (io.flushOwned.on w).2) := rfl
  rw [released, owned, discarded]

end Binding

end Shell
