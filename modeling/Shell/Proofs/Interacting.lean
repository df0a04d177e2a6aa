import Shell.Proofs.Fetching
import Shell.Proofs.Framing
import Shell.Proofs.Reporting

/-!
# Interactive sessions — lines answered one after another

The loop of an interactive session reads a command, evaluates it and goes on.  Seen from outside it
is a fold over the logical lines of its input (`Answered`): each line that is not blank is answered
once, in order, in the state that the line before it left and the read of this one changed, up to
the first that ends the session.  A read changes only prompts, records and the reader
(`SessionState.Aside`).

A program that was asked for shares the console's input with the session, and may take from it.
Which lines are left then is up to the program; the session goes on with these
(`Answered.tapped`).  It goes on as it would from there at first: each line that is read is taken
from what is left, so that the bound of the loop is never met
(`Session.interactWithin_eq_resume`).
-/

namespace Shell

/-- A command was read in a state, or the end of the input was found there. -/
structure SessionState.Fetched (s : SessionState) (promptText : String) (line : Option String)
    (t : SessionState) : Prop where
  read : (Session.readCommand promptText).on s = (.ok line, t)
  aside : s.Aside t

/-- What lines come to that are answered one after another by a session.  The first exit code is the
one of the line before them. -/
inductive Answered (session : Session) (promptText : String) (answer : String → Act Failure Outcome)
    (finish : ExitCode → Act Failure ExitCode) :
    ExitCode → SessionState → List String → Except Failure ExitCode × SessionState → Prop where
  /-- No line is left. -/
  | ended {last : ExitCode} {s t : SessionState} (fetched : s.Fetched promptText none t) :
      Answered session promptText answer finish last s [] ((finish last).on t)
  /-- A blank line is passed over. -/
  | blank {last : ExitCode} {s t : SessionState} {line : String} {lines : List String}
      {after : Except Failure ExitCode × SessionState} (fetched : s.Fetched promptText line t)
      (blank : Text.isBlankLine line = true)
      (rest : Answered session promptText answer finish last t lines after) :
      Answered session promptText answer finish last s (line :: lines) after
  /-- A line ends the session. -/
  | stopped {last : ExitCode} {s t t' : SessionState} {line : String} {lines : List String}
      {outcome : Outcome} (fetched : s.Fetched promptText line t)
      (visible : Text.isBlankLine line = false) (answered : (answer line).on t = (.ok outcome, t'))
      (stops : outcome.terminate = true) :
      Answered session promptText answer finish last s (line :: lines)
        ((finish outcome.exitCode).on t')
  /-- A line is answered, and the session goes on. -/
  | passed {last : ExitCode} {s t t' : SessionState} {line : String} {lines : List String}
      {outcome : Outcome} {after : Except Failure ExitCode × SessionState}
      (fetched : s.Fetched promptText line t) (visible : Text.isBlankLine line = false)
      (answered : (answer line).on t = (.ok outcome, t')) (goesOn : outcome.terminate = false)
      (rest : Answered session promptText answer finish outcome.exitCode t' lines after) :
      Answered session promptText answer finish last s (line :: lines) after
  /-- A line has no answer. -/
  | failed {last : ExitCode} {s t t' : SessionState} {line : String} {lines : List String}
      {failure : Failure} (fetched : s.Fetched promptText line t)
      (visible : Text.isBlankLine line = false)
      (answered : (answer line).on t = (.error failure, t')) :
      Answered session promptText answer finish last s (line :: lines) (.error failure, t')
  /-- A line is answered, and a program that was asked for took from the console's input.  The
  session goes on with what is left. -/
  | tapped {last : ExitCode} {s t t' : SessionState} {line : String} {lines : List String}
      {outcome : Outcome} (fetched : s.Fetched promptText line t)
      (visible : Text.isBlankLine line = false) (answered : (answer line).on t = (.ok outcome, t'))
      (goesOn : outcome.terminate = false) (asked : t'.requests ≠ t.requests)
      (taken : t'.world.machine.console.input ≠ t.world.machine.console.input) :
      Answered session promptText answer finish last s (line :: lines)
        ((session.resume promptText outcome.exitCode).on t')

namespace Session

/-- Evaluate a line; a failure is reported with all causes behind it. -/
def answer (session : Session) (line : String) : Act Failure Outcome := do
  match ← Act.attempt (session.evaluate line) with
  | .ok outcome => return outcome
  | .error failure => do
      session.report failure.chain
      return { exitCode := exitRefused }

/-- Evaluate a line; a failure is one line more in the error stream, which is over memory. -/
def answerInMemory (session : Session) (line : String) : Act Failure Outcome := fun s =>
  match (session.evaluate line).on s with
  | (.ok outcome, s) => (.ok outcome, s)
  | (.error failure, s) =>
      (.ok { exitCode := 1 }, s.tell session.io.error (failure.chain ++ "\n"))

variable {session : Session} {s t u : SessionState} {line : String} {last : ExitCode}

theorem keeps_answer (line : String) : (session.answer line).Respects SessionState.Kept := by
  have frame := SessionState.Kept.frame
  refine frame.bind (session.keeps_evaluate line).attempt fun result => ?_
  split
  · exact frame.pure _
  · exact frame.bind (frame.compositional.report _) fun _ => frame.pure _

/-- One pass of the loop, over a line that is not blank. -/
theorem interactWithin_on {promptText : String} {fuel : Nat}
    (read : (readCommand promptText).on s = (.ok (some line), t))
    (visible : Text.isBlankLine line = false) :
    (session.interactWithin promptText last (fuel + 1)).on s
      = match (session.answer line).on t with
        | (.ok outcome, t) =>
            if outcome.terminate then (session.finish outcome.exitCode).on t
            else (session.interactWithin promptText outcome.exitCode fuel).on t
        | (.error failure, t) => (.error failure, t) := by
  rw [interactWithin, Act.on_bind_ok (Act.on_adapt_ok read), answer]
  simp only [visible, Bool.false_eq_true, if_false]
  rw [Act.on_bind_ok (Act.on_attempt ..), Act.on_bind_ok (Act.on_attempt ..)]
  rcases (session.evaluate line).on t with ⟨failure | outcome, t'⟩
  · dsimp only
    rw [Act.on_bind, Act.on_bind]
    rcases (session.report failure.chain).on t' with ⟨_ | _, _⟩ <;> rfl
  · have given : (pure outcome : Act Failure Outcome).on t' = (.ok outcome, t') := rfl
    rw [given]
    dsimp only
    split <;> rfl

/-- The bound of the loop is never met, as each line takes some of what is left to read. -/
theorem interactWithin_of_enough {promptText : String} {fuel fuel' : Nat}
    (source : s.world.typed.source = .console) (enough : remaining s.world < fuel)
    (enough' : remaining s.world < fuel') :
    (session.interactWithin promptText last fuel).on s
      = (session.interactWithin promptText last fuel').on s := by
  -- Both bounds go down by one with each command read, and what is left to read by as much at
  -- least, so that both stay above it.
  induction fuel generalizing s last fuel' with
  | zero => cases enough
  | succ fuel ih =>
      obtain ⟨fuel', rfl⟩ : ∃ n, fuel' = n + 1 := ⟨fuel' - 1, by omega⟩
      rcases read : (readCommand promptText).on s with ⟨e | _ | line, t⟩
      · rw [interactWithin, interactWithin, Act.on_bind, Act.on_bind, Act.on_adapt, read]
        rfl
      · rw [interactWithin, interactWithin, Act.on_bind_ok (Act.on_adapt_ok read),
          Act.on_bind_ok (Act.on_adapt_ok read)]
      · obtain ⟨source, less⟩ := remaining_of_readCommand source read
        cases visible : Text.isBlankLine line with
        | true =>
            rw [interactWithin, interactWithin, Act.on_bind_ok (Act.on_adapt_ok read),
              Act.on_bind_ok (Act.on_adapt_ok read)]
            simp only [visible, if_true]
            exact ih source (by omega) (by omega)
        | false =>
            have kept := session.keeps_answer line t
            rw [interactWithin_on read visible, interactWithin_on read visible]
            generalize (session.answer line).on t = answered at kept ⊢
            obtain ⟨failure | outcome, u⟩ := answered
            · rfl
            · obtain ⟨source, le⟩ := drains_of_suffix kept.typed kept.taken source
              dsimp only at source le ⊢
              split
              · rfl
              · exact ih source (by omega) (by omega)

theorem interactWithin_eq_resume {promptText : String} {fuel : Nat}
    (source : s.world.typed.source = .console) (enough : remaining s.world < fuel) :
    (session.interactWithin promptText last fuel).on s
      = (session.resume promptText last).on s := by
  rw [resume, Act.on_bind_ok (Act.on_look ..)]
  exact interactWithin_of_enough source enough (Nat.lt_succ_self _)

/-- **The loop** answers the lines that are left. -/
theorem answered_interactWithin {promptText : String} {fuel : Nat} {physical lines : List String}
    (unread : s.Unread physical) (joined : InputLine.join physical = some lines)
    (enough : remaining s.world < fuel) :
    Answered session promptText session.answer session.finish last s lines
      ((session.interactWithin promptText last fuel).on s) := by
  induction fuel generalizing s physical lines last with
  | zero => cases enough
  | succ fuel ih =>
      cases lines with
      | nil =>
          obtain rfl : physical = [] := InputLine.eq_nil_of_join joined
          obtain ⟨t, read, aside⟩ := exists_readCommand_end unread promptText
          rw [interactWithin, Act.on_bind_ok (Act.on_adapt_ok read)]
          exact .ended ⟨read, aside⟩
      | cons line lines =>
          obtain ⟨t, left, read, aside, unread', joined, -⟩ :=
            exists_readCommand_on unread joined promptText
          have fetched : s.Fetched promptText line t := ⟨read, aside⟩
          obtain ⟨source, less⟩ := remaining_of_readCommand unread.source read
          cases visible : Text.isBlankLine line with
          | true =>
              rw [interactWithin, Act.on_bind_ok (Act.on_adapt_ok read)]
              simp only [visible, if_true]
              exact .blank fetched visible (ih unread' joined (by omega))
          | false =>
              rw [interactWithin_on read visible]
              have kept := session.keeps_answer line t
              rcases answered : (session.answer line).on t with ⟨failure | outcome, u⟩
              · exact .failed fetched visible answered
              · rw [answered] at kept
                obtain ⟨source, le⟩ := drains_of_suffix kept.typed kept.taken source
                dsimp only at source le
                have enough : remaining u.world < fuel := by omega
                cases ends : outcome.terminate with
                | true => simpa [ends] using Answered.stopped fetched visible answered ends
                | false =>
                    simp only [ends, Bool.false_eq_true, if_false]
                    -- Whether the lines that were left are those that are left now.
                    by_cases same : u.world.machine.console.input = t.world.machine.console.input
                    · have prompts := unread'.prompts.congr kept.startVars kept.refusal
                      exact .passed fetched visible answered ends
                        (ih (unread'.congr kept.typed same prompts) joined enough)
                    · rw [interactWithin_eq_resume source enough]
                      exact .tapped fetched visible answered ends (mt kept.input same) same

/-- The state in which a session starts to read. -/
def ready (s : SessionState) : SessionState :=
  { s with world := prepareReading s.world }

theorem aside_ready (s : SessionState) : s.Aside (ready s) := by
  obtain ⟨shown, log, prepared, extended⟩ := s.world.exists_record .debug readingTopic
    ("GraphemeClusterMode: " ++ (clusterMode s.world).name)
  rw [ready, prepareReading, prepared]
  exact ⟨rfl, rfl, rfl, rfl, rfl, rfl, rfl, List.suffix_refl _, extended.output, extended.error,
    rfl⟩

/-- **An interactive session** answers the logical lines of its input. -/
theorem answered_interact {physical lines : List String}
    (unread : s.Unread physical) (joined : InputLine.join physical = some lines)
    (promptText : String) :
    Answered session promptText session.answer session.finish 0 (ready s) lines
      ((session.interact promptText).on s) := by
  obtain ⟨shown, log, prepared, -⟩ := s.world.exists_record .debug readingTopic
    ("GraphemeClusterMode: " ++ (clusterMode s.world).name)
  have unread : (ready s).Unread physical := by
    rw [ready, prepareReading, prepared]
    exact unread.congr rfl rfl (unread.prompts.congr rfl rfl)
  rw [interact, Act.on_bind_ok (Act.on_change ..), resume, Act.on_bind_ok (Act.on_look ..)]
  exact answered_interactWithin unread joined (Nat.lt_succ_self _)

/-! ### Streams over memory -/

theorem finish_on_of_idle (output : s.world.Idle session.io.output)
    (error : s.world.Idle session.io.error) : (session.finish last).on s = (.ok last, s) := by
  have flushed : Act.on (Act.ofEffect session.io.flush) s = (.ok (), s) := by
    rw [Act.on_ofEffect, Binding.flush_on_of_idle output error]
  rw [finish, Act.on_bind_ok (Act.on_adapt_ok flushed)]
  rfl

theorem answerInMemory_on (line : String) (s : SessionState) :
    (session.answerInMemory line).on s = match (session.evaluate line).on s with
      | (.ok outcome, s) => (.ok outcome, s)
      | (.error failure, s) =>
          (.ok { exitCode := 1 }, s.tell session.io.error (failure.chain ++ "\n")) := rfl

theorem answer_on_of_memory (error : s.world.InMemory session.io.error) (line : String) :
    (session.answer line).on s = (session.answerInMemory line).on s := by
  have kept := session.keeps_evaluate line s
  rw [answer, Act.on_bind_ok (Act.on_attempt ..), answerInMemory_on]
  revert kept
  rcases (session.evaluate line).on s with ⟨failure | outcome, t⟩ <;> intro kept
  · obtain ⟨collected, e⟩ := kept.memory _ error
    exact Act.on_bind_ok (report_on e failure.chain)
  · rfl

end Session

/-- Over memory every failure can be reported, and there is nothing to flush in the end. -/
theorem Answered.of_memory {session : Session} {promptText : String} {last : ExitCode}
    {s : SessionState} {lines : List String} {after : Except Failure ExitCode × SessionState}
    (output : s.world.InMemory session.io.output) (error : s.world.InMemory session.io.error)
    (h : Answered session promptText session.answer session.finish last s lines after) :
    Answered session promptText session.answerInMemory pure last s lines after := by
  have beside : ∀ {s t : SessionState} {line id}, s.Fetched promptText line t →
      s.world.InMemory id → t.world.InMemory id := by
    rintro s t line id fetched ⟨collected, e⟩
    exact ⟨collected, by rw [fetched.aside.writers, e]⟩
  induction h with
  | ended fetched =>
      rw [Session.finish_on_of_idle (beside fetched output).idle (beside fetched error).idle]
      exact .ended fetched
  | blank fetched blank _ ih =>
      exact .blank fetched blank (ih (beside fetched output) (beside fetched error))
  | @stopped _ _ t _ line _ _ fetched visible answered stops =>
      have kept := session.keeps_answer line t
      rw [answered] at kept
      rw [Session.finish_on_of_idle (kept.memory _ (beside fetched output)).idle
        (kept.memory _ (beside fetched error)).idle]
      rw [Session.answer_on_of_memory (beside fetched error)] at answered
      exact .stopped fetched visible answered stops
  | @passed _ _ t _ line _ _ _ fetched visible answered goesOn _ ih =>
      have kept := session.keeps_answer line t
      rw [answered] at kept
      have rest := ih (kept.memory _ (beside fetched output)) (kept.memory _ (beside fetched error))
      rw [Session.answer_on_of_memory (beside fetched error)] at answered
      exact .passed fetched visible answered goesOn rest
  | failed fetched visible answered =>
      rw [Session.answer_on_of_memory (beside fetched error)] at answered
      exact .failed fetched visible answered
  | tapped fetched visible answered goesOn asked taken =>
      rw [Session.answer_on_of_memory (beside fetched error)] at answered
      exact .tapped fetched visible answered goesOn asked taken

end Shell
