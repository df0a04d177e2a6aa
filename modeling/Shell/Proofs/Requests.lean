import Shell.Evaluation
import Shell.Proofs.Buffering
import Shell.Proofs.Opening
import Shell.Proofs.Quoting

/-!
# Sessions — what a program is asked for

A line that names a program comes to one request to the launcher.  What the session reports on the
way changes nothing but what the console was given and the log (`World.heard`), and nothing that is
done for the request depends on these (`Effect.Deaf`).

* `Session.launched_of_runProgram`: running a program sends the streams on, and then makes the
  request.
* `evaluate_quoted_line`: evaluating a line of quoted arguments and redirects, in any order, makes
  the request that these arguments and redirects describe.
-/

namespace Shell

/-- The machine with other bytes on the outputs of its console. -/
def Machine.showing (shown : Outputs) (machine : Machine) : Machine :=
  { machine with console.toOutputs := shown }

/-- The world with other bytes on the outputs of the console, and another log. -/
def World.heard (w : World) (shown : Outputs) (log : Log) : World :=
  { w with machine := w.machine.showing shown, log }

/-- Outputs that were given more. -/
structure Outputs.Extended (shown shown' : Outputs) : Prop where
  output : shown.output <+: shown'.output
  error : shown.error <+: shown'.error

namespace Outputs.Extended

theorem refl (shown : Outputs) : shown.Extended shown :=
  ⟨List.prefix_refl _, List.prefix_refl _⟩

theorem trans {a b c : Outputs} (h : a.Extended b) (h' : b.Extended c) : a.Extended c :=
  ⟨h.output.trans h'.output, h.error.trans h'.error⟩

theorem write (console : Console) (channel : Channel) (bytes : Bytes) :
    console.toOutputs.Extended (console.write channel bytes).toOutputs := by
  cases channel with
  | output => exact ⟨List.prefix_append _ _, List.prefix_refl _⟩
  | error => exact ⟨List.prefix_refl _, List.prefix_append _ _⟩

end Outputs.Extended

/-- A record is heard, and shown behind what was shown before. -/
theorem World.exists_record (w : World) (level : Level) (topic message : String) :
    ∃ shown log, w.record level topic message = w.heard shown log
      ∧ w.machine.console.toOutputs.Extended shown := by
  unfold record
  split
  · cases w.log.display with
    | none => exact ⟨w.machine.console.toOutputs, _, rfl, .refl _⟩
    | some display =>
        let line := Bytes.ofText (display.line { level, topic, message })
        rcases w.machine.console.shown_eq line with same | written
        · exact ⟨w.machine.console.toOutputs, _, by simp only [line, same]; rfl, .refl _⟩
        · exact ⟨(w.machine.console.write .error line).toOutputs, _,
            by simp only [line, written]; rfl, .write ..⟩
  · exact ⟨w.machine.console.toOutputs, w.log, rfl, .refl _⟩

/-- Whether a request to the world depends neither on what the console was given nor on the log, and
leaves the log alone. -/
def Effect.Deaf {ε α : Type} (x : Effect ε α) : Prop :=
  ∀ w shown log, ∃ shown', x.on (w.heard shown log) = ((x.on w).1, (x.on w).2.heard shown' log)

/-- What is given to the console does not depend on what it was given before. -/
theorem Writer.overlooks_outputs_send (bytes : Bytes) :
    Act.Overlooks (∃ shown, · = Machine.showing shown) (Writer.send · · bytes) := by
  rintro _ ⟨shown, rfl⟩ writer machine
  cases writer with
  | memory collected => exact ⟨_, ⟨shown, rfl⟩, rfl⟩
  | console channel waiting =>
      have same : (machine.showing shown).console.refusal? channel
          = machine.console.refusal? channel := by cases channel <;> rfl
      by_cases none : bytes = []
      · refine ⟨_, ⟨shown, rfl⟩, ?_⟩
        simp only [send, Console.pass, none, if_true]
      · cases refusal : machine.console.refusal? channel with
        | some e =>
            refine ⟨_, ⟨shown, rfl⟩, ?_⟩
            simp only [send, Console.pass, none, if_false, same, refusal]
        | none =>
            refine ⟨_, ⟨((machine.showing shown).console.write channel bytes).toOutputs, rfl⟩, ?_⟩
            simp only [send, Console.pass, none, if_false, same, refusal]
            cases channel <;> rfl
  | buffered file waiting =>
      refine ⟨_, ⟨shown, rfl⟩, ?_⟩
      have tree : (machine.showing shown).tree = machine.tree := rfl
      simp only [send, tree]
      cases machine.tree.write file bytes <;> rfl

namespace Effect.Deaf

variable {ε α β : Type}

theorem pure (a : α) : Deaf (Pure.pure a : Effect ε α) :=
  fun _ shown _ => ⟨shown, rfl⟩

theorem bind {x : Effect ε α} {f : α → Effect ε β} (hx : x.Deaf) (hf : ∀ a, (f a).Deaf) :
    (x >>= f).Deaf := by
  intro w shown log
  obtain ⟨shown', first⟩ := hx w shown log
  rw [on_bind, on_bind, first]
  rcases x.on w with ⟨_ | a, w'⟩
  · exact ⟨shown', rfl⟩
  · exact hf a w' shown' log

theorem useWriter {act : Writer.Act} (h : act.Overlooks (∃ shown, · = Machine.showing shown))
    (id : WriterId) : (World.useWriter id act).Deaf := by
  intro w shown log
  have same : (w.heard shown log).writers[id]? = w.writers[id]? := rfl
  cases found : w.writers[id]? with
  | none => exact ⟨shown, by simp only [World.useWriter, Effect.on, same, found]⟩
  | some writer =>
      obtain ⟨_, ⟨shown', rfl⟩, acted⟩ := h _ ⟨shown, rfl⟩ writer w.machine
      refine ⟨shown', ?_⟩
      rw [World.useWriter_on (same.trans found) acted, World.useWriter_on found rfl]
      rfl

theorem write (id : WriterId) (bytes : Bytes) : (World.write id bytes).Deaf :=
  useWriter (.write Writer.overlooks_outputs_send bytes) id

theorem flush (id : WriterId) : (World.flush id).Deaf :=
  useWriter (.flush Writer.overlooks_outputs_send) id

theorem flush_binding (io : Binding) : io.flush.Deaf := by
  refine bind (flush io.output) fun _ => ?_
  split
  · exact flush io.error
  · exact pure ()

theorem ofRedirects (redirects : List Redirect) : (Plan.ofRedirects redirects).Deaf := by
  intro w shown log
  rw [Plan.ofRedirects_on, Plan.ofRedirects_on]
  exact ⟨shown, rfl⟩

end Effect.Deaf

/-! ### The working directory and the streams -/

theorem World.cwd_flush (id : WriterId) (w : World) : ((World.flush id).on w).2.cwd = w.cwd := by
  simp only [flush, useWriter, Effect.on]
  split <;> rfl

theorem Binding.cwd_flush (io : Binding) (w : World) : (io.flush.on w).2.cwd = w.cwd := by
  refine @Effect.after_bind _ _ _ (fun w' => w'.cwd = w.cwd) _ _ w (World.cwd_flush io.output w)
    fun _ w' first => ?_
  split
  · exact (World.cwd_flush io.error w').trans first
  · exact first

theorem Plan.cwd_ofRedirects (redirects : List Redirect) (w : World) :
    ((ofRedirects redirects).on w).2.cwd = w.cwd := by
  rw [ofRedirects_on]
  rfl

/-- The state with other bytes on the outputs of the console, and another log. -/
def SessionState.heard (s : SessionState) (shown : Outputs) (log : Log) : SessionState :=
  { s with world := s.world.heard shown log }

/-- A request to the launcher was made in a state, with a tree, and a result came of it. -/
structure Launched (session : Session) (s : SessionState) (request : LaunchRequest)
    (tree : FileTree) (after : Except Failure Outcome × SessionState) : Prop where
  requests : after.2.requests = s.requests ++ [request]
  environment : after.2.environment = s.environment
  /-- The exit code of the program is that of the line, and the session goes on. -/
  exit : ∃ before : Machine, before.tree = tree ∧ ∀ code,
    (session.launcher.launch s.requests.length s.world.cwd request before).1 = .waited (.ok code) →
      after.1 = .ok { exitCode := code, terminate := false }

namespace Session

/-- A report is heard, and nothing else changes. -/
theorem exists_follow (s : SessionState) (shown : Outputs) (log : Log) (topic message : String) :
    ∃ shown' log', (follow topic message : Act Failure Unit).on (s.heard shown log)
      = (.ok (), s.heard shown' log') := by
  obtain ⟨shown', log', e, -⟩ := (s.world.heard shown log).exists_record .debug topic message
  exact ⟨shown', log', by rw [follow, Act.on_change]; exact congrArg (_, { s with world := · }) e⟩

variable {session : Session} {program : String} {command : Command} {s : SessionState} {plan : Plan}
  {w w' : World}

/-- A request that is made last, whatever is done with its outcome in the end. -/
theorem launched_of_launch {s s' : SessionState} {request : LaunchRequest}
    {finish : LaunchOutcome → Act Failure Outcome} (requests : s'.requests = s.requests)
    (environment : s'.environment = s.environment) (cwd : s'.world.cwd = s.world.cwd)
    (exits : ∀ code, finish (.waited (.ok code)) = pure { exitCode := code })
    (keeps : ∀ outcome s, ((finish outcome).on s).2.requests = s.requests
      ∧ ((finish outcome).on s).2.environment = s.environment) :
    Launched session s request s'.world.machine.tree
      ((session.launch request >>= finish).on s') := by
  obtain ⟨world, _, _⟩ := s'
  obtain rfl : _ = s.requests := requests
  obtain rfl : _ = s.environment := environment
  let answer := session.launcher.launch s.requests.length world.cwd request world.machine
  have launched : ∃ w, (session.launch request).on { s with world }
      = (.ok answer.1, { s with world := w, requests := s.requests ++ [request] }) :=
    ⟨_, rfl⟩
  obtain ⟨w, launched⟩ := launched
  rw [Act.on_bind_ok launched]
  refine ⟨(keeps _ _).1, (keeps _ _).2, world.machine, rfl, fun code e => ?_⟩
  rw [← cwd] at e
  rw [show answer.1 = .waited (.ok code) from e, exits]
  rfl

/-- The report of a program that was cut short makes no request. -/
theorem report_keeps (session : Session) (text : String) (s : SessionState) :
    ((session.report text).on s).2.requests = s.requests
      ∧ ((session.report text).on s).2.environment = s.environment := ⟨rfl, rfl⟩

theorem plan_heard (planned : (Plan.ofRedirects command.redirects).on s.world = (.ok plan, w))
    (shown : Outputs) (log : Log) :
    ∃ shown', (Act.attempt (Act.ofEffect (Plan.ofRedirects command.redirects)) : Act Failure _).on
      (s.heard shown log) = (.ok (.ok plan), { s with world := w.heard shown' log }) := by
  obtain ⟨shown', heard⟩ := Effect.Deaf.ofRedirects command.redirects s.world shown log
  rw [planned] at heard
  exact ⟨shown', by simp only [Act.on_attempt, Act.on_ofEffect, SessionState.heard, heard]⟩

theorem flush_heard {result : Except SystemError Unit}
    (flushed : session.io.flush.on w = (result, w')) (shown : Outputs) (log : Log) :
    ∃ shown', Act.on (ExceptT.adapt Failure.stream (Act.ofEffect session.io.flush))
      { s with world := w.heard shown log }
        = (result.mapError .stream, { s with world := w'.heard shown' log }) := by
  obtain ⟨shown', heard⟩ := Effect.Deaf.flush_binding session.io w shown log
  rw [flushed] at heard
  exact ⟨shown', by simp only [Act.on_adapt, Act.on_ofEffect, heard]⟩

/-- **Running a program** whose targets could be opened sends the streams on, and if this succeeds
makes the request. -/
theorem launched_of_runProgram
    (planned : (Plan.ofRedirects command.redirects).on s.world = (.ok plan, w))
    (flushed : session.io.flush.on w = (.ok (), w')) (shown : Outputs) (log : Log) :
    Launched session s
      { program, argv := command.argv, directory := s.environment.directory,
        vars := s.environment.vars, plan }
      w'.machine.tree ((session.runProgram program command).on (s.heard shown log)) := by
  obtain ⟨_, log', followed⟩ := exists_follow s shown log evaluationTopic
    (command.name.text ++ " resolved to " ++ program)
  obtain ⟨_, planned'⟩ := plan_heard planned _ log'
  obtain ⟨shown', flushed'⟩ := flush_heard (s := s) flushed _ log'
  rw [runProgram, Act.on_bind_ok followed, Act.on_bind_ok planned']
  dsimp only
  rw [Act.on_bind_ok flushed', Act.on_bind_ok (Act.on_look ..)]
  have cwd : w'.cwd = s.world.cwd := by
    rw [← congrArg (·.2.cwd) flushed, Binding.cwd_flush, ← congrArg (·.2.cwd) planned,
      Plan.cwd_ofRedirects]
  -- whatever comes of the request, only reports follow it
  refine @launched_of_launch session s { s with world := w'.heard shown' log' } _ _ rfl rfl cwd
    ?_ ?_
  · exact fun _ => rfl
  · intro outcome s
    cases outcome with
    | refused e => exact ⟨rfl, rfl⟩
    | waited result =>
        cases result with
        | ok code => exact ⟨rfl, rfl⟩
        | error e =>
            cases e with
            | launch | wait => exact ⟨rfl, rfl⟩
            | interrupted =>
                have kept := report_keeps session (command.name.text ++ ": interrupted") s
                dsimp only
                rw [Act.on_bind]
                rcases e : (session.report (command.name.text ++ ": interrupted")).on s
                  with ⟨_ | _, s'⟩
                · rwa [e] at kept
                · rwa [e] at kept

variable (program) in
/-- No request is made if a stream refuses what it kept back. -/
theorem refused_of_runProgram
    (planned : (Plan.ofRedirects command.redirects).on s.world = (.ok plan, w)) {e : SystemError}
    (refused : session.io.flush.on w = (.error e, w')) (shown : Outputs) (log : Log) :
    ∃ world, (session.runProgram program command).on (s.heard shown log)
      = (.error (.stream e), { s with world }) := by
  obtain ⟨_, log', followed⟩ := exists_follow s shown log evaluationTopic
    (command.name.text ++ " resolved to " ++ program)
  obtain ⟨_, planned'⟩ := plan_heard planned _ log'
  obtain ⟨_, refused'⟩ := flush_heard (s := s) refused _ log'
  rw [runProgram, Act.on_bind_ok followed, Act.on_bind_ok planned']
  dsimp only
  rw [Act.on_bind_error refused']
  exact ⟨_, rfl⟩

/-! ### One line -/

theorem exists_runCommand (absent : session.registry.contains command.name.text = false)
    (found : s.environment.findExecutable s.world command.name.text = some program)
    (shown : Outputs) (log : Log) :
    ∃ shown' log', (session.runCommand command).on (s.heard shown log)
      = (session.runProgram program command).on (s.heard shown' log') := by
  obtain ⟨shown', log', followed⟩ := exists_follow s shown log evaluationTopic
    ("evaluating " ++ command.shown)
  have none : session.registry.find? command.name.text = none := by
    simpa [Registry.contains] using absent
  have here : (s.heard shown' log').environment.findExecutable (s.heard shown' log').world
      command.name.text = some program := found
  refine ⟨shown', log', ?_⟩
  rw [runCommand, Act.on_bind_ok followed]
  simp only [none]
  rw [Act.on_bind_ok (Act.on_look ..), here]

theorem exists_evaluate {line : String} (visible : Text.isBlankLine line = false)
    (read : Command.ofLine line = .ok command) (s : SessionState) :
    ∃ shown log, (session.evaluate line).on s
      = (session.runCommand command).on (s.heard shown log) := by
  obtain ⟨shown, log, followed⟩ := exists_follow s s.world.machine.console.toOutputs s.world.log
    parsingTopic ("tokens: " ++ bracketed ((tokenize (Text.trim line)).map Token.shown))
  have here : s.heard s.world.machine.console.toOutputs s.world.log = s := rfl
  rw [here] at followed
  refine ⟨shown, log, ?_⟩
  rw [evaluate, visible, if_neg Bool.false_ne_true, Act.on_bind_ok followed, read]

variable (session) in
/-- A line of quoted arguments and redirects, in any order, whose name is that of a program runs
this program. -/
theorem exists_evaluate_spaced {items : List Item} {line : String} (command : Command)
    (spelled : ∀ item ∈ items, item.IsSpelled)
    (spaced : Spaced (items.flatMap Item.tokens) line.toList)
    (words : items.filterMap Item.word? = command.words)
    (redirects : items.filterMap Item.redirect? = command.redirects)
    (external : session.registry.contains command.name.text = false)
    (found : s.environment.findExecutable s.world command.name.text = some program) :
    ∃ shown log, (session.evaluate line).on s
      = (session.runProgram program command).on (s.heard shown log) := by
  have proper : ∀ token ∈ items.flatMap Item.tokens, token.IsProper := by
    intro token mem
    obtain ⟨item, hi, ht⟩ := List.mem_flatMap.mp mem
    exact Item.isProper_of_mem_tokens (spelled item hi) ht
  have visible := (tight_of_spaced spaced proper).not_isBlankLine
  have read := Command.ofLine_of_spaced command spelled spaced words redirects
  obtain ⟨_, log, evaluated⟩ := session.exists_evaluate visible read s
  obtain ⟨shown, log, ran⟩ := exists_runCommand external found _ log
  exact ⟨shown, log, evaluated.trans ran⟩

end Session

/-- **Arguments reach the program intact.**  A line of quoted arguments and redirects, in any order,
whose name is that of a program makes one request with these arguments and the plan of these
redirects, once what the session's own streams keep back is sent on.  If it is refused, the line
fails and makes no request; and where nothing waits there is nothing to refuse. -/
theorem evaluate_quoted_line {session : Session} {s : SessionState} {items : List Item}
    {line : String} (command : Command) {program : String} {plan : Plan} {w : World}
    (spelled : ∀ item ∈ items, item.IsSpelled)
    (spaced : Spaced (items.flatMap Item.tokens) line.toList)
    (words : items.filterMap Item.word? = command.words)
    (redirects : items.filterMap Item.redirect? = command.redirects)
    (external : session.registry.contains command.name.text = false)
    (found : s.environment.findExecutable s.world command.name.text = some program)
    (planned : (Plan.ofRedirects command.redirects).on s.world = (.ok plan, w)) :
    let after := (session.evaluate line).on s
    (∀ w', session.io.flush.on w = (.ok (), w') → Launched session s
        { program, argv := command.argv, directory := s.environment.directory,
          vars := s.environment.vars, plan } w'.machine.tree after)
      ∧ (∀ e w', session.io.flush.on w = (.error e, w') → after.1 = .error (.stream e)
        ∧ after.2.requests = s.requests ∧ after.2.environment = s.environment)
      ∧ (s.world.Idle session.io.output → s.world.Idle session.io.error →
        session.io.flush.on w = (.ok (), w)) := by
  obtain ⟨shown, log, evaluated⟩ :=
    session.exists_evaluate_spaced command spelled spaced words redirects external found
  intro after
  have after_eq : after = _ := evaluated
  refine ⟨fun w' flushed => ?_, fun e w' refused => ?_, fun output error => ?_⟩
  · rw [after_eq]
    exact Session.launched_of_runProgram planned flushed shown log
  · obtain ⟨world, failed⟩ := Session.refused_of_runProgram program planned refused shown log
    rw [after_eq, failed]
    exact ⟨rfl, rfl, rfl⟩
  · have writers : w.writers = s.world.writers := by
      rw [← congrArg (·.2.writers) planned, Plan.ofRedirects_on]
      rfl
    refine Binding.flush_on_of_idle ?_ ?_
    · rwa [World.Idle, writers]
    · rwa [World.Idle, writers]

/-- Redirects before, between and behind the arguments, one of which is a quote and spaces. -/
theorem evaluate_quoted_line_mixed :
    let start := Binding.overMemory []
      { machine.tree.entries := [(["bin"], .directory), (["cat", "bin"], .tool .concatenate),
          (["d"], .directory), (["f", "d"], .file 0o644 [65])], cwd := ["d"] }
    let session : Session := { io := start.1, launcher := .scripted [fun _ => .waited (.ok 7)] }
    let s : SessionState := { world := start.2, environment := { vars := [("PATH", "/bin")] } }
    let command : Command := ⟨⟨"cat", by decide⟩, [⟨"it's  x", by decide⟩],
      [⟨.output, ⟨"o", by decide⟩⟩, ⟨.input, ⟨"f", by decide⟩⟩, ⟨.errorAppend, ⟨"o", by decide⟩⟩]⟩
    let items : List Item := [.redirect ⟨.output, ⟨"o", by decide⟩⟩ "1>",
      .argument ⟨"cat", by decide⟩, .redirect ⟨.input, ⟨"f", by decide⟩⟩ "<",
      .argument ⟨"it's  x", by decide⟩, .redirect ⟨.errorAppend, ⟨"o", by decide⟩⟩ "2>>"]
    let plan : Plan := ⟨.file .read "f", .file .truncate "o", .file .append "o", false⟩
    Spaced (items.flatMap Item.tokens) "1>   'o' 'cat' < 'f' 'it'\\''s  x' 2>> 'o'".toList
      ∧ s.environment.findExecutable s.world command.name.text = some "/bin/cat"
      ∧ ((Plan.ofRedirects command.redirects).on s.world).1 = .ok plan
      ∧ ((session.evaluate "1>   'o' 'cat' < 'f' 'it'\\''s  x' 2>> 'o'").on s).2.requests
        = [⟨"/bin/cat", ["cat", "it's  x"], ".", [("PATH", "/bin")], plan⟩] := by
  intro start session s command items plan
  have spaced : Spaced (items.flatMap Item.tokens)
      "1>   'o' 'cat' < 'f' 'it'\\''s  x' 2>> 'o'".toList :=
    .cons (.operator "1>") 2 <| .cons (.word "o") 0 <| .cons (.word "cat") 0 <|
    .cons (.operator "<") 0 <| .cons (.word "f") 0 <| .cons (.word "it's  x") 0 <|
    .cons (.operator "2>>") 0 <| .last (.word "o")
  have found : s.environment.findExecutable s.world command.name.text = some "/bin/cat" := by decide
  have opened : (Opening.of s.world.machine.tree s.world.cwd command.redirects).refusal = none := by
    decide
  have accepted : ((Plan.ofRedirects command.redirects).on s.world).1 = .ok plan := by
    rw [Plan.ofRedirects_on, opened]
    rfl
  have planned : (Plan.ofRedirects command.redirects).on s.world
      = (.ok plan, ((Plan.ofRedirects command.redirects).on s.world).2) := Prod.ext accepted rfl
  have spelled : ∀ item ∈ items, item.IsSpelled := by
    intro item mem
    simp only [items, List.mem_cons, List.not_mem_nil, or_false] at mem
    rcases mem with rfl | rfl | rfl | rfl | rfl <;> simp [Item.IsSpelled, RedirectKind.spellings]
  have external : session.registry.contains command.name.text = false := by decide
  have words : items.filterMap Item.word? = command.words := rfl
  have redirects : items.filterMap Item.redirect? = command.redirects := rfl
  have evaluated :=
    evaluate_quoted_line command spelled spaced words redirects external found planned
  have output : s.world.Idle session.io.output := by
    rintro writer ⟨⟩
    rfl
  have error : s.world.Idle session.io.error := by
    rintro writer ⟨⟩
    rfl
  exact ⟨spaced, found, accepted, (evaluated.1 _ (evaluated.2.2 output error)).requests⟩

/-- A program of the machine, with nothing to open; but the standard output refuses the line that a
builtin has left there, and the program is not asked for. -/
theorem evaluate_quoted_line_withheld :
    let session : Session :=
      { io := { input := 0, output := 0, error := 1 }, launcher := .scripted [] }
    let s : SessionState :=
      { world :=
          { machine.tree.entries := [(["bin"], .directory), (["cat", "bin"], .tool .concatenate)]
            machine.console.outputRefusal := some .noSpace
            writers := [.console .output (Bytes.ofText "hi\n"), .console .error []]
            readers := [{ source := .console }] }
        environment := { vars := [("PATH", "/bin")] } }
    let items : List Item := [.argument ⟨"cat", by decide⟩, .argument ⟨"f", by decide⟩]
    let after := (session.evaluate "'cat' 'f'").on s
    Spaced (items.flatMap Item.tokens) "'cat' 'f'".toList
      ∧ session.registry.contains "cat" = false
      ∧ s.environment.findExecutable s.world "cat" = some "/bin/cat"
      ∧ (Plan.ofRedirects []).on s.world = (.ok {}, s.world)
      ∧ after.1 = .error (.stream .noSpace) ∧ after.2.requests = [] := by
  intro session s items after
  have spaced : Spaced (items.flatMap Item.tokens) "'cat' 'f'".toList :=
    .cons (.word "cat") 0 <| .last (.word "f")
  have found : s.environment.findExecutable s.world "cat" = some "/bin/cat" := by decide
  have spelled : ∀ item ∈ items, item.IsSpelled := by
    intro item mem
    simp only [items, List.mem_cons, List.not_mem_nil, or_false] at mem
    rcases mem with rfl | rfl <;> trivial
  let command : Command := ⟨⟨"cat", by decide⟩, [⟨"f", by decide⟩], []⟩
  have planned : (Plan.ofRedirects command.redirects).on s.world = (.ok {}, s.world) := rfl
  have refused : session.io.flush.on s.world = (.error .noSpace, s.world) := rfl
  obtain ⟨shown, log, evaluated⟩ := session.exists_evaluate_spaced command
    spelled spaced rfl rfl (by decide) found
  obtain ⟨world, failed⟩ := Session.refused_of_runProgram "/bin/cat" planned refused
    shown log
  have failed : after = (.error (.stream .noSpace), { s with world }) := evaluated.trans failed
  exact ⟨spaced, by decide, found, planned, by rw [failed], by rw [failed]⟩

end Shell
