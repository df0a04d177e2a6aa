import Shell.Proofs.Dispatching
import Shell.Proofs.Interacting

/-!
# Interactive sessions — a fold over the logical lines

Over streams in memory a session can neither fail to report nor fail to flush.  So it comes to the
fold over its logical lines: the result is the exit code of the last line that was evaluated
(`interact_answers_logical_lines`).

The lines are those that are left to read.  A session takes its input in blocks, and a program takes
what is behind the block that was taken last; `interact_misses_taken_line` has a line there that
ends the session, and it is never evaluated.  Nor is any line where a prompt has to be shown and
cannot be (`Session.interact_on_of_refused_prompt`).
-/

namespace Shell

/-- **An interactive session over memory** answers each logical line of its input, and gives the
exit code of the last one; where a program takes from that input, it goes on with what is left. -/
theorem interact_answers_logical_lines {session : Session} {s : SessionState} {text : String}
    {lines : List String} (output : s.world.InMemory session.io.output)
    (error : s.world.InMemory session.io.error) (source : s.world.typed.source = .console)
    (bytes : s.world.typed.ahead ++ s.world.machine.console.input = Bytes.ofText text)
    (plain : InputLine.backspace ∉ text.toList) (prompts : Session.TakesPrompts s.world)
    (joined : InputLine.join (InputLine.physical text) = some lines) (promptText : String) :
    s.Aside (Session.ready s)
      ∧ Answered session promptText session.answerInMemory pure 0 (Session.ready s) lines
        ((session.interact promptText).on s) := by
  have aside := Session.aside_ready s
  have still : ∀ {id}, s.world.InMemory id → (Session.ready s).world.InMemory id := by
    rintro id ⟨collected, found⟩
    exact ⟨collected, by rw [aside.writers, found]⟩
  exact ⟨aside, .of_memory (still output) (still error)
    (Session.answered_interact (.of_text source bytes plain prompts) joined promptText)⟩

/-- A line in two parts, a blank one, a program that cannot be started, and a line behind the one
that ends the session. -/
theorem interact_answers_logical_lines_mixed :
    let text := "ec\\\nho a\r\n \ncat x\nexit 3\npwd\n"
    let start := Binding.overMemory []
      { machine :=
          { tree.entries := [(["bin"], .directory), (["cat", "bin"], .tool .concatenate)]
            console.input := Bytes.ofText text } }
    let session : Session :=
      { io := start.1
        launcher := .scripted [fun request => .refused (.launch request.program .noSuchFile)] }
    let s : SessionState := { world := start.2, environment := { vars := [("PATH", "/bin")] } }
    let after := (session.interact "$ ").on s
    InputLine.join (InputLine.physical text) = some ["echo a", " ", "cat x", "exit 3", "pwd"]
      ∧ Answered session "$ " session.answerInMemory pure 0 (Session.ready s)
        ["echo a", " ", "cat x", "exit 3", "pwd"] after
      ∧ after.1 = .ok 3
      ∧ after.2.world.writers = [.memory (Bytes.ofText "a\n"),
        .memory (Bytes.ofText ("/bin/cat: " ++ SystemError.noSuchFile.message ++ ": "
          ++ SystemError.noSuchFile.message ++ "\n"))] := by
  intro text start session s after
  have joined : InputLine.join (InputLine.physical text)
      = some ["echo a", " ", "cat x", "exit 3", "pwd"] := by decide +kernel
  have plain : InputLine.backspace ∉ text.toList := by decide
  have prompts : Session.TakesPrompts s.world := nofun
  refine ⟨joined,
    (interact_answers_logical_lines ⟨[], rfl⟩ ⟨[], rfl⟩ rfl rfl plain prompts joined "$ ").2,
    Except.eq_ok_of_toOption ?_, ?_⟩ <;> decide +kernel

/-- A prompt that has to be shown and cannot be ends the session before it reads anything. -/
theorem Session.interact_on_of_refused_prompt {session : Session} {s : SessionState}
    {promptText : String} {cause : SystemError} (shown : promptText ≠ "")
    (terminal : hasPlainTerminal s.world)
    (refused : s.world.machine.console.refusal? .output = some cause) :
    ((session.interact promptText).on s).1 = .error (.reading cause) := by
  have aside := aside_ready s
  have terminal : hasPlainTerminal (ready s).world := by
    rw [← terminal, hasPlainTerminal, hasPlainTerminal, World.startValue?, World.startValue?,
      aside.vars]
  have prompted := prompt_on_of_refused shown terminal (aside.refusal ▸ refused)
  obtain ⟨t, stopped⟩ : ∃ t, (readCommand promptText).on (ready s) = (.error cause, t) := by
    rw [readCommand, readLine, Act.on_bind, Act.on_bind, Act.on_ofEffect]
    generalize (prompt promptText).on (ready s).world = result at prompted ⊢
    obtain ⟨_ | _, w⟩ := result <;> cases prompted
    exact ⟨_, rfl⟩
  have failed : Act.on (ExceptT.adapt Failure.reading (readCommand promptText)) (ready s)
      = (.error (.reading cause), t) := by
    rw [Act.on_adapt, stopped]
    rfl
  rw [interact, Act.on_bind_ok (Act.on_change ..), resume, Act.on_bind_ok (Act.on_look ..),
    interactWithin]
  exact congrArg Prod.fst (Act.on_bind_error failed)

/-! ### Input that a program takes -/

/-- A line of spaces. -/
def spaces (count : Nat) : String :=
  String.ofList (List.replicate count ' ')

namespace spaces

theorem isBlankLine (count : Nat) : Text.isBlankLine (spaces count) = true := by
  rw [Text.isBlankLine, spaces, String.toList_ofList, List.all_eq_true]
  intro c mem
  rw [(List.mem_replicate.mp mem).2]
  rfl

theorem continued? (count : Nat) : InputLine.continued? (spaces count) = none := by
  cases count <;> simp [InputLine.continued?, spaces, List.replicate_succ']

theorem ofText (count : Nat) : Bytes.ofText (spaces count) = List.replicate count 32 := by
  induction count with
  | zero => rfl
  | succ count ih =>
      unfold spaces at ih ⊢
      rw [List.replicate_succ, Bytes.ofText_ofList_cons, ih]
      rfl

/-- A line of spaces is one physical line, whether it has an end or not. -/
theorem withoutEnd (count : Nat) :
    InputLine.withoutEnd (List.replicate count ' ') = List.replicate count ' '
      ∧ InputLine.withoutEnd (List.replicate count ' ' ++ ['\n']) = List.replicate count ' ' := by
  cases count <;> simp [InputLine.withoutEnd, List.replicate_succ']

theorem physical (count : Nat) :
    InputLine.physical (spaces (count + 1)) = [spaces (count + 1)] := by
  have cut : InputLine.pieces (List.replicate (count + 1) ' ')
      = [List.replicate (count + 1) ' '] := by
    induction count with
    | zero => rfl
    | succ count ih =>
        rw [List.replicate_succ, InputLine.pieces, ih]
        rfl
  rw [spaces, InputLine.physical, String.toList_ofList, cut, List.map_singleton, (withoutEnd _).1]

end spaces

/-- Programs that read all input. -/
def Launcher.draining : Launcher where
  launch _ _ _ machine := (.waited (.ok 0), { machine with console.input := [] })

/-- A session over memory that starts such programs. -/
def Session.draining : Session where
  io := { input := 0, output := 0, error := 1 }
  launcher := .draining

/-- A state of that session, in which it can start one program. -/
def SessionState.draining (ahead input : Bytes) : SessionState where
  world :=
    { machine :=
        { tree.entries := [(["bin"], .directory), (["cat", "bin"], .tool .concatenate)]
          console := { input } }
      writers := [.memory [], .memory []]
      readers := [{}]
      typed := { source := .console, ahead } }
  environment := { vars := [("PATH", "/bin")] }

/-- A program takes all that is on the console, and nothing that was taken before. -/
theorem evaluate_cat_draining (ahead input : Bytes) :
    (Session.draining.evaluate "cat").on (.draining ahead input)
      = (.ok { exitCode := 0 }, { SessionState.draining ahead [] with
          requests := [⟨"/bin/cat", ["cat"], ".", [("PATH", "/bin")], {}⟩] }) := by
  let s := SessionState.draining ahead input
  let command : Command := ⟨⟨"cat", by decide⟩, [], []⟩
  have read : Command.ofLine "cat" = .ok command := rfl
  have silent : ∀ topic message, (Session.follow topic message : Act Failure Unit).on s
      = (.ok (), s) := fun _ _ => rfl
  have program : s.environment.findExecutable s.world command.name.text = some "/bin/cat" := by
    have searched : (Search.program? (SessionState.draining [] []).world.machine.tree [] "/bin"
        "cat").map Program.path = some "/bin/cat" := by decide
    exact searched
  have planned : (Act.attempt (Act.ofEffect (Plan.ofRedirects command.redirects)) :
      Act Failure _).on s = (.ok (.ok {}), s) := rfl
  have flushed : Act.on (ExceptT.adapt Failure.stream (Act.ofEffect Session.draining.io.flush)) s
      = (.ok (), s) := rfl
  have launched : ∀ request, (Session.draining.launch request).on s
      = (.ok (.waited (.ok 0)), { SessionState.draining ahead [] with requests := [request] }) := by
    intro request
    have all : input.drop (input.length - 0) = [] := by rw [Nat.sub_zero, List.drop_length]
    rw [← all]
    rfl
  rw [Session.evaluate, if_neg (by decide), Act.on_bind_ok (silent ..), read]
  dsimp only
  rw [Session.runCommand, Act.on_bind_ok (silent ..)]
  have unregistered : Session.draining.registry.find? command.name.text = none := by decide
  rw [unregistered]
  dsimp only
  rw [Act.on_bind_ok (Act.on_look ..), program]
  dsimp only
  rw [Session.runProgram, Act.on_bind_ok (silent ..), Act.on_bind_ok planned]
  dsimp only
  rw [Act.on_bind_ok flushed, Act.on_bind_ok (Act.on_look ..), Act.on_bind_ok (launched _)]
  rfl

/-- A builtin without redirects gives what its work gives, whatever becomes of the streams. -/
theorem Session.runBuiltin_of_bare {session : Session} {builtin : Builtin} {command : Command}
    {outcome : Outcome} (bare : command.redirects = [])
    (ran : ∀ s, ((builtin.run session.registry session.io (command.arguments.map Word.text)).on s).1
      = .ok outcome) (s : SessionState) :
    ((session.runBuiltin builtin command).on s).1 = .ok outcome := by
  rw [runBuiltin_on builtin (Redirection.apply_of_bare bare _ _)]
  simp only [Resolved.binding, ran]
  rfl

theorem evaluate_exit_draining (s : SessionState) :
    ((Session.draining.evaluate "exit 3").on s).1 = .ok { exitCode := 3, terminate := true } := by
  let command : Command := ⟨⟨"exit", by decide⟩, [⟨"3", by decide⟩], []⟩
  have read : Command.ofLine "exit 3" = .ok command := rfl
  have registered : Session.draining.registry.find? command.name.text = some .exit := rfl
  rw [Session.evaluate_on read, Session.way, registered]
  exact Session.runBuiltin_of_bare rfl (fun _ => rfl) _

theorem join_draining (count : Nat) :
    InputLine.join (InputLine.physical ("cat\n" ++ spaces count ++ "\nexit 3\n"))
      = some ["cat", spaces count, "exit 3"] := by
  have chars : ("cat\n" ++ spaces count ++ "\nexit 3\n").toList = "cat".toList ++ '\n' ::
      (List.replicate count ' ' ++ '\n' :: ("exit 3".toList ++ ['\n'])) := by
    simp [spaces]
  have inside : '\n' ∉ List.replicate count ' ' := by simp
  have lines : InputLine.physical ("cat\n" ++ spaces count ++ "\nexit 3\n")
      = ["cat", spaces count, "exit 3"] := by
    rw [InputLine.physical, chars, InputLine.pieces_append (by decide),
      InputLine.pieces_append inside, InputLine.pieces_append (by decide), List.map_cons,
      List.map_cons, (spaces.withoutEnd count).2]
    rfl
  have first : InputLine.continued? "cat" = none := rfl
  have last : InputLine.continued? "exit 3" = none := rfl
  simp only [lines, InputLine.join, InputLine.joinFrom, first, spaces.continued?, last,
    Option.map_some]

/-- The input that the session starts with. -/
def drainingInput (count : Nat) : Bytes :=
  Bytes.ofText ("cat\n" ++ spaces count ++ "\nexit 3\n")

/-- The first block of that input holds the spaces, but not the line behind them. -/
theorem readCommand_draining {count : Nat} (full : count + 4 = bufferSize) :
    (Session.readCommand "$ ").on (.draining [] (drainingInput count))
        = (.ok (some "cat"),
          .draining (Bytes.ofText (spaces count)) (Bytes.ofText "\nexit 3\n"))
      ∧ bufferSize ≤ (drainingInput count).length := by
  let block := Bytes.ofText "cat\n" ++ Bytes.ofText (spaces count)
  have ends : Bytes.newline ∈ Bytes.ofText "cat\n" := by decide
  have cut : Bytes.splitLine block = (Bytes.ofText "cat\n", Bytes.ofText (spaces count)) := by
    rw [Bytes.splitLine_append_of_mem ends]
    rfl
  have bytes : drainingInput count = block ++ Bytes.ofText "\nexit 3\n" := by
    simp only [drainingInput, Bytes.ofText_append, block]
  have size : block.length = bufferSize := by
    rw [List.length_append, spaces.ofText, List.length_replicate, ← full, Nat.add_comm]
    rfl
  refine ⟨Session.readCommand_of_block rfl rfl bytes size (List.mem_append_left _ ends) cut
    (by decide) rfl, ?_⟩
  rw [bytes, List.length_append, size]
  exact Nat.le_add_right _ _

theorem interact_draining (count : Nat) (full : count + 5 = bufferSize) :
    ((Session.draining.interact "$ ").on (.draining [] (drainingInput (count + 1)))).1 = .ok 0 := by
  let s := SessionState.draining [] (drainingInput (count + 1))
  let t : SessionState := { SessionState.draining (Bytes.ofText (spaces (count + 1))) [] with
    requests := [⟨"/bin/cat", ["cat"], ".", [("PATH", "/bin")], {}⟩] }
  obtain ⟨read, long⟩ := readCommand_draining (show count + 1 + 4 = bufferSize by omega)
  have answered : (Session.draining.answer "cat").on
      (.draining (Bytes.ofText (spaces (count + 1))) (Bytes.ofText "\nexit 3\n"))
        = (.ok { exitCode := 0 }, t) := by
    rw [Session.answer, Act.on_bind_ok (Act.on_attempt ..), evaluate_cat_draining]
    rfl
  have unread : t.Unread [spaces (count + 1)] := by
    rw [← spaces.physical]
    exact .of_text rfl (List.append_nil _) (by simp [spaces, InputLine.backspace])
      fun plain => by cases plain
  have joined : InputLine.join [spaces (count + 1)] = some [spaces (count + 1)] := by
    rw [InputLine.join, InputLine.joinFrom, spaces.continued?]
  have enough : Session.remaining t.world < Session.remaining s.world := by
    have held : Session.remaining s.world = 0 + (drainingInput (count + 1)).length := rfl
    have ahead : Session.remaining t.world = (Bytes.ofText (spaces (count + 1))).length + 0 := rfl
    rw [spaces.ofText, List.length_replicate] at ahead
    omega
  have rest : Answered Session.draining "$ " Session.draining.answer Session.draining.finish 0 t
      [spaces (count + 1)]
      ((Session.draining.interactWithin "$ " 0 (Session.remaining s.world)).on t) :=
    Session.answered_interactWithin unread joined enough
  have prepared : (Act.change Session.prepareReading : Act Failure Unit).on s = (.ok (), s) := rfl
  rw [Session.interact, Act.on_bind_ok prepared, Session.resume,
    Act.on_bind_ok (Act.on_look ..), Session.interactWithin_on read rfl, answered]
  simp only [Bool.false_eq_true, if_false]
  have blank := spaces.isBlankLine (count + 1)
  revert rest
  generalize Act.on (Session.interactWithin _ _ _ _) _ = after
  intro rest
  -- a line of spaces is passed over, and no other line is left
  cases rest with
  | blank fetched _ rest =>
      cases rest with
      | ended fetched' =>
          have aside := fetched.aside.trans fetched'.aside
          rw [Session.finish_on_of_idle (World.InMemory.idle ⟨[], by rw [aside.writers]; rfl⟩)
            (World.InMemory.idle ⟨[], by rw [aside.writers]; rfl⟩)]
  | _ => simp_all

/-- The logical line `exit 3` stands behind the first block of the input.  A program takes it, and
the session ends with the exit code of that program. -/
theorem interact_misses_taken_line :
    let text := "cat\n" ++ spaces 8188 ++ "\nexit 3\n"
    InputLine.join (InputLine.physical text) = some ["cat", spaces 8188, "exit 3"]
      ∧ (∀ ahead input, ((Session.draining.evaluate "cat").on (.draining ahead input)).1
        = .ok { exitCode := 0 })
      ∧ Text.isBlankLine (spaces 8188) = true
      ∧ (∀ s, ((Session.draining.evaluate "exit 3").on s).1
        = .ok { exitCode := 3, terminate := true })
      ∧ ((Session.draining.interact "$ ").on (.draining [] (Bytes.ofText text))).1 = .ok 0 := by
  intro text
  refine ⟨join_draining 8188, ?_, spaces.isBlankLine 8188, evaluate_exit_draining,
    interact_draining 8187 rfl⟩
  intro ahead input
  rw [evaluate_cat_draining]

end Shell
