import Shell.Proofs.Accepting
import Shell.Proofs.Arguments
import Shell.Proofs.Dispatching

/-!
# Sessions — what `type` tells

`type` looks a name up in the registered builtins and then in the search list; so does a session
that is to run a command of this name.  These are two decisions in two places, and this module says
that they agree (`type_tells_dispatch`): what `type` tells of a name (`Finding`) is what a command
of this name comes to (`Session.ComesTo`).

The outputs go to something that takes bytes (`World.Accepts`), so that nothing that is told is
refused.  They may keep it back, and a base stream may even be a file in the search list: what is
told changes what files hold, and the search does not read that
(`Environment.findExecutable_congr`).
-/

namespace Shell

/-! ### The search -/

/-- The program that a path stands for does not depend on what files hold. -/
theorem Search.program?_outline (tree : FileTree) (cwd : Location) (list path : String) :
    program? tree.outline cwd list path = program? tree cwd list path := by
  simp only [program?, asGiven, inList, FileTree.isExecutable_outline]

theorem Environment.findExecutable_congr {w w' : World}
    (outline : w'.machine.tree.outline = w.machine.tree.outline) (cwd : w'.cwd = w.cwd)
    (vars : w'.vars = w.vars) (env : Environment) (name : String) :
    env.findExecutable w' name = env.findExecutable w name := by
  have list : env.get? w' "PATH" = env.get? w "PATH" := by
    simp only [get?, World.startValue?, vars]
  have same : ∀ list, Search.program? w'.machine.tree w'.cwd list name
      = Search.program? w.machine.tree w.cwd list name := by
    intro list
    rw [← Search.program?_outline, outline, Search.program?_outline, cwd]
  simp only [findExecutable, list, same]

/-! ### One name -/

/-- What a name stands for. -/
inductive Finding where
  | builtin
  | program (path : String)
  | nothing
  deriving DecidableEq, Repr

namespace Finding

/-- The texts that tell it. -/
def pieces (name : String) : Finding → List String
  | builtin => [name, " is a shell builtin\n"]
  | program path => [name, " is ", path, "\n"]
  | nothing => [name, ": not found\n"]

/-- The output that it is told on. -/
def channel : Finding → Channel
  | nothing => .error
  | _ => .output

/-- Tell it. -/
def tell (io : Binding) (name : String) (found : Finding) : Effect SystemError Unit :=
  World.print (io.stream found.channel) (found.pieces name)

end Finding

namespace Session

variable (session : Session)

/-- What a name stands for in a state. -/
def finding (s : SessionState) (name : String) : Finding :=
  if session.registry.contains name then .builtin
  else match s.environment.findExecutable s.world name with
    | some path => .program path
    | none => .nothing

/-- Tell of names, one after another, what they stand for. -/
def describe (finding : String → Finding) (names : List String) : Effect SystemError Unit :=
  names.forM fun name => (finding name).tell session.io name

theorem describe_cons (finding : String → Finding) (name : String) (names : List String) :
    session.describe finding (name :: names)
      = (finding name).tell session.io name >>= fun _ => session.describe finding names := rfl

variable {session}

/-- What a name stands for does not depend on what streams were given. -/
theorem finding_congr {t : SessionState} {w : World} (same : t.world.SameFiles w)
    (kept : t.world.Kept w) :
    session.finding { t with world := w } = session.finding t := by
  funext name
  rw [finding, finding, t.environment.findExecutable_congr same.outline kept.cwd kept.vars]

theorem typeName_on {t : SessionState}
    (accepts : ∀ channel, t.world.Accepts (session.io.stream channel)) (name : String) :
    (Builtin.typeName session.registry session.io name).on t
      = (.ok (decide (session.finding t name ≠ .nothing)),
        { t with world := (((session.finding t name).tell session.io name).on t.world).2 }) := by
  have printed : ∀ id, t.world.Accepts id → ∀ pieces, (Builtin.print id pieces).on t
      = (.ok (), { t with world := ((World.print id pieces).on t.world).2 }) := by
    intro id accepted pieces
    rw [Builtin.print, Act.on_adapt, Act.on_ofEffect, accepted.print_on]
    rfl
  unfold Builtin.typeName finding
  split
  · rw [Act.on_bind_ok (printed session.io.output (accepts .output) _)]
    rfl
  · rw [Act.on_bind_ok (Act.on_look ..)]
    cases t.environment.findExecutable t.world name with
    | some path =>
        dsimp only
        rw [Act.on_bind_ok (printed session.io.output (accepts .output) _)]
        rfl
    | none =>
        dsimp only
        rw [Act.on_bind_ok (printed session.io.error (accepts .error) _)]
        rfl

/-- **Names** are told of one after another, and nothing that is told is refused. -/
theorem mapM_typeName_on {t : SessionState}
    (accepts : ∀ channel, t.world.Accepts (session.io.stream channel)) (names : List String) :
    ∃ w, (session.describe (session.finding t) names).on t.world = (.ok (), w)
      ∧ (names.mapM (Builtin.typeName session.registry session.io)).on t
        = (.ok (names.map fun name => decide (session.finding t name ≠ .nothing)),
          { t with world := w })
      ∧ ∀ channel, w.Accepts (session.io.stream channel) := by
  induction names generalizing t with
  | nil => exact ⟨t.world, rfl, rfl, accepts⟩
  | cons name rest ih =>
      let found := session.finding t name
      let told := ((found.tell session.io name).on t.world).2
      have tells : (found.tell session.io name).on t.world = (.ok (), told) :=
        Prod.ext ((accepts found.channel).print_on _) rfl
      have same : t.world.SameFiles told := .print ..
      obtain ⟨w, described, typed, still⟩ := @ih { t with world := told } fun channel =>
        (accepts channel).of_sameFiles same
      rw [finding_congr same (World.keeps_print _ _ t.world)] at described typed
      refine ⟨w, ?_, ?_, still⟩
      · rw [describe_cons, Effect.on_bind_ok tells, described]
      · rw [List.mapM_cons, Act.on_bind_ok (typeName_on accepts name), Act.on_bind_ok typed]
        rfl

end Session

/-! ### What a command of a name comes to -/

/-- What is told to somebody who follows the session goes to no stream. -/
theorem World.SameFiles.told (w : World) (line : String) (command : Command) :
    w.SameFiles (w.told line command) :=
  (Aside.record ..).sameFiles.trans (Aside.record ..).sameFiles

theorem World.SameFiles.toldBuiltin (w : World) (line : String) (command : Command) :
    w.SameFiles (w.toldBuiltin line command) :=
  (told w line command).trans (Aside.record ..).sameFiles

/-- No request is made. -/
theorem SessionState.requests_frame : Frame fun s s' => s'.requests = s.requests where
  refl _ := rfl
  trans h h' := h'.trans h
  world _ := rfl

/-- No builtin gives the exit code of a name that stands for nothing and lets the session go on. -/
theorem Builtin.yields_run_found (builtin : Builtin) (registry : Registry) (io : Binding)
    (arguments : List String) :
    (builtin.run registry io arguments).Yields fun outcome =>
      outcome ≠ { exitCode := exitNotFound } := by
  have help : ({ exitCode := 0 } : Outcome) ≠ { exitCode := exitNotFound } := by decide
  have refused : ({ exitCode := 1 } : Outcome) ≠ { exitCode := exitNotFound } := by decide
  by_cases exit : builtin = .exit
  · subst exit
    exact yields_runWith help refused _ _ _ _ fun _ _ => .pure (by simp)
  · intro s outcome ran
    rcases yields_run exit registry io arguments s outcome ran with rfl | rfl
    · exact help
    · exact refused

/-- What came of a command whose name stands for something: a registered builtin of this name was
run; a program was asked for; or the name was reported as unknown, and nothing else was done. -/
def Session.ComesTo (session : Session) (s : SessionState) (line : String) (command : Command)
    (after : Except Failure Outcome × SessionState) : Finding → Prop
  | .builtin => ∃ builtin ∈ session.registry.builtins, builtin.name = command.name.text
      ∧ after = (session.runBuiltin builtin command).on
        { s with world := s.world.told line command }
  | .program path => ∃ request, request.program = path
      ∧ after.2.requests = s.requests ++ [request]
  | .nothing => ∃ w, (World.print session.io.error [command.name.text ++ ": command not found",
        "\n"]).on (s.world.told line command) = (.ok (), w)
      ∧ after = (.ok { exitCode := exitNotFound }, { s with world := w })

namespace Session

variable {session : Session} {s : SessionState} {line : String} {command : Command}

/-- What can be told afterwards: a program leaves a request, and a name that stands for nothing
leaves its exit code. -/
theorem ComesTo.traces {after : Except Failure Outcome × SessionState} {found : Finding}
    (bare : command.redirects = []) (h : session.ComesTo s line command after found) :
    (found = .builtin ↔ after.2.requests = s.requests
        ∧ after.1 ≠ .ok { exitCode := exitNotFound })
      ∧ ∀ path, found = .program path
        ↔ ∃ request, request.program = path ∧ after.2.requests = s.requests ++ [request] := by
  have silent : after.2.requests = s.requests → ∀ path,
      ¬ ∃ request, request.program = path ∧ after.2.requests = s.requests ++ [request] := by
    rintro unasked path ⟨request, -, one⟩
    simpa using one.symm.trans unasked
  cases found with
  | builtin =>
      obtain ⟨builtin, -, -, rfl⟩ := h
      let told : SessionState := { s with world := s.world.told line command }
      have unasked : ((session.runBuiltin builtin command).on told).2.requests = s.requests :=
        SessionState.requests_frame.runBuiltin (fun _ _ _ => rfl) command told
      have known : ((session.runBuiltin builtin command).on told).1
          ≠ .ok { exitCode := exitNotFound } := by
        intro gave
        rw [runBuiltin_on builtin (bare ▸ Redirection.apply_of_bare rfl ..),
          Except.mapError_eq_ok_iff] at gave
        exact builtin.yields_run_found _ _ _ _ _ gave rfl
      exact ⟨iff_of_true rfl ⟨unasked, known⟩,
        fun path => iff_of_false nofun (silent unasked path)⟩
  | program path =>
      obtain ⟨request, rfl, one⟩ := h
      refine ⟨iff_of_false nofun fun told => silent told.1 _ ⟨request, rfl, one⟩, fun path => ?_⟩
      constructor
      · rintro ⟨⟩
        exact ⟨request, rfl, one⟩
      · rintro ⟨request', rfl, one'⟩
        obtain rfl : request = request' := by simpa using one.symm.trans one'
        rfl
  | nothing =>
      obtain ⟨w, -, rfl⟩ := h
      exact ⟨iff_of_false nofun fun told => told.2 rfl,
        fun path => iff_of_false nofun (silent rfl path)⟩

/-- It cannot come to two different things. -/
theorem ComesTo.unique {after : Except Failure Outcome × SessionState} {found other : Finding}
    (bare : command.redirects = []) (h : session.ComesTo s line command after found)
    (h' : session.ComesTo s line command after other) : found = other := by
  obtain ⟨builtin, program⟩ := h.traces bare
  obtain ⟨builtin', program'⟩ := h'.traces bare
  cases found with
  | builtin => exact (builtin'.mpr (builtin.mp rfl)).symm
  | program path => exact ((program' path).mpr ((program path).mp rfl)).symm
  | nothing =>
      cases other with
      | builtin => exact builtin.mpr (builtin'.mp rfl)
      | program path => exact (program path).mpr ((program' path).mp rfl)
      | nothing => rfl

/-- A name that stands for nothing is reported. -/
theorem runUnknown_on (error : s.world.Accepts session.io.error) (bare : command.redirects = []) :
    ∃ w, (World.print session.io.error [command.name.text ++ ": command not found", "\n"]).on
        s.world = (.ok (), w)
      ∧ (session.runUnknown command).on s
        = (.ok { exitCode := exitNotFound }, { s with world := w }) := by
  let pieces := [command.name.text ++ ": command not found", "\n"]
  have printed : (World.print session.io.error pieces).on s.world
      = (.ok (), ((World.print session.io.error pieces).on s.world).2) :=
    Prod.ext (error.print_on pieces) rfl
  have applied : (Act.attempt (Act.ofEffect (Redirection.apply command.redirects session.io)) :
      Act Failure _).on s = (.ok (.ok (.inherited session.io)), s) := by
    rw [Act.on_attempt, Act.on_ofEffect, Redirection.apply_of_bare bare]
  have reported : (session.report (command.name.text ++ ": command not found")).on s
      = (.ok (), { s with world := ((World.print session.io.error pieces).on s.world).2 }) := by
    rw [report, Act.on_adapt, Act.on_ofEffect, printed]
    rfl
  have released : Act.on (ExceptT.adapt Failure.stream (Act.ofEffect
      (Resolved.inherited session.io).release)) s = (.ok (), s) := rfl
  refine ⟨_, printed, ?_⟩
  rw [runUnknown, Act.on_bind_ok applied]
  dsimp only
  rw [Act.on_bind_ok released, Act.on_bind_ok reported]
  rfl

/-- **A command without redirects** comes to what its name stands for. -/
theorem comesTo_finding (accepts : ∀ channel, s.world.Accepts (session.io.stream channel))
    (read : Command.ofLine line = .ok command) (bare : command.redirects = []) :
    session.ComesTo s line command ((session.evaluate line).on s)
      (session.finding s command.name.text) := by
  obtain ⟨console, log, told⟩ := s.world.exists_told line command
  rw [evaluate_on read, way]
  unfold finding
  cases found : session.registry.find? command.name.text with
  | some builtin =>
      obtain ⟨mem, name⟩ := Registry.find?_eq_some_iff.mp found
      have registered : session.registry.contains command.name.text := by
        rw [Registry.contains, found]
        rfl
      rw [if_pos registered]
      exact ⟨builtin, mem, name, rfl⟩
  | none =>
      have absent : ¬session.registry.contains command.name.text := by
        simp [Registry.contains, found]
      rw [if_neg absent]
      dsimp only
      cases s.environment.findExecutable s.world command.name.text with
      | some path =>
          have planned : (Plan.ofRedirects command.redirects).on s.world = (.ok {}, s.world) := by
            rw [bare]
            rfl
          obtain ⟨w, flushed, -⟩ :=
            Binding.exists_flush_of_accepts (accepts .output) (accepts .error)
          have launched := @launched_of_runProgram session path command s {} _ _ planned flushed
            console log
          rw [told]
          exact ⟨_, rfl, launched.requests⟩
      | none =>
          exact @runUnknown_on session { s with world := s.world.told line command } command
            ((accepts .error).of_sameFiles (.told ..)) bare

/-- `type` tells of each name what it stands for. -/
theorem run_type_on (accepts : ∀ channel, s.world.Accepts (session.io.stream channel))
    {names : List String} (plain : ∀ first, names.head? = some first →
      Usage.isDashed first = false ∧ first ≠ "help") :
    ∃ w, (session.describe (session.finding s) names).on s.world = (.ok (), w)
      ∧ (Builtin.type.run session.registry session.io names).on s
        = (.ok { exitCode := if names.any (session.finding s · = .nothing) then 1 else 0 },
          { s with world := w })
      ∧ ∀ channel, w.Accepts (session.io.stream channel) := by
  have accepted : Builtin.typeUsage.read [] names = .ok names := by
    rw [Usage.read_of_greedy rfl rfl (fun _ _ => rfl) plain]
    simp [← List.flatMap_def]
  obtain ⟨w, described, typed, still⟩ := mapM_typeName_on accepts names
  refine ⟨w, described, Builtin.runWith_on accepted ?_ session.io, still⟩
  rw [Builtin.describeNames, Act.on_bind_ok typed]
  by_cases missing : ∃ name ∈ names, session.finding s name = .nothing
  · have some : names.any (session.finding s · = .nothing) := by simpa using missing
    have notAll : (names.map fun name => decide (session.finding s name ≠ .nothing)).all id
        = false := by simpa using missing
    rw [some, notAll]
    rfl
  · have none : names.any (session.finding s · = .nothing) = false := by simpa using missing
    have all : (names.map fun name => decide (session.finding s name ≠ .nothing)).all id := by
      simpa using missing
    rw [none, all]
    rfl

/-- `type` succeeds if every name stands for something. -/
theorem type_succeeds_iff (accepts : ∀ channel, s.world.Accepts (session.io.stream channel))
    {names : List String} (plain : ∀ first, names.head? = some first →
      Usage.isDashed first = false ∧ first ≠ "help") :
    ∃ outcome w, (Builtin.type.run session.registry session.io names).on s
        = (.ok outcome, { s with world := w })
      ∧ (outcome.success ↔ ∀ name ∈ names, session.finding s name ≠ .nothing) := by
  obtain ⟨w, -, ran, -⟩ := run_type_on accepts plain
  refine ⟨_, w, ran, ?_⟩
  simp [Outcome.success]

/-- **A line of `type`** tells of each of its arguments what it stands for, and keeps none of it
back. -/
theorem evaluate_type_on (registered : session.registry.contains "type")
    (accepts : ∀ channel, s.world.Accepts (session.io.stream channel))
    (read : Command.ofLine line = .ok command) (name : command.name.text = "type")
    (bare : command.redirects = [])
    (plain : ∀ first, (command.arguments.map Word.text).head? = some first →
      Usage.isDashed first = false ∧ first ≠ "help") :
    let names := command.arguments.map Word.text
    ∃ w w', (session.describe (session.finding s) names).on (s.world.toldBuiltin line command)
        = (.ok (), w)
      ∧ session.io.flush.on w = (.ok (), w') ∧ w'.Idle session.io.output ∧ w'.Idle session.io.error
      ∧ (session.evaluate line).on s
        = (.ok { exitCode := if names.any (session.finding s · = .nothing) then 1 else 0 },
          { s with world := w' }) := by
  intro names
  have found : session.registry.find? command.name.text = some .type := by
    rw [name]
    exact (Registry.contains_iff .type).mp registered
  have applied := Redirection.apply_of_bare bare session.io (s.world.toldBuiltin line command)
  have same := World.SameFiles.toldBuiltin s.world line command
  obtain ⟨w, described, ran, still⟩ :=
    @run_type_on session { s with world := s.world.toldBuiltin line command }
      (fun channel => (accepts channel).of_sameFiles same) _ plain
  rw [finding_congr same (.toldBuiltin ..)] at described ran
  obtain ⟨w', flushed, output, error⟩ :=
    Binding.exists_flush_of_accepts (still .output) (still .error)
  refine ⟨w, w', described, flushed, output, error, ?_⟩
  rw [evaluate_builtin_ok read found applied ran,
    @Resolved.conclude_of_flush (.inherited session.io) _ _ flushed output error]

end Session

/-- A command of each name can be written. -/
theorem Command.exists_line (word : Word) : ∃ line, ofLine line = .ok ⟨word, [], []⟩ :=
  ⟨String.ofList (Token.word word.text).quoted,
    @ofLine_of_spaced [.argument word] _ _ (by simp [Item.IsSpelled])
      (by simpa [Item.tokens] using Spaced.last (.word word.text)) rfl rfl⟩

/-- **`type` tells what a command would come to.**  Over outputs that go to something that takes
bytes, `type` tells of each name, one after another, what the name stands for, keeps none of it
back, and gives one if some name stands for nothing.  And what it tells of a name is what any
command of this name comes to in the same state: a registered builtin is run, the program at this
path is asked for, or the name is reported as unknown with exit code 127. -/
theorem type_tells_dispatch {session : Session} {s : SessionState} {line : String}
    {command : Command} (registered : session.registry.contains "type")
    (accepts : ∀ channel, s.world.Accepts (session.io.stream channel))
    (read : Command.ofLine line = .ok command) (name : command.name.text = "type")
    (bare : command.redirects = [])
    (plain : ∀ first, (command.arguments.map Word.text).head? = some first →
      Usage.isDashed first = false ∧ first ≠ "help") :
    let names := command.arguments.map Word.text
    (∃ w w', (session.describe (session.finding s) names).on (s.world.toldBuiltin line command)
          = (.ok (), w)
        ∧ session.io.flush.on w = (.ok (), w')
        ∧ w'.Idle session.io.output ∧ w'.Idle session.io.error
        ∧ (session.evaluate line).on s
          = (.ok { exitCode := if names.any (session.finding s · = .nothing) then 1 else 0 },
            { s with world := w' }))
      ∧ ∀ word ∈ command.arguments, (∃ line', Command.ofLine line' = .ok ⟨word, [], []⟩)
        ∧ ∀ line' command', Command.ofLine line' = .ok command' → command'.redirects = [] →
          command'.name = word → ∀ found,
            session.ComesTo s line' command' ((session.evaluate line').on s) found
              ↔ session.finding s word.text = found := by
  intro names
  refine ⟨?_, fun word _ => ⟨Command.exists_line word, ?_⟩⟩
  · exact Session.evaluate_type_on registered accepts read name bare plain
  · rintro line' command' read' bare' rfl found
    constructor
    · intro came
      exact Session.ComesTo.unique bare' (Session.comesTo_finding accepts read' bare') came
    · rintro rfl
      exact Session.comesTo_finding accepts read' bare'

/-- A builtin that hides a program, a program, and a name that stands for nothing; the output is a
file with bytes waiting. -/
theorem type_tells_dispatch_each :
    let session : Session :=
      { io := { input := 0, output := 0, error := 1 }
        launcher := .scripted [fun _ => .waited (.ok 127)] }
    let s : SessionState :=
      { world :=
          { machine.tree.entries := [(["bin"], .directory), (["cat", "bin"], .tool .concatenate),
              (["echo", "bin"], .tool .concatenate), (["f"], .file 0o644 [])]
            writers := [.buffered { location := ["f"], mode := .append } (Bytes.ofText "so far\n"),
              .memory []]
            readers := [{}] }
        environment := { vars := [("PATH", "/bin")] } }
    let command : Command := ⟨⟨"type", by decide⟩,
      [⟨"echo", by decide⟩, ⟨"cat", by decide⟩, ⟨"nope", by decide⟩], []⟩
    Command.ofLine "type echo cat nope" = .ok command
      ∧ ((session.evaluate "type echo cat nope").on s).1 = .ok { exitCode := 1 }
      ∧ ((session.evaluate "type echo cat nope").on s).2.world.machine.tree.get? ["f"]
        = some (.file 0o644
          (Bytes.ofText "so far\necho is a shell builtin\ncat is /bin/cat\n"))
      ∧ ((session.evaluate "type echo cat nope").on s).2.world.writers[1]?
        = some (.memory (Bytes.ofText "nope: not found\n"))
      ∧ session.ComesTo s "cat" ⟨⟨"cat", by decide⟩, [], []⟩ ((session.evaluate "cat").on s)
        (.program "/bin/cat")
      ∧ ¬session.ComesTo s "cat" ⟨⟨"cat", by decide⟩, [], []⟩ ((session.evaluate "cat").on s)
        .nothing := by
  intro session s command
  have registered : session.registry.contains "type" := by decide
  have read : Command.ofLine "type echo cat nope" = .ok command :=
    Except.eq_ok_of_toOption (by decide +kernel)
  have plain : ∀ first, (command.arguments.map Word.text).head? = some first →
      Usage.isDashed first = false ∧ first ≠ "help" := by
    rintro first ⟨⟩
    decide
  have accepts : ∀ channel, s.world.Accepts (session.io.stream channel) := by
    intro channel
    refine ⟨fun ⟨cause, blocked⟩ => ?_, fun location mode opened => ?_⟩
    · cases channel <;> cases blocked
    · cases channel <;> cases opened
      exact nofun
  obtain ⟨⟨w, w', described, flushed, -, -, told⟩, coming⟩ :=
    @type_tells_dispatch session s _ _ registered accepts read rfl rfl plain
  have readCat : Command.ofLine "cat" = .ok ⟨⟨"cat", by decide⟩, [], []⟩ :=
    Except.eq_ok_of_toOption (by decide +kernel)
  have cat := (coming ⟨"cat", by decide⟩ (by simp [command])).2 "cat" _ readCat rfl rfl
  have found : session.finding s "cat" = .program "/bin/cat" := by decide +kernel
  rw [found] at cat
  rw [World.toldBuiltin_of_quiet rfl] at described
  obtain rfl := congrArg Prod.snd described
  obtain rfl := congrArg Prod.snd flushed
  rw [told]
  refine ⟨read, ?_, ?_, ?_, (cat _).mpr rfl, fun nothing => ?_⟩
  · exact congrArg Except.ok (by decide +kernel)
  · decide +kernel
  · decide +kernel
  · cases (cat _).mp nothing

/-- A name that stands for something; but the output refuses the line that tells it, and `type`
gives one. -/
theorem type_tells_dispatch_refused :
    let session : Session :=
      { io := { input := 0, output := 0, error := 1 }, launcher := .scripted [] }
    let s : SessionState :=
      { world :=
          { machine.console.outputRefusal := some .noSpace
            writers := [.console .output [], .memory []]
            readers := [{}] } }
    session.finding s "cd" = .builtin
      ∧ ((session.evaluate "type cd").on s).1 = .ok { exitCode := 1 }
      ∧ ((session.evaluate "type cd").on s).2.world.machine.console.output = []
      ∧ ((session.evaluate "type cd").on s).2.world.writers[1]?
        = some (.memory (Bytes.ofText "No space left on device (os error 28)\n")) := by
  intro session s
  refine ⟨by decide +kernel, Except.eq_ok_of_toOption (by decide +kernel), ?_, ?_⟩
  · decide +kernel
  · decide +kernel

end Shell
