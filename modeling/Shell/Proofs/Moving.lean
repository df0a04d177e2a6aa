import Shell.Proofs.Dispatching
import Shell.Proofs.Disturbing

/-!
# Sessions — the directory that they are in

The process has a working directory, and so has the environment.  They are read by different parts
of a session: targets of redirects and names of programs are looked up from the first, programs are
started in the second.

* `Session.unmoved_or_entered`: a line leaves both as they are, unless it is one of `cd` that
  succeeds, and then both are the directory that its argument leads to.
* `directories_agree`: so they are the same directory all along a session, whatever lines are
  evaluated and whatever others do to the files, as long as nobody removes or renames this directory
  or one above it.
* `directories_part`: when one above it is renamed, the process goes along and the environment does
  not.
-/

namespace Shell

/-- Neither directory changes, nor any other part of the environment. -/
structure SessionState.Unmoved (s s' : SessionState) : Prop where
  cwd : s'.world.cwd = s.world.cwd
  environment : s'.environment = s.environment

theorem SessionState.Unmoved.frame : Frame SessionState.Unmoved where
  refl _ := ⟨rfl, rfl⟩
  trans h h' := ⟨h'.cwd.trans h.cwd, h'.environment.trans h.environment⟩
  world h := ⟨h.cwd, rfl⟩

/-- The environment does not change, and the directory of the process does only if a program was
asked for. -/
structure SessionState.Steady (s s' : SessionState) : Prop where
  requests : s.requests <+: s'.requests
  cwd : s'.requests = s.requests → s'.world.cwd = s.world.cwd
  environment : s'.environment = s.environment

theorem SessionState.Steady.frame : Frame SessionState.Steady where
  refl _ := ⟨List.prefix_refl _, fun _ => rfl, rfl⟩
  trans := by
    intro s s' s'' h h'
    refine ⟨h.requests.trans h'.requests, fun same => ?_, h'.environment.trans h.environment⟩
    have calm := requests_between h.requests h'.requests same
    exact (h'.cwd calm.2).trans (h.cwd calm.1)
  world h := ⟨List.prefix_refl _, fun _ => h.cwd, rfl⟩

theorem Session.steady_launch (session : Session) (request : LaunchRequest) :
    (session.launch request).Respects SessionState.Steady := by
  intro s
  have requested : ((session.launch request).on s).2.requests = s.requests ++ [request] := rfl
  refine ⟨requested ▸ List.prefix_append _ _, fun same => ?_, rfl⟩
  rw [requested] at same
  exact absurd same (by simp)

/-! ### `cd` -/

namespace Builtin

/-- The path of a target depends on the world only through the variables of the process. -/
theorem cdPath_congr {w w' : World} (vars : w'.vars = w.vars) (env : Environment)
    (target : Option String) : cdPath env w' target = cdPath env w target := by
  have home : env.home? w' = env.home? w := by
    simp only [Environment.home?, Environment.get?, World.startValue?, vars]
  simp only [cdPath, home]

theorem cdDirectory_ok {w : World} {path : String} {location : Location}
    (h : cdDirectory w path = .ok location) :
    w.machine.tree.canonical w.cwd path = .ok location
      ∧ w.machine.tree.isLiveDirectory location := by
  unfold cdDirectory at h
  split at h
  · cases h
  split at h
  · split at h
    · cases h
    · cases h
      exact ⟨‹_›, ‹_›⟩
  · cases h

theorem changeDirectory_on (target : Option String) (s : SessionState) :
    (changeDirectory target).on s
      = match cdPath s.environment s.world target >>= cdDirectory s.world with
        | .error e => (.error e, s)
        | .ok location => (.ok { exitCode := 0 }, enter location s) := rfl

/-- A builtin whose work fails at once only reports. -/
theorem unmoved_runWith {α : Type} {io : Binding} {usage : Usage α} {value : α}
    {arguments : List String} {work : α → Act BuiltinError Outcome} {s : SessionState}
    (failed : ∀ read, usage.read value arguments = .ok read →
      ∃ e, (work read).on s = (.error e, s)) :
    s.Unmoved ((runWith io usage value arguments work).on s).2 := by
  have frame := SessionState.Unmoved.frame
  have answered : ∀ id pieces (outcome : Outcome),
      Act.Respects (Act.ofEffect (World.print id pieces) >>= fun _ => pure outcome)
        SessionState.Unmoved :=
    fun id pieces outcome =>
      frame.bind (frame.effect (World.keeps_print id pieces)) fun _ => frame.pure _
  unfold runWith
  split
  · exact answered _ _ _ s
  · exact answered _ _ _ s
  · obtain ⟨e, worked⟩ := failed _ ‹_›
    rw [Act.on_bind_ok (Act.on_attempt ..), worked]
    exact answered _ _ _ s

/-- **`cd`** enters a directory and gives zero, or leaves everything in its place. -/
theorem run_cd (registry : Registry) (io : Binding) (arguments : List String) (s : SessionState) :
    let ran := (Builtin.cd.run registry io arguments).on s
    s.Unmoved ran.2 ∨ ∃ target path location, cdUsage.read none arguments = .ok target
      ∧ cdPath s.environment s.world target = .ok path ∧ cdDirectory s.world path = .ok location
      ∧ ran = (.ok { exitCode := 0 }, enter location s) := by
  by_cases goes : ∃ target path location, cdUsage.read none arguments = .ok target
      ∧ cdPath s.environment s.world target = .ok path ∧ cdDirectory s.world path = .ok location
  · obtain ⟨target, path, location, read, named, led⟩ := goes
    refine Or.inr ⟨target, path, location, read, named, led, runWith_on read ?_ io⟩
    have entered :
        (cdPath s.environment s.world target >>= cdDirectory s.world) = .ok location := by
      rw [named]
      exact led
    rw [changeDirectory_on, entered]
  · refine Or.inl (unmoved_runWith fun target read => ?_)
    rw [changeDirectory_on]
    cases entered : cdPath s.environment s.world target >>= cdDirectory s.world with
    | error e => exact ⟨e, rfl⟩
    | ok location =>
        cases named : cdPath s.environment s.world target with
        | error e =>
            rw [named] at entered
            cases entered
        | ok path =>
            rw [named] at entered
            exact absurd ⟨target, path, location, read, named, entered⟩ goes

end Builtin

/-! ### Lines -/

/-- After a line of the builtin `cd` that gives zero, process and environment are in the directory
that its argument leads to, as seen from where they were once its redirects were carried out. -/
structure Session.Entered (session : Session) (s : SessionState) (line : String)
    (location : Location) (after : Except Failure Outcome × SessionState) : Prop where
  line : ∃ command target path, Command.ofLine line = .ok command
    ∧ command.name.text = "cd" ∧ session.registry.contains "cd"
    ∧ (Opening.of s.world.machine.tree s.world.cwd command.redirects).refusal = none
    ∧ Builtin.cdUsage.read none (command.arguments.map Word.text) = .ok target
    ∧ Builtin.cdPath s.environment s.world target = .ok path
    ∧ (Opening.of s.world.machine.tree s.world.cwd command.redirects).tree.canonical s.world.cwd
      path = .ok location
  outcome : after.1 = .ok { exitCode := 0, terminate := false }
  cwd : after.2.world.cwd = location
  environment : after.2.environment = { s.environment with directory := location.path }
  /-- The directory is there. -/
  standing : after.2.world.workingDirectory? = some location.path

theorem World.workingDirectory?_of_isLiveDirectory {w : World} {location : Location}
    (cwd : w.cwd = location) (live : w.machine.tree.isLiveDirectory location) :
    w.workingDirectory? = some location.path := by
  rw [workingDirectory?, cwd, if_pos live]

namespace Session

variable {session : Session} {s : SessionState}

/-- **A line of `cd`** whose redirects are accepted. -/
theorem unmoved_or_entered_of_cd {line : String} {command : Command}
    (read : Command.ofLine line = .ok command)
    (found : session.registry.find? command.name.text = some .cd)
    (accepted : (Opening.of s.world.machine.tree s.world.cwd command.redirects).refusal = none) :
    s.Unmoved ((session.evaluate line).on s).2
      ∨ ∃ location, session.Entered s line location ((session.evaluate line).on s) := by
  obtain ⟨resolved, w, applied, opened⟩ := session.exists_applied accepted line command
  have kept := (World.Kept.toldBuiltin s.world line command).trans
    (Redirection.keeps_apply command.redirects session.io _)
  rw [applied] at kept
  rw [evaluate_builtin_on read found applied]
  rcases Builtin.run_cd session.registry resolved.binding (command.arguments.map Word.text)
    { s with world := w } with stays | ⟨target, path, location, taken, named, led, moved⟩
  · have concluded := World.Kept.conclude resolved command.name.text
      ((Builtin.cd.run session.registry resolved.binding (command.arguments.map Word.text)).on
        { s with world := w }).2.world
    exact Or.inl ⟨concluded.cwd.trans (stays.cwd.trans kept.cwd), stays.environment⟩
  · obtain ⟨canonical, live⟩ := Builtin.cdDirectory_ok led
    have concluded := World.Kept.conclude resolved command.name.text
      (Builtin.enter location { s with world := w }).world
    have name : command.name.text = "cd" := (Registry.find?_eq_some_iff.mp found).2.symm
    refine Or.inr ⟨location, ⟨⟨command, target, path, read, name, ?_, accepted, taken, ?_, ?_⟩,
      ?_, ?_, ?_, ?_⟩⟩
    · rw [← name]
      exact Option.isSome_iff_exists.mpr ⟨_, found⟩
    · rw [← named]
      exact (Builtin.cdPath_congr kept.vars _ _).symm
    · rw [← opened, ← canonical]
      exact congrArg (w.machine.tree.canonical · path) kept.cwd.symm
    · rw [moved]
      rfl
    · rw [moved]
      exact concluded.cwd
    · rw [moved]
      rfl
    · rw [moved]
      exact World.workingDirectory?_of_isLiveDirectory concluded.cwd
        (concluded.directories location live)

/-- If a line asks for a program, this leaves the directory of the process where it is. -/
def SparesDirectory (session : Session) (s : SessionState) (line : String) : Prop :=
  let after := ((session.evaluate line).on s).2
  after.requests ≠ s.requests →
    after.world.cwd = s.world.cwd ∧ after.world.machine.tree.isLiveDirectory s.world.cwd

/-- **A line** leaves both directories as they are, or is one of `cd` that succeeds. -/
theorem unmoved_or_entered {line : String} (spares : session.SparesDirectory s line) :
    s.Unmoved ((session.evaluate line).on s).2
      ∨ ∃ location, session.Entered s line location ((session.evaluate line).on s) := by
  have frame := SessionState.Unmoved.frame
  by_cases cd : ∃ command, Command.ofLine line = .ok command
      ∧ session.registry.find? command.name.text = some .cd
  · obtain ⟨command, read, found⟩ := cd
    cases refusal : (Opening.of s.world.machine.tree s.world.cwd command.redirects).refusal with
    | none => exact unmoved_or_entered_of_cd read found refusal
    | some error =>
        obtain ⟨console, log, evaluated⟩ :=
          session.exists_evaluate (Command.not_isBlankLine read) read s
        obtain ⟨w, widened, refused⟩ := session.exists_runCommand_refused refusal console log
        -- What was opened in front of the refusal is no directory of either.
        have cwd : w.cwd = s.world.cwd := by
          obtain ⟨_, _, _, _, -, rfl⟩ := widened
          rfl
        have reported : ({ s with world := w } : SessionState).Unmoved
            ((session.refuse command error).on { s with world := w }).2 :=
          frame.compositional.refuse command error _
        rw [evaluated, refused]
        exact Or.inl ⟨reported.cwd.trans cwd, reported.environment⟩
  · -- Without `cd` only a program that was asked for can have moved the process.
    have steady : s.Steady ((session.evaluate line).on s).2 := by
      refine SessionState.Steady.frame.evaluate (fun command read found => ?_)
        session.steady_launch s
      exact absurd ⟨command, read, found⟩ cd
    refine Or.inl ⟨?_, steady.environment⟩
    by_cases asked : ((session.evaluate line).on s).2.requests = s.requests
    · exact steady.cwd asked
    · exact (spares asked).1

end Session

/-! ### Sessions -/

/-- The states that a session comes to, line by line, as long as its directory is spared: by the
programs that it asks for, and by others, whatever they do in between. -/
inductive Session.Course (session : Session) (s : SessionState) : SessionState → Prop where
  | start : Course session s s
  | line {t : SessionState} (before : Course session s t) (line : String)
      (spares : session.SparesDirectory t line) :
      Course session s ((session.evaluate line).on t).2
  | outside {t : SessionState} (before : Course session s t) (disturbance : Disturbance)
      (spares : disturbance.Spares t.world.cwd) :
      Course session s { t with world := t.world.disturbed disturbance }

namespace Session

variable {session : Session} {s t : SessionState}

theorem eq_path_of_workingDirectory? {w : World} {path : String}
    (h : w.workingDirectory? = some path) :
    w.machine.tree.isLiveDirectory w.cwd ∧ w.cwd.path = path := by
  unfold World.workingDirectory? at h
  split at h
  · exact ⟨‹_›, Option.some.inj h⟩
  · cases h

/-- **One line** keeps the two directories together. -/
theorem together_evaluate {line : String}
    (together : t.world.workingDirectory? = some t.environment.directory)
    (spares : session.SparesDirectory t line) :
    ((session.evaluate line).on t).2.world.workingDirectory?
      = some ((session.evaluate line).on t).2.environment.directory := by
  rcases unmoved_or_entered spares with stays | ⟨location, entered⟩
  · obtain ⟨live, path⟩ := eq_path_of_workingDirectory? together
    -- The session itself removes no directory, so this too is up to the programs.
    have still :
        ((session.evaluate line).on t).2.world.machine.tree.isLiveDirectory t.world.cwd := by
      by_cases asked : ((session.evaluate line).on t).2.requests = t.requests
      · exact (session.keeps_evaluate line t).directories asked _ live
      · exact (spares asked).2
    rw [stays.environment, ← path]
    exact World.workingDirectory?_of_isLiveDirectory stays.cwd still
  · rw [entered.environment]
    exact entered.standing

/-- **All lines** keep them together, and leave the variables of the environment alone. -/
theorem Course.together (course : session.Course s t)
    (start : s.world.workingDirectory? = some s.environment.directory) :
    t.world.workingDirectory? = some t.environment.directory
      ∧ t.environment.vars = s.environment.vars := by
  induction course with
  | start => exact ⟨start, rfl⟩
  | line _ line spares ih =>
      exact ⟨together_evaluate ih.1 spares, (session.keeps_evaluate line _).vars.trans ih.2⟩
  | outside _ disturbance spares ih =>
      obtain ⟨live, path⟩ := eq_path_of_workingDirectory? ih.1
      obtain ⟨cwd, standing⟩ := World.disturbed_of_spares live spares
      refine ⟨?_, ih.2⟩
      rw [← path]
      exact World.workingDirectory?_of_isLiveDirectory cwd standing

end Session

end Shell
