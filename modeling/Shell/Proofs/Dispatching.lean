import Mathlib.Data.List.TakeWhile
import Shell.Proofs.Framing
import Shell.Proofs.Printing
import Shell.Proofs.Refusing

/-!
# Sessions — which way a line takes

The name of a command decides whether a builtin runs, a program is asked for, or the name is
reported.  This module says what each way comes to.

* `Act.Yields` is a condition on the results of a step, whatever state it starts in.  Only the last
  part of a composed step has to meet it.
* `Session.evaluate_on`: a line takes the way of its name, in a world that differs from the one
  before it by what somebody who follows the session was told (`World.told`).
* `Session.evaluate_builtin_on`: where the name is a builtin's and the redirects are accepted, the
  line gives what the builtin gives over them; what is done with its streams afterwards
  (`Resolved.conclude`) changes the world, but not the result.
-/

namespace Shell

/-! ### Results -/

/-- A step whose results meet a condition. -/
def Act.Yields {ε α : Type} (x : Act ε α) (P : α → Prop) : Prop :=
  ∀ s a, (x.on s).1 = .ok a → P a

namespace Act.Yields

variable {ε ε' α β : Type} {P : α → Prop} {Q : β → Prop}

theorem pure {a : α} (h : P a) : (Pure.pure a : Act ε α).Yields P := by
  rintro s b ⟨⟩
  exact h

theorem throw (e : ε) : (MonadExcept.throw e : Act ε α).Yields P := by
  rintro s b ⟨⟩

theorem bind {x : Act ε α} {f : α → Act ε β} (hx : x.Yields P)
    (hf : ∀ a, P a → (f a).Yields Q) : (x >>= f).Yields Q := by
  intro s b e
  have first := hx s
  rw [Act.on_bind] at e
  revert e first
  rcases x.on s with ⟨_ | a, s'⟩ <;> intro e first
  · cases e
  · exact hf a (first a rfl) s' b e

/-- What a step does first does not matter. -/
theorem behind {x : Act ε α} {f : α → Act ε β} (hf : ∀ a, (f a).Yields Q) : (x >>= f).Yields Q :=
  bind (P := fun _ => True) (fun _ _ _ => trivial) fun a _ => hf a

theorem attempt {x : Act ε α} (hx : x.Yields P) :
    (Act.attempt x : Act ε' _).Yields fun result => ∀ a, result = .ok a → P a := by
  rintro s result ⟨⟩ a e
  exact hx s a e

end Act.Yields

/-- The outcome of a builtin that lets the session go on. -/
def Outcome.Ordinary (outcome : Outcome) : Prop :=
  outcome = { exitCode := 0 } ∨ outcome = { exitCode := 1 }

theorem Outcome.Ordinary.terminate {outcome : Outcome} (h : outcome.Ordinary) :
    outcome.terminate = false := by
  rcases h with rfl | rfl <;> rfl

namespace Builtin

/-- A builtin that does no work, or none that succeeds, gives zero for help and one otherwise. -/
theorem yields_runWith {α : Type} {P : Outcome → Prop} (help : P { exitCode := 0 })
    (refused : P { exitCode := 1 }) (io : Binding) (usage : Usage α) (value : α)
    (arguments : List String) {work : α → Act BuiltinError Outcome}
    (h : ∀ read, usage.read value arguments = .ok read → (work read).Yields P) :
    (runWith io usage value arguments work).Yields P := by
  unfold runWith
  split
  · exact .behind fun _ => .pure help
  · exact .behind fun _ => .pure refused
  · rename_i read accepted
    refine (h read accepted).attempt.bind fun result given => ?_
    split
    · exact .pure (given _ rfl)
    · exact .behind fun _ => .pure refused

/-- Report what went wrong while a builtin ran. -/
def reportError (io : Binding) (e : BuiltinError) : Act SystemError Outcome := do
  Act.ofEffect (World.print io.error (e.pieces ++ ["\n"]))
  return { exitCode := 1 }

/-- A builtin that takes its arguments gives what its work on them gives, and reports what goes
wrong. -/
theorem runWith_eq {α : Type} {usage : Usage α} {value read : α} {arguments : List String}
    (accepted : usage.read value arguments = .ok read) (work : α → Act BuiltinError Outcome)
    (io : Binding) (s : SessionState) :
    (runWith io usage value arguments work).on s = match (work read).on s with
      | (.ok outcome, t) => (.ok outcome, t)
      | (.error e, t) => (reportError io e).on t := by
  rw [runWith, accepted]
  dsimp only
  rw [Act.on_bind_ok (Act.on_attempt ..)]
  rcases (work read).on s with ⟨_ | _, t⟩
  · rfl
  · rfl

/-- A builtin gives what its work gives, if this succeeds on its arguments. -/
theorem runWith_on {α : Type} {usage : Usage α} {value read : α} {arguments : List String}
    {work : α → Act BuiltinError Outcome} {s t : SessionState} {outcome : Outcome}
    (accepted : usage.read value arguments = .ok read)
    (worked : (work read).on s = (.ok outcome, t)) (io : Binding) :
    (runWith io usage value arguments work).on s = (.ok outcome, t) := by
  rw [runWith_eq accepted, worked]

/-- **Every builtin but `exit`** lets the session go on. -/
theorem yields_run {builtin : Builtin} (other : builtin ≠ .exit) (registry : Registry)
    (io : Binding) (arguments : List String) :
    (builtin.run registry io arguments).Yields Outcome.Ordinary := by
  have help : Outcome.Ordinary { exitCode := 0 } := .inl rfl
  have refused : Outcome.Ordinary { exitCode := 1 } := .inr rfl
  cases builtin with
  | cd =>
      refine yields_runWith help refused _ _ _ _ fun target _ => ?_
      intro s outcome e
      simp only [changeDirectory, Act.on] at e
      split at e <;> cases e
      exact help
  | echo => exact yields_runWith help refused _ _ _ _ fun _ _ => .behind fun _ => .pure help
  | exit => exact absurd rfl other
  | pwd =>
      exact yields_runWith help refused _ _ _ _ fun _ _ =>
        .behind fun _ => .behind fun _ => .pure help
  | type =>
      refine yields_runWith help refused _ _ _ _ fun _ _ => .behind fun found => .pure ?_
      split
      · exact help
      · exact refused

end Builtin

namespace Session

variable {session : Session}

theorem yields_refuse (command : Command) (error : RedirectError) :
    (session.refuse command error).Yields fun outcome => outcome = { exitCode := exitRefused } :=
  .behind fun _ => .pure rfl

/-- **A program** lets the session go on. -/
theorem yields_runProgram (program : String) (command : Command) :
    (session.runProgram program command).Yields fun outcome => outcome.terminate = false := by
  refine .behind fun _ => .behind fun planned => ?_
  cases planned with
  | error e => exact .behind fun _ => .pure rfl
  | ok plan =>
      refine .behind fun _ => .behind fun _ => .behind fun outcome => ?_
      split
      · exact .throw _
      · exact .pure rfl
      · exact .behind fun _ => .pure rfl
      · exact .throw _

/-- So does a name that stands for nothing. -/
theorem yields_runUnknown (command : Command) :
    (session.runUnknown command).Yields fun outcome => outcome.terminate = false := by
  refine .behind fun applied => ?_
  cases applied with
  | error e => exact .behind fun _ => .pure rfl
  | ok resolved => exact .behind fun _ => .behind fun _ => .pure rfl

/-- A line that is no command lets the session go on. -/
theorem yields_evaluate_of_unread {line : String}
    (unread : ∀ command, Command.ofLine line ≠ .ok command) :
    (session.evaluate line).Yields fun outcome => outcome.terminate = false := by
  unfold evaluate
  split
  · exact .pure rfl
  · refine .behind fun _ => ?_
    split
    · exact .behind fun _ => .pure rfl
    · exact absurd ‹_› (unread _)

/-- **A name that is no builtin's** lets the session go on, whatever it stands for. -/
theorem yields_runCommand_of_find?_eq_none {command : Command}
    (none : session.registry.find? command.name.text = none) :
    (session.runCommand command).Yields fun outcome => outcome.terminate = false := by
  refine .behind fun _ => ?_
  rw [none]
  refine .behind fun program => ?_
  split
  · exact yields_runProgram _ _
  · exact yields_runUnknown _

end Session

/-! ### Names -/

theorem Builtin.name_injective {builtin other : Builtin} (h : builtin.name = other.name) :
    builtin = other := by
  revert h
  cases builtin <;> cases other <;> decide

/-- The builtin of a name is the registered one that has this name. -/
theorem Registry.find?_eq_some_iff {registry : Registry} {name : String} {builtin : Builtin} :
    registry.find? name = some builtin ↔ builtin ∈ registry.builtins ∧ builtin.name = name := by
  constructor
  · intro h
    exact ⟨List.mem_of_find?_eq_some h, by simpa using List.find?_some h⟩
  · rintro ⟨mem, rfl⟩
    cases e : registry.find? builtin.name with
    | none => simpa using List.find?_eq_none.mp e builtin mem
    | some other =>
        have same : other.name = builtin.name := by simpa using List.find?_some e
        rw [Builtin.name_injective same]

theorem Registry.contains_iff {registry : Registry} (builtin : Builtin) :
    registry.contains builtin.name ↔ registry.find? builtin.name = some builtin := by
  rw [contains, Option.isSome_iff_exists]
  constructor
  · rintro ⟨other, e⟩
    rwa [Builtin.name_injective (find?_eq_some_iff.mp e).2] at e
  · exact fun e => ⟨_, e⟩

/-- A line of blanks is no command. -/
theorem Command.not_isBlankLine {line : String} {command : Command}
    (read : ofLine line = .ok command) : Text.isBlankLine line = false := by
  rw [Bool.eq_false_iff]
  intro blank
  have nothing : line.toList.dropWhile Text.isBlank = [] :=
    List.dropWhile_eq_nil_iff.mpr (List.all_eq_true.mp blank)
  have empty : Text.trim line = "" := by simp [Text.trim, Text.trimmed, nothing]
  rw [ofLine, empty] at read
  cases read

/-! ### Somebody who follows the session -/

namespace World

/-- The world once somebody who follows the session was told of a line and of its command. -/
def told (w : World) (line : String) (command : Command) : World :=
  (w.record .debug parsingTopic
      ("tokens: " ++ bracketed ((tokenize (Text.trim line)).map Token.shown))).record .debug
    evaluationTopic ("evaluating " ++ command.shown)

/-- The world once he was also told that the name is a builtin's. -/
def toldBuiltin (w : World) (line : String) (command : Command) : World :=
  (w.told line command).record .debug evaluationTopic (command.name.text ++ " is a builtin")

theorem exists_told (w : World) (line : String) (command : Command) :
    ∃ shown log, w.told line command = w.heard shown log := by
  obtain ⟨shown, log, e, -⟩ := w.exists_record .debug parsingTopic
    ("tokens: " ++ bracketed ((tokenize (Text.trim line)).map Token.shown))
  obtain ⟨shown', log', e', -⟩ := (w.heard shown log).exists_record .debug evaluationTopic
    ("evaluating " ++ command.shown)
  exact ⟨shown', log', by rw [told, e, e']; rfl⟩

theorem exists_toldBuiltin (w : World) (line : String) (command : Command) :
    ∃ shown log, w.toldBuiltin line command = w.heard shown log := by
  obtain ⟨shown, log, e⟩ := w.exists_told line command
  obtain ⟨shown', log', e', -⟩ := (w.heard shown log).exists_record .debug evaluationTopic
    (command.name.text ++ " is a builtin")
  exact ⟨shown', log', by rw [toldBuiltin, e, e']; rfl⟩

@[simp]
theorem tree_toldBuiltin (w : World) (line : String) (command : Command) :
    (w.toldBuiltin line command).machine.tree = w.machine.tree := by
  obtain ⟨shown, log, e⟩ := w.exists_toldBuiltin line command
  rw [e]
  rfl

@[simp]
theorem cwd_toldBuiltin (w : World) (line : String) (command : Command) :
    (w.toldBuiltin line command).cwd = w.cwd := by
  obtain ⟨shown, log, e⟩ := w.exists_toldBuiltin line command
  rw [e]
  rfl

@[simp]
theorem writers_toldBuiltin (w : World) (line : String) (command : Command) :
    (w.toldBuiltin line command).writers = w.writers := by
  obtain ⟨shown, log, e⟩ := w.exists_toldBuiltin line command
  rw [e]
  rfl

theorem Kept.toldBuiltin (w : World) (line : String) (command : Command) :
    w.Kept (w.toldBuiltin line command) :=
  ((Kept.record w ..).trans (.record ..)).trans (.record ..)

/-- Nothing is kept and nothing is shown by a log that leaves such reports out. -/
theorem record_of_quiet {w : World} {level : Level} (quiet : w.log.keeps level = false)
    (topic message : String) : w.record level topic message = w := by
  rw [record, if_neg (by simp [quiet])]

theorem told_of_quiet {w : World} (quiet : w.log.keeps .debug = false) (line : String)
    (command : Command) : w.told line command = w := by
  rw [told, record_of_quiet quiet, record_of_quiet quiet]

theorem toldBuiltin_of_quiet {w : World} (quiet : w.log.keeps .debug = false) (line : String)
    (command : Command) : w.toldBuiltin line command = w := by
  rw [toldBuiltin, told_of_quiet quiet, record_of_quiet quiet]

end World

/-! ### Builtins with their streams -/

/-- The world with what went wrong in a step logged, if anything did. -/
def World.warnOf (w : World) (what : String) : Except SystemError Unit → World
  | .ok () => w
  | .error e => w.warn (what ++ ": " ++ e.message)

/-- The world after the streams of a command are done with: what they keep back is sent on, and
those that were opened for it are ended. -/
def Resolved.conclude (resolved : Resolved) (name : String) (w : World) : World :=
  let (flushed, w) := resolved.binding.flush.on w
  let w := w.warnOf ("failed to flush output of " ++ name) flushed
  let (released, w) := resolved.release.on w
  w.warnOf ("failed to release redirects of " ++ name) released

theorem World.Kept.warnOf (w : World) (what : String) (result : Except SystemError Unit) :
    w.Kept (w.warnOf what result) := by
  cases result with
  | ok => exact .refl w
  | error e => exact .record w ..

theorem World.Kept.conclude (resolved : Resolved) (name : String) (w : World) :
    w.Kept (resolved.conclude name w) :=
  ((((Binding.keeps_flush _ w).trans (.warnOf ..)).trans (Resolved.keeps_release _ _)).trans
    (.warnOf ..))

/-- Once everything was sent on, nothing is left to be done. -/
theorem Resolved.conclude_of_flush {resolved : Resolved} {w w' : World}
    (flushed : resolved.binding.flush.on w = (.ok (), w'))
    (output : w'.Idle resolved.binding.output) (error : w'.Idle resolved.binding.error)
    (name : String) : resolved.conclude name w = w' := by
  have released : resolved.release.on w' = (.ok (), w') := by
    cases resolved with
    | inherited => rfl
    | derived => exact Binding.release_on_of_idle output error
  rw [conclude, flushed]
  dsimp only [World.warnOf]
  rw [released]

/-- Without redirects the streams are used as they are. -/
theorem Redirection.apply_of_bare {redirects : List Redirect} (bare : redirects = [])
    (io : Binding) (w : World) : (apply redirects io).on w = (.ok (.inherited io), w) := by
  rw [bare]
  rfl

namespace Session

variable {session : Session} {s : SessionState} {command : Command}

theorem warnOf_on {ε : Type} (what : String) (result : Except SystemError Unit)
    (s : SessionState) :
    (warnOf what result : Act ε Unit).on s
      = (.ok (), { s with world := s.world.warnOf what result }) := by
  cases result <;> rfl

/-- **A builtin whose redirects are accepted** gives what it gives over them. -/
theorem runBuiltin_on (builtin : Builtin) {resolved : Resolved} {w : World}
    (applied : (Redirection.apply command.redirects session.io).on (s.world.record .debug
      evaluationTopic (command.name.text ++ " is a builtin")) = (.ok resolved, w)) :
    let ran := (builtin.run session.registry resolved.binding
      (command.arguments.map Word.text)).on { s with world := w }
    (session.runBuiltin builtin command).on s = (ran.1.mapError .stream,
      { ran.2 with world := resolved.conclude command.name.text ran.2.world }) := by
  rw [runBuiltin, follow, Act.on_bind_ok (Act.on_change ..), Act.on_bind_ok (Act.on_attempt ..),
    Act.on_ofEffect, applied]
  dsimp only
  rw [Act.on_bind_ok (Act.on_attempt ..)]
  generalize (builtin.run session.registry resolved.binding (command.arguments.map Word.text)).on
    { s with world := w } = ran
  rw [Act.on_bind_ok (Act.on_attempt ..), Act.on_bind_ok (warnOf_on ..),
    Act.on_bind_ok (Act.on_attempt ..), Act.on_bind_ok (warnOf_on ..)]
  rcases ran with ⟨_ | _, t⟩ <;> rfl

/-- What is done about a command, as its name decides in a state. -/
def way (session : Session) (s : SessionState) (command : Command) : Act Failure Outcome :=
  match session.registry.find? command.name.text with
  | some builtin => session.runBuiltin builtin command
  | none =>
      match s.environment.findExecutable s.world command.name.text with
      | some program => session.runProgram program command
      | none => session.runUnknown command

/-- **A line** takes the way that the name of its command decides. -/
theorem evaluate_on {line : String} (read : Command.ofLine line = .ok command)
    (s : SessionState) :
    (session.evaluate line).on s
      = (session.way s command).on { s with world := s.world.told line command } := by
  have looked : s.environment.findExecutable (s.world.told line command) command.name.text
      = s.environment.findExecutable s.world command.name.text := by
    obtain ⟨shown, log, e⟩ := s.world.exists_told line command
    rw [e]
    rfl
  rw [evaluate, Command.not_isBlankLine read, if_neg Bool.false_ne_true, follow,
    Act.on_bind_ok (Act.on_change ..), read]
  dsimp only
  rw [runCommand, follow, Act.on_bind_ok (Act.on_change ..), way]
  cases session.registry.find? command.name.text with
  | some builtin => rfl
  | none =>
      dsimp only
      rw [Act.on_bind_ok (Act.on_look ..), ← looked]
      rfl

/-- **A line** whose name is a builtin's, and whose redirects are accepted, gives what the builtin
gives over them. -/
theorem evaluate_builtin_on {line : String} {builtin : Builtin}
    (read : Command.ofLine line = .ok command)
    (found : session.registry.find? command.name.text = some builtin) {resolved : Resolved}
    {w : World} (applied : (Redirection.apply command.redirects session.io).on
      (s.world.toldBuiltin line command) = (.ok resolved, w)) :
    let ran := (builtin.run session.registry resolved.binding
      (command.arguments.map Word.text)).on { s with world := w }
    (session.evaluate line).on s = (ran.1.mapError .stream,
      { ran.2 with world := resolved.conclude command.name.text ran.2.world }) := by
  rw [evaluate_on read, way, found]
  exact runBuiltin_on builtin applied

/-- What a builtin gives without a failure is what the line gives. -/
theorem evaluate_builtin_ok {line : String} {builtin : Builtin}
    (read : Command.ofLine line = .ok command)
    (found : session.registry.find? command.name.text = some builtin) {resolved : Resolved}
    {w : World} (applied : (Redirection.apply command.redirects session.io).on
      (s.world.toldBuiltin line command) = (.ok resolved, w)) {outcome : Outcome} {t : SessionState}
    (ran : (builtin.run session.registry resolved.binding (command.arguments.map Word.text)).on
      { s with world := w } = (.ok outcome, t)) :
    (session.evaluate line).on s
      = (.ok outcome, { t with world := resolved.conclude command.name.text t.world }) := by
  rw [evaluate_builtin_on read found applied, ran]
  rfl

/-- Redirects are accepted while the session is followed as they are otherwise. -/
theorem exists_applied {redirects : List Redirect}
    (accepted : (Opening.of s.world.machine.tree s.world.cwd redirects).refusal = none)
    (line : String) (command : Command) :
    ∃ resolved w, (Redirection.apply redirects session.io).on (s.world.toldBuiltin line command)
        = (.ok resolved, w)
      ∧ w.machine.tree = (Opening.of s.world.machine.tree s.world.cwd redirects).tree := by
  have applied := Redirection.apply_on redirects session.io (s.world.toldBuiltin line command)
  rw [World.tree_toldBuiltin, World.cwd_toldBuiltin, accepted] at applied
  exact ⟨_, _, applied, rfl⟩

end Session

end Shell
