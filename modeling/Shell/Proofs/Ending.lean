import Shell.Proofs.Arguments
import Shell.Proofs.Dispatching

/-!
# Sessions — how they end

Only `exit` ends a session, and only where it is a builtin, its redirects are accepted and its
arguments give at most one code (`evaluate_ends_iff`).  Nothing is asked of the streams or of the
launcher: what a program gives and what a stream refuses never ends a session.
-/

namespace Shell

namespace Session

variable {session : Session} {s : SessionState} {line : String} {command : Command}

/-- What a line gives whose name is `exit`'s and whose redirects are accepted. -/
theorem exists_run_exit (read : Command.ofLine line = .ok command)
    (found : session.registry.find? command.name.text = some .exit)
    (accepted : (Opening.of s.world.machine.tree s.world.cwd command.redirects).refusal = none) :
    ∃ io t, ((session.evaluate line).on s).1 = ((Builtin.exit.run session.registry io
      (command.arguments.map Word.text)).on t).1.mapError .stream := by
  obtain ⟨resolved, w, applied, -⟩ := session.exists_applied accepted line command
  exact ⟨resolved.binding, { s with world := w }, by rw [evaluate_builtin_on read found applied]⟩

/-- **A line that ends the session** is one of `exit` whose redirects are accepted. -/
theorem exists_exit_of_ends {code : ExitCode}
    (ends : ((session.evaluate line).on s).1 = .ok { exitCode := code, terminate := true }) :
    ∃ command, Command.ofLine line = .ok command
      ∧ session.registry.find? command.name.text = some .exit
      ∧ (Opening.of s.world.machine.tree s.world.cwd command.redirects).refusal = none := by
  cases read : Command.ofLine line with
  | error e => cases yields_evaluate_of_unread (by simp [read]) _ _ ends
  | ok command =>
      obtain ⟨console, log, evaluated⟩ :=
        session.exists_evaluate (Command.not_isBlankLine read) read s
      refine ⟨command, rfl, ?_⟩
      cases refusal : (Opening.of s.world.machine.tree s.world.cwd command.redirects).refusal with
      | some error =>
          obtain ⟨w, -, refused⟩ := session.exists_runCommand_refused refusal console log
          rw [evaluated, refused] at ends
          cases yields_refuse command error _ _ ends
      | none =>
          refine ⟨?_, rfl⟩
          cases found : session.registry.find? command.name.text with
          | none =>
              rw [evaluated] at ends
              cases yields_runCommand_of_find?_eq_none found _ _ ends
          | some builtin =>
              by_cases exit : builtin = .exit
              · rw [exit]
              obtain ⟨resolved, w, applied, -⟩ := session.exists_applied refusal line command
              rw [evaluate_builtin_on read found applied, Except.mapError_eq_ok_iff] at ends
              cases (Builtin.yields_run exit _ _ _ _ _ ends).terminate

end Session

/-- `exit` ends the session exactly with arguments that it takes. -/
theorem Builtin.run_exit_ends_iff {registry : Registry} {io : Binding} {arguments : List String}
    {t : SessionState} {code : ExitCode} :
    ((Builtin.exit.run registry io arguments).on t).1 = .ok { exitCode := code, terminate := true }
      ↔ ∃ given, exitUsage.read none arguments = .ok given ∧ code = given.getD 0 := by
  cases read : exitUsage.read none arguments with
  | error refusal =>
      have unread : (Builtin.exit.run registry io arguments).Yields Outcome.Ordinary := by
        refine yields_runWith (.inl rfl) (.inr rfl) _ _ _ _ fun given accepted => ?_
        rw [read] at accepted
        cases accepted
      simp only [reduceCtorEq, false_and, exists_false, iff_false]
      intro ends
      cases (unread _ _ ends).terminate
  | ok given =>
      have left : ((Builtin.exit.run registry io arguments).on t).1
          = .ok { exitCode := given.getD 0, terminate := true } := by
        rw [Builtin.run, runWith, read]
        rfl
      rw [left]
      simp [eq_comm]

/-- **Only `exit` ends a session.**  A line does it exactly if it is a command whose name is `exit`,
a builtin of this name is registered, every target of its redirects can be opened, and its arguments
give a code or none; the exit code is then this code, or zero. -/
theorem evaluate_ends_iff (session : Session) (s : SessionState) (line : String) :
    (∀ code, ((session.evaluate line).on s).1 = .ok { exitCode := code, terminate := true }
        ↔ ∃ command given, Command.ofLine line = .ok command
          ∧ command.name.text = "exit" ∧ session.registry.contains "exit"
          ∧ (Opening.of s.world.machine.tree s.world.cwd command.redirects).refusal = none
          ∧ Builtin.exitUsage.read none (command.arguments.map Word.text) = .ok given
          ∧ code = given.getD 0)
      ∧ ∀ arguments given, Builtin.exitUsage.read none arguments = .ok given
        ↔ Builtin.ExitArguments arguments given := by
  refine ⟨fun code => ⟨fun ends => ?_, ?_⟩, fun _ _ => Builtin.read_exitUsage_iff⟩
  · obtain ⟨command, read, found, accepted⟩ := Session.exists_exit_of_ends ends
    obtain ⟨io, t, ran⟩ := Session.exists_run_exit read found accepted
    rw [ran, Except.mapError_eq_ok_iff, Builtin.run_exit_ends_iff] at ends
    obtain ⟨given, taken, rfl⟩ := ends
    have name : command.name.text = "exit" := (Registry.find?_eq_some_iff.mp found).2.symm
    refine ⟨command, given, read, name, ?_, accepted, taken, rfl⟩
    rw [← name]
    exact Option.isSome_iff_exists.mpr ⟨_, found⟩
  · rintro ⟨command, given, read, name, registered, accepted, taken, rfl⟩
    have found : session.registry.find? command.name.text = some .exit := by
      rw [name]
      exact (Registry.contains_iff .exit).mp registered
    obtain ⟨io, t, ran⟩ := Session.exists_run_exit read found accepted
    rw [ran, Except.mapError_eq_ok_iff, Builtin.run_exit_ends_iff]
    exact ⟨given, taken, rfl⟩

end Shell
