import Shell.Proofs.Reporting
import Shell.Proofs.Requests

/-!
# Sessions — lines that fail before they run

A line that is no command, and a command with a target that cannot be opened, come to a report and
no more (`OnlyReports`).  Which of the three ways a command takes is nothing to this: a builtin, a
program and an unknown name all open the targets in order, and stop at the first that is refused
(`Session.exists_runCommand_refused`).  What was opened until then are files that are empty or as
they were, and streams that hold nothing (`World.Widened`).

`evaluate_refused_line_only_reports`: the report is the last thing such a line does, and the only
one that anybody can read.
-/

namespace Shell

/-- The world with another tree, and with streams more that hold nothing; somebody may have heard of
it. -/
def World.Widened (w : World) (tree : FileTree) (w' : World) : Prop :=
  ∃ writers readers shown log, (∀ writer ∈ writers, writer.waiting = [])
    ∧ w' = { w with
        machine := { w.machine.showing shown with tree }
        writers := w.writers ++ writers
        readers := w.readers ++ readers
        log }

/-- What is left of a line is a report on the session's error stream, and a tree. -/
structure OnlyReports (session : Session) (s : SessionState) (collected : Bytes) (text : String)
    (tree : FileTree) (after : Except Failure Outcome × SessionState) : Prop where
  outcome : after.1 = .ok { exitCode := 1, terminate := false }
  environment : after.2.environment = s.environment
  requests : after.2.requests = s.requests
  cwd : after.2.world.cwd = s.world.cwd
  vars : after.2.world.vars = s.world.vars
  tree : after.2.world.machine.tree = tree
  report : after.2.world.writers[session.io.error]?
    = some (.memory (collected ++ Bytes.ofText (text ++ "\n")))
  /-- No other stream of the session is written to. -/
  others : ∀ id < s.world.writers.length, id ≠ session.io.error →
    after.2.world.writers[id]? = s.world.writers[id]?
  /-- Nothing waits in a stream that was opened on the way. -/
  idle : ∀ id, s.world.writers.length ≤ id → after.2.world.Idle id
  /-- No stream of the session is read from. -/
  readers : ∀ id < s.world.readers.length, after.2.world.readers[id]? = s.world.readers[id]?
  typed : after.2.world.typed = s.world.typed

/-! ### What was opened -/

namespace World.Widened

theorem heard (w : World) (shown : Outputs) (log : Log) :
    w.Widened w.machine.tree (w.heard shown log) :=
  ⟨[], [], shown, log, by simp, by simp [World.heard, Machine.showing]⟩

theorem withTree {w w' : World} {tree : FileTree} (h : w.Widened tree w') (tree' : FileTree) :
    w.Widened tree' (w'.withTree tree') := by
  obtain ⟨writers, readers, shown, log, idle, rfl⟩ := h
  exact ⟨writers, readers, shown, log, idle, rfl⟩

theorem gain {w w' : World} {tree : FileTree} (h : w.Widened tree w') (kind : RedirectKind)
    (file : OpenFile) : w.Widened tree (w'.gain kind file) := by
  obtain ⟨writers, readers, shown, log, idle, rfl⟩ := h
  cases kind with
  | input =>
      refine ⟨writers, readers ++ [{ source := .opened file }], shown, log, idle, ?_⟩
      simp [World.gain]
  | output | outputAppend | error | errorAppend | allOutput | allAppend =>
      refine ⟨writers ++ [.buffered file []], readers, shown, log, ?_, by simp [World.gain]⟩
      intro writer mem
      rcases List.mem_append.mp mem with mem | mem
      · exact idle writer mem
      · cases List.mem_singleton.mp mem
        rfl

/-- Connecting a binding to new streams is one gain after another. -/
theorem connected {w w' : World} {tree : FileTree} (h : w.Widened tree w') (io : Binding)
    (opened : List (Redirect × OpenFile)) :
    w.Widened tree (Redirection.connected io w' opened).2 := by
  induction opened generalizing io w' with
  | nil => exact h
  | cons first rest ih => exact ih (h.gain ..) _

variable {w : World} {redirects : List Redirect} {error : RedirectError}

/-- Redirects that are put upon a binding end at a target that is refused. -/
theorem exists_apply_on
    (refused : (Opening.of w.machine.tree w.cwd redirects).refusal = some error) (io : Binding)
    (shown : Outputs) (log : Log) :
    ∃ w', w.Widened (Opening.of w.machine.tree w.cwd redirects).tree w'
      ∧ (Redirection.apply redirects io).on (w.heard shown log) = (.error error, w') := by
  have applied := Redirection.apply_on redirects io (w.heard shown log)
  have opened : Opening.of (w.heard shown log).machine.tree (w.heard shown log).cwd redirects
      = Opening.of w.machine.tree w.cwd redirects := rfl
  rw [opened, refused] at applied
  exact ⟨_, ((heard w shown log).connected _ _).withTree _, applied⟩

/-- So does a plan. -/
theorem exists_ofRedirects_on
    (refused : (Opening.of w.machine.tree w.cwd redirects).refusal = some error)
    (shown : Outputs) (log : Log) :
    ∃ w', w.Widened (Opening.of w.machine.tree w.cwd redirects).tree w'
      ∧ (Plan.ofRedirects redirects).on (w.heard shown log) = (.error error, w') := by
  have planned := Plan.ofRedirects_on redirects (w.heard shown log)
  have opened : Opening.of (w.heard shown log).machine.tree (w.heard shown log).cwd redirects
      = Opening.of w.machine.tree w.cwd redirects := rfl
  rw [opened, refused] at planned
  exact ⟨_, (heard w shown log).withTree _, planned⟩

end World.Widened

/-! ### Reports -/

/-- A report that is made when no more than that happened. -/
theorem OnlyReports.of_widened {session : Session} {s : SessionState} {collected : Bytes}
    {tree : FileTree} {w : World}
    (memory : s.world.writers[session.io.error]? = some (.memory collected))
    (widened : s.world.Widened tree w) (text : String) :
    w.writers[session.io.error]? = some (.memory collected)
      ∧ OnlyReports session s collected text tree
        (.ok { exitCode := exitRefused },
          { s with world := w.tell session.io.error (text ++ "\n") }) := by
  obtain ⟨writers, readers, shown, log, idle, rfl⟩ := widened
  have old : ∀ {id}, id < s.world.writers.length →
      (s.world.writers ++ writers)[id]? = s.world.writers[id]? :=
    fun lt => List.getElem?_append_left lt
  have live := (List.getElem?_eq_some_iff.mp memory).1
  have still : (s.world.writers ++ writers)[session.io.error]? = some (.memory collected) :=
    (old live).trans memory
  refine ⟨still, ?_⟩
  have apart : ∀ id, id ≠ session.io.error →
      (World.tell _ session.io.error (text ++ "\n")).writers[id]?
        = (s.world.writers ++ writers)[id]? := fun id ne => World.getElem?_tell_of_ne
    { s.world with
      machine := { s.world.machine.showing shown with tree }, writers := s.world.writers ++ writers,
      readers := s.world.readers ++ readers, log } ne _
  rw [World.tell_of_memory still] at apart ⊢
  refine ⟨rfl, rfl, rfl, rfl, rfl, rfl, ?_, fun id lt ne => (apart id ne).trans (old lt), ?_, ?_,
    rfl⟩
  · exact List.getElem?_set_self (List.getElem?_eq_some_iff.mp still).1
  · intro id new writer found
    have at' := (apart id (Nat.ne_of_gt (Nat.lt_of_lt_of_le live new))).symm.trans found
    rw [List.getElem?_append_right new] at at'
    exact idle writer (List.mem_of_getElem? at')
  · exact fun id lt => List.getElem?_append_left lt

namespace Session

variable {session : Session} {s : SessionState} {command : Command} {error : RedirectError}

/-- An attempt that is refused, as a step of the session. -/
theorem attempt_refused {α : Type} {x : Effect RedirectError α} {w : World} {shown : Outputs}
    {log : Log} (refused : x.on (s.world.heard shown log) = (.error error, w)) :
    (Act.attempt (Act.ofEffect x) : Act Failure _).on (s.heard shown log)
      = (.ok (.error error), { s with world := w }) := by
  rw [Act.on_attempt, Act.on_ofEffect, SessionState.heard, refused]

/-- **Whichever way a command takes**, it is refused where its first target is that cannot be
opened. -/
theorem exists_runCommand_refused
    (refused : (Opening.of s.world.machine.tree s.world.cwd command.redirects).refusal
      = some error) (shown : Outputs) (log : Log) :
    ∃ w, s.world.Widened (Opening.of s.world.machine.tree s.world.cwd command.redirects).tree w
      ∧ (session.runCommand command).on (s.heard shown log)
        = (session.refuse command error).on { s with world := w } := by
  obtain ⟨shown, log, followed⟩ := exists_follow s shown log evaluationTopic
    ("evaluating " ++ command.shown)
  rw [runCommand, Act.on_bind_ok followed]
  cases session.registry.find? command.name.text with
  | some builtin =>
      obtain ⟨shown, log, followed⟩ := exists_follow s shown log evaluationTopic
        (command.name.text ++ " is a builtin")
      obtain ⟨w, widened, applied⟩ := World.Widened.exists_apply_on refused session.io shown log
      refine ⟨w, widened, ?_⟩
      dsimp only
      rw [runBuiltin, Act.on_bind_ok followed, Act.on_bind_ok (attempt_refused applied)]
  | none =>
      dsimp only
      rw [Act.on_bind_ok (Act.on_look ..)]
      cases (s.heard shown log).environment.findExecutable (s.heard shown log).world
        command.name.text with
      | some program =>
          obtain ⟨shown, log, followed⟩ := exists_follow s shown log evaluationTopic
            (command.name.text ++ " resolved to " ++ program)
          obtain ⟨w, widened, planned⟩ := World.Widened.exists_ofRedirects_on refused shown log
          refine ⟨w, widened, ?_⟩
          dsimp only
          rw [runProgram, Act.on_bind_ok followed, Act.on_bind_ok (attempt_refused planned)]
      | none =>
          obtain ⟨w, widened, applied⟩ :=
            World.Widened.exists_apply_on refused session.io shown log
          refine ⟨w, widened, ?_⟩
          dsimp only
          rw [runUnknown, Act.on_bind_ok (attempt_refused applied)]

/-- A line that is no command is reported. -/
theorem exists_evaluate_error {line : String} {e : ParseError}
    (visible : Text.isBlankLine line = false) (read : Command.ofLine line = .error e) :
    ∃ shown log, (session.evaluate line).on s
      = (session.report ("parse error: " ++ e.message) >>= fun _ =>
          pure { exitCode := exitRefused }).on (s.heard shown log) := by
  obtain ⟨shown, log, followed⟩ := exists_follow s s.world.machine.console.toOutputs s.world.log
    parsingTopic ("tokens: " ++ bracketed ((tokenize (Text.trim line)).map Token.shown))
  have here : s.heard s.world.machine.console.toOutputs s.world.log = s := rfl
  rw [here] at followed
  refine ⟨shown, log, ?_⟩
  rw [evaluate, visible, if_neg Bool.false_ne_true, Act.on_bind_ok followed, read]

end Session

/-- **A line that fails before it runs** only reports.  A line that is no command leaves all files
as they are.  A command with targets that cannot be opened stops at the first of these, and leaves
what opening the targets before it leaves; the report goes to the session's own error stream,
whatever was opened for errors. -/
theorem evaluate_refused_line_only_reports {session : Session} {s : SessionState} {line : String}
    {collected : Bytes} (visible : Text.isBlankLine line = false)
    (memory : s.world.writers[session.io.error]? = some (.memory collected)) :
    (∀ e, Command.ofLine line = .error e →
      OnlyReports session s collected ("parse error: " ++ e.message) s.world.machine.tree
        ((session.evaluate line).on s))
      ∧ ∀ command error, Command.ofLine line = .ok command →
        (Opening.of s.world.machine.tree s.world.cwd command.redirects).refusal = some error →
        ∃ before directive after, command.redirects = before ++ directive :: after
          ∧ (Opening.of s.world.machine.tree s.world.cwd before).refusal = none
          ∧ (Opening.of s.world.machine.tree s.world.cwd before).tree.openFile s.world.cwd
            directive.kind.openMode directive.target.text = .error error.cause
          ∧ OnlyReports session s collected
            (command.name.text ++ ": " ++ directive.target.text ++ ": " ++ error.cause.message)
            (Opening.of s.world.machine.tree s.world.cwd before).tree
            ((session.evaluate line).on s) := by
  constructor
  · intro e read
    obtain ⟨shown, log, evaluated⟩ := session.exists_evaluate_error (s := s) visible read
    obtain ⟨still, reports⟩ := OnlyReports.of_widened memory
      (World.Widened.heard s.world shown log) ("parse error: " ++ e.message)
    have reported := Session.report_on (s := s.heard shown log) still
      ("parse error: " ++ e.message)
    rw [evaluated, Act.on_bind_ok reported]
    exact reports
  · intro command error read refused
    obtain ⟨before, directive, after, split, earlier, stopped, path, left⟩ :=
      Opening.exists_refused_at refused
    refine ⟨before, directive, after, split, earlier, stopped, ?_⟩
    obtain ⟨shown, log, evaluated⟩ := session.exists_evaluate visible read s
    obtain ⟨w, widened, ran⟩ := session.exists_runCommand_refused refused shown log
    rw [left] at widened
    obtain ⟨still, reports⟩ := OnlyReports.of_widened memory widened
      (command.name.text ++ ": " ++ error.message)
    have reported := Session.refuse_on (s := { s with world := w }) still command error
    rw [evaluated, ran, reported]
    rw [RedirectError.message, path, ← String.append_assoc, ← String.append_assoc] at reports ⊢
    exact reports

/-- A builtin whose second target is missing, after errors were sent to a file, and a line that ends
in an operator. -/
theorem evaluate_refused_line_only_reports_both :
    let start := Binding.overMemory []
      { machine.tree.entries := [(["d"], .directory)], cwd := ["d"] }
    let session : Session := { io := start.1, launcher := .scripted [] }
    let s : SessionState := { world := start.2 }
    let redirects : List Redirect :=
      [⟨.error, ⟨"f", by decide⟩⟩, ⟨.input, ⟨"g", by decide⟩⟩, ⟨.output, ⟨"h", by decide⟩⟩]
    Text.isBlankLine "exit 3 2> f < g > h" = false
      ∧ s.world.writers[session.io.error]? = some (.memory [])
      ∧ Command.ofLine "exit 3 2> f < g > h"
        = .ok ⟨⟨"exit", by decide⟩, [⟨"3", by decide⟩], redirects⟩
      ∧ (Opening.of s.world.machine.tree s.world.cwd redirects).refusal = some ⟨"g", .noSuchFile⟩
      ∧ (∃ before directive after, redirects = before ++ directive :: after
        ∧ OnlyReports session s [] ("exit: " ++ directive.target.text ++ ": "
            ++ SystemError.noSuchFile.message)
          (Opening.of s.world.machine.tree s.world.cwd before).tree
          ((session.evaluate "exit 3 2> f < g > h").on s))
      ∧ Command.ofLine "exit 3 2> f >" = .error ⟨.missingTarget ">", 5⟩
      ∧ OnlyReports session s []
        ("parse error: " ++ (ParseError.mk (.missingTarget ">") 5).message) s.world.machine.tree
        ((session.evaluate "exit 3 2> f >").on s) := by
  intro start session s redirects
  have visible : Text.isBlankLine "exit 3 2> f < g > h" = false := by decide
  have visible' : Text.isBlankLine "exit 3 2> f >" = false := by decide
  have memory : s.world.writers[session.io.error]? = some (.memory []) := rfl
  have read : Command.ofLine "exit 3 2> f < g > h"
      = .ok ⟨⟨"exit", by decide⟩, [⟨"3", by decide⟩], redirects⟩ :=
    Except.eq_ok_of_toOption (by decide +kernel)
  have read' : Command.ofLine "exit 3 2> f >" = .error ⟨.missingTarget ">", 5⟩ := rfl
  have refused : (Opening.of s.world.machine.tree s.world.cwd redirects).refusal
      = some ⟨"g", .noSuchFile⟩ := by decide +kernel
  obtain ⟨before, directive, behind, split, -, -, reports⟩ :=
    (evaluate_refused_line_only_reports visible memory).2 _ _ read refused
  exact ⟨visible, memory, read, refused, ⟨before, directive, behind, split, reports⟩, read',
    (evaluate_refused_line_only_reports visible' memory).1 _ read'⟩

end Shell
