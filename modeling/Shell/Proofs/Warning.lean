import Shell.Proofs.Noting
import Shell.Proofs.Releasing

/-!
# Builtins — no output is lost silently

A builtin whose output is refused while it runs says so with its exit code (`Noted.notes_run`).
What its streams keep back is only sent on afterwards, where the exit code is decided already, and a
refusal there is a warning.

* `Effect.Unlogged`: nothing else that is done for a builtin is logged.
* `Resolved.warnings_conclude`: the warning of a flush that fails.
* `Session.builtin_loses_nothing_silently`: every refusal shows in what the line comes to, or in the
  log.
-/

namespace Shell

/-! ### What is not logged -/

/-- A request that leaves the log alone, whatever comes of it. -/
def Effect.Unlogged {ε α : Type} (x : Effect ε α) : Prop :=
  ∀ w : World, (x.on w).2.log = w.log

namespace Effect.Unlogged

variable {ε α β : Type}

theorem pure (a : α) : Unlogged (Pure.pure a : Effect ε α) :=
  fun _ => rfl

theorem bind {x : Effect ε α} {f : α → Effect ε β} (hx : x.Unlogged) (hf : ∀ a, (f a).Unlogged) :
    (x >>= f).Unlogged :=
  fun w => @after_bind _ _ _ (fun w' => w'.log = w.log) _ _ w (hx w)
    fun a w' first => (hf a w').trans first

theorem useWriter (id : WriterId)
    (act : Writer → Machine → Except SystemError Unit × Writer × Machine) :
    (World.useWriter id act).Unlogged := by
  intro w
  simp only [World.useWriter, Effect.on]
  split <;> rfl

theorem flush_if (wanted : Bool) (id : WriterId) :
    Unlogged (if wanted then World.flush id else Pure.pure () : Effect SystemError Unit) := by
  cases wanted with
  | false => exact pure ()
  | true => exact useWriter id Writer.flush

theorem flush (io : Binding) : io.flush.Unlogged :=
  (useWriter io.output _).bind fun _ => flush_if _ io.error

theorem apply (redirects : List Redirect) (base : Binding) :
    (Redirection.apply redirects base).Unlogged := by
  have gained : ∀ (w : World) (kind : RedirectKind) file, (w.gain kind file).log = w.log := by
    intro w kind file
    cases kind <;> rfl
  have connected : ∀ opened (io : Binding) (w : World),
      (Redirection.connected io w opened).2.log = w.log := by
    intro opened
    induction opened with
    | nil => exact fun _ _ => rfl
    | cons first rest ih =>
        intro io w
        rw [Redirection.connected_cons, ih, gained]
  intro w
  rw [Redirection.apply_on]
  exact connected _ _ w

end Effect.Unlogged

theorem Binding.Offered.log {io : Binding} {w w' : World} {offers : List Offer}
    (h : io.Offered w offers w') : w'.log = w.log := by
  induction h with
  | none => rfl
  | write _ channel bytes ih => exact (Effect.Unlogged.useWriter _ _ _).trans ih
  | aside _ _ log ih => exact log.trans ih

/-! ### Warnings -/

namespace World

variable {w : World} {level : Level}

theorem warnings_record (w : World) (other : level ≠ .warn) (topic message : String) :
    (w.record level topic message).log.warnings = w.log.warnings := by
  unfold record
  split
  · simp [Log.warnings, other]
  · rfl

theorem warnings_toldBuiltin (w : World) (line : String) (command : Command) :
    (w.toldBuiltin line command).log.warnings = w.log.warnings := by
  rw [toldBuiltin, told, warnings_record _ (by decide), warnings_record _ (by decide),
    warnings_record _ (by decide)]

/-- Where reports of the running are left out, the world is as it was. -/
theorem warnings_warn (keeps : w.log.keeps .warn) (message : String) :
    (w.warn message).log.warnings = w.log.warnings ++ [message] := by
  rw [warn, record, if_pos keeps]
  simp [Log.warnings]

/-- Warnings are only added. -/
theorem warnings_prefix_warn (w : World) (message : String) :
    w.log.warnings <+: (w.warn message).log.warnings := by
  cases keeps : w.log.keeps .warn with
  | false => exact ⟨[], by rw [List.append_nil, warn, record_of_quiet keeps]⟩
  | true =>
      rw [warnings_warn keeps]
      exact List.prefix_append _ _

theorem warnings_prefix_warnOf (w : World) (what : String) (result : Except SystemError Unit) :
    w.log.warnings <+: (w.warnOf what result).log.warnings := by
  cases result with
  | ok => exact List.prefix_refl _
  | error e => exact w.warnings_prefix_warn _

end World

theorem Resolved.warnings_prefix_release (resolved : Resolved) (w : World) :
    w.log.warnings <+: (resolved.release.on w).2.log.warnings := by
  cases resolved with
  | inherited => exact List.prefix_refl _
  | derived io =>
      refine @Binding.after_release io (fun w' => w.log.warnings <+: w'.log.warnings) w
        (fun id w' before => ?_)
        (fun w' message before => before.trans (w'.warnings_prefix_warn message))
        (List.prefix_refl _)
      have same : ((World.flush id).on w').2.log = w'.log :=
        Effect.Unlogged.useWriter id Writer.flush w'
      rwa [same]

/-- **A flush that fails** after a builtin is a warning, and others may follow. -/
theorem Resolved.warnings_conclude (resolved : Resolved) {w : World} (keeps : w.log.keeps .warn)
    {cause : SystemError} (failed : (resolved.binding.flush.on w).1 = .error cause)
    (name : String) :
    ∃ more, (resolved.conclude name w).log.warnings = w.log.warnings
      ++ ("failed to flush output of " ++ name ++ ": " ++ cause.message) :: more := by
  have flushed := Effect.Unlogged.flush resolved.binding w
  unfold conclude
  revert failed flushed
  rcases resolved.binding.flush.on w with ⟨_ | _, w'⟩ <;> rintro ⟨⟩ flushed
  have warned : (w'.warnOf ("failed to flush output of " ++ name) (.error cause)).log.warnings
      = w.log.warnings ++ ["failed to flush output of " ++ name ++ ": " ++ cause.message] := by
    rw [← flushed]
    exact World.warnings_warn (flushed ▸ keeps) _
  obtain ⟨more, grown⟩ := (resolved.warnings_prefix_release _).trans
    (World.warnings_prefix_warnOf _ ("failed to release redirects of " ++ name) _)
  refine ⟨more, grown.symm.trans ?_⟩
  rw [warned, List.append_assoc]
  rfl

/-! ### Everything sent -/

theorem Binding.Sends.flush {io : Binding} {start w : World} {accepted : WriterId → Bytes}
    (h : io.Sends start accepted w) (uncrossed : io.Uncrossed start) :
    io.Sends start accepted (io.flush.on w).2 := by
  have first : io.Sends start accepted ((World.flush io.output).on w).2 :=
    (h.flush_if uncrossed true .output).1
  exact Effect.after_bind first fun _ _ first => (first.flush_if uncrossed _ .error).1

/-- **What is done after a builtin** either warns or sends everything on. -/
theorem Binding.Sends.conclude {resolved : Resolved} {start w : World}
    {accepted : WriterId → Bytes} (h : resolved.binding.Sends start accepted w)
    (uncrossed : resolved.binding.Uncrossed start) (keeps : w.log.keeps .warn) (name : String) :
    let after := resolved.conclude name w
    (∃ cause more, after.log.warnings = w.log.warnings
        ++ ("failed to flush output of " ++ name ++ ": " ++ SystemError.message cause) :: more)
      ∨ (resolved.binding.Sends start accepted after
        ∧ ∀ channel, after.Idle (resolved.binding.stream channel)) := by
  intro after
  rcases flushed : resolved.binding.flush.on w with ⟨cause | _, w'⟩
  · exact .inl ⟨cause, resolved.warnings_conclude keeps (by rw [flushed]) name⟩
  · obtain ⟨output, error⟩ := idle_of_flush flushed
    obtain rfl : after = w' := Resolved.conclude_of_flush flushed output error name
    have sends := h.flush uncrossed
    rw [flushed] at sends
    exact .inr ⟨sends, fun channel => by cases channel <;> assumption⟩

namespace Session

variable {session : Session} {s : SessionState} {line : String} {command : Command}
  {builtin : Builtin} {resolved : Resolved} {w : World}

/-- **A builtin loses no output silently.**  Let a line over streams in memory name a builtin, and
let its redirects be accepted.  If an offer that the builtin makes is refused, the line comes to
exit code 1 or to a failure.  And unless its outputs write over each other, a log that keeps
warnings either has a new one afterwards, or all that its streams to files have accepted was sent
there, behind what was there before, and nothing was accepted for a file that takes no bytes. -/
theorem builtin_loses_nothing_silently
    (memory : ∀ channel, s.world.InMemory (session.io.stream channel))
    (read : Command.ofLine line = .ok command)
    (found : session.registry.find? command.name.text = some builtin)
    (applied : (Redirection.apply command.redirects session.io).on
      (s.world.toldBuiltin line command) = (.ok resolved, w)) :
    let io := resolved.binding
    let arguments := command.arguments.map Word.text
    let noted := (Noted.run session.registry io builtin arguments).on { s with world := w } []
    let evaluated := (session.evaluate line).on s
    (noted.1, noted.2.1) = (builtin.run session.registry io arguments).on { s with world := w }
      ∧ ((∃ offer ∈ noted.2.2, Noted.Failed offer.result) → Noted.Unsuccessful evaluated.1)
      ∧ (s.world.log.keeps .warn → io.Uncrossed w →
        (∃ cause more, evaluated.2.world.log.warnings = s.world.log.warnings
          ++ ("failed to flush output of " ++ command.name.text ++ ": "
            ++ SystemError.message cause) :: more)
        ∨ ∃ sent, w.Received sent evaluated.2.world
          ∧ (∀ id bytes, (id, bytes) ∈ sent → ∃ channel, io.stream channel = id)
          ∧ ∀ channel location, w.location? (io.stream channel) = some location →
            sentBy (· = io.stream channel) sent = Offer.taken (io.stream channel) noted.2.2
              ∧ (w.IsBlocked (io.stream channel) →
                Offer.taken (io.stream channel) noted.2.2 = [])) := by
  intro io arguments noted evaluated
  obtain ⟨offers, ran, offered, refused⟩ :=
    Noted.notes_run io session.registry builtin arguments { s with world := w } []
  rw [List.nil_append] at ran
  have came : evaluated = _ := evaluate_builtin_on read found applied
  have memory' : ∀ channel, (s.world.toldBuiltin line command).InMemory
      (session.io.stream channel) := by
    intro channel
    rw [World.InMemory, World.writers_toldBuiltin]
    exact memory channel
  have log : ((builtin.run session.registry io arguments).on { s with world := w }).2.world.log
      = (s.world.toldBuiltin line command).log := by
    refine offered.log.trans ?_
    have opened := Effect.Unlogged.apply command.redirects session.io
      (s.world.toldBuiltin line command)
    rwa [applied] at opened
  refine ⟨by rw [show noted = _ from ran], ?_, fun keeps uncrossed => ?_⟩
  · rw [show noted = _ from ran, came]
    intro some
    rcases refused some with outcome | ⟨e, failed⟩
    · exact .inl (by rw [outcome]; rfl)
    · exact .inr ⟨.stream e, by rw [failed]; rfl⟩
  · rw [show noted = _ from ran, came]
    -- From the redirects to the end of the builtin all that was accepted was sent or is waiting;
    -- the flush then either warns or leaves nothing waiting.
    have start : Sending io w (fun _ => []) [] w :=
      Redirection.sending_of_apply memory' applied
    obtain ⟨sent, sending⟩ := start.offered uncrossed offered
    have sends : io.Sends w (Offer.taken · offers) _ :=
      ⟨sent, by simpa only [List.nil_append] using sending⟩
    have same : (s.world.toldBuiltin line command).log.filter = s.world.log.filter :=
      (World.Kept.toldBuiltin s.world line command).filter
    have keeps' : (s.world.toldBuiltin line command).log.keeps .warn := by
      rwa [Log.keeps, same, ← Log.keeps]
    rcases sends.conclude uncrossed (by rwa [log]) command.name.text with
      ⟨cause, more, warned⟩ | ⟨⟨sent, sending⟩, idle⟩
    · rw [log, World.warnings_toldBuiltin] at warned
      exact .inl ⟨cause, more, warned⟩
    · refine .inr ⟨sent, sending.received, sending.own, fun channel location at' => ?_⟩
      have all := sending.sentBy_of_idle (idle channel) at'
      exact ⟨all, fun blocked => all ▸ sending.blocked channel blocked⟩

/-- A word to a full device: it is accepted, and missed when the builtin is done. -/
theorem builtin_loses_nothing_silently_full :
    let nodes : List (Location × Node) :=
      [(["d"], .directory), (["dev"], .directory), (["full", "dev"], .device .full)]
    let start := Binding.overMemory [] { machine.tree.entries := nodes, cwd := ["d"] }
    let session : Session := { io := start.1, launcher := .scripted [] }
    let s : SessionState := { world := start.2 }
    let command : Command := ⟨⟨"echo", by decide⟩, [⟨"a", by decide⟩],
      [⟨.output, ⟨"../dev/full", by decide⟩⟩]⟩
    let io : Binding := { input := 0, output := 2, error := 1, owned := { output := true } }
    let w : World := { start.2 with writers := start.2.writers
      ++ [.buffered { location := ["full", "dev"], mode := .truncate } []] }
    let noted := (Noted.run session.registry io .echo ["a"]).on { s with world := w } []
    Command.ofLine "echo a > ../dev/full" = .ok command
      ∧ (Redirection.apply command.redirects session.io).on
        (s.world.toldBuiltin "echo a > ../dev/full" command) = (.ok (.derived io), w)
      ∧ io.Uncrossed w ∧ w.IsBlocked io.output
      ∧ Offer.taken io.output noted.2.2 = Bytes.ofText "a\n"
      ∧ ((session.evaluate "echo a > ../dev/full").on s).2.world.log.warnings ≠ [] := by
  intro nodes start session s command io w noted
  have read : Command.ofLine "echo a > ../dev/full" = .ok command :=
    Except.eq_ok_of_toOption (by decide +kernel)
  have memory : ∀ channel, s.world.InMemory (session.io.stream channel) := by
    rintro (_ | _) <;> exact ⟨_, rfl⟩
  have opening : Opening.of s.world.machine.tree s.world.cwd command.redirects
      = { opened := command.redirects.zip [{ location := ["full", "dev"], mode := .truncate }],
          refusal := none, tree := w.machine.tree } := by decide
  have applied : (Redirection.apply command.redirects session.io).on
      (s.world.toldBuiltin "echo a > ../dev/full" command) = (.ok (.derived io), w) := by
    rw [World.toldBuiltin_of_quiet rfl, Redirection.apply_on, opening]
    rfl
  have uncrossed : io.Uncrossed w := by
    rintro (_ | _) (_ | _) location mode mode' apart at' at'' -
    case output.output | error.error => exact absurd rfl apart
    case output.error => cases at''
    case error.output => cases at'
  have blocked : w.IsBlocked io.output := ⟨.noSpace, by decide⟩
  have taken : Offer.taken io.output noted.2.2 = Bytes.ofText "a\n" := by decide +kernel
  refine ⟨read, applied, uncrossed, blocked, taken, ?_⟩
  obtain ⟨-, -, told⟩ := builtin_loses_nothing_silently memory read rfl applied
  rcases told rfl uncrossed with ⟨cause, more, warned⟩ | ⟨sent, -, -, all⟩
  · rw [warned]
    simp
  · cases taken.symm.trans ((all .output _ rfl).2 blocked)

/-- Two ways in which nobody hears of what is missed: output and errors to one file that was opened
for each by itself, where the first words are written over; and a log that keeps errors only. -/
theorem builtin_loses_output_silently :
    let nodes : List (Location × Node) :=
      [(["d"], .directory), (["dev"], .directory), (["full", "dev"], .device .full)]
    let start := Binding.overMemory [] { machine.tree.entries := nodes, cwd := ["d"] }
    let session : Session := { io := start.1, launcher := .scripted [] }
    let s : SessionState := { world := start.2 }
    let line := "type cd nosuch > f 2> f"
    let command : Command := ⟨⟨"type", by decide⟩, [⟨"cd", by decide⟩, ⟨"nosuch", by decide⟩],
      [⟨.output, ⟨"f", by decide⟩⟩, ⟨.error, ⟨"f", by decide⟩⟩]⟩
    let io : Binding :=
      { input := 0, output := 2, error := 3, owned := { output := true, error := true } }
    let w : World := { start.2 with
      machine.tree.entries := nodes ++ [(["f", "d"], .file 0o644 [])]
      writers := start.2.writers ++ [.buffered { location := ["f", "d"], mode := .truncate } [],
        .buffered { location := ["f", "d"], mode := .truncate } []] }
    let noted := (Noted.run session.registry io .type ["cd", "nosuch"]).on { s with world := w } []
    let s' : SessionState := { world := { start.2 with log.filter := some .error } }
    let line' := "echo a > ../dev/full"
    let command' : Command := ⟨⟨"echo", by decide⟩, [⟨"a", by decide⟩],
      [⟨.output, ⟨"../dev/full", by decide⟩⟩]⟩
    let io' : Binding := { input := 0, output := 2, error := 1, owned := { output := true } }
    let w' : World := { s'.world with writers := start.2.writers
      ++ [.buffered { location := ["full", "dev"], mode := .truncate } []] }
    let noted' := (Noted.run session.registry io' .echo ["a"]).on { s' with world := w' } []
    Command.ofLine line = .ok command
      ∧ (Redirection.apply command.redirects session.io).on
        (s.world.toldBuiltin line command) = (.ok (.derived io), w)
      ∧ Offer.taken io.output noted.2.2 = Bytes.ofText "cd is a shell builtin\n"
      ∧ Offer.taken io.error noted.2.2 = Bytes.ofText "nosuch: not found\n"
      ∧ s.world.log.keeps .warn ∧ ((session.evaluate line).on s).2.world.log.records = []
      ∧ ((session.evaluate line).on s).2.world.machine.tree.get? ["f", "d"]
        = some (.file 0o644 (Bytes.ofText "nosuch: not found\ntin\n"))
      ∧ Command.ofLine line' = .ok command'
      ∧ (Redirection.apply command'.redirects session.io).on
        (s'.world.toldBuiltin line' command') = (.ok (.derived io'), w')
      ∧ Offer.taken io'.output noted'.2.2 = Bytes.ofText "a\n"
      ∧ ((session.evaluate line').on s').2.world.log.records = []
      ∧ ((session.evaluate line').on s').2.world.machine.tree.get? ["full", "dev"]
        = some (.device .full) := by
  intro nodes start session s line command io w noted s' line' command' io' w' noted'
  have opening : Opening.of s.world.machine.tree s.world.cwd command.redirects
      = { opened := command.redirects.zip [{ location := ["f", "d"], mode := .truncate },
            { location := ["f", "d"], mode := .truncate }]
          refusal := none, tree := w.machine.tree } := by decide
  have applied : (Redirection.apply command.redirects session.io).on
      (s.world.toldBuiltin line command) = (.ok (.derived io), w) := by
    rw [World.toldBuiltin_of_quiet rfl, Redirection.apply_on, opening]
    rfl
  have opening' : Opening.of s'.world.machine.tree s'.world.cwd command'.redirects
      = { opened := command'.redirects.zip [{ location := ["full", "dev"], mode := .truncate }]
          refusal := none, tree := w'.machine.tree } := by decide
  have applied' : (Redirection.apply command'.redirects session.io).on
      (s'.world.toldBuiltin line' command') = (.ok (.derived io'), w') := by
    rw [World.toldBuiltin_of_quiet rfl, Redirection.apply_on, opening']
    rfl
  exact ⟨Except.eq_ok_of_toOption (by decide +kernel), applied, by decide +kernel,
    by decide +kernel, rfl, by decide +kernel, by decide +kernel,
    Except.eq_ok_of_toOption (by decide +kernel), applied', by decide +kernel,
    by decide +kernel, by decide +kernel⟩

end Session

end Shell
