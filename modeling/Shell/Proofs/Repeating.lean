import Shell.Proofs.Arguments
import Shell.Proofs.Printing
import Shell.Proofs.Dispatching

/-!
# Builtins — `echo` repeats its words

`echo` takes its arguments as they stand and writes them to the output with a space between
neighbours and a newline behind them (`Builtin.run_echo_eq`).  Only the first argument is looked at:
it may be an option, and `help` asks for the page.

* `Builtin.read_echoUsage`: what is taken of arguments that do not start with a dash.
* `Builtin.echo_repeats`: what `echo` leaves in its output, whether this is over memory, goes to the
  console or to a file.
-/

namespace Shell

theorem World.writers_print_of_ne {id other : WriterId} (ne : other ≠ id) (pieces : List String)
    (w : World) : ((print id pieces).on w).2.writers[other]? = w.writers[other]? := by
  induction pieces generalizing w with
  | nil => rfl
  | cons piece rest ih =>
      rw [print_cons]
      exact Effect.after_bind (writers_useWriter_of_ne ne _ w) fun _ w' same =>
        (ih w').trans same

namespace Builtin

variable {registry : Registry} {io : Binding} {words : List String}

/-- The words that `echo` stores are kept in their order. -/
theorem foldl_echo (words : List String) (arguments : EchoArguments) :
    words.foldl (fun arguments word => { arguments with words := arguments.words ++ [word] })
        arguments
      = { arguments with words := arguments.words ++ words } := by
  induction words generalizing arguments with
  | nil => simp
  | cons word rest ih =>
      rw [List.foldl_cons, ih]
      simp

theorem read_echoUsage_of_plain
    (plain : ∀ first, words.head? = some first → Usage.isDashed first = false ∧ first ≠ "help") :
    echoUsage.read {} words = .ok { words } := by
  rw [Usage.read_of_greedy rfl rfl (fun _ _ => rfl) plain, foldl_echo]
  simp

/-- **What `echo` takes** of arguments without dashes: all of them, unless the first is `help`. -/
theorem read_echoUsage (undashed : ∀ word ∈ words, Usage.isDashed word = false) :
    echoUsage.read {} words
      = if words.head? = some "help" then .error .help else .ok { words } := by
  split
  · rename_i help
    obtain ⟨rest, rfl⟩ := List.head?_eq_some_iff.mp help
    exact Usage.read_of_help rfl rfl (fun _ _ => rfl)
      (fun text mem => undashed text (List.mem_cons_of_mem _ mem)) _
  · rename_i other
    refine read_echoUsage_of_plain fun first head => ⟨?_, ?_⟩
    · exact undashed first (List.mem_of_mem_head? head)
    · rintro rfl
      exact other head

/-- **Running `echo`** prints the words, and reports if the output refuses them. -/
theorem run_echo_eq (accepted : echoUsage.read {} words = .ok { words }) (registry : Registry)
    (io : Binding) (s : SessionState) :
    (Builtin.echo.run registry io words).on s
      = match (World.print io.output [" ".intercalate words, "\n"]).on s.world with
        | (.ok (), w) => (.ok { exitCode := 0, terminate := false }, { s with world := w })
        | (.error cause, w) => (reportError io (.stream cause)).on { s with world := w } := by
  have wrote : (writeWords io { words }).on s
      = match (World.print io.output [" ".intercalate words, "\n"]).on s.world with
        | (.ok (), w) => (.ok { exitCode := 0 }, { s with world := w })
        | (.error cause, w) => (.error (.stream cause), { s with world := w }) := by
    rw [writeWords]
    dsimp only
    rw [if_pos rfl, Act.on_bind, print, Act.on_adapt, Act.on_ofEffect]
    rcases (World.print io.output [" ".intercalate words, "\n"]).on s.world with ⟨_ | _, w⟩
    · rfl
    · rfl
  -- The world at hand is the one that the refused pieces have left.
  rw [Builtin.run, runWith_eq accepted, wrote]
  rcases (World.print io.output [" ".intercalate words, "\n"]).on s.world with ⟨_ | _, w⟩
  · rfl
  · rfl

theorem run_echo_of_printed (accepted : echoUsage.read {} words = .ok { words })
    {s : SessionState} {w : World}
    (printed : (World.print io.output [" ".intercalate words, "\n"]).on s.world = (.ok (), w)) :
    (Builtin.echo.run registry io words).on s
      = (.ok { exitCode := 0, terminate := false }, { s with world := w }) := by
  rw [run_echo_eq accepted, printed]

theorem run_echo_of_help (asked : echoUsage.read {} words = .error .help) (registry : Registry)
    (io : Binding) (s : SessionState) :
    (Builtin.echo.run registry io words).on s
      = (Act.ofEffect (World.print io.output [echoUsage.page]) >>= fun _ =>
          (pure { exitCode := 0 } : Act SystemError Outcome)).on s := by
  rw [Builtin.run, runWith, asked]
  rfl

/-- **`echo` repeats its words** if none starts with a dash and the first is not `help`.  It writes
them to its output, a space between neighbours and a newline behind them, writes to no other
stream, and gives zero.  So over memory and on the console there is this text more, and a stream to
a file has been given its bytes.  An output that refuses them is reported.  If the first word is
`help`, it is the page that is written. -/
theorem echo_repeats {builtin : Builtin} (found : registry.find? "echo" = some builtin)
    (undashed : ∀ word ∈ words, Usage.isDashed word = false) (io : Binding) (s : SessionState) :
    let ran := (builtin.run registry io words).on s
    let outcome : Outcome := { exitCode := 0, terminate := false }
    let pieces := [" ".intercalate words, "\n"]
    (words.head? ≠ some "help" →
      (∀ w, (World.print io.output pieces).on s.world = (.ok (), w) →
          ran = (.ok outcome, { s with world := w })
            ∧ ∀ other ≠ io.output, w.writers[other]? = s.world.writers[other]?)
        ∧ (∀ cause w, (World.print io.output pieces).on s.world = (.error cause, w) →
          ran = (reportError io (.stream cause)).on { s with world := w })
        ∧ (s.world.Unbuffered io.output → ran = (.ok outcome,
          { s with world := s.world.say io.output (" ".intercalate words ++ "\n") }))
        ∧ (s.world.Ready io.output → ∃ w, ran = (.ok outcome, { s with world := w })
          ∧ World.Passed s.world io.output
            (Bytes.ofText (" ".intercalate words ++ "\n")) w))
      ∧ (words.head? = some "help" → ran
        = (Act.ofEffect (World.print io.output [echoUsage.page]) >>= fun _ =>
            (pure outcome : Act SystemError Outcome)).on s) := by
  obtain rfl : builtin = .echo := name_injective (Registry.find?_eq_some_iff.mp found).2
  intro ran outcome pieces
  have read := read_echoUsage undashed
  have text : String.join pieces = " ".intercalate words ++ "\n" := by simp [pieces]
  refine ⟨fun other => ?_, fun help => ?_⟩
  · rw [if_neg other] at read
    refine ⟨fun w printed => ⟨run_echo_of_printed read printed, fun id ne => ?_⟩,
      fun cause w refused => ?_, fun unbuffered => ?_, fun ready => ?_⟩
    · have kept := World.writers_print_of_ne ne pieces s.world
      rwa [printed] at kept
    · exact (run_echo_eq read registry io s).trans (by rw [refused])
    · rw [← text]
      exact run_echo_of_printed read (World.print_on_of_unbuffered unbuffered ⟨[_], "", rfl⟩)
    · obtain ⟨w, printed, passed, -⟩ := World.print_passed ready pieces
      exact ⟨w, run_echo_of_printed read printed, text ▸ passed⟩
  · rw [if_pos help] at read
    exact run_echo_of_help read registry io s

/-- Words among which `help` and an empty one stand, and none at all. -/
theorem echo_repeats_help_inside :
    let start := Binding.overMemory [] {}
    let s : SessionState := { world := start.2 }
    let registry : Registry := {}
    registry.find? "echo" = some .echo
      ∧ (∀ word ∈ ["a", "help", "", "b c"], Usage.isDashed word = false)
      ∧ (Builtin.echo.run registry start.1 ["a", "help", "", "b c"]).on s
        = (.ok { exitCode := 0, terminate := false }, { s with
          world.writers := [.memory (Bytes.ofText "a help  b c\n"), .memory []] })
      ∧ (Builtin.echo.run registry start.1 []).on s
        = (.ok { exitCode := 0, terminate := false }, { s with
          world.writers := [.memory (Bytes.ofText "\n"), .memory []] }) := by
  intro start s registry
  have found : registry.find? "echo" = some .echo := rfl
  have undashed : ∀ word ∈ ["a", "help", "", "b c"], Usage.isDashed word = false := by decide
  have unbuffered : s.world.Unbuffered start.1.output := .inl ⟨[], rfl⟩
  have some := ((echo_repeats found undashed start.1 s).1 (by decide)).2.2.1 unbuffered
  have nothing : ∀ word ∈ [], Usage.isDashed word = false := by decide
  have none := ((echo_repeats found nothing start.1 s).1 (by decide)).2.2.1 unbuffered
  refine ⟨found, undashed, some.trans ?_, none.trans ?_⟩
  · rfl
  · rfl

/-- The word `help` is not repeated. -/
theorem echo_help_writes_page :
    let start := Binding.overMemory [] {}
    let s : SessionState := { world := start.2 }
    let ran := (Builtin.echo.run {} start.1 ["help"]).on s
    Usage.isDashed "help" = false ∧ ran.1 = .ok { exitCode := 0, terminate := false }
      ∧ ran.2.world.writers = [.memory (Bytes.ofText echoUsage.page), .memory []]
      ∧ echoUsage.page ≠ "help\n" := by
  intro start s ran
  have asked : echoUsage.read {} ["help"] = .error .help := read_echoUsage (by decide)
  have collects : s.world.writers[start.1.output]? = some (.memory []) := rfl
  have printed := World.print_on_of_memory collects [echoUsage.page]
  have shown : ran = (.ok { exitCode := 0 },
      { s with world := s.world.tell start.1.output (String.join [echoUsage.page]) }) := by
    have ran_eq := run_echo_of_help asked {} start.1 s
    rw [Act.on_bind, Act.on_ofEffect, printed] at ran_eq
    exact ran_eq
  have different : echoUsage.page ≠ "help\n" := by decide +kernel
  rw [shown]
  refine ⟨by decide, rfl, ?_, different⟩
  rw [show String.join [echoUsage.page] = echoUsage.page by simp]
  rfl

end Builtin

end Shell
