import Shell.Proofs.Interacting

/-!
# Interactive sessions — lines that go on

Whether a line goes on is told from its last character alone, and whether a backslash escapes is
told by the scanner from everything before it.  A line that leaves the scanner with an escape
pending does end in a backslash (`InputLine.getLast?_of_escapePending`), so no line is cut
off inside an escape.  The other way round it is not so: an escaped backslash at the end leaves
nothing pending, and the line goes on all the same (`interact_joins_escaped_backslash`).

Lines that end in no backslash are never joined, and the session answers each by itself
(`interact_answers_physical_lines`).
-/

namespace Shell

namespace Scan

variable {s : Scan} {c : Char}

theorem eq_of_escapePending_plain (h : (s.plain c).escapePending) : c = '\\' := by
  unfold plain at h
  split at h <;> first | rfl | simp [escapePending, enter] at h

/-- Only a backslash makes the scanner wait for the character behind it. -/
theorem eq_of_escapePending_step (h : (s.step c).escapePending) : c = '\\' := by
  unfold step at h
  cases mode : s.mode with
  | plain =>
      rw [mode] at h
      exact eq_of_escapePending_plain h
  | escaped | doubleEscaped =>
      rw [mode] at h
      simp [escapePending, enter] at h
  | singleQuoted =>
      rw [mode] at h
      dsimp only at h
      split at h <;> simp [escapePending, enter, push, mode] at h
  | doubleQuoted =>
      rw [mode] at h
      dsimp only at h
      split at h
      · simp [escapePending, enter] at h
      · split at h
        · assumption
        · simp [escapePending, push, mode] at h
  | operator =>
      rw [mode] at h
      dsimp only at h
      split at h
      · simp [escapePending, push, mode] at h
      · exact eq_of_escapePending_plain h

end Scan

namespace InputLine

theorem continued?_eq_none_iff {line : String} :
    continued? line = none ↔ line.toList.getLast? ≠ some '\\' := by
  unfold continued?
  rw [List.getLast?_eq_head?_reverse]
  cases line.toList.reverse with
  | nil => simp
  | cons c rest => by_cases h : c = '\\' <;> simp [h]

/-- **A line that leaves an escape pending** ends in a backslash. -/
theorem getLast?_of_escapePending {line : String}
    (h : (Scan.run {} line.toList).escapePending) : line.toList.getLast? = some '\\' := by
  rcases List.eq_nil_or_concat line.toList with none | ⟨start, c, e⟩
  · rw [none] at h
    cases h
  · rw [e, List.concat_eq_append, Scan.run_append] at h
    rw [e, List.concat_eq_append, List.getLast?_concat, Scan.eq_of_escapePending_step h]

/-- Lines that do not go on are logical lines as they are. -/
theorem join_of_whole {lines : List String} (whole : ∀ line ∈ lines, continued? line = none) :
    join lines = some lines := by
  cases lines with
  | nil => rfl
  | cons line rest =>
      rw [join]
      induction rest generalizing line with
      | nil => rw [joinFrom, whole line List.mem_cons_self]
      | cons next rest ih =>
          have behind := ih next fun line mem => whole line (List.mem_cons_of_mem _ mem)
          rw [joinFrom, whole line List.mem_cons_self, behind]
          rfl

end InputLine

/-- **Lines that end in no backslash** are answered one by one; where a program takes from the
input, the session goes on with what is left.  Every line that leaves an escape pending ends in a
backslash. -/
theorem interact_answers_physical_lines {session : Session} {s : SessionState} {text : String}
    (source : s.world.typed.source = .console)
    (bytes : s.world.typed.ahead ++ s.world.machine.console.input = Bytes.ofText text)
    (plain : InputLine.backspace ∉ text.toList) (prompts : Session.TakesPrompts s.world)
    (promptText : String) :
    (∀ line : String, (Scan.run {} line.toList).escapePending → line.toList.getLast? = some '\\')
      ∧ s.Aside (Session.ready s)
      ∧ ((∀ line ∈ InputLine.physical text, line.toList.getLast? ≠ some '\\') →
        Answered session promptText session.answer session.finish 0 (Session.ready s)
          (InputLine.physical text) ((session.interact promptText).on s)) := by
  refine ⟨fun _ => InputLine.getLast?_of_escapePending, Session.aside_ready s, fun whole => ?_⟩
  have joined := InputLine.join_of_whole fun line mem =>
    InputLine.continued?_eq_none_iff.mpr (whole line mem)
  exact Session.answered_interact (.of_text source bytes plain prompts) joined promptText

/-- Backslashes inside lines, one of them in a quote that is never closed. -/
theorem interact_answers_physical_lines_inside :
    let text := "echo a\\ b\necho 'c\\d\nexit 3\n"
    let start := Binding.overMemory [] { machine.console.input := Bytes.ofText text }
    let session : Session := { io := start.1, launcher := .scripted [] }
    let s : SessionState := { world := start.2 }
    let after := (session.interact "$ ").on s
    InputLine.physical text = ["echo a\\ b", "echo 'c\\d", "exit 3"]
      ∧ Answered session "$ " session.answer session.finish 0 (Session.ready s)
        (InputLine.physical text) after
      ∧ after.1 = .ok 3
      ∧ after.2.world.writers = [.memory (Bytes.ofText "a b\nc\\d\n"), .memory []] := by
  intro text start session s after
  have lines : InputLine.physical text = ["echo a\\ b", "echo 'c\\d", "exit 3"] := by decide +kernel
  have whole : ∀ line ∈ InputLine.physical text, line.toList.getLast? ≠ some '\\' := by
    rw [lines]
    decide
  have plain : InputLine.backspace ∉ text.toList := by decide
  have prompts : Session.TakesPrompts s.world := nofun
  refine ⟨lines, (interact_answers_physical_lines rfl rfl plain prompts "$ ").2.2 whole,
    Except.eq_ok_of_toOption ?_, ?_⟩ <;> decide +kernel

/-- Two lines with nothing pending behind either of them.  Evaluated one by one they write `a\` and
`b`; the session joins them. -/
theorem interact_joins_escaped_backslash :
    let text := "echo a\\\\\necho b\n"
    let start := Binding.overMemory [] { machine.console.input := Bytes.ofText text }
    let session : Session := { io := start.1, launcher := .scripted [] }
    let s : SessionState := { world := start.2 }
    let direct := (session.evaluate "echo a\\\\" >>= fun _ => session.evaluate "echo b").on s
    InputLine.physical text = ["echo a\\\\", "echo b"]
      ∧ (∀ line ∈ InputLine.physical text, (Scan.run {} line.toList).escapePending = false)
      ∧ direct.2.world.writers = [.memory (Bytes.ofText "a\\\nb\n"), .memory []]
      ∧ ((session.interact "$ ").on s).2.world.writers
        = [.memory (Bytes.ofText "aecho b\n"), .memory []] := by
  decide +kernel

end Shell
