import Shell.Proofs.Drawing
import Shell.Proofs.Preserving
import Shell.Proofs.Requests

/-!
# Interactive sessions — reading a command

A session takes its input in blocks of bytes, and what it has taken and not used yet stands in front
of what is still on the console; none of this is to be seen from outside.  What is unread is a row
of physical lines (`SessionState.Unread`), and reading a command takes as many of them as make up
one logical line (`Session.exists_readCommand_on`).  Nothing else happens but what is shown and kept
of it (`SessionState.Aside`).
-/

namespace Shell

/-- Only the empty text has no bytes. -/
theorem Bytes.eq_empty_of_ofText {text : String} (h : ofText text = []) : text = "" := by
  have read := text?_ofText text
  rw [h] at read
  exact Option.some.inj (read.symm.trans (text?_ofText ""))

/-! ### Taking lines from the console -/

namespace Reader

theorem readLineWithin_of_block {machine : Machine} {blocks : Nat}
    (some : machine.console.input ≠ []) :
    readLineWithin { source := .console } machine (blocks + 1)
      = readLineWithin { source := .console, ahead := machine.console.input.take bufferSize }
        { machine with console.input := machine.console.input.drop bufferSize } (blocks + 1) := by
  have block : machine.console.input.take bufferSize ≠ [] := by simpa [bufferSize] using some
  exact (readLineWithin_of_take rfl).trans (if_neg block)

theorem exists_readTextLine_console {typed : Reader} (machine : Machine)
    (source : typed.source = .console) {line : String} {left : Bytes}
    (cut : Bytes.splitLine (typed.ahead ++ machine.console.input) = (Bytes.ofText line, left)) :
    ∃ ahead input, typed.readTextLine machine
        = (.ok line, { source := .console, ahead }, { machine with console.input := input })
      ∧ ahead ++ input = left ∧ input <:+ machine.console.input := by
  obtain ⟨_, ahead⟩ := typed
  obtain rfl := source
  obtain ⟨ahead', input, _, _, read, moved, rest, behind⟩ :=
    @exists_readLine .console _ machine rfl ahead
  cases moved
  rw [cut] at read rest
  refine ⟨ahead', input, ?_, rest, behind⟩
  simp only [readTextLine, read, Bytes.text?_ofText]

end Reader

/-! ### Reading a command -/

/-- Whether prompts can be shown, where the terminal needs them. -/
def Session.TakesPrompts (w : World) : Prop :=
  hasPlainTerminal w → w.machine.console.refusal? .output = none

/-- They can as long as the terminal is the same and the console takes what it took. -/
theorem Session.TakesPrompts.congr {w w' : World} (h : TakesPrompts w) (vars : w'.vars = w.vars)
    (refusal : w'.machine.console.refusal? = w.machine.console.refusal?) : TakesPrompts w' := by
  intro plain
  rw [refusal]
  refine h ?_
  rw [← plain, hasPlainTerminal, hasPlainTerminal, World.startValue?, World.startValue?, vars]

/-- A state in which no more was done than to write prompts, to keep records and to read. -/
structure SessionState.Aside (s t : SessionState) : Prop where
  environment : t.environment = s.environment
  requests : t.requests = s.requests
  tree : t.world.machine.tree = s.world.machine.tree
  cwd : t.world.cwd = s.world.cwd
  vars : t.world.vars = s.world.vars
  writers : t.world.writers = s.world.writers
  readers : t.world.readers = s.world.readers
  /-- Input is taken from its front. -/
  input : t.world.machine.console.input <:+ s.world.machine.console.input
  /-- What was shown stays shown. -/
  output : s.world.machine.console.output <+: t.world.machine.console.output
  error : s.world.machine.console.error <+: t.world.machine.console.error
  refusal : t.world.machine.console.refusal? = s.world.machine.console.refusal?

/-- The physical lines that a session has not used yet, and can read.  They hold no backspaces. -/
structure SessionState.Unread (s : SessionState) (lines : List String) : Prop where
  source : s.world.typed.source = .console
  prompts : Session.TakesPrompts s.world
  text : ∃ text : List Char, InputLine.backspace ∉ text
    ∧ InputLine.physical (String.ofList text) = lines
    ∧ s.world.typed.ahead ++ s.world.machine.console.input = Bytes.ofText (String.ofList text)

namespace SessionState

theorem Aside.refl (s : SessionState) : s.Aside s :=
  ⟨rfl, rfl, rfl, rfl, rfl, rfl, rfl, List.suffix_refl _, List.prefix_refl _, List.prefix_refl _,
    rfl⟩

theorem Aside.trans {s t u : SessionState} (h : s.Aside t) (h' : t.Aside u) : s.Aside u :=
  ⟨h'.environment.trans h.environment, h'.requests.trans h.requests, h'.tree.trans h.tree,
    h'.cwd.trans h.cwd, h'.vars.trans h.vars, h'.writers.trans h.writers,
    h'.readers.trans h.readers, h'.input.trans h.input, h.output.trans h'.output,
    h.error.trans h'.error, h'.refusal.trans h.refusal⟩

variable {s t : SessionState} {lines : List String}

theorem Unread.congr (h : s.Unread lines) (typed : t.world.typed = s.world.typed)
    (input : t.world.machine.console.input = s.world.machine.console.input)
    (prompts : Session.TakesPrompts t.world) : t.Unread lines :=
  ⟨by rw [typed, h.source], prompts, by rw [typed, input]; exact h.text⟩

theorem Unread.of_text {text : String} (source : s.world.typed.source = .console)
    (bytes : s.world.typed.ahead ++ s.world.machine.console.input = Bytes.ofText text)
    (plain : InputLine.backspace ∉ text.toList) (prompts : Session.TakesPrompts s.world) :
    s.Unread (InputLine.physical text) :=
  ⟨source, prompts, text.toList, plain, by rw [String.ofList_toList],
    by rw [String.ofList_toList, bytes]⟩

/-- There are no more lines than bytes. -/
theorem Unread.length_le (h : s.Unread lines) : lines.length ≤ Session.remaining s.world := by
  obtain ⟨text, -, rfl, bytes⟩ := h.text
  have total := congrArg List.length bytes
  have cut := InputLine.length_pieces_le text
  have written := InputLine.length_le_length_ofText text
  rw [List.length_append] at total
  simp only [InputLine.physical, String.toList_ofList, List.length_map, Session.remaining]
  omega

end SessionState

namespace Session

variable {s : SessionState} {lines rest : List String} {line : String}

/-- A prompt is heard, where the terminal needs one. -/
theorem exists_prompt (text : String) {w : World} (takes : TakesPrompts w) :
    ∃ shown log, (prompt text).on w = (.ok (), w.heard shown log)
      ∧ w.machine.console.toOutputs.Extended shown := by
  simp only [prompt, Effect.on]
  split
  · rename_i plain
    obtain ⟨shown, log, e, extended⟩ := w.exists_record .debug readingTopic "unsupported terminal"
    rw [e]
    have free : (w.heard shown log).machine.console.refusal? .output = none := takes plain
    simp only [Console.pass_of_free free]
    exact ⟨_, log, rfl, extended.trans (.write (w.heard shown log).machine.console .output _)⟩
  · obtain ⟨shown, log, e, extended⟩ := w.exists_record .debug readingTopic "stdin is not a tty"
    exact ⟨shown, log, by rw [e], extended⟩

/-- A prompt that the terminal needs is refused where its output takes nothing. -/
theorem prompt_on_of_refused {text : String} {w : World} {cause : SystemError} (shown : text ≠ "")
    (plain : hasPlainTerminal w) (refused : w.machine.console.refusal? .output = some cause) :
    ((prompt text).on w).1 = .error cause := by
  obtain ⟨outputs, log, noted, -⟩ := w.exists_record .debug readingTopic "unsupported terminal"
  have stuck : (w.heard outputs log).machine.console.pass .output (Bytes.ofText text)
      = .error cause :=
    Console.pass_eq_error_iff.mpr ⟨fun none => shown (Bytes.eq_empty_of_ofText none), refused⟩
  simp only [prompt, Effect.on, plain, if_true, noted, stuck]

/-- What is read is cut from the bytes at hand, and the rest of them is left.  Nothing else happens
but the prompt. -/
theorem exists_readLine_exactly (source : s.world.typed.source = .console)
    (takes : TakesPrompts s.world) {left : Bytes}
    (cut : Bytes.splitLine (s.world.typed.ahead ++ s.world.machine.console.input)
      = (Bytes.ofText line, left)) (promptText : String) :
    ∃ ahead input, (readLine promptText).on s
        = (.ok (if line = "" then none else some (InputLine.cleaned line)),
          { s with world := { ((prompt promptText).on s.world).2 with
              typed := { source := .console, ahead }
              machine.console.input := input } })
      ∧ ahead ++ input = left ∧ input <:+ s.world.machine.console.input := by
  obtain ⟨shown, log, prompted, -⟩ := exists_prompt promptText takes
  obtain ⟨ahead, input, read, rest, behind⟩ := Reader.exists_readTextLine_console
    (s.world.machine.showing shown) source cut
  refine ⟨ahead, input, ?_, rest, behind⟩
  have first : (Act.ofEffect (prompt promptText)).on s
      = (.ok (), { s with world := s.world.heard shown log }) := by
    rw [Act.on_ofEffect, prompted]
  rw [readLine, Act.on_bind_ok first, prompted]
  simp only [takeLine, Act.on, World.heard, read]
  split <;> simp_all

theorem exists_readLine_of_cut (source : s.world.typed.source = .console)
    (takes : TakesPrompts s.world) {left : Bytes}
    (cut : Bytes.splitLine (s.world.typed.ahead ++ s.world.machine.console.input)
      = (Bytes.ofText line, left)) (promptText : String) :
    ∃ t, (readLine promptText).on s
        = (.ok (if line = "" then none else some (InputLine.cleaned line)), t)
      ∧ s.Aside t ∧ t.world.typed.source = .console
      ∧ t.world.typed.ahead ++ t.world.machine.console.input = left := by
  obtain ⟨ahead, input, read, rest, behind⟩ := exists_readLine_exactly source takes cut promptText
  obtain ⟨shown, log, prompted, extended⟩ := exists_prompt promptText takes
  rw [prompted] at read
  exact ⟨_, read, ⟨rfl, rfl, rfl, rfl, rfl, rfl, rfl, behind, extended.output, extended.error, rfl⟩,
    rfl, rest⟩

/-- **A physical line** is read, and the others are left. -/
theorem exists_readLine_on (unread : s.Unread (line :: rest)) (promptText : String) :
    ∃ t, (readLine promptText).on s = (.ok (some line), t) ∧ s.Aside t ∧ t.Unread rest := by
  obtain ⟨text, plain, lines, bytes⟩ := unread.text
  rw [InputLine.physical, String.toList_ofList] at lines
  obtain ⟨piece, more, pieces, ended, behind⟩ := List.map_eq_cons_iff.mp lines
  obtain ⟨left, rfl, some, pieces, cut⟩ := InputLine.exists_splitLine_of_pieces pieces
  rw [← bytes] at cut
  obtain ⟨t, read, aside, source, bytes⟩ :=
    exists_readLine_of_cut unread.source unread.prompts cut promptText
  have nonempty : String.ofList piece ≠ "" := by simpa using some
  rw [if_neg nonempty, InputLine.cleaned_of_plain (fun mem => plain (by simp [mem])), ended] at read
  refine ⟨t, read, aside, source, unread.prompts.congr aside.vars aside.refusal, left,
    fun mem => plain (by simp [mem]), ?_, bytes⟩
  rw [InputLine.physical, String.toList_ofList, pieces, behind]

/-- There is no line when the input has ended. -/
theorem exists_readLine_end (unread : s.Unread []) (promptText : String) :
    ∃ t, (readLine promptText).on s = (.ok none, t) ∧ s.Aside t := by
  obtain ⟨text, -, lines, bytes⟩ := unread.text
  rw [InputLine.physical, String.toList_ofList, List.map_eq_nil_iff] at lines
  obtain rfl := InputLine.pieces_eq_nil lines
  have cut : Bytes.splitLine (s.world.typed.ahead ++ s.world.machine.console.input)
      = (Bytes.ofText "", []) := by rw [bytes]; rfl
  obtain ⟨t, read, aside, -⟩ := exists_readLine_of_cut unread.source unread.prompts cut promptText
  exact ⟨t, read, aside⟩

/-- A line that ends in the first block is read together with the rest of the block. -/
theorem readCommand_of_block {promptText : String} {block rest left : Bytes}
    (fresh : s.world.typed = { source := .console })
    (silent : (prompt promptText).on s.world = (.ok (), s.world))
    (bytes : s.world.machine.console.input = block ++ rest) (full : block.length = bufferSize)
    (ends : Bytes.newline ∈ block) (cut : Bytes.splitLine block = (Bytes.ofText line, left))
    (nonempty : line ≠ "") (whole : InputLine.continued? (InputLine.cleaned line) = none) :
    (readCommand promptText).on s = (.ok (some (InputLine.cleaned line)),
      { s with
        world.typed := { source := .console, ahead := left }
        world.machine.console.input := rest }) := by
  have some : block ++ rest ≠ [] := List.append_ne_nil_of_left_ne_nil (List.ne_nil_of_mem ends) _
  have read : s.world.typed.readTextLine s.world.machine
      = (.ok line, { source := .console, ahead := left },
        { s.world.machine with console.input := rest }) := by
    rw [fresh, Reader.readTextLine, Reader.readLine, Reader.readLineWithin_of_block (bytes ▸ some),
      bytes, ← full, List.take_left, List.drop_left, Reader.readLineWithin_of_mem ends, cut]
    simp only [Bytes.text?_ofText]
  have first : (readLine promptText).on s = (.ok (.some (InputLine.cleaned line)),
      { s with
        world.typed := { source := .console, ahead := left }
        world.machine.console.input := rest }) := by
    have prompted : (Act.ofEffect (prompt promptText)).on s = (.ok (), s) := by
      rw [Act.on_ofEffect, silent]
    rw [readLine, Act.on_bind_ok prompted]
    simp [takeLine, Act.on, read]
  rw [readCommand, Act.on_bind_ok first, Act.on_bind_ok (Act.on_look ..), continueLine, whole]
  rfl

/-- **A line goes on** through as many physical lines as it is joined of. -/
theorem exists_continueLine_on {first : String} {more : List String} {fuel : Nat}
    (unread : s.Unread rest) (joined : InputLine.joinFrom line rest = some (first :: more))
    (enough : rest.length < fuel) :
    ∃ t left, (continueLine line fuel).on s = (.ok (some first), t) ∧ s.Aside t ∧ t.Unread left
      ∧ InputLine.join left = some more ∧ left.length ≤ rest.length := by
  obtain ⟨fuel, rfl⟩ : ∃ n, fuel = n + 1 := ⟨fuel - 1, by omega⟩
  induction rest generalizing line s fuel with
  | nil =>
      unfold InputLine.joinFrom at joined
      split at joined
      · rename_i whole
        cases joined
        exact ⟨s, [], by rw [continueLine, whole]; rfl, .refl s, unread, rfl, Nat.le_refl _⟩
      · cases joined
  | cons next rest ih =>
      unfold InputLine.joinFrom at joined
      split at joined
      · rename_i whole
        obtain ⟨_, behind, e⟩ := Option.map_eq_some_iff.mp joined
        cases e
        exact ⟨s, next :: rest, by rw [continueLine, whole]; rfl, .refl s, unread, behind,
          Nat.le_refl _⟩
      · rename_i start continued
        obtain ⟨t, read, aside, unread⟩ := exists_readLine_on unread continuationPrompt
        obtain ⟨fuel, rfl⟩ : ∃ n, fuel = n + 1 := ⟨fuel - 1, by simp at enough; omega⟩
        obtain ⟨u, left, went, aside', unread, behind, fewer⟩ :=
          ih unread joined fuel (by simpa using enough)
        refine ⟨u, left, ?_, aside.trans aside', unread, behind, Nat.le_succ_of_le fewer⟩
        rw [continueLine, continued]
        exact (Act.on_bind_ok read).trans went

/-- **A command** is a logical line, and takes as many physical ones as it is joined of. -/
theorem exists_readCommand_on {first : String} {more : List String} (unread : s.Unread lines)
    (joined : InputLine.join lines = some (first :: more)) (promptText : String) :
    ∃ t left, (readCommand promptText).on s = (.ok (some first), t) ∧ s.Aside t ∧ t.Unread left
      ∧ InputLine.join left = some more ∧ left.length < lines.length := by
  cases lines with
  | nil => cases joined
  | cons line rest =>
      obtain ⟨t, read, aside, unread⟩ := exists_readLine_on unread promptText
      obtain ⟨u, left, went, aside', unread', behind, fewer⟩ := exists_continueLine_on unread joined
        (Nat.lt_succ_of_le unread.length_le)
      refine ⟨u, left, ?_, aside.trans aside', unread', behind, Nat.lt_succ_of_le fewer⟩
      rw [readCommand, Act.on_bind_ok read, Act.on_bind_ok (Act.on_look ..)]
      exact went

theorem exists_readCommand_end (unread : s.Unread []) (promptText : String) :
    ∃ t, (readCommand promptText).on s = (.ok none, t) ∧ s.Aside t := by
  obtain ⟨t, read, aside⟩ := exists_readLine_end unread promptText
  exact ⟨t, by rw [readCommand, Act.on_bind_ok read]; rfl, aside⟩

/-! ### What is left to read -/

/-- Whether the console is read in a state as in another one, with no more to read. -/
def Drains (s t : SessionState) : Prop :=
  s.world.typed.source = .console →
    t.world.typed.source = .console ∧ remaining t.world ≤ remaining s.world

theorem Drains.refl (s : SessionState) : Drains s s :=
  fun source => ⟨source, Nat.le_refl _⟩

theorem Drains.trans {s t u : SessionState} (h : Drains s t) (h' : Drains t u) : Drains s u := by
  intro source
  obtain ⟨source, le⟩ := h source
  obtain ⟨source, le'⟩ := h' source
  exact ⟨source, Nat.le_trans le' le⟩

/-- Nothing is read where bytes are taken from the front of the input only. -/
theorem drains_of_suffix {s t : SessionState} (typed : t.world.typed = s.world.typed)
    (input : t.world.machine.console.input <:+ s.world.machine.console.input) : Drains s t := by
  intro source
  rw [remaining, remaining, typed]
  exact ⟨source, Nat.add_le_add_left input.length_le _⟩

theorem keeps_prompt (text : String) : Effect.Keeps (prompt text) := by
  intro w
  simp only [prompt, Effect.on]
  split
  · have noted := World.Kept.record w .debug readingTopic "unsupported terminal"
    cases passed : Console.pass _ .output (Bytes.ofText text) with
    | error => exact noted
    | ok console =>
        rw [Console.eq_write_of_pass passed]
        exact noted.trans ⟨rfl, rfl, rfl, rfl, rfl, funext fun _ => Console.refusal?_write ..,
          fun _ _ h => h, fun _ h => h, .refl _⟩
  · exact .record ..

/-- A line is cut from what is left, so that less is left if there is one. -/
theorem drains_takeLine (source : s.world.typed.source = .console) :
    (takeLine.on s).2.world.typed.source = .console
      ∧ ∃ taken : Bytes, taken.length + remaining (takeLine.on s).2.world = remaining s.world
        ∧ ∀ line, (takeLine.on s).1 = .ok (some line) → taken ≠ [] := by
  obtain ⟨ahead', input, _, _, read, moved, rest, -⟩ :=
    @Reader.exists_readLine .console _ s.world.machine rfl s.world.typed.ahead
  cases moved
  have typed : s.world.typed = { source := .console, ahead := s.world.typed.ahead } := by
    rw [← source]
  let bytes := s.world.typed.ahead ++ s.world.machine.console.input
  have total : (Bytes.splitLine bytes).1.length + (ahead'.length + input.length)
      = s.world.typed.ahead.length + s.world.machine.console.input.length := by
    rw [← List.length_append, ← List.length_append, rest, ← List.length_append,
      Bytes.splitLine_append]
  rw [← typed] at read
  simp only [takeLine, Act.on, Reader.readTextLine, read]
  cases found : (Bytes.splitLine bytes).1.text? with
  | none => exact ⟨rfl, _, total, fun _ e => by cases e⟩
  | some text =>
      dsimp only
      split
      · exact ⟨rfl, _, total, fun _ e => by cases e⟩
      · exact ⟨rfl, _, total, fun _ e => by cases e⟩
      · rename_i text' some e
        refine ⟨rfl, _, total, fun _ _ none => some ?_⟩
        rw [none] at found
        cases found
        cases e
        rfl

theorem drains_readLine (promptText : String) (s : SessionState) :
    Drains s ((readLine promptText).on s).2
      ∧ ∀ line t, (readLine promptText).on s = (.ok (some line), t) →
        s.world.typed.source = .console → remaining t.world < remaining s.world := by
  have kept := keeps_prompt promptText s.world
  rw [readLine, Act.on_bind, Act.on_ofEffect]
  generalize (prompt promptText).on s.world = prompted at kept ⊢
  obtain ⟨_ | _, w⟩ := prompted
  · refine ⟨drains_of_suffix kept.typed (kept.input ▸ List.suffix_refl _), fun line t read => ?_⟩
    dsimp only at read
    cases read
  · have left : remaining w = remaining s.world := by
      rw [remaining, remaining, kept.typed, kept.input]
    have cut := @drains_takeLine { s with world := w }
    dsimp only at kept cut ⊢
    rw [kept.typed, left] at cut
    refine ⟨fun source => ?_, fun line t read source => ?_⟩
    · obtain ⟨still, taken, total, -⟩ := cut source
      exact ⟨still, by omega⟩
    · obtain ⟨-, taken, total, some⟩ := cut source
      rw [read] at total some
      dsimp only at total
      have pos := List.length_pos_iff.mpr (some line rfl)
      omega

theorem drains_continueLine (line : String) (fuel : Nat) (s : SessionState) :
    Drains s ((continueLine line fuel).on s).2 := by
  induction fuel generalizing line s with
  | zero => exact .refl s
  | succ fuel ih =>
      rw [continueLine]
      split
      · exact .refl s
      · refine Act.after_bind (drains_readLine _ s).1 fun read t first => ?_
        cases read with
        | none => exact first
        | some next => exact first.trans (ih _ t)

/-- **A command** takes some of what is left to read. -/
theorem remaining_of_readCommand {promptText : String} {t : SessionState}
    (source : s.world.typed.source = .console)
    (read : (readCommand promptText).on s = (.ok (some line), t)) :
    t.world.typed.source = .console ∧ remaining t.world < remaining s.world := by
  rw [readCommand, Act.on_bind] at read
  obtain ⟨drains, less⟩ := drains_readLine promptText s
  revert read drains less
  rcases (readLine promptText).on s with ⟨e | _ | first, u⟩ <;> intro read drains less
  · cases read
  · cases read
  · dsimp only at read
    rw [Act.on_bind_ok (Act.on_look ..)] at read
    have rest := drains_continueLine first (remaining u.world + 1) u
    rw [read] at rest
    obtain ⟨still, le⟩ := rest (drains source).1
    exact ⟨still, Nat.lt_of_le_of_lt le (less first u rfl source)⟩

end Session

end Shell
