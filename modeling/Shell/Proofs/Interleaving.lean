import Shell.Proofs.Releasing

/-!
# Bindings — both outputs at the end of one file

Where output and errors are sent to one file by redirects of their own, each of them opens the file
for itself and has a buffer of its own.  If both write at its end, nothing is lost: what is in the
file at last is what was written to either, as two hands of cards are shuffled (`Interleaves`).
When the buffers are full and who is flushed first only decides on the shuffle.

* `Binding.Sends.useAll`: as long as their file takes bytes, all that is done with the outputs of a
  binding succeeds, and what was written was sent or waits.
* `Redirection.appends_interleave`: so it is for every binding that redirects left with two streams
  that append to one regular file.
-/

namespace Shell

/-! ### Shuffles -/

/-- Whether a list is made of two, each in its order. -/
inductive Interleaves {α : Type} : List α → List α → List α → Prop where
  | nil : Interleaves [] [] []
  | left {xs ys zs : List α} (x : α) (h : Interleaves xs ys zs) :
      Interleaves (x :: xs) ys (x :: zs)
  | right {xs ys zs : List α} (y : α) (h : Interleaves xs ys zs) :
      Interleaves xs (y :: ys) (y :: zs)

namespace Interleaves

variable {α : Type} {xs ys zs : List α}

theorem append_left (h : Interleaves xs ys zs) (more : List α) :
    Interleaves (more ++ xs) ys (more ++ zs) := by
  induction more with
  | nil => exact h
  | cons x _ ih => exact .left x ih

theorem append_right (h : Interleaves xs ys zs) (more : List α) :
    Interleaves xs (more ++ ys) (more ++ zs) := by
  induction more with
  | nil => exact h
  | cons y _ ih => exact .right y ih

/-- What was sent through either of two streams is a shuffle of what was sent through each. -/
theorem sentBy {one other : WriterId} (apart : one ≠ other) {asked : WriterId → Bool}
    {sent : List (WriterId × Bytes)}
    (either : ∀ id bytes, (id, bytes) ∈ sent → (asked id ↔ id = one ∨ id = other)) :
    Interleaves (Shell.sentBy (· = one) sent) (Shell.sentBy (· = other) sent)
      (Shell.sentBy asked sent) := by
  induction sent with
  | nil => exact .nil
  | cons first rest ih =>
      obtain ⟨id, bytes⟩ := first
      have later := ih fun id bytes mem => either id bytes (List.mem_cons_of_mem _ mem)
      have first := either id bytes List.mem_cons_self
      simp only [Shell.sentBy, List.flatMap_cons] at later ⊢
      by_cases through : id = one
      · subst through
        simpa [apart, first.mpr (.inl rfl)] using later.append_left bytes
      by_cases through' : id = other
      · subst through'
        simpa [through, first.mpr (.inr rfl)] using later.append_right bytes
      · have neither : asked id = false := by simpa [through, through'] using first
        simpa [through, through', neither] using later

end Interleaves

/-! ### What is done with the outputs -/

/-- What a command can do with the outputs of its binding. -/
inductive OutputUse where
  | write (channel : Channel) (bytes : Bytes)
  /-- Flush one output. -/
  | flush (channel : Channel)
  /-- Flush the binding. -/
  | flushBoth
  deriving DecidableEq, Repr

/-- The bytes that are written to one of the outputs, in order. -/
def OutputUse.written (channel : Channel) (uses : List OutputUse) : Bytes :=
  uses.flatMap fun
    | .write channel' bytes => if channel = channel' then bytes else []
    | .flush _ | .flushBoth => []

namespace Binding

/-- Do one thing with the outputs. -/
def use (io : Binding) : OutputUse → Effect SystemError Unit
  | .write channel bytes => World.write (io.stream channel) bytes
  | .flush channel => World.flush (io.stream channel)
  | .flushBoth => io.flush

/-- Do one thing after another, whatever is refused, and list the results. -/
def useAll (io : Binding) : List OutputUse → World → List (Except SystemError Unit) × World
  | [], w => ([], w)
  | use :: rest, w =>
      let (result, w) := (io.use use).on w
      let (results, w) := io.useAll rest w
      (result :: results, w)

/-- What a stream is given when something is done with the outputs. -/
def givenTo (io : Binding) (id : WriterId) : OutputUse → Bytes
  | .write channel bytes => if id = io.stream channel then bytes else []
  | .flush _ | .flushBoth => []

theorem flatMap_givenTo {io : Binding} (apart : io.output ≠ io.error) (channel : Channel)
    (uses : List OutputUse) :
    uses.flatMap (io.givenTo (io.stream channel)) = OutputUse.written channel uses := by
  refine congrArg (List.flatMap · uses) (funext fun use => ?_)
  cases use with
  | write channel' bytes =>
      cases channel <;> cases channel' <;> simp [givenTo, stream, apart, apart.symm]
  | flush | flushBoth => rfl

end Binding

theorem World.Given.ok_of_free {w w' : World} {id : WriterId} {bytes : Bytes}
    {result : Except SystemError Unit} (given : w.Given id bytes result w')
    (free : ¬ w.IsBlocked id) : result = .ok () := by
  cases given with
  | passed | kept => rfl
  | refused blocked => exact absurd ⟨_, blocked⟩ free
  | aside _ accepted => exact accepted free

namespace Binding.Sends

variable {io : Binding} {start w : World} {accepted : WriterId → Bytes}

theorem write_stream (h : io.Sends start accepted w) (uncrossed : io.Uncrossed start)
    {channel : Channel} (free : ¬ start.IsBlocked (io.stream channel)) (bytes : Bytes) :
    ((World.write (io.stream channel) bytes).on w).1 = .ok ()
      ∧ io.Sends start (fun id => accepted id ++ if id = io.stream channel then bytes else [])
        ((World.write (io.stream channel) bytes).on w).2 := by
  obtain ⟨sent, sending⟩ := h
  have given := World.given_write
    (fun file waiting found => (sending.held channel file waiting found).1) bytes
  have written := given.ok_of_free (mt sending.files.isBlocked_iff.mp free)
  obtain ⟨sent', after⟩ := sending.given uncrossed given
  refine ⟨written, sent', ?_⟩
  simpa [written, Except.isOk, Except.toBool] using after

theorem flush_stream (h : io.Sends start accepted w) (uncrossed : io.Uncrossed start)
    {channel : Channel} (free : ¬ start.IsBlocked (io.stream channel)) :
    ((World.flush (io.stream channel)).on w).1 = .ok ()
      ∧ io.Sends start accepted ((World.flush (io.stream channel)).on w).2 := by
  refine ⟨?_, (h.flush_if uncrossed true channel).1⟩
  obtain ⟨sent, sending⟩ := h
  obtain ⟨given, -⟩ := World.given_flush fun file waiting found =>
    (sending.held channel file waiting found).1
  exact given.ok_of_free (mt sending.files.isBlocked_iff.mp free)

/-- **What is done with the outputs** succeeds if their files take bytes, and what is written is
sent or waits. -/
theorem use (h : io.Sends start accepted w) (uncrossed : io.Uncrossed start)
    (free : ∀ channel, ¬ start.IsBlocked (io.stream channel)) (use : OutputUse) :
    ((io.use use).on w).1 = .ok ()
      ∧ io.Sends start (fun id => accepted id ++ io.givenTo id use) ((io.use use).on w).2 := by
  cases use with
  | write channel bytes => exact h.write_stream uncrossed (free channel) bytes
  | flush channel =>
      simp only [givenTo, List.append_nil]
      exact h.flush_stream uncrossed (free channel)
  | flushBoth =>
      have first : ((World.flush io.output).on w).1 = .ok ()
          ∧ io.Sends start accepted ((World.flush io.output).on w).2 :=
        h.flush_stream uncrossed (free .output)
      simp only [givenTo, List.append_nil, Binding.use, Binding.flush]
      rw [Effect.on_bind_ok (Prod.ext first.1 rfl)]
      cases io.isMerged with
      | true => exact ⟨rfl, first.2⟩
      | false => exact first.2.flush_stream uncrossed (free .error)

/-- **One thing after another** does. -/
theorem useAll (h : io.Sends start accepted w) (uncrossed : io.Uncrossed start)
    (free : ∀ channel, ¬ start.IsBlocked (io.stream channel)) (uses : List OutputUse) :
    (∀ result ∈ (io.useAll uses w).1, result = .ok ())
      ∧ io.Sends start (fun id => accepted id ++ uses.flatMap (io.givenTo id))
        (io.useAll uses w).2 := by
  induction uses generalizing accepted w with
  | nil =>
      simp only [List.flatMap_nil, List.append_nil]
      exact ⟨nofun, h⟩
  | cons use rest ih =>
      obtain ⟨done, sends⟩ := h.use uncrossed free use
      obtain ⟨results, after⟩ := ih sends
      simp only [List.append_assoc] at after
      refine ⟨?_, after⟩
      rintro result (_ | ⟨_, mem⟩)
      · exact done
      · exact results result mem

/-- A release succeeds too. -/
theorem release_on_eq_ok (h : io.Sends start accepted w)
    (free : ∀ channel, ¬ start.IsBlocked (io.stream channel)) : (io.release.on w).1 = .ok () := by
  obtain ⟨sent, sending⟩ := h
  have writes : io.OpensToWrite w := by
    intro channel _ location mode opened
    obtain ⟨file, waiting, found, rfl, rfl⟩ := World.exists_of_opened? opened
    exact (sending.held channel file waiting found).1.1
  cases told : (io.release.on w).1 with
  | ok => rfl
  | error cause =>
      obtain ⟨channel, -, cause, -, blocked⟩ :=
        (exists_flushOwned_on_eq_error_iff writes).mp ⟨cause, told⟩
      exact absurd (sending.files.isBlocked_iff.mp ⟨cause, blocked⟩) (free channel)

end Binding.Sends

/-! ### What redirects leave an output with -/

/-- Whether an output is left with the file that was opened at a place of a list: the redirect is
for it, and no later one is. -/
inductive LeftWith (channel : Channel) : List (Redirect × OpenFile) → Nat → OpenFile → Prop where
  | here {directive : Redirect} {file : OpenFile} {rest : List (Redirect × OpenFile)}
      (redirected : directive.kind.redirects channel)
      (last : ∀ later ∈ rest, later.1.kind.redirects channel = false) :
      LeftWith channel ((directive, file) :: rest) 0 file
  | there {entry : Redirect × OpenFile} {rest : List (Redirect × OpenFile)} {n : Nat}
      {file : OpenFile} (h : LeftWith channel rest n file) :
      LeftWith channel (entry :: rest) (n + 1) file

/-- Redirects that are not for an output leave it as it is. -/
theorem Redirection.connected_of_unredirected {channel : Channel} {io : Binding} {w : World}
    {opened : List (Redirect × OpenFile)}
    (others : ∀ entry ∈ opened, entry.1.kind.redirects channel = false) :
    (connected io w opened).1.stream channel = io.stream channel
      ∧ (connected io w opened).1.owns channel = io.owns channel := by
  induction opened generalizing io w with
  | nil => exact ⟨rfl, rfl⟩
  | cons first rest ih =>
      obtain ⟨directive, file⟩ := first
      have unredirected := others _ List.mem_cons_self
      obtain ⟨stream, owns⟩ := @ih (io.connect directive.kind w) (w.gain directive.kind file)
        fun entry mem => others entry (List.mem_cons_of_mem _ mem)
      rw [Binding.stream_connect, unredirected, if_neg Bool.false_ne_true] at stream
      rw [Binding.owns_connect, unredirected, Bool.false_or] at owns
      exact ⟨stream, owns⟩

namespace LeftWith

open Redirection

variable {channel channel' : Channel} {opened : List (Redirect × OpenFile)} {n m : Nat}
  {file file' : OpenFile}

/-- The stream that an output is left with at once is the first new one. -/
theorem stream_here {directive : Redirect} {rest : List (Redirect × OpenFile)}
    (redirected : directive.kind.redirects channel)
    (last : ∀ later ∈ rest, later.1.kind.redirects channel = false) (io : Binding) (w : World) :
    (Redirection.connected io w ((directive, file) :: rest)).1.stream channel
      = w.writers.length := by
  rw [connected_cons, (connected_of_unredirected last).1, Binding.stream_connect, if_pos redirected]

/-- The output has a new stream to that file, and the binding owns it. -/
theorem connected (h : LeftWith channel opened n file) (io : Binding) (w : World) :
    let made := Redirection.connected io w opened
    made.1.owns channel ∧ w.writers.length ≤ made.1.stream channel
      ∧ made.2.writers[made.1.stream channel]? = some (.buffered file []) := by
  induction h generalizing io w with
  | @here directive file rest redirected last =>
      have stream := @stream_here _ file _ _ redirected last io w
      have new := World.getElem?_gain_length w
        ((RedirectKind.writes_iff _).mpr ⟨channel, redirected⟩) file
      obtain ⟨more, kept⟩ := writers_prefix_connected (io.connect directive.kind w)
        (w.gain directive.kind file) rest
      refine ⟨?_, Nat.le_of_eq stream.symm, ?_⟩
      · rw [connected_cons, (connected_of_unredirected last).2, Binding.owns_connect, redirected]
        rfl
      · rw [stream, connected_cons, ← kept,
          List.getElem?_append_left (List.getElem?_eq_some_iff.mp new).1, new]
  | @there entry rest n file _ ih =>
      obtain ⟨owns, new, found⟩ := ih (io.connect entry.1.kind w) (w.gain entry.1.kind entry.2)
      refine ⟨owns, Nat.le_trans ?_ new, found⟩
      rw [World.writers_gain, List.length_append]
      exact Nat.le_add_right ..

/-- One that an output is left with later is another. -/
theorem stream_ne_here {directive : Redirect} {rest : List (Redirect × OpenFile)}
    (redirected : directive.kind.redirects channel)
    (last : ∀ later ∈ rest, later.1.kind.redirects channel = false)
    (h : LeftWith channel' rest m file') (io : Binding) (w : World) :
    let made := Redirection.connected io w ((directive, file) :: rest)
    made.1.stream channel ≠ made.1.stream channel' := by
  have writes : directive.kind.writes := (RedirectKind.writes_iff _).mpr ⟨channel, redirected⟩
  obtain ⟨-, later, -⟩ := h.connected (io.connect directive.kind w) (w.gain directive.kind file)
  rw [World.writers_gain, if_pos writes, List.length_append] at later
  refine Nat.ne_of_lt ?_
  rw [stream_here redirected last]
  exact later

/-- Outputs that are left with files from different places have different streams. -/
theorem stream_ne (h : LeftWith channel opened n file) (h' : LeftWith channel' opened m file')
    (apart : n ≠ m) (io : Binding) (w : World) :
    let made := Redirection.connected io w opened
    made.1.stream channel ≠ made.1.stream channel' := by
  induction h generalizing m io w with
  | here redirected last =>
      cases h' with
      | here => exact absurd rfl apart
      | there h' => exact stream_ne_here redirected last h' io w
  | there h ih =>
      cases h' with
      | here redirected last => exact (stream_ne_here redirected last h io w).symm
      | there h' => exact ih h' (fun same => apart (congrArg (· + 1) same)) _ _

end LeftWith

/-! ### Both outputs appended -/

/-- Whether the outputs of a binding are two streams of its own that were opened to append to one
file, and have nothing to send. -/
structure Binding.AppendsTo (io : Binding) (location : Location) (w : World) : Prop where
  owns : ∀ channel, io.owns channel
  apart : io.output ≠ io.error
  appends : ∀ channel, ∃ file : OpenFile, file.mode = .append ∧ file.location = location
    ∧ w.writers[io.stream channel]? = some (.buffered file [])

namespace Binding.AppendsTo

variable {io : Binding} {start : World} {location : Location} {bits : Nat} {content : Bytes}

theorem opened (h : io.AppendsTo location start) (channel : Channel) :
    start.opened? (io.stream channel) = some (location, .append) := by
  obtain ⟨file, mode, rfl, found⟩ := h.appends channel
  rw [World.opened?_of_buffered found, mode]

theorem location? (h : io.AppendsTo location start) (channel : Channel) :
    start.location? (io.stream channel) = some location := by
  rw [World.location?_eq_map, h.opened]
  rfl

theorem uncrossed (h : io.AppendsTo location start) : io.Uncrossed start := by
  intro channel channel' location' mode mode' _ at' at'' _
  rw [h.opened] at at' at''
  cases at'
  cases at''
  exact ⟨rfl, rfl⟩

theorem free (h : io.AppendsTo location start)
    (regular : start.machine.tree.get? location = some (.file bits content)) (channel : Channel) :
    ¬ start.IsBlocked (io.stream channel) := by
  obtain ⟨file, -, rfl, found⟩ := h.appends channel
  rw [World.isBlocked_iff_of_buffered found, FileTree.refusal?, regular]
  rfl

/-- Nothing was accepted and nothing sent. -/
theorem sends (h : io.AppendsTo location start) : io.Sends start (fun _ => []) start := by
  refine ⟨[], .initial fun channel file waiting found => ?_⟩
  obtain ⟨file', mode, -, there⟩ := h.appends channel
  cases there.symm.trans found
  refine ⟨rfl, ?_, ?_⟩ <;> rw [mode] <;> exact nofun

/-- **Both outputs** get through whole, each in its order, whatever is done with them. -/
theorem interleaves (h : io.AppendsTo location start)
    (regular : start.machine.tree.get? location = some (.file bits content))
    (uses : List OutputUse) :
    let used := io.useAll uses start
    let released := io.release.on used.2
    (∀ result ∈ used.1, result = .ok ()) ∧ released.1 = .ok ()
      ∧ ∃ bytes, Interleaves (OutputUse.written .output uses) (OutputUse.written .error uses) bytes
        ∧ released.2.machine.tree.get? location = some (.file bits (content ++ bytes)) := by
  intro used released
  obtain ⟨done, after⟩ := h.sends.useAll h.uncrossed (h.free regular) uses
  refine ⟨done, after.release_on_eq_ok (h.free regular), ?_⟩
  obtain ⟨⟨sent, sending⟩, idle⟩ := after.release h.uncrossed
  have whole : ∀ channel, sentBy (· = io.stream channel) sent = OutputUse.written channel uses := by
    intro channel
    rw [sending.sentBy_of_idle (idle channel (h.owns channel) (h.free regular channel))
      (h.location? channel), List.nil_append, flatMap_givenTo h.apart]
  refine ⟨sentBy (start.location? · = some location) sent, ?_, ?_⟩
  · rw [← whole .output, ← whole .error]
    refine .sentBy h.apart fun id bytes mem => ?_
    obtain ⟨channel, rfl⟩ := sending.own id bytes mem
    simp only [h.location?, decide_true, true_iff]
    cases channel with
    | output => exact .inl rfl
    | error => exact .inr rfl
  · rw [sending.received, regular]
    rfl

end Binding.AppendsTo

namespace Redirection

/-- **Appended output and errors interleave.**  If redirects leave output and errors with two
streams that were opened to append to one regular file, whatever is written to them and flushed
succeeds, and so does the release.  Then the file holds what it held after the redirects and behind
that all that was written to either, each in its order. -/
theorem appends_interleave {redirects : List Redirect} {base io : Binding} {w w₀ : World}
    {n m : Nat} {output error : OpenFile} {location : Location} {bits : Nat} {content : Bytes}
    (applied : (apply redirects base).on w = (.ok (.derived io), w₀))
    (leftOutput : LeftWith .output (Opening.of w.machine.tree w.cwd redirects).opened n output)
    (leftError : LeftWith .error (Opening.of w.machine.tree w.cwd redirects).opened m error)
    (separate : n ≠ m) (appendOutput : output.mode = .append) (appendError : error.mode = .append)
    (atOutput : output.location = location) (atError : error.location = location)
    (regular : w₀.machine.tree.get? location = some (.file bits content))
    (uses : List OutputUse) :
    let used := io.useAll uses w₀
    let released := io.release.on used.2
    (∀ result ∈ used.1, result = .ok ()) ∧ released.1 = .ok ()
      ∧ ∃ bytes, Interleaves (OutputUse.written .output uses) (OutputUse.written .error uses) bytes
        ∧ released.2.machine.tree.get? location = some (.file bits (content ++ bytes)) := by
  obtain ⟨-, derived, rfl⟩ := eq_of_apply applied
  obtain rfl : io = (connected { base with owned := {} } w
      (Opening.of w.machine.tree w.cwd redirects).opened).1 := by
    split at derived <;> cases derived
    rfl
  have fresh := leftOutput.connected { base with owned := {} } w
  have fresh' := leftError.connected { base with owned := {} } w
  refine Binding.AppendsTo.interleaves ⟨?_, leftOutput.stream_ne leftError separate _ _, ?_⟩
    regular uses
  · rintro (_ | _)
    · exact fresh.1
    · exact fresh'.1
  · rintro (_ | _)
    · exact ⟨output, appendOutput, atOutput, fresh.2.2⟩
    · exact ⟨error, appendError, atError, fresh'.2.2⟩

/-- Errors are left with the first redirect and the output with the second, both at one file. -/
theorem appends_interleave_one_file :
    let nodes : List (Location × Node) :=
      [(["d"], .directory), (["f", "d"], .file 0o644 (Bytes.ofText "x"))]
    let start := Binding.overMemory [] { machine.tree.entries := nodes, cwd := ["d"] }
    let redirects : List Redirect :=
      [⟨.allAppend, ⟨"f", by decide⟩⟩, ⟨.outputAppend, ⟨"../d/f", by decide⟩⟩]
    let uses : List OutputUse := [.write .output (Bytes.ofText "ab"),
      .write .error (Bytes.ofText "c"), .flush .error, .write .output (Bytes.ofText "d")]
    ∃ io w₀, (apply redirects start.1).on start.2 = (.ok (.derived io), w₀)
      ∧ ∃ bytes, Interleaves (Bytes.ofText "abd") (Bytes.ofText "c") bytes
        ∧ (io.release.on (io.useAll uses w₀).2).2.machine.tree.get? ["f", "d"]
          = some (.file 0o644 (Bytes.ofText "x" ++ bytes)) := by
  intro nodes start redirects uses
  let file : OpenFile := { location := ["f", "d"], mode := .append }
  have opening : Opening.of start.2.machine.tree start.2.cwd redirects
      = { opened := redirects.zip [file, file], refusal := none, tree.entries := nodes } := by
    decide
  obtain ⟨io, w₀, applied, tree⟩ : ∃ io w₀,
      (apply redirects start.1).on start.2 = (.ok (.derived io), w₀)
        ∧ w₀.machine.tree = { entries := nodes } := by
    refine ⟨_, _, by rw [apply_on, opening]; rfl, rfl⟩
  have output : LeftWith .output (Opening.of start.2.machine.tree start.2.cwd redirects).opened
      1 file := by
    rw [opening]
    exact .there (.here rfl nofun)
  have error : LeftWith .error (Opening.of start.2.machine.tree start.2.cwd redirects).opened
      0 file := by
    rw [opening]
    exact .here rfl (by decide)
  obtain ⟨-, -, bytes, shuffled, held⟩ := appends_interleave applied output error (by decide)
    rfl rfl rfl rfl (by rw [tree]; rfl) uses
  exact ⟨io, w₀, applied, bytes, shuffled, held⟩

end Redirection

end Shell
