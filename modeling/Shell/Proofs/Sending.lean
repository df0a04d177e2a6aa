import Shell.Proofs.Accepting

/-!
# Bindings — what is accepted is sent

What a stream has accepted it sends to its file at once or later.  Where the streams of a binding do
not cross each other (`Binding.Uncrossed`), nothing is lost on the way.  `Sending` is that
invariant: of each stream, what was sent and what still waits are together what it has accepted, and
each file holds what was sent to it behind what it held before.

* `Sending.given`: whatever becomes of bytes that are given to a stream, the invariant is kept.
* `Sending.offered`: so it is by all that is offered to a binding, one attempt after another
  (`Binding.Offered`).
-/

namespace Shell

/-! ### What was sent -/

/-- The bytes among those sent through streams that are asked for, in order. -/
def sentBy (asked : WriterId → Bool) (sent : List (WriterId × Bytes)) : Bytes :=
  sent.flatMap fun (id, bytes) => if asked id then bytes else []

theorem sentBy_concat (asked : WriterId → Bool) (sent : List (WriterId × Bytes)) (id : WriterId)
    (bytes : Bytes) :
    sentBy asked (sent ++ [(id, bytes)]) = sentBy asked sent ++ if asked id then bytes else [] := by
  simp [sentBy]

/-- Whether each file holds what it held in another world and behind that what was sent to it
through that world's streams, in order. -/
def World.Received (start : World) (sent : List (WriterId × Bytes)) (w : World) : Prop :=
  ∀ location, w.machine.tree.get? location = (start.machine.tree.get? location).map
    (Node.extend (sentBy (start.location? · = some location) sent))

/-- Whether no regular file is written through two streams of a binding, or always at its end. -/
def Binding.Uncrossed (io : Binding) (w : World) : Prop :=
  ∀ channel channel' location mode mode', io.stream channel ≠ io.stream channel' →
    w.opened? (io.stream channel) = some (location, mode) →
    w.opened? (io.stream channel') = some (location, mode') →
    (∃ bits content, w.machine.tree.get? location = some (.file bits content)) →
    mode = .append ∧ mode' = .append

/-- What is known of the streams of a binding, when they have accepted some bytes and sent some of
them since another world. -/
structure Sending (io : Binding) (start : World) (accepted : WriterId → Bytes)
    (sent : List (WriterId × Bytes)) (w : World) : Prop where
  /-- Nothing went through other streams. -/
  own : ∀ id bytes, (id, bytes) ∈ sent → ∃ channel, io.stream channel = id
  files : start.SameFiles w
  /-- What was not sent waits, and goes to the end of its file. -/
  held : ∀ channel file waiting, w.writers[io.stream channel]? = some (.buffered file waiting) →
    file.AtEnd w.machine.tree
      ∧ sentBy (· = io.stream channel) sent ++ waiting = accepted (io.stream channel)
  received : start.Received sent w
  blocked : ∀ channel, start.IsBlocked (io.stream channel) →
    sentBy (· = io.stream channel) sent = []

namespace Sending

open World

variable {io : Binding} {start w w' : World} {accepted : WriterId → Bytes}
  {sent : List (WriterId × Bytes)} {bytes : Bytes} {result : Except SystemError Unit}

/-- Nothing was sent at first. -/
theorem initial (held : ∀ channel file waiting, w.writers[io.stream channel]?
      = some (.buffered file waiting) → waiting = [] ∧ file.AtEnd w.machine.tree) :
    Sending io w (fun _ => []) [] w where
  own := nofun
  files := .refl w
  held channel file waiting found := by
    obtain ⟨rfl, atEnd⟩ := held channel file waiting found
    exact ⟨atEnd, rfl⟩
  received location := by
    cases w.machine.tree.get? location with
    | none => rfl
    | some node => exact congrArg some (Node.extend_nil node).symm
  blocked _ _ := rfl

/-- Changes beside the files do not matter. -/
theorem aside (h : Sending io start accepted sent w) (change : w.Aside w') :
    Sending io start accepted sent w' where
  own := h.own
  files := h.files.trans change.sameFiles
  held channel file waiting found := by
    obtain ⟨atEnd, all⟩ := h.held channel file waiting ((change.buffered _ file waiting).mp found)
    exact ⟨change.tree ▸ atEnd, all⟩
  received := by
    unfold Received
    rw [change.tree]
    exact h.received
  blocked := h.blocked

/-- A file is a regular one if it was. -/
theorem exists_file (h : Sending io start accepted sent w) {location : Location} {bits : Nat}
    {content : Bytes} (found : w.machine.tree.get? location = some (.file bits content)) :
    ∃ content, start.machine.tree.get? location = some (.file bits content) := by
  rw [h.received location] at found
  obtain ⟨node, before, extended⟩ := Option.map_eq_some_iff.mp found
  cases node with
  | file bits' content =>
      cases extended
      exact ⟨content, before⟩
  | directory | removedDirectory | link | device | tool => cases extended

/-- A stream that stays at the end of its file does so when another one sends something. -/
theorem atEnd_extend (h : Sending io start accepted sent w) (uncrossed : io.Uncrossed start)
    {channel other : Channel} {file sender : OpenFile} {waiting waiting' : Bytes}
    (apart : io.stream channel ≠ io.stream other)
    (found : w.writers[io.stream channel]? = some (.buffered file waiting))
    (sends : w.writers[io.stream other]? = some (.buffered sender waiting')) (bytes : Bytes) :
    file.AtEnd (w.machine.tree.extend sender.location bytes) := by
  obtain ⟨atEnd, -⟩ := h.held channel file waiting found
  by_cases at' : file.location = sender.location
  · by_cases regular : ∃ bits content, w.machine.tree.get? sender.location
        = some (.file bits content)
    · obtain ⟨bits, content, there⟩ := regular
      have opened := (h.files.opened _).symm.trans (opened?_of_buffered found)
      have opened' := (h.files.opened _).symm.trans (opened?_of_buffered sends)
      have appends := uncrossed channel other _ _ _ apart (at' ▸ opened) opened'
        ⟨bits, h.exists_file there⟩
      exact ⟨atEnd.1, fun truncates => by rw [appends.1] at truncates; cases truncates⟩
    · rwa [FileTree.extend_of_not_file fun bits content there => regular ⟨bits, content, there⟩]
  · exact atEnd.congr (FileTree.get?_extend_of_ne _ at' _)

/-- **What a stream sends on** goes to the end of its file, behind all that was sent there. -/
theorem sends (h : Sending io start accepted sent w) (uncrossed : io.Uncrossed start)
    {channel : Channel} {file : OpenFile} {waiting more waiting' : Bytes} {offset : Nat}
    (found : w.writers[io.stream channel]? = some (.buffered file waiting))
    (split : more ++ waiting' = waiting ++ bytes)
    (atEnd : OpenFile.AtEnd { file with offset } (w.machine.tree.extend file.location more))
    (blocked : start.IsBlocked (io.stream channel) → more = []) :
    Sending io start (fun id => accepted id ++ if id = io.stream channel then bytes else [])
      (sent ++ [(io.stream channel, more)])
      { w with
        writers := w.writers.set (io.stream channel) (.buffered { file with offset } waiting')
        machine.tree := w.machine.tree.extend file.location more } := by
  have lt := (List.getElem?_eq_some_iff.mp found).1
  have at' : start.location? (io.stream channel) = some file.location :=
    (h.files.location? _).symm.trans (location?_of_buffered found)
  refine ⟨?_, h.files.trans (Passed.intro found split atEnd).sameFiles, ?_, fun location => ?_, ?_⟩
  · intro id bytes mem
    rcases List.mem_append.mp mem with mem | mem
    · exact h.own id bytes mem
    · cases List.mem_singleton.mp mem
      exact ⟨channel, rfl⟩
  · -- The sender has the rest waiting; the other stream only has to stay at its file's end.
    intro other file' waiting'' found'
    rw [sentBy_concat]
    by_cases same : io.stream other = io.stream channel
    · rw [same] at found' ⊢
      obtain ⟨rfl, rfl⟩ : { file with offset } = file' ∧ waiting' = waiting'' := by
        simpa using (List.getElem?_set_self lt).symm.trans found'
      obtain ⟨-, all⟩ := h.held channel file waiting found
      refine ⟨atEnd, ?_⟩
      simp only [decide_true, if_true]
      rw [List.append_assoc, split, ← List.append_assoc, all]
    · have before := (List.getElem?_set_ne (Ne.symm same)).symm.trans found'
      obtain ⟨-, all⟩ := h.held other file' waiting'' before
      refine ⟨h.atEnd_extend uncrossed same before found more, ?_⟩
      simp only [Ne.symm same, same, decide_false, Bool.false_eq_true, if_false, List.append_nil]
      exact all
  · rw [sentBy_concat, at']
    by_cases same : location = file.location
    · subst same
      rw [FileTree.get?_extend_self, h.received, Option.map_map]
      simp only [Function.comp_def, Node.extend_extend, decide_true, if_true]
    · rw [FileTree.get?_extend_of_ne _ same, h.received]
      simp [Ne.symm same]
  · intro other stuck
    rw [sentBy_concat, h.blocked other stuck]
    by_cases same : io.stream channel = io.stream other
    · simp [same, blocked (same ▸ stuck)]
    · simp [same]

/-- **Whatever becomes of bytes**, they are accounted for, if they are accepted. -/
theorem given (h : Sending io start accepted sent w) (uncrossed : io.Uncrossed start)
    {channel : Channel} (given : Given w (io.stream channel) bytes result w') :
    ∃ sent', Sending io start (fun id => accepted id
      ++ if id = io.stream channel ∧ result.isOk then bytes else []) sent' w' := by
  cases given with
  | passed free passed =>
      obtain ⟨found, split, atEnd⟩ := passed
      have next := h.sends uncrossed found split atEnd fun blocked =>
        absurd (h.files.isBlocked_iff.mpr blocked) free
      exact ⟨_, by simpa [Except.isOk, Except.toBool] using next⟩
  | @kept file waiting found =>
      obtain ⟨atEnd, -⟩ := h.held channel file waiting found
      have next := h.sends uncrossed found (List.nil_append (waiting ++ bytes))
        (by simpa using atEnd) fun _ => rfl
      rw [FileTree.extend_nil] at next
      exact ⟨_, by simpa [Except.isOk, Except.toBool] using next⟩
  | refused => exact ⟨sent, by simpa [Except.isOk, Except.toBool] using h⟩
  | aside unfiled _ change =>
      -- what a stream to no file has accepted does not matter
      obtain ⟨own, files, held, received, blocked⟩ := h.aside change
      refine ⟨sent, own, files, fun other file waiting found => ?_, received, blocked⟩
      have apart : io.stream other ≠ io.stream channel := by
        intro same
        have there := (change.sameFiles.location? _).symm.trans
          (location?_of_buffered (same ▸ found))
        rw [unfiled] at there
        cases there
      simpa [apart] using held other file waiting found

/-- Where nothing waits any more, all that a stream to a file has accepted was sent. -/
theorem sentBy_of_idle (h : Sending io start accepted sent w) {channel : Channel}
    (idle : w.Idle (io.stream channel)) {location : Location}
    (at' : start.location? (io.stream channel) = some location) :
    sentBy (· = io.stream channel) sent = accepted (io.stream channel) := by
  obtain ⟨file, waiting, found, -⟩ := World.exists_buffered ((h.files.location? _).trans at')
  obtain rfl : waiting = [] := idle _ found
  simpa using (h.held channel file [] found).2

end Sending

/-! ### What a binding is offered -/

/-- Bytes that were offered to a stream, and what became of them. -/
structure Offer where
  stream : WriterId
  bytes : Bytes
  result : Except SystemError Unit

/-- What a stream accepted of what it was offered, in order. -/
def Offer.taken (id : WriterId) (offers : List Offer) : Bytes :=
  offers.flatMap fun offer => if id = offer.stream ∧ offer.result.isOk then offer.bytes else []

theorem Offer.taken_concat (id : WriterId) (offers : List Offer) (offer : Offer) :
    taken id (offers ++ [offer]) = taken id offers
      ++ if id = offer.stream ∧ offer.result.isOk then offer.bytes else [] := by
  simp [taken]

namespace Binding

/-- Bytes offered to the outputs of a binding, and what became of each attempt. -/
def offer (io : Binding) : List (Channel × Bytes) → World → List Offer × World
  | [], w => ([], w)
  | (channel, bytes) :: rest, w =>
      let (result, w) := (World.write (io.stream channel) bytes).on w
      let (offers, w) := io.offer rest w
      ({ stream := io.stream channel, bytes, result } :: offers, w)

/-- A world after bytes were offered to the outputs of a binding, one attempt after another, and
things were done beside the files that nobody logs. -/
inductive Offered (io : Binding) (w : World) : List Offer → World → Prop where
  | none : Offered io w [] w
  | write {offers : List Offer} {w' : World} (h : Offered io w offers w') (channel : Channel)
      (bytes : Bytes) :
      Offered io w
        (offers ++ [{
          stream := io.stream channel, bytes
          result := ((World.write (io.stream channel) bytes).on w').1 }])
        ((World.write (io.stream channel) bytes).on w').2
  | aside {offers : List Offer} {w' w'' : World} (h : Offered io w offers w')
      (change : w'.Aside w'') (log : w''.log = w'.log) : Offered io w offers w''

namespace Offered

variable {io : Binding} {w w' w'' : World} {offers more : List Offer}

theorem trans (h : io.Offered w offers w') (h' : io.Offered w' more w'') :
    io.Offered w (offers ++ more) w'' := by
  induction h' with
  | none => rwa [List.append_nil]
  | write _ channel bytes ih =>
      rw [← List.append_assoc]
      exact ih.write channel bytes
  | aside _ change log ih => exact ih.aside change log

theorem sameFiles (h : io.Offered w offers w') : w.SameFiles w' := by
  induction h with
  | none => exact .refl w
  | write _ channel bytes ih => exact ih.trans (.write ..)
  | aside _ change _ ih => exact ih.trans change.sameFiles

end Offered

theorem offered_offer (io : Binding) (writes : List (Channel × Bytes)) (w : World) :
    io.Offered w (io.offer writes w).1 (io.offer writes w).2 := by
  induction writes generalizing w with
  | nil => exact .none
  | cons first rest ih =>
      obtain ⟨channel, bytes⟩ := first
      exact (Offered.none.write channel bytes).trans (ih _)

end Binding

/-- **Everything that is offered** is accounted for, if it is accepted. -/
theorem Sending.offered {io : Binding} {start w w' : World} {accepted : WriterId → Bytes}
    {sent : List (WriterId × Bytes)} (h : Sending io start accepted sent w)
    (uncrossed : io.Uncrossed start) {offers : List Offer} (offered : io.Offered w offers w') :
    ∃ sent', Sending io start (fun id => accepted id ++ Offer.taken id offers) sent' w' := by
  induction offered with
  | none => exact ⟨sent, by simpa [Offer.taken] using h⟩
  | write _ channel bytes ih =>
      obtain ⟨sent', before⟩ := ih
      have given := World.given_write (fun file waiting found => (before.held channel _ _ found).1)
        bytes
      obtain ⟨sent'', after⟩ := before.given uncrossed given
      refine ⟨sent'', ?_⟩
      simpa only [Offer.taken_concat, List.append_assoc] using after
  | aside _ change _ ih =>
      obtain ⟨sent', before⟩ := ih
      exact ⟨sent', before.aside change⟩

end Shell
