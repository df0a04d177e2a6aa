import Shell.Binding
import Shell.Proofs.Appending
import Shell.Proofs.Running

/-!
# Streams — what is kept back

A stream to a file keeps back what it is given until its buffer is full or somebody flushes it.  No
byte is lost or moved by this: what went to the file and what still waits are together what waited
before and what was written (`Writer.write_of_atEnd`, `Writer.flush_of_atEnd`).

A write and a flush are made of two steps, bytes that are sent and bytes that wait, so what both of
these leave alone is left alone by a write and a flush (`Writer.Stepwise`).

The last part says what becomes of a numbered stream of a world.  The location of its file
(`World.location?`) never changes.
-/

namespace Shell

/-! ### Steps -/

namespace Writer

/-- Whether something that is done with a writer leads to related writers and machines, whatever
comes of it. -/
def Act.Respects (act : Act) (R : Writer × Machine → Writer × Machine → Prop) : Prop :=
  ∀ writer machine, R (writer, machine) (act writer machine).2

/-- A relation that sending bytes and letting bytes wait, where there is room, lead along. -/
structure Stepwise (R : Writer × Machine → Writer × Machine → Prop) : Prop where
  refl : ∀ before, R before before
  trans : ∀ {before between after}, R before between → R between after → R before after
  send : ∀ bytes, Act.Respects (send · · bytes) R
  wait : ∀ writer waiting machine, (waiting ≠ [] → 0 < writer.room) →
    R (writer, machine) (writer.withWaiting waiting, machine)

namespace Stepwise

variable {R : Writer × Machine → Writer × Machine → Prop} (h : Stepwise R)
include h

theorem andThen {first second : Act} (hf : first.Respects R) (hs : second.Respects R) :
    (first.andThen second).Respects R := by
  intro writer machine
  have before := hf writer machine
  unfold Act.andThen
  revert before
  rcases first writer machine with ⟨_ | _, writer', machine'⟩ <;> intro before
  · exact before
  · exact h.trans before (hs writer' machine')

theorem flush : Act.Respects flush R := by
  intro writer machine
  have sent := h.send writer.waiting writer machine
  unfold Writer.flush
  split
  · exact h.refl _
  · revert sent
    dsimp only
    rcases writer.send machine writer.waiting with ⟨_ | _, writer', machine'⟩ <;> intro sent
    · exact sent
    · exact h.trans sent (h.wait writer' [] machine' (absurd rfl))

theorem accept (bytes : Bytes) : Act.Respects (accept · · bytes) R := by
  intro writer machine
  dsimp only [Writer.accept]
  split
  · exact h.wait writer _ machine fun _ => Nat.zero_lt_of_lt ‹_›
  · exact h.send bytes writer machine

theorem hold (bytes : Bytes) : Act.Respects (hold · · bytes) R := by
  intro writer machine
  dsimp only [Writer.hold]
  split
  · exact h.andThen h.flush (h.accept bytes) writer machine
  · exact h.accept bytes writer machine

theorem sendLines (lines : Bytes) : Act.Respects (sendLines · · lines) R := by
  intro writer machine
  dsimp only [Writer.sendLines]
  split
  · split
    · exact h.flush writer machine
    · exact h.refl _
  · split
    · exact h.send lines writer machine
    · exact h.andThen (h.hold lines) h.flush writer machine

theorem write (bytes : Bytes) : Act.Respects (write · · bytes) R := by
  intro writer machine
  dsimp only [Writer.write]
  split
  · exact h.andThen (h.sendLines _) (h.hold _) _ machine
  · exact h.hold bytes writer machine

end Stepwise

/-- Whether something that is done with a writer does not see how its machine is disguised, and
leaves it in a disguise of that kind. -/
def Act.Overlooks (D : (Machine → Machine) → Prop) (act : Act) : Prop :=
  ∀ disguise, D disguise → ∀ writer machine, ∃ disguise', D disguise'
    ∧ act writer (disguise machine)
      = ((act writer machine).1, (act writer machine).2.1, disguise' (act writer machine).2.2)

namespace Act.Overlooks

variable {D : (Machine → Machine) → Prop} {first second : Act}

theorem andThen (hf : first.Overlooks D) (hs : second.Overlooks D) :
    (first.andThen second).Overlooks D := by
  intro disguise h writer machine
  obtain ⟨disguise', h', e⟩ := hf disguise h writer machine
  unfold Act.andThen
  rw [e]
  rcases first writer machine with ⟨_ | _, writer', machine'⟩
  · exact ⟨disguise', h', rfl⟩
  · exact hs disguise' h' writer' machine'

/-- What is done to the writer alone. -/
theorem wait (f : Writer → Except SystemError Unit × Writer) :
    Act.Overlooks D fun writer machine => ((f writer).1, (f writer).2, machine) :=
  fun disguise h _ _ => ⟨disguise, h, rfl⟩

theorem ite {p : Writer → Prop} [DecidablePred p] (hf : first.Overlooks D)
    (hs : second.Overlooks D) : Act.Overlooks D fun writer machine =>
      if p writer then first writer machine else second writer machine := by
  intro disguise h writer machine
  by_cases holds : p writer
  · simpa only [holds, if_true] using hf disguise h writer machine
  · simpa only [holds, if_false] using hs disguise h writer machine

variable (send : ∀ bytes, Act.Overlooks D (send · · bytes))
include send

theorem flush : Act.Overlooks D flush := by
  refine ite (wait fun writer => (.ok (), writer)) ?_
  intro disguise h writer machine
  obtain ⟨disguise', h', e⟩ := send writer.waiting disguise h writer machine
  dsimp only at e ⊢
  rw [e]
  rcases writer.send machine writer.waiting with ⟨_ | _, writer', machine'⟩ <;>
    exact ⟨disguise', h', rfl⟩

theorem accept (bytes : Bytes) : Act.Overlooks D (accept · · bytes) :=
  ite (wait fun writer => (.ok (), writer.withWaiting (writer.waiting ++ bytes))) (send bytes)

theorem hold (bytes : Bytes) : Act.Overlooks D (hold · · bytes) :=
  ite (andThen (flush send) (accept send bytes)) (accept send bytes)

theorem sendLines (lines : Bytes) : Act.Overlooks D (sendLines · · lines) := by
  unfold Writer.sendLines
  exact ite (ite (flush send) (wait fun writer => (.ok (), writer)))
    (ite (send lines) (andThen (hold send lines) (flush send)))

theorem write (bytes : Bytes) : Act.Overlooks D (write · · bytes) := by
  intro disguise h writer machine
  dsimp only [Writer.write]
  split
  · exact andThen (sendLines send _) (hold send _) disguise h _ machine
  · exact hold send bytes disguise h writer machine

end Act.Overlooks

end Writer

/-! ### Waiting in front of a file -/

namespace Writer

/-- Nothing is sent where nothing waits. -/
theorem flush_of_idle (writer : Writer) (idle : writer.waiting = []) (machine : Machine) :
    writer.flush machine = (.ok (), writer, machine) :=
  if_pos idle

theorem write_memory (collected : Bytes) (machine : Machine) (bytes : Bytes) :
    (memory collected).write machine bytes = (.ok (), .memory (collected ++ bytes), machine) := by
  simp only [write, hold, Act.andThen, flush_of_idle (memory collected) rfl, accept, room,
    Nat.not_lt_zero, if_false, ite_self, send]

variable {file : OpenFile} {waiting : Bytes} {machine : Machine}

theorem flush_buffered (file : OpenFile) (waiting : Bytes) (machine : Machine) :
    (buffered file waiting).flush machine = match machine.tree.write file waiting with
      | .error e => (.error e, buffered file waiting, machine)
      | .ok (file, tree) => (.ok (), buffered file [], { machine with tree }) := by
  by_cases none : waiting = []
  · subst none
    simp [flush_of_idle (buffered file []) rfl, FileTree.write]
  · simp only [flush, Writer.waiting, none, if_false, send]
    cases machine.tree.write file waiting <;> rfl

theorem accept_buffered (file : OpenFile) (waiting : Bytes) (machine : Machine) (bytes : Bytes) :
    (buffered file waiting).accept machine bytes =
      if bytes.length < bufferSize then (.ok (), buffered file (waiting ++ bytes), machine)
      else match machine.tree.write file bytes with
        | .error e => (.error e, buffered file waiting, machine)
        | .ok (file, tree) => (.ok (), buffered file waiting, { machine with tree }) :=
  rfl

theorem write_buffered (file : OpenFile) (waiting : Bytes) (machine : Machine) (bytes : Bytes) :
    (buffered file waiting).write machine bytes =
      if bufferSize < waiting.length + bytes.length then
        Act.andThen flush (accept · · bytes) (buffered file waiting) machine
      else (buffered file waiting).accept machine bytes :=
  rfl

/-- **A flush** at the end of a file adds what waits. -/
theorem flush_of_atEnd (h : file.AtEnd machine.tree)
    (takes : waiting ≠ [] → machine.tree.refusal? file.location = none) :
    ∃ offset, (buffered file waiting).flush machine
        = (.ok (), .buffered { file with offset } [],
          { machine with tree := machine.tree.extend file.location waiting })
      ∧ OpenFile.AtEnd { file with offset } (machine.tree.extend file.location waiting) := by
  obtain ⟨offset, e, h⟩ := FileTree.write_of_atEnd h takes
  exact ⟨offset, by simp only [flush_buffered, e], h⟩

/-- Bytes that fit wait, and others go to the file at once if nothing waits in front of it. -/
theorem accept_of_atEnd {bytes : Bytes} (h : file.AtEnd machine.tree)
    (takes : bytes ≠ [] → machine.tree.refusal? file.location = none)
    (free : bytes.length < bufferSize ∨ waiting = []) :
    ∃ offset sent waiting', (buffered file waiting).accept machine bytes
        = (.ok (), .buffered { file with offset } waiting',
          { machine with tree := machine.tree.extend file.location sent })
      ∧ sent ++ waiting' = waiting ++ bytes
      ∧ OpenFile.AtEnd { file with offset } (machine.tree.extend file.location sent) := by
  rw [accept_buffered]
  by_cases fits : bytes.length < bufferSize
  · exact ⟨file.offset, [], waiting ++ bytes, by simp [fits], by simp, by simpa using h⟩
  · obtain rfl : waiting = [] := free.resolve_left fits
    obtain ⟨offset, e, h⟩ := FileTree.write_of_atEnd h takes
    exact ⟨offset, bytes, [], by simp only [fits, if_false, e], by simp, h⟩

/-- **A write** at the end of a file sends on a part of what waited and was written, and keeps back
the rest, in this order. -/
theorem write_of_atEnd {bytes : Bytes} (h : file.AtEnd machine.tree)
    (takes : waiting ++ bytes ≠ [] → machine.tree.refusal? file.location = none) :
    ∃ offset sent waiting', (buffered file waiting).write machine bytes
        = (.ok (), .buffered { file with offset } waiting',
          { machine with tree := machine.tree.extend file.location sent })
      ∧ sent ++ waiting' = waiting ++ bytes
      ∧ OpenFile.AtEnd { file with offset } (machine.tree.extend file.location sent) := by
  have takes₁ : waiting ≠ [] → machine.tree.refusal? file.location = none :=
    fun hw => takes (by simp [hw])
  have takes₂ : bytes ≠ [] → machine.tree.refusal? file.location = none :=
    fun hb => takes (by simp [hb])
  rw [write_buffered]
  by_cases full : bufferSize < waiting.length + bytes.length
  · obtain ⟨offset₁, e₁, h₁⟩ := flush_of_atEnd h takes₁
    obtain ⟨offset, sent, waiting', e, split, h⟩ := @accept_of_atEnd _ []
      { machine with tree := machine.tree.extend file.location waiting } bytes h₁
      (fun hb => (FileTree.refusal?_extend ..).trans (takes₂ hb)) (Or.inr rfl)
    refine ⟨offset, waiting ++ sent, waiting', ?_, ?_, ?_⟩
    · simp only [full, if_true, Act.andThen, e₁, e, FileTree.extend_extend]
    · rw [List.append_assoc, split, List.nil_append]
    · rwa [FileTree.extend_extend] at h
  · have free : bytes.length < bufferSize ∨ waiting = [] := by
      rw [← List.length_eq_zero_iff]
      omega
    obtain ⟨offset, sent, waiting', e, split, h⟩ := accept_of_atEnd h takes₂ free
    exact ⟨offset, sent, waiting', by simpa only [full, if_false] using e, split, h⟩

end Writer

/-! ### Numbered streams -/

namespace World

/-- The location of the file that a stream goes to, if it goes to one. -/
def location? (w : World) (id : WriterId) : Option Location :=
  match w.writers[id]? with
  | some (.buffered file _) => some file.location
  | _ => none

/-- Whether a stream keeps nothing back. -/
def Idle (w : World) (id : WriterId) : Prop :=
  ∀ writer, w.writers[id]? = some writer → writer.waiting = []

theorem Idle.congr {w w' : World} {id : WriterId} (h : w.Idle id)
    (same : w'.writers[id]? = w.writers[id]?) : w'.Idle id := by
  rwa [Idle, same]

theorem location?_of_buffered {w : World} {id : WriterId} {file : OpenFile} {waiting : Bytes}
    (h : w.writers[id]? = some (.buffered file waiting)) : w.location? id = some file.location := by
  rw [location?, h]

theorem exists_buffered {w : World} {id : WriterId} {location : Location}
    (h : w.location? id = some location) :
    ∃ file waiting, w.writers[id]? = some (.buffered file waiting) ∧ file.location = location := by
  unfold location? at h
  split at h
  · exact ⟨_, _, ‹_›, Option.some.inj h⟩
  · cases h

theorem lt_of_location? {w : World} {id : WriterId} {location : Location}
    (h : w.location? id = some location) : id < w.writers.length := by
  obtain ⟨_, _, e, -⟩ := exists_buffered h
  exact (List.getElem?_eq_some_iff.mp e).1

/-- A world after a stream to a file was given some bytes.  A part of what waited and of these went
to the end of the file, and the rest of them waits. -/
inductive Passed (w : World) (id : WriterId) (bytes : Bytes) : World → Prop where
  | intro {file : OpenFile} {waiting sent waiting' : Bytes} {offset : Nat}
      (h : w.writers[id]? = some (.buffered file waiting))
      (split : sent ++ waiting' = waiting ++ bytes)
      (atEnd : OpenFile.AtEnd { file with offset } (w.machine.tree.extend file.location sent)) :
      Passed w id bytes
        { w with
          writers := w.writers.set id (.buffered { file with offset } waiting')
          machine.tree := w.machine.tree.extend file.location sent }

namespace Passed

variable {w w' : World} {id other : WriterId} {bytes : Bytes}

theorem writers_of_ne (h : Passed w id bytes w') (ne : other ≠ id) :
    w'.writers[other]? = w.writers[other]? := by
  cases h
  exact List.getElem?_set_ne ne.symm

/-- Every stream stays at its file. -/
theorem location? (h : Passed w id bytes w') (other : WriterId) :
    w'.location? other = w.location? other := by
  by_cases ne : other = id
  · subst ne
    cases h with
    | intro h =>
        have lt := (List.getElem?_eq_some_iff.mp h).1
        rw [location?_of_buffered h, location?_of_buffered (List.getElem?_set_self lt)]
  · rw [World.location?, World.location?, h.writers_of_ne ne]

end Passed

theorem useWriter_on {w : World} {id : WriterId} {writer writer' : Writer} {machine : Machine}
    {result : Except SystemError Unit}
    {act : Writer → Machine → Except SystemError Unit × Writer × Machine}
    (h : w.writers[id]? = some writer) (e : act writer w.machine = (result, writer', machine)) :
    (useWriter id act).on w
      = (result, { w with machine, writers := w.writers.set id writer' }) := by
  simp only [useWriter, Effect.on, h, e]

theorem result_useWriter {w : World} {id : WriterId} {writer : Writer} (act : Writer.Act)
    (h : w.writers[id]? = some writer) :
    ((useWriter id act).on w).1 = (act writer w.machine).1 := by
  simp only [useWriter, Effect.on, h]

/-- **A write** to a stream whose file takes it. -/
theorem write_passed {w : World} {id : WriterId} {file : OpenFile} {waiting bytes : Bytes}
    (h : w.writers[id]? = some (.buffered file waiting)) (atEnd : file.AtEnd w.machine.tree)
    (takes : waiting ++ bytes ≠ [] →
      w.machine.tree.refusal? file.location = none) :
    ∃ w', (write id bytes).on w = (.ok (), w') ∧ Passed w id bytes w' := by
  obtain ⟨offset, sent, waiting', e, split, atEnd⟩ := Writer.write_of_atEnd atEnd takes
  exact ⟨_, useWriter_on h e, .intro h split atEnd⟩

/-- **A flush** of a stream whose file takes what waits. -/
theorem flush_passed {w : World} {id : WriterId} {file : OpenFile} {waiting : Bytes}
    (h : w.writers[id]? = some (.buffered file waiting)) (atEnd : file.AtEnd w.machine.tree)
    (takes : waiting ≠ [] → w.machine.tree.refusal? file.location = none) :
    ∃ w', (flush id).on w = (.ok (), w') ∧ Passed w id [] w' ∧ w'.Idle id := by
  obtain ⟨offset, e, atEnd⟩ := Writer.flush_of_atEnd atEnd takes
  refine ⟨_, useWriter_on h e, .intro h (by simp) atEnd, fun writer e => ?_⟩
  rw [List.getElem?_set_self (List.getElem?_eq_some_iff.mp h).1] at e
  cases e
  rfl

theorem set_of_getElem? {w : World} {id : WriterId} {writer : Writer}
    (found : w.writers[id]? = some writer) : w.writers.set id writer = w.writers := by
  obtain ⟨lt, found⟩ := List.getElem?_eq_some_iff.mp found
  rw [← found, List.set_getElem_self]

/-- A flush does nothing where nothing waits. -/
theorem flush_on_of_idle {w : World} {id : WriterId} (idle : w.Idle id) :
    (flush id).on w = (.ok (), w) := by
  cases e : w.writers[id]? with
  | none => simp only [flush, useWriter, Effect.on, e]
  | some writer =>
      rw [flush, useWriter_on e (Writer.flush_of_idle _ (idle writer e) w.machine),
        set_of_getElem? e]

theorem writers_useWriter_of_ne {id other : WriterId} (ne : other ≠ id)
    (act : Writer → Machine → Except SystemError Unit × Writer × Machine) (w : World) :
    ((useWriter id act).on w).2.writers[other]? = w.writers[other]? := by
  simp only [useWriter, Effect.on]
  split
  · rfl
  · exact List.getElem?_set_ne ne.symm

theorem writers_flush_of_ne {id other : WriterId} (ne : other ≠ id) (w : World) :
    ((flush id).on w).2.writers[other]? = w.writers[other]? :=
  writers_useWriter_of_ne ne Writer.flush w

end World

/-! ### Bindings -/

namespace Binding

variable {io : Binding}

theorem flush_on_of_idle {w : World} (output : w.Idle io.output) (error : w.Idle io.error) :
    io.flush.on w = (.ok (), w) := by
  rw [flush, Effect.on_bind_ok (World.flush_on_of_idle output)]
  split
  · exact World.flush_on_of_idle error
  · rfl

theorem flushOwned_eq (io : Binding) : io.flushOwned =
    (if io.owned.output then World.flush io.output else pure ()) >>= fun _ =>
      if io.owned.error && !(io.owned.output && io.isMerged) then World.flush io.error
      else pure () := by
  unfold flushOwned
  cases io.owned.output <;> simp

theorem settle_if (wanted : Bool) (id : WriterId) (w : World) :
    (if wanted then settle id w else w)
      = ((if wanted then World.flush id else pure () : Effect SystemError Unit).on w).2 := by
  cases wanted <;> rfl

theorem writers_flush_if {wanted : Bool} {id other : WriterId} (ne : wanted → other ≠ id)
    (w : World) :
    ((if wanted then World.flush id else pure () : Effect SystemError Unit).on w).2.writers[other]?
      = w.writers[other]? := by
  cases wanted with
  | false => rfl
  | true => exact World.writers_flush_of_ne (ne rfl) w

theorem writers_flushOwned {id : WriterId} (output : io.owned.output → id ≠ io.output)
    (error : io.owned.error → id ≠ io.error) (w : World) :
    (io.flushOwned.on w).2.writers[id]? = w.writers[id]? := by
  rw [flushOwned_eq]
  refine @Effect.after_bind _ _ _ (fun w' => w'.writers[id]? = w.writers[id]?) _ _ w
    (writers_flush_if output w) fun _ w' first => ?_
  exact (writers_flush_if (fun wanted => error (Bool.and_eq_true_iff.mp wanted).1) w').trans first

/-- **Ending a binding** is a flush of its own streams, a warning if it was refused, and a last
attempt for each: what holds after the first, and goes on to hold through the others, holds at the
end. -/
theorem after_discard {P : World → Prop} {w : World} (flushed : P (io.flushOwned.on w).2)
    (warned : ∀ w message, P w → P (World.warn w message))
    (output : io.owned.output → ∀ w, P w → P (settle io.output w))
    (error : io.owned.error → ∀ w, P w → P (settle io.error w)) : P (io.discard w) := by
  have settled : ∀ {wanted : Bool} {id : WriterId}, (wanted → ∀ w, P w → P (settle id w)) →
      ∀ {w}, P w → P (if wanted then settle id w else w) := by
    intro wanted id step w before
    cases wanted with
    | false => exact before
    | true => exact step rfl w before
  unfold discard
  revert flushed
  rcases io.flushOwned.on w with ⟨e | _, w'⟩ <;> intro flushed
  · exact settled error (settled output (warned w' _ flushed))
  · exact settled error (settled output flushed)

/-- What goes on to hold through flushes and warnings goes on to hold through a release. -/
theorem after_release {P : World → Prop} {w : World}
    (flushed : ∀ id w, P w → P ((World.flush id).on w).2)
    (warned : ∀ w message, P w → P (World.warn w message)) (before : P w) :
    P (io.release.on w).2 := by
  have flushedIf : ∀ wanted id w, P w →
      P ((if wanted = true then World.flush id else pure () : Effect SystemError Unit).on w).2 := by
    intro wanted id w before
    cases wanted with
    | false => exact before
    | true => exact flushed id w before
  have flushedOwned : ∀ w, P w → P (io.flushOwned.on w).2 := by
    intro w before
    rw [flushOwned_eq]
    exact Effect.after_bind (flushedIf _ _ w before) fun _ w' => flushedIf _ _ w'
  exact after_discard (flushedOwned _ (flushedOwned w before)) warned
    (fun _ => flushed io.output) fun _ => flushed io.error

/-- **A release** leaves every stream as it is that was not opened for the binding. -/
theorem writers_release {id : WriterId} (output : io.owned.output → id ≠ io.output)
    (error : io.owned.error → id ≠ io.error) (w : World) :
    (io.release.on w).2.writers[id]? = w.writers[id]? := by
  have warned : ∀ (w : World) message, (w.warn message).writers = w.writers := by
    intro w message
    unfold World.warn World.record
    split <;> rfl
  have once := writers_flushOwned output error
  refine @after_discard io (fun w' => w'.writers[id]? = w.writers[id]?) (io.flushOwned.on w).2
    ((once _).trans (once w)) (fun w' message same => ?_) (fun own w' same => ?_)
    fun own w' same => ?_
  · rwa [warned]
  · exact (World.writers_flush_of_ne (output own) w').trans same
  · exact (World.writers_flush_of_ne (error own) w').trans same

end Binding

end Shell
