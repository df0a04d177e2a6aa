import Shell.Proofs.Nesting
import Shell.Proofs.Preserving
import Shell.Proofs.Printing

/-!
# Streams — accepting and refusing

A stream to a file accepts the bytes that it is given or refuses them, all of them.  Some files take
no bytes, and nor does some console; a stream that keeps something back for one of these is stuck
(`World.Stuck`).

* `World.flush_on_eq_error_iff`: a flush fails where a stream is stuck, and nowhere else, and it
  fails for the reason that what the stream goes to has.
* `World.SameFiles`: whatever becomes of a write or a flush, every stream goes where it went, and
  each file is what it was.
* `World.given_write`, `World.given_flush`: bytes given to a stream at the end of its file are
  passed on or refused (`World.Given`).
-/

namespace Shell

/-! ### Files that take no bytes -/

theorem FileTree.write_eq_error_iff {tree : FileTree} {file : OpenFile} {bytes : Bytes}
    {cause : SystemError} (writes : file.mode ≠ .read) :
    tree.write file bytes = .error cause
      ↔ bytes ≠ [] ∧ tree.refusal? file.location = some cause := by
  unfold write
  split
  · simp [*]
  · split
    · rename_i at'
      have takes : tree.refusal? file.location = none := by
        rw [refusal?, at']
        rfl
      split <;> simp [*]
    · split <;> simp [*]

/-- A write leaves an open file where it is, and of each file what it is. -/
theorem FileTree.outline_of_write {tree tree' : FileTree} {file file' : OpenFile} {bytes : Bytes}
    (h : tree.write file bytes = .ok (file', tree')) :
    file'.location = file.location ∧ file'.mode = file.mode ∧ tree'.outline = tree.outline := by
  have rewritten : ∀ {bits content content'}, tree.get? file.location = some (.file bits content) →
      (tree.put file.location (.file bits content')).outline = tree.outline := by
    intro bits content content' at'
    rw [outline_put]
    refine put_get? (ne_nil_of_get?_file at') ?_
    rw [get?_outline, at']
    rfl
  unfold write at h
  split at h
  · cases h
    exact ⟨rfl, rfl, rfl⟩
  split at h
  · cases h
  split at h
  · rename_i at'
    split at h <;> cases h <;> exact ⟨rfl, rfl, rewritten at'⟩
  split at h
  · cases h
  · cases h
    exact ⟨rfl, rfl, rfl⟩

/-- Where a stream goes and how its file was opened, if it goes to a file. -/
def Writer.opened? : Writer → Option (Location × OpenMode)
  | buffered file _ => some (file.location, file.mode)
  | _ => none

/-- Why what a stream goes to takes no bytes, if it takes none. -/
def Writer.refusal? (machine : Machine) : Writer → Option SystemError
  | memory _ => none
  | console channel _ => machine.console.refusal? channel
  | buffered file _ => machine.tree.refusal? file.location

namespace World

variable {w w' w'' : World} {id other : WriterId} {bytes : Bytes}

/-- Where a numbered stream goes and how its file was opened, if it goes to a file. -/
def opened? (w : World) (id : WriterId) : Option (Location × OpenMode) :=
  w.writers[id]?.bind Writer.opened?

theorem opened?_of_buffered {file : OpenFile} {waiting : Bytes}
    (h : w.writers[id]? = some (.buffered file waiting)) :
    w.opened? id = some (file.location, file.mode) := by
  rw [opened?, h]
  rfl

theorem exists_of_opened? {location : Location} {mode : OpenMode}
    (h : w.opened? id = some (location, mode)) : ∃ file waiting,
      w.writers[id]? = some (.buffered file waiting) ∧ file.location = location
        ∧ file.mode = mode := by
  obtain ⟨writer, found, opened⟩ := Option.bind_eq_some_iff.mp h
  cases writer with
  | buffered file waiting =>
      cases opened
      exact ⟨file, waiting, found, rfl, rfl⟩
  | memory | console => cases opened

theorem location?_eq_map (w : World) (id : WriterId) :
    w.location? id = (w.opened? id).map Prod.fst := by
  rw [location?, opened?]
  cases w.writers[id]? with
  | none => rfl
  | some writer => cases writer <;> rfl

/-- Why what a numbered stream goes to takes no bytes, if it takes none. -/
def refusal? (w : World) (id : WriterId) : Option SystemError :=
  w.writers[id]?.bind (Writer.refusal? w.machine)

/-- Whether a stream goes to something that takes no bytes. -/
def IsBlocked (w : World) (id : WriterId) : Prop :=
  ∃ cause, w.refusal? id = some cause

/-- Whether something waits that is refused for some reason. -/
def StuckFor (w : World) (id : WriterId) (cause : SystemError) : Prop :=
  ¬ w.Idle id ∧ w.refusal? id = some cause

/-- Whether something waits that is refused. -/
def Stuck (w : World) (id : WriterId) : Prop :=
  ∃ cause, w.StuckFor id cause

theorem refusal?_of_getElem? {writer : Writer} (found : w.writers[id]? = some writer) :
    w.refusal? id = writer.refusal? w.machine := by
  rw [refusal?, found]
  rfl

theorem isBlocked_iff_of_buffered {file : OpenFile} {waiting : Bytes}
    (h : w.writers[id]? = some (.buffered file waiting)) :
    ¬ w.IsBlocked id ↔ w.machine.tree.refusal? file.location = none := by
  simp [IsBlocked, refusal?_of_getElem? h, Writer.refusal?, Option.eq_none_iff_forall_ne_some]

theorem idle_iff_of_getElem? {writer : Writer} (found : w.writers[id]? = some writer) :
    w.Idle id ↔ writer.waiting = [] :=
  ⟨fun idle => idle writer found, fun none writer' found' => by
    cases found.symm.trans found'
    exact none⟩

end World

/-- What a stream sends is refused for the reason that what it goes to has. -/
theorem Writer.send_eq_error_iff {writer : Writer} {machine : Machine} {bytes : Bytes}
    {cause : SystemError} (writes : ∀ location mode, writer.opened? = some (location, mode) →
      mode ≠ .read) : (writer.send machine bytes).1 = .error cause
        ↔ bytes ≠ [] ∧ writer.refusal? machine = some cause := by
  cases writer with
  | memory collected => simp [send, refusal?]
  | console channel waiting =>
      rw [refusal?, ← Console.pass_eq_error_iff]
      dsimp only [send]
      cases machine.console.pass channel bytes <;> simp
  | buffered file waiting =>
      rw [refusal?, ← FileTree.write_eq_error_iff (writes _ _ rfl)]
      dsimp only [send]
      cases machine.tree.write file bytes <;> simp

namespace World

variable {w w' w'' : World} {id other : WriterId} {bytes : Bytes}

/-- **A flush fails** only where a stream is stuck, and then always. -/
theorem flush_on_eq_error_iff {cause : SystemError}
    (writes : ∀ location mode, w.opened? id = some (location, mode) → mode ≠ .read) :
    ((flush id).on w).1 = .error cause ↔ w.StuckFor id cause := by
  cases found : w.writers[id]? with
  | none => simp [flush, useWriter, Effect.on, StuckFor, refusal?, found]
  | some writer =>
      have opened : w.opened? id = writer.opened? := by
        rw [opened?, found]
        rfl
      have refused := @Writer.send_eq_error_iff writer w.machine writer.waiting cause
        (opened ▸ writes)
      rw [flush, result_useWriter Writer.flush found, StuckFor, idle_iff_of_getElem? found,
        refusal?_of_getElem? found, ← ne_eq, ← refused]
      by_cases none : writer.waiting = []
      · rw [Writer.flush_of_idle _ none, refused]
        simp [none]
      · simp only [Writer.flush, none, if_false]
        rcases writer.send w.machine writer.waiting with ⟨_ | _, _⟩ <;> simp

/-! ### Worlds with the same files -/

/-- Whether each stream goes where it went in another world, and each file is what it was there,
whatever it holds; and what takes no bytes took none there. -/
structure SameFiles (w w' : World) : Prop where
  opened : ∀ id, w'.opened? id = w.opened? id
  outline : w'.machine.tree.outline = w.machine.tree.outline
  refusal : ∀ id, w'.refusal? id = w.refusal? id

namespace SameFiles

theorem refl (w : World) : w.SameFiles w :=
  ⟨fun _ => rfl, rfl, fun _ => rfl⟩

theorem trans (h : w.SameFiles w') (h' : w'.SameFiles w'') : w.SameFiles w'' :=
  ⟨fun id => (h'.opened id).trans (h.opened id), h'.outline.trans h.outline,
    fun id => (h'.refusal id).trans (h.refusal id)⟩

theorem location? (h : w.SameFiles w') (id : WriterId) : w'.location? id = w.location? id := by
  rw [location?_eq_map, location?_eq_map, h.opened]

theorem isBlocked_iff (h : w.SameFiles w') : w'.IsBlocked id ↔ w.IsBlocked id := by
  simp only [IsBlocked, h.refusal]

theorem stuckFor_iff (h : w.SameFiles w') (same : w'.writers[id]? = w.writers[id]?)
    (cause : SystemError) : w'.StuckFor id cause ↔ w.StuckFor id cause := by
  simp only [StuckFor, Idle, same, h.refusal]

end SameFiles

end World

namespace Writer

/-- What a stream goes to takes no bytes for the same reason as long as it is the same. -/
theorem refusal?_congr {writer writer' : Writer} {machine machine' : Machine}
    (kind : writer'.kind = writer.kind) (opened : writer'.opened? = writer.opened?)
    (outline : machine'.tree.outline = machine.tree.outline)
    (refusal : machine'.console.refusal? = machine.console.refusal?) :
    writer'.refusal? machine' = writer.refusal? machine := by
  have file : ∀ location, machine'.tree.refusal? location = machine.tree.refusal? location := by
    intro location
    rw [← FileTree.refusal?_outline, outline, FileTree.refusal?_outline]
  cases writer with
  | memory collected =>
      cases writer' with
      | memory => rfl
      | console | buffered => cases kind
  | console channel waiting =>
      cases writer' with
      | console channel' waiting' =>
          cases kind
          exact congrFun refusal channel
      | memory | buffered => cases kind
  | buffered opened' waiting =>
      cases writer' with
      | buffered =>
          simp only [opened?, Option.some.injEq, Prod.mk.injEq] at opened
          rw [refusal?, refusal?, opened.1, file]
      | memory | console => cases kind

/-- Whether something that is done with a stream leaves it where it goes, and each file what it
is. -/
def SameFile (act : Act) : Prop :=
  Act.Respects act fun before after => after.1.opened? = before.1.opened?
    ∧ after.2.tree.outline = before.2.tree.outline

theorem stepwise_sameFile : Stepwise fun before after => after.1.opened? = before.1.opened?
    ∧ after.2.tree.outline = before.2.tree.outline where
  refl _ := ⟨rfl, rfl⟩
  trans h h' := ⟨h'.1.trans h.1, h'.2.trans h.2⟩
  send bytes writer machine := by
    cases writer with
    | memory => exact ⟨rfl, rfl⟩
    | console channel waiting =>
        dsimp only [send]
        cases machine.console.pass channel bytes <;> exact ⟨rfl, rfl⟩
    | buffered file waiting =>
        dsimp only [send]
        cases written : machine.tree.write file bytes with
        | error => exact ⟨rfl, rfl⟩
        | ok after =>
            obtain ⟨location, mode, outline⟩ := FileTree.outline_of_write written
            exact ⟨by simp only [opened?, location, mode], outline⟩
  wait writer _ _ _ := ⟨by cases writer <;> rfl, rfl⟩

end Writer

namespace World

variable {w w' : World} {id : WriterId} {bytes : Bytes}

theorem SameFiles.useWriter {act : Writer.Act} (same : Writer.SameFile act)
    (keeps : Writer.Keeps act) (id : WriterId) (w : World) :
    w.SameFiles ((World.useWriter id act).on w).2 := by
  cases found : w.writers[id]? with
  | none =>
      simp only [World.useWriter, Effect.on, found]
      exact .refl w
  | some writer =>
      rw [useWriter_on found rfl]
      obtain ⟨opened, outline⟩ := same writer w.machine
      obtain ⟨-, refusal, -, kind, -⟩ := keeps writer w.machine
      have lt := (List.getElem?_eq_some_iff.mp found).1
      refine ⟨fun other => ?_, outline, fun other => ?_⟩
      · by_cases at' : other = id
        · subst at'
          rw [opened?, opened?, found, List.getElem?_set_self lt]
          exact opened
        · exact congrArg (Option.bind · Writer.opened?) (List.getElem?_set_ne (Ne.symm at'))
      · by_cases at' : other = id
        · subst at'
          rw [refusal?_of_getElem? found, refusal?_of_getElem? (List.getElem?_set_self lt)]
          exact Writer.refusal?_congr kind opened outline refusal
        · rw [World.refusal?, World.refusal?, List.getElem?_set_ne (Ne.symm at')]
          exact congrArg (Option.bind _) (funext fun _ =>
            Writer.refusal?_congr rfl rfl outline refusal)

theorem SameFiles.write (id : WriterId) (bytes : Bytes) (w : World) :
    w.SameFiles ((World.write id bytes).on w).2 :=
  .useWriter (Writer.stepwise_sameFile.write bytes) (Writer.keeps_write bytes) id w

theorem SameFiles.flush (id : WriterId) (w : World) : w.SameFiles ((World.flush id).on w).2 :=
  .useWriter Writer.stepwise_sameFile.flush Writer.keeps_flush id w

theorem SameFiles.print (id : WriterId) (pieces : List String) (w : World) :
    w.SameFiles ((World.print id pieces).on w).2 := by
  induction pieces generalizing w with
  | nil => exact .refl w
  | cons piece rest ih =>
      rw [print_cons]
      exact Effect.after_bind (.write id _ w) fun _ w' first => first.trans (ih w')

theorem Passed.sameFiles (h : Passed w id bytes w') : w.SameFiles w' := by
  cases h with
  | @intro file waiting sent waiting' offset found =>
      have lt := (List.getElem?_eq_some_iff.mp found).1
      have refusal : ∀ location, (w.machine.tree.extend file.location sent).refusal? location
          = w.machine.tree.refusal? location := fun _ => FileTree.refusal?_extend ..
      refine ⟨fun other => ?_, FileTree.outline_extend .., fun other => ?_⟩
      · by_cases at' : other = id
        · subst at'
          rw [opened?_of_buffered found, opened?_of_buffered (List.getElem?_set_self lt)]
        · exact congrArg (Option.bind · Writer.opened?) (List.getElem?_set_ne (Ne.symm at'))
      · by_cases at' : other = id
        · subst at'
          rw [refusal?_of_getElem? found, refusal?_of_getElem? (List.getElem?_set_self lt)]
          exact refusal file.location
        · rw [World.refusal?, World.refusal?, List.getElem?_set_ne (Ne.symm at')]
          refine congrArg (Option.bind _) (funext fun writer => ?_)
          cases writer with
          | buffered file' => exact refusal file'.location
          | memory | console => rfl

/-! ### What becomes of a write -/

/-- Whether two worlds have the same files and the same streams to them, whatever else they have. -/
structure Aside (w w' : World) : Prop where
  tree : w'.machine.tree = w.machine.tree
  buffered : ∀ (id : WriterId) (file : OpenFile) (waiting : Bytes),
    w'.writers[id]? = some (.buffered file waiting)
      ↔ w.writers[id]? = some (.buffered file waiting)
  refusal : ∀ id, w'.refusal? id = w.refusal? id

theorem Aside.refl (w : World) : w.Aside w :=
  ⟨rfl, fun _ _ _ => Iff.rfl, fun _ => rfl⟩

theorem Aside.record (w : World) (level : Level) (topic message : String) :
    w.Aside (w.record level topic message) := by
  unfold World.record
  split
  · cases w.log.display with
    | none => exact ⟨rfl, fun _ _ _ => Iff.rfl, fun _ => rfl⟩
    | some display =>
        refine ⟨rfl, fun _ _ _ => Iff.rfl, fun id => congrArg (Option.bind _) ?_⟩
        exact funext fun writer => Writer.refusal?_congr rfl rfl rfl (Console.refusal?_shown ..)
  · exact .refl w

theorem Aside.sameFiles (h : w.Aside w') : w.SameFiles w' where
  opened id := by
    refine Option.ext fun ⟨location, mode⟩ => ?_
    constructor <;> intro e <;> obtain ⟨file, waiting, found, rfl, rfl⟩ := exists_of_opened? e
    · exact opened?_of_buffered ((h.buffered id file waiting).mp found)
    · exact opened?_of_buffered ((h.buffered id file waiting).mpr found)
  outline := by rw [h.tree]
  refusal := h.refusal

/-- What becomes of bytes that a stream is given: they are accepted and passed on to its file, if it
takes any; or its file takes none, and they are kept or refused; or there is no file, and they are
accepted unless something takes no bytes there. -/
inductive Given (w : World) (id : WriterId) (bytes : Bytes) :
    Except SystemError Unit → World → Prop where
  | passed {w' : World} (free : ¬ w.IsBlocked id) (h : Passed w id bytes w') :
      Given w id bytes (.ok ()) w'
  | kept {file : OpenFile} {waiting : Bytes}
      (found : w.writers[id]? = some (.buffered file waiting)) :
      Given w id bytes (.ok ())
        { w with writers := w.writers.set id (.buffered file (waiting ++ bytes)) }
  | refused {cause : SystemError} (blocked : w.refusal? id = some cause) :
      Given w id bytes (.error cause) w
  | aside {result : Except SystemError Unit} {w' : World} (unfiled : w.location? id = none)
      (accepted : ¬ w.IsBlocked id → result = .ok ()) (h : w.Aside w') :
      Given w id bytes result w'

end World

namespace Writer

/-- Whether a stream goes to something that takes bytes. -/
def Takes (writer : Writer) (machine : Machine) : Prop :=
  writer.refusal? machine = none
    ∧ ∀ location mode, writer.opened? = some (location, mode) → mode ≠ .read

/-- Whether something that is done with a stream that goes to something that takes bytes succeeds,
and the stream goes there still. -/
def Act.Succeeds (act : Act) : Prop :=
  ∀ writer machine, writer.Takes machine →
    (act writer machine).1 = .ok () ∧ (act writer machine).2.1.Takes (act writer machine).2.2

/-- What leaves a stream where it goes leaves it to something that takes bytes. -/
theorem Takes.of_respects {act : Act} (same : SameFile act) (keeps : Keeps act) {writer : Writer}
    {machine : Machine} (h : writer.Takes machine) :
    (act writer machine).2.1.Takes (act writer machine).2.2 := by
  obtain ⟨opened, outline⟩ := same writer machine
  obtain ⟨-, refusal, -, kind, -⟩ := keeps writer machine
  exact ⟨(refusal?_congr kind opened outline refusal).trans h.1, fun location mode e =>
    h.2 location mode (opened.symm.trans e)⟩

namespace Act.Succeeds

theorem send (bytes : Bytes) : Act.Succeeds (Writer.send · · bytes) := by
  intro writer machine takes
  refine ⟨?_, takes.of_respects (stepwise_sameFile.send bytes) (stepwise_kept.send bytes)⟩
  cases result : (writer.send machine bytes).1 with
  | ok => rfl
  | error cause =>
      have refused := ((send_eq_error_iff takes.2).mp result).2
      rw [takes.1] at refused
      cases refused

theorem andThen {first second : Act} (hf : first.Succeeds) (hs : second.Succeeds) :
    (first.andThen second).Succeeds := by
  intro writer machine takes
  have before := hf writer machine takes
  unfold Act.andThen
  revert before
  rcases first writer machine with ⟨_ | _, writer', machine'⟩ <;> rintro ⟨ok, takes'⟩
  · cases ok
  · exact hs writer' machine' takes'

theorem flush : Act.Succeeds Writer.flush := by
  intro writer machine takes
  refine ⟨?_, takes.of_respects stepwise_sameFile.flush keeps_flush⟩
  have sent := (send writer.waiting writer machine takes).1
  unfold Writer.flush
  split
  · rfl
  · revert sent
    dsimp only
    rcases writer.send machine writer.waiting with ⟨_ | _, _⟩ <;> intro sent
    · cases sent
    · rfl

theorem accept (bytes : Bytes) : Act.Succeeds (Writer.accept · · bytes) := by
  intro writer machine takes
  refine ⟨?_, takes.of_respects (stepwise_sameFile.accept bytes) (stepwise_kept.accept bytes)⟩
  dsimp only [Writer.accept]
  split
  · rfl
  · exact (send bytes writer machine takes).1

theorem hold (bytes : Bytes) : Act.Succeeds (Writer.hold · · bytes) := by
  intro writer machine takes
  dsimp only [Writer.hold]
  split
  · exact flush.andThen (accept bytes) writer machine takes
  · exact accept bytes writer machine takes

theorem sendLines (lines : Bytes) : Act.Succeeds (Writer.sendLines · · lines) := by
  intro writer machine takes
  dsimp only [Writer.sendLines]
  split
  · split
    · exact flush writer machine takes
    · exact ⟨rfl, takes⟩
  · split
    · exact send lines writer machine takes
    · exact (hold lines).andThen flush writer machine takes

theorem write (bytes : Bytes) : Act.Succeeds (Writer.write · · bytes) := by
  intro writer machine takes
  dsimp only [Writer.write]
  split
  · exact (sendLines _).andThen (hold _) _ machine takes
  · exact hold bytes writer machine takes

end Act.Succeeds

/-- Nothing waits any more after a flush that succeeds. -/
theorem waiting_of_flush_ok {writer : Writer} {machine : Machine}
    (h : (writer.flush machine).1 = .ok ()) : (writer.flush machine).2.1.waiting = [] := by
  unfold flush at h ⊢
  split at h
  · rwa [if_pos ‹_›]
  · rw [if_neg ‹_›]
    revert h
    rcases writer.send machine writer.waiting with ⟨_ | _, writer', machine'⟩ <;> intro h
    · cases h
    · cases writer' <;> rfl

/-- A stream to no file stays one, and what is done with it changes no file. -/
theorem stepwise_unfiled : Stepwise fun before after => after.1.kind = before.1.kind
    ∧ (before.1.kind ≠ .file → after.2.tree = before.2.tree) where
  refl _ := ⟨rfl, fun _ => rfl⟩
  trans h h' := ⟨h'.1.trans h.1, fun unfiled => (h'.2 (h.1 ▸ unfiled)).trans (h.2 unfiled)⟩
  send bytes writer machine := by
    refine ⟨(stepwise_kept.send bytes writer machine).kind, fun unfiled => ?_⟩
    cases writer with
    | memory => rfl
    | console channel waiting =>
        dsimp only [send]
        cases machine.console.pass channel bytes <;> rfl
    | buffered => exact absurd rfl unfiled
  wait writer _ _ _ := ⟨by cases writer <;> rfl, fun _ => rfl⟩

/-- A stream whose file takes no bytes keeps those that fit and refuses others. -/
theorem write_of_full {file : OpenFile} {waiting bytes : Bytes} {machine : Machine}
    {cause : SystemError} (writes : file.mode ≠ .read)
    (full : machine.tree.refusal? file.location = some cause) :
    (buffered file waiting).write machine bytes
        = (.ok (), .buffered file (waiting ++ bytes), machine)
      ∨ (buffered file waiting).write machine bytes
        = (.error cause, .buffered file waiting, machine) := by
  have refused : ∀ {bytes}, bytes ≠ [] → machine.tree.write file bytes = .error cause :=
    fun some => (FileTree.write_eq_error_iff writes).mpr ⟨some, full⟩
  have large : ¬ bytes.length < bufferSize → ∀ waiting,
      (buffered file waiting).accept machine bytes
        = (.error cause, .buffered file waiting, machine) := by
    intro large waiting
    have some : bytes ≠ [] := by
      rintro rfl
      exact large (by decide)
    rw [accept_buffered, if_neg large, refused some]
  rw [write_buffered]
  split
  · rename_i tight
    by_cases none : waiting = []
    · subst none
      have many : ¬ bytes.length < bufferSize := by
        rw [List.length_nil] at tight
        omega
      exact .inr (by simp only [Act.andThen, flush_of_idle (.buffered file []) rfl,
        large many])
    · exact .inr (by simp only [Act.andThen, flush_buffered, refused none])
  · by_cases fits : bytes.length < bufferSize
    · exact .inl (by rw [accept_buffered, if_pos fits])
    · exact .inr (large fits waiting)

end Writer

namespace World

variable {w w' : World} {id : WriterId} {bytes : Bytes}

/-- Whether a numbered stream goes to something that takes bytes, if there is one. -/
def Accepts (w : World) (id : WriterId) : Prop :=
  ¬ w.IsBlocked id ∧ ∀ location mode, w.opened? id = some (location, mode) → mode ≠ .read

namespace Accepts

theorem of_sameFiles (h : w.Accepts id) (same : w.SameFiles w') : w'.Accepts id :=
  ⟨mt same.isBlocked_iff.mp h.1, fun location mode e =>
    h.2 location mode ((same.opened id).symm.trans e)⟩

/-- **A stream that goes to something that takes bytes** accepts what is written. -/
theorem write_on (h : w.Accepts id) (bytes : Bytes) : ((write id bytes).on w).1 = .ok () := by
  cases found : w.writers[id]? with
  | none => simp only [write, useWriter, Effect.on, found]
  | some writer =>
      have takes : writer.Takes w.machine := by
        refine ⟨?_, fun location mode e => h.2 location mode ?_⟩
        · rw [← refusal?_of_getElem? found, Option.eq_none_iff_forall_ne_some]
          exact fun cause blocked => h.1 ⟨cause, blocked⟩
        · rw [opened?, found]
          exact e
      rw [write, result_useWriter (Writer.write · · bytes) found]
      exact (Writer.Act.Succeeds.write bytes writer w.machine takes).1

theorem print_on (h : w.Accepts id) (pieces : List String) :
    ((print id pieces).on w).1 = .ok () := by
  induction pieces generalizing w with
  | nil => rfl
  | cons piece rest ih =>
      rw [print_cons, Effect.on_bind_ok (Prod.ext (h.write_on _) rfl)]
      exact ih (h.of_sameFiles (.write id _ w))

/-- Nothing of what it keeps back is refused. -/
theorem flush_on (h : w.Accepts id) : ((flush id).on w).1 = .ok () := by
  cases result : ((flush id).on w).1 with
  | ok => rfl
  | error cause => exact absurd ⟨cause, ((flush_on_eq_error_iff h.2).mp result).2⟩ h.1

end Accepts

/-- What is done with a stream to no file is done aside from all files. -/
theorem aside_of_unfiled {act : Writer.Act} (same : Writer.SameFile act)
    (keeps : Writer.Keeps act) (unfiled : Writer.Act.Respects act fun before after =>
      after.1.kind = before.1.kind ∧ (before.1.kind ≠ .file → after.2.tree = before.2.tree))
    (none : w.location? id = none) : w.Aside ((useWriter id act).on w).2 := by
  have refusal := (SameFiles.useWriter same keeps id w).refusal
  cases found : w.writers[id]? with
  | none =>
      simp only [useWriter, Effect.on, found]
      exact .refl w
  | some writer =>
      have filed : writer.kind ≠ .file := by
        cases writer with
        | buffered => rw [location?_of_buffered found] at none; cases none
        | memory | console => rintro ⟨⟩
      obtain ⟨kind, tree⟩ := unfiled writer w.machine
      rw [useWriter_on found rfl] at refusal ⊢
      refine ⟨tree filed, fun other file waiting => ?_, refusal⟩
      by_cases at' : other = id
      · subst at'
        rw [List.getElem?_set_self (List.getElem?_eq_some_iff.mp found).1, found]
        constructor <;> intro there
        · rw [Option.some.inj there] at kind
          exact absurd kind.symm filed
        · rw [Option.some.inj there] at filed
          exact absurd rfl filed
      · rw [List.getElem?_set_ne (Ne.symm at')]

/-- **A write** to a stream that stands at the end of its file, if it has one. -/
theorem given_write (atEnd : ∀ file waiting, w.writers[id]? = some (.buffered file waiting) →
    file.AtEnd w.machine.tree) (bytes : Bytes) :
    Given w id bytes ((write id bytes).on w).1 ((write id bytes).on w).2 := by
  cases e : w.location? id with
  | none =>
      refine .aside e (fun free => Accepts.write_on ⟨free, fun location mode opened => ?_⟩ bytes)
        (aside_of_unfiled (Writer.stepwise_sameFile.write bytes) (Writer.keeps_write bytes)
          (Writer.stepwise_unfiled.write bytes) e)
      rw [location?_eq_map, opened] at e
      cases e
  | some location =>
      obtain ⟨file, waiting, found, rfl⟩ := exists_buffered e
      have atEnd := atEnd file waiting found
      cases full : w.machine.tree.refusal? file.location with
      | some cause =>
          have blocked : w.refusal? id = some cause := (refusal?_of_getElem? found).trans full
          rcases @Writer.write_of_full file waiting bytes w.machine cause atEnd.1 full with
            kept | refused
          · rw [write, useWriter_on found kept]
            exact .kept found
          · rw [write, useWriter_on found refused, set_of_getElem? found]
            exact .refused blocked
      | none =>
          obtain ⟨w', written, passed⟩ := write_passed found atEnd fun _ => full
          rw [written]
          exact .passed ((isBlocked_iff_of_buffered found).mpr full) passed

/-- Nothing waits any more after a flush that succeeds. -/
theorem idle_of_flush_ok (h : ((flush id).on w).1 = .ok ()) : ((flush id).on w).2.Idle id := by
  cases found : w.writers[id]? with
  | none =>
      have idle : w.Idle id := fun writer there => by cases found.symm.trans there
      rwa [flush_on_of_idle idle]
  | some writer =>
      rw [flush, result_useWriter Writer.flush found] at h
      rw [flush, useWriter_on found rfl]
      intro writer' there
      rw [List.getElem?_set_self (List.getElem?_eq_some_iff.mp found).1] at there
      rw [← Option.some.inj there]
      exact Writer.waiting_of_flush_ok h

/-- **A flush** of such a stream gives it nothing; and if its file takes bytes, nothing waits any
more. -/
theorem given_flush (atEnd : ∀ file waiting, w.writers[id]? = some (.buffered file waiting) →
    file.AtEnd w.machine.tree) :
    Given w id [] ((flush id).on w).1 ((flush id).on w).2
      ∧ (¬ w.IsBlocked id → ((flush id).on w).2.Idle id) := by
  have writes : ∀ location mode, w.opened? id = some (location, mode) → mode ≠ .read := by
    intro location mode opened
    obtain ⟨file, waiting, found, -, rfl⟩ := exists_of_opened? opened
    exact (atEnd file waiting found).1
  have accepted : ¬ w.IsBlocked id → ((flush id).on w).1 = .ok () := fun free =>
    Accepts.flush_on ⟨free, writes⟩
  refine ⟨?_, fun free => idle_of_flush_ok (accepted free)⟩
  cases e : w.location? id with
  | none =>
      exact .aside e accepted (aside_of_unfiled Writer.stepwise_sameFile.flush Writer.keeps_flush
        Writer.stepwise_unfiled.flush e)
  | some location =>
      obtain ⟨file, waiting, found, rfl⟩ := exists_buffered e
      have atEnd := atEnd file waiting found
      cases full : w.machine.tree.refusal? file.location with
      | some cause =>
          have blocked : w.refusal? id = some cause := (refusal?_of_getElem? found).trans full
          by_cases none : waiting = []
          · have kept : Given w id [] (.ok ())
                { w with writers := w.writers.set id (.buffered file (waiting ++ [])) } :=
              .kept found
            rw [List.append_nil, set_of_getElem? found] at kept
            rwa [flush_on_of_idle ((idle_iff_of_getElem? found).mpr none)]
          · have refused := (FileTree.write_eq_error_iff atEnd.1).mpr ⟨none, full⟩
            have flushed : (Writer.buffered file waiting).flush w.machine
                = (.error cause, .buffered file waiting, w.machine) := by
              rw [Writer.flush_buffered, refused]
            rw [flush, useWriter_on found flushed, set_of_getElem? found]
            exact .refused blocked
      | none =>
          obtain ⟨w', flushed, passed, idle⟩ := flush_passed found atEnd fun _ => full
          rw [flushed]
          exact .passed ((isBlocked_iff_of_buffered found).mpr full) passed

/-- A stream with nothing to send has nothing to send after a flush. -/
theorem Idle.flush_if (h : w.Idle id) (wanted : Bool) (other : WriterId) :
    ((if wanted then World.flush other else pure () : Effect SystemError Unit).on w).2.Idle id := by
  cases wanted with
  | false => exact h
  | true =>
      by_cases at' : id = other
      · subst at'
        rw [if_pos rfl, World.flush_on_of_idle h]
        exact h
      · intro writer found
        exact h writer ((World.writers_flush_of_ne at' w).symm.trans found)

end World

/-! ### Bindings -/

namespace Binding

variable {io : Binding} {w w' : World}

/-- Nothing waits in front of a binding's outputs after a flush that succeeds. -/
theorem idle_of_flush (flushed : io.flush.on w = (.ok (), w')) :
    w'.Idle io.output ∧ w'.Idle io.error := by
  rw [flush, Effect.on_bind] at flushed
  rcases first : (World.flush io.output).on w with ⟨_ | _, between⟩ <;> rw [first] at flushed
  · cases flushed
  · have output : between.Idle io.output := by
      have sent := @World.idle_of_flush_ok w io.output
      rw [first] at sent
      exact sent rfl
    dsimp only at flushed
    cases merged : io.isMerged with
    | true =>
        rw [merged] at flushed
        cases flushed
        have shared : io.output = io.error := of_decide_eq_true merged
        exact ⟨output, shared ▸ output⟩
    | false =>
        rw [merged] at flushed
        have flushed : (World.flush io.error).on between = (.ok (), w') := flushed
        have still := output.flush_if true io.error
        have sent := @World.idle_of_flush_ok between io.error
        rw [if_pos rfl, flushed] at still
        rw [flushed] at sent
        exact ⟨still, sent rfl⟩

/-- **A flush** of outputs that go to something that takes bytes sends everything on. -/
theorem exists_flush_of_accepts (output : w.Accepts io.output) (error : w.Accepts io.error) :
    ∃ w', io.flush.on w = (.ok (), w') ∧ w'.Idle io.output ∧ w'.Idle io.error := by
  have first : (World.flush io.output).on w = (.ok (), ((World.flush io.output).on w).2) :=
    Prod.ext output.flush_on rfl
  have flushed : (io.flush.on w).1 = .ok () := by
    rw [flush, Effect.on_bind_ok first]
    split
    · exact (error.of_sameFiles (.flush io.output w)).flush_on
    · rfl
  exact ⟨_, Prod.ext flushed rfl, idle_of_flush (Prod.ext flushed rfl)⟩

end Binding

end Shell
