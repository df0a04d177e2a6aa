import Shell.Proofs.Buffering
import Shell.Proofs.Opening

/-!
# Worlds — what a request leaves alone

Whatever a request to the world does, some parts stay (`World.Kept`).  The process stays in its
directory and keeps the variables it was started with; nobody takes from what was typed or from the
console's input, or changes what its outputs take; the log keeps records of the same levels; every
stream goes on going where it goes (`Writer.Kind`); and no directory goes away, as a file is only
ever written where a file or nothing was.  The relation is reflexive and transitive, so it holds of
a composed request if it holds of its parts (`Effect.Keeps`), and each request is looked at once.
-/

namespace Shell

/-- A stream that is written collects in memory. -/
def World.InMemory (w : World) (id : WriterId) : Prop :=
  ∃ collected, w.writers[id]? = some (.memory collected)

/-- Where a stream goes. -/
inductive Writer.Kind where
  | memory
  | console (channel : Channel)
  | file
  deriving DecidableEq, Repr

/-- Where what is written to a stream goes. -/
def Writer.kind : Writer → Kind
  | memory _ => .memory
  | console channel _ => .console channel
  | buffered _ _ => .file

/-- Where a stream of a world goes, if there is one. -/
def World.kind? (w : World) (id : WriterId) : Option Writer.Kind :=
  w.writers[id]?.map Writer.kind

/-- Every directory of a tree is one in another tree too. -/
def FileTree.DirectoriesStay (tree tree' : FileTree) : Prop :=
  ∀ location, tree.isLiveDirectory location → tree'.isLiveDirectory location

/-- What a request to the world leaves alone. -/
structure World.Kept (w w' : World) : Prop where
  cwd : w'.cwd = w.cwd
  vars : w'.vars = w.vars
  typed : w'.typed = w.typed
  filter : w'.log.filter = w.log.filter
  input : w'.machine.console.input = w.machine.console.input
  refusal : w'.machine.console.refusal? = w.machine.console.refusal?
  kinds : ∀ id kind, w.kind? id = some kind → w'.kind? id = some kind
  /-- Nothing ever waits in front of the console's error output. -/
  direct : ∀ id : WriterId, w.writers[id]? = some (.console .error []) →
    w'.writers[id]? = some (.console .error [])
  directories : w.machine.tree.DirectoriesStay w'.machine.tree

/-- A request that leaves these parts of every world alone, whatever comes of it. -/
def Effect.Keeps {ε α : Type} (x : Effect ε α) : Prop :=
  ∀ w : World, w.Kept (x.on w).2

variable {ε ε' α β : Type}

/-! ### Kinds of streams -/

namespace World

variable {w : World} {id : WriterId}

/-- Nothing waits in front of memory. -/
theorem InMemory.idle (h : w.InMemory id) : w.Idle id := by
  obtain ⟨collected, found⟩ := h
  intro writer there
  cases found.symm.trans there
  rfl

/-- A stream to a file goes to this file still when it has another name. -/
theorem kind?_moved (w : World) (move : Location → Location) (id : WriterId) :
    (w.moved move).kind? id = w.kind? id := by
  simp only [kind?, moved, List.getElem?_map, Option.map_map]
  refine congrFun (congrArg _ (funext fun writer => ?_)) _
  cases writer <;> rfl

theorem inMemory_iff : w.InMemory id ↔ w.kind? id = some .memory := by
  rw [InMemory, kind?]
  cases w.writers[id]? with
  | none => simp
  | some writer => cases writer <;> simp [Writer.kind]

end World

/-! ### Directories -/

namespace FileTree.DirectoriesStay

@[refl]
theorem refl (tree : FileTree) : tree.DirectoriesStay tree :=
  fun _ h => h

theorem trans {tree tree' tree'' : FileTree} (h : tree.DirectoriesStay tree')
    (h' : tree'.DirectoriesStay tree'') : tree.DirectoriesStay tree'' :=
  fun location live => h' location (h location live)

/-- Nothing but a directory that something is put upon can go away. -/
theorem put {tree : FileTree} {location : Location} (h : tree.get? location ≠ some .directory)
    (node : Node) : tree.DirectoriesStay (tree.put location node) := by
  intro other live
  have here := of_decide_eq_true live
  have away : other ≠ location := by
    rintro rfl
    exact h here
  exact decide_eq_true ((get?_put_of_ne tree away node).trans here)

theorem openFile {tree tree' : FileTree} {cwd : Location} {mode : OpenMode} {path : String}
    {file : OpenFile} (h : tree.openFile cwd mode path = .ok (file, tree')) :
    tree.DirectoriesStay tree' := by
  cases (openFile_ok h).2 with
  | same => exact refl tree
  | emptied _ _ before =>
      refine put ?_ _
      rcases before with none | ⟨-, content, found⟩
      · simp [none]
      · simp [found]

theorem write {tree tree' : FileTree} {file file' : OpenFile} {bytes : Bytes}
    (h : tree.write file bytes = .ok (file', tree')) : tree.DirectoriesStay tree' := by
  unfold FileTree.write at h
  split at h
  · cases h
    exact refl tree
  split at h
  · cases h
  split at h
  · rename_i found
    split at h <;> cases h <;> exact put (by simp [found]) _
  split at h
  · cases h
  · cases h
    exact refl tree

end FileTree.DirectoriesStay

/-! ### Requests to the world -/

namespace World.Kept

@[refl]
theorem refl (w : World) : w.Kept w :=
  ⟨rfl, rfl, rfl, rfl, rfl, rfl, fun _ _ h => h, fun _ h => h, .refl _⟩

theorem trans {w w' w'' : World} (h : w.Kept w') (h' : w'.Kept w'') : w.Kept w'' :=
  ⟨h'.cwd.trans h.cwd, h'.vars.trans h.vars, h'.typed.trans h.typed, h'.filter.trans h.filter,
    h'.input.trans h.input, h'.refusal.trans h.refusal,
    fun id kind here => h'.kinds id kind (h.kinds id kind here),
    fun id here => h'.direct id (h.direct id here), h.directories.trans h'.directories⟩

/-- New streams stand behind the old ones. -/
theorem addWriter (w : World) (writer : Writer) : w.Kept (w.addWriter writer).2 := by
  have still : ∀ {id : WriterId} {old : Writer}, w.writers[id]? = some old →
      (w.writers ++ [writer])[id]? = some old := fun found =>
    (List.getElem?_append_left (List.getElem?_eq_some_iff.mp found).1).trans found
  refine ⟨rfl, rfl, rfl, rfl, rfl, rfl, fun id kind here => ?_, fun id => still, .refl _⟩
  obtain ⟨old, found, rfl⟩ := Option.map_eq_some_iff.mp here
  exact Option.map_eq_some_iff.mpr ⟨old, still found, rfl⟩

theorem record (w : World) (level : Level) (topic message : String) :
    w.Kept (w.record level topic message) := by
  unfold World.record
  split
  · cases w.log.display with
    | none => exact ⟨rfl, rfl, rfl, rfl, rfl, rfl, fun _ _ h => h, fun _ h => h, .refl _⟩
    | some display =>
        exact ⟨rfl, rfl, rfl, rfl, Console.input_shown .., Console.refusal?_shown ..,
          fun _ _ h => h, fun _ h => h, .refl _⟩
  · exact refl w

end World.Kept

namespace Effect

theorem keeps_pure (a : α) : Keeps (pure a : Effect ε α) :=
  World.Kept.refl

theorem Keeps.bind {x : Effect ε α} {f : α → Effect ε β} (hx : x.Keeps) (hf : ∀ a, (f a).Keeps) :
    (x >>= f).Keeps :=
  fun w => after_bind (hx w) fun a w' first => first.trans (hf a w')

theorem Keeps.map {x : Effect ε α} (hx : x.Keeps) (f : α → β) : (f <$> x).Keeps := by
  intro w
  rw [on_map]
  exact hx w

theorem Keeps.adapt {x : Effect ε α} (hx : x.Keeps) (f : ε → ε') :
    Keeps (ExceptT.adapt f x : Effect ε' α) :=
  hx

theorem keeps_if {wanted : Bool} {x : Effect ε Unit} (hx : x.Keeps) :
    (if wanted then x else pure ()).Keeps := by
  cases wanted with
  | false => exact keeps_pure ()
  | true => exact hx

theorem keeps_foldlM {f : β → α → Effect ε β} (hf : ∀ b a, (f b a).Keeps) (items : List α)
    (start : β) : (items.foldlM f start).Keeps := by
  induction items generalizing start with
  | nil => exact keeps_pure start
  | cons item rest ih => exact (hf start item).bind fun b => ih b

end Effect

/-- What an act on a stream that is written leaves alone, of the stream and of the machine. -/
structure Writer.Kept (writer : Writer) (machine : Machine) (after : Writer × Machine) : Prop where
  input : after.2.console.input = machine.console.input
  refusal : after.2.console.refusal? = machine.console.refusal?
  directories : machine.tree.DirectoriesStay after.2.tree
  kind : after.1.kind = writer.kind
  direct : writer = .console .error [] → after.1 = .console .error []

/-- An act that leaves these parts alone, whatever comes of it. -/
def Writer.Keeps (act : Writer → Machine → Except SystemError Unit × Writer × Machine) : Prop :=
  ∀ (writer : Writer) (machine : Machine), writer.Kept machine (act writer machine).2

namespace Writer

theorem Kept.trans {writer writer' : Writer} {machine machine' : Machine}
    {after : Writer × Machine} (h : writer.Kept machine (writer', machine'))
    (h' : writer'.Kept machine' after) : writer.Kept machine after :=
  ⟨h'.input.trans h.input, h'.refusal.trans h.refusal, h.directories.trans h'.directories,
    h'.kind.trans h.kind, fun e => h'.direct (h.direct e)⟩

theorem stepwise_kept : Stepwise fun before after => before.1.Kept before.2 after where
  refl _ := ⟨rfl, rfl, .refl _, rfl, id⟩
  trans h h' := h.trans h'
  send bytes writer machine := by
    cases writer with
    | memory collected => exact ⟨rfl, rfl, .refl _, rfl, fun e => by cases e⟩
    | console channel waiting =>
        simp only [send]
        cases passed : machine.console.pass channel bytes with
        | error => exact ⟨rfl, rfl, .refl _, rfl, id⟩
        | ok after =>
            rw [Console.eq_write_of_pass passed]
            exact ⟨by cases channel <;> rfl, funext (Console.refusal?_write _ channel · bytes),
              .refl _, rfl, id⟩
    | buffered file waiting =>
        simp only [send]
        cases written : machine.tree.write file bytes with
        | error => exact ⟨rfl, rfl, .refl _, rfl, fun e => by cases e⟩
        | ok after => exact ⟨rfl, rfl, .write written, rfl, fun e => by cases e⟩
  wait writer waiting _ room := by
    refine ⟨rfl, rfl, .refl _, by cases writer <;> rfl, ?_⟩
    rintro rfl
    obtain rfl : waiting = [] := Decidable.byContradiction fun some => Nat.not_lt_zero _ (room some)
    rfl

theorem keeps_flush : Keeps flush :=
  stepwise_kept.flush

theorem keeps_write (bytes : Bytes) : Keeps (write · · bytes) :=
  stepwise_kept.write bytes

end Writer

namespace World

theorem keeps_useWriter {act : Writer → Machine → Except SystemError Unit × Writer × Machine}
    (h : Writer.Keeps act) (id : WriterId) : (useWriter id act).Keeps := by
  intro w
  simp only [useWriter, Effect.on]
  split
  · exact .refl w
  · rename_i writer found
    have kept := h writer w.machine
    have lt := (List.getElem?_eq_some_iff.mp found).1
    refine ⟨rfl, rfl, rfl, rfl, kept.input, kept.refusal, fun other kind here => ?_,
      fun other here => ?_, kept.directories⟩
    · rw [kind?] at here ⊢
      by_cases same : other = id
      · subst same
        rw [List.getElem?_set_self lt, Option.map_some, kept.kind]
        rwa [found] at here
      · rwa [List.getElem?_set_ne (Ne.symm same)]
    · by_cases same : other = id
      · subst same
        rw [List.getElem?_set_self lt, kept.direct (Option.some.inj (found.symm.trans here))]
      · rwa [List.getElem?_set_ne (Ne.symm same)]

theorem keeps_write (id : WriterId) (bytes : Bytes) : (write id bytes).Keeps :=
  keeps_useWriter (Writer.keeps_write bytes) id

theorem keeps_flush (id : WriterId) : (flush id).Keeps :=
  keeps_useWriter Writer.keeps_flush id

theorem keeps_print (id : WriterId) (pieces : List String) : (print id pieces).Keeps := by
  induction pieces with
  | nil => exact Effect.keeps_pure ()
  | cons piece rest ih => exact (keeps_write id (Bytes.ofText piece)).bind fun _ => ih

theorem keeps_openFile (mode : OpenMode) (path : String) : (openFile mode path).Keeps := by
  intro w
  rw [openFile_on]
  cases e : w.machine.tree.openFile w.cwd mode path with
  | error cause => exact .refl w
  | ok opened =>
      exact ⟨rfl, rfl, rfl, rfl, rfl, rfl, fun _ _ h => h, fun _ h => h, .openFile e⟩

end World

namespace Redirection

theorem keeps_addWriter (file : OpenFile) : (addWriter file).Keeps :=
  fun w => World.Kept.addWriter w _

theorem keeps_addReader (file : OpenFile) : (addReader file).Keeps :=
  fun _ => ⟨rfl, rfl, rfl, rfl, rfl, rfl, fun _ _ h => h, fun _ h => h, .refl _⟩

theorem keeps_openTarget (directive : Redirect) : directive.openTarget.Keeps :=
  (World.keeps_openFile directive.kind.openMode directive.target.text).adapt _

theorem keeps_redirect (io : Binding) (directive : Redirect) : (redirect io directive).Keeps := by
  refine (keeps_openTarget directive).bind fun file => ?_
  split
  · exact (keeps_addReader file).bind fun _ => Effect.keeps_pure _
  all_goals exact (keeps_addWriter file).bind fun _ => Effect.keeps_pure _

theorem keeps_apply (redirects : List Redirect) (base : Binding) :
    (apply redirects base).Keeps := by
  unfold apply
  split
  · exact Effect.keeps_pure _
  · exact (Effect.keeps_foldlM keeps_redirect _ _).map _

end Redirection

theorem Plan.keeps_ofRedirects (redirects : List Redirect) : (ofRedirects redirects).Keeps := by
  refine Effect.keeps_foldlM (fun plan directive => ?_) redirects _
  refine (Redirection.keeps_openTarget directive).bind fun _ => ?_
  split <;> exact Effect.keeps_pure _

namespace Binding

theorem keeps_flush (io : Binding) : io.flush.Keeps :=
  (World.keeps_flush io.output).bind fun _ => Effect.keeps_if (World.keeps_flush io.error)

theorem keeps_release (io : Binding) : io.release.Keeps := fun w =>
  after_release (fun id w' kept => kept.trans (World.keeps_flush id w'))
    (fun w' _ kept => kept.trans (.record w' ..)) (.refl w)

end Binding

theorem Resolved.keeps_release (resolved : Resolved) : resolved.release.Keeps := by
  cases resolved with
  | inherited base => exact Effect.keeps_pure ()
  | derived own => exact own.keeps_release

end Shell
