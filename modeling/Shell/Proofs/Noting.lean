import Shell.Proofs.Dispatching
import Shell.Proofs.Sending

/-!
# Builtins — what they offer

A builtin offers texts to the outputs of its binding, one after another, and what becomes of an
offer may decide what it does next.  A `Noted` step does what a step does and keeps a list of what
it offers to streams; `Noted.run` is the builtin that does so.

* `Noted.Notes`: the list changes nothing, it is what the binding was offered, and what a refusal
  comes to.
* `Noted.notes_run`: so it is for every builtin, and one whose offer is refused fails or gives exit
  code 1.
-/

namespace Shell

theorem Act.ofEffect_bind {ε α β : Type} (x : Effect ε α) (f : α → Effect ε β) :
    Act.ofEffect (x >>= f) = Act.ofEffect x >>= fun a => Act.ofEffect (f a) := by
  funext s
  change (Act.ofEffect (x >>= f)).on s = (Act.ofEffect x >>= fun a => Act.ofEffect (f a)).on s
  rw [Act.on_bind, Act.on_ofEffect, Act.on_ofEffect, Effect.on_bind]
  rcases x.on s.world with ⟨_ | a, w⟩ <;> rfl

/-- A step of a session that keeps a list of what it offers to streams. -/
abbrev Noted (ε α : Type) := ExceptT ε (StateM (SessionState × List Offer)) α

namespace Noted

section Steps

variable {ε ε' α : Type}

/-- The result of a step, the state after it, and the list with what it has offered. -/
def on (x : Noted ε α) (s : SessionState) (offers : List Offer) :
    Except ε α × SessionState × List Offer :=
  x (s, offers)

/-- A step that offers nothing. -/
def quiet (act : Act ε α) : Noted ε α := fun (s, offers) =>
  let (result, s) := act s
  (result, s, offers)

/-- Offer bytes to a stream. -/
def write (id : WriterId) (bytes : Bytes) : Noted SystemError Unit := fun (s, offers) =>
  let (result, world) := World.write id bytes s.world
  (result, { s with world }, offers ++ [{ stream := id, bytes, result }])

/-- Offer texts to a stream one after another, up to the first that is refused. -/
def print (id : WriterId) (pieces : List String) : Noted SystemError Unit :=
  pieces.forM fun piece => write id (Bytes.ofText piece)

/-- The step whose result says whether another one failed. -/
def attempt (x : Noted ε α) : Noted ε' (Except ε α) := fun state =>
  let (result, state) := x state
  (.ok result, state)

end Steps

/-! ### Builtins that keep a list -/

/-- Offer texts to a stream while a builtin runs. -/
def tell (id : WriterId) (pieces : List String) : Noted BuiltinError Unit :=
  ExceptT.adapt BuiltinError.stream (print id pieces)

/-- Offer the words of `echo`. -/
def writeWords (io : Binding) (arguments : Builtin.EchoArguments) : Noted BuiltinError Outcome := do
  let text := " ".intercalate arguments.words
  tell io.output (if arguments.newline then [text, "\n"] else [text])
  return { exitCode := 0 }

/-- Offer the directory of the environment. -/
def writeDirectory (io : Binding) : Noted BuiltinError Outcome := do
  let directory ← quiet (Act.look (·.environment.directory))
  tell io.output [directory, "\n"]
  return { exitCode := 0 }

/-- Offer what a command of a name would run. -/
def typeName (registry : Registry) (io : Binding) (name : String) : Noted BuiltinError Bool := do
  if registry.contains name then
    tell io.output [name, " is a shell builtin\n"]
    return true
  match ← quiet (Act.look fun s => s.environment.findExecutable s.world name) with
  | some path =>
      tell io.output [name, " is ", path, "\n"]
      return true
  | none =>
      tell io.error [name, ": not found\n"]
      return false

/-- Offer what a command of each name would run. -/
def describeNames (registry : Registry) (io : Binding) (names : List String) :
    Noted BuiltinError Outcome := do
  let found ← names.mapM (typeName registry io)
  return { exitCode := if found.all id then 0 else 1 }

/-- Run a builtin's work on its arguments, or answer a refusal of them. -/
def runWith {α : Type} (io : Binding) (usage : Usage α) (value : α) (arguments : List String)
    (work : α → Noted BuiltinError Outcome) : Noted SystemError Outcome := do
  match usage.read value arguments with
  | .error .help =>
      print io.output [usage.answer .help]
      return { exitCode := 0 }
  | .error refusal =>
      print io.error [usage.answer refusal]
      return { exitCode := 1 }
  | .ok value =>
      match ← attempt (work value) with
      | .ok outcome => return outcome
      | .error e =>
          print io.error (e.pieces ++ ["\n"])
          return { exitCode := 1 }

/-- Run a builtin. -/
def run (registry : Registry) (io : Binding) (builtin : Builtin) (arguments : List String) :
    Noted SystemError Outcome :=
  match builtin with
  | .cd => runWith io Builtin.cdUsage none arguments fun target =>
      quiet (Builtin.changeDirectory target)
  | .echo => runWith io Builtin.echoUsage {} arguments (writeWords io)
  | .exit => runWith io Builtin.exitUsage none arguments fun code => quiet (Builtin.leave code)
  | .pwd => runWith io Builtin.pwdUsage () arguments fun _ => writeDirectory io
  | .type => runWith io Builtin.typeUsage [] arguments (describeNames registry io)

/-! ### What the list says -/

/-- Whether a step failed. -/
def Failed {ε α : Type} (result : Except ε α) : Prop :=
  ∃ e, result = .error e

/-- Whether a command ended with exit code 1, or with a failure. -/
def Unsuccessful {ε : Type} (result : Except ε Outcome) : Prop :=
  result = .ok { exitCode := 1 } ∨ Failed result

/-- Whether a step that keeps a list is, for the rest, the step that it is made from; the list is of
what a binding was offered; and the results meet a condition if an offer was refused. -/
def Notes {ε α : Type} (x : Noted ε α) (io : Binding) (act : Act ε α)
    (answer : Except ε α → Prop) : Prop :=
  ∀ s offers, ∃ new, x.on s offers = ((act.on s).1, (act.on s).2, offers ++ new)
    ∧ io.Offered s.world new (act.on s).2.world
    ∧ ((∃ offer ∈ new, Failed offer.result) → answer (act.on s).1)

section Steps

variable {ε ε' α β : Type} {io : Binding}

theorem on_bind (x : Noted ε α) (f : α → Noted ε β) (s : SessionState) (offers : List Offer) :
    (x >>= f).on s offers = match x.on s offers with
      | (.ok a, s, offers) => (f a).on s offers
      | (.error e, s, offers) => (.error e, s, offers) := by
  have opened : (x >>= f).on s offers
      = ExceptT.bindCont f (x.on s offers).1 (x.on s offers).2 := rfl
  rw [opened]
  rcases x.on s offers with ⟨_ | _, _⟩ <;> rfl

theorem notes_quiet {act : Act ε α} {answer : Except ε α → Prop}
    (aside : ∀ s, s.world.Aside (act.on s).2.world ∧ (act.on s).2.world.log = s.world.log) :
    (quiet act).Notes io act answer := by
  intro s offers
  refine ⟨[], by rw [List.append_nil]; rfl, .aside .none (aside s).1 (aside s).2, ?_⟩
  rintro ⟨offer, mem, -⟩
  cases mem

theorem notes_pure (a : α) {answer : Except ε α → Prop} :
    (pure a : Noted ε α).Notes io (pure a) answer :=
  @notes_quiet _ _ _ (pure a) _ fun s => ⟨.refl s.world, rfl⟩

theorem notes_look (f : SessionState → α) {answer : Except ε α → Prop} :
    (quiet (Act.look f) : Noted ε α).Notes io (Act.look f) answer :=
  @notes_quiet _ _ _ (Act.look f) _ fun s => ⟨.refl s.world, rfl⟩

/-- **A composed step** is noted if its parts are, and if what a refusal in the first one comes to
is kept by the second. -/
theorem Notes.bind {x : Noted ε α} {f : α → Noted ε β} {act : Act ε α} {next : α → Act ε β}
    {first : Except ε α → Prop} {answer : Except ε β → Prop} (hx : x.Notes io act first)
    (hf : ∀ a, (f a).Notes io (next a) answer)
    (passes : ∀ a s, first (.ok a) → answer ((next a).on s).1)
    (fails : ∀ e, first (.error e) → answer (.error e)) :
    (x >>= f).Notes io (act >>= next) answer := by
  intro s offers
  obtain ⟨new, ran, offered, refused⟩ := hx s offers
  rw [on_bind, Act.on_bind, ran]
  revert offered refused
  rcases act.on s with ⟨e | a, s'⟩ <;> intro offered refused
  · exact ⟨new, rfl, offered, fun some => fails e (refused some)⟩
  · obtain ⟨more, ran', offered', refused'⟩ := hf a s' (offers ++ new)
    refine ⟨new ++ more, by rw [← List.append_assoc]; exact ran', offered.trans offered', ?_⟩
    rintro ⟨offer, mem, failed⟩
    rcases List.mem_append.mp mem with mem | mem
    · exact passes a s' (refused ⟨offer, mem, failed⟩)
    · exact refused' ⟨offer, mem, failed⟩

/-- A step that fails where an offer is refused may stand before any other. -/
theorem Notes.before {x : Noted ε α} {f : α → Noted ε β} {act : Act ε α} {next : α → Act ε β}
    {answer : Except ε β → Prop} (hx : x.Notes io act Failed)
    (hf : ∀ a, (f a).Notes io (next a) answer) (fails : ∀ e, answer (.error e)) :
    (x >>= f).Notes io (act >>= next) answer :=
  hx.bind hf (fun _ _ failed => nomatch failed) fun e _ => fails e

theorem Notes.adapt {x : Noted ε α} {act : Act ε α} (h : x.Notes io act Failed) (f : ε → ε') :
    Notes (ExceptT.adapt f x : Noted ε' α) io (ExceptT.adapt f act) Failed := by
  intro s offers
  obtain ⟨new, ran, offered, refused⟩ := h s offers
  have adapted : on (ExceptT.adapt f x : Noted ε' α) s offers
      = ((x.on s offers).1.mapError f, (x.on s offers).2) := rfl
  rw [adapted, ran, Act.on_adapt]
  refine ⟨new, rfl, offered, fun some => ?_⟩
  obtain ⟨e, failed⟩ := refused some
  exact ⟨f e, by rw [failed]; rfl⟩

theorem Notes.attempt {x : Noted ε α} {act : Act ε α} {answer : Except ε α → Prop}
    (h : x.Notes io act answer) :
    (Noted.attempt x : Noted ε' _).Notes io (Act.attempt act)
      fun result => ∃ inner, result = .ok inner ∧ answer inner := by
  intro s offers
  obtain ⟨new, ran, offered, refused⟩ := h s offers
  have attempted : (Noted.attempt x : Noted ε' _).on s offers
      = (.ok (x.on s offers).1, (x.on s offers).2) := rfl
  rw [attempted, ran]
  exact ⟨new, rfl, offered, fun some => ⟨_, rfl, refused some⟩⟩

theorem notes_mapM {f : α → Noted ε β} {next : α → Act ε β}
    (h : ∀ a, (f a).Notes io (next a) Failed) (items : List α) :
    Notes (items.mapM f) io (items.mapM next) Failed := by
  induction items with
  | nil => exact notes_pure []
  | cons item rest ih =>
      rw [List.mapM_cons, List.mapM_cons]
      exact (h item).before (fun _ => ih.before (fun _ => notes_pure _) fun e => ⟨e, rfl⟩)
        fun e => ⟨e, rfl⟩

/-- **Bytes** that are offered to an output of the binding. -/
theorem notes_write (io : Binding) (channel : Channel) (bytes : Bytes) :
    (write (io.stream channel) bytes).Notes io
      (Act.ofEffect (World.write (io.stream channel) bytes)) Failed := by
  intro s offers
  refine ⟨_, rfl, Binding.Offered.none.write channel bytes, ?_⟩
  rintro ⟨offer, mem, failed⟩
  cases List.mem_singleton.mp mem
  exact failed

/-- **Texts** fail together if one is refused. -/
theorem notes_print (io : Binding) (channel : Channel) (pieces : List String) :
    (print (io.stream channel) pieces).Notes io
      (Act.ofEffect (World.print (io.stream channel) pieces)) Failed := by
  induction pieces with
  | nil => exact notes_pure ()
  | cons piece rest ih =>
      rw [World.print_cons, Act.ofEffect_bind]
      exact (notes_write io channel (Bytes.ofText piece)).before (fun _ => ih) fun e => ⟨e, rfl⟩

end Steps

/-! ### Every builtin -/

variable (io : Binding)

/-- What is told may be followed by an answer. -/
theorem notes_tell {α : Type} (channel : Channel) (pieces : List String) (a : α) :
    (tell (io.stream channel) pieces >>= fun _ => pure a).Notes io
      (Builtin.print (io.stream channel) pieces >>= fun _ => pure a) Failed :=
  ((notes_print io channel pieces).adapt _).before (fun _ => notes_pure a) fun e => ⟨e, rfl⟩

theorem notes_writeWords (arguments : Builtin.EchoArguments) :
    (writeWords io arguments).Notes io (Builtin.writeWords io arguments) Failed :=
  notes_tell io .output _ _

theorem notes_writeDirectory : (writeDirectory io).Notes io (Builtin.writeDirectory io) Failed :=
  (notes_look _).before (fun _ => notes_tell io .output _ _) fun e => ⟨e, rfl⟩

theorem notes_typeName (registry : Registry) (name : String) :
    (typeName registry io name).Notes io (Builtin.typeName registry io name) Failed := by
  unfold typeName Builtin.typeName
  split
  · exact notes_tell io .output _ _
  · refine Notes.before (notes_look _) (fun path => ?_) fun e => ⟨e, rfl⟩
    cases path with
    | some path => exact notes_tell io .output _ _
    | none => exact notes_tell io .error _ _

theorem notes_describeNames (registry : Registry) (names : List String) :
    (describeNames registry io names).Notes io (Builtin.describeNames registry io names) Failed :=
  (notes_mapM (notes_typeName io registry) names).before (fun _ => notes_pure _) fun e => ⟨e, rfl⟩

theorem notes_runWith {α : Type} (usage : Usage α) (value : α) (arguments : List String)
    {work : α → Noted BuiltinError Outcome} {act : α → Act BuiltinError Outcome}
    (h : ∀ value, (work value).Notes io (act value) Failed) :
    (runWith io usage value arguments work).Notes io
      (Builtin.runWith io usage value arguments act) Unsuccessful := by
  have answered : ∀ channel pieces (outcome : Outcome),
      (print (io.stream channel) pieces >>= fun _ => pure outcome).Notes io
        (Act.ofEffect (World.print (io.stream channel) pieces) >>= fun _ => pure outcome)
        Unsuccessful :=
    fun channel pieces outcome =>
      (notes_print io channel pieces).before (fun _ => notes_pure _) fun e => .inr ⟨e, rfl⟩
  unfold runWith Builtin.runWith
  rcases usage.read value arguments with (_ | _) | read
  · exact answered .output _ _
  · exact answered .error _ _
  · refine (h read).attempt.bind (fun result => ?_) ?_ ?_
    · cases result with
      | ok outcome => exact notes_pure outcome
      | error e => exact answered .error _ _
    · -- the report of a refusal is either written or refused as well
      rintro _ s ⟨_, ⟨⟩, e, rfl⟩
      dsimp only
      rw [Act.on_bind]
      rcases (Act.ofEffect (World.print io.error (e.pieces ++ ["\n"]))).on s with ⟨e' | _, s'⟩
      · exact .inr ⟨e', rfl⟩
      · exact .inl rfl
    · rintro e ⟨_, ⟨⟩, -⟩

/-- **A builtin** whose offer is refused fails or gives exit code 1. -/
theorem notes_run (registry : Registry) (builtin : Builtin) (arguments : List String) :
    (run registry io builtin arguments).Notes io (builtin.run registry io arguments)
      Unsuccessful := by
  cases builtin with
  | cd =>
      refine notes_runWith io _ _ _ fun target => notes_quiet fun s => ?_
      simp only [Builtin.changeDirectory, Act.on]
      split
      · exact ⟨.refl s.world, rfl⟩
      · exact ⟨⟨rfl, fun _ _ _ => Iff.rfl, fun _ => rfl⟩, rfl⟩
  | echo => exact notes_runWith io _ _ _ (notes_writeWords io)
  | exit => exact notes_runWith io _ _ _ fun code => notes_pure _
  | pwd => exact notes_runWith io _ _ _ fun _ => notes_writeDirectory io
  | type => exact notes_runWith io _ _ _ (notes_describeNames io registry)

end Noted

end Shell
