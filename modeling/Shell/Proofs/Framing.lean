import Shell.Evaluation
import Shell.Proofs.Preserving

/-!
# Sessions — what a line leaves alone

A line is put together from requests to the world and from looks at the environment.  So a property
of steps that these have, and that a composed step has if its parts have it (`Act.Compositional`),
is one of every report, of every builtin and of every line (`Act.Compositional.evaluate`).  Two
things are left open that a session does itself: `cd` enters a directory, and a program that was
asked for changes the machine.

A frame is a relation between the state before a step and the state after it that is reflexive and
transitive and allows every request to the world (`Frame`).  To respect a frame is such a property
(`Frame.compositional`), and `Session.keeps_evaluate` is the frame of what no line changes at all.
-/

namespace Shell

/-- A property of steps that composed steps have if their parts have it, and that the parts have
that a session is put together from. -/
structure Act.Compositional (P : ∀ {ε α : Type}, Act ε α → Prop) : Prop where
  pure : ∀ {ε α : Type} (a : α), P (pure a : Act ε α)
  throw : ∀ {ε α : Type} (e : ε), P (throw e : Act ε α)
  bind : ∀ {ε α β : Type} {x : Act ε α} {f : α → Act ε β}, P x → (∀ a, P (f a)) → P (x >>= f)
  adapt : ∀ {ε ε' α : Type} {x : Act ε α} (f : ε → ε'), P x → P (ExceptT.adapt f x : Act ε' α)
  attempt : ∀ {ε ε' α : Type} {x : Act ε α}, P x → P (Act.attempt x : Act ε' (Except ε α))
  environment : ∀ {ε : Type}, P (Act.look SessionState.environment : Act ε Environment)
  directory : ∀ {ε : Type}, P (Act.look (·.environment.directory) : Act ε String)
  program : ∀ {ε : Type} (name : String),
    P (Act.look fun s => s.environment.findExecutable s.world name : Act ε (Option String))
  record : ∀ {ε : Type} (level : Level) (topic message : String),
    P (Act.change (·.record level topic message) : Act ε Unit)
  print : ∀ (id : WriterId) (pieces : List String), P (Act.ofEffect (World.print id pieces))
  apply : ∀ (redirects : List Redirect) (io : Binding),
    P (Act.ofEffect (Redirection.apply redirects io))
  plan : ∀ redirects : List Redirect, P (Act.ofEffect (Plan.ofRedirects redirects))
  flush : ∀ io : Binding, P (Act.ofEffect io.flush)
  release : ∀ resolved : Resolved, P (Act.ofEffect resolved.release)

namespace Act.Compositional

variable {P : ∀ {ε α : Type}, Act ε α → Prop} (closed : Compositional P)

include closed

theorem mapM {ε α β : Type} {f : α → Act ε β} (hf : ∀ a, P (f a)) (items : List α) :
    P (items.mapM f) := by
  induction items with
  | nil => exact closed.pure []
  | cons item rest ih =>
      rw [List.mapM_cons]
      exact closed.bind (hf item) fun _ => closed.bind ih fun _ => closed.pure _

/-! ### Builtins -/

theorem builtin_print (id : WriterId) (pieces : List String) : P (Builtin.print id pieces) :=
  closed.adapt _ (closed.print id pieces)

theorem writeWords (io : Binding) (arguments : Builtin.EchoArguments) :
    P (Builtin.writeWords io arguments) :=
  closed.bind (closed.builtin_print _ _) fun _ => closed.pure _

theorem writeDirectory (io : Binding) : P (Builtin.writeDirectory io) :=
  closed.bind closed.directory fun _ =>
    closed.bind (closed.builtin_print _ _) fun _ => closed.pure _

theorem typeName (registry : Registry) (io : Binding) (name : String) :
    P (Builtin.typeName registry io name) := by
  have told : ∀ id pieces (found : Bool),
      P (Builtin.print id pieces >>= fun _ => Pure.pure found) :=
    fun id pieces found => closed.bind (closed.builtin_print id pieces) fun _ => closed.pure _
  unfold Builtin.typeName
  split
  · exact told _ _ _
  · refine closed.bind (closed.program name) fun path => ?_
    split
    · exact told _ _ _
    · exact told _ _ _

theorem describeNames (registry : Registry) (io : Binding) (names : List String) :
    P (Builtin.describeNames registry io names) :=
  closed.bind (closed.mapM (closed.typeName registry io) names) fun _ => closed.pure _

theorem runWith {α : Type} (io : Binding) (usage : Usage α) (value : α) (arguments : List String)
    {work : α → Act BuiltinError Outcome} (h : ∀ value, P (work value)) :
    P (Builtin.runWith io usage value arguments work) := by
  have answered : ∀ id pieces (outcome : Outcome),
      P (Act.ofEffect (World.print id pieces) >>= fun _ => Pure.pure outcome) :=
    fun id pieces outcome => closed.bind (closed.print id pieces) fun _ => closed.pure _
  unfold Builtin.runWith
  split
  · exact answered _ _ _
  · exact answered _ _ _
  · refine closed.bind (closed.attempt (h _)) fun result => ?_
    split
    · exact closed.pure _
    · exact answered _ _ _

/-- **A builtin** is put together from these parts, but for `cd`. -/
theorem run {builtin : Builtin}
    (enters : builtin = .cd → ∀ target, P (Builtin.changeDirectory target)) (registry : Registry)
    (io : Binding) (arguments : List String) : P (builtin.run registry io arguments) := by
  cases builtin with
  | cd => exact closed.runWith _ _ _ _ (enters rfl)
  | echo => exact closed.runWith _ _ _ _ (closed.writeWords io)
  | exit => exact closed.runWith _ _ _ _ fun _ => closed.pure _
  | pwd => exact closed.runWith _ _ _ _ fun _ => closed.writeDirectory io
  | type => exact closed.runWith _ _ _ _ (closed.describeNames registry io)

/-! ### Lines -/

theorem follow {ε : Type} (topic message : String) :
    P (Session.follow topic message : Act ε Unit) :=
  closed.record _ _ _

variable {session : Session}

theorem report (text : String) : P (session.report text) :=
  closed.adapt _ (closed.print _ _)

theorem refuse (command : Command) (error : RedirectError) : P (session.refuse command error) :=
  closed.bind (closed.report _) fun _ => closed.pure _

theorem warnOf {ε : Type} (what : String) (result : Except SystemError Unit) :
    P (Session.warnOf what result : Act ε Unit) := by
  cases result with
  | ok => exact closed.pure ()
  | error e => exact closed.record _ _ _

theorem runBuiltin {builtin : Builtin}
    (enters : builtin = .cd → ∀ target, P (Builtin.changeDirectory target)) (command : Command) :
    P (session.runBuiltin builtin command) := by
  refine closed.bind (closed.follow _ _) fun _ => ?_
  refine closed.bind (closed.attempt (closed.apply _ _)) fun applied => ?_
  cases applied with
  | error e => exact closed.refuse command e
  | ok resolved =>
      refine closed.bind (closed.attempt (closed.run enters _ _ _)) fun result => ?_
      refine closed.bind (closed.attempt (closed.flush _)) fun _ => ?_
      refine closed.bind (closed.warnOf _ _) fun _ => ?_
      refine closed.bind (closed.attempt (closed.release _)) fun _ => ?_
      refine closed.bind (closed.warnOf _ _) fun _ => ?_
      cases result with
      | ok outcome => exact closed.pure outcome
      | error e => exact closed.throw _

theorem runProgram (launches : ∀ request, P (session.launch request)) (program : String)
    (command : Command) : P (session.runProgram program command) := by
  refine closed.bind (closed.follow _ _) fun _ => ?_
  refine closed.bind (closed.attempt (closed.plan _)) fun planned => ?_
  cases planned with
  | error e => exact closed.refuse command e
  | ok plan =>
      refine closed.bind (closed.adapt _ (closed.flush _)) fun _ => ?_
      refine closed.bind closed.environment fun environment => ?_
      refine closed.bind (launches _) fun outcome => ?_
      split
      · exact closed.throw _
      · exact closed.pure _
      · exact closed.bind (closed.report _) fun _ => closed.pure _
      · exact closed.throw _

theorem runUnknown (command : Command) : P (session.runUnknown command) := by
  refine closed.bind (closed.attempt (closed.apply _ _)) fun applied => ?_
  cases applied with
  | error e => exact closed.refuse command e
  | ok resolved =>
      refine closed.bind (closed.adapt _ (closed.release _)) fun _ => ?_
      exact closed.bind (closed.report _) fun _ => closed.pure _

theorem runCommand {command : Command}
    (enters : session.registry.find? command.name.text = some .cd →
      ∀ target, P (Builtin.changeDirectory target))
    (launches : ∀ request, P (session.launch request)) : P (session.runCommand command) := by
  refine closed.bind (closed.follow _ _) fun _ => ?_
  split
  · rename_i builtin found
    exact closed.runBuiltin (fun e => enters (e ▸ found)) _
  · refine closed.bind (closed.program _) fun program => ?_
    split
    · exact closed.runProgram launches _ _
    · exact closed.runUnknown _

/-- **A line** is put together from these parts, but for `cd` and programs. -/
theorem evaluate {line : String}
    (enters : ∀ command, Command.ofLine line = .ok command →
      session.registry.find? command.name.text = some .cd →
      ∀ target, P (Builtin.changeDirectory target))
    (launches : ∀ request, P (session.launch request)) : P (session.evaluate line) := by
  unfold Session.evaluate
  split
  · exact closed.pure _
  · refine closed.bind (closed.follow _ _) fun _ => ?_
    split
    · exact closed.bind (closed.report _) fun _ => closed.pure _
    · rename_i command read
      exact closed.runCommand (enters command read) launches

end Act.Compositional

/-! ### Frames -/

/-- A relation between the state before a step and the one after it, for steps that are put
together from requests to the world. -/
structure Frame (R : SessionState → SessionState → Prop) : Prop where
  refl : ∀ s, R s s
  trans : ∀ {s s' s''}, R s s' → R s' s'' → R s s''
  world : ∀ {s : SessionState} {w : World}, s.world.Kept w → R s { s with world := w }

/-- A step after which a relation holds, whatever comes of the step. -/
def Act.Respects {ε α : Type} (x : Act ε α) (R : SessionState → SessionState → Prop) : Prop :=
  ∀ s : SessionState, R s (x.on s).2

namespace Frame

variable {ε ε' α β : Type} {R : SessionState → SessionState → Prop} (frame : Frame R)

include frame

/-! ### Composed steps -/

theorem pure (a : α) : (pure a : Act ε α).Respects R :=
  frame.refl

theorem throw (e : ε) : (throw e : Act ε α).Respects R :=
  frame.refl

theorem look (f : SessionState → α) : (Act.look f : Act ε α).Respects R :=
  frame.refl

theorem effect {x : Effect ε α} (hx : x.Keeps) : (Act.ofEffect x).Respects R :=
  fun s => frame.world (hx s.world)

theorem bind {x : Act ε α} {f : α → Act ε β} (hx : x.Respects R) (hf : ∀ a, (f a).Respects R) :
    (x >>= f).Respects R :=
  fun s => Act.after_bind (hx s) fun a s' first => frame.trans first (hf a s')

end Frame

namespace Act.Respects

variable {ε ε' α : Type} {R : SessionState → SessionState → Prop} {x : Act ε α}

theorem adapt (hx : x.Respects R) (f : ε → ε') :
    Respects (ExceptT.adapt f x : Act ε' α) R :=
  hx

theorem attempt (hx : x.Respects R) : Respects (Act.attempt x : Act ε' _) R :=
  hx

end Act.Respects

/-! ### What respects a frame -/

namespace Frame

variable {R : SessionState → SessionState → Prop} (frame : Frame R)

include frame

theorem compositional : Act.Compositional fun x => x.Respects R where
  pure := frame.pure
  throw := frame.throw
  bind := frame.bind
  adapt f hx := hx.adapt f
  attempt hx := hx.attempt
  environment := frame.look _
  directory := frame.look _
  program _ := frame.look _
  record _ _ _ := fun s => frame.world (.record s.world ..)
  print id pieces := frame.effect (World.keeps_print id pieces)
  apply redirects io := frame.effect (Redirection.keeps_apply redirects io)
  plan redirects := frame.effect (Plan.keeps_ofRedirects redirects)
  flush io := frame.effect io.keeps_flush
  release resolved := frame.effect resolved.keeps_release

theorem changeDirectory (enters : ∀ s location, R s (Builtin.enter location s))
    (target : Option String) : (Builtin.changeDirectory target).Respects R := by
  intro s
  simp only [Builtin.changeDirectory, Act.on]
  split
  · exact frame.refl s
  · exact enters s _

variable {session : Session}

/-- **A builtin** respects a frame that allows what `cd` does. -/
theorem runBuiltin {builtin : Builtin}
    (enters : builtin = .cd → ∀ s location, R s (Builtin.enter location s)) (command : Command) :
    (session.runBuiltin builtin command).Respects R :=
  frame.compositional.runBuiltin (fun cd => frame.changeDirectory (enters cd)) command

/-- **A line** respects a frame that allows what `cd` and programs do. -/
theorem evaluate {line : String}
    (enters : ∀ command, Command.ofLine line = .ok command →
      session.registry.find? command.name.text = some .cd →
      ∀ s location, R s (Builtin.enter location s))
    (launches : ∀ request, (session.launch request).Respects R) :
    (session.evaluate line).Respects R :=
  frame.compositional.evaluate
    (fun command read found => frame.changeDirectory (enters command read found)) launches

end Frame

/-! ### What every line leaves alone -/

/-- What no step of a session changes.  Only a program takes from the console's input, from its
front, or removes a directory. -/
structure SessionState.Kept (s s' : SessionState) : Prop where
  vars : s'.environment.vars = s.environment.vars
  startVars : s'.world.vars = s.world.vars
  typed : s'.world.typed = s.world.typed
  filter : s'.world.log.filter = s.world.log.filter
  refusal : s'.world.machine.console.refusal? = s.world.machine.console.refusal?
  taken : s'.world.machine.console.input <:+ s.world.machine.console.input
  kinds : ∀ id kind, s.world.kind? id = some kind → s'.world.kind? id = some kind
  direct : ∀ id : WriterId, s.world.writers[id]? = some (.console .error []) →
    s'.world.writers[id]? = some (.console .error [])
  requests : s.requests <+: s'.requests
  input : s'.requests = s.requests →
    s'.world.machine.console.input = s.world.machine.console.input
  directories : s'.requests = s.requests →
    s.world.machine.tree.DirectoriesStay s'.world.machine.tree

/-- A stream over memory stays one. -/
theorem SessionState.Kept.memory {s s' : SessionState} (h : s.Kept s') (id : WriterId)
    (memory : s.world.InMemory id) : s'.world.InMemory id :=
  World.inMemory_iff.mpr (h.kinds id _ (World.inMemory_iff.mp memory))

/-- As many requests at the end as at the start leave no room for one on the way. -/
theorem SessionState.requests_between {s s' s'' : SessionState}
    (first : s.requests <+: s'.requests) (second : s'.requests <+: s''.requests)
    (same : s''.requests = s.requests) :
    s'.requests = s.requests ∧ s''.requests = s'.requests := by
  have between : s'.requests = s.requests :=
    (first.eq_of_length_le (same ▸ second.length_le)).symm
  exact ⟨between, same.trans between.symm⟩

theorem SessionState.Kept.frame : Frame SessionState.Kept where
  refl s := ⟨rfl, rfl, rfl, rfl, rfl, List.suffix_refl _, fun _ _ h => h, fun _ h => h,
    List.prefix_refl _, fun _ => rfl, fun _ => .refl _⟩
  trans := by
    intro s s' s'' h h'
    have calm := requests_between h.requests h'.requests
    refine ⟨h'.vars.trans h.vars, h'.startVars.trans h.startVars, h'.typed.trans h.typed,
      h'.filter.trans h.filter, h'.refusal.trans h.refusal, h'.taken.trans h.taken,
      fun id kind here => h'.kinds id kind (h.kinds id kind here),
      fun id here => h'.direct id (h.direct id here), h.requests.trans h'.requests,
      fun same => ?_, fun same => ?_⟩
    · exact (h'.input (calm same).2).trans (h.input (calm same).1)
    · exact (h.directories (calm same).1).trans (h'.directories (calm same).2)
  world h := ⟨rfl, h.vars, h.typed, h.filter, h.refusal, h.input ▸ List.suffix_refl _, h.kinds,
    h.direct, List.prefix_refl _, fun _ => h.input, fun _ => h.directories⟩

namespace Session

variable (session : Session)

/-- **A program** may change the machine, and its request is kept. -/
theorem keeps_launch (request : LaunchRequest) :
    (session.launch request).Respects SessionState.Kept := by
  intro s
  have requested : ((session.launch request).on s).2.requests = s.requests ++ [request] := rfl
  have asked : ((session.launch request).on s).2.requests ≠ s.requests := by
    rw [requested]
    simp
  have refusal : ((session.launch request).on s).2.world.machine.console.refusal?
      = s.world.machine.console.refusal? := by
    funext channel
    cases channel <;> rfl
  refine ⟨rfl, rfl, rfl, rfl, refusal, List.drop_suffix _ _, fun id kind here => ?_,
    fun id here => ?_, requested ▸ List.prefix_append _ _, fun same => absurd same asked,
    fun same => absurd same asked⟩
  · exact (s.world.kind?_moved _ id).trans here
  · exact List.getElem?_map.trans (congrArg _ here)

/-- **A line** leaves these parts alone. -/
theorem keeps_evaluate (line : String) : (session.evaluate line).Respects SessionState.Kept := by
  refine SessionState.Kept.frame.evaluate (fun _ _ _ s location => ?_) session.keeps_launch
  exact ⟨rfl, rfl, rfl, rfl, rfl, List.suffix_refl _, fun _ _ h => h, fun _ h => h,
    List.prefix_refl _, fun _ => rfl, fun _ => .refl _⟩

end Session

end Shell
