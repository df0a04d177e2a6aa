import Shell.Proofs.Buffering
import Shell.Proofs.Opening

/-!
# Bindings — put one upon another

While a command runs, redirects may be put upon its binding for another one, and so on (`Nest`).
Bytes are written to the innermost binding, and its release uncovers the one below.

The reference (`Direct`) has no buffers and no streams.  It keeps for each binding which files its
own redirects chose (`lastFor`), and a write goes at once to the end of the file that the nearest
binding chose for that output, or to the base.

`Nest.Clear` is what a run must not do for the two to be comparable: have two streams at one file at
a time, or write to a file that takes no bytes.
-/

namespace Shell

/-- The stream of a binding for one of the outputs. -/
def Binding.stream (io : Binding) : Channel → WriterId
  | .output => io.output
  | .error => io.error

/-- Whether the stream of a binding for one of the outputs was opened for it. -/
def Binding.owns (io : Binding) : Channel → Bool
  | .output => io.owned.output
  | .error => io.owned.error

/-- Whether a redirect is for one of the outputs. -/
def RedirectKind.redirects (channel : Channel) : RedirectKind → Bool
  | output | outputAppend => channel = .output
  | error | errorAppend => channel = .error
  | allOutput | allAppend => true
  | input => false

/-- A redirect gives a binding a new stream of its own for the outputs that it is for. -/
theorem Binding.stream_connect (io : Binding) (kind : RedirectKind) (w : World)
    (channel : Channel) : (io.connect kind w).stream channel
      = if kind.redirects channel then w.writers.length else io.stream channel := by
  cases kind <;> cases channel <;> rfl

theorem Binding.owns_connect (io : Binding) (kind : RedirectKind) (w : World)
    (channel : Channel) : (io.connect kind w).owns channel
      = (kind.redirects channel || io.owns channel) := by
  cases kind <;> cases channel <;> simp [connect, owns, RedirectKind.redirects]

theorem RedirectKind.writes_iff (kind : RedirectKind) :
    kind.writes ↔ ∃ channel, kind.redirects channel := by
  have both : (∃ channel, kind.redirects channel)
      ↔ kind.redirects .output ∨ kind.redirects .error := by
    constructor
    · rintro ⟨_ | _, h⟩
      · exact Or.inl h
      · exact Or.inr h
    · rintro (h | h)
      · exact ⟨_, h⟩
      · exact ⟨_, h⟩
  rw [both]
  cases kind <;> decide

theorem RedirectKind.openMode_eq_read_iff (kind : RedirectKind) :
    kind.openMode = .read ↔ kind.writes = false := by
  cases kind <;> decide

/-- What can be done with bindings that are put one upon another. -/
inductive Action where
  | push (redirects : List Redirect)
  | write (channel : Channel) (bytes : Bytes)
  | flush
  | pop
  deriving DecidableEq, Repr

/-- Bindings put one upon another. -/
structure Nest where
  world : World
  base : Binding
  /-- The bindings above the base, the innermost first. -/
  inner : List Binding := []

namespace Nest

/-- The innermost binding. -/
def top (n : Nest) : Binding :=
  n.inner.headD n.base

/-- Do one thing, if it can be done.  Redirects that fail, or that are none, make no new binding,
and the base cannot be released. -/
def step (n : Nest) : Action → Option (Except SystemError Unit × Nest)
  | .push redirects =>
      match (Redirection.apply redirects n.top).on n.world with
      | (.ok (.derived io), world) => some (.ok (), { n with world, inner := io :: n.inner })
      | _ => none
  | .write channel bytes =>
      let (result, world) := (World.write (n.top.stream channel) bytes).on n.world
      some (result, { n with world })
  | .flush =>
      let (result, world) := n.top.flush.on n.world
      some (result, { n with world })
  | .pop =>
      match n.inner with
      | [] => none
      | io :: inner =>
          let (result, world) := io.release.on n.world
          some (result, { n with world, inner })

/-- Do one thing after another, and list the results. -/
def run (n : Nest) : List Action → Option (List (Except SystemError Unit) × Nest)
  | [] => some ([], n)
  | action :: rest =>
      match n.step action with
      | none => none
      | some (result, n) => (n.run rest).map fun (results, n) => (result :: results, n)

/-- A binding is put upon the innermost one by redirects that are carried out, at least one. -/
theorem step_push_eq_some_iff {n m : Nest} {redirects : List Redirect}
    {result : Except SystemError Unit} : n.step (.push redirects) = some (result, m) ↔
      redirects ≠ [] ∧ result = .ok () ∧ ∃ io world,
        (redirects.foldlM Redirection.redirect { n.top with owned := {} }).on n.world
          = (.ok io, world) ∧ { n with world, inner := io :: n.inner } = m := by
  cases redirects with
  | nil => simp [step, Redirection.apply]
  | cons directive rest =>
      rw [step, Redirection.apply, Effect.on_map]
      · rcases ((directive :: rest).foldlM Redirection.redirect
          { n.top with owned := {} }).on n.world with ⟨_ | io, world⟩
        · simp [Except.map]
        · simp only [Except.map, Option.some.injEq, Prod.mk.injEq, ne_eq, reduceCtorEq,
            not_false_eq_true, true_and, Except.ok.injEq, @eq_comm _ (Except.ok ()) result]
          constructor
          · rintro ⟨done, rfl⟩
            exact ⟨done, io, world, ⟨rfl, rfl⟩, rfl⟩
          · rintro ⟨done, _, _, ⟨rfl, rfl⟩, rfl⟩
            exact ⟨done, rfl⟩
      · simp

theorem headD_mem (base : Binding) (inner : List Binding) : inner.headD base ∈ base :: inner := by
  cases inner with
  | nil => exact List.mem_cons_self ..
  | cons => exact List.mem_cons_of_mem _ (List.mem_cons_self ..)

/-- The output streams of all bindings. -/
def streams (n : Nest) : List WriterId :=
  (n.base :: n.inner).flatMap fun io => [io.output, io.error]

/-- Whether a stream is an output of one of the bindings. -/
def Holds (n : Nest) (id : WriterId) : Prop :=
  ∃ io ∈ n.base :: n.inner, ∃ channel, io.stream channel = id

theorem mem_streams_iff {n : Nest} {id : WriterId} : id ∈ n.streams ↔ n.Holds id := by
  simp only [streams, Holds, List.mem_flatMap, List.mem_cons, List.not_mem_nil, or_false]
  refine exists_congr fun io => and_congr_right fun _ => ?_
  constructor
  · rintro (rfl | rfl)
    · exact ⟨.output, rfl⟩
    · exact ⟨.error, rfl⟩
  · rintro ⟨_ | _, rfl⟩
    · exact Or.inl rfl
    · exact Or.inr rfl

/-- Whether no two of the streams are at one file. -/
def Apart (n : Nest) : Prop :=
  ∀ id ∈ n.streams, ∀ id' ∈ n.streams, ∀ location ∈ n.world.location? id,
    n.world.location? id' = some location → id = id'

instance (n : Nest) : Decidable n.Apart :=
  inferInstanceAs (Decidable (∀ id ∈ n.streams, ∀ id' ∈ n.streams,
    ∀ location ∈ n.world.location? id, n.world.location? id' = some location → id = id'))

theorem apart_iff {n : Nest} : n.Apart ↔ ∀ id id', n.Holds id → n.Holds id' →
    ∀ location, n.world.location? id = some location → n.world.location? id' = some location →
      id = id' := by
  simp only [Apart, mem_streams_iff, Option.mem_def]
  exact ⟨fun h id id' held held' => h id held id' held', fun h id held id' held' =>
    h id id' held held'⟩

/-- Whether an action keeps the streams at different files after each redirect, and gives bytes only
to a file that takes them. -/
def Admits (n : Nest) : Action → Prop
  | .push redirects => ∀ count, count ≤ redirects.length →
      ∀ next ∈ n.step (.push (redirects.take count)), next.2.Apart
  | .write channel bytes => bytes = [] ∨ ∀ location ∈ n.world.location? (n.top.stream channel),
      n.world.machine.tree.refusal? location = none
  | .flush | .pop => True

instance (n : Nest) : (action : Action) → Decidable (n.Admits action)
  | .push redirects => inferInstanceAs (Decidable (∀ count, count ≤ redirects.length →
      ∀ next ∈ n.step (.push (redirects.take count)), next.2.Apart))
  | .write channel bytes => inferInstanceAs (Decidable (bytes = [] ∨
      ∀ location ∈ n.world.location? (n.top.stream channel),
        n.world.machine.tree.refusal? location = none))
  | .flush | .pop => isTrue trivial

/-- Whether every action of a run is admitted where it is done. -/
def Clear (n : Nest) : List Action → Prop
  | [] => True
  | action :: rest => n.Admits action ∧ ∀ next ∈ n.step action, next.2.Clear rest

instance decidableClear : (n : Nest) → (actions : List Action) → Decidable (n.Clear actions)
  | _, [] => isTrue trivial
  | n, action :: rest =>
      have : DecidablePred fun next : Except SystemError Unit × Nest => next.2.Clear rest :=
        fun next => decidableClear next.2 rest
      inferInstanceAs (Decidable (n.Admits action ∧ ∀ next ∈ n.step action, next.2.Clear rest))

end Nest

/-- The file of the last redirect for one of the outputs. -/
def lastFor (opened : List (Redirect × OpenFile)) (channel : Channel) : Option Location :=
  (opened.filter fun (directive, _) => directive.kind.redirects channel).getLast?.map
    fun (_, file) => file.location

theorem lastFor_cons (directive : Redirect) (file : OpenFile) (opened : List (Redirect × OpenFile))
    (channel : Channel) : lastFor ((directive, file) :: opened) channel
      = (lastFor opened channel).or
        (if directive.kind.redirects channel then some file.location else none) := by
  unfold lastFor
  cases new : directive.kind.redirects channel with
  | false => simp [new]
  | true =>
      simp only [List.filter_cons, new, if_true, List.getLast?_cons, Option.map_some]
      cases (opened.filter fun (directive, _) => directive.kind.redirects channel).getLast? <;> rfl

/-- Once both outputs are sent to a file, it has both of them until one is sent elsewhere. -/
theorem lastFor_of_allOutput {directive : Redirect} {file : OpenFile}
    {after : List (Redirect × OpenFile)}
    (both : directive.kind = .allOutput ∨ directive.kind = .allAppend)
    (reads : ∀ later ∈ after, later.1.kind.writes = false)
    (before : List (Redirect × OpenFile)) (channel : Channel) :
    lastFor (before ++ (directive, file) :: after) channel = some file.location := by
  have chosen : directive.kind.redirects channel = true := by
    rcases both with e | e <;> rw [e] <;> rfl
  have none : after.filter (fun (later, _) => later.kind.redirects channel) = [] := by
    refine List.filter_eq_nil_iff.mpr fun later mem redirected => ?_
    have writes := later.1.kind.writes_iff.mpr ⟨channel, redirected⟩
    rw [reads later mem] at writes
    cases writes
  simp only [lastFor, List.filter_append, List.filter_cons, chosen, if_true, none,
    List.getLast?_concat, Option.map_some]

/-- What there is without buffers. -/
structure Direct where
  tree : FileTree
  cwd : Location
  /-- What the streams of the base have collected. -/
  memory : WriterId → Bytes
  /-- The files that each binding above the base chose for the outputs, the innermost first. -/
  layers : List (Channel → Option Location) := []

namespace Direct

/-- Before anything is put upon the base. -/
def of (n : Nest) : Direct where
  tree := n.world.machine.tree
  cwd := n.world.cwd
  memory id := match n.world.writers[id]? with
    | some (.memory collected) => collected
    | _ => []

/-- Do one thing. -/
def step (base : Binding) (d : Direct) : Action → Direct
  | .push redirects =>
      let opening := Opening.of d.tree d.cwd redirects
      { d with tree := opening.tree, layers := lastFor opening.opened :: d.layers }
  | .write channel bytes =>
      match d.layers.findSome? (· channel) with
      | some location => { d with tree := d.tree.extend location bytes }
      | none =>
          { d with
            memory := fun id =>
              if id = base.stream channel then d.memory id ++ bytes else d.memory id }
  | .flush => d
  | .pop => { d with layers := d.layers.tail }

/-- A file that no binding chose last, such as one that is superseded, gets no bytes. -/
theorem get?_tree_step_write (base : Binding) (d : Direct) {channel : Channel} {location : Location}
    (superseded : ∀ layer ∈ d.layers, layer channel ≠ some location) (bytes : Bytes) :
    (d.step base (.write channel bytes)).tree.get? location = d.tree.get? location := by
  simp only [step]
  split
  · rename_i chosen e
    obtain ⟨layer, mem, found⟩ := List.exists_of_findSome?_eq_some e
    have elsewhere : location ≠ chosen := by
      rintro rfl
      exact superseded layer mem found
    exact FileTree.get?_extend_of_ne d.tree elsewhere bytes
  · rfl

/-- Do one thing after another. -/
def run (base : Binding) (d : Direct) (actions : List Action) : Direct :=
  actions.foldl (step base) d

end Direct

end Shell
