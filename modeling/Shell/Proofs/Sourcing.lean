import Shell.Proofs.Feeding
import Shell.Proofs.Nesting
import Shell.Proofs.Preserving

/-!
# Bindings — where the input comes from

While a command reads, redirects may be put upon its binding for another one, and so on (`Stack`).
A `Ledger` keeps of each supply of input its content and the bytes that were taken from it, and
`Recorded` is a run together with its ledger: each request takes its answer from the front of what
is left in the nearest supply, and is booked on that one only.

* `Stack.Accounted.step`: one step is recorded and leaves a ledger that is right.
* `Stack.run_draws_in_order`: so is every run, if no file is changed while it is read, and what was
  taken from a supply is the front of its content.
* `Stack.line_inside_character_is_lost`: not all that was taken need be handed out.
-/

namespace Shell

/-! ### Bindings put one upon another -/

/-- What can be done with bindings that are put one upon another, while a command reads. -/
inductive InputUse where
  | push (redirects : List Redirect)
  | ask (request : Request)
  | write (channel : Channel) (bytes : Bytes)
  | pop
  deriving DecidableEq, Repr

/-- Bindings put one upon another.  Unlike in a `Nest`, redirects that are none count: they put the
innermost binding on top once more. -/
structure Stack where
  world : World
  base : Binding
  /-- What the redirects above the base came to, the innermost first. -/
  inner : List Resolved := []

namespace Stack

/-- The innermost binding. -/
def top (s : Stack) : Binding :=
  Resolved.innermost s.base s.inner

/-- Do one thing, if it can be done, and say what it gives.  Redirects that fail put nothing upon
the others, and the base cannot be released. -/
def step (s : Stack) : InputUse → Option (Except SystemError Bytes × Stack)
  | .push redirects =>
      match (Redirection.apply redirects s.top).on s.world with
      | (.ok resolved, world) => some (.ok [], { s with world, inner := resolved :: s.inner })
      | (.error _, _) => none
  | .ask request =>
      let (answer, world) := (World.ask s.top.input request).on s.world
      some (answer, { s with world })
  | .write channel bytes =>
      let (result, world) := (World.write (s.top.stream channel) bytes).on s.world
      some (result.map fun _ => [], { s with world })
  | .pop =>
      match s.inner with
      | [] => none
      | resolved :: inner =>
          let (result, world) := resolved.release.on s.world
          some (result.map fun _ => [], { s with world, inner })

/-- Do one thing after another, and list what they give. -/
def run (s : Stack) : List InputUse → Option (List (Except SystemError Bytes) × Stack)
  | [] => some ([], s)
  | use :: rest =>
      match s.step use with
      | none => none
      | some (answer, s) => (s.run rest).map fun (answers, s) => (answer :: answers, s)

/-- Whether the files that the bindings read are the same in another tree. -/
def Spared (s : Stack) (tree : FileTree) : Prop :=
  ∀ io ∈ Resolved.bindings s.base s.inner, ∀ location ∈ s.world.readFile? io.input,
    tree.get? location = s.world.machine.tree.get? location

instance (s : Stack) (tree : FileTree) : Decidable (s.Spared tree) :=
  inferInstanceAs (Decidable (∀ io ∈ Resolved.bindings s.base s.inner,
    ∀ location ∈ s.world.readFile? io.input,
      tree.get? location = s.world.machine.tree.get? location))

/-- Whether something changes no file that a binding reads, and leaves an input that has a
content. -/
def Admits (s : Stack) (use : InputUse) : Prop :=
  ∀ next ∈ s.step use, s.Spared next.2.world.machine.tree
    ∧ next.2.world.left? next.2.top.input ≠ none

instance (s : Stack) (use : InputUse) : Decidable (s.Admits use) :=
  inferInstanceAs (Decidable (∀ next ∈ s.step use, s.Spared next.2.world.machine.tree
    ∧ next.2.world.left? next.2.top.input ≠ none))

/-- Whether every use of a run is admitted where it is made. -/
def Clear (s : Stack) : List InputUse → Prop
  | [] => True
  | use :: rest => s.Admits use ∧ ∀ next ∈ s.step use, next.2.Clear rest

instance decidableClear : (s : Stack) → (uses : List InputUse) → Decidable (s.Clear uses)
  | _, [] => isTrue trivial
  | s, use :: rest =>
      have : DecidablePred fun next : Except SystemError Bytes × Stack => next.2.Clear rest :=
        fun next => decidableClear next.2 rest
      inferInstanceAs (Decidable (s.Admits use ∧ ∀ next ∈ s.step use, next.2.Clear rest))

end Stack

/-! ### Redirects of the input -/

/-- The file of the last redirect of the input. -/
def lastInput (opened : List (Redirect × OpenFile)) : Option OpenFile :=
  (opened.filter fun (directive, _) => directive.kind = .input).getLast?.map Prod.snd

theorem lastInput_cons (directive : Redirect) (file : OpenFile)
    (opened : List (Redirect × OpenFile)) : lastInput ((directive, file) :: opened)
      = (lastInput opened).or (if directive.kind = .input then some file else none) := by
  unfold lastInput
  by_cases input : directive.kind = .input
  · simp only [List.filter_cons, input, decide_true, if_true, List.getLast?_cons, Option.map_some]
    cases (opened.filter fun (directive, _) => directive.kind = .input).getLast? <;> rfl
  · simp [input]

theorem exists_mem_of_lastInput {opened : List (Redirect × OpenFile)} {file : OpenFile}
    (h : lastInput opened = some file) : ∃ directive, (directive, file) ∈ opened := by
  obtain ⟨⟨directive, _⟩, last, rfl⟩ := Option.map_eq_some_iff.mp h
  exact ⟨directive, (List.mem_filter.mp (List.mem_of_getLast? last)).1⟩

/-- A file that a redirect has just opened was not read yet. -/
theorem Opening.offset_of_mem {tree : FileTree} {cwd : Location} {redirects : List Redirect}
    {directive : Redirect} {file : OpenFile}
    (h : (directive, file) ∈ (of tree cwd redirects).opened) : file.offset = 0 := by
  rw [start_of_mem h]

/-- A binding that redirects made reads a new stream to the file of the last redirect of the input,
or what it read before if there is none. -/
theorem Redirection.input_connected (io : Binding) (w : World)
    (opened : List (Redirect × OpenFile)) :
    let made := connected io w opened
    match lastInput opened with
    | none => made.1.input = io.input
    | some file => w.readers.length ≤ made.1.input
        ∧ made.2.readers[made.1.input]? = some { source := .opened file } := by
  induction opened generalizing io w with
  | nil => rfl
  | cons first rest ih =>
      obtain ⟨directive, file⟩ := first
      have later := ih (io.connect directive.kind w) (w.gain directive.kind file)
      rw [lastInput_cons]
      revert later
      cases lastInput rest with
      | some last =>
          rintro ⟨new, found⟩
          refine ⟨Nat.le_trans ?_ new, found⟩
          rw [World.readers_gain, List.length_append]
          exact Nat.le_add_right ..
      | none =>
          -- the first redirect decides, and readers that come later stand behind its own
          intro same
          obtain ⟨kind, target⟩ := directive
          cases kind with
          | input =>
              obtain ⟨more, kept⟩ := readers_prefix_connected (io.connect .input w)
                (w.gain .input file) rest
              refine ⟨Nat.le_of_eq same.symm, ?_⟩
              rw [connected_cons, same, ← kept, World.readers_gain]
              simp [Binding.connect, RedirectKind.writes]
          | output | outputAppend | error | errorAppend | allOutput | allAppend => exact same

/-! ### Runs and their ledgers -/

/-- What is known of the supplies of bindings that are put one upon another. -/
structure Ledger where
  feed : Feed
  /-- The supplies of bindings that were released. -/
  closed : List Supply := []

namespace Ledger

/-- All supplies that there were. -/
def supplies (l : Ledger) : List Supply :=
  l.feed.supplies ++ l.closed

/-- The feed of a binding that redirects are put upon.  The last of them that is for the input
opens a supply; a file without a content counts as empty. -/
def opened (opening : Opening) (below : Feed) : Feed :=
  match lastInput opening.opened with
  | none => .borrow below
  | some file => .own { content := (opening.tree.content? file.location).getD [] } below

/-- The ledger after something was done and some bytes were taken. -/
def after (l : Ledger) (s : Stack) (taken : Bytes) : InputUse → Ledger
  | .push redirects =>
      { l with feed := opened (.of s.world.machine.tree s.world.cwd redirects) l.feed }
  | .ask _ => { l with feed := l.feed.draw taken }
  | .write .. => l
  | .pop =>
      match l.feed with
      | .base _ => l
      | .borrow below => { l with feed := below }
      | .own supply below => { feed := below, closed := supply :: l.closed }

/-- Whether all that was taken from the supplies was taken in order. -/
def InOrder (l : Ledger) : Prop :=
  ∀ supply ∈ l.supplies, supply.InOrder

theorem InOrder.after {l : Ledger} (h : l.InOrder) (s : Stack) {taken : Bytes} {use : InputUse}
    (front : ∀ request, use = .ask request → taken <+: l.feed.nearest.left) :
    (l.after s taken use).InOrder := by
  obtain ⟨feed, closed⟩ := l
  intro supply mem
  cases use with
  | push redirects =>
      simp only [Ledger.after, supplies, opened] at mem
      split at mem
      · exact h supply mem
      · rcases List.mem_cons.mp mem with rfl | mem
        · exact List.nil_prefix
        · exact h supply mem
  | ask request =>
      rcases List.mem_append.mp mem with drawn | mem
      · rcases Feed.mem_supplies_draw drawn with mem | rfl
        · exact h supply (List.mem_append_left _ mem)
        · obtain ⟨rest, split⟩ := front request rfl
          exact (h _ (List.mem_append_left _ feed.nearest_mem)).draw split
      · exact h supply (List.mem_append_right _ mem)
  | write => exact h supply mem
  | pop =>
      cases feed with
      | base | borrow => exact h supply mem
      | own own below =>
          refine h supply ?_
          simp only [Ledger.after, supplies, Feed.supplies, List.mem_append, List.mem_cons] at mem ⊢
          grind

end Ledger

/-- A run with what it gives, and its ledger.  Each request is answered from the nearest supply. -/
inductive Recorded : Stack → Ledger → List InputUse → List (Except SystemError Bytes) → Stack →
    Ledger → Prop where
  | nil (s : Stack) (l : Ledger) : Recorded s l [] [] s l
  | cons {s s' t : Stack} {l l' : Ledger} {use : InputUse} {uses : List InputUse}
      {answer : Except SystemError Bytes} {answers : List (Except SystemError Bytes)}
      {taken : Bytes} (step : s.step use = some (answer, s'))
      (answered : ∀ request, use = .ask request →
        Answers request l.feed.nearest.left taken answer)
      (rest : Recorded s' (l.after s taken use) uses answers t l') :
      Recorded s l (use :: uses) (answer :: answers) t l'

namespace Stack

variable {s s' t : Stack} {l : Ledger}

/-- **Redirects** put upon the innermost binding leave those below what they read. -/
theorem describes_push {redirects : List Redirect} {resolved : Resolved} {w : World} {feed : Feed}
    (h : feed.Describes s.world s.base s.inner)
    (applied : (Redirection.apply redirects s.top).on s.world = (.ok resolved, w))
    (spared : s.Spared w.machine.tree) (readable : w.left? resolved.binding.input ≠ none) :
    (Ledger.opened (.of s.world.machine.tree s.world.cwd redirects) feed).Describes w s.base
      (resolved :: s.inner) := by
  obtain ⟨-, made, rfl⟩ := Redirection.eq_of_apply applied
  generalize opening : Opening.of s.world.machine.tree s.world.cwd redirects = o at *
  have connected := Redirection.input_connected { s.top with owned := {} } s.world o.opened
  have kept := Redirection.readers_prefix_connected { s.top with owned := {} } s.world o.opened
  have machine := Redirection.machine_connected { s.top with owned := {} } s.world o.opened
  -- without redirects the binding below is used as it is, and reads the same
  have input : resolved.binding.input
      = (Redirection.connected { s.top with owned := {} } s.world o.opened).1.input := by
    rw [made]
    split
    · rename_i bare
      subst bare opening
      rfl
    · rfl
  generalize Redirection.connected { s.top with owned := {} } s.world o.opened = connection at *
  have below : feed.Describes (connection.2.withTree o.tree) s.base s.inner := by
    refine h.congr fun io mem => World.Spares.same ⟨?_, ?_, spared io mem⟩
    · obtain ⟨more, kept⟩ := kept
      exact (congrArg (·[io.input]?) kept.symm).trans (List.getElem?_append_left (h.lt io mem))
    · exact congrArg (·.console.input) machine
  unfold Ledger.opened
  cases last : lastInput o.opened with
  | none =>
      rw [last] at connected
      exact .borrow below (input.trans connected)
  | some file =>
      rw [last] at connected
      obtain ⟨new, found⟩ := connected
      have found : (connection.2.withTree o.tree).readers[resolved.binding.input]?
          = some { source := .opened file } := input ▸ found
      refine .own below (fun io mem => ?_) ?_ ?_
      · exact Nat.lt_of_lt_of_le (h.lt io mem) (input ▸ new)
      · rw [World.readFile?, found]
        exact Option.some_ne_none _
      · obtain ⟨bytes, left⟩ := Option.ne_none_iff_exists'.mp readable
        rw [left]
        rw [World.left?, found] at left
        obtain ⟨behind, unread, rfl⟩ := Option.map_eq_some_iff.mp left
        obtain ⟨-, content, there, rfl⟩ := Source.left?_opened_iff.mp unread
        obtain ⟨directive, mem⟩ := exists_mem_of_lastInput last
        have start : file.offset = 0 := by
          subst opening
          exact Opening.offset_of_mem mem
        have content : o.tree.content? file.location = some content := there
        simp [Supply.left, content, start]

/-- What is known in a run: the ledger says what is left everywhere, and everything was taken in
order. -/
structure Accounted (s : Stack) (l : Ledger) : Prop where
  describes : l.feed.Describes s.world s.base s.inner
  inOrder : l.InOrder

/-- **One step** is recorded. -/
theorem Accounted.step {use : InputUse} {answer : Except SystemError Bytes} (h : s.Accounted l)
    (admitted : s.Admits use) (step : s.step use = some (answer, s')) :
    ∃ taken, (∀ request, use = .ask request → Answers request l.feed.nearest.left taken answer)
      ∧ s'.Accounted (l.after s taken use) := by
  obtain ⟨spared, readable⟩ := admitted _ step
  -- what is done without asking leaves alone what the bindings read
  have aside : ∀ {w : World}, w.readers = s.world.readers →
      w.machine.console.input = s.world.machine.console.input → s.Spared w.machine.tree →
      l.feed.Describes w s.base s.inner := by
    intro w readers input spared
    exact h.describes.congr fun io mem => World.Spares.same
      ⟨congrArg (·[io.input]?) readers, input, spared io mem⟩
  cases use with
  | push redirects =>
      simp only [Stack.step] at step
      split at step
      · rename_i resolved w applied
        cases step
        exact ⟨[], nofun, ⟨describes_push h.describes applied spared readable,
          h.inOrder.after s nofun⟩⟩
      · cases step
  | ask request =>
      obtain ⟨answer', taken, rest, w, asked, answers, split, drawn⟩ :=
        World.exists_ask h.describes.left_innermost request
      have asked : (World.ask s.top.input request).on s.world = (answer', w) := asked
      simp only [Stack.step, asked, Option.some.injEq, Prod.mk.injEq] at step
      obtain ⟨rfl, rfl⟩ := step
      refine ⟨taken, ?_, ⟨h.describes.drawn drawn split,
        h.inOrder.after s fun _ _ => ⟨rest, split⟩⟩⟩
      rintro _ ⟨⟩
      exact answers
  | write channel bytes =>
      cases step
      have readers := World.readers_useWriter (s.top.stream channel)
        (fun writer machine => writer.write machine bytes) s.world
      exact ⟨[], nofun, ⟨aside readers (World.keeps_write _ _ s.world).input spared,
        h.inOrder.after s nofun⟩⟩
  | pop =>
      have inOrder : (l.after s [] .pop).InOrder := h.inOrder.after s nofun
      obtain ⟨w, base, inner⟩ := s
      cases inner with
      | nil => cases step
      | cons resolved inner =>
          cases step
          have left := aside (resolved.readers_release w) (resolved.keeps_release w).input spared
          refine ⟨[], nofun, ⟨?_, inOrder⟩⟩
          obtain ⟨feed, closed⟩ := l
          cases left with
          | borrow below => exact below
          | own below => exact below

/-- **One step after another** is. -/
theorem Accounted.run {uses : List InputUse} {answers : List (Except SystemError Bytes)}
    (h : s.Accounted l) (clear : s.Clear uses) (ran : s.run uses = some (answers, t)) :
    ∃ l', Recorded s l uses answers t l' ∧ t.Accounted l' := by
  induction uses generalizing s l answers with
  | nil =>
      cases ran
      exact ⟨l, .nil _ _, h⟩
  | cons use rest ih =>
      rw [Stack.run] at ran
      split at ran
      · cases ran
      · rename_i answer s' step
        obtain ⟨⟨answers, _⟩, ran, e⟩ := Option.map_eq_some_iff.mp ran
        cases e
        obtain ⟨taken, answered, next⟩ := h.step clear.1 step
        obtain ⟨l', recorded, last⟩ := ih next (clear.2 _ step) ran
        exact ⟨l', .cons step answered recorded, last⟩

/-- **A run** of reads, in which no file is changed while a binding reads it, is recorded by a
ledger.  Each request takes its answer from the front of what is left in the nearest supply, the
file of the last redirect of the input of the innermost binding that has one, or else the input of
the base, and moves no other.  All that was ever taken from a supply is the front of its content, so
that nothing was skipped or taken twice; and at the end each binding has left to read what the
ledger says. -/
theorem run_draws_in_order {uses : List InputUse} {answers : List (Except SystemError Bytes)}
    {content : Bytes} (bare : s.inner = []) (input : s.world.left? s.base.input = some content)
    (clear : s.Clear uses) (ran : s.run uses = some (answers, t)) :
    ∃ l, Recorded s { feed := .base { content } } uses answers t l
      ∧ (∀ supply ∈ l.supplies, supply.taken <+: supply.content)
      ∧ l.feed.Describes t.world t.base t.inner := by
  have start : s.Accounted { feed := .base { content } } := by
    refine ⟨?_, ?_⟩
    · rw [bare]
      exact .base input
    · intro supply mem
      cases List.mem_singleton.mp mem
      exact List.nil_prefix
  obtain ⟨l, recorded, describes, inOrder⟩ := start.run clear ran
  exact ⟨l, recorded, inOrder, describes⟩

/-- A line of the base, then a file upon it, read through a binding that borrows it as well, and the
base again. -/
theorem run_draws_in_order_nested :
    let start := Binding.overMemory (Bytes.ofText "ab\ncd")
      { machine.tree.entries :=
          [(["d"], .directory), (["f", "d"], .file 0o644 (Bytes.ofText "é\nz"))]
        cwd := ["d"] }
    let s : Stack := { world := start.2, base := start.1 }
    let uses : List InputUse := [.ask .line, .push [⟨.input, ⟨"f", by decide⟩⟩], .ask (.block 2),
      .push [], .ask .line, .pop, .pop, .ask (.block 1)]
    s.Clear uses ∧ ∃ answers t l, s.run uses = some (answers, t)
      ∧ answers.filterMap Except.toOption
        = [Bytes.ofText "ab\n", [], Bytes.ofText "é", [], Bytes.ofText "\n", [], [],
          Bytes.ofText "c"]
      ∧ Recorded s { feed := .base { content := Bytes.ofText "ab\ncd" } } uses answers t l
      ∧ t.world.left? t.base.input = some (Bytes.ofText "d") := by
  intro start s uses
  have clear : s.Clear uses := by decide
  obtain ⟨answers, t, ran, given, left⟩ : ∃ answers t, s.run uses = some (answers, t)
      ∧ answers.filterMap Except.toOption
        = [Bytes.ofText "ab\n", [], Bytes.ofText "é", [], Bytes.ofText "\n", [], [],
          Bytes.ofText "c"]
      ∧ t.world.left? t.base.input = some (Bytes.ofText "d") :=
    ⟨_, _, rfl, by decide, by decide⟩
  obtain ⟨l, recorded, -⟩ := run_draws_in_order rfl rfl clear ran
  exact ⟨clear, answers, t, l, ran, given, recorded, left⟩

/-- A block may end inside a character.  A line is read from there to its end and is no text: it is
gone, and what was handed out is not the front of the content. -/
theorem line_inside_character_is_lost :
    let content := Bytes.ofText "é\nx"
    let start := Binding.overMemory content {}
    let s : Stack := { world := start.2, base := start.1 }
    let uses : List InputUse := [.ask (.block 1), .ask .line, .ask .rest]
    s.Clear uses ∧ ∃ answers t, s.run uses = some (answers, t)
      ∧ answers = [.ok [0xC3], .error .notText, .ok (Bytes.ofText "x")]
      ∧ ¬ (answers.filterMap Except.toOption).flatten <+: content := by
  intro content start s uses
  refine ⟨by decide, _, _, rfl, rfl, by decide⟩

end Stack

end Shell
