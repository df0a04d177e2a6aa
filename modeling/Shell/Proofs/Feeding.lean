import Shell.Proofs.Buffering
import Shell.Proofs.Drawing

/-!
# Bindings — what they draw their input from

Of bindings that are put one upon another, the innermost is asked for input.  It draws on the file
of its own last redirect of the input or, if it has none, on what the binding below it draws on
(`Feed.nearest`).  A `Supply` is what there is to read there, and what was taken from it.

* `World.exists_ask`: a request takes its answer from the front of what a stream has left.
* `Feed.Describes.drawn`: it moves the nearest supply and no other.
* `World.Spares.same`: what is done without asking moves none, if it changes no file that is read.
-/

namespace Shell

/-! ### Streams that are read -/

/-- The file that a source reads, if it reads one. -/
def Source.file? : Source → Option Location
  | opened file => some file.location
  | nothing | console => none

/-- Taking bytes from a file changes nothing but how far it was read. -/
theorem Source.Moved.filed {source source' : Source} {machine machine' : Machine} {rest : Bytes}
    (h : source.Moved machine rest source' machine') (filed : source.file? ≠ none) :
    machine' = machine ∧ source'.file? = source.file? := by
  cases h with
  | nothing | console => exact absurd rfl filed
  | opened => exact ⟨rfl, rfl⟩

namespace World

/-- Ask a stream that is read. -/
def ask (id : ReaderId) (request : Request) : Effect SystemError Bytes :=
  useReader id fun reader machine => reader.ask machine request

/-- What is left to read from a stream. -/
def left? (w : World) (id : ReaderId) : Option Bytes :=
  w.readers[id]?.bind (Reader.left? · w.machine)

/-- The file that a stream reads, if it reads one. -/
def readFile? (w : World) (id : ReaderId) : Option Location :=
  w.readers[id]?.bind fun reader => reader.source.file?

/-- A world after bytes were taken from a stream, so that others are left. -/
structure Drawn (w : World) (id : ReaderId) (rest : Bytes) (w' : World) : Prop where
  left : w'.left? id = some rest
  others : ∀ other, other ≠ id → w'.readers[other]? = w.readers[other]?
  filed : w.readFile? id ≠ none → w'.machine = w.machine ∧ w'.readFile? id = w.readFile? id

variable {w w' : World} {id : ReaderId} {bytes rest : Bytes}

theorem lt_of_left? (h : w.left? id = some bytes) : id < w.readers.length := by
  obtain ⟨reader, found, -⟩ := Option.bind_eq_some_iff.mp h
  exact (List.getElem?_eq_some_iff.mp found).1

/-- **A request** takes its answer from the front of what is left. -/
theorem exists_ask (h : w.left? id = some bytes) (request : Request) :
    ∃ answer taken rest w', (ask id request).on w = (answer, w')
      ∧ Answers request bytes taken answer ∧ taken ++ rest = bytes ∧ w.Drawn id rest w' := by
  obtain ⟨reader, found, left⟩ := Option.bind_eq_some_iff.mp h
  obtain ⟨answer, taken, rest, reader', machine', asked, answers, split, moved⟩ :=
    Reader.exists_ask left request
  have self := List.getElem?_set_self (List.getElem?_eq_some_iff.mp found).1 (a := reader')
  refine ⟨answer, taken, rest, { w with machine := machine', readers := w.readers.set id reader' },
    by simp only [ask, useReader, Effect.on, found, asked], answers, split, ?_, ?_, fun filed => ?_⟩
  · rw [left?, self]
    exact moved.left
  · exact fun other ne => List.getElem?_set_ne ne.symm
  · obtain ⟨behind, moved, -⟩ := moved
    have source : w.readFile? id = reader.source.file? := by rw [readFile?, found]; rfl
    rw [source] at filed ⊢
    rw [readFile?, self]
    exact moved.filed filed

end World

/-! ### Supplies -/

/-- What there is to read somewhere, and what was taken from it. -/
structure Supply where
  content : Bytes
  taken : Bytes := []
  deriving DecidableEq, Repr

namespace Supply

/-- What is left. -/
def left (supply : Supply) : Bytes :=
  supply.content.drop supply.taken.length

/-- The supply after more bytes were taken. -/
def draw (supply : Supply) (bytes : Bytes) : Supply :=
  { supply with taken := supply.taken ++ bytes }

/-- Whether the front of the content was taken, and no byte of it was skipped or taken twice. -/
def InOrder (supply : Supply) : Prop :=
  supply.taken <+: supply.content

variable {supply : Supply} {bytes rest : Bytes}

theorem left_draw (split : bytes ++ rest = supply.left) : (supply.draw bytes).left = rest := by
  have cut : (supply.draw bytes).left = supply.left.drop bytes.length := by
    simp [left, draw, List.drop_drop]
  rw [cut, ← split, List.drop_left]

theorem InOrder.draw (h : supply.InOrder) (split : bytes ++ rest = supply.left) :
    (supply.draw bytes).InOrder := by
  have content : supply.taken ++ supply.left = supply.content :=
    List.prefix_iff_eq_append.mp h
  rw [← split, ← List.append_assoc] at content
  exact ⟨rest, content⟩

end Supply

namespace Resolved

/-- The innermost of the bindings that redirects came to, one upon another above a base. -/
def innermost (base : Binding) : List Resolved → Binding
  | [] => base
  | resolved :: _ => resolved.binding

/-- All of these bindings, the innermost first. -/
def bindings (base : Binding) (inner : List Resolved) : List Binding :=
  inner.map Resolved.binding ++ [base]

end Resolved

/-- Where bindings that are put one upon another draw their input from: the base has a supply, and
each binding above it has its own or borrows that of the binding below. -/
inductive Feed where
  | base (supply : Supply)
  | borrow (below : Feed)
  | own (supply : Supply) (below : Feed)
  deriving Repr

namespace Feed

/-- What the innermost binding draws on. -/
def nearest : Feed → Supply
  | base supply => supply
  | borrow below => below.nearest
  | own supply _ => supply

/-- The feed after bytes were taken from the nearest supply. -/
def draw (bytes : Bytes) : Feed → Feed
  | base supply => base (supply.draw bytes)
  | borrow below => borrow (below.draw bytes)
  | own supply below => own (supply.draw bytes) below

/-- All supplies. -/
def supplies : Feed → List Supply
  | base supply => [supply]
  | borrow below => below.supplies
  | own supply below => supply :: below.supplies

theorem nearest_mem (feed : Feed) : feed.nearest ∈ feed.supplies := by
  induction feed with
  | base | own => exact List.mem_cons_self
  | borrow _ ih => exact ih

theorem mem_supplies_draw {feed : Feed} {bytes : Bytes} {supply : Supply}
    (h : supply ∈ (feed.draw bytes).supplies) :
    supply ∈ feed.supplies ∨ supply = feed.nearest.draw bytes := by
  induction feed with
  | base =>
      exact .inr (List.mem_singleton.mp h)
  | borrow _ ih => exact ih h
  | own _ below =>
      rcases List.mem_cons.mp h with rfl | h
      · exact .inr rfl
      · exact .inl (List.mem_cons_of_mem _ h)

/-- Whether a feed says of the input of each binding what is left there.  A supply of a binding's
own is a file that was opened later than what the bindings below read. -/
inductive Describes (w : World) (base : Binding) : Feed → List Resolved → Prop where
  | base {supply : Supply} (left : w.left? base.input = some supply.left) :
      Describes w base (.base supply) []
  | borrow {resolved : Resolved} {feed : Feed} {inner : List Resolved}
      (below : Describes w base feed inner)
      (same : resolved.binding.input = (Resolved.innermost base inner).input) :
      Describes w base (.borrow feed) (resolved :: inner)
  | own {resolved : Resolved} {supply : Supply} {feed : Feed} {inner : List Resolved}
      (below : Describes w base feed inner)
      (later : ∀ io ∈ Resolved.bindings base inner, io.input < resolved.binding.input)
      (filed : w.readFile? resolved.binding.input ≠ none)
      (left : w.left? resolved.binding.input = some supply.left) :
      Describes w base (.own supply feed) (resolved :: inner)

namespace Describes

variable {w w' : World} {base : Binding} {feed : Feed} {inner : List Resolved} {bytes rest : Bytes}

/-- What is left of the nearest supply is what is left to read from the innermost binding. -/
theorem left_innermost (h : Describes w base feed inner) :
    w.left? (Resolved.innermost base inner).input = some feed.nearest.left := by
  induction h with
  | base left | own _ _ _ left => exact left
  | borrow _ same ih => exact (congrArg w.left? same).trans ih

theorem lt (h : Describes w base feed inner) :
    ∀ io ∈ Resolved.bindings base inner, io.input < w.readers.length := by
  induction h with
  | base left =>
      intro io mem
      obtain rfl := List.mem_singleton.mp mem
      exact World.lt_of_left? left
  | borrow below same ih =>
      rintro io (_ | ⟨_, mem⟩)
      · rw [same]
        exact World.lt_of_left? below.left_innermost
      · exact ih io mem
  | own _ _ _ left ih =>
      rintro io (_ | ⟨_, mem⟩)
      · exact World.lt_of_left? left
      · exact ih io mem

theorem congr (h : Describes w base feed inner)
    (same : ∀ io ∈ Resolved.bindings base inner, w'.left? io.input = w.left? io.input
      ∧ w'.readFile? io.input = w.readFile? io.input) : Describes w' base feed inner := by
  induction h with
  | base left => exact .base ((same _ List.mem_cons_self).1.trans left)
  | borrow _ same' ih => exact .borrow (ih fun io mem => same io (List.mem_cons_of_mem _ mem)) same'
  | own _ later filed left ih =>
      obtain ⟨leaves, reads⟩ := same _ List.mem_cons_self
      exact .own (ih fun io mem => same io (List.mem_cons_of_mem _ mem)) later
        (by rwa [reads]) (leaves.trans left)

/-- **A request** moves the nearest supply and no other. -/
theorem drawn (h : Describes w base feed inner)
    (drawn : w.Drawn (Resolved.innermost base inner).input rest w')
    (split : bytes ++ rest = feed.nearest.left) : Describes w' base (feed.draw bytes) inner := by
  have left : ∀ {supply : Supply}, bytes ++ rest = supply.left →
      w'.left? (Resolved.innermost base inner).input = some (supply.draw bytes).left :=
    fun split => drawn.left.trans (congrArg some (Supply.left_draw split).symm)
  induction h with
  | base => exact .base (left split)
  | borrow _ same ih =>
      exact .borrow (ih (same ▸ drawn) split fun split => same ▸ left split) same
  | own below later filed =>
      -- the bindings below have other readers, and reading a file leaves the machine as it is
      obtain ⟨machine, file⟩ := drawn.filed filed
      refine .own (below.congr fun io mem => ?_) later (fun none => filed (file.symm.trans none))
        (left split)
      have reader := drawn.others io.input (Nat.ne_of_lt (later io mem))
      simp only [World.left?, World.readFile?, reader, machine, and_self]

end Describes

end Feed

/-! ### What moves no supply -/

/-- Whether a stream is the same in another world, and so is what it reads, be it a file or the
console. -/
structure World.Spares (w : World) (id : ReaderId) (w' : World) : Prop where
  reader : w'.readers[id]? = w.readers[id]?
  input : w'.machine.console.input = w.machine.console.input
  file : ∀ location ∈ w.readFile? id,
    w'.machine.tree.get? location = w.machine.tree.get? location

theorem World.Spares.same {w w' : World} {id : ReaderId} (h : w.Spares id w') :
    w'.left? id = w.left? id ∧ w'.readFile? id = w.readFile? id := by
  have reads : w'.readFile? id = w.readFile? id := by rw [readFile?, readFile?, h.reader]
  refine ⟨?_, reads⟩
  rw [left?, left?, h.reader]
  cases found : w.readers[id]? with
  | none => rfl
  | some reader =>
      have source : reader.source.left? w'.machine = reader.source.left? w.machine := by
        cases e : reader.source with
        | nothing => rfl
        | console => simp only [Source.left?, h.input]
        | opened file =>
            have at' : w.readFile? id = some file.location := by
              simp [readFile?, found, e, Source.file?]
            simp only [Source.left?, FileTree.content?, h.file _ at']
      simp only [Option.bind_some, Reader.left?, source]

namespace World

theorem readers_useWriter (id : WriterId)
    (act : Writer → Machine → Except SystemError Unit × Writer × Machine) (w : World) :
    ((useWriter id act).on w).2.readers = w.readers := by
  simp only [useWriter, Effect.on]
  split <;> rfl

theorem readers_warn (w : World) (message : String) : (w.warn message).readers = w.readers := by
  unfold warn record
  split <;> rfl

end World

/-- **A release** leaves what is read alone. -/
theorem Resolved.readers_release (resolved : Resolved) (w : World) :
    (resolved.release.on w).2.readers = w.readers := by
  cases resolved with
  | inherited => rfl
  | derived io =>
      exact Binding.after_release (fun id w' same => (World.readers_useWriter id _ w').trans same)
        (fun w' message same => (w'.readers_warn message).trans same) rfl

end Shell
