import Shell.Proofs.Dispatching
import Shell.Proofs.Framing

/-!
# Sessions — what waits on the console

Nothing that a session does itself while it evaluates a line depends on what waits on the console,
or takes of it.  With other bytes there it comes to the same result and the same state, but for
these bytes (`Effect.Overlooks`, `Act.Overlooks`).  A composed step overlooks the input if its parts
do, so the traversal of the builtins is the one of `Act.Compositional`.

A program shares the console with the session and may well read from it.
`Session.overlooks_evaluate`: a line overlooks the input if the program that it starts does
(`Session.LeavesInput`).
-/

namespace Shell

/-- The console with other bytes waiting to be read. -/
def Console.feed (console : Console) (input : Bytes) : Console :=
  { console with input }

/-- The machine with other bytes waiting on the console. -/
def Machine.feed (machine : Machine) (input : Bytes) : Machine :=
  { machine with console := machine.console.feed input }

/-- The world with other bytes waiting on the console. -/
def World.feed (w : World) (input : Bytes) : World :=
  { w with machine := w.machine.feed input }

/-- The state with other bytes waiting on the console. -/
def SessionState.feed (s : SessionState) (input : Bytes) : SessionState :=
  { s with world := s.world.feed input }

variable {ε ε' α β : Type}

/-- A request to the world that does not depend on what waits on the console, and leaves it
alone. -/
def Effect.Overlooks (x : Effect ε α) : Prop :=
  ∀ w input, x.on (w.feed input) = ((x.on w).1, (x.on w).2.feed input)

/-- A step that, from a state, does not depend on what waits on the console, and leaves it alone. -/
def Act.OverlooksFrom (x : Act ε α) (s : SessionState) : Prop :=
  ∀ input, x.on (s.feed input) = ((x.on s).1, (x.on s).2.feed input)

/-- A step that does so from every state. -/
def Act.Overlooks (x : Act ε α) : Prop :=
  ∀ s, x.OverlooksFrom s

/-! ### Requests to the world -/

namespace Effect.Overlooks

theorem pure (a : α) : Overlooks (Pure.pure a : Effect ε α) :=
  fun _ _ => rfl

theorem bind {x : Effect ε α} {f : α → Effect ε β} (hx : x.Overlooks) (hf : ∀ a, (f a).Overlooks) :
    (x >>= f).Overlooks := fun w input =>
  on_bind_of_disguise (hx w input) fun a w => hf a w input

end Effect.Overlooks

namespace World

end World

namespace Binding

end Binding

namespace Act

theorem OverlooksFrom.bind {x : Act ε α} {f : α → Act ε β} {s : SessionState}
    (hx : x.OverlooksFrom s) (hf : ∀ a t, x.on s = (.ok a, t) → (f a).OverlooksFrom t) :
    (x >>= f).OverlooksFrom s := by
  intro input
  rw [on_bind, on_bind, hx input]
  rcases e : x.on s with ⟨_ | a, t⟩
  · rfl
  · exact hf a t e input

theorem Overlooks.ofEffect {x : Effect ε α} (hx : x.Overlooks) : (ofEffect x).Overlooks := by
  intro s input
  have fed := hx s.world input
  rw [on_ofEffect, on_ofEffect]
  have world : (s.feed input).world = s.world.feed input := rfl
  rw [world, fed]
  rfl

theorem OverlooksFrom.adapt {x : Act ε α} {s : SessionState} (hx : x.OverlooksFrom s)
    (f : ε → ε') : OverlooksFrom (ExceptT.adapt f x : Act ε' α) s := by
  intro input
  rw [on_adapt, on_adapt, hx]

theorem OverlooksFrom.attempt {x : Act ε α} {s : SessionState} (hx : x.OverlooksFrom s) :
    OverlooksFrom (Act.attempt x : Act ε' _) s := by
  intro input
  rw [on_attempt, on_attempt, hx]

end Act

/-- The program of a request does not depend on what waits on the console, and leaves it alone. -/
structure Launcher.Overlooks (launcher : Launcher) (count : Nat) (cwd : Location)
    (request : LaunchRequest) (machine : Machine) : Prop where
  launch : ∀ input, launcher.launch count cwd request (machine.feed input)
    = ((launcher.launch count cwd request machine).1,
      (launcher.launch count cwd request machine).2.feed input)
  placeAfter : ∀ input, launcher.placeAfter count cwd request (machine.feed input)
    = launcher.placeAfter count cwd request machine

namespace Session

variable {session : Session} {s : SessionState}

end Session

end Shell
