import Shell.Session

/-!
# Effects and acts — running them

What a composed request comes to, said through `Effect.on` and `Act.on`: nothing is done after a
refusal, and otherwise the second part runs in the world that the first one left.  Every later proof
takes a request apart with these equations and does not look at how the two are built.
-/

namespace Shell

variable {ε ε' α β : Type}

theorem Except.eq_ok_of_toOption {x : Except ε α} {a : α} (h : x.toOption = some a) :
    x = .ok a := by
  cases x with
  | error e => cases h
  | ok b => cases h; rfl

@[simp]
theorem Except.mapError_eq_ok_iff {f : ε → ε'} {x : Except ε α} {a : α} :
    x.mapError f = .ok a ↔ x = .ok a := by
  cases x with
  | error e => exact ⟨nofun, nofun⟩
  | ok b =>
      constructor
      · rintro ⟨⟩
        rfl
      · rintro ⟨⟩
        rfl

namespace Effect

@[simp]
theorem on_pure (a : α) (w : World) : (pure a : Effect ε α).on w = (.ok a, w) := rfl

theorem on_bind (x : Effect ε α) (f : α → Effect ε β) (w : World) :
    (x >>= f).on w = match x.on w with
      | (.ok a, w) => (f a).on w
      | (.error e, w) => (.error e, w) := by
  have opened : (x >>= f).on w = ExceptT.bindCont f (x.on w).1 (x.on w).2 := rfl
  rw [opened]
  rcases x.on w with ⟨_ | _, _⟩ <;> rfl

theorem on_bind_ok {x : Effect ε α} {f : α → Effect ε β} {w w' : World} {a : α}
    (h : x.on w = (.ok a, w')) : (x >>= f).on w = (f a).on w' := by
  rw [on_bind, h]

/-- What holds after the first part, and goes on to hold through the second, holds after both,
whatever is refused. -/
theorem after_bind {P : World → Prop} {x : Effect ε α} {f : α → Effect ε β} {w : World}
    (first : P (x.on w).2) (next : ∀ a w', P w' → P ((f a).on w').2) : P ((x >>= f).on w).2 := by
  rw [on_bind]
  revert first
  rcases x.on w with ⟨_ | a, w'⟩ <;> intro first
  · exact first
  · exact next a w' first

/-- A composed request does the same in a world in disguise if its parts do. -/
theorem on_bind_of_disguise {disguise : World → World} {x : Effect ε α} {f : α → Effect ε β}
    {w : World} (hx : x.on (disguise w) = ((x.on w).1, disguise (x.on w).2))
    (hf : ∀ a w, (f a).on (disguise w) = (((f a).on w).1, disguise ((f a).on w).2)) :
    (x >>= f).on (disguise w) = (((x >>= f).on w).1, disguise ((x >>= f).on w).2) := by
  rw [on_bind, on_bind, hx]
  rcases x.on w with ⟨_ | a, w'⟩
  · rfl
  · exact hf a w'

theorem on_map (f : α → β) (x : Effect ε α) (w : World) :
    (f <$> x).on w = ((x.on w).1.map f, (x.on w).2) := by
  rw [← bind_pure_comp, on_bind]
  rcases x.on w with ⟨_ | _, _⟩ <;> rfl

theorem on_adapt (f : ε → ε') (x : Effect ε α) (w : World) :
    Effect.on (ExceptT.adapt f x) w = ((x.on w).1.mapError f, (x.on w).2) := rfl

end Effect

namespace Act

theorem on_bind (x : Act ε α) (f : α → Act ε β) (s : SessionState) :
    (x >>= f).on s = match x.on s with
      | (.ok a, s) => (f a).on s
      | (.error e, s) => (.error e, s) := by
  have opened : (x >>= f).on s = ExceptT.bindCont f (x.on s).1 (x.on s).2 := rfl
  rw [opened]
  rcases x.on s with ⟨_ | _, _⟩ <;> rfl

theorem on_bind_ok {x : Act ε α} {f : α → Act ε β} {s s' : SessionState} {a : α}
    (h : x.on s = (.ok a, s')) : (x >>= f).on s = (f a).on s' := by
  rw [on_bind, h]

theorem on_bind_error {x : Act ε α} {f : α → Act ε β} {s s' : SessionState} {e : ε}
    (h : x.on s = (.error e, s')) : (x >>= f).on s = (.error e, s') := by
  rw [on_bind, h]

/-- What holds after the first part, and goes on to hold through the second, holds after both,
whatever fails. -/
theorem after_bind {P : SessionState → Prop} {x : Act ε α} {f : α → Act ε β} {s : SessionState}
    (first : P (x.on s).2) (next : ∀ a s', P s' → P ((f a).on s').2) : P ((x >>= f).on s).2 := by
  rw [on_bind]
  revert first
  rcases x.on s with ⟨_ | a, s'⟩ <;> intro first
  · exact first
  · exact next a s' first

theorem on_adapt (f : ε → ε') (x : Act ε α) (s : SessionState) :
    Act.on (ExceptT.adapt f x) s = ((x.on s).1.mapError f, (x.on s).2) := rfl

theorem on_adapt_ok {f : ε → ε'} {x : Act ε α} {s s' : SessionState} {a : α}
    (h : x.on s = (.ok a, s')) : Act.on (ExceptT.adapt f x) s = (.ok a, s') := by
  rw [on_adapt, h]
  rfl

@[simp]
theorem on_ofEffect (x : Effect ε α) (s : SessionState) :
    (ofEffect x).on s = ((x.on s.world).1, { s with world := (x.on s.world).2 }) := rfl

@[simp]
theorem on_change (f : World → World) (s : SessionState) :
    (change f : Act ε Unit).on s = (.ok (), { s with world := f s.world }) := rfl

@[simp]
theorem on_attempt (x : Act ε α) (s : SessionState) :
    (attempt x : Act ε' _).on s = (.ok (x.on s).1, (x.on s).2) := rfl

@[simp]
theorem on_look (f : SessionState → α) (s : SessionState) :
    (look f : Act ε α).on s = (.ok (f s), s) := rfl

end Act

end Shell
