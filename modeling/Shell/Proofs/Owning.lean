import Shell.Proofs.Agreement
import Shell.Proofs.Nesting

/-!
# Bindings — what redirects make their own

Redirects put upon a binding connect it to new streams, which it owns, and leave it the others of
the base.  `Owned` is what is known of the binding after any number of them: it owns the streams
that some redirect was for, no stream of its own is one of the base, and its outputs are one stream
if the last redirect for either of them was for both.

* `Owned.concat`: one more redirect keeps this.
* `Redirection.apply_owns`: so it is after all of them, whatever the base owns or shares.
-/

namespace Shell

/-- Whether a redirect gives both outputs one stream. -/
def RedirectKind.merges (kind : RedirectKind) : Prop :=
  kind = .allOutput ∨ kind = .allAppend

/-- Whether outputs that were one stream in the base or were not are one after redirects: the last
of these that is for an output decides. -/
def mergedBy (kinds : List RedirectKind) (base : Binding) : Prop :=
  match (kinds.filter RedirectKind.writes).getLast? with
  | some kind => kind.merges
  | none => base.output = base.error

/-- What is known of a binding that was made from a base in a world, when redirects of some kinds
have led to another world. -/
structure Owned (base : Binding) (before : World) (kinds : List RedirectKind) (io : Binding)
    (after : World) : Prop where
  readers : before.readers.length ≤ after.readers.length
  writers : before.writers.length ≤ after.writers.length
  ownsInput : io.owned.input ↔ .input ∈ kinds
  owns : ∀ channel, io.owns channel ↔ ∃ kind ∈ kinds, kind.redirects channel
  newInput : io.owned.input → before.readers.length ≤ io.input
  oldInput : io.owned.input = false → io.input = base.input
  new : ∀ channel, io.owns channel → before.writers.length ≤ io.stream channel
    ∧ io.stream channel < after.writers.length
  old : ∀ channel, io.owns channel = false → io.stream channel = base.stream channel
  merged : io.output = io.error ↔ mergedBy kinds base

namespace Owned

variable {base io : Binding} {before after : World} {kinds : List RedirectKind}

/-- Without redirects nothing is owned. -/
theorem start (base : Binding) (before : World) :
    Owned base before [] { base with owned := {} } before where
  readers := Nat.le_refl _
  writers := Nat.le_refl _
  ownsInput := by simp
  owns channel := by cases channel <;> simp [Binding.owns]
  newInput := nofun
  oldInput _ := rfl
  new channel own := by cases channel <;> cases own
  old channel _ := by cases channel <;> rfl
  merged := Iff.rfl

theorem lt (h : Owned base before kinds io after) (live : base.IsLive before) (channel : Channel) :
    io.stream channel < after.writers.length := by
  cases own : io.owns channel with
  | true => exact (h.new channel own).2
  | false =>
      rw [h.old channel own]
      refine Nat.lt_of_lt_of_le ?_ h.writers
      cases channel with
      | output => exact live.output
      | error => exact live.error

/-- **One more redirect** makes the streams that it is for the binding's own. -/
theorem concat (h : Owned base before kinds io after) (live : base.IsLive before)
    (kind : RedirectKind) (file : OpenFile) :
    Owned base before (kinds ++ [kind]) (io.connect kind after) (after.gain kind file) where
  readers := by
    rw [World.readers_gain, List.length_append]
    exact Nat.le_add_right_of_le h.readers
  writers := by
    rw [World.writers_gain, List.length_append]
    exact Nat.le_add_right_of_le h.writers
  ownsInput := by
    rw [List.mem_append, List.mem_singleton, ← h.ownsInput]
    cases kind <;> simp [Binding.connect]
  owns channel := by
    rw [Binding.owns_connect, Bool.or_eq_true, h.owns, or_comm]
    simp [or_and_right, exists_or]
  newInput own := by
    cases kind with
    | input => exact h.readers
    | output | outputAppend | error | errorAppend | allOutput | allAppend => exact h.newInput own
  oldInput free := by
    cases kind with
    | input => cases free
    | output | outputAppend | error | errorAppend | allOutput | allAppend => exact h.oldInput free
  new channel own := by
    rw [Binding.owns_connect] at own
    rw [Binding.stream_connect, World.writers_gain, List.length_append]
    cases for' : kind.redirects channel with
    | true =>
        have writes : kind.writes := kind.writes_iff.mpr ⟨channel, for'⟩
        simpa [writes] using h.writers
    | false =>
        rw [for', Bool.false_or] at own
        obtain ⟨new, lt⟩ := h.new channel own
        exact ⟨new, Nat.lt_add_right _ lt⟩
  old channel free := by
    rw [Binding.owns_connect, Bool.or_eq_false_iff] at free
    rw [Binding.stream_connect, free.1]
    exact h.old channel free.2
  -- A new stream for one output has a number of its own, so only a kind for both merges them.
  merged := by
    have output := h.lt live .output
    have error := h.lt live .error
    rw [mergedBy, List.filter_append]
    cases kind with
    | input =>
        rw [List.filter_cons_of_neg (by decide), List.filter_nil, List.append_nil]
        exact h.merged
    | output | outputAppend =>
        simp only [List.filter_cons, RedirectKind.writes, if_true, List.filter_nil,
          List.getLast?_concat]
        exact ⟨fun e => absurd e (Nat.ne_of_gt error), by rintro ⟨⟩ <;> contradiction⟩
    | error | errorAppend =>
        simp only [List.filter_cons, RedirectKind.writes, if_true, List.filter_nil,
          List.getLast?_concat]
        exact ⟨fun e => absurd e (Nat.ne_of_lt output), by rintro ⟨⟩ <;> contradiction⟩
    | allOutput | allAppend =>
        simp only [List.filter_cons, RedirectKind.writes, if_true, List.filter_nil,
          List.getLast?_concat]
        exact ⟨fun _ => by simp [RedirectKind.merges], fun _ => rfl⟩

/-- **All redirects** do. -/
theorem connected (h : Owned base before kinds io after) (live : base.IsLive before)
    (opened : List (Redirect × OpenFile)) :
    Owned base before (kinds ++ opened.map fun (directive, _) => directive.kind)
      (Redirection.connected io after opened).1 (Redirection.connected io after opened).2 := by
  induction opened generalizing kinds io after with
  | nil => rwa [List.map_nil, List.append_nil]
  | cons first rest ih =>
      obtain ⟨directive, file⟩ := first
      have later := ih (h.concat live directive.kind file)
      rwa [List.append_assoc] at later

end Owned

theorem RedirectKind.redirects_output_iff (kind : RedirectKind) :
    kind.redirects .output ↔ kind ∈ [.output, .outputAppend, .allOutput, .allAppend] := by
  cases kind <;> decide

theorem RedirectKind.redirects_error_iff (kind : RedirectKind) :
    kind.redirects .error ↔ kind ∈ [.error, .errorAppend, .allOutput, .allAppend] := by
  cases kind <;> decide

namespace Redirection

/-- **What a binding owns.**  Redirects that are carried out, one or more, make a binding that owns
just the streams that some redirect is for, and has the stream of the base just where it owns none.
Its outputs are one stream if the last redirect for either of them is for both, or if there is no
such redirect and they are one in the base.

Without redirects the base itself is used, and to end that changes nothing. -/
theorem apply_owns {redirects : List Redirect} {base : Binding} {w after : World}
    {resolved : Resolved} (live : base.IsLive w)
    (applied : (apply redirects base).on w = (.ok resolved, after)) :
    (redirects = [] → resolved = .inherited base ∧ after = w
      ∧ ∀ later, resolved.release.on later = (.ok (), later) ∧ resolved.discard later = later)
    ∧ (redirects ≠ [] → ∃ io, resolved = .derived io
      ∧ (io.owned.input ↔ ∃ directive ∈ redirects, directive.kind = .input)
      ∧ (io.owned.output ↔ ∃ directive ∈ redirects,
        directive.kind ∈ [.output, .outputAppend, .allOutput, .allAppend])
      ∧ (io.owned.error ↔ ∃ directive ∈ redirects,
        directive.kind ∈ [.error, .errorAppend, .allOutput, .allAppend])
      ∧ (io.input = base.input ↔ io.owned.input = false)
      ∧ (io.output = base.output ↔ io.owned.output = false)
      ∧ (io.error = base.error ↔ io.owned.error = false)
      ∧ (io.isMerged ↔ mergedBy (redirects.map Redirect.kind) base)) := by
  obtain ⟨opened, made, rfl⟩ := eq_of_apply applied
  generalize opening : Opening.of w.machine.tree w.cwd redirects = o at opened made ⊢
  constructor
  · rintro rfl
    subst opening made
    exact ⟨rfl, rfl, fun _ => ⟨rfl, rfl⟩⟩
  · intro nonempty
    have all : o.opened.map Prod.fst = redirects := by
      subst opening
      exact Opening.map_fst_opened opened
    have owned := (Owned.start base w).connected live o.opened
    have kinds : (o.opened.map fun (directive, _) => directive.kind)
        = redirects.map Redirect.kind := by
      rw [← all, List.map_map]
      rfl
    rw [List.nil_append, kinds] at owned
    generalize (connected { base with owned := {} } w o.opened).1 = io at owned made ⊢
    have ownsEither : ∀ channel, io.owns channel ↔ ∃ directive ∈ redirects,
        directive.kind.redirects channel := by
      intro channel
      rw [owned.owns]
      constructor
      · rintro ⟨kind, listed, redirected⟩
        obtain ⟨directive, mem, rfl⟩ := List.mem_map.mp listed
        exact ⟨directive, mem, redirected⟩
      · rintro ⟨directive, mem, redirected⟩
        exact ⟨_, List.mem_map_of_mem mem, redirected⟩
    have streamOf : ∀ channel, base.stream channel < w.writers.length →
        (io.stream channel = base.stream channel ↔ io.owns channel = false) := by
      intro channel lt
      refine ⟨fun same => ?_, owned.old channel⟩
      rw [← Bool.not_eq_true]
      intro own
      exact absurd (owned.new channel own).1 (Nat.not_le.mpr (same ▸ lt))
    refine ⟨io, by rw [made, if_neg nonempty], ?_, ?_, ?_, ?_, ?_, ?_, ?_⟩
    · rw [owned.ownsInput, List.mem_map]
    · simpa only [RedirectKind.redirects_output_iff, Binding.owns] using ownsEither .output
    · simpa only [RedirectKind.redirects_error_iff, Binding.owns] using ownsEither .error
    · refine ⟨fun same => ?_, owned.oldInput⟩
      rw [← Bool.not_eq_true]
      intro own
      exact absurd (owned.newInput own) (Nat.not_le.mpr (same ▸ live.input))
    · exact streamOf .output live.output
    · exact streamOf .error live.error
    · rw [Binding.isMerged, decide_eq_true_eq, owned.merged]

/-- Nothing is made just where there are no redirects. -/
theorem isInherited_iff {redirects : List Redirect} {base : Binding} {w after : World}
    {resolved : Resolved} (applied : (apply redirects base).on w = (.ok resolved, after)) :
    resolved.isInherited ↔ redirects = [] := by
  obtain ⟨-, rfl, -⟩ := eq_of_apply applied
  by_cases bare : redirects = []
  · simp [bare, Resolved.isInherited]
  · simp [bare, Resolved.isInherited]

/-- Errors to a file, both outputs to one, and the output to a third, upon a base that has one
stream for both and owns it. -/
theorem apply_owns_apart :
    let redirects : List Redirect := [⟨.error, ⟨"e", by decide⟩⟩, ⟨.allOutput, ⟨"f", by decide⟩⟩,
      ⟨.outputAppend, ⟨"g", by decide⟩⟩]
    let base : Binding := { input := 0, output := 0, error := 0, owned.output := true }
    let w : World :=
      { machine.tree.entries := [(["d"], .directory)], cwd := ["d"], readers := [{}],
        writers := [.memory []] }
    base.IsLive w ∧ ∃ io after, (apply redirects base).on w = (.ok (.derived io), after)
      ∧ io.owned.input = false ∧ io.owned.output ∧ io.owned.error ∧ ¬ io.isMerged := by
  intro redirects base w
  have live : base.IsLive w := ⟨by decide, by decide, by decide⟩
  obtain ⟨resolved, after, applied⟩ : ∃ resolved after,
      (apply redirects base).on w = (.ok resolved, after) := by
    have opened : (Opening.of w.machine.tree w.cwd redirects).refusal = none := by decide
    exact ⟨_, _, by rw [apply_on, opened]⟩
  obtain ⟨io, rfl, input, output, error, -, -, -, merged⟩ := (apply_owns live applied).2 nofun
  have apart : ¬ mergedBy (redirects.map Redirect.kind) base := by
    rintro (e | e) <;> cases e
  refine ⟨live, io, after, applied, ?_, ?_, ?_, fun one => apart (merged.mp one)⟩
  · rw [← Bool.not_eq_true, input]
    decide
  · rw [output]
    decide
  · rw [error]
    decide

end Redirection

end Shell
