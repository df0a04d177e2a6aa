import Shell.Proofs.Redirecting

/-!
# Bindings — buffers make no difference

A run over bindings that are put one upon another leaves in every file, and in the streams of the
base, what the reference without buffers leaves.

* `Follows.step`: one action that is admitted succeeds, and the reference follows.
* `Follows.run`: a whole run does.
* `run_leaves_what_direct_leaves`: once all bindings are released nothing waits, so the files and
  the streams of the base are those of the reference.
-/

namespace Shell

/-! ### One action -/

namespace Follows

/-- **The release of the innermost binding**, once nothing waits for its files, uncovers those
below. -/
theorem uncover {w : World} {base io : Binding} {inner : List Binding} {d : Direct}
    (h : Follows { world := w, base, inner := io :: inner } d)
    (idle : ∀ channel, io.owns channel = true → w.Idle (io.stream channel)) :
    Follows { world := w, base, inner } { d with layers := d.layers.tail } := by
  obtain ⟨tree, cwd, memory, layers⟩ := d
  have layered := h.layered
  cases layered with
  | cons head below =>
      have apart := Nest.apart_iff.mp h.apart
      refine ⟨h.cwd, h.outline, below, h.memory,
        Nest.apart_iff.mpr fun a b ha hb => apart a b ha.cons hb.cons,
        fun id held => h.held id held.cons, fun location free => h.settled fun id held at' => ?_⟩
      rcases head.holds_cons held with held | ⟨channel, own, rfl⟩
      · exact absurd at' (free id held)
      · exact idle channel own

variable {n : Nest} {d : Direct}

/-- What the base collects, the reference collects. -/
theorem collect (h : Follows n d) (channel : Channel) (bytes : Bytes) :
    Follows
      { n with
        world.writers := n.world.writers.set (n.base.stream channel)
          (.memory (d.memory (n.base.stream channel) ++ bytes)) }
      { d with
        memory := fun id =>
          if id = n.base.stream channel then d.memory id ++ bytes else d.memory id } := by
  have lt := (List.getElem?_eq_some_iff.mp (h.memory channel)).1
  have stays : ∀ other, other ≠ n.base.stream channel →
      (n.world.writers.set (n.base.stream channel)
        (.memory (d.memory (n.base.stream channel) ++ bytes)))[other]? = n.world.writers[other]? :=
    fun other ne => List.getElem?_set_ne ne.symm
  -- No file is concerned, so all that is said of files and of what waits for them stays.
  have same : ∀ other, World.location?
      { n.world with
        writers := n.world.writers.set (n.base.stream channel)
          (.memory (d.memory (n.base.stream channel) ++ bytes)) } other
      = n.world.location? other := by
    intro other
    by_cases ne : other = n.base.stream channel
    · subst ne
      simp only [World.location?, List.getElem?_set_self lt, h.memory channel]
    · simp only [World.location?, stays other ne]
  refine ⟨h.cwd, h.outline, h.layered.congr fun other l e => (same other).trans e, ?_, ?_, ?_, ?_⟩
  · intro channel'
    by_cases ne : n.base.stream channel' = n.base.stream channel
    · simp only [ne, List.getElem?_set_self lt, if_true]
    · simp only [stays _ ne, h.memory channel', ne, if_false]
  · exact Nest.apart_iff.mpr fun a b ha hb l ea eb => Nest.apart_iff.mp h.apart a b ha hb l
      ((same a).symm.trans ea) ((same b).symm.trans eb)
  · intro other held file waiting found
    have ne : other ≠ n.base.stream channel := by
      rintro rfl
      rw [List.getElem?_set_self lt] at found
      cases found
    rw [stays other ne] at found
    exact h.held other held file waiting found
  · exact fun l none => h.free l fun other held e => none other held ((same other).trans e)

/-- **A write** to the innermost binding goes where the reference has it go. -/
theorem write (h : Follows n d) {channel : Channel} {bytes : Bytes}
    (admits : n.Admits (.write channel bytes)) :
    ∃ w, (World.write (n.top.stream channel) bytes).on n.world = (.ok (), w)
      ∧ Follows { n with world := w } (d.step n.base (.write channel bytes)) := by
  have at' := h.layered.stream channel
  cases e : d.layers.findSome? (· channel) with
  | some location =>
      rw [e] at at'
      have held : n.Holds (n.top.stream channel) := ⟨_, Nest.headD_mem .., channel, rfl⟩
      obtain ⟨file, waiting, found, rfl⟩ := World.exists_buffered at'
      have before := h.held _ held file waiting found
      have takes : bytes ≠ [] → n.world.machine.tree.refusal? file.location = none :=
        fun hb => admits.resolve_left hb _ at'
      -- the write may pass on what waited before it too
      have room : waiting ++ bytes ≠ [] →
          n.world.machine.tree.refusal? file.location = none := by
        intro any
        by_cases hw : waiting = []
        · exact takes fun hb => any (by simp [hw, hb])
        · exact before.takes hw
      obtain ⟨w, done, passed⟩ := World.write_passed found before.atEnd room
      refine ⟨w, done, ?_⟩
      simp only [Direct.step, e]
      exact h.pass held passed at' takes
  | none =>
      rw [e] at at'
      have found := h.memory channel
      have at' : n.top.stream channel = n.base.stream channel := at'
      rw [at']
      refine ⟨_, World.useWriter_on found (Writer.write_memory ..), ?_⟩
      simp only [Direct.step, e]
      exact h.collect channel bytes

/-- **One action** of a run that is admitted succeeds, and the reference follows. -/
theorem step {n m : Nest} (h : Follows n d) {action : Action} (admits : n.Admits action)
    {result : Except SystemError Unit} (e : n.step action = some (result, m)) :
    result = .ok () ∧ m.base = n.base ∧ Follows m (d.step n.base action) := by
  cases action with
  | push redirects => exact h.push admits e
  | write channel bytes =>
      obtain ⟨w, done, follows⟩ := h.write admits
      rw [Nest.step, done] at e
      cases e
      exact ⟨rfl, rfl, follows⟩
  | flush =>
      obtain ⟨w, done, flushed⟩ := h.flush_binding (Nest.headD_mem n.base n.inner)
      rw [Nest.step, Nest.top, done] at e
      cases e
      exact ⟨rfl, rfl, flushed.follows⟩
  | pop =>
      obtain ⟨world, base, inner⟩ := n
      cases inner with
      | nil => cases e
      | cons io inner =>
          obtain ⟨w, done, flushed, idle⟩ := h.release (show io ∈ base :: io :: inner by simp)
          simp only [Nest.step, done] at e
          cases e
          exact ⟨rfl, rfl, flushed.follows.uncover idle⟩

/-- **A whole run** of admitted actions. -/
theorem run {n m : Nest} (h : Follows n d) {actions : List Action} (clear : n.Clear actions)
    {results : List (Except SystemError Unit)} (e : n.run actions = some (results, m)) :
    (∀ result ∈ results, result = .ok ()) ∧ m.base = n.base
      ∧ Follows m (d.run n.base actions) := by
  induction actions generalizing n d results with
  | nil =>
      cases e
      exact ⟨nofun, rfl, h⟩
  | cons action rest ih =>
      obtain ⟨admits, clear⟩ := clear
      cases stepped : n.step action with
      | none =>
          rw [Nest.run, stepped] at e
          cases e
      | some next =>
          obtain ⟨result, n'⟩ := next
          rw [Nest.run, stepped, Option.map_eq_some_iff] at e
          obtain ⟨⟨results', m'⟩, later, e⟩ := e
          cases e
          obtain ⟨rfl, base, follows⟩ := h.step admits stepped
          obtain ⟨oks, base', follows⟩ := ih follows (clear _ stepped) later
          rw [base] at base' follows
          refine ⟨?_, base', follows⟩
          simpa using oks

end Follows

/-! ### Whole runs -/

theorem Nest.Clear.of_append {n : Nest} {before after : List Action}
    (h : n.Clear (before ++ after)) : n.Clear before := by
  induction before generalizing n with
  | nil => trivial
  | cons action rest ih => exact ⟨h.1, fun next e => ih (h.2 next e)⟩

/-- A base over memory and the reference that starts there. -/
theorem follows_of {n : Nest} (outermost : n.inner = [])
    (collects : ∀ channel, ∃ collected,
      n.world.writers[n.base.stream channel]? = some (.memory collected)) :
    Follows n (Direct.of n) := by
  have unheld : ∀ id, n.Holds id → ∀ file waiting,
      n.world.writers[id]? ≠ some (.buffered file waiting) := by
    rintro _ ⟨io, mem, channel, rfl⟩ file waiting found
    rw [outermost, List.mem_singleton] at mem
    obtain ⟨collected, e⟩ := collects channel
    rw [mem, e] at found
    cases found
  refine ⟨rfl, rfl, ?_, fun channel => ?_, ?_, ?_, fun _ _ => rfl⟩
  · rw [outermost]
    exact .nil
  · obtain ⟨collected, e⟩ := collects channel
    simp only [Direct.of, e]
  · refine Nest.apart_iff.mpr fun id _ held _ location at' _ => ?_
    obtain ⟨file, waiting, found, -⟩ := World.exists_buffered at'
    exact absurd found (unheld id held file waiting)
  · exact fun id held file waiting found => absurd found (unheld id held file waiting)

/-- **Buffers make no difference.**  A run that starts from a base over memory and ends with all
bindings released has no failures, and leaves in every file and in the streams of the base what the
reference without buffers leaves.  A release at any time leaves the streams as they are that the
binding inherited. -/
theorem run_leaves_what_direct_leaves {n m : Nest} {actions : List Action}
    {results : List (Except SystemError Unit)} (outermost : n.inner = [])
    (collects : ∀ channel, ∃ collected,
      n.world.writers[n.base.stream channel]? = some (.memory collected))
    (clear : n.Clear actions) (run : n.run actions = some (results, m)) (ended : m.inner = []) :
    let d := (Direct.of n).run n.base actions
    (∀ result ∈ results, result = .ok ())
      ∧ (∀ location, m.world.machine.tree.get? location = d.tree.get? location)
      ∧ (∀ channel, m.world.writers[n.base.stream channel]?
        = some (.memory (d.memory (n.base.stream channel))))
      ∧ ∀ before, before <+: actions → ∀ results' k, n.run before = some (results', k) →
        ∀ io outer, k.inner = io :: outer → ∀ channel, io.owns channel = false →
          (io.release.on k.world).2.writers[io.stream channel]?
            = k.world.writers[io.stream channel]? := by
  intro d
  have start := follows_of outermost collects
  obtain ⟨oks, base, follows⟩ := start.run clear run
  refine ⟨oks, fun location => (follows.settled fun id held at' => ?_).symm, ?_, ?_⟩
  · obtain ⟨io, mem, channel, rfl⟩ := held
    rw [ended, List.mem_singleton] at mem
    rw [mem] at at'
    simp only [World.location?, follows.memory channel] at at'
    cases at'
  · rw [← base]
    exact follows.memory
  · rintro before ⟨after, rfl⟩ results' ⟨world, base', inner⟩ reached io outer rfl channel inherited
    obtain ⟨-, -, then'⟩ := start.run clear.of_append reached
    obtain ⟨layer, head⟩ := then'.layered.exists_layer
    exact Binding.writers_release (fun own => (head.distinct .output channel own inherited).symm)
      (fun own => (head.distinct .error channel own inherited).symm) world

/-- Two bindings, the outer one with both outputs at one file and the inner one with errors at
another. -/
theorem run_leaves_what_direct_leaves_twice :
    let start := Binding.overMemory []
      { machine.tree.entries := [(["d"], .directory), (["f", "d"], .file 0o644 [65])]
        cwd := ["d"] }
    let n : Nest := { world := start.2, base := start.1 }
    let actions : List Action := [.push [⟨.allOutput, ⟨"f", by decide⟩⟩], .write .output [66],
      .push [⟨.errorAppend, ⟨"g", by decide⟩⟩], .write .error [67], .write .output [68], .flush,
      .pop, .write .error [69], .pop, .write .output [70]]
    n.inner = [] ∧ n.Clear actions ∧ ∃ results m, n.run actions = some (results, m)
      ∧ m.inner = [] ∧ ∀ location, m.world.machine.tree.get? location
        = ((Direct.of n).run n.base actions).tree.get? location := by
  intro start n actions
  have collects : ∀ channel, ∃ collected,
      n.world.writers[n.base.stream channel]? = some (.memory collected) := by
    rintro (_ | _) <;> exact ⟨[], rfl⟩
  have clear : n.Clear actions := by decide +kernel
  have done : (n.run actions).isSome := by decide
  have released : ∀ next ∈ n.run actions, next.2.inner = [] := by decide
  obtain ⟨⟨results, m⟩, run⟩ := Option.isSome_iff_exists.mp done
  have ended : m.inner = [] := released _ run
  exact ⟨rfl, clear, results, m, run, ended,
    (run_leaves_what_direct_leaves rfl collects clear run ended).2.1⟩

end Shell
