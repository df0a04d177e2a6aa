import Shell.Proofs.Nesting

/-!
# Bindings — following the reference

`Follows` relates bindings that are put one upon another to the reference without buffers.  A file
that a stream is at holds, together with what that stream still keeps back, what the reference says
(`Keeps`), and every other file holds just that (`Follows.settled`).

What a stream passes on keeps the two related (`Follows.pass`), and so do the flush and the release
of a binding, which are nothing to the reference (`Follows.flush_binding`, `Follows.release`).
-/

namespace Shell

/-- A file that a stream is at, in a tree and in that of the reference. -/
structure Keeps (tree direct : FileTree) (file : OpenFile) (waiting : Bytes) : Prop where
  atEnd : file.AtEnd tree
  takes : waiting ≠ [] → tree.refusal? file.location = none
  content : direct.get? file.location = (tree.get? file.location).map (Node.extend waiting)

/-- A binding and the one below it.  An output that its own redirects chose a file for has a stream
of its own at that file, and another one has the stream below. -/
structure Layer (w : World) (below io : Binding) (layer : Channel → Option Location) : Prop where
  chosen : ∀ channel location, layer channel = some location →
    io.owns channel = true ∧ w.location? (io.stream channel) = some location
  inherited : ∀ channel, layer channel = none →
    io.owns channel = false ∧ io.stream channel = below.stream channel
  distinct : ∀ channel channel', io.owns channel = true → io.owns channel' = false →
    io.stream channel ≠ io.stream channel'

/-- All bindings above a base. -/
inductive Layered (w : World) (base : Binding) :
    List Binding → List (Channel → Option Location) → Prop where
  | nil : Layered w base [] []
  | cons {io : Binding} {inner : List Binding} {layer : Channel → Option Location}
      {layers : List (Channel → Option Location)} (head : Layer w (inner.headD base) io layer)
      (below : Layered w base inner layers) : Layered w base (io :: inner) (layer :: layers)

/-- **The invariant** of a run and the reference. -/
structure Follows (n : Nest) (d : Direct) : Prop where
  cwd : n.world.cwd = d.cwd
  outline : n.world.machine.tree.outline = d.tree.outline
  layered : Layered n.world n.base n.inner d.layers
  memory : ∀ channel, n.world.writers[n.base.stream channel]?
    = some (.memory (d.memory (n.base.stream channel)))
  apart : n.Apart
  held : ∀ id, n.Holds id → ∀ file waiting,
    n.world.writers[id]? = some (.buffered file waiting) →
      Keeps n.world.machine.tree d.tree file waiting
  free : ∀ location, (∀ id, n.Holds id → n.world.location? id ≠ some location) →
    d.tree.get? location = n.world.machine.tree.get? location

/-! ### Streams and where they are -/

/-- A file that is changed on neither side is kept. -/
theorem Keeps.congr {tree tree' direct direct' : FileTree} {file : OpenFile} {waiting : Bytes}
    (h : Keeps tree direct file waiting)
    (e : tree'.get? file.location = tree.get? file.location)
    (e' : direct'.get? file.location = direct.get? file.location) :
    Keeps tree' direct' file waiting where
  atEnd := h.atEnd.congr e
  takes waits := (FileTree.refusal?_congr e).trans (h.takes waits)
  content := by rw [e, e', h.content]

theorem Layer.congr {w w' : World} {below io : Binding} {layer : Channel → Option Location}
    (h : Layer w below io layer)
    (same : ∀ id location, w.location? id = some location → w'.location? id = some location) :
    Layer w' below io layer where
  chosen channel location e := (h.chosen channel location e).imp_right (same _ _)
  inherited := h.inherited
  distinct := h.distinct

theorem Layered.congr {w w' : World} {base : Binding} {inner : List Binding}
    {layers : List (Channel → Option Location)} (h : Layered w base inner layers)
    (same : ∀ id location, w.location? id = some location → w'.location? id = some location) :
    Layered w' base inner layers := by
  induction h with
  | nil => exact .nil
  | cons head below ih => exact .cons (head.congr same) ih

/-- The stream for an output is at the file that the nearest binding chose, or is the base's. -/
theorem Layered.stream {w : World} {base : Binding} {inner : List Binding}
    {layers : List (Channel → Option Location)} (h : Layered w base inner layers)
    (channel : Channel) :
    match layers.findSome? (· channel) with
    | some location => w.location? ((inner.headD base).stream channel) = some location
    | none => (inner.headD base).stream channel = base.stream channel := by
  induction h with
  | nil => rfl
  | @cons io inner layer layers head below ih =>
      cases e : layer channel with
      | some location =>
          simp only [List.findSome?_cons, e]
          exact (head.chosen channel location e).2
      | none =>
          simp only [List.findSome?_cons, e, List.headD_cons, (head.inherited channel e).2]
          exact ih

/-- A stream of a binding is its own or one of a binding below it. -/
theorem Layer.owns_or_holds {w : World} {base io : Binding} {inner : List Binding}
    {layer : Channel → Option Location} (h : Layer w (inner.headD base) io layer)
    (channel : Channel) : io.owns channel = true
      ∨ io.owns channel = false ∧ Nest.Holds { world := w, base, inner } (io.stream channel) := by
  cases e : layer channel with
  | some location => exact Or.inl (h.chosen channel location e).1
  | none =>
      obtain ⟨free, below⟩ := h.inherited channel e
      exact Or.inr ⟨free, _, Nest.headD_mem base inner, channel, below.symm⟩

/-- A stream of the bindings is one that is left below the innermost, or its own. -/
theorem Layer.holds_cons {w : World} {base io : Binding} {inner : List Binding}
    {layer : Channel → Option Location} (h : Layer w (inner.headD base) io layer) {id : WriterId}
    (held : Nest.Holds { world := w, base, inner := io :: inner } id) :
    Nest.Holds { world := w, base, inner } id
      ∨ ∃ channel, io.owns channel = true ∧ io.stream channel = id := by
  obtain ⟨io', mem, channel, rfl⟩ := held
  simp only [List.mem_cons] at mem
  rcases mem with rfl | rfl | mem
  · exact Or.inl ⟨io', List.mem_cons_self .., channel, rfl⟩
  · rcases h.owns_or_holds channel with own | ⟨-, below⟩
    · exact Or.inr ⟨channel, own, rfl⟩
    · exact Or.inl below
  · exact Or.inl ⟨io', List.mem_cons_of_mem _ mem, channel, rfl⟩

theorem Nest.Holds.cons {w : World} {base io : Binding} {inner : List Binding} {id : WriterId}
    (held : Nest.Holds { world := w, base, inner } id) :
    Nest.Holds { world := w, base, inner := io :: inner } id := by
  obtain ⟨io', mem, at'⟩ := held
  refine ⟨io', ?_, at'⟩
  simp only [List.mem_cons] at mem ⊢
  exact mem.imp_right Or.inr

theorem Layered.exists_layer {w : World} {base io : Binding} {inner : List Binding}
    {layers : List (Channel → Option Location)} (h : Layered w base (io :: inner) layers) :
    ∃ layer, Layer w (inner.headD base) io layer := by
  cases h with
  | cons head => exact ⟨_, head⟩

/-- Every stream of the bindings exists. -/
theorem Layered.lt {w : World} {base : Binding} {inner : List Binding}
    {layers : List (Channel → Option Location)} (h : Layered w base inner layers)
    (live : ∀ channel, base.stream channel < w.writers.length) :
    ∀ io ∈ base :: inner, ∀ channel, io.stream channel < w.writers.length := by
  induction h with
  | nil =>
      intro io mem
      rw [List.mem_singleton.mp mem]
      exact live
  | @cons io inner layer layers head below ih =>
      intro io' mem channel
      have held : Nest.Holds { world := w, base, inner := io :: inner } (io'.stream channel) :=
        ⟨io', mem, channel, rfl⟩
      rcases head.holds_cons held with ⟨other, mem, channel', e⟩ | ⟨channel', own, e⟩
      · exact e ▸ ih other mem channel'
      · cases chosen : layer channel' with
        | some location => exact e ▸ World.lt_of_location? (head.chosen channel' _ chosen).2
        | none => rw [(head.inherited channel' chosen).1] at own; cases own

/-! ### What is passed on -/

namespace Follows

variable {n : Nest} {d : Direct}

/-- Where nothing waits for a file it holds what the reference says. -/
theorem settled (h : Follows n d) {location : Location}
    (idle : ∀ id, n.Holds id → n.world.location? id = some location → n.world.Idle id) :
    d.tree.get? location = n.world.machine.tree.get? location := by
  by_cases at' : ∃ id, n.Holds id ∧ n.world.location? id = some location
  · obtain ⟨id, held, e⟩ := at'
    obtain ⟨file, waiting, found, rfl⟩ := World.exists_buffered e
    obtain rfl : waiting = [] := idle id held e _ found
    rw [(h.held id held file [] found).content, funext Node.extend_nil, Option.map_id_fun', id_eq]
  · exact h.free location fun id held e => at' ⟨id, held, e⟩

/-- **What a stream passes on** goes to its file, and the reference had it there before. -/
theorem pass (h : Follows n d) {id : WriterId} (held : n.Holds id) {bytes : Bytes} {w : World}
    (passed : World.Passed n.world id bytes w) {location : Location}
    (at' : n.world.location? id = some location)
    (takes : bytes ≠ [] → n.world.machine.tree.refusal? location = none) :
    Follows { n with world := w } { d with tree := d.tree.extend location bytes } := by
  have same := passed.location?
  have stays : ∀ other, other ≠ id → w.writers[other]? = n.world.writers[other]? :=
    fun _ => passed.writers_of_ne
  have lt := World.lt_of_location? at'
  cases passed with
  | @intro file waiting sent waiting' offset found split atEnd =>
      obtain rfl : file.location = location :=
        Option.some.inj ((World.location?_of_buffered found).symm.trans at')
      have before := h.held id held file waiting found
      refine ⟨h.cwd, ?_, h.layered.congr fun other l e => (same other).trans e, ?_, ?_, ?_, ?_⟩
      · simp only [FileTree.outline_extend, h.outline]
      · intro channel
        -- the base collects its bytes, so the stream that passes some on is not one of its streams
        refine (stays (n.base.stream channel) fun e => ?_).trans (h.memory channel)
        rw [← e, h.memory] at found
        cases found
      · exact Nest.apart_iff.mpr fun a b ha hb l ea eb => Nest.apart_iff.mp h.apart a b ha hb l
          ((same a).symm.trans ea) ((same b).symm.trans eb)
      · intro other held' file' more found'
        by_cases ne : other = id
        · subst ne
          rw [List.getElem?_set_self lt] at found'
          cases found'
          refine ⟨atEnd, fun waits => (FileTree.refusal?_extend ..).trans ?_, ?_⟩
          -- what waits now waited before, or is of the new bytes
          · by_cases none : bytes = []
            · subst none
              refine before.takes fun e => waits ?_
              subst e
              exact (List.append_eq_nil_iff.mp split).2
            · exact takes none
          · rw [FileTree.get?_extend_self, FileTree.get?_extend_self, before.content,
              Option.map_map, Option.map_map]
            refine congrArg (Option.map · _) (funext fun node => ?_)
            simp only [Function.comp, Node.extend_extend, split]
        -- another stream is at another file, as no two of them are at one
        · rw [stays other ne] at found'
          have elsewhere : file'.location ≠ file.location := fun e =>
            ne (Nest.apart_iff.mp h.apart other id held' held _
              (World.location?_of_buffered found') (e ▸ at'))
          exact (h.held other held' file' more found').congr
            (FileTree.get?_extend_of_ne _ elsewhere _) (FileTree.get?_extend_of_ne _ elsewhere _)
      · intro l none
        have elsewhere : l ≠ file.location := fun e =>
          none id held ((same id).trans (e ▸ at'))
        rw [FileTree.get?_extend_of_ne _ elsewhere, FileTree.get?_extend_of_ne _ elsewhere]
        exact h.free l fun other held' e => none other held' ((same other).trans e)

end Follows

/-! ### Flushes -/

/-- A world that is reached by flushes of streams of the bindings. -/
structure Flushed (n : Nest) (d : Direct) (w : World) : Prop where
  follows : Follows { n with world := w } d
  idle : ∀ id, n.world.Idle id → w.Idle id

namespace Flushed

variable {n : Nest} {d : Direct} {w w' : World}

theorem refl (h : Follows n d) : Flushed n d n.world :=
  ⟨h, fun _ e => e⟩

theorem trans (h : Flushed n d w) (h' : Flushed { n with world := w } d w') : Flushed n d w' :=
  ⟨h'.follows, fun id e => h'.idle id (h.idle id e)⟩

end Flushed

namespace Follows

variable {n : Nest} {d : Direct}

/-- A stream of the bindings that goes to no file is one of the base. -/
theorem eq_base_of_location?_eq_none (h : Follows n d) {id : WriterId} (held : n.Holds id)
    (at' : n.world.location? id = none) : ∃ channel, id = n.base.stream channel := by
  obtain ⟨io, mem, channel, rfl⟩ := held
  have layered := h.layered
  generalize d.layers = layers at layered
  generalize n.inner = inner at mem layered
  induction layered generalizing io with
  | nil =>
      obtain rfl : io = n.base := by simpa using mem
      exact ⟨channel, rfl⟩
  | @cons top inner layer layers head below ih =>
      by_cases this : io = top
      · subst this
        cases chosen : layer channel with
        | some location =>
            rw [(head.chosen channel location chosen).2] at at'
            cases at'
        | none =>
            have same := (head.inherited channel chosen).2
            rw [same] at at' ⊢
            refine ih _ at' ?_
            cases inner <;> simp
      · exact ih io at' (by simpa [this] using mem)

/-- **A flush** of one stream succeeds, and is nothing to the reference. -/
theorem flush (h : Follows n d) {id : WriterId} (held : n.Holds id) :
    ∃ w, (World.flush id).on n.world = (.ok (), w) ∧ Flushed n d w ∧ w.Idle id := by
  cases at' : n.world.location? id with
  | none =>
      obtain ⟨channel, rfl⟩ := h.eq_base_of_location?_eq_none held at'
      have idle : n.world.Idle (n.base.stream channel) := by
        intro writer found
        rw [h.memory channel] at found
        cases found
        rfl
      exact ⟨n.world, World.flush_on_of_idle idle, .refl h, idle⟩
  | some location =>
      obtain ⟨file, waiting, found, rfl⟩ := World.exists_buffered at'
      have before := h.held id held file waiting found
      obtain ⟨w, done, passed, idle⟩ := World.flush_passed found before.atEnd before.takes
      have follows := h.pass held passed at' (absurd rfl)
      rw [FileTree.extend_nil] at follows
      refine ⟨w, done, ⟨follows, fun other e => ?_⟩, idle⟩
      by_cases ne : other = id
      · exact ne ▸ idle
      · intro writer e'
        rw [passed.writers_of_ne ne] at e'
        exact e writer e'

theorem flush_if (h : Follows n d) {id : WriterId} (held : n.Holds id) (wanted : Bool) :
    ∃ w, (if wanted then World.flush id else pure ()).on n.world = (.ok (), w) ∧ Flushed n d w
      ∧ (wanted → w.Idle id) := by
  cases wanted with
  | false => exact ⟨n.world, rfl, .refl h, nofun⟩
  | true =>
      obtain ⟨w, done, flushed, idle⟩ := h.flush held
      exact ⟨w, done, flushed, fun _ => idle⟩

theorem flush_binding (h : Follows n d) {io : Binding} (hio : io ∈ n.base :: n.inner) :
    ∃ w, io.flush.on n.world = (.ok (), w) ∧ Flushed n d w := by
  have output : n.Holds io.output := ⟨io, hio, .output, rfl⟩
  have error : n.Holds io.error := ⟨io, hio, .error, rfl⟩
  obtain ⟨w, done, flushed, -⟩ := h.flush output
  obtain ⟨w', done', flushed', -⟩ := flushed.follows.flush_if error (!io.isMerged)
  exact ⟨w', by rw [Binding.flush, Effect.on_bind_ok done, done'], flushed.trans flushed'⟩

theorem flushOwned (h : Follows n d) {io : Binding} (hio : io ∈ n.base :: n.inner) :
    ∃ w, io.flushOwned.on n.world = (.ok (), w) ∧ Flushed n d w := by
  have output : n.Holds io.output := ⟨io, hio, .output, rfl⟩
  have error : n.Holds io.error := ⟨io, hio, .error, rfl⟩
  obtain ⟨w, done, flushed, -⟩ := h.flush_if output io.owned.output
  obtain ⟨w', done', flushed', -⟩ := flushed.follows.flush_if error
    (io.owned.error && !(io.owned.output && io.isMerged))
  exact ⟨w', by rw [Binding.flushOwned_eq, Effect.on_bind_ok done, done'],
    flushed.trans flushed'⟩

/-- **A release** succeeds, and the streams that were opened for the binding keep nothing back. -/
theorem release (h : Follows n d) {io : Binding} (hio : io ∈ n.base :: n.inner) :
    ∃ w, io.release.on n.world = (.ok (), w) ∧ Flushed n d w
      ∧ ∀ channel, io.owns channel = true → w.Idle (io.stream channel) := by
  have output : n.Holds io.output := ⟨io, hio, .output, rfl⟩
  have error : n.Holds io.error := ⟨io, hio, .error, rfl⟩
  -- the owned streams are flushed by the release, again when the binding goes, and when each ends
  obtain ⟨w₁, done₁, flushed₁⟩ := h.flushOwned hio
  obtain ⟨w₂, done₂, flushed₂⟩ := flushed₁.follows.flushOwned hio
  obtain ⟨w₃, done₃, flushed₃, idle₃⟩ := flushed₂.follows.flush_if output io.owned.output
  obtain ⟨w₄, done₄, flushed₄, idle₄⟩ := flushed₃.follows.flush_if error io.owned.error
  refine ⟨w₄, ?_, ((flushed₁.trans flushed₂).trans flushed₃).trans flushed₄, ?_⟩
  · have ended : io.discard w₁ = w₄ := by
      simp only [Binding.discard, Binding.settle_if, done₂, done₃, done₄]
    have opened : io.release.on n.world = ((io.flushOwned.on n.world).1,
        io.discard (io.flushOwned.on n.world).2) := rfl
    rw [opened, done₁, ended]
  · intro channel owned
    cases channel with
    | output => exact flushed₄.idle _ (idle₃ owned)
    | error => exact idle₄ owned

end Follows

end Shell
