import Shell.Proofs.Following

/-!
# Bindings — redirects that keep the streams apart

Redirects are put upon the innermost binding one by one.  Each of them opens a file and supersedes
streams of the new binding, which nobody has written to so far.  As long as no file is the target of
two streams, nothing can wait for the file that is opened (`Follows.idle_of_opened`), so emptying it
loses nothing that the reference keeps (`Follows.redirect`).

`Follows.push`: all redirects together are what the reference makes of them.
-/

namespace Shell

namespace World

variable {w : World} {id : WriterId} {kind : RedirectKind} {file : OpenFile} {tree : FileTree}

theorem location?_gain {location : Location} (h : w.location? id = some location) :
    ((w.gain kind file).withTree tree).location? id = some location := by
  obtain ⟨_, _, found, rfl⟩ := exists_buffered h
  exact location?_of_buffered ((getElem?_gain_of_lt (lt_of_location? h) kind file).trans found)

theorem location?_gain_length (writes : kind.writes) :
    ((w.gain kind file).withTree tree).location? w.writers.length = some file.location :=
  location?_of_buffered (w.getElem?_gain_length writes file)

theorem Idle.gain (h : w.Idle id) (lt : id < w.writers.length) :
    ((w.gain kind file).withTree tree).Idle id :=
  fun writer e => h writer ((getElem?_gain_of_lt lt kind file).symm.trans e)

theorem idle_gain_length (writes : kind.writes) :
    ((w.gain kind file).withTree tree).Idle w.writers.length := by
  intro writer e
  obtain rfl := Option.some.inj ((w.getElem?_gain_length writes file).symm.trans e)
  rfl

end World

namespace Nest

variable {w w' : World} {base io : Binding} {inner : List Binding} {kind : RedirectKind}

theorem holds_connect (base io : Binding) (inner : List Binding) (writes : kind.writes) :
    Holds { world := w', base, inner := io.connect kind w :: inner } w.writers.length := by
  obtain ⟨channel, new⟩ := kind.writes_iff.mp writes
  refine ⟨io.connect kind w, List.mem_cons_of_mem _ (List.mem_cons_self ..), channel, ?_⟩
  rw [Binding.stream_connect, if_pos new]

/-- After a redirect the bindings have the streams that they had, or the new one. -/
theorem Holds.of_connect {id : WriterId}
    (held : Holds { world := w', base, inner := io.connect kind w :: inner } id) :
    (kind.writes ∧ id = w.writers.length)
      ∨ Holds { world := w, base, inner := io :: inner } id := by
  obtain ⟨io', mem, channel, rfl⟩ := held
  simp only [List.mem_cons] at mem
  rcases mem with rfl | rfl | mem
  · exact Or.inr ⟨io', List.mem_cons_self .., channel, rfl⟩
  · rw [Binding.stream_connect]
    cases new : kind.redirects channel with
    | true => exact Or.inl ⟨kind.writes_iff.mpr ⟨channel, new⟩, rfl⟩
    | false => exact Or.inr ⟨io, by simp, channel, rfl⟩
  · exact Or.inr ⟨io', by simp [mem], channel, rfl⟩

end Nest

/-- One more redirect, for the binding and for what is known of it. -/
theorem Layer.connect {w : World} {below io : Binding} {layer : Channel → Option Location}
    (h : Layer w below io layer) (lt : ∀ channel, io.stream channel < w.writers.length)
    (kind : RedirectKind) (file : OpenFile) (tree : FileTree) :
    Layer ((w.gain kind file).withTree tree) below (io.connect kind w) fun channel =>
      if kind.redirects channel then some file.location else layer channel where
  chosen channel location e := by
    rw [Binding.owns_connect, Binding.stream_connect]
    cases new : kind.redirects channel with
    | true =>
        rw [if_pos new] at e
        cases e
        have writes := kind.writes_iff.mpr ⟨channel, new⟩
        exact ⟨rfl, World.location?_gain_length writes⟩
    | false =>
        rw [new] at e
        exact (h.chosen channel location e).imp_right World.location?_gain
  inherited channel e := by
    rw [Binding.owns_connect, Binding.stream_connect]
    cases new : kind.redirects channel with
    | true => rw [if_pos new] at e; cases e
    | false =>
        rw [new] at e
        exact h.inherited channel e
  distinct channel channel' own free := by
    rw [Binding.owns_connect] at own free
    rw [Binding.stream_connect, Binding.stream_connect]
    obtain ⟨old, free⟩ := Bool.or_eq_false_iff.mp free
    rw [old]
    cases new : kind.redirects channel with
    | true => exact (Nat.ne_of_lt (lt channel')).symm
    | false =>
        rw [new] at own
        exact h.distinct channel channel' own free

namespace Follows

variable {w : World} {base io : Binding} {inner : List Binding} {d : Direct}

theorem lt (h : Follows { world := w, base, inner } d) {id : WriterId}
    (held : Nest.Holds { world := w, base, inner } id) : id < w.writers.length := by
  obtain ⟨io, mem, channel, rfl⟩ := held
  have live := fun channel => (List.getElem?_eq_some_iff.mp (h.memory channel)).1
  exact h.layered.lt live io mem channel

/-- A stream that a redirect supersedes was not written to. -/
theorem idle_of_superseded (h : Follows { world := w, base, inner := io :: inner } d)
    (idle : ∀ channel, io.owns channel = true → w.Idle (io.stream channel)) {id : WriterId}
    (held : Nest.Holds { world := w, base, inner := io :: inner } id) (io' : Binding)
    (superseded : ¬ Nest.Holds { world := w, base, inner := io' :: inner } id) : w.Idle id := by
  obtain ⟨tree, cwd, memory, layers⟩ := d
  have layered := h.layered
  cases layered with
  | cons head below =>
      rcases head.holds_cons held with held | ⟨channel, own, rfl⟩
      · exact absurd held.cons superseded
      · exact idle channel own

/-- Nothing waits for a file that a redirect opens if it keeps the streams apart. -/
theorem idle_of_opened (h : Follows { world := w, base, inner := io :: inner } d)
    (idle : ∀ channel, io.owns channel = true → w.Idle (io.stream channel)) {kind : RedirectKind}
    {file : OpenFile} {tree : FileTree} (writes : kind.writes)
    (apart : Nest.Apart
      { world := (w.gain kind file).withTree tree, base, inner := io.connect kind w :: inner })
    {id : WriterId} (held : Nest.Holds { world := w, base, inner := io :: inner } id)
    (at' : w.location? id = some file.location) : w.Idle id := by
  refine h.idle_of_superseded idle held (io.connect kind w) fun held' => ?_
  have newest : id = w.writers.length :=
    Nest.apart_iff.mp apart id _ held' (Nest.holds_connect base io inner writes) _
      (World.location?_gain at') (World.location?_gain_length writes)
  exact absurd newest (Nat.ne_of_lt (World.lt_of_location? at'))

/-- **One more redirect** of a binding that was not yet written to. -/
theorem redirect {tree tree' : FileTree} {cwd : Location} {memory : WriterId → Bytes}
    {layer : Channel → Option Location} {layers : List (Channel → Option Location)}
    {directive : Redirect} {file : OpenFile}
    (h : Follows { world := w, base, inner := io :: inner }
      { tree, cwd, memory, layers := layer :: layers })
    (idle : ∀ channel, io.owns channel = true → w.Idle (io.stream channel))
    (opened : w.machine.tree.openFile w.cwd directive.kind.openMode directive.target.text
      = .ok (file, tree'))
    (apart : Nest.Apart
      { world := (w.gain directive.kind file).withTree tree', base,
        inner := io.connect directive.kind w :: inner }) :
    ∃ direct, tree.openFile cwd directive.kind.openMode directive.target.text = .ok (file, direct)
      ∧ Follows
        { world := (w.gain directive.kind file).withTree tree', base,
          inner := io.connect directive.kind w :: inner }
        { tree := direct, cwd, memory,
          layers := (fun channel =>
            if directive.kind.redirects channel then some file.location else layer channel)
              :: layers } := by
  obtain ⟨kind, target⟩ := directive
  obtain rfl : w.cwd = cwd := h.cwd
  obtain ⟨direct, openedAlike, outline⟩ := FileTree.openFile_of_outline h.outline opened
  obtain ⟨start, after⟩ := FileTree.openFile_ok opened
  obtain ⟨-, after'⟩ := FileTree.openFile_ok openedAlike
  have old : ∀ {id}, id < w.writers.length →
      ((w.gain kind file).withTree tree').writers[id]? = w.writers[id]? :=
    fun lt => World.getElem?_gain_of_lt lt kind file
  have away : ∀ {location}, (kind.writes → location ≠ file.location) →
      tree'.get? location = w.machine.tree.get? location
        ∧ direct.get? location = tree.get? location := by
    intro location elsewhere
    have reads : kind.openMode = .read ∨ location ≠ file.location := by
      cases writes : kind.writes with
      | false => exact Or.inl (kind.openMode_eq_read_iff.mpr writes)
      | true => exact Or.inr (elsewhere writes)
    exact ⟨after.get? reads, after'.get? reads⟩
  have layered := h.layered
  cases layered with
  | cons head below =>
      refine ⟨direct, openedAlike, ?_, outline, ?_, ?_, apart, ?_, ?_⟩
      · exact World.cwd_gain w kind file
      · have live : ∀ channel, io.stream channel < w.writers.length :=
          fun channel => h.lt ⟨io, by simp, channel, rfl⟩
        exact .cons (head.connect live kind file tree')
          (below.congr fun _ _ => World.location?_gain)
      · exact fun channel => (old (h.lt ⟨base, by simp, channel, rfl⟩)).trans (h.memory channel)
      · intro id held file' waiting found
        rcases held.of_connect with ⟨writes, rfl⟩ | held'
        -- the new stream: nothing waits for its file, so both trees had the same in it
        · obtain ⟨rfl, rfl⟩ : file = file' ∧ [] = waiting := by
            simpa using (w.getElem?_gain_length writes file).symm.trans found
          refine ⟨?_, absurd rfl, ?_⟩
          · rw [start]
            refine OpenFile.atEnd_of_afterOpen after fun reads => ?_
            exact Bool.noConfusion (writes.symm.trans (kind.openMode_eq_read_iff.mp reads))
          · have agree := h.settled fun id => h.idle_of_opened idle writes apart
            rw [funext Node.extend_nil, Option.map_id_fun', id_eq]
            exact (after.get?_opened after' outline agree.symm).symm
        -- a stream from before is at another file, which the open leaves alone
        · have elsewhere : kind.writes → file'.location ≠ file.location := fun writes e =>
            absurd (Nest.apart_iff.mp apart id _ held (Nest.holds_connect base io inner writes)
              file.location (e ▸ World.location?_of_buffered found)
              (World.location?_gain_length writes)) (Nat.ne_of_lt (h.lt held'))
          rw [old (h.lt held')] at found
          exact (h.held id held' file' waiting found).congr (away elsewhere).1 (away elsewhere).2
      · intro location free
        have elsewhere : kind.writes → location ≠ file.location := fun writes e =>
          free _ (Nest.holds_connect base io inner writes) (e ▸ World.location?_gain_length writes)
        refine (away elsewhere).2.trans (Eq.trans ?_ (away elsewhere).1.symm)
        -- only a stream that is superseded can have been at this file, and it kept nothing back
        refine h.settled fun id held at' => ?_
        exact h.idle_of_superseded idle held (io.connect kind w) fun held' =>
          free id held' (World.location?_gain at')

/-- The streams of a binding were not written to after one more redirect. -/
theorem idle_redirect (h : Follows { world := w, base, inner := io :: inner } d)
    (idle : ∀ channel, io.owns channel = true → w.Idle (io.stream channel)) (kind : RedirectKind)
    (file : OpenFile) (tree : FileTree) (channel : Channel)
    (own : (io.connect kind w).owns channel = true) :
    ((w.gain kind file).withTree tree).Idle ((io.connect kind w).stream channel) := by
  rw [Binding.owns_connect] at own
  rw [Binding.stream_connect]
  cases new : kind.redirects channel with
  | true => exact World.idle_gain_length (kind.writes_iff.mpr ⟨channel, new⟩)
  | false =>
      rw [new] at own
      exact (idle channel own).gain (h.lt ⟨io, by simp, channel, rfl⟩)

/-- **All redirects** of a binding that was not yet written to. -/
theorem redirects {redirects : List Redirect} {tree : FileTree} {cwd : Location}
    {memory : WriterId → Bytes} {layer : Channel → Option Location}
    {layers : List (Channel → Option Location)} {io' : Binding} {w' : World}
    (h : Follows { world := w, base, inner := io :: inner }
      { tree, cwd, memory, layers := layer :: layers })
    (idle : ∀ channel, io.owns channel = true → w.Idle (io.stream channel))
    (done : (redirects.foldlM Redirection.redirect io).on w = (.ok io', w'))
    (apart : ∀ before, before <+: redirects → ∀ io₁ w₁,
      (before.foldlM Redirection.redirect io).on w = (.ok io₁, w₁) →
        Nest.Apart { world := w₁, base, inner := io₁ :: inner }) :
    Follows { world := w', base, inner := io' :: inner }
      { tree := (Opening.of tree cwd redirects).tree, cwd, memory,
        layers := (fun channel =>
          (lastFor (Opening.of tree cwd redirects).opened channel).or (layer channel))
            :: layers } := by
  induction redirects generalizing w io tree layer with
  | nil =>
      cases done
      exact h
  | cons directive rest ih =>
      rw [List.foldlM_cons, Effect.on_bind, Redirection.redirect_on] at done
      cases e : w.machine.tree.openFile w.cwd directive.kind.openMode directive.target.text with
      | error cause =>
          rw [e] at done
          cases done
      | ok opened =>
          obtain ⟨file, tree'⟩ := opened
          rw [e] at done
          have first : (Redirection.redirect io directive).on w
              = (.ok (io.connect directive.kind w),
                (w.gain directive.kind file).withTree tree') := by
            rw [Redirection.redirect_on, e]
          -- What holds of every list of redirects in front of others holds of the first alone.
          have apart₁ := apart [directive] (by simp) _ _ (Effect.on_bind_ok first)
          obtain ⟨direct, openedAlike, next⟩ := h.redirect idle e apart₁
          have later := ih next (h.idle_redirect idle directive.kind file tree') done
            fun before isPrefix io₁ w₁ run => apart (directive :: before)
              (List.cons_prefix_cons.mpr ⟨rfl, isPrefix⟩) io₁ w₁ (by
                rw [List.foldlM_cons, Effect.on_bind_ok first, run])
          have chosen : ∀ channel, (lastFor (Opening.of tree cwd (directive :: rest)).opened
              channel).or (layer channel)
                = (lastFor (Opening.of direct cwd rest).opened channel).or
                  (if directive.kind.redirects channel then some file.location
                    else layer channel) := by
            intro channel
            simp only [Opening.of, openedAlike, lastFor_cons, Option.or_assoc]
            split <;> rfl
          simp only [chosen]
          simpa only [Opening.of, openedAlike] using later

/-- The redirects of a new binding start from one that has the streams below. -/
theorem raise {n : Nest} (h : Follows n d) :
    Follows { n with inner := { n.top with owned := {} } :: n.inner }
      { d with layers := (fun _ => none) :: d.layers } := by
  have holds : ∀ {id},
      Nest.Holds { n with inner := { n.top with owned := {} } :: n.inner } id → n.Holds id := by
    rintro _ ⟨io, mem, channel, rfl⟩
    simp only [List.mem_cons] at mem
    rcases mem with rfl | rfl | mem
    · exact ⟨_, List.mem_cons_self .., channel, rfl⟩
    · exact ⟨n.top, Nest.headD_mem .., channel, by cases channel <;> rfl⟩
    · exact ⟨io, List.mem_cons_of_mem _ mem, channel, rfl⟩
  refine ⟨h.cwd, h.outline, .cons ?_ h.layered, h.memory,
    Nest.apart_iff.mpr fun a b ha hb => Nest.apart_iff.mp h.apart a b (holds ha) (holds hb),
    fun id held => h.held id (holds held),
    fun location free => h.free location fun id held => free id held.cons⟩
  refine ⟨nofun, fun channel _ => ?_, fun channel _ own => ?_⟩
  · cases channel <;> exact ⟨rfl, rfl⟩
  · cases channel <;> cases own

/-- **Redirects put upon the innermost binding** are what the reference makes of them. -/
theorem push {n m : Nest} (h : Follows n d) {redirects : List Redirect}
    (admits : n.Admits (.push redirects)) {result : Except SystemError Unit}
    (e : n.step (.push redirects) = some (result, m)) :
    result = .ok () ∧ m.base = n.base ∧ Follows m (d.step n.base (.push redirects)) := by
  obtain ⟨-, rfl, io, world, done, rfl⟩ := Nest.step_push_eq_some_iff.mp e
  refine ⟨rfl, rfl, ?_⟩
  have follows := h.raise.redirects (fun channel own => by cases channel <;> cases own) done
    -- redirects that come before others make a binding as well, which is what was admitted
    fun before isPrefix io₁ w₁ run => by
      by_cases none : before = []
      · subst none
        cases run
        exact h.raise.apart
      · have taken := List.prefix_iff_eq_take.mp isPrefix
        have made : n.step (.push before) = some (.ok (), _) :=
          Nest.step_push_eq_some_iff.mpr ⟨none, rfl, io₁, w₁, run, rfl⟩
        rw [taken] at made
        exact admits before.length isPrefix.length_le _ made
  simp only [Option.or_none] at follows
  exact follows

end Follows

end Shell
