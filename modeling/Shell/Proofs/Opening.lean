import Shell.Plan
import Shell.Proofs.Outline
import Shell.Proofs.Running

/-!
# Redirects — opening their targets

Whatever redirects are carried out for, their targets are opened one after another from the
process's directory, up to the first that is refused.  `Opening.of` is that and no more: the files
that were opened, the refusal if there was one, and the tree that is left.

* `Redirection.redirects_on`: a binding's redirects do that, and each file that was opened becomes a
  new stream to which the binding is connected (`Redirection.connected`).
* `Plan.ofRedirects_on`: a plan's redirects do that, and each of them changes the plan
  (`Plan.retarget`).
-/

namespace Shell

/-- What opening the targets of redirects comes to. -/
structure Opening where
  /-- The redirects that were not refused, in order, each with its file. -/
  opened : List (Redirect × OpenFile)
  /-- Why the next target could not be opened, if one could not. -/
  refusal : Option RedirectError
  tree : FileTree
  deriving DecidableEq, Repr

namespace Opening

/-- Open the targets of redirects one after another, up to the first that is refused. -/
def of (tree : FileTree) (cwd : Location) : List Redirect → Opening
  | [] => { opened := [], refusal := none, tree }
  | directive :: rest =>
      match tree.openFile cwd directive.kind.openMode directive.target.text with
      | .error cause =>
          { opened := [], refusal := some { path := directive.target.text, cause }, tree }
      | .ok (file, tree) =>
          { of tree cwd rest with opened := (directive, file) :: (of tree cwd rest).opened }

/-- Every target that was opened is open in the mode of its redirect, and at its start. -/
theorem start_of_mem {tree : FileTree} {cwd : Location} {redirects : List Redirect}
    {directive : Redirect} {file : OpenFile}
    (h : (directive, file) ∈ (of tree cwd redirects).opened) :
    file = { location := file.location, mode := directive.kind.openMode } := by
  induction redirects generalizing tree with
  | nil => cases h
  | cons first rest ih =>
      cases e : tree.openFile cwd first.kind.openMode first.target.text with
      | error cause => simp [of, e] at h
      | ok opened =>
          simp only [of, e, List.mem_cons] at h
          rcases h with h | h
          · cases h
            exact (FileTree.openFile_ok e).1
          · exact ih h

theorem mode_of_mem {tree : FileTree} {cwd : Location} {redirects : List Redirect}
    {directive : Redirect} {file : OpenFile}
    (h : (directive, file) ∈ (of tree cwd redirects).opened) :
    file.mode = directive.kind.openMode := by
  rw [start_of_mem h]

/-- Without a refusal every target was opened. -/
theorem map_fst_opened {tree : FileTree} {cwd : Location} {redirects : List Redirect}
    (h : (of tree cwd redirects).refusal = none) :
    (of tree cwd redirects).opened.map Prod.fst = redirects := by
  induction redirects generalizing tree with
  | nil => rfl
  | cons first rest ih =>
      cases e : tree.openFile cwd first.kind.openMode first.target.text with
      | error cause => simp [of, e] at h
      | ok opened =>
          simp only [of, e] at h
          simp only [of, e, List.map_cons, ih h]

/-- With a refusal there is a redirect that was refused, and those before it were not.  Those after
it do not matter. -/
theorem exists_refused {tree : FileTree} {cwd : Location} {redirects : List Redirect}
    {error : RedirectError} (h : (of tree cwd redirects).refusal = some error) :
    ∃ before directive after, redirects = before ++ directive :: after
      ∧ error.path = directive.target.text
      ∧ (of tree cwd before).refusal = none
      ∧ ∀ others, (of tree cwd (before ++ directive :: others)).refusal = some error := by
  induction redirects generalizing tree with
  | nil => cases h
  | cons first rest ih =>
      cases e : tree.openFile cwd first.kind.openMode first.target.text with
      | error cause =>
          simp only [of, e, Option.some.injEq] at h
          refine ⟨[], first, rest, rfl, h ▸ rfl, rfl, fun others => ?_⟩
          simp only [List.nil_append, of, e, h]
      | ok opened =>
          simp only [of, e] at h
          obtain ⟨before, directive, after, rfl, path, earlier, refused⟩ := ih h
          refine ⟨first :: before, directive, after, rfl, path, ?_, fun others => ?_⟩
          · simpa only [of, e] using earlier
          · simpa only [List.cons_append, of, e] using refused others

/-- The redirect that was refused finds the tree that those before it left, and leaves it so. -/
theorem exists_refused_at {tree : FileTree} {cwd : Location} {redirects : List Redirect}
    {error : RedirectError} (h : (of tree cwd redirects).refusal = some error) :
    ∃ before directive after, redirects = before ++ directive :: after
      ∧ (of tree cwd before).refusal = none
      ∧ (of tree cwd before).tree.openFile cwd directive.kind.openMode directive.target.text
        = .error error.cause
      ∧ error.path = directive.target.text
      ∧ (of tree cwd redirects).tree = (of tree cwd before).tree := by
  induction redirects generalizing tree with
  | nil => cases h
  | cons first rest ih =>
      cases e : tree.openFile cwd first.kind.openMode first.target.text with
      | error cause =>
          simp only [of, e, Option.some.injEq] at h
          subst h
          exact ⟨[], first, rest, rfl, rfl, e, rfl, by simp only [of, e]⟩
      | ok opened =>
          simp only [of, e] at h
          obtain ⟨before, directive, after, rfl, earlier, refused, path, left⟩ := ih h
          refine ⟨first :: before, directive, after, rfl, ?_, ?_, path, ?_⟩
          · simpa only [of, e] using earlier
          · simpa only [of, e] using refused
          · simpa only [of, e, List.cons_append] using left

/-- Opening puts nothing into a file. -/
theorem file_of_tree {tree : FileTree} {cwd : Location} {redirects : List Redirect}
    {location : Location} {bits : Nat} {content : Bytes}
    (h : (of tree cwd redirects).tree.get? location = some (.file bits content)) :
    content = [] ∨ tree.get? location = some (.file bits content) := by
  induction redirects generalizing tree with
  | nil => exact Or.inr h
  | cons first rest ih =>
      cases e : tree.openFile cwd first.kind.openMode first.target.text with
      | error cause => exact Or.inr (by simpa only [of, e] using h)
      | ok opened =>
          simp only [of, e] at h
          rcases ih h with rfl | h
          · exact Or.inl rfl
          · exact (FileTree.openFile_ok e).2.file_of_get? h

end Opening

/-- Whether a redirect opens a stream that is written. -/
def RedirectKind.writes : RedirectKind → Bool
  | input => false
  | _ => true

/-- The world with other files. -/
def World.withTree (w : World) (tree : FileTree) : World :=
  { w with machine.tree := tree }

@[simp]
theorem World.tree_withTree (w : World) (tree : FileTree) :
    (w.withTree tree).machine.tree = tree := rfl

@[simp]
theorem World.cwd_withTree (w : World) (tree : FileTree) : (w.withTree tree).cwd = w.cwd := rfl

/-- The world with a stream more, to or from an opened file. -/
def World.gain (w : World) (kind : RedirectKind) (file : OpenFile) : World :=
  match kind with
  | .input => { w with readers := w.readers ++ [{ source := .opened file }] }
  | _ => { w with writers := w.writers ++ [.buffered file []] }

@[simp]
theorem World.machine_gain (w : World) (kind : RedirectKind) (file : OpenFile) :
    (w.gain kind file).machine = w.machine := by
  unfold gain
  split <;> rfl

@[simp]
theorem World.cwd_gain (w : World) (kind : RedirectKind) (file : OpenFile) :
    (w.gain kind file).cwd = w.cwd := by
  unfold gain
  split <;> rfl

theorem World.writers_gain (w : World) (kind : RedirectKind) (file : OpenFile) :
    (w.gain kind file).writers = w.writers ++ if kind.writes then [.buffered file []] else [] := by
  cases kind <;> simp [gain, RedirectKind.writes]

theorem World.getElem?_gain_of_lt {w : World} {id : WriterId} (h : id < w.writers.length)
    (kind : RedirectKind) (file : OpenFile) :
    (w.gain kind file).writers[id]? = w.writers[id]? := by
  rw [writers_gain, List.getElem?_append_left h]

theorem World.getElem?_gain_length (w : World) {kind : RedirectKind} (h : kind.writes)
    (file : OpenFile) :
    (w.gain kind file).writers[w.writers.length]? = some (.buffered file []) := by
  rw [writers_gain, if_pos h, List.getElem?_append_right (Nat.le_refl _), Nat.sub_self]
  rfl

theorem World.readers_gain (w : World) (kind : RedirectKind) (file : OpenFile) :
    (w.gain kind file).readers
      = w.readers ++ if kind.writes then [] else [{ source := .opened file }] := by
  cases kind <;> simp [gain, RedirectKind.writes]

theorem World.gain_withTree (w : World) (tree : FileTree) (kind : RedirectKind) (file : OpenFile) :
    (w.withTree tree).gain kind file = (w.gain kind file).withTree tree := by
  unfold gain
  split <;> rfl

/-- The binding connected to the stream that the world gains next. -/
def Binding.connect (io : Binding) (kind : RedirectKind) (w : World) : Binding :=
  match kind with
  | .input => { io with input := w.readers.length, owned.input := true }
  | .output | .outputAppend => { io with output := w.writers.length, owned.output := true }
  | .error | .errorAppend => { io with error := w.writers.length, owned.error := true }
  | .allOutput | .allAppend =>
      { io with
        output := w.writers.length, error := w.writers.length,
        owned.output := true, owned.error := true }

/-- The plan after one more redirect. -/
def Plan.retarget (plan : Plan) (directive : Redirect) : Plan :=
  let target := StreamTarget.file directive.kind.openMode directive.target.text
  match directive.kind with
  | .input => { plan with stdin := target }
  | .output | .outputAppend => { plan with stdout := target, merged := false }
  | .error | .errorAppend => { plan with stderr := target, merged := false }
  | .allOutput | .allAppend => { plan with stdout := target, stderr := target, merged := true }

theorem World.openFile_on (mode : OpenMode) (path : String) (w : World) :
    (World.openFile mode path).on w = match w.machine.tree.openFile w.cwd mode path with
      | .error e => (.error e, w)
      | .ok (file, tree) => (.ok file, w.withTree tree) := rfl

theorem Redirect.openTarget_on (directive : Redirect) (w : World) :
    directive.openTarget.on w =
      match w.machine.tree.openFile w.cwd directive.kind.openMode directive.target.text with
      | .error cause => (.error { path := directive.target.text, cause }, w)
      | .ok (file, tree) => (.ok file, w.withTree tree) := by
  rw [openTarget, Effect.on_adapt, World.openFile_on]
  cases w.machine.tree.openFile w.cwd directive.kind.openMode directive.target.text <;> rfl

/-- One redirect opens its target and changes the plan. -/
theorem Plan.redirect_on (plan : Plan) (directive : Redirect) (w : World) :
    (redirect plan directive).on w =
      match w.machine.tree.openFile w.cwd directive.kind.openMode directive.target.text with
      | .error cause => (.error { path := directive.target.text, cause }, w)
      | .ok (_, tree) => (.ok (plan.retarget directive), w.withTree tree) := by
  rw [redirect, Effect.on_bind, Redirect.openTarget_on, retarget]
  cases w.machine.tree.openFile w.cwd directive.kind.openMode directive.target.text with
  | error cause => rfl
  | ok opened => cases directive.kind <;> rfl

/-- **Making a plan** opens the targets in order and closes them again. -/
theorem Plan.ofRedirects_on (redirects : List Redirect) (w : World) :
    (ofRedirects redirects).on w =
      ((match (Opening.of w.machine.tree w.cwd redirects).refusal with
        | some error => .error error
        | none => .ok (redirects.foldl retarget {})),
      w.withTree (Opening.of w.machine.tree w.cwd redirects).tree) := by
  have from_plan : ∀ (plan : Plan) (w : World), (redirects.foldlM redirect plan).on w =
      ((match (Opening.of w.machine.tree w.cwd redirects).refusal with
        | some error => .error error
        | none => .ok (redirects.foldl retarget plan)),
      w.withTree (Opening.of w.machine.tree w.cwd redirects).tree) := by
    induction redirects with
    | nil => exact fun _ _ => rfl
    | cons directive rest ih =>
        intro plan w
        rw [List.foldlM_cons, Effect.on_bind, redirect_on]
        cases h : w.machine.tree.openFile w.cwd directive.kind.openMode directive.target.text with
        | error cause => simp [Opening.of, h, World.withTree]
        | ok opened =>
            simp only [ih, Opening.of, h, List.foldl_cons]
            rfl
  exact from_plan {} w

namespace Redirection

/-- One redirect opens its target and connects the binding to it. -/
theorem redirect_on (io : Binding) (directive : Redirect) (w : World) :
    (redirect io directive).on w =
      match w.machine.tree.openFile w.cwd directive.kind.openMode directive.target.text with
      | .error cause => (.error { path := directive.target.text, cause }, w)
      | .ok (file, tree) =>
          (.ok (io.connect directive.kind w), (w.gain directive.kind file).withTree tree) := by
  rw [redirect, Effect.on_bind, Redirect.openTarget_on]
  cases w.machine.tree.openFile w.cwd directive.kind.openMode directive.target.text with
  | error cause => rfl
  | ok opened => cases directive.kind <;> rfl

/-- A binding connected to new streams for opened files, and the world with these. -/
def connected (io : Binding) (w : World) (opened : List (Redirect × OpenFile)) : Binding × World :=
  opened.foldl (fun (io, w) (directive, file) =>
    (io.connect directive.kind w, w.gain directive.kind file)) (io, w)

theorem connected_cons (io : Binding) (w : World) (directive : Redirect) (file : OpenFile)
    (opened : List (Redirect × OpenFile)) :
    connected io w ((directive, file) :: opened)
      = connected (io.connect directive.kind w) (w.gain directive.kind file) opened := rfl

@[simp]
theorem machine_connected (io : Binding) (w : World) (opened : List (Redirect × OpenFile)) :
    (connected io w opened).2.machine = w.machine := by
  induction opened generalizing io w with
  | nil => rfl
  | cons first rest ih => rw [connected_cons, ih, World.machine_gain]

theorem writers_prefix_connected (io : Binding) (w : World) (opened : List (Redirect × OpenFile)) :
    w.writers <+: (connected io w opened).2.writers := by
  induction opened generalizing io w with
  | nil => exact List.prefix_refl _
  | cons first rest ih =>
      refine List.IsPrefix.trans ?_ (ih _ _)
      rw [World.writers_gain]
      exact List.prefix_append ..

theorem readers_prefix_connected (io : Binding) (w : World) (opened : List (Redirect × OpenFile)) :
    w.readers <+: (connected io w opened).2.readers := by
  induction opened generalizing io w with
  | nil => exact List.prefix_refl _
  | cons first rest ih =>
      refine List.IsPrefix.trans ?_ (ih _ _)
      rw [World.readers_gain]
      exact List.prefix_append ..

theorem connected_withTree (io : Binding) (w : World) (opened : List (Redirect × OpenFile))
    (tree : FileTree) :
    connected io (w.withTree tree) opened
      = ((connected io w opened).1, (connected io w opened).2.withTree tree) := by
  induction opened generalizing io w with
  | nil => rfl
  | cons first rest ih =>
      obtain ⟨directive, file⟩ := first
      have connect : io.connect directive.kind (w.withTree tree) = io.connect directive.kind w :=
        rfl
      rw [connected_cons, connected_cons, connect, World.gain_withTree, ih]

/-- **Carrying out redirects** opens the targets in order and connects the binding to each. -/
theorem redirects_on (io : Binding) (redirects : List Redirect) (w : World) :
    (redirects.foldlM redirect io).on w =
      ((match (Opening.of w.machine.tree w.cwd redirects).refusal with
        | some error => .error error
        | none => .ok (connected io w (Opening.of w.machine.tree w.cwd redirects).opened).1),
      (connected io w (Opening.of w.machine.tree w.cwd redirects).opened).2.withTree
        (Opening.of w.machine.tree w.cwd redirects).tree) := by
  induction redirects generalizing io w with
  | nil => rfl
  | cons directive rest ih =>
      rw [List.foldlM_cons, Effect.on_bind, redirect_on]
      cases h : w.machine.tree.openFile w.cwd directive.kind.openMode directive.target.text with
      | error cause => simp [Opening.of, h, connected, World.withTree]
      | ok opened =>
          simp only [ih, connected_withTree, World.cwd_withTree, World.tree_withTree,
            World.cwd_gain, Opening.of, h, connected_cons]
          rfl

/-- **Redirects put upon a binding** open the targets in order.  Only without any redirect is the
binding used as it is. -/
theorem apply_on (redirects : List Redirect) (base : Binding) (w : World) :
    (apply redirects base).on w =
      ((match (Opening.of w.machine.tree w.cwd redirects).refusal with
        | some error => .error error
        | none => .ok (if redirects = [] then .inherited base
            else .derived (connected { base with owned := {} } w
              (Opening.of w.machine.tree w.cwd redirects).opened).1)),
      (connected { base with owned := {} } w
        (Opening.of w.machine.tree w.cwd redirects).opened).2.withTree
          (Opening.of w.machine.tree w.cwd redirects).tree) := by
  cases redirects with
  | nil => rfl
  | cons directive rest =>
      rw [apply, Effect.on_map, redirects_on]
      · cases (Opening.of w.machine.tree w.cwd (directive :: rest)).refusal <;> rfl
      · simp

/-- Redirects that are carried out leave a binding that is connected to what they opened. -/
theorem eq_of_apply {redirects : List Redirect} {base : Binding} {resolved : Resolved}
    {w w' : World} (applied : (apply redirects base).on w = (.ok resolved, w')) :
    let opening := Opening.of w.machine.tree w.cwd redirects
    let made := connected { base with owned := {} } w opening.opened
    opening.refusal = none
      ∧ resolved = (if redirects = [] then .inherited base else .derived made.1)
      ∧ w' = made.2.withTree opening.tree := by
  intro opening made
  have on := (apply_on redirects base w).symm.trans applied
  cases refusal : opening.refusal with
  | some error => simp [opening, refusal] at on
  | none =>
      simp only [opening, refusal, Prod.mk.injEq, Except.ok.injEq] at on
      exact ⟨rfl, on.1.symm, on.2.symm⟩

end Redirection

end Shell
