import Shell.Proofs.Opening

/-!
# File trees — opening once more

What opens do to a tree is done once.  They make empty files and empty files that are there, and
nothing else (`FileTree.Outlives`), so that a path that was opened leads to the same file in every
tree that later opens leave (`FileTree.find_of_outlives`), where opening it again changes nothing.
A file that was made is written once more only if its mode bits let it be
(`FileTree.makesWritable`).

* `FileTree.openFile_again`: what was opened opens again, later as well, and leaves the tree as it
  is.
* `Opening.again`: so does each target of redirects once all of them were opened.
-/

namespace Shell

/-- What opens may make of what is at a location, given the mode bits of new files. -/
inductive Node.Outlives (mode : Nat) : Option Node → Option Node → Prop where
  | same (node : Option Node) : Outlives mode node node
  | made : Outlives mode none (some (.file mode []))
  | emptied (bits : Nat) (content : Bytes) :
      Outlives mode (some (.file bits content)) (some (.file bits []))

namespace Node.Outlives

variable {mode : Nat} {node later latest : Option Node}

theorem trans (h : Outlives mode node later) (h' : Outlives mode later latest) :
    Outlives mode node latest := by
  cases h with
  | same => exact h'
  | made => cases h' <;> exact .made
  | emptied => cases h' <;> exact .emptied _ _

/-- What is no file stays what it is. -/
theorem eq_of_not_file {node : Node} (h : Outlives mode (some node) later)
    (other : ∀ bits content, node ≠ .file bits content) : later = some node := by
  cases h with
  | same => rfl
  | emptied bits content => exact absurd rfl (other bits content)

/-- An empty file stays what it is as well. -/
theorem eq_of_empty {bits : Nat} (h : Outlives mode (some (.file bits [])) later) :
    later = some (.file bits []) := by
  cases h <;> rfl

/-- A file that is empty if it is there, and one that is made, is empty. -/
theorem empty (h : Outlives mode node later)
    (before : ∀ bits content, node = some (.file bits content) → content = []) {bits : Nat}
    {content : Bytes} (at' : later = some (.file bits content)) : content = [] := by
  cases h with
  | same => exact before bits content at'
  | made | emptied =>
      cases at'
      rfl

/-- Nothing becomes a directory. -/
theorem directory_iff (h : Outlives mode node later) :
    (later = some .directory ↔ node = some .directory)
      ∧ (later = some .removedDirectory ↔ node = some .removedDirectory) := by
  cases h <;> simp

/-- What grants an access does so later. -/
theorem grants (h : Outlives mode node later) {access : Access}
    (granted : node.any (Node.grants access)) : later.any (Node.grants access) := by
  cases h with
  | same | emptied => exact granted
  | made => cases granted

end Node.Outlives

/-- Where a walk that ended at a place ends once something may be there. -/
def Found.seenIn (tree : FileTree) : Found → Found
  | node location => .node location
  | vacant directory name =>
      if tree.get? (name :: directory) = none then .vacant directory name
      else .node (name :: directory)

namespace FileTree

variable {tree later latest tree' : FileTree} {cwd : Location} {mode : OpenMode} {path : String}
  {file : OpenFile}

/-- A later tree, which opens may have made of a tree. -/
structure Outlives (tree later : FileTree) : Prop where
  mask : later.mask = tree.mask
  node (location : Location) :
    Node.Outlives tree.newFileMode (tree.get? location) (later.get? location)

namespace Outlives

theorem refl (tree : FileTree) : tree.Outlives tree :=
  ⟨rfl, fun _ => .same _⟩

theorem newFileMode (h : tree.Outlives later) : later.newFileMode = tree.newFileMode :=
  congrArg (fun mask => wantedMode ^^^ (wantedMode &&& mask)) h.mask

theorem makesWritable (h : tree.Outlives later) :
    later.makesWritable = tree.makesWritable := by
  rw [FileTree.makesWritable, FileTree.makesWritable, h.newFileMode]

theorem trans (h : tree.Outlives later) (h' : later.Outlives latest) : tree.Outlives latest :=
  ⟨h'.mask.trans h.mask, fun location => (h.node location).trans (h.newFileMode ▸ h'.node location)⟩

theorem put {location : Location} {node : Node} (inside : location ≠ [])
    (h : Node.Outlives tree.newFileMode (tree.get? location) (some node)) :
    tree.Outlives (tree.put location node) := by
  refine ⟨rfl, fun other => ?_⟩
  by_cases at' : other = location
  · rwa [at', get?_put_self tree inside]
  · rw [get?_put_of_ne tree at']
    exact .same _

end Outlives

/-! ### Where a path leads -/

theorem walkSteps_of_outlives (h : tree.Outlives later) {creating : Bool}
    {follow follow' : Location → List String → Except SystemError Found}
    (links : ∀ here steps found, follow here steps = .ok found →
      follow' here steps = .ok (found.seenIn later))
    {here : Location} {steps : List String} {found : Found}
    (walked : tree.walkSteps creating follow here steps = .ok found) :
    later.walkSteps creating follow' here steps = .ok (found.seenIn later) := by
  induction steps generalizing here with
  | nil =>
      cases walked
      rfl
  | cons step rest ih =>
      rw [walkSteps] at walked ⊢
      -- Both walks make the same choices up to the next name: directories stay what they are.
      split at walked
      · cases walked
      rename_i directory
      rw [Decidable.not_not] at directory
      have directory' : (later.get? here).map Node.isDirectory = some true := by
        obtain ⟨node, at', names⟩ := Option.map_eq_some_iff.mp directory
        have seen := h.node here
        rw [at'] at seen
        rw [seen.eq_of_not_file (by rintro bits content rfl; cases names), Option.map_some, names]
      rw [if_neg (Decidable.not_not.mpr directory')]
      split at walked
      · rw [if_pos ‹_›]
        exact ih walked
      rw [if_neg ‹_›]
      split at walked
      · rw [if_pos ‹_›]
        exact ih walked
      rw [if_neg ‹_›]
      split at walked
      · cases walked
      rw [if_neg ‹_›]
      split at walked
      · cases walked
      rename_i present
      rw [if_neg (mt (h.node here).directory_iff.2.mp present)]
      split at walked
      · cases walked
      rw [if_neg ‹_›]
      have seen := h.node (step :: here)
      split at walked
      case h_1 free =>
        split at walked
        · rename_i last
          cases walked
          rw [free] at seen
          -- the name may have been given to a file since
          generalize at' : later.get? (step :: here) = node at seen
          cases seen with
          | same => simp [Found.seenIn, last, at']
          | made => simp [Found.seenIn, last, at', walkSteps]
        · cases walked
      case h_2 target at' =>
        rw [at'] at seen
        rw [seen.eq_of_not_file (by rintro bits content ⟨⟩)]
        exact links _ _ _ walked
      case h_3 node other at' =>
        have next := ih walked
        generalize at'' : later.get? (step :: here) = node' at seen
        rw [at'] at seen
        cases seen with
        | same =>
            cases node with
            | link target => exact absurd rfl (other target)
            | file | directory | removedDirectory | device | tool => exact next
        | emptied => exact next

theorem walk_of_outlives (h : tree.Outlives later) {creating : Bool} {links : Nat}
    {here : Location} {steps : List String} {found : Found}
    (walked : tree.walk creating links here steps = .ok found) :
    later.walk creating links here steps = .ok (found.seenIn later) := by
  induction links generalizing here steps found with
  | zero => exact walkSteps_of_outlives h (fun _ _ _ e => by cases e) walked
  | succ links ih => exact walkSteps_of_outlives h (fun _ _ _ => ih) walked

/-- **A path leads where it led**, or to the file that was made there. -/
theorem find_of_outlives (h : tree.Outlives later) {creating : Bool} {found : Found}
    (walked : tree.find creating cwd path = .ok found) :
    later.find creating cwd path = .ok (found.seenIn later) := by
  unfold find at walked ⊢
  split at walked
  · cases walked
  rw [if_neg ‹_›]
  split at walked
  · cases walked
  rw [if_neg ‹_›]
  unfold follow at walked ⊢
  split at walked
  · cases walked
  rw [if_neg ‹_›]
  split at walked
  · cases walked
  rw [if_neg ‹_›]
  exact walk_of_outlives h walked

theorem locate_of_outlives (h : tree.Outlives later) {location : Location}
    (led : tree.locate cwd path = .ok location) : later.locate cwd path = .ok location := by
  rw [locate, Found.bind_location_eq_ok_iff] at led ⊢
  exact find_of_outlives h led

/-! ### Opening -/

/-- The ways to open a file: to read it, to write to one that is there, to write to a new one. -/
inductive Opens (tree : FileTree) (cwd : Location) (mode : OpenMode) (path : String) :
    Location → FileTree → Prop where
  | read {location : Location} (reads : mode = .read) (led : tree.locate cwd path = .ok location)
      (granted : tree.grants mode.access location) : Opens tree cwd mode path location tree
  | write {location : Location} {tree' : FileTree} (writes : mode ≠ .read)
      (led : tree.find true cwd path = .ok (.node location))
      (granted : tree.grants mode.access location)
      (prepared : tree.prepare mode location = .ok tree') : Opens tree cwd mode path location tree'
  | make {directory : Location} {name : String} (writes : mode ≠ .read)
      (led : tree.find true cwd path = .ok (.vacant directory name))
      (free : tree.get? (name :: directory) = none) :
      Opens tree cwd mode path (name :: directory)
        (tree.put (name :: directory) (.file tree.newFileMode []))

theorem opens_of_openFile (h : tree.openFile cwd mode path = .ok (file, tree')) :
    file = { location := file.location, mode } ∧ Opens tree cwd mode path file.location tree' := by
  unfold openFile at h
  split at h
  · split at h
    · cases h
    split at h
    · cases h
      exact ⟨rfl, .read rfl ‹_› ‹_›⟩
    · cases h
  · rename_i writes
    split at h
    · cases h
    · split at h
      · split at h
        · cases h
        · cases h
          exact ⟨rfl, .write writes ‹_› ‹_› ‹_›⟩
      · cases h
    · rename_i vacant
      split at h
      · cases h
        exact ⟨rfl, .make writes vacant (get?_of_find_vacant vacant)⟩
      · cases h

/-- Opening a file that is there and, if it is to be emptied, is empty changes nothing. -/
theorem openFile_of_empty {location : Location} (writes : mode ≠ .read)
    (led : tree.find true cwd path = .ok (.node location))
    (granted : tree.grants mode.access location)
    (opens : tree.get? location ≠ some .directory ∧ tree.get? location ≠ some .removedDirectory)
    (empty : mode = .truncate → ∀ bits content,
      tree.get? location = some (.file bits content) → content = []) :
    tree.openFile cwd mode path = .ok ({ location, mode }, tree) := by
  have prepared : tree.prepare mode location = .ok tree := by
    unfold prepare
    split
    · exact absurd ‹_› opens.1
    · exact absurd ‹_› opens.2
    · rename_i bits content at'
      obtain rfl := empty rfl bits content at'
      rw [put_get? (by rintro rfl; cases at') at']
    · rfl
  unfold openFile
  cases mode with
  | read => exact absurd rfl writes
  | truncate | append => simp only [led, granted, if_true, prepared]

theorem Opens.outlives {location : Location} (h : Opens tree cwd mode path location tree') :
    tree.Outlives tree' := by
  cases h with
  | read => exact .refl tree
  | write writes led granted prepared =>
      unfold prepare at prepared
      split at prepared
      · cases prepared
      · cases prepared
      · rename_i bits content at'
        cases prepared
        exact .put (by rintro rfl; cases at') (at' ▸ .emptied bits content)
      · cases prepared
        exact .refl tree
  | make writes led free => exact .put (List.cons_ne_nil _ _) (free ▸ .made)

/-- A file that was opened to be emptied is empty. -/
theorem AfterOpen.empty {location : Location} (h : tree.AfterOpen .truncate location tree')
    (bits : Nat) (content : Bytes) (at' : tree'.get? location = some (.file bits content)) :
    content = [] := by
  cases h with
  | same kept => exact absurd at' (kept rfl bits content)
  | emptied _ inside _ =>
      rw [get?_put_self tree inside] at at'
      cases at'
      rfl

/-- **An open is done once.**  What was opened opens again in every later tree, and leaves it as it
is, provided that new files can be written again. -/
theorem openFile_again (opened : tree.openFile cwd mode path = .ok (file, tree'))
    (writable : tree.makesWritable) (h : tree'.Outlives later) :
    later.openFile cwd mode path = .ok (file, later) := by
  obtain ⟨start, way⟩ := opens_of_openFile opened
  have since := way.outlives.trans h
  have after := (openFile_ok opened).2
  rw [start]
  generalize file.location = location at way after
  have empty : mode = .truncate → ∀ bits content,
      later.get? location = some (.file bits content) → content = [] := by
    rintro rfl bits content at'
    exact (h.node location).empty after.empty at'
  cases way with
  | read reads led granted =>
      subst reads
      have granted' : later.grants .read location := (since.node location).grants granted
      simp only [openFile, locate_of_outlives since led]
      exact if_pos granted'
  | write writes led granted prepared =>
      refine openFile_of_empty writes (find_of_outlives since led)
        ((since.node location).grants granted) ?_ empty
      obtain ⟨live, removed⟩ := (since.node location).directory_iff
      rw [ne_eq, ne_eq, live, removed]
      constructor <;> intro at' <;> simp [prepare, at'] at prepared
  | @make directory name writes led free =>
      -- The second open finds the file that the first one made, and needs its mode to allow it.
      have there := h.node (name :: directory)
      rw [get?_put_self tree (List.cons_ne_nil _ _)] at there
      have found := find_of_outlives since led
      simp only [Found.seenIn, there.eq_of_empty, reduceCtorEq, if_false] at found
      have access : mode.access = .write := by
        cases mode with
        | read => exact absurd rfl writes
        | truncate | append => rfl
      refine openFile_of_empty writes found ?_ ?_ empty
      · rw [FileTree.grants, there.eq_of_empty, access]
        exact writable
      · rw [there.eq_of_empty]
        constructor <;> rintro ⟨⟩

end FileTree

namespace Opening

variable {tree : FileTree} {cwd : Location} {redirects : List Redirect}

theorem outlives (tree : FileTree) (cwd : Location) (redirects : List Redirect) :
    tree.Outlives (of tree cwd redirects).tree := by
  induction redirects generalizing tree with
  | nil => exact .refl tree
  | cons first rest ih =>
      cases opened : tree.openFile cwd first.kind.openMode first.target.text with
      | error cause => simpa only [of, opened] using .refl tree
      | ok opened' =>
          obtain ⟨file, tree'⟩ := opened'
          have first := (FileTree.opens_of_openFile opened).2.outlives
          simpa only [of, opened] using first.trans (ih tree')

/-- **Every target of redirects opens again** once they were opened, and nothing changes, provided
that new files can be written again. -/
theorem again {directive : Redirect} {file : OpenFile} (writable : tree.makesWritable)
    (h : (directive, file) ∈ (of tree cwd redirects).opened) :
    (of tree cwd redirects).tree.openFile cwd directive.kind.openMode directive.target.text
      = .ok (file, (of tree cwd redirects).tree) := by
  induction redirects generalizing tree with
  | nil => cases h
  | cons first rest ih =>
      cases opened : tree.openFile cwd first.kind.openMode first.target.text with
      | error cause => simp [of, opened] at h
      | ok opened' =>
          obtain ⟨file', tree'⟩ := opened'
          simp only [of, opened, List.mem_cons] at h ⊢
          rcases h with h | h
          · cases h
            exact FileTree.openFile_again opened writable (outlives tree' cwd rest)
          · have way := (FileTree.opens_of_openFile opened).2.outlives
            exact ih (way.makesWritable ▸ writable) h

end Opening

end Shell
