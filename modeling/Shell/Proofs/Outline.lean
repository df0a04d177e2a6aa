import Shell.FileTree.Open

/-!
# File trees — opening, whatever files hold

Where a path leads, and whether a file may be opened, does not depend on what files hold.  The
`outline` of a tree is the tree with every file emptied, and opening a file comes to the same in all
trees of one outline (`FileTree.openFile_congr`).

An open changes what a file holds in one way only: it empties a file, or makes an empty one
(`FileTree.AfterOpen`, `FileTree.openFile_ok`).
-/

namespace Shell

/-- The node with nothing in it. -/
def Node.outline : Node → Node
  | .file mode _ => .file mode []
  | node => node

namespace FileTree

/-- The tree with every file emptied. -/
def outline (tree : FileTree) : FileTree :=
  { tree with entries := tree.entries.map fun (location, node) => (location, node.outline) }

theorem lookup_outline (location : Location) (entries : List (Location × Node)) :
    lookup location (entries.map fun (l, node) => (l, node.outline))
      = (lookup location entries).map Node.outline := by
  induction entries with
  | nil => rfl
  | cons entry rest ih =>
      by_cases h : entry.1 = location
      · simp [lookup, h]
      · simp [lookup, h, ih]

theorem get?_outline (tree : FileTree) (location : Location) :
    tree.outline.get? location = (tree.get? location).map Node.outline := by
  cases location with
  | nil => rfl
  | cons name above => exact lookup_outline _ _

theorem update_outline (location : Location) (node : Node) (entries : List (Location × Node)) :
    (update location node entries).map (fun (l, node) => (l, node.outline))
      = update location node.outline (entries.map fun (l, node) => (l, node.outline)) := by
  induction entries with
  | nil => rfl
  | cons entry rest ih =>
      by_cases h : entry.1 = location
      · simp [update, h]
      · simp [update, h, ih]

theorem outline_put (tree : FileTree) (location : Location) (node : Node) :
    (tree.put location node).outline = tree.outline.put location node.outline := by
  simp [put, outline, update_outline]

/-! ### Where a path leads -/

theorem isDirectory_outline (node : Node) : node.outline.isDirectory = node.isDirectory := by
  cases node <;> rfl

theorem walkSteps_outline (tree : FileTree) (creating : Bool)
    (follow : Location → List String → Except SystemError Found) (here : Location)
    (steps : List String) :
    tree.outline.walkSteps creating follow here steps
      = tree.walkSteps creating follow here steps := by
  induction steps generalizing here with
  | nil => rfl
  | cons step rest ih =>
      have dir : (tree.outline.get? here).map Node.isDirectory
          = (tree.get? here).map Node.isDirectory := by
        rw [get?_outline, Option.map_map]
        exact congrArg (Option.map · _) (funext isDirectory_outline)
      have gone : tree.outline.get? here = some .removedDirectory
          ↔ tree.get? here = some .removedDirectory := by
        rw [get?_outline]
        cases tree.get? here with
        | none => simp
        | some node => cases node <;> simp [Node.outline]
      simp only [walkSteps, dir, gone, ih]
      rw [get?_outline]
      cases tree.get? (step :: here) with
      | none => rfl
      | some node => cases node <;> rfl

theorem walk_outline (tree : FileTree) (creating : Bool) (links : Nat) (here : Location)
    (steps : List String) :
    tree.outline.walk creating links here steps = tree.walk creating links here steps := by
  induction links generalizing here steps with
  | zero => exact walkSteps_outline _ _ _ _ _
  | succ links ih =>
      have e : tree.outline.walk creating links = tree.walk creating links := by
        funext here steps
        exact ih here steps
      rw [walk, walk, e, walkSteps_outline]

theorem find_outline (tree : FileTree) (creating : Bool) (cwd : Location) (path : String) :
    tree.outline.find creating cwd path = tree.find creating cwd path := by
  simp only [find, follow, walk_outline]

theorem grants_outline (tree : FileTree) (access : Access) (location : Location) :
    tree.outline.grants access location = tree.grants access location := by
  rw [grants, grants, get?_outline]
  cases tree.get? location with
  | none => rfl
  | some node => cases node <;> rfl

theorem takesNames_outline (tree : FileTree) (directory : Location) :
    tree.outline.takesNames directory = tree.takesNames directory := by
  have provided : ∀ node : Node, node.outline.isProvided = node.isProvided := by
    intro node
    cases node <;> rfl
  simp [takesNames, outline, List.all_map, Function.comp_def, provided]

theorem refusal?_outline (tree : FileTree) (location : Location) :
    tree.outline.refusal? location = tree.refusal? location := by
  rw [refusal?, refusal?, get?_outline]
  cases tree.get? location with
  | none => rfl
  | some node => cases node <;> rfl

theorem isExecutable_outline (tree : FileTree) (cwd : Location) (path : String) :
    tree.outline.isExecutable cwd path = tree.isExecutable cwd path := by
  have same : ∀ node : Node, node.outline.isExecutable = node.isExecutable := by
    intro node
    cases node <;> rfl
  rw [isExecutable, isExecutable, locate, locate, find_outline]
  cases tree.find false cwd path >>= Found.location with
  | error e => rfl
  | ok location =>
      dsimp only
      rw [get?_outline, Option.map_map]
      exact congrArg (Option.getD · false) (congrArg (Option.map · _) (funext same))

theorem newFileMode_outline (tree : FileTree) : tree.outline.newFileMode = tree.newFileMode := rfl

theorem makesWritable_outline (tree : FileTree) :
    tree.outline.makesWritable = tree.makesWritable := rfl

/-! ### Opening -/

/-- What an open file and a tree are, but for what files hold. -/
def outlined (opened : OpenFile × FileTree) : OpenFile × FileTree :=
  (opened.1, opened.2.outline)

theorem prepare_outline (tree : FileTree) (mode : OpenMode) (location : Location) :
    tree.outline.prepare mode location = (tree.prepare mode location).map outline := by
  simp only [prepare, get?_outline]
  cases tree.get? location with
  | none => cases mode <;> rfl
  | some node =>
      cases node with
      | file bits content =>
          cases mode with
          | truncate => simp [Node.outline, Except.map, outline_put]
          | read | append => rfl
      | directory | removedDirectory | link target | device device | tool tool =>
          cases mode <;> rfl

theorem openFile_outline (tree : FileTree) (cwd : Location) (mode : OpenMode) (path : String) :
    tree.outline.openFile cwd mode path = (tree.openFile cwd mode path).map outlined := by
  have write : ∀ mode : OpenMode, mode ≠ .read →
      tree.outline.openFile cwd mode path = (tree.openFile cwd mode path).map outlined := by
    intro mode h
    simp only [openFile, find_outline, grants_outline, takesNames_outline, prepare_outline]
    cases mode with
    | read => exact absurd rfl h
    | truncate | append =>
        rcases tree.find true cwd path with e | ⟨location⟩ | ⟨directory, name⟩
        · rfl
        · dsimp only
          split
          · cases tree.prepare _ location <;> rfl
          · rfl
        · dsimp only
          split
          · simp [Except.map, outlined, outline_put, Node.outline, newFileMode_outline]
          · rfl
  cases mode with
  | read =>
      simp only [openFile, locate, find_outline, grants_outline]
      cases tree.find false cwd path >>= Found.location with
      | error e => rfl
      | ok location => dsimp only; split <;> rfl
  | truncate | append => exact write _ (by simp)

/-- **Trees of one outline open alike**: the same refusal, or the same open file and again trees of
one outline. -/
theorem openFile_congr {tree other : FileTree} (h : tree.outline = other.outline) (cwd : Location)
    (mode : OpenMode) (path : String) :
    (tree.openFile cwd mode path).map outlined = (other.openFile cwd mode path).map outlined := by
  rw [← openFile_outline, h, openFile_outline]

/-- What opens in a tree opens in every other one of its outline. -/
theorem openFile_of_outline {tree other tree' : FileTree} (h : tree.outline = other.outline)
    {cwd : Location} {mode : OpenMode} {path : String} {file : OpenFile}
    (e : tree.openFile cwd mode path = .ok (file, tree')) :
    ∃ other', other.openFile cwd mode path = .ok (file, other')
      ∧ tree'.outline = other'.outline := by
  have both := openFile_congr h cwd mode path
  rw [e] at both
  cases e' : other.openFile cwd mode path with
  | error cause =>
      rw [e'] at both
      cases both
  | ok opened =>
      rw [e'] at both
      obtain ⟨file', other'⟩ := opened
      simp only [Except.map, outlined, Except.ok.injEq, Prod.mk.injEq] at both
      obtain ⟨rfl, outline⟩ := both
      exact ⟨other', rfl, outline⟩

/-- How an open changes a tree.  It changes nothing, or makes an empty file where nothing was, or
empties a file. -/
inductive AfterOpen (tree : FileTree) (mode : OpenMode) (location : Location) :
    FileTree → Prop where
  | same (h : mode = .truncate → ∀ bits content, tree.get? location ≠ some (.file bits content)) :
      AfterOpen tree mode location tree
  | emptied {bits : Nat} (writes : mode ≠ .read) (inside : location ≠ [])
      (h : tree.get? location = none
        ∨ mode = .truncate ∧ ∃ content, tree.get? location = some (.file bits content)) :
      AfterOpen tree mode location (tree.put location (.file bits []))

/-- An open puts nothing into a file. -/
theorem AfterOpen.file_of_get? {tree tree' : FileTree} {mode : OpenMode} {opened : Location}
    (h : AfterOpen tree mode opened tree') {location : Location} {bits : Nat} {content : Bytes}
    (e : tree'.get? location = some (.file bits content)) :
    content = [] ∨ tree.get? location = some (.file bits content) := by
  cases h with
  | same => exact Or.inr e
  | emptied _ inside _ =>
      by_cases at' : location = opened
      · subst at'
        rw [get?_put_self tree inside] at e
        cases e
        exact Or.inl rfl
      · rw [get?_put_of_ne tree at'] at e
        exact Or.inr e

/-- An open changes no other file, and none at all for reading. -/
theorem AfterOpen.get? {tree tree' : FileTree} {mode : OpenMode} {opened : Location}
    (h : AfterOpen tree mode opened tree') {location : Location}
    (away : mode = .read ∨ location ≠ opened) : tree'.get? location = tree.get? location := by
  cases h with
  | same => rfl
  | emptied writes => exact get?_put_of_ne tree (away.resolve_left writes) _

/-- An open finds or makes the same in a file that two trees of one outline agree on. -/
theorem AfterOpen.get?_opened {tree tree' other other' : FileTree} {mode : OpenMode}
    {opened : Location} (h : AfterOpen tree mode opened tree')
    (h' : AfterOpen other mode opened other') (outline : tree'.outline = other'.outline)
    (e : tree.get? opened = other.get? opened) : tree'.get? opened = other'.get? opened := by
  have shape : (tree'.get? opened).map Node.outline = (other'.get? opened).map Node.outline := by
    rw [← get?_outline, ← get?_outline, outline]
  cases h with
  | same kept =>
      cases h' with
      | same => exact e
      -- a file in one tree only cannot be, as the outlines are the same
      | emptied writes inside before =>
          rw [get?_put_self other inside] at shape
          rcases before with none | ⟨truncates, content, found⟩
          · rw [e, none] at shape
            cases shape
          · exact absurd (e.trans found) (kept truncates _ _)
  | emptied writes inside before =>
      rw [get?_put_self tree inside] at shape ⊢
      cases h' with
      | same kept =>
          rcases before with none | ⟨truncates, content, found⟩
          · rw [← e, none] at shape
            cases shape
          · exact absurd (e.symm.trans found) (kept truncates _ _)
      | emptied =>
          rw [get?_put_self other inside] at shape ⊢
          simpa [Node.outline] using shape

theorem get?_of_walkSteps_vacant {tree : FileTree} {creating : Bool}
    {follow : Location → List String → Except SystemError Found}
    (hf : ∀ here steps directory name, follow here steps = .ok (.vacant directory name) →
      tree.get? (name :: directory) = none)
    {here : Location} {steps : List String} {directory : Location} {name : String}
    (h : tree.walkSteps creating follow here steps = .ok (.vacant directory name)) :
    tree.get? (name :: directory) = none := by
  induction steps generalizing here with
  | nil => cases h
  | cons step rest ih =>
      rw [walkSteps] at h
      split at h
      · cases h
      split at h
      · exact ih h
      split at h
      · exact ih h
      split at h
      · cases h
      split at h
      · cases h
      split at h
      · cases h
      split at h
      case h_1 free =>
        split at h
        · cases h
          exact free
        · cases h
      case h_2 target _ => exact hf _ _ _ _ h
      case h_3 => exact ih h

/-- A walk ends at a vacant name only where nothing is. -/
theorem get?_of_walk_vacant {tree : FileTree} {creating : Bool} {links : Nat} {here : Location}
    {steps : List String} {directory : Location} {name : String}
    (h : tree.walk creating links here steps = .ok (.vacant directory name)) :
    tree.get? (name :: directory) = none := by
  induction links generalizing here steps directory name with
  | zero => exact get?_of_walkSteps_vacant (fun _ _ _ _ e => by cases e) h
  | succ links ih => exact get?_of_walkSteps_vacant (fun _ _ _ _ e => ih e) h

theorem get?_of_find_vacant {tree : FileTree} {creating : Bool} {cwd : Location} {path : String}
    {directory : Location} {name : String}
    (h : tree.find creating cwd path = .ok (.vacant directory name)) :
    tree.get? (name :: directory) = none := by
  unfold find follow at h
  split at h
  · cases h
  split at h
  · cases h
  split at h
  · cases h
  exact get?_of_walk_vacant h

theorem afterOpen_of_prepare {tree tree' : FileTree} {mode : OpenMode} {location : Location}
    (hm : mode ≠ .read) (h : tree.prepare mode location = .ok tree') :
    AfterOpen tree mode location tree' := by
  unfold prepare at h
  split at h
  case h_1 => cases h
  case h_2 => cases h
  case h_3 bits content e =>
    cases h
    refine .emptied hm ?_ (Or.inr ⟨rfl, content, e⟩)
    rintro rfl
    cases e
  case h_4 other =>
    cases h
    exact .same fun hmode bits content e => other bits content hmode e

/-- **What opening a file gives**: the file at some location, standing at its start, and the tree
changed there at most. -/
theorem openFile_ok {tree tree' : FileTree} {cwd : Location} {mode : OpenMode} {path : String}
    {file : OpenFile} (h : tree.openFile cwd mode path = .ok (file, tree')) :
    file = { location := file.location, mode } ∧ AfterOpen tree mode file.location tree' := by
  unfold openFile at h
  split at h
  · split at h
    · cases h
    split at h
    · cases h
      exact ⟨rfl, .same fun e => by cases e⟩
    · cases h
  · rename_i writes
    split at h
    · cases h
    · split at h
      · split at h
        · cases h
        · rename_i prepared
          cases h
          exact ⟨rfl, afterOpen_of_prepare writes prepared⟩
      · cases h
    · rename_i vacant
      split at h
      · cases h
        exact ⟨rfl, .emptied writes (List.cons_ne_nil _ _) (Or.inl (get?_of_find_vacant vacant))⟩
      · cases h

end FileTree

end Shell
