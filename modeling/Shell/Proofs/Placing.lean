import Shell.Proofs.Appending

/-!
# File trees — paths that files are written at

A path at which a file can be written, time and again, leads to a regular file that grants it, or to
a vacant name in a directory that takes new names, and then the files that are made must grant it
(`FileTree.Writable`).  Opening the path puts a file there
(`FileTree.Writable.openFile_eq`): an empty one, or the one that is there with what it holds.

Writing at one path does not lead another one astray.  What a file holds decides no way, and a file
made at a vacant name is found by the paths that ended there; every other path ends where it ended
before (`FileTree.find_put_vacant`).  So a path that can be written stays one, and stays the path of
the same location (`FileTree.Writable.put`).
-/

namespace Shell

/-! ### A file at a vacant name -/

/-- Where a walk ends once a file was made at a location. -/
def Found.filled (made : Location) : Found → Found
  | node location => node location
  | vacant directory name =>
      if name :: directory = made then node made else vacant directory name

namespace FileTree

variable {tree : FileTree} {made : Location} {bits : Nat} {content : Bytes} {creating : Bool}

theorem walkSteps_put_vacant (free : tree.get? made = none) (inside : made ≠ [])
    {follow follow' : Location → List String → Except SystemError Found}
    (hf : ∀ here steps found, follow here steps = .ok found →
      follow' here steps = .ok (found.filled made))
    {here : Location} {steps : List String} {found : Found}
    (h : tree.walkSteps creating follow here steps = .ok found) :
    (tree.put made (.file bits content)).walkSteps creating follow' here steps
      = .ok (found.filled made) := by
  induction steps generalizing here with
  | nil =>
      cases h
      rfl
  | cons step rest ih =>
      rw [walkSteps] at h ⊢
      split at h
      · cases h
      rename_i standing
      -- a walk stands in a directory, so it does not stand where nothing was
      have away : here ≠ made := by
        rintro rfl
        simp [free] at standing
      rw [get?_put_of_ne tree away, if_neg standing]
      split at h
      · rw [if_pos ‹_›]
        exact ih h
      rw [if_neg ‹_›]
      split at h
      · rw [if_pos ‹_›]
        exact ih h
      rw [if_neg ‹_›]
      split at h
      · cases h
      rw [if_neg ‹_›]
      split at h
      · cases h
      rw [if_neg ‹_›]
      split at h
      · cases h
      rw [if_neg ‹_›]
      by_cases there : step :: here = made
      · rw [there, free] at h
        dsimp only at h
        split at h
        · rename_i last
          cases h
          rw [there, get?_put_self tree inside, last]
          simp [walkSteps, Found.filled, there]
        · cases h
      · rw [get?_put_of_ne tree there]
        cases next : tree.get? (step :: here) with
        | none =>
            rw [next] at h
            dsimp only at h ⊢
            split at h
            · cases h
              rw [if_pos ‹_›, Found.filled, if_neg there]
            · cases h
        | some node =>
            rw [next] at h
            cases node with
            | link target => exact hf _ _ _ h
            | file | directory | removedDirectory | device | tool => exact ih h

/-- **A file made at a vacant name** is found by every path that ended there, and every other path
ends where it ended. -/
theorem find_put_vacant (free : tree.get? made = none) (inside : made ≠ []) {cwd : Location}
    {path : String} {found : Found} (h : tree.find creating cwd path = .ok found) :
    (tree.put made (.file bits content)).find creating cwd path = .ok (found.filled made) := by
  have walked : ∀ links here steps found, tree.walk creating links here steps = .ok found →
      (tree.put made (.file bits content)).walk creating links here steps
        = .ok (found.filled made) := by
    intro links
    induction links with
    | zero =>
        intro here steps found h
        exact walkSteps_put_vacant free inside (fun _ _ _ e => by cases e) h
    | succ links ih =>
        intro here steps found h
        exact walkSteps_put_vacant free inside ih h
  unfold find follow at h ⊢
  split at h
  · cases h
  rename_i plain
  split at h
  · cases h
  rename_i short
  split at h
  · cases h
  rename_i nonempty
  rw [if_neg plain, if_neg short, if_neg plain, if_neg nonempty]
  exact walked _ _ _ _ h

/-- A file is nothing that comes with the machine, so its directory takes names as before. -/
theorem takesNames_put {directory : Location} (h : tree.takesNames directory) :
    (tree.put made (.file bits content)).takesNames directory := by
  have kept : ∀ {P : Location × Node → Bool} {entries : List (Location × Node)},
      P (made, .file bits content) → entries.all P →
        (update made (.file bits content) entries).all P := by
    intro P entries new all
    induction entries with
    | nil => simpa [update] using new
    | cons entry rest ih =>
        simp only [List.all_cons, Bool.and_eq_true] at all
        rw [update]
        split
        · rename_i same
          rw [List.all_cons, same, new, all.2]
          rfl
        · rw [List.all_cons, all.1, ih all.2]
          rfl
  simp only [takesNames, Bool.and_eq_true] at h ⊢
  exact ⟨h.1, kept (by simp [Node.isProvided]) h.2⟩

/-! ### Paths -/

/-- A path leads to a location at which a file can be written: there is a regular file that grants
it, or a name is vacant in a directory that takes names and a new file would grant it. -/
inductive Writable (tree : FileTree) (cwd : Location) (path : String) : Location → Prop where
  | file {location : Location} {bits : Nat} {content : Bytes}
      (found : tree.find true cwd path = .ok (.node location))
      (there : tree.get? location = some (.file bits content))
      (granted : tree.grants .write location) : Writable tree cwd path location
  | new {directory : Location} {name : String}
      (found : tree.find true cwd path = .ok (.vacant directory name))
      (taken : tree.takesNames directory) (granting : tree.makesWritable) :
      Writable tree cwd path (name :: directory)

/-- The mode bits of the file at a location, or those that a new one would get, and what it
holds. -/
def held (tree : FileTree) (location : Location) : Nat × Bytes :=
  match tree.get? location with
  | some (.file bits content) => (bits, content)
  | _ => (tree.newFileMode, [])

namespace Writable

variable {cwd location : Location} {path : String}

theorem ne_nil (h : tree.Writable cwd path location) : location ≠ [] := by
  cases h with
  | file found there => exact ne_nil_of_get?_file there
  | new => exact List.cons_ne_nil _ _

/-- **Opening the path** puts a file there, empty unless it is to be written at its end. -/
theorem openFile_eq (h : tree.Writable cwd path location) {mode : OpenMode}
    (writes : mode ≠ .read) :
    tree.openFile cwd mode path = .ok ({ location, mode }, tree.put location
      (.file (tree.held location).1 (if mode = .append then (tree.held location).2 else []))) := by
  cases h with
  | @file _ bits content found there granted =>
      have inside := ne_nil_of_get?_file there
      cases mode with
      | read => exact absurd rfl writes
      | truncate => simp [openFile, found, OpenMode.access, granted, prepare, there, held]
      | append => simp [openFile, found, OpenMode.access, granted, prepare, there, held,
          put_get? inside there]
  | @new directory name found taken granting =>
      have free := get?_of_find_vacant found
      cases mode with
      | read => exact absurd rfl writes
      | truncate | append => simp [openFile, found, taken, held, free]

/-- What files hold does not matter. -/
theorem of_outline {other : FileTree} (h : tree.Writable cwd path location)
    (same : other.outline = tree.outline) : other.Writable cwd path location := by
  have find : other.find true cwd path = tree.find true cwd path := by
    rw [← find_outline, same, find_outline]
  cases h with
  | @file _ bits content found there granted =>
      have shape : (other.get? location).map Node.outline = some (.file bits []) := by
        rw [← get?_outline, same, get?_outline, there]
        rfl
      obtain ⟨node, there', e⟩ := Option.map_eq_some_iff.mp shape
      cases node with
      | file bits' content' =>
          refine .file (find.trans found) there' ?_
          rw [← grants_outline, same, grants_outline, granted]
      | directory | removedDirectory | link | device | tool => cases e
  | new found taken granting =>
      refine .new (find.trans found) ?_ ?_
      · rw [← takesNames_outline, same, takesNames_outline, taken]
      · rw [← makesWritable_outline, same, makesWritable_outline, granting]

/-- **A path that can be written** stays one, at the same location, when a file is written at
another one or at the same. -/
theorem put (h : tree.Writable cwd path location) {cwd' : Location} {path' : String}
    (h' : tree.Writable cwd' path' made) (content : Bytes) :
    (tree.put made (.file (tree.held made).1 content)).Writable cwd path location := by
  cases h' with
  | @file _ bits old _ there =>
      refine h.of_outline ?_
      have inside := ne_nil_of_get?_file there
      rw [outline_put]
      refine put_get? inside ?_
      rw [get?_outline, there, held, there]
      rfl
  | @new directory name vacant =>
      have free := get?_of_find_vacant vacant
      have inside : name :: directory ≠ [] := List.cons_ne_nil _ _
      cases h with
      | @file _ bits old found there granted =>
          have away : location ≠ name :: directory := by
            rintro rfl
            rw [free] at there
            cases there
          have kept := get?_put_of_ne tree away
          refine .file (find_put_vacant free inside found) ((kept _).trans there) ?_
          rwa [grants, kept]
      | @new directory' name' found taken granting =>
          have filled := @find_put_vacant tree _ (tree.held (name :: directory)).1 content _ free
            inside _ _ _ found
          by_cases same : name' :: directory' = name :: directory
          · rw [Found.filled, if_pos same] at filled
            rw [same]
            refine .file filled (get?_put_self tree inside _) ?_
            rw [grants, get?_put_self tree inside, held, free]
            exact granting
          · rw [Found.filled, if_neg same] at filled
            exact .new filled (takesNames_put taken) granting

end Writable

end FileTree

end Shell
