import Shell.FileTree.Edit
import Shell.World

/-!
# Sessions — what others do meanwhile

Other processes share the files and the console with a session, and they can make its directory a
part of another one, or take it away.  A process is not in a place of the tree but in a directory:
when that is renamed, or one above it, the process is in it still, under the new name.  The same is
true of its open files.  `World.disturbed` is the world after somebody did something to the
machine (`Disturbance`), with all that is in use found where it is then.

A directory is spared (`Disturbance.Spares`) if neither it nor one above it is removed or renamed.
`World.disturbed_of_spares`: a process whose directory is spared finds it in its old place.
-/

namespace Shell

/-- What others do. -/
inductive Disturbance where
  /-- Make something at a location, or change what is there if it is no directory. -/
  | place (location : Location) (node : Node)
  | remove (top : Location)
  | rename (source target : Location)
  /-- Give to the console's input or read from its outputs, or open or close these. -/
  | console (console : Console)
  /-- Let the process enter directories or not. -/
  | bar (barred : List (Location × SystemError))

namespace World

/-- The world after others did something; what the system refuses them changes nothing. -/
def disturbed (w : World) : Disturbance → World
  | .place location node =>
      if (w.machine.tree.get? location).any Node.isDirectory
          || !w.machine.tree.isLiveDirectory location.tail then w
      else { w with machine.tree := w.machine.tree.put location node }
  | .remove top =>
      { w.moved (FileTree.afterRemoval top) with
        machine.tree := w.machine.tree.remove top w.cwd }
  | .rename source target =>
      if w.machine.tree.canMove source target then
        { w.moved (FileTree.afterMove source target) with
          machine.tree := w.machine.tree.move source target }
      else w
  | .console console => { w with machine.console := console }
  | .bar barred => { w with barred }

end World

/-- Neither a directory nor one above it is removed or renamed. -/
def Disturbance.Spares (directory : Location) : Disturbance → Prop
  | .remove top => ¬FileTree.isBelow directory top
  | .rename source _ => ¬FileTree.isBelow directory source
  | _ => True

instance (directory : Location) : DecidablePred (Disturbance.Spares directory)
  | .remove top => inferInstanceAs (Decidable ¬FileTree.isBelow directory top)
  | .rename source _ => inferInstanceAs (Decidable ¬FileTree.isBelow directory source)
  | .place .. | .console _ | .bar _ => inferInstanceAs (Decidable True)

/-! ### A directory that is spared -/

namespace FileTree

/-- What no filter takes away is still found. -/
theorem lookup_filter_of_kept {location : Location} (keeps : Location → Bool)
    (kept : keeps location) (entries : List (Location × Node)) :
    lookup location (entries.filter fun entry => keeps entry.1) = lookup location entries := by
  induction entries with
  | nil => rfl
  | cons entry rest ih =>
      obtain ⟨l, node⟩ := entry
      by_cases here : l = location
      · subst here
        simp [kept, lookup]
      · by_cases stays : keeps l <;> simp [stays, lookup, here, ih]

/-- What keeps its name, and shares it with nothing that gets a new one, is still found. -/
theorem lookup_map_of_kept {location : Location} {move : Location → Location}
    (kept : ∀ l, move l = location ↔ l = location) (entries : List (Location × Node)) :
    lookup location (entries.map fun (l, node) => (move l, node)) = lookup location entries := by
  induction entries with
  | nil => rfl
  | cons entry rest ih => simp only [List.map_cons, lookup, kept, ih]

theorem mem_of_lookup {location : Location} {node : Node} {entries : List (Location × Node)}
    (found : lookup location entries = some node) : (location, node) ∈ entries := by
  induction entries with
  | nil => cases found
  | cons entry rest ih =>
      obtain ⟨l, other⟩ := entry
      rw [lookup] at found
      split at found
      · cases found
        exact ‹l = location› ▸ List.mem_cons_self
      · exact List.mem_cons_of_mem _ (ih found)

variable {tree : FileTree} {location source target top : Location}

theorem get?_remove_of_spared (spared : ¬isBelow location top) :
    (tree.remove top location).get? location = tree.get? location := by
  rw [remove, if_neg spared]
  cases location with
  | nil => rfl
  | cons name above =>
      exact lookup_filter_of_kept (fun l => !isBelow l top) (by simpa using spared) _

theorem isBelow_afterMove (moved : isBelow location source) :
    isBelow (afterMove source target location) target := by
  rw [afterMove, if_pos moved, isBelow, List.isSuffixOf_iff_suffix]
  exact List.suffix_append _ _

/-- Nothing comes to a location that is not below the new name. -/
theorem afterMove_eq_iff (spared : ¬isBelow location source) (free : ¬isBelow location target)
    (other : Location) : afterMove source target other = location ↔ other = location := by
  by_cases moved : isBelow other source
  · refine iff_of_false (fun same => ?_) (fun same => ?_)
    · exact free (same ▸ isBelow_afterMove moved)
    · exact spared (same ▸ moved)
  · rw [afterMove, if_neg moved]

/-- A directory keeps its name when something else is renamed. -/
theorem isLiveDirectory_move (live : tree.isLiveDirectory location)
    (spared : ¬isBelow location source) (can : tree.canMove source target) :
    (tree.move source target).isLiveDirectory location := by
  cases location with
  | nil => rfl
  | cons name above =>
      obtain ⟨-, free⟩ := Bool.and_eq_true_iff.mp can
      have found : lookup (name :: above) tree.entries = some .directory := of_decide_eq_true live
      -- The directory is among the entries, and none of these is below a name that is free.
      have apart : ¬isBelow (name :: above) target := by
        simpa using List.all_eq_true.mp free _ (mem_of_lookup found)
      exact decide_eq_true ((lookup_map_of_kept (afterMove_eq_iff spared apart) _).trans found)

end FileTree

/-- **Others** who spare the directory of a process leave it there, in its old place. -/
theorem World.disturbed_of_spares {w : World} {disturbance : Disturbance}
    (live : w.machine.tree.isLiveDirectory w.cwd) (spares : disturbance.Spares w.cwd) :
    (w.disturbed disturbance).cwd = w.cwd
      ∧ (w.disturbed disturbance).machine.tree.isLiveDirectory w.cwd := by
  have found : w.machine.tree.get? w.cwd = some .directory := of_decide_eq_true live
  cases disturbance with
  | place location node =>
      rw [disturbed]
      split
      · exact ⟨rfl, live⟩
      · rename_i vacant
        have apart : w.cwd ≠ location := by
          rintro rfl
          simp [found, Node.isDirectory] at vacant
        refine ⟨rfl, decide_eq_true ?_⟩
        rw [← found]
        exact w.machine.tree.get?_put_of_ne apart node
  | remove top =>
      refine ⟨if_neg spares, decide_eq_true ?_⟩
      rw [← found]
      exact FileTree.get?_remove_of_spared spares
  | rename source target =>
      rw [disturbed]
      split
      · exact ⟨if_neg spares, FileTree.isLiveDirectory_move live spares ‹_›⟩
      · exact ⟨rfl, live⟩
  | console console => exact ⟨rfl, live⟩
  | bar barred => exact ⟨rfl, live⟩

end Shell
