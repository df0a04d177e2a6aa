import Shell.Environment
import Shell.Proofs.Joining
import Shell.Proofs.Searching

/-!
# Environments — names with a slash

A name with a slash in it stands for the path that it spells: it is the program if it leads to one,
whatever the search list.  Two things set limits to this.

* Where no search list is set, no name stands for anything.
* A name whose slashes have nothing but dots behind them (`Path.StopsAt`) has one part, and this
  part is looked up, though the name itself asks for a directory.

`findExecutable_of_slash` says it of two environments that differ in the search list alone
(`Environment.DifferIn`).
-/

namespace Shell

/-! ### Names of one part -/

namespace Path

variable {name first rest : String}

/-- Whether a path stops at its first part: behind it are only slashes, and dots between them. -/
structure StopsAt (name first : String) : Prop where
  named : first ≠ ""
  plain : '/' ∉ first.toList
  stops : ∃ rest, name = first ++ "/" ++ rest
    ∧ ∀ field ∈ Text.fields '/' rest.toList, field = [] ∨ field = ['.']

theorem exists_first_slash (slash : '/' ∈ name.toList) :
    ∃ first rest, name = first ++ "/" ++ rest ∧ '/' ∉ first.toList := by
  obtain ⟨first, rest, e, plain⟩ := List.eq_append_cons_of_mem slash
  exact ⟨String.ofList first, String.ofList rest, String.toList_inj.mp (by simp [e]), by simpa⟩

/-- Such a path asks for a directory, or ends in a dot. -/
theorem StopsAt.getLast?_steps (h : StopsAt name first) :
    (steps name).getLast? = some "" ∨ (steps name).getLast? = some "." := by
  obtain ⟨named, plain, rest, rfl, stops⟩ := h
  have named : first.toList ≠ [] := by simpa using named
  obtain ⟨others, last, e⟩ : ∃ others last, Text.fields '/' rest.toList = others ++ [last] :=
    ⟨_, _, (List.dropLast_concat_getLast (Text.fields_ne_nil '/' rest.toList)).symm⟩
  have parts : Text.fields '/' (first ++ "/" ++ rest).toList
      = (first.toList :: others) ++ [last] := by
    rw [fields_behind, fields_of_plain plain, e]
    rfl
  rw [steps, parts, List.getLast?_concat]
  rcases stops last (by simp [e]) with rfl | rfl
  · left
    simp [named, List.getLast?_cons]
  · right
    simp [named, List.getLast?_cons]

end Path

/-! ### Paths that end in a directory -/

namespace FileTree

variable {tree : FileTree} {creating : Bool} {cwd location : Location} {path : String}

/-- A dot, and the request for a directory, are the last step only of a walk to a directory. -/
theorem isDirectory_of_walkSteps {follow : Location → List String → Except SystemError Found}
    (hf : ∀ here steps location, steps.getLast? = some "" ∨ steps.getLast? = some "." →
      follow here steps = .ok (.node location) →
      (tree.get? location).map Node.isDirectory = some true)
    {here : Location} {steps : List String}
    (last : steps.getLast? = some "" ∨ steps.getLast? = some ".")
    (h : tree.walkSteps creating follow here steps = .ok (.node location)) :
    (tree.get? location).map Node.isDirectory = some true := by
  induction steps generalizing here with
  | nil => simp at last
  | cons step rest ih =>
      rw [walkSteps] at h
      split at h
      · cases h
      rename_i directory
      have directory : (tree.get? here).map Node.isDirectory = some true := by simpa using directory
      by_cases done : rest = []
      · subst done
        have dot : (step = "" || step = ".") = true := by simpa using last
        rw [if_pos dot] at h
        cases h
        exact directory
      have last' : rest.getLast? = some "" ∨ rest.getLast? = some "." := by
        rwa [List.getLast?_cons_of_ne_nil done] at last
      split at h
      · exact ih last' h
      split at h
      · exact ih last' h
      split at h
      · cases h
      split at h
      · cases h
      split at h
      · cases h
      split at h
      · cases h
      -- Behind a link come the steps of its target, and still the same last step.
      · refine hf _ _ _ ?_ h
        rcases last' with e | e <;> simp [List.getLast?_append, e]
      · exact ih last' h

theorem isDirectory_of_walk {links : Nat} {here : Location} {steps : List String}
    (last : steps.getLast? = some "" ∨ steps.getLast? = some ".")
    (h : tree.walk creating links here steps = .ok (.node location)) :
    (tree.get? location).map Node.isDirectory = some true := by
  induction links generalizing here steps location with
  | zero => exact isDirectory_of_walkSteps (fun _ _ _ _ e => by cases e) last h
  | succ links ih => exact isDirectory_of_walkSteps (fun _ _ _ last e => ih last e) last h

theorem walk_of_locate (led : tree.locate cwd path = .ok location) :
    ∃ here, tree.walk false linkLimit here (Path.steps path) = .ok (.node location) := by
  rw [locate, Found.bind_location_eq_ok_iff, find, follow] at led
  split at led
  · cases led
  split at led
  · cases led
  split at led
  · cases led
  exact ⟨_, led⟩

/-- A path with such a last step leads to no program. -/
theorem passedOver_of_getLast?
    (last : (Path.steps path).getLast? = some "" ∨ (Path.steps path).getLast? = some ".") :
    tree.PassedOver cwd path := by
  cases led : tree.locate cwd path with
  | error cause => exact .nothing led
  | ok location =>
      obtain ⟨here, walked⟩ := walk_of_locate led
      exact .directory led (isDirectory_of_walk last walked)

end FileTree

/-! ### What a name stands for -/

namespace Search

variable {tree : FileTree} {cwd : Location} {list first rest : String}

theorem program?_behind_root :
    program? tree cwd list ("/" ++ rest) = asGiven tree cwd ("/" ++ rest) := by
  simp [program?, Path.isAbsolute]

/-- A name with more than one part stands for itself. -/
theorem program?_of_parts (named : first ≠ "") (plain : '/' ∉ first.toList) :
    program? tree cwd list (first ++ "/" ++ rest)
      = if Path.added rest = [] then (inList tree cwd list first).map .searched
        else asGiven tree cwd (first ++ "/" ++ rest) := by
  have relative : Path.isAbsolute (first ++ "/" ++ rest) = false := by
    rw [String.append_assoc, Path.isAbsolute_append named, Path.isAbsolute_of_plain plain]
  obtain ⟨part, single, written⟩ := Path.components_of_plain plain named
  rw [program?, relative, if_neg Bool.false_ne_true, Path.components_behind named, single]
  cases Path.added rest with
  | nil => simp [written]
  | cons next more => simp

/-- A path that stands for itself stands for nothing else. -/
theorem map_path_asGiven_eq_some_iff {path found : String} :
    (asGiven tree cwd path).map Program.path = some found
      ↔ found = path ∧ tree.LeadsToProgram cwd path := by
  rw [asGiven, ← FileTree.isExecutable_iff]
  split <;> simp [*, Program.path, eq_comm]

end Search

namespace Environment

variable {env env' : Environment} {w w' : World} {key name first list : String}

/-- Whether two sessions differ in one variable at most: they are in the same directories, their
processes see the same world, and all other variables have the same values. -/
structure DifferIn (key : String) (env : Environment) (w : World) (env' : Environment)
    (w' : World) : Prop where
  directory : env'.directory = env.directory
  vars : ∀ name ≠ key, env'.vars.lookup name = env.vars.lookup name
  world : ∃ vars, w' = { w with vars } ∧ ∀ name ≠ key, vars.lookup name = w.vars.lookup name

theorem lookup_cons_of_ne (other : name ≠ key) (value : String) (vars : List (String × String)) :
    ((key, value) :: vars).lookup name = vars.lookup name := by
  rw [List.lookup_cons, beq_eq_false_iff_ne.mpr other]

/-- A session differs in one variable from what it is when this is set. -/
theorem differIn_set (key value : String) (env : Environment) (w : World) :
    DifferIn key env w (env.set key value) w :=
  ⟨rfl, fun _ other => lookup_update_of_ne other value env.vars, w.vars, rfl, fun _ _ => rfl⟩

theorem findExecutable_of_get?_eq_some (set : env.get? w "PATH" = some list) (name : String) :
    env.findExecutable w name
      = (Search.program? w.machine.tree w.cwd list name).map Program.path := by
  rw [findExecutable, set]

/-- A name with a slash that does not stop at its first part stands for the path that it spells. -/
theorem findExecutable_eq_some_iff (slash : '/' ∈ name.toList)
    (goesOn : ∀ first, ¬ Path.StopsAt name first) (set : env.get? w "PATH" = some list)
    (path : String) :
    env.findExecutable w name = some path
      ↔ path = name ∧ w.machine.tree.LeadsToProgram w.cwd name := by
  obtain ⟨first, rest, rfl, plain⟩ := Path.exists_first_slash slash
  rw [findExecutable_of_get?_eq_some set]
  by_cases named : first = ""
  · subst named
    rw [String.empty_append, Search.program?_behind_root, Search.map_path_asGiven_eq_some_iff]
  · have parts : Path.added rest ≠ [] := fun none =>
      goesOn first ⟨named, plain, rest, rfl, Path.added_eq_nil_iff.mp none⟩
    rw [Search.program?_of_parts named plain, if_neg parts, Search.map_path_asGiven_eq_some_iff]

/-- It stands for that also when the search list has been set to something else. -/
theorem findExecutable_set_list (slash : '/' ∈ name.toList)
    (goesOn : ∀ first, ¬ Path.StopsAt name first) (set : env.get? w "PATH" = some list)
    (other : String) : (env.set "PATH" other).findExecutable w name = env.findExecutable w name :=
  Option.ext fun path =>
    (findExecutable_eq_some_iff slash goesOn (env.get?_set_self w "PATH" other) path).trans
      (findExecutable_eq_some_iff slash goesOn set path).symm

/-- A name that stops at its first part stands for what this part stands for. -/
theorem findExecutable_of_stopsAt (stops : Path.StopsAt name first)
    (set : env.get? w "PATH" = some list) :
    env.findExecutable w name = Search.inList w.machine.tree w.cwd list first := by
  obtain ⟨named, plain, rest, rfl, stops⟩ := stops
  rw [findExecutable_of_get?_eq_some set, Search.program?_of_parts named plain,
    if_pos (Path.added_eq_nil_iff.mpr stops), Option.map_map]
  exact Option.map_id' ..

/-- **A name with a slash** is resolved without the search list.  Between two environments that
differ in the list alone it makes no difference which list is set: the name stands for itself if it
leads to a program and for nothing otherwise, as long as it does not stop at its first part.  Where
no list is set it stands for nothing.  A name that stops at its first part leads to no program, and
yet stands for what the list has under this part. -/
theorem findExecutable_of_slash (slash : '/' ∈ name.toList)
    (differ : DifferIn "PATH" env w env' w') :
    ((∀ first, ¬ Path.StopsAt name first) → ∀ list list', env.get? w "PATH" = some list →
        env'.get? w' "PATH" = some list' →
        env.findExecutable w name = env'.findExecutable w' name
          ∧ ∀ path, env.findExecutable w name = some path
            ↔ path = name ∧ w.machine.tree.LeadsToProgram w.cwd name)
      ∧ (env.get? w "PATH" = none → env.findExecutable w name = none)
      ∧ ∀ first, Path.StopsAt name first →
        ¬ w.machine.tree.LeadsToProgram w.cwd name
          ∧ ∀ list, env.get? w "PATH" = some list →
            env.findExecutable w name = Search.inList w.machine.tree w.cwd list first := by
  refine ⟨fun goesOn list list' set set' => ?_, fun unset => by rw [findExecutable, unset],
    fun first stops => ⟨?_, fun list set => findExecutable_of_stopsAt stops set⟩⟩
  · have itself := findExecutable_eq_some_iff slash goesOn set
    have itself' := findExecutable_eq_some_iff slash goesOn set'
    obtain ⟨vars, rfl, -⟩ := differ.world
    exact ⟨Option.ext fun path => (itself path).trans (itself' path).symm, itself⟩
  · exact (FileTree.passedOver_of_getLast? stops.getLast?_steps).not_leadsToProgram

/-- A program below the working directory is found by its path with two different lists; by its name
with a slash at the end, it is the one below an entry of the list. -/
theorem findExecutable_of_slash_itself :
    let tree : FileTree := { entries := [(["d"], .directory), (["t", "d"], .file 0o755 []),
      (["e"], .directory), (["t", "e"], .file 0o755 [])] }
    let w : World := { machine.tree := tree, vars := [("PATH", "/e")] }
    let w' : World := { w with vars := [] }
    let env : Environment := { vars := [("HOME", "/")] }
    let env' : Environment := { vars := [("PATH", ""), ("HOME", "/")] }
    '/' ∈ "d/t".toList ∧ DifferIn "PATH" env w env' w' ∧ (∀ first, ¬ Path.StopsAt "d/t" first)
      ∧ env.get? w "PATH" = some "/e" ∧ env'.get? w' "PATH" = some ""
      ∧ env.findExecutable w "d/t" = some "d/t" ∧ env'.findExecutable w' "d/t" = some "d/t"
      ∧ Path.StopsAt "t/." "t" ∧ env.findExecutable w "t/." = some "/e/t" := by
  intro tree w w' env env'
  have differ : DifferIn "PATH" env w env' w' :=
    ⟨rfl, fun _ other => lookup_cons_of_ne other _ _, [], rfl,
      fun _ other => (lookup_cons_of_ne other _ _).symm⟩
  have slash : '/' ∈ "d/t".toList := by decide
  have slash' : '/' ∈ "t/.".toList := by decide
  have goesOn : ∀ first, ¬ Path.StopsAt "d/t" first := by
    intro first stops
    exact absurd stops.getLast?_steps (by decide)
  have stops : Path.StopsAt "t/." "t" := ⟨by decide, by decide, ".", rfl, by decide⟩
  obtain ⟨same, itself⟩ :=
    (findExecutable_of_slash slash differ).1 goesOn "/e" "" (by decide) (by decide)
  have found : env.findExecutable w "d/t" = some "d/t" :=
    (itself "d/t").mpr ⟨rfl, FileTree.isExecutable_iff.mp (by decide)⟩
  have looked := ((findExecutable_of_slash slash' differ).2.2 "t" stops).2 "/e" (by decide)
  exact ⟨slash, differ, goesOn, by decide, by decide, found, same ▸ found, stops,
    looked.trans (by decide)⟩

/-- The path of a program is not found where no list is set, and a name that asks for a directory is
found as a program from the list. -/
theorem findExecutable_heeds_list :
    let tree : FileTree := { entries := [(["d"], .directory), (["t", "d"], .file 0o755 [])] }
    let w : World := { machine.tree := tree, vars := [("PATH", "/d")] }
    let w' : World := { w with vars := [] }
    DifferIn "PATH" {} w {} w'
      ∧ '/' ∈ "/d/t".toList ∧ tree.LeadsToProgram w.cwd "/d/t"
      ∧ findExecutable {} w "/d/t" = some "/d/t" ∧ findExecutable {} w' "/d/t" = none
      ∧ '/' ∈ "t/".toList ∧ ¬ tree.LeadsToProgram w.cwd "t/"
      ∧ findExecutable {} w "t/" = some "/d/t" ∧ findExecutable {} w' "t/" = none := by
  intro tree w w'
  have differ : DifferIn "PATH" {} w {} w' :=
    ⟨rfl, fun _ _ => rfl, [], rfl, fun _ other => (lookup_cons_of_ne other _ _).symm⟩
  have leads : tree.LeadsToProgram w.cwd "/d/t" := FileTree.isExecutable_iff.mp (by decide)
  have astray : ¬ tree.LeadsToProgram w.cwd "t/" := by
    rw [← FileTree.isExecutable_iff]
    decide
  exact ⟨differ, by decide, leads, by decide, by decide, by decide, astray, by decide, by decide⟩

end Environment

end Shell
