import Shell.FileTree.Walk

/-!
# Paths — one behind another

A path behind another one, with a slash between them, adds its parts and its steps to those of the
first.  Two texts denote the same path if they have the same parts, and the same steps from the same
place (`Path.Alike`); then they are followed to the same end (`Path.Alike.canonical`).

* `Path.components_behind`: the parts of a path with a slash inside.
* `Path.behind_join`: joining a relative path to another one gives the path that is written with a
  slash between the two (`Path.Behind`).
-/

namespace Shell

namespace Path

variable {base rest path other : String}

theorem fields_behind (base rest : String) : Text.fields '/' (base ++ "/" ++ rest).toList
    = Text.fields '/' base.toList ++ Text.fields '/' rest.toList := by
  simp [Text.fields_append]

theorem head?_fields_append (text : List Char) (more : List (List Char)) :
    (Text.fields '/' text ++ more).head? = (Text.fields '/' text).head? := by
  obtain ⟨field, others, e⟩ := List.exists_cons_of_ne_nil (Text.fields_ne_nil '/' text)
  rw [e]
  rfl

/-- What follows does not decide where a path starts. -/
theorem isAbsolute_append (named : base ≠ "") (tail : String) :
    isAbsolute (base ++ tail) = isAbsolute base := by
  have named : base.toList ≠ [] := by simpa using named
  simp [isAbsolute, List.head?_append, List.head?_eq_some_head named]

/-! ### Parts -/

/-- The parts that a text adds to a path in front of it. -/
def added (rest : String) : List Component :=
  (Text.fields '/' rest.toList).filterMap Component.ofField?

/-- **The parts behind a slash** are added to those in front of it. -/
theorem components_behind (named : base ≠ "") (rest : String) :
    components (base ++ "/" ++ rest) = components base ++ added rest := by
  have start : isAbsolute (base ++ "/" ++ rest) = isAbsolute base := by
    rw [String.append_assoc, isAbsolute_append named]
  simp only [components, added, start, fields_behind, head?_fields_append, List.filterMap_append,
    List.append_assoc]

theorem Component.ofField?_eq_none_iff {field : List Char} :
    ofField? field = none ↔ field = [] ∨ field = ['.'] := by
  unfold ofField?
  split
  · simp_all
  · split <;> simp_all

theorem Component.ofField?_eq_parent_iff {field : List Char} :
    ofField? field = some parent ↔ field = ['.', '.'] := by
  unfold ofField?
  split
  · rename_i none
    have none : field = [] ∨ field = ['.'] := by simpa using none
    rcases none with rfl | rfl <;> simp
  · split <;> simp_all

theorem added_eq_nil_iff :
    added rest = [] ↔ ∀ field ∈ Text.fields '/' rest.toList, field = [] ∨ field = ['.'] := by
  simp only [added, List.filterMap_eq_nil_iff, Component.ofField?_eq_none_iff]

theorem parent_mem_added_iff :
    Component.parent ∈ added rest ↔ ['.', '.'] ∈ Text.fields '/' rest.toList := by
  simp only [added, List.mem_filterMap, Component.ofField?_eq_parent_iff, exists_eq_right]

/-! ### Texts that denote the same path -/

/-- Whether two texts denote the same path. -/
structure Alike (path other : String) : Prop where
  components : components path = components other
  absolute : isAbsolute path = isAbsolute other
  steps : steps path = steps other
  nul : '\x00' ∈ path.toList ↔ '\x00' ∈ other.toList
  empty : path = "" ↔ other = ""

theorem Alike.refl (path : String) : Alike path path :=
  ⟨rfl, rfl, rfl, Iff.rfl, Iff.rfl⟩

theorem steps_congr
    (names : (Text.fields '/' path.toList).filter (· ≠ [])
      = (Text.fields '/' other.toList).filter (· ≠ []))
    (last : (Text.fields '/' path.toList).getLast? = (Text.fields '/' other.toList).getLast?) :
    steps path = steps other := by
  simp only [steps, names, last]

/-- A slash behind a slash changes nothing. -/
theorem alike_doubled (trunk rest : String) :
    Alike (trunk ++ "/" ++ rest) (trunk ++ "/" ++ "/" ++ rest) := by
  -- All that the second slash adds is an empty field, which is neither a part nor the last one.
  have doubled : Text.fields '/' (trunk ++ "/" ++ "/" ++ rest).toList
      = Text.fields '/' trunk.toList ++ [] :: Text.fields '/' rest.toList := by
    have inner := fields_behind trunk ""
    rw [String.append_empty] at inner
    rw [fields_behind, inner]
    simp [Text.fields]
  have absolute :
      isAbsolute (trunk ++ "/" ++ rest) = isAbsolute (trunk ++ "/" ++ "/" ++ rest) := by
    have named : trunk ++ "/" ≠ "" := by simp
    have tail : trunk ++ "/" ++ "/" ++ rest = trunk ++ "/" ++ ("/" ++ rest) := String.append_assoc
    rw [tail, isAbsolute_append named, isAbsolute_append named]
  have nothing : Component.ofField? [] = none := rfl
  refine ⟨?_, absolute, steps_congr ?_ ?_, by simp, by simp⟩
  · simp only [components, ← absolute, doubled, fields_behind, head?_fields_append,
      List.filterMap_append, List.filterMap_cons, nothing]
  · rw [doubled, fields_behind]
    simp
  · obtain ⟨field, more, e⟩ := List.exists_cons_of_ne_nil (Text.fields_ne_nil '/' rest.toList)
    rw [doubled, fields_behind, e]
    simp

theorem join_of_relative (relative : isAbsolute rest = false) (named : base ≠ "") :
    join base rest = base ++ "/" ++ rest
      ∨ ∃ trunk, base = trunk ++ "/" ∧ join base rest = trunk ++ "/" ++ rest := by
  have named : base.toList ≠ [] := by simpa using named
  unfold join
  rw [relative, if_neg Bool.false_ne_true]
  split
  case h_1 none => exact absurd (List.getLast?_eq_none_iff.mp none) named
  case h_2 slash =>
    obtain ⟨trunk, e⟩ := List.getLast?_eq_some_iff.mp slash
    have split : base = String.ofList trunk ++ "/" := String.toList_inj.mp (by simp [e])
    exact .inr ⟨String.ofList trunk, split, by rw [← split]⟩
  case h_3 => exact .inl rfl

theorem alike_join (relative : isAbsolute rest = false) (named : base ≠ "") :
    Alike (join base rest) (base ++ "/" ++ rest) := by
  rcases join_of_relative relative named with joined | ⟨trunk, rfl, joined⟩
  · rw [joined]
    exact .refl _
  · rw [joined]
    exact alike_doubled trunk rest

/-- **The same path** leads to the same place. -/
theorem Alike.canonical (alike : Alike path other) (tree : FileTree) (cwd : Location) :
    tree.canonical cwd path = tree.canonical cwd other := by
  have nul : path.toList.contains '\x00' = other.toList.contains '\x00' := by
    rw [Bool.eq_iff_iff, List.contains_iff_mem, List.contains_iff_mem]
    exact alike.nul
  simp only [FileTree.canonical, FileTree.follow, nul, alike.absolute, alike.steps, alike.empty]

/-! ### One path behind another -/

/-- Whether a path is the one that is written with a base, a slash and a rest: it may be written in
another way only where the base ends in a slash, it leads to the same place in every tree, and its
parts are those of the base and then those of the rest, which goes up only by double dots of its
own. -/
structure Behind (base rest path : String) : Prop where
  alike : Alike path (base ++ "/" ++ rest)
  written : base.toList.getLast? ≠ some '/' → path = base ++ "/" ++ rest
  leads : ∀ (tree : FileTree) (cwd : Location),
    tree.canonical cwd path = tree.canonical cwd (base ++ "/" ++ rest)
  parts : components path = components base ++ added rest
  climbs : .parent ∈ added rest ↔ ['.', '.'] ∈ Text.fields '/' rest.toList

/-- A path behind another one starts where this one starts. -/
theorem Behind.isAbsolute_eq (behind : Behind base rest path) (named : base ≠ "") :
    isAbsolute path = isAbsolute base := by
  rw [behind.alike.absolute, String.append_assoc, isAbsolute_append named]

/-- **Joining** a relative path to another one puts it behind this one. -/
theorem behind_join (relative : isAbsolute rest = false) (named : base ≠ "") :
    Behind base rest (join base rest) := by
  have alike := alike_join relative named
  refine ⟨alike, fun unslashed => ?_, alike.canonical, ?_, parent_mem_added_iff⟩
  · rcases join_of_relative relative named with joined | ⟨trunk, rfl, -⟩
    · exact joined
    · simp at unslashed
  · rw [alike.components, components_behind named]

end Path

end Shell
