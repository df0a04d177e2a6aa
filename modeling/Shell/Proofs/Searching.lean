import Shell.Search

/-!
# Search lists — the first entry that will do

A name is looked up in the entries of a search list one after another.  An entry will do if the name
below it leads, through all links, to a regular file that somebody may run
(`FileTree.LeadsToProgram`); whatever else is there is passed over (`FileTree.PassedOver`).

* `Search.inList_eq_some_iff`: what is found is below the first entry that will do.
* `Search.program?_first`: so it is for every name, and what stands behind that entry does not
  matter.  A path from the root stands for itself whatever the list.
-/

namespace Shell

/-! ### What is looked for -/

/-- A regular file that the owner, the group or the others may run; the tools are such files. -/
inductive Node.IsProgram : Node → Prop where
  | file {mode : Nat} (content : Bytes) {bit : Nat} (who : bit ∈ [0o100, 0o010, 0o001])
      (granted : mode &&& bit ≠ 0) : IsProgram (.file mode content)
  | tool (tool : Tool) : IsProgram (.tool tool)

theorem Node.isExecutable_iff (node : Node) : node.isExecutable ↔ node.IsProgram := by
  cases node with
  | file mode content =>
      have bits : mode &&& 0o111 = 0 ↔ ∀ bit ∈ [0o100, 0o010, 0o001], mode &&& bit = 0 := by
        rw [show 0o111 = 0o100 ||| (0o010 ||| 0o001) from rfl, Nat.and_or_distrib_left,
          Nat.and_or_distrib_left, Nat.or_eq_zero_iff, Nat.or_eq_zero_iff]
        simp
      simp only [isExecutable, decide_eq_true_eq, Ne, bits, Classical.not_forall]
      constructor
      · rintro ⟨bit, who, granted⟩
        exact .file content who granted
      · rintro ⟨_, who, granted⟩
        exact ⟨_, who, granted⟩
  | tool tool => exact ⟨fun _ => .tool tool, fun _ => rfl⟩
  | directory | removedDirectory | link | device => exact ⟨nofun, nofun⟩

namespace FileTree

/-- Whether a path leads, through all links, to a regular file that somebody may run. -/
def LeadsToProgram (tree : FileTree) (cwd : Location) (path : String) : Prop :=
  ∃ location node, tree.locate cwd path = .ok location ∧ tree.get? location = some node
    ∧ node.IsProgram

/-- What a search passes over. -/
inductive PassedOver (tree : FileTree) (cwd : Location) (path : String) : Prop where
  /-- Nothing of that name, or a link that leads nowhere. -/
  | nothing {cause : SystemError} (h : tree.locate cwd path = .error cause)
  | directory {location : Location} (led : tree.locate cwd path = .ok location)
      (h : (tree.get? location).map Node.isDirectory = some true)
  | device {location : Location} {device : Device} (led : tree.locate cwd path = .ok location)
      (h : tree.get? location = some (.device device))
  /-- A file that nobody may run. -/
  | file {location : Location} {mode : Nat} {content : Bytes}
      (led : tree.locate cwd path = .ok location)
      (h : tree.get? location = some (.file mode content))
      (forbidden : ∀ bit ∈ [0o100, 0o010, 0o001], mode &&& bit = 0)

variable {tree : FileTree} {cwd : Location} {path : String}

theorem isExecutable_iff : tree.isExecutable cwd path ↔ tree.LeadsToProgram cwd path := by
  unfold isExecutable LeadsToProgram
  cases tree.locate cwd path with
  | error cause => simp
  | ok location =>
      cases at' : tree.get? location with
      | none => simp [at']
      | some node => simp [at', node.isExecutable_iff]

theorem PassedOver.not_leadsToProgram (h : tree.PassedOver cwd path) :
    ¬ tree.LeadsToProgram cwd path := by
  rintro ⟨location, node, led, at', program⟩
  cases h with
  | nothing h => cases h.symm.trans led
  | directory led' h =>
      cases led'.symm.trans led
      rw [at'] at h
      cases program <;> cases h
  | device led' h =>
      cases led'.symm.trans led
      cases h.symm.trans at'
      cases program
  | file led' h forbidden =>
      cases led'.symm.trans led
      cases h.symm.trans at'
      cases program with
      | file _ who granted => exact granted (forbidden _ who)

end FileTree

/-! ### The empty entry -/

namespace Path

variable {name : String}

theorem fields_of_plain (plain : '/' ∉ name.toList) :
    Text.fields '/' name.toList = [name.toList] := by
  generalize name.toList = text at plain
  induction text with
  | nil => rfl
  | cons c rest ih =>
      obtain ⟨ne, plain⟩ := List.ne_and_not_mem_of_not_mem_cons plain
      simp [Text.fields, Ne.symm ne, ih plain]

theorem isAbsolute_of_plain (plain : '/' ∉ name.toList) : isAbsolute name = false := by
  refine decide_eq_false fun first => plain ?_
  exact List.mem_of_mem_head? first

theorem join_empty (plain : '/' ∉ name.toList) : join "" name = name := by
  simp [join, isAbsolute_of_plain plain]

theorem join_here (plain : '/' ∉ name.toList) : join "." name = "./" ++ name := by
  simp [join, isAbsolute_of_plain plain]

theorem steps_of_plain (plain : '/' ∉ name.toList) (named : name ≠ "") : steps name = [name] := by
  have named : name.toList ≠ [] := by simpa using named
  simp [steps, fields_of_plain plain, named]

theorem steps_here (plain : '/' ∉ name.toList) (named : name ≠ "") :
    steps ("./" ++ name) = [".", name] := by
  have named : name.toList ≠ [] := by simpa using named
  simp [steps, Text.fields, fields_of_plain plain, named]

/-- A plain name is a path of one part, which is written like the name. -/
theorem components_of_plain (plain : '/' ∉ name.toList) (named : name ≠ "") :
    ∃ part, components name = [part] ∧ part.text = name := by
  have named : name.toList ≠ [] := by simpa using named
  simp only [components, isAbsolute_of_plain plain, fields_of_plain plain, Bool.false_eq_true,
    if_false, List.head?_cons, Option.some.injEq, List.filterMap_cons, List.filterMap_nil]
  by_cases here : name.toList = ['.']
  · refine ⟨.here, by simp [here, Component.ofField?], ?_⟩
    rw [← String.ofList_toList (s := name), here]
    rfl
  by_cases parent : name.toList = ['.', '.']
  · refine ⟨.parent, by simp [parent, Component.ofField?], ?_⟩
    rw [← String.ofList_toList (s := name), parent]
    rfl
  · exact ⟨.name name, by simp [here, parent, named, Component.ofField?], rfl⟩

end Path

namespace FileTree

variable {tree : FileTree} {cwd : Location} {name : String}

/-- A name that is too long leads nowhere. -/
theorem walkSteps_of_long {here : Location}
    {follow : Location → List String → Except SystemError Found}
    (long : nameLimit < name.utf8ByteSize) (found : Found) :
    tree.walkSteps false follow here [name] ≠ .ok found := by
  have short : name ≠ "" ∧ name ≠ "." ∧ name ≠ ".." := by
    refine ⟨?_, ?_, ?_⟩ <;> rintro rfl <;> exact absurd long (by decide)
  unfold walkSteps
  simp only [short, long, decide_false, Bool.or_self, Bool.false_and, Bool.false_eq_true,
    if_false, if_true]
  split
  · nofun
  · split <;> nofun

theorem walk_here (links : Nat) (here : Location) :
    tree.walk false links here [".", name] = tree.walk false links here [name] := by
  have once : ∀ follow, tree.walkSteps false follow here [".", name]
      = tree.walkSteps false follow here [name] := by
    intro follow
    by_cases directory : (tree.get? here).map Node.isDirectory = some true
    · rw [walkSteps]
      simp [directory]
    · simp only [walkSteps, directory, ne_eq, not_false_eq_true, if_true]
  cases links with
  | zero => exact once _
  | succ links => exact once _

/-- A plain name leads to what the walk by that name ends at, whether it stands alone or behind a
dot. -/
theorem locate_eq_ok_iff_of_plain (plain : '/' ∉ name.toList) (named : name ≠ "") {path : String}
    (spelled : path = name ∨ path = "./" ++ name) {location : Location} :
    tree.locate cwd path = .ok location ↔ '\x00' ∉ name.toList
      ∧ tree.walk false linkLimit cwd [name] = .ok (.node location) := by
  have walked : tree.walk false linkLimit cwd (Path.steps path)
      = tree.walk false linkLimit cwd [name] := by
    rcases spelled with rfl | rfl
    · rw [Path.steps_of_plain plain named]
    · rw [Path.steps_here plain named, walk_here]
  have relative : Path.isAbsolute path = false := by
    rcases spelled with rfl | rfl
    · exact Path.isAbsolute_of_plain plain
    · simp [Path.isAbsolute]
  have nul : path.toList.contains '\x00' = name.toList.contains '\x00' := by
    rcases spelled with rfl | rfl
    · rfl
    · simp
  have nonempty : path ≠ "" := by
    rcases spelled with rfl | rfl
    · exact named
    · simp
  have size : path.utf8ByteSize ≤ name.utf8ByteSize + 2 := by
    rcases spelled with rfl | rfl
    · exact Nat.le_add_right _ _
    · rw [String.utf8ByteSize_append, Nat.add_comm]
      exact Nat.le_refl _
  rw [locate, Found.bind_location_eq_ok_iff, find, follow, nul, relative, if_neg nonempty,
    if_neg Bool.false_ne_true, walked]
  simp only [List.contains_iff_mem]
  by_cases barred : '\x00' ∈ name.toList
  · simp [barred]
  by_cases long : pathLimit ≤ path.utf8ByteSize
  -- a path that is too long for the system has a name that is too long for any directory
  · have limit : nameLimit < name.utf8ByteSize := by
      unfold pathLimit at long
      unfold nameLimit
      omega
    simp only [barred, long, if_true, if_false, reduceCtorEq, false_iff]
    exact fun led => walkSteps_of_long limit _ led.2
  · simp [barred, long]

/-- **The empty entry** of a search list stands for the working directory. -/
theorem leadsToProgram_empty_iff (plain : '/' ∉ name.toList) (named : name ≠ "") :
    tree.LeadsToProgram cwd (Path.join "" name) ↔ tree.LeadsToProgram cwd (Path.join "." name) := by
  rw [Path.join_empty plain, Path.join_here plain]
  simp only [LeadsToProgram, locate_eq_ok_iff_of_plain plain named (.inl rfl),
    locate_eq_ok_iff_of_plain plain named (.inr rfl)]

end FileTree

/-! ### Looking a name up -/

namespace Search

variable {tree : FileTree} {cwd : Location} {list name path : String}

theorem joined_entries (list : String) :
    Text.joined ':' ((entries list).map String.toList) = list.toList := by
  simp [entries, Text.joined_fields]

theorem not_mem_of_mem_entries {entry : String} (h : entry ∈ entries list) :
    ':' ∉ entry.toList := by
  obtain ⟨field, mem, rfl⟩ := List.mem_map.mp h
  simpa using Text.separator_not_mem_fields ':' list.toList field mem

/-- **What is found** is below the first entry that will do. -/
theorem inList_eq_some_iff : inList tree cwd list name = some path ↔
    ∃ before entry after, entries list = before ++ entry :: after ∧ path = Path.join entry name
      ∧ tree.LeadsToProgram cwd path
      ∧ ∀ passed ∈ before, ¬ tree.LeadsToProgram cwd (Path.join passed name) := by
  simp only [inList, List.find?_map, Option.map_eq_some_iff, List.find?_eq_some_iff_append,
    Function.comp_apply, Bool.not_eq_true', ← Bool.not_eq_true, FileTree.isExecutable_iff]
  constructor
  · rintro ⟨entry, ⟨leads, before, after, split, passed⟩, rfl⟩
    exact ⟨before, entry, after, split, rfl, leads, passed⟩
  · rintro ⟨before, entry, after, split, rfl, leads, passed⟩
    exact ⟨entry, ⟨leads, before, after, split, passed⟩, rfl⟩

theorem program?_of_plain (plain : '/' ∉ name.toList) (named : name ≠ "") :
    program? tree cwd list name = (inList tree cwd list name).map .searched := by
  obtain ⟨part, single, written⟩ := Path.components_of_plain plain named
  simp only [program?, Path.isAbsolute_of_plain plain, Bool.false_eq_true, if_false, single,
    written]

/-- The search goes on behind an entry that will not do. -/
theorem inList_skip {list' entry : String} {before after : List String}
    (split : entries list = before ++ entry :: after) (split' : entries list' = before ++ after)
    (passed : ¬ tree.LeadsToProgram cwd (Path.join entry name)) :
    inList tree cwd list name = inList tree cwd list' name := by
  rw [← FileTree.isExecutable_iff, Bool.not_eq_true] at passed
  simp [inList, split, split', passed]

/-- The search ends at an entry that will do. -/
theorem inList_stop {list' entry : String} {before after after' : List String}
    (split : entries list = before ++ entry :: after)
    (split' : entries list' = before ++ entry :: after')
    (leads : tree.LeadsToProgram cwd (Path.join entry name)) :
    inList tree cwd list name = inList tree cwd list' name := by
  rw [← FileTree.isExecutable_iff] at leads
  simp [inList, split, split', leads]

theorem exists_inList_iff : (∃ path, inList tree cwd list name = some path) ↔
    ∃ entry ∈ entries list, tree.LeadsToProgram cwd (Path.join entry name) := by
  rw [← Option.isSome_iff_exists, inList, List.find?_isSome]
  constructor
  · rintro ⟨path, mem, leads⟩
    obtain ⟨entry, listed, rfl⟩ := List.mem_map.mp mem
    exact ⟨entry, listed, FileTree.isExecutable_iff.mp leads⟩
  · rintro ⟨entry, mem, leads⟩
    exact ⟨_, List.mem_map_of_mem mem, FileTree.isExecutable_iff.mpr leads⟩

theorem asGiven_eq_some_iff {program : Program} : asGiven tree cwd path = some program ↔
    program = .given path ∧ tree.LeadsToProgram cwd path := by
  rw [asGiven, ← FileTree.isExecutable_iff]
  split <;> simp [*, eq_comm]

/-- **The first entry that will do.**  A plain name stands for what is below the first entry of the
search list under which it leads to a program; an empty entry is the working directory.  What is
passed over could as well not be in the list, and what stands behind the first entry that will do
could be anything.  A path from the root stands for itself or for nothing, whatever the list. -/
theorem program?_first (tree : FileTree) (cwd : Location) {list name : String} (named : name ≠ "")
    (plain : '/' ∉ name.toList) :
    ((∃ path, program? tree cwd list name = some (.searched path))
        ↔ ∃ entry ∈ entries list, tree.LeadsToProgram cwd (Path.join entry name))
      ∧ (∀ program, program? tree cwd list name = some program
        ↔ ∃ before entry after, entries list = before ++ entry :: after
          ∧ program = .searched (Path.join entry name)
          ∧ tree.LeadsToProgram cwd (Path.join entry name)
          ∧ ∀ passed ∈ before, ¬ tree.LeadsToProgram cwd (Path.join passed name))
      ∧ (tree.LeadsToProgram cwd (Path.join "" name)
        ↔ tree.LeadsToProgram cwd (Path.join "." name))
      ∧ (∀ list' before entry after, entries list = before ++ entry :: after →
        entries list' = before ++ after → tree.PassedOver cwd (Path.join entry name) →
        program? tree cwd list name = program? tree cwd list' name)
      ∧ (∀ list' before entry after after', entries list = before ++ entry :: after →
        entries list' = before ++ entry :: after' →
        tree.LeadsToProgram cwd (Path.join entry name) →
        program? tree cwd list name = program? tree cwd list' name)
      ∧ (Text.joined ':' ((entries list).map String.toList) = list.toList
        ∧ ∀ entry ∈ entries list, ':' ∉ entry.toList)
      ∧ ∀ path, Path.isAbsolute path → ∀ list' program,
        program? tree cwd list' path = some program
          ↔ program = .given path ∧ tree.LeadsToProgram cwd path := by
  simp only [program?_of_plain plain named]
  refine ⟨?_, fun program => ?_, FileTree.leadsToProgram_empty_iff plain named, ?_, ?_,
    ⟨joined_entries list, fun entry mem => not_mem_of_mem_entries mem⟩, ?_⟩
  · rw [← exists_inList_iff]
    simp
  · simp only [Option.map_eq_some_iff, inList_eq_some_iff]
    constructor
    · rintro ⟨_, ⟨before, entry, after, split, rfl, rest⟩, rfl⟩
      exact ⟨before, entry, after, split, rfl, rest⟩
    · rintro ⟨before, entry, after, split, rfl, rest⟩
      exact ⟨_, ⟨before, entry, after, split, rfl, rest⟩, rfl⟩
  · intro list' before entry after split split' passed
    rw [inList_skip split split' passed.not_leadsToProgram]
  · intro list' before entry after after' split split' leads
    rw [inList_stop split split' leads]
  · intro path absolute list' program
    rw [program?, if_pos absolute, asGiven_eq_some_iff]

/-- A directory, a file that nobody may run and a link that leads nowhere are passed over; then
comes the working directory, where a link leads to a program, and that is found whether or not there
is another one behind it. -/
theorem program?_first_behind_others :
    let tree : FileTree :=
      { entries := [(["a"], .directory), (["t", "a"], .directory), (["b"], .directory),
          (["t", "b"], .file 0o644 []), (["c"], .directory), (["t", "c"], .link "gone"),
          (["d"], .directory), (["t", "d"], .link "../e/u"), (["e"], .directory),
          (["u", "e"], .file 0o010 []), (["t", "e"], .file 0o755 [])] }
    "t" ≠ "" ∧ '/' ∉ "t".toList
      ∧ program? tree ["d"] "/a:/b:../c::/e" "t" = some (.searched "t")
      ∧ program? tree ["d"] "/a:/b:../c::/e" "t" = program? tree ["d"] "/a:/b::/e" "t"
      ∧ program? tree ["d"] "/a:/b:../c::/e" "t" = program? tree ["d"] "/a:/b:../c:" "t"
      ∧ program? tree ["d"] "/a" "/e/t" = some (.given "/e/t") := by
  intro tree
  have cut : entries "/a:/b:../c::/e" = ["/a", "/b", "../c"] ++ "" :: ["/e"] := by decide
  have named : "t" ≠ "" := by decide
  have plain : '/' ∉ "t".toList := by decide
  have leads : tree.LeadsToProgram ["d"] (Path.join "" "t") :=
    ⟨["u", "e"], _, rfl, rfl, @Node.IsProgram.file 0o010 [] 0o010 (by decide) (by decide)⟩
  have passed : ∀ entry ∈ ["/a", "/b", "../c"], tree.PassedOver ["d"] (Path.join entry "t") := by
    simp only [List.forall_mem_cons, List.not_mem_nil, false_implies, implies_true, and_true]
    exact ⟨.directory rfl rfl, .file rfl rfl (by decide), .nothing rfl⟩
  obtain ⟨-, found, -, skip, stop, -, absolute⟩ :=
    @program?_first tree ["d"] "/a:/b:../c::/e" "t" named plain
  refine ⟨named, plain, (found _).mpr ⟨_, _, _, cut, rfl, leads, fun entry mem =>
    (passed entry mem).not_leadsToProgram⟩, ?_, ?_, ?_⟩
  · exact skip "/a:/b::/e" ["/a", "/b"] "../c" ["", "/e"] cut (by decide) (passed _ (by decide))
  · exact stop "/a:/b:../c:" ["/a", "/b", "../c"] "" ["/e"] [] cut (by decide) leads
  · exact (absolute "/e/t" (by decide) "/a" _).mpr ⟨rfl, ["t", "e"], _, rfl, rfl,
      @Node.IsProgram.file 0o755 [] 0o100 (by decide) (by decide)⟩

end Search

end Shell
