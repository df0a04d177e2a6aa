import Shell.Proofs.Delivering
import Shell.Proofs.Repeating

/-!
# Sessions — `echo` into files

A line of `echo` whose output goes to a file (`EchoLine`) leaves in this file its words, with a
space between neighbours and a newline at the end, behind what the file held if the redirect
appends.  Nothing else is left of it: no other file changes, no stream of the session, and the
stream that was opened for the file keeps nothing back (`Session.Echoed`).

* `Session.evaluate_echo_on`: one such line, with the whole state after it.
* `echo_lines_update_files`: so any number of such lines change the files as `EchoLine.update` does,
  one after another.
-/

namespace Shell

/-! ### Lines -/

/-- A line that writes words to a file with `echo`. -/
structure EchoLine where
  words : List Word
  kind : RedirectKind
  /-- The operator that stands for the redirect. -/
  spelling : String
  target : Word
  outputs : kind.redirects .output
  spelled : spelling ∈ kind.spellings
  unquoted : ∀ word ∈ target :: words, '\'' ∉ word.text.toList
  plain : ∀ first, (words.map Word.text).head? = some first →
    Usage.isDashed first = false ∧ first ≠ "help"

namespace EchoLine

/-- A word between single quotes. -/
def enclosed (word : Word) : String :=
  "'" ++ word.text ++ "'"

variable (line : EchoLine)

/-- The line as it is written, a space between neighbours. -/
def text : String :=
  "echo" ++ String.join
    ((line.words.map enclosed ++ [line.spelling, enclosed line.target]).map (" " ++ ·))

/-- The command that the line is. -/
def command : Command :=
  { name := ⟨"echo", by decide⟩
    arguments := line.words
    redirects := [{ kind := line.kind, target := line.target }] }

/-- What `echo` writes. -/
def bytes : Bytes :=
  Bytes.ofText (" ".intercalate (line.words.map Word.text) ++ "\n")

/-- The world once somebody who follows the session was told of the line. -/
def told (w : World) : World :=
  w.toldBuiltin line.text line.command

/-- The tree with what `echo` writes in the file at a location. -/
def update (location : Location) (tree : FileTree) : FileTree :=
  tree.deliver line.kind location line.bytes

/-- The parts of the command. -/
def items : List Item :=
  .argument ⟨"echo", by decide⟩ :: line.words.map .argument
    ++ [.redirect { kind := line.kind, target := line.target } line.spelling]

end EchoLine

/-- Tokens that are written down one after another, a space in front of each. -/
theorem writing_of_pieces {pieces : List (Token × List Char)}
    (h : ∀ piece ∈ pieces, piece.1.WrittenAs piece.2) (before : Option Token) :
    Writing before (pieces.map Prod.fst) (pieces.flatMap fun piece => ' ' :: piece.2) := by
  induction pieces generalizing before with
  | nil => exact Writing.nil before 0
  | cons piece rest ih =>
      exact Writing.cons 1 (by simp) (h piece (List.mem_cons_self ..))
        (ih (fun other mem => h other (List.mem_cons_of_mem _ mem)) (some piece.1))

namespace EchoLine

variable (line : EchoLine)

@[simp]
theorem tree_told (w : World) : (line.told w).machine.tree = w.machine.tree :=
  w.tree_toldBuiltin ..

@[simp]
theorem cwd_told (w : World) : (line.told w).cwd = w.cwd :=
  w.cwd_toldBuiltin ..

@[simp]
theorem writers_told (w : World) : (line.told w).writers = w.writers :=
  w.writers_toldBuiltin ..

theorem writtenAs_enclosed {word : Word} (h : '\'' ∉ word.text.toList) :
    Token.WrittenAs (.word word.text) (enclosed word).toList := by
  have made := @Token.WrittenAs.word [.singleQuoted word.text.toList] (by simpa [Segment.fits])
    (by simpa [Segment.text] using word.nonempty)
  simpa [Segment.text, Segment.written, enclosed] using made

theorem tight_text : Tight line.text.toList := by
  have ends : line.text.toList = "echo".toList
      ++ (line.words.flatMap (fun word => ' ' :: (enclosed word).toList)
        ++ ' ' :: (line.spelling.toList ++ [' '])) ++ (enclosed line.target).toList := by
    simp [text, List.flatMap_map]
  have quotes : (enclosed line.target).toList = '\'' :: line.target.text.toList ++ ['\''] := by
    simp [enclosed]
  rw [ends]
  refine Tight.append ⟨⟨'e', rfl, rfl⟩, 'o', rfl, rfl⟩ ?_ _
  rw [quotes]
  exact ⟨⟨'\'', rfl, rfl⟩, '\'', List.getLast?_concat, rfl⟩

theorem isSpelled_of_mem_items {item : Item} (mem : item ∈ line.items) : item.IsSpelled := by
  simp only [items, List.cons_append, List.mem_cons, List.mem_append, List.mem_map,
    List.not_mem_nil, or_false] at mem
  rcases mem with rfl | ⟨word, -, rfl⟩ | rfl
  · trivial
  · trivial
  · exact line.spelled

/-- The tokens behind the name, each as it is written. -/
def pieces : List (Token × List Char) :=
  line.words.map (fun word => (.word word.text, (enclosed word).toList))
    ++ [(.operator line.spelling, line.spelling.toList),
      (.word line.target.text, (enclosed line.target).toList)]

theorem writtenAs_of_mem_pieces {piece : Token × List Char} (mem : piece ∈ line.pieces) :
    piece.1.WrittenAs piece.2 := by
  simp only [pieces, List.mem_append, List.mem_map, List.mem_cons, List.not_mem_nil,
    or_false] at mem
  rcases mem with ⟨word, mem, rfl⟩ | rfl | rfl
  · exact writtenAs_enclosed (line.unquoted word (List.mem_cons_of_mem _ mem))
  · refine .operator (RedirectKind.isSpelling_iff.mp ?_)
    rw [RedirectKind.isSpelling, RedirectKind.ofSpelling?_of_mem line.spelled]
    rfl
  · exact writtenAs_enclosed (line.unquoted line.target (List.mem_cons_self ..))

theorem writing_text :
    Writing none (.word "echo" :: line.pieces.map Prod.fst) line.text.toList := by
  have name : Token.WrittenAs (.word "echo") "echo".toList :=
    @Token.WrittenAs.word [.bare "echo".toList] (by decide) (by decide)
  have chars : line.text.toList = List.replicate 0 ' ' ++ "echo".toList
      ++ line.pieces.flatMap fun piece => ' ' :: piece.2 := by
    simp [text, pieces, List.flatMap_map]
  rw [chars]
  exact .cons 0 (by simp) name (writing_of_pieces (fun _ => line.writtenAs_of_mem_pieces) _)

/-- **Reading the line** gives its command. -/
theorem ofLine_text : Command.ofLine line.text = .ok line.command := by
  have tokens : line.items.flatMap Item.tokens = .word "echo" :: line.pieces.map Prod.fst := by
    simp [items, pieces, Item.tokens, List.flatMap_map, Function.comp_def, ← List.map_eq_flatMap]
  refine Command.ofLine_of_writing line.command (fun _ => line.isSpelled_of_mem_items)
    (tokens ▸ line.writing_text) line.tight_text ?_ ?_
  · simp [items, Item.word?, command, Command.words, List.filterMap_map, Function.comp_def]
  · simp [items, Item.redirect?, command, List.filterMap_cons, List.filterMap_map,
      Function.comp_def]

end EchoLine

/-! ### One line -/

namespace Session

variable {session : Session} {s : SessionState} {location : Location}

/-- **A line of `echo`** into a file leaves its words there, and a stream that keeps nothing
back. -/
theorem evaluate_echo_on (line : EchoLine) (registered : session.registry.contains "echo")
    (error : s.world.Idle session.io.error)
    (target : s.world.machine.tree.Writable s.world.cwd line.target.text location) :
    ∃ file : OpenFile, file.location = location ∧ (session.evaluate line.text).on s
      = (.ok { exitCode := 0, terminate := false },
        { s with world := (line.told s.world).deliver line.kind file line.bytes }) := by
  have writable : (line.told s.world).machine.tree.Writable (line.told s.world).cwd
      line.target.text location := by simpa using target
  have idle : (line.told s.world).Idle session.io.error := error.congr (by simp)
  have applied := Redirection.apply_on_of_writable writable line.outputs session.io
  obtain ⟨w, offset, printed, concluded⟩ := Resolved.conclude_of_print target.ne_nil line.outputs
    idle "echo" [" ".intercalate (line.words.map Word.text), "\n"]
  have written : Bytes.ofText (String.join [" ".intercalate (line.words.map Word.text), "\n"])
      = line.bytes := by simp [EchoLine.bytes]
  rw [written] at concluded
  have found : session.registry.find? line.command.name.text = some .echo :=
    (Registry.contains_iff .echo).mp registered
  have ran := @Builtin.run_echo_of_printed session.registry _ _
    (Builtin.read_echoUsage_of_plain line.plain) { s with world := _ } w printed
  have evaluated := evaluate_builtin_ok line.ofLine_text found applied ran
  exact ⟨{ location, mode := line.kind.openMode, offset }, rfl, concluded ▸ evaluated⟩

/-- A line of `echo` gave zero and wrote to the file at a location, and everything else is as it
was. -/
structure Echoed (session : Session) (line : EchoLine) (location : Location) (s : SessionState)
    (after : Except Failure Outcome × SessionState) : Prop where
  outcome : after.1 = .ok { exitCode := 0, terminate := false }
  /-- The file keeps its mode, and what it held if the redirect appends. -/
  target : after.2.world.machine.tree.get? location
    = some (.file (s.world.machine.tree.held location).1
      ((if line.kind.appends then (s.world.machine.tree.held location).2 else []) ++ line.bytes))
  others : ∀ other ≠ location,
    after.2.world.machine.tree.get? other = s.world.machine.tree.get? other
  streams : ∀ id < s.world.writers.length, after.2.world.writers[id]? = s.world.writers[id]?
  /-- Only somebody who follows the session sees anything. -/
  console : after.2.world.machine.console = (line.told s.world).machine.console
  environment : after.2.environment = s.environment
  /-- Apart from the files, the world has been told of the line, and has one stream more, with
  nothing in it. -/
  rest : ∃ file : OpenFile,
    after.2 = { s with world := (line.told s.world).deliver line.kind file line.bytes }

theorem echoed_evaluate {line : EchoLine} (registered : session.registry.contains "echo")
    (error : s.world.Idle session.io.error)
    (target : s.world.machine.tree.Writable s.world.cwd line.target.text location) :
    session.Echoed line location s ((session.evaluate line.text).on s) := by
  obtain ⟨file, rfl, evaluated⟩ := evaluate_echo_on line registered error target
  rw [evaluated]
  refine ⟨rfl, ?_, fun other ne => ?_, fun id lt => ?_, World.console_deliver .., rfl, file, rfl⟩
  · rw [World.tree_deliver, EchoLine.tree_told]
    exact FileTree.get?_deliver_self target.ne_nil ..
  · rw [World.tree_deliver, EchoLine.tree_told]
    exact FileTree.get?_deliver_of_ne ne ..
  · have before : id < (line.told s.world).writers.length := by rwa [EchoLine.writers_told]
    rw [World.getElem?_deliver_of_lt before, EchoLine.writers_told]

/-! ### Many lines -/

/-- The state after lines were evaluated one after another. -/
def through (session : Session) (lines : List String) (s : SessionState) : SessionState :=
  lines.foldl (fun s line => ((session.evaluate line).on s).2) s

/-- After a line of `echo` the tree is the updated one, and the next line finds what it needs. -/
theorem ready_evaluate {line : EchoLine} (registered : session.registry.contains "echo")
    (error : s.world.Idle session.io.error)
    (target : s.world.machine.tree.Writable s.world.cwd line.target.text location) :
    let t := ((session.evaluate line.text).on s).2
    t.world.machine.tree = line.update location s.world.machine.tree
      ∧ t.world.Idle session.io.error
      ∧ ∀ path other, s.world.machine.tree.Writable s.world.cwd path other →
        t.world.machine.tree.Writable t.world.cwd path other := by
  obtain ⟨file, rfl, evaluated⟩ := evaluate_echo_on line registered error target
  have idle : (line.told s.world).Idle session.io.error := error.congr (by simp)
  have still : ((line.told s.world).deliver line.kind file line.bytes).Idle session.io.error :=
    .deliver (fun _ => idle) line.outputs file line.bytes
  rw [evaluated]
  refine ⟨?_, still, fun path other writable => ?_⟩
  · rw [World.tree_deliver, EchoLine.tree_told]
    rfl
  · rw [World.tree_deliver, World.cwd_deliver, EchoLine.tree_told, EchoLine.cwd_told]
    exact writable.deliver target ..

/-- **Lines of `echo`** update the tree one after another, and the next one finds what it needs. -/
theorem ready_through {lines : List EchoLine} {place : String → Location}
    (registered : session.registry.contains "echo") (error : s.world.Idle session.io.error)
    (targets : ∀ line ∈ lines, s.world.machine.tree.Writable s.world.cwd line.target.text
      (place line.target.text)) :
    let t := session.through (lines.map EchoLine.text) s
    t.world.machine.tree
        = lines.foldl (fun tree line => line.update (place line.target.text) tree)
          s.world.machine.tree
      ∧ t.world.Idle session.io.error
      ∧ ∀ path other, s.world.machine.tree.Writable s.world.cwd path other →
        t.world.machine.tree.Writable t.world.cwd path other := by
  induction lines generalizing s with
  | nil => exact ⟨rfl, error, fun _ _ writable => writable⟩
  | cons line rest ih =>
      obtain ⟨tree, error, kept⟩ :=
        ready_evaluate registered error (targets line (List.mem_cons_self ..))
      obtain ⟨trees, error, all⟩ := ih error fun other mem =>
        kept _ _ (targets other (List.mem_cons_of_mem _ mem))
      rw [tree] at trees
      exact ⟨trees, error, fun path other writable => all path other (kept path other writable)⟩

end Session

/-- **Lines of `echo` into files** change the files as they say.  Each target is a regular file that
may be written, or a new name in a directory that takes names, where the mask leaves it to the owner
to write what he made; and nothing waits in front of the error stream.  Then every line gives zero;
after it its file holds the words, and in front of them what it held before if the redirect appends;
no other file changes, no stream of the session, and nothing of the environment.  So the files after
all lines are the ones that they describe, one after another. -/
theorem echo_lines_update_files {session : Session} {s : SessionState} {lines : List EchoLine}
    {place : String → Location} (registered : session.registry.contains "echo")
    (error : s.world.Idle session.io.error)
    (targets : ∀ line ∈ lines, s.world.machine.tree.Writable s.world.cwd line.target.text
      (place line.target.text)) :
    (∀ before line after, lines = before ++ line :: after →
        let t := session.through (before.map EchoLine.text) s
        session.Echoed line (place line.target.text) t ((session.evaluate line.text).on t))
      ∧ (session.through (lines.map EchoLine.text) s).world.machine.tree
        = lines.foldl (fun tree line => line.update (place line.target.text) tree)
          s.world.machine.tree := by
  refine ⟨?_, (Session.ready_through registered error targets).1⟩
  rintro before line after rfl
  obtain ⟨-, idle, kept⟩ := Session.ready_through registered error fun other mem =>
    targets other (List.mem_append_left _ mem)
  exact Session.echoed_evaluate registered idle
    (kept _ _ (targets line (List.mem_append_right _ (List.mem_cons_self ..))))

/-- Two files take turns, one of them by two paths; the other one is made by the first line for
it. -/
theorem echo_lines_update_files_mixed :
    let start := Binding.overMemory []
      { machine.tree.entries :=
          [(["d"], .directory), (["f", "d"], .file 0o600 (Bytes.ofText "old\n"))]
        cwd := ["d"] }
    let session : Session := { io := start.1, launcher := .scripted [] }
    let s : SessionState := { world := start.2 }
    let place : String → Location := fun path => if path = "n" then ["n", "d"] else ["f", "d"]
    let first : EchoLine := ⟨[⟨"a  b", by decide⟩], .outputAppend, "1>>", ⟨"f", by decide⟩,
      by decide, by decide, by decide, by decide⟩
    let second : EchoLine := ⟨[], .output, ">", ⟨"n", by decide⟩,
      by decide, by decide, by decide, by decide⟩
    let third : EchoLine := ⟨[⟨"x", by decide⟩, ⟨"-n", by decide⟩], .allAppend, "&>>",
      ⟨"../d/f", by decide⟩, by decide, by decide, by decide, by decide⟩
    let fourth : EchoLine := ⟨[⟨"y", by decide⟩], .allOutput, "&>", ⟨"n", by decide⟩,
      by decide, by decide, by decide, by decide⟩
    (∀ line ∈ [first, second, third, fourth], s.world.machine.tree.Writable s.world.cwd
        line.target.text (place line.target.text))
      ∧ [first, second, third, fourth].map EchoLine.text
        = ["echo 'a  b' 1>> 'f'", "echo > 'n'", "echo 'x' '-n' &>> '../d/f'", "echo 'y' &> 'n'"]
      ∧ (session.through ["echo 'a  b' 1>> 'f'", "echo > 'n'", "echo 'x' '-n' &>> '../d/f'",
          "echo 'y' &> 'n'"] s).world.machine.tree.entries
        = [(["d"], .directory), (["f", "d"], .file 0o600 (Bytes.ofText "old\na  b\nx -n\n")),
          (["n", "d"], .file 0o644 (Bytes.ofText "y\n"))] := by
  intro start session s place first second third fourth
  have texts : [first, second, third, fourth].map EchoLine.text
      = ["echo 'a  b' 1>> 'f'", "echo > 'n'", "echo 'x' '-n' &>> '../d/f'", "echo 'y' &> 'n'"] := by
    decide +kernel
  have old : ∀ path, s.world.machine.tree.find true s.world.cwd path = .ok (.node ["f", "d"]) →
      s.world.machine.tree.Writable s.world.cwd path ["f", "d"] :=
    fun path found => .file found rfl (by decide +kernel)
  have targets : ∀ line ∈ [first, second, third, fourth], s.world.machine.tree.Writable
      s.world.cwd line.target.text (place line.target.text) := by
    have new : s.world.machine.tree.Writable s.world.cwd "n" ["n", "d"] :=
      .new (Except.eq_ok_of_toOption (by decide +kernel)) (by decide +kernel) (by decide)
    intro line mem
    simp only [List.mem_cons, List.not_mem_nil, or_false] at mem
    rcases mem with rfl | rfl | rfl | rfl
    · exact old _ (Except.eq_ok_of_toOption (by decide +kernel))
    · exact new
    · exact old _ (Except.eq_ok_of_toOption (by decide +kernel))
    · exact new
  obtain ⟨-, files⟩ :=
    @echo_lines_update_files session s _ place (by decide) (World.InMemory.idle ⟨[], rfl⟩) targets
  rw [texts] at files
  refine ⟨targets, texts, ?_⟩
  rw [files]
  decide +kernel

/-- What the lines need.  Where `echo` is not registered, the name stands for nothing; bytes that
wait in front of the error stream around the line go to their file with it; and under a mask that
takes writing from the owner too, a second line does not open again what the first one made. -/
theorem echo_lines_update_files_unmet :
    let start := Binding.overMemory []
      { machine.tree.entries := [(["d"], .directory)], cwd := ["d"] }
    let bare : Session :=
      { registry := { builtins := [] }, io := start.1, launcher := .scripted [] }
    let late : World :=
      { machine.tree.entries := [(["d"], .directory), (["g", "d"], .file 0o644 [])]
        cwd := ["d"]
        writers := [.memory [], .buffered { location := ["g", "d"], mode := .append } [65]]
        readers := [{}] }
    let session : Session := { io := start.1, launcher := .scripted [] }
    let masked : World := { start.2 with machine.tree.mask := 0o222 }
    ((bare.evaluate "echo 'a' > 'f'").on { world := start.2 }).1 = .ok { exitCode := exitNotFound }
      ∧ ((session.evaluate "echo 'a' > 'f'").on { world := late }).2.world.machine.tree.get?
        ["g", "d"] = some (.file 0o644 [65])
      ∧ ((session.evaluate "echo 'b' > 'f'").on
        ((session.evaluate "echo 'a' > 'f'").on { world := masked }).2).1
          = .ok { exitCode := exitRefused } := by
  intro start bare late session masked
  refine ⟨Except.eq_ok_of_toOption (by decide +kernel), by decide +kernel,
    Except.eq_ok_of_toOption (by decide +kernel)⟩

end Shell
