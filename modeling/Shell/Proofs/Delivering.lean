import Shell.Proofs.Dispatching
import Shell.Proofs.Nesting
import Shell.Proofs.Placing

/-!
# Redirects — output that goes to a file

A command with one redirect of its output to a file that can be written runs over a new stream to
this file (`Redirection.apply_on_of_writable`).  What it prints is in the file once the command is
concluded, behind what the file held if the redirect appends, and nothing is kept back
(`Resolved.conclude_of_print`).  `FileTree.deliver` and `World.deliver` are this change.
-/

namespace Shell

/-- The tree with bytes in the file at a location, behind what the file held if the redirect
appends. -/
def FileTree.deliver (tree : FileTree) (kind : RedirectKind) (location : Location)
    (bytes : Bytes) : FileTree :=
  tree.put location (.file (tree.held location).1
    ((if kind.appends then (tree.held location).2 else []) ++ bytes))

/-- The world with a stream more, that keeps nothing back, and with bytes in the file of this
stream. -/
def World.deliver (w : World) (kind : RedirectKind) (file : OpenFile) (bytes : Bytes) : World :=
  (w.gain kind file).withTree (w.machine.tree.deliver kind file.location bytes)

namespace FileTree

variable {tree : FileTree} {location : Location}

theorem get?_deliver_self (inside : location ≠ []) (tree : FileTree) (kind : RedirectKind)
    (bytes : Bytes) : (tree.deliver kind location bytes).get? location
      = some (.file (tree.held location).1
        ((if kind.appends then (tree.held location).2 else []) ++ bytes)) :=
  get?_put_self tree inside _

theorem get?_deliver_of_ne {other : Location} (ne : other ≠ location) (tree : FileTree)
    (kind : RedirectKind) (bytes : Bytes) :
    (tree.deliver kind location bytes).get? other = tree.get? other :=
  get?_put_of_ne tree ne _

/-- Bytes that are added later are delivered with those before them. -/
theorem extend_deliver (inside : location ≠ []) (tree : FileTree) (kind : RedirectKind)
    (bytes more : Bytes) : (tree.deliver kind location bytes).extend location more
      = tree.deliver kind location (bytes ++ more) := by
  rw [extend_of_file (get?_deliver_self inside tree kind bytes), List.append_assoc]
  exact congrArg (FileTree.mk · tree.mask) (update_update ..)

/-- What is delivered to one file leaves every path as it is that can be written. -/
theorem Writable.deliver {cwd cwd' made : Location} {path path' : String}
    (h : tree.Writable cwd path location) (h' : tree.Writable cwd' path' made)
    (kind : RedirectKind) (bytes : Bytes) :
    (tree.deliver kind made bytes).Writable cwd path location :=
  h.put h' _

end FileTree

namespace RedirectKind

variable {kind : RedirectKind}

theorem openMode_ne_read (outputs : kind.redirects .output) : kind.openMode ≠ .read := by
  rw [Ne, openMode_eq_read_iff, Bool.not_eq_false]
  exact kind.writes_iff.mpr ⟨.output, outputs⟩

theorem openMode_eq_append_iff (kind : RedirectKind) : kind.openMode = .append ↔ kind.appends := by
  cases kind <;> decide

end RedirectKind

section

variable {w : World} {kind : RedirectKind} {location : Location}

/-- The streams of a command with this one redirect. -/
def Binding.redirected (io : Binding) (kind : RedirectKind) (w : World) : Binding :=
  { io with owned := {} }.connect kind w

theorem Binding.output_redirected (outputs : kind.redirects .output) (io : Binding) (w : World) :
    (io.redirected kind w).output = w.writers.length :=
  (stream_connect _ kind w .output).trans (if_pos outputs)

/-- **One redirect of the output** to a file that can be written opens the file. -/
theorem Redirection.apply_on_of_writable {target : Word}
    (writable : w.machine.tree.Writable w.cwd target.text location)
    (outputs : kind.redirects .output) (io : Binding) :
    (apply [{ kind, target }] io).on w = (.ok (.derived (io.redirected kind w)),
      w.deliver kind { location, mode := kind.openMode } []) := by
  have opens := writable.openFile_eq (RedirectKind.openMode_ne_read outputs)
  simp only [kind.openMode_eq_append_iff] at opens
  rw [apply_on]
  simp only [Opening.of, opens, World.deliver, FileTree.deliver, List.append_nil]
  rfl

theorem World.writers_deliver (outputs : kind.redirects .output) (w : World) (file : OpenFile)
    (bytes : Bytes) :
    (w.deliver kind file bytes).writers = w.writers ++ [.buffered file []] := by
  have writes : kind.writes := kind.writes_iff.mpr ⟨.output, outputs⟩
  exact (w.writers_gain kind file).trans (by rw [if_pos writes])

/-- The stream at another place in its file, with more bytes in the file. -/
theorem World.deliver_more (outputs : kind.redirects .output) (inside : location ≠ []) (w : World)
    (mode : OpenMode) (offset : Nat) (bytes : Bytes) :
    let start := w.deliver kind { location, mode } []
    ({ start with
      writers := start.writers.set w.writers.length (.buffered { location, mode, offset } [])
      machine.tree := start.machine.tree.extend location bytes } : World)
      = w.deliver kind { location, mode, offset } bytes := by
  intro start
  have tree : start.machine.tree.extend location bytes
      = w.machine.tree.deliver kind location bytes :=
    FileTree.extend_deliver inside ..
  rw [tree]
  cases kind with
  | input | error | errorAppend => cases outputs
  | output | outputAppend | allOutput | allAppend => simp [start, deliver, gain, withTree]

@[simp]
theorem World.tree_deliver (w : World) (kind : RedirectKind) (file : OpenFile) (bytes : Bytes) :
    (w.deliver kind file bytes).machine.tree
      = w.machine.tree.deliver kind file.location bytes := rfl

@[simp]
theorem World.cwd_deliver (w : World) (kind : RedirectKind) (file : OpenFile) (bytes : Bytes) :
    (w.deliver kind file bytes).cwd = w.cwd :=
  w.cwd_gain kind file

@[simp]
theorem World.console_deliver (w : World) (kind : RedirectKind) (file : OpenFile)
    (bytes : Bytes) : (w.deliver kind file bytes).machine.console = w.machine.console := by
  have same := congrArg Machine.console (w.machine_gain kind file)
  exact same

theorem World.getElem?_deliver_of_lt {id : WriterId} (lt : id < w.writers.length)
    (kind : RedirectKind) (file : OpenFile) (bytes : Bytes) :
    (w.deliver kind file bytes).writers[id]? = w.writers[id]? :=
  World.getElem?_gain_of_lt lt kind file

/-- The new stream keeps nothing back, and the old ones keep back what they did. -/
theorem World.Idle.deliver {id : WriterId} (idle : id < w.writers.length → w.Idle id)
    (outputs : kind.redirects .output) (file : OpenFile) (bytes : Bytes) :
    (w.deliver kind file bytes).Idle id := by
  intro writer e
  by_cases lt : id < w.writers.length
  · rw [getElem?_deliver_of_lt lt] at e
    exact idle lt writer e
  · rw [writers_deliver outputs, List.getElem?_append_right (Nat.le_of_not_lt lt)] at e
    rw [List.mem_singleton.mp (List.mem_of_getElem? e)]
    rfl

/-- A file that was just opened for a redirect stands at its end. -/
theorem OpenFile.atEnd_deliver (outputs : kind.redirects .output) (inside : location ≠ [])
    (tree : FileTree) :
    OpenFile.AtEnd { location, mode := kind.openMode } (tree.deliver kind location []) := by
  refine ⟨RedirectKind.openMode_ne_read outputs, fun truncates bits content e => ?_⟩
  have fresh : kind.appends = false := by
    have mode : kind.openMode = .truncate := truncates
    rw [← Bool.not_eq_true, ← kind.openMode_eq_append_iff, mode]
    simp
  rw [FileTree.get?_deliver_self inside, fresh] at e
  cases e
  rfl

/-- **What is printed** to the new stream is in the file once the command is concluded. -/
theorem Resolved.conclude_of_print (inside : location ≠ []) (outputs : kind.redirects .output)
    {io : Binding} (error : w.Idle io.error) (name : String) (pieces : List String) :
    ∃ w' offset, (World.print (io.redirected kind w).output pieces).on
        (w.deliver kind { location, mode := kind.openMode } []) = (.ok (), w')
      ∧ (derived (io.redirected kind w)).conclude name w'
        = w.deliver kind { location, mode := kind.openMode, offset }
          (Bytes.ofText (String.join pieces)) := by
  have output := io.output_redirected outputs w
  have writer : (w.deliver kind { location, mode := kind.openMode } []).writers[w.writers.length]?
      = some (.buffered { location, mode := kind.openMode } []) := by
    rw [World.writers_deliver outputs, List.getElem?_append_right (Nat.le_refl _), Nat.sub_self]
    rfl
  have regular := FileTree.get?_deliver_self inside w.machine.tree kind []
  obtain ⟨w', printed, passed, ready⟩ := World.print_passed
    ⟨_, _, writer, OpenFile.atEnd_deliver outputs inside _, _, _, regular⟩ pieces
  obtain ⟨offset, flushed⟩ := World.flush_all_passed writer passed ready
  rw [World.deliver_more outputs inside] at flushed
  let file : OpenFile := { location, mode := kind.openMode, offset }
  let done := w.deliver kind file (Bytes.ofText (String.join pieces))
  have idleOutput : done.Idle (io.redirected kind w).output :=
    .deliver (fun lt => absurd lt (output ▸ Nat.lt_irrefl _)) outputs _ _
  -- the error stream is the same stream, or the one around the command
  have idleError : done.Idle (io.redirected kind w).error := by
    have stream : (io.redirected kind w).error
        = if kind.redirects .error then w.writers.length else io.error :=
      Binding.stream_connect _ kind w .error
    refine .deliver (fun lt => ?_) outputs _ _
    rw [stream] at lt ⊢
    split at lt
    · exact absurd lt (Nat.lt_irrefl _)
    · rwa [if_neg ‹_›]
  have sent : (io.redirected kind w).flush.on w' = (.ok (), done) := by
    rw [Binding.flush, output, Effect.on_bind_ok flushed]
    split
    · exact World.flush_on_of_idle idleError
    · rfl
  refine ⟨w', offset, by rw [output, printed], ?_⟩
  exact @conclude_of_flush (.derived _) _ _ sent idleOutput idleError name

end

end Shell
