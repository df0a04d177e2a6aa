import Shell.Proofs.Opening

/-!
# Redirects — bindings and plans agree

A command of the shell's own runs with a binding (`Redirection.apply`) and a program is started from
a plan (`Plan.ofRedirects`).  The two keep quite different records, but of the same redirects: an
entry of the plan is `StreamTarget.inherit` where the binding has the stream of the base, and else
it names what that stream was opened on (`Agrees`).

* `Agrees.concat`: one more redirect that is carried out on both sides keeps them in agreement.
* `apply_agrees_with_plan`: both open the same targets, stop at the same one if one is refused, and
  agree if none is.
-/

namespace Shell

/-- Whether the streams of a binding exist. -/
structure Binding.IsLive (io : Binding) (w : World) : Prop where
  input : io.input < w.readers.length
  output : io.output < w.writers.length
  error : io.error < w.writers.length

namespace Redirection

/-- The opened files that are written, in order. -/
def written (opened : List (Redirect × OpenFile)) : List (Redirect × OpenFile) :=
  opened.filter fun (directive, _) => directive.kind.writes

/-- The opened files that are read, in order. -/
def readFrom (opened : List (Redirect × OpenFile)) : List (Redirect × OpenFile) :=
  opened.filter fun (directive, _) => !directive.kind.writes

theorem written_append (opened more : List (Redirect × OpenFile)) :
    written (opened ++ more) = written opened ++ written more := List.filter_append ..

theorem readFrom_append (opened more : List (Redirect × OpenFile)) :
    readFrom (opened ++ more) = readFrom opened ++ readFrom more := List.filter_append ..

/-- An entry of a plan and a stream.  New streams are numbered from `first` on, one for each opened
file, and `own` is the stream of the base. -/
structure Names (opened : List (Redirect × OpenFile)) (first own id : Nat)
    (target : StreamTarget) : Prop where
  inherit_iff : target = .inherit ↔ id = own
  file : id = own ∨ ∃ n directive file, opened[n]? = some (directive, file) ∧ id = first + n
    ∧ target = .file file.mode directive.target.text

/-- A binding made from a base, the world that it was made in, and a plan agree when the files were
opened for both. -/
structure Agrees (base : Binding) (before : World) (opened : List (Redirect × OpenFile))
    (io : Binding) (after : World) (plan : Plan) : Prop where
  stdin : Names (readFrom opened) before.readers.length base.input io.input plan.stdin
  stdout : Names (written opened) before.writers.length base.output io.output plan.stdout
  stderr : Names (written opened) before.writers.length base.error io.error plan.stderr
  merged_iff : plan.merged ↔ io.output = io.error ∧ before.writers.length ≤ io.output
  /-- Each new stream that is read is on its file. -/
  readers : after.readers
    = before.readers ++ (readFrom opened).map fun (_, file) => { source := .opened file }
  /-- Each new stream that is written is on its file, and nothing was written to it. -/
  writers : after.writers
    = before.writers ++ (written opened).map fun (_, file) => .buffered file []

/-! ### One stream -/

namespace Names

variable {opened : List (Redirect × OpenFile)} {first own id : Nat} {target : StreamTarget}

/-- The stream is there. -/
theorem lt (h : Names opened first own id target) (live : own < first) :
    id < first + opened.length := by
  rcases h.file with rfl | ⟨n, directive, file, e, rfl, -⟩
  · omega
  · have := (List.getElem?_eq_some_iff.mp e).1
    omega

/-- The stream stays what it is when more files are opened. -/
theorem append (h : Names opened first own id target) (more : List (Redirect × OpenFile)) :
    Names (opened ++ more) first own id target := by
  refine ⟨h.inherit_iff, h.file.imp_right ?_⟩
  rintro ⟨n, directive, file, e, rest⟩
  refine ⟨n, directive, file, ?_, rest⟩
  rw [List.getElem?_append_left (List.getElem?_eq_some_iff.mp e).1, e]

/-- The stream that is opened last. -/
theorem last (opened : List (Redirect × OpenFile)) (live : own < first) (directive : Redirect)
    (file : OpenFile) :
    Names (opened ++ [(directive, file)]) first own (first + opened.length)
      (.file file.mode directive.target.text) := by
  refine ⟨⟨nofun, fun e => by omega⟩, Or.inr ⟨opened.length, directive, file, ?_, rfl, rfl⟩⟩
  rw [List.getElem?_append_right (Nat.le_refl _), Nat.sub_self]
  rfl

end Names

/-! ### One redirect, and all of them -/

namespace Agrees

variable {base io : Binding} {before after : World} {opened : List (Redirect × OpenFile)}
  {plan : Plan}

/-- A binding agrees with the plan without redirects before any file is opened. -/
theorem start (base : Binding) (owned : Ownership) (before : World) (live : base.IsLive before) :
    Agrees base before [] { base with owned } before {} where
  stdin := ⟨by simp, Or.inl rfl⟩
  stdout := ⟨by simp, Or.inl rfl⟩
  stderr := ⟨by simp, Or.inl rfl⟩
  merged_iff := ⟨nofun, fun h => absurd h.2 (Nat.not_le.mpr live.output)⟩
  readers := by simp [readFrom]
  writers := by simp [written]

/-- **One more redirect** connects the binding and changes the plan alike. -/
theorem concat (h : Agrees base before opened io after plan) (live : base.IsLive before)
    (directive : Redirect) (file : OpenFile) (mode : file.mode = directive.kind.openMode) :
    Agrees base before (opened ++ [(directive, file)]) (io.connect directive.kind after)
      (after.gain directive.kind file) (plan.retarget directive) := by
  have count : after.writers.length = before.writers.length + (written opened).length := by
    simp [h.writers]
  have room : before.writers.length ≤ after.writers.length := count ▸ Nat.le_add_right _ _
  have output : io.output < after.writers.length := count ▸ h.stdout.lt live.output
  have error : io.error < after.writers.length := count ▸ h.stderr.lt live.error
  have readers : (after.gain directive.kind file).readers
      = before.readers ++ (readFrom (opened ++ [(directive, file)])).map
        fun (_, file) => { source := .opened file } := by
    rw [readFrom_append, List.map_append, ← List.append_assoc, ← h.readers, World.readers_gain]
    cases e : directive.kind.writes <;> simp [readFrom, e]
  have writers : (after.gain directive.kind file).writers
      = before.writers ++ (written (opened ++ [(directive, file)])).map
        fun (_, file) => .buffered file [] := by
    rw [written_append, List.map_append, ← List.append_assoc, ← h.writers, World.writers_gain]
    cases e : directive.kind.writes <;> simp [written, e]
  have stdin := h.stdin.append (readFrom [(directive, file)])
  have stdout := h.stdout.append (written [(directive, file)])
  have stderr := h.stderr.append (written [(directive, file)])
  rw [← readFrom_append] at stdin
  rw [← written_append] at stdout stderr
  have newest : directive.kind.writes → ∀ own, own < before.writers.length →
      Names (written (opened ++ [(directive, file)])) before.writers.length own
        after.writers.length (.file directive.kind.openMode directive.target.text) := by
    intro writes own live
    have only : written [(directive, file)] = [(directive, file)] := by simp [written, writes]
    rw [written_append, only, count, ← mode]
    exact .last _ live directive file
  obtain ⟨kind, target⟩ := directive
  -- the kind decides which streams are new; the others stay as they were
  cases kind with
  | input =>
      refine ⟨?_, stdout, stderr, h.merged_iff, readers, writers⟩
      have latest := Names.last (readFrom opened) live.input ⟨.input, target⟩ file
      rw [mode, show before.readers.length + (readFrom opened).length = after.readers.length by
        simp [h.readers]] at latest
      exact readFrom_append .. ▸ latest
  | output | outputAppend =>
      refine ⟨stdin, newest rfl _ live.output, stderr, ⟨nofun, fun e => ?_⟩, readers, writers⟩
      exact absurd e.1 (Nat.ne_of_gt error)
  | error | errorAppend =>
      refine ⟨stdin, stdout, newest rfl _ live.error, ⟨nofun, fun e => ?_⟩, readers, writers⟩
      exact absurd e.1 (Nat.ne_of_lt output)
  | allOutput | allAppend =>
      exact ⟨stdin, newest rfl _ live.output, newest rfl _ live.error,
        ⟨fun _ => ⟨rfl, room⟩, fun _ => rfl⟩, readers, writers⟩

/-- **All redirects** do, from what was in agreement before them. -/
theorem append (h : Agrees base before opened io after plan) (live : base.IsLive before)
    (more : List (Redirect × OpenFile))
    (modes : ∀ directive file, (directive, file) ∈ more → file.mode = directive.kind.openMode) :
    Agrees base before (opened ++ more) (connected io after more).1 (connected io after more).2
      ((more.map Prod.fst).foldl Plan.retarget plan) := by
  induction more generalizing opened io after plan with
  | nil => simpa [connected] using h
  | cons first rest ih =>
      obtain ⟨directive, file⟩ := first
      have next := h.concat live directive file (modes _ _ (List.mem_cons_self ..))
      have later := ih next fun d f m => modes d f (List.mem_cons_of_mem _ m)
      rwa [List.append_assoc] at later

end Agrees

/-! ### Both attempts -/

/-- Whether an attempt to carry out redirects gets past those before a redirect and then ends at
that one, whatever comes after it. -/
structure StopsAt {α : Type} (attempt : List Redirect → Effect RedirectError α) (w : World)
    (before : List Redirect) (directive : Redirect) (error : RedirectError) : Prop where
  earlier : ∃ a, ((attempt before).on w).1 = .ok a
  refused : ∀ after, ((attempt (before ++ directive :: after)).on w).1 = .error error

theorem stopsAt_apply (base : Binding) {w : World} {before : List Redirect} {directive : Redirect}
    {error : RedirectError}
    (earlier : (Opening.of w.machine.tree w.cwd before).refusal = none)
    (refused : ∀ after,
      (Opening.of w.machine.tree w.cwd (before ++ directive :: after)).refusal = some error) :
    StopsAt (apply · base) w before directive error where
  earlier := ⟨_, by rw [apply_on, earlier]⟩
  refused after := by rw [apply_on, refused]

theorem stopsAt_ofRedirects {w : World} {before : List Redirect} {directive : Redirect}
    {error : RedirectError}
    (earlier : (Opening.of w.machine.tree w.cwd before).refusal = none)
    (refused : ∀ after,
      (Opening.of w.machine.tree w.cwd (before ++ directive :: after)).refusal = some error) :
    StopsAt Plan.ofRedirects w before directive error where
  earlier := ⟨_, by rw [Plan.ofRedirects_on, earlier]⟩
  refused after := by rw [Plan.ofRedirects_on, refused]

/-- **Bindings and plans agree.**  Redirects put upon a binding and a plan made from them leave the
same machine, on which targets were opened and nothing was written.  Either both attempts end at the
same redirect with the same error, or the plan says of each stream what the binding has. -/
theorem apply_agrees_with_plan (redirects : List Redirect) {base : Binding} {w : World}
    (live : base.IsLive w) :
    let opening := Opening.of w.machine.tree w.cwd redirects
    let applied := (apply redirects base).on w
    let planned := (Plan.ofRedirects redirects).on w
    applied.2.machine = { w.machine with tree := opening.tree }
      ∧ planned.2.machine = { w.machine with tree := opening.tree }
      ∧ (∀ location bits content, opening.tree.get? location = some (.file bits content) →
        content = [] ∨ w.machine.tree.get? location = some (.file bits content))
      ∧ match opening.refusal with
        | some error => applied.1 = .error error ∧ planned.1 = .error error
          ∧ ∃ before directive after, redirects = before ++ directive :: after
            ∧ error.path = directive.target.text
            ∧ StopsAt (apply · base) w before directive error
            ∧ StopsAt Plan.ofRedirects w before directive error
        | none => ∃ resolved plan, applied.1 = .ok resolved ∧ planned.1 = .ok plan
          ∧ Agrees base w opening.opened resolved.binding applied.2 plan := by
  intro opening applied planned
  have on : applied = (_, _) := apply_on redirects base w
  have on' : planned = (_, _) := Plan.ofRedirects_on redirects w
  have machine : applied.2.machine = { w.machine with tree := opening.tree } := by
    simp only [on, World.withTree, machine_connected, opening]
  have machine' : planned.2.machine = { w.machine with tree := opening.tree } := by
    simp only [on', World.withTree, opening]
  refine ⟨machine, machine', fun _ _ _ => Opening.file_of_tree, ?_⟩
  cases e : opening.refusal with
  | some error =>
      obtain ⟨before, directive, after, split, path, earlier, refused⟩ := Opening.exists_refused e
      refine ⟨?_, ?_, before, directive, after, split, path, ?_⟩
      · rw [on, e]
      · rw [on', e]
      · exact ⟨stopsAt_apply base earlier refused, stopsAt_ofRedirects earlier refused⟩
  | none =>
      have agree := (Agrees.start base {} w live).append live opening.opened
        fun _ _ => Opening.mode_of_mem
      rw [List.nil_append, Opening.map_fst_opened e] at agree
      refine ⟨_, redirects.foldl Plan.retarget {}, by rw [on, e], by rw [on', e], ?_⟩
      rw [on]
      cases redirects with
      | nil => exact .start base base.owned w live
      | cons => exact ⟨agree.1, agree.2, agree.3, agree.4, agree.5, agree.6⟩

/-- Both outputs to one file, errors to the end of another, and the input from a third. -/
theorem apply_agrees_with_plan_mixed :
    let redirects : List Redirect := [⟨.allOutput, ⟨"f", by decide⟩⟩,
      ⟨.errorAppend, ⟨"../d/g", by decide⟩⟩, ⟨.input, ⟨"f", by decide⟩⟩]
    let start := Binding.overMemory []
      { machine.tree.entries := [(["d"], .directory), (["f", "d"], .file 0o644 [65])]
        cwd := ["d"] }
    start.1.IsLive start.2 ∧ ∃ resolved plan,
      ((apply redirects start.1).on start.2).1 = .ok resolved
        ∧ ((Plan.ofRedirects redirects).on start.2).1 = .ok plan
        ∧ Agrees start.1 start.2 (Opening.of start.2.machine.tree start.2.cwd redirects).opened
          resolved.binding ((apply redirects start.1).on start.2).2 plan := by
  intro redirects start
  have live : start.1.IsLive start.2 := ⟨by decide, by decide, by decide⟩
  have e : (Opening.of start.2.machine.tree start.2.cwd redirects).refusal = none := rfl
  have agreement := (apply_agrees_with_plan redirects live).2.2.2
  rw [e] at agreement
  exact ⟨live, agreement⟩

end Redirection

end Shell
