import Shell.Launch.System
import Shell.Proofs.Reopening

/-!
# Launching programs — the streams of a plan

A program could be given the files that the redirects opened, each as it was opened
(`Script.Runner.redirected`).  It is given others: making a plan closes them again, and the launcher
opens what the plan has remembered, each standard stream's last target and whether the outputs
share one, in the order of the streams.

The program cannot tell the difference.

* `Plan.Leads.redirected`, `Launcher.connectPlan_on`: in both ways the descriptors lead where the
  plan says.
* `Plan.Leads.sameStreams`: so they lead to the same files, and share them alike.
* `Plan.launched_as_redirected`: no target is refused when a program is started from the plan that
  redirects made, nothing is changed by opening it, and the program starts with the files of these
  redirects.
-/

namespace Shell

namespace Script.Runner

variable {r r' : Runner} {descriptor other number : Nat} {endpoint : Endpoint} {file : OpenFile}

/-- Where a descriptor leads, if it leads anywhere. -/
def endpoint? (r : Runner) (descriptor : Nat) : Option Endpoint :=
  r.descriptors.lookup descriptor

/-- The open file that a descriptor leads to. -/
def openFile? (r : Runner) (descriptor : Nat) : Option OpenFile :=
  match r.endpoint? descriptor with
  | some (.file number) => r.files[number]?
  | _ => none

@[simp]
theorem endpoint?_connect_self :
    (r.connect descriptor endpoint).endpoint? descriptor = some endpoint := by
  simp [endpoint?, connect]

theorem endpoint?_connect_of_ne (ne : other ≠ descriptor) :
    (r.connect descriptor endpoint).endpoint? other = r.endpoint? other := by
  have kept : ∀ list : List (Nat × Endpoint),
      (list.filter (·.1 ≠ descriptor)).lookup other = list.lookup other := by
    intro list
    induction list with
    | nil => rfl
    | cons entry rest ih =>
        obtain ⟨key, value⟩ := entry
        by_cases same : key = descriptor
        · have apart : (other == key) = false := beq_false_of_ne (same ▸ ne)
          rw [List.filter_cons_of_neg (by simp [same]), ih, List.lookup_cons, apart]
        · rw [List.filter_cons_of_pos (by simp [same]), List.lookup_cons, List.lookup_cons, ih]
  have apart : (other == descriptor) = false := beq_false_of_ne ne
  simp only [endpoint?, connect, List.lookup_cons, apart, kept]

/-- Whether the files that descriptors lead to are there. -/
def IsClosed (r : Runner) : Prop :=
  ∀ descriptor number, r.endpoint? descriptor = some (.file number) → number < r.files.length

theorem endpoint?_connectFile_self :
    (r.connectFile descriptor file).endpoint? descriptor = some (.file r.files.length) :=
  endpoint?_connect_self

theorem endpoint?_connectFile_of_ne (ne : other ≠ descriptor) :
    (r.connectFile descriptor file).endpoint? other = r.endpoint? other :=
  endpoint?_connect_of_ne ne

/-- No descriptor leads to the file that is opened next. -/
theorem IsClosed.endpoint?_ne (h : r.IsClosed) (descriptor : Nat) :
    r.endpoint? descriptor ≠ some (.file r.files.length) :=
  fun e => Nat.lt_irrefl _ (h _ _ e)

theorem IsClosed.connectFile (h : r.IsClosed) (descriptor : Nat) (file : OpenFile) :
    (r.connectFile descriptor file).IsClosed := by
  intro other number e
  have longer : (r.connectFile descriptor file).files.length = r.files.length + 1 :=
    List.length_append
  rw [longer]
  by_cases same : other = descriptor
  · rw [same, endpoint?_connectFile_self] at e
    cases e
    exact Nat.lt_succ_self _
  · rw [endpoint?_connectFile_of_ne same] at e
    exact Nat.lt_succ_of_lt (h _ _ e)

theorem IsClosed.connect (h : r.IsClosed) (descriptor : Nat) (inside : number < r.files.length) :
    (r.connect descriptor (.file number)).IsClosed := by
  intro other number' e
  by_cases same : other = descriptor
  · rw [same, endpoint?_connect_self] at e
    cases e
    exact inside
  · rw [endpoint?_connect_of_ne same] at e
    exact h _ _ e

/-- The descriptors of a program led to the file that a redirect opened. -/
def redirect (r : Runner) (kind : RedirectKind) (file : OpenFile) : Runner :=
  match kind with
  | .input => r.connectFile 0 file
  | .output | .outputAppend => r.connectFile 1 file
  | .error | .errorAppend => r.connectFile 2 file
  | .allOutput | .allAppend => (r.connectFile 1 file).connect 2 (.file r.files.length)

/-- The descriptors of a program led to the files that redirects opened, one after another. -/
def redirected (r : Runner) (opened : List (Redirect × OpenFile)) : Runner :=
  opened.foldl (fun r (directive, file) => r.redirect directive.kind file) r

/-- Whether the descriptors of two programs lead to the same places and share files alike.  The
numbers of the files do not matter. -/
structure SameStreams (r r' : Runner) : Prop where
  files : ∀ descriptor, r.openFile? descriptor = r'.openFile? descriptor
  others : ∀ descriptor, r.openFile? descriptor = none →
    r.endpoint? descriptor = r'.endpoint? descriptor
  shared : ∀ descriptor other, r.endpoint? descriptor = r.endpoint? other
    ↔ r'.endpoint? descriptor = r'.endpoint? other

/-- Whether the descriptors are those that a program is started with: the streams of the shell. -/
def IsIdle (r : Runner) : Prop :=
  r.descriptors = [(0, .input), (1, .output .output), (2, .output .error)]

theorem IsIdle.endpoint?_ne_file (h : r.IsIdle) (descriptor number : Nat) :
    r.endpoint? descriptor ≠ some (.file number) := by
  match descriptor with
  | 0 | 1 | 2 | n + 3 => simp [endpoint?, show r.descriptors = _ from h, List.lookup_cons]

end Script.Runner

open Script (Runner)

/-! ### What a plan says of the descriptors -/

/-- Whether a descriptor of a program leads to what a target says: where it led in an idle program,
or to an open file that opening the target gives, which changes nothing. -/
inductive StreamTarget.Leads (w : World) (idle r : Runner) (descriptor : Nat) :
    StreamTarget → Prop where
  | inherit (same : r.endpoint? descriptor = idle.endpoint? descriptor) :
      Leads w idle r descriptor .inherit
  | file {mode : OpenMode} {path : String} {number : Nat} {file : OpenFile}
      (led : r.endpoint? descriptor = some (.file number)) (there : r.files[number]? = some file)
      (opens : (World.openFile mode path).on w = (.ok file, w)) :
      Leads w idle r descriptor (.file mode path)

namespace StreamTarget.Leads

variable {w : World} {idle r : Runner} {descriptor other number : Nat} {target : StreamTarget}
  {mode : OpenMode} {path : String} {file : OpenFile}

theorem connect_of_ne (h : target.Leads w idle r descriptor) (ne : descriptor ≠ other)
    (endpoint : Script.Endpoint) : target.Leads w idle (r.connect other endpoint) descriptor := by
  cases h with
  | inherit same => exact .inherit ((Runner.endpoint?_connect_of_ne ne).trans same)
  | file led there opens => exact .file ((Runner.endpoint?_connect_of_ne ne).trans led) there opens

theorem connectFile_of_ne (h : target.Leads w idle r descriptor) (ne : descriptor ≠ other)
    (file : OpenFile) : target.Leads w idle (r.connectFile other file) descriptor := by
  refine connect_of_ne ?_ ne _
  cases h with
  | inherit same => exact .inherit same
  | file led there opens =>
      exact .file led
        ((List.getElem?_append_left (List.getElem?_eq_some_iff.mp there).1).trans there) opens

theorem connectFile_self (opens : (World.openFile mode path).on w = (.ok file, w)) :
    (StreamTarget.file mode path).Leads w idle (r.connectFile descriptor file) descriptor :=
  .file Runner.endpoint?_connectFile_self List.getElem?_concat_length opens

/-- The same target leads to the same file in another program. -/
theorem same {r' : Runner} (h : target.Leads w idle r descriptor)
    (h' : target.Leads w idle r' descriptor) (standard : idle.IsIdle) :
    r.openFile? descriptor = r'.openFile? descriptor
      ∧ (r.openFile? descriptor = none → r.endpoint? descriptor = r'.endpoint? descriptor) := by
  cases h with
  | inherit same =>
      cases h' with
      | inherit same' =>
          have ends : r.endpoint? descriptor = r'.endpoint? descriptor := same.trans same'.symm
          refine ⟨?_, fun _ => ends⟩
          have apart := standard.endpoint?_ne_file descriptor
          unfold Runner.openFile?
          rw [same, same']
          split
          · exact absurd ‹_› (apart _)
          · rfl
  | file led there opens =>
      cases h' with
      | file led' there' opens' =>
          rw [opens] at opens'
          cases opens'
          simp only [Runner.openFile?, led, led', there, there', reduceCtorEq, false_implies,
            and_self]

end StreamTarget.Leads

namespace Plan

variable {plan plan' : Plan} {w : World} {idle r r' : Runner} {descriptor : Nat} {mode : OpenMode}
  {path : String} {file : OpenFile}

/-- The target for a descriptor. -/
def target (plan : Plan) : Nat → StreamTarget
  | 0 => plan.stdin
  | 1 => plan.stdout
  | 2 => plan.stderr
  | _ => .inherit

/-- Whether the descriptors of a program lead where a plan says. -/
structure Leads (plan : Plan) (w : World) (idle r : Runner) : Prop where
  target : ∀ descriptor, (plan.target descriptor).Leads w idle r descriptor
  shared : ∀ descriptor other, descriptor < other → other ≤ 2 →
    (r.endpoint? descriptor = r.endpoint? other ↔ plan.merged ∧ descriptor = 1)
  closed : r.IsClosed

namespace Leads

/-- An idle program's descriptors lead where a plan without redirects says. -/
theorem start (standard : idle.IsIdle) : ({} : Plan).Leads w idle idle where
  target descriptor := by
    match descriptor with
    | 0 | 1 | 2 => exact .inherit rfl
    | n + 3 => exact .inherit rfl
  shared descriptor other lt le := by
    obtain ⟨rfl, rfl⟩ | ⟨rfl, rfl⟩ | ⟨rfl, rfl⟩ : descriptor = 0 ∧ other = 1
        ∨ descriptor = 0 ∧ other = 2 ∨ descriptor = 1 ∧ other = 2 := by omega
    all_goals simp [Runner.endpoint?, show idle.descriptors = _ from standard, List.lookup_cons]
  closed descriptor number led := absurd led (standard.endpoint?_ne_file descriptor number)

/-- One descriptor led to a file of its own. -/
theorem connectFile (h : plan.Leads w idle r) (standard : descriptor ≤ 2)
    (opens : (World.openFile mode path).on w = (.ok file, w))
    (there : plan'.target descriptor = .file mode path)
    (others : ∀ other ≠ descriptor, plan'.target other = plan.target other)
    (merged : plan'.merged ↔ plan.merged ∧ descriptor = 0) :
    plan'.Leads w idle (r.connectFile descriptor file) where
  target other := by
    by_cases same : other = descriptor
    · rw [same, there]
      exact .connectFile_self opens
    · rw [others other same]
      exact (h.target other).connectFile_of_ne same file
  shared first second lt le := by
    rw [merged]
    have new := h.closed.endpoint?_ne
    by_cases same : first = descriptor
    · rw [same, Runner.endpoint?_connectFile_self, Runner.endpoint?_connectFile_of_ne (by omega)]
      exact ⟨fun e => absurd e.symm (new second), fun e => by omega⟩
    by_cases same' : second = descriptor
    · rw [same', Runner.endpoint?_connectFile_self, Runner.endpoint?_connectFile_of_ne same]
      exact ⟨fun e => absurd e (new first), fun e => by omega⟩
    rw [Runner.endpoint?_connectFile_of_ne same, Runner.endpoint?_connectFile_of_ne same',
      h.shared first second lt le]
    exact ⟨fun e => ⟨⟨e.1, by omega⟩, e.2⟩, fun e => ⟨e.1.1, e.2⟩⟩
  closed := h.closed.connectFile descriptor file

/-- Both outputs led to one file. -/
theorem connectOutputs (h : plan.Leads w idle r)
    (opens : (World.openFile mode path).on w = (.ok file, w)) {mode' : OpenMode} {path' : String}
    (opens' : (World.openFile mode' path').on w = (.ok file, w)) :
    Leads { plan with stdout := .file mode path, stderr := .file mode' path', merged := true }
      w idle ((r.connectFile 1 file).connect 2 (.file r.files.length)) where
  target other := by
    have first : ∀ {other}, (plan.target other).Leads w idle r other → other ≠ 1 → other ≠ 2 →
        (plan.target other).Leads w idle
          ((r.connectFile 1 file).connect 2 (.file r.files.length)) other :=
      fun leads ne ne' => (leads.connectFile_of_ne ne file).connect_of_ne ne' _
    match other with
    | 0 => exact first (h.target 0) (by decide) (by decide)
    | 1 => exact (StreamTarget.Leads.connectFile_self opens).connect_of_ne (by decide) _
    | 2 => exact .file Runner.endpoint?_connect_self List.getElem?_concat_length opens'
    | n + 3 => exact first (h.target (n + 3)) (by omega) (by omega)
  shared first second lt le := by
    have output : ((r.connectFile 1 file).connect 2 (.file r.files.length)).endpoint? 1
        = some (.file r.files.length) :=
      (Runner.endpoint?_connect_of_ne (by decide)).trans Runner.endpoint?_connectFile_self
    have input : ((r.connectFile 1 file).connect 2 (.file r.files.length)).endpoint? 0
        = r.endpoint? 0 :=
      (Runner.endpoint?_connect_of_ne (by decide)).trans
        (Runner.endpoint?_connectFile_of_ne (by decide))
    have new := h.closed.endpoint?_ne 0
    obtain ⟨rfl, rfl⟩ | ⟨rfl, rfl⟩ | ⟨rfl, rfl⟩ : first = 0 ∧ second = 1
        ∨ first = 0 ∧ second = 2 ∨ first = 1 ∧ second = 2 := by omega
    · simp [input, output, new]
    · simp [input, new]
    · simp [output]
  closed := (h.closed.connectFile 1 file).connect 2 (by simp [Runner.connectFile, Runner.connect])

/-- **One redirect** changes the plan as it changes the descriptors. -/
theorem redirect (h : plan.Leads w idle r) {directive : Redirect}
    (opens : (World.openFile directive.kind.openMode directive.target.text).on w = (.ok file, w)) :
    (plan.retarget directive).Leads w idle (r.redirect directive.kind file) := by
  obtain ⟨kind, path⟩ := directive
  have away : ∀ {plan' : Plan} {descriptor : Nat}, plan'.target 0 = plan.target 0 ∨ descriptor = 0 →
      plan'.target 1 = plan.target 1 ∨ descriptor = 1 →
      plan'.target 2 = plan.target 2 ∨ descriptor = 2 →
      ∀ other ≠ descriptor, plan'.target other = plan.target other := by
    intro plan' descriptor input output error other ne
    match other with
    | 0 => exact input.resolve_right (Ne.symm ne)
    | 1 => exact output.resolve_right (Ne.symm ne)
    | 2 => exact error.resolve_right (Ne.symm ne)
    | n + 3 => rfl
  cases kind with
  | input =>
      exact h.connectFile (by decide) opens rfl (away (.inr rfl) (.inl rfl) (.inl rfl))
        (by simp [retarget])
  | output | outputAppend =>
      exact h.connectFile (by decide) opens rfl (away (.inl rfl) (.inr rfl) (.inl rfl))
        (by simp [retarget])
  | error | errorAppend =>
      exact h.connectFile (by decide) opens rfl (away (.inl rfl) (.inl rfl) (.inr rfl))
        (by simp [retarget])
  | allOutput | allAppend => exact h.connectOutputs opens opens

/-- **All redirects** do. -/
theorem redirected (h : plan.Leads w idle r) {opened : List (Redirect × OpenFile)}
    (opens : ∀ directive file, (directive, file) ∈ opened →
      (World.openFile directive.kind.openMode directive.target.text).on w = (.ok file, w)) :
    ((opened.map Prod.fst).foldl retarget plan).Leads w idle (r.redirected opened) := by
  induction opened generalizing plan r with
  | nil => exact h
  | cons first rest ih =>
      obtain ⟨directive, file⟩ := first
      have next := h.redirect (opens directive file List.mem_cons_self)
      exact ih next fun d f mem => opens d f (List.mem_cons_of_mem _ mem)

/-- The targets of outputs that are connected together give one file. -/
theorem exists_of_merged (h : plan.Leads w idle r) (standard : idle.IsIdle) (merged : plan.merged) :
    ∃ mode path mode' path' file, plan.stdout = .file mode path ∧ plan.stderr = .file mode' path'
      ∧ (World.openFile mode path).on w = (.ok file, w)
      ∧ (World.openFile mode' path').on w = (.ok file, w) := by
  have same : r.endpoint? 1 = r.endpoint? 2 :=
    (h.shared 1 2 (by decide) (by decide)).mpr ⟨merged, rfl⟩
  have output : plan.stdout.Leads w idle r 1 := h.target 1
  have error : plan.stderr.Leads w idle r 2 := h.target 2
  generalize plan.stdout = stdout at output ⊢
  generalize plan.stderr = stderr at error ⊢
  cases output with
  | inherit output =>
      cases error with
      | inherit error =>
          -- the outputs of an idle program are two streams
          have shared : idle.endpoint? 1 = idle.endpoint? 2 := output.symm.trans (same.trans error)
          have alone := (start (w := w) standard).shared 1 2 (by decide) (by decide)
          exact absurd (alone.mp shared).1 nofun
      | file led =>
          exact absurd (output.symm.trans (same.trans led)) (standard.endpoint?_ne_file 1 _)
  | file led there opens =>
      cases error with
      | inherit error =>
          exact absurd (error.symm.trans (same.symm.trans led)) (standard.endpoint?_ne_file 2 _)
      | file led' there' opens' =>
          obtain ⟨⟩ := led.symm.trans (same.trans led')
          obtain ⟨⟩ := there.symm.trans there'
          exact ⟨_, _, _, _, _, rfl, rfl, opens, opens'⟩

/-- Two descriptors that share an end in one program do so in another. -/
theorem share (h : plan.Leads w idle r) (h' : plan.Leads w idle r') (standard : idle.IsIdle)
    {first second : Nat} (e : r.endpoint? first = r.endpoint? second) :
    r'.endpoint? first = r'.endpoint? second := by
  have alike := fun descriptor => (h.target descriptor).same (h'.target descriptor) standard
  have both : r.openFile? first = r.openFile? second := by
    rw [Runner.openFile?, Runner.openFile?, e]
  by_cases none : r.openFile? first = none
  · rw [← (alike first).2 none, ← (alike second).2 (both ▸ none), e]
  -- only the standard descriptors lead to files
  have le : ∀ {descriptor}, r.openFile? descriptor ≠ Option.none → descriptor ≤ 2 := by
    intro descriptor some
    match descriptor with
    | 0 | 1 | 2 => decide
    | n + 3 =>
        cases h.target (n + 3) with
        | inherit same =>
            refine absurd ?_ some
            rw [Runner.openFile?, same]
            split
            · exact absurd ‹_› (standard.endpoint?_ne_file _ _)
            · rfl
  rcases Nat.lt_trichotomy first second with lt | rfl | lt
  · have le := le (both ▸ none)
    exact (h'.shared first second lt le).mpr ((h.shared first second lt le).mp e)
  · rfl
  · have le := le none
    exact ((h'.shared second first lt le).mpr ((h.shared second first lt le).mp e.symm)).symm

/-- A plan decides where the descriptors lead. -/
theorem sameStreams (h : plan.Leads w idle r) (h' : plan.Leads w idle r')
    (standard : idle.IsIdle) : r.SameStreams r' where
  files descriptor := ((h.target descriptor).same (h'.target descriptor) standard).1
  others descriptor := ((h.target descriptor).same (h'.target descriptor) standard).2
  shared _ _ := ⟨h.share h' standard, h'.share h standard⟩

end Leads

end Plan

/-! ### What the launcher does with it -/

namespace Launcher

variable {plan plan' : Plan} {w : World} {idle r runner : Runner} {descriptor : Nat}
  {target : StreamTarget}

/-- A program that differs from another one in its streams at most. -/
def IsStreamsOf (idle runner : Runner) : Prop :=
  ∃ files descriptors, runner = { idle with files, descriptors }

theorem IsStreamsOf.connectFile (h : IsStreamsOf idle runner) (descriptor : Nat)
    (file : OpenFile) : IsStreamsOf idle (runner.connectFile descriptor file) := by
  obtain ⟨_, _, rfl⟩ := h
  exact ⟨_, _, rfl⟩

theorem connect_file_on {mode : OpenMode} {path : String} {file : OpenFile}
    (opens : (World.openFile mode path).on w = (.ok file, w)) (runner : Runner) :
    (connect (.file mode path) descriptor runner).on w
      = (.ok (runner.connectFile descriptor file), w) := by
  have opened : (StreamTarget.file mode path).openFile.on w = (.ok (some file), w) := by
    rw [StreamTarget.openFile, Effect.on_map, opens]
    rfl
  rw [connect, Effect.on_bind_ok opened]
  rfl

/-- **One target** that another program has open is opened, and the plan is so far kept to. -/
theorem connect_on (h : plan.Leads w idle runner) (apart : plan.merged = plan'.merged)
    (unmerged : ¬ plan'.merged) (standard : descriptor ≤ 2)
    (free : plan.target descriptor = .inherit) (there : plan'.target descriptor = target)
    (others : ∀ other ≠ descriptor, plan'.target other = plan.target other)
    (led : target.Leads w idle r descriptor) (streams : IsStreamsOf idle runner) :
    ∃ runner', (connect target descriptor runner).on w = (.ok runner', w)
      ∧ plan'.Leads w idle runner' ∧ IsStreamsOf idle runner' := by
  cases led with
  | inherit =>
      have targets : ∀ other, plan'.target other = plan.target other := by
        intro other
        by_cases same : other = descriptor
        · rw [same, there, free]
        · exact others other same
      refine ⟨runner, rfl, ⟨fun other => ?_, fun first second lt le => ?_, h.closed⟩, streams⟩
      · exact targets other ▸ h.target other
      · rw [← apart]
        exact h.shared first second lt le
  | file _ _ opens =>
      refine ⟨_, connect_file_on opens runner, ?_, streams.connectFile descriptor _⟩
      exact h.connectFile standard opens there others (by simp [apart, unmerged])

/-- **All targets** of a plan that another program has open are opened, and the plan is kept to. -/
theorem connectPlan_on (led : plan.Leads w idle r) (standard : idle.IsIdle) :
    ∃ runner, (connectPlan plan idle).on w = (.ok runner, w) ∧ plan.Leads w idle runner
      ∧ IsStreamsOf idle runner := by
  obtain ⟨input, onInput, ledInput, streams⟩ :=
    @connect_on {} { stdin := plan.stdin } w idle r idle 0 plan.stdin (.start standard) rfl nofun
      (by decide) rfl rfl (fun | 0, ne => absurd rfl ne | 1, _ | 2, _ | _ + 3, _ => rfl)
      (led.target 0) ⟨_, _, rfl⟩
  rw [connectPlan, Effect.on_bind_ok onInput]
  by_cases merged : plan.merged
  · obtain ⟨mode, path, mode', path', file, stdout, stderr, opens, opens'⟩ :=
      led.exists_of_merged standard merged
    refine ⟨(input.connectFile 1 file).connect 2 (.file input.files.length), ?_, ?_, ?_⟩
    · rw [stdout, Effect.on_bind_ok (connect_file_on opens input), merged, if_pos (by simp)]
      rfl
    · have both := ledInput.connectOutputs opens opens'
      rwa [← stdout, ← stderr, ← merged] at both
    · obtain ⟨_, _, rfl⟩ := streams
      exact ⟨_, _, rfl⟩
  · obtain ⟨output, onOutput, ledOutput, streams⟩ :=
      @connect_on { stdin := plan.stdin } { stdin := plan.stdin, stdout := plan.stdout } w idle r
        input 1 plan.stdout ledInput rfl nofun (by decide) rfl rfl
        (fun | 0, _ => rfl | 1, ne => absurd rfl ne | 2, _ | _ + 3, _ => rfl) (led.target 1)
        streams
    have unmerged : plan.merged = false := eq_false_of_ne_true merged
    obtain ⟨error, onError, ledError, streams⟩ :=
      @connect_on { stdin := plan.stdin, stdout := plan.stdout } plan w idle r
        output 2 plan.stderr ledOutput unmerged.symm merged (by decide) rfl rfl
        (fun | 0, _ | 1, _ => rfl | 2, ne => absurd rfl ne | _ + 3, _ => rfl) (led.target 2)
        streams
    refine ⟨error, ?_, ledError, streams⟩
    rw [Effect.on_bind_ok onOutput, unmerged, if_neg (by simp)]
    exact onError

end Launcher

/-- **Opening a plan is not seen.**  Where redirects made a plan, and nothing changed the files or
the directory since, the launcher opens every target of the plan and changes nothing by it, if the
files that the redirects made can be written once more.  The idle program that it starts gets the
streams, and nothing else, that it would get from the files that the redirects opened, one after
another. -/
theorem Plan.launched_as_redirected {redirects : List Redirect} {w w' : World} {plan : Plan}
    (planned : (ofRedirects redirects).on w = (.ok plan, w'))
    (writable : w.machine.tree.makesWritable) :
    let opening := Opening.of w.machine.tree w.cwd redirects
    opening.opened.map Prod.fst = redirects
      ∧ w' = w.withTree opening.tree
      ∧ ∀ v : World, v.machine.tree = w'.machine.tree → v.cwd = w'.cwd →
        ∀ idle : Runner, idle.IsIdle →
          ∃ runner, (Launcher.connectPlan plan idle).on v = (.ok runner, v)
            ∧ runner.SameStreams (idle.redirected opening.opened)
            ∧ Launcher.IsStreamsOf idle runner := by
  intro opening
  rw [ofRedirects_on] at planned
  cases refusal : opening.refusal with
  | some error =>
      rw [refusal] at planned
      cases planned
  | none =>
      rw [refusal] at planned
      cases planned
      refine ⟨Opening.map_fst_opened refusal, rfl, fun v tree cwd idle standard => ?_⟩
      have opens : ∀ directive file, (directive, file) ∈ opening.opened →
          (World.openFile directive.kind.openMode directive.target.text).on v = (.ok file, v) := by
        intro directive file mem
        have kept : v.withTree opening.tree = v := by
          rw [← World.tree_withTree w opening.tree, ← tree]
          rfl
        rw [World.openFile_on, tree, cwd, World.tree_withTree, World.cwd_withTree,
          Opening.again writable mem]
        exact congrArg (Prod.mk _) kept
      have led := (Leads.start standard).redirected opens
      rw [Opening.map_fst_opened refusal] at led
      obtain ⟨runner, on, led', streams⟩ := Launcher.connectPlan_on led standard
      exact ⟨runner, on, led'.sameStreams led standard, streams⟩

/-- Under a mask that takes writing from the owner too, a file that redirects made is not opened
again: the plan is accepted, and the program is not started. -/
theorem Plan.launch_refused_under_mask :
    let redirects : List Redirect := [⟨.output, ⟨"f", by decide⟩⟩]
    let plan : Plan := { stdout := .file .truncate "f" }
    let w : World :=
      { machine.tree := { entries := [(["d"], .directory)], mask := 0o222 }, cwd := ["d"] }
    let w' : World := w.withTree (w.machine.tree.put ["f", "d"] (.file 0o444 []))
    let idle : Runner := { machine := w'.machine, cwd := w'.cwd }
    (ofRedirects redirects).on w = (.ok plan, w')
      ∧ (Launcher.connectPlan plan idle).on w' = (.error .permissionDenied, w') := by
  intro redirects plan w w' idle
  have opening : Opening.of w.machine.tree w.cwd redirects
      = { opened := redirects.zip [{ location := ["f", "d"], mode := .truncate }],
          refusal := none, tree := w'.machine.tree } := by decide
  exact ⟨by rw [ofRedirects_on, opening]; rfl, by rfl⟩

/-- One file read, emptied and written at its end, with outputs that are parted again. -/
theorem Plan.launched_as_redirected_mixed :
    let redirects : List Redirect := [⟨.input, ⟨"f", by decide⟩⟩, ⟨.output, ⟨"f", by decide⟩⟩,
      ⟨.allOutput, ⟨"../d/g", by decide⟩⟩, ⟨.errorAppend, ⟨"f", by decide⟩⟩]
    let plan : Plan :=
      { stdin := .file .read "f", stdout := .file .truncate "../d/g", stderr := .file .append "f" }
    let w : World :=
      { machine.tree.entries := [(["d"], .directory), (["f", "d"], .file 0o644 [65])]
        cwd := ["d"] }
    let w' : World := w.withTree
      { entries :=
          [(["d"], .directory), (["f", "d"], .file 0o644 []), (["g", "d"], .file 0o644 [])] }
    let idle : Runner := { machine := w.machine, cwd := w.cwd }
    (ofRedirects redirects).on w = (.ok plan, w')
      ∧ ∃ runner, (Launcher.connectPlan plan idle).on w' = (.ok runner, w')
        ∧ runner.openFile? 0 = some { location := ["f", "d"], mode := .read }
        ∧ runner.openFile? 1 = some { location := ["g", "d"], mode := .truncate }
        ∧ runner.openFile? 2 = some { location := ["f", "d"], mode := .append } := by
  intro redirects plan w w' idle
  have opening : Opening.of w.machine.tree w.cwd redirects
      = { opened := redirects.zip [{ location := ["f", "d"], mode := .read },
            { location := ["f", "d"], mode := .truncate },
            { location := ["g", "d"], mode := .truncate },
            { location := ["f", "d"], mode := .append }],
          refusal := none, tree := w'.machine.tree } := by decide
  have planned : (ofRedirects redirects).on w = (.ok plan, w') := by
    rw [ofRedirects_on, opening]
    rfl
  obtain ⟨-, -, launched⟩ := launched_as_redirected planned (by decide)
  obtain ⟨runner, on, same, -⟩ := launched w' rfl rfl idle rfl
  rw [opening] at same
  exact ⟨planned, runner, on, same.files 0, same.files 1, same.files 2⟩

end Shell
