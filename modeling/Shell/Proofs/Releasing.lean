import Shell.Proofs.Reopening
import Shell.Proofs.Sending

/-!
# Bindings — released

A release flushes the streams that a binding owns up to the first that is stuck, and ending the
binding tries each of them again, so that one stuck stream does not keep the other from sending
(`Binding.Sends.discard`).

* `Binding.flushOwned_on_eq_error_iff`: what the caller is told.
* `Redirection.sending_of_apply`: redirects leave a binding that has nothing to send.
* `Redirection.release_loses_nothing`: nothing that such a binding has accepted is lost, unless its
  own streams write over each other.
-/

namespace Shell

/-! ### What redirects leave -/

namespace Opening

variable {tree : FileTree} {cwd : Location} {redirects : List Redirect} {directive : Redirect}
  {file : OpenFile}

/-- A file that was opened to be emptied is empty, whatever was opened after it. -/
theorem empty_of_mem (h : (directive, file) ∈ (of tree cwd redirects).opened)
    (truncates : directive.kind.openMode = .truncate) {bits : Nat} {content : Bytes}
    (at' : (of tree cwd redirects).tree.get? file.location = some (.file bits content)) :
    content = [] := by
  induction redirects generalizing tree with
  | nil => cases h
  | cons first rest ih =>
      cases opened : tree.openFile cwd first.kind.openMode first.target.text with
      | error cause => simp [of, opened] at h
      | ok opened' =>
          simp only [of, opened, List.mem_cons] at h at'
          rcases h with h | h
          · cases h
            rcases file_of_tree at' with none | before
            · exact none
            · have after := (FileTree.openFile_ok opened).2
              rw [truncates] at after
              exact after.empty bits content before
          · exact ih h at'

theorem atEnd_of_mem (h : (directive, file) ∈ (of tree cwd redirects).opened)
    (writes : directive.kind.writes) : file.AtEnd (of tree cwd redirects).tree := by
  rw [OpenFile.AtEnd, mode_of_mem h]
  refine ⟨fun reads => ?_, fun truncates bits content at' => ?_⟩
  · exact Bool.noConfusion (writes.symm.trans (directive.kind.openMode_eq_read_iff.mp reads))
  · rw [empty_of_mem h truncates at', start_of_mem h]
    rfl

end Opening

namespace Redirection

/-- An output of a connected binding is the one it was, or a new stream to an opened file. -/
theorem stream_connected {io : Binding} {w : World} {channel : Channel}
    (live : ∀ channel, io.stream channel < w.writers.length) (opened : List (Redirect × OpenFile)) :
    let made := connected io w opened
    (made.1.owns channel = io.owns channel ∧ made.1.stream channel = io.stream channel
        ∧ made.2.writers[io.stream channel]? = w.writers[io.stream channel]?)
      ∨ (made.1.owns channel ∧ ∃ directive file, (directive, file) ∈ opened ∧ directive.kind.writes
        ∧ made.2.writers[made.1.stream channel]? = some (.buffered file [])) := by
  induction opened generalizing io w with
  | nil => exact .inl ⟨rfl, rfl, rfl⟩
  | cons first rest ih =>
      obtain ⟨directive, file⟩ := first
      have live' : ∀ channel, (io.connect directive.kind w).stream channel
          < (w.gain directive.kind file).writers.length := by
        intro channel
        rw [Binding.stream_connect, World.writers_gain, List.length_append]
        cases new : directive.kind.redirects channel with
        | true => simp [directive.kind.writes_iff.mpr ⟨channel, new⟩]
        | false => exact Nat.lt_add_right _ (live channel)
      -- A redirect behind the first may take the stream over; if none does, the first decides.
      rcases ih live' with ⟨owns, stream, found⟩ | ⟨owns, directive', file', mem, rest⟩
      · rw [Binding.stream_connect] at stream found
        rw [Binding.owns_connect] at owns
        cases new : directive.kind.redirects channel with
        | true =>
            have writes := directive.kind.writes_iff.mpr ⟨channel, new⟩
            rw [new, if_pos rfl] at stream found
            refine .inr ⟨by rw [connected_cons, owns, new]; rfl, directive, file,
              List.mem_cons_self, writes, ?_⟩
            rw [connected_cons, stream, found, World.getElem?_gain_length _ writes]
        | false =>
            rw [new, if_neg Bool.false_ne_true] at stream found
            refine .inl ⟨by rw [connected_cons, owns, new]; rfl, stream, ?_⟩
            rw [connected_cons, found, World.getElem?_gain_of_lt (live channel)]
      · exact .inr ⟨owns, directive', file', List.mem_cons_of_mem _ mem, rest⟩

variable {redirects : List Redirect} {base : Binding} {resolved : Resolved} {w w' : World}
  {channel : Channel}

/-- After redirects over streams in memory, an output is one of these still, or a stream of the
binding's own that was opened for writing and has nothing to send. -/
theorem output_of_apply (memory : ∀ channel, w.InMemory (base.stream channel))
    (applied : (apply redirects base).on w = (.ok resolved, w')) (channel : Channel) :
    (w'.InMemory (resolved.binding.stream channel)
        ∧ (redirects = [] ∨ resolved.binding.owns channel = false))
      ∨ (resolved.binding.owns channel ∧ ∃ file, file.AtEnd w'.machine.tree
        ∧ w'.writers[resolved.binding.stream channel]? = some (.buffered file [])) := by
  rw [apply_on] at applied
  cases refusal : (Opening.of w.machine.tree w.cwd redirects).refusal with
  | some error =>
      rw [refusal] at applied
      cases applied
  | none =>
      rw [refusal] at applied
      cases applied
      by_cases bare : redirects = []
      · subst bare
        exact .inl ⟨memory channel, .inl rfl⟩
      rw [if_neg bare]
      have live : ∀ channel,
          Binding.stream { base with owned := {} } channel < w.writers.length := by
        intro channel
        obtain ⟨collected, found⟩ := memory channel
        have lt := (List.getElem?_eq_some_iff.mp found).1
        cases channel <;> exact lt
      have same : Binding.stream { base with owned := {} } channel = base.stream channel := by
        cases channel <;> rfl
      rcases stream_connected live (Opening.of w.machine.tree w.cwd redirects).opened with
        ⟨owns, stream, found⟩ | ⟨owns, directive, file, mem, writes, found⟩
      · refine .inl ⟨?_, .inr (owns.trans (by cases channel <;> rfl))⟩
        obtain ⟨collected, there⟩ := memory channel
        exact ⟨collected, (congrArg _ stream).trans (found.trans (same ▸ there))⟩
      · exact .inr ⟨owns, file, Opening.atEnd_of_mem mem writes, found⟩

/-- **Redirects** over streams in memory leave a binding that has accepted and sent nothing. -/
theorem sending_of_apply (memory : ∀ channel, w.InMemory (base.stream channel))
    (applied : (apply redirects base).on w = (.ok resolved, w')) :
    Sending resolved.binding w' (fun _ => []) [] w' := by
  refine .initial fun channel file waiting found => ?_
  rcases output_of_apply memory applied channel with
    ⟨⟨collected, there⟩, -⟩ | ⟨-, file', atEnd, there⟩
  · cases there.symm.trans found
  · cases there.symm.trans found
    exact ⟨rfl, atEnd⟩

end Redirection

/-! ### Flushing and ending -/

/-- Whether a binding has sent, or keeps, all that its streams accepted since another world. -/
def Binding.Sends (io : Binding) (start : World) (accepted : WriterId → Bytes) (w : World) :
    Prop :=
  ∃ sent, Sending io start accepted sent w

namespace Binding.Sends

variable {io : Binding} {start w : World} {accepted : WriterId → Bytes}

theorem flush_if (h : io.Sends start accepted w) (uncrossed : io.Uncrossed start) (wanted : Bool)
    (channel : Channel) :
    let after := ((if wanted then World.flush (io.stream channel) else pure () :
      Effect SystemError Unit).on w).2
    io.Sends start accepted after
      ∧ (wanted → ¬ start.IsBlocked (io.stream channel) → after.Idle (io.stream channel)) := by
  cases wanted with
  | false => exact ⟨h, nofun⟩
  | true =>
      obtain ⟨sent, sending⟩ := h
      obtain ⟨given, idle⟩ := World.given_flush fun file waiting found =>
        (sending.held channel file waiting found).1
      obtain ⟨sent', after⟩ := sending.given uncrossed given
      refine ⟨⟨sent', by simpa using after⟩, fun _ free => idle ?_⟩
      rwa [sending.files.isBlocked_iff]

theorem warn (h : io.Sends start accepted w) (message : String) :
    io.Sends start accepted (w.warn message) := by
  obtain ⟨sent, sending⟩ := h
  exact ⟨sent, sending.aside (.record w ..)⟩

theorem flushOwned (h : io.Sends start accepted w) (uncrossed : io.Uncrossed start) :
    io.Sends start accepted (io.flushOwned.on w).2 := by
  rw [flushOwned_eq]
  exact Effect.after_bind (h.flush_if uncrossed io.owned.output .output).1 fun _ _ first =>
    (first.flush_if uncrossed _ .error).1

/-- A last attempt for each stream of its own leaves only what the stuck ones keep. -/
theorem settled (h : io.Sends start accepted w) (uncrossed : io.Uncrossed start) :
    let between := if io.owned.output then settle io.output w else w
    let after := if io.owned.error then settle io.error between else between
    io.Sends start accepted after
      ∧ ∀ channel, io.owns channel → ¬ start.IsBlocked (io.stream channel) →
        after.Idle (io.stream channel) := by
  simp only [settle_if]
  obtain ⟨between, output⟩ := h.flush_if uncrossed io.owned.output .output
  obtain ⟨after, error⟩ := between.flush_if uncrossed io.owned.error .error
  refine ⟨after, fun channel own free => ?_⟩
  cases channel with
  | output => exact (output own free).flush_if _ _
  | error => exact error own free

/-- **Ending a binding** tries all of its own streams, so that none but those that are stuck keep
anything back. -/
theorem discard (h : io.Sends start accepted w) (uncrossed : io.Uncrossed start) :
    io.Sends start accepted (io.discard w)
      ∧ ∀ channel, io.owns channel → ¬ start.IsBlocked (io.stream channel) →
        (io.discard w).Idle (io.stream channel) := by
  have flushed := h.flushOwned uncrossed
  unfold Binding.discard
  revert flushed
  rcases io.flushOwned.on w with ⟨e | _, w'⟩ <;> intro flushed
  · exact (flushed.warn _).settled uncrossed
  · exact flushed.settled uncrossed

theorem release (h : io.Sends start accepted w) (uncrossed : io.Uncrossed start) :
    io.Sends start accepted (io.release.on w).2
      ∧ ∀ channel, io.owns channel → ¬ start.IsBlocked (io.stream channel) →
        (io.release.on w).2.Idle (io.stream channel) :=
  (h.flushOwned uncrossed).discard uncrossed

end Binding.Sends

/-! ### What the caller is told -/

namespace Binding

variable {io : Binding} {w : World}

/-- Whether the files that a binding's own streams go to were opened for writing. -/
def OpensToWrite (io : Binding) (w : World) : Prop :=
  ∀ channel, io.owns channel → ∀ location mode,
    w.opened? (io.stream channel) = some (location, mode) → mode ≠ .read

theorem flush_if_on_eq_error_iff {wanted : Bool} {id : WriterId} {cause : SystemError}
    (writes : wanted → ∀ location mode, w.opened? id = some (location, mode) → mode ≠ .read) :
    ((if wanted then World.flush id else pure () : Effect SystemError Unit).on w).1 = .error cause
      ↔ wanted ∧ w.StuckFor id cause := by
  cases wanted with
  | false => simp
  | true => simpa using World.flush_on_eq_error_iff (writes rfl)

/-- Once the output was flushed, the flush of the error output fails where this one was stuck
before. -/
theorem flush_error_on_eq_error_iff (writes : io.OpensToWrite w) {w' : World} {cause : SystemError}
    (flushed : (if io.owned.output then World.flush io.output else pure () :
      Effect SystemError Unit).on w = (.ok (), w')) :
    ((if io.owned.error && !(io.owned.output && io.isMerged) then World.flush io.error
        else pure () : Effect SystemError Unit).on w').1 = .error cause
      ↔ io.owned.error ∧ w.StuckFor io.error cause := by
  have after : ((if io.owned.output then World.flush io.output else pure () :
      Effect SystemError Unit).on w).2 = w' := congrArg Prod.snd flushed
  have same : w.SameFiles w' := by
    rw [← after]
    cases io.owned.output with
    | false => exact .refl w
    | true => exact .flush io.output w
  have writes' : io.owned.error && !(io.owned.output && io.isMerged) → ∀ location mode,
      w'.opened? io.error = some (location, mode) → mode ≠ .read := by
    intro wanted location mode opened
    rw [same.opened] at opened
    exact writes .error (Bool.and_eq_true_iff.mp wanted).1 location mode opened
  rw [flush_if_on_eq_error_iff writes']
  by_cases both : io.owned.output && io.isMerged
  · -- the one stream of both was flushed, so it is not stuck
    obtain ⟨own, merged⟩ := Bool.and_eq_true_iff.mp both
    have shared : io.output = io.error := of_decide_eq_true merged
    refine iff_of_false (fun wanted => by simp [both] at wanted) fun ⟨_, stuck⟩ => ?_
    have failed := (@flush_if_on_eq_error_iff w io.owned.output io.output cause
      (writes .output)).mpr ⟨own, shared ▸ stuck⟩
    rw [flushed] at failed
    cases failed
  · have kept : w'.writers[io.error]? = w.writers[io.error]? := by
      rw [← after]
      refine writers_flush_if (fun wanted merged => both ?_) w
      simp [wanted, isMerged, merged]
    rw [same.stuckFor_iff kept, Bool.eq_false_iff.mpr both]
    simp

/-- **Flushing its own streams fails** for a binding exactly if one of them is stuck, and for the
reason of the output if both are. -/
theorem flushOwned_on_eq_error_iff (writes : io.OpensToWrite w) {cause : SystemError} :
    (io.flushOwned.on w).1 = .error cause
      ↔ io.owned.output ∧ w.StuckFor io.output cause
        ∨ ¬ (io.owned.output ∧ w.Stuck io.output) ∧ io.owned.error ∧ w.StuckFor io.error cause := by
  have first := fun cause =>
    @flush_if_on_eq_error_iff w io.owned.output io.output cause (writes .output)
  rw [flushOwned_eq, Effect.on_bind]
  rcases flushed : (if io.owned.output then World.flush io.output
    else pure () : Effect SystemError Unit).on w with ⟨e | _, w'⟩
  · rw [flushed] at first
    obtain ⟨own, stuck⟩ := (first e).mp rfl
    constructor
    · rintro ⟨⟩
      exact .inl ⟨own, stuck⟩
    · rintro (told | ⟨free, -⟩)
      · exact (first cause).mpr told
      · exact absurd ⟨own, e, stuck⟩ free
  · rw [flushed] at first
    have free : ∀ cause, ¬ (io.owned.output ∧ w.StuckFor io.output cause) := fun cause stuck => by
      cases (first cause).mpr stuck
    dsimp only
    rw [flush_error_on_eq_error_iff writes flushed]
    refine ⟨fun told => .inr ⟨fun ⟨own, cause, stuck⟩ => free cause ⟨own, stuck⟩, told⟩, ?_⟩
    rintro (stuck | ⟨-, told⟩)
    · exact absurd stuck (free cause)
    · exact told

/-- Two devices that take no bytes, each for its own reason. -/
example :
    let io : Binding :=
      { input := 0, output := 0, error := 1, owned := { output := true, error := true } }
    let w : World :=
      { machine.tree.entries := [(["dev"], .directory), (["hung", "dev"], .device .hungUp),
          (["full", "dev"], .device .full)]
        writers := [.buffered { location := ["hung", "dev"], mode := .append } [97],
          .buffered { location := ["full", "dev"], mode := .append } [98]] }
    (io.flushOwned.on w).1 = .error .inputOutput := rfl

/-- It fails for some reason exactly if one of them is stuck. -/
theorem exists_flushOwned_on_eq_error_iff (writes : io.OpensToWrite w) :
    (∃ cause, (io.flushOwned.on w).1 = .error cause)
      ↔ ∃ channel, io.owns channel ∧ w.Stuck (io.stream channel) := by
  simp only [flushOwned_on_eq_error_iff writes]
  constructor
  · rintro ⟨cause, ⟨own, stuck⟩ | ⟨-, own, stuck⟩⟩
    · exact ⟨.output, own, cause, stuck⟩
    · exact ⟨.error, own, cause, stuck⟩
  · rintro ⟨channel, own, cause, stuck⟩
    by_cases output : io.owned.output ∧ w.Stuck io.output
    · obtain ⟨own, cause, stuck⟩ := output
      exact ⟨cause, .inl ⟨own, stuck⟩⟩
    · cases channel with
      | output => exact absurd ⟨own, cause, stuck⟩ output
      | error => exact ⟨cause, .inr ⟨output, own, stuck⟩⟩

end Binding

namespace Redirection

variable {redirects : List Redirect} {base io : Binding} {w w₀ : World}

theorem opensToWrite_of_apply (memory : ∀ channel, w.InMemory (base.stream channel))
    (applied : (apply redirects base).on w = (.ok (.derived io), w₀)) : io.OpensToWrite w₀ := by
  intro channel _ location mode opened
  obtain ⟨file, waiting, found, rfl, rfl⟩ := World.exists_of_opened? opened
  exact ((sending_of_apply memory applied).held channel file waiting found).1.1

/-- **A release loses nothing.**  Of a binding that redirects made over streams in memory, whatever
its outputs were offered: its release fails exactly if one of its own streams is stuck, and with the
refusal of the output if that one is.  Unless its outputs write over each other, every file holds
after a release, and after an end without one, what it held before and behind that what was sent to
it; and through each stream of its own, if its file takes bytes, just what the stream accepted was
sent, in that order. -/
theorem release_loses_nothing (memory : ∀ channel, w.InMemory (base.stream channel))
    (applied : (apply redirects base).on w = (.ok (.derived io), w₀))
    (writes : List (Channel × Bytes)) :
    let offers := (io.offer writes w₀).1
    let w₁ := (io.offer writes w₀).2
    let released := io.release.on w₁
    ((∃ cause, released.1 = .error cause)
        ↔ ∃ channel, io.owns channel ∧ w₁.Stuck (io.stream channel))
      ∧ (io.owned.output → w₁.Stuck io.output →
        released.1 = ((World.flush io.output).on w₁).1)
      ∧ (io.owned.error → w₁.Stuck io.error → ¬ (io.owned.output ∧ w₁.Stuck io.output) →
        released.1 = ((World.flush io.error).on w₁).1)
      ∧ (io.Uncrossed w₀ → ∀ after, after = released.2 ∨ after = io.discard w₁ →
        ∃ sent, w₀.Received sent after
          ∧ (∀ id bytes, (id, bytes) ∈ sent → ∃ channel, io.stream channel = id)
          ∧ ∀ channel, io.owns channel → ¬ w₀.IsBlocked (io.stream channel) →
            sentBy (· = io.stream channel) sent = Offer.taken (io.stream channel) offers) := by
  intro offers w₁ released
  have offered := io.offered_offer writes w₀
  have same : w₀.SameFiles w₁ := offered.sameFiles
  have writable : io.OpensToWrite w₁ := fun channel own location mode opened =>
    opensToWrite_of_apply memory applied channel own location mode (same.opened _ ▸ opened)
  have told : ∀ cause, released.1 = .error cause ↔ _ :=
    fun cause => Binding.flushOwned_on_eq_error_iff writable
  refine ⟨Binding.exists_flushOwned_on_eq_error_iff writable, ?_, ?_, ?_⟩
  · rintro own ⟨cause, stuck⟩
    rw [(told cause).mpr (.inl ⟨own, stuck⟩)]
    exact ((World.flush_on_eq_error_iff (writable .output own)).mpr stuck).symm
  · rintro own ⟨cause, stuck⟩ free
    rw [(told cause).mpr (.inr ⟨free, own, stuck⟩)]
    exact ((World.flush_on_eq_error_iff (writable .error own)).mpr stuck).symm
  · intro uncrossed after ended
    have sends : io.Sends w₀ (Offer.taken · offers) w₁ := by
      have start : Sending io w₀ (fun _ => []) [] w₀ := sending_of_apply memory applied
      obtain ⟨sent, sending⟩ := start.offered uncrossed offered
      exact ⟨sent, by simpa only [List.nil_append] using sending⟩
    -- A release and an end without one leave the same waiting: what stuck streams keep.
    obtain ⟨⟨sent, sending⟩, idle⟩ : io.Sends w₀ (Offer.taken · offers) after
        ∧ ∀ channel, io.owns channel → ¬ w₀.IsBlocked (io.stream channel) →
          after.Idle (io.stream channel) := by
      rcases ended with rfl | rfl
      · exact sends.release uncrossed
      · exact sends.discard uncrossed
    refine ⟨sent, sending.received, sending.own, fun channel own free => ?_⟩
    rcases output_of_apply memory applied channel with ⟨-, none | none⟩ | ⟨-, file, -, found⟩
    · subst none
      cases applied
    · rw [show Resolved.binding (.derived io) = io from rfl, own] at none
      cases none
    · have opened := (sending.files.opened _).trans (World.opened?_of_buffered found)
      obtain ⟨file', waiting, there, -, -⟩ := World.exists_of_opened? opened
      obtain rfl : waiting = [] := idle channel own free _ there
      simpa using (sending.held channel file' [] there).2

/-- Output to a full device, and errors to a file, where they are although the output is stuck. -/
theorem release_loses_nothing_beside_stuck :
    let nodes : List (Location × Node) :=
      [(["d"], .directory), (["dev"], .directory), (["full", "dev"], .device .full)]
    let start := Binding.overMemory [] { machine.tree.entries := nodes, cwd := ["d"] }
    let redirects : List Redirect :=
      [⟨.output, ⟨"../dev/full", by decide⟩⟩, ⟨.error, ⟨"f", by decide⟩⟩]
    let io : Binding :=
      { input := 0, output := 2, error := 3, owned := { output := true, error := true } }
    let w₀ : World := { start.2 with
      machine.tree.entries := nodes ++ [(["f", "d"], .file 0o644 [])]
      writers := start.2.writers
        ++ [.buffered { location := ["full", "dev"], mode := .truncate } [],
          .buffered { location := ["f", "d"], mode := .truncate } []] }
    let writes : List (Channel × Bytes) := [(.error, Bytes.ofText "ab"),
      (.output, Bytes.ofText "cd"), (.error, Bytes.ofText "e")]
    let w₁ := (io.offer writes w₀).2
    (apply redirects start.1).on start.2 = (.ok (.derived io), w₀)
      ∧ io.Uncrossed w₀ ∧ w₁.Stuck io.output
      ∧ (io.release.on w₁).1 = ((World.flush io.output).on w₁).1
      ∧ ∃ sent, w₀.Received sent (io.release.on w₁).2
        ∧ sentBy (· = io.error) sent = Bytes.ofText "abe" := by
  intro nodes start redirects io w₀ writes w₁
  have memory : ∀ channel, start.2.InMemory (start.1.stream channel) := by
    rintro (_ | _) <;> exact ⟨_, rfl⟩
  have opening : Opening.of start.2.machine.tree start.2.cwd redirects
      = { opened := redirects.zip [{ location := ["full", "dev"], mode := .truncate },
            { location := ["f", "d"], mode := .truncate }],
          refusal := none, tree := w₀.machine.tree } := by decide
  have applied : (apply redirects start.1).on start.2 = (.ok (.derived io), w₀) := by
    rw [apply_on, opening]
    rfl
  have output : w₀.opened? io.output = some (["full", "dev"], .truncate) := rfl
  have error : w₀.opened? io.error = some (["f", "d"], .truncate) := rfl
  have place : ∀ {opened : Option (Location × OpenMode)} {place location : Location}
      {mode mode' : OpenMode}, opened = some (place, mode) → opened = some (location, mode') →
      location = place := by
    rintro _ _ _ _ _ rfl ⟨⟩
    rfl
  have uncrossed : io.Uncrossed w₀ := by
    rintro (_ | _) (_ | _) location mode mode' apart at' at'' -
    case output.output | error.error => exact absurd rfl apart
    case output.error =>
      exact absurd ((place output at').symm.trans (place error at'')) (by decide)
    case error.output =>
      exact absurd ((place output at'').symm.trans (place error at')) (by decide)
  have stuck : w₁.Stuck io.output := by
    refine ⟨.noSpace, fun idle => ?_, rfl⟩
    cases idle _ rfl
  obtain ⟨-, told, -, saved⟩ := release_loses_nothing memory applied writes
  obtain ⟨sent, received, -, whole⟩ := saved uncrossed _ (.inl rfl)
  refine ⟨applied, uncrossed, stuck, told rfl stuck, sent, received, ?_⟩
  refine (whole .error rfl ?_).trans rfl
  rintro ⟨cause, blocked⟩
  cases blocked

/-- Output and errors to one file, opened for each by itself: both streams write at its start, and
what the output has accepted is gone, whether the binding is released or just ended. -/
theorem release_loses_what_is_written_over :
    let start := Binding.overMemory []
      { machine.tree.entries := [(["d"], .directory)], cwd := ["d"] }
    let redirects : List Redirect := [⟨.output, ⟨"f", by decide⟩⟩, ⟨.error, ⟨"f", by decide⟩⟩]
    let writes : List (Channel × Bytes) :=
      [(.output, Bytes.ofText "ab"), (.error, Bytes.ofText "cd")]
    ∃ io w₀, (apply redirects start.1).on start.2 = (.ok (.derived io), w₀)
      ∧ (∀ channel, start.2.InMemory (start.1.stream channel))
      ∧ (∀ channel, io.owns channel ∧ ¬ w₀.IsBlocked (io.stream channel))
      ∧ let offers := (io.offer writes w₀).1
        let w₁ := (io.offer writes w₀).2
        Offer.taken io.output offers = Bytes.ofText "ab"
          ∧ Offer.taken io.error offers = Bytes.ofText "cd"
          ∧ ∀ after, after = (io.release.on w₁).2 ∨ after = io.discard w₁ →
            after.machine.tree.get? ["f", "d"] = some (.file 0o644 (Bytes.ofText "cd")) := by
  intro start redirects writes
  have opening : Opening.of start.2.machine.tree start.2.cwd redirects
      = { opened := redirects.zip [{ location := ["f", "d"], mode := .truncate },
            { location := ["f", "d"], mode := .truncate }],
          refusal := none
          tree.entries := [(["d"], .directory), (["f", "d"], .file 0o644 [])] } := by decide
  refine ⟨_, _, by rw [apply_on, opening]; rfl, ?_, ?_, rfl, rfl, ?_⟩
  · rintro (_ | _) <;> exact ⟨_, rfl⟩
  · rintro (_ | _) <;> refine ⟨rfl, ?_⟩ <;> rintro ⟨cause, blocked⟩ <;> cases blocked
  · rintro after (rfl | rfl) <;> rfl

end Redirection

end Shell
