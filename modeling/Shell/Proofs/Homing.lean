import Shell.Proofs.Arguments
import Shell.Proofs.Joining
import Shell.Proofs.Moving

/-!
# Builtins — `cd` by a path from home

A target of `cd` that starts with a tilde and a slash names the path that the rest of it has behind
home (`Path.Behind`).  Where this leads, or why it leads nowhere, is what changing to home, a slash
and the rest would come to (`Builtin.cdDirectory_of_alike`).

* `Builtin.run_cd_eq`: what `cd` comes to with one target.
* `Builtin.cd_stays_below_home`: so it is for every rest that does not start with a slash itself.
  One that does is taken for a path from the root, and home plays no part.
-/

namespace Shell

/-- The report with another path in place of the one that was asked for. -/
def BuiltinError.naming (path : String) : BuiltinError → BuiltinError
  | homeNotSet => homeNotSet
  | noSuchDirectory _ => noSuchDirectory path
  | notDirectory _ => notDirectory path
  | cannotEnter place cause => cannotEnter place cause
  | stream cause => stream cause

namespace Builtin

variable {w : World} {env : Environment} {path other home rest text : String}

/-! ### Where a path leads -/

/-- **The same path** leads to the same directory, or to none for the same reason. -/
theorem cdDirectory_of_alike (alike : Path.Alike path other) :
    cdDirectory w path = (cdDirectory w other).mapError (BuiltinError.naming path) := by
  unfold cdDirectory
  rw [alike.canonical w.machine.tree w.cwd]
  split
  · rfl
  split
  · split
    · rfl
    · rfl
  · rfl

/-! ### What a target names -/

theorem cdPath_of_home (named : env.get? w "HOME" = some home) (nonempty : home ≠ "")
    (rest : String) : cdPath env w (some ("~/" ++ rest)) = .ok (Path.join home rest) := by
  have home? : env.home? w = some home := by simp [Environment.home?, named, nonempty]
  have chars : ("~/" ++ rest).toList = '~' :: '/' :: rest.toList := by simp
  simp only [cdPath, chars, home?, String.ofList_toList]
  rfl

/-- A path from the root names itself. -/
theorem cdPath_of_isAbsolute (absolute : Path.isAbsolute text = true) :
    cdPath env w (some text) = .ok text := by
  obtain ⟨more, chars⟩ := List.head?_eq_some_iff.mp (of_decide_eq_true absolute)
  -- It is joined to the working directory, of which nothing is left then.
  simp only [cdPath, chars]
  rw [Path.join, if_pos absolute]
  rfl

/-! ### Running `cd` -/

/-- One argument that is neither an option nor `help` is the target. -/
theorem read_cdUsage (plain : Usage.isDashed text = false) (other : text ≠ "help") :
    cdUsage.read none [text] = .ok (some text) := by
  simp [Usage.read, Usage.readFrom, cdUsage, Usage.asksHelp_of_undashed plain other,
    Usage.ne_end_of_undashed plain, plain]

/-- **Running `cd`** with a target that names a path. -/
theorem run_cd_eq {s : SessionState} (accepted : cdUsage.read none [text] = .ok (some text))
    (target : cdPath s.environment s.world (some text) = .ok path) (registry : Registry)
    (io : Binding) :
    (Builtin.cd.run registry io [text]).on s = match cdDirectory s.world path with
      | .ok location => (.ok { exitCode := 0 }, enter location s)
      | .error e => (reportError io e).on s := by
  have led : (cdPath s.environment s.world (some text) >>= cdDirectory s.world)
      = cdDirectory s.world path := by
    rw [target]
    rfl
  rw [Builtin.run, runWith_eq accepted, changeDirectory_on, led]
  rcases cdDirectory s.world path with _ | location
  · rfl
  · rfl

theorem isDashed_of_isAbsolute (absolute : Path.isAbsolute text = true) :
    Usage.isDashed text = false ∧ text ≠ "help" := by
  have first : text.toList.head? = some '/' := of_decide_eq_true absolute
  refine ⟨by simp [Usage.isDashed, first], ?_⟩
  rintro rfl
  cases absolute

theorem read_cdUsage_of_tilde (rest : String) :
    cdUsage.read none ["~/" ++ rest] = .ok (some ("~/" ++ rest)) := by
  refine read_cdUsage (by simp [Usage.isDashed]) fun same => ?_
  have first := congrArg (·.toList.head?) same
  simp at first

/-- A path from the root is entered as it stands. -/
theorem run_cd_of_isAbsolute {s : SessionState} (absolute : Path.isAbsolute path = true)
    (registry : Registry) (io : Binding) :
    (Builtin.cd.run registry io [path]).on s = match cdDirectory s.world path with
      | .ok location => (.ok { exitCode := 0 }, enter location s)
      | .error e => (reportError io e).on s := by
  obtain ⟨plain, other⟩ := isDashed_of_isAbsolute absolute
  exact run_cd_eq (read_cdUsage plain other) (cdPath_of_isAbsolute absolute) registry io

/-- **Running `cd`** with a tilde and a rest comes to what home, a slash and the rest lead to. -/
theorem run_cd_behind_home {s : SessionState}
    (named : s.environment.get? s.world "HOME" = some home) (nonempty : home ≠ "")
    (relative : Path.isAbsolute rest = false) (registry : Registry) (io : Binding) :
    (Builtin.cd.run registry io ["~/" ++ rest]).on s
      = match cdDirectory s.world (home ++ "/" ++ rest) with
        | .ok location => (.ok { exitCode := 0 }, enter location s)
        | .error e => (reportError io (e.naming (Path.join home rest))).on s := by
  rw [run_cd_eq (read_cdUsage_of_tilde rest) (cdPath_of_home named nonempty rest),
    cdDirectory_of_alike (Path.alike_join relative nonempty)]
  rcases cdDirectory s.world (home ++ "/" ++ rest) with _ | location
  · rfl
  · rfl

/-- **A path from home stays below home.**  Where home is named, the target that is written with a
tilde, a slash and a rest names the path that is written with home, a slash and the rest, as long as
the rest does not start with a slash.  So `cd` ends in the directory at this path and gives zero, or
fails for the reason for which this path cannot be entered; and where home is a path from the root,
all is as with the path for a target.  A rest that starts with a slash is the target itself,
whatever home is. -/
theorem cd_stays_below_home {s : SessionState} {home : String}
    (named : s.environment.get? s.world "HOME" = some home) (nonempty : home ≠ "") (rest : String)
    (registry : Registry) (io : Binding) :
    let ran := (Builtin.cd.run registry io ["~/" ++ rest]).on s
    let below := home ++ "/" ++ rest
    (Path.isAbsolute rest = false → ∃ path,
        cdPath s.environment s.world (some ("~/" ++ rest)) = .ok path
          ∧ Path.Behind home rest path
          ∧ (∀ location, cdDirectory s.world below = .ok location →
            ran = (.ok { exitCode := 0 }, enter location s))
          ∧ (∀ e, cdDirectory s.world below = .error e →
            ran = (reportError io (e.naming path)).on s)
          ∧ (Path.isAbsolute home → ran = (Builtin.cd.run registry io [path]).on s))
      ∧ (Path.isAbsolute rest → cdPath s.environment s.world (some ("~/" ++ rest)) = .ok rest
        ∧ ran = (Builtin.cd.run registry io [rest]).on s) := by
  intro ran below
  have target := cdPath_of_home named nonempty rest
  have ran_eq := run_cd_eq (read_cdUsage_of_tilde rest) target registry io
  refine ⟨fun relative => ?_, fun absolute => ?_⟩
  · have behind := Path.behind_join relative nonempty
    have led := run_cd_behind_home named nonempty relative registry io
    refine ⟨_, target, behind, fun location entered => ?_, fun e failed => ?_, fun absolute => ?_⟩
    · exact led.trans (by rw [entered])
    · exact led.trans (by rw [failed])
    · rw [← behind.isAbsolute_eq nonempty] at absolute
      exact ran_eq.trans (run_cd_of_isAbsolute absolute registry io).symm
  · -- Nothing of home is left where the rest starts at the root.
    have joined : Path.join home rest = rest := by rw [Path.join, if_pos absolute]
    rw [joined] at target ran_eq
    exact ⟨target, ran_eq.trans (run_cd_of_isAbsolute absolute registry io).symm⟩

/-- Home ends in a slash, and the rest goes through a link and back: its directory is entered.  A
rest that is missing is reported. -/
theorem cd_stays_below_home_linked :
    let tree : FileTree := { entries := [(["h"], .directory), (["a", "h"], .directory),
      (["l", "h"], .link "a/../a")] }
    let start := Binding.overMemory [] { machine.tree := tree, cwd := ["h"] }
    let s : SessionState := { world := start.2, environment.vars := [("HOME", "/h/")] }
    s.environment.get? s.world "HOME" = some "/h/" ∧ "/h/" ≠ ""
      ∧ (Builtin.cd.run {} start.1 ["~/l/."]).on s
        = (.ok { exitCode := 0 }, enter ["a", "h"] s)
      ∧ ((Builtin.cd.run {} start.1 ["~/b"]).on s).2.world.writers
        = [.memory [], .memory (Bytes.ofText "cd: /h/b: No such file or directory\n")] := by
  intro tree start s
  have named : s.environment.get? s.world "HOME" = some "/h/" := by decide
  have nonempty : "/h/" ≠ "" := by decide
  obtain ⟨path, -, -, enters, -⟩ :=
    (cd_stays_below_home named nonempty "l/." {} start.1).1 (by decide)
  obtain ⟨path', target, -, -, fails, -⟩ :=
    (cd_stays_below_home named nonempty "b" {} start.1).1 (by decide)
  refine ⟨named, nonempty, enters _ (by decide +kernel), ?_⟩
  have spelled : path' = "/h/b" := (Except.ok.inj target).symm
  rw [show "~/b" = "~/" ++ "b" from rfl, fails (.noSuchDirectory "/h//b") (by decide +kernel),
    spelled]
  decide +kernel

/-- A second slash behind the tilde leaves home for the root. -/
theorem cd_leaves_home :
    let start := Binding.overMemory []
      { machine.tree.entries := [(["h"], .directory)], cwd := ["h"] }
    let s : SessionState := { world := start.2, environment.vars := [("HOME", "/h")] }
    s.environment.get? s.world "HOME" = some "/h"
      ∧ cdDirectory s.world ("/h" ++ "/" ++ "/") = .ok ["h"]
      ∧ (Builtin.cd.run {} start.1 ["~/" ++ "/"]).on s = (.ok { exitCode := 0 }, enter [] s) := by
  intro start s
  exact ⟨by decide, by decide, rfl⟩

end Builtin

end Shell
