import Shell.Proofs.Trimming

/-!
# Tokens — cutting a line at a space

The scanner never looks back at the tokens that it has finished (`Scan.run_after`).  A space that it
does not hold finishes the pending token just as the end of the line does
(`Scan.step_space_of_not_holds`), and nothing but the finished tokens is left of what was read
before.  Inside quotes a space is held, and the missing quote has to come first
(`Scan.openQuote`).

`tokenize_cut`: so a line can be cut at any space outside of quotes, and one with an open quote has
the tokens that it has once the quote is closed.
-/

namespace Shell

namespace Scan

/-- The same place in a line, when other tokens were finished before it. -/
def after (done : Array Token) (s : Scan) : Scan :=
  { s with tokens := done ++ s.tokens }

variable {s : Scan} (done : Array Token)

/-! ### Tokens that were finished before -/

theorem finish_after (s : Scan) (make : String → Token) :
    (s.after done).finish make = (s.finish make).after done := by
  by_cases none : s.pending = ""
  · simp [finish, after, none]
  · simp [finish, after, none]

theorem plain_after (s : Scan) (c : Char) : (s.after done).plain c = (s.plain c).after done := by
  have push : ∀ (s : Scan) (c : Char), (s.after done).push c = (s.push c).after done :=
    fun _ _ => rfl
  have enter : ∀ (s : Scan) (mode : Mode),
      (s.after done).enter mode = (s.enter mode).after done := fun _ _ => rfl
  unfold plain
  split
  case h_6 =>
    have pending : (s.after done).pending = s.pending := rfl
    rw [pending]
    split
    · rw [push, enter]
    · rw [finish_after, push, enter]
  all_goals simp only [push, enter, finish_after]

/-- A step leaves the tokens alone that were finished before it. -/
theorem step_after (s : Scan) (c : Char) : (s.after done).step c = (s.step c).after done := by
  have mode : (s.after done).mode = s.mode := rfl
  unfold step
  rw [mode]
  cases s.mode with
  | plain => exact plain_after done s c
  | escaped => rfl
  | singleQuoted =>
      dsimp only
      split <;> rfl
  | doubleQuoted =>
      dsimp only
      split
      · rfl
      · split <;> rfl
  | doubleEscaped =>
      dsimp only
      split <;> rfl
  | operator =>
      have pending : (s.after done).pending = s.pending := rfl
      dsimp only
      rw [pending, finish_after, plain_after]
      split <;> rfl

/-- So does a run. -/
theorem run_after (s : Scan) (text : List Char) :
    (s.after done).run text = (s.run text).after done := by
  induction text generalizing s with
  | nil => rfl
  | cons c text ih => rw [run_cons, run_cons, step_after, ih]

theorem close_after (s : Scan) : (s.after done).close = done.toList ++ s.close := by
  have mode : (s.after done).mode = s.mode := rfl
  unfold close
  rw [mode, finish_after, finish_after]
  cases s.mode <;> simp [after]

/-! ### Open quotes -/

/-- The quote that closes the one that is open, if one is. -/
def openQuote (s : Scan) : List Char :=
  match s.mode with
  | .singleQuoted => ['\'']
  | .doubleQuoted => ['"']
  | _ => []

/-- Behind that quote a space is not held, and the tokens are what they were. -/
theorem run_openQuote (settled : ¬ s.escapePending) :
    ¬ (s.run s.openQuote).Holds ∧ (s.run s.openQuote).close = s.close := by
  cases mode : s.mode with
  | plain | operator => simp [openQuote, mode, Holds]
  | singleQuoted | doubleQuoted =>
      by_cases none : s.pending = "" <;>
        simp [openQuote, mode, Holds, step, enter, close, finish, none]
  | escaped | doubleEscaped => simp [escapePending, mode] at settled

end Scan

/-- A line with the quote closed that it leaves open. -/
def closed (line : String) : String :=
  line ++ String.ofList (Scan.run {} line.toList).openQuote

/-- **A space outside of quotes** cuts a line: the tokens before it are those of what stands before
it, and the tokens behind it are those of what stands behind it.  A quote that is left open costs
nothing. -/
theorem tokenize_cut {a : String} (settled : ¬ (Scan.run {} a.toList).escapePending) (b : String) :
    tokenize (closed a ++ " " ++ b) = tokenize a ++ tokenize b := by
  let s := Scan.run {} a.toList
  obtain ⟨free, same⟩ := Scan.run_openQuote (s := s) settled
  have cut : (closed a ++ " " ++ b).toList = a.toList ++ (s.openQuote ++ ' ' :: b.toList) := by
    simp [closed, s]
  have fresh : Scan.behind s.close.toArray none = Scan.after s.close.toArray {} := by
    simp [Scan.behind, Scan.after]
  calc tokenize (closed a ++ " " ++ b)
      = (((s.run s.openQuote).step ' ').run b.toList).close := by
        rw [tokenize, cut, Scan.run_append, Scan.run_append, Scan.run_cons]
    _ = ((Scan.after s.close.toArray {}).run b.toList).close := by
        rw [Scan.step_space_of_not_holds free, same, fresh]
    _ = tokenize a ++ tokenize b := by
        rw [Scan.run_after, Scan.close_after]
        rfl

/-- A cut behind an open quote that holds an operator, and one inside of two operators. -/
theorem tokenize_cut_open :
    ¬ (Scan.run {} "echo \"a >'".toList).escapePending
      ∧ closed "echo \"a >'" = "echo \"a >'\""
      ∧ tokenize (closed "echo \"a >'" ++ " " ++ "b'c") = tokenize "echo \"a >'" ++ tokenize "b'c"
      ∧ ¬ (Scan.run {} "x 2>".toList).escapePending
      ∧ closed "x 2>" = "x 2>"
      ∧ tokenize (closed "x 2>" ++ " " ++ "> y") = tokenize "x 2>" ++ tokenize "> y" := by
  have quoted : ¬ (Scan.run {} "echo \"a >'".toList).escapePending := by decide
  have operator : ¬ (Scan.run {} "x 2>".toList).escapePending := by decide
  exact ⟨quoted, by decide, tokenize_cut quoted "b'c", operator, by decide,
    tokenize_cut operator "> y"⟩

end Shell
