import Shell.Command.Parse
import Shell.Proofs.Reading

/-!
# Commands — what trimming takes away

A line is trimmed before it is scanned, when nothing is known yet of its quotes and backslashes.
Spaces at its start are passed over by the scanner as well (`Scan.run_spaces`).  Spaces at its end
are passed over only behind plain text or an operator; inside quotes and behind a backslash they
belong to the last word (`Scan.Holds`), and trimming takes them away from it.

* `Scan.close_run_spaces_iff`: spaces at the end leave the tokens as they are exactly if the scanner
  does not hold them.
* `tokenize_trim_eq_iff`: trimming leaves the tokens of a line as they are exactly if the line does
  not end in spaces that the scanner holds.
* `ofLine_loses_escaped_space`: a line with an escaped space at its end is read as another command.
-/

namespace Shell

/-! ### Blanks at the ends -/

namespace Text

/-- A text is what trimming leaves of it, between blanks. -/
theorem exists_trimmed (text : List Char) :
    ∃ before behind, text = before ++ trimmed text ++ behind ∧ (∀ c ∈ before, isBlank c)
      ∧ (∀ c ∈ behind, isBlank c) := by
  refine ⟨text.takeWhile isBlank, ((text.dropWhile isBlank).reverse.takeWhile isBlank).reverse,
    ?_, fun c mem => List.all_eq_true.mp List.all_takeWhile c mem, fun c mem => ?_⟩
  · rw [trimmed, List.append_assoc, ← List.reverse_append, List.takeWhile_append_dropWhile,
      List.reverse_reverse, List.takeWhile_append_dropWhile]
  · exact List.all_eq_true.mp List.all_takeWhile c (List.mem_reverse.mp mem)

/-- A text of spaces and of characters that are no blanks is what trimming leaves of it, between
spaces. -/
theorem exists_spaces {text : List Char} (spaces : ∀ c ∈ text, isBlank c → c = ' ') :
    ∃ m n, text = List.replicate m ' ' ++ trimmed text ++ List.replicate n ' ' := by
  obtain ⟨before, behind, e, blank, blank'⟩ := exists_trimmed text
  have first : before = List.replicate before.length ' ' :=
    List.eq_replicate_of_mem fun c mem => spaces c (by rw [e]; simp [mem]) (blank c mem)
  have last : behind = List.replicate behind.length ' ' :=
    List.eq_replicate_of_mem fun c mem => spaces c (by rw [e]; simp [mem]) (blank' c mem)
  exact ⟨before.length, behind.length, by rw [← first, ← last]; exact e⟩

/-- What trimming leaves does not end in a blank. -/
theorem isBlank_getLast?_trimmed {text : List Char} {c : Char}
    (h : (trimmed text).getLast? = some c) : isBlank c = false := by
  rw [trimmed, List.getLast?_reverse] at h
  have kept := List.head?_dropWhile_not isBlank (text.dropWhile isBlank).reverse
  rw [h] at kept
  simpa using kept

end Text

namespace Scan

/-- Whether a space that is read next becomes part of the pending word. -/
def Holds (s : Scan) : Prop :=
  s.mode ≠ .plain ∧ s.mode ≠ .operator

instance (s : Scan) : Decidable s.Holds :=
  inferInstanceAs (Decidable (_ ∧ _))

/-- The word of some characters, if there are any. -/
def wordOf (pending : String) : List Token :=
  if pending = "" then [] else [.word pending]

theorem wordOf_injective {pending other : String} (h : wordOf pending = wordOf other) :
    pending = other := by
  unfold wordOf at h
  split at h <;> split at h <;> simp_all

theorem close_of_ne_operator {s : Scan} (h : s.mode ≠ .operator) :
    s.close = s.tokens.toList ++ wordOf s.pending := by
  obtain ⟨mode, pending, tokens⟩ := s
  by_cases none : pending = "" <;> cases mode <;> simp_all [close, finish, wordOf]

/-! ### Spaces -/

/-- Spaces at the start of a line are passed over. -/
theorem run_spaces (n : Nat) : run {} (List.replicate n ' ') = {} :=
  run_behind_spaces n #[]

/-- Plain spaces finish the pending word and do nothing more. -/
theorem run_plain_spaces (pending : String) (tokens : Array Token) (n : Nat) :
    run ⟨.plain, pending, tokens⟩ (List.replicate (n + 1) ' ')
      = finish ⟨.plain, pending, tokens⟩ .word := by
  have first : step ⟨.plain, pending, tokens⟩ ' ' = finish ⟨.plain, pending, tokens⟩ .word := by
    by_cases none : pending = "" <;> simp [step, plain, finish, enter, none]
  have empty : ∃ done, finish ⟨.plain, pending, tokens⟩ .word = behind done none := by
    by_cases none : pending = "" <;> simp [finish, behind, none]
  obtain ⟨done, e⟩ := empty
  rw [List.replicate_succ, run_cons, first, e, run_behind_spaces]

theorem close_finish_word (pending : String) (tokens : Array Token) :
    (finish ⟨.plain, pending, tokens⟩ .word).close = close ⟨.plain, pending, tokens⟩ := by
  by_cases none : pending = "" <;> simp [finish, close, none]

theorem run_quoted_spaces {mode : Mode} (quoted : mode = .singleQuoted ∨ mode = .doubleQuoted)
    (pending : String) (tokens : Array Token) (n : Nat) :
    run ⟨mode, pending, tokens⟩ (List.replicate n ' ')
      = ⟨mode, pending ++ String.ofList (List.replicate n ' '), tokens⟩ := by
  induction n generalizing pending with
  | zero => simp
  | succ n ih =>
      have first : step ⟨mode, pending, tokens⟩ ' ' = ⟨mode, pending.push ' ', tokens⟩ := by
        rcases quoted with rfl | rfl <;> rfl
      rw [List.replicate_succ, run_cons, first, ih, push_append_ofList]

/-- Spaces that the scanner holds end in the last word. -/
theorem close_run_spaces_of_holds {s : Scan} (h : s.Holds) (n : Nat) :
    ∃ c more, (s.run (List.replicate (n + 1) ' ')).close
      = s.tokens.toList ++ wordOf (s.pending ++ String.ofList (c :: more)) := by
  obtain ⟨mode, pending, tokens⟩ := s
  cases mode with
  | plain => exact absurd rfl h.1
  | operator => exact absurd rfl h.2
  | singleQuoted =>
      refine ⟨' ', List.replicate n ' ', ?_⟩
      rw [run_quoted_spaces (Or.inl rfl), close_of_ne_operator (by simp), List.replicate_succ]
  | doubleQuoted =>
      refine ⟨' ', List.replicate n ' ', ?_⟩
      rw [run_quoted_spaces (Or.inr rfl), close_of_ne_operator (by simp), List.replicate_succ]
  | escaped =>
      refine ⟨' ', [], ?_⟩
      have first : step ⟨.escaped, pending, tokens⟩ ' ' = ⟨.plain, pending.push ' ', tokens⟩ := rfl
      have whole : pending.push ' ' = pending ++ String.ofList [' '] := by
        simp [← String.toList_inj]
      rw [List.replicate_succ, run_cons, first, whole]
      -- the escaped space is part of the word, and the ones behind it only finish the word
      cases n with
      | zero => exact close_of_ne_operator (by simp)
      | succ n =>
          rw [run_plain_spaces, close_finish_word, close_of_ne_operator (by simp)]
  | doubleEscaped =>
      refine ⟨'\\', ' ' :: List.replicate n ' ', ?_⟩
      have first : step ⟨.doubleEscaped, pending, tokens⟩ ' '
          = ⟨.doubleQuoted, (pending.push '\\').push ' ', tokens⟩ := rfl
      rw [List.replicate_succ, run_cons, first, run_quoted_spaces (Or.inr rfl),
        close_of_ne_operator (by simp), push_append_ofList, push_append_ofList]

/-- Any other space finishes the pending token, as the end of the line does. -/
theorem step_space_of_not_holds {s : Scan} (h : ¬ s.Holds) :
    s.step ' ' = behind s.close.toArray none := by
  obtain ⟨mode, pending, tokens⟩ := s
  rw [close, Array.toArray_toList]
  cases mode with
  | plain => by_cases none : pending = "" <;> simp [step, plain, finish, enter, behind, none]
  | operator =>
      have ends : RedirectKind.isSpelling (pending.push ' ') = false := by
        refine Bool.eq_false_iff.mpr fun grows => ?_
        rcases RedirectKind.eq_of_isSpelling_push grows with e | ⟨e, -⟩ <;> cases e
      have finished : step ⟨.operator, pending, tokens⟩ ' '
          = ((finish ⟨.operator, pending, tokens⟩ .operator).finish .word).enter .plain := by
        simp [step, ends, plain]
      rw [finished]
      by_cases none : pending = "" <;> simp [finish, enter, behind, none]
  | escaped | singleQuoted | doubleQuoted | doubleEscaped =>
      exact absurd ⟨by simp, by simp⟩ h

theorem close_behind_none (done : Array Token) : (behind done none).close = done.toList := by
  simp [behind, close, finish]

/-- Other spaces are passed over. -/
theorem close_run_spaces_of_not_holds {s : Scan} (h : ¬ s.Holds) (n : Nat) :
    (s.run (List.replicate n ' ')).close = s.close := by
  cases n with
  | zero => rfl
  | succ n =>
      rw [List.replicate_succ, run_cons, step_space_of_not_holds h, run_behind_spaces,
        close_behind_none]

/-- **Spaces at the end** leave the tokens as they are exactly if the scanner does not hold them. -/
theorem close_run_spaces_iff (s : Scan) (n : Nat) :
    (s.run (List.replicate n ' ')).close = s.close ↔ (n ≠ 0 → ¬ s.Holds) := by
  constructor
  · intro same some holds
    obtain ⟨k, rfl⟩ := Nat.exists_eq_succ_of_ne_zero some
    obtain ⟨c, more, longer⟩ := close_run_spaces_of_holds holds k
    rw [longer, close_of_ne_operator holds.2, List.append_cancel_left_eq] at same
    have texts := congrArg String.toList (wordOf_injective same)
    simp at texts
  · intro free
    by_cases none : n = 0
    · subst none
      rfl
    · exact close_run_spaces_of_not_holds (free none) n

end Scan

/-! ### A line -/

/-- **Trimming** a line without other blanks than spaces leaves its tokens as they are exactly if
the line does not end in a space that the scanner holds.  Then it is read as the command that its
own tokens spell. -/
theorem tokenize_trim_eq_iff {line : String}
    (spaces : ∀ c ∈ line.toList, Text.isBlank c → c = ' ') :
    (tokenize (Text.trim line) = tokenize line ↔
        (line.toList.getLast? = some ' ' → ¬ (Scan.run {} (Text.trim line).toList).Holds))
      ∧ ((line.toList.getLast? = some ' ' → ¬ (Scan.run {} (Text.trim line).toList).Holds) →
        Command.ofLine line = Command.ofTokens (tokenize line)) := by
  obtain ⟨m, n, e⟩ := Text.exists_spaces spaces
  have scanned : tokenize line
      = ((Scan.run {} (Text.trim line).toList).run (List.replicate n ' ')).close := by
    rw [tokenize, e, Scan.run_append, Scan.run_append, Scan.run_spaces, Text.toList_trim]
  have ends : (Scan.run {} (Text.trim line).toList).Holds →
      (line.toList.getLast? = some ' ' ↔ n ≠ 0) := by
    intro holds
    -- a line of spaces alone leaves the scanner in plain text
    have some : Text.trimmed line.toList ≠ [] := by
      intro none
      rw [Text.toList_trim, none] at holds
      exact holds.1 rfl
    cases n with
    | zero =>
        obtain ⟨c, last⟩ := Option.ne_none_iff_exists'.mp (mt List.getLast?_eq_none_iff.mp some)
        have visible := Text.isBlank_getLast?_trimmed last
        rw [e, List.replicate_zero, List.append_nil, List.getLast?_append, last]
        refine ⟨fun space => ?_, fun none => absurd rfl none⟩
        cases space
        cases visible
    | succ n =>
        rw [e, List.replicate_succ', ← List.append_assoc, List.getLast?_concat]
        simp
  have same : tokenize (Text.trim line) = tokenize line ↔
      (line.toList.getLast? = some ' ' → ¬ (Scan.run {} (Text.trim line).toList).Holds) := by
    rw [scanned, tokenize, eq_comm, Scan.close_run_spaces_iff]
    constructor
    · exact fun free space holds => free ((ends holds).mp space) holds
    · exact fun free some holds => free ((ends holds).mpr some) holds
  refine ⟨same, fun free => ?_⟩
  rw [Command.ofLine, same.mpr free]

theorem Text.eq_space_of_all {text : List Char} (h : text.all fun c => !isBlank c || c = ' ') :
    ∀ c ∈ text, isBlank c → c = ' ' := by
  intro c mem blank
  simpa [blank] using List.all_eq_true.mp h c mem

/-- A line of plain text between spaces, with an escaped space inside. -/
theorem tokenize_trim_eq_iff_inside :
    (∀ c ∈ "  echo a\\ b  ".toList, Text.isBlank c → c = ' ')
      ∧ Command.ofLine "  echo a\\ b  " = Command.ofTokens (tokenize "  echo a\\ b  ") := by
  have spaces : ∀ c ∈ "  echo a\\ b  ".toList, Text.isBlank c → c = ' ' :=
    Text.eq_space_of_all (by decide)
  exact ⟨spaces, (tokenize_trim_eq_iff spaces).2 fun _ => by decide⟩

/-- The space behind the backslash is trimmed away, and the word loses it. -/
theorem ofLine_loses_escaped_space :
    (∀ c ∈ "echo a\\ ".toList, Text.isBlank c → c = ' ')
      ∧ (Command.ofLine "echo a\\ ").map Command.argv = .ok ["echo", "a"]
      ∧ (Command.ofTokens (tokenize "echo a\\ ")).map Command.argv = .ok ["echo", "a "] :=
  ⟨Text.eq_space_of_all (by decide), rfl, rfl⟩

end Shell
