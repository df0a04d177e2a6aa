import Shell.Proofs.Rejecting

/-!
# Commands — what becomes of the tokens of a line

The scanner knows of operators only which characters may stand in front of `>` and whether one more
`>` still spells one.  All the same it makes proper tokens only (`isProper_of_mem_tokenize`), since
what it has of an operator is always an operator by itself (`Scan.Sound`).

So a line can fail to be a command in few ways, and where it is one no word of it is lost:

* `Command.perm_words`: in a run of sound redirects each word is an argument or a target, once.
* `ofLine_deals_every_word`: no line has an unknown operator, a target can only be missing at the
  end, and a command has each word of its line as an argument or as a target.
-/

namespace Shell

/-! ### What the scanner makes -/

namespace Scan

variable {s : Scan} {c : Char}

/-- Whether every finished token is proper, and the pending one as well if it is an operator. -/
structure Sound (s : Scan) : Prop where
  finished : ∀ token ∈ s.tokens, token.IsProper
  pending : s.mode = .operator → s.pending ∈ Token.operators

theorem pending_finish (s : Scan) (make : String → Token) : (s.finish make).pending = "" := by
  by_cases none : s.pending = ""
  · rw [finish, if_pos none, none]
  · rw [finish, if_neg none]

/-- A token with characters is finished as a proper one if it is proper. -/
theorem isProper_of_mem_finish {make : String → Token} (done : ∀ token ∈ s.tokens, token.IsProper)
    (proper : s.pending ≠ "" → (make s.pending).IsProper) :
    ∀ token ∈ (s.finish make).tokens, token.IsProper := by
  intro token mem
  by_cases none : s.pending = ""
  · rw [finish, if_pos none] at mem
    exact done token mem
  · rw [finish, if_neg none, Array.mem_push] at mem
    rcases mem with mem | rfl
    · exact done token mem
    · exact proper none

/-- What `>` takes up makes an operator with it. -/
theorem push_mem_operators {pending : String} (joins : joinsOperator pending) :
    pending.push '>' ∈ Token.operators := by
  obtain ⟨chars, rfl⟩ : ∃ chars, pending = String.ofList chars :=
    ⟨pending.toList, by simp⟩
  unfold joinsOperator at joins
  split at joins
  · rename_i none
    rw [String.toList_ofList] at none
    rw [none]
    decide
  · rename_i mark one
    rw [String.toList_ofList] at one
    simp only [RedirectKind.isDescriptorMark, Bool.or_eq_true, decide_eq_true_eq] at joins
    rcases joins with (rfl | rfl) | rfl <;> rw [one] <;> decide
  · cases joins

/-- Plain text is read soundly whatever the pending characters are, as they make a word. -/
theorem sound_plain (done : ∀ token ∈ s.tokens, token.IsProper) (c : Char) :
    (s.plain c).Sound := by
  have words : ∀ token ∈ (s.finish .word).tokens, token.IsProper :=
    isProper_of_mem_finish done id
  have empty : (s.finish .word).pending = "" := s.pending_finish .word
  unfold plain
  split
  case h_5 =>
    refine ⟨isProper_of_mem_finish words fun _ => ?_, fun e => by cases e⟩
    have pending : ((s.finish .word).push '<').pending = "<" := by rw [push, empty]; rfl
    rw [pending]
    show "<" ∈ Token.operators
    decide
  case h_6 =>
    by_cases joins : joinsOperator s.pending
    · rw [if_pos joins]
      exact ⟨done, fun _ => push_mem_operators joins⟩
    · rw [if_neg joins]
      have pending : (((s.finish .word).push '>').enter .operator).pending = ">" := by
        rw [enter, push, empty]; rfl
      exact ⟨words, fun _ => pending ▸ by decide⟩
  case h_4 => exact ⟨words, fun e => by cases e⟩
  all_goals exact ⟨done, fun e => by cases e⟩

/-- **A step** keeps the scanner sound. -/
theorem Sound.step (h : s.Sound) (c : Char) : (s.step c).Sound := by
  unfold Scan.step
  cases mode : s.mode with
  | plain => exact sound_plain h.finished c
  | escaped => exact ⟨h.finished, fun e => by cases e⟩
  | doubleEscaped =>
      dsimp only
      refine ⟨?_, fun e => by cases e⟩
      split <;> exact h.finished
  | singleQuoted =>
      dsimp only
      split
      · exact ⟨h.finished, fun e => by cases e⟩
      · exact ⟨h.finished, fun e => by cases mode.symm.trans e⟩
  | doubleQuoted =>
      dsimp only
      split
      · exact ⟨h.finished, fun e => by cases e⟩
      split
      · exact ⟨h.finished, fun e => by cases e⟩
      · exact ⟨h.finished, fun e => by cases mode.symm.trans e⟩
  | operator =>
      dsimp only
      split
      · rename_i grows
        exact ⟨h.finished, fun _ => RedirectKind.isSpelling_iff.mp grows⟩
      · refine sound_plain ?_ c
        exact isProper_of_mem_finish h.finished fun _ => h.pending mode

/-- So does a run. -/
theorem Sound.run (h : s.Sound) (text : List Char) : (s.run text).Sound := by
  induction text generalizing s with
  | nil => exact h
  | cons c text ih => exact ih (h.step c)

/-- Where a line ends, the tokens are proper. -/
theorem Sound.isProper_of_mem_close (h : s.Sound) : ∀ token ∈ s.close, token.IsProper := by
  intro token mem
  unfold close at mem
  rw [Array.mem_toList_iff] at mem
  split at mem
  · rename_i mode
    have operator : s.pending ≠ "" → (Token.operator s.pending).IsProper :=
      fun _ => h.pending mode
    exact isProper_of_mem_finish h.finished operator token mem
  · exact isProper_of_mem_finish h.finished id token mem

end Scan

/-- **Every token of a line** is a word with characters or one of the nine operators. -/
theorem isProper_of_mem_tokenize (line : String) : ∀ token ∈ tokenize line, token.IsProper := by
  have start : Scan.Sound {} := ⟨by simp, fun e => by cases e⟩
  exact (start.run line.toList).isProper_of_mem_close

/-! ### What the parser makes of it -/

/-- The text of a word. -/
def Token.word? : Token → Option String
  | word text => some text
  | operator _ => none

namespace Command

variable {tokens : List Token} {cause : ParseError.Cause} {i looked : Nat}

/-- The words among tokens, in their order. -/
def wordsOf (tokens : List Token) : List String :=
  tokens.filterMap Token.word?

/-- The texts of the targets. -/
def targets (command : Command) : List String :=
  command.redirects.map fun redirect => redirect.target.text

/-- **In a run of sound redirects** each word is an argument or a target, once, and both are in the
order of the words. -/
theorem perm_words (proper : ∀ token ∈ tokens, token.IsProper) (sound : ∀ i, SoundAt tokens i) :
    (wordsOf tokens).Perm (freeTexts tokens ++ (pairs tokens).map Prod.snd)
      ∧ (freeTexts tokens).Sublist (wordsOf tokens)
      ∧ ((pairs tokens).map Prod.snd).Sublist (wordsOf tokens) := by
  induction tokens using walk with
  | nil => exact ⟨.refl _, .refl _, .refl _⟩
  | word text rest ih =>
      obtain ⟨perm, free, target⟩ := ih (fun token mem => proper token (List.mem_cons_of_mem _ mem))
        fun i => sound (i + 1)
      have nonempty : text ≠ "" := proper _ List.mem_cons_self
      have first : freeTexts (.word text :: rest) = text :: freeTexts rest := by
        simp [freeTexts_word, Word.ofText?, nonempty]
      rw [first, pairs_word]
      exact ⟨perm.cons text, free.cons_cons text, target.cons text⟩
  | redirect spelling text rest ih =>
      obtain ⟨perm, free, target⟩ := ih
        (fun token mem => proper token (List.mem_cons_of_mem _ (List.mem_cons_of_mem _ mem)))
        fun i => sound (i + 2)
      rw [freeTexts_redirect, pairs_redirect]
      exact ⟨(perm.cons text).trans List.perm_middle.symm, free.cons text, target.cons_cons text⟩
  | stuck spelling rest apart =>
      obtain ⟨kind, target, -, next⟩ := exists_of_soundAt_zero (sound 0)
      exact absurd next (apart _)

/-- The texts that redirects are spelled by are those of their targets. -/
theorem map_target_of_isSpelledBy {redirects : List Redirect} {pairs : List (String × String)}
    (spelled : List.Forall₂ Redirect.IsSpelledBy redirects pairs) :
    redirects.map (fun redirect => redirect.target.text) = pairs.map Prod.snd := by
  induction spelled with
  | nil => rfl
  | cons first _ ih => rw [List.map_cons, List.map_cons, first.2, ih]

/-- The first defect of a run that is no command, if it has one. -/
theorem exists_defectAt_of_ofTokens {error : ParseError} (failed : ofTokens tokens = .error error)
    (some : error.cause ≠ .noCommand) :
    ∃ i looked, DefectAt tokens i error.cause looked ∧ error.position = i + looked := by
  by_cases sound : ∀ i, SoundAt tokens i
  · rcases ofTokens_of_sound sound with ⟨-, none⟩ | ⟨command, made, -⟩
    · rw [none] at failed
      cases failed
      exact absurd rfl some
    · rw [made] at failed
      cases failed
  · obtain ⟨i, unsound⟩ := not_forall.mp sound
    obtain ⟨i, cause, looked, before, defective⟩ := exists_leftmost unsound
    rw [ofTokens_of_defectAt defective before] at failed
    cases failed
    exact ⟨i, looked, defective, rfl⟩

/-- Among proper tokens a target is missing only behind the last one. -/
theorem DefectAt.last_of_missingTarget {spelling : String}
    (proper : ∀ token ∈ tokens, token.IsProper)
    (defective : DefectAt tokens i (.missingTarget spelling) looked) :
    tokens.getLast? = some (.operator spelling) ∧ i + looked = tokens.length := by
  cases defective with
  | emptyWord here known behind =>
      exact absurd rfl (proper _ (List.mem_of_getElem? behind))
  | nothing here known behind =>
      obtain ⟨inside, -⟩ := List.getElem?_eq_some_iff.mp here
      have outside := List.getElem?_eq_none_iff.mp behind
      have last : i = tokens.length - 1 := by omega
      refine ⟨?_, by omega⟩
      rw [List.getLast?_eq_getElem?, ← last, here]

end Command

/-- **A line deals with every token.**  Its tokens are words with characters and known operators.
So no line is refused for an unknown operator, and one is refused for a missing target only if its
last token is the operator, all tokens being looked at.  A line that is a command has arguments, and
each of its words is one of them or a target, once; both are in the order of the line. -/
theorem ofLine_deals_every_word (line : String) :
    (∀ token ∈ tokenize line, token.IsProper)
      ∧ (∀ spelling position,
        Command.ofLine line ≠ .error { cause := .unknownOperator spelling, position })
      ∧ (∀ spelling position,
        Command.ofLine line = .error { cause := .missingTarget spelling, position } →
          (tokenize (Text.trim line)).getLast? = some (.operator spelling)
            ∧ position = (tokenize (Text.trim line)).length)
      ∧ ∀ command, Command.ofLine line = .ok command →
        command.argv ≠ []
          ∧ (Command.wordsOf (tokenize (Text.trim line))).Perm (command.argv ++ command.targets)
          ∧ command.argv.Sublist (Command.wordsOf (tokenize (Text.trim line)))
          ∧ command.targets.Sublist (Command.wordsOf (tokenize (Text.trim line))) := by
  have proper := isProper_of_mem_tokenize (Text.trim line)
  refine ⟨isProper_of_mem_tokenize line, ?_, ?_, ?_⟩
  · intro spelling position failed
    obtain ⟨i, looked, defective, -⟩ := Command.exists_defectAt_of_ofTokens failed (by simp)
    cases defective with
    | unknown here unknown => exact unknown (proper _ (List.mem_of_getElem? here))
  · intro spelling position failed
    obtain ⟨i, looked, defective, at'⟩ := Command.exists_defectAt_of_ofTokens failed (by simp)
    obtain ⟨last, all⟩ := defective.last_of_missingTarget proper
    exact ⟨last, at'.trans all⟩
  · intro command made
    obtain ⟨sound, argv, spelled⟩ := Command.ofTokens_eq_ok_iff.mp made
    have targets := Command.map_target_of_isSpelledBy spelled
    rw [argv, Command.targets, targets, ← argv]
    exact ⟨List.cons_ne_nil _ _, argv ▸ Command.perm_words proper sound⟩

/-- A line that ends in an operator, and one whose words touch operators on both sides. -/
theorem ofLine_deals_every_word_mixed :
    let unfinished := "ls 1>>"
    let line := " a1>b 2>c d<'e f' "
    let command : Command := ⟨⟨"a1", by decide⟩, [⟨"d", by decide⟩],
      [⟨.output, ⟨"b", by decide⟩⟩, ⟨.error, ⟨"c", by decide⟩⟩, ⟨.input, ⟨"e f", by decide⟩⟩]⟩
    Command.ofLine unfinished = .error { cause := .missingTarget "1>>", position := 2 }
      ∧ (tokenize (Text.trim unfinished)).getLast? = some (.operator "1>>")
      ∧ Command.ofLine line = .ok command
      ∧ Command.wordsOf (tokenize (Text.trim line)) = ["a1", "b", "c", "d", "e f"]
      ∧ command.argv = ["a1", "d"] ∧ command.targets = ["b", "c", "e f"]
      ∧ (Command.wordsOf (tokenize (Text.trim line))).Perm (command.argv ++ command.targets) := by
  intro unfinished line command
  have refused : Command.ofLine unfinished
      = .error { cause := .missingTarget "1>>", position := 2 } := by decide
  have read : Command.ofLine line = .ok command := by decide
  obtain ⟨-, -, missing, -⟩ := ofLine_deals_every_word unfinished
  obtain ⟨-, -, -, dealt⟩ := ofLine_deals_every_word line
  obtain ⟨-, perm, -⟩ := dealt command read
  exact ⟨refused, (missing "1>>" 2 refused).1, read, by decide, by decide, by decide, perm⟩

end Shell
