import Shell.Proofs.Trimming

/-!
# Tokens — what becomes of the characters

The scanner makes up no text: every character that it puts into a token was read, and it puts none
in twice or in another place.  What is left out are spaces, quotes and backslashes (`Token.IsMark`).

`Thinned` is a text with some of its characters deleted.  Between two characters the scanner has
taken up some of what it read (`Scan.taken`), and of a backslash between double quotes it does not
know yet whether it is left out (`Scan.withheld`).  A step takes up the character that it reads,
with the backslash in front of it or without, or leaves it out (`Scan.exists_taken_step`).

`texts_tokenize_thinned`: so the texts of the tokens of a line are the line with some marks deleted,
and without quotes and backslashes it is the spaces that are, each of them.
-/

namespace Shell

/-- A text with some of its characters deleted, each of them deletable. -/
inductive Thinned (deletable : Char → Prop) : List Char → List Char → Prop where
  | nil : Thinned deletable [] []
  | keep (c : Char) {text rest : List Char} (h : Thinned deletable text rest) :
      Thinned deletable (c :: text) (c :: rest)
  | delete {c : Char} {text rest : List Char} (allowed : deletable c)
      (h : Thinned deletable text rest) : Thinned deletable (c :: text) rest

namespace Thinned

variable {deletable : Char → Prop} {a b c d : List Char}

theorem refl (a : List Char) : Thinned deletable a a := by
  induction a with
  | nil => exact .nil
  | cons c _ ih => exact .keep c ih

theorem trans (h : Thinned deletable a b) (h' : Thinned deletable b c) : Thinned deletable a c := by
  induction h generalizing c with
  | nil => exact h'
  | keep _ _ ih =>
      cases h' with
      | keep _ h' => exact .keep _ (ih h')
      | delete allowed h' => exact .delete allowed (ih h')
  | delete allowed _ ih => exact .delete allowed (ih h')

theorem append (h : Thinned deletable a b) (h' : Thinned deletable c d) :
    Thinned deletable (a ++ c) (b ++ d) := by
  induction h with
  | nil => exact h'
  | keep c _ ih => exact .keep c ih
  | delete allowed _ ih => exact .delete allowed ih

end Thinned

/-- The characters that a line can have more of than its tokens. -/
def Token.IsMark (c : Char) : Prop :=
  c = ' ' ∨ c = '\'' ∨ c = '"' ∨ c = '\\'

instance (c : Char) : Decidable (Token.IsMark c) :=
  inferInstanceAs (Decidable (_ ∨ _))

namespace Scan

/-- The characters of the finished tokens and of the pending one. -/
def taken (s : Scan) : List Char :=
  s.tokens.toList.flatMap (fun token => token.text.toList) ++ s.pending.toList

/-- The backslash that may still be taken up. -/
def withheld (s : Scan) : List Char :=
  if s.mode = .doubleEscaped then ['\\'] else []

variable {s : Scan} {c : Char}

/-! ### What a step takes up -/

@[simp]
theorem taken_enter (s : Scan) (mode : Mode) : (s.enter mode).taken = s.taken := rfl

@[simp]
theorem taken_push (s : Scan) (c : Char) : (s.push c).taken = s.taken ++ [c] := by
  simp [taken, push]

/-- To finish a token moves its characters and no more. -/
theorem taken_finish {make : String → Token} (texts : ∀ text, (make text).text = text)
    (s : Scan) : (s.finish make).taken = s.taken := by
  by_cases none : s.pending = ""
  · rw [finish, if_pos none]
  · simp [finish, none, taken, texts]

@[simp]
theorem taken_finish_word (s : Scan) : (s.finish .word).taken = s.taken :=
  taken_finish (fun _ => rfl) s

@[simp]
theorem taken_finish_operator (s : Scan) : (s.finish .operator).taken = s.taken :=
  taken_finish (fun _ => rfl) s

/-- Plain text is taken up, but for marks. -/
theorem taken_plain (s : Scan) (c : Char) :
    (s.plain c).taken = s.taken ++ if Token.IsMark c then [] else [c] := by
  unfold plain
  split
  case h_6 =>
    split <;> simp [Token.IsMark]
  case h_7 space single double backslash _ _ =>
    have free : ¬ Token.IsMark c := by
      rintro (rfl | rfl | rfl | rfl) <;> contradiction
    simp [free]
  all_goals simp [Token.IsMark]

theorem withheld_plain (s : Scan) (c : Char) : (s.plain c).withheld = [] := by
  unfold plain
  split <;> simp [withheld, enter]

/-- A character of plain text. -/
theorem exists_taken_plain (s : Scan) (c : Char) :
    ∃ kept, (s.plain c).taken = s.taken ++ kept
      ∧ Thinned Token.IsMark [c] (kept ++ (s.plain c).withheld) := by
  refine ⟨_, taken_plain s c, ?_⟩
  rw [withheld_plain, List.append_nil]
  split
  · exact .delete ‹_› .nil
  · exact .refl [c]

/-- **A step** takes up what was withheld and what it reads, with some marks deleted, and withholds
the end of it. -/
theorem exists_taken_step (s : Scan) (c : Char) :
    ∃ kept, (s.step c).taken = s.taken ++ kept
      ∧ Thinned Token.IsMark (s.withheld ++ [c]) (kept ++ (s.step c).withheld) := by
  have quote : Token.IsMark '\'' := by decide
  have double : Token.IsMark '"' := by decide
  have backslash : Token.IsMark '\\' := by decide
  cases mode : s.mode with
  | plain =>
      have none : s.withheld = [] := by simp [withheld, mode]
      rw [step, mode, none]
      exact s.exists_taken_plain c
  | escaped =>
      refine ⟨[c], by simp [step, mode], ?_⟩
      simpa [withheld, step, mode, enter] using Thinned.refl [c]
  | singleQuoted =>
      by_cases ends : c = '\''
      · refine ⟨[], by simp [step, mode, ends], ?_⟩
        simpa [withheld, step, mode, ends, enter] using Thinned.delete quote .nil
      · refine ⟨[c], by simp [step, mode, ends], ?_⟩
        simpa [withheld, step, mode, ends, push] using Thinned.refl [c]
  | doubleQuoted =>
      by_cases ends : c = '"'
      · refine ⟨[], by simp [step, mode, ends], ?_⟩
        simpa [withheld, step, mode, ends, enter] using Thinned.delete double .nil
      by_cases escapes : c = '\\'
      · -- nothing is taken up, and the backslash is kept in mind
        refine ⟨[], by simp [step, mode, escapes], ?_⟩
        simpa [withheld, step, mode, escapes, enter] using Thinned.refl ['\\']
      · refine ⟨[c], by simp [step, mode, ends, escapes], ?_⟩
        simpa [withheld, step, mode, ends, escapes, push] using Thinned.refl [c]
  | doubleEscaped =>
      by_cases escapable : isDoubleEscapable c
      · refine ⟨[c], by simp [step, mode, escapable], ?_⟩
        simpa [withheld, step, mode, enter] using Thinned.delete backslash (.refl [c])
      · -- the backslash that was withheld stands for itself
        refine ⟨['\\', c], by simp [step, mode, escapable], ?_⟩
        simpa [withheld, step, mode, enter] using Thinned.refl ['\\', c]
  | operator =>
      have none : s.withheld = [] := by simp [withheld, mode]
      rw [none]
      by_cases grows : RedirectKind.isSpelling (s.pending.push c)
      · refine ⟨[c], by simp [step, mode, grows], ?_⟩
        simpa [withheld, step, mode, grows, push] using Thinned.refl [c]
      · simpa [step, mode, grows] using (s.finish .operator).exists_taken_plain c

/-- **A run** takes up what it reads, with some marks deleted. -/
theorem exists_taken_run (s : Scan) (text : List Char) :
    ∃ kept, (s.run text).taken = s.taken ++ kept
      ∧ Thinned Token.IsMark (s.withheld ++ text) (kept ++ (s.run text).withheld) := by
  induction text generalizing s with
  | nil => exact ⟨[], by simp, by simpa using .refl _⟩
  | cons c text ih =>
      obtain ⟨first, taken, thinned⟩ := s.exists_taken_step c
      obtain ⟨more, taken', thinned'⟩ := ih (s.step c)
      refine ⟨first ++ more, by rw [run_cons, taken', taken, List.append_assoc], ?_⟩
      have before : Thinned Token.IsMark (s.withheld ++ c :: text)
          (first ++ ((s.step c).withheld ++ text)) := by
        simpa using thinned.append (.refl text)
      have behind : Thinned Token.IsMark (first ++ ((s.step c).withheld ++ text))
          (first ++ more ++ (s.run (c :: text)).withheld) := by
        simpa using (Thinned.refl first).append thinned'
      exact before.trans behind

/-- Where the line ends, the tokens hold what was taken up. -/
theorem texts_close (s : Scan) :
    s.close.flatMap (fun token => token.text.toList) = s.taken := by
  have finished : ∀ {make : String → Token}, (∀ text, (make text).text = text) →
      (s.finish make).tokens.toList.flatMap (fun token => token.text.toList) = s.taken := by
    intro make texts
    have done : (s.finish make).pending = "" := by
      by_cases none : s.pending = "" <;> simp [finish, none]
    rw [← taken_finish texts s, taken, done]
    simp
  unfold close
  split
  · exact finished fun _ => rfl
  · exact finished fun _ => rfl

/-! ### Lines without quotes and backslashes -/

/-- Neither a quote nor a backslash. -/
def IsBare (c : Char) : Prop :=
  c ≠ '\'' ∧ c ≠ '"' ∧ c ≠ '\\'

theorem isMark_iff_of_isBare (bare : IsBare c) : Token.IsMark c ↔ c = ' ' := by
  simp [Token.IsMark, bare.1, bare.2.1, bare.2.2]

theorem not_holds_plain (bare : IsBare c) (s : Scan) : ¬ (s.plain c).Holds := by
  obtain ⟨single, double, backslash⟩ := bare
  unfold plain
  split <;> first | contradiction | simp [Holds, enter]

/-- A bare character of plain text is taken up unless it is a space. -/
theorem taken_plain_of_isBare (bare : IsBare c) (s : Scan) :
    (s.plain c).taken = s.taken ++ [c].filter (· ≠ ' ') := by
  simp only [taken_plain, isMark_iff_of_isBare bare]
  by_cases space : c = ' ' <;> simp [space]

/-- In plain text a step takes up what it reads unless it is a space, and stays in plain text. -/
theorem taken_step_of_isBare (free : ¬ s.Holds) (bare : IsBare c) :
    (s.step c).taken = s.taken ++ [c].filter (· ≠ ' ') ∧ ¬ (s.step c).Holds := by
  cases mode : s.mode with
  | plain =>
      rw [step, mode]
      exact ⟨taken_plain_of_isBare bare s, not_holds_plain bare s⟩
  | operator =>
      rw [step, mode]
      dsimp only
      split
      · rename_i grows
        -- no operator holds a space
        have visible : c ≠ ' ' := by
          rintro rfl
          rcases RedirectKind.eq_of_isSpelling_push grows with e | ⟨e, -⟩ <;> cases e
        exact ⟨by simp [visible], by simp [Holds, push, mode]⟩
      · rw [taken_plain_of_isBare bare, taken_finish_operator]
        exact ⟨rfl, not_holds_plain bare _⟩
  | escaped | singleQuoted | doubleQuoted | doubleEscaped =>
      exact absurd ⟨by simp [mode], by simp [mode]⟩ free

theorem taken_run_of_isBare {text : List Char} (free : ¬ s.Holds) (bare : ∀ c ∈ text, IsBare c) :
    (s.run text).taken = s.taken ++ text.filter (· ≠ ' ') := by
  induction text generalizing s with
  | nil => simp
  | cons c text ih =>
      obtain ⟨first, free⟩ := taken_step_of_isBare free (bare c List.mem_cons_self)
      have more := ih free fun d mem => bare d (List.mem_cons_of_mem _ mem)
      rw [run_cons, more, first, List.append_assoc, ← List.filter_append, List.singleton_append]

end Scan

/-! ### A line -/

/-- **The texts of the tokens** are the line with some of its characters deleted, every one a space,
a quote or a backslash.  Of a line without quotes and backslashes they are what is left when the
spaces are taken away. -/
theorem texts_tokenize_thinned (line : String) :
    Thinned Token.IsMark line.toList (String.join ((tokenize line).map Token.text)).toList
      ∧ ((∀ c ∈ line.toList, c ≠ '\'' ∧ c ≠ '"' ∧ c ≠ '\\') →
        String.join ((tokenize line).map Token.text)
          = String.ofList (line.toList.filter (· ≠ ' '))) := by
  have texts : (String.join ((tokenize line).map Token.text)).toList
      = (Scan.run {} line.toList).taken := by
    rw [← Scan.texts_close, tokenize, String.toList_join, List.flatMap_map]
  have none : Scan.taken {} = [] := rfl
  constructor
  · obtain ⟨kept, taken, thinned⟩ := Scan.exists_taken_run {} line.toList
    rw [texts, taken, none, List.nil_append]
    -- a backslash that is still withheld at the end is left out
    have dropped : Thinned Token.IsMark (kept ++ (Scan.run {} line.toList).withheld) kept := by
      unfold Scan.withheld
      split
      · simpa using (Thinned.refl kept).append (.delete (by decide : Token.IsMark '\\') .nil)
      · simpa using Thinned.refl kept
    exact Thinned.trans thinned dropped
  · intro bare
    have free : ¬ Scan.Holds {} := by decide
    rw [← String.toList_inj, texts, Scan.taken_run_of_isBare free bare, none, String.toList_ofList,
      List.nil_append]

/-- A backslash that stands for itself, one that does not, an open quote, and operators that touch
words. -/
theorem texts_tokenize_thinned_quoted :
    let line := "a\\ b>\"\\q\\$"
    let plain := " ls -l  2>>f<g "
    Thinned Token.IsMark line.toList (String.join ((tokenize line).map Token.text)).toList
      ∧ tokenize line = [.word "a b", .operator ">", .word "\\q$"]
      ∧ (∀ c ∈ plain.toList, c ≠ '\'' ∧ c ≠ '"' ∧ c ≠ '\\')
      ∧ String.join ((tokenize plain).map Token.text)
        = String.ofList (plain.toList.filter (· ≠ ' '))
      ∧ tokenize plain = [.word "ls", .word "-l", .operator "2>>", .word "f", .operator "<",
        .word "g"] := by
  intro line plain
  have bare : ∀ c ∈ plain.toList, c ≠ '\'' ∧ c ≠ '"' ∧ c ≠ '\\' := by simp [plain]
  exact ⟨(texts_tokenize_thinned line).1, by decide +kernel, bare,
    (texts_tokenize_thinned plain).2 bare, by decide +kernel⟩

end Shell
