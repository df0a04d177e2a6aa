import Shell.Command.Parse
import Shell.Proofs.Reading

/-!
# Commands — quoted and read back

Any text becomes one word between single quotes, each quote inside it written as `'\''` (`quoted`).
A command is written as a row of arguments and redirects in any order (`Item`): the arguments and
the targets are quoted, the operators are spelled out, and spaces part them (`Spaced`).

* `writing_of_spaced`: such a line is its tokens written down.
* `tight_of_spaced`: it has no blanks at its ends that could be trimmed.
* `Command.ofLine_of_spaced`: reading it gives the arguments and the redirects, each in their order.
-/

namespace Shell

/-- A character of a quoted text as it is written. -/
def quotedChar (c : Char) : List Char :=
  if c = '\'' then ['\'', '\\', '\'', '\''] else [c]

/-- A text as it is written between single quotes. -/
def quoted (text : String) : List Char :=
  '\'' :: text.toList.flatMap quotedChar ++ ['\'']

/-- A token as it is written with quotes. -/
def Token.quoted : Token → List Char
  | .word text => Shell.quoted text
  | .operator spelling => spelling.toList

/-- A line is a row of tokens with spaces between them. -/
inductive Spaced : List Token → List Char → Prop where
  | last (token : Token) : Spaced [token] token.quoted
  | cons (token : Token) (more : Nat) {tokens : List Token} {line : List Char}
      (rest : Spaced tokens line) :
      Spaced (token :: tokens) (token.quoted ++ List.replicate (more + 1) ' ' ++ line)

/-! ### Quotes -/

/-- A quoted text behind its first quote.  It is the rest of a quoted piece and pieces after it. -/
theorem exists_segments (text : List Char) :
    ∃ (first : List Char) (more : List Segment), '\'' ∉ first ∧ (∀ s ∈ more, s.fits)
      ∧ text = first ++ more.flatMap Segment.text
      ∧ text.flatMap quotedChar ++ ['\''] = first ++ '\'' :: more.flatMap Segment.written := by
  induction text with
  | nil => exact ⟨[], [], by simp, by simp, rfl, rfl⟩
  | cons c text ih =>
      obtain ⟨first, more, plain, fits, e, written⟩ := ih
      by_cases quote : c = '\''
      · subst quote
        refine ⟨[], .escaped '\'' :: .singleQuoted first :: more, by simp, ?_, ?_, ?_⟩
        · intro s hs
          simp only [List.mem_cons] at hs
          rcases hs with rfl | rfl | hs
          · rfl
          · simpa [Segment.fits] using plain
          · exact fits s hs
        · simp [Segment.text, e]
        · simp only [List.flatMap_cons, quotedChar, if_true, List.append_assoc, written]
          simp [Segment.written]
      · refine ⟨c :: first, more, ?_, fits, by rw [e, List.cons_append], ?_⟩
        · simp [plain, Ne.symm quote]
        · simp only [List.flatMap_cons, quotedChar, quote, if_false, List.append_assoc, written]
          simp

/-- **A quoted text** is one word written down. -/
theorem writtenAs_quoted {text : String} (h : text ≠ "") :
    (Token.word text).WrittenAs (quoted text) := by
  obtain ⟨first, more, plain, fits, e, written⟩ := exists_segments text.toList
  have pieces : ∀ s ∈ Segment.singleQuoted first :: more, s.fits := by
    intro s hs
    rcases List.mem_cons.mp hs with rfl | hs
    · simpa [Segment.fits] using plain
    · exact fits s hs
  have whole : (Segment.singleQuoted first :: more).flatMap Segment.text = text.toList := e.symm
  have line : (Segment.singleQuoted first :: more).flatMap Segment.written = quoted text := by
    simp [Segment.written, quoted, written]
  have made := Token.WrittenAs.word pieces
    (by rw [whole]; exact mt String.toList_eq_nil_iff.mp h)
  rwa [whole, line, String.ofList_toList] at made

theorem Token.IsProper.writtenAs {token : Token} (h : token.IsProper) :
    token.WrittenAs token.quoted := by
  cases token with
  | word text => exact writtenAs_quoted h
  | operator spelling => exact .operator h

/-! ### Spaces -/

/-- A line of quoted tokens is the tokens written down, behind nothing or behind spaces. -/
theorem writing_of_spaced {tokens : List Token} {line : List Char} (h : Spaced tokens line)
    (proper : ∀ token ∈ tokens, token.IsProper) (before : Option Token) (spaces : Nat)
    (apart : spaces = 0 → before = none) :
    Writing before tokens (List.replicate spaces ' ' ++ line) := by
  have first : ∀ token : Token, spaces = 0 → ∀ previous ∈ before, previous.mayTouch token := by
    intro token e previous mem
    rw [apart e] at mem
    cases mem
  induction h generalizing before spaces with
  | last token =>
      have made := Writing.cons spaces (first token)
        (proper token (List.mem_singleton_self _)).writtenAs (Writing.nil (some token) 0)
      rwa [List.replicate_zero, List.append_nil] at made
  | cons token more rest ih =>
      have later := ih (fun t mem => proper t (List.mem_cons_of_mem _ mem)) (some token) (more + 1)
        nofun nofun
      have made := Writing.cons spaces (first token)
        (proper token (List.mem_cons_self ..)).writtenAs later
      simpa only [List.append_assoc] using made

/-- Whether a text has blanks neither at its start nor at its end. -/
def Tight (text : List Char) : Prop :=
  (∃ c ∈ text.head?, Text.isBlank c = false) ∧ ∃ c ∈ text.getLast?, Text.isBlank c = false

theorem Tight.append {first last : List Char} (h : Tight first) (h' : Tight last)
    (between : List Char) : Tight (first ++ between ++ last) := by
  obtain ⟨⟨c, start, blank⟩, -⟩ := h
  obtain ⟨-, c', finish, blank'⟩ := h'
  refine ⟨⟨c, ?_, blank⟩, c', ?_, blank'⟩
  · rw [List.append_assoc, List.head?_append, start]
    rfl
  · rw [List.getLast?_append, finish]
    rfl

theorem tight_quoted {token : Token} (h : token.IsProper) : Tight token.quoted := by
  cases token with
  | word text =>
      have finish : (quoted text).getLast? = some '\'' := List.getLast?_concat
      exact ⟨⟨'\'', rfl, rfl⟩, '\'', finish, rfl⟩
  | operator spelling =>
      have ends : ∀ s ∈ Token.operators, s.toList.head?.map Text.isBlank = some false
          ∧ s.toList.getLast?.map Text.isBlank = some false := by decide
      obtain ⟨start, finish⟩ := ends spelling h
      exact ⟨Option.map_eq_some_iff.mp start, Option.map_eq_some_iff.mp finish⟩

theorem tight_of_spaced {tokens : List Token} {line : List Char} (h : Spaced tokens line)
    (proper : ∀ token ∈ tokens, token.IsProper) : Tight line := by
  induction h with
  | last token => exact tight_quoted (proper token (List.mem_singleton_self _))
  | cons token more rest ih =>
      exact (tight_quoted (proper token (List.mem_cons_self ..))).append
        (ih fun t mem => proper t (List.mem_cons_of_mem _ mem)) _

theorem dropWhile_isBlank {text : List Char} {c : Char} (start : text.head? = some c)
    (blank : Text.isBlank c = false) : text.dropWhile Text.isBlank = text := by
  cases text with
  | nil => cases start
  | cons d rest =>
      cases start
      exact List.dropWhile_cons_of_neg (by simp [blank])

/-- Nothing is trimmed from a text without blanks at its ends. -/
theorem Tight.trimmed {text : List Char} (h : Tight text) : Text.trimmed text = text := by
  obtain ⟨⟨c, start, blank⟩, c', finish, blank'⟩ := h
  rw [← List.head?_reverse] at finish
  rw [Text.trimmed, dropWhile_isBlank start blank, dropWhile_isBlank finish blank',
    List.reverse_reverse]

theorem Tight.not_isBlankLine {line : String} (h : Tight line.toList) :
    Text.isBlankLine line = false := by
  obtain ⟨⟨c, start, blank⟩, -⟩ := h
  refine List.all_eq_false.mpr ⟨c, List.mem_of_mem_head? start, ?_⟩
  simp [blank]

/-! ### Commands -/

/-- A part of a command as it is written. -/
inductive Item where
  | argument (word : Word)
  | redirect (directive : Redirect) (spelling : String)
  deriving DecidableEq, Repr

namespace Item

/-- The tokens that are written for a part. -/
def tokens : Item → List Token
  | argument word => [.word word.text]
  | redirect directive spelling => [.operator spelling, .word directive.target.text]

/-- Whether an operator that stands for the redirect is written. -/
def IsSpelled : Item → Prop
  | argument _ => True
  | redirect directive spelling => spelling ∈ directive.kind.spellings

def word? : Item → Option Word
  | argument word => some word
  | redirect _ _ => none

def redirect? : Item → Option Redirect
  | argument _ => none
  | redirect directive _ => some directive

theorem isProper_of_mem_tokens {item : Item} (h : item.IsSpelled) {token : Token}
    (mem : token ∈ item.tokens) : token.IsProper := by
  cases item with
  | argument word =>
      cases List.mem_singleton.mp mem
      exact word.nonempty
  | redirect directive spelling =>
      simp only [tokens, List.mem_cons, List.not_mem_nil, or_false] at mem
      rcases mem with rfl | rfl
      · refine RedirectKind.isSpelling_iff.mp ?_
        rw [RedirectKind.isSpelling, RedirectKind.ofSpelling?_of_mem h]
        rfl
      · exact directive.target.nonempty

end Item

namespace Command

/-- Arguments and redirects are told apart, and each stay in their order. -/
theorem gather_items (items : List Item) (h : ∀ item ∈ items, item.IsSpelled) (position : Nat) :
    gather position (items.flatMap Item.tokens)
      = .ok (items.filterMap Item.word?, items.filterMap Item.redirect?) := by
  induction items generalizing position with
  | nil => rfl
  | cons item rest ih =>
      have ih := ih fun other mem => h other (List.mem_cons_of_mem _ mem)
      cases item with
      | argument word =>
          simp [Item.tokens, gather, ih, List.filterMap_cons, Item.word?, Item.redirect?]
      | redirect directive spelling =>
          have kind : RedirectKind.ofSpelling? spelling = some directive.kind :=
            RedirectKind.ofSpelling?_of_mem (h _ (List.mem_cons_self ..))
          simp [Item.tokens, gather, ih, kind, List.filterMap_cons, Item.word?, Item.redirect?]

/-- **Reading a line** that is a command written down gives back the command. -/
theorem ofLine_of_writing {items : List Item} {line : String} (command : Command)
    (spelled : ∀ item ∈ items, item.IsSpelled)
    (writing : Writing none (items.flatMap Item.tokens) line.toList) (tight : Tight line.toList)
    (words : items.filterMap Item.word? = command.words)
    (redirects : items.filterMap Item.redirect? = command.redirects) :
    ofLine line = .ok command := by
  have whole : Text.trim line = line := by
    rw [Text.trim, tight.trimmed, String.ofList_toList]
  have read : tokenize line = items.flatMap Item.tokens := by
    calc tokenize line = ((Scan.behind #[] none).run line.toList).close := rfl
      _ = items.flatMap Item.tokens := by
        simpa using Scan.close_run_of_writing writing (by simp) #[]
  rw [ofLine, whole, read, ofTokens, gather_items items spelled 0]
  simp only [words, redirects, ofWords?_words]

/-- **Reading a quoted line** gives back the command that was written. -/
theorem ofLine_of_spaced {items : List Item} {line : String} (command : Command)
    (spelled : ∀ item ∈ items, item.IsSpelled)
    (spaced : Spaced (items.flatMap Item.tokens) line.toList)
    (words : items.filterMap Item.word? = command.words)
    (redirects : items.filterMap Item.redirect? = command.redirects) :
    ofLine line = .ok command := by
  have proper : ∀ token ∈ items.flatMap Item.tokens, token.IsProper := by
    intro token mem
    obtain ⟨item, hi, ht⟩ := List.mem_flatMap.mp mem
    exact Item.isProper_of_mem_tokens (spelled item hi) ht
  exact ofLine_of_writing command spelled (writing_of_spaced spaced proper none 0 fun _ => rfl)
    (tight_of_spaced spaced proper) words redirects

end Command

end Shell
